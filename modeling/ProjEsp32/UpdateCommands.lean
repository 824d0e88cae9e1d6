import ProjEsp32.JsonReports
import ProjEsp32.RemoteCalls
import ProjEsp32.UpdatePolicy

/-!
# Commands to the updater

The callback of the MQTT client and the HTTP routes of the remote update. Both ask for
checks and updates, and say what came of it, while workers and other clients take their
sections between theirs. Every command is replied to once, in order, and who is told that
a request was accepted has started a worker.
-/

namespace ProjEsp32.UpdateCommands

open ArduinoText CheckedResult FirmwareUpdate JsonReports JsonStrings RemoteCalls RemoteWorkers
open TransitionRuns UpdatePolicy
open RemoteStatus (Application firmwareStatusResponse)

/-! ### Messages -/

/-- A request to the remote update. -/
inductive Request where
  /-- `firmware.check`, with the URL of the policy. -/
  | check
  | checkUrl (manifestUrl : String)
  | update
  deriving DecidableEq

/-- A message that the callback knows. -/
inductive Command where
  /-- `ping` and `status`. -/
  | status
  | firmwareStatus
  | request (request : Request)
  | reboot
  deriving DecidableEq

/-- The payload as a string, without white space at its ends. -/
def payloadString (payload : List UInt8) : String :=
  trim (String.ofList (payload.map fun byte => Char.ofNat byte.toNat))

/-- `String::substring` from an index on. -/
def substring (text : String) (start : ℕ) : String := String.ofList (text.toList.drop start)

/-- What the callback takes a payload for. Texts are compared as C strings. -/
def parseCommand (payload : List UInt8) : Option Command :=
  let payloadString := payloadString payload
  let equals (text : String) : Bool := cString payloadString == text
  if equals "ping" || equals "status" then some .status
  else if equals "firmware.status" then some .firmwareStatus
  else if equals "firmware.check" then some (.request .check)
  else if startsWith payloadString "firmware.check " then
    some (.request (.checkUrl (trim (substring payloadString "firmware.check ".length))))
  else if equals "firmware.update" then some (.request .update)
  else if equals "reboot" then some .reboot
  else none

example : parseCommand (bytes "firmware.check  https://updates.local/manifest.json\r\n") =
    some (.request (.checkUrl "https://updates.local/manifest.json")) := by
  decide

/-! ### Replies -/

/-- The reply to a request: its event, whether it was accepted, more about its source,
and the error if it was not. -/
def requestReport (event : String) (source : List (String × Report)) (answer : Answer) : Report :=
  .object ([("event", .string event), ("accepted", .bool answer.accepted)] ++ source ++
    match answer with
    | .ok _ => []
    | .error error => [("error", .string error)])

/-- The replies of the callback to requests. -/
def Request.report : Request → Answer → Report
  | .check => requestReport "firmware_check_requested" [("source", .string "policy")]
  | .checkUrl _ => requestReport "firmware_check_requested" []
  | .update => requestReport "firmware_update_requested" []

example : (Request.check.report (.error "remote_update_busy")).text =
    "\x7b\"event\":\"firmware_check_requested\",\"accepted\":false,\"source\":\"policy\"," ++
      "\"error\":\"remote_update_busy\"\x7d" := by
  decide

example : (Request.update.report (.ok ())).text =
    "\x7b\"event\":\"firmware_update_requested\",\"accepted\":true\x7d" := by
  decide

/-- What the callback publishes. -/
inductive Reply where
  | status (document : String)
  | firmwareStatus (document : String)
  | requested (request : Request) (answer : Answer)
  | rebootRequested

namespace Reply

/-- The command that it replies to. -/
def command : Reply → Command
  | .status _ => .status
  | .firmwareStatus _ => .firmwareStatus
  | .requested request _ => .request request
  | .rebootRequested => .reboot

/-- The text that is published. -/
def payload : Reply → String
  | .status document => document
  | .firmwareStatus document => document
  | .requested request answer => (request.report answer).text
  | .rebootRequested => Report.text (.object [("event", .string "reboot_requested")])

/-- It says that a request was accepted. -/
def accepted : Reply → Bool
  | .requested _ answer => answer.accepted
  | _ => false

end Reply

/-- POST /api/update/check, with its field, and POST /api/update/apply. -/
inductive Post where
  | check (manifestUrl : Option String)
  | apply
  deriving DecidableEq

/-- The status code of a refusal. -/
def Post.errorCode (error : String) : Post → ℕ
  | .check _ =>
    if error = "remote_update_busy" then 409 else if error = "state_lock_timeout" then 503 else 400
  | .apply => if error = "state_lock_timeout" then 503 else 409

/-- The body of a refusal. -/
def errorReport (error : String) : Report := .object [("error", .string error)]

/-- The response to a request over HTTP. -/
structure Response where
  /-- The request that it answers. -/
  post : Post
  /-- Its status. -/
  code : ℕ
  /-- Its document. -/
  body : String

/-- It says that a request was accepted. -/
def Response.accepted (r : Response) : Bool := r.code == 202

/-- Where the HTTP server stands with a request. -/
inductive Serving where
  /-- Its call of the remote update is under way. -/
  | calling (post : Post)
  /-- It was accepted, and its status is about to be read. -/
  | reporting (post : Post)

/-- The request that is served. -/
def Serving.post : Serving → Post
  | .calling post => post
  | .reporting post => post

/-! ### The system -/

/-- The clients that are modelled here; all others ask on their own. -/
def MQTT : ℕ := 0

/-- The client of the remote update that stands for the HTTP handlers. -/
def HTTP : ℕ := 1

/-- The remote update with the callback and the server. -/
structure Device where
  /-- The remote update with its calls. -/
  ledger : Ledger := {}
  /-- The request of the callback whose call is under way. -/
  handling : Option Request := none
  /-- The callback restarts the device and does not return. -/
  restarting : Bool := false
  /-- What the server is doing. -/
  serving : Option Serving := none
  /-- What the callback has published so far. -/
  published : List Reply := []
  /-- What the server has answered so far. -/
  responses : List Response := []
  /-- The commands and the requests so far; nothing reads them. -/
  commands : List Command := []
  /-- The requests to the server so far. -/
  posts : List Post := []

/-- What the callback finds beside the remote update. -/
structure Context where
  /-- The state lock is acquired for the status, and for the first section. -/
  statusLocked : Bool := true
  /-- The lock is acquired for the call itself. -/
  locked : Bool := true
  /-- The other parts of the status. -/
  app : Application
  /-- What the update service says of itself. -/
  update : String
  /-- And the update policy. -/
  updatePolicy : String
  /-- The lock of the policy is acquired. -/
  policyLocked : Bool := true
  /-- The stored policy. -/
  policy : PolicyStore

namespace Device

variable (profile : BuildProfile) (locked : Bool) (d : Device)

/-- The document of the remote update. -/
def remoteStatus : String := RemoteStatus.statusJson profile locked d.ledger.system.remote

/-- `mqttClient.publish` on the topic of events. -/
def publish (reply : Reply) : Device := { d with published := d.published ++ [reply] }

/-- `request->send`. -/
def send (post : Post) (code : ℕ) (body : String) : Device :=
  { d with serving := none, responses := d.responses ++ [⟨post, code, body⟩] }

/-- A call of the callback that has returned. -/
def answerRequest (request : Request) (answer : Answer) : Device :=
  { d with handling := none }.publish (.requested request answer)

/-- A call of the server that has returned. -/
def answerPost (post : Post) : Answer → Device
  | .ok _ => { d with serving := some (.reporting post) }
  | .error error => d.send post (post.errorCode error) (errorReport error).text

/-- The first section of a call, which may return from it. -/
def callRequest (request : Request) (taken : Section) : Device :=
  let called := { d with ledger := d.ledger.take profile locked taken }
  match returns profile locked d.ledger.system taken with
  | some (_, answer) => called.answerRequest request answer
  | none => { called with handling := some request }

/-- A call of the remote update by a handler of HTTP goes on. -/
def callPost (post : Post) (taken : Section) : Device :=
  let called := { d with ledger := d.ledger.take profile locked taken }
  match returns profile locked d.ledger.system taken with
  | some (_, answer) => called.answerPost post answer
  | none => { called with serving := some (.calling post) }

/-- The branches of the callback. -/
def handle (c : Context) : Command → Device
  | .status => d.publish (.status (c.app.statusJson (d.remoteStatus profile c.statusLocked)))
  | .firmwareStatus =>
    d.publish (.firmwareStatus
      (firmwareStatusResponse c.update (d.remoteStatus profile c.statusLocked) c.updatePolicy))
  | .request .check =>
    match configuredManifestUrl c.policyLocked c.policy with
    | .error error => d.answerRequest .check (.error error)
    | .ok manifestUrl => d.callRequest profile c.locked .check (.requestCheck MQTT manifestUrl)
  | .request (.checkUrl manifestUrl) =>
    d.callRequest profile c.locked (.checkUrl manifestUrl) (.requestCheck MQTT manifestUrl)
  | .request .update => d.callRequest profile c.locked .update (.requestApply MQTT)
  | .reboot => { d.publish .rebootRequested with restarting := true }

/-- `mqttMessageReceived`. The callback handles one message at a time. -/
def mqttMessageReceived (c : Context) (payload : List UInt8) : Device :=
  if d.restarting || d.handling.isSome then d
  else
    match parseCommand payload with
    | none => d
    | some command => { d with commands := d.commands ++ [command] }.handle profile c command

/-- The handlers of the POST requests. The server handles one request at a time. -/
def post (request : Post) : Device :=
  if d.serving.isSome then d
  else
    let d := { d with posts := d.posts ++ [request] }
    match request with
    | .check none => d.send request 400 (errorReport "manifest_url_required").text
    | .check (some manifestUrl) =>
      d.callPost profile locked request (.requestCheck HTTP manifestUrl)
    | .apply => d.callPost profile locked request (.requestApply HTTP)

/-- The status behind an accepted request. -/
def report : Device :=
  match d.serving with
  | some (.reporting post) => d.send post 202 (d.remoteStatus profile locked)
  | _ => d

/-- The client of a first section. -/
def opens : Section → Option ℕ
  | .requestCheck client _ => some client
  | .requestApply client => some client
  | _ => none

/-- A call returns to its client. -/
def returned (client : ℕ) (answer : Answer) : Device :=
  if client = MQTT then
    match d.handling with
    | some request => d.answerRequest request answer
    | none => d
  else if client = HTTP then
    match d.serving with
    | some (.calling post) => d.answerPost post answer
    | _ => d
  else d

/-- Any other section of the service. The callback and the server take their first
sections only for a message or a request. -/
def takeSection (taken : Section) : Device :=
  if opens taken = some MQTT ∨ opens taken = some HTTP then d
  else
    let taking := { d with ledger := d.ledger.take profile locked taken }
    match returns profile locked d.ledger.system taken with
    | some (client, answer) => taking.returned client answer
    | none => taking

end Device

/-- What happens next. -/
inductive Label where
  | message (c : Context) (payload : List UInt8)
  | post (locked : Bool) (request : Post)
  | report (locked : Bool)
  | takeSection (locked : Bool) (taken : Section)

/-- One step. -/
def step (profile : BuildProfile) (d : Device) : Label → Device
  | .message c payload => d.mqttMessageReceived profile c payload
  | .post locked request => d.post profile locked request
  | .report locked => d.report profile locked
  | .takeSection locked taken => d.takeSection profile locked taken

/-! ### One section -/

section Sections

variable {profile : BuildProfile} {locked : Bool} {s : System} {taken : Section} {client : ℕ}

/-- A call begins with a first section of its client. -/
theorem opens_of_begins (h : begins s taken = some client) : Device.opens taken = some client := by
  cases taken with
  | requestCheck other _ =>
    simp only [begins] at h
    split at h
    · exact h
    · cases h
  | requestApply other =>
    simp only [begins] at h
    split at h
    · exact h
    · cases h
  | _ => cases h

/-- A section that opens a call of an idle client begins it. -/
theorem begins_of_opens (h : Device.opens taken = some client) (hidle : s.clients client = .idle) :
    begins s taken = some client := by
  cases taken with
  | requestCheck other _ =>
    cases h
    exact if_pos hidle
  | requestApply other =>
    cases h
    exact if_pos hidle
  | _ => cases h

/-- A first section returns to the client that takes it. -/
theorem returns_client {answer : Answer} (hopens : Device.opens taken = some client) {other : ℕ}
    (h : returns profile locked s taken = some (other, answer)) : other = client := by
  have haway (c : ℕ) (out : Remote × Answer) (hout : turnsAway c out = some (other, answer)) :
      other = c := by
    obtain ⟨remote, result⟩ := out
    cases result with
    | ok _ => cases hout
    | error error =>
      cases hout
      rfl
  cases taken with
  | requestCheck c _ =>
    cases hopens
    simp only [returns] at h
    split at h
    · split at h
      · exact haway client _ h
      · cases h
        rfl
    · cases h
  | requestApply c =>
    cases hopens
    simp only [returns] at h
    split at h
    · exact haway client _ h
    · cases h
  | _ => cases hopens

/-- Only an idle client has no call under way. -/
theorem underWay_eq_zero {state : Client} : underWay state = 0 ↔ state = .idle := by
  unfold underWay
  split <;> simp [*]

end Sections

/-! ### What is told -/

/-- The calls of a client that have returned `true`. -/
def acceptedBy (client : ℕ) (l : Ledger) : ℕ :=
  l.answers.countP fun a => a.1 = client && a.2.accepted

/-- The server waits for a call to return. -/
def calling : Option Serving → ℕ
  | some (.calling _) => 1
  | _ => 0

/-- The server is about to report that a call was accepted. -/
def reporting : Option Serving → ℕ
  | some (.reporting _) => 1
  | _ => 0

/-- The callback and the server agree with what their calls have returned. -/
structure Told (d : Device) : Prop where
  /-- The calls are accounted for. -/
  accounted : Accounted d.ledger
  /-- The callback's call is under way exactly while it handles a request. -/
  handling : underWay (d.ledger.system.clients MQTT) = d.handling.toList.length
  /-- And so is the server's. -/
  serving : underWay (d.ledger.system.clients HTTP) = calling d.serving
  /-- Each call of the callback that was accepted has been published as such. -/
  replies : acceptedBy MQTT d.ledger = d.published.countP Reply.accepted
  /-- Each call of the server has been answered so, or is about to be. -/
  responses : acceptedBy HTTP d.ledger =
    d.responses.countP Response.accepted + reporting d.serving
  /-- The errors that were published are legible. -/
  legible : ∀ reply ∈ d.published, ∀ request answer, reply = .requested request answer →
    RefusesWith IsLegible answer
  /-- What is not an acceptance is JSON. -/
  bodies : ∀ r ∈ d.responses, r.code ≠ 202 → IsJson r.body

/-- Every command has been replied to, but for the one that is handled. -/
def Replied (d : Device) : Prop :=
  d.commands = d.published.map Reply.command ++ (d.handling.map Command.request).toList

/-- Every request has been responded to, but for the one that is served. -/
def Responded (d : Device) : Prop :=
  d.posts = d.responses.map Response.post ++ (d.serving.map Serving.post).toList

section Telling

variable {profile : BuildProfile} {locked : Bool} {d : Device} {taken : Section} {client : ℕ}

/-- What one section does to the calls of a client. -/
theorem take_underWay (profile : BuildProfile) (locked : Bool) (l : Ledger) (taken : Section)
    (client : ℕ) :
    (begins l.system taken).toList.count client + underWay (l.system.clients client) =
      (returns profile locked l.system taken).toList.countP (·.1 = client) +
        underWay ((l.take profile locked taken).system.clients client) :=
  (effect profile locked l.system taken).balance client

/-- A section adds its accepted answer to those of its client. -/
theorem take_acceptedBy (l : Ledger) (client : ℕ) :
    acceptedBy client (l.take profile locked taken) = acceptedBy client l +
      (returns profile locked l.system taken).toList.countP
        fun a => a.1 = client && a.2.accepted :=
  List.countP_append

/-- What a section returns is legible. -/
theorem returns_legible (h : Accounted d.ledger) {answer : Answer}
    (hreturns : returns profile locked d.ledger.system taken = some (client, answer)) :
    RefusesWith IsLegible answer := by
  have hlegible := ((effect profile locked d.ledger.system taken).legible h.errors).2
  rw [hreturns] at hlegible
  exact hlegible (client, answer) (List.mem_singleton.mpr rfl)

/-- An error is not answered with 202. -/
theorem errorCode_ne (post : Post) (error : String) : post.errorCode error ≠ 202 := by
  cases post with
  | check manifestUrl =>
    simp only [Post.errorCode]
    split_ifs <;> decide
  | apply =>
    simp only [Post.errorCode]
    split_ifs <;> decide

/-- A legible error is reported in JSON. -/
theorem isJson_errorReport {error : String} (h : IsLegible error) :
    IsJson (errorReport error).text :=
  Report.isJson_text ⟨by decide, h, trivial⟩

/-- A reply that is published, with the section that it follows. -/
theorem Told.publish (h : Told d) {ledger : Ledger} (hledger : Accounted ledger)
    {handling : Option Request} (reply : Reply)
    (hhandling : underWay (ledger.system.clients MQTT) = handling.toList.length)
    (hserving : underWay (ledger.system.clients HTTP) = calling d.serving)
    (hreplies : acceptedBy MQTT ledger = acceptedBy MQTT d.ledger + [reply].countP Reply.accepted)
    (hresponses : acceptedBy HTTP ledger = acceptedBy HTTP d.ledger)
    (hlegible : ∀ request answer, reply = .requested request answer →
      RefusesWith IsLegible answer) :
    Told { d with ledger, handling, published := d.published ++ [reply] } where
  accounted := hledger
  handling := hhandling
  serving := hserving
  replies := by
    have hbefore := h.replies
    dsimp only
    rw [List.countP_append]
    omega
  responses := hresponses.trans h.responses
  legible := by
    intro other hother request answer heq
    rcases List.mem_append.mp hother with hold | hnew
    · exact h.legible other hold request answer heq
    · rw [List.mem_singleton.mp hnew] at heq
      exact hlegible request answer heq
  bodies := h.bodies

/-- A response that is sent. -/
theorem Told.send (h : Told d) {ledger : Ledger} (hledger : Accounted ledger)
    (post : Post) (code : ℕ) (body : String)
    (hhandling : underWay (ledger.system.clients MQTT) = d.handling.toList.length)
    (hserving : underWay (ledger.system.clients HTTP) = 0)
    (hreplies : acceptedBy MQTT ledger = acceptedBy MQTT d.ledger)
    (hresponses : acceptedBy HTTP ledger + (if code = 202 then 0 else reporting d.serving) =
      acceptedBy HTTP d.ledger)
    (hreporting : code = 202 → reporting d.serving = 1)
    (hbody : code ≠ 202 → IsJson body) :
    Told ({ d with ledger }.send post code body) where
  accounted := hledger
  handling := hhandling
  serving := hserving
  replies := hreplies.trans h.replies
  responses := by
    have hbefore := h.responses
    have hnew : [(⟨post, code, body⟩ : Response)].countP Response.accepted =
        if code = 202 then 1 else 0 := by
      simp [Response.accepted, List.countP_cons]
    simp only [Device.send, List.countP_append, hnew, reporting]
    by_cases hcode : code = 202
    · have hone := hreporting hcode
      simp only [hcode, if_true] at hresponses ⊢
      omega
    · simp only [hcode, if_false] at hresponses ⊢
      omega
  legible := h.legible
  bodies := by
    intro r hr hcode
    rcases List.mem_append.mp hr with hold | hnew
    · exact h.bodies r hold hcode
    · rw [List.mem_singleton.mp hnew] at hcode ⊢
      exact hbody hcode

/-- A section from which nothing returns to the callback or to the server. -/
theorem Told.move (h : Told d)
    (hnone : ∀ answer, returns profile locked d.ledger.system taken ≠ some (MQTT, answer) ∧
      returns profile locked d.ledger.system taken ≠ some (HTTP, answer))
    {handling : Option Request} {serving : Option Serving}
    (hhandling : underWay ((d.ledger.take profile locked taken).system.clients MQTT) =
      handling.toList.length)
    (hserving : underWay ((d.ledger.take profile locked taken).system.clients HTTP) =
      calling serving)
    (hreporting : reporting serving = reporting d.serving) :
    Told { d with ledger := d.ledger.take profile locked taken, handling, serving } := by
  have hzero (client : ℕ) (hclient : client = MQTT ∨ client = HTTP) :
      acceptedBy client (d.ledger.take profile locked taken) = acceptedBy client d.ledger := by
    rw [take_acceptedBy, Nat.add_eq_left, List.countP_eq_zero]
    intro answer hanswer hsame
    obtain ⟨hsame, -⟩ := Bool.and_eq_true_iff.mp hsame
    have hsome : returns profile locked d.ledger.system taken = some (client, answer.2) := by
      rw [← of_decide_eq_true hsame]
      exact Option.mem_toList.mp hanswer
    rcases hclient with rfl | rfl
    · exact (hnone answer.2).1 hsome
    · exact (hnone answer.2).2 hsome
  have hbefore := h.responses
  exact
    { accounted := h.accounted.take profile locked taken
      handling := hhandling
      serving := hserving
      replies := (hzero MQTT (.inl rfl)).trans h.replies
      responses := by
        have hsame := hzero HTTP (.inr rfl)
        dsimp only
        omega
      legible := h.legible
      bodies := h.bodies }

/-- The commands and the HTTP handlers are different clients. -/
theorem MQTT_ne_HTTP : MQTT ≠ HTTP := by decide

/-- What returns to one client does not return to another. -/
theorem returned_ne {a b : ℕ} (hne : a ≠ b) (first second : Answer) :
    some (a, first) ≠ some (b, second) :=
  fun heq => hne (congrArg Prod.fst (Option.some.inj heq))

/-- A section whose call returns to one client is not a first section of another. -/
theorem begins_ne {a b : ℕ} {began : Option ℕ} (hbegan : began = none ∨ began = some a)
    (hne : a ≠ b) : began ≠ some b := by
  rcases hbegan with hnone | hsome
  · rw [hnone]
    exact nofun
  · rw [hsome]
    exact fun heq => hne (Option.some.inj heq)

/-- The count of one answer. -/
theorem take_accepted_of_returns {l : Ledger} {answer : Answer}
    (hreturns : returns profile locked l.system taken = some (client, answer)) (other : ℕ) :
    acceptedBy other (l.take profile locked taken) = acceptedBy other l +
      if client = other ∧ answer.accepted = true then 1 else 0 := by
  rw [take_acceptedBy, hreturns]
  simp [List.countP_cons]

/-- A call of the callback returns. -/
theorem Told.answerRequest (h : Told d) (request : Request) {answer : Answer}
    (hreturns : returns profile locked d.ledger.system taken = some (MQTT, answer)) :
    Told ({ d with ledger := d.ledger.take profile locked taken }.answerRequest request
      answer) := by
  have heffect := effect profile locked d.ledger.system taken
  rw [hreturns] at heffect
  have hidle : underWay ((d.ledger.take profile locked taken).system.clients MQTT) = 0 :=
    underWay_eq_zero.mpr heffect.idle
  have hother := heffect.underWay_eq (begins_ne heffect.began_eq MQTT_ne_HTTP)
    (returned_ne MQTT_ne_HTTP answer)
  refine h.publish (h.accounted.take profile locked taken) (.requested request answer) hidle
    (hother.trans h.serving) ?_ ?_ ?_
  · rw [take_accepted_of_returns hreturns]
    cases answer <;> rfl
  · rw [take_accepted_of_returns hreturns, if_neg fun hsame => MQTT_ne_HTTP hsame.1,
      Nat.add_zero]
  · intro other result heq
    cases heq
    exact returns_legible h.accounted hreturns

/-- A call of the server returns. -/
theorem Told.answerPost (h : Told d) (post : Post) {answer : Answer}
    (hreporting : reporting d.serving = 0)
    (hreturns : returns profile locked d.ledger.system taken = some (HTTP, answer)) :
    Told ({ d with ledger := d.ledger.take profile locked taken }.answerPost post answer) := by
  have heffect := effect profile locked d.ledger.system taken
  rw [hreturns] at heffect
  have hidle : underWay ((d.ledger.take profile locked taken).system.clients HTTP) = 0 :=
    underWay_eq_zero.mpr heffect.idle
  have hother := heffect.underWay_eq (begins_ne heffect.began_eq MQTT_ne_HTTP.symm)
    (returned_ne MQTT_ne_HTTP.symm answer)
  have hreplies : acceptedBy MQTT (d.ledger.take profile locked taken) =
      acceptedBy MQTT d.ledger := by
    rw [take_accepted_of_returns hreturns, if_neg fun hsame => MQTT_ne_HTTP.symm hsame.1,
      Nat.add_zero]
  have hresponses := take_accepted_of_returns hreturns HTTP
  cases answer with
  | ok _ =>
    have hbefore := h.responses
    exact
      { accounted := h.accounted.take profile locked taken
        handling := hother.trans h.handling
        serving := hidle
        replies := hreplies.trans h.replies
        responses := by
          simp only [Answer.accepted, and_self, if_true] at hresponses
          simp only [Device.answerPost, reporting]
          omega
        legible := h.legible
        bodies := h.bodies }
  | error error =>
    simp only [Answer.accepted, Bool.false_eq_true, and_false, if_false, Nat.add_zero] at hresponses
    refine h.send (h.accounted.take profile locked taken) post _ _ (hother.trans h.handling)
      hidle hreplies ?_ (fun hcode => absurd hcode (errorCode_ne post error)) fun _ => ?_
    · rw [if_neg (errorCode_ne post error), hreporting, hresponses, Nat.add_zero]
    · exact isJson_errorReport (returns_legible h.accounted hreturns error rfl)

/-- A first section of one client, from which its call does not return. -/
theorem take_of_begins {l : Ledger} {other : ℕ} (hbegins : begins l.system taken = some client)
    (hnone : returns profile locked l.system taken = none) (hne : client ≠ other) :
    underWay ((l.take profile locked taken).system.clients client) =
        1 + underWay (l.system.clients client) ∧
      underWay ((l.take profile locked taken).system.clients other) =
        underWay (l.system.clients other) := by
  have hown := take_underWay profile locked l taken client
  have hother := take_underWay profile locked l taken other
  rw [hbegins, hnone] at hown hother
  simp only [Option.toList_some, Option.toList_none, List.countP_nil, Nat.zero_add,
    List.count_singleton, beq_iff_eq, hne, if_true, if_false] at hown hother
  exact ⟨hown.symm, hother.symm⟩

/-- The first section of a call of the callback. -/
theorem Told.callRequest (h : Told d) (hhandling : d.handling = none) (request : Request)
    (hopens : Device.opens taken = some MQTT) :
    Told (d.callRequest profile locked request taken) := by
  have hzero : underWay (d.ledger.system.clients MQTT) = 0 := by
    have hbefore := h.handling
    rw [hhandling] at hbefore
    exact hbefore
  have hbegins := begins_of_opens hopens (underWay_eq_zero.mp hzero)
  unfold Device.callRequest
  dsimp only
  cases hreturns : returns profile locked d.ledger.system taken with
  | some returned =>
    obtain ⟨client, answer⟩ := returned
    obtain rfl := returns_client hopens hreturns
    exact h.answerRequest request hreturns
  | none =>
    obtain ⟨hown, hother⟩ := take_of_begins hbegins hreturns MQTT_ne_HTTP
    rw [hzero] at hown
    have hnone (answer : Answer) :
        returns profile locked d.ledger.system taken ≠ some (MQTT, answer) ∧
          returns profile locked d.ledger.system taken ≠ some (HTTP, answer) := by
      rw [hreturns]
      exact ⟨nofun, nofun⟩
    exact h.move hnone hown (hother.trans h.serving) rfl

/-- The first section of a call of the server. -/
theorem Told.callPost (h : Told d) (hserving : d.serving = none) (post : Post)
    (hopens : Device.opens taken = some HTTP) :
    Told (d.callPost profile locked post taken) := by
  have hzero : underWay (d.ledger.system.clients HTTP) = 0 := by
    have hbefore := h.serving
    rw [hserving] at hbefore
    exact hbefore
  have hreporting : reporting d.serving = 0 := by rw [hserving]; rfl
  have hbegins := begins_of_opens hopens (underWay_eq_zero.mp hzero)
  unfold Device.callPost
  dsimp only
  cases hreturns : returns profile locked d.ledger.system taken with
  | some returned =>
    obtain ⟨client, answer⟩ := returned
    obtain rfl := returns_client hopens hreturns
    exact h.answerPost post hreporting hreturns
  | none =>
    obtain ⟨hown, hother⟩ := take_of_begins hbegins hreturns MQTT_ne_HTTP.symm
    rw [hzero] at hown
    have hnone (answer : Answer) :
        returns profile locked d.ledger.system taken ≠ some (MQTT, answer) ∧
          returns profile locked d.ledger.system taken ≠ some (HTTP, answer) := by
      rw [hreturns]
      exact ⟨nofun, nofun⟩
    exact h.move hnone (hother.trans h.handling) hown hreporting.symm

/-- A reply for which the remote update is not asked. -/
theorem Told.reply (h : Told d) (reply : Reply) (hrefused : reply.accepted = false)
    (hlegible : ∀ request answer, reply = .requested request answer →
      RefusesWith IsLegible answer) : Told (d.publish reply) := by
  refine h.publish h.accounted reply h.handling h.serving ?_ rfl hlegible
  rw [List.countP_singleton, if_neg (by simp [hrefused]), Nat.add_zero]

/-- A response without a call. -/
theorem Told.respond (h : Told d) (hserving : d.serving = none) (post : Post) {code : ℕ}
    (hcode : code ≠ 202) {body : String} (hbody : IsJson body) :
    Told (d.send post code body) := by
  have hzero : underWay (d.ledger.system.clients HTTP) = 0 := by
    have hbefore := h.serving
    rw [hserving] at hbefore
    exact hbefore
  refine h.send h.accounted post code body h.handling hzero rfl ?_
    (fun heq => absurd heq hcode) fun _ => hbody
  rw [if_neg hcode, hserving]
  rfl

/-- What the URL of the policy is refused with is legible. -/
theorem configuredManifestUrl_legible (policyLocked : Bool) (policy : PolicyStore) (error : String)
    (h : configuredManifestUrl policyLocked policy = .error error) : IsLegible error := by
  unfold configuredManifestUrl at h
  split at h
  · cases h
    decide
  split at h
  · cases h
    decide
  · cases h

/-- Every branch of the callback. -/
theorem Told.handle (h : Told d) (hhandling : d.handling = none) (c : Context)
    (command : Command) : Told (d.handle profile c command) := by
  cases command with
  | status => exact h.reply _ rfl nofun
  | firmwareStatus => exact h.reply _ rfl nofun
  | reboot =>
    have hreply : Told (d.publish .rebootRequested) := h.reply _ rfl nofun
    exact { hreply with }
  | request request =>
    cases request with
    | check =>
      simp only [Device.handle]
      cases hurl : configuredManifestUrl c.policyLocked c.policy with
      | error error =>
        have hlegible := configuredManifestUrl_legible _ _ _ hurl
        have hnone : ({ d with handling := none } : Device) = d := by rw [← hhandling]
        simp only [Device.answerRequest, hnone]
        refine h.reply _ rfl fun _ _ heq => ?_
        cases heq
        exact refusesWith_error hlegible
      | ok manifestUrl => exact h.callRequest hhandling .check rfl
    | checkUrl manifestUrl => exact h.callRequest hhandling (.checkUrl manifestUrl) rfl
    | update => exact h.callRequest hhandling .update rfl

/-- A section of anybody. -/
theorem Told.takeSection (h : Told d) (profile : BuildProfile) (locked : Bool)
    (taken : Section) : Told (d.takeSection profile locked taken) := by
  unfold Device.takeSection
  split
  · exact h
  rename_i hopens
  obtain ⟨hmqtt, hhttp⟩ := not_or.mp hopens
  have hbegins {client : ℕ} (hclient : Device.opens taken ≠ some client) :
      begins d.ledger.system taken ≠ some client := fun heq => hclient (opens_of_begins heq)
  have heffect := effect profile locked d.ledger.system taken
  have haside (hnone : ∀ answer,
      returns profile locked d.ledger.system taken ≠ some (MQTT, answer) ∧
        returns profile locked d.ledger.system taken ≠ some (HTTP, answer)) :
      Told { d with ledger := d.ledger.take profile locked taken } :=
    h.move hnone ((heffect.underWay_eq (hbegins hmqtt) fun a => (hnone a).1).trans h.handling)
      ((heffect.underWay_eq (hbegins hhttp) fun a => (hnone a).2).trans h.serving) rfl
  dsimp only
  cases hreturns : returns profile locked d.ledger.system taken with
  | none =>
    refine haside fun answer => ?_
    rw [hreturns]
    exact ⟨nofun, nofun⟩
  | some returned =>
    obtain ⟨client, answer⟩ := returned
    dsimp only
    have hbalance := take_underWay profile locked d.ledger taken client
    rw [hreturns] at hbalance
    simp only [Option.toList_some, List.countP_singleton, decide_true, if_true] at hbalance
    unfold Device.returned
    by_cases hclient : client = MQTT
    · obtain rfl := hclient
      rw [if_pos rfl]
      have hone : underWay (d.ledger.system.clients MQTT) ≠ 0 := by
        have hcount : (begins d.ledger.system taken).toList.count MQTT = 0 := by
          rw [List.count_eq_zero]
          exact fun hmem => hbegins hmqtt (Option.mem_toList.mp hmem)
        omega
      rw [h.handling] at hone
      cases hhandling : d.handling with
      | none => exact absurd (by rw [hhandling]; rfl) hone
      | some request => exact h.answerRequest request hreturns
    · rw [if_neg hclient]
      by_cases hserver : client = HTTP
      · obtain rfl := hserver
        rw [if_pos rfl]
        have hone : underWay (d.ledger.system.clients HTTP) ≠ 0 := by
          have hcount : (begins d.ledger.system taken).toList.count HTTP = 0 := by
            rw [List.count_eq_zero]
            exact fun hmem => hbegins hhttp (Option.mem_toList.mp hmem)
          omega
        rw [h.serving] at hone
        cases hserving : d.serving with
        | none => exact absurd (by rw [hserving]; rfl) hone
        | some serving =>
          cases serving with
          | reporting post => exact absurd (by rw [hserving]; rfl) hone
          | calling post => exact h.answerPost post (by rw [hserving]; rfl) hreturns
      · rw [if_neg hserver]
        refine haside fun other => ?_
        rw [hreturns]
        exact ⟨returned_ne hclient answer other, returned_ne hserver answer other⟩

/-! ### In order -/

/-- A reply answers the command that is handled. -/
theorem replied_publish {reply : Reply}
    (h : d.commands = d.published.map Reply.command ++ [reply.command]) :
    Replied ({ d with handling := none }.publish reply) := by
  simp [Replied, Device.publish, h]

/-- The call of a request replies to it once it returns. -/
theorem replied_callRequest (request : Request)
    (h : d.commands = d.published.map Reply.command ++ [.request request]) :
    Replied (d.callRequest profile locked request taken) := by
  unfold Device.callRequest
  dsimp only
  split
  · exact replied_publish h
  · exact h

/-- Each branch of the callback replies, or leaves a call under way. -/
theorem replied_handle (hhandling : d.handling = none) (c : Context) {command : Command}
    (h : d.commands = d.published.map Reply.command ++ [command]) :
    Replied (d.handle profile c command) := by
  have hnone : ({ d with handling := none } : Device) = d := by rw [← hhandling]
  have hpublish (reply : Reply) (hreply : reply.command = command) :
      Replied (d.publish reply) := by
    rw [← hnone]
    exact replied_publish (hreply ▸ h)
  cases command with
  | status => exact hpublish _ rfl
  | firmwareStatus => exact hpublish _ rfl
  | reboot => exact hpublish .rebootRequested rfl
  | request request =>
    cases request with
    | check =>
      simp only [Device.handle]
      split
      · exact replied_publish h
      · exact replied_callRequest .check h
    | checkUrl manifestUrl => exact replied_callRequest (.checkUrl manifestUrl) h
    | update => exact replied_callRequest .update h

/-- A response answers the request that is served. -/
theorem responded_send {post : Post} (code : ℕ) (body : String)
    (h : d.posts = d.responses.map Response.post ++ [post]) :
    Responded (d.send post code body) := by
  simp [Responded, Device.send, h]

/-- The answer to a request responds to it. -/
theorem responded_answerPost (post : Post) (answer : Answer)
    (h : d.posts = d.responses.map Response.post ++ [post]) :
    Responded (d.answerPost post answer) := by
  cases answer with
  | ok _ => exact h
  | error error => exact responded_send _ _ h

/-- The call of a handler responds once it returns. -/
theorem responded_callPost (post : Post)
    (h : d.posts = d.responses.map Response.post ++ [post]) :
    Responded (d.callPost profile locked post taken) := by
  unfold Device.callPost
  dsimp only
  split
  · exact responded_answerPost post _ h
  · exact h

/-- The callback leaves the requests of the server alone. -/
theorem responded_handle (h : Responded d) (c : Context) (command : Command) :
    Responded (d.handle profile c command) := by
  have hcall (request : Request) (first : Section) :
      Responded (d.callRequest profile c.locked request first) := by
    unfold Device.callRequest
    dsimp only
    split <;> exact h
  cases command with
  | status => exact h
  | firmwareStatus => exact h
  | reboot => exact h
  | request request =>
    cases request with
    | check =>
      simp only [Device.handle]
      split
      · exact h
      · exact hcall .check _
    | checkUrl manifestUrl => exact hcall (.checkUrl manifestUrl) _
    | update => exact hcall .update _

/-- What holds of the callback and the server after any steps. -/
structure Orderly (d : Device) : Prop extends Told d where
  /-- Every command has its replies. -/
  replied : Replied d
  /-- And every request its response. -/
  responded : Responded d

/-- A message keeps the device orderly. -/
theorem Orderly.message (h : Orderly d) (c : Context) (payload : List UInt8) :
    Orderly (d.mqttMessageReceived profile c payload) := by
  unfold Device.mqttMessageReceived
  split
  · exact h
  rename_i hfree
  have hhandling : d.handling = none := by
    rw [Bool.or_eq_true, not_or] at hfree
    exact Option.not_isSome_iff_eq_none.mp hfree.2
  cases hcommand : parseCommand payload with
  | none => exact h
  | some command =>
    have htold : Told { d with commands := d.commands ++ [command] } := { h.toTold with }
    have hbefore : d.commands = d.published.map Reply.command := by
      have hreplied := h.replied
      rw [Replied, hhandling] at hreplied
      exact hreplied.trans (List.append_nil _)
    dsimp only
    refine ⟨htold.handle hhandling c command, ?_, ?_⟩
    · refine replied_handle ?_ c ?_
      · exact hhandling
      · exact congrArg (· ++ [command]) hbefore
    · refine responded_handle ?_ c command
      exact h.responded

/-- A request over HTTP keeps the device orderly. -/
theorem Orderly.post (h : Orderly d) (locked : Bool) (request : Post) :
    Orderly (d.post profile locked request) := by
  unfold Device.post
  split
  · exact h
  rename_i hfree
  have hserving : d.serving = none := Option.not_isSome_iff_eq_none.mp hfree
  have htold : Told { d with posts := d.posts ++ [request] } := { h.toTold with }
  have hbefore : d.posts ++ [request] = d.responses.map Response.post ++ [request] := by
    have hresponded := h.responded
    rw [Responded, hserving] at hresponded
    rw [hresponded]
    exact congrArg (· ++ [request]) (List.append_nil _)
  have hcall (first : Section) (hopens : Device.opens first = some HTTP) :
      Orderly ({ d with posts := d.posts ++ [request] }.callPost profile locked request
        first) := by
    refine ⟨htold.callPost hserving request hopens, ?_, responded_callPost request hbefore⟩
    unfold Device.callPost
    dsimp only
    split
    · rename_i answer _
      cases answer <;> exact h.replied
    · exact h.replied
  cases request with
  | check manifestUrl =>
    cases manifestUrl with
    | none =>
      refine ⟨?_, h.replied, responded_send _ _ hbefore⟩
      exact htold.respond hserving _ (by decide) (isJson_errorReport (by decide))
    | some manifestUrl => exact hcall _ rfl
  | apply => exact hcall _ rfl

/-- A report keeps the device orderly. -/
theorem Orderly.report (h : Orderly d) (locked : Bool) : Orderly (d.report profile locked) := by
  unfold Device.report
  generalize d.remoteStatus profile locked = body
  cases hserving : d.serving with
  | none => exact h
  | some serving =>
    cases serving with
    | calling post => exact h
    | reporting post =>
      have hzero := h.serving
      have hone : reporting d.serving = 1 := by
        rw [hserving]
        rfl
      rw [hserving] at hzero
      have hbefore : d.posts = d.responses.map Response.post ++ [post] := by
        have hresponded := h.responded
        rw [Responded, hserving] at hresponded
        exact hresponded
      refine ⟨?_, h.replied, responded_send 202 body hbefore⟩
      exact h.send h.accounted post 202 body h.handling hzero rfl rfl (fun _ => hone)
        fun hcode => absurd rfl hcode

/-- A section of the remote update keeps the device orderly. -/
theorem Orderly.takeSection (h : Orderly d) (locked : Bool) (taken : Section) :
    Orderly (d.takeSection profile locked taken) := by
  refine ⟨h.toTold.takeSection profile locked taken, ?_, ?_⟩
  · unfold Device.takeSection
    split
    · exact h.replied
    dsimp only
    split
    · rename_i client answer _
      unfold Device.returned
      split
      · split
        · rename_i request hhandling
          have hbefore := h.replied
          rw [Replied, hhandling] at hbefore
          exact replied_publish hbefore
        · exact h.replied
      split
      · split
        · cases answer <;> exact h.replied
        · exact h.replied
      · exact h.replied
    · exact h.replied
  · unfold Device.takeSection
    split
    · exact h.responded
    dsimp only
    split
    · rename_i client answer _
      unfold Device.returned
      split
      · split <;> exact h.responded
      split
      · split
        · rename_i post hserving
          have hbefore := h.responded
          rw [Responded, hserving] at hbefore
          exact responded_answerPost post answer hbefore
        · exact h.responded
      · exact h.responded
    · exact h.responded

end Telling

/-- A POST that starts a worker, and a command that finds it at work: of the two that are
answered, one was accepted. -/
example (app : Application) (policy : PolicyStore) :
    let c : Context := { app, update := "{}", updatePolicy := "{}", policy }
    let d := run (step {}) {} [.post true (.check (some "https://updates.local/manifest.json")),
      .takeSection true (.startWorker HTTP true), .report true,
      .message c (bytes "firmware.update")]
    d.responses.map Response.code = [202] ∧ d.published.map Reply.accepted = [false] ∧
      d.ledger.system.nextTask = 1 := by
  intro c d
  exact ⟨rfl, rfl, rfl⟩

end ProjEsp32.UpdateCommands
