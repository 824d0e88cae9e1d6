import ProjEsp32.CheckedUrls
import ProjEsp32.ErrorTexts

/-!
# The status of the remote update as JSON

The status is put together from pieces of text, with the URL of the last check
between quotes as it was sent. The locked sections of the service are followed
with a record of the URL that was let in, together with what the workers meet;
in every state that they reach, the status is the object that it is meant to be
exactly when it was read under the lock and the URL needs no escape.
-/

namespace ProjEsp32.RemoteStatus

open ArduinoText CheckedResult ErrorTexts FirmwareUpdate JsonStrings JsonText RemoteTransfer
open RemoteWorkers
open FirmwareUpdateRuns (sampleDevice)
open TransitionRuns

variable {α : Type}

/-! ### The documents -/

/-- `stateName`. -/
def stateName : RemoteState → String
  | .idle => "IDLE"
  | .checking => "CHECKING"
  | .available => "AVAILABLE"
  | .downloading => "DOWNLOADING"
  | .failed => "FAILED"

/-- `RemoteFirmwareUpdate::statusJson`. -/
def statusJson (profile : BuildProfile) (locked : Bool) (r : Remote) : String :=
  let state := if locked then r.remoteState else .failed
  let error := if locked then r.lastError else "state_lock_timeout"
  let url := if locked then r.manifestUrl else ""
  "\x7b" ++ ("\"state\":\"" ++ stateName state ++ "\",") ++ ("\"error\":\"" ++ error ++ "\",") ++
    ("\"manifest_url\":\"" ++ url ++ "\",") ++
    ("\"http_allowed\":" ++ boolString profile.ALLOW_HTTP) ++ "\x7d"

/-- The response to the MQTT command `firmware.status`, from the statuses of
the three services. -/
def firmwareStatusResponse (update remoteUpdate updatePolicy : String) : String :=
  "\x7b\"event\":\"firmware_status\",\"update\":" ++ update ++ ",\"remote_update\":" ++
    remoteUpdate ++ ",\"update_policy\":" ++ updatePolicy ++ "\x7d"

/-- What the status of the application reports beside the remote update. -/
structure Application where
  /-- The name of the device. -/
  deviceId : String
  /-- Its name in the network. -/
  hostname : String
  /-- What the firmware says of itself. -/
  firmwareVersionJson : String
  /-- What the update service says. -/
  update : String
  /-- The update policy. -/
  updatePolicy : String
  /-- The scheduler of the checks. -/
  updateScheduler : String
  /-- The configuration store. -/
  configuration : String
  /-- The rule engine. -/
  ruleEngine : String
  /-- The rule runtime. -/
  ruleRuntime : String
  /-- The loader of the rule. -/
  persistedRules : String
  /-- The schedule service. -/
  localSchedule : String
  /-- The registry. -/
  components : String
  /-- The supervisor. -/
  supervisor : String
  /-- The events that wait. -/
  pending : ℕ
  /-- The events that were dropped. -/
  dropped : ℕ
  /-- The state of the application. -/
  appState : String
  /-- The radio is up. -/
  wifiConnected : Bool
  /-- The address of the device. -/
  localIP : String
  /-- The strength of the signal. -/
  rssi : Int
  /-- The Wi-Fi side. -/
  wifiRuntime : String
  /-- The client is connected. -/
  mqttConnected : Bool
  /-- There are settings for it. -/
  mqttConfigured : Bool
  /-- It uses TLS. -/
  mqttTls : Bool
  /-- The MQTT side. -/
  mqttRuntime : String
  /-- The time since the boot. -/
  millis : ℕ
  /-- The memory that is free. -/
  freeHeap : ℕ

/-- `statusJson` of the application, the document of /api/status and of the
MQTT telemetry. -/
def Application.statusJson (app : Application) (remoteUpdate : String) : String :=
  objectString [
    ("device", quotedString app.deviceId),
    ("hostname", quotedString app.hostname),
    ("firmware", app.firmwareVersionJson),
    ("update", app.update),
    ("remote_update", remoteUpdate),
    ("update_policy", app.updatePolicy),
    ("update_scheduler", app.updateScheduler),
    ("configuration", app.configuration),
    ("rule_engine", app.ruleEngine),
    ("rule_runtime", app.ruleRuntime),
    ("persisted_rules", app.persistedRules),
    ("local_schedule", app.localSchedule),
    ("components", app.components),
    ("supervisor", app.supervisor),
    ("event_bus",
      objectString [("pending", toString app.pending), ("dropped", toString app.dropped)]),
    ("state", quotedString app.appState),
    ("wifi", boolString app.wifiConnected),
    ("ip", quotedString app.localIP),
    ("rssi", toString (if app.wifiConnected then app.rssi else 0)),
    ("wifi_runtime", app.wifiRuntime),
    ("mqtt", boolString app.mqttConnected),
    ("mqtt_configured", boolString app.mqttConfigured),
    ("mqtt_tls", boolString app.mqttTls),
    ("mqtt_runtime", app.mqttRuntime),
    ("uptime_ms", toString app.millis),
    ("free_heap", toString app.freeHeap)]

/-- The other parts of the document are in order: names are legible, and what
the other services report can be parsed. -/
structure Application.InOrder (app : Application) : Prop where
  /-- The names need no escape. -/
  names : ∀ text ∈ [app.deviceId, app.hostname, app.appState, app.localIP], IsLegible text
  /-- Each service's own report is JSON. -/
  reports : ∀ text ∈ [app.firmwareVersionJson, app.update, app.updatePolicy, app.updateScheduler,
    app.configuration, app.ruleEngine, app.ruleRuntime, app.persistedRules, app.localSchedule,
    app.components, app.supervisor, app.wifiRuntime, app.mqttRuntime], IsJson text

/-- The documents around a status that can be parsed can be parsed. -/
theorem Application.InOrder.statusJson {app : Application} (h : app.InOrder) {remoteUpdate : String}
    (hremote : IsJson remoteUpdate) : IsJson (app.statusJson remoteUpdate) := by
  have hnames := h.names
  have hreports := h.reports
  simp only [List.forall_mem_cons] at hnames hreports
  obtain ⟨hdevice, hhostname, hstate, hip, -⟩ := hnames
  obtain ⟨hfirmware, hupdate, hpolicy, hscheduler, hconfiguration, hengine, hruntime, hpersisted,
    hschedule, hcomponents, hsupervisor, hwifi, hmqtt, -⟩ := hreports
  have hevents : IsJson (objectString
      [("pending", toString app.pending), ("dropped", toString app.dropped)]) := by
    refine isJson_objectString ?_
    simp only [List.forall_mem_cons]
    exact ⟨isMember (by decide) (isJson_nat _), isMember (by decide) (isJson_nat _), by simp⟩
  refine isJson_objectString ?_
  simp only [List.forall_mem_cons]
  exact ⟨isMember (by decide) (isJson_quotedString hdevice),
    isMember (by decide) (isJson_quotedString hhostname), isMember (by decide) hfirmware,
    isMember (by decide) hupdate, isMember (by decide) hremote, isMember (by decide) hpolicy,
    isMember (by decide) hscheduler, isMember (by decide) hconfiguration,
    isMember (by decide) hengine, isMember (by decide) hruntime, isMember (by decide) hpersisted,
    isMember (by decide) hschedule, isMember (by decide) hcomponents,
    isMember (by decide) hsupervisor, isMember (by decide) hevents,
    isMember (by decide) (isJson_quotedString hstate), isMember (by decide) (isJson_boolString _),
    isMember (by decide) (isJson_quotedString hip), isMember (by decide) (isJson_int _),
    isMember (by decide) hwifi, isMember (by decide) (isJson_boolString _),
    isMember (by decide) (isJson_boolString _), isMember (by decide) (isJson_boolString _),
    isMember (by decide) hmqtt, isMember (by decide) (isJson_nat _),
    isMember (by decide) (isJson_nat _), by simp⟩

/-- The reply is an object of three reports. -/
theorem firmwareStatusResponse_eq (update remoteUpdate updatePolicy : String) :
    firmwareStatusResponse update remoteUpdate updatePolicy =
      objectString [("event", quotedString "firmware_status"), ("update", update),
        ("remote_update", remoteUpdate), ("update_policy", updatePolicy)] := by
  have hpieces (event remote policy : String)
      (hevent : event = "\x7b" ++ "\"" ++ "event" ++ "\":" ++ "\"" ++ "firmware_status" ++ "\"" ++
        "," ++ "\"" ++ "update" ++ "\":")
      (hremote : remote = "," ++ "\"" ++ "remote_update" ++ "\":")
      (hpolicy : policy = "," ++ "\"" ++ "update_policy" ++ "\":") :
      event ++ update ++ remote ++ remoteUpdate ++ policy ++ updatePolicy ++ "\x7d" =
        objectString [("event", quotedString "firmware_status"), ("update", update),
          ("remote_update", remoteUpdate), ("update_policy", updatePolicy)] := by
    rw [hevent, hremote, hpolicy]
    simp only [objectString, joinMembers, quotedString, String.append_assoc, -String.reduceAppend]
  exact hpieces _ _ _ (by decide) (by decide) (by decide)

/-- The reply is JSON when its reports are. -/
theorem isJson_firmwareStatusResponse {update remoteUpdate updatePolicy : String}
    (hupdate : IsJson update) (hremote : IsJson remoteUpdate) (hpolicy : IsJson updatePolicy) :
    IsJson (firmwareStatusResponse update remoteUpdate updatePolicy) := by
  rw [firmwareStatusResponse_eq]
  refine isJson_objectString ?_
  simp only [List.forall_mem_cons]
  exact ⟨isMember (by decide) (isJson_quotedString (by decide)), isMember (by decide) hupdate,
    isMember (by decide) hremote, isMember (by decide) hpolicy, by simp⟩

/-- The status is an object of four members. -/
theorem statusJson_eq (profile : BuildProfile) (r : Remote) :
    statusJson profile true r =
      objectString [("state", quotedString (stateName r.remoteState)),
        ("error", quotedString r.lastError), ("manifest_url", quotedString r.manifestUrl),
        ("http_allowed", boolString profile.ALLOW_HTTP)] := by
  have hstate : "\"state\":\"" = "\"" ++ "state" ++ "\":" ++ "\"" := by decide
  have herror : "\"error\":\"" = "\"" ++ "error" ++ "\":" ++ "\"" := by decide
  have hurl : "\"manifest_url\":\"" = "\"" ++ "manifest_url" ++ "\":" ++ "\"" := by decide
  have hallowed : "\"http_allowed\":" = "\"" ++ "http_allowed" ++ "\":" := by decide
  have hbetween : "\"," = "\"" ++ "," := by decide
  rw [statusJson, hstate, herror, hurl, hallowed, hbetween]
  simp only [objectString, joinMembers, quotedString, String.append_assoc, -String.reduceAppend,
    if_true]

/-! ### What the status says -/

/-- The names of the members. -/
def statusNames : List (List Char) :=
  ["state".toList, "error".toList, "manifest_url".toList, "http_allowed".toList]

/-- The status is one object with exactly its four members, its URL is decoded
to this one, and the documents around it can be parsed. -/
structure WellReported (profile : BuildProfile) (locked : Bool) (r : Remote) (url : String) :
    Prop where
  /-- The status is one object, and its URL is read back. -/
  object : ∃ members decoded, Says (statusJson profile locked r) (.obj members) ∧
    members.map Prod.fst = statusNames ∧ ("manifest_url".toList, .str decoded) ∈ members ∧
    utf8 decoded = bytes url
  /-- The document of the application can be parsed. -/
  application : ∀ app : Application, app.InOrder →
    IsJson (app.statusJson (statusJson profile locked r))
  /-- And so can that of the firmware status. -/
  firmwareStatus : ∀ update updatePolicy, IsJson update → IsJson updatePolicy →
    IsJson (firmwareStatusResponse update (statusJson profile locked r) updatePolicy)

/-- The URL stands for itself between quotes: UTF-8 without quote, backslash and
control characters. -/
def IsQuotable (url : String) : Prop :=
  (∃ chars, utf8 chars = bytes url) ∧ ∀ byte ∈ bytes url, IsPlainByte byte

/-- The members as texts, with these characters between the quotes of the URL. -/
def statusTexts (profile : BuildProfile) (r : Remote) (url : List Char) :
    List (List Char × List Char) :=
  [("state".toList, quoted (stateName r.remoteState).toList),
    ("error".toList, quoted r.lastError.toList), ("manifest_url".toList, quoted url),
    ("http_allowed".toList, (boolString profile.ALLOW_HTTP).toList)]

variable {profile : BuildProfile} {r : Remote} {url : List Char}

/-- The name of a state is legible. -/
theorem isLegible_stateName (state : RemoteState) : IsLegible (stateName state) := by
  cases state <;> decide

/-- The bytes of these texts are those of the status. -/
theorem utf8_statusTexts (herror : IsLegible r.lastError) (hurl : utf8 url = bytes r.manifestUrl) :
    utf8 (objectText (statusTexts profile r url)) = bytes (statusJson profile true r) := by
  have hname {key : String} (hkey : IsLegible key) : utf8 key.toList = bytes key :=
    utf8_of_isLegible hkey
  rw [statusJson_eq]
  refine utf8_objectText (.cons ⟨hname (by decide), utf8_quoted ?_⟩
    (.cons ⟨hname (by decide), utf8_quoted ?_⟩ (.cons ⟨hname (by decide), utf8_quoted hurl⟩
      (.cons ⟨hname (by decide), ?_⟩ .nil))))
  · exact hname (isLegible_stateName r.remoteState)
  · exact hname herror
  · exact hname (isLegible_boolString _)

/-- With a plain URL the status says what it is meant to. -/
theorem says_statusJson (herror : IsLegible r.lastError) (hurl : utf8 url = bytes r.manifestUrl)
    (hplain : ∀ c ∈ url, IsPlain c) :
    Says (statusJson profile true r) (.obj
      [("state".toList, .str (stateName r.remoteState).toList),
        ("error".toList, .str r.lastError.toList), ("manifest_url".toList, .str url),
        ("http_allowed".toList, .bool profile.ALLOW_HTTP)]) := by
  refine ⟨_, utf8_statusTexts herror hurl, denotes_objectText ?_⟩
  have hkey {key : String} (h : IsLegible key) : SaysString key.toList key.toList := h.saysString
  exact .cons ⟨hkey (by decide), denotes_quoted (isLegible_stateName _).saysString⟩
    (.cons ⟨hkey (by decide), denotes_quoted herror.saysString⟩
      (.cons ⟨hkey (by decide), denotes_quoted (body_of_plain hplain)⟩
        (.cons ⟨hkey (by decide), denotes_boolString _⟩ .nil)))

/-- What is read as the URL is what stands behind its opening quote. -/
theorem body_of_statusJson {members : List (List Char × Value)} (herror : IsLegible r.lastError)
    (hurl : utf8 url = bytes r.manifestUrl)
    (hdocument : Says (statusJson profile true r) (.obj members)) :
    ∃ more behind said state error others, Body (url ++ '"' :: more) said behind ∧
      members = ("state".toList, state) :: ("error".toList, error) ::
        ("manifest_url".toList, .str said) :: others := by
  obtain ⟨chars, hchars, a, b, ha, hreads, _⟩ := hdocument
  obtain rfl : chars = objectText (statusTexts profile r url) :=
    utf8_injective (hchars.trans (utf8_statusTexts herror hurl).symm)
  obtain rfl := ha.eq_of_not_blank (by decide)
  simp only [statusTexts, membersText, memberText, quoted, List.cons_append, List.append_assoc,
    List.nil_append, -String.reduceToList] at hreads
  have hstateKey : ∀ c ∈ "state".toList, IsPlain c := List.forall_iff_forall_mem.mp (by decide)
  have herrorKey : ∀ c ∈ "error".toList, IsPlain c := List.forall_iff_forall_mem.mp (by decide)
  have hurlKey : ∀ c ∈ "manifest_url".toList, IsPlain c :=
    List.forall_iff_forall_mem.mp (by decide)
  obtain ⟨members', hmembers, hstate⟩ := hreads.of_brace
  obtain rfl : members = members' := by
    injection hmembers
  obtain ⟨errorOn, rfl, herrorOn⟩ := hstate.of_plain hstateKey (isLegible_stateName _).isPlain
  obtain ⟨urlOn, rfl, hurlOn⟩ := herrorOn.of_plain herrorKey herror.isPlain
  obtain ⟨said, behind, others, rfl, hbody, _⟩ := hurlOn.of_string hurlKey
  exact ⟨_, behind, said, _, _, others, hbody, rfl⟩

/-- The URL among members of these names is the third one's. -/
theorem eq_said {members others : List (List Char × Value)} {state error : Value}
    {decoded said : List Char}
    (hmembers : members = ("state".toList, state) :: ("error".toList, error) ::
      ("manifest_url".toList, .str said) :: others)
    (hnames : members.map Prod.fst = statusNames)
    (hmem : ("manifest_url".toList, Value.str decoded) ∈ members) : decoded = said := by
  have hothers : others.map Prod.fst = ["http_allowed".toList] := by
    rw [hmembers] at hnames
    have hfirst : ["state".toList, "error".toList, "manifest_url".toList] ++ others.map Prod.fst =
        ["state".toList, "error".toList, "manifest_url".toList] ++ ["http_allowed".toList] := hnames
    exact List.append_cancel_left hfirst
  have hstate : "manifest_url".toList ≠ "state".toList := by decide
  have herror : "manifest_url".toList ≠ "error".toList := by decide
  have hallowed : "manifest_url".toList ≠ "http_allowed".toList := by decide
  rw [hmembers] at hmem
  rcases List.mem_cons.mp hmem with heq | hmem
  · exact absurd (congrArg Prod.fst heq) hstate
  rcases List.mem_cons.mp hmem with heq | hmem
  · exact absurd (congrArg Prod.fst heq) herror
  rcases List.mem_cons.mp hmem with heq | hmem
  · injection heq with _ hvalue
    injection hvalue
  · have hname := List.mem_map_of_mem (f := Prod.fst) hmem
    rw [hothers, List.mem_singleton] at hname
    exact absurd hname hallowed

/-- A text that is decoded to a manifest URL does not end with a backslash. -/
theorem getLast_ne {text : String} (hfile : endsWith text "/manifest.json" = true)
    (hurl : utf8 url = bytes text) : url.getLast? ≠ some '\\' := by
  intro hlast
  obtain ⟨front, hfront⟩ := List.isSuffixOf_iff_suffix.mp hfile
  obtain ⟨start, rfl⟩ := List.getLast?_eq_some_iff.mp hlast
  have hbytes := congrArg List.getLast? hurl
  have hbackslash : utf8 ['\\'] = [0x5c] := by decide
  have hname : (("/manifest.json".toList).map fun c => c.toNat.toUInt8).getLast? = some 0x6e := by
    decide
  rw [utf8_append, hbackslash, List.getLast?_concat, bytes, ← hfront, List.map_append,
    List.getLast?_append, hname, Option.some_or] at hbytes
  exact absurd hbytes (by decide)

/-- With a legible error and a valid URL, the status is as it is meant to be
exactly under the lock and for a URL that can stand between quotes. -/
theorem wellReported_iff {text : String} (herror : IsLegible r.lastError)
    (htext : r.manifestUrl = text) (hvalid : validManifestUrl profile text = true)
    (locked : Bool) : WellReported profile locked r text ↔ locked = true ∧ IsQuotable text := by
  constructor
  · intro h
    obtain ⟨members, decoded, hdocument, hnames, hmem, hdecoded⟩ := h.object
    cases locked with
    | false =>
      have hstatus : statusJson profile false r = statusJson profile true
          { remoteState := .failed, lastError := "state_lock_timeout" } := rfl
      rw [hstatus] at hdocument
      have hempty : utf8 [] = bytes "" := rfl
      obtain ⟨more, behind, said, state, error, others, hbody, hmembers⟩ :=
        body_of_statusJson (by decide) hempty hdocument
      obtain ⟨rfl, -⟩ := Body.eq_of_plain (by simp) hbody
      rw [eq_said hmembers hnames hmem] at hdecoded
      have hnil : text.toList = [] := List.map_eq_nil_iff.mp hdecoded.symm
      have hfile := List.isSuffixOf_iff_suffix.mp (endsWith_of_validManifestUrl hvalid)
      rw [hnil, List.suffix_nil] at hfile
      exact absurd hfile (by decide)
    | true =>
      refine ⟨rfl, ⟨decoded, hdecoded⟩, ?_⟩
      obtain ⟨more, behind, said, state, error, others, hbody, hmembers⟩ :=
        body_of_statusJson herror (htext ▸ hdecoded) hdocument
      rw [← eq_said hmembers hnames hmem] at hbody
      have hlast := getLast_ne (endsWith_of_validManifestUrl hvalid) hdecoded
      have hplain := (body_self_iff more hlast).mp ⟨behind, hbody⟩
      rw [← hdecoded]
      exact (isPlain_text_iff decoded).mp hplain
  · rintro ⟨rfl, ⟨chars, hchars⟩, hplain⟩
    rw [← hchars] at hplain
    have hurl : utf8 chars = bytes r.manifestUrl := by rw [htext, hchars]
    have hchar := (isPlain_text_iff chars).mpr hplain
    have hjson : IsJson (statusJson profile true r) := ⟨_, says_statusJson herror hurl hchar⟩
    exact ⟨⟨_, chars, says_statusJson herror hurl hchar, rfl, by simp, hchars⟩,
      fun app happ => happ.statusJson hjson,
      fun _ _ hupdate hpolicy => isJson_firmwareStatusResponse hupdate hjson hpolicy⟩

/-- Of the URLs of the policy, those in UTF-8 can stand between quotes. -/
theorem isQuotable_of_policy {text : String} (h : UpdatePolicy.validManifestUrl text = true)
    (hbytes : ∀ c ∈ text.toList, c.toNat < 2^8) :
    IsQuotable text ↔ ∃ chars, utf8 chars = bytes text := by
  refine and_iff_left fun byte hbyte => ?_
  obtain ⟨c, hc, rfl⟩ := List.mem_map.mp hbyte
  have hnonempty : ¬text.length = 0 := by
    rw [← String.length_toList]
    exact (List.length_pos_of_mem hc).ne'
  unfold UpdatePolicy.validManifestUrl at h
  rw [if_neg hnonempty] at h
  split at h
  · cases h
  split at h
  · cases h
  have hchar := List.all_eq_true.mp h c hc
  simp only [Bool.and_eq_true, decide_eq_true_eq, bne_iff_ne] at hchar
  have hvalue : c.toNat.toUInt8.toNat = c.toNat := Nat.mod_eq_of_lt (hbytes c hc)
  obtain ⟨⟨⟨hblank, _⟩, hquote⟩, hbackslash⟩ := hchar
  rw [IsPlainByte, hvalue]
  refine ⟨hblank.le, ?_, ?_⟩
  · exact fun heq => hquote (Char.toNat_inj.mp heq)
  · exact fun heq => hbackslash (Char.toNat_inj.mp heq)

/-! ### The service and its last check -/

/-- The service with a record of the URL that the last check was let in with,
which no section reads. -/
structure Watched where
  /-- The clients, the workers and the service. -/
  system : System := {}
  /-- The URL of the last check that was let in. -/
  accepted : Option String := none

/-- One section of a client or a worker. What a worker meets between its first
and its last section are its inputs and the update service. -/
inductive Turn where
  | requestCheck (client : ℕ) (requestedUrl : String)
  | requestApply (client : ℕ)
  | startWorker (client : ℕ) (created : Bool)
  | setFailed (client : ℕ)
  | workerEntry (handle : ℕ)
  | checkEnds (handle : ℕ) (inputs : CheckInputs) (updater : Updater)
  | applyEnds (handle : ℕ) (inputs : ApplyInputs) (updater : Updater)

/-- The last section of an apply worker, as its body decides it. -/
def lastSection (handle : ℕ) : Progress Unit → Option Section
  | .waiting => none
  | .ended (.error error) => some (.workerFailed handle error)
  | .ended (.ok _) => some (.workerDone handle "")

/-- The section that a turn is; none when the worker is not that far. -/
def Turn.taken (fw : Firmware α) (s : System) : Turn → Option Section
  | .requestCheck client requestedUrl => some (.requestCheck client requestedUrl)
  | .requestApply client => some (.requestApply client)
  | .startWorker client created => some (.startWorker client created)
  | .setFailed client => some (.setFailed client)
  | .workerEntry handle => some (.workerEntry handle)
  | .checkEnds handle inputs updater =>
    match s.workers.find? (·.handle = handle) with
    | some ⟨_, .check, some source⟩ =>
      CheckedUrls.lastSection handle (checkWorkerBody fw inputs source updater).2
    | _ => none
  | .applyEnds handle inputs updater =>
    match s.workers.find? (·.handle = handle) with
    | some ⟨_, .apply, some source⟩ =>
      lastSection handle (applyWorkerBody fw inputs source updater).2
    | _ => none

/-- The URL that a section lets in. -/
def lets (profile : BuildProfile) (locked : Bool) (s : System) : Section → Option String
  | .requestCheck client requestedUrl =>
    if s.clients client = .idle ∧ validManifestUrl profile (trim requestedUrl) = true then
      match requestCheck locked (trim requestedUrl) s.remote with
      | (_, .ok _) => some (trim requestedUrl)
      | (_, .error _) => none
    else none
  | _ => none

/-- A section with its record. -/
def Watched.take (profile : BuildProfile) (locked : Bool) (w : Watched) (taken : Section) :
    Watched where
  system := takeSection profile locked w.system taken
  accepted := (lets profile locked w.system taken).or w.accepted

/-- One turn; the first part says whether its lock is acquired in time. -/
def follow (fw : Firmware α) (w : Watched) (turn : Bool × Turn) : Watched :=
  match turn.2.taken fw w.system with
  | some taken => w.take fw.profile turn.1 taken
  | none => w

/-- The URL is that of the last check, and every error text is legible. -/
structure Reportable (profile : BuildProfile) (w : Watched) : Prop where
  /-- The stored URL is that of the last check. -/
  url : w.system.remote.manifestUrl = w.accepted.getD ""
  /-- Which is a valid one. -/
  valid : ∀ url, w.accepted = some url → validManifestUrl profile url = true
  /-- The last error is legible. -/
  error : IsLegible w.system.remote.lastError
  /-- And so is the error that a client waits with. -/
  refused : ∀ client error, w.system.clients client = .refused error → IsLegible error

variable {w : Watched}

/-- A section that lets no check in keeps the URL. -/
theorem Reportable.of_url (h : Reportable profile w) {next : System}
    (hurl : next.remote.manifestUrl = w.system.remote.manifestUrl)
    (herror : IsLegible next.remote.lastError)
    (hrefused : ∀ client error, next.clients client = .refused error → IsLegible error) :
    Reportable profile { system := next, accepted := w.accepted } where
  url := hurl.trans h.url
  valid := h.valid
  error := herror
  refused := hrefused

/-- A client that moves on is refused only with the error that it has. -/
theorem refused_setClient {s : System} {client other : ℕ} {state : Client} {error : String}
    (h : (s.setClient client state).clients other = .refused error) :
    state = .refused error ∨ s.clients other = .refused error := by
  simp only [System.setClient] at h
  by_cases hsame : other = client
  · subst hsame
    rw [Function.update_self] at h
    exact .inl h
  · rw [Function.update_of_ne hsame] at h
    exact .inr h

/-- A refused worker is reported in a legible text. -/
theorem startWorker_legible (locked created : Bool) (task : ℕ) (r : Remote) :
    RefusesWith IsLegible (startWorker locked created task r).2 := by
  unfold startWorker
  split
  · exact refusesWith_error (by decide)
  split
  · exact refusesWith_error (by decide)
  split
  · exact refusesWith_error (by decide)
  · exact refusesWith_ok _

/-- A request for a check is refused without a change, or its URL is let in. -/
theorem Reportable.requestCheck (h : Reportable profile w) (locked : Bool) (client : ℕ)
    (requestedUrl : String) :
    Reportable profile (w.take profile locked (.requestCheck client requestedUrl)) := by
  unfold Watched.take
  simp only [takeSection, lets]
  split
  · rename_i hidle
    rcases requestCheck_cases locked (trim requestedUrl) w.system.remote with
      ⟨error, heq⟩ | ⟨_, heq⟩
    · rw [heq]
      exact h
    · rw [heq]
      have hempty : IsLegible "" := by decide
      refine ⟨rfl, fun url haccepted => ?_, hempty, fun other error hother => ?_⟩
      · cases haccepted
        exact hidle.2
      · exact h.refused other error ((refused_setClient hother).resolve_left (by simp))
  · exact h

/-- A start is refused with a legible error, or leaves a new worker. -/
theorem Reportable.startWorker (h : Reportable profile w) (locked : Bool) (client : ℕ)
    (created : Bool) :
    Reportable profile (w.take profile locked (.startWorker client created)) := by
  unfold Watched.take
  simp only [takeSection, lets, Option.none_or]
  split
  · have hlegible := startWorker_legible locked created w.system.nextTask w.system.remote
    rcases startWorker_outcome locked created w.system.nextTask w.system.remote with
      ⟨error, heq⟩ | heq
    · rw [heq] at hlegible ⊢
      refine h.of_url rfl h.error fun other text hother => ?_
      rcases refused_setClient hother with hnew | hold
      · cases hnew
        exact hlegible error rfl
      · exact h.refused other text hold
    · rw [heq]
      refine h.of_url rfl h.error fun other text hother => ?_
      exact h.refused other text ((refused_setClient hother).resolve_left (by simp))
  · exact h

/-- What the last section of a worker leaves. -/
theorem Reportable.of_worker (h : Reportable profile w) {handle : ℕ} {act : Worker → System}
    (hact : ∀ worker, (act worker).remote.manifestUrl = w.system.remote.manifestUrl ∧
      IsLegible (act worker).remote.lastError ∧ (act worker).clients = w.system.clients) :
    Reportable profile { system := w.system.withWorker handle act, accepted := w.accepted } := by
  unfold System.withWorker
  split
  · rename_i worker _
    obtain ⟨hurl, herror, hclients⟩ := hact worker
    refine h.of_url hurl herror fun client error hclient => ?_
    rw [hclients] at hclient
    exact h.refused client error hclient
  · exact h

/-- Every section keeps the status reportable, a worker's when its error is
legible. -/
theorem Reportable.take (h : Reportable profile w) (locked : Bool) {taken : Section}
    (hlegible : ∀ handle error, taken = .workerFailed handle error → IsLegible error) :
    Reportable profile (w.take profile locked taken) := by
  cases taken with
  | requestCheck client requestedUrl => exact h.requestCheck locked client requestedUrl
  | startWorker client created => exact h.startWorker locked client created
  | requestApply client =>
    unfold Watched.take
    simp only [takeSection, lets, Option.none_or]
    split
    · rcases requestApply_cases locked w.system.remote with ⟨error, heq⟩ | ⟨_, _, heq⟩
      · rw [heq]
        exact h
      · rw [heq]
        refine h.of_url rfl h.error fun other text hother => ?_
        exact h.refused other text ((refused_setClient hother).resolve_left (by simp))
    · exact h
  | setFailed client =>
    unfold Watched.take
    simp only [takeSection, lets, Option.none_or]
    split
    · rename_i error hrefused
      have hold (other : ℕ) (text : String)
          (hother : (w.system.setClient client .idle).clients other = .refused text) :
          IsLegible text :=
        h.refused other text ((refused_setClient hother).resolve_left (by simp))
      cases locked with
      | false => exact h.of_url rfl h.error hold
      | true => exact h.of_url rfl (h.refused client error hrefused) hold
    · exact h
  | workerEntry handle =>
    unfold Watched.take
    simp only [takeSection, lets, Option.none_or]
    refine h.of_worker fun worker => ?_
    split
    · cases locked <;> exact ⟨rfl, h.error, rfl⟩
    · cases locked <;> exact ⟨rfl, h.error, rfl⟩
    · exact ⟨rfl, h.error, rfl⟩
  | workerFailed handle error =>
    unfold Watched.take
    simp only [takeSection, lets, Option.none_or]
    refine h.of_worker fun worker => ?_
    split
    · cases locked with
      | false => exact ⟨rfl, h.error, rfl⟩
      | true => exact ⟨rfl, hlegible handle error rfl, rfl⟩
    · exact ⟨rfl, h.error, rfl⟩
  | workerDone handle localBase =>
    have hempty : IsLegible "" := by decide
    unfold Watched.take
    simp only [takeSection, lets, Option.none_or]
    refine h.of_worker fun worker => ?_
    split
    · cases locked with
      | false => exact ⟨rfl, h.error, rfl⟩
      | true => exact ⟨rfl, hempty, rfl⟩
    · cases locked <;> exact ⟨rfl, h.error, rfl⟩
    · exact ⟨rfl, h.error, rfl⟩

/-- The last section of a worker has an error that its body ended with. -/
theorem taken_legible {fw : Firmware α} {s : System} {turn : Turn} {handle : ℕ} {error : String}
    (h : turn.taken fw s = some (.workerFailed handle error)) : IsLegible error := by
  cases turn with
  | checkEnds _ inputs updater =>
    simp only [Turn.taken] at h
    split at h
    · rename_i source _
      have hbody := checkWorkerBody_legible fw inputs source updater
      generalize (checkWorkerBody fw inputs source updater).2 = progress at h hbody
      unfold CheckedUrls.lastSection at h
      split at h
      · cases h
      · cases h
        exact hbody _ rfl error rfl
      · cases h
    · cases h
  | applyEnds _ inputs updater =>
    simp only [Turn.taken] at h
    split at h
    · rename_i source _
      have hbody := applyWorkerBody_legible fw inputs source updater
      generalize (applyWorkerBody fw inputs source updater).2 = progress at h hbody
      unfold lastSection at h
      split at h
      · cases h
      · cases h
        exact hbody _ rfl error rfl
      · cases h
    · cases h
  | _ => cases h

/-- Every turn keeps the status reportable. -/
theorem Reportable.follow {fw : Firmware α} (h : Reportable fw.profile w) (turn : Bool × Turn) :
    Reportable fw.profile (follow fw w turn) := by
  unfold RemoteStatus.follow
  split
  · rename_i taken htaken
    refine h.take turn.1 fun handle error hfailed => ?_
    rw [hfailed] at htaken
    exact taken_legible htaken
  · exact h

/-- So does every run. -/
theorem Reportable.run {fw : Firmware α} (h : Reportable fw.profile w)
    (turns : List (Bool × Turn)) :
    Reportable fw.profile (TransitionRuns.run (RemoteStatus.follow fw) w turns) := by
  induction turns generalizing w with
  | nil => exact h
  | cons turn turns ih => exact ih (h.follow turn)

/-- The remote update is reportable from its start. -/
theorem reportable_begin (profile : BuildProfile) : Reportable profile {} where
  url := rfl
  valid := fun _ haccepted => by cases haccepted
  error := by decide
  refused := fun _ _ hrefused => by cases hrefused

/-- In every state that clients and workers reach after a check was let in, the
status is one object that decodes to its URL, and the documents around it can
be parsed, exactly when the status is read under the lock and the URL can stand
between quotes as it is. -/
theorem statusJson_wellReported (fw : Firmware α) (turns : List (Bool × Turn)) (locked : Bool)
    {url : String} (haccepted : (run (follow fw) {} turns).accepted = some url) :
    WellReported fw.profile locked (run (follow fw) {} turns).system.remote url ↔
      locked = true ∧ IsQuotable url := by
  have h := (reportable_begin fw.profile).run turns
  have hurl : (run (follow fw) {} turns).system.remote.manifestUrl = url := by
    rw [h.url, haccepted]
    rfl
  exact wellReported_iff h.error hurl (h.valid url haccepted) locked

/-- The URLs of the policy are reported as they are meant to be when they are in UTF-8. -/
theorem statusJson_policyUrl (fw : Firmware α) (turns : List (Bool × Turn)) (locked : Bool)
    {url : String} (haccepted : (run (follow fw) {} turns).accepted = some url)
    (hpolicy : UpdatePolicy.validManifestUrl url = true)
    (hbytes : ∀ c ∈ url.toList, c.toNat < 2^8) :
    WellReported fw.profile locked (run (follow fw) {} turns).system.remote url ↔
      locked = true ∧ ∃ chars, utf8 chars = bytes url := by
  have h := (reportable_begin fw.profile).run turns
  have hurl : (run (follow fw) {} turns).system.remote.manifestUrl = url := by
    rw [h.url, haccepted]
    rfl
  rw [wellReported_iff h.error hurl (h.valid url haccepted) locked,
    isQuotable_of_policy hpolicy hbytes]

/-- A check with a URL that needs no escape. -/
theorem statusJson_wellReported_sample :
    WellReported sampleDevice.profile true
      (run (follow sampleDevice) {}
        [(true, .requestCheck 0 "https://updates.example/esp32/manifest.json\n")]).system.remote
      "https://updates.example/esp32/manifest.json" :=
  (statusJson_wellReported sampleDevice _ true (by decide)).mpr
    ⟨rfl, ⟨"https://updates.example/esp32/manifest.json".toList, by decide⟩,
      List.forall_iff_forall_mem.mp (by decide)⟩

/-- A URL with a quote in it, which the remote update accepts. -/
def QUOTED_URL : String := "https://x/\"/manifest.json"

/-- Its status is not the object that it is meant to be. -/
theorem statusJson_quoted : ¬ ∀ turns url,
    (run (follow sampleDevice) {} turns).accepted = some url →
      WellReported sampleDevice.profile true (run (follow sampleDevice) {} turns).system.remote
        url := by
  intro h
  have hreported := h [(true, .requestCheck 0 QUOTED_URL)] QUOTED_URL (by decide)
  have hquotable := ((wellReported_iff (by decide) (by decide) (by decide) true).mp hreported).2
  exact absurd hquotable.2 (by decide)

end ProjEsp32.RemoteStatus
