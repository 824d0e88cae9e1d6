import ProjEsp32.ArduinoText

/-!
# Saving the MQTT settings

The form that saves the MQTT settings writes one key of the preferences after the
other. Its last test, for a password on the first save, comes after four of the five
writes; and a text is stored up to its first zero byte only. The settings in memory
are those that were loaded at the last boot.
-/

namespace ProjEsp32.MqttSettings

open ArduinoText

/-- `ProjectConfig`. -/
structure ProjectConfig where
  /-- The host of the broker. -/
  MQTT_HOST : String := "kpnote.local"
  /-- Its port. -/
  MQTT_PORT : UInt16 := 1883

/-- The keys of the preferences; none for an absent one. -/
structure Preferences where
  /-- The host that was saved. -/
  mqtt_host : Option String := none
  /-- The port. -/
  mqtt_port : Option UInt16 := none
  /-- The user name. -/
  mqtt_user : Option String := none
  /-- The password. -/
  mqtt_pass : Option String := none
  /-- Whether TLS is used. -/
  mqtt_tls : Option Bool := none
  deriving DecidableEq

/-- The settings in memory. -/
structure MqttConfig where
  /-- The host of the broker. -/
  mqttHost : String
  /-- Its port. -/
  mqttPort : UInt16
  /-- The user name. -/
  mqttUsername : String := ""
  /-- The password. -/
  mqttPassword : String := ""
  /-- TLS is used. -/
  mqttTls : Bool := false
  deriving DecidableEq

/-- `loadMqttConfig`. -/
def loadMqttConfig (project : ProjectConfig) (preferencesReady : Bool)
    (preferences : Preferences) : MqttConfig :=
  if !preferencesReady then { mqttHost := project.MQTT_HOST, mqttPort := project.MQTT_PORT }
  else
    { mqttHost := preferences.mqtt_host.getD project.MQTT_HOST
      mqttPort := preferences.mqtt_port.getD project.MQTT_PORT
      mqttUsername := preferences.mqtt_user.getD ""
      mqttPassword := preferences.mqtt_pass.getD ""
      mqttTls := preferences.mqtt_tls.getD false }

/-- `mqttConfigured`. -/
def mqttConfigured (config : MqttConfig) : Bool :=
  0 < config.mqttHost.length && 0 < config.mqttPort && 0 < config.mqttUsername.length &&
    0 < config.mqttPassword.length

/-- The parameters of the form; none for an absent one. -/
structure Form where
  /-- The field of the host. -/
  host : Option String := none
  /-- The field of the port. -/
  port : Option String := none
  /-- The field of the user name. -/
  username : Option String := none
  /-- The field of the new password. -/
  password : Option String := none
  /-- The box for TLS, which is sent when it is ticked. -/
  tls : Option String := none

/-- The reply, and whether a restart was requested. -/
structure Reply where
  /-- The status of the reply. -/
  code : ℕ
  /-- Its body. -/
  text : String
  /-- The device restarts after it. -/
  restartRequested : Bool := false
  deriving DecidableEq

/-- The port as it is parsed. -/
def parsedPort (port : String) : ℕ := toUInt32 (toInt port)

/-- The password of the form, empty when there is none. -/
def Form.newPassword (form : Form) : String := form.password.getD ""

/-- The fields are refused. -/
def invalidFields (newHost newUser port : String) : Bool :=
  newHost.length == 0 || newUser.length == 0 || parsedPort port == 0 || 65535 < parsedPort port

/-- The four keys that are written before the password is looked at. `putString`
stores a C string. -/
def Preferences.putFields (newHost newUser port : String) (newTls : Bool)
    (preferences : Preferences) : Preferences :=
  { preferences with
    mqtt_host := some (cString newHost)
    mqtt_port := some (UInt16.ofNat (parsedPort port))
    mqtt_user := some (cString newUser)
    mqtt_tls := some newTls }

/-- The handler of `POST /config/mqtt`; its writes succeed. -/
def postConfigMqtt (preferencesReady : Bool) (config : MqttConfig) (form : Form)
    (preferences : Preferences) : Preferences × Reply :=
  match preferencesReady, form.host, form.port, form.username with
  | true, some host, some port, some username =>
    let newHost := trim host
    let newUser := trim username
    if invalidFields newHost newUser port then (preferences, ⟨400, "invalid MQTT settings", false⟩)
    else
      let preferences := preferences.putFields newHost newUser port form.tls.isSome
      if form.newPassword.length != 0 then
        ({ preferences with mqtt_pass := some (cString form.newPassword) },
          ⟨200, "MQTT settings saved. Rebooting...\n", true⟩)
      else if config.mqttPassword.length == 0 then
        (preferences, ⟨400, "password required on first save", false⟩)
      else (preferences, ⟨200, "MQTT settings saved. Rebooting...\n", true⟩)
  | _, _, _, _ => (preferences, ⟨400, "missing required fields", false⟩)

/-! ### All or nothing -/

/-- After a reply of 400 the preferences are as they were; after one of 200 a boot
loads exactly what the form said. -/
structure AllOrNothing (project : ProjectConfig) (preferencesReady : Bool) (form : Form)
    (before after : Preferences) (reply : Reply) : Prop where
  /-- A form that is refused changes nothing. -/
  nothing : reply.code = 400 → after = before
  /-- A form that is accepted is what the next boot loads. -/
  all : reply.code = 200 → ∃ host port username,
    form.host = some host ∧ form.port = some port ∧ form.username = some username ∧
    1 ≤ toInt port ∧ toInt port ≤ 65535 ∧
    (loadMqttConfig project true after).mqttHost = trim host ∧
    ((loadMqttConfig project true after).mqttPort.toNat : Int) = toInt port ∧
    (loadMqttConfig project true after).mqttUsername = trim username ∧
    (loadMqttConfig project true after).mqttPassword =
      (if form.newPassword.length ≠ 0 then form.newPassword
        else (loadMqttConfig project preferencesReady before).mqttPassword) ∧
    (loadMqttConfig project true after).mqttTls = form.tls.isSome ∧
    mqttConfigured (loadMqttConfig project true after) = true

/-- What a form that passes the tests of its fields has to satisfy: with a password, in
it or stored, its texts have no zero byte; without one it writes what is stored. -/
def Saves (preferencesReady : Bool) (form : Form) (preferences : Preferences) : Prop :=
  ∀ host port username, preferencesReady = true → form.host = some host →
    form.port = some port → form.username = some username →
    invalidFields (trim host) (trim username) port = false →
    if form.newPassword.length = 0 ∧ (preferences.mqtt_pass.getD "").length = 0 then
      preferences.putFields (trim host) (trim username) port form.tls.isSome = preferences
    else
      cString (trim host) = trim host ∧ cString (trim username) = trim username ∧
        cString form.newPassword = form.newPassword

/-- A port that is accepted is a positive number of 16 bits, as it is parsed. -/
theorem toInt_of_valid {newHost newUser port : String}
    (h : invalidFields newHost newUser port = false) :
    1 ≤ toInt port ∧ toInt port ≤ 65535 ∧
      ((UInt16.ofNat (parsedPort port)).toNat : Int) = toInt port := by
  simp only [invalidFields, Bool.or_eq_false_iff, beq_eq_false_iff_ne,
    decide_eq_false_iff_not] at h
  obtain ⟨⟨_, hzero⟩, hlarge⟩ := h
  have hlow : -2^31 ≤ toInt port := by
    unfold toInt
    exact Int.le_max_left _ _
  have hhigh : toInt port ≤ 2^31 - 1 := by
    unfold toInt
    exact Int.max_le.mpr ⟨by decide, Int.min_le_right _ _⟩
  have hparsed : (parsedPort port : Int) = toInt port % 2^32 := by
    rw [parsedPort, toUInt32, Int.toNat_of_nonneg (Int.emod_nonneg _ (by decide))]
  have hcast : (UInt16.ofNat (parsedPort port)).toNat = parsedPort port := by
    rw [UInt16.toNat_ofNat']
    exact Nat.mod_eq_of_lt (by omega)
  rw [hcast]
  omega

/-- The handler on a form that passes the tests of its fields. -/
theorem postConfigMqtt_valid {config : MqttConfig} {form : Form} {preferences : Preferences}
    {host port username : String} (hhost : form.host = some host) (hport : form.port = some port)
    (husername : form.username = some username)
    (hvalid : invalidFields (trim host) (trim username) port = false) :
    postConfigMqtt true config form preferences =
      let written := preferences.putFields (trim host) (trim username) port form.tls.isSome
      if form.newPassword.length ≠ 0 then
        ({ written with mqtt_pass := some (cString form.newPassword) },
          ⟨200, "MQTT settings saved. Rebooting...\n", true⟩)
      else if config.mqttPassword.length = 0 then
        (written, ⟨400, "password required on first save", false⟩)
      else (written, ⟨200, "MQTT settings saved. Rebooting...\n", true⟩) := by
  unfold postConfigMqtt
  rw [hhost, hport, husername]
  simp only [hvalid, Bool.false_eq_true, if_false, bne_iff_ne, beq_iff_eq]

/-- Any other form is refused and writes nothing. -/
theorem postConfigMqtt_invalid {preferencesReady : Bool} {config : MqttConfig} {form : Form}
    {preferences : Preferences} (h : ∀ host port username, preferencesReady = true →
      form.host = some host → form.port = some port → form.username = some username →
      invalidFields (trim host) (trim username) port = true) :
    ∃ text, postConfigMqtt preferencesReady config form preferences =
      (preferences, ⟨400, text, false⟩) := by
  unfold postConfigMqtt
  split
  · rename_i host port username hhost hport husername
    rw [if_pos (h host port username rfl hhost hport husername)]
    exact ⟨_, rfl⟩
  · exact ⟨_, rfl⟩

/-- The texts of valid fields are not empty. -/
theorem lengths_of_valid {newHost newUser port : String}
    (h : invalidFields newHost newUser port = false) :
    0 < newHost.length ∧ 0 < newUser.length := by
  simp only [invalidFields, Bool.or_eq_false_iff, beq_eq_false_iff_ne] at h
  exact ⟨Nat.pos_of_ne_zero h.1.1.1, Nat.pos_of_ne_zero h.1.1.2⟩

/-- What is asked of a form that passes the tests of its fields. -/
theorem saves_iff {form : Form} {preferences : Preferences} {host port username : String}
    (hhost : form.host = some host) (hport : form.port = some port)
    (husername : form.username = some username)
    (hvalid : invalidFields (trim host) (trim username) port = false) :
    Saves true form preferences ↔
      if form.newPassword.length = 0 ∧ (preferences.mqtt_pass.getD "").length = 0 then
        preferences.putFields (trim host) (trim username) port form.tls.isSome = preferences
      else
        cString (trim host) = trim host ∧ cString (trim username) = trim username ∧
          cString form.newPassword = form.newPassword := by
  constructor
  · intro h
    exact h host port username rfl hhost hport husername hvalid
  · intro h other otherPort otherName _ hother hotherPort hotherName _
    cases hhost.symm.trans hother
    cases hport.symm.trans hotherPort
    cases husername.symm.trans hotherName
    exact h

/-- A reply of 400 is right exactly when nothing was written. -/
theorem refused_iff {project : ProjectConfig} {preferencesReady : Bool} {form : Form}
    {before after : Preferences} {reply : Reply} (hcode : reply.code = 400) :
    AllOrNothing project preferencesReady form before after reply ↔ after = before := by
  constructor
  · intro h
    exact h.nothing hcode
  · intro h
    refine ⟨fun _ => h, fun hok => ?_⟩
    rw [hcode] at hok
    cases hok

/-- A reply of 200 is right exactly when the texts were stored whole. -/
theorem saved_iff {project : ProjectConfig} {form : Form} {before written : Preferences}
    {host port username : String} (hhost : form.host = some host) (hport : form.port = some port)
    (husername : form.username = some username)
    (hvalid : invalidFields (trim host) (trim username) port = false)
    (hhostWritten : written.mqtt_host = some (cString (trim host)))
    (hportWritten : written.mqtt_port = some (UInt16.ofNat (parsedPort port)))
    (huserWritten : written.mqtt_user = some (cString (trim username)))
    (htlsWritten : written.mqtt_tls = some form.tls.isSome)
    (hpassWritten : written.mqtt_pass.getD "" = if form.newPassword.length ≠ 0 then
      cString form.newPassword else before.mqtt_pass.getD "")
    (hpassword : form.newPassword.length ≠ 0 ∨ (before.mqtt_pass.getD "").length ≠ 0)
    (text : String) :
    AllOrNothing project true form before written ⟨200, text, true⟩ ↔
      cString (trim host) = trim host ∧ cString (trim username) = trim username ∧
        cString form.newPassword = form.newPassword := by
  obtain ⟨hlow, hhigh, hcast⟩ := toInt_of_valid hvalid
  obtain ⟨hhostLength, huserLength⟩ := lengths_of_valid hvalid
  have hloaded : loadMqttConfig project true written =
      { mqttHost := cString (trim host), mqttPort := UInt16.ofNat (parsedPort port)
        mqttUsername := cString (trim username), mqttPassword := written.mqtt_pass.getD ""
        mqttTls := form.tls.isSome } := by
    simp [loadMqttConfig, hhostWritten, hportWritten, huserWritten, htlsWritten]
  have hold : (loadMqttConfig project true before).mqttPassword = before.mqtt_pass.getD "" := rfl
  constructor
  · intro h
    obtain ⟨other, otherPort, otherName, hother, _, hotherName, _, _, hhostLoaded, _, huserLoaded,
      hpassLoaded, _⟩ := h.all rfl
    cases hhost.symm.trans hother
    cases husername.symm.trans hotherName
    rw [hloaded] at hhostLoaded huserLoaded hpassLoaded
    refine ⟨hhostLoaded, huserLoaded, ?_⟩
    by_cases hnew : form.newPassword.length ≠ 0
    · rw [if_pos hnew] at hpassWritten hpassLoaded
      exact hpassWritten.symm.trans hpassLoaded
    · have hempty : form.newPassword = "" := by simpa using hnew
      rw [hempty]
      rfl
  · rintro ⟨hhostWhole, huserWhole, hpassWhole⟩
    rw [hhostWhole, huserWhole] at hloaded
    rw [hpassWhole] at hpassWritten
    refine ⟨fun h => absurd h (show ¬200 = 400 by decide),
      fun _ => ⟨host, port, username, hhost, hport, husername, hlow, hhigh, ?_⟩⟩
    rw [hloaded, hold]
    refine ⟨rfl, hcast, rfl, hpassWritten, rfl, ?_⟩
    have hpassLength : 0 < (written.mqtt_pass.getD "").length := by
      rw [hpassWritten]
      by_cases hnew : form.newPassword.length ≠ 0
      · rw [if_pos hnew]
        exact Nat.pos_of_ne_zero hnew
      · rw [if_neg hnew]
        exact Nat.pos_of_ne_zero (hpassword.resolve_left hnew)
    have hportPositive : 0 < UInt16.ofNat (parsedPort port) := by
      rw [UInt16.lt_iff_toNat_lt, UInt16.toNat_zero]
      omega
    simp [mqttConfigured, hhostLength, huserLength, hpassLength, hportPositive]

/-- A form is saved all or nothing exactly when it either writes what is stored or
comes with texts that are stored whole and with a password, its own or an old one. -/
theorem postConfigMqtt_allOrNothing (project : ProjectConfig) (preferencesReady : Bool)
    (form : Form) (preferences : Preferences) :
    let config := loadMqttConfig project preferencesReady preferences
    let out := postConfigMqtt preferencesReady config form preferences
    AllOrNothing project preferencesReady form preferences out.1 out.2 ↔
      Saves preferencesReady form preferences := by
  intro config out
  by_cases hfields : ∀ host port username, preferencesReady = true → form.host = some host →
      form.port = some port → form.username = some username →
      invalidFields (trim host) (trim username) port = true
  · obtain ⟨text, hout⟩ : ∃ text, out = (preferences, ⟨400, text, false⟩) :=
      postConfigMqtt_invalid hfields
    rw [hout, refused_iff rfl]
    refine ⟨fun _ => ?_, fun _ => rfl⟩
    intro host port username hready hhost hport husername hvalid
    rw [hfields host port username hready hhost hport husername] at hvalid
    cases hvalid
  · push Not at hfields
    obtain ⟨host, port, username, rfl, hhost, hport, husername, hinvalid⟩ := hfields
    have hvalid : invalidFields (trim host) (trim username) port = false := by simpa using hinvalid
    have hconfig : config.mqttPassword = preferences.mqtt_pass.getD "" := rfl
    have hout : out = _ := postConfigMqtt_valid hhost hport husername hvalid
    dsimp only at hout
    rw [hconfig] at hout
    rw [saves_iff hhost hport husername hvalid]
    by_cases hnew : form.newPassword.length ≠ 0
    · rw [if_pos hnew] at hout
      rw [hout, if_neg fun h => hnew h.1]
      exact saved_iff hhost hport husername hvalid rfl rfl rfl rfl (by rw [if_pos hnew]; rfl)
        (.inl hnew) _
    · rw [if_neg hnew] at hout
      by_cases hold : (preferences.mqtt_pass.getD "").length = 0
      · rw [if_pos hold] at hout
        rw [hout, if_pos ⟨not_not.mp hnew, hold⟩]
        exact refused_iff rfl
      · rw [if_neg hold] at hout
        rw [hout, if_neg fun h => hold h.2]
        exact saved_iff hhost hport husername hvalid rfl rfl rfl rfl (by rw [if_neg hnew]; rfl)
          (.inr hold) _

/-- The first form of a new device, without a password: it is refused, and the host is
stored. -/
theorem postConfigMqtt_refusedLate :
    ¬ ∀ (project : ProjectConfig) (preferencesReady : Bool) (form : Form)
        (preferences : Preferences),
      let config := loadMqttConfig project preferencesReady preferences
      let out := postConfigMqtt preferencesReady config form preferences
      AllOrNothing project preferencesReady form preferences out.1 out.2 := by
  intro h
  have hout := (h {} true { host := some "broker", port := some "1883", username := some "esp" }
    {}).nothing (by decide)
  exact absurd hout (by decide)

end ProjEsp32.MqttSettings
