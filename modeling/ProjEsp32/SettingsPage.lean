import ProjEsp32.HtmlText
import ProjEsp32.MqttSettings

/-!
# The page of the MQTT settings

The host and the user name stand in the page as values in single quotes. The escaping
covers the ampersand, the double quote and the two angle brackets; the single quote,
which is what ends these values, passes through it as it is.
-/

namespace ProjEsp32.SettingsPage

open ArduinoText HtmlText MqttSettings

/-- `htmlEscape`: four replacements, the ampersand first. -/
def htmlEscape (value : String) : String :=
  let value := replace value "&" "&amp;"
  let value := replace value "\"" "&quot;"
  let value := replace value "<" "&lt;"
  let value := replace value ">" "&gt;"
  value

/-- `mqttConfigPage`. -/
def mqttConfigPage (config : MqttConfig) : String :=
  let page := "<!doctype html><html><head><meta charset='utf-8'><meta name='viewport' " ++
    "content='width=device-width,initial-scale=1'><title>proj-esp32 MQTT</title></head><body>"
  let page := page ++ "<h1>proj-esp32 MQTT</h1>"
  let page := page ++ "<p>Credentials are stored only in ESP32 NVS.</p>"
  let page := page ++ "<form method='post' action='/config/mqtt'>"
  let page := page ++ ("<label>Host <input name='host' required value='" ++
    htmlEscape config.mqttHost ++ "'></label><br>")
  let page := page ++ ("<label>Port <input name='port' type='number' min='1' max='65535' " ++
    "required value='" ++ String.ofList (Nat.toDigits 10 config.mqttPort.toNat) ++
    "'></label><br>")
  let page := page ++ ("<label>Username <input name='username' required value='" ++
    htmlEscape config.mqttUsername ++ "'></label><br>")
  let page := page ++ "<label>Password <input name='password' type='password' placeholder='"
  let page := page ++ (if config.mqttPassword.length != 0 then
    "leave blank to keep saved password" else "required on first save")
  let page := page ++ "'></label><br>"
  let page := page ++ "<label><input name='tls' type='checkbox' value='1'"
  let page := if config.mqttTls then page ++ " checked" else page
  let page := page ++ "> TLS</label><br>"
  let page := page ++ "<button type='submit'>Save and reboot</button></form>"
  let page := page ++ "<p><a href='/'>Back</a> | <a href='/api/status'>Status</a></p>"
  let page := page ++ "</body></html>"
  page

/-- What stands in front of the value of the host. -/
def hostOpening : String := "<input name='host' required value='"

/-- What stands in front of the value of the user name. -/
def usernameOpening : String := "<input name='username' required value='"

/-- The value of an attribute of the page, by the place it stands at. -/
def pageValue (refs : References) (opening : String) (page : String) : Option String :=
  (textAfter opening.toList page.toList).map fun text => String.ofList (attributeValue refs text)

/-! ### Escaping -/

/-- The four replacements are the escaping of each character: none of the later ones
touches what an earlier one has written. -/
theorem toList_htmlEscape (value : String) : (htmlEscape value).toList = escape value.toList := by
  have hamp : ("&" : String).toList = ['&'] := by decide
  have hquot : ("\"" : String).toList = ['"'] := by decide
  have hlt : ("<" : String).toList = ['<'] := by decide
  have hgt : (">" : String).toList = ['>'] := by decide
  unfold htmlEscape
  rw [toList_replace hgt, toList_replace hlt, toList_replace hquot, toList_replace hamp,
    List.flatMap_assoc, List.flatMap_assoc, List.flatMap_assoc]
  refine List.flatMap_congr fun c _ => ?_
  unfold escapeChar
  split
  · decide
  · rw [List.flatMap_singleton]
    split
    · decide
    · rw [List.flatMap_singleton]
      split
      · decide
      · rw [List.flatMap_singleton]
        split
        · decide
        · rfl

/-! ### The two values of the page -/

/-- The page in front of the field of the host. -/
def pageHead : String :=
  "<!doctype html><html><head><meta charset='utf-8'><meta name='viewport' " ++
    ("content='width=device-width,initial-scale=1'><title>proj-esp32 MQTT</title></head><body>" ++
      ("<h1>proj-esp32 MQTT</h1>" ++ ("<p>Credentials are stored only in ESP32 NVS.</p>" ++
        ("<form method='post' action='/config/mqtt'>" ++ "<label>Host "))))

/-- The page between the value of the host and the field of the user name. -/
def pageBetween (config : MqttConfig) : String :=
  "></label><br>" ++ ("<label>Port <input name='port' type='number' min='1' max='65535' " ++
    ("required value='" ++ (String.ofList (Nat.toDigits 10 config.mqttPort.toNat) ++
      ("'></label><br>" ++ "<label>Username "))))

/-- The page behind the value of the user name. -/
def pageTail (config : MqttConfig) : String :=
  "></label><br>" ++ ("<label>Password <input name='password' type='password' placeholder='" ++
    ((if config.mqttPassword.length != 0 then "leave blank to keep saved password"
      else "required on first save") ++ ("'></label><br>" ++
        ("<label><input name='tls' type='checkbox' value='1'" ++
          ((if config.mqttTls then " checked" else "") ++ ("> TLS</label><br>" ++
            ("<button type='submit'>Save and reboot</button></form>" ++
              ("<p><a href='/'>Back</a> | <a href='/api/status'>Status</a></p>" ++
                "</body></html>"))))))))

/-- The page, cut at the places of the two values. -/
theorem mqttConfigPage_eq (config : MqttConfig) :
    mqttConfigPage config =
      pageHead ++ (hostOpening ++ (htmlEscape config.mqttHost ++ ("'" ++
        (pageBetween config ++ (usernameOpening ++ (htmlEscape config.mqttUsername ++ ("'" ++
          pageTail config))))))) := by
  have hhost : "<label>Host <input name='host' required value='" =
      "<label>Host " ++ hostOpening := by
    decide
  have huser : "<label>Username <input name='username' required value='" =
      "<label>Username " ++ usernameOpening := by
    decide
  have hclose : "'></label><br>" = "'" ++ "></label><br>" := by decide
  have hchecked (page : String) : (if config.mqttTls then page ++ " checked" else page) =
      page ++ (if config.mqttTls then " checked" else "") := by
    cases config.mqttTls
    · exact (String.append_empty).symm
    · rfl
  unfold mqttConfigPage pageHead pageBetween pageTail
  dsimp only
  rw [hchecked, hhost, huser, hclose]
  simp only [String.append_assoc, -String.reduceAppend]

/-- Neither field begins in front of the one of the host. -/
theorem passes_pageHead : passes hostOpening.toList pageHead.toList = true ∧
    passes usernameOpening.toList pageHead.toList = true := by
  unfold pageHead
  simp only [String.toList_append]
  refine ⟨passes_append ?_ (passes_append ?_ (passes_append ?_ (passes_append ?_
    (passes_append ?_ ?_)))), passes_append ?_ (passes_append ?_ (passes_append ?_
    (passes_append ?_ (passes_append ?_ ?_))))⟩
  all_goals exact passes_ofList (by decide)

/-- The field of the user name does not begin in the one of the host, whatever the host
is, nor between the two: an escaped text and a number have no less-than sign. -/
theorem passes_between (config : MqttConfig) :
    passes usernameOpening.toList hostOpening.toList = true ∧
    passes usernameOpening.toList (htmlEscape config.mqttHost).toList = true ∧
    passes usernameOpening.toList ("'" : String).toList = true ∧
    passes usernameOpening.toList (pageBetween config).toList = true := by
  have hopening : usernameOpening.toList = '<' :: "input name='username' required value='".toList :=
    String.toList_ofList.trans (congrArg (List.cons '<') String.toList_ofList.symm)
  have hdigits : '<' ∉ (String.ofList (Nat.toDigits 10 config.mqttPort.toNat)).toList := by
    rw [String.toList_ofList]
    intro hlt
    exact absurd (Nat.isDigit_of_mem_toDigits (by decide) (by decide) hlt) (by decide)
  refine ⟨passes_ofList (by decide), ?_, passes_ofList (by decide), ?_⟩
  · rw [hopening, toList_htmlEscape]
    exact passes_of_notMem (lt_notMem_escape _) _
  · unfold pageBetween
    simp only [String.toList_append]
    refine passes_append ?_ (passes_append ?_ (passes_append ?_ (passes_append ?_
      (passes_append ?_ ?_))))
    · exact passes_ofList (by decide)
    · exact passes_ofList (by decide)
    · exact passes_ofList (by decide)
    · rw [hopening]
      exact passes_of_notMem hdigits _
    · exact passes_ofList (by decide)
    · exact passes_ofList (by decide)

/-- The host as it is read: up to its first single quote. -/
theorem pageValue_host (refs : References) (config : MqttConfig) :
    pageValue refs hostOpening (mqttConfigPage config) =
      some (String.ofList (config.mqttHost.toList.takeWhile fun c => c != '\'')) := by
  have hquote : ("'" : String).toList = ['\''] := String.toList_ofList
  rw [pageValue, mqttConfigPage_eq, String.toList_append, textAfter_append passes_pageHead.1,
    String.toList_append, textAfter_opening, Option.map_some, String.toList_append,
    String.toList_append, hquote, toList_htmlEscape, List.singleton_append, attributeValue_escape]

/-- The user name as it is read: up to its first single quote. -/
theorem pageValue_username (refs : References) (config : MqttConfig) :
    pageValue refs usernameOpening (mqttConfigPage config) =
      some (String.ofList (config.mqttUsername.toList.takeWhile fun c => c != '\'')) := by
  have hquote : ("'" : String).toList = ['\''] := String.toList_ofList
  obtain ⟨hfield, hhost, hclose, hbetween⟩ := passes_between config
  have hplace : textAfter usernameOpening.toList (mqttConfigPage config).toList =
      some (escape config.mqttUsername.toList ++ '\'' :: (pageTail config).toList) := by
    rw [mqttConfigPage_eq, String.toList_append, textAfter_append passes_pageHead.2,
      String.toList_append, textAfter_append hfield, String.toList_append, textAfter_append hhost,
      String.toList_append, textAfter_append hclose, String.toList_append,
      textAfter_append hbetween, String.toList_append, textAfter_opening, String.toList_append,
      String.toList_append, toList_htmlEscape, hquote, List.singleton_append]
  rw [pageValue, hplace, Option.map_some, attributeValue_escape]

/-- The text stays within its quotes and comes back out of them. -/
def Contained (refs : References) (value : String) : Prop :=
  '\'' ∉ (htmlEscape value).toList ∧ decode refs (htmlEscape value).toList = value.toList

/-- What is read of a text in the page is the text itself exactly when it has no single
quote. -/
theorem read_eq_iff {value : String} :
    some (String.ofList (value.toList.takeWhile fun c => c != '\'')) = some value ↔
      '\'' ∉ value.toList := by
  rw [Option.some_inj, ← String.toList_inj, String.toList_ofList]
  exact takeWhile_eq_self_iff

/-- The host and the user name are each read back from the page exactly when there is no
single quote in them; and these are the texts whose escaped form neither ends the value
it stands in nor is decoded to something else. -/
theorem mqttConfigPage_readsBack_iff (refs : References) (config : MqttConfig) :
    (pageValue refs hostOpening (mqttConfigPage config) = some config.mqttHost ↔
      '\'' ∉ config.mqttHost.toList) ∧
    (pageValue refs usernameOpening (mqttConfigPage config) = some config.mqttUsername ↔
      '\'' ∉ config.mqttUsername.toList) ∧
    ∀ value, Contained refs value ↔ '\'' ∉ value.toList := by
  refine ⟨?_, ?_, fun value => ?_⟩
  · rw [pageValue_host]
    exact read_eq_iff
  · rw [pageValue_username]
    exact read_eq_iff
  · unfold Contained
    rw [toList_htmlEscape, quote_mem_escape]
    exact and_iff_left (decode_escape refs value.toList)

/-- A host with a single quote, as the form stores it and the next boot loads it: the page
shows what stands before the quote. -/
theorem mqttConfigPage_brokenOut :
    ¬ ∀ (refs : References) (project : ProjectConfig) (form : Form) (preferences : Preferences),
      let stored := (postConfigMqtt true (loadMqttConfig project true preferences) form
        preferences).1
      let config := loadMqttConfig project true stored
      pageValue refs hostOpening (mqttConfigPage config) = some config.mqttHost ∧
        pageValue refs usernameOpening (mqttConfigPage config) = some config.mqttUsername ∧
        Contained refs config.mqttHost ∧ Contained refs config.mqttUsername := by
  intro h
  have hhost := (h .basic {} { host := some "a'b", port := some "1883", username := some "esp"
                               password := some "pw" } {}).1
  rw [pageValue_host] at hhost
  exact absurd hhost (by decide)

end ProjEsp32.SettingsPage
