import ProjEsp32.ArduinoText
import ProjEsp32.JsonText

/-!
# Arduino strings that are JSON

An Arduino string is JSON when its bytes are the UTF-8 of a text of the
grammar. Objects are put together from the texts of their members, the way the
status functions do it.
-/

namespace ProjEsp32.JsonStrings

open ArduinoText JsonText

/-- A text of plain characters of ASCII. -/
def IsLegible (text : String) : Prop := ∀ c ∈ text.toList, c.toNat < 0x80 ∧ IsPlain c

instance isLegibleDecidable (text : String) : Decidable (IsLegible text) :=
  List.decidableBAll (fun c : Char => c.toNat < 0x80 ∧ IsPlain c) text.toList

/-- Legible texts are appended to a legible text. -/
theorem IsLegible.append {first second : String} (hfirst : IsLegible first)
    (hsecond : IsLegible second) : IsLegible (first ++ second) := by
  intro c hc
  rw [String.toList_append] at hc
  exact (List.mem_append.mp hc).elim (hfirst c) (hsecond c)

/-- Every character of a legible text is printed as it is. -/
theorem IsLegible.isPlain {text : String} (h : IsLegible text) : ∀ c ∈ text.toList, IsPlain c :=
  fun c hc => (h c hc).2

/-- A legible text between quotes says itself. -/
theorem IsLegible.saysString {text : String} (h : IsLegible text) :
    SaysString text.toList text.toList :=
  body_of_plain h.isPlain

/-- A natural number is printed legibly. -/
theorem isLegible_nat (n : ℕ) : IsLegible (toString n) := isPlain_nat n

/-- An integer is printed legibly. -/
theorem isLegible_int (n : Int) : IsLegible (toString n) := isPlain_int n

/-! ### Texts that are put together -/

/-- The members of an object, without the opening brace. -/
def joinMembers : List (String × String) → String
  | [] => "\x7d"
  | [m] => "\"" ++ m.1 ++ "\":" ++ m.2 ++ "\x7d"
  | m::next::others => "\"" ++ m.1 ++ "\":" ++ m.2 ++ "," ++ joinMembers (next::others)

/-- The text of an object, member by member. -/
def objectString (members : List (String × String)) : String := "\x7b" ++ joinMembers members

/-- A text between quotes. -/
def quotedString (text : String) : String := "\"" ++ text ++ "\""

/-- `String(value ? "true" : "false")`. -/
def boolString (value : Bool) : String := if value then "true" else "false"

/-- The bytes of the text are this value in UTF-8. -/
def Says (text : String) (value : Value) : Prop :=
  ∃ chars, utf8 chars = bytes text ∧ Denotes chars value

/-- The text can be parsed. -/
def IsJson (text : String) : Prop := ∃ value, Says text value

/-- The bytes of appended texts are those of the one before those of the other. -/
theorem bytes_append (first second : String) :
    bytes (first ++ second) = bytes first ++ bytes second := by
  simp only [bytes, String.toList_append, List.map_append]

/-- The bytes of a legible text are its characters in UTF-8. -/
theorem utf8_of_isLegible {text : String} (h : IsLegible text) :
    utf8 text.toList = bytes text :=
  utf8_of_ascii fun c hc => (h c hc).1

/-- The keys and the texts of the members are the same bytes. -/
def SameBytes (t : List Char × List Char) (m : String × String) : Prop :=
  utf8 t.1 = bytes m.1 ∧ utf8 t.2 = bytes m.2

/-- A member has the same bytes in both forms. -/
theorem utf8_memberText {t : List Char × List Char} {m : String × String} (h : SameBytes t m) :
    utf8 (memberText t) = bytes ("\"" ++ m.1 ++ "\":" ++ m.2) := by
  have hsplit : memberText t = ['"'] ++ t.1 ++ ['"', ':'] ++ t.2 := by simp [memberText]
  have hquote : utf8 ['"'] = bytes "\"" := by decide
  have hcolon : utf8 ['"', ':'] = bytes "\":" := by decide
  rw [hsplit, utf8_append, utf8_append, utf8_append, h.1, h.2, hquote, hcolon, bytes_append,
    bytes_append, bytes_append]

/-- So has an object. -/
theorem utf8_objectText {texts : List (List Char × List Char)} {members : List (String × String)}
    (h : List.Forall₂ SameBytes texts members) :
    utf8 (objectText texts) = bytes (objectString members) := by
  have hclose : utf8 ['}'] = bytes "\x7d" := by decide
  have hcomma : utf8 [','] = bytes "," := by decide
  have hmembers : utf8 (membersText texts) = bytes (joinMembers members) := by
    induction h with
    | nil => exact hclose
    | @cons t m texts members hm hrest ih =>
      have hmember := utf8_memberText hm
      cases hrest with
      | nil =>
        rw [membersText, joinMembers, utf8_append, hmember, hclose, ← bytes_append]
      | @cons next _ others _ =>
        have hsplit : membersText (t :: next :: others) =
            memberText t ++ [','] ++ membersText (next :: others) := by simp [membersText]
        rw [hsplit, joinMembers, utf8_append, utf8_append, hmember, hcomma, ih, ← bytes_append,
          ← bytes_append]
  have hopen : utf8 ['{'] = bytes "\x7b" := by decide
  have hsplit : objectText texts = ['{'] ++ membersText texts := rfl
  rw [hsplit, objectString, utf8_append, hopen, hmembers, bytes_append]

/-- A key that is legible in front of a text that can be parsed. -/
def IsMember (m : String × String) : Prop := IsLegible m.1 ∧ IsJson m.2

/-- A legible key with a text of JSON is a member. -/
theorem isMember {key text : String} (hkey : IsLegible key) (htext : IsJson text) :
    IsMember (key, text) := ⟨hkey, htext⟩

/-- An object of such members can be parsed. -/
theorem isJson_objectString {members : List (String × String)} (h : ∀ m ∈ members, IsMember m) :
    IsJson (objectString members) := by
  have htexts : ∃ texts, List.Forall₂ SameBytes texts members ∧
      ∀ t ∈ texts, (∃ key, SaysString t.1 key) ∧ ∃ value, Denotes t.2 value := by
    induction members with
    | nil => exact ⟨[], .nil, by simp⟩
    | cons m members ih =>
      obtain ⟨hkey, value, chars, hchars, hvalue⟩ := h m List.mem_cons_self
      obtain ⟨texts, hsame, hall⟩ := ih fun n hn => h n (List.mem_cons_of_mem _ hn)
      refine ⟨(m.1.toList, chars) :: texts, .cons ⟨utf8_of_isLegible hkey, hchars⟩ hsame, ?_⟩
      exact List.forall_mem_cons.mpr ⟨⟨⟨_, hkey.saysString⟩, value, hvalue⟩, hall⟩
  obtain ⟨texts, hsame, hall⟩ := htexts
  obtain ⟨value, hvalue⟩ := exists_denotes_objectText hall
  exact ⟨value, _, utf8_objectText hsame, hvalue⟩

/-- Quoting the characters and quoting their bytes give the same bytes. -/
theorem utf8_quoted {chars : List Char} {text : String} (h : utf8 chars = bytes text) :
    utf8 (quoted chars) = bytes (quotedString text) := by
  have hquote : utf8 ['"'] = bytes "\"" := by decide
  have hsplit : quoted chars = ['"'] ++ chars ++ ['"'] := rfl
  rw [hsplit, quotedString, utf8_append, utf8_append, h, hquote, bytes_append, bytes_append]

/-- A legible text between quotes can be parsed. -/
theorem isJson_quotedString {text : String} (h : IsLegible text) : IsJson (quotedString text) :=
  ⟨_, _, utf8_quoted (utf8_of_isLegible h), denotes_quoted h.saysString⟩

/-- A printed Boolean denotes it. -/
theorem denotes_boolString (value : Bool) : Denotes (boolString value).toList (.bool value) := by
  refine ⟨_, [], skips_self _, ?_, skips_self _⟩
  cases value with
  | true => exact .true
  | false => exact .false

/-- A Boolean is printed legibly. -/
theorem isLegible_boolString (value : Bool) : IsLegible (boolString value) := by
  cases value <;> decide

/-- A printed Boolean is JSON. -/
theorem isJson_boolString (value : Bool) : IsJson (boolString value) :=
  ⟨_, _, utf8_of_isLegible (isLegible_boolString value), denotes_boolString value⟩

/-- A printed integer is JSON. -/
theorem isJson_int (n : Int) : IsJson (toString n) :=
  ⟨_, _, utf8_of_isLegible (isLegible_int n), denotes_number (isNumber_int n)⟩

/-- A printed natural number is JSON. -/
theorem isJson_nat (n : ℕ) : IsJson (toString n) := isJson_int n

end ProjEsp32.JsonStrings
