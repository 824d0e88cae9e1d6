import ProjEsp32.JsonStrings

/-!
# Reports in JSON

A report is put together from texts, numbers and truth values as objects and arrays, and
printed without any escape. When its texts need none, what is printed is read back as the
report.
-/

namespace ProjEsp32.JsonReports

open ArduinoText JsonStrings JsonText

/-- A document of a service about itself. -/
inductive Report where
  | string (text : String)
  | number (n : Int)
  /-- A number that is printed already. -/
  | numeral (text : String)
  | bool (value : Bool)
  | object (members : List (String × Report))
  | array (items : List Report)

/-- The items of an array, without the opening bracket. -/
def joinItems : List String → String
  | [] => "]"
  | [item] => item ++ "]"
  | item::next::others => item ++ "," ++ joinItems (next::others)

/-- The text of an array, item by item. -/
def arrayString (items : List String) : String := "[" ++ joinItems items

namespace Report

mutual

/-- The report as it is printed. -/
def text : Report → String
  | .string text => quotedString text
  | .number n => toString n
  | .numeral text => text
  | .bool value => boolString value
  | .object members => objectString (memberTexts members)
  | .array items => arrayString (itemTexts items)

/-- The keys and the printed members. -/
def memberTexts : List (String × Report) → List (String × String)
  | [] => []
  | (key, member)::members => (key, text member) :: memberTexts members

/-- The printed items. -/
def itemTexts : List Report → List String
  | [] => []
  | item::items => text item :: itemTexts items

end

mutual

/-- The value that the report is. -/
def value : Report → Value
  | .string text => .str text.toList
  | .number n => .number (toString n).toList
  | .numeral text => .number text.toList
  | .bool value => .bool value
  | .object members => .obj (memberValues members)
  | .array items => .arr (itemValues items)

/-- The values of the members of a report. -/
def memberValues : List (String × Report) → List (List Char × Value)
  | [] => []
  | (key, member)::members => (key.toList, value member) :: memberValues members

/-- The values of the items of a report. -/
def itemValues : List Report → List Value
  | [] => []
  | item::items => value item :: itemValues items

end

mutual

/-- No text in it needs an escape, and its numerals are numbers. -/
def Legible : Report → Prop
  | .string text => IsLegible text
  | .number _ => True
  | .numeral text => IsLegible text ∧ IsNumber text.toList
  | .bool _ => True
  | .object members => LegibleMembers members
  | .array items => LegibleItems items

/-- The keys and the values of the members are legible. -/
def LegibleMembers : List (String × Report) → Prop
  | [] => True
  | (key, member)::members => IsLegible key ∧ Legible member ∧ LegibleMembers members

/-- The items are legible. -/
def LegibleItems : List Report → Prop
  | [] => True
  | item::items => Legible item ∧ LegibleItems items

end

end Report

/-! ### Arrays -/

/-- The items of an array as texts, without the opening bracket. -/
def itemsText : List (List Char) → List Char
  | [] => [']']
  | [item] => item ++ [']']
  | item::next::others => item ++ ',' :: itemsText (next::others)

/-- The text of an array whose items have these texts. -/
def arrayText (items : List (List Char)) : List Char := '[' :: itemsText items

/-- Items are read from their text, by induction on the items. -/
theorem readsItems_itemsText {texts : List (List Char)} {items : List Value}
    (h : List.Forall₂ Denotes texts items) (hne : texts ≠ []) :
    ReadsItems (itemsText texts) items [] := by
  induction h with
  | nil => exact absurd rfl hne
  | @cons text item texts items hitem hrest ih =>
    obtain ⟨start, behind, hstart, hvalue, hbehind⟩ := hitem
    cases hrest with
    | nil => exact .last (hstart.append _) (hvalue.append _) (hbehind.append _)
    | @cons next _ others _ =>
      exact .cons (hstart.append _) (hvalue.append _) (hbehind.append _) (ih (by simp))

/-- An array of texts denotes the values that they denote. -/
theorem denotes_arrayText {texts : List (List Char)} {items : List Value}
    (h : List.Forall₂ Denotes texts items) : Denotes (arrayText texts) (.arr items) := by
  refine ⟨arrayText texts, [], skips_self _, ?_, skips_self _⟩
  cases h with
  | nil => exact .emptyArr (skips_self _)
  | cons hitem hrest => exact .arr (readsItems_itemsText (.cons hitem hrest) (by simp))

/-- An array has the same bytes in both forms when its items have. -/
theorem utf8_arrayText {texts : List (List Char)} {items : List String}
    (h : List.Forall₂ (fun text item => utf8 text = bytes item) texts items) :
    utf8 (arrayText texts) = bytes (arrayString items) := by
  have hclose : utf8 [']'] = bytes "]" := by decide
  have hcomma : utf8 [','] = bytes "," := by decide
  have hopen : utf8 ['['] = bytes "[" := by decide
  have hitems : utf8 (itemsText texts) = bytes (joinItems items) := by
    induction h with
    | nil => exact hclose
    | @cons text item texts items hitem hrest ih =>
      cases hrest with
      | nil => rw [itemsText, joinItems, utf8_append, hitem, hclose, ← bytes_append]
      | @cons next _ others _ =>
        have hsplit : itemsText (text :: next :: others) =
            text ++ [','] ++ itemsText (next :: others) := by simp [itemsText]
        rw [hsplit, joinItems, utf8_append, utf8_append, hitem, hcomma, ih, ← bytes_append,
          ← bytes_append]
  have hsplit : arrayText texts = ['['] ++ itemsText texts := rfl
  rw [hsplit, arrayString, utf8_append, hopen, hitems, bytes_append]

/-! ### What is printed is read back -/

/-- A quoted legible text says its characters. -/
theorem says_quotedString {text : String} (h : IsLegible text) :
    Says (quotedString text) (.str text.toList) :=
  ⟨_, utf8_quoted (utf8_of_isLegible h), denotes_quoted h.saysString⟩

/-- A printed Boolean says it. -/
theorem says_boolString (value : Bool) : Says (boolString value) (.bool value) :=
  ⟨_, utf8_of_isLegible (isLegible_boolString value), denotes_boolString value⟩

/-- A legible numeral says its number. -/
theorem says_numeral {text : String} (h : IsLegible text) (hnumber : IsNumber text.toList) :
    Says text (.number text.toList) :=
  ⟨_, utf8_of_isLegible h, denotes_number hnumber⟩

/-- Members that say their values make an object that says them. -/
theorem says_objectString {members : List (String × String)} {said : List (List Char × Value)}
    (h : List.Forall₂ (fun m s => IsLegible m.1 ∧ s.1 = m.1.toList ∧ Says m.2 s.2) members said) :
    Says (objectString members) (.obj said) := by
  have htexts : ∃ texts, List.Forall₂ SameBytes texts members ∧
      List.Forall₂ SaysMember texts said := by
    induction h with
    | nil => exact ⟨[], .nil, .nil⟩
    | @cons m s members said hm _ ih =>
      obtain ⟨hkey, hname, chars, hchars, hvalue⟩ := hm
      obtain ⟨texts, hsame, hsays⟩ := ih
      refine ⟨(m.1.toList, chars) :: texts, .cons ⟨utf8_of_isLegible hkey, hchars⟩ hsame,
        .cons ⟨?_, hvalue⟩ hsays⟩
      rw [hname]
      exact hkey.saysString
  obtain ⟨texts, hsame, hsays⟩ := htexts
  exact ⟨_, utf8_objectText hsame, denotes_objectText hsays⟩

/-- Items that say their values make an array that says them. -/
theorem says_arrayString {items : List String} {said : List Value}
    (h : List.Forall₂ Says items said) : Says (arrayString items) (.arr said) := by
  have htexts : ∃ texts, List.Forall₂ (fun text item => utf8 text = bytes item) texts items ∧
      List.Forall₂ Denotes texts said := by
    induction h with
    | nil => exact ⟨[], .nil, .nil⟩
    | cons hitem _ ih =>
      obtain ⟨chars, hchars, hvalue⟩ := hitem
      obtain ⟨texts, hsame, hsays⟩ := ih
      exact ⟨chars :: texts, .cons hchars hsame, .cons hvalue hsays⟩
  obtain ⟨texts, hsame, hsays⟩ := htexts
  exact ⟨_, utf8_arrayText hsame, denotes_arrayText hsays⟩

namespace Report

mutual

/-- A legible report is read back from its text. -/
theorem says_text : ∀ r : Report, r.Legible → Says r.text r.value
  | .string _, h => says_quotedString h
  | .number n, _ => says_numeral (isLegible_int n) (isNumber_int n)
  | .numeral _, h => says_numeral h.1 h.2
  | .bool value, _ => says_boolString value
  | .object members, h => says_objectString (says_memberTexts members h)
  | .array items, h => says_arrayString (says_itemTexts items h)

/-- The texts of the members say their values. -/
theorem says_memberTexts : ∀ members : List (String × Report), LegibleMembers members →
    List.Forall₂ (fun m s => IsLegible m.1 ∧ s.1 = m.1.toList ∧ Says m.2 s.2)
      (memberTexts members) (memberValues members)
  | [], _ => .nil
  | (_, member)::members, h =>
    .cons ⟨h.1, rfl, says_text member h.2.1⟩ (says_memberTexts members h.2.2)

/-- The texts of the items say their values. -/
theorem says_itemTexts : ∀ items : List Report, LegibleItems items →
    List.Forall₂ Says (itemTexts items) (itemValues items)
  | [], _ => .nil
  | item::items, h => .cons (says_text item h.1) (says_itemTexts items h.2)

end

/-- The text of a legible report is JSON. -/
theorem isJson_text {r : Report} (h : r.Legible) : IsJson r.text := ⟨_, r.says_text h⟩

end Report

end ProjEsp32.JsonReports
