import ProjEsp32.ArduinoText

/-!
# JSON documents

The document tree that the JSON library hands to the firmware, with the type
tests and conversions the firmware uses on it. The text format itself is the
library's: parsing, printing and storing a member are the fields of
`JsonLibrary`, and a module that needs one of their documented properties
names it as a hypothesis.
-/

namespace ProjEsp32.ArduinoJson

open ArduinoText

/-- A C++ floating point value: a finite one, from an order, or not finite. -/
inductive CFloat (α : Type) where
  | finite (value : α)
  | nonfinite
  deriving DecidableEq

/-- isfinite of a C++ floating point value. -/
def CFloat.isfinite {α : Type} : CFloat α → Bool
  | .finite _ => true
  | .nonfinite => false

/-- One value of a document. Objects keep the order of their members. -/
inductive Json (α : Type) where
  | null
  | bool (value : Bool)
  | int (value : Int)
  | float (value : CFloat α)
  | str (value : String)
  | arr (elements : List (Json α))
  | obj (members : List (String × Json α))

variable {α : Type}

namespace Json

/-- `value[key]`: null when there is no such member or no object. -/
def member (key : String) : Json α → Json α
  | .obj members => (members.lookup key).getD .null
  | _ => .null

/-- The document with one more member, or with the member replaced. A value that
is neither an object nor null stays as it is. -/
def withMember (document : Json α) (key : String) (value : Json α) : Json α :=
  match document with
  | .obj members =>
    if (members.lookup key).isSome then
      .obj (members.map fun member => if member.1 = key then (key, value) else member)
    else .obj (members ++ [(key, value)])
  | .null => .obj [(key, value)]
  | other => other

/-- `object.containsKey(key)`. -/
def containsKey (key : String) : Json α → Bool
  | .obj members => (members.lookup key).isSome
  | _ => false

/-- `is<JsonObject>()`. -/
def isObject : Json α → Bool
  | .obj _ => true
  | _ => false

/-- `is<JsonArray>()`. -/
def isArray : Json α → Bool
  | .arr _ => true
  | _ => false

/-- `as<JsonArray>()`, with a null array for any other value. -/
def asArray : Json α → List (Json α)
  | .arr elements => elements
  | _ => []

/-- `is<bool>()`. -/
def isBool : Json α → Bool
  | .bool _ => true
  | _ => false

/-- `value | fallback` for a boolean. -/
def orBool (fallback : Bool) : Json α → Bool
  | .bool value => value
  | _ => fallback

/-- `is<T>()` for an unsigned type of the given width: an integer in its range. -/
def isUInt (width : ℕ) : Json α → Bool
  | .int value => 0 ≤ value && value < 2^width
  | _ => false

/-- `as<T>()` for an unsigned type: zero for a value that is no such number. -/
def asUInt (width : ℕ) : Json α → ℕ
  | .int value => if 0 ≤ value ∧ value < 2^width then value.toNat else 0
  | _ => 0

/-- A number read as an unsigned type is in its range. -/
theorem asUInt_lt (width : ℕ) (value : Json α) : value.asUInt width < 2^width := by
  have hpos : 0 < 2^width := Nat.two_pow_pos width
  cases value with
  | int value =>
    simp only [asUInt]
    split
    · rename_i h
      rw [Int.toNat_lt h.1]
      push_cast
      exact h.2
    · exact hpos
  | null => exact hpos
  | bool _ => exact hpos
  | float _ => exact hpos
  | str _ => exact hpos
  | arr _ => exact hpos
  | obj _ => exact hpos

/-- A number that is in range is one of the type, and is read as it is. -/
theorem isUInt_of_lt {width value : ℕ} (h : value < 2^width) :
    (.int value : Json α).isUInt width = true := by
  have hvalue : (value : Int) < 2^width := by exact_mod_cast h
  simp [isUInt, hvalue]

/-- An integer that fits is read as it is. -/
theorem asUInt_of_lt {width value : ℕ} (h : value < 2^width) :
    (.int value : Json α).asUInt width = value := by
  have hvalue : (value : Int) < 2^width := by exact_mod_cast h
  simp [asUInt, hvalue]

/-- `is<const char*>()`. -/
def isCStr : Json α → Bool
  | .str _ => true
  | _ => false

/-- `value | fallback` for a C string. -/
def orCStr (fallback : String) : Json α → String
  | .str value => cString value
  | _ => fallback

/-- What is read as a C string is one. -/
theorem cString_orCStr (value : Json α) : cString (value.orCStr "") = value.orCStr "" := by
  cases value with
  | str text => exact cString_cString text
  | null => rfl
  | bool _ => rfl
  | int _ => rfl
  | float _ => rfl
  | arr _ => rfl
  | obj _ => rfl

/-- A key is looked up in the first member or in the rest. -/
theorem lookup_cons_if {β : Type} (key other : String) (value : β) (rest : List (String × β)) :
    ((key, value)::rest).lookup other = if other = key then some value else rest.lookup other := by
  by_cases hsame : other = key
  · rw [if_pos hsame, hsame, List.lookup_cons_self]
  · rw [if_neg hsame, List.lookup_cons, beq_false_of_ne hsame]

/-- What is found once the members of a name have another value. -/
theorem lookup_replaced (key other : String) (value : Json α) (members : List (String × Json α)) :
    (members.map fun member => if member.1 = key then (key, value) else member).lookup other =
      if other = key then (members.lookup key).map fun _ => value else members.lookup other := by
  induction members with
  | nil => simp
  | cons member rest ih =>
    obtain ⟨name, old⟩ := member
    rw [List.map_cons, lookup_cons_if, lookup_cons_if]
    by_cases hname : name = key
    · rw [if_pos hname, lookup_cons_if, ih, hname]
      by_cases hother : other = key <;> simp [hother]
    · rw [if_neg hname, lookup_cons_if, ih]
      by_cases hother : other = key
      · simp [hother, Ne.symm hname]
      · simp [hother]

/-- What is found behind a member that is new. -/
theorem lookup_appended (key other : String) (value : Json α) {members : List (String × Json α)}
    (h : members.lookup key = none) :
    (members ++ [(key, value)]).lookup other =
      if other = key then some value else members.lookup other := by
  rw [List.lookup_append, lookup_cons_if, List.lookup_nil]
  by_cases hother : other = key
  · simp [hother, h]
  · simp [hother]

/-- Setting a member leaves an object an object. -/
theorem isObject_withMember {document : Json α} (h : document.isObject = true) (key : String)
    (value : Json α) : (document.withMember key value).isObject = true := by
  cases document with
  | obj members =>
    simp only [withMember]
    split <;> rfl
  | null => cases h
  | bool _ => cases h
  | int _ => cases h
  | float _ => cases h
  | str _ => cases h
  | arr _ => cases h

/-- A member that is set is read back, and the others stay. -/
theorem member_withMember {document : Json α} (h : document.isObject = true) (key other : String)
    (value : Json α) :
    (document.withMember key value).member other =
      if other = key then value else document.member other := by
  cases document with
  | obj members =>
    simp only [withMember]
    split
    · rename_i hpresent
      obtain ⟨found, hfound⟩ := Option.isSome_iff_exists.mp hpresent
      simp only [member, lookup_replaced]
      by_cases hother : other = key <;> simp [hother, hfound]
    · rename_i hpresent
      have habsent := Option.not_isSome_iff_eq_none.mp hpresent
      simp only [member, lookup_appended key other value habsent]
      by_cases hother : other = key <;> simp [hother]
  | null => cases h
  | bool _ => cases h
  | int _ => cases h
  | float _ => cases h
  | str _ => cases h
  | arr _ => cases h

/-- Setting a member adds its key alone. -/
theorem containsKey_withMember {document : Json α} (h : document.isObject = true)
    (key other : String) (value : Json α) :
    (document.withMember key value).containsKey other =
      (decide (other = key) || document.containsKey other) := by
  cases document with
  | obj members =>
    simp only [withMember]
    split
    · rename_i hpresent
      simp only [containsKey, lookup_replaced]
      by_cases hother : other = key <;> simp [hother, hpresent]
    · rename_i hpresent
      have habsent := Option.not_isSome_iff_eq_none.mp hpresent
      simp only [containsKey, lookup_appended key other value habsent]
      by_cases hother : other = key <;> simp [hother]
  | null => cases h
  | bool _ => cases h
  | int _ => cases h
  | float _ => cases h
  | str _ => cases h
  | arr _ => cases h

/-- The value that is set last stays. -/
theorem withMember_withMember (document : Json α) (key : String) (first second : Json α) :
    (document.withMember key first).withMember key second = document.withMember key second := by
  cases document with
  | obj members =>
    simp only [withMember]
    by_cases hpresent : (members.lookup key).isSome = true
    · have hmapped : (fun member : String × Json α =>
            if member.1 = key then (key, second) else member) ∘
          (fun member => if member.1 = key then (key, first) else member) =
          fun member => if member.1 = key then (key, second) else member := by
        funext member
        by_cases hmember : member.1 = key <;> simp [hmember]
      rw [if_pos hpresent, if_pos hpresent]
      simp only [lookup_replaced]
      rw [if_pos (by simpa using hpresent), List.map_map, hmapped]
    · have habsent := Option.not_isSome_iff_eq_none.mp hpresent
      have hkept : (members.map fun member => if member.1 = key then (key, second) else member) =
          members := by
        refine (List.map_congr_left fun member hmember => ?_).trans (List.map_id members)
        have hne := List.lookup_eq_none_iff.mp habsent member hmember
        exact if_neg (Ne.symm (bne_iff_ne.mp hne))
      rw [if_neg hpresent, if_neg hpresent]
      simp only [lookup_appended key key first habsent]
      rw [if_pos (by simp), List.map_append, hkept]
      simp
  | null => simp [withMember]
  | bool _ => rfl
  | int _ => rfl
  | float _ => rfl
  | str _ => rfl
  | arr _ => rfl

end Json

/-- The JSON library, third-party code. Documents have a fixed capacity, and a
text or a member that does not fit is refused by the library itself. -/
structure JsonLibrary (α : Type) where
  /-- `deserializeJson` into a document of this capacity; none is an error code. -/
  deserializeJson : (capacity : ℕ) → String → Option (Json α)
  /-- `serializeJson` of a whole document. -/
  serializeJson : Json α → String
  /-- `document[key] = value` on a document of this capacity. -/
  setMember : (capacity : ℕ) → Json α → String → Json α → Json α

end ProjEsp32.ArduinoJson
