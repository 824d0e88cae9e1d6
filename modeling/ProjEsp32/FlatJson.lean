import Mathlib.Algebra.GroupWithZero.Nat
import ProjEsp32.ArduinoJson

/-!
# Texts of flat objects

An object of natural numbers, booleans and strings is printed without white
space, and a parser reads it back. The memory that such an object takes in a
document of fixed capacity is a slot for each member and a copy of each string;
a parser copies the keys as well.
-/

namespace ProjEsp32.FlatJson

open ArduinoJson

variable {α : Type}

/-- A value of a flat object. -/
inductive Scalar where
  | nat (value : ℕ)
  | bool (value : Bool)
  | str (value : String)
  deriving DecidableEq

/-- The members of a flat object, in order. -/
abbrev Members := List (String × Scalar)

/-- The value in a document. -/
def Scalar.json : Scalar → Json α
  | .nat value => .int value
  | .bool value => .bool value
  | .str value => .str value

/-- The object with these members. -/
def object (members : Members) : Json α := .obj (members.map fun m => (m.1, m.2.json))

/-! ### Printing -/

/-- A character of a string as it is printed. -/
def escapeChar (c : Char) : List Char :=
  if c = '"' then ['\\', '"']
  else if c = '\\' then ['\\', '\\']
  else if c = '\x08' then ['\\', 'b']
  else if c = '\x0c' then ['\\', 'f']
  else if c = '\n' then ['\\', 'n']
  else if c = '\r' then ['\\', 'r']
  else if c = '\t' then ['\\', 't']
  else if c = '\x00' then ['\\', 'u', '0', '0', '0', '0']
  else [c]

/-- A string without its opening quote. -/
def printQuoted (text : String) : List Char := text.toList.flatMap escapeChar ++ ['"']

/-- A scalar in compact JSON. -/
def Scalar.print : Scalar → List Char
  | .nat value => Nat.toDigits 10 value
  | .bool true => ['t', 'r', 'u', 'e']
  | .bool false => ['f', 'a', 'l', 's', 'e']
  | .str value => '"' :: printQuoted value

/-- A member in compact JSON. -/
def printMember (m : String × Scalar) : List Char := '"' :: (printQuoted m.1 ++ ':' :: m.2.print)

/-- The members, without the opening brace. -/
def printMembers : Members → List Char
  | [] => ['}']
  | [m] => printMember m ++ ['}']
  | m::next::rest => printMember m ++ ',' :: printMembers (next::rest)

/-- The text of an object. -/
def print (members : Members) : String := String.ofList ('{' :: printMembers members)

/-! ### Parsing -/

/-- The character after a backslash. -/
def unescapeChar : Char → Option Char
  | '"' => some '"'
  | '\\' => some '\\'
  | 'b' => some '\x08'
  | 'f' => some '\x0c'
  | 'n' => some '\n'
  | 'r' => some '\r'
  | 't' => some '\t'
  | _ => none

/-- A string after its opening quote, and what follows it. -/
def parseQuoted : List Char → Option (List Char × List Char)
  | [] => none
  | '"' :: rest => some ([], rest)
  | '\\' :: 'u' :: '0' :: '0' :: '0' :: '0' :: rest =>
    (parseQuoted rest).map fun p => ('\x00' :: p.1, p.2)
  | '\\' :: c::rest =>
    match unescapeChar c with
    | none => none
    | some d => (parseQuoted rest).map fun p => (d::p.1, p.2)
  | c::rest => (parseQuoted rest).map fun p => (c::p.1, p.2)

/-- A number in front of the characters. -/
def parseNat (chars : List Char) : Option (ℕ × List Char) :=
  let digits := chars.takeWhile Char.isDigit
  if digits.isEmpty then none
  else some (Nat.ofDigitChars 10 digits 0, chars.dropWhile Char.isDigit)

/-- A scalar in front of the characters. -/
def parseScalar : List Char → Option (Scalar × List Char)
  | '"' :: rest => (parseQuoted rest).map fun p => (.str (String.ofList p.1), p.2)
  | 't' :: 'r' :: 'u' :: 'e' :: rest => some (.bool true, rest)
  | 'f' :: 'a' :: 'l' :: 's' :: 'e' :: rest => some (.bool false, rest)
  | chars => (parseNat chars).map fun p => (.nat p.1, p.2)

/-- One member, and what follows it. -/
def parseMember : List Char → Option ((String × Scalar) × List Char)
  | '"' :: rest =>
    match parseQuoted rest with
    | some (key, ':' :: rest) => (parseScalar rest).map fun p => ((String.ofList key, p.1), p.2)
    | _ => none
  | _ => none

/-- Members up to the closing brace, one at least. -/
def parseMembers : ℕ → List Char → Option Members
  | 0, _ => none
  | fuel + 1, chars =>
    match parseMember chars with
    | some (m, ['}']) => some [m]
    | some (m, ',' :: rest) => (parseMembers fuel rest).map (m :: ·)
    | _ => none

/-- The members of a text. -/
def parse (text : String) : Option Members :=
  match text.toList with
  | ['{', '}'] => some []
  | '{' :: rest => parseMembers rest.length rest
  | _ => none

/-! ### Round trip -/

/-- A printed character is read back. -/
theorem parseQuoted_escapeChar (c : Char) (rest : List Char) :
    parseQuoted (escapeChar c ++ rest) = (parseQuoted rest).map fun p => (c::p.1, p.2) := by
  unfold escapeChar
  split
  · subst_vars
    simp [parseQuoted, unescapeChar]
  split
  · subst_vars
    simp [parseQuoted, unescapeChar]
  split
  · subst_vars
    simp [parseQuoted, unescapeChar]
  split
  · subst_vars
    simp [parseQuoted, unescapeChar]
  split
  · subst_vars
    simp [parseQuoted, unescapeChar]
  split
  · subst_vars
    simp [parseQuoted, unescapeChar]
  split
  · subst_vars
    simp [parseQuoted, unescapeChar]
  split
  · subst_vars
    simp [parseQuoted]
  · rename_i hquote hbackslash _ _ _ _ _ _
    rw [List.singleton_append, parseQuoted.eq_def]
    split <;> simp_all

/-- A printed string is read back, and what follows it is left. -/
theorem parseQuoted_printQuoted (text : String) (rest : List Char) :
    parseQuoted (printQuoted text ++ rest) = some (text.toList, rest) := by
  unfold printQuoted
  induction text.toList with
  | nil => simp [parseQuoted]
  | cons c chars ih =>
    rw [List.append_assoc] at ih
    rw [List.flatMap_cons, List.append_assoc, List.append_assoc, parseQuoted_escapeChar, ih]
    rfl

/-- What follows a value is not another digit of it. -/
def Ends (rest : List Char) : Prop := ∀ c ∈ rest.head?, c.isDigit = false

/-- A printed number is read back. -/
theorem parseNat_toDigits (value : ℕ) {rest : List Char} (hrest : Ends rest) :
    parseNat (Nat.toDigits 10 value ++ rest) = some (value, rest) := by
  have hdigits : ∀ c ∈ Nat.toDigits 10 value, c.isDigit = true := fun c hc =>
    Nat.isDigit_of_mem_toDigits (by decide) (by decide) hc
  have htake : (Nat.toDigits 10 value ++ rest).takeWhile Char.isDigit = Nat.toDigits 10 value := by
    rw [List.takeWhile_append_of_pos hdigits]
    cases rest with
    | nil => simp
    | cons c rest => simp [hrest c rfl]
  have hdrop : (Nat.toDigits 10 value ++ rest).dropWhile Char.isDigit = rest := by
    rw [List.dropWhile_append_of_pos hdigits]
    cases rest with
    | nil => rfl
    | cons c rest => simp [hrest c rfl]
  have hne : (Nat.toDigits 10 value).isEmpty = false := by
    rw [List.isEmpty_eq_false_iff]
    exact Nat.toDigits_ne_nil
  unfold parseNat
  dsimp only
  rw [htake, hdrop, hne, Nat.ofDigitChars_ten_toDigits]
  rfl

/-- A printed scalar is read back. -/
theorem parseScalar_print (value : Scalar) {rest : List Char} (hrest : Ends rest) :
    parseScalar (value.print ++ rest) = some (value, rest) := by
  cases value with
  | str value =>
    simp only [Scalar.print, List.cons_append, parseScalar]
    rw [parseQuoted_printQuoted, Option.map_some, String.ofList_toList]
  | bool value => cases value <;> rfl
  | nat value =>
    have hparsed := parseNat_toDigits value hrest
    simp only [Scalar.print]
    cases hdigits : Nat.toDigits 10 value with
    | nil => exact absurd hdigits Nat.toDigits_ne_nil
    | cons c digits =>
      -- a digit is neither a quote nor the first letter of a word
      have hc : c.isDigit = true :=
        Nat.isDigit_of_mem_toDigits (b := 10) (n := value) (by decide) (by decide)
          (by rw [hdigits]; exact List.mem_cons_self)
      rw [hdigits] at hparsed
      rw [List.cons_append] at hparsed ⊢
      have hfirst : ∀ first chars, c :: (digits ++ rest) = first :: chars →
          first.isDigit = true := by
        intro first chars h
        obtain ⟨rfl, -⟩ := List.cons.inj h
        exact hc
      rw [parseScalar.eq_def]
      split
      · rename_i h
        exact absurd (hfirst _ _ h) (by decide)
      · rename_i h
        exact absurd (hfirst _ _ h) (by decide)
      · rename_i h
        exact absurd (hfirst _ _ h) (by decide)
      · rw [hparsed]
        rfl

/-- A printed member is read back. -/
theorem parseMember_print (m : String × Scalar) {rest : List Char} (hrest : Ends rest) :
    parseMember (printMember m ++ rest) = some (m, rest) := by
  unfold printMember
  rw [List.cons_append, List.append_assoc, parseMember, parseQuoted_printQuoted]
  simp only [List.cons_append]
  rw [parseScalar_print m.2 hrest, Option.map_some, String.ofList_toList]

/-- Printed members are read back, by induction on the members. -/
theorem parseMembers_print (m : String × Scalar) (members : Members) {fuel : ℕ}
    (hfuel : members.length < fuel) :
    parseMembers fuel (printMembers (m :: members)) = some (m :: members) := by
  induction members generalizing m fuel with
  | nil =>
    obtain ⟨fuel, rfl⟩ := Nat.exists_eq_add_one.mpr hfuel
    have hmember : parseMember (printMember m ++ ['}']) = some (m, ['}']) :=
      parseMember_print m (by intro c hc; cases hc; rfl)
    rw [printMembers, parseMembers, hmember]
    rfl
  | cons next rest ih =>
    obtain ⟨fuel, rfl⟩ := Nat.exists_eq_add_one.mpr (Nat.zero_lt_of_lt hfuel)
    have hmember : parseMember (printMember m ++ ',' :: printMembers (next::rest)) =
        some (m, ',' :: printMembers (next::rest)) :=
      parseMember_print m (by intro c hc; cases hc; rfl)
    have hrest := ih next (by simpa using hfuel : rest.length < fuel)
    rw [printMembers, parseMembers, hmember]
    simp only [hrest, Option.map_some]

/-- The length of the printed members, each with the comma or the brace after it. -/
theorem length_printMembers (m : String × Scalar) (members : Members) :
    (printMembers (m :: members)).length =
      ((m :: members).map fun m => (printMember m).length + 1).sum := by
  induction members generalizing m with
  | nil => simp [printMembers]
  | cons next rest ih =>
    have hrest := ih next
    simp only [printMembers, List.length_append, List.length_cons, hrest, List.map_cons,
      List.sum_cons]
    omega

/-- Every member is printed with one character at least. -/
theorem length_lt_printMembers (m : String × Scalar) (members : Members) :
    members.length < (printMembers (m :: members)).length := by
  induction members generalizing m with
  | nil => simp [printMembers]
  | cons next rest ih =>
    have hrest := ih next
    rw [printMembers, List.length_append, List.length_cons, List.length_cons]
    omega

/-- A printed object is read back. -/
theorem parse_print (members : Members) : parse (print members) = some members := by
  unfold parse print
  rw [String.toList_ofList]
  cases members with
  | nil => rfl
  | cons m rest =>
    have hparsed := parseMembers_print m rest (length_lt_printMembers m rest)
    cases hprinted : printMembers (m :: rest) with
    | nil =>
      have hlength := length_lt_printMembers m rest
      rw [hprinted] at hlength
      cases hlength
    | cons c chars =>
      rw [hprinted] at hparsed
      split
      · rename_i h
        cases h
        cases rest <;> simp [printMembers, printMember] at hprinted
      · rename_i h
        cases h
        exact hparsed
      · rename_i h
        exact absurd rfl (h _)

/-! ### Lengths -/

/-- A text that is printed as it is. -/
def Plain (text : String) : Prop := ∀ c ∈ text.toList, escapeChar c = [c]

instance Plain.decidable (text : String) : Decidable (Plain text) :=
  List.decidableBAll (fun c => escapeChar c = [c]) text.toList

/-- A plain text is printed with its closing quote alone. -/
theorem Plain.length {text : String} (h : Plain text) :
    (printQuoted text).length = text.length + 1 := by
  have hchars : text.toList.flatMap escapeChar = text.toList := by
    have hsingle := List.flatMap_congr (g := fun c => [c]) h
    rw [hsingle, List.flatMap_singleton']
  rw [printQuoted, hchars, List.length_append, String.length_toList, List.length_singleton]

/-- Above the blank, only the quote and the backslash are escaped. -/
theorem escapeChar_of_blank_lt {c : Char} (hblank : 0x20 < c.toNat) (hquote : c ≠ '"')
    (hbackslash : c ≠ '\\') : escapeChar c = [c] := by
  have hcontrol : ∀ control : Char, control.toNat ≤ 0x20 → c ≠ control := by
    rintro control hle rfl
    omega
  unfold escapeChar
  rw [if_neg hquote, if_neg hbackslash, if_neg (hcontrol _ (by decide)),
    if_neg (hcontrol _ (by decide)), if_neg (hcontrol _ (by decide)),
    if_neg (hcontrol _ (by decide)), if_neg (hcontrol _ (by decide)),
    if_neg (hcontrol _ (by decide))]

/-- A 32-bit number has ten digits at most. -/
theorem length_toDigits_le {value : ℕ} (h : value < 2^32) :
    (Nat.toDigits 10 value).length ≤ 10 := by
  rw [Nat.length_toDigits_le_iff (by decide) (by decide)]
  exact Nat.lt_of_lt_of_le h (by decide)

/-- The quotes, the colon and the comma or brace come to four characters a member. -/
theorem length_print {members : Members} (hmembers : members ≠ [])
    (hplain : ∀ key ∈ members.map Prod.fst, Plain key) :
    (print members).length =
      1 + ((members.map Prod.fst).map fun key => key.length + 4).sum +
        (members.map fun m => m.2.print.length).sum := by
  have hmember : ∀ m ∈ members,
      (printMember m).length + 1 = m.1.length + 4 + m.2.print.length := by
    intro m hm
    have hkey := (hplain m.1 (List.mem_map_of_mem hm)).length
    simp only [printMember, List.length_cons, List.length_append, hkey]
    omega
  have hsum : ∀ rest : Members, (∀ m ∈ rest, m ∈ members) →
      (rest.map fun m => (printMember m).length + 1).sum =
        ((rest.map Prod.fst).map fun key => key.length + 4).sum +
          (rest.map fun m => m.2.print.length).sum := by
    intro rest hrest
    induction rest with
    | nil => rfl
    | cons m rest ih =>
      have htail := ih fun m hm => hrest m (List.mem_cons_of_mem _ hm)
      have hhead := hmember m (hrest m List.mem_cons_self)
      simp only [List.map_cons, List.sum_cons, htail]
      omega
  cases members with
  | nil => exact absurd rfl hmembers
  | cons m rest =>
    have hprinted := length_printMembers m rest
    rw [hsum _ fun m hm => hm] at hprinted
    rw [print, String.length_ofList, List.length_cons, hprinted]
    omega

/-! ### Memory -/

/-- Bytes of a slot. -/
def SLOT_SIZE : ℕ := 16

/-- The copy of a string, with the zero byte at its end. -/
def Scalar.poolSize : Scalar → ℕ
  | .str value => value.length + 1
  | _ => 0

/-- Bytes that an object takes in a document. -/
def poolSize (copiesKeys : Bool) (members : Members) : ℕ :=
  (members.map fun m =>
    SLOT_SIZE + (if copiesKeys then m.1.length + 1 else 0) + m.2.poolSize).sum

/-- The pool of appended members is that of the one and of the other. -/
theorem poolSize_append (copiesKeys : Bool) (first second : Members) :
    poolSize copiesKeys (first ++ second) =
      poolSize copiesKeys first + poolSize copiesKeys second := by
  rw [poolSize, List.map_append, List.sum_append, poolSize, poolSize]

/-- Copied keys come on top. -/
theorem poolSize_true (members : Members) :
    poolSize true members =
      poolSize false members + ((members.map Prod.fst).map fun key => key.length + 1).sum := by
  induction members with
  | nil => rfl
  | cons m rest ih =>
    simp only [poolSize, List.map_cons, List.sum_cons, if_true, Bool.false_eq_true,
      if_false] at ih ⊢
    omega

/-- A document to which members have been added; a fresh one is null. -/
def built : Members → Json α
  | [] => .null
  | m :: members => object (m :: members)

/-- The numbers of an object have 32 bits. -/
def InRange (members : Members) : Prop :=
  ∀ key value, (key, Scalar.nat value) ∈ members → value < 2^32

/-- What the library documents about flat objects: a new member is stored while
there is room for it, an object is printed without white space, and its text is
read back into a document that has room for it. -/
structure Keeps (lib : JsonLibrary α) : Prop where
  /-- A new member is stored behind the others while there is room. -/
  setMember : ∀ capacity members key value, key ∉ members.map Prod.fst →
    poolSize false (members ++ [(key, value)]) ≤ capacity →
      lib.setMember capacity (built members) key value.json = object (members ++ [(key, value)])
  /-- An object is printed without white space. -/
  serializeJson : ∀ members, InRange members → lib.serializeJson (object members) = print members
  /-- And read back into a document with room for it. -/
  deserializeJson : ∀ capacity members, (members.map Prod.fst).Nodup → InRange members →
    poolSize true members ≤ capacity →
      lib.deserializeJson capacity (print members) = some (object members)

/-- Members that fit are stored one after the other. -/
theorem foldl_setMember {lib : JsonLibrary α} (hlib : Keeps lib) {capacity : ℕ} {members : Members}
    (hnodup : (members.map Prod.fst).Nodup) (hpool : poolSize false members ≤ capacity) :
    members.foldl (fun document m => lib.setMember capacity document m.1 m.2.json) .null =
      built members := by
  have hrest : ∀ before after, members = before ++ after →
      after.foldl (fun document m => lib.setMember capacity document m.1 m.2.json) (built before) =
        built members := by
    intro before after hsplit
    induction after generalizing before with
    | nil => rw [hsplit, List.append_nil, List.foldl_nil]
    | cons m after ih =>
      have hnext : members = (before ++ [m]) ++ after := by
        rw [hsplit, List.append_assoc, List.singleton_append]
      have hfits : poolSize false (before ++ [m]) ≤ capacity := by
        rw [hnext, poolSize_append] at hpool
        omega
      have hfresh : m.1 ∉ before.map Prod.fst := by
        rw [hsplit, List.map_append, List.nodup_append] at hnodup
        intro hmember
        exact hnodup.2.2 m.1 hmember m.1 (by simp) rfl
      have hset := hlib.setMember capacity before m.1 m.2 hfresh hfits
      have hbuilt : (built (before ++ [m]) : Json α) = object (before ++ [m]) := by
        cases before <;> rfl
      rw [List.foldl_cons, hset, ← hbuilt]
      exact ih (before ++ [m]) hnext
  exact hrest [] members rfl

/-! ### A library of flat objects -/

/-- The scalar of a JSON value. -/
def Scalar.ofJson : Json α → Option Scalar
  | .int value => some (.nat value.toNat)
  | .bool value => some (.bool value)
  | .str value => some (.str value)
  | _ => none

/-- The flat members of a document. -/
def membersOf : Json α → Members
  | .obj members => members.filterMap fun m => (Scalar.ofJson m.2).map (m.1, ·)
  | _ => []

/-- The members of an object are those that it was made of. -/
theorem membersOf_object (members : Members) : membersOf (object members : Json α) = members := by
  have hscalar : ∀ value : Scalar, Scalar.ofJson (value.json : Json α) = some value := by
    intro value
    cases value <;> rfl
  rw [object, membersOf, List.filterMap_map]
  refine (List.filterMap_congr fun m _ => ?_).trans (List.filterMap_some)
  simp [hscalar]

/-- A library that prints and parses flat objects and keeps to the capacity. -/
def flatLibrary : JsonLibrary α where
  deserializeJson capacity raw := (parse raw).bind fun members =>
    if poolSize true members ≤ capacity then some (object members) else none
  serializeJson document := print (membersOf document)
  setMember capacity document key value :=
    if poolSize false (membersOf (document.withMember key value)) ≤ capacity then
      document.withMember key value
    else document

/-- A new member comes after those that were built. -/
theorem withMember_built {members : Members} {key : String} (value : Scalar)
    (h : key ∉ members.map Prod.fst) :
    (built members : Json α).withMember key value.json = object (members ++ [(key, value)]) := by
  cases members with
  | nil => rfl
  | cons m rest =>
    have hlookup : ((m :: rest).map fun m => (m.1, (m.2.json : Json α))).lookup key = none := by
      rw [List.lookup_eq_none_iff]
      intro pair hpair
      obtain ⟨member, hmember, rfl⟩ := List.mem_map.mp hpair
      have hne : key ≠ member.1 := fun heq => h (List.mem_map.mpr ⟨member, hmember, heq.symm⟩)
      exact bne_iff_ne.mpr hne
    simp only [built, object, Json.withMember, hlookup]
    simp

/-- The library of flat objects keeps its members. -/
theorem flatLibrary_keeps : Keeps (flatLibrary : JsonLibrary α) where
  setMember := by
    intro capacity members key value hfresh hpool
    simp only [flatLibrary]
    rw [withMember_built value hfresh, membersOf_object, if_pos hpool]
  serializeJson := by
    intro members _
    simp only [flatLibrary, membersOf_object]
  deserializeJson := by
    intro capacity members _ _ hpool
    simp only [flatLibrary]
    rw [parse_print, Option.bind_some, if_pos hpool]

end ProjEsp32.FlatJson
