import Mathlib.Algebra.Group.Int.Defs
import Mathlib.Algebra.Group.Nat.Defs
import Mathlib.Data.List.Basic
import Mathlib.Data.List.TakeWhile

/-!
# Arduino strings and C strings

An Arduino string is a sequence of bytes. It is written here as a `String`
with one character for each byte, so that its length is the byte length and
the texts of the source stay readable. A C string ends at the first zero byte.
-/

namespace ProjEsp32.ArduinoText

/-- The bytes of a string, as they are handed to a hash or a parser. -/
def bytes (text : String) : List UInt8 := text.toList.map fun c => c.toNat.toUInt8

/-- The part of a string that C code sees: everything before the first zero byte. -/
def cString (text : String) : String :=
  String.ofList (text.toList.takeWhile fun c => c != '\x00')

/-- A byte as a character. -/
theorem toNat_ofByte (byte : UInt8) : (Char.ofNat byte.toNat).toNat = byte.toNat := by
  have hvalid : byte.toNat.isValidChar := .inl (Nat.lt_trans byte.toNat_lt (by decide))
  rw [Char.ofNat, dif_pos hvalid]
  rfl

/-- A text that loses nothing at its first zero byte has none. -/
theorem cString_eq_of_length {text : String} (h : (cString text).length = text.length) :
    cString text = text := by
  have hlist : (text.toList.takeWhile fun c => c != '\x00') = text.toList := by
    have hprefix := List.takeWhile_prefix (l := text.toList) fun c => c != '\x00'
    rw [cString, String.length_ofList, ← String.length_toList] at h
    exact hprefix.eq_of_length h
  unfold cString
  rw [hlist, String.ofList_toList]

/-- A text without a zero byte is a C string. -/
theorem cString_eq_self {text : String} (h : ∀ c ∈ text.toList, c ≠ '\x00') :
    cString text = text := by
  have hlist : (text.toList.takeWhile fun c => c != '\x00') = text.toList := by
    rw [List.takeWhile_eq_self_iff]
    intro c hc
    exact bne_iff_ne.mpr (h c hc)
  unfold cString
  rw [hlist, String.ofList_toList]

/-- A C string is cut off once. -/
theorem cString_cString (text : String) : cString (cString text) = cString text := by
  unfold cString
  rw [String.toList_ofList, List.takeWhile_idem]

/-- isspace of the C locale. -/
def isspace (c : Char) : Bool :=
  c == ' ' || c == '\t' || c == '\n' || c == '\x0b' || c == '\x0c' || c == '\r'

/-- isalnum of the C locale: no byte above 0x7f is a letter. -/
def isalnum (c : Char) : Bool :=
  ('0' ≤ c && c ≤ '9') || ('a' ≤ c && c ≤ 'z') || ('A' ≤ c && c ≤ 'Z')

/-- `String::trim`: both ends lose their white space. -/
def trim (text : String) : String :=
  String.ofList (((text.toList.dropWhile isspace).reverse.dropWhile isspace).reverse)

/-- A text without white space is trimmed to itself. -/
theorem trim_eq_self {text : String} (h : ∀ c ∈ text.toList, isspace c = false) :
    trim text = text := by
  have hdrop (chars : List Char) (hchars : ∀ c ∈ chars, isspace c = false) :
      chars.dropWhile isspace = chars := by
    rw [List.dropWhile_eq_self_iff]
    intro hlength
    exact Bool.eq_false_iff.mp (hchars _ (List.getElem_mem hlength))
  unfold trim
  rw [hdrop _ h, hdrop _ fun c hc => h c (List.mem_reverse.mp hc), List.reverse_reverse,
    String.ofList_toList]

/-- `String::startsWith`. -/
def startsWith (text start : String) : Bool := start.toList.isPrefixOf text.toList

/-- `String::endsWith`. -/
def endsWith (text ending : String) : Bool := ending.toList.isSuffixOf text.toList

/-- `String::toLowerCase`, letter by letter in the C locale. -/
def toLowerCase (text : String) : String :=
  String.ofList (text.toList.map fun c =>
    if 'A' ≤ c ∧ c ≤ 'Z' then Char.ofNat (c.toNat + 32) else c)

/-- `String::toUpperCase`, letter by letter in the C locale. -/
def toUpperCase (text : String) : String :=
  String.ofList (text.toList.map fun c =>
    if 'a' ≤ c ∧ c ≤ 'z' then Char.ofNat (c.toNat - 32) else c)

/-- `String::toInt`: white space, a sign, digits up to the first other
character, and the nearest 32-bit number when there are too many of them. -/
def toInt (text : String) : Int :=
  let digits (chars : List Char) : ℕ :=
    (chars.takeWhile fun c => '0' ≤ c && c ≤ '9').foldl
      (fun value c => 10*value + (c.toNat - '0'.toNat)) 0
  let value : Int :=
    match (cString text).toList.dropWhile isspace with
    | '-'::rest => -(digits rest : Int)
    | '+'::rest => digits rest
    | rest => digits rest
  max (-2^31) (min value (2^31 - 1))

/-- `static_cast<uint32_t>` of a signed number. -/
def toUInt32 (value : Int) : ℕ := (value % 2^32).toNat

/-- The occurrences of `find`, from the left, become `replacement`; the first `skipped`
characters belong to an occurrence that has been replaced. -/
def replaceFrom (find replacement : List Char) : ℕ → List Char → List Char
  | _, [] => []
  | skipped + 1, _::rest => replaceFrom find replacement skipped rest
  | 0, c::rest =>
    if find.isPrefixOf (c::rest) then
      replacement ++ replaceFrom find replacement (find.length - 1) rest
    else c :: replaceFrom find replacement 0 rest

/-- `String::replace`, for a text without a zero byte; an empty `find` leaves the text as
it is. -/
def replace (text find replacement : String) : String :=
  if find.toList = [] then text
  else String.ofList (replaceFrom find.toList replacement.toList 0 text.toList)

/-- Replacing a single character. -/
theorem toList_replace {find : String} {c : Char} (hfind : find.toList = [c])
    (text replacement : String) : (replace text find replacement).toList =
      text.toList.flatMap fun d => if d = c then replacement.toList else [d] := by
  have hchars (chars : List Char) : replaceFrom [c] replacement.toList 0 chars =
      chars.flatMap fun d => if d = c then replacement.toList else [d] := by
    induction chars with
    | nil => rfl
    | cons d rest ih =>
      rw [replaceFrom, List.flatMap_cons, ← ih]
      by_cases hd : d = c
      · rw [hd, if_pos rfl, if_pos (by simp)]
        rfl
      · rw [if_neg hd, if_neg (by simp [Ne.symm hd])]
        rfl
  have hne : ([c] : List Char) ≠ [] := List.cons_ne_nil c []
  rw [replace, hfind, if_neg hne, String.toList_ofList, hchars]

end ProjEsp32.ArduinoText
