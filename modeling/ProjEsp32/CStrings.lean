import Mathlib.Algebra.Group.Int.Defs
import Mathlib.Data.List.Basic
import Mathlib.Data.List.TakeWhile
import ProjEsp32.ArduinoText

/-!
# Bytes of strings

C strings and Arduino strings as the bytes that they are in memory. Whether a plain
`char` is signed is left open: a byte from 0x80 on is read as a negative number where it
is, and a cast to `unsigned char` gives the byte back either way.
-/

namespace ProjEsp32.CStrings

open ArduinoText

/-- The bytes of a C string, in front of the zero byte that ends it. -/
structure CString where
  /-- The bytes before the one that ends the text. -/
  bytes : List UInt8
  /-- None of them is the zero byte. -/
  zeroFree : ∀ b ∈ bytes, b ≠ 0

/-- The memory that a C string takes. -/
def CString.memory (value : CString) : List UInt8 := value.bytes ++ [0]

/-- `strlen`: the bytes in memory up to the first zero byte. -/
def strlen (value : CString) : ℕ := (value.memory.takeWhile fun b => b != 0).length

/-- A byte as a plain `char`. -/
def charValue (signed : Bool) (b : UInt8) : ℤ :=
  if signed && 128 ≤ b.toNat then (b.toNat : ℤ) - 256 else b.toNat

/-- `value[i]` of a C string. -/
def CString.get (signed : Bool) (value : CString) (i : ℕ) : ℤ :=
  charValue signed ((value.memory[i]?).getD 0)

/-- An Arduino string: a length and as many bytes. -/
structure ArduinoString where
  /-- The bytes, zero bytes among them. -/
  bytes : List UInt8

/-- `String(value)`; a null pointer is an empty string. -/
def ArduinoString.ofCString : Option CString → ArduinoString
  | none => ⟨[]⟩
  | some value => ⟨value.bytes.take (strlen value)⟩

/-- `String::length`. -/
def ArduinoString.length (text : ArduinoString) : ℕ := text.bytes.length

/-- `text[i]` of an Arduino string; a zero byte behind its end. -/
def ArduinoString.get (signed : Bool) (text : ArduinoString) (i : ℕ) : ℤ :=
  charValue signed ((text.bytes[i]?).getD 0)

/-- `static_cast<unsigned char>`. -/
def unsignedChar (c : ℤ) : ℕ := (c % 256).toNat

/-- A character constant. -/
def code (c : Char) : ℕ := c.toNat

/-- `isalnum` of the C locale, for the value of an `unsigned char`. -/
def isalnumByte (c : ℕ) : Bool :=
  (code '0' ≤ c && c ≤ code '9') || (code 'A' ≤ c && c ≤ code 'Z') ||
    (code 'a' ≤ c && c ≤ code 'z')

/-- The characters of a C string, one for each byte. -/
def CString.text (value : CString) : String :=
  String.ofList (value.bytes.map fun b => Char.ofNat b.toNat)

/-! ### Lengths and bytes -/

/-- No byte of a C string ends it. -/
theorem strlen_eq (value : CString) : strlen value = value.bytes.length := by
  have hbytes : ∀ b ∈ value.bytes, (b != 0) = true := fun b hb =>
    bne_iff_ne.mpr (value.zeroFree b hb)
  have hend : (([0] : List UInt8).takeWhile fun b => b != 0) = [] := by decide
  rw [strlen, CString.memory, List.takeWhile_append_of_pos hbytes, hend, List.append_nil]

/-- An Arduino string takes all of a C string. -/
theorem ofCString_bytes (value : CString) : (ArduinoString.ofCString (some value)).bytes =
    value.bytes := by
  rw [ArduinoString.ofCString, strlen_eq, List.take_length]

/-- A byte within a C string. -/
theorem get_of_lt {value : CString} {i : ℕ} (signed : Bool) (h : i < value.bytes.length) :
    value.get signed i = charValue signed ((value.bytes[i]?).getD 0) := by
  rw [CString.get, CString.memory, List.getElem?_append_left h]

/-- The cast gives the byte back. -/
theorem unsignedChar_charValue (signed : Bool) (b : UInt8) :
    unsignedChar (charValue signed b) = b.toNat := by
  have hb := b.toNat_lt
  unfold unsignedChar charValue
  split <;> omega

/-- A byte below 0x80 is the same number in either reading, and any other byte is no
character of the ASCII range in either. -/
theorem charValue_cases (signed : Bool) (b : UInt8) :
    (b.toNat < 128 ∧ charValue signed b = b.toNat) ∨
      (128 ≤ b.toNat ∧ (charValue signed b < 0 ∨ 128 ≤ charValue signed b)) := by
  have hb := b.toNat_lt
  unfold charValue
  split
  · rename_i hneg
    have hlarge : 128 ≤ b.toNat := by
      rw [Bool.and_eq_true, decide_eq_true_eq] at hneg
      exact hneg.2
    omega
  · obtain hsmall | hlarge := Nat.lt_or_ge b.toNat 128
    · exact .inl ⟨hsmall, rfl⟩
    · exact .inr ⟨hlarge, .inr (by omega)⟩

/-- As many characters as bytes. -/
theorem length_text (value : CString) : value.text.length = value.bytes.length := by
  rw [CString.text, String.length_ofList, List.length_map]

end ProjEsp32.CStrings
