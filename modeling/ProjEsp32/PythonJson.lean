import Mathlib.Data.List.Sort
import Mathlib.Data.String.Basic
import ProjEsp32.JsonText

/-!
# Dictionaries that are dumped as JSON

What Python's `json.dumps` writes for a flat dictionary with sorted keys,
compact separators and everything outside ASCII escaped. Any such text is an
object of the grammar, its strings are the ones of the dictionary, and it is
not much longer than their bytes.
-/

namespace ProjEsp32.PythonJson

open JsonText

/-- A value of a flat dictionary. -/
inductive Item where
  | int (value : Int)
  | str (value : String)
  deriving DecidableEq

/-- The items of a dictionary, in the order in which they were set. -/
abbrev Dict := List (String × Item)

/-! ### Printing -/

/-- `"{0:04x}".format(n)` of a number of 16 bits. -/
def hex4 (n : ℕ) : List Char :=
  [Nat.digitChar (n / 16^3 % 16), Nat.digitChar (n / 16^2 % 16), Nat.digitChar (n / 16 % 16),
    Nat.digitChar (n % 16)]

/-- The escape of a 16-bit unit. -/
def escapeUnit (n : ℕ) : List Char := '\\' :: 'u' :: hex4 n

/-- A character of a string; what is not printable ASCII is escaped, in two
units above the first 65536 characters. -/
def escapeChar (c : Char) : List Char :=
  if c = '"' then ['\\', '"']
  else if c = '\\' then ['\\', '\\']
  else if c = '\n' then ['\\', 'n']
  else if c = '\r' then ['\\', 'r']
  else if c = '\t' then ['\\', 't']
  else if c = '\x0c' then ['\\', 'f']
  else if c = '\x08' then ['\\', 'b']
  else if 0x20 ≤ c.toNat ∧ c.toNat ≤ 0x7e then [c]
  else if c.toNat < 0x10000 then escapeUnit c.toNat
  else
    let n := c.toNat - 0x10000
    escapeUnit (0xd800 + n / 0x400) ++ escapeUnit (0xdc00 + n % 0x400)

/-- A string between its quotes. -/
def escape (text : List Char) : List Char := text.flatMap escapeChar

/-- What `json.dumps` writes for an item. -/
def Item.dumps : Item → List Char
  | .int value => (toString value).toList
  | .str value => quoted (escape value.toList)

/-- The items in the order of their keys. -/
def sortKeys (dict : Dict) : Dict := dict.insertionSort fun first second => first.1 ≤ second.1

/-- `json.dumps(dict, sort_keys=True, separators=(",", ":"))`. -/
def dumps (dict : Dict) : String :=
  String.ofList (objectText ((sortKeys dict).map fun m => (escape m.1.toList, m.2.dumps)))

/-! ### What the text says -/

/-- The value in the text. -/
def Item.value : Item → Value
  | .int value => .number (toString value).toList
  | .str value => .str value.toList

/-- The members of a dictionary in the text. -/
def members (dict : Dict) : List (List Char × Value) :=
  (sortKeys dict).map fun m => (m.1.toList, m.2.value)

/-- A hexadecimal digit is read as what it was written for. -/
theorem hexValue_digitChar {d : ℕ} (h : d < 16) : hexValue (Nat.digitChar d) = some d := by
  have hall : ∀ d < 16, hexValue (Nat.digitChar d) = some d := by decide
  exact hall d h

/-- Four digits are read back. -/
theorem codeUnit_hex4 {n : ℕ} (h : n < 0x10000) (rest : List Char) :
    CodeUnit (hex4 n ++ rest) n rest := by
  have hunit : CodeUnit (hex4 n ++ rest)
      (16^3*(n / 16^3 % 16) + 16^2*(n / 16^2 % 16) + 16*(n / 16 % 16) + n % 16) rest :=
    .digits (hexValue_digitChar (Nat.mod_lt _ (by decide)))
      (hexValue_digitChar (Nat.mod_lt _ (by decide)))
      (hexValue_digitChar (Nat.mod_lt _ (by decide)))
      (hexValue_digitChar (Nat.mod_lt _ (by decide)))
  have hvalue : 16^3*(n / 16^3 % 16) + 16^2*(n / 16^2 % 16) + 16*(n / 16 % 16) + n % 16 = n := by
    omega
  rw [hvalue] at hunit
  exact hunit

/-- A character is read back from its escape. -/
theorem body_escapeChar (c : Char) {chars text rest : List Char} (h : Body chars text rest) :
    Body (escapeChar c ++ chars) (c :: text) rest := by
  unfold escapeChar
  split
  · subst_vars
    exact .escape (.letter rfl) h
  split
  · subst_vars
    exact .escape (.letter rfl) h
  split
  · subst_vars
    exact .escape (.letter rfl) h
  split
  · subst_vars
    exact .escape (.letter rfl) h
  split
  · subst_vars
    exact .escape (.letter rfl) h
  split
  · subst_vars
    exact .escape (.letter rfl) h
  split
  · subst_vars
    exact .escape (.letter rfl) h
  rename_i hquote hbackslash _ _ _ _ _
  split
  · rename_i hascii
    exact .plain ⟨hascii.1, hquote, hbackslash⟩ h
  split
  · rename_i hunit
    have hchar : Escape ('u' :: (hex4 c.toNat ++ chars)) (Char.ofNat c.toNat) chars :=
      .unicode (codeUnit_hex4 hunit chars) c.valid
    rw [Char.ofNat_toNat] at hchar
    exact .escape hchar h
  · rename_i hlong
    have hmax : c.toNat < 0x110000 := by
      rcases c.valid with hlow | hhigh
      · exact Nat.lt_trans hlow (by decide)
      · exact hhigh.2
    dsimp only
    generalize hn : c.toNat - 0x10000 = n
    have hhigh : 0xd800 + n / 0x400 < 0xdc00 := by omega
    have hlow : 0xdc00 + n % 0x400 < 0xe000 := by omega
    have hchar : Escape ('u' :: (hex4 (0xd800 + n / 0x400) ++
          '\\' :: 'u' :: (hex4 (0xdc00 + n % 0x400) ++ chars)))
        (Char.ofNat (0x10000 + 0x400*(0xd800 + n / 0x400 - 0xd800) +
          (0xdc00 + n % 0x400 - 0xdc00))) chars :=
      .pair (codeUnit_hex4 (by omega) _) (codeUnit_hex4 (by omega) _) (by omega) hhigh (by omega)
        hlow
    have hvalue : 0x10000 + 0x400*(0xd800 + n / 0x400 - 0xd800) + (0xdc00 + n % 0x400 - 0xdc00) =
        c.toNat := by omega
    rw [hvalue, Char.ofNat_toNat] at hchar
    have hsplit : escapeUnit (0xd800 + n / 0x400) ++ escapeUnit (0xdc00 + n % 0x400) ++ chars =
        '\\' :: 'u' :: (hex4 (0xd800 + n / 0x400) ++
          '\\' :: 'u' :: (hex4 (0xdc00 + n % 0x400) ++ chars)) := by simp [escapeUnit]
    rw [hsplit]
    exact .escape hchar h

/-- A string is read back from its escapes, by induction on the string. -/
theorem saysString_escape (text : List Char) : SaysString (escape text) text := by
  intro rest
  induction text with
  | nil => exact .close
  | cons c text ih =>
    rw [escape, List.flatMap_cons, List.append_assoc]
    exact body_escapeChar c ih

/-- What is written for an item denotes its value. -/
theorem denotes_dumps_item (item : Item) : Denotes item.dumps item.value := by
  cases item with
  | int value => exact denotes_number (isNumber_int value)
  | str value => exact denotes_quoted (saysString_escape value.toList)

/-- The text of a dictionary is the object of its items. -/
theorem denotes_dumps (dict : Dict) : Denotes (dumps dict).toList (.obj (members dict)) := by
  rw [dumps, String.toList_ofList]
  refine denotes_objectText ?_
  unfold members
  induction sortKeys dict with
  | nil => exact .nil
  | cons m rest ih => exact .cons ⟨saysString_escape _, denotes_dumps_item m.2⟩ ih

/-! ### ASCII -/

/-- Four hexadecimal digits are ASCII. -/
theorem hex4_ascii (n : ℕ) : ∀ d ∈ hex4 n, d.toNat < 0x80 := by
  have hall : ∀ d < 16, (Nat.digitChar d).toNat < 0x80 := by decide
  have hdigit (m : ℕ) : (Nat.digitChar (m % 16)).toNat < 0x80 := hall _ (Nat.mod_lt _ (by decide))
  simp only [hex4, List.forall_mem_cons]
  exact ⟨hdigit _, hdigit _, hdigit _, hdigit _, by simp⟩

/-- An escaped unit is ASCII. -/
theorem escapeUnit_ascii (n : ℕ) : ∀ d ∈ escapeUnit n, d.toNat < 0x80 := by
  simp only [escapeUnit, List.forall_mem_cons]
  exact ⟨by decide, by decide, hex4_ascii n⟩

/-- An escape is ASCII. -/
theorem escapeChar_ascii (c : Char) : ∀ d ∈ escapeChar c, d.toNat < 0x80 := by
  have hletter {letter : Char} (h : letter.toNat < 0x80) : ∀ d ∈ ['\\', letter], d.toNat < 0x80 :=
    List.forall_mem_cons.mpr ⟨by decide, List.forall_mem_singleton.mpr h⟩
  unfold escapeChar
  split
  · exact hletter (by decide)
  split
  · exact hletter (by decide)
  split
  · exact hletter (by decide)
  split
  · exact hletter (by decide)
  split
  · exact hletter (by decide)
  split
  · exact hletter (by decide)
  split
  · exact hletter (by decide)
  split
  · rename_i hascii
    exact List.forall_mem_singleton.mpr (by omega)
  split
  · exact escapeUnit_ascii _
  · exact List.forall_mem_append.mpr ⟨escapeUnit_ascii _, escapeUnit_ascii _⟩

/-- An escaped text is ASCII. -/
theorem escape_ascii (text : List Char) : ∀ d ∈ escape text, d.toNat < 0x80 := by
  intro d hd
  obtain ⟨c, _, hmem⟩ := List.mem_flatMap.mp hd
  exact escapeChar_ascii c d hmem

/-- Quotes around ASCII are ASCII. -/
theorem quoted_ascii {text : List Char} (h : ∀ d ∈ text, d.toNat < 0x80) :
    ∀ d ∈ quoted text, d.toNat < 0x80 := by
  simp only [quoted, List.forall_mem_cons, List.forall_mem_append]
  exact ⟨by decide, h, by decide, by simp⟩

/-- What is written for an item is ASCII. -/
theorem dumps_item_ascii (item : Item) : ∀ d ∈ item.dumps, d.toNat < 0x80 := by
  cases item with
  | int value => exact fun d hd => (isPlain_int value d hd).1
  | str value => exact quoted_ascii (escape_ascii value.toList)

/-- An object of ASCII members is ASCII. -/
theorem objectText_ascii {texts : List (List Char × List Char)}
    (h : ∀ m ∈ texts, (∀ d ∈ m.1, d.toNat < 0x80) ∧ ∀ d ∈ m.2, d.toNat < 0x80) :
    ∀ d ∈ objectText texts, d.toNat < 0x80 := by
  have hmember : ∀ m ∈ texts, ∀ d ∈ memberText m, d.toNat < 0x80 := by
    intro m hm
    simp only [memberText, List.forall_mem_cons, List.forall_mem_append]
    exact ⟨by decide, (h m hm).1, by decide, by decide, (h m hm).2⟩
  have hclose : ∀ d ∈ ['}'], d.toNat < 0x80 := List.forall_mem_singleton.mpr (by decide)
  have hmembers : ∀ d ∈ membersText texts, d.toNat < 0x80 := by
    clear h
    induction texts using membersText.induct with
    | case1 => exact hclose
    | case2 m =>
      rw [membersText]
      exact List.forall_mem_append.mpr ⟨hmember m List.mem_cons_self, hclose⟩
    | case3 m next others ih =>
      have hrest := ih fun n hn => hmember n (List.mem_cons_of_mem _ hn)
      rw [membersText]
      simp only [List.forall_mem_append, List.forall_mem_cons]
      exact ⟨hmember m List.mem_cons_self, by decide, hrest⟩
  simp only [objectText, List.forall_mem_cons]
  exact ⟨by decide, hmembers⟩

/-- The text of a dictionary is ASCII. -/
theorem dumps_ascii (dict : Dict) : ∀ d ∈ (dumps dict).toList, d.toNat < 0x80 := by
  rw [dumps, String.toList_ofList]
  refine objectText_ascii fun m hm => ?_
  obtain ⟨item, _, rfl⟩ := List.mem_map.mp hm
  exact ⟨escape_ascii _, dumps_item_ascii item.2⟩

/-! ### Lengths -/

/-- A character has six times as many escaped characters as bytes at most. -/
theorem length_escapeChar_le (c : Char) :
    (escapeChar c).length ≤ 6*(String.utf8EncodeChar c).length := by
  have hbytes : 0 < (String.utf8EncodeChar c).length := by
    rw [String.length_utf8EncodeChar]
    exact c.utf8Size_pos
  have hletter {first second : Char} :
      [first, second].length ≤ 6*(String.utf8EncodeChar c).length := by
    simp only [List.length_cons, List.length_nil]
    omega
  have hunit (n : ℕ) : (escapeUnit n).length = 6 := rfl
  unfold escapeChar
  split
  · exact hletter
  split
  · exact hletter
  split
  · exact hletter
  split
  · exact hletter
  split
  · exact hletter
  split
  · exact hletter
  split
  · exact hletter
  split
  · rw [List.length_singleton]
    omega
  split
  · rw [hunit]
    omega
  · rename_i hlong
    have hfour : (String.utf8EncodeChar c).length = 4 := by
      have hvalue : c.val.toNat = c.toNat := rfl
      unfold String.utf8EncodeChar
      dsimp only
      rw [if_neg (by omega), if_neg (by omega), if_neg (by omega)]
      rfl
    dsimp only
    rw [List.length_append, hunit, hunit]
    omega

/-- So has a string, by induction on it. -/
theorem length_escape_le (text : List Char) : (escape text).length ≤ 6*(utf8 text).length := by
  induction text with
  | nil => exact Nat.le_refl _
  | cons c text ih =>
    have hchar := length_escapeChar_le c
    have hescape : (escape (c :: text)).length = (escapeChar c).length + (escape text).length := by
      rw [escape, List.flatMap_cons, List.length_append, escape]
    have hutf8 : (utf8 (c :: text)).length =
        (String.utf8EncodeChar c).length + (utf8 text).length := by
      rw [utf8, List.flatMap_cons, List.length_append, utf8]
    omega

/-- The quotes add two characters. -/
theorem length_quoted (text : List Char) : (quoted text).length = text.length + 2 := by
  simp [quoted]

/-- An object takes four characters a member beside its keys and values. -/
theorem length_objectText {texts : List (List Char × List Char)} (hne : texts ≠ []) :
    (objectText texts).length = 1 + (texts.map fun m => m.1.length + m.2.length + 4).sum := by
  have hmember (m : List Char × List Char) :
      (memberText m).length = m.1.length + m.2.length + 3 := by
    simp only [memberText, List.length_cons, List.length_append]
    omega
  have hmembers : (membersText texts).length =
      (texts.map fun m => m.1.length + m.2.length + 4).sum := by
    induction texts using membersText.induct with
    | case1 => exact absurd rfl hne
    | case2 m => simp [membersText, hmember]
    | case3 m next others ih =>
      have hrest := ih (by simp)
      rw [membersText, List.length_append, List.length_cons, hmember, hrest]
      simp only [List.map_cons, List.sum_cons]
      omega
  rw [objectText, List.length_cons, hmembers]
  omega

end ProjEsp32.PythonJson
