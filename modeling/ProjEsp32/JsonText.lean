import Mathlib.Data.List.Basic
import Mathlib.Tactic.IntervalCases

/-!
# The grammar of JSON texts

What a text means as a value, on Unicode characters: each relation takes a text
to what it says and to what is left of it. An object is read back from the text
that puts its members one behind the other, and a text that is set between
quotes as it stands means itself exactly when it needs no escape. The last
section takes the grammar to sequences of bytes in UTF-8.
-/

namespace ProjEsp32.JsonText

/-- A JSON value; a number is kept as it is written. -/
inductive Value where
  | null
  | bool (value : Bool)
  | number (text : List Char)
  | str (text : List Char)
  | arr (items : List Value)
  | obj (members : List (List Char × Value))

/-- White space between the tokens. -/
def IsBlank (c : Char) : Prop := c = ' ' ∨ c = '\t' ∨ c = '\n' ∨ c = '\r'

instance isBlankDecidable (c : Char) : Decidable (IsBlank c) := inferInstanceAs (Decidable (_ ∨ _))

/-- White space is skipped, any amount of it. -/
def Skips (chars rest : List Char) : Prop :=
  ∃ blanks, chars = blanks ++ rest ∧ ∀ c ∈ blanks, IsBlank c

/-! ### Strings -/

/-- A character that stands for itself in a string. -/
def IsPlain (c : Char) : Prop := 0x20 ≤ c.toNat ∧ c ≠ '"' ∧ c ≠ '\\'

instance isPlainDecidable (c : Char) : Decidable (IsPlain c) :=
  inferInstanceAs (Decidable (_ ∧ _))

/-- The escapes of one letter. -/
def letterEscape : Char → Option Char
  | '"' => some '"'
  | '\\' => some '\\'
  | '/' => some '/'
  | 'b' => some '\x08'
  | 'f' => some '\x0c'
  | 'n' => some '\n'
  | 'r' => some '\r'
  | 't' => some '\t'
  | _ => none

/-- The value of a hexadecimal digit of either case. -/
def hexValue (c : Char) : Option ℕ :=
  if '0' ≤ c ∧ c ≤ '9' then some (c.toNat - '0'.toNat)
  else if 'a' ≤ c ∧ c ≤ 'f' then some (c.toNat - 'a'.toNat + 10)
  else if 'A' ≤ c ∧ c ≤ 'F' then some (c.toNat - 'A'.toNat + 10)
  else none

/-- Four hexadecimal digits. -/
inductive CodeUnit : List Char → ℕ → List Char → Prop
  | digits {a b c d : Char} {w x y z : ℕ} {rest : List Char} :
      hexValue a = some w → hexValue b = some x → hexValue c = some y → hexValue d = some z →
      CodeUnit (a :: b :: c :: d :: rest) (16^3*w + 16^2*x + 16*y + z) rest

/-- An escape behind its backslash; surrogates come in pairs. -/
inductive Escape : List Char → Char → List Char → Prop
  | letter {c d : Char} {rest : List Char} : letterEscape c = some d → Escape (c :: rest) d rest
  | unicode {chars rest : List Char} {n : ℕ} :
      CodeUnit chars n rest → n.isValidChar → Escape ('u' :: chars) (Char.ofNat n) rest
  | pair {chars between rest : List Char} {high low : ℕ} :
      CodeUnit chars high ('\\' :: 'u' :: between) → CodeUnit between low rest →
      0xD800 ≤ high → high < 0xDC00 → 0xDC00 ≤ low → low < 0xE000 →
      Escape ('u' :: chars) (Char.ofNat (0x10000 + 0x400*(high - 0xD800) + (low - 0xDC00))) rest

/-- A string behind its opening quote, up to its closing one. -/
inductive Body : List Char → List Char → List Char → Prop
  | close {rest : List Char} : Body ('"' :: rest) [] rest
  | plain {c : Char} {chars text rest : List Char} :
      IsPlain c → Body chars text rest → Body (c :: chars) (c :: text) rest
  | escape {c : Char} {chars behind text rest : List Char} :
      Escape chars c behind → Body behind text rest → Body ('\\' :: chars) (c :: text) rest

/-! ### Values -/

/-- One or more digits. -/
def IsDigits (chars : List Char) : Prop := chars ≠ [] ∧ ∀ c ∈ chars, c.isDigit = true

/-- The integer part of a number has no leading zero. -/
def IsNatural (chars : List Char) : Prop :=
  IsDigits chars ∧ (chars.head? = some '0' → chars = ['0'])

/-- The fraction of a number, if it has one. -/
def IsFraction (chars : List Char) : Prop :=
  chars = [] ∨ ∃ digits, chars = '.' :: digits ∧ IsDigits digits

/-- The exponent of a number, if it has one. -/
def IsExponent (chars : List Char) : Prop :=
  chars = [] ∨ ∃ mark sign digits, chars = mark :: (sign ++ digits) ∧ (mark = 'e' ∨ mark = 'E') ∧
    (sign = [] ∨ sign = ['+'] ∨ sign = ['-']) ∧ IsDigits digits

/-- The text of a number: sign, integer, fraction, exponent. -/
def IsNumber (chars : List Char) : Prop :=
  ∃ sign natural fraction exponent, chars = sign ++ natural ++ fraction ++ exponent ∧
    (sign = [] ∨ sign = ['-']) ∧ IsNatural natural ∧ IsFraction fraction ∧ IsExponent exponent

mutual

/-- A value at the front of a text. -/
inductive Reads : List Char → Value → List Char → Prop
  | null {rest : List Char} : Reads ('n' :: 'u' :: 'l' :: 'l' :: rest) .null rest
  | true {rest : List Char} : Reads ('t' :: 'r' :: 'u' :: 'e' :: rest) (.bool true) rest
  | false {rest : List Char} : Reads ('f' :: 'a' :: 'l' :: 's' :: 'e' :: rest) (.bool false) rest
  | number {text rest : List Char} : IsNumber text → Reads (text ++ rest) (.number text) rest
  | str {chars text rest : List Char} : Body chars text rest → Reads ('"' :: chars) (.str text) rest
  | emptyArr {chars rest : List Char} :
      Skips chars (']' :: rest) → Reads ('[' :: chars) (.arr []) rest
  | arr {chars rest : List Char} {items : List Value} :
      ReadsItems chars items rest → Reads ('[' :: chars) (.arr items) rest
  | emptyObj {chars rest : List Char} :
      Skips chars ('}' :: rest) → Reads ('{' :: chars) (.obj []) rest
  | obj {chars rest : List Char} {members : List (List Char × Value)} :
      ReadsMembers chars members rest → Reads ('{' :: chars) (.obj members) rest

/-- The items of an array up to its closing bracket, one at least. -/
inductive ReadsItems : List Char → List Value → List Char → Prop
  | last {chars a b rest : List Char} {item : Value} :
      Skips chars a → Reads a item b → Skips b (']' :: rest) → ReadsItems chars [item] rest
  | cons {chars a b c rest : List Char} {item : Value} {items : List Value} :
      Skips chars a → Reads a item b → Skips b (',' :: c) → ReadsItems c items rest →
      ReadsItems chars (item :: items) rest

/-- The members of an object up to its closing brace, one at least. -/
inductive ReadsMembers : List Char → List (List Char × Value) → List Char → Prop
  | last {chars a b c d e rest : List Char} {key : List Char} {value : Value} :
      Skips chars ('"' :: a) → Body a key b → Skips b (':' :: c) → Skips c d → Reads d value e →
      Skips e ('}' :: rest) → ReadsMembers chars [(key, value)] rest
  | cons {chars a b c d e f rest : List Char} {key : List Char} {value : Value}
      {members : List (List Char × Value)} :
      Skips chars ('"' :: a) → Body a key b → Skips b (':' :: c) → Skips c d → Reads d value e →
      Skips e (',' :: f) → ReadsMembers f members rest →
      ReadsMembers chars ((key, value) :: members) rest

end

/-- The text is this value, between white space. -/
def Denotes (text : List Char) (value : Value) : Prop :=
  ∃ a b, Skips text a ∧ Reads a value b ∧ Skips b []

/-! ### Longer texts -/

/-- No blank is skipped. -/
theorem skips_self (chars : List Char) : Skips chars chars := ⟨[], rfl, by simp⟩

/-- What does not start with white space is skipped to as it is. -/
theorem Skips.eq_of_not_blank {c : Char} {chars rest : List Char} (hc : ¬IsBlank c)
    (h : Skips (c :: chars) rest) : rest = c :: chars := by
  obtain ⟨blanks, heq, hblanks⟩ := h
  cases blanks with
  | nil => exact heq.symm
  | cons d blanks =>
    obtain ⟨rfl, -⟩ := List.cons.inj heq
    exact absurd (hblanks c List.mem_cons_self) hc

/-- Blanks are skipped whatever follows. -/
theorem Skips.append {chars rest : List Char} (h : Skips chars rest) (more : List Char) :
    Skips (chars ++ more) (rest ++ more) := by
  obtain ⟨blanks, rfl, hblanks⟩ := h
  exact ⟨blanks, List.append_assoc .., hblanks⟩

/-- Blanks are skipped one after the other. -/
theorem Skips.trans {a b c : List Char} (hab : Skips a b) (hbc : Skips b c) : Skips a c := by
  obtain ⟨first, rfl, hfirst⟩ := hab
  obtain ⟨second, rfl, hsecond⟩ := hbc
  refine ⟨first ++ second, (List.append_assoc ..).symm, fun c hc => ?_⟩
  exact (List.mem_append.mp hc).elim (hfirst c) (hsecond c)

/-- A code unit is read whatever follows. -/
theorem CodeUnit.append {chars rest : List Char} {n : ℕ} (h : CodeUnit chars n rest)
    (more : List Char) : CodeUnit (chars ++ more) n (rest ++ more) := by
  cases h with
  | digits ha hb hc hd => exact .digits ha hb hc hd

/-- An escape is read whatever follows. -/
theorem Escape.append {chars rest : List Char} {c : Char} (h : Escape chars c rest)
    (more : List Char) : Escape (chars ++ more) c (rest ++ more) := by
  cases h with
  | letter hletter => exact .letter hletter
  | unicode hunit hvalid => exact .unicode (hunit.append more) hvalid
  | pair hhigh hlow h1 h2 h3 h4 => exact .pair (hhigh.append more) (hlow.append more) h1 h2 h3 h4

/-- The body of a string is read whatever follows. -/
theorem Body.append {chars text rest : List Char} (h : Body chars text rest) (more : List Char) :
    Body (chars ++ more) text (rest ++ more) := by
  induction h with
  | close => exact .close
  | plain hc _ ih => exact .plain hc ih
  | escape hescape _ ih => exact .escape (hescape.append more) ih

mutual

/-- A value is read from a longer text as well. -/
theorem Reads.append {chars rest : List Char} {value : Value} (more : List Char) :
    Reads chars value rest → Reads (chars ++ more) value (rest ++ more)
  | .null => .null
  | .true => .true
  | .false => .false
  | .number hnumber => by
    rw [List.append_assoc]
    exact .number hnumber
  | .str hbody => .str (hbody.append more)
  | .emptyArr hskips => .emptyArr (hskips.append more)
  | .arr hitems => .arr (ReadsItems.append more hitems)
  | .emptyObj hskips => .emptyObj (hskips.append more)
  | .obj hmembers => .obj (ReadsMembers.append more hmembers)

/-- Items are read whatever follows. -/
theorem ReadsItems.append {chars rest : List Char} {items : List Value} (more : List Char) :
    ReadsItems chars items rest → ReadsItems (chars ++ more) items (rest ++ more)
  | .last ha hitem hb => .last (ha.append more) (Reads.append more hitem) (hb.append more)
  | .cons ha hitem hb hitems =>
    .cons (ha.append more) (Reads.append more hitem) (hb.append more)
      (ReadsItems.append more hitems)

/-- Members are read whatever follows. -/
theorem ReadsMembers.append {chars rest : List Char} {members : List (List Char × Value)}
    (more : List Char) :
    ReadsMembers chars members rest → ReadsMembers (chars ++ more) members (rest ++ more)
  | .last ha hkey hb hc hvalue hd =>
    .last (ha.append more) (hkey.append more) (hb.append more) (hc.append more)
      (Reads.append more hvalue) (hd.append more)
  | .cons ha hkey hb hc hvalue hd hmembers =>
    .cons (ha.append more) (hkey.append more) (hb.append more) (hc.append more)
      (Reads.append more hvalue) (hd.append more) (ReadsMembers.append more hmembers)

end

/-- White space behind a text does not matter. -/
theorem Denotes.append_blank {text tail : List Char} {value : Value} (h : Denotes text value)
    (htail : ∀ c ∈ tail, IsBlank c) : Denotes (text ++ tail) value := by
  obtain ⟨a, b, ha, hreads, hb⟩ := h
  have hskips : Skips tail [] := ⟨tail, (List.append_nil tail).symm, htail⟩
  exact ⟨a ++ tail, b ++ tail, ha.append tail, hreads.append tail, (hb.append tail).trans hskips⟩

/-! ### Texts that need no escape -/

variable {key text chars more rest : List Char} {value : Value} {members : List (List Char × Value)}

/-- A plain text is read up to the quote behind it. -/
theorem body_of_plain (htext : ∀ c ∈ text, IsPlain c) (rest : List Char) :
    Body (text ++ '"' :: rest) text rest := by
  induction text with
  | nil => exact .close
  | cons c text ih =>
    exact .plain (htext c List.mem_cons_self) (ih fun d hd => htext d (List.mem_cons_of_mem _ hd))

/-- Nothing else is read from it. -/
theorem Body.eq_of_plain {out : List Char} (htext : ∀ c ∈ text, IsPlain c)
    (h : Body (text ++ '"' :: more) out rest) : out = text ∧ rest = more := by
  induction text generalizing out with
  | nil =>
    cases h with
    | close => exact ⟨rfl, rfl⟩
    | plain hc => exact absurd rfl hc.2.1
  | cons c text ih =>
    have hc := htext c List.mem_cons_self
    cases h with
    | close => exact absurd rfl hc.2.1
    | escape => exact absurd rfl hc.2.2
    | plain _ hbody =>
      obtain ⟨rfl, rfl⟩ := ih (fun d hd => htext d (List.mem_cons_of_mem _ hd)) hbody
      exact ⟨rfl, rfl⟩

/-- A code unit is read from digits, none of which is a quote. -/
theorem CodeUnit.exists_digits {n : ℕ} (h : CodeUnit chars n rest) :
    ∃ digits, chars = digits ++ rest ∧ '"' ∉ digits := by
  have hquote {c : Char} {value : ℕ} (hc : hexValue c = some value) : '"' ≠ c := by
    rintro rfl
    have hnone : hexValue '"' = none := by decide
    rw [hnone] at hc
    cases hc
  cases h with
  | @digits a b c d _ _ _ _ _ ha hb hc hd =>
    refine ⟨[a, b, c, d], rfl, ?_⟩
    simp only [List.mem_cons, List.not_mem_nil, or_false, not_or]
    exact ⟨hquote ha, hquote hb, hquote hc, hquote hd⟩

/-- An escape is one character and some that are no quote. -/
theorem Escape.exists_front {c : Char} (h : Escape chars c rest) :
    ∃ first behind, chars = first :: (behind ++ rest) ∧ '"' ∉ behind := by
  cases h with
  | @letter first _ _ _ => exact ⟨first, [], rfl, by simp⟩
  | unicode hunit _ =>
    obtain ⟨digits, rfl, hdigits⟩ := hunit.exists_digits
    exact ⟨'u', digits, rfl, hdigits⟩
  | pair hhigh hlow =>
    obtain ⟨high, rfl, hhighDigits⟩ := hhigh.exists_digits
    obtain ⟨low, rfl, hlowDigits⟩ := hlow.exists_digits
    refine ⟨'u', high ++ '\\' :: 'u' :: low, by simp, ?_⟩
    simp [hhighDigits, hlowDigits]

/-- What has no quote stays in front of the first one. -/
theorem exists_front_of_not_mem {front tail : List Char} (hfront : '"' ∉ front)
    (h : text ++ '"' :: more = front ++ tail) : ∃ left, text = front ++ left := by
  induction front generalizing text with
  | nil => exact ⟨text, rfl⟩
  | cons c front ih =>
    rw [List.mem_cons, not_or] at hfront
    cases text with
    | nil => exact absurd (List.cons.inj h).1 hfront.1
    | cons d text =>
      obtain ⟨rfl, htail⟩ := List.cons.inj h
      obtain ⟨left, rfl⟩ := ih hfront.2 htail
      exact ⟨left, rfl⟩

/-- A text between quotes says at most as many characters as it has, and as many
only when each of them is plain; its last one is no backslash. By induction on
how it is read, since an escape takes more than it gives. -/
theorem Body.length_le {out : List Char} (h : Body chars out rest)
    (hchars : chars = text ++ '"' :: more) (hlast : text.getLast? ≠ some '\\') :
    out.length ≤ text.length ∧ (out.length = text.length → ∀ c ∈ text, IsPlain c) := by
  induction h generalizing text with
  | close =>
    cases text with
    | nil => exact ⟨Nat.le_refl _, by simp⟩
    | cons c text => exact ⟨Nat.zero_le _, fun hlength => by simp at hlength⟩
  | @plain c chars out rest hc hbody ih =>
    cases text with
    | nil => exact absurd (List.cons.inj hchars).1 hc.2.1
    | cons d text =>
      obtain ⟨rfl, htail⟩ := List.cons.inj hchars
      have hlastTail : text.getLast? ≠ some '\\' := by
        intro htext
        rw [List.getLast?_cons, htext] at hlast
        exact hlast rfl
      obtain ⟨hle, hplain⟩ := ih htail hlastTail
      refine ⟨Nat.succ_le_succ hle, fun hlength d hd => ?_⟩
      rcases List.mem_cons.mp hd with rfl | hd
      · exact hc
      · exact hplain (Nat.succ.inj hlength) d hd
  | @escape c chars behind out rest hescape hbody ih =>
    cases text with
    | nil => exact absurd (List.cons.inj hchars).1 (by decide)
    | cons d text =>
      obtain ⟨rfl, htail⟩ := List.cons.inj hchars
      cases text with
      | nil => exact absurd rfl hlast
      | cons first text =>
        obtain ⟨start, digits, hfront, hdigits⟩ := hescape.exists_front
        rw [hfront] at htail
        have hbehind : text ++ '"' :: more = digits ++ behind := (List.cons.inj htail).2.symm
        obtain ⟨left, rfl⟩ := exists_front_of_not_mem hdigits hbehind
        rw [List.append_assoc] at hbehind
        have hlastLeft : left.getLast? ≠ some '\\' := by
          intro hleft
          rw [List.getLast?_cons, List.getLast?_cons, List.getLast?_append, hleft] at hlast
          exact hlast rfl
        have hle := (ih (List.append_cancel_left hbehind).symm hlastLeft).1
        simp only [List.length_cons, List.length_append]
        exact ⟨by omega, fun hlength => by omega⟩

/-- Between quotes, a text says itself exactly when it is plain. -/
theorem body_self_iff (more : List Char) (hlast : text.getLast? ≠ some '\\') :
    (∃ rest, Body (text ++ '"' :: more) text rest) ↔ ∀ c ∈ text, IsPlain c := by
  constructor
  · rintro ⟨rest, h⟩
    exact (h.length_le rfl hlast).2 rfl
  · exact fun htext => ⟨more, body_of_plain htext more⟩

/-! ### Texts of objects -/

/-- A member as it is written: key between quotes, colon, text of the value. -/
def memberText (m : List Char × List Char) : List Char := '"' :: (m.1 ++ '"' :: ':' :: m.2)

/-- The members, without the opening brace. -/
def membersText : List (List Char × List Char) → List Char
  | [] => ['}']
  | [m] => memberText m ++ ['}']
  | m::next::others => memberText m ++ ',' :: membersText (next::others)

/-- The text of an object whose members have these keys and texts. -/
def objectText (members : List (List Char × List Char)) : List Char := '{' :: membersText members

/-- A text between quotes. -/
def quoted (text : List Char) : List Char := '"' :: (text ++ ['"'])

/-- Between quotes, the text is this string. -/
def SaysString (text said : List Char) : Prop := ∀ rest, Body (text ++ '"' :: rest) said rest

/-- A quoted text denotes what it says. -/
theorem denotes_quoted {said : List Char} (h : SaysString text said) :
    Denotes (quoted text) (.str said) :=
  ⟨quoted text, [], skips_self _, .str (h []), skips_self _⟩

/-- The key and the value that a member's text says. -/
def SaysMember (m : List Char × List Char) (said : List Char × Value) : Prop :=
  SaysString m.1 said.1 ∧ Denotes m.2 said.2

/-- Members are read from their text, by induction on the members. -/
theorem readsMembers_membersText {texts : List (List Char × List Char)}
    (h : List.Forall₂ SaysMember texts members) (hne : texts ≠ []) :
    ReadsMembers (membersText texts) members [] := by
  induction h with
  | nil => exact absurd rfl hne
  | @cons m said texts members hm hrest ih =>
    obtain ⟨hkey, start, behind, hstart, hvalue, hbehind⟩ := hm
    have hbody (tail : List Char) : Body (m.1 ++ '"' :: ':' :: (m.2 ++ tail)) said.1
        (':' :: (m.2 ++ tail)) := hkey _
    cases hrest with
    | nil =>
      have htext : membersText [m] = '"' :: (m.1 ++ '"' :: ':' :: (m.2 ++ ['}'])) := by
        simp [membersText, memberText]
      rw [htext]
      exact .last (skips_self _) (hbody _) (skips_self _) (hstart.append _)
        (hvalue.append _) (hbehind.append _)
    | @cons next _ others _ =>
      have htext : membersText (m :: next :: others) =
          '"' :: (m.1 ++ '"' :: ':' :: (m.2 ++ ',' :: membersText (next :: others))) := by
        simp [membersText, memberText]
      rw [htext]
      exact .cons (skips_self _) (hbody _) (skips_self _) (hstart.append _)
        (hvalue.append _) (hbehind.append _) (ih (by simp))

/-- The text of an object says the members that its members say. -/
theorem denotes_objectText {texts : List (List Char × List Char)}
    (h : List.Forall₂ SaysMember texts members) : Denotes (objectText texts) (.obj members) := by
  refine ⟨objectText texts, [], skips_self _, ?_, skips_self _⟩
  cases h with
  | nil => exact .emptyObj (skips_self _)
  | cons hm hrest => exact .obj (readsMembers_membersText (.cons hm hrest) (by simp))

/-- An object of texts that all say something says something. -/
theorem exists_denotes_objectText {texts : List (List Char × List Char)}
    (h : ∀ m ∈ texts, (∃ key, SaysString m.1 key) ∧ ∃ value, Denotes m.2 value) :
    ∃ value, Denotes (objectText texts) value := by
  have hsaid : ∃ members, List.Forall₂ SaysMember texts members := by
    induction texts with
    | nil => exact ⟨[], .nil⟩
    | cons m texts ih =>
      obtain ⟨⟨key, hkey⟩, value, hvalue⟩ := h m List.mem_cons_self
      obtain ⟨members, hmembers⟩ := ih fun n hn => h n (List.mem_cons_of_mem _ hn)
      exact ⟨(key, value) :: members, .cons ⟨hkey, hvalue⟩ hmembers⟩
  obtain ⟨members, hmembers⟩ := hsaid
  exact ⟨_, denotes_objectText hmembers⟩

/-- A number starts with a sign or a digit. -/
theorem IsNumber.exists_head (h : IsNumber text) :
    ∃ c more, text = c :: more ∧ (c = '-' ∨ c.isDigit = true) := by
  obtain ⟨sign, natural, fraction, exponent, rfl, hsign, ⟨⟨hne, hdigits⟩, _⟩, _⟩ := h
  rcases hsign with rfl | rfl
  · cases natural with
    | nil => exact absurd rfl hne
    | cons c natural => exact ⟨c, _, rfl, .inr (hdigits c List.mem_cons_self)⟩
  · exact ⟨'-', _, rfl, .inl rfl⟩

/-- Only zero starts with a zero, by induction on the number of digits. -/
theorem eq_zero_of_head_toDigits (n : ℕ) (h : (Nat.toDigits 10 n).head? = some '0') : n = 0 := by
  induction n using Nat.strong_induction_on with
  | _ n ih =>
    by_cases hsmall : n < 10
    · rw [Nat.toDigits_of_lt_base hsmall] at h
      interval_cases n
      · rfl
      all_goals exact absurd (Option.some.inj h) (by decide)
    · rw [Nat.toDigits_of_base_le (by decide) (Nat.le_of_not_lt hsmall), List.head?_append,
        Option.or_of_isSome (by simp [Nat.toDigits_ne_nil])] at h
      have hzero := ih (n / 10) (Nat.div_lt_self (by omega) (by decide)) h
      omega

/-- Decimal digits are a number. -/
theorem isNatural_toDigits (n : ℕ) : IsNatural (Nat.toDigits 10 n) := by
  refine ⟨⟨Nat.toDigits_ne_nil, fun c hc => ?_⟩, fun hhead => ?_⟩
  · exact Nat.isDigit_of_mem_toDigits (by decide) (by decide) hc
  · rw [eq_zero_of_head_toDigits n hhead]
    rfl

/-- The digits of a natural number are a number. -/
theorem isNumber_toDigits (n : ℕ) : IsNumber (Nat.toDigits 10 n) :=
  ⟨[], _, [], [], by simp, .inl rfl, isNatural_toDigits n, .inl rfl, .inl rfl⟩

/-- A minus sign and the digits of a natural number are a number. -/
theorem isNumber_negative (n : ℕ) : IsNumber ('-' :: Nat.toDigits 10 n) :=
  ⟨['-'], _, [], [], by simp, .inr rfl, isNatural_toDigits n, .inl rfl, .inl rfl⟩

/-- The place of a digit in ASCII. -/
theorem toNat_of_isDigit {c : Char} (h : c.isDigit = true) : 48 ≤ c.toNat ∧ c.toNat ≤ 57 := by
  simp only [Char.isDigit, Bool.and_eq_true, decide_eq_true_eq, UInt32.le_iff_toNat_le] at h
  exact h

/-- A natural number is printed in its digits. -/
theorem toList_nat (n : ℕ) : (toString n).toList = Nat.toDigits 10 n := by
  simp [Nat.toString_eq_repr, Nat.repr]

/-- Printed numbers are plain characters of ASCII. -/
theorem isPlain_nat (n : ℕ) : ∀ c ∈ (toString n).toList, c.toNat < 0x80 ∧ IsPlain c := by
  intro c hc
  rw [toList_nat] at hc
  have hdigit := toNat_of_isDigit (Nat.isDigit_of_mem_toDigits (by decide) (by decide) hc)
  have hne {other : Char} (hother : other.toNat < 48 ∨ 57 < other.toNat) : c ≠ other := by
    rintro rfl
    omega
  exact ⟨by omega, by omega, hne (.inl (by decide)), hne (.inr (by decide))⟩

/-- An integer is printed in plain characters. -/
theorem isPlain_int (n : Int) : ∀ c ∈ (toString n).toList, c.toNat < 0x80 ∧ IsPlain c := by
  cases n with
  | ofNat n => exact isPlain_nat n
  | negSucc n =>
    have htext : toString (Int.negSucc n) = "-" ++ toString (n + 1) := rfl
    rw [htext, String.toList_append]
    have hminus : ∀ c ∈ "-".toList, c.toNat < 0x80 ∧ IsPlain c :=
      List.forall_mem_singleton.mpr (by decide)
    exact List.forall_mem_append.mpr ⟨hminus, isPlain_nat (n + 1)⟩

/-- A printed integer is a number. -/
theorem isNumber_int (n : Int) : IsNumber (toString n).toList := by
  cases n with
  | ofNat n =>
    have htext : (toString (Int.ofNat n)).toList = Nat.toDigits 10 n := toList_nat n
    rw [htext]
    exact isNumber_toDigits n
  | negSucc n =>
    have htext : toString (Int.negSucc n) = "-" ++ toString (n + 1) := rfl
    rw [htext, String.toList_append, toList_nat]
    exact isNumber_negative (n + 1)

/-- No two integers are printed alike. -/
theorem toString_int_injective {a b : Int} (h : (toString a).toList = (toString b).toList) :
    a = b := by
  have hnat {n m : ℕ} (hnm : (toString n).toList = (toString m).toList) : n = m := by
    rw [toList_nat, toList_nat] at hnm
    rw [← Nat.ofDigitChars_ten_toDigits (n := n), hnm, Nat.ofDigitChars_ten_toDigits]
  have hsign {n m : ℕ} (hnm : (toString n).toList = "-".toList ++ (toString m).toList) : False := by
    have hmem : '-' ∈ (toString n).toList := by
      rw [hnm]
      exact List.mem_append_left _ (by decide)
    rw [toList_nat] at hmem
    exact absurd (Nat.isDigit_of_mem_toDigits (by decide) (by decide) hmem) (by decide)
  have hnegative (n : ℕ) : (toString (Int.negSucc n)).toList =
      "-".toList ++ (toString (n + 1)).toList := by
    have htext : toString (Int.negSucc n) = "-" ++ toString (n + 1) := rfl
    rw [htext, String.toList_append]
  cases a with
  | ofNat n =>
    cases b with
    | ofNat m => exact congrArg Int.ofNat (hnat h)
    | negSucc m => exact (hsign (h.trans (hnegative m))).elim
  | negSucc n =>
    cases b with
    | ofNat m => exact (hsign (h.symm.trans (hnegative n))).elim
    | negSucc m =>
      rw [hnegative, hnegative] at h
      have hnext := hnat (List.append_cancel_left h)
      exact congrArg Int.negSucc (Nat.succ.inj hnext)

/-- The text of a number denotes it. -/
theorem denotes_number (h : IsNumber text) : Denotes text (.number text) := by
  refine ⟨text, [], skips_self _, ?_, skips_self _⟩
  have hreads : Reads (text ++ []) (.number text) [] := .number h
  rw [List.append_nil] at hreads
  exact hreads

/-- A quote opens a string. -/
theorem Reads.of_quote (h : Reads ('"' :: chars) value rest) :
    ∃ text, value = .str text ∧ Body chars text rest := by
  generalize hall : '"' :: chars = all at h
  cases h with
  | str hbody =>
    obtain ⟨-, rfl⟩ := List.cons.inj hall
    exact ⟨_, rfl, hbody⟩
  | number hnumber =>
    obtain ⟨c, _, rfl, hc⟩ := hnumber.exists_head
    obtain ⟨rfl, -⟩ := List.cons.inj hall
    exact absurd hc (by decide)
  | _ => exact absurd (List.cons.inj hall).1 (by decide)

/-- A brace opens an object, with members when a quote follows. -/
theorem Reads.of_brace (h : Reads ('{' :: '"' :: chars) value rest) :
    ∃ members, value = .obj members ∧ ReadsMembers ('"' :: chars) members rest := by
  generalize hall : '{' :: '"' :: chars = all at h
  cases h with
  | obj hmembers =>
    obtain ⟨-, rfl⟩ := List.cons.inj hall
    exact ⟨_, rfl, hmembers⟩
  | emptyObj hskips =>
    obtain ⟨-, rfl⟩ := List.cons.inj hall
    exact absurd (hskips.eq_of_not_blank (by decide)) (by simp)
  | number hnumber =>
    obtain ⟨c, _, rfl, hc⟩ := hnumber.exists_head
    obtain ⟨rfl, -⟩ := List.cons.inj hall
    exact absurd hc (by decide)
  | _ => exact absurd (List.cons.inj hall).1 (by decide)

/-- A plain key and an opening quote leave the string of the member to read. -/
theorem body_of_member {a b c d e said : List Char} (hkey : ∀ c ∈ key, IsPlain c)
    (ha : Skips ('"' :: (key ++ '"' :: ':' :: '"' :: chars)) ('"' :: a)) (hsaid : Body a said b)
    (hb : Skips b (':' :: c)) (hc : Skips c d) (hvalue : Reads d value e) :
    said = key ∧ ∃ text, value = .str text ∧ Body chars text e := by
  obtain rfl : a = key ++ '"' :: ':' :: '"' :: chars :=
    (List.cons.inj (ha.eq_of_not_blank (by decide))).2
  obtain ⟨rfl, rfl⟩ := hsaid.eq_of_plain hkey
  obtain rfl : c = '"' :: chars := (List.cons.inj (hb.eq_of_not_blank (by decide))).2
  obtain rfl : d = '"' :: chars := hc.eq_of_not_blank (by decide)
  exact ⟨rfl, hvalue.of_quote⟩

/-- The first member of an object, with a plain key and a string, and what is
behind the string. -/
theorem ReadsMembers.of_string (hkey : ∀ c ∈ key, IsPlain c)
    (h : ReadsMembers ('"' :: (key ++ '"' :: ':' :: '"' :: chars)) members rest) :
    ∃ said behind others, members = (key, .str said) :: others ∧ Body chars said behind ∧
      (Skips behind ('}' :: rest) ∨
        ∃ next, Skips behind (',' :: next) ∧ ReadsMembers next others rest) := by
  cases h with
  | last ha hsaid hb hc hvalue hd =>
    obtain ⟨rfl, text, rfl, hbody⟩ := body_of_member hkey ha hsaid hb hc hvalue
    exact ⟨text, _, [], rfl, hbody, .inl hd⟩
  | cons ha hsaid hb hc hvalue hd hmembers =>
    obtain ⟨rfl, text, rfl, hbody⟩ := body_of_member hkey ha hsaid hb hc hvalue
    exact ⟨text, _, _, rfl, hbody, .inr ⟨_, hd, hmembers⟩⟩

/-- A member with a plain key and a plain string in front of another one. -/
theorem ReadsMembers.of_plain (hkey : ∀ c ∈ key, IsPlain c) (htext : ∀ c ∈ text, IsPlain c)
    (h : ReadsMembers ('"' :: (key ++ '"' :: ':' :: '"' :: (text ++ '"' :: ',' :: more)))
      members rest) :
    ∃ others, members = (key, .str text) :: others ∧ ReadsMembers more others rest := by
  obtain ⟨said, behind, others, rfl, hbody, hbehind⟩ := h.of_string hkey
  obtain ⟨rfl, rfl⟩ := hbody.eq_of_plain htext
  rcases hbehind with hend | ⟨next, hnext, hothers⟩
  · exact absurd (List.cons.inj (hend.eq_of_not_blank (by decide))).1 (by decide)
  · obtain rfl : next = more := (List.cons.inj (hnext.eq_of_not_blank (by decide))).2
    exact ⟨others, rfl, hothers⟩

/-! ### UTF-8 -/

/-- The bytes of a text. -/
def utf8 (text : List Char) : List UInt8 := text.flatMap String.utf8EncodeChar

/-- The bytes of appended characters are those of the one before those of the other. -/
theorem utf8_append (first second : List Char) :
    utf8 (first ++ second) = utf8 first ++ utf8 second := List.flatMap_append

/-- No two texts have the same bytes. -/
theorem utf8_injective {first second : List Char} (h : utf8 first = utf8 second) :
    first = second := by
  have hbytes : (String.ofList first).toByteArray = (String.ofList second).toByteArray := by
    rw [String.toByteArray_ofList, String.toByteArray_ofList]
    exact congrArg List.toByteArray h
  exact String.ofList_injective (String.toByteArray_inj.mp hbytes)

/-- A character of ASCII is one byte. -/
theorem utf8EncodeChar_of_ascii {c : Char} (h : c.toNat < 0x80) :
    String.utf8EncodeChar c = [c.toNat.toUInt8] := by
  unfold String.utf8EncodeChar
  exact if_pos (Nat.lt_succ_iff.mp h)

/-- The bytes of any other are above those of ASCII. -/
theorem le_of_mem_utf8EncodeChar {c : Char} (h : ¬c.toNat < 0x80) {byte : UInt8}
    (hbyte : byte ∈ String.utf8EncodeChar c) : 0x80 ≤ byte.toNat := by
  have hofNat {n : ℕ} (hlow : 0x80 ≤ n) (hhigh : n < 2^8) : 0x80 ≤ (UInt8.ofNat n).toNat := by
    rw [UInt8.toNat_ofNat', Nat.mod_eq_of_lt hhigh]
    exact hlow
  have hsmall : ¬c.val.toNat ≤ 0x7f := fun hle => h (Nat.lt_succ_of_le hle)
  unfold String.utf8EncodeChar at hbyte
  dsimp only at hbyte
  rw [if_neg hsmall] at hbyte
  split at hbyte
  · simp only [List.mem_cons, List.not_mem_nil, or_false] at hbyte
    rcases hbyte with rfl | rfl <;> exact hofNat (by omega) (by omega)
  split at hbyte
  · simp only [List.mem_cons, List.not_mem_nil, or_false] at hbyte
    rcases hbyte with rfl | rfl | rfl <;> exact hofNat (by omega) (by omega)
  · simp only [List.mem_cons, List.not_mem_nil, or_false] at hbyte
    rcases hbyte with rfl | rfl | rfl | rfl <;> exact hofNat (by omega) (by omega)

/-- A text of ASCII has its characters as its bytes. -/
theorem utf8_of_ascii (h : ∀ c ∈ text, c.toNat < 0x80) :
    utf8 text = text.map fun c => c.toNat.toUInt8 := by
  have hsingle := List.flatMap_congr (g := fun c : Char => [c.toNat.toUInt8])
    fun c hc => utf8EncodeChar_of_ascii (h c hc)
  rw [utf8, hsingle]
  exact List.map_eq_flatMap.symm

/-- A byte that stands for itself in a string. -/
def IsPlainByte (byte : UInt8) : Prop :=
  0x20 ≤ byte.toNat ∧ byte.toNat ≠ '"'.toNat ∧ byte.toNat ≠ '\\'.toNat

instance isPlainByteDecidable (byte : UInt8) : Decidable (IsPlainByte byte) :=
  inferInstanceAs (Decidable (_ ∧ _))

/-- A character is plain exactly when its bytes are. -/
theorem isPlain_iff (c : Char) :
    IsPlain c ↔ ∀ byte ∈ String.utf8EncodeChar c, IsPlainByte byte := by
  by_cases hascii : c.toNat < 0x80
  · have hbyte : (c.toNat.toUInt8).toNat = c.toNat := Nat.mod_eq_of_lt (by omega)
    rw [utf8EncodeChar_of_ascii hascii, List.forall_mem_singleton, IsPlainByte, hbyte, IsPlain]
    simp only [ne_eq, Char.toNat_inj]
  · have hne {other : Char} (hother : other.toNat < 0x80) : c ≠ other := by
      rintro rfl
      exact hascii hother
    refine iff_of_true ⟨by omega, hne (by decide), hne (by decide)⟩ fun byte hbyte => ?_
    have hle := le_of_mem_utf8EncodeChar hascii hbyte
    have hquote : '"'.toNat < 0x80 := by decide
    have hbackslash : '\\'.toNat < 0x80 := by decide
    exact ⟨by omega, by omega, by omega⟩

/-- A text is plain exactly when its bytes are. -/
theorem isPlain_text_iff (text : List Char) :
    (∀ c ∈ text, IsPlain c) ↔ ∀ byte ∈ utf8 text, IsPlainByte byte := by
  constructor
  · intro h byte hbyte
    obtain ⟨c, hc, hmem⟩ := List.mem_flatMap.mp hbyte
    exact (isPlain_iff c).mp (h c hc) byte hmem
  · intro h c hc
    exact (isPlain_iff c).mpr fun byte hbyte => h byte (List.mem_flatMap.mpr ⟨c, hc, hbyte⟩)

end ProjEsp32.JsonText
