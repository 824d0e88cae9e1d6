import Mathlib.Data.List.Basic
import Mathlib.Data.List.TakeWhile

/-!
# Attribute values of HTML

A value in single quotes ends at the first single quote behind it, and its character
references are decoded. The table of named references belongs to whoever reads the
page; what is asked of it is that it knows the four references of the markup
characters. Escaping is character by character: an ampersand and the markup characters
become references, everything else stands for itself.
-/

namespace ProjEsp32.HtmlText

/-- The reading of character references: what the text behind an ampersand stands for,
and how many characters of it belong to the reference; none where the ampersand stands
for itself. -/
structure References where
  /-- What the text behind an ampersand stands for, with its length. -/
  reference : List Char → Option (List Char × ℕ)
  /-- `&amp;` is an ampersand, whatever comes behind it. -/
  amp : ∀ rest, reference ('a' :: 'm' :: 'p' :: ';' :: rest) = some (['&'], 4)
  /-- `&quot;` is a double quote. -/
  quot : ∀ rest, reference ('q' :: 'u' :: 'o' :: 't' :: ';' :: rest) = some (['"'], 5)
  /-- `&lt;` is a less-than sign. -/
  lt : ∀ rest, reference ('l' :: 't' :: ';' :: rest) = some (['<'], 3)
  /-- `&gt;` is a greater-than sign. -/
  gt : ∀ rest, reference ('g' :: 't' :: ';' :: rest) = some (['>'], 3)

/-- The references of the markup characters and of the apostrophe, without any others. -/
def basicReference : List Char → Option (List Char × ℕ)
  | 'a' :: 'm' :: 'p' :: ';' :: _ => some (['&'], 4)
  | 'q' :: 'u' :: 'o' :: 't' :: ';' :: _ => some (['"'], 5)
  | 'a' :: 'p' :: 'o' :: 's' :: ';' :: _ => some (['\''], 5)
  | 'l' :: 't' :: ';' :: _ => some (['<'], 3)
  | 'g' :: 't' :: ';' :: _ => some (['>'], 3)
  | _ => none

/-- A reader that knows those references. -/
def References.basic : References where
  reference := basicReference
  amp _ := rfl
  quot _ := rfl
  lt _ := rfl
  gt _ := rfl

/-- The text with its character references decoded; the first `skipped` characters
belong to a reference that has been read. -/
def decodeFrom (refs : References) : ℕ → List Char → List Char
  | _, [] => []
  | skipped + 1, _::rest => decodeFrom refs skipped rest
  | 0, c::rest =>
    if c = '&' then
      match refs.reference rest with
      | some (chars, length) => chars ++ decodeFrom refs length rest
      | none => '&' :: decodeFrom refs 0 rest
    else c :: decodeFrom refs 0 rest

/-- The text with its character references decoded. -/
def decode (refs : References) (text : List Char) : List Char := decodeFrom refs 0 text

/-- The value whose opening quote stands in front of `text`. -/
def attributeValue (refs : References) (text : List Char) : List Char :=
  decode refs (text.takeWhile fun c => c != '\'')

/-- The character as it is escaped. -/
def escapeChar (c : Char) : List Char :=
  if c = '&' then ['&', 'a', 'm', 'p', ';']
  else if c = '"' then ['&', 'q', 'u', 'o', 't', ';']
  else if c = '<' then ['&', 'l', 't', ';']
  else if c = '>' then ['&', 'g', 't', ';']
  else [c]

/-- The text, escaped character by character. -/
def escape (text : List Char) : List Char := text.flatMap escapeChar

/-! ### References -/

/-- The characters of a reference are passed over. -/
theorem decodeFrom_append (refs : References) (front rest : List Char) :
    decodeFrom refs front.length (front ++ rest) = decodeFrom refs 0 rest := by
  induction front with
  | nil => rfl
  | cons c front ih => exact ih

/-- A reference that is known stands for its characters. -/
theorem decode_reference {refs : References} (name : List Char) {chars rest : List Char}
    (h : refs.reference (name ++ rest) = some (chars, name.length)) :
    decode refs ('&' :: (name ++ rest)) = chars ++ decode refs rest := by
  have hdecode : decode refs ('&' :: (name ++ rest)) =
      chars ++ decodeFrom refs name.length (name ++ rest) := by
    rw [decode, decodeFrom, if_pos rfl, h]
  rw [hdecode, decodeFrom_append, decode]

/-- Any other character stands for itself. -/
theorem decode_cons {refs : References} {c : Char} (h : c ≠ '&') (rest : List Char) :
    decode refs (c::rest) = c :: decode refs rest := by
  rw [decode, decodeFrom, if_neg h, decode]

/-- An escaped character is read back, whatever comes behind it. -/
theorem decode_escapeChar (refs : References) (c : Char) (rest : List Char) :
    decode refs (escapeChar c ++ rest) = c :: decode refs rest := by
  unfold escapeChar
  split
  · rename_i hc
    rw [hc]
    exact decode_reference ['a', 'm', 'p', ';'] (refs.amp rest)
  · split
    · rename_i hc
      rw [hc]
      exact decode_reference ['q', 'u', 'o', 't', ';'] (refs.quot rest)
    · split
      · rename_i hc
        rw [hc]
        exact decode_reference ['l', 't', ';'] (refs.lt rest)
      · split
        · rename_i hc
          rw [hc]
          exact decode_reference ['g', 't', ';'] (refs.gt rest)
        · rename_i hamp _ _ _
          exact decode_cons hamp rest

/-- Decoding undoes escaping. -/
theorem decode_escape (refs : References) (text : List Char) :
    decode refs (escape text) = text := by
  induction text with
  | nil => rfl
  | cons c text ih =>
    have hescape : escape (c::text) = escapeChar c ++ escape text := rfl
    rw [hescape, decode_escapeChar, ih]

/-! ### What ends a value -/

/-- A single quote comes out of escaping exactly where it went in. -/
theorem quote_mem_escapeChar {c : Char} : '\'' ∈ escapeChar c ↔ c = '\'' := by
  unfold escapeChar
  split
  · rename_i hc
    simp [hc]
  · split
    · rename_i hc
      simp [hc]
    · split
      · rename_i hc
        simp [hc]
      · split
        · rename_i hc
          simp [hc]
        · rw [List.mem_singleton]
          exact eq_comm

/-- Escaping neither removes a single quote nor makes one. -/
theorem quote_mem_escape {text : List Char} : '\'' ∈ escape text ↔ '\'' ∈ text := by
  unfold escape
  rw [List.mem_flatMap]
  constructor
  · rintro ⟨c, hc, hquote⟩
    rwa [quote_mem_escapeChar.mp hquote] at hc
  · intro h
    exact ⟨'\'', h, quote_mem_escapeChar.mpr rfl⟩

/-- A less-than sign does not survive escaping. -/
theorem lt_notMem_escape (text : List Char) : '<' ∉ escape text := by
  unfold escape
  rw [List.mem_flatMap]
  rintro ⟨c, _, hlt⟩
  unfold escapeChar at hlt
  split at hlt
  · exact absurd hlt (by decide)
  · split at hlt
    · exact absurd hlt (by decide)
    · split at hlt
      · exact absurd hlt (by decide)
      · split at hlt
        · exact absurd hlt (by decide)
        · rename_i hne _
          exact hne (List.mem_singleton.mp hlt).symm

/-- Of an escaped text the escaped part before its first single quote is cut out. -/
theorem takeWhile_escape (text rest : List Char) :
    ((escape text ++ '\'' :: rest).takeWhile fun c => c != '\'') =
      escape (text.takeWhile fun c => c != '\'') := by
  induction text with
  | nil => rfl
  | cons c text ih =>
    have hescape (chars : List Char) : escape (c::chars) = escapeChar c ++ escape chars := rfl
    by_cases hc : c = '\''
    · rw [hc]
      rfl
    · have hkept : ∀ d ∈ escapeChar c, (d != '\'') = true := by
        intro d hd
        refine bne_iff_ne.mpr fun hquote => hc (quote_mem_escapeChar.mp ?_)
        rwa [hquote] at hd
      have hcut : ((c::text).takeWhile fun c => c != '\'') =
          c :: text.takeWhile fun c => c != '\'' :=
        List.takeWhile_cons_of_pos (p := fun c => c != '\'') (bne_iff_ne.mpr hc)
      rw [hescape, List.append_assoc, List.takeWhile_append_of_pos hkept, ih, hcut, hescape]

/-- What is read of an escaped text in single quotes: the text up to its first single
quote. -/
theorem attributeValue_escape (refs : References) (text rest : List Char) :
    attributeValue refs (escape text ++ '\'' :: rest) = text.takeWhile fun c => c != '\'' := by
  rw [attributeValue, takeWhile_escape, decode_escape]

/-- A text without a single quote is read whole, and no other text is. -/
theorem takeWhile_eq_self_iff {text : List Char} :
    (text.takeWhile fun c => c != '\'') = text ↔ '\'' ∉ text := by
  rw [List.takeWhile_eq_self_iff]
  constructor
  · intro h hquote
    exact absurd (h _ hquote) (by decide)
  · intro h c hc
    refine bne_iff_ne.mpr fun hquote => h ?_
    rwa [hquote] at hc

/-! ### Finding a place in a page -/

/-- The text behind the first `opening`. -/
def textAfter (opening : List Char) : List Char → Option (List Char)
  | [] => if opening = [] then some [] else none
  | c::rest =>
    if opening.isPrefixOf (c::rest) then some ((c::rest).drop opening.length)
    else textAfter opening rest

/-- No `opening` begins in `front`, whatever comes behind it. -/
def passes (opening : List Char) : List Char → Bool
  | [] => true
  | c::front =>
    !opening.isPrefixOf (c::front) && !(c::front).isPrefixOf opening && passes opening front

/-- Every part of such a front differs from the `opening` at some place. -/
theorem passes_cons {opening front : List Char} {c : Char} :
    passes opening (c::front) = true ↔
      ¬ opening <+: c::front ∧ ¬ c::front <+: opening ∧ passes opening front = true := by
  simp [passes, ← List.isPrefixOf_iff_prefix, and_assoc]

/-- Where a front and an `opening` differ, what comes behind the front changes nothing. -/
theorem not_prefix_append {opening front : List Char} (hlong : ¬ opening <+: front)
    (hshort : ¬ front <+: opening) (rest : List Char) :
    ¬ opening <+: front ++ rest ∧ ¬ front ++ rest <+: opening := by
  constructor
  · intro hprefix
    obtain h | h := List.prefix_or_prefix_of_prefix hprefix (List.prefix_append front rest)
    · exact hlong h
    · exact hshort h
  · intro hprefix
    exact hshort ((List.prefix_append front rest).trans hprefix)

/-- Two fronts one after the other. -/
theorem passes_append {opening left right : List Char} (hleft : passes opening left = true)
    (hright : passes opening right = true) : passes opening (left ++ right) = true := by
  induction left with
  | nil => exact hright
  | cons c left ih =>
    obtain ⟨hlong, hshort, hrest⟩ := passes_cons.mp hleft
    obtain ⟨hopening, hwhole⟩ := not_prefix_append hlong hshort right
    exact passes_cons.mpr ⟨hopening, hwhole, ih hrest⟩

/-- No `opening` begins in a front without its first character. -/
theorem passes_of_notMem {c : Char} {front : List Char} (h : c ∉ front) (opening : List Char) :
    passes (c::opening) front = true := by
  induction front with
  | nil => rfl
  | cons d front ih =>
    obtain ⟨hne, hfront⟩ := List.ne_and_not_mem_of_not_mem_cons h
    refine passes_cons.mpr ⟨fun hprefix => hne ?_, fun hprefix => hne ?_, ih hfront⟩
    · exact (List.cons_prefix_cons.mp hprefix).1
    · exact (List.cons_prefix_cons.mp hprefix).1.symm

/-- The characters of two literals are compared, not their bytes. -/
theorem passes_ofList {opening front : List Char} (h : passes opening front = true) :
    passes (String.ofList opening).toList (String.ofList front).toList = true := by
  rwa [String.toList_ofList, String.toList_ofList]

/-- An `opening` at the beginning is found. -/
theorem textAfter_opening (opening rest : List Char) :
    textAfter opening (opening ++ rest) = some rest := by
  cases hchars : opening ++ rest with
  | nil =>
    obtain ⟨hopening, hrest⟩ := List.append_eq_nil_iff.mp hchars
    rw [textAfter, if_pos hopening, hrest]
  | cons c chars =>
    have hprefix : opening.isPrefixOf (c::chars) = true := by
      rw [List.isPrefixOf_iff_prefix, ← hchars]
      exact List.prefix_append opening rest
    rw [textAfter, if_pos hprefix, ← hchars, List.drop_left]

/-- A front in which no `opening` begins is passed over. -/
theorem textAfter_append {opening front : List Char} (h : passes opening front = true)
    (rest : List Char) : textAfter opening (front ++ rest) = textAfter opening rest := by
  induction front with
  | nil => rfl
  | cons c front ih =>
    obtain ⟨hlong, hshort, hfront⟩ := passes_cons.mp h
    have hno : ¬ opening.isPrefixOf (c :: (front ++ rest)) = true := by
      rw [List.isPrefixOf_iff_prefix]
      exact (not_prefix_append hlong hshort rest).1
    rw [List.cons_append, textAfter, if_neg hno, ih hfront]

end ProjEsp32.HtmlText
