import Mathlib.Data.List.Basic

/-!
# Loops over an index

Two loops that count an index up and leave early: one that asks a question at every
index and ends at the first no, and one that makes a check at every index and ends at
the first refusal. Both are brought to a statement about all indices, and to one about
all elements where the index runs over a list.
-/

namespace ProjEsp32.IndexLoops

variable {α β ε : Type}

/-- `for (; turns != 0; --turns, ++index) if (!ok(index)) return false; return true;` -/
def allFrom (ok : ℕ → Bool) : (turns index : ℕ) → Bool
  | 0, _ => true
  | turns + 1, index => if !ok index then false else allFrom ok turns (index + 1)

/-- The same loop around a check that refuses with an error. -/
def checkFrom (check : ℕ → Except ε Unit) : (turns index : ℕ) → Except ε Unit
  | 0, _ => .ok ()
  | turns + 1, index =>
    match check index with
    | .error error => .error error
    | .ok () => checkFrom check turns (index + 1)

/-- A turn of the second loop is a check in front of the turns behind it. -/
theorem checkFrom_succ (check : ℕ → Except ε Unit) (turns index : ℕ) :
    checkFrom check (turns + 1) index = check index >>= fun _ => checkFrom check turns (index + 1)
    := by
  rw [checkFrom]
  cases check index <;> rfl

/-- The indices of one more turn: the first, and those of the turns behind it. -/
theorem forall_succ {P : ℕ → Prop} {turns index : ℕ} :
    (∀ k, index ≤ k → k < index + (turns + 1) → P k) ↔
      P index ∧ ∀ k, index + 1 ≤ k → k < index + 1 + turns → P k := by
  constructor
  · intro h
    exact ⟨h index (Nat.le_refl index) (by omega), fun k hle hlt => h k (by omega) (by omega)⟩
  · rintro ⟨hfirst, hrest⟩ k hle hlt
    obtain heq | hlater := Nat.eq_or_lt_of_le hle
    · rwa [← heq]
    · exact hrest k hlater (by omega)

/-- The first loop runs to its end exactly when the answer is yes at every index. -/
theorem allFrom_eq_true {ok : ℕ → Bool} {turns index : ℕ} :
    allFrom ok turns index = true ↔ ∀ k, index ≤ k → k < index + turns → ok k = true := by
  induction turns generalizing index with
  | zero =>
    refine ⟨fun _ k hle hlt => ?_, fun _ => rfl⟩
    omega
  | succ turns ih =>
    rw [forall_succ, ← ih, allFrom]
    cases ok index <;> simp

/-- The second loop runs to its end exactly when no index is refused. -/
theorem checkFrom_eq_ok {check : ℕ → Except ε Unit} {turns index : ℕ} :
    checkFrom check turns index = .ok () ↔
      ∀ k, index ≤ k → k < index + turns → check k = .ok () := by
  induction turns generalizing index with
  | zero =>
    refine ⟨fun _ k hle hlt => ?_, fun _ => rfl⟩
    omega
  | succ turns ih =>
    rw [forall_succ, ← ih, checkFrom]
    cases hcheck : check index with
    | error error => simp
    | ok u => simp

/-- It refuses with the error of one of its checks. -/
theorem checkFrom_eq_error {check : ℕ → Except ε Unit} {turns index : ℕ} {error : ε}
    (h : checkFrom check turns index = .error error) : ∃ k, check k = .error error := by
  induction turns generalizing index with
  | zero => cases h
  | succ turns ih =>
    rw [checkFrom] at h
    cases hcheck : check index with
    | error other =>
      rw [hcheck] at h
      cases h
      exact ⟨index, hcheck⟩
    | ok u =>
      rw [hcheck] at h
      exact ih h

/-- Every index of a list, and every element of it. -/
theorem forall_index {P : α → Prop} {elements : List α} (default : α) :
    (∀ k, 0 ≤ k → k < 0 + elements.length → P ((elements[k]?).getD default)) ↔
      ∀ element ∈ elements, P element := by
  constructor
  · intro h element hmem
    obtain ⟨k, hk, hget⟩ := List.mem_iff_getElem.mp hmem
    have hat := h k (Nat.zero_le k) (by omega)
    rwa [List.getElem?_eq_getElem hk, Option.getD_some, hget] at hat
  · intro h k _ hlt
    have hk : k < elements.length := by omega
    rw [List.getElem?_eq_getElem hk, Option.getD_some]
    exact h _ (List.getElem_mem hk)

/-- The keys of a list are pairwise distinct exactly when no element has the key of an
earlier one. -/
theorem nodup_map_iff {key : α → β} {elements : List α} (default : α) :
    (elements.map key).Nodup ↔ ∀ i, i < elements.length → ∀ j, j < i →
      key ((elements[j]?).getD default) ≠ key ((elements[i]?).getD default) := by
  rw [List.nodup_iff_pairwise_ne, List.pairwise_map, List.pairwise_iff_getElem]
  constructor
  · intro h i hi j hj
    have hlt := Nat.lt_trans hj hi
    rw [List.getElem?_eq_getElem hlt, List.getElem?_eq_getElem hi, Option.getD_some,
      Option.getD_some]
    exact h j i hlt hi hj
  · intro h j i hj hi hlt
    have hne := h i hi j hlt
    rwa [List.getElem?_eq_getElem hj, List.getElem?_eq_getElem hi, Option.getD_some,
      Option.getD_some] at hne

end ProjEsp32.IndexLoops
