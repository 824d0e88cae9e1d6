import Mathlib.Data.Nat.Notation

/-!
# Two slots

Two places for a value, addressed by an index: zero is the first place and
every other index the second one. A store that keeps one of them in use writes
the other one and then changes the index, so that the value in use is never
overwritten.
-/

namespace ProjEsp32.TwoSlots

variable {D : Type*}

/-- Two slots. -/
structure Slots (D : Type*) where
  /-- The value at index 0. -/
  slot0 : D
  /-- The value at index 1. -/
  slot1 : D
  deriving DecidableEq

/-- The other one of the two indices. -/
def otherSlot (slot : ℕ) : ℕ := if slot = 0 then 1 else 0

/-- The value at an index. -/
def Slots.get (slots : Slots D) (slot : ℕ) : D := if slot = 0 then slots.slot0 else slots.slot1

/-- The slots with a new value at an index. -/
def Slots.set (slots : Slots D) (slot : ℕ) (value : D) : Slots D :=
  if slot = 0 then { slots with slot0 := value } else { slots with slot1 := value }

/-- What is written is read at every index of the same place. -/
theorem Slots.get_set_of_same {slot index : ℕ} (h : slot = 0 ↔ index = 0) (slots : Slots D)
    (value : D) : (slots.set slot value).get index = value := by
  unfold set get
  by_cases hslot : slot = 0
  · rw [if_pos hslot, if_pos (h.mp hslot)]
  · rw [if_neg hslot, if_neg fun hindex => hslot (h.mpr hindex)]

/-- Writing one place leaves the other place alone. -/
theorem Slots.get_set_of_not_same {slot index : ℕ} (h : ¬(slot = 0 ↔ index = 0))
    (slots : Slots D) (value : D) : (slots.set slot value).get index = slots.get index := by
  unfold set get
  by_cases hslot : slot = 0
  · have hindex : index ≠ 0 := by omega
    rw [if_pos hslot, if_neg hindex, if_neg hindex]
  · have hindex : index = 0 := by omega
    rw [if_neg hslot, if_pos hindex, if_pos hindex]

/-- What is written can be read. -/
@[simp] theorem Slots.get_set (slots : Slots D) (slot : ℕ) (value : D) :
    (slots.set slot value).get slot = value := get_set_of_same Iff.rfl slots value

/-- The two indices are of different places. -/
theorem otherSlot_not_same (slot : ℕ) : ¬(otherSlot slot = 0 ↔ slot = 0) := by
  unfold otherSlot
  by_cases hslot : slot = 0
  · simp [hslot]
  · simp [hslot]

/-- Writing the other slot leaves this one alone. -/
@[simp] theorem Slots.get_set_other (slots : Slots D) (slot : ℕ) (value : D) :
    (slots.set (otherSlot slot) value).get slot = slots.get slot :=
  get_set_of_not_same (otherSlot_not_same slot) slots value

/-- The other one of the other one. -/
@[simp] theorem otherSlot_otherSlot {slot : ℕ} (h : slot ≤ 1) :
    otherSlot (otherSlot slot) = slot := by
  unfold otherSlot
  by_cases hslot : slot = 0
  · simp [hslot]
  · simp only [hslot, if_false, if_true]
    omega

/-- The other index is one of the two. -/
theorem otherSlot_le (slot : ℕ) : otherSlot slot ≤ 1 := by
  unfold otherSlot
  split
  · exact Nat.le_refl 1
  · exact Nat.zero_le 1

end ProjEsp32.TwoSlots
