import Mathlib.Data.List.Basic

/-!
# Ring buffers

A queue in an array of fixed size: the values lie from the head on, wrapping
at the end, and the tail is the place of the next one. A full buffer takes
nothing more. `contents` is the queue that the buffer stands for.
-/

namespace ProjEsp32.RingBuffer

variable {D : Type*} {size : ℕ}

/-- A ring buffer whose three indices agree. -/
structure Ring (D : Type*) (size : ℕ) where
  /-- The array, by index. -/
  queue : ℕ → D
  /-- Where the oldest element is. -/
  head : ℕ
  /-- Where the next one goes. -/
  tail : ℕ
  /-- How many elements there are. -/
  count : ℕ
  /-- The head is an index of the array. -/
  head_lt : head < size
  /-- There are no more than it has room for. -/
  count_le : count ≤ size
  /-- The tail lies behind the last of them. -/
  tail_eq : tail = (head + count) % size

namespace Ring

/-- The values in the buffer, oldest first. -/
def contents (r : Ring D size) : List D :=
  (List.range r.count).map fun i => r.queue ((r.head + i) % size)

/-- A ring holds as many elements as it counts. -/
@[simp] theorem length_contents (r : Ring D size) : r.contents.length = r.count := by
  rw [contents, List.length_map, List.length_range]

/-- A buffer without values; what the array holds does not matter. -/
def empty (hsize : 0 < size) (initial : D) : Ring D size where
  queue := fun _ => initial
  head := 0
  tail := 0
  count := 0
  head_lt := hsize
  count_le := Nat.zero_le size
  tail_eq := (Nat.zero_mod size).symm

/-- The value is written at the tail, unless the buffer is full. -/
def push (value : D) (r : Ring D size) : Option (Ring D size) :=
  if h : r.count < size then
    some { r with
      queue := fun i => if i = r.tail then value else r.queue i
      tail := (r.tail + 1) % size
      count := r.count + 1
      count_le := h
      tail_eq := by rw [r.tail_eq, Nat.mod_add_mod, Nat.add_assoc] }
  else none

/-- The value at the head, and the buffer after it. -/
def pop (r : Ring D size) : Option (D × Ring D size) :=
  if h : 0 < r.count then
    some (r.queue r.head, { r with
      head := (r.head + 1) % size
      count := r.count - 1
      head_lt := Nat.mod_lt _ (Nat.zero_lt_of_lt r.head_lt)
      count_le := Nat.le_trans (Nat.sub_le _ _) r.count_le
      tail_eq := by
        have hcount : r.head + 1 + (r.count - 1) = r.head + r.count := by omega
        rw [r.tail_eq, Nat.mod_add_mod, hcount] })
  else none

/-- Two places within one turn are different. -/
theorem index_ne {head i j : ℕ} (hhead : head < size) (hij : i < j) (hj : j < size) :
    (head + i) % size ≠ (head + j) % size := by
  have hindex (k : ℕ) (hk : k < size) :
      (head + k) % size = if head + k < size then head + k else head + k - size := by
    by_cases hwrap : head + k < size
    · rw [if_pos hwrap, Nat.mod_eq_of_lt hwrap]
    · rw [if_neg hwrap, Nat.mod_eq_sub_mod (by omega), Nat.mod_eq_of_lt (by omega)]
  rw [hindex i (by omega), hindex j hj]
  split <;> split <;> omega

/-- What is pushed comes last. -/
theorem contents_push {value : D} {r t : Ring D size} (h : r.push value = some t) :
    t.contents = r.contents ++ [value] := by
  unfold push at h
  split at h
  · rename_i hcount
    cases h
    have hold : ∀ i ∈ List.range r.count,
        (if (r.head + i) % size = r.tail then value else r.queue ((r.head + i) % size)) =
          r.queue ((r.head + i) % size) := by
      intro i hi
      rw [r.tail_eq, if_neg (index_ne r.head_lt (List.mem_range.mp hi) hcount)]
    have hnew : (if (r.head + r.count) % size = r.tail then value
        else r.queue ((r.head + r.count) % size)) = value := if_pos r.tail_eq.symm
    rw [contents, List.range_succ, List.map_append, contents, ← List.map_congr_left hold]
    simp only [List.map_cons, List.map_nil, hnew]
  · cases h

/-- Only a full buffer takes nothing. -/
theorem push_eq_none {value : D} {r : Ring D size} : r.push value = none ↔ r.count = size := by
  unfold push
  have hle := r.count_le
  split
  · simp
    omega
  · simp
    omega

/-- What is popped came first. -/
theorem contents_pop {value : D} {r t : Ring D size} (h : r.pop = some (value, t)) :
    r.contents = value :: t.contents := by
  unfold pop at h
  split at h
  · rename_i hcount
    cases h
    have hrange : List.range r.count = 0 :: (List.range (r.count - 1)).map Nat.succ := by
      have hsucc : r.count = r.count - 1 + 1 := by omega
      rw [← List.range_succ_eq_map, ← hsucc]
    rw [contents, hrange, List.map_cons, List.map_map, contents]
    congr 1
    · rw [Nat.add_zero, Nat.mod_eq_of_lt r.head_lt]
    · refine List.map_congr_left fun i _ => ?_
      have hnext : r.head + (i + 1) = r.head + 1 + i := by omega
      simp only [Function.comp, hnext, Nat.mod_add_mod, Nat.succ_eq_add_one]
  · cases h

/-- Only an empty buffer gives nothing. -/
theorem pop_eq_none {r : Ring D size} : r.pop = none ↔ r.contents = [] := by
  rw [← List.length_eq_zero_iff, length_contents]
  unfold pop
  split
  · simp
    omega
  · simp
    omega

end Ring

end ProjEsp32.RingBuffer
