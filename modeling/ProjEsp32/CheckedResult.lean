import Mathlib.Data.List.Basic

/-!
# Functions that refuse with an error text

Fallible code is written in `Except String`. A check of the source that sets
the error and returns false is `refuseIf`; the lemmas take a successful chain
of checks apart, one check at a time.
-/

namespace ProjEsp32.CheckedResult

variable {α β ε : Type}

/-- `if (refused) { error = text; return false; }`. -/
def refuseIf (refused : Bool) (text : String) : Except String Unit :=
  if refused then .error text else .ok ()

/-- A check that let the code pass found nothing to refuse. -/
@[simp] theorem refuseIf_eq_ok {refused : Bool} {text : String} {u : Unit} :
    refuseIf refused text = .ok u ↔ refused = false := by
  cases refused <;> simp [refuseIf]

/-- A chain succeeds exactly when its first part does and hands on to a
successful rest. -/
@[simp] theorem bind_eq_ok {first : Except ε α} {rest : α → Except ε β} {result : β} :
    (first >>= rest) = .ok result ↔ ∃ a, first = .ok a ∧ rest a = .ok result := by
  cases first with
  | error e => simp [bind, Except.bind]
  | ok a => simp [bind, Except.bind]

/-- The value of an optional answer, or the error that stands for its absence. -/
def orRefuse (answer : Option α) (text : String) : Except String α :=
  match answer with
  | some value => .ok value
  | none => .error text

/-- `orRefuse` returns the answer, where there is one. -/
@[simp] theorem orRefuse_eq_ok {answer : Option α} {text : String} {value : α} :
    orRefuse answer text = .ok value ↔ answer = some value := by
  cases answer <;> simp [orRefuse]

/-- Every error text of the result satisfies the predicate. -/
def RefusesWith (P : String → Prop) (result : Except String α) : Prop :=
  ∀ text, result = .error text → P text

variable {P Q : String → Prop}

/-- A refusal within the first texts is one within the second. -/
theorem RefusesWith.imp (hPQ : ∀ text, P text → Q text) {result : Except String α}
    (h : RefusesWith P result) : RefusesWith Q result :=
  fun text herror => hPQ text (h text herror)

/-- An error refuses with its own text. -/
theorem refusesWith_error {text : String} (h : P text) :
    RefusesWith P (.error text : Except String α) := by
  intro other herror
  cases herror
  exact h

/-- What succeeds refuses with no text. -/
theorem refusesWith_ok (value : α) : RefusesWith P (.ok value : Except String α) :=
  fun _ herror => by cases herror

/-- `refuseIf` refuses with the text that it is given. -/
theorem refusesWith_refuseIf {refused : Bool} {text : String} (h : P text) :
    RefusesWith P (refuseIf refused text) := by
  cases refused with
  | false => exact refusesWith_ok ()
  | true => exact refusesWith_error h

/-- `orRefuse` refuses with the text that it is given. -/
theorem refusesWith_orRefuse {answer : Option α} {text : String} (h : P text) :
    RefusesWith P (orRefuse answer text) := by
  cases answer with
  | some value => exact refusesWith_ok value
  | none => exact refusesWith_error h

/-- A chain refuses with the texts of its parts. -/
theorem RefusesWith.bind {first : Except String α} {rest : α → Except String β}
    (hfirst : RefusesWith P first) (hrest : ∀ a, RefusesWith P (rest a)) :
    RefusesWith P (first >>= rest) := by
  intro text herror
  cases first with
  | error other =>
    cases herror
    exact hfirst _ rfl
  | ok a => exact hrest a text herror

end ProjEsp32.CheckedResult
