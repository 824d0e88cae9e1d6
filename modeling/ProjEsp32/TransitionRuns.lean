import Mathlib.Data.List.Basic

/-!
# Runs of a transition system

A system is a total step function over labels; a label that is not possible
in a state is a step that leaves it alone. A run is a list of labels. What
one step preserves is lifted here, once, to what every run preserves, with or
without a condition on the steps that are taken.
-/

namespace ProjEsp32.TransitionRuns

variable {State Label : Type*} {step : State → Label → State}
variable {P Q : State → Label → Prop} {I : State → Prop}

/-- The state after the labels of a run, taken in order. -/
def run (step : State → Label → State) (start : State) (labels : List Label) : State :=
  labels.foldl step start

/-- The empty run stays. -/
@[simp] theorem run_nil (start : State) : run step start [] = start := rfl

/-- A run takes its first label and runs on. -/
@[simp] theorem run_cons (start : State) (label : Label) (labels : List Label) :
    run step start (label::labels) = run step (step start label) labels := rfl

/-- A run splits at any point. -/
@[simp] theorem run_append (start : State) (first second : List Label) :
    run step start (first ++ second) = run step (run step start first) second :=
  List.foldl_append

/-- Each step of the run has the property, at the state that the step meets. -/
def Throughout (step : State → Label → State) (P : State → Label → Prop) :
    State → List Label → Prop
  | _, [] => True
  | start, label::labels => P start label ∧ Throughout step P (step start label) labels

instance Throughout.decidable [∀ s l, Decidable (P s l)] :
    ∀ start labels, Decidable (Throughout step P start labels)
  | _, [] => inferInstanceAs (Decidable True)
  | start, label::labels =>
    have := Throughout.decidable (step start label) labels
    inferInstanceAs (Decidable (_ ∧ _))

/-- The recursion reads every prefix of the run. -/
theorem throughout_iff (start : State) (labels : List Label) :
    Throughout step P start labels ↔
      ∀ before label after, labels = before ++ label::after → P (run step start before) label := by
  induction labels generalizing start with
  | nil => simp [Throughout]
  | cons head tail ih =>
    constructor
    · rintro ⟨hhead, htail⟩ before label after hsplit
      cases before with
      | nil =>
        cases hsplit
        exact hhead
      | cons front before =>
        cases hsplit
        exact (ih (step start head)).mp htail before label after rfl
    · intro h
      refine ⟨h [] head tail rfl, (ih (step start head)).mpr ?_⟩
      intro before label after hsplit
      exact h (head::before) label after (by rw [hsplit]; rfl)

/-- A condition on the labels alone holds at each step when it holds of each label. -/
theorem throughout_of_forall {C : Label → Prop} (start : State) {labels : List Label}
    (h : ∀ label ∈ labels, C label) : Throughout step (fun _ label => C label) start labels := by
  induction labels generalizing start with
  | nil => exact trivial
  | cons label labels ih =>
    obtain ⟨hhead, htail⟩ := List.forall_mem_cons.mp h
    exact ⟨hhead, ih (step start label) htail⟩

/-- What every step preserves, every run preserves. -/
theorem run_invariant (hstep : ∀ s l, I s → I (step s l)) {start : State}
    (hstart : I start) (labels : List Label) : I (run step start labels) := by
  induction labels generalizing start with
  | nil => exact hstart
  | cons label labels ih => exact ih (hstep start label hstart)

/-- What every step under a condition preserves, every run preserves whose
steps all meet the condition. -/
theorem run_invariant_of_throughout (hstep : ∀ s l, I s → P s l → I (step s l))
    {start : State} (hstart : I start) {labels : List Label}
    (hlabels : Throughout step P start labels) : I (run step start labels) := by
  induction labels generalizing start with
  | nil => exact hstart
  | cons label labels ih => exact ih (hstep start label hstart hlabels.1) hlabels.2

/-- A step condition that keeps an invariant and implies another one there implies
it along every run. -/
theorem throughout_imp (hstep : ∀ s l, I s → P s l → I (step s l))
    (hPQ : ∀ s l, I s → P s l → Q s l) {start : State} (hstart : I start) {labels : List Label}
    (hlabels : Throughout step P start labels) : Throughout step Q start labels := by
  induction labels generalizing start with
  | nil => exact trivial
  | cons label labels ih =>
    obtain ⟨hp, htail⟩ := hlabels
    exact ⟨hPQ start label hstart hp, ih (hstep start label hstart hp) htail⟩

/-- Two step conditions that agree on an invariant agree along every run. -/
theorem throughout_congr (hstep : ∀ s l, I s → P s l → I (step s l))
    (hPQ : ∀ s l, I s → (P s l ↔ Q s l)) {start : State} (hstart : I start)
    (labels : List Label) :
    Throughout step P start labels ↔ Throughout step Q start labels := by
  induction labels generalizing start with
  | nil => exact Iff.rfl
  | cons label labels ih =>
    constructor
    · rintro ⟨hp, htail⟩
      exact ⟨(hPQ start label hstart).mp hp, (ih (hstep start label hstart hp)).mp htail⟩
    · rintro ⟨hq, htail⟩
      have hp := (hPQ start label hstart).mpr hq
      exact ⟨hp, (ih (hstep start label hstart hp)).mpr htail⟩

/-- A view that each step carries on by itself is carried on by itself along every run. -/
theorem view_run {View : Type*} {view : State → View} {next : View → Label → View}
    (hkeep : ∀ s l, I s → I (step s l)) (hview : ∀ s l, I s → view (step s l) = next (view s) l)
    {start : State} (hstart : I start) (labels : List Label) :
    view (run step start labels) = run next (view start) labels := by
  induction labels generalizing start with
  | nil => rfl
  | cons label labels ih =>
    rw [run_cons, run_cons, ← hview start label hstart]
    exact ih (hkeep start label hstart)

/-- A condition on every step of a run that splits is one on both parts. -/
theorem throughout_append (start : State) (first second : List Label) :
    Throughout step P start (first ++ second) ↔
      Throughout step P start first ∧ Throughout step P (run step start first) second := by
  induction first generalizing start with
  | nil => simp [Throughout]
  | cons label first ih =>
    rw [List.cons_append, Throughout, Throughout, run_cons, ih, and_assoc]

/-- A goal that one kind of step reaches, and that every step keeps, holds once a
run has taken a step of that kind. -/
theorem run_settles {goal : State → Prop} {T : State → Label → Prop}
    (hkeep : ∀ s l, I s → P s l → I (step s l))
    (hreach : ∀ s l, I s → P s l → T s l → goal (step s l))
    (hstay : ∀ s l, I s → goal s → P s l → goal (step s l)) {start : State} (hstart : I start)
    {before after : List Label} {label : Label}
    (hlabels : Throughout step P start (before ++ label::after))
    (htaken : T (run step start before) label) :
    goal (run step start (before ++ label::after)) := by
  obtain ⟨hbefore, hlabel, hafter⟩ := (throughout_append start before (label::after)).mp hlabels
  have hmet : I (run step start before) := run_invariant_of_throughout hkeep hstart hbefore
  have hreached := hreach _ _ hmet hlabel htaken
  have hkept := hkeep _ _ hmet hlabel
  have hboth : I (run step (step (run step start before) label) after) ∧
      goal (run step (step (run step start before) label) after) :=
    run_invariant_of_throughout (I := fun s => I s ∧ goal s)
      (fun s l h hp => ⟨hkeep s l h.1 hp, hstay s l h.1 h.2 hp⟩) ⟨hkept, hreached⟩ hafter
  rw [run_append, run_cons]
  exact hboth.2

end ProjEsp32.TransitionRuns
