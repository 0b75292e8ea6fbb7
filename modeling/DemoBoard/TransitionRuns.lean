import Mathlib.Logic.Basic

namespace DemoBoard.TransitionRuns

/-!
# Runs of labelled transition systems

Runs over arbitrary states and labels, and the rules that derive what holds in
every state of a run from what one step preserves.
-/

/-- Start states and labelled steps. -/
structure System (State Label : Type) where
  start : State → Prop
  step : State → Label → State → Prop

/-- Two steps in a row succeed when both of them do. -/
theorem bind_eq_ok
    {ε α β : Type}
    {first : Except ε α}
    {second : α → Except ε β}
    {result : β}
    (succeeds : (first >>= second) = .ok result) :
    ∃ value, first = .ok value ∧ second value = .ok result := by
  cases first with
  | error fault => cases succeeds
  | ok value => exact ⟨value, rfl, succeeds⟩

variable {State Label : Type}

/-- Only steps under a condition on the state before them. -/
def System.restrict
    (system : System State Label) (proper : State → Label → Prop) :
    System State Label where
  start := system.start
  step := fun state label next =>
    system.step state label next ∧ proper state label

/-- The same steps, from another state on. -/
def System.startAt (system : System State Label) (first : State) :
    System State Label where
  start := fun state => state = first
  step := system.step

/-- A run and the labels of its steps. -/
inductive Run (system : System State Label) :
    List Label → State → Prop where
  | start
      {state : State}
      (starts : system.start state) :
      Run system [] state
  | step
      {labels : List Label}
      {state next : State}
      (run : Run system labels state)
      (label : Label)
      (moves : system.step state label next) :
      Run system (labels ++ [label]) next

/-- A property of labels and states that every step preserves. -/
theorem Run.history
    {system : System State Label}
    {holds : List Label → State → Prop}
    (initial : ∀ state, system.start state → holds [] state)
    (preserved : ∀ labels state label next, holds labels state →
      system.step state label next → holds (labels ++ [label]) next)
    {labels : List Label}
    {state : State}
    (run : Run system labels state) :
    holds labels state := by
  induction run with
  | start starts => exact initial _ starts
  | step run label moves inductionHypothesis =>
      exact preserved _ _ _ _ inductionHypothesis moves

/-- A property of states that every step preserves. -/
theorem Run.invariant
    {system : System State Label}
    {holds : State → Prop}
    (initial : ∀ state, system.start state → holds state)
    (preserved : ∀ state label next, holds state →
      system.step state label next → holds next)
    {labels : List Label}
    {state : State}
    (run : Run system labels state) :
    holds state :=
  @Run.history State Label system (fun _ state => holds state) initial
    (fun _ state label next held moves =>
      preserved state label next held moves) labels state run

/--
A goal that is reached once enough steps have counted: a step reaches the goal
or does not increase what is left, and a step that counts decreases it.
-/
theorem Run.reaches
    {system : System State Label}
    {holds reached : State → Prop}
    {left : State → Nat}
    {counts : Label → Bool}
    {bound : Nat}
    (initial : ∀ state, system.start state →
      holds state ∧ left state ≤ bound)
    (progress : ∀ state label next, holds state →
      system.step state label next →
      reached next ∨
        holds next ∧ left next + (counts label).toNat ≤ left state)
    (stays : ∀ state label next, reached state →
      system.step state label next → reached next)
    {labels : List Label}
    {state : State}
    (run : Run system labels state) :
    reached state ∨
      holds state ∧ left state + labels.countP counts ≤ bound := by
  induction run with
  | start starts =>
      obtain ⟨held, least⟩ := initial _ starts
      exact Or.inr ⟨held, least⟩
  | step run label moves inductionHypothesis =>
      rcases inductionHypothesis with done | ⟨held, least⟩
      · exact Or.inl (stays _ _ _ done moves)
      · refine (progress _ _ _ held moves).imp_right fun goesOn => ?_
        refine ⟨goesOn.1, ?_⟩
        have less := goesOn.2
        rw [List.countP_append, List.countP_singleton]
        cases counted : counts label with
        | false =>
            rw [counted] at less
            simp only [Bool.toNat_false] at less
            simp only [Bool.false_eq_true, if_false]
            omega
        | true =>
            rw [counted] at less
            simp only [Bool.toNat_true] at less
            simp only [if_true]
            omega

/-- The system of a step function that some labels do not apply to. -/
def System.ofStep (first : State) (step : State → Label → Option State) :
    System State Label where
  start := fun state => state = first
  step := fun state label next => step state label = some next

/-- Labels that apply one after the other are a run. -/
theorem Run.ofSteps
    {first : State}
    {step : State → Label → Option State}
    (labels : List Label)
    {earlier : List Label}
    {state next : State}
    (run : Run (System.ofStep first step) earlier state)
    (applied : labels.foldlM step state = some next) :
    Run (System.ofStep first step) (earlier ++ labels) next := by
  induction labels generalizing earlier state with
  | nil =>
      cases applied
      rw [List.append_nil]
      exact run
  | cons label rest inductionHypothesis =>
      rw [List.foldlM_cons, Option.bind_eq_bind,
        Option.bind_eq_some_iff] at applied
      obtain ⟨middle, moved, others⟩ := applied
      rw [← List.singleton_append, ← List.append_assoc]
      exact inductionHypothesis (run.step label moved) others

/-- Steps that are evaluated, under a condition on the state before them. -/
theorem Run.follow
    {system : System State Label}
    {step : State → Label → Option State}
    {proper : State → Label → Prop}
    [∀ state label, Decidable (proper state label)]
    (moves : ∀ state label next, step state label = some next →
      system.step state label next)
    (labels : List Label)
    {earlier : List Label}
    {state next : State}
    (run : Run (system.restrict proper) earlier state)
    (applied : labels.foldlM (fun state label =>
      if proper state label then step state label else none) state =
        some next) :
    Run (system.restrict proper) (earlier ++ labels) next := by
  induction labels generalizing earlier state with
  | nil =>
      cases applied
      rw [List.append_nil]
      exact run
  | cons label rest inductionHypothesis =>
      rw [List.foldlM_cons, Option.bind_eq_bind,
        Option.bind_eq_some_iff] at applied
      obtain ⟨middle, moved, others⟩ := applied
      obtain ⟨allowed, moved⟩ := Option.ite_none_right_eq_some.mp moved
      rw [← List.singleton_append, ← List.append_assoc]
      exact inductionHypothesis
        (run.step label ⟨moves state label middle moved, allowed⟩) others

/-- Labels that apply under a condition on the state before them. -/
theorem Run.ofStepsWhere
    {first start : State}
    {step : State → Label → Option State}
    {proper : State → Label → Prop}
    [∀ state label, Decidable (proper state label)]
    (labels : List Label)
    {earlier : List Label}
    {state next : State}
    (run : Run
      (((System.ofStep first step).startAt start).restrict proper)
      earlier state)
    (applied : labels.foldlM (fun state label =>
      if proper state label then step state label else none) state =
        some next) :
    Run (((System.ofStep first step).startAt start).restrict proper)
      (earlier ++ labels) next :=
  Run.follow (fun _ _ _ moved => moved) labels run applied

/-- The system of a step function that can fail; a failure ends a run. -/
def System.ofOutcome
    {Fault : Type}
    (first : State)
    (step : State → Label → Except Fault State) :
    System (Except Fault State) Label where
  start := fun outcome => outcome = .ok first
  step := fun outcome label next => (outcome >>= (step · label)) = next

/-- Labels that do not fail, under a condition on the state before them. -/
theorem Run.ofOutcomesWhere
    {Fault : Type}
    {first : State}
    {step : State → Label → Except Fault State}
    {condition : State → Label → Prop}
    {proper : Except Fault State → Label → Prop}
    [∀ state label, Decidable (condition state label)]
    (enough : ∀ state label, condition state label →
      proper (.ok state) label)
    (labels : List Label)
    {earlier : List Label}
    {state next : State}
    (run : Run ((System.ofOutcome first step).restrict proper)
      earlier (.ok state))
    (applied : labels.foldlM (fun state label =>
      if condition state label then (step state label).toOption else none)
        state = some next) :
    Run ((System.ofOutcome first step).restrict proper)
      (earlier ++ labels) (.ok next) := by
  induction labels generalizing earlier state with
  | nil =>
      cases applied
      rw [List.append_nil]
      exact run
  | cons label rest inductionHypothesis =>
      rw [List.foldlM_cons, Option.bind_eq_bind,
        Option.bind_eq_some_iff] at applied
      obtain ⟨middle, moved, others⟩ := applied
      obtain ⟨allowed, moved⟩ := Option.ite_none_right_eq_some.mp moved
      rw [← List.singleton_append, ← List.append_assoc]
      refine inductionHypothesis
        (run.step label ⟨?_, enough state label allowed⟩) others
      show step state label = .ok middle
      cases stepped : step state label with
      | error fault =>
          rw [stepped] at moved
          cases moved
      | ok value =>
          rw [stepped] at moved
          cases moved
          rfl

/-- A run under a condition is a run. -/
theorem Run.unrestricted
    {system : System State Label}
    {proper : State → Label → Prop}
    {labels : List Label}
    {state : State}
    (run : Run (system.restrict proper) labels state) :
    Run system labels state := by
  induction run with
  | start starts => exact .start starts
  | step run label moves inductionHypothesis =>
      exact .step inductionHypothesis label moves.1

end DemoBoard.TransitionRuns
