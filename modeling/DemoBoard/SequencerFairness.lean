import DemoBoard.RoundRobin
import DemoBoard.SequencerRuns
import Mathlib.Data.Set.Insert

namespace DemoBoard.Sequencer

open TransitionRuns

/-!
# Order of the tasks

Which task `UTIL_SEQ_Run` starts next, and how often it starts others of the
same level before one that keeps waiting.
-/

/-- The tasks of a bitmap. -/
def bits (bitmap : Bitmap) : Set Nat :=
  { index | bitmap.getLsbD index = true }

theorem mem_bits {bitmap : Bitmap} {index : Nat} :
    index ∈ bits bitmap ↔ bitmap.getLsbD index = true :=
  Iff.rfl

/-- All tasks. -/
def everyone : Set Nat :=
  { index | index < 32 }

theorem bits_inter_eq_empty {first second : Bitmap} :
    bits first ∩ bits second = ∅ ↔ first &&& second = 0#32 := by
  rw [Set.eq_empty_iff_forall_notMem]
  constructor
  · intro apart
    by_contra filled
    obtain ⟨index, set⟩ := exists_bit_of_ne_zero filled
    rw [BitVec.getLsbD_and, Bool.and_eq_true] at set
    exact apart index set
  · rintro empty index ⟨inFirst, inSecond⟩
    refine @ne_zero_of_bit (first &&& second) index ?_ empty
    rw [BitVec.getLsbD_and, Bool.and_eq_true]
    exact ⟨inFirst, inSecond⟩

/-- The round robin mask is refilled as the library does. -/
theorem bits_roundRobin
    (sequencer : Sequencer) (taskMask : Bitmap)
    (counter : Fin confPrioNbr) :
    bits (sequencer.roundRobin taskMask counter) =
      RoundRobin.refill everyone
        (bits (sequencer.taskPrio counter).roundRobin)
        (bits (sequencer.ready taskMask counter)) := by
  unfold Sequencer.roundRobin RoundRobin.refill
  by_cases empty : (sequencer.taskPrio counter).roundRobin &&&
      sequencer.ready taskMask counter = 0#32
  · rw [if_pos empty, if_pos (bits_inter_eq_empty.mpr empty)]
    ext index
    rw [mem_bits, BitVec.getLsbD_allOnes, decide_eq_true_eq]
    rfl
  · rw [if_neg empty, if_neg (bits_inter_eq_empty.not.mpr empty)]

/-- A choice of `UTIL_SEQ_Run` is a round robin choice at its level. -/
theorem chooses_select
    {sequencer : Sequencer}
    {taskMask : Bitmap}
    {counter : Fin confPrioNbr}
    (filled : sequencer.ready taskMask counter ≠ 0#32) :
    RoundRobin.Chooses everyone
      (bits (sequencer.taskPrio counter).roundRobin)
      (bits (sequencer.ready taskMask counter))
      (sequencer.select taskMask counter).currentTaskIdx
      (bits ((sequencer.select taskMask counter).taskPrio
        counter).roundRobin) := by
  obtain ⟨isReady, allowed⟩ := select_currentTaskIdx filled
  refine ⟨isReady, ?_, ?_⟩
  · rw [← bits_roundRobin]
    exact allowed
  · rw [← bits_roundRobin, select_roundRobin, if_pos rfl]
    ext index
    simp only [mem_bits, Set.mem_sdiff, Set.mem_singleton_iff,
      BitVec.getLsbD_and, BitVec.getLsbD_not, getLsbD_taskBit,
      Bool.and_eq_true, Bool.not_eq_true', decide_eq_true_eq,
      decide_eq_false_iff_not]
    constructor
    · rintro ⟨inside, small, other⟩
      exact ⟨inside, fun same => other ⟨same, small⟩⟩
    · rintro ⟨inside, other⟩
      exact ⟨inside, lt_of_bit inside, fun same => other same.1⟩

/-- Neither the mask that `UTIL_SEQ_Run` has loaded nor its choice excludes. -/
def Execution.considers (execution : Execution) (task : Nat) : Bool :=
  match execution.control with
  | .inRun _ (.searching taskMask _) => taskMask.getLsbD task
  | .inRun _ (.selecting taskMask _) => taskMask.getLsbD task
  | .inRun _ (.starting _) => execution.sequencer.currentTaskIdx ≠ task
  | _ => true

/-- A task is pending at a level, passes the masks and is not chosen yet. -/
def Execution.Waits
    (execution : Execution) (level : Fin confPrioNbr) (task : Nat) :
    Prop :=
  (execution.sequencer.taskPrio level).priority.getLsbD task = true ∧
    execution.sequencer.superMask.getLsbD task = true ∧
    execution.considers task = true

instance
    (execution : Execution) (level : Fin confPrioNbr) (task : Nat) :
    Decidable (execution.Waits level task) :=
  inferInstanceAs (Decidable (_ ∧ _ ∧ _))

/-- A task is chosen at a level, but not started yet. -/
def Execution.chosen
    (execution : Execution) (level : Fin confPrioNbr) (task : Nat) : Nat :=
  match execution.control with
  | .inRun _ (.starting counter) =>
      if counter = level ∧ execution.sequencer.currentTaskIdx = task then
        1
      else
        0
  | _ => 0

/-- The starts of a task from a level. -/
def Execution.starts
    (execution : Execution) (level : Fin confPrioNbr) (task : Nat) : Nat :=
  execution.occurrences.count (.start task level)

section Bound

variable
  {execution next : Execution}
  {level : Fin confPrioNbr}
  {task : Nat}

/-- How often a task can be started before another one. -/
noncomputable def Execution.left
    (execution : Execution) (level : Fin confPrioNbr)
    (task other : Nat) : Nat :=
  RoundRobin.credit
      (bits (execution.sequencer.taskPrio level).roundRobin) task other +
    execution.chosen level other

theorem Invariant.left_le_two
    (invariant : Invariant execution)
    (level : Fin confPrioNbr)
    (task other : Nat) :
    execution.left level task other ≤ 2 := by
  have sound := invariant.control
  have atMost := RoundRobin.credit_le_two
    (bits (execution.sequencer.taskPrio level).roundRobin) task other
  unfold Execution.left Execution.chosen
  split
  · next backup counter starting =>
      rw [starting] at sound
      split
      · next same =>
          obtain ⟨rfl, rfl⟩ := same
          have setAside : execution.sequencer.currentTaskIdx ∉
              bits (execution.sequencer.taskPrio counter).roundRobin := by
            have cleared := sound.2.2.2.2
            rw [mem_bits, cleared]
            exact Bool.false_ne_true
          have once := @RoundRobin.credit_le_one Nat _ task _ setAside
          omega
      · omega
  · omega

/-- A round robin choice uses up what it leaves. -/
theorem left_select
    {taskMask : Bitmap}
    {counter : Fin confPrioNbr}
    (waits : execution.Waits level task)
    (waitsMask : taskMask.getLsbD task = true)
    (filled : execution.sequencer.ready taskMask counter ≠ 0#32)
    (passed :
      (execution.sequencer.select taskMask counter).currentTaskIdx ≠ task)
    (notChosen : ∀ other, execution.chosen level other = 0)
    {backup : Bitmap}
    (other : Nat) :
    ({ execution with
        sequencer := execution.sequencer.select taskMask counter
        control := .inRun backup (.starting counter) } :
        Execution).left level task other ≤
      execution.left level task other := by
  unfold Execution.left
  rw [notChosen other]
  by_cases same : counter = level
  · subst same
    have isReady : task ∈ bits (execution.sequencer.ready taskMask counter) :=
      by
        rw [mem_bits, getLsbD_ready, waits.1, waits.2.1, waitsMask]
        rfl
    have spent := (chooses_select filled).credit_add_le
      (lt_of_bit waits.1) isReady passed other
    simpa only [Execution.chosen, true_and, Nat.add_zero] using spent
  · have elsewhere : level ≠ counter := Ne.symm same
    simp only [Execution.chosen, select_roundRobin, if_neg elsewhere, same,
      false_and, if_false]
    exact Nat.le_refl _

/-- What a waiting task leaves to another one never increases. -/
theorem Invariant.left_step
    (invariant : Invariant execution)
    (waits : execution.Waits level task)
    (moves : Moves execution next)
    (other : Nat) :
    next.starts level other ≤
        execution.starts level other + execution.chosen level other ∧
      (next.Waits level task →
        next.starts level other + next.left level task other ≤
          execution.starts level other +
            execution.left level task other) := by
  have sound := invariant.control
  cases moves with
  | operation operation =>
      have grows := grows_operate execution.sequencer operation
      have starts : ({ execution with
          sequencer := execution.sequencer.operate operation
          occurrences :=
            execution.occurrences ++ Operation.occurrences operation } :
          Execution).starts level other = execution.starts level other := by
        unfold Execution.starts
        rw [List.count_append]
        cases operation <;> simp [Operation.occurrences]
      refine ⟨by omega, fun _ => ?_⟩
      rw [starts]
      simp only [Execution.left, Execution.chosen, grows.roundRobin,
        grows.currentTaskIdx]
      exact Nat.le_refl _
  | selects selecting =>
      rw [selecting] at sound
      have notChosen : ∀ other, execution.chosen level other = 0 := by
        intro other
        rw [Execution.chosen, selecting]
      have waitsMask := waits.2.2
      rw [Execution.considers, selecting] at waitsMask
      refine ⟨Nat.le_add_right _ _, fun stillWaits => ?_⟩
      exact Nat.add_le_add_left
        (left_select waits waitsMask sound.2.2
          (of_decide_eq_true stillWaits.2.2) notChosen other) _
  | @starts backup counter starting =>
      have chosen : execution.chosen level other =
          if counter = level ∧
            execution.sequencer.currentTaskIdx = other then 1 else 0 := by
        rw [Execution.chosen, starting]
      have starts : ({ execution with
          sequencer := execution.sequencer.takeOut
          control := .inTask backup execution.sequencer.currentTaskIdx
          occurrences :=
            execution.occurrences ++
              [.start execution.sequencer.currentTaskIdx counter] } :
          Execution).starts level other =
            execution.starts level other +
              execution.chosen level other := by
        rw [chosen]
        simp only [Execution.starts, List.count_append,
          List.count_singleton, beq_iff_eq, Occurrence.start.injEq]
        exact congrArg _ (if_congr and_comm rfl rfl)
      refine ⟨starts.le, fun _ => ?_⟩
      rw [starts]
      unfold Execution.left
      have none : ({ execution with
          sequencer := execution.sequencer.takeOut
          control := .inTask backup execution.sequencer.currentTaskIdx
          occurrences :=
            execution.occurrences ++
              [.start execution.sequencer.currentTaskIdx counter] } :
          Execution).chosen level other = 0 := rfl
      rw [none]
      simp only [takeOut]
      omega
  | quiet quiet =>
      have none : next.chosen level other = 0 := by
        unfold Execution.chosen
        split
        · next backup counter starting =>
            exact absurd starting (quiet.notStarting backup counter)
        · rfl
      have starts : next.starts level other =
          execution.starts level other := by
        rw [Execution.starts, quiet.occurrences, Execution.starts]
      refine ⟨by omega, fun _ => ?_⟩
      rw [starts]
      unfold Execution.left
      rw [quiet.taskPrio, none]
      omega

end Bound

/--
A task that is pending at a level and passes the masks is not passed over for
long: until it is chosen, every other task is started from its level twice at
most, whatever is set, paused or waited for meanwhile.
-/
theorem waiting_bounded
    {earlier later : List Event}
    {first last : Execution}
    (reached : Run system earlier first)
    {level : Fin confPrioNbr}
    {task : Nat}
    (run : Run
      ((system.startAt first).restrict fun execution _ =>
        execution.Waits level task) later last)
    (other : Nat) :
    last.starts level other ≤ first.starts level other + 2 := by
  have started := invariant_of_run reached
  have atMost := started.left_le_two level task other
  suffices bounded : Invariant last ∧
      last.starts level other ≤ first.starts level other + 2 ∧
      (last.Waits level task →
        last.starts level other + last.left level task other ≤
          first.starts level other + 2) from bounded.2.1
  refine @Run.invariant _ _ _
    (fun execution => Invariant execution ∧
      execution.starts level other ≤ first.starts level other + 2 ∧
      (execution.Waits level task →
        execution.starts level other + execution.left level task other ≤
          first.starts level other + 2)) ?_ ?_ later last run
  · rintro _ rfl
    exact ⟨started, by omega, fun _ => by omega⟩
  · rintro execution event next ⟨invariant, _, left⟩ ⟨stepped, waits⟩
    obtain ⟨starts, leftNext⟩ :=
      invariant.left_step waits (moves_of_step stepped) other
    have bound := left waits
    have chosen : execution.chosen level other ≤
        execution.left level task other := Nat.le_add_left _ _
    exact ⟨invariant.step stepped, by omega,
      fun stillWaits => by have := leftNext stillWaits; omega⟩

/-- Task 1 runs and is set again together with task 4. -/
def beforeWaiting : List Event :=
  .operation (.setTask 2#32 prio0) :: List.replicate 8 .advance ++
    [.operation (.setTask 18#32 prio0)]

/-- Task 4 is started, set again and started once more. -/
def whileWaiting : List Event :=
  .taskReturn :: List.replicate 7 .advance ++
    .operation (.setTask 16#32 prio0) :: .taskReturn ::
      List.replicate 7 .advance

/-- A step while task 1 waits. -/
def stepWaiting (execution : Execution) (event : Event) : Option Execution :=
  if execution.Waits prio0 1 then step execution event else none

theorem whileWaiting_result :
    ((beforeWaiting.foldlM step booted).bind fun first =>
        (whileWaiting.foldlM stepWaiting first).map fun last =>
          (first.starts prio0 4, last.starts prio0 4)) =
      some (0, 2) := by
  decide +kernel

theorem waiting_bounded_twice :
    ∃ first last,
      beforeWaiting.foldlM step booted = some first ∧
      whileWaiting.foldlM stepWaiting first = some last ∧
      first.starts prio0 4 = 0 ∧ last.starts prio0 4 = 2 ∧
      last.starts prio0 4 ≤ first.starts prio0 4 + 2 := by
  obtain ⟨first, reached, result⟩ :=
    Option.bind_eq_some_iff.mp whileWaiting_result
  obtain ⟨last, ran, counts⟩ := Option.map_eq_some_iff.mp result
  refine ⟨first, last, reached, ran, congrArg Prod.fst counts,
    congrArg Prod.snd counts, ?_⟩
  have run : Run
      ((system.startAt first).restrict fun execution _ =>
        execution.Waits prio0 1) whileWaiting last :=
    Run.ofStepsWhere whileWaiting (.start rfl) ran
  exact waiting_bounded
    (Run.ofSteps beforeWaiting (.start rfl) reached) run 4

/-- A task executes, and not the sequencer. -/
def Execution.taskRuns (execution : Execution) : Bool :=
  match execution.control with
  | .inTask _ _ => true
  | _ => false

/-- No task of a level before the given one was ready. -/
def NoneBefore
    (sequencer : Sequencer) (taskMask : Bitmap) (counter : Nat) : Prop :=
  ∀ level : Fin confPrioNbr,
    level < counter → sequencer.ready taskMask level = 0#32

/--
What a search knows about the state in which it began; interrupts only add
tasks meanwhile.
-/
def Execution.Narrowed
    (execution : Execution) (began : Sequencer) (taskMask : Bitmap) :
    Prop :=
  match execution.control with
  | .inRun _ (.searching mask counter) =>
      mask = taskMask ∧ Grows began execution.sequencer ∧
        NoneBefore began taskMask counter
  | .inRun _ (.selecting mask counter) =>
      mask = taskMask ∧ Grows began execution.sequencer ∧
        execution.sequencer.ready taskMask counter ≠ 0#32 ∧
        NoneBefore began taskMask counter
  | .inRun _ (.starting counter) =>
      (taskMask &&& began.superMask).getLsbD
          execution.sequencer.currentTaskIdx = true ∧
        NoneBefore began taskMask counter
  | .inTask _ index =>
      ∃ counter,
        execution.occurrences.getLast? = some (.start index counter) ∧
          (taskMask &&& began.superMask).getLsbD index = true ∧
          NoneBefore began taskMask counter
  | _ => False

theorem Grows.trans
    {first second third : Sequencer}
    (grows : Grows first second)
    (more : Grows second third) :
    Grows first third where
  taskSet := fun index set => more.taskSet index (grows.taskSet index set)
  priority := fun level index set =>
    more.priority level index (grows.priority level index set)
  roundRobin := fun level =>
    (more.roundRobin level).trans (grows.roundRobin level)
  superMask := more.superMask.trans grows.superMask
  currentTaskIdx := more.currentTaskIdx.trans grows.currentTaskIdx

section Search

variable
  {execution next : Execution}
  {began : Sequencer}
  {taskMask : Bitmap}

theorem Execution.Narrowed.operation
    (narrowed : execution.Narrowed began taskMask)
    (idle : execution.taskRuns = false)
    (operation : Operation) :
    ({ execution with
        sequencer := execution.sequencer.operate operation
        occurrences :=
          execution.occurrences ++ Operation.occurrences operation } :
        Execution).Narrowed began taskMask := by
  have grows := grows_operate execution.sequencer operation
  unfold Execution.Narrowed at narrowed ⊢
  simp only [Execution.taskRuns] at idle
  cases control : execution.control with
  | outside =>
      rw [control] at narrowed
      exact narrowed
  | inTask backup index =>
      rw [control] at idle
      cases idle
  | inRun backup phase =>
      rw [control] at narrowed
      cases phase with
      | searching mask counter =>
          exact ⟨narrowed.1, narrowed.2.1.trans grows, narrowed.2.2⟩
      | selecting mask counter =>
          obtain ⟨same, growsBefore, filled, before⟩ := narrowed
          exact ⟨same, growsBefore.trans grows, grows.ready filled, before⟩
      | starting counter =>
          simp only [grows.currentTaskIdx]
          exact narrowed
      | _ => exact narrowed

theorem Execution.Narrowed.advanceRun
    {backup : Bitmap}
    {phase : RunPhase}
    (inRun : execution.control = .inRun backup phase)
    (narrowed : execution.Narrowed began taskMask)
    (advanced : Sequencer.advanceRun execution backup phase = some next) :
    next.Narrowed began taskMask := by
  unfold Execution.Narrowed at narrowed
  rw [inRun] at narrowed
  cases phase with
  | searching mask counter =>
      obtain ⟨rfl, grows, before⟩ := narrowed
      rw [Sequencer.advanceRun] at advanced
      split at advanced
      · next inTable =>
          split at advanced
          · next empty =>
              cases advanced
              refine ⟨rfl, grows, fun level below => ?_⟩
              by_cases same : level = ⟨counter, inTable⟩
              · subst same
                by_contra filled
                exact grows.ready filled empty
              · exact before level (by
                  have := Fin.val_ne_of_ne same
                  simp only at this
                  omega)
          · next filled =>
              cases advanced
              exact ⟨rfl, grows, filled, before⟩
      · cases advanced
  | selecting mask counter =>
      obtain ⟨rfl, grows, filled, before⟩ := narrowed
      cases advanced
      have isReady := (select_currentTaskIdx filled).1
      rw [getLsbD_ready, grows.superMask, Bool.and_assoc,
        ← BitVec.getLsbD_and, Bool.and_eq_true] at isReady
      exact ⟨isReady.2, before⟩
  | starting counter =>
      cases advanced
      exact ⟨counter, List.getLast?_concat, narrowed.1, narrowed.2⟩
  | _ => exact narrowed.elim

end Search

end DemoBoard.Sequencer
