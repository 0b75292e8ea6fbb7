import DemoBoard.Sequencer
import Mathlib.Data.List.Basic

namespace DemoBoard

open TransitionRuns

/-!
# Runs of the sequencer

However interrupts, tasks and nested executions of `UTIL_SEQ_Run` interleave,
no task is started while it runs or waits, the search for a task ends inside
the table of the levels, and a task is pending exactly if it was set after its
last start.
-/

theorem getLsbD_taskBit (index bit : Nat) :
    (taskBit index).getLsbD bit = decide (bit = index ∧ bit < 32) := by
  rw [taskBit, BitVec.getLsbD_shiftLeft, BitVec.getLsbD_one,
    Bool.eq_iff_iff]
  simp only [Bool.and_eq_true, Bool.not_eq_true', decide_eq_true_eq,
    decide_eq_false_iff_not]
  omega

theorem exists_bit_of_ne_zero
    {bitmap : Bitmap}
    (filled : bitmap ≠ 0#32) :
    ∃ index, bitmap.getLsbD index = true := by
  by_contra none
  apply filled
  apply BitVec.eq_of_getLsbD_eq
  intro index _
  simpa using fun set => none ⟨index, set⟩

theorem ne_zero_of_bit
    {bitmap : Bitmap}
    {index : Nat}
    (set : bitmap.getLsbD index = true) :
    bitmap ≠ 0#32 := by
  rintro rfl
  simp at set

theorem lt_of_bit
    {bitmap : Bitmap}
    {index : Nat}
    (set : bitmap.getLsbD index = true) :
    index < 32 :=
  BitVec.lt_of_getLsbD set

/-- `SEQ_BitPosition` finds a bit that is set. -/
theorem getLsbD_bitPosition
    {bitmap : Bitmap}
    (filled : bitmap ≠ 0#32) :
    bitmap.getLsbD (bitPosition bitmap) = true := by
  have few : bitmap.clz.toNat < 32 := by
    have := BitVec.clz_lt_iff_ne_zero.mpr filled
    rw [BitVec.lt_def] at this
    simpa using this
  have position : bitPosition bitmap = 32 - 1 - bitmap.clz.toNat := by
    rw [bitPosition, BitVec.toNat_sub]
    simp only [BitVec.toNat_ofNat]
    omega
  rw [position]
  exact BitVec.getLsbD_true_clz_of_ne_zero (by omega) filled

namespace Sequencer

/-- A mask that keeps everything but some tasks. -/
def Masks (tasks : List Nat) (mask : Bitmap) : Prop :=
  ∀ index < 32, mask.getLsbD index = decide (index ∉ tasks)

theorem masks_allOnes : Masks [] (BitVec.allOnes 32) := by
  intro index small
  rw [BitVec.getLsbD_allOnes]
  simp [small]

/-- `UTIL_SEQ_Run` narrows the mask of the execution around it. -/
theorem Masks.narrow
    {tasks : List Nat}
    {mask : Bitmap}
    (masks : Masks tasks mask)
    (task : Nat) :
    Masks (task :: tasks) (mask &&& ~~~taskBit task) := by
  intro index small
  rw [BitVec.getLsbD_and, BitVec.getLsbD_not, getLsbD_taskBit,
    masks index small, Bool.eq_iff_iff]
  simp only [small, decide_true, Bool.true_and, Bool.and_eq_true,
    decide_eq_true_eq, Bool.not_eq_true', decide_eq_false_iff_not,
    List.mem_cons, not_or, and_true]
  exact and_comm

/-- A task that passes the mask is none of the masked ones. -/
theorem Masks.notMem
    {tasks : List Nat}
    {mask : Bitmap}
    (masks : Masks tasks mask)
    {index : Nat}
    (passes : mask.getLsbD index = true) :
    index ∉ tasks := by
  have outside := masks index (lt_of_bit passes)
  rw [passes] at outside
  exact of_decide_eq_true outside.symm

theorem waitTask_of_lt
    {index : Nat}
    (small : index < 32) :
    waitTask index = taskBit index := by
  rw [waitTask, if_neg]
  rw [noTaskRunning]
  omega

/-- The tasks that wait, the innermost first. -/
def Execution.waitingTasks (execution : Execution) : List Nat :=
  execution.waiting.map Waiting.task

/-- The tasks that run or wait, the innermost first. -/
def Execution.tasks (execution : Execution) : List Nat :=
  match execution.control with
  | .inTask _ index => index :: execution.waitingTasks
  | _ => execution.waitingTasks

/-- Tasks that wait, each in the execution of `UTIL_SEQ_Run` that runs it. -/
def Nested : List Waiting → Prop
  | [] => True
  | innermost :: rest =>
      innermost.task < 32 ∧
        innermost.currentTaskIdx = innermost.task ∧
        innermost.task ∉ rest.map Waiting.task ∧
        Masks (rest.tail.map Waiting.task) innermost.superMaskBackup ∧
        Nested rest

/-- What `UTIL_SEQ_Run` knows between its steps. -/
def RunPhase.Sound (sequencer : Sequencer) : RunPhase → Prop
  | .loadEvtSet taskSet | .loadTaskMask taskSet _
  | .loadEvtWaited taskSet _ _ =>
      ∀ index, taskSet.getLsbD index = true →
        sequencer.taskSet.getLsbD index = true
  | .searching taskMask counter =>
      ∃ level : Fin confPrioNbr,
        counter ≤ level ∧ sequencer.ready taskMask level ≠ 0#32
  | .selecting taskMask counter =>
      sequencer.ready taskMask counter ≠ 0#32
  | .starting counter =>
      (sequencer.taskPrio counter).priority.getLsbD
          sequencer.currentTaskIdx = true ∧
        sequencer.superMask.getLsbD sequencer.currentTaskIdx = true ∧
        (sequencer.taskPrio counter).roundRobin.getLsbD
          sequencer.currentTaskIdx = false
  | _ => True

/-- What is executed, and the mask that it has. -/
def Control.Sound
    (sequencer : Sequencer) (waiting : List Waiting) : Control → Prop
  | .outside =>
      Masks (waiting.tail.map Waiting.task) sequencer.superMask
  | .inRun backup phase =>
      Masks (waiting.tail.map Waiting.task) backup ∧
        Masks (waiting.map Waiting.task) sequencer.superMask ∧
        phase.Sound sequencer
  | .inTask backup index =>
      Masks (waiting.tail.map Waiting.task) backup ∧
        Masks (waiting.map Waiting.task) sequencer.superMask ∧
        index < 32 ∧ index ∉ waiting.map Waiting.task ∧
        sequencer.currentTaskIdx = index

/-- What holds after every step. -/
structure Invariant (execution : Execution) : Prop where
  /-- `TaskSet` is what is pending at some level. -/
  levels : ∀ index,
    execution.sequencer.taskSet.getLsbD index = true ↔
      ∃ level, (execution.sequencer.taskPrio level).priority.getLsbD
        index = true
  nested : Nested execution.waiting
  control :
    execution.control.Sound execution.sequencer execution.waiting

theorem getLsbD_ready
    (sequencer : Sequencer) (taskMask : Bitmap)
    (counter : Fin confPrioNbr) (index : Nat) :
    (sequencer.ready taskMask counter).getLsbD index =
      ((sequencer.taskPrio counter).priority.getLsbD index &&
        taskMask.getLsbD index && sequencer.superMask.getLsbD index) := by
  rw [ready, BitVec.getLsbD_and, BitVec.getLsbD_and]

theorem invariant_booted : Invariant booted where
  levels := by simp [booted, init]
  nested := trivial
  control := masks_allOnes

/-- What an operation can do to the sequencer. -/
structure Grows (sequencer next : Sequencer) : Prop where
  taskSet : ∀ index, sequencer.taskSet.getLsbD index = true →
    next.taskSet.getLsbD index = true
  priority : ∀ level index,
    (sequencer.taskPrio level).priority.getLsbD index = true →
      (next.taskPrio level).priority.getLsbD index = true
  roundRobin : ∀ level,
    (next.taskPrio level).roundRobin =
      (sequencer.taskPrio level).roundRobin
  superMask : next.superMask = sequencer.superMask
  currentTaskIdx : next.currentTaskIdx = sequencer.currentTaskIdx

/-- Operations set tasks; only `UTIL_SEQ_Run` takes tasks out. -/
theorem grows_operate (sequencer : Sequencer) (operation : Operation) :
    Grows sequencer (sequencer.operate operation) := by
  cases operation with
  | setTask tasks priority =>
      refine ⟨?_, ?_, ?_, rfl, rfl⟩
      · intro index set
        simp [operate, setTask, set]
      · intro level index set
        by_cases same : level = priority
        · subst same
          simp [operate, setTask, set]
        · simpa [operate, setTask, same] using set
      · intro level
        by_cases same : level = priority
        · subst same
          simp [operate, setTask]
        · simp [operate, setTask, same]
  | _ => exact ⟨fun _ set => set, fun _ _ set => set, fun _ => rfl, rfl, rfl⟩

theorem Grows.ready
    {sequencer next : Sequencer}
    (grows : Grows sequencer next)
    {taskMask : Bitmap}
    {counter : Fin confPrioNbr}
    (filled : sequencer.ready taskMask counter ≠ 0#32) :
    next.ready taskMask counter ≠ 0#32 := by
  obtain ⟨index, set⟩ := exists_bit_of_ne_zero filled
  refine @ne_zero_of_bit _ index ?_
  rw [getLsbD_ready] at set ⊢
  simp only [Bool.and_eq_true] at set ⊢
  rw [grows.superMask]
  exact ⟨⟨grows.priority _ _ set.1.1, set.1.2⟩, set.2⟩

/-- An operation leaves everything that `UTIL_SEQ_Run` knows valid. -/
theorem Grows.phase
    {sequencer next : Sequencer}
    (grows : Grows sequencer next)
    {phase : RunPhase}
    (sound : phase.Sound sequencer) :
    phase.Sound next := by
  cases phase with
  | loadEvtSet taskSet =>
      exact fun index set => grows.taskSet _ (sound index set)
  | loadTaskMask taskSet evtSet =>
      exact fun index set => grows.taskSet _ (sound index set)
  | loadEvtWaited taskSet evtSet taskMask =>
      exact fun index set => grows.taskSet _ (sound index set)
  | searching taskMask counter =>
      obtain ⟨level, ahead, filled⟩ := sound
      exact ⟨level, ahead, grows.ready filled⟩
  | selecting taskMask counter => exact grows.ready sound
  | starting counter =>
      obtain ⟨pending, passes, setAside⟩ := sound
      refine ⟨?_, ?_, ?_⟩
      · rw [grows.currentTaskIdx]
        exact grows.priority _ _ pending
      · rw [grows.currentTaskIdx, grows.superMask]
        exact passes
      · rw [grows.currentTaskIdx, grows.roundRobin]
        exact setAside
  | _ => trivial

theorem Grows.control
    {sequencer next : Sequencer}
    (grows : Grows sequencer next)
    {waiting : List Waiting}
    {control : Control}
    (sound : control.Sound sequencer waiting) :
    control.Sound next waiting := by
  cases control with
  | outside =>
      rw [Control.Sound, grows.superMask]
      exact sound
  | inRun backup phase =>
      obtain ⟨backupMasks, masks, phaseSound⟩ := sound
      refine ⟨backupMasks, ?_, grows.phase phaseSound⟩
      rw [grows.superMask]
      exact masks
  | inTask backup index =>
      obtain ⟨backupMasks, masks, small, apart, current⟩ := sound
      refine ⟨backupMasks, ?_, small, apart, ?_⟩
      · rw [grows.superMask]
        exact masks
      · rw [grows.currentTaskIdx]
        exact current

/-- `TaskSet` follows the levels when an operation is called. -/
theorem levels_operate
    {sequencer : Sequencer}
    (levels : ∀ index,
      sequencer.taskSet.getLsbD index = true ↔
        ∃ level, (sequencer.taskPrio level).priority.getLsbD index = true)
    (operation : Operation)
    (index : Nat) :
    (sequencer.operate operation).taskSet.getLsbD index = true ↔
      ∃ level, ((sequencer.operate operation).taskPrio level).priority.getLsbD
        index = true := by
  cases operation with
  | setTask tasks priority =>
      simp only [operate, setTask, BitVec.getLsbD_or, Bool.or_eq_true,
        levels index]
      constructor
      · rintro (⟨level, pending⟩ | set)
        · refine ⟨level, ?_⟩
          by_cases same : level = priority
          · subst same
            simp [pending]
          · simpa [same] using pending
        · exact ⟨priority, by simp [set]⟩
      · rintro ⟨level, pending⟩
        by_cases same : level = priority
        · subst same
          rw [Function.update_self, BitVec.getLsbD_or,
            Bool.or_eq_true] at pending
          exact pending.imp_left fun set => ⟨_, set⟩
        · rw [Function.update_of_ne same] at pending
          exact Or.inl ⟨level, pending⟩
  | _ => exact levels index

theorem select_priority
    (sequencer : Sequencer) (taskMask : Bitmap)
    (counter level : Fin confPrioNbr) :
    ((sequencer.select taskMask counter).taskPrio level).priority =
      (sequencer.taskPrio level).priority := by
  by_cases same : level = counter
  · subst same
    simp [select]
  · simp [select, same]

/-- The round robin mask of a level after a choice at some level. -/
theorem select_roundRobin
    (sequencer : Sequencer) (taskMask : Bitmap)
    (counter level : Fin confPrioNbr) :
    ((sequencer.select taskMask counter).taskPrio level).roundRobin =
      if level = counter then
        sequencer.roundRobin taskMask counter &&&
          ~~~taskBit (sequencer.select taskMask counter).currentTaskIdx
      else
        (sequencer.taskPrio level).roundRobin := by
  by_cases same : level = counter
  · subst same
    simp [select]
  · simp [select, same]

/-- The chosen task is ready, and round robin allows it. -/
theorem select_currentTaskIdx
    {sequencer : Sequencer}
    {taskMask : Bitmap}
    {counter : Fin confPrioNbr}
    (filled : sequencer.ready taskMask counter ≠ 0#32) :
    (sequencer.ready taskMask counter).getLsbD
        (sequencer.select taskMask counter).currentTaskIdx = true ∧
      (sequencer.roundRobin taskMask counter).getLsbD
        (sequencer.select taskMask counter).currentTaskIdx = true := by
  have common : sequencer.ready taskMask counter &&&
      sequencer.roundRobin taskMask counter ≠ 0#32 := by
    rw [roundRobin]
    split
    · rw [BitVec.and_allOnes]
      exact filled
    · next remains =>
        rw [BitVec.and_comm]
        exact remains
  have found := getLsbD_bitPosition common
  rw [BitVec.getLsbD_and, Bool.and_eq_true] at found
  exact found

theorem getLsbD_takeOut_taskSet (sequencer : Sequencer) (index : Nat) :
    sequencer.takeOut.taskSet.getLsbD index = true ↔
      sequencer.taskSet.getLsbD index = true ∧
        index ≠ sequencer.currentTaskIdx := by
  simp only [takeOut, BitVec.getLsbD_and, BitVec.getLsbD_not,
    getLsbD_taskBit, Bool.and_eq_true, Bool.not_eq_true',
    decide_eq_true_eq, decide_eq_false_iff_not]
  constructor
  · rintro ⟨set, small, other⟩
    exact ⟨set, fun same => other ⟨same, small⟩⟩
  · rintro ⟨set, other⟩
    exact ⟨set, lt_of_bit set, fun same => other same.1⟩

theorem getLsbD_takeOut_priority
    (sequencer : Sequencer) (level : Fin confPrioNbr) (index : Nat) :
    (sequencer.takeOut.taskPrio level).priority.getLsbD index = true ↔
      (sequencer.taskPrio level).priority.getLsbD index = true ∧
        index ≠ sequencer.currentTaskIdx := by
  simp only [takeOut, BitVec.getLsbD_and, BitVec.getLsbD_not,
    getLsbD_taskBit, Bool.and_eq_true, Bool.not_eq_true',
    decide_eq_true_eq, decide_eq_false_iff_not]
  constructor
  · rintro ⟨set, small, other⟩
    exact ⟨set, fun same => other ⟨same, small⟩⟩
  · rintro ⟨set, other⟩
    exact ⟨set, lt_of_bit set, fun same => other same.1⟩

section Steps

variable {execution next : Execution}

/-- A call of `UTIL_SEQ_Run` by `main` or by `UTIL_SEQ_EvtIdle`. -/
theorem Invariant.advanceOutside
    (invariant : Invariant execution)
    (outside : execution.control = .outside) :
    Invariant (advanceOutside execution) := by
  have sound := invariant.control
  have nested := invariant.nested
  rw [outside, Control.Sound] at sound
  unfold Sequencer.advanceOutside
  cases waiting : execution.waiting with
  | nil =>
      rw [waiting] at sound
      refine ⟨invariant.levels, invariant.nested, ?_⟩
      refine ⟨?_, ?_, trivial⟩
      · simp only [callRun, waiting]
        exact sound
      · simp only [callRun, waiting, BitVec.and_allOnes]
        exact sound
  | cons innermost rest =>
      rw [waiting] at sound nested
      obtain ⟨small, current, apart, masks, restNested⟩ := nested
      simp only
      split
      · refine ⟨invariant.levels, invariant.nested, ?_⟩
        refine ⟨?_, ?_, trivial⟩
        · simp only [callRun, waiting]
          exact sound
        · simp only [callRun, waiting, current, waitTask_of_lt small]
          exact sound.narrow innermost.task
      · exact
          { levels := invariant.levels
            nested := restNested
            control := ⟨masks, sound, small, apart, current⟩ }

/-- A step of `UTIL_SEQ_Run`. -/
theorem Invariant.advanceRun
    (invariant : Invariant execution)
    {backup : Bitmap}
    {phase : RunPhase}
    (inRun : execution.control = .inRun backup phase)
    (advanced : advanceRun execution backup phase = some next) :
    Invariant next := by
  have sound := invariant.control
  rw [inRun] at sound
  obtain ⟨backupMasks, masks, known⟩ := sound
  have moved (control : RunPhase)
      (controlSound : control.Sound execution.sequencer) :
      Invariant { execution with control := .inRun backup control } :=
    ⟨invariant.levels, invariant.nested,
      ⟨backupMasks, masks, controlSound⟩⟩
  cases phase with
  | loadTaskSet =>
      cases advanced
      exact moved _ fun _ set => set
  | loadEvtSet taskSet =>
      cases advanced
      exact moved _ known
  | loadTaskMask taskSet evtSet =>
      cases advanced
      exact moved _ known
  | loadEvtWaited taskSet evtSet taskMask =>
      rw [Sequencer.advanceRun] at advanced
      split at advanced
      · next found =>
          cases advanced
          -- a task that was set is pending at some level
          obtain ⟨index, set⟩ := exists_bit_of_ne_zero found.1
          simp only [BitVec.getLsbD_and, Bool.and_eq_true] at set
          obtain ⟨level, pending⟩ :=
            (invariant.levels index).mp (known index set.1.1)
          refine moved _
            ⟨level, Nat.zero_le _, @ne_zero_of_bit _ index ?_⟩
          rw [getLsbD_ready, pending, set.1.2, set.2]
          rfl
      · cases advanced
        exact moved _ trivial
  | searching taskMask counter =>
      obtain ⟨level, ahead, filled⟩ := known
      rw [Sequencer.advanceRun] at advanced
      split at advanced
      · next inTable =>
          split at advanced
          · next empty =>
              cases advanced
              refine moved _ ⟨level, ?_, filled⟩
              have other : counter ≠ level := by
                rintro rfl
                exact filled empty
              omega
          · next found =>
              cases advanced
              exact moved _ found
      · cases advanced
  | selecting taskMask counter =>
      cases advanced
      obtain ⟨isReady, allowed⟩ := select_currentTaskIdx known
      rw [getLsbD_ready] at isReady
      simp only [Bool.and_eq_true] at isReady
      refine
        { levels := ?_
          nested := invariant.nested
          control := ⟨backupMasks, masks, ?_, isReady.2, ?_⟩ }
      · intro index
        simp only [select_priority]
        exact invariant.levels index
      · rw [select_priority]
        exact isReady.1.1
      · rw [select_roundRobin, if_pos rfl, BitVec.getLsbD_and,
          BitVec.getLsbD_not, getLsbD_taskBit]
        simp [lt_of_bit isReady.2]
  | starting counter =>
      cases advanced
      obtain ⟨pending, passes, _⟩ := known
      refine
        { levels := ?_
          nested := invariant.nested
          control :=
            ⟨backupMasks, masks, lt_of_bit passes, masks.notMem passes,
              rfl⟩ }
      intro index
      simp only [getLsbD_takeOut_taskSet, getLsbD_takeOut_priority,
        invariant.levels index]
      exact exists_and_right.symm
  | beforeIdle =>
      cases advanced
      exact
        { levels := invariant.levels
          nested := invariant.nested
          control := ⟨backupMasks, masks, trivial⟩ }
  | afterIdle =>
      cases advanced
      exact
        { levels := invariant.levels
          nested := invariant.nested
          control := backupMasks }

theorem Invariant.step
    (invariant : Invariant execution)
    {event : Event}
    (stepped : Sequencer.step execution event = some next) :
    Invariant next := by
  have sound := invariant.control
  cases event with
  | operation operation =>
      cases stepped
      exact
        { levels := levels_operate invariant.levels operation
          nested := invariant.nested
          control := (grows_operate _ operation).control sound }
  | waitEvt evtId =>
      rw [Sequencer.step] at stepped
      split at stepped
      · next backup index inTask =>
          cases stepped
          rw [inTask] at sound
          obtain ⟨backupMasks, masks, small, apart, current⟩ := sound
          exact
            { levels := invariant.levels
              nested :=
                ⟨small, current, apart, backupMasks, invariant.nested⟩
              control := masks }
      · cases stepped
  | taskReturn =>
      rw [Sequencer.step] at stepped
      split at stepped
      · next backup index inTask =>
          cases stepped
          rw [inTask] at sound
          exact
            { levels := invariant.levels
              nested := invariant.nested
              control := ⟨sound.1, sound.2.1, trivial⟩ }
      · cases stepped
  | advance =>
      rw [Sequencer.step] at stepped
      split at stepped
      · next outside =>
          cases stepped
          exact invariant.advanceOutside outside
      · next backup phase inRun =>
          exact invariant.advanceRun inRun stepped
      · cases stepped

end Steps

theorem invariant_of_run
    {events : List Event}
    {execution : Execution}
    (run : Run system events execution) :
    Invariant execution :=
  run.invariant (fun _ starts => starts ▸ invariant_booted)
    fun _ _ _ invariant stepped => invariant.step stepped

/-- An interrupt sets a task, which waits while another one runs. -/
def nestedRun : List Event :=
  .operation (.setTask 18#32 prio1) :: List.replicate 9 .advance ++
    .waitEvt 1#32 :: .operation (.setTask 16#32 prio0) ::
      List.replicate 9 .advance

theorem nestedRun_result :
    (nestedRun.foldlM step booted).map (fun execution =>
        (execution.tasks,
          (execution.sequencer.taskPrio prio0).priority.getLsbD 4)) =
      some ([1, 4], true) := by
  decide +kernel

/-- A task is set at a level and not started since. -/
def PendingAt
    (occurrences : List Occurrence) (level : Fin confPrioNbr)
    (index : Nat) : Prop :=
  ∃ earlier tasks later,
    occurrences = earlier ++ .set tasks level :: later ∧
      tasks.getLsbD index = true ∧
      ∀ counter, .start index counter ∉ later

/-- Where an element of a list with a new last one is. -/
theorem concat_eq_split
    {α : Type*}
    {list earlier later : List α}
    {last element : α}
    (same : list ++ [last] = earlier ++ element :: later) :
    (later = [] ∧ earlier = list ∧ element = last) ∨
      ∃ between,
        later = between ++ [last] ∧ list = earlier ++ element :: between := by
  rcases List.eq_nil_or_concat' later with rfl | ⟨between, other, rfl⟩
  · obtain ⟨rfl, rest⟩ := List.append_inj' same rfl
    exact Or.inl ⟨rfl, rfl, (List.singleton_inj.mp rest).symm⟩
  · rw [← List.cons_append, ← List.append_assoc] at same
    obtain ⟨rfl, rest⟩ := List.append_inj' same rfl
    rw [List.singleton_inj.mp rest]
    exact Or.inr ⟨between, rfl, rfl⟩

theorem pendingAt_append_set
    {occurrences : List Occurrence}
    {tasks : Bitmap}
    {priority level : Fin confPrioNbr}
    {index : Nat} :
    PendingAt (occurrences ++ [.set tasks priority]) level index ↔
      PendingAt occurrences level index ∨
        level = priority ∧ tasks.getLsbD index = true := by
  constructor
  · rintro ⟨earlier, others, later, same, set, notStarted⟩
    rcases concat_eq_split same with ⟨_, _, last⟩ | ⟨between, rfl, rfl⟩
    · cases last
      exact Or.inr ⟨rfl, set⟩
    · exact Or.inl ⟨earlier, others, between, rfl, set,
        fun counter member =>
          notStarted counter (List.mem_append_left _ member)⟩
  · rintro (⟨earlier, others, later, rfl, set, notStarted⟩ | ⟨rfl, set⟩)
    · refine ⟨earlier, others, later ++ [.set tasks priority], ?_, set, ?_⟩
      · rw [List.append_assoc, List.cons_append]
      · intro counter member
        rcases List.mem_append.mp member with inside | last
        · exact notStarted counter inside
        · cases List.mem_singleton.mp last
    · exact ⟨occurrences, tasks, [], rfl, set, fun _ => List.not_mem_nil⟩

theorem pendingAt_append_start
    {occurrences : List Occurrence}
    {started : Nat}
    {counter level : Fin confPrioNbr}
    {index : Nat} :
    PendingAt (occurrences ++ [.start started counter]) level index ↔
      PendingAt occurrences level index ∧ index ≠ started := by
  constructor
  · rintro ⟨earlier, others, later, same, set, notStarted⟩
    rcases concat_eq_split same with ⟨_, _, last⟩ | ⟨between, rfl, rfl⟩
    · cases last
    · refine ⟨⟨earlier, others, between, rfl, set, ?_⟩, ?_⟩
      · exact fun counter member =>
          notStarted counter (List.mem_append_left _ member)
      · rintro rfl
        exact notStarted counter
          (List.mem_append_right _ (List.mem_singleton_self _))
  · rintro ⟨⟨earlier, others, later, rfl, set, notStarted⟩, other⟩
    refine ⟨earlier, others, later ++ [.start started counter], ?_, set, ?_⟩
    · rw [List.append_assoc, List.cons_append]
    · intro level member
      rcases List.mem_append.mp member with inside | last
      · exact notStarted level inside
      · cases List.mem_singleton.mp last
        exact other rfl

/-- What the occurrences of a run tell about its last state. -/
structure Recorded (execution : Execution) : Prop where
  pending : ∀ level index,
    (execution.sequencer.taskPrio level).priority.getLsbD index = true ↔
      PendingAt execution.occurrences level index
  started : ∀ earlier index counter later,
    execution.occurrences = earlier ++ .start index counter :: later →
      PendingAt earlier counter index

theorem Recorded.unchanged
    {execution next : Execution}
    (recorded : Recorded execution)
    (priority : ∀ level,
      (next.sequencer.taskPrio level).priority =
        (execution.sequencer.taskPrio level).priority)
    (occurrences : next.occurrences = execution.occurrences) :
    Recorded next where
  pending := by
    intro level index
    rw [priority, occurrences]
    exact recorded.pending level index
  started := by
    rw [occurrences]
    exact recorded.started

theorem Recorded.operation
    {execution : Execution}
    (recorded : Recorded execution)
    (operation : Operation) :
    Recorded
      { execution with
        sequencer := execution.sequencer.operate operation
        occurrences :=
          execution.occurrences ++ Operation.occurrences operation } := by
  cases operation with
  | setTask tasks priority =>
      constructor
      · intro level index
        simp only [Operation.occurrences, pendingAt_append_set,
          ← recorded.pending level index]
        by_cases same : level = priority
        · subst same
          simp [operate, setTask]
        · simp [operate, setTask, same]
      · intro earlier index counter later same
        rcases concat_eq_split same with ⟨_, _, last⟩ | ⟨_, _, others⟩
        · cases last
        · exact recorded.started _ _ _ _ others
  | _ => exact recorded.unchanged (fun _ => rfl) (List.append_nil _)

theorem Recorded.starting
    {execution : Execution}
    (recorded : Recorded execution)
    {counter : Fin confPrioNbr}
    (pending :
      (execution.sequencer.taskPrio counter).priority.getLsbD
        execution.sequencer.currentTaskIdx = true)
    (control : Control) :
    Recorded
      { execution with
        sequencer := execution.sequencer.takeOut
        control := control
        occurrences :=
          execution.occurrences ++
            [.start execution.sequencer.currentTaskIdx counter] } where
  pending := by
    intro level index
    simp only [pendingAt_append_start, getLsbD_takeOut_priority,
      recorded.pending level index]
  started := by
    intro earlier index level later same
    rcases concat_eq_split same with ⟨_, rfl, last⟩ | ⟨_, _, others⟩
    · cases last
      exact (recorded.pending _ _).mp pending
    · exact recorded.started _ _ _ _ others

/-- A step that neither chooses nor starts a task. -/
structure Quiet (execution next : Execution) : Prop where
  taskPrio : next.sequencer.taskPrio = execution.sequencer.taskPrio
  occurrences : next.occurrences = execution.occurrences
  notStarting : ∀ backup counter,
    next.control ≠ .inRun backup (.starting counter)

/-- What a step does to the levels and the occurrences. -/
inductive Moves (execution : Execution) : Execution → Prop where
  | operation (operation : Operation) :
      Moves execution
        { execution with
          sequencer := execution.sequencer.operate operation
          occurrences :=
            execution.occurrences ++ Operation.occurrences operation }
  | selects
      {backup taskMask : Bitmap}
      {counter : Fin confPrioNbr}
      (selecting :
        execution.control = .inRun backup (.selecting taskMask counter)) :
      Moves execution
        { execution with
          sequencer := execution.sequencer.select taskMask counter
          control := .inRun backup (.starting counter) }
  | starts
      {backup : Bitmap}
      {counter : Fin confPrioNbr}
      (starting : execution.control = .inRun backup (.starting counter)) :
      Moves execution
        { execution with
          sequencer := execution.sequencer.takeOut
          control := .inTask backup execution.sequencer.currentTaskIdx
          occurrences :=
            execution.occurrences ++
              [.start execution.sequencer.currentTaskIdx counter] }
  | quiet
      {next : Execution}
      (quiet : Quiet execution next) :
      Moves execution next

theorem quiet_callRun (execution : Execution) (mask : Bitmap) :
    Quiet execution (callRun execution mask) :=
  ⟨rfl, rfl, fun _ _ same => by cases same⟩

theorem moves_of_step
    {execution next : Execution}
    {event : Event}
    (stepped : step execution event = some next) :
    Moves execution next := by
  cases event with
  | operation operation =>
      cases stepped
      exact .operation operation
  | waitEvt evtId =>
      rw [step] at stepped
      split at stepped
      · cases stepped
        exact .quiet ⟨rfl, rfl, nofun⟩
      · cases stepped
  | taskReturn =>
      rw [step] at stepped
      split at stepped
      · cases stepped
        exact .quiet ⟨rfl, rfl, nofun⟩
      · cases stepped
  | advance =>
      rw [step] at stepped
      split at stepped
      · cases stepped
        unfold advanceOutside
        split
        · exact .quiet (quiet_callRun _ _)
        · simp only
          split
          · exact .quiet (quiet_callRun _ _)
          · exact .quiet ⟨rfl, rfl, nofun⟩
      · next backup phase inRun =>
          cases phase with
          | loadEvtWaited taskSet evtSet taskMask =>
              rw [advanceRun] at stepped
              split at stepped
              · cases stepped
                exact .quiet ⟨rfl, rfl, nofun⟩
              · cases stepped
                exact .quiet ⟨rfl, rfl, nofun⟩
          | searching taskMask counter =>
              rw [advanceRun] at stepped
              split at stepped
              · split at stepped
                · cases stepped
                  exact .quiet ⟨rfl, rfl, nofun⟩
                · cases stepped
                  exact .quiet ⟨rfl, rfl, nofun⟩
              · cases stepped
          | selecting taskMask counter =>
              cases stepped
              exact .selects inRun
          | starting counter =>
              cases stepped
              exact .starts inRun
          | _ =>
              cases stepped
              exact .quiet ⟨rfl, rfl, nofun⟩
      · cases stepped

theorem Recorded.moves
    {execution next : Execution}
    (recorded : Recorded execution)
    (invariant : Invariant execution)
    (moves : Moves execution next) :
    Recorded next := by
  cases moves with
  | operation operation => exact recorded.operation operation
  | selects selecting =>
      exact recorded.unchanged
        (fun level => select_priority _ _ _ level) rfl
  | starts starting =>
      have sound := invariant.control
      rw [starting] at sound
      exact recorded.starting sound.2.2.1 _
  | quiet quiet =>
      refine recorded.unchanged (fun level => ?_) quiet.occurrences
      rw [quiet.taskPrio]

/--
No activation of a task is lost and none is made up: in every run, a task is
pending at a level exactly if it was set there after its last start, and it is
started from a level only where it is pending.
-/
theorem activations_kept
    {events : List Event}
    {execution : Execution}
    (run : Run system events execution) :
    (∀ index, execution.sequencer.taskSet.getLsbD index = true ↔
      ∃ level, PendingAt execution.occurrences level index) ∧
    (∀ level index,
      (execution.sequencer.taskPrio level).priority.getLsbD index = true ↔
        PendingAt execution.occurrences level index) ∧
    ∀ earlier index counter later,
      execution.occurrences = earlier ++ .start index counter :: later →
        PendingAt earlier counter index := by
  have initial : Recorded booted := by
    constructor
    · intro level index
      simp [booted, init, PendingAt]
    · intro earlier index counter later same
      simp [booted] at same
  obtain ⟨invariant, recorded⟩ : Invariant execution ∧ Recorded execution := by
    refine @Run.invariant _ _ system
      (fun execution => Invariant execution ∧ Recorded execution)
      ?_ ?_ events execution run
    · rintro _ rfl
      exact ⟨invariant_booted, initial⟩
    · intro _ _ _ holds stepped
      exact ⟨holds.1.step stepped,
        holds.2.moves holds.1 (moves_of_step stepped)⟩
  refine ⟨fun index => ?_, recorded.pending, recorded.started⟩
  rw [invariant.levels]
  exact exists_congr fun level => recorded.pending level index

theorem activations_kept_nested :
    ∃ execution, nestedRun.foldlM step booted = some execution ∧
      execution.tasks = [1, 4] ∧ PendingAt execution.occurrences prio0 4 := by
  obtain ⟨execution, applied, result⟩ :=
    Option.map_eq_some_iff.mp nestedRun_result
  refine ⟨execution, applied, congrArg Prod.fst result, ?_⟩
  exact ((activations_kept
    (Run.ofSteps nestedRun (.start rfl) applied)).2.1 prio0 4).mp
      (congrArg Prod.snd result)

end Sequencer

end DemoBoard
