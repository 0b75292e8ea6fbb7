import DemoBoard.HciCommands
import DemoBoard.SequencerRuns

namespace DemoBoard.Hci

open Sequencer TransitionRuns

/-!
# Runs of HCI commands

Pausing the tasks that may send commands keeps every command alone until it is
answered, however the sequencer nests the tasks that run meanwhile, and an
answer that has arrived never waits for a task that does not look for it.
-/

/-- The loaded mask keeps the listed tasks from being started. -/
def Spares (sequencer : Sequencer) : RunPhase → Prop
  | .loadEvtWaited _ _ taskMask | .searching taskMask _
  | .selecting taskMask _ => taskMask &&& taskIdList = 0#32
  | .starting _ => 2 ≤ sequencer.currentTaskIdx
  | _ => True

/-- A command is executed, and only tasks that are not listed run inside. -/
structure InFlight (execution : Execution) (command : Command) : Prop where
  paused : execution.sequencer.taskMask = ~~~taskIdList
  around : ∃ inner outer,
    execution.tasks = inner ++ command.task :: outer ∧
      ∀ index ∈ inner, 2 ≤ index
  spares : ∀ backup phase, execution.control = .inRun backup phase →
    Spares execution.sequencer phase
  executes : command.phase ≠ .waiting →
    ∃ backup, execution.control = .inTask backup command.task
  waits : ∀ waiting ∈ execution.waiting,
    waiting.evtId.getLsbD 0 = true →
      command.phase = .waiting ∧ waiting.task = command.task

/-- No command is executed. -/
structure Unused (execution : Execution) : Prop where
  resumed : execution.sequencer.taskMask = BitVec.allOnes 32
  waits : ∀ waiting ∈ execution.waiting,
    waiting.evtId.getLsbD 0 = false

/-- At most one command is executed. -/
def Exclusive (hci : Hci) : Prop :=
  (hci.commands = [] ∧ Unused hci.execution) ∨
    ∃ command, hci.commands = [command] ∧ InFlight hci.execution command

theorem two_le_of_spared
    {taskMask : Bitmap}
    {index : Nat}
    (spared : taskMask &&& taskIdList = 0#32)
    (set : taskMask.getLsbD index = true) :
    2 ≤ index := by
  by_contra small
  refine @ne_zero_of_bit (taskMask &&& taskIdList) index ?_ spared
  rw [BitVec.getLsbD_and, set, Bool.true_and]
  have either : index = 0 ∨ index = 1 := by omega
  rcases either with rfl | rfl
  · decide
  · decide

section Sequencing

variable
  {execution next : Execution}
  {command : Command}

/-- A step that changes neither masks nor tasks. -/
theorem InFlight.moved
    (inFlight : InFlight execution command)
    (taskMask : next.sequencer.taskMask = execution.sequencer.taskMask)
    (tasks : next.tasks = execution.tasks)
    (waiting : ∀ task ∈ next.waiting, task ∈ execution.waiting)
    (isWaiting : command.phase = .waiting)
    (spares : ∀ backup phase, next.control = .inRun backup phase →
      Spares next.sequencer phase) :
    InFlight next command where
  paused := taskMask.trans inFlight.paused
  around := by
    rw [tasks]
    exact inFlight.around
  spares := spares
  executes := fun other => absurd isWaiting other
  waits := fun task member => inFlight.waits task (waiting task member)

/-- The sequencer executes while the task of the command waits. -/
theorem InFlight.isWaiting
    (inFlight : InFlight execution command)
    (elsewhere : ∀ backup index,
      execution.control ≠ .inTask backup index) :
    command.phase = .waiting := by
  by_contra other
  obtain ⟨backup, inTask⟩ := inFlight.executes other
  exact elsewhere backup _ inTask

theorem InFlight.advanceOutside
    (inFlight : InFlight execution command)
    (outside : execution.control = .outside) :
    InFlight (advanceOutside execution) command := by
  have isWaiting := inFlight.isWaiting (by simp [outside])
  have tasks : execution.tasks = execution.waitingTasks := by
    rw [Execution.tasks, outside]
  have called (mask : Bitmap) :
      InFlight (callRun execution mask) command := by
    refine inFlight.moved rfl tasks.symm (fun _ member => member)
      isWaiting ?_
    intro backup phase inRun
    cases inRun
    trivial
  unfold Sequencer.advanceOutside
  split
  · exact called _
  · next innermost rest waiting =>
      simp only
      split
      · exact called _
      · refine inFlight.moved rfl ?_ ?_ isWaiting (by rintro _ _ ⟨⟩)
        · rw [tasks, Execution.waitingTasks, waiting]
          rfl
        · intro task member
          rw [waiting]
          exact List.mem_cons_of_mem _ member

theorem InFlight.advanceRun
    (inFlight : InFlight execution command)
    (invariant : Invariant execution)
    {backup : Bitmap}
    {phase : RunPhase}
    (inRun : execution.control = .inRun backup phase)
    (advanced : advanceRun execution backup phase = some next) :
    InFlight next command := by
  have isWaiting := inFlight.isWaiting (by simp [inRun])
  have sound := invariant.control
  rw [inRun] at sound
  have spared := inFlight.spares backup phase inRun
  have tasks : execution.tasks = execution.waitingTasks := by
    rw [Execution.tasks, inRun]
  -- a step inside of `UTIL_SEQ_Run` leaves the tasks alone
  have moved (sequencer : Sequencer) (later : RunPhase)
      (taskMask : sequencer.taskMask = execution.sequencer.taskMask)
      (spares : Spares sequencer later) :
      InFlight
        { execution with
          sequencer := sequencer
          control := .inRun backup later } command := by
    refine inFlight.moved taskMask tasks.symm (fun _ member => member)
      isWaiting ?_
    intro _ _ same
    cases same
    exact spares
  cases phase with
  | loadTaskMask taskSet evtSet =>
      cases advanced
      refine moved _ _ rfl ?_
      rw [Spares, inFlight.paused]
      decide
  | loadEvtWaited taskSet evtSet taskMask =>
      rw [Sequencer.advanceRun] at advanced
      split at advanced
      · cases advanced
        exact moved _ _ rfl spared
      · cases advanced
        exact moved _ _ rfl trivial
  | searching taskMask counter =>
      rw [Sequencer.advanceRun] at advanced
      split at advanced
      · split at advanced
        · cases advanced
          exact moved _ _ rfl spared
        · cases advanced
          exact moved _ _ rfl spared
      · cases advanced
  | selecting taskMask counter =>
      cases advanced
      have isReady := (select_currentTaskIdx sound.2.2).1
      rw [getLsbD_ready] at isReady
      simp only [Bool.and_eq_true] at isReady
      exact moved _ _ rfl (two_le_of_spared spared isReady.1.2)
  | starting counter =>
      cases advanced
      obtain ⟨inner, outer, same, unlisted⟩ := inFlight.around
      rw [tasks] at same
      exact
        { paused := inFlight.paused
          around :=
            ⟨execution.sequencer.currentTaskIdx :: inner, outer,
              congrArg _ same, List.forall_mem_cons.mpr
                ⟨spared, unlisted⟩⟩
          spares := by rintro _ _ ⟨⟩
          executes := fun other => absurd isWaiting other
          waits := inFlight.waits }
  | afterIdle =>
      cases advanced
      refine inFlight.moved rfl tasks.symm (fun _ member => member)
        isWaiting (by rintro _ _ ⟨⟩)
  | _ =>
      cases advanced
      exact moved _ _ rfl trivial

theorem InFlight.advance
    (inFlight : InFlight execution command)
    (invariant : Invariant execution)
    (stepped : Sequencer.step execution .advance = some next) :
    InFlight next command := by
  rw [Sequencer.step] at stepped
  split at stepped
  · next outside =>
      cases stepped
      exact inFlight.advanceOutside outside
  · next inRun => exact inFlight.advanceRun invariant inRun stepped
  · cases stepped

/-- Tasks and interrupts set tasks and events while a command is executed. -/
theorem InFlight.operation
    (inFlight : InFlight execution command)
    {sequencer : Sequencer}
    (taskMask : sequencer.taskMask = execution.sequencer.taskMask)
    (currentTaskIdx :
      sequencer.currentTaskIdx = execution.sequencer.currentTaskIdx)
    (occurrences : List Occurrence) :
    InFlight
      { execution with
        sequencer := sequencer
        occurrences := occurrences } command where
  paused := taskMask.trans inFlight.paused
  around := inFlight.around
  spares := by
    intro backup phase inRun
    have spared := inFlight.spares backup phase inRun
    cases phase with
    | starting counter =>
        rw [Spares, currentTaskIdx]
        exact spared
    | _ => exact spared
  executes := inFlight.executes
  waits := inFlight.waits

/-- The sequencer between commands. -/
theorem Unused.advance
    (unused : Unused execution)
    (stepped : Sequencer.step execution .advance = some next) :
    Unused next := by
  rw [Sequencer.step] at stepped
  split at stepped
  · cases stepped
    unfold Sequencer.advanceOutside
    split
    · exact ⟨unused.resumed, unused.waits⟩
    · next innermost rest waiting =>
        simp only
        split
        · exact ⟨unused.resumed, unused.waits⟩
        · refine ⟨unused.resumed, fun task member => ?_⟩
          exact unused.waits task
            (by rw [waiting]; exact List.mem_cons_of_mem _ member)
  · next backup phase inRun =>
      cases phase with
      | loadEvtWaited taskSet evtSet taskMask =>
          rw [Sequencer.advanceRun] at stepped
          split at stepped
          · cases stepped
            exact ⟨unused.resumed, unused.waits⟩
          · cases stepped
            exact ⟨unused.resumed, unused.waits⟩
      | searching taskMask counter =>
          rw [Sequencer.advanceRun] at stepped
          split at stepped
          · split at stepped
            · cases stepped
              exact ⟨unused.resumed, unused.waits⟩
            · cases stepped
              exact ⟨unused.resumed, unused.waits⟩
          · cases stepped
      | _ =>
          cases stepped
          exact ⟨unused.resumed, unused.waits⟩
  · cases stepped

end Sequencing

section Commands

variable {hci next : Hci}

theorem freeTask_eq_some
    {index : Nat}
    (free : hci.freeTask = some index) :
    (∃ backup, hci.execution.control = .inTask backup index) ∧
      ∀ command rest, hci.commands = command :: rest →
        command.task ≠ index := by
  unfold freeTask at free
  split at free
  · next backup task inTask =>
      split at free
      · cases free
      · next apart =>
          cases free
          refine ⟨⟨backup, inTask⟩, fun command rest commands same => ?_⟩
          rw [commands] at apart
          exact apart (congrArg some same)
  · cases free

theorem executing_eq_some
    {command : Command}
    {rest : List Command}
    (executes : hci.executing = some (command, rest)) :
    hci.commands = command :: rest ∧
      ∃ backup, hci.execution.control = .inTask backup command.task := by
  unfold executing at executes
  split at executes
  · next backup index innermost others inTask commands =>
      split at executes
      · next same =>
          cases executes
          exact ⟨commands, backup, by rw [inTask, same]⟩
      · cases executes
  · cases executes

theorem sequencerStep_eq_some
    {event : Sequencer.Event}
    (stepped : hci.sequencerStep event = some next) :
    ∃ execution, Sequencer.step hci.execution event = some execution ∧
      next = { hci with execution := execution } := by
  obtain ⟨execution, moved, rfl⟩ := Option.map_eq_some_iff.mp stepped
  exact ⟨execution, moved, rfl⟩

/-- Every step takes at most one step of the sequencer. -/
theorem execution_step
    {event : Event}
    (stepped : step hci event = some next) :
    next.execution = hci.execution ∨
      ∃ sequencerEvent,
        Sequencer.step hci.execution sequencerEvent =
          some next.execution := by
  cases event with
  | setTask tasks priority =>
      cases stepped
      exact Or.inr ⟨.operation _, rfl⟩
  | setEvt events =>
      cases stepped
      exact Or.inr ⟨.operation _, rfl⟩
  | receive event =>
      cases stepped
      exact Or.inr ⟨.operation (.setEvt cmdResponse), rfl⟩
  | sendReq request =>
      obtain ⟨index, _, rfl⟩ := Option.map_eq_some_iff.mp stepped
      exact Or.inr ⟨.operation (.pauseTask taskIdList), rfl⟩
  | advanceCommand =>
      obtain ⟨⟨command, rest⟩, _, advanced⟩ :=
        Option.bind_eq_some_iff.mp stepped
      unfold Hci.advanceCommand at advanced
      split at advanced
      · cases advanced
        exact Or.inl rfl
      · obtain ⟨between, waits, rfl⟩ := Option.map_eq_some_iff.mp advanced
        obtain ⟨execution, moved, rfl⟩ := sequencerStep_eq_some waits
        exact Or.inr ⟨_, moved⟩
      · cases advanced
        exact Or.inl rfl
      · split at advanced
        · cases advanced
          exact Or.inl rfl
        · cases advanced
          exact Or.inl rfl
      · cases advanced
        exact Or.inr ⟨.operation (.resumeTask taskIdList), rfl⟩
  | waitEvt evtId =>
      rw [step] at stepped
      split at stepped
      · obtain ⟨execution, moved, rfl⟩ := sequencerStep_eq_some stepped
        exact Or.inr ⟨_, moved⟩
      · cases stepped
  | taskReturn =>
      rw [step] at stepped
      split at stepped
      · obtain ⟨execution, moved, rfl⟩ := sequencerStep_eq_some stepped
        exact Or.inr ⟨_, moved⟩
      · cases stepped
  | advance =>
      obtain ⟨execution, moved, rfl⟩ := sequencerStep_eq_some stepped
      exact Or.inr ⟨_, moved⟩

theorem invariant_step
    (invariant : Invariant hci.execution)
    {event : Event}
    (stepped : step hci event = some next) :
    Invariant next.execution := by
  rcases execution_step stepped with same | ⟨sequencerEvent, moved⟩
  · rw [same]
    exact invariant
  · exact invariant.step moved

/-- An operation that neither pauses nor resumes. -/
theorem Exclusive.operate
    (exclusive : Exclusive hci)
    {operation : Operation}
    (taskMask :
      (hci.execution.sequencer.operate operation).taskMask =
        hci.execution.sequencer.taskMask) :
    Exclusive (hci.operate operation) := by
  rcases exclusive with ⟨none, unused⟩ | ⟨command, one, inFlight⟩
  · exact Or.inl ⟨none, taskMask.trans unused.resumed, unused.waits⟩
  · exact Or.inr ⟨command, one,
      inFlight.operation taskMask
        (grows_operate _ operation).currentTaskIdx _⟩

/-- A listed task finds no command when it sends one. -/
theorem Exclusive.unused_of_free
    (exclusive : Exclusive hci)
    {index : Nat}
    (free : hci.freeTask = some index)
    (listed : hci.commands = [] ∨ ∀ index ∈ hci.freeTask, index < 2) :
    hci.commands = [] ∧ Unused hci.execution := by
  rcases exclusive with unused | ⟨command, one, inFlight⟩
  · exact unused
  · obtain ⟨⟨backup, inTask⟩, apart⟩ := freeTask_eq_some free
    obtain ⟨inner, outer, tasks, unlisted⟩ := inFlight.around
    rw [Execution.tasks, inTask] at tasks
    have small : index < 2 := by
      rcases listed with none | listed
      · rw [one] at none
        cases none
      · exact listed index free
    cases inner with
    | nil =>
        injection tasks with same
        exact absurd same.symm (apart command [] one)
    | cons innermost rest =>
        injection tasks with same
        have large := unlisted innermost (List.mem_cons_self ..)
        omega

theorem Unused.send
    {execution : Execution}
    (unused : Unused execution)
    {backup : Bitmap}
    {index : Nat}
    (inTask : execution.control = .inTask backup index)
    {command : Command}
    (task : command.task = index)
    (occurrences : List Occurrence) :
    InFlight
      { execution with
        sequencer := execution.sequencer.operate (.pauseTask taskIdList)
        occurrences := occurrences } command where
  paused := by
    simp only [Sequencer.operate, unused.resumed]
    decide
  around := by
    refine ⟨[], execution.waitingTasks, ?_, by simp⟩
    simp only [Execution.tasks, inTask, task]
    rfl
  spares := by
    intro _ _ inRun
    rw [inTask] at inRun
    cases inRun
  executes := fun _ => ⟨backup, by rw [inTask, task]⟩
  waits := fun waiting member set => by
    rw [unused.waits waiting member] at set
    cases set

/-- A step of `hci_send_req` that stays with the task. -/
theorem InFlight.continued
    {execution : Execution}
    {command other : Command}
    (inFlight : InFlight execution command)
    (invariant : Invariant execution)
    {backup : Bitmap}
    (inTask : execution.control = .inTask backup command.task)
    (task : other.task = command.task) :
    InFlight execution other where
  paused := inFlight.paused
  around := by
    rw [task]
    exact inFlight.around
  spares := inFlight.spares
  executes := fun _ => ⟨backup, by rw [inTask, task]⟩
  waits := fun waiting member set => by
    -- the task executes, so that it is none of those that wait
    have apart := invariant.control
    rw [inTask] at apart
    have same := (inFlight.waits waiting member set).2
    exact absurd (same ▸ List.mem_map_of_mem member) apart.2.2.2.1

theorem InFlight.wait
    {execution next : Execution}
    {command other : Command}
    (inFlight : InFlight execution command)
    (invariant : Invariant execution)
    {backup : Bitmap}
    (inTask : execution.control = .inTask backup command.task)
    (task : other.task = command.task)
    (phase : other.phase = .waiting)
    (moved :
      Sequencer.step execution (.waitEvt cmdResponse) = some next) :
    InFlight next other := by
  have continued := inFlight.continued invariant inTask task
  simp only [Sequencer.step, inTask] at moved
  cases moved
  obtain ⟨inner, outer, tasks, unlisted⟩ := continued.around
  rw [Execution.tasks, inTask] at tasks
  exact
    { paused := continued.paused
      around := ⟨inner, outer, tasks, unlisted⟩
      spares := by rintro _ _ ⟨⟩
      executes := fun different => absurd phase different
      waits := fun waiting member set => by
        rcases List.mem_cons.mp member with rfl | earlier
        · exact ⟨phase, task.symm⟩
        · exact continued.waits waiting earlier set }

theorem Exclusive.advanceCommand
    (exclusive : Exclusive hci)
    (invariant : Invariant hci.execution)
    {command : Command}
    {rest : List Command}
    (executes : hci.executing = some (command, rest))
    (advanced : hci.advanceCommand command rest = some next) :
    Exclusive next := by
  obtain ⟨commands, backup, inTask⟩ := executing_eq_some executes
  obtain ⟨none, _⟩ | ⟨only, one, inFlight⟩ := exclusive
  · rw [none] at commands
    cases commands
  · rw [one] at commands
    cases commands
    have continued (other : Command) (task : other.task = command.task) :=
      inFlight.continued invariant inTask task
    unfold Hci.advanceCommand at advanced
    split at advanced
    · cases advanced
      exact Or.inr ⟨_, rfl, continued _ rfl⟩
    · obtain ⟨between, waits, rfl⟩ := Option.map_eq_some_iff.mp advanced
      obtain ⟨execution, moved, rfl⟩ := sequencerStep_eq_some waits
      exact Or.inr ⟨_, rfl,
        inFlight.wait invariant inTask rfl rfl moved⟩
    · cases advanced
      exact Or.inr ⟨_, rfl, continued _ rfl⟩
    · split at advanced
      · cases advanced
        exact Or.inr ⟨_, rfl, continued _ rfl⟩
      · cases advanced
        exact Or.inr ⟨_, rfl, continued _ rfl⟩
    · next answered =>
        cases advanced
        refine Or.inl ⟨rfl, ?_, ?_⟩
        · simp only [Hci.operate, Sequencer.operate, inFlight.paused]
          decide
        · intro waiting member
          by_contra set
          have phase := (inFlight.waits waiting member (by simpa using set)).1
          rw [answered] at phase
          cases phase

/-- A task outside of `hci_send_req` waits or returns. -/
theorem InFlight.free
    {execution : Execution}
    {command : Command}
    (inFlight : InFlight execution command)
    {backup : Bitmap}
    {index : Nat}
    (inTask : execution.control = .inTask backup index)
    (apart : command.task ≠ index) :
    command.phase = .waiting ∧
      ∃ inner outer,
        execution.waitingTasks = inner ++ command.task :: outer ∧
          2 ≤ index ∧ ∀ index ∈ inner, 2 ≤ index := by
  constructor
  · by_contra other
    obtain ⟨_, same⟩ := inFlight.executes other
    rw [inTask] at same
    cases same
    exact apart rfl
  · obtain ⟨inner, outer, tasks, unlisted⟩ := inFlight.around
    rw [Execution.tasks, inTask] at tasks
    cases inner with
    | nil =>
        injection tasks with same
        exact absurd same.symm apart
    | cons innermost others =>
        injection tasks with same remaining
        obtain ⟨large, unlisted⟩ := List.forall_mem_cons.mp unlisted
        exact ⟨others, outer, remaining, same ▸ large, unlisted⟩

/-- The event of a wait that is none for an answer. -/
theorem getLsbD_zero_of_other
    {evtId : Bitmap}
    (other : evtId &&& cmdResponse = 0#32) :
    evtId.getLsbD 0 = false := by
  have cleared : (evtId &&& cmdResponse).getLsbD 0 = false := by
    rw [other]
    rfl
  rw [BitVec.getLsbD_and, cmdResponse, getLsbD_taskBit] at cleared
  exact (Bool.and_true _).symm.trans cleared

theorem Exclusive.waitEvt
    (exclusive : Exclusive hci)
    {index : Nat}
    (free : hci.freeTask = some index)
    {evtId : Bitmap}
    (other : evtId &&& cmdResponse = 0#32)
    {execution : Execution}
    (moved : Sequencer.step hci.execution (.waitEvt evtId) = some execution) :
    Exclusive { hci with execution := execution } := by
  obtain ⟨⟨backup, inTask⟩, apart⟩ := freeTask_eq_some free
  have unasked := getLsbD_zero_of_other other
  simp only [Sequencer.step, inTask] at moved
  cases moved
  rcases exclusive with ⟨none, unused⟩ | ⟨command, one, inFlight⟩
  · exact Or.inl ⟨none, unused.resumed,
      List.forall_mem_cons.mpr ⟨unasked, unused.waits⟩⟩
  · obtain ⟨phase, inner, outer, tasks, large, unlisted⟩ :=
      inFlight.free inTask (apart command [] one)
    refine Or.inr ⟨command, one, ?_⟩
    exact
      { paused := inFlight.paused
        around := ⟨index :: inner, outer, congrArg _ tasks,
          List.forall_mem_cons.mpr ⟨large, unlisted⟩⟩
        spares := by rintro _ _ ⟨⟩
        executes := fun different => absurd phase different
        waits := fun waiting member set => by
          rcases List.mem_cons.mp member with rfl | earlier
          · rw [unasked] at set
            cases set
          · exact inFlight.waits waiting earlier set }

theorem Exclusive.taskReturn
    (exclusive : Exclusive hci)
    {index : Nat}
    (free : hci.freeTask = some index)
    {execution : Execution}
    (moved : Sequencer.step hci.execution .taskReturn = some execution) :
    Exclusive { hci with execution := execution } := by
  obtain ⟨⟨backup, inTask⟩, apart⟩ := freeTask_eq_some free
  simp only [Sequencer.step, inTask] at moved
  cases moved
  rcases exclusive with ⟨none, unused⟩ | ⟨command, one, inFlight⟩
  · exact Or.inl ⟨none, unused.resumed, unused.waits⟩
  · obtain ⟨phase, inner, outer, tasks, _, unlisted⟩ :=
      inFlight.free inTask (apart command [] one)
    refine Or.inr ⟨command, one, ?_⟩
    exact
      { paused := inFlight.paused
        around := ⟨inner, outer, tasks, unlisted⟩
        spares := by
          intro _ _ inRun
          cases inRun
          trivial
        executes := fun different => absurd phase different
        waits := inFlight.waits }

theorem Exclusive.step
    (exclusive : Exclusive hci)
    (invariant : Invariant hci.execution)
    {event : Event}
    (stepped : Hci.step hci event = some next)
    (listed : Listed hci event) :
    Exclusive next := by
  cases event with
  | setTask tasks priority =>
      cases stepped
      exact exclusive.operate rfl
  | setEvt events =>
      cases stepped
      exact exclusive.operate rfl
  | receive event =>
      cases stepped
      exact @Exclusive.operate hci exclusive (.setEvt cmdResponse) rfl
  | sendReq request =>
      obtain ⟨index, free, rfl⟩ := Option.map_eq_some_iff.mp stepped
      obtain ⟨none, unused⟩ := exclusive.unused_of_free free listed
      obtain ⟨⟨backup, inTask⟩, _⟩ := freeTask_eq_some free
      exact Or.inr ⟨_, congrArg _ none, unused.send inTask rfl _⟩
  | advanceCommand =>
      obtain ⟨⟨command, rest⟩, executes, advanced⟩ :=
        Option.bind_eq_some_iff.mp stepped
      exact exclusive.advanceCommand invariant executes advanced
  | waitEvt evtId =>
      rw [Hci.step] at stepped
      split at stepped
      · next allowed =>
          obtain ⟨execution, moved, rfl⟩ := sequencerStep_eq_some stepped
          obtain ⟨index, free⟩ := Option.isSome_iff_exists.mp allowed.1
          exact exclusive.waitEvt free allowed.2 moved
      · cases stepped
  | taskReturn =>
      rw [Hci.step] at stepped
      split at stepped
      · next free =>
          obtain ⟨execution, moved, rfl⟩ := sequencerStep_eq_some stepped
          obtain ⟨index, free⟩ := Option.isSome_iff_exists.mp free
          exact exclusive.taskReturn free moved
      · cases stepped
  | advance =>
      obtain ⟨execution, moved, rfl⟩ := sequencerStep_eq_some stepped
      rcases exclusive with ⟨none, unused⟩ | ⟨command, one, inFlight⟩
      · exact Or.inl ⟨none, unused.advance moved⟩
      · exact Or.inr ⟨command, one, inFlight.advance invariant moved⟩

/-- The command looks at the queue before it waits again. -/
def Takes (hci : Hci) (command : Command) : Prop :=
  (∃ available, command.phase = .draining available) ∨
    command.phase = .waiting ∧
      ∃ backup, hci.execution.control = .inTask backup command.task

/-- An event in the queue is signalled, or is about to be taken. -/
def Awake (hci : Hci) : Prop :=
  hci.cmdEventQueue ≠ [] →
    hci.execution.sequencer.evtSet.getLsbD 0 = true ∨
      ∃ command ∈ hci.commands, hci.Takes command

/-- The buffer holds the command until it is answered. -/
def Buffered (hci : Hci) : Prop :=
  ∀ command ∈ hci.commands, command.phase ≠ .sending →
    hci.cmdBuffer =
      some (command.request.opcode, command.request.cparam)

/-- A command that takes events executes itself. -/
theorem Exclusive.control_of_takes
    (exclusive : Exclusive hci)
    {command : Command}
    (member : command ∈ hci.commands)
    (takes : hci.Takes command) :
    ∃ backup, hci.execution.control = .inTask backup command.task := by
  rcases takes with ⟨available, draining⟩ | ⟨_, inTask⟩
  · obtain ⟨none, _⟩ | ⟨only, one, inFlight⟩ := exclusive
    · rw [none] at member
      cases member
    · rw [one] at member
      cases List.mem_singleton.mp member
      exact inFlight.executes (by rw [draining]; nofun)
  · exact inTask

/-- Steps while no command executes itself keep an event signalled. -/
theorem Awake.signalled
    (awake : Awake hci)
    (exclusive : Exclusive hci)
    (elsewhere : ∀ command ∈ hci.commands, ∀ backup,
      hci.execution.control ≠ .inTask backup command.task)
    (filled : hci.cmdEventQueue ≠ []) :
    hci.execution.sequencer.evtSet.getLsbD 0 = true := by
  rcases awake filled with signalled | ⟨command, member, takes⟩
  · exact signalled
  · obtain ⟨backup, inTask⟩ := exclusive.control_of_takes member takes
    exact absurd inTask (elsewhere command member backup)

/-- The sequencer clears the event only for the command that waits. -/
theorem Awake.advance
    (awake : Awake hci)
    (exclusive : Exclusive hci)
    {execution : Execution}
    (moved : Sequencer.step hci.execution .advance = some execution) :
    Awake { hci with execution := execution } := by
  intro filled
  rw [Sequencer.step] at moved
  split at moved
  · next outside =>
      have signalled := awake.signalled exclusive
        (by simp [outside]) filled
      cases moved
      unfold Sequencer.advanceOutside
      split
      · exact Or.inl signalled
      · next innermost rest waiting =>
          simp only
          split
          · exact Or.inl signalled
          · cases asked : innermost.evtId.getLsbD 0 with
            | false =>
                refine Or.inl ?_
                simp only [BitVec.getLsbD_and, BitVec.getLsbD_not,
                  signalled, asked]
                rfl
            | true =>
                have member : innermost ∈ hci.execution.waiting := by
                  rw [waiting]
                  exact List.mem_cons_self ..
                obtain ⟨_, unused⟩ | ⟨command, one, inFlight⟩ := exclusive
                · rw [unused.waits _ member] at asked
                  cases asked
                · obtain ⟨phase, task⟩ := inFlight.waits _ member asked
                  refine Or.inr ⟨command, ?_, Or.inr ⟨phase, ?_⟩⟩
                  · rw [one]
                    exact List.mem_singleton_self _
                  · exact ⟨_, congrArg _ task⟩
  · next backup phase inRun =>
      have signalled := awake.signalled exclusive (by simp [inRun]) filled
      refine Or.inl ?_
      cases phase with
      | loadEvtWaited taskSet evtSet taskMask =>
          rw [Sequencer.advanceRun] at moved
          split at moved
          · cases moved
            exact signalled
          · cases moved
            exact signalled
      | searching taskMask counter =>
          rw [Sequencer.advanceRun] at moved
          split at moved
          · split at moved
            · cases moved
              exact signalled
            · cases moved
              exact signalled
          · cases moved
      | _ =>
          cases moved
          exact signalled
  · cases moved

theorem Awake.advanceCommand
    (awake : Awake hci)
    (exclusive : Exclusive hci)
    {command : Command}
    {rest : List Command}
    (executes : hci.executing = some (command, rest))
    (advanced : hci.advanceCommand command rest = some next) :
    Awake next := by
  obtain ⟨commands, backup, inTask⟩ := executing_eq_some executes
  have alone : rest = [] := by
    obtain ⟨none, _⟩ | ⟨only, one, _⟩ := exclusive
    · rw [none] at commands
      cases commands
    · rw [one] at commands
      cases commands
      rfl
  subst alone
  -- a command that does not take events now leaves an event signalled
  have signalled
      (other : ¬ hci.Takes command)
      (filled : hci.cmdEventQueue ≠ []) :
      hci.execution.sequencer.evtSet.getLsbD 0 = true := by
    rcases awake filled with set | ⟨taking, member, takes⟩
    · exact set
    · rw [commands] at member
      cases List.mem_singleton.mp member
      exact absurd takes other
  unfold Hci.advanceCommand at advanced
  split at advanced
  · next phase =>
      cases advanced
      exact fun filled => Or.inl (signalled (by simp [Takes, phase]) filled)
  · next phase =>
      obtain ⟨between, waits, rfl⟩ := Option.map_eq_some_iff.mp advanced
      obtain ⟨execution, moved, rfl⟩ := sequencerStep_eq_some waits
      simp only [Sequencer.step, inTask] at moved
      cases moved
      exact fun filled => Or.inl (signalled (by simp [Takes, phase]) filled)
  · cases advanced
    exact fun _ => Or.inr ⟨_, List.mem_cons_self .., Or.inl ⟨_, rfl⟩⟩
  · next available phase =>
      split at advanced
      · next empty =>
          cases advanced
          exact fun filled => absurd empty filled
      · cases advanced
        exact fun _ => Or.inr ⟨_, List.mem_cons_self .., Or.inl ⟨_, rfl⟩⟩
  · next phase =>
      cases advanced
      exact fun filled => Or.inl (signalled (by simp [Takes, phase]) filled)

/-- An operation that clears no event. -/
theorem Awake.operate
    (awake : Awake hci)
    {operation : Operation}
    (grows : hci.execution.sequencer.evtSet.getLsbD 0 = true →
      (hci.execution.sequencer.operate operation).evtSet.getLsbD 0 = true) :
    Awake (hci.operate operation) := fun filled =>
  (awake filled).imp_left grows

theorem Awake.step
    (awake : Awake hci)
    (exclusive : Exclusive hci)
    {event : Event}
    (stepped : Hci.step hci event = some next) :
    Awake next := by
  -- whoever is free is not the one that takes events
  have unasked
      {index : Nat}
      (free : hci.freeTask = some index) :
      ∀ command ∈ hci.commands, ∀ backup,
        hci.execution.control ≠ .inTask backup command.task := by
    obtain ⟨⟨backup, inTask⟩, apart⟩ := freeTask_eq_some free
    obtain ⟨none, _⟩ | ⟨only, one, _⟩ := exclusive
    · simp [none]
    · intro command member other same
      rw [one] at member
      cases List.mem_singleton.mp member
      rw [inTask] at same
      cases same
      exact apart _ [] one rfl
  cases event with
  | setTask tasks priority =>
      cases stepped
      exact awake.operate fun signalled => signalled
  | setEvt events =>
      cases stepped
      refine awake.operate fun signalled => ?_
      simp only [Sequencer.operate, BitVec.getLsbD_or, signalled,
        Bool.true_or]
  | receive event =>
      cases stepped
      refine fun _ => Or.inl ?_
      simp [Hci.operate, Sequencer.operate, cmdResponse, getLsbD_taskBit]
  | sendReq request =>
      obtain ⟨index, _, rfl⟩ := Option.map_eq_some_iff.mp stepped
      intro filled
      refine (awake filled).imp_right ?_
      rintro ⟨command, member, takes⟩
      exact ⟨command, List.mem_cons_of_mem _ member, takes⟩
  | advanceCommand =>
      obtain ⟨⟨command, rest⟩, executes, advanced⟩ :=
        Option.bind_eq_some_iff.mp stepped
      exact awake.advanceCommand exclusive executes advanced
  | waitEvt evtId =>
      rw [Hci.step] at stepped
      split at stepped
      · next allowed =>
          obtain ⟨execution, moved, rfl⟩ := sequencerStep_eq_some stepped
          obtain ⟨index, free⟩ := Option.isSome_iff_exists.mp allowed.1
          obtain ⟨⟨backup, inTask⟩, _⟩ := freeTask_eq_some free
          simp only [Sequencer.step, inTask] at moved
          cases moved
          exact fun filled =>
            Or.inl (awake.signalled exclusive (unasked free) filled)
      · cases stepped
  | taskReturn =>
      rw [Hci.step] at stepped
      split at stepped
      · next free =>
          obtain ⟨execution, moved, rfl⟩ := sequencerStep_eq_some stepped
          obtain ⟨index, free⟩ := Option.isSome_iff_exists.mp free
          obtain ⟨⟨backup, inTask⟩, _⟩ := freeTask_eq_some free
          simp only [Sequencer.step, inTask] at moved
          cases moved
          exact fun filled =>
            Or.inl (awake.signalled exclusive (unasked free) filled)
      · cases stepped
  | advance =>
      obtain ⟨execution, moved, rfl⟩ := sequencerStep_eq_some stepped
      exact awake.advance exclusive moved

theorem Buffered.advanceCommand
    (exclusive : Exclusive hci)
    (buffered : Buffered hci)
    {command : Command}
    {rest : List Command}
    (executes : hci.executing = some (command, rest))
    (advanced : hci.advanceCommand command rest = some next) :
    Buffered next := by
  obtain ⟨commands, backup, inTask⟩ := executing_eq_some executes
  obtain ⟨none, _⟩ | ⟨only, one, _⟩ := exclusive
  · rw [none] at commands
    cases commands
  · rw [one] at commands
    cases commands
    -- the request of the command and the buffer stay
    have kept (other : Command) (request : other.request = command.request)
        (sent : command.phase ≠ .sending) :
        ∀ later ∈ [other], later.phase ≠ .sending →
          hci.cmdBuffer =
            some (later.request.opcode, later.request.cparam) := by
      intro later member _
      rw [List.mem_singleton.mp member, request]
      exact buffered command (by simp [one]) sent
    unfold Hci.advanceCommand at advanced
    split at advanced
    · cases advanced
      intro later member _
      cases List.mem_singleton.mp member
      rfl
    · next phase =>
        obtain ⟨between, waits, rfl⟩ := Option.map_eq_some_iff.mp advanced
        obtain ⟨execution, moved, rfl⟩ := sequencerStep_eq_some waits
        exact kept { command with phase := .waiting } rfl (by simp [phase])
    · next phase =>
        cases advanced
        exact kept { command with phase := .draining false } rfl
          (by simp [phase])
    · next available phase =>
        split at advanced
        · cases advanced
          exact kept _ rfl (by simp [phase])
        · cases advanced
          exact kept _ rfl (by simp [phase])
    · cases advanced
      exact fun later member => absurd member List.not_mem_nil

theorem Buffered.step
    (buffered : Buffered hci)
    (exclusive : Exclusive hci)
    {event : Event}
    (stepped : Hci.step hci event = some next)
    (listed : Listed hci event) :
    Buffered next := by
  cases event with
  | sendReq request =>
      obtain ⟨index, free, rfl⟩ := Option.map_eq_some_iff.mp stepped
      obtain ⟨none, _⟩ := exclusive.unused_of_free free listed
      intro command member sent
      rcases List.mem_cons.mp member with rfl | earlier
      · exact absurd rfl sent
      · rw [none] at earlier
        cases earlier
  | advanceCommand =>
      obtain ⟨⟨command, rest⟩, executes, advanced⟩ :=
        Option.bind_eq_some_iff.mp stepped
      exact buffered.advanceCommand exclusive executes advanced
  | waitEvt evtId =>
      rw [Hci.step] at stepped
      split at stepped
      · obtain ⟨execution, moved, rfl⟩ := sequencerStep_eq_some stepped
        exact buffered
      · cases stepped
  | taskReturn =>
      rw [Hci.step] at stepped
      split at stepped
      · obtain ⟨execution, moved, rfl⟩ := sequencerStep_eq_some stepped
        exact buffered
      · cases stepped
  | advance =>
      obtain ⟨execution, moved, rfl⟩ := sequencerStep_eq_some stepped
      exact buffered
  | _ =>
      cases stepped
      exact buffered

end Commands

/-- What holds after every step. -/
structure Serial (hci : Hci) : Prop where
  invariant : Invariant hci.execution
  exclusive : Exclusive hci
  buffered : Buffered hci
  awake : Awake hci

theorem serial_booted : Serial booted where
  invariant := invariant_booted
  exclusive := Or.inl ⟨rfl, rfl, nofun⟩
  buffered := nofun
  awake := fun filled => absurd rfl filled

theorem Serial.step
    {hci next : Hci}
    (serial : Serial hci)
    {event : Event}
    (stepped : Hci.step hci event = some next)
    (listed : Listed hci event) :
    Serial next where
  invariant := invariant_step serial.invariant stepped
  exclusive := serial.exclusive.step serial.invariant stepped listed
  buffered := serial.buffered.step serial.exclusive stepped listed
  awake := serial.awake.step serial.exclusive stepped

/--
While the tasks that send commands are those that the scheduler lists, no two
commands are executed at once, whatever runs in the nested executions of the
sequencer: the command buffer keeps a command until it is answered, only tasks
that are not listed run inside of its wait, and an answer in the queue is
signalled unless the command is about to take it.
-/
theorem commands_exclusive
    {events : List Event}
    {hci : Hci}
    (run : Run (system.restrict Listed) events hci) :
    hci.commands.length ≤ 1 ∧
      (∀ command ∈ hci.commands,
        (command.phase ≠ .sending →
          hci.cmdBuffer =
            some (command.request.opcode, command.request.cparam)) ∧
        ∃ inner outer,
          hci.execution.tasks = inner ++ command.task :: outer ∧
            ∀ index ∈ inner, 2 ≤ index) ∧
      (hci.cmdEventQueue ≠ [] →
        hci.execution.sequencer.evtSet.getLsbD 0 = true ∨
          ∃ command ∈ hci.commands, hci.Takes command) := by
  have serial : Serial hci := by
    refine @Run.invariant _ _ (system.restrict Listed) Serial ?_ ?_ events
      hci run
    · rintro _ rfl
      exact serial_booted
    · rintro state event next before ⟨stepped, listed⟩
      exact before.step stepped listed
  refine ⟨?_, fun command member => ⟨serial.buffered command member, ?_⟩,
    serial.awake⟩
  · obtain ⟨none, _⟩ | ⟨command, one, _⟩ := serial.exclusive
    · simp [none]
    · simp [one]
  · obtain ⟨none, _⟩ | ⟨only, one, inFlight⟩ := serial.exclusive
    · rw [none] at member
      cases member
    · rw [one] at member
      cases List.mem_singleton.mp member
      exact inFlight.around

/-- A request of the task of BLE messages. -/
def resetRequest : HciRequest where
  ogf := 3
  ocf := 3
  cparam := []
  returned := { rparam := [0xFF], rlen := 1 }

/-- Task 1 sends a command; listed tasks are set, and task 3 runs. -/
def commandRun : List Event :=
  .setTask 2#32 prio0 :: List.replicate 8 .advance ++
    .sendReq resetRequest :: .advanceCommand :: .advanceCommand ::
      .setTask 11#32 prio0 :: List.replicate 8 .advance

/-- A step that the scheduler's list of senders allows. -/
def stepListed (hci : Hci) (event : Event) : Option Hci :=
  if Listed hci event then step hci event else none

theorem commandRun_result :
    (commandRun.foldlM stepListed booted).map (fun hci =>
        (hci.execution.tasks, hci.commands.map Command.task)) =
      some ([3, 1], [1]) := by
  decide +kernel

theorem commands_exclusive_nested :
    ∃ hci, commandRun.foldlM stepListed booted = some hci ∧
      hci.execution.tasks = [3, 1] ∧ hci.commands.length ≤ 1 := by
  obtain ⟨hci, ran, result⟩ := Option.map_eq_some_iff.mp commandRun_result
  have run : Run (system.restrict Listed) commandRun hci :=
    @Run.ofStepsWhere _ _ booted booted step Listed _ commandRun [] booted
      hci (.start rfl) ran
  exact ⟨hci, ran, congrArg Prod.fst result, (commands_exclusive run).1⟩

/-- A command took one event, which answers it. -/
def Answered (command : Command) : Prop :=
  ∃ event,
    command.consumed = [event] ∧
      event.cmdcode = command.request.opcode ∧
      command.returned =
        event.answer command.request.opcode command.request.returned

/-- The answer of a command is on its way, or in the queue. -/
def OnTheWay (hci : Hci) (command : Command) : Prop :=
  command.consumed = [] ∧
    command.returned = command.request.returned ∧
    ((hci.outstanding = some command.request.opcode ∧
        hci.cmdEventQueue = []) ∨
      hci.outstanding = none ∧
        ∃ event,
          hci.cmdEventQueue = [event] ∧
            event.cmdcode = command.request.opcode ∧ event.numcmd ≠ 0)

/-- Nothing is on its way, and the queue is empty. -/
def Silent (hci : Hci) : Prop :=
  hci.outstanding = none ∧ hci.cmdEventQueue = []

/-- What a command knows about its answer. -/
def Expects (hci : Hci) (command : Command) : Prop :=
  match command.phase with
  | .sending =>
      Silent hci ∧ command.consumed = [] ∧
        command.returned = command.request.returned
  | .busy | .waiting | .draining false => OnTheWay hci command
  | .draining true | .answered => Silent hci ∧ Answered command

/-- What is known about answers after every step. -/
structure Settled (hci : Hci) : Prop where
  finished : ∀ command ∈ hci.finished, Answered command
  unused : hci.commands = [] → Silent hci
  expects : ∀ command ∈ hci.commands, Expects hci command

section Answers

variable {hci next : Hci}

/-- A step that touches neither commands nor answers. -/
theorem Settled.unchanged
    (settled : Settled hci)
    (execution : Execution) :
    Settled { hci with execution := execution } where
  finished := settled.finished
  unused := settled.unused
  expects := settled.expects

theorem Settled.receive
    (settled : Settled hci)
    {event : CommandEvent}
    (outstanding : hci.outstanding = some event.cmdcode)
    (numcmd : event.numcmd ≠ 0) :
    Settled
      { hci.operate (.setEvt cmdResponse) with
        cmdEventQueue := hci.cmdEventQueue ++ [event]
        outstanding := none } where
  finished := settled.finished
  unused := by
    intro none
    have silent := (settled.unused none).1
    rw [outstanding] at silent
    cases silent
  expects := by
    intro command member
    have expects := settled.expects command member
    have notSilent : ¬ Silent hci := by
      rintro ⟨silent, _⟩
      rw [outstanding] at silent
      cases silent
    -- only a command that was sent has an answer outstanding
    have arrives (onTheWay : OnTheWay hci command) :
        OnTheWay
          { hci.operate (.setEvt cmdResponse) with
            cmdEventQueue := hci.cmdEventQueue ++ [event]
            outstanding := none } command := by
      obtain ⟨consumed, returned, ⟨asked, empty⟩ | ⟨none, _⟩⟩ := onTheWay
      · rw [outstanding] at asked
        injection asked with same
        exact ⟨consumed, returned,
          Or.inr ⟨rfl, event, congrArg (· ++ [event]) empty, same,
            numcmd⟩⟩
      · rw [outstanding] at none
        cases none
    unfold Expects at expects ⊢
    split at expects
    · exact absurd expects.1 notSilent
    · next phase => exact arrives expects
    · next phase => exact arrives expects
    · next phase => exact arrives expects
    · exact absurd expects.1 notSilent
    · exact absurd expects.1 notSilent

theorem Settled.advanceCommand
    (settled : Settled hci)
    (exclusive : Exclusive hci)
    {command : Command}
    {rest : List Command}
    (executes : hci.executing = some (command, rest))
    (advanced : hci.advanceCommand command rest = some next) :
    Settled next := by
  obtain ⟨commands, backup, inTask⟩ := executing_eq_some executes
  obtain ⟨none, _⟩ | ⟨only, one, _⟩ := exclusive
  · rw [none] at commands
    cases commands
  · rw [one] at commands
    cases commands
    have expects := settled.expects command (by simp [one])
    have finished := settled.finished
    have one (state : Hci) (later : Command)
        (same : state.commands = [later])
        (finished : ∀ command ∈ state.finished, Answered command)
        (expects : Expects state later) : Settled state := by
      refine ⟨finished, ?_, ?_⟩
      · rw [same]
        nofun
      · rw [same]
        intro other member
        rw [List.mem_singleton.mp member]
        exact expects
    unfold Hci.advanceCommand at advanced
    split at advanced
    · next phase =>
        cases advanced
        rw [Expects, phase] at expects
        obtain ⟨⟨_, empty⟩, consumed, returned⟩ := expects
        exact one _ _ rfl finished
          ⟨consumed, returned, Or.inl ⟨rfl, empty⟩⟩
    · next phase =>
        obtain ⟨between, waits, rfl⟩ := Option.map_eq_some_iff.mp advanced
        obtain ⟨execution, moved, rfl⟩ := sequencerStep_eq_some waits
        rw [Expects, phase] at expects
        exact one _ _ rfl finished expects
    · next phase =>
        cases advanced
        rw [Expects, phase] at expects
        exact one _ _ rfl finished expects
    · next available phase =>
        split at advanced
        · next empty =>
            cases advanced
            cases available with
            | false =>
                rw [Expects, phase] at expects
                exact one _ _ rfl finished expects
            | true =>
                rw [Expects, phase] at expects
                exact one _ _ rfl finished expects
        · next event queue filled =>
            cases advanced
            cases available with
            | false =>
                rw [Expects, phase] at expects
                obtain ⟨consumed, returned,
                  ⟨_, empty⟩ | ⟨silent, other, onlyOne, code, numcmd⟩⟩ :=
                  expects
                · rw [filled] at empty
                  cases empty
                · rw [filled] at onlyOne
                  cases onlyOne
                  refine one _ _ rfl finished ?_
                  have available :
                      (false || decide (event.numcmd ≠ 0)) = true := by
                    simp [numcmd]
                  simp only [available]
                  refine ⟨⟨silent, rfl⟩, event, ?_, code, ?_⟩
                  · simp only [consumed]
                    rfl
                  · simp only [returned]
            | true =>
                rw [Expects, phase] at expects
                have empty := expects.1.2
                rw [filled] at empty
                cases empty
    · next phase =>
        cases advanced
        rw [Expects, phase] at expects
        refine ⟨?_, fun _ => expects.1, nofun⟩
        intro done member
        rcases List.mem_append.mp member with earlier | last
        · exact finished done earlier
        · rw [List.mem_singleton.mp last]
          exact expects.2

theorem Settled.step
    (settled : Settled hci)
    (exclusive : Exclusive hci)
    {event : Event}
    (stepped : Hci.step hci event = some next)
    (listed : Listed hci event)
    (answering : Answering hci event) :
    Settled next := by
  cases event with
  | receive event =>
      cases stepped
      exact settled.receive answering.1 answering.2
  | sendReq request =>
      obtain ⟨index, free, rfl⟩ := Option.map_eq_some_iff.mp stepped
      obtain ⟨none, _⟩ := exclusive.unused_of_free free listed
      refine ⟨settled.finished, nofun, fun command member => ?_⟩
      rcases List.mem_cons.mp member with rfl | earlier
      · exact ⟨settled.unused none, rfl, rfl⟩
      · rw [none] at earlier
        cases earlier
  | advanceCommand =>
      obtain ⟨⟨command, rest⟩, executes, advanced⟩ :=
        Option.bind_eq_some_iff.mp stepped
      exact settled.advanceCommand exclusive executes advanced
  | waitEvt evtId =>
      rw [Hci.step] at stepped
      split at stepped
      · obtain ⟨execution, moved, rfl⟩ := sequencerStep_eq_some stepped
        exact settled.unchanged execution
      · cases stepped
  | taskReturn =>
      rw [Hci.step] at stepped
      split at stepped
      · obtain ⟨execution, moved, rfl⟩ := sequencerStep_eq_some stepped
        exact settled.unchanged execution
      · cases stepped
  | advance =>
      obtain ⟨execution, moved, rfl⟩ := sequencerStep_eq_some stepped
      exact settled.unchanged execution
  | _ =>
      cases stepped
      exact settled.unchanged _

end Answers

/--
When the other processor answers every command once, each `hci_send_req` takes
exactly one event, that event carries its own command code, and the return
parameters are those of the event; between commands no answer is left over.
-/
theorem commands_answered
    {events : List Event}
    {hci : Hci}
    (run : Run
      (system.restrict fun hci event =>
        Listed hci event ∧ Answering hci event) events hci) :
    (∀ command ∈ hci.finished, Answered command) ∧
      (hci.commands = [] → hci.cmdEventQueue = []) := by
  have holds : Serial hci ∧ Settled hci := by
    refine @Run.invariant _ _ _ (fun hci => Serial hci ∧ Settled hci)
      ?_ ?_ events hci run
    · rintro _ rfl
      exact ⟨serial_booted, nofun, fun _ => ⟨rfl, rfl⟩, nofun⟩
    · rintro state event next ⟨serial, settled⟩
        ⟨stepped, listed, answering⟩
      exact ⟨serial.step stepped listed,
        settled.step serial.exclusive stepped listed answering⟩
  exact ⟨holds.2.finished, fun none => (holds.2.unused none).2⟩

/-- The answer arrives while task 3 runs. -/
def answeredRun : List Event :=
  commandRun ++ .receive (.complete 1 0xC03 [0]) :: .taskReturn ::
    List.replicate 7 .advance ++ List.replicate 4 .advanceCommand

/-- A step of listed senders with the other processor answering. -/
def stepAnswering (hci : Hci) (event : Event) : Option Hci :=
  if Listed hci event ∧ Answering hci event then step hci event else none

theorem answeredRun_result :
    (answeredRun.foldlM stepAnswering booted).map (fun hci =>
        (hci.commands.length,
          hci.finished.map fun command => command.returned.rparam)) =
      some (0, [[0]]) := by
  decide +kernel

theorem commands_answered_reset :
    ∃ hci, answeredRun.foldlM stepAnswering booted = some hci ∧
      hci.finished.map (fun command => command.returned.rparam) = [[0]] ∧
      (∀ command ∈ hci.finished, Answered command) ∧
      (hci.commands = [] → hci.cmdEventQueue = []) := by
  obtain ⟨hci, ran, result⟩ := Option.map_eq_some_iff.mp answeredRun_result
  have run : Run
      (system.restrict fun hci event =>
        Listed hci event ∧ Answering hci event) answeredRun hci :=
    @Run.ofStepsWhere _ _ booted booted step
      (fun hci event => Listed hci event ∧ Answering hci event) _
      answeredRun [] booted hci (.start rfl) ran
  obtain ⟨answered, empty⟩ := commands_answered run
  exact ⟨hci, ran, congrArg Prod.snd result, answered, empty⟩

end DemoBoard.Hci
