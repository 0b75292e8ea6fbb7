import DemoBoard.MessageBrokerRuns
import DemoBoard.SequencerRuns
import Mathlib.Data.Fintype.Basic

namespace DemoBoard

open TransitionRuns

/-!
# Brokers on the sequencer

The message brokers of the firmware as tasks of the sequencer.  Publishing
requests a task with `UTIL_SEQ_SetTask`, and only `UTIL_SEQ_Run` starts
`MessageBroker_Run`.  Each broker takes the steps that its own model allows.
-/

/-- The brokers of `System.c` and `Flash.c`. -/
inductive BrokerId where
  | app
  | ble
  | flash
  deriving Repr, DecidableEq

namespace BrokerId

instance : Fintype BrokerId where
  elems := {.app, .ble, .flash}
  complete := fun id => by cases id <;> decide

/-- The bit in `taskBitmap`. -/
def task : BrokerId → Nat
  | .app => 4
  | .ble => 1
  | .flash => 3

def priority : BrokerId → Fin confPrioNbr
  | .app => prio1
  | .ble => prio0
  | .flash => prio2

/-- The broker that a task runs. -/
def ofTask : Nat → Option BrokerId
  | 4 => some .app
  | 1 => some .ble
  | 3 => some .flash
  | _ => none

theorem ofTask_eq_some {index : Nat} {id : BrokerId} :
    ofTask index = some id ↔ index = id.task := by
  constructor
  · intro found
    unfold ofTask at found
    split at found <;> cases found <;> rfl
  · rintro rfl
    cases id <;> rfl

theorem task_injective : Function.Injective task := by
  decide

theorem task_lt (id : BrokerId) : id.task < 32 := by
  cases id <;> decide

end BrokerId

/-- The sequencer and the brokers. -/
structure ScheduledBrokers where
  execution : Sequencer.Execution
  broker : BrokerId → MessageBroker.BrokerState

namespace ScheduledBrokers

/-- `UTIL_SEQ_SetTask` for a broker, if a task is needed. -/
def request
    (execution : Sequencer.Execution) (id : BrokerId) (needed : Bool) :
    Sequencer.Execution :=
  if needed then
    { execution with
      sequencer :=
        execution.sequencer.operate
          (.setTask (taskBit id.task) id.priority)
      occurrences :=
        execution.occurrences ++ [.set (taskBit id.task) id.priority] }
  else
    execution

/-- No `MessageBroker_PublishMessage` is in progress. -/
def Still (system : ScheduledBrokers) : Prop :=
  ∀ id, (system.broker id).publishing = []

instance (system : ScheduledBrokers) : Decidable system.Still :=
  inferInstanceAs (Decidable (∀ id, (system.broker id).publishing = []))

/-- The task of a broker executes. -/
def runs (system : ScheduledBrokers) (id : BrokerId) : Bool :=
  match system.execution.control with
  | .inTask _ index => index = id.task
  | _ => false

/-- The task of a broker returns from `MessageBroker_Run` only. -/
def Returns (system : ScheduledBrokers) : Prop :=
  ∀ id, system.runs id = true → (system.broker id).running = none

instance (system : ScheduledBrokers) : Decidable system.Returns :=
  inferInstanceAs
    (Decidable (∀ id, system.runs id = true →
      (system.broker id).running = none))

/-- The sequencer starts a task, which may be the one of a broker. -/
def startTask
    (system : ScheduledBrokers) (execution : Sequencer.Execution)
    (index : Nat) : ScheduledBrokers where
  execution := execution
  broker :=
    match BrokerId.ofTask index with
    | none => system.broker
    | some id =>
        Function.update system.broker id
          { system.broker id with
            taskPending := false
            running := some .dequeueing }

/-- What can happen next. -/
inductive Event where
  /-- A task, a handler or an interrupt calls `PublishMessage`. -/
  | publish (id : BrokerId) (message : Message)
  | advancePublish (id : BrokerId) (inFirst : Bool)
  /-- Whatever does not set the task of a broker. -/
  | operation (operation : Operation)
  /-- The sequencer takes a step. -/
  | advance
  /-- `MessageBroker_Run` takes a step. -/
  | advanceRun (id : BrokerId) (inFirst : Bool)
  /-- The running task waits, also in the midst of a handler. -/
  | waitEvt (evtId : Bitmap)
  | taskReturn
  deriving Repr, DecidableEq

/-- Only brokers set their tasks. -/
def Foreign : Operation → Prop
  | .setTask tasks _ => ∀ id : BrokerId, tasks.getLsbD id.task = false
  | _ => True

instance (operation : Operation) : Decidable (Foreign operation) :=
  match operation with
  | .setTask tasks _ =>
      inferInstanceAs
        (Decidable (∀ id : BrokerId, tasks.getLsbD id.task = false))
  | .pauseTask _ | .resumeTask _ | .setEvt _ | .clrEvt _ => .isTrue trivial

/-- A step of the system; `none` where the event cannot happen. -/
def step (system : ScheduledBrokers) : Event → Option ScheduledBrokers
  | .publish id message =>
      let state := system.broker id
      some
        { system with
          broker :=
            Function.update system.broker id
              { state with
                publishing :=
                  .testing message .start :: state.publishing } }
  | .advancePublish id inFirst =>
      match (system.broker id).publishing with
      | [] => none
      | innermost :: rest =>
          some
            { execution :=
                request system.execution id
                  (innermost = .requesting true)
              broker :=
                Function.update system.broker id
                  (MessageBroker.advancePublish (system.broker id) rest
                    inFirst innermost) }
  | .operation operation =>
      if Foreign operation then
        (Sequencer.step system.execution (.operation operation)).map
          fun execution => { system with execution := execution }
      else
        none
  | .advance =>
      if system.Still then
        (Sequencer.step system.execution .advance).map fun execution =>
          match system.execution.control with
          | .inRun _ (.starting _) =>
              system.startTask execution
                system.execution.sequencer.currentTaskIdx
          | _ => { system with execution := execution }
      else
        none
  | .advanceRun id inFirst =>
      if system.Still ∧ system.runs id then
        (system.broker id).running.map fun running =>
          { execution :=
              request system.execution id (running = .requesting true)
            broker :=
              Function.update system.broker id
                (MessageBroker.advanceRun (system.broker id) inFirst
                  running) }
      else
        none
  | .waitEvt evtId =>
      if system.Still then
        (Sequencer.step system.execution (.waitEvt evtId)).map
          fun execution => { system with execution := execution }
      else
        none
  | .taskReturn =>
      if system.Still ∧ system.Returns then
        (Sequencer.step system.execution .taskReturn).map fun execution =>
          { system with execution := execution }
      else
        none

/-- Before the first task runs. -/
def booted (initial : BrokerId → MessageBroker) : ScheduledBrokers where
  execution := Sequencer.booted
  broker := fun id => MessageBroker.quiet (initial id)

/-- The system from the start on. -/
def system (initial : BrokerId → MessageBroker) :
    System ScheduledBrokers Event :=
  .ofStep (booted initial) step

section Parts

variable {execution next : Sequencer.Execution}

theorem getLsbD_request
    (id : BrokerId) (needed : Bool) (index : Nat) :
    (request execution id needed).sequencer.taskSet.getLsbD index =
      (execution.sequencer.taskSet.getLsbD index ||
        needed && decide (index = id.task)) := by
  have small := id.task_lt
  cases needed with
  | false => simp [request]
  | true =>
      rw [Bool.eq_iff_iff]
      simp only [request, if_true, Sequencer.operate, Sequencer.setTask,
        BitVec.getLsbD_or, getLsbD_taskBit, Bool.or_eq_true,
        Bool.true_and, decide_eq_true_eq]
      exact or_congr Iff.rfl
        ⟨fun set => set.1, fun same => ⟨same, same ▸ small⟩⟩

theorem tasks_request (id : BrokerId) (needed : Bool) :
    (request execution id needed).tasks = execution.tasks := by
  cases needed <;> rfl

theorem invariant_request
    (invariant : Sequencer.Invariant execution)
    (id : BrokerId) (needed : Bool) :
    Sequencer.Invariant (request execution id needed) := by
  cases needed with
  | false => exact invariant
  | true =>
      have stepped : Sequencer.step execution
          (.operation (.setTask (taskBit id.task) id.priority)) =
            some (request execution id true) := rfl
      exact invariant.step stepped

/-- Only the start of a task changes who runs or waits. -/
theorem tasks_advance
    (stepped : Sequencer.step execution .advance = some next)
    (notStarting : ∀ backup counter,
      execution.control ≠ .inRun backup (.starting counter)) :
    next.tasks = execution.tasks ∧
      next.sequencer.taskSet = execution.sequencer.taskSet := by
  rw [Sequencer.step] at stepped
  unfold Sequencer.Execution.tasks
  split at stepped
  · next outside =>
      cases stepped
      rw [outside]
      unfold Sequencer.advanceOutside
      cases waiting : execution.waiting with
      | nil => exact ⟨rfl, rfl⟩
      | cons innermost rest =>
          by_cases silent :
              execution.sequencer.evtSet &&& innermost.evtId = 0#32
          · simp only [if_pos silent]
            exact ⟨rfl, rfl⟩
          · simp only [if_neg silent, Sequencer.Execution.waitingTasks,
              waiting, List.map_cons, and_self]
  · next backup phase inRun =>
      rw [inRun]
      cases phase with
      | starting counter => exact absurd inRun (notStarting backup counter)
      | loadEvtWaited taskSet evtSet taskMask =>
          rw [Sequencer.advanceRun] at stepped
          split at stepped
          · cases stepped
            exact ⟨rfl, rfl⟩
          · cases stepped
            exact ⟨rfl, rfl⟩
      | searching taskMask counter =>
          rw [Sequencer.advanceRun] at stepped
          split at stepped
          · split at stepped
            · cases stepped
              exact ⟨rfl, rfl⟩
            · cases stepped
              exact ⟨rfl, rfl⟩
          · cases stepped
      | _ =>
          cases stepped
          exact ⟨rfl, rfl⟩
  · cases stepped

theorem taskPending_advancePublish
    (state : MessageBroker.BrokerState)
    (rest : List MessageBroker.Publishing) (inFirst : Bool)
    (innermost : MessageBroker.Publishing) :
    (MessageBroker.advancePublish state rest inFirst innermost).taskPending =
        (state.taskPending || decide (innermost = .requesting true)) ∧
      (MessageBroker.advancePublish state rest inFirst innermost).running =
        state.running := by
  cases innermost with
  | testing message test =>
      simp only [MessageBroker.advancePublish]
      split <;> simp
  | enqueueing message scheduleNeeded =>
      simp [MessageBroker.advancePublish]
  | requesting scheduleNeeded =>
      cases scheduleNeeded <;> simp [MessageBroker.advancePublish]

theorem taskPending_advanceRun
    (state : MessageBroker.BrokerState) (inFirst : Bool)
    (running : MessageBroker.Running) :
    (MessageBroker.advanceRun state inFirst running).taskPending =
      (state.taskPending || decide (running = .requesting true)) := by
  cases running with
  | dequeueing =>
      simp only [MessageBroker.advanceRun]
      split <;> simp
  | dispatching message iterator =>
      simp only [MessageBroker.advanceRun]
      split <;> simp
  | testing test =>
      simp only [MessageBroker.advanceRun]
      split <;> simp
  | requesting notEmpty =>
      cases notEmpty <;> simp [MessageBroker.advanceRun]

end Parts

/-- What the sequencer and the models of the brokers agree on. -/
structure Refines
    (initial : BrokerId → MessageBroker) (system : ScheduledBrokers) :
    Prop where
  sequencer : Sequencer.Invariant system.execution
  reachable : ∀ id,
    MessageBroker.Reachable (initial id) (system.broker id)
  pending : ∀ id,
    (system.broker id).taskPending =
      system.execution.sequencer.taskSet.getLsbD id.task
  running : ∀ id, (system.broker id).running ≠ none →
    id.task ∈ system.execution.tasks

section Steps

variable
  {initial : BrokerId → MessageBroker}
  {system next : ScheduledBrokers}

theorem runs_iff {id : BrokerId} :
    system.runs id = true ↔
      ∃ backup, system.execution.control = .inTask backup id.task := by
  unfold runs
  split
  · next backup index inTask =>
      rw [inTask]
      simp only [decide_eq_true_eq, Sequencer.Control.inTask.injEq,
        exists_and_right, exists_eq', true_and]
  · next elsewhere =>
      simp only [Bool.false_eq_true, false_iff, not_exists]
      exact fun backup => elsewhere backup _

/-- A step of one broker that its own model allows. -/
theorem Refines.update
    (refines : Refines initial system)
    {id : BrokerId}
    {event : MessageBroker.Event}
    {state : MessageBroker.BrokerState}
    (stepped : MessageBroker.step (system.broker id) event = some state)
    {execution : Sequencer.Execution}
    (sequencer : Sequencer.Invariant execution)
    (tasks : ∀ index ∈ system.execution.tasks, index ∈ execution.tasks)
    (pending : state.taskPending =
      execution.sequencer.taskSet.getLsbD id.task)
    (others : ∀ other, other ≠ id →
      execution.sequencer.taskSet.getLsbD other.task =
        system.execution.sequencer.taskSet.getLsbD other.task)
    (running : state.running ≠ none → id.task ∈ execution.tasks) :
    Refines initial
      { execution := execution
        broker := Function.update system.broker id state } where
  sequencer := sequencer
  reachable := by
    intro other
    by_cases same : other = id
    · subst same
      simp only [Function.update_self]
      exact (refines.reachable other).step stepped
    · simp only [Function.update_of_ne same]
      exact refines.reachable other
  pending := by
    intro other
    by_cases same : other = id
    · subst same
      simp only [Function.update_self]
      exact pending
    · simp only [Function.update_of_ne same]
      exact (refines.pending other).trans (others other same).symm
  running := by
    intro other
    by_cases same : other = id
    · subst same
      simp only [Function.update_self]
      exact running
    · simp only [Function.update_of_ne same]
      exact fun runs => tasks _ (refines.running other runs)

/-- A step of the sequencer that leaves the brokers alone. -/
theorem Refines.sequencerStep
    (refines : Refines initial system)
    {execution : Sequencer.Execution}
    {event : Sequencer.Event}
    (stepped : Sequencer.step system.execution event = some execution)
    (taskSet : ∀ id : BrokerId,
      execution.sequencer.taskSet.getLsbD id.task =
        system.execution.sequencer.taskSet.getLsbD id.task)
    (tasks : ∀ id, (system.broker id).running ≠ none →
      id.task ∈ system.execution.tasks → id.task ∈ execution.tasks) :
    Refines initial { system with execution := execution } where
  sequencer := refines.sequencer.step stepped
  reachable := refines.reachable
  pending := fun id => (refines.pending id).trans (taskSet id).symm
  running := fun id runs => tasks id runs (refines.running id runs)

/-- `UTIL_SEQ_Run` starts a task, where the model of a broker allows it. -/
theorem Refines.start
    (refines : Refines initial system)
    (still : system.Still)
    {backup : Bitmap}
    {counter : Fin confPrioNbr}
    (starting :
      system.execution.control = .inRun backup (.starting counter))
    {execution : Sequencer.Execution}
    (stepped : Sequencer.step system.execution .advance = some execution) :
    Refines initial
      (system.startTask execution
        system.execution.sequencer.currentTaskIdx) := by
  have sequencer := refines.sequencer.step stepped
  have sound := refines.sequencer.control
  rw [starting] at sound
  obtain ⟨_, masks, pendingAt, passes, _⟩ := sound
  have isPending : system.execution.sequencer.taskSet.getLsbD
      system.execution.sequencer.currentTaskIdx = true :=
    (refines.sequencer.levels _).mpr ⟨counter, pendingAt⟩
  have tasks : system.execution.tasks = system.execution.waitingTasks := by
    rw [Sequencer.Execution.tasks, starting]
  have notRunning : system.execution.sequencer.currentTaskIdx ∉
      system.execution.tasks := by
    rw [tasks]
    exact masks.notMem passes
  simp only [Sequencer.step, starting, Sequencer.advanceRun] at stepped
  cases stepped
  have taken (index : Nat) :
      system.execution.sequencer.takeOut.taskSet.getLsbD index =
        (system.execution.sequencer.taskSet.getLsbD index &&
          decide (index ≠ system.execution.sequencer.currentTaskIdx)) := by
    rw [Bool.eq_iff_iff, Sequencer.getLsbD_takeOut_taskSet,
      Bool.and_eq_true, decide_eq_true_eq]
  unfold startTask
  cases known : BrokerId.ofTask
      system.execution.sequencer.currentTaskIdx with
  | none =>
      refine ⟨sequencer, refines.reachable, fun id => ?_, fun id runs => ?_⟩
      · have other : id.task ≠ system.execution.sequencer.currentTaskIdx := by
          intro same
          rw [BrokerId.ofTask_eq_some.mpr same.symm] at known
          cases known
        rw [taken, decide_eq_true other, Bool.and_true]
        exact refines.pending id
      · exact List.mem_cons_of_mem _ (tasks ▸ refines.running id runs)
  | some id =>
      have isTask := BrokerId.ofTask_eq_some.mp known
      have waits : (system.broker id).running = none := by
        by_contra runs
        exact notRunning (isTask ▸ refines.running id runs)
      refine @Refines.update initial system refines id .run _ ?_ _ sequencer
        ?_ ?_ ?_ ?_
      · rw [MessageBroker.step, if_pos]
        exact ⟨still id, waits, by rw [refines.pending, ← isTask, isPending]⟩
      · intro index member
        exact List.mem_cons_of_mem _ (tasks ▸ member)
      · rw [taken, isTask]
        simp
      · intro other apart
        have different : other.task ≠
            system.execution.sequencer.currentTaskIdx := fun same =>
          apart (BrokerId.task_injective (same.trans isTask))
        rw [taken, decide_eq_true different, Bool.and_true]
      · intro _
        rw [← isTask]
        exact List.mem_cons_self ..

theorem Refines.advance
    (refines : Refines initial system)
    (stepped : step system .advance = some next) :
    Refines initial next := by
  rw [step] at stepped
  split at stepped
  · next still =>
      obtain ⟨execution, moved, rfl⟩ := Option.map_eq_some_iff.mp stepped
      split
      · next backup counter starting =>
          exact refines.start still starting moved
      · next elsewhere =>
          obtain ⟨tasks, taskSet⟩ := tasks_advance moved elsewhere
          exact refines.sequencerStep moved (fun id => by rw [taskSet])
            fun id _ member => by rw [tasks]; exact member
  · cases stepped

/-- A step of a broker that may request its task. -/
theorem Refines.requesting
    (refines : Refines initial system)
    {id : BrokerId}
    {event : MessageBroker.Event}
    {state : MessageBroker.BrokerState}
    (stepped : MessageBroker.step (system.broker id) event = some state)
    {needed : Bool}
    (pending : state.taskPending =
      ((system.broker id).taskPending || needed))
    (running : state.running ≠ none → id.task ∈ system.execution.tasks) :
    Refines initial
      { execution := request system.execution id needed
        broker := Function.update system.broker id state } := by
  refine refines.update stepped
    (invariant_request refines.sequencer id needed) ?_ ?_ ?_ ?_
  · intro index member
    rw [tasks_request]
    exact member
  · rw [getLsbD_request, pending, refines.pending id, decide_eq_true rfl,
      Bool.and_true]
  · intro other apart
    have different : other.task ≠ id.task := fun same =>
      apart (BrokerId.task_injective same)
    rw [getLsbD_request, decide_eq_false different, Bool.and_false,
      Bool.or_false]
  · intro runs
    rw [tasks_request]
    exact running runs

theorem Refines.operation
    (refines : Refines initial system)
    {operation : Operation}
    (foreign : Foreign operation)
    {execution : Sequencer.Execution}
    (moved :
      Sequencer.step system.execution (.operation operation) =
        some execution) :
    Refines initial { system with execution := execution } := by
  refine refines.sequencerStep moved ?_ ?_
  · intro id
    cases moved
    cases operation with
    | setTask tasks priority =>
        simp only [Sequencer.operate, Sequencer.setTask, BitVec.getLsbD_or,
          foreign id, Bool.or_false]
    | _ => rfl
  · intro id _ member
    cases moved
    exact member

theorem Refines.waitEvt
    (refines : Refines initial system)
    {evtId : Bitmap}
    {execution : Sequencer.Execution}
    (moved :
      Sequencer.step system.execution (.waitEvt evtId) = some execution) :
    Refines initial { system with execution := execution } := by
  have shape := moved
  rw [Sequencer.step] at shape
  split at shape
  · next backup index inTask =>
      cases shape
      refine refines.sequencerStep moved (fun _ => rfl) ?_
      intro id _ member
      rw [Sequencer.Execution.tasks, inTask] at member
      exact member
  · cases shape

theorem Refines.taskReturn
    (refines : Refines initial system)
    (returns : system.Returns)
    {execution : Sequencer.Execution}
    (moved :
      Sequencer.step system.execution .taskReturn = some execution) :
    Refines initial { system with execution := execution } := by
  have shape := moved
  rw [Sequencer.step] at shape
  split at shape
  · next backup index inTask =>
      cases shape
      refine refines.sequencerStep moved (fun _ => rfl) ?_
      intro id runs member
      rw [Sequencer.Execution.tasks, inTask] at member
      rcases List.mem_cons.mp member with same | waits
      · have isRunning : system.runs id = true :=
          runs_iff.mpr ⟨backup, by rw [inTask, same]⟩
        exact absurd (returns id isRunning) runs
      · exact waits
  · cases shape

theorem Refines.step
    (refines : Refines initial system)
    {event : Event}
    (stepped : ScheduledBrokers.step system event = some next) :
    Refines initial next := by
  cases event with
  | publish id message =>
      cases stepped
      exact @Refines.update initial system refines id (.publish message) _
        rfl system.execution refines.sequencer (fun _ member => member)
        (refines.pending id) (fun _ _ => rfl) (refines.running id)
  | advancePublish id inFirst =>
      rw [ScheduledBrokers.step] at stepped
      split at stepped
      · cases stepped
      · next innermost rest shape =>
          cases stepped
          obtain ⟨pending, running⟩ := taskPending_advancePublish
            (system.broker id) rest inFirst innermost
          refine @Refines.requesting initial system refines id
            (.advance inFirst) _ ?_ _ pending ?_
          · rw [MessageBroker.step, shape]
          · rw [running]
            exact refines.running id
  | operation operation =>
      rw [ScheduledBrokers.step] at stepped
      split at stepped
      · next foreign =>
          obtain ⟨execution, moved, rfl⟩ :=
            Option.map_eq_some_iff.mp stepped
          exact refines.operation foreign moved
      · cases stepped
  | advance => exact refines.advance stepped
  | advanceRun id inFirst =>
      rw [ScheduledBrokers.step] at stepped
      split at stepped
      · next allowed =>
          obtain ⟨running, runs, rfl⟩ := Option.map_eq_some_iff.mp stepped
          obtain ⟨backup, inTask⟩ := runs_iff.mp allowed.2
          refine @Refines.requesting initial system refines id
            (.advance inFirst) _ ?_ _
            (taskPending_advanceRun _ inFirst running) ?_
          · rw [MessageBroker.step, allowed.1 id, runs]
          · intro _
            rw [Sequencer.Execution.tasks, inTask]
            exact List.mem_cons_self ..
      · cases stepped
  | waitEvt evtId =>
      rw [ScheduledBrokers.step] at stepped
      split at stepped
      · obtain ⟨execution, moved, rfl⟩ := Option.map_eq_some_iff.mp stepped
        exact refines.waitEvt moved
      · cases stepped
  | taskReturn =>
      rw [ScheduledBrokers.step] at stepped
      split at stepped
      · next allowed =>
          obtain ⟨execution, moved, rfl⟩ :=
            Option.map_eq_some_iff.mp stepped
          exact refines.taskReturn allowed.2 moved
      · cases stepped

end Steps

end ScheduledBrokers

end DemoBoard
