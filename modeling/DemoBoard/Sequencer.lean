import DemoBoard.TransitionRuns
import Mathlib.Logic.Function.Basic

namespace DemoBoard

/-!
# Sequencer

Model of `lib/Utilities/sequencer/stm32_seq.c`, which runs the tasks of the
firmware.  Interrupts come between any two loads of shared data; only the
critical sections are single steps.  A task that waits for an event runs the
other tasks in a nested `UTIL_SEQ_Run`.
-/

/-- `UTIL_SEQ_bm_t` -/
abbrev Bitmap := BitVec 32

/-- `UTIL_SEQ_CONF_PRIO_NBR` -/
abbrev confPrioNbr : Nat := 3

/-- `SCHEDULER_PRIO_0` -/
def prio0 : Fin confPrioNbr := ⟨0, by decide⟩

/-- `SCHEDULER_PRIO_1` -/
def prio1 : Fin confPrioNbr := ⟨1, by decide⟩

/-- `SCHEDULER_PRIO_2` -/
def prio2 : Fin confPrioNbr := ⟨2, by decide⟩

/-- `UTIL_SEQ_NOTASKRUNNING` -/
def noTaskRunning : Nat := 0xFFFFFFFF

/-- `UTIL_SEQ_Priority_t` -/
structure Priority where
  priority : Bitmap
  roundRobin : Bitmap
  deriving Repr, DecidableEq

/-- The variables of the sequencer. -/
structure Sequencer where
  taskSet : Bitmap
  taskMask : Bitmap
  superMask : Bitmap
  evtSet : Bitmap
  evtWaited : Bitmap
  currentTaskIdx : Nat
  taskPrio : Fin confPrioNbr → Priority

/-- The bitmap of one task. -/
def taskBit (index : Nat) : Bitmap :=
  1#32 <<< index

/-- `SEQ_BitPosition` -/
def bitPosition (value : Bitmap) : Nat :=
  (31#32 - value.clz).toNat % 256

/-- What tasks and interrupts call. -/
inductive Operation where
  | setTask (tasks : Bitmap) (priority : Fin confPrioNbr)
  | pauseTask (tasks : Bitmap)
  | resumeTask (tasks : Bitmap)
  | setEvt (events : Bitmap)
  | clrEvt (events : Bitmap)
  deriving Repr, DecidableEq

namespace Sequencer

/-- `UTIL_SEQ_Init` -/
def init : Sequencer where
  taskSet := 0#32
  taskMask := BitVec.allOnes 32
  superMask := BitVec.allOnes 32
  evtSet := 0#32
  evtWaited := 0#32
  currentTaskIdx := 0
  taskPrio := fun _ => { priority := 0#32, roundRobin := 0#32 }

/-- `UTIL_SEQ_SetTask` -/
def setTask
    (sequencer : Sequencer) (tasks : Bitmap)
    (priority : Fin confPrioNbr) : Sequencer :=
  let level := sequencer.taskPrio priority
  { sequencer with
    taskSet := sequencer.taskSet ||| tasks
    taskPrio :=
      Function.update sequencer.taskPrio priority
        { level with priority := level.priority ||| tasks } }

/--
`UTIL_SEQ_PauseTask`, `UTIL_SEQ_ResumeTask`, `UTIL_SEQ_SetEvt` and
`UTIL_SEQ_ClrEvt` beside `UTIL_SEQ_SetTask`
-/
def operate (sequencer : Sequencer) : Operation → Sequencer
  | .setTask tasks priority => sequencer.setTask tasks priority
  | .pauseTask tasks =>
      { sequencer with taskMask := sequencer.taskMask &&& ~~~tasks }
  | .resumeTask tasks =>
      { sequencer with taskMask := sequencer.taskMask ||| tasks }
  | .setEvt events =>
      { sequencer with evtSet := sequencer.evtSet ||| events }
  | .clrEvt events =>
      { sequencer with evtSet := sequencer.evtSet &&& ~~~events }

/-- The tasks of a level that `UTIL_SEQ_Run` may start. -/
def ready
    (sequencer : Sequencer) (taskMask : Bitmap)
    (counter : Fin confPrioNbr) : Bitmap :=
  (sequencer.taskPrio counter).priority &&& taskMask &&&
    sequencer.superMask

/-- The tasks of a level that round robin leaves, after a refill if needed. -/
def roundRobin
    (sequencer : Sequencer) (taskMask : Bitmap)
    (counter : Fin confPrioNbr) : Bitmap :=
  if (sequencer.taskPrio counter).roundRobin &&&
      sequencer.ready taskMask counter = 0#32 then
    BitVec.allOnes 32
  else
    (sequencer.taskPrio counter).roundRobin

/-- `UTIL_SEQ_Run` chooses a task of a level. -/
def select
    (sequencer : Sequencer) (taskMask : Bitmap)
    (counter : Fin confPrioNbr) : Sequencer :=
  let roundRobin := sequencer.roundRobin taskMask counter
  let index := bitPosition (sequencer.ready taskMask counter &&& roundRobin)
  { sequencer with
    currentTaskIdx := index
    taskPrio :=
      Function.update sequencer.taskPrio counter
        { sequencer.taskPrio counter with
          roundRobin := roundRobin &&& ~~~taskBit index } }

/-- The critical section of `UTIL_SEQ_Run`. -/
def takeOut (sequencer : Sequencer) : Sequencer :=
  let remaining := ~~~taskBit sequencer.currentTaskIdx
  { sequencer with
    taskSet := sequencer.taskSet &&& remaining
    taskPrio := fun level =>
      { sequencer.taskPrio level with
        priority := (sequencer.taskPrio level).priority &&& remaining } }

/-- `wait_task_idx` of `UTIL_SEQ_WaitEvt` -/
def waitTask (currentTaskIdx : Nat) : Bitmap :=
  if currentTaskIdx = noTaskRunning then
    0#32
  else
    taskBit currentTaskIdx

/-- Where an execution of `UTIL_SEQ_Run` stands, with its local variables. -/
inductive RunPhase where
  | loadTaskSet
  | loadEvtSet (taskSet : Bitmap)
  | loadTaskMask (taskSet evtSet : Bitmap)
  | loadEvtWaited (taskSet evtSet taskMask : Bitmap)
  | searching (taskMask : Bitmap) (counter : Nat)
  | selecting (taskMask : Bitmap) (counter : Fin confPrioNbr)
  | starting (counter : Fin confPrioNbr)
  | beforeIdle
  | afterIdle
  deriving Repr, DecidableEq

/-- What the processor executes outside of interrupts. -/
inductive Control where
  /-- The loop of `main`, or the one of the innermost `UTIL_SEQ_WaitEvt`. -/
  | outside
  | inRun (superMaskBackup : Bitmap) (phase : RunPhase)
  | inTask (superMaskBackup : Bitmap) (index : Nat)
  deriving Repr, DecidableEq

/-- A task in `UTIL_SEQ_WaitEvt`, with the local variables on its stack. -/
structure Waiting where
  task : Nat
  superMaskBackup : Bitmap
  currentTaskIdx : Nat
  evtWaitedBackup : Bitmap
  evtId : Bitmap
  deriving Repr, DecidableEq

/-- What happened to tasks, in order. -/
inductive Occurrence where
  | set (tasks : Bitmap) (priority : Fin confPrioNbr)
  | start (index : Nat) (counter : Fin confPrioNbr)
  deriving Repr, DecidableEq

/-- The sequencer and its executions; the innermost wait is first. -/
structure Execution where
  sequencer : Sequencer
  waiting : List Waiting
  control : Control
  occurrences : List Occurrence

/-- `UTIL_SEQ_Run` is called. -/
def callRun (execution : Execution) (mask : Bitmap) : Execution :=
  let sequencer := execution.sequencer
  { execution with
    sequencer :=
      { sequencer with superMask := sequencer.superMask &&& mask }
    control := .inRun sequencer.superMask .loadTaskSet }

/-- The next step of `UTIL_SEQ_Run`. -/
def advanceRun
    (execution : Execution) (backup : Bitmap) :
    RunPhase → Option Execution
  | .loadTaskSet =>
      some
        { execution with
          control := .inRun backup (.loadEvtSet execution.sequencer.taskSet) }
  | .loadEvtSet taskSet =>
      some
        { execution with
          control :=
            .inRun backup
              (.loadTaskMask taskSet execution.sequencer.evtSet) }
  | .loadTaskMask taskSet evtSet =>
      some
        { execution with
          control :=
            .inRun backup
              (.loadEvtWaited taskSet evtSet
                execution.sequencer.taskMask) }
  | .loadEvtWaited taskSet evtSet taskMask =>
      if taskSet &&& taskMask &&& execution.sequencer.superMask ≠ 0#32 ∧
          evtSet &&& execution.sequencer.evtWaited = 0#32 then
        some
          { execution with control := .inRun backup (.searching taskMask 0) }
      else
        some { execution with control := .inRun backup .beforeIdle }
  | .searching taskMask counter =>
      if inTable : counter < confPrioNbr then
        if execution.sequencer.ready taskMask ⟨counter, inTable⟩ = 0#32 then
          some
            { execution with
              control := .inRun backup (.searching taskMask (counter + 1)) }
        else
          some
            { execution with
              control :=
                .inRun backup (.selecting taskMask ⟨counter, inTable⟩) }
      else
        -- `TaskPrio` is read behind its end
        none
  | .selecting taskMask counter =>
      some
        { execution with
          sequencer := execution.sequencer.select taskMask counter
          control := .inRun backup (.starting counter) }
  | .starting counter =>
      let index := execution.sequencer.currentTaskIdx
      some
        { execution with
          sequencer := execution.sequencer.takeOut
          control := .inTask backup index
          occurrences := execution.occurrences ++ [.start index counter] }
  | .beforeIdle =>
      -- `UTIL_SEQ_PreIdle` and `UTIL_SEQ_Idle` do not call the sequencer
      some
        { execution with
          sequencer :=
            { execution.sequencer with currentTaskIdx := noTaskRunning }
          control := .inRun backup .afterIdle }
  | .afterIdle =>
      some
        { execution with
          sequencer := { execution.sequencer with superMask := backup }
          control := .outside }

/-- The next step of `main`, or of the innermost `UTIL_SEQ_WaitEvt`. -/
def advanceOutside (execution : Execution) : Execution :=
  match execution.waiting with
  | [] => callRun execution (BitVec.allOnes 32)
  | innermost :: rest =>
      let sequencer := execution.sequencer
      if sequencer.evtSet &&& innermost.evtId = 0#32 then
        -- `UTIL_SEQ_EvtIdle`
        callRun execution (~~~waitTask innermost.currentTaskIdx)
      else
        { execution with
          sequencer :=
            { sequencer with
              currentTaskIdx := innermost.currentTaskIdx
              evtSet := sequencer.evtSet &&& ~~~innermost.evtId
              evtWaited := innermost.evtWaitedBackup }
          waiting := rest
          control := .inTask innermost.superMaskBackup innermost.task }

/-- What can happen next. -/
inductive Event where
  /-- The running task or an interrupt calls a function. -/
  | operation (operation : Operation)
  /-- The running task calls `UTIL_SEQ_WaitEvt`. -/
  | waitEvt (evtId : Bitmap)
  /-- The running task returns. -/
  | taskReturn
  /-- The sequencer takes a step. -/
  | advance
  deriving Repr, DecidableEq

/-- What an operation adds to the occurrences. -/
def Operation.occurrences : Operation → List Occurrence
  | .setTask tasks priority => [.set tasks priority]
  | _ => []

/-- A step of the system; `none` where the event cannot happen. -/
def step (execution : Execution) : Event → Option Execution
  | .operation operation =>
      some
        { execution with
          sequencer := execution.sequencer.operate operation
          occurrences :=
            execution.occurrences ++ Operation.occurrences operation }
  | .waitEvt evtId =>
      match execution.control with
      | .inTask backup index =>
          let sequencer := execution.sequencer
          some
            { execution with
              sequencer := { sequencer with evtWaited := evtId }
              waiting :=
                { task := index
                  superMaskBackup := backup
                  currentTaskIdx := sequencer.currentTaskIdx
                  evtWaitedBackup := sequencer.evtWaited
                  evtId := evtId } :: execution.waiting
              control := .outside }
      | _ => none
  | .taskReturn =>
      match execution.control with
      | .inTask backup _ =>
          some { execution with control := .inRun backup .loadTaskSet }
      | _ => none
  | .advance =>
      match execution.control with
      | .outside => some (advanceOutside execution)
      | .inRun backup phase => advanceRun execution backup phase
      | .inTask _ _ => none

/-- Before the first `UTIL_SEQ_Run`. -/
def booted : Execution where
  sequencer := init
  waiting := []
  control := .outside
  occurrences := []

/-- The system from the start on. -/
def system : TransitionRuns.System Execution Event :=
  .ofStep booted step

end Sequencer

end DemoBoard
