import DemoBoard.Sequencer

namespace DemoBoard

/-!
# HCI commands

Model of `hci_send_req` and `TlEvtReceived` in `hci_tl.c`, of the pausing in
`BleInterface.c` and of the overrides in `BleOverrides.c`, on top of the
sequencer.  Whoever sends a command waits in `UTIL_SEQ_WaitEvt` for the answer
of the other processor, and other tasks run meanwhile.
-/

/-- The payloads of `TL_CsEvt_t` and `TL_CcEvt_t`. -/
inductive CommandEvent where
  | status (status numcmd : UInt8) (cmdcode : UInt16)
  | complete (numcmd : UInt8) (cmdcode : UInt16) (payload : List UInt8)
  deriving Repr, DecidableEq

/-- What `rparam` points to, and `rlen`. -/
structure Returned where
  rparam : List UInt8
  rlen : Nat
  deriving Repr, DecidableEq

/-- `hci_request` -/
structure HciRequest where
  ogf : UInt16
  ocf : UInt16
  cparam : List UInt8
  returned : Returned
  deriving Repr, DecidableEq

/-- `opcode` of `hci_send_req` -/
def HciRequest.opcode (request : HciRequest) : UInt16 :=
  (request.ocf &&& (0x03ff : UInt16)) ||| (request.ogf <<< (10 : UInt16))

/-- Where an execution of `hci_send_req` stands. -/
inductive CommandPhase where
  | sending
  | busy
  | waiting
  | draining (available : Bool)
  | answered
  deriving Repr, DecidableEq

/-- An execution of `hci_send_req`. -/
structure Command where
  task : Nat
  request : HciRequest
  returned : Returned
  phase : CommandPhase
  /-- The events that it took from `HciCmdEventQueue`. -/
  consumed : List CommandEvent
  deriving Repr, DecidableEq

/-- The sequencer, the transport layer and who executes `hci_send_req`. -/
structure Hci where
  execution : Sequencer.Execution
  /-- The innermost command is first. -/
  commands : List Command
  /-- `gBleCmdBuffer` -/
  cmdBuffer : Option (UInt16 × List UInt8)
  cmdEventQueue : List CommandEvent
  /-- A command was sent and its answer did not arrive. -/
  outstanding : Option UInt16
  finished : List Command

namespace CommandEvent

def cmdcode : CommandEvent → UInt16
  | .status _ _ cmdcode => cmdcode
  | .complete _ cmdcode _ => cmdcode

def numcmd : CommandEvent → UInt8
  | .status _ numcmd _ => numcmd
  | .complete numcmd _ _ => numcmd

/-- What an event does to the return parameters of a request. -/
def answer
    (event : CommandEvent) (opcode : UInt16) (returned : Returned) :
    Returned :=
  if event.cmdcode = opcode then
    match event with
    | .status code _ _ =>
        { returned with rparam := returned.rparam.set 0 code }
    | .complete _ _ payload =>
        let rlen := min payload.length returned.rlen
        { rparam := payload.take rlen ++ returned.rparam.drop rlen
          rlen := rlen }
  else
    returned

end CommandEvent

namespace Hci

/-- `SCHEDULER_EVENT_HCI_CMD_RESPONSE` -/
def cmdResponse : Bitmap :=
  taskBit 0

/-- `taskIdList` of `StatusNotificationReceivedCb` -/
def taskIdList : Bitmap :=
  3#32

/-- The sequencer takes a step. -/
def sequencerStep (hci : Hci) (event : Sequencer.Event) : Option Hci :=
  (Sequencer.step hci.execution event).map fun execution =>
    { hci with execution := execution }

/-- An operation of the sequencer, which is always possible. -/
def operate (hci : Hci) (operation : Operation) : Hci :=
  { hci with
    execution :=
      { hci.execution with
        sequencer := hci.execution.sequencer.operate operation
        occurrences :=
          hci.execution.occurrences ++
            Sequencer.Operation.occurrences operation } }

/-- The task that executes, if it is not inside of `hci_send_req`. -/
def freeTask (hci : Hci) : Option Nat :=
  match hci.execution.control with
  | .inTask _ index =>
      if (hci.commands.head?.map Command.task) = some index then
        none
      else
        some index
  | _ => none

/-- The innermost command, if its task executes. -/
def executing (hci : Hci) : Option (Command × List Command) :=
  match hci.execution.control, hci.commands with
  | .inTask _ index, command :: rest =>
      if command.task = index then some (command, rest) else none
  | _, _ => none

/-- The next step of `hci_send_req`. -/
def advanceCommand
    (hci : Hci) (command : Command) (rest : List Command) : Option Hci :=
  match command.phase with
  | .sending =>
      some
        { hci with
          cmdBuffer := some (command.request.opcode, command.request.cparam)
          outstanding := some command.request.opcode
          commands := { command with phase := .busy } :: rest }
  | .busy =>
      -- `hci_cmd_resp_wait`
      (hci.sequencerStep (.waitEvt cmdResponse)).map fun hci =>
        { hci with commands := { command with phase := .waiting } :: rest }
  | .waiting =>
      some
        { hci with
          commands := { command with phase := .draining false } :: rest }
  | .draining available =>
      match hci.cmdEventQueue with
      | [] =>
          some
            { hci with
              commands :=
                { command with
                  phase := if available then .answered else .busy } ::
                  rest }
      | event :: queue =>
          some
            { hci with
              cmdEventQueue := queue
              commands :=
                { command with
                  returned := event.answer command.request.opcode
                    command.returned
                  phase := .draining (available || event.numcmd ≠ 0)
                  consumed := command.consumed ++ [event] } :: rest }
  | .answered =>
      some
        { hci.operate (.resumeTask taskIdList) with
          commands := rest
          finished := hci.finished ++ [command] }

/-- What can happen next. -/
inductive Event where
  /-- An interrupt or a task calls `UTIL_SEQ_SetTask`. -/
  | setTask (tasks : Bitmap) (priority : Fin confPrioNbr)
  /-- An interrupt or a task calls `UTIL_SEQ_SetEvt`. -/
  | setEvt (events : Bitmap)
  /-- `TlEvtReceived` gets the event of a command. -/
  | receive (event : CommandEvent)
  /-- The running task calls `hci_send_req`. -/
  | sendReq (request : HciRequest)
  /-- The running task executes `hci_send_req`. -/
  | advanceCommand
  /-- The running task waits for something else. -/
  | waitEvt (evtId : Bitmap)
  | taskReturn
  | advance
  deriving Repr, DecidableEq

/-- A step of the system; `none` where the event cannot happen. -/
def step (hci : Hci) : Event → Option Hci
  | .setTask tasks priority => some (hci.operate (.setTask tasks priority))
  | .setEvt events => some (hci.operate (.setEvt events))
  | .receive event =>
      some
        { hci.operate (.setEvt cmdResponse) with
          cmdEventQueue := hci.cmdEventQueue ++ [event]
          outstanding := none }
  | .sendReq request =>
      hci.freeTask.map fun index =>
        { hci.operate (.pauseTask taskIdList) with
          commands :=
            { task := index
              request := request
              returned := request.returned
              phase := .sending
              consumed := [] } :: hci.commands }
  | .advanceCommand =>
      hci.executing.bind fun command =>
        hci.advanceCommand command.1 command.2
  | .waitEvt evtId =>
      if hci.freeTask.isSome ∧ evtId &&& cmdResponse = 0#32 then
        hci.sequencerStep (.waitEvt evtId)
      else
        none
  | .taskReturn =>
      if hci.freeTask.isSome then
        hci.sequencerStep .taskReturn
      else
        none
  | .advance => hci.sequencerStep .advance

/-- Before the first task runs. -/
def booted : Hci where
  execution := Sequencer.booted
  commands := []
  cmdBuffer := none
  cmdEventQueue := []
  outstanding := none
  finished := []

/-- The system from the start on. -/
def system : TransitionRuns.System Hci Event :=
  .ofStep booted step

/--
Who sends commands: the tasks that the scheduler lists for it, and while the
radio starts the task of the system events, when no command is executed.
-/
def Listed (hci : Hci) : Event → Prop
  | .sendReq _ => hci.commands = [] ∨ ∀ index ∈ hci.freeTask, index < 2
  | _ => True

instance (hci : Hci) (event : Event) : Decidable (Listed hci event) :=
  match event with
  | .sendReq _ => inferInstanceAs (Decidable (_ ∨ _))
  | .setTask _ _ | .setEvt _ | .receive _ | .advanceCommand | .waitEvt _
  | .taskReturn | .advance => .isTrue trivial

/-- The other processor answers each command once. -/
def Answering (hci : Hci) : Event → Prop
  | .receive event =>
      hci.outstanding = some event.cmdcode ∧ event.numcmd ≠ 0
  | _ => True

instance (hci : Hci) (event : Event) : Decidable (Answering hci event) :=
  match event with
  | .receive _ => inferInstanceAs (Decidable (_ ∧ _))
  | .setTask _ _ | .setEvt _ | .sendReq _ | .advanceCommand | .waitEvt _
  | .taskReturn | .advance => .isTrue trivial

end Hci

end DemoBoard
