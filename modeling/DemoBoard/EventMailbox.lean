import DemoBoard.TransitionRuns
import Mathlib.Logic.Function.Basic

namespace DemoBoard

/-!
# Event mailbox

Model of the event queues between the processors: the mailbox of `tl_mbox.c`
with the channels of `hw_ipcc.c`, and the two tasks `hci_user_evt_proc` and
`shci_user_evt_proc`.  Lists are handled with interrupts disabled, so that one
list operation is one step; the other processor moves between any two steps.

The other processor uses a channel the way the sender of a channel does: it
writes to an event queue while the flag of the channel is clear and sets the
flag afterwards, and it empties the queue of free buffers while that flag is
set and clears the flag afterwards.
-/

/-- The channels with asynchronous events. -/
inductive EventChannel where
  | system
  | ble
  deriving Repr, DecidableEq

/--
An event in a buffer of the pool, or the event that answers a command; that
one has a buffer of its own.
-/
inductive EventPacket (Buffer : Type) where
  | asynch (buffer : Buffer)
  | command
  deriving Repr, DecidableEq

/-- The buffer of the pool that an event is in. -/
def EventPacket.buffer? {Buffer : Type} : EventPacket Buffer → Option Buffer
  | .asynch buffer => some buffer
  | .command => none

/-- A channel for events, its queues and its task. -/
structure EventLine (Buffer : Type) where
  /-- `EvtQueue` or `SystemEvtQueue` -/
  evtQueue : List (EventPacket Buffer)
  /-- The flag of the channel. -/
  occupied : Bool
  /-- `HciAsynchEventQueue` or `SHciAsynchEventQueue` -/
  asynchEventQueue : List Buffer
  /-- `UserEventFlow` or `SHCI_TL_UserEventFlow` -/
  userEventFlow : Bool
  /-- The bit of the task in `TaskSet`. -/
  taskSet : Bool
  /-- The events that the other processor put into the queue. -/
  sent : List Buffer
  /-- The events before the flag was last set. -/
  announced : List Buffer
  /-- The events that the user accepted. -/
  received : List Buffer
  deriving Repr, DecidableEq

/-- The next step of the interrupt handler. -/
inductive InterruptStep (Buffer : Type) where
  /-- The loop of `HW_IPCC_BLE_RxEvtNot` or `HW_IPCC_SYS_EvtNot`. -/
  | rxEvtNot (channel : EventChannel)
  /-- `TlEvtReceived` or `TlUserEvtReceived` -/
  | evtReceived (channel : EventChannel) (packet : EventPacket Buffer)
  /-- `hci_notify_asynch_evt` or `shci_notify_asynch_evt` -/
  | notify (channel : EventChannel)
  | clearFlag (channel : EventChannel)
  /-- The call in `HW_IPCC_MM_FreeBufHandler`. -/
  | freeBufCb
  /-- The loop of `SendFreeBuf`. -/
  | sendFreeBuf
  | insertFree (buffer : Buffer)
  | setFlag
  deriving Repr, DecidableEq

/-- The next step of `hci_user_evt_proc` or `shci_user_evt_proc`. -/
inductive EventTaskStep (Buffer : Type) where
  | checkQueue
  | removeHead
  /-- Inside of the call of `UserEvtRx`. -/
  | userEvtRx (buffer : Buffer)
  /-- `TL_MM_EvtDone` -/
  | evtDone (buffer : Buffer)
  /-- `HW_IPCC_MM_SendFreeBuf` -/
  | isActiveFlag
  | setFreeBufCb
  | enableTransmit
  /-- The loop of `SendFreeBuf`. -/
  | sendFreeBuf
  | removeLocal
  | insertFree (buffer : Buffer)
  | setFlag
  /-- Put an event back that the user did not accept. -/
  | putBack (buffer : Buffer)
  | checkAgain
  deriving Repr, DecidableEq

/-- The mailbox, its interrupt handler and its tasks. -/
structure EventMailbox (Buffer : Type) where
  /-- The buffers that the other processor has. -/
  pool : List Buffer
  line : EventChannel → EventLine Buffer
  /-- `FreeBufQueue` -/
  freeBufQueue : List Buffer
  /-- `LocalFreeBufQueue` -/
  localFreeBufQueue : List Buffer
  /-- The flag of `HW_IPCC_MM_RELEASE_BUFFER_CHANNEL`. -/
  releaseOccupied : Bool
  /-- The interrupt for the free channel is enabled. -/
  releaseEnabled : Bool
  /-- `FreeBufCb` is set. -/
  freeBufCb : Bool
  /-- The length of `HciCmdEventQueue`. -/
  commandEvents : Nat
  interrupt : Option (InterruptStep Buffer)
  running : Option (EventChannel × EventTaskStep Buffer)
  /-- The tasks whose `UserEvtRx` waits while another task runs. -/
  waiting : List (EventChannel × Buffer)

namespace EventMailbox

variable {Buffer : Type}

/-- Change a channel. -/
def setLine
    (state : EventMailbox Buffer) (channel : EventChannel)
    (line : EventLine Buffer) : EventMailbox Buffer :=
  { state with line := Function.update state.line channel line }

/-- What can happen to the mailbox. -/
inductive Event where
  /-- The other processor writes an event to a buffer of its pool. -/
  | post (channel : EventChannel) (index : Nat)
  /-- The other processor answers a command. -/
  | postCommand
  /-- The other processor sets the flag of a channel. -/
  | announce (channel : EventChannel)
  /-- The other processor takes a buffer back. -/
  | collect
  /-- The other processor has taken all buffers back. -/
  | release
  /-- `IPCC_C1_RX_IRQHandler` starts. -/
  | rxHandler
  /-- `IPCC_C1_TX_IRQHandler` starts. -/
  | txHandler
  /-- The next step of the interrupt handler. -/
  | handler
  /-- The sequencer starts the task of a channel. -/
  | start (channel : EventChannel)
  /-- The next step of the running task. -/
  | task
  /-- `UserEvtRx` returns. -/
  | userEvtRx (flow : Bool)
  /-- `hci_send_req` takes the answers to its command. -/
  | takeCommandEvents
  deriving Repr, DecidableEq

/-- An interrupt waits to be taken. -/
def pending (state : EventMailbox Buffer) : Bool :=
  (state.line .system).occupied || (state.line .ble).occupied ||
    (state.releaseEnabled && !state.releaseOccupied)

/-- The next step of the interrupt handler. -/
def stepHandler (state : EventMailbox Buffer) :
    InterruptStep Buffer → Option (EventMailbox Buffer)
  | .rxEvtNot channel =>
      match (state.line channel).evtQueue with
      | [] => some { state with interrupt := some (.clearFlag channel) }
      | packet :: rest =>
          some
            { state.setLine channel
                { state.line channel with evtQueue := rest } with
              interrupt := some (.evtReceived channel packet) }
  | .evtReceived channel (.asynch buffer) =>
      some
        { state.setLine channel
            { state.line channel with
              asynchEventQueue :=
                (state.line channel).asynchEventQueue ++ [buffer] } with
          interrupt := some (.notify channel) }
  | .evtReceived channel .command =>
      some
        { state with
          commandEvents := state.commandEvents + 1
          interrupt := some (.rxEvtNot channel) }
  | .notify channel =>
      some
        { state.setLine channel
            { state.line channel with taskSet := true } with
          interrupt := some (.rxEvtNot channel) }
  | .clearFlag channel =>
      some
        { state.setLine channel
            { state.line channel with occupied := false } with
          interrupt := none }
  | .freeBufCb =>
      -- before it is set the handler would jump to address zero
      if state.freeBufCb then
        some { state with interrupt := some .sendFreeBuf }
      else
        none
  | .sendFreeBuf =>
      match state.localFreeBufQueue with
      | [] => some { state with interrupt := some .setFlag }
      | buffer :: rest =>
          some
            { state with
              localFreeBufQueue := rest
              interrupt := some (.insertFree buffer) }
  | .insertFree buffer =>
      some
        { state with
          freeBufQueue := state.freeBufQueue ++ [buffer]
          interrupt := some .sendFreeBuf }
  | .setFlag =>
      some { state with releaseOccupied := true, interrupt := none }

/-- The task ends, and the one that waited for it goes on. -/
def finish (state : EventMailbox Buffer) : EventMailbox Buffer :=
  match state.waiting with
  | [] => { state with running := none }
  | (channel, buffer) :: rest =>
      { state with
        running := some (channel, .userEvtRx buffer)
        waiting := rest }

/-- An event is there and may be given to the user. -/
def eventReady (line : EventLine Buffer) : Bool :=
  !line.asynchEventQueue.isEmpty && line.userEventFlow

/-- The next step of a task that runs. -/
def stepTask (state : EventMailbox Buffer) (channel : EventChannel) :
    EventTaskStep Buffer → Option (EventMailbox Buffer)
  | .checkQueue =>
      if eventReady (state.line channel) then
        some { state with running := some (channel, .removeHead) }
      else
        some { state with running := some (channel, .checkAgain) }
  | .removeHead =>
      match (state.line channel).asynchEventQueue with
      | [] => none
      | buffer :: rest =>
          some
            { state.setLine channel
                { state.line channel with asynchEventQueue := rest } with
              running := some (channel, .userEvtRx buffer) }
  | .userEvtRx _ => none
  | .evtDone buffer =>
      some
        { state with
          localFreeBufQueue := state.localFreeBufQueue ++ [buffer]
          running := some (channel, .isActiveFlag) }
  | .isActiveFlag =>
      if state.releaseOccupied then
        some { state with running := some (channel, .setFreeBufCb) }
      else
        some { state with running := some (channel, .sendFreeBuf) }
  | .setFreeBufCb =>
      some
        { state with
          freeBufCb := true
          running := some (channel, .enableTransmit) }
  | .enableTransmit =>
      some
        { state with
          releaseEnabled := true
          running := some (channel, .checkAgain) }
  | .sendFreeBuf =>
      match state.localFreeBufQueue with
      | [] => some { state with running := some (channel, .setFlag) }
      | _ :: _ => some { state with running := some (channel, .removeLocal) }
  | .removeLocal =>
      match state.localFreeBufQueue with
      | [] => none
      | buffer :: rest =>
          some
            { state with
              localFreeBufQueue := rest
              running := some (channel, .insertFree buffer) }
  | .insertFree buffer =>
      some
        { state with
          freeBufQueue := state.freeBufQueue ++ [buffer]
          running := some (channel, .sendFreeBuf) }
  | .setFlag =>
      some
        { state with
          releaseOccupied := true
          running := some (channel, .checkAgain) }
  | .putBack buffer =>
      some
        { state.setLine channel
            { state.line channel with
              asynchEventQueue :=
                buffer :: (state.line channel).asynchEventQueue } with
          running := some (channel, .checkAgain) }
  | .checkAgain =>
      if eventReady (state.line channel) then
        some
          (state.setLine channel
            { state.line channel with taskSet := true }).finish
      else
        some state.finish

/-- The channels whose tasks have started and not ended. -/
def started (state : EventMailbox Buffer) : List EventChannel :=
  state.running.toList.map Prod.fst ++ state.waiting.map Prod.fst

/-- Start the task of a channel, on top of a task that waits. -/
def start (state : EventMailbox Buffer) (channel : EventChannel) :
    Option (EventMailbox Buffer) :=
  let cleared :=
    { state.setLine channel
        { state.line channel with taskSet := false } with
      running := some (channel, .checkQueue) }
  if (state.line channel).taskSet ∧ channel ∉ state.started then
    match state.running with
    | none => some cleared
    | some (below, .userEvtRx buffer) =>
        some { cleared with waiting := (below, buffer) :: state.waiting }
    | some _ => none
  else
    none

/--
A step, unless it does not apply.  A task takes none while an interrupt is
pending, apart from the load of the flag: the flag can be cleared just when it
is loaded, and the interrupt is taken after that.
-/
def step (state : EventMailbox Buffer) :
    Event → Option (EventMailbox Buffer)
  | .post channel index =>
      if (state.line channel).occupied then
        none
      else
        state.pool[index]?.map fun buffer =>
          { state.setLine channel
              { state.line channel with
                evtQueue :=
                  (state.line channel).evtQueue ++ [.asynch buffer]
                sent := (state.line channel).sent ++ [buffer] } with
            pool := state.pool.eraseIdx index }
  | .postCommand =>
      if (state.line .ble).occupied then
        none
      else
        some
          (state.setLine .ble
            { state.line .ble with
              evtQueue := (state.line .ble).evtQueue ++ [.command] })
  | .announce channel =>
      if (state.line channel).occupied then
        none
      else
        some
          (state.setLine channel
            { state.line channel with
              occupied := true
              announced := (state.line channel).sent })
  | .collect =>
      match state.releaseOccupied, state.freeBufQueue with
      | true, buffer :: rest =>
          some
            { state with
              freeBufQueue := rest
              pool := state.pool ++ [buffer] }
      | _, _ => none
  | .release =>
      match state.releaseOccupied, state.freeBufQueue with
      | true, [] => some { state with releaseOccupied := false }
      | _, _ => none
  | .rxHandler =>
      if state.interrupt.isSome then
        none
      else if (state.line .system).occupied then
        some { state with interrupt := some (.rxEvtNot .system) }
      else if (state.line .ble).occupied then
        some { state with interrupt := some (.rxEvtNot .ble) }
      else
        none
  | .txHandler =>
      if state.interrupt.isNone ∧ state.releaseEnabled ∧
          ¬state.releaseOccupied then
        some
          { state with
            releaseEnabled := false
            interrupt := some .freeBufCb }
      else
        none
  | .handler => state.interrupt.bind state.stepHandler
  | .start channel =>
      if state.interrupt.isNone then state.start channel else none
  | .task =>
      match state.running with
      | none => none
      | some (channel, .isActiveFlag) =>
          if state.interrupt.isNone then
            state.stepTask channel .isActiveFlag
          else
            none
      | some (channel, next) =>
          if state.interrupt.isNone ∧ ¬state.pending then
            state.stepTask channel next
          else
            none
  | .userEvtRx flow =>
      match state.interrupt, state.running with
      | none, some (channel, .userEvtRx buffer) =>
          if flow then
            some
              { state.setLine channel
                  { state.line channel with
                    userEventFlow := true
                    received :=
                      (state.line channel).received ++ [buffer] } with
                running := some (channel, .evtDone buffer) }
          else
            some
              { state.setLine channel
                  { state.line channel with userEventFlow := false } with
                running := some (channel, .putBack buffer) }
      | _, _ => none
  | .takeCommandEvents => some { state with commandEvents := 0 }

/-- A channel after `TL_BLE_Init`, `TL_SYS_Init` and `TlInit`. -/
def initialLine : EventLine Buffer where
  evtQueue := []
  occupied := false
  asynchEventQueue := []
  userEventFlow := true
  taskSet := false
  sent := []
  announced := []
  received := []

/-- After `TL_MM_Init`, with the buffers that fit into the pool. -/
def init (pool : List Buffer) : EventMailbox Buffer where
  pool := pool
  line := fun _ => initialLine
  freeBufQueue := []
  localFreeBufQueue := []
  releaseOccupied := false
  releaseEnabled := false
  freeBufCb := false
  commandEvents := 0
  interrupt := none
  running := none
  waiting := []

/-- The mailbox from the start on. -/
def system (pool : List Buffer) :
    TransitionRuns.System (EventMailbox Buffer) Event :=
  .ofStep (init pool) step

end EventMailbox

end DemoBoard
