import DemoBoard.CyclicBuffer
import DemoBoard.IntrusiveList

namespace DemoBoard

/-!
# Message broker

Model of `utility/scheduler/MessageBroker.c` and the linked list of its
listeners.  `PublishMessage` and `Run` are sequences of steps with a step for
every access to shared data; only the critical sections of the cyclic buffer
are single steps.
-/

/-- What a pointer to a list node can point to. -/
inductive Node where
  | null
  | head
  | listener (id : Nat)
  deriving Repr, DecidableEq

/-- `LinkedList_List_t` -/
structure LinkedList where
  next : Node → Node
  nrOfElements : Nat

/-- `LinkedList_Iterator_t` -/
structure LinkedListIterator where
  hasMoreElements : Bool
  node : Node
  deriving Repr, DecidableEq

namespace LinkedList

/-- `LinkedList_Create`, with nodes that are in no list. -/
def create : LinkedList where
  next := Function.update (fun _ => .null) .head .head
  nrOfElements := 0

/-- `LinkedList_Insert`; a node that is in a list fails the assertion. -/
def insert (list : LinkedList) (node : Node) : Option LinkedList :=
  if list.next node ≠ .null then
    none
  else
    some
      { next :=
          Function.update
            (Function.update list.next node (list.next .head))
            .head node
        nrOfElements := (list.nrOfElements + 1) % 65536 }

/-- `LinkedList_IteratorInit` -/
def iteratorInit (list : LinkedList) : LinkedListIterator where
  node := .head
  hasMoreElements := list.next .head ≠ .head

/-- `LinkedList_Iterate` -/
def iterate (list : LinkedList) (iterator : LinkedListIterator) :
    LinkedListIterator where
  node := list.next iterator.node
  hasMoreElements := list.next (list.next iterator.node) ≠ .head

end LinkedList

/-- `Message_Message_t` -/
structure Message where
  id : UInt8
  parameter1 : UInt8
  category : UInt16
  parameter2 : UInt32
  deriving Repr, DecidableEq

/-- `MessageBroker_Broker_t`, with the masks of its listeners. -/
structure MessageBroker where
  listeners : LinkedList
  receiveMask : Nat → UInt16
  messageQueue : CyclicBuffer Message

namespace MessageBroker

/-- `MessageBroker_Create` -/
def create
    (receiveMask : Nat → UInt16) (messageBuffer : Nat → Message)
    (capacity : Nat) (capacity_gt : 1 < capacity)
    (capacity_le : capacity ≤ 256) : MessageBroker where
  listeners := LinkedList.create
  receiveMask := receiveMask
  messageQueue :=
    CyclicBuffer.create messageBuffer capacity capacity_gt capacity_le

/-- `CyclicBuffer_IsEmpty` loads two indices, in either order. -/
inductive EmptyTest where
  | start
  | loadedIn (indexIn : Nat)
  | loadedOut (indexOut : Nat)
  deriving Repr, DecidableEq

/-- Where an execution of `MessageBroker_PublishMessage` stands. -/
inductive Publishing where
  | testing (message : Message) (test : EmptyTest)
  | enqueueing (message : Message) (scheduleNeeded : Bool)
  | requesting (scheduleNeeded : Bool)
  deriving Repr, DecidableEq

/-- Where the execution of `MessageBroker_Run` stands. -/
inductive Running where
  | dequeueing
  | dispatching (message : Message) (iterator : LinkedListIterator)
  | testing (test : EmptyTest)
  | requesting (notEmpty : Bool)
  deriving Repr, DecidableEq

/--
The broker and everything that executes its functions.  Publishing executions
preempt each other and the running one; the innermost is first.
-/
structure BrokerState where
  broker : MessageBroker
  /-- The bit of `taskBitmap` in the sequencer. -/
  taskPending : Bool
  publishing : List Publishing
  running : Option Running
  /-- The messages in the order of their `CyclicBuffer_Enqueue`. -/
  enqueued : List Message
  /-- The messages in the order of their `CyclicBuffer_Dequeue`. -/
  dispatched : List Message
  /-- The handlers that were called, in order. -/
  passed : List (Message × Nat)

/-- The first or second load of an emptiness test. -/
def EmptyTest.load
    (queue : CyclicBuffer Message) (inFirst : Bool) :
    EmptyTest → EmptyTest ⊕ Bool
  | .start =>
      if inFirst then
        .inl (.loadedIn queue.indexIn)
      else
        .inl (.loadedOut queue.indexOut)
  | .loadedIn indexIn => .inr (indexIn = queue.indexOut)
  | .loadedOut indexOut => .inr (queue.indexIn = indexOut)

/-- The next step of the innermost `MessageBroker_PublishMessage`. -/
def advancePublish
    (state : BrokerState) (rest : List Publishing) (inFirst : Bool) :
    Publishing → BrokerState
  | .testing message test =>
      match test.load state.broker.messageQueue inFirst with
      | .inl test =>
          { state with publishing := .testing message test :: rest }
      | .inr isEmpty =>
          { state with publishing := .enqueueing message isEmpty :: rest }
  | .enqueueing message scheduleNeeded =>
      let outcome := state.broker.messageQueue.enqueue message
      { state with
        broker := { state.broker with messageQueue := outcome.1 }
        publishing := .requesting scheduleNeeded :: rest
        enqueued :=
          if outcome.2 then
            state.enqueued ++ [message]
          else
            state.enqueued }
  | .requesting scheduleNeeded =>
      { state with
        publishing := rest
        taskPending := state.taskPending || scheduleNeeded }

/-- A listener is interested in a message. -/
def receives (broker : MessageBroker) (message : Message) (id : Nat) :
    Bool :=
  broker.receiveMask id &&& message.category ≠ 0

/-- The next step of `MessageBroker_Run`. -/
def advanceRun (state : BrokerState) (inFirst : Bool) :
    Running → BrokerState
  | .dequeueing =>
      let outcome := state.broker.messageQueue.dequeue
      match outcome.2 with
      | none => { state with running := some (.testing .start) }
      | some message =>
          { state with
            broker := { state.broker with messageQueue := outcome.1 }
            running :=
              some
                (.dispatching message
                  state.broker.listeners.iteratorInit)
            dispatched := state.dispatched ++ [message] }
  | .dispatching message iterator =>
      if iterator.hasMoreElements then
        let iterator := state.broker.listeners.iterate iterator
        { state with
          running := some (.dispatching message iterator)
          passed :=
            match iterator.node with
            | .listener id =>
                if receives state.broker message id then
                  state.passed ++ [(message, id)]
                else
                  state.passed
            | _ => state.passed }
      else
        { state with running := some (.testing .start) }
  | .testing test =>
      match test.load state.broker.messageQueue inFirst with
      | .inl test => { state with running := some (.testing test) }
      | .inr isEmpty =>
          { state with running := some (.requesting (!isEmpty)) }
  | .requesting notEmpty =>
      { state with
        running := none
        taskPending := state.taskPending || notEmpty }

/-- What can happen next. -/
inductive Event where
  /-- A task, a handler or an interrupt calls `PublishMessage`. -/
  | publish (message : Message)
  /-- The sequencer calls `MessageBroker_Run`. -/
  | run
  /-- The innermost execution takes a step. -/
  | advance (inFirst : Bool)
  deriving Repr, DecidableEq

/-- A step of the system; `none` where the event cannot happen. -/
def step (state : BrokerState) : Event → Option BrokerState
  | .publish message =>
      some
        { state with
          publishing := .testing message .start :: state.publishing }
  | .run =>
      if state.publishing = [] ∧ state.running = none ∧
          state.taskPending = true then
        some
          { state with
            taskPending := false
            running := some .dequeueing }
      else
        none
  | .advance inFirst =>
      match state.publishing, state.running with
      | innermost :: rest, _ =>
          some (advancePublish state rest inFirst innermost)
      | [], some running => some (advanceRun state inFirst running)
      | [], none => none

/-- Nothing is published and nothing runs. -/
def quiet (broker : MessageBroker) : BrokerState where
  broker := broker
  taskPending := false
  publishing := []
  running := none
  enqueued := []
  dispatched := []
  passed := []

end MessageBroker

end DemoBoard
