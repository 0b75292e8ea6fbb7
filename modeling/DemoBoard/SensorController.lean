import DemoBoard.TransitionRuns

namespace DemoBoard.SensorController

open TransitionRuns

/-!
# Sensor controller and I2C driver

Model of `app_service/sensor/SensorController.c` over `hal/I2c3.c` and the
requests of `app_service/sensor/Sht4x.c`.  A started transfer completes, fails
or stays pending; what it reports goes through the queue of the application.
-/

/-- `MAX_CONSECUTIVE_ERRORS` -/
def maxConsecutiveErrors : Nat := 3

/-- The values of `listener.currentMessageHandlerCb`. -/
inductive Handler where
  | idle
  | shtRequestStarted
  | shtRequestRestarted
  | shtRequestReading
  | shtErrorHandler
  deriving Repr, DecidableEq

/-- The values of `_operationCompleteCb`. -/
inductive OperationCompleteCb where
  | requestCompleted
  | responseReceived
  | generalCallResetSent
  deriving Repr, DecidableEq

/-- The messages of the application that matter here. -/
inductive QueuedMessage where
  /-- `MESSAGE_ID_BLE_SUBSYSTEM_READY` -/
  | bleSubsystemReady
  /-- `MESSAGE_ID_GENERAL_CALL_RESET` -/
  | generalCallReset
  /-- `MESSAGE_ID_TIME_INFO_TIME_ELAPSED` -/
  | timeElapsed
  /-- `SHT4X_MESSAGE_ID_REQUEST_SENT` -/
  | requestSent
  /-- `SHT4X_MESSAGE_ID_SENSOR_READY` -/
  | sensorReady
  /-- `SHT4X_MESSAGE_ID_SENSOR_DATA` -/
  | sensorData
  /-- `SHT4X_MESSAGE_ID_ERROR` -/
  | sensorError
  /-- `MESSAGE_BROKER_CATEGORY_RECOVERABLE_ERROR` -/
  | recoverableError
  deriving Repr, DecidableEq

/-- Where the code does not return. -/
inductive Failure where
  /-- `ASSERT(_operationCompleteCb == 0)` -/
  | transferOngoing
  /-- `ErrorHandler_UnrecoverableError(ERROR_CODE_SENSOR_READOUT)` -/
  | sensorReadout
  deriving Repr, DecidableEq

/-- What became of the write of a request. -/
inductive RequestWrite where
  | notSent
  | sent
  | failed
  deriving Repr, DecidableEq

/-- Controller, driver, timers and the queue of the application. -/
structure State where
  handler : Handler
  consecutiveErrors : Nat
  activeReminder : Bool
  operationCompleteCb : Option OperationCompleteCb
  /-- `_timer` of the sensor is running. -/
  sensorTimer : Bool
  /-- `_resetTimer` is running. -/
  resetTimer : Bool
  queue : List QueuedMessage
  /-- The write of the last request: history that no function reads. -/
  requestWrite : RequestWrite
  deriving Repr, DecidableEq

/-- `I2c3_Release` with force. -/
def i2c3Release (state : State) : State :=
  { state with operationCompleteCb := none }

/-- `I2c3_Write` and `I2c3_Read` -/
def i2c3Transfer
    (state : State) (doneCb : OperationCompleteCb) : Except Failure State :=
  if state.operationCompleteCb = none then
    .ok { state with operationCompleteCb := some doneCb }
  else
    .error .transferOngoing

/-- `Sht4x_StartRequest` -/
def sht4xStartRequest (state : State) : Except Failure State :=
  i2c3Transfer { state with requestWrite := .notSent } .requestCompleted

/-- `Sht4x_ReadRequestData` -/
def sht4xReadRequestData (state : State) : Except Failure State :=
  i2c3Transfer state .responseReceived

/-- `Sht4x_NotifySensorReady` -/
def sht4xNotifySensorReady (state : State) : State :=
  { state with sensorTimer := true }

/-- `IdleStateCb` -/
def idleStateCb (state : State) : QueuedMessage → Except Failure State
  | .bleSubsystemReady | .timeElapsed => do
      let started ← sht4xStartRequest state
      .ok { started with handler := .shtRequestStarted }
  | _ => .ok state

/-- `SetIdleState` -/
def setIdleState (state : State) : Except Failure State :=
  let idle := { state with handler := .idle }
  if idle.activeReminder then do
    let reminded ← idleStateCb idle .bleSubsystemReady
    .ok { reminded with activeReminder := false }
  else
    .ok idle

/-- `HandleError` -/
def handleError (state : State) : Except Failure State :=
  -- make sure that no history is pending
  let released := i2c3Release { state with activeReminder := false }
  let counted :=
    { released with
      consecutiveErrors := (released.consecutiveErrors + 1) % 256 }
  if counted.consecutiveErrors ≥ maxConsecutiveErrors then
    i2c3Transfer { counted with handler := .shtErrorHandler }
      .generalCallResetSent
  else
    -- just ignore the error and try in the next readout
    setIdleState counted

/-- `SetReminderIfNeeded` -/
def setReminderIfNeeded (state : State) (message : QueuedMessage) : State :=
  if message = .bleSubsystemReady then
    { state with activeReminder := true }
  else
    state

/-- `ShtRequestStartedStateCb` -/
def shtRequestStartedStateCb
    (state : State) : QueuedMessage → Except Failure State
  | .requestSent =>
      .ok (sht4xNotifySensorReady { state with consecutiveErrors := 0 })
  | .sensorReady => do
      let reading ← sht4xReadRequestData state
      .ok { reading with handler := .shtRequestReading }
  | .timeElapsed => handleError state
  | .recoverableError => handleError state
  | message => .ok (setReminderIfNeeded state message)

/-- `ShtRequestRestartedCb` -/
def shtRequestRestartedCb
    (state : State) : QueuedMessage → Except Failure State
  | .timeElapsed => do
      let reading ← sht4xReadRequestData state
      .ok { reading with handler := .shtRequestReading }
  | .recoverableError => handleError state
  | message => .ok (setReminderIfNeeded state message)

/-- `ShtRequestReadingStateCb` -/
def shtRequestReadingStateCb
    (state : State) : QueuedMessage → Except Failure State
  | .sensorData => do
      let started ← sht4xStartRequest { state with consecutiveErrors := 0 }
      .ok { started with handler := .shtRequestRestarted }
  | .sensorError => handleError state
  | .timeElapsed => handleError state
  | .recoverableError => handleError state
  | message => .ok (setReminderIfNeeded state message)

/-- `ShtErrorHandlerCb` -/
def shtErrorHandlerCb
    (state : State) : QueuedMessage → Except Failure State
  | .generalCallReset =>
      -- this will switch to idle state after 30 ms
      .ok { state with consecutiveErrors := 0, resetTimer := true }
  | .timeElapsed => .error .sensorReadout
  | .recoverableError => .error .sensorReadout
  | _ => .ok state

/-- `listener.receiveMask` has no recoverable errors. -/
def receives (message : QueuedMessage) : Bool :=
  message ≠ .recoverableError

/-- The controller is called with a message. -/
def receive
    (state : State) (message : QueuedMessage) : Except Failure State :=
  if receives message then
    match state.handler with
    | .idle => idleStateCb state message
    | .shtRequestStarted => shtRequestStartedStateCb state message
    | .shtRequestRestarted => shtRequestRestartedCb state message
    | .shtRequestReading => shtRequestReadingStateCb state message
    | .shtErrorHandler => shtErrorHandlerCb state message
  else
    .ok state

/-- The messages of other modules. -/
inductive Input where
  | timeElapsed
  | bleSubsystemReady
  | recoverableError
  deriving Repr, DecidableEq

/-- An input as it stands in the queue. -/
def Input.message : Input → QueuedMessage
  | .timeElapsed => .timeElapsed
  | .bleSubsystemReady => .bleSubsystemReady
  | .recoverableError => .recoverableError

/-- What can happen next. -/
inductive Event where
  | publish (input : Input)
  /-- `HAL_I2C_MasterTxCpltCallback` or `HAL_I2C_MasterRxCpltCallback` -/
  | transferComplete (crcMatches : Bool)
  /-- `HAL_I2C_ErrorCallback` -/
  | transferError
  /-- `SensorReadyCb` -/
  | sensorTimerElapsed
  /-- `SetIdleState`, by the reset timer. -/
  | resetTimerElapsed
  /-- The first message of the queue reaches the controller. -/
  | dispatch
  deriving Repr, DecidableEq

/-- The message a complete transfer publishes. -/
def OperationCompleteCb.message (crcMatches : Bool) :
    OperationCompleteCb → QueuedMessage
  | .requestCompleted => .requestSent
  | .responseReceived => if crcMatches then .sensorData else .sensorError
  | .generalCallResetSent => .generalCallReset

/-- The history of the write, when a transfer is over. -/
def OperationCompleteCb.over (result before : RequestWrite) :
    OperationCompleteCb → RequestWrite
  | .requestCompleted => result
  | .responseReceived => before
  | .generalCallResetSent => before

/-- A step of the system; impossible events do nothing. -/
def step (state : State) : Event → Except Failure State
  | .publish input =>
      .ok { state with queue := state.queue ++ [input.message] }
  | .transferComplete crcMatches =>
      match state.operationCompleteCb with
      | none => .ok state
      | some doneCb =>
          .ok
            { state with
              operationCompleteCb := none
              queue := state.queue ++ [doneCb.message crcMatches]
              requestWrite := doneCb.over .sent state.requestWrite }
  | .transferError =>
      match state.operationCompleteCb with
      | none => .ok state
      | some doneCb =>
          .ok
            { state with
              operationCompleteCb := none
              queue := state.queue ++ [.recoverableError]
              requestWrite := doneCb.over .failed state.requestWrite }
  | .sensorTimerElapsed =>
      if state.sensorTimer then
        .ok
          { state with
            sensorTimer := false
            queue := state.queue ++ [.sensorReady] }
      else
        .ok state
  | .resetTimerElapsed =>
      if state.resetTimer then
        setIdleState { state with resetTimer := false }
      else
        .ok state
  | .dispatch =>
      match state.queue with
      | [] => .ok state
      | message :: rest => receive { state with queue := rest } message

/-- The initial value of the controller. -/
def static : State where
  handler := .idle
  consecutiveErrors := 0
  activeReminder := false
  operationCompleteCb := none
  sensorTimer := false
  resetTimer := false
  queue := []
  requestWrite := .notSent

/-- Runs from the start of the device on; a failure ends them. -/
def system : System (Except Failure State) Event where
  start := fun outcome => outcome = .ok static
  step := fun outcome event next => (outcome >>= (step · event)) = next

/-- There is no sensor to wait for. -/
def Settled (state : State) : Prop :=
  state.sensorTimer = false ∧ .sensorReady ∉ state.queue

/-- A sensor that is ready is read before the next tick. -/
def ReadsFirst (state : State) (event : Event) : Prop :=
  event = .dispatch → state.queue.head? = some .timeElapsed → Settled state

/-- A condition on the steps of a run. -/
def Always
    (condition : State → Event → Prop)
    (outcome : Except Failure State) (event : Event) : Prop :=
  ∀ state, outcome = .ok state → condition state event

/-- A message that starts a request in `IdleStateCb`. -/
def QueuedMessage.StartsRequest (message : QueuedMessage) : Prop :=
  message = .timeElapsed ∨ message = .bleSubsystemReady

/--
The write of a request is over before a tick reads its response, and no request
starts while a `REQUEST_SENT` of the one before is queued.
-/
structure Proper (state : State) (event : Event) : Prop where
  readsFirst : ReadsFirst state event
  writeOver :
    event = .dispatch → state.queue.head? = some .timeElapsed →
      state.handler = .shtRequestRestarted → state.requestWrite ≠ .notSent
  noneLeft :
    event = .dispatch → state.handler = .idle →
      (∃ message ∈ state.queue.head?, message.StartsRequest) →
        .requestSent ∉ state.queue

instance (state : State) (event : Event) :
    Decidable (ReadsFirst state event) :=
  inferInstanceAs (Decidable (_ → _ → _ ∧ _))

instance (message : QueuedMessage) : Decidable message.StartsRequest :=
  inferInstanceAs (Decidable (_ ∨ _))

instance (state : State) (event : Event) : Decidable (Proper state event) :=
  decidable_of_iff
    (ReadsFirst state event ∧
      (event = .dispatch → state.queue.head? = some .timeElapsed →
        state.handler = .shtRequestRestarted →
          state.requestWrite ≠ .notSent) ∧
      (event = .dispatch → state.handler = .idle →
        (∃ message ∈ state.queue.head?, message.StartsRequest) →
          .requestSent ∉ state.queue))
    ⟨fun ⟨first, concluded, left⟩ => ⟨first, concluded, left⟩,
      fun ⟨first, concluded, left⟩ => ⟨first, concluded, left⟩⟩

/-- The answers to a read. -/
def QueuedMessage.isAnswer (message : QueuedMessage) : Bool :=
  message = .sensorData || message = .sensorError

/-- The answers that are queued. -/
def answers (queue : List QueuedMessage) : Nat :=
  queue.countP QueuedMessage.isAnswer

/-- No answer stands behind the message that leads to the next read. -/
def NoneBehind : List QueuedMessage → Prop
  | [] => True
  | message :: rest =>
      (message = .sensorReady → answers rest = 0) ∧ NoneBehind rest

/-- A transfer that is not over counts. -/
def pending (operationCompleteCb : Option OperationCompleteCb) : Nat :=
  if operationCompleteCb = none then 0 else 1

/-- What leads to the read of a request, from its write on. -/
def leads (state : State) : Nat :=
  pending state.operationCompleteCb + state.queue.count .requestSent +
    state.sensorTimer.toNat + state.queue.count .sensorReady

/-- The callback of the transfer each handler waits for. -/
def Handler.doneCb : Handler → Option OperationCompleteCb
  | .idle => none
  | .shtRequestStarted => some .requestCompleted
  | .shtRequestRestarted => some .requestCompleted
  | .shtRequestReading => some .responseReceived
  | .shtErrorHandler => some .generalCallResetSent

/-- Where the answers are that each handler may still meet. -/
def Answered (state : State) : Prop :=
  match state.handler with
  | .idle => True
  | .shtRequestStarted => NoneBehind state.queue
  | .shtRequestRestarted => answers state.queue = 0
  | .shtRequestReading =>
      pending state.operationCompleteCb + answers state.queue ≤ 1
  | .shtErrorHandler => True

/-- What holds in every run. -/
structure Invariant (state : State) : Prop where
  transfer :
    state.operationCompleteCb = none ∨
      state.operationCompleteCb = state.handler.doneCb
  /-- The driver is released when the write is over. -/
  written :
    state.handler = .shtRequestStarted ∨
        state.handler = .shtRequestRestarted →
      state.requestWrite ≠ .notSent → state.operationCompleteCb = none
  /-- A request leads to one read. -/
  paced : state.handler = .shtRequestStarted → leads state ≤ 1
  settled : state.handler ≠ .shtRequestStarted → Settled state
  answered : Answered state
  /-- There is one general call reset at a time. -/
  reset :
    state.handler = .shtErrorHandler →
      pending state.operationCompleteCb +
          state.queue.count .generalCallReset +
        (if state.resetTimer then 1 else 0) ≤ 1
  noReset :
    state.handler ≠ .shtErrorHandler →
      .generalCallReset ∉ state.queue ∧ state.resetTimer = false
  few :
    state.handler ≠ .shtErrorHandler ∨ state.resetTimer = true →
      state.consecutiveErrors < maxConsecutiveErrors
  noReminder :
    state.handler = .shtErrorHandler → state.activeReminder = false

section Queue

variable {queue : List QueuedMessage} {message : QueuedMessage}

theorem answers_append
    (queue : List QueuedMessage)
    (message : QueuedMessage) :
    answers (queue ++ [message]) =
      answers queue + if message.isAnswer then 1 else 0 := by
  rw [answers, List.countP_append, List.countP_singleton, answers]

theorem answers_cons
    (message : QueuedMessage)
    (queue : List QueuedMessage) :
    answers (message :: queue) =
      answers queue + if message.isAnswer then 1 else 0 := by
  rw [answers, List.countP_cons, answers]

/-- Nothing is behind a message that is not there. -/
theorem noneBehind_of_notMem (absent : .sensorReady ∉ queue) :
    NoneBehind queue := by
  induction queue with
  | nil => trivial
  | cons message rest inductionHypothesis =>
      rw [List.mem_cons, not_or] at absent
      exact ⟨fun same => absurd same.symm absent.1,
        inductionHypothesis absent.2⟩

/-- Something else can go behind. -/
theorem NoneBehind.append
    (behind : NoneBehind queue)
    (other : message.isAnswer = false) :
    NoneBehind (queue ++ [message]) := by
  induction queue with
  | nil => exact ⟨fun _ => rfl, trivial⟩
  | cons first rest inductionHypothesis =>
      refine ⟨fun ready => ?_, inductionHypothesis behind.2⟩
      have appended := answers_append rest message
      rw [behind.1 ready, other] at appended
      exact appended

/-- How often a message is queued. -/
theorem count_append
    (queue : List QueuedMessage)
    (message other : QueuedMessage) :
    (queue ++ [message]).count other =
      queue.count other + if message = other then 1 else 0 := by
  rw [List.count_append, List.count_singleton]
  congr 1
  by_cases same : message = other
  · rw [if_pos same, if_pos (by simpa using same)]
  · rw [if_neg same, if_neg (by simpa using same)]

theorem count_cons
    (message other : QueuedMessage)
    (queue : List QueuedMessage) :
    (message :: queue).count other =
      queue.count other + if message = other then 1 else 0 := by
  rw [List.count_cons]
  congr 1
  by_cases same : message = other
  · rw [if_pos same, if_pos (by simpa using same)]
  · rw [if_neg same, if_neg (by simpa using same)]

end Queue

@[simp]
theorem pending_none : pending none = 0 := rfl

@[simp]
theorem pending_some (doneCb : OperationCompleteCb) :
    pending (some doneCb) = 1 :=
  if_neg nofun

/-- Without a pending transfer there is no callback. -/
theorem eq_none_of_pending
    {operationCompleteCb : Option OperationCompleteCb}
    (released : pending operationCompleteCb = 0) :
    operationCompleteCb = none := by
  cases operationCompleteCb with
  | none => rfl
  | some doneCb => cases released

section Steps

variable {state next : State}

/-- A message that is queued leads to a read if it is `REQUEST_SENT`. -/
theorem leads_append
    {message : QueuedMessage}
    (notReady : message ≠ .sensorReady) :
    leads { state with queue := state.queue ++ [message] } =
      leads state + if message = .requestSent then 1 else 0 := by
  unfold leads
  dsimp only
  rw [count_append, count_append, if_neg notReady]
  omega

/-- The first message led to a read if it is one of these. -/
theorem leads_cons
    {message : QueuedMessage}
    {rest : List QueuedMessage}
    (queue : state.queue = message :: rest) :
    leads state =
      leads { state with queue := rest } +
        (if message = .requestSent then 1 else 0) +
          if message = .sensorReady then 1 else 0 := by
  unfold leads
  dsimp only
  rw [queue, count_cons, count_cons]
  omega

/-- The end of a transfer leads to nothing by itself. -/
theorem leads_release :
    leads { state with operationCompleteCb := none } +
      pending state.operationCompleteCb = leads state := by
  unfold leads
  dsimp only
  rw [pending_none]
  omega

/-- A settled controller stays so with any other message. -/
theorem Settled.append
    {message : QueuedMessage}
    (settled : Settled state)
    (notReady : message ≠ .sensorReady) :
    Settled { state with queue := state.queue ++ [message] } := by
  refine ⟨settled.1, ?_⟩
  rw [List.mem_append, not_or, List.mem_singleton]
  exact ⟨settled.2, fun equal => notReady equal.symm⟩

/-- A message that leads to nothing by itself can be queued. -/
theorem Invariant.enqueue
    {message : QueuedMessage}
    (invariant : Invariant state)
    (other : message.isAnswer = false)
    (notReady : message ≠ .sensorReady)
    (notReset : message ≠ .generalCallReset)
    (room :
      message = .requestSent → state.handler = .shtRequestStarted →
        leads state = 0) :
    Invariant { state with queue := state.queue ++ [message] } := by
  obtain ⟨transfer, written, paced, settled, answered, reset, noReset, few,
    noReminder⟩ := invariant
  have same : answers (state.queue ++ [message]) = answers state.queue := by
    rw [answers_append, other]
    rfl
  have resets :
      (state.queue ++ [message]).count .generalCallReset =
        state.queue.count .generalCallReset := by
    rw [count_append, if_neg notReset, Nat.add_zero]
  refine ⟨transfer, written, ?_, ?_, ?_, ?_, ?_, few, noReminder⟩
  · intro handler
    rw [leads_append notReady]
    split
    · next sent =>
        have clear := room sent handler
        omega
    · exact paced handler
  · exact fun handler => (settled handler).append notReady
  · unfold Answered at answered ⊢
    dsimp only
    cases handler : state.handler with
    | idle => trivial
    | shtRequestStarted =>
        rw [handler] at answered
        exact answered.append other
    | shtRequestRestarted =>
        rw [handler] at answered
        exact same.trans answered
    | shtRequestReading =>
        rw [handler] at answered
        dsimp only at answered ⊢
        rw [same]
        exact answered
    | shtErrorHandler => trivial
  · intro resetting
    dsimp only
    rw [resets]
    exact reset resetting
  · intro notResetting
    obtain ⟨absent, stopped⟩ := noReset notResetting
    refine ⟨?_, stopped⟩
    rw [List.mem_append, not_or, List.mem_singleton]
    exact ⟨absent, fun equal => notReset equal.symm⟩

/-- The first message can be taken out. -/
theorem Invariant.dequeue
    {message : QueuedMessage}
    {rest : List QueuedMessage}
    (invariant : Invariant state)
    (queue : state.queue = message :: rest) :
    Invariant { state with queue := rest } := by
  obtain ⟨transfer, written, paced, settled, answered, reset, noReset, few,
    noReminder⟩ := invariant
  have led := leads_cons queue
  unfold Settled at settled
  rw [queue] at settled reset noReset
  have fewer : answers rest ≤ answers state.queue := by
    rw [queue, answers_cons]
    omega
  refine ⟨transfer, written, ?_, ?_, ?_, ?_, ?_, few, noReminder⟩
  · intro handler
    have before := paced handler
    omega
  · intro handler
    obtain ⟨stopped, absent⟩ := settled handler
    rw [List.mem_cons, not_or] at absent
    exact ⟨stopped, absent.2⟩
  · unfold Answered at answered ⊢
    dsimp only
    cases handler : state.handler with
    | idle => trivial
    | shtRequestStarted =>
        rw [handler] at answered
        dsimp only at answered
        rw [queue] at answered
        exact answered.2
    | shtRequestRestarted =>
        rw [handler] at answered
        dsimp only at answered ⊢
        omega
    | shtRequestReading =>
        rw [handler] at answered
        dsimp only at answered ⊢
        omega
    | shtErrorHandler => trivial
  · intro resetting
    have total := reset resetting
    rw [count_cons] at total
    dsimp only
    omega
  · intro notResetting
    obtain ⟨absent, stopped⟩ := noReset notResetting
    rw [List.mem_cons, not_or] at absent
    exact ⟨absent.2, stopped⟩

/-- A transfer can end. -/
theorem Invariant.release
    (invariant : Invariant state)
    (requestWrite : RequestWrite) :
    Invariant
      { state with
        operationCompleteCb := none
        requestWrite := requestWrite } := by
  obtain ⟨_, _, paced, settled, answered, reset, noReset, few,
    noReminder⟩ := invariant
  refine ⟨Or.inl rfl, fun _ _ => rfl, ?_, settled, ?_, ?_, noReset, few,
    noReminder⟩
  · intro handler
    have before := paced handler
    have led := @leads_release state
    exact Nat.le_trans (Nat.le_of_add_right_le (Nat.le_of_eq led)) before
  · unfold Answered at answered ⊢
    dsimp only
    cases handler : state.handler with
    | shtRequestReading =>
        rw [handler] at answered
        dsimp only at answered ⊢
        rw [pending_none]
        omega
    | _ =>
        rw [handler] at answered
        exact answered
  · intro resetting
    have total := reset resetting
    dsimp only
    rw [pending_none]
    omega

/-- A new request can be started when nothing of the one before is left. -/
theorem invariant_started
    (settled : Settled state)
    (noneLeft : .requestSent ∉ state.queue)
    (noReset :
      .generalCallReset ∉ state.queue ∧ state.resetTimer = false)
    (few : state.consecutiveErrors < maxConsecutiveErrors) :
    Invariant
      { state with
        operationCompleteCb := some .requestCompleted
        handler := .shtRequestStarted
        requestWrite := .notSent } := by
  refine ⟨Or.inr rfl, fun _ notSent => absurd rfl notSent, fun _ => ?_,
    fun other => absurd rfl other, noneBehind_of_notMem settled.2, nofun,
    fun _ => noReset, fun _ => few, nofun⟩
  unfold leads
  dsimp only
  rw [pending_some, settled.1, List.count_eq_zero.mpr noneLeft,
    List.count_eq_zero.mpr settled.2]
  decide

/-- The controller can be idle when no transfer is ongoing. -/
theorem invariant_idle
    (settled : Settled state)
    (noReset :
      .generalCallReset ∉ state.queue ∧ state.resetTimer = false)
    (few : state.consecutiveErrors < maxConsecutiveErrors) :
    Invariant
      { state with operationCompleteCb := none, handler := .idle } :=
  ⟨Or.inl rfl, fun _ _ => rfl, nofun, fun _ => settled, trivial, nofun,
    fun _ => noReset, fun _ => few, nofun⟩

/-- What `HandleError` leaves behind. -/
def failed (state : State) : State :=
  if state.consecutiveErrors + 1 < maxConsecutiveErrors then
    { state with
      activeReminder := false
      consecutiveErrors := state.consecutiveErrors + 1
      operationCompleteCb := none
      handler := .idle }
  else
    { state with
      activeReminder := false
      consecutiveErrors := state.consecutiveErrors + 1
      operationCompleteCb := some .generalCallResetSent
      handler := .shtErrorHandler }

/-- `HandleError` never meets an ongoing transfer. -/
theorem handleError_eq
    (few : state.consecutiveErrors < maxConsecutiveErrors) :
    handleError state = .ok (failed state) := by
  have small : (state.consecutiveErrors + 1) % 256 =
      state.consecutiveErrors + 1 := by
    rw [maxConsecutiveErrors] at few
    omega
  simp only [handleError, i2c3Release, small, failed]
  by_cases enough : maxConsecutiveErrors ≤ state.consecutiveErrors + 1
  · rw [if_pos enough, if_neg (by omega)]
    rfl
  · rw [if_neg enough, if_pos (by omega)]
    rfl

/-- A failed transfer leaves the invariant behind. -/
theorem invariant_failed
    (settled : Settled state)
    (noReset :
      .generalCallReset ∉ state.queue ∧ state.resetTimer = false) :
    Invariant (failed state) := by
  rw [failed]
  split
  · rename_i again
    exact ⟨Or.inl rfl, fun _ _ => rfl, nofun, fun _ => settled, trivial,
      nofun, fun _ => noReset, fun _ => again, nofun⟩
  · refine ⟨Or.inr rfl, ?_, nofun, fun _ => settled, trivial, ?_,
      fun other => absurd rfl other, ?_, fun _ => rfl⟩
    · rintro (handler | handler)
      · cases handler
      · cases handler
    · intro _
      dsimp only
      rw [List.count_eq_zero.mpr noReset.1, noReset.2]
      decide
    · rintro (other | running)
      · exact absurd rfl other
      · rw [noReset.2] at running
        cases running

/-- The end of a transfer keeps the invariant. -/
theorem Invariant.transferComplete
    {doneCb : OperationCompleteCb}
    (invariant : Invariant state)
    (ongoing : state.operationCompleteCb = some doneCb)
    (crcMatches : Bool) :
    Invariant
      { state with
        operationCompleteCb := none
        queue := state.queue ++ [doneCb.message crcMatches]
        requestWrite := doneCb.over .sent state.requestWrite } := by
  have one : pending state.operationCompleteCb = 1 := by
    rw [ongoing]
    rfl
  have handled : state.handler.doneCb = some doneCb := by
    rcases invariant.transfer with released | same
    · rw [ongoing] at released
      cases released
    · rw [← same, ongoing]
  have released := invariant.release (doneCb.over .sent state.requestWrite)
  have plain :
      (doneCb.message crcMatches).isAnswer = false →
        doneCb.message crcMatches ≠ .sensorReady →
          doneCb.message crcMatches ≠ .generalCallReset →
            Invariant
              { state with
                operationCompleteCb := none
                queue := state.queue ++ [doneCb.message crcMatches]
                requestWrite := doneCb.over .sent state.requestWrite } := by
    intro other notReady notReset
    refine released.enqueue other notReady notReset fun _ handler => ?_
    -- the write that is over was all that led to a read
    have before := invariant.paced handler
    have led := @leads_release state
    rw [one] at led
    have none : leads { state with operationCompleteCb := none } = 0 := by
      omega
    exact none
  cases handler : state.handler with
  | idle =>
      rw [handler] at handled
      cases handled
  | shtRequestStarted =>
      rw [handler] at handled
      cases handled
      rw [← handler]
      exact plain rfl nofun nofun
  | shtRequestRestarted =>
      rw [handler] at handled
      cases handled
      rw [← handler]
      exact plain rfl nofun nofun
  | shtRequestReading =>
      rw [handler] at handled
      cases handled
      rw [← handler]
      obtain ⟨_, _, _, settled, answered, _, noReset, few, _⟩ := invariant
      unfold Answered at answered
      rw [handler] at answered
      dsimp only at answered
      have reading : state.handler ≠ .shtErrorHandler := by
        rw [handler]
        decide
      have notStarted : state.handler ≠ .shtRequestStarted := by
        rw [handler]
        decide
      obtain ⟨absent, stopped⟩ := noReset reading
      have notReset :
          OperationCompleteCb.responseReceived.message crcMatches ≠
            .generalCallReset := by
        cases crcMatches <;> decide
      have notReady :
          OperationCompleteCb.responseReceived.message crcMatches ≠
            .sensorReady := by
        cases crcMatches <;> decide
      refine ⟨Or.inl rfl, fun _ _ => rfl,
        fun started => absurd started notStarted,
        fun other => (settled other).append notReady, ?_,
        fun resetting => absurd resetting reading,
        fun _ => ⟨?_, stopped⟩, few,
        fun resetting => absurd resetting reading⟩
      · unfold Answered
        dsimp only
        rw [handler]
        dsimp only
        rw [answers_append, pending_none]
        split <;> omega
      · rw [List.mem_append, not_or, List.mem_singleton]
        exact ⟨absent, fun equal => notReset equal.symm⟩
  | shtErrorHandler =>
      rw [handler] at handled
      cases handled
      rw [← handler]
      obtain ⟨_, _, _, settled, _, reset, _, few, noReminder⟩ := invariant
      have total := reset handler
      refine ⟨Or.inl rfl, fun _ _ => rfl,
        fun started => absurd (handler.symm.trans started) nofun,
        fun other => (settled other).append nofun, ?_, fun _ => ?_,
        fun other => absurd handler other, few, noReminder⟩
      · unfold Answered
        dsimp only
        rw [handler]
        trivial
      · dsimp only [OperationCompleteCb.message]
        rw [count_append, if_pos rfl, pending_none]
        omega

/-- The sensor becomes ready. -/
theorem Invariant.sensorTimerElapsed
    (invariant : Invariant state)
    (running : state.sensorTimer = true) :
    Invariant
      { state with
        sensorTimer := false
        queue := state.queue ++ [.sensorReady] } := by
  obtain ⟨transfer, written, paced, settled, answered, _, noReset, few,
    _⟩ := invariant
  have started : state.handler = .shtRequestStarted := by
    refine Decidable.byContradiction fun other => ?_
    rw [(settled other).1] at running
    cases running
  have other : state.handler ≠ .shtErrorHandler := by
    rw [started]
    decide
  obtain ⟨absent, stopped⟩ := noReset other
  refine ⟨transfer, written, fun _ => ?_,
    fun notStarted => absurd started notStarted, ?_,
    fun same => absurd same other, fun _ => ⟨?_, stopped⟩, few,
    fun same => absurd same other⟩
  · have before := paced started
    unfold leads at before ⊢
    dsimp only
    rw [count_append, count_append, if_neg nofun, if_pos rfl]
    rw [running] at before
    dsimp only [Bool.toNat_true, Bool.toNat_false] at before ⊢
    omega
  · unfold Answered at answered ⊢
    dsimp only
    rw [started] at answered ⊢
    exact answered.append rfl
  · rw [List.mem_append, not_or]
    exact ⟨absent, by decide⟩

/-- A transfer that can start. -/
theorem i2c3Transfer_eq
    (released : state.operationCompleteCb = none)
    (doneCb : OperationCompleteCb) :
    i2c3Transfer state doneCb =
      .ok { state with operationCompleteCb := some doneCb } :=
  if_pos released

/-- A step that returns with the invariant. -/
def Keeps (outcome : Except Failure State) : Prop :=
  ∃ next, outcome = .ok next ∧ Invariant next

theorem keeps_ok (invariant : Invariant state) : Keeps (.ok state) :=
  ⟨state, rfl, invariant⟩

/-- A reminder can be set outside the error handler. -/
theorem Invariant.setReminderIfNeeded
    (invariant : Invariant state)
    (other : state.handler ≠ .shtErrorHandler)
    (message : QueuedMessage) :
    Invariant (SensorController.setReminderIfNeeded state message) := by
  rw [SensorController.setReminderIfNeeded]
  split
  · obtain ⟨transfer, written, paced, settled, answered, reset, noReset,
      few, _⟩ := invariant
    exact ⟨transfer, written, paced, settled, answered, reset, noReset, few,
      fun same => absurd same other⟩
  · exact invariant

/-- The request of an idle controller. -/
theorem idleStateCb_starts
    {message : QueuedMessage}
    (released : state.operationCompleteCb = none)
    (starts : message.StartsRequest) :
    idleStateCb state message =
      .ok
        { state with
          operationCompleteCb := some .requestCompleted
          handler := .shtRequestStarted
          requestWrite := .notSent } := by
  have transfer :=
    @i2c3Transfer_eq { state with requestWrite := .notSent } released
      .requestCompleted
  rcases starts with rfl | rfl
  all_goals
    simp only [idleStateCb, sht4xStartRequest, transfer]
    rfl

/-- An idle controller ignores any other message. -/
theorem idleStateCb_ignores
    {message : QueuedMessage}
    (other : ¬message.StartsRequest) :
    idleStateCb state message = .ok state := by
  cases message with
  | timeElapsed => exact absurd (Or.inl rfl) other
  | bleSubsystemReady => exact absurd (Or.inr rfl) other
  | _ => rfl

/-- An idle controller starts a request or ignores the message. -/
theorem Invariant.idleStateCb
    {message : QueuedMessage}
    (invariant : Invariant state)
    (handler : state.handler = .idle)
    (noneLeft : message.StartsRequest → .requestSent ∉ state.queue) :
    Keeps (SensorController.idleStateCb state message) := by
  have other : state.handler ≠ .shtErrorHandler := by
    rw [handler]
    decide
  have notStarted : state.handler ≠ .shtRequestStarted := by
    rw [handler]
    decide
  have released : state.operationCompleteCb = none := by
    have transfer := invariant.transfer
    rw [handler] at transfer
    exact transfer.elim id id
  by_cases starts : message.StartsRequest
  · rw [idleStateCb_starts released starts]
    exact keeps_ok (invariant_started (invariant.settled notStarted)
      (noneLeft starts) (invariant.noReset other)
      (invariant.few (Or.inl other)))
  · rw [idleStateCb_ignores starts]
    exact keeps_ok invariant

/-- `SetIdleState` after a transfer is over. -/
theorem keeps_setIdleState
    (released : state.operationCompleteCb = none)
    (settled : Settled state)
    (noReset :
      .generalCallReset ∉ state.queue ∧ state.resetTimer = false)
    (noReminder : state.activeReminder = false)
    (few : state.consecutiveErrors < maxConsecutiveErrors) :
    Keeps (setIdleState state) := by
  refine ⟨{ state with operationCompleteCb := none, handler := .idle }, ?_,
    invariant_idle settled noReset few⟩
  rw [setIdleState]
  dsimp only
  rw [if_neg (by rw [noReminder]; decide), ← released]

/-- The driver is released when the sensor of a request is ready. -/
theorem released_of_leads (nothing : leads state = 0) :
    state.operationCompleteCb = none ∧ Settled state := by
  unfold leads at nothing
  refine ⟨eq_none_of_pending (by omega), ?_, ?_⟩
  · cases running : state.sensorTimer with
    | false => rfl
    | true =>
        rw [running, Bool.toNat_true] at nothing
        omega
  · rw [← List.count_eq_zero]
    omega

/-- A request was started. -/
theorem Invariant.shtRequestStartedStateCb
    {message : QueuedMessage}
    (invariant : Invariant state)
    (handler : state.handler = .shtRequestStarted)
    (received : receives message = true)
    (settled : message = .timeElapsed → Settled state)
    (led :
      message = .requestSent ∨ message = .sensorReady → leads state = 0)
    (none : message = .sensorReady → answers state.queue = 0) :
    Keeps (SensorController.shtRequestStartedStateCb state message) := by
  have other : state.handler ≠ .shtErrorHandler := by
    rw [handler]
    decide
  have few := invariant.few (Or.inl other)
  have noReset := invariant.noReset other
  cases message with
  | requestSent =>
      have before := led (Or.inl rfl)
      obtain ⟨transfer, written, _, _, answered, _, _, _, _⟩ := invariant
      refine ⟨_, rfl, transfer, written, fun _ => ?_,
        fun notStarted => absurd handler notStarted, ?_,
        fun same => absurd same other, fun _ => noReset,
        fun _ => Nat.zero_lt_succ 2, fun same => absurd same other⟩
      · unfold leads at before ⊢
        dsimp only [sht4xNotifySensorReady]
        rw [Bool.toNat_true]
        omega
      · unfold Answered at answered ⊢
        rw [handler] at answered
        dsimp only [sht4xNotifySensorReady]
        rw [handler]
        exact answered
  | sensorReady =>
      obtain ⟨released, ended⟩ := released_of_leads (led (Or.inr rfl))
      refine ⟨{ state with
        operationCompleteCb := some .responseReceived
        handler := .shtRequestReading }, ?_, Or.inr rfl, ?_, nofun,
        fun _ => ended, ?_, nofun, fun _ => noReset, fun _ => few, nofun⟩
      · simp only [SensorController.shtRequestStartedStateCb,
          sht4xReadRequestData, i2c3Transfer_eq released]
        rfl
      · rintro (reading | reading)
        · cases reading
        · cases reading
      · have first := none rfl
        show 1 + answers state.queue ≤ 1
        omega
  | timeElapsed =>
      exact ⟨_, handleError_eq few, invariant_failed (settled rfl) noReset⟩
  | recoverableError => cases received
  | _ => exact keeps_ok (invariant.setReminderIfNeeded other _)

/-- A request was started again. -/
theorem Invariant.shtRequestRestartedCb
    {message : QueuedMessage}
    (invariant : Invariant state)
    (handler : state.handler = .shtRequestRestarted)
    (received : receives message = true)
    (concluded : message = .timeElapsed → state.requestWrite ≠ .notSent) :
    Keeps (SensorController.shtRequestRestartedCb state message) := by
  have other : state.handler ≠ .shtErrorHandler := by
    rw [handler]
    decide
  have notStarted : state.handler ≠ .shtRequestStarted := by
    rw [handler]
    decide
  cases message with
  | timeElapsed =>
      have released := invariant.written (Or.inr handler) (concluded rfl)
      have answered := invariant.answered
      unfold Answered at answered
      rw [handler] at answered
      refine ⟨{ state with
        operationCompleteCb := some .responseReceived
        handler := .shtRequestReading }, ?_, Or.inr rfl, ?_, nofun,
        fun _ => invariant.settled notStarted, ?_, nofun,
        fun _ => invariant.noReset other,
        fun _ => invariant.few (Or.inl other), nofun⟩
      · simp only [SensorController.shtRequestRestartedCb,
          sht4xReadRequestData, i2c3Transfer_eq released]
        rfl
      · rintro (reading | reading)
        · cases reading
        · cases reading
      · have none : answers state.queue = 0 := answered
        show 1 + answers state.queue ≤ 1
        omega
  | recoverableError => cases received
  | _ => exact keeps_ok (invariant.setReminderIfNeeded other _)

/-- The sensor is being read. -/
theorem Invariant.shtRequestReadingStateCb
    {message : QueuedMessage}
    (invariant : Invariant state)
    (handler : state.handler = .shtRequestReading)
    (received : receives message = true)
    (released :
      message.isAnswer = true →
        state.operationCompleteCb = none ∧ answers state.queue = 0) :
    Keeps (SensorController.shtRequestReadingStateCb state message) := by
  have other : state.handler ≠ .shtErrorHandler := by
    rw [handler]
    decide
  have notStarted : state.handler ≠ .shtRequestStarted := by
    rw [handler]
    decide
  have settled := invariant.settled notStarted
  have few := invariant.few (Or.inl other)
  have noReset := invariant.noReset other
  cases message with
  | sensorData =>
      obtain ⟨ended, none⟩ := released rfl
      refine ⟨{ state with
        consecutiveErrors := 0
        operationCompleteCb := some .requestCompleted
        handler := .shtRequestRestarted
        requestWrite := .notSent }, ?_, Or.inr rfl,
        fun _ notSent => absurd rfl notSent, nofun, fun _ => settled, none,
        nofun, fun _ => noReset, fun _ => Nat.zero_lt_succ 2, nofun⟩
      have starts :=
        @i2c3Transfer_eq
          { state with consecutiveErrors := 0, requestWrite := .notSent }
          ended .requestCompleted
      simp only [SensorController.shtRequestReadingStateCb,
        sht4xStartRequest, starts]
      rfl
  | sensorError =>
      exact ⟨_, handleError_eq few, invariant_failed settled noReset⟩
  | timeElapsed =>
      exact ⟨_, handleError_eq few, invariant_failed settled noReset⟩
  | recoverableError => cases received
  | _ => exact keeps_ok (invariant.setReminderIfNeeded other _)

/-- A general call reset was started. -/
theorem Invariant.shtErrorHandlerCb
    {message : QueuedMessage}
    (invariant : Invariant state)
    (handler : state.handler = .shtErrorHandler)
    (received : receives message = true)
    (released :
      message = .generalCallReset →
        pending state.operationCompleteCb +
          state.queue.count .generalCallReset +
            (if state.resetTimer then 1 else 0) = 0) :
    Keeps (SensorController.shtErrorHandlerCb state message) ∨
      SensorController.shtErrorHandlerCb state message =
        .error .sensorReadout := by
  cases message with
  | generalCallReset =>
      have total := released rfl
      obtain ⟨transfer, written, _, settled, _, _, _, _, noReminder⟩ :=
        invariant
      refine Or.inl ⟨_, rfl, transfer, written,
        fun started => absurd (handler.symm.trans started) nofun, settled,
        ?_, fun _ => ?_, fun other => absurd handler other,
        fun _ => Nat.zero_lt_succ 2, noReminder⟩
      · unfold Answered
        dsimp only
        rw [handler]
        trivial
      · dsimp only
        rw [if_pos rfl]
        omega
  | timeElapsed => exact Or.inr rfl
  | recoverableError => cases received
  | _ => exact Or.inl (keeps_ok invariant)

/-- A step that returns, or ends in the error of a failed reset. -/
def Goes (state : State) (outcome : Except Failure State) : Prop :=
  Keeps outcome ∨
    state.handler = .shtErrorHandler ∧ outcome = .error .sensorReadout

/-- A message keeps the invariant or ends in an error. -/
theorem Invariant.receive
    {message : QueuedMessage}
    (invariant : Invariant state)
    (noneLeft :
      message.StartsRequest → state.handler = .idle →
        .requestSent ∉ state.queue)
    (settled : message = .timeElapsed → Settled state)
    (led :
      message = .requestSent ∨ message = .sensorReady →
        state.handler = .shtRequestStarted → leads state = 0)
    (first :
      message = .sensorReady → state.handler = .shtRequestStarted →
        answers state.queue = 0)
    (concluded :
      message = .timeElapsed → state.handler = .shtRequestRestarted →
        state.requestWrite ≠ .notSent)
    (answer :
      message.isAnswer = true → state.handler = .shtRequestReading →
        state.operationCompleteCb = none ∧ answers state.queue = 0)
    (reset :
      message = .generalCallReset → state.handler = .shtErrorHandler →
        pending state.operationCompleteCb +
          state.queue.count .generalCallReset +
            (if state.resetTimer then 1 else 0) = 0) :
    Goes state (SensorController.receive state message) := by
  by_cases received : receives message = true
  · rw [SensorController.receive, if_pos received]
    cases handler : state.handler with
    | idle =>
        exact Or.inl (invariant.idleStateCb handler
          fun starts => noneLeft starts handler)
    | shtRequestStarted =>
        exact Or.inl (invariant.shtRequestStartedStateCb handler received
          settled (fun same => led same handler)
          fun same => first same handler)
    | shtRequestRestarted =>
        exact Or.inl (invariant.shtRequestRestartedCb handler received
          fun same => concluded same handler)
    | shtRequestReading =>
        exact Or.inl (invariant.shtRequestReadingStateCb handler received
          fun same => answer same handler)
    | shtErrorHandler =>
        exact (invariant.shtErrorHandlerCb handler received
          fun same => reset same handler).imp_right
          fun failed => ⟨handler, failed⟩
  · rw [SensorController.receive, if_neg received]
    exact Or.inl (keeps_ok invariant)

/-- A proper dispatch keeps the invariant or ends in an error. -/
theorem Invariant.dispatch
    {message : QueuedMessage}
    {rest : List QueuedMessage}
    (invariant : Invariant state)
    (queue : state.queue = message :: rest)
    (proper : Proper state .dispatch) :
    Goes state
      (SensorController.receive { state with queue := rest } message) := by
  have first : ∀ {other}, message = other →
      state.queue.head? = some other := by
    rintro other rfl
    rw [queue]
    rfl
  have kept := invariant.dequeue queue
  have before := leads_cons queue
  obtain ⟨_, _, paced, _, answered, reset, _, _, _⟩ := invariant
  unfold Answered at answered
  rw [queue] at answered reset
  refine kept.receive ?_ ?_ ?_ ?_
    (fun tick => proper.writeOver rfl (first tick)) ?_ ?_
  · intro starts handler
    have absent := proper.noneLeft rfl handler ⟨message, first rfl, starts⟩
    rw [queue, List.mem_cons, not_or] at absent
    exact absent.2
  · intro tick
    obtain ⟨stopped, absent⟩ := proper.readsFirst rfl (first tick)
    rw [queue, List.mem_cons, not_or] at absent
    exact ⟨stopped, absent.2⟩
  · intro leading handler
    have atMost := paced handler
    rcases leading with rfl | rfl
    · rw [if_pos rfl] at before
      omega
    · rw [if_pos rfl] at before
      omega
  · intro ready handler
    rw [show state.handler = .shtRequestStarted from handler] at answered
    exact answered.1 ready
  · intro answer handler
    rw [show state.handler = .shtRequestReading from handler] at answered
    dsimp only at answered
    rw [answers_cons, answer, if_pos rfl] at answered
    exact ⟨eq_none_of_pending (by dsimp only; omega), by dsimp only; omega⟩
  · intro isReset handler
    have total := reset handler
    rw [isReset, count_cons, if_pos rfl] at total
    dsimp only
    omega

/-- A proper step keeps the invariant or ends in an error. -/
theorem Invariant.step
    (invariant : Invariant state)
    {event : Event}
    (proper : Proper state event) :
    Goes state (SensorController.step state event) := by
  cases event with
  | publish input =>
      have notSent : input.message ≠ .requestSent := by
        cases input <;> decide
      refine Or.inl (keeps_ok (invariant.enqueue ?_ ?_ ?_
        fun sent => absurd sent notSent))
      all_goals cases input <;> decide
  | transferComplete crcMatches =>
      cases ongoing : state.operationCompleteCb with
      | none =>
          simp only [SensorController.step, ongoing]
          exact Or.inl (keeps_ok invariant)
      | some doneCb =>
          simp only [SensorController.step, ongoing]
          exact Or.inl
            (keeps_ok (invariant.transferComplete ongoing crcMatches))
  | transferError =>
      cases ongoing : state.operationCompleteCb with
      | none =>
          simp only [SensorController.step, ongoing]
          exact Or.inl (keeps_ok invariant)
      | some doneCb =>
          simp only [SensorController.step, ongoing]
          exact Or.inl (keeps_ok
            ((invariant.release _).enqueue rfl nofun nofun nofun))
  | sensorTimerElapsed =>
      by_cases running : state.sensorTimer = true
      · simp only [SensorController.step, if_pos running]
        exact Or.inl (keeps_ok (invariant.sensorTimerElapsed running))
      · simp only [SensorController.step, if_neg running]
        exact Or.inl (keeps_ok invariant)
  | resetTimerElapsed =>
      by_cases running : state.resetTimer = true
      · simp only [SensorController.step, if_pos running]
        obtain ⟨_, _, _, settled, _, reset, noReset, few, noReminder⟩ :=
          invariant
        have handler : state.handler = .shtErrorHandler := by
          refine Decidable.byContradiction fun other => ?_
          rw [(noReset other).2] at running
          cases running
        have notStarted : state.handler ≠ .shtRequestStarted := by
          rw [handler]
          decide
        have total := reset handler
        rw [if_pos running] at total
        have released : state.operationCompleteCb = none :=
          eq_none_of_pending (by omega)
        refine Or.inl (keeps_setIdleState released (settled notStarted)
          ⟨?_, rfl⟩ (noReminder handler) (few (Or.inr running)))
        rw [← List.count_eq_zero]
        dsimp only
        omega
      · simp only [SensorController.step, if_neg running]
        exact Or.inl (keeps_ok invariant)
  | dispatch =>
      cases queue : state.queue with
      | nil =>
          simp only [SensorController.step, queue]
          exact Or.inl (keeps_ok invariant)
      | cons message rest =>
          simp only [SensorController.step, queue]
          exact invariant.dispatch queue proper

end Steps

/-- The controller starts with the invariant. -/
theorem invariant_static : Invariant static := by
  refine ⟨Or.inl rfl, fun _ _ => rfl, nofun, fun _ => ⟨rfl, nofun⟩, trivial,
    nofun, fun _ => ⟨nofun, rfl⟩, fun _ => ?_, nofun⟩
  decide

/-- A proper run keeps the invariant or ends in an error. -/
theorem invariant_run
    {events : List Event}
    {outcome : Except Failure State}
    (run : Run (system.restrict (Always Proper)) events outcome) :
    Keeps outcome ∨ outcome = .error .sensorReadout := by
  refine @Run.invariant _ _ _
    (fun outcome => Keeps outcome ∨ outcome = .error .sensorReadout)
    ?_ ?_ _ _ run
  · rintro outcome rfl
    exact Or.inl (keeps_ok invariant_static)
  · rintro outcome event next (⟨state, rfl, invariant⟩ | rfl)
      ⟨moves, proper⟩
    · cases moves
      exact (invariant.step (proper state rfl)).imp_right And.right
    · cases moves
      exact Or.inr rfl

end DemoBoard.SensorController
