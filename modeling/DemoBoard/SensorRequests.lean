import DemoBoard.SensorController

namespace DemoBoard.SensorRequests

open SensorController (State Handler QueuedMessage Event Failure
  i2c3Release i2c3Transfer maxConsecutiveErrors receives)

open TransitionRuns

/-!
# Requests to the sensor

The commands of `app_service/sensor/Sht4x.c` and the messages that answer them,
over the handlers of `app_service/sensor/SensorController.c`.  Without commands
the handlers take the steps of the sensor controller.
-/

/-- `Sht4x_Commands_t` -/
inductive Sht4xCommand where
  | readSerialNumber
  | lowRepeatabilityMeasurement
  | highRepeatabilityMeasurement
  deriving Repr, DecidableEq

/-- The response in `_communicationBuffer`. -/
abbrev Response := Fin 6 → UInt8

/-- The values in `data` of `Sht4x_SensorMessage_t`. -/
inductive SensorData where
  | measurement (temperatureTicks humidityTicks : UInt16)
  | serialNumber (serialNumber : UInt32)
  deriving Repr, DecidableEq

/-- `ExtractSerialNumber` -/
def extractSerialNumber (data : Response) : SensorData :=
  .serialNumber
    ((data 0).toUInt32 <<< 24 ||| (data 1).toUInt32 <<< 16 |||
      (data 3).toUInt32 <<< 8 ||| (data 4).toUInt32)

/-- `ExtractMeasurementValues` -/
def extractMeasurementValues (data : Response) : SensorData :=
  .measurement ((data 0).toUInt16 <<< 8 ||| (data 1).toUInt16)
    ((data 3).toUInt16 <<< 8 ||| (data 4).toUInt16)

/-- `evaluateCb` of `_commandMetaData` -/
def evaluateCb : Sht4xCommand → Response → SensorData
  | .readSerialNumber => extractSerialNumber
  | .lowRepeatabilityMeasurement => extractMeasurementValues
  | .highRepeatabilityMeasurement => extractMeasurementValues

/-- A message `SHT4X_MESSAGE_ID_SENSOR_DATA` and where it comes from. -/
structure SensorMessage where
  parameter1 : Option Sht4xCommand
  /-- The command whose `evaluateCb` decoded the response. -/
  evaluated : Option Sht4xCommand
  response : Response
  data : Option SensorData

/-- The controller, the variables of the requests and their history. -/
structure RequestState where
  controller : State
  /-- `_command` -/
  command : Option Sht4xCommand
  /-- `_sht4xMessage.head.parameter1` -/
  parameter1 : Option Sht4xCommand
  /-- The commands of `Sht4x_StartRequest`. -/
  requests : List Sht4xCommand
  /-- The messages with sensor data that were handled. -/
  handledData : Nat
  /-- The messages with sensor data that were published. -/
  published : List SensorMessage

namespace RequestState

/-- The controller goes on and starts no request. -/
def lift
    (state : RequestState) (outcome : Except Failure State) :
    Except Failure RequestState :=
  outcome.map fun controller => { state with controller := controller }

/-- Another handler becomes the current one. -/
def withHandler (state : RequestState) (handler : Handler) :
    RequestState :=
  { state with controller := { state.controller with handler := handler } }

end RequestState

/-- `Sht4x_StartRequest` -/
def sht4xStartRequest (state : RequestState) (command : Sht4xCommand) :
    Except Failure RequestState :=
  RequestState.lift
    { state with
      command := some command
      requests := state.requests ++ [command] }
    (SensorController.sht4xStartRequest state.controller)

/-- `IdleStateCb` -/
def idleStateCb (state : RequestState) :
    QueuedMessage → Except Failure RequestState
  | .bleSubsystemReady => do
      let started ← sht4xStartRequest state .readSerialNumber
      .ok (started.withHandler .shtRequestStarted)
  | .timeElapsed => do
      let started ← sht4xStartRequest state .highRepeatabilityMeasurement
      .ok (started.withHandler .shtRequestStarted)
  | _ => .ok state

/-- `SetIdleState` -/
def setIdleState (state : RequestState) : Except Failure RequestState :=
  let idle := state.withHandler .idle
  if idle.controller.activeReminder then do
    let reminded ← idleStateCb idle .bleSubsystemReady
    .ok
      { reminded with
        controller := { reminded.controller with activeReminder := false } }
  else
    .ok idle

/-- `HandleError` -/
def handleError (state : RequestState) : Except Failure RequestState :=
  -- make sure that no history is pending
  let released :=
    i2c3Release { state.controller with activeReminder := false }
  let counted :=
    { released with
      consecutiveErrors := (released.consecutiveErrors + 1) % 256 }
  if counted.consecutiveErrors ≥ maxConsecutiveErrors then
    state.lift
      (i2c3Transfer { counted with handler := .shtErrorHandler }
        .generalCallResetSent)
  else
    -- just ignore the error and try in the next readout
    setIdleState { state with controller := counted }

/-- `ShtRequestStartedStateCb` -/
def shtRequestStartedStateCb (state : RequestState) :
    QueuedMessage → Except Failure RequestState
  | .timeElapsed => handleError state
  | .recoverableError => handleError state
  | message =>
      state.lift
        (SensorController.shtRequestStartedStateCb state.controller message)

/-- `ShtRequestRestartedCb` -/
def shtRequestRestartedCb (state : RequestState) :
    QueuedMessage → Except Failure RequestState
  | .recoverableError => handleError state
  | message =>
      state.lift
        (SensorController.shtRequestRestartedCb state.controller message)

/-- `ShtRequestReadingStateCb` -/
def shtRequestReadingStateCb (state : RequestState) :
    QueuedMessage → Except Failure RequestState
  | .sensorData => do
      let started ←
        sht4xStartRequest
          { state with
            controller := { state.controller with consecutiveErrors := 0 }
            handledData := state.handledData + 1 }
          .highRepeatabilityMeasurement
      .ok (started.withHandler .shtRequestRestarted)
  | .sensorError => handleError state
  | .timeElapsed => handleError state
  | .recoverableError => handleError state
  | message =>
      state.lift
        (SensorController.shtRequestReadingStateCb state.controller message)

/-- The controller is called with a message. -/
def receive (state : RequestState) (message : QueuedMessage) :
    Except Failure RequestState :=
  if receives message then
    match state.controller.handler with
    | .idle => idleStateCb state message
    | .shtRequestStarted => shtRequestStartedStateCb state message
    | .shtRequestRestarted => shtRequestRestartedCb state message
    | .shtRequestReading => shtRequestReadingStateCb state message
    | .shtErrorHandler =>
        state.lift
          (SensorController.shtErrorHandlerCb state.controller message)
  else
    .ok state

/-- `RequestCompleted`, before the message is published. -/
def requestCompleted (state : RequestState) : RequestState :=
  { state with parameter1 := state.command }

/-- `ResponseReceived`, when the check sums match. -/
def responseReceived (state : RequestState) (response : Response) :
    RequestState :=
  { state with
    published := state.published ++
      [{ parameter1 := state.parameter1
         evaluated := state.command
         response := response
         data := state.command.map (evaluateCb · response) }] }

/-- An event and the bytes on the bus. -/
structure BusEvent where
  event : Event
  response : Response

/-- A step of the system. -/
def step (state : RequestState) (bus : BusEvent) :
    Except Failure RequestState :=
  match bus.event with
  | .transferComplete crcMatches =>
      let answered :=
        match state.controller.operationCompleteCb with
        | some .requestCompleted => requestCompleted state
        | some .responseReceived =>
            if crcMatches then
              responseReceived state bus.response
            else
              state
        | _ => state
      answered.lift (SensorController.step state.controller bus.event)
  | .resetTimerElapsed =>
      if state.controller.resetTimer then
        setIdleState
          { state with
            controller := { state.controller with resetTimer := false } }
      else
        .ok state
  | .dispatch =>
      match state.controller.queue with
      | [] => .ok state
      | message :: rest =>
          receive
            { state with
              controller := { state.controller with queue := rest } }
            message
  | event => state.lift (SensorController.step state.controller event)

/-- The initial values. -/
def static : RequestState where
  controller := SensorController.static
  command := none
  parameter1 := none
  requests := []
  handledData := 0
  published := []

/-- Runs from the start of the device on; a failure ends them. -/
def system : System (Except Failure RequestState) BusEvent where
  start := fun outcome => outcome = .ok static
  step := fun outcome bus next => (outcome >>= (step · bus)) = next

/-! The controller takes the steps that it takes without commands. -/

section Controller

variable {state : RequestState}

theorem lift_controller (outcome : Except Failure State) :
    (state.lift outcome).map RequestState.controller = outcome := by
  cases outcome <;> rfl

/-- The request of a handler, and the next handler. -/
theorem startedWith_controller
    (command : Sht4xCommand)
    (handler : Handler) :
    ((sht4xStartRequest state command).bind fun started =>
        .ok (started.withHandler handler)).map RequestState.controller =
      (SensorController.sht4xStartRequest state.controller).bind
        fun started => .ok { started with handler := handler } := by
  rw [sht4xStartRequest]
  cases SensorController.sht4xStartRequest state.controller <;> rfl

theorem idleStateCb_controller (message : QueuedMessage) :
    (idleStateCb state message).map RequestState.controller =
      SensorController.idleStateCb state.controller message := by
  cases message with
  | bleSubsystemReady => exact startedWith_controller _ _
  | timeElapsed => exact startedWith_controller _ _
  | _ => rfl

theorem setIdleState_controller :
    (setIdleState state).map RequestState.controller =
      SensorController.setIdleState state.controller := by
  have idle := @idleStateCb_controller (state.withHandler .idle)
    .bleSubsystemReady
  have shape : setIdleState state =
      if state.controller.activeReminder then
        (idleStateCb (state.withHandler .idle) .bleSubsystemReady).bind
          fun reminded => .ok
            { reminded with
              controller :=
                { reminded.controller with activeReminder := false } }
      else
        .ok (state.withHandler .idle) := rfl
  have base : SensorController.setIdleState state.controller =
      if state.controller.activeReminder then
        (SensorController.idleStateCb
            (state.withHandler .idle).controller .bleSubsystemReady).bind
          fun reminded => .ok { reminded with activeReminder := false }
      else
        .ok (state.withHandler .idle).controller := rfl
  rw [shape, base, ← idle]
  split
  · cases idleStateCb (state.withHandler .idle) .bleSubsystemReady <;> rfl
  · rfl

theorem handleError_controller :
    (handleError state).map RequestState.controller =
      SensorController.handleError state.controller := by
  rw [handleError, SensorController.handleError]
  dsimp only
  split
  · exact lift_controller _
  · exact setIdleState_controller

theorem receive_controller (message : QueuedMessage) :
    (receive state message).map RequestState.controller =
      SensorController.receive state.controller message := by
  rw [receive, SensorController.receive]
  split
  · cases state.controller.handler with
    | idle => exact idleStateCb_controller message
    | shtRequestStarted =>
        cases message with
        | timeElapsed => exact handleError_controller
        | recoverableError => exact handleError_controller
        | _ => exact lift_controller _
    | shtRequestRestarted =>
        cases message with
        | recoverableError => exact handleError_controller
        | _ => exact lift_controller _
    | shtRequestReading =>
        cases message with
        | sensorData => exact startedWith_controller _ _
        | sensorError => exact handleError_controller
        | timeElapsed => exact handleError_controller
        | recoverableError => exact handleError_controller
        | _ => exact lift_controller _
    | shtErrorHandler => exact lift_controller _
  · rfl

/-- The controller of a step is the step of the controller. -/
theorem step_controller (bus : BusEvent) :
    (step state bus).map RequestState.controller =
      SensorController.step state.controller bus.event := by
  obtain ⟨event, response⟩ := bus
  cases event with
  | resetTimerElapsed =>
      rw [step, SensorController.step]
      dsimp only
      split
      · exact setIdleState_controller
      · rfl
  | dispatch =>
      rw [step, SensorController.step]
      dsimp only
      cases state.controller.queue with
      | nil => rfl
      | cons message rest => exact receive_controller message
  | _ => exact lift_controller _

/-- A run of the requests is a run of the controller. -/
theorem run_controller
    {labels : List BusEvent}
    {outcome : Except Failure RequestState}
    (run : Run system labels outcome) :
    Run SensorController.system (labels.map BusEvent.event)
      (outcome.map RequestState.controller) := by
  induction run with
  | start starts =>
      rw [starts]
      exact .start rfl
  | step run bus moves inductionHypothesis =>
      rw [List.map_append]
      refine .step inductionHypothesis bus.event ?_
      rw [← moves]
      rename_i labels before _
      cases before with
      | error failure => rfl
      | ok state => exact (step_controller bus).symm

end Controller

/-! What a step can do. -/

/-- A message on which a read is started. -/
def StartsRead (handler : Handler) (message : QueuedMessage) : Prop :=
  handler = .shtRequestStarted ∧ message = .sensorReady ∨
    handler = .shtRequestRestarted ∧ message = .timeElapsed

/-- A message that leads to `HandleError`. -/
def Fails (handler : Handler) (message : QueuedMessage) : Prop :=
  handler = .shtRequestStarted ∧ message = .timeElapsed ∨
    handler = .shtRequestReading ∧
      (message = .timeElapsed ∨ message = .sensorError)

/-- A message that sets a flag of the controller at most. -/
structure Noted (controller after : State) : Prop where
  handler_eq : after.handler = controller.handler
  transfer_eq : after.operationCompleteCb = controller.operationCompleteCb
  queue_eq : after.queue = controller.queue
  reminder : controller.activeReminder = true →
    after.activeReminder = true
  reminded : after.activeReminder = true →
    controller.activeReminder = true ∨
      controller.handler ≠ .idle ∧ controller.handler ≠ .shtErrorHandler
  reset : after.resetTimer = true →
    controller.resetTimer = true ∨ controller.handler = .shtErrorHandler
  write_eq : after.requestWrite = controller.requestWrite

/-- What `HandleError` leaves behind. -/
structure GaveUp (controller after : State) : Prop where
  handler : after.handler = .idle ∨ after.handler = .shtErrorHandler
  noRead : after.operationCompleteCb ≠ some .responseReceived
  noWrite : after.operationCompleteCb ≠ some .requestCompleted
  noReminder : after.activeReminder = false
  queue_eq : after.queue = controller.queue
  reset_eq : after.resetTimer = controller.resetTimer
  write_eq : after.requestWrite = controller.requestWrite

/-- The state after `Sht4x_StartRequest`. -/
def started
    (state : RequestState) (command : Sht4xCommand) (handler : Handler) :
    RequestState :=
  { state with
    controller :=
      { state.controller with
        operationCompleteCb := some .requestCompleted
        handler := handler
        requestWrite := .notSent }
    command := some command
    requests := state.requests ++ [command] }

/-- What the controller does with a message. -/
inductive Received (state : RequestState) (message : QueuedMessage) :
    RequestState → Prop where
  | noted
      {controller : State}
      (noted : Noted state.controller controller)
      (timer : controller.sensorTimer = true →
        state.controller.sensorTimer = true ∨ message = .requestSent) :
      Received state message { state with controller := controller }
  | reads
      (startsRead : StartsRead state.controller.handler message) :
      Received state message
        { state with
          controller :=
            { state.controller with
              operationCompleteCb := some .responseReceived
              handler := .shtRequestReading } }
  | requests
      {command : Sht4xCommand}
      (idle : state.controller.handler = .idle)
      (starts : message.StartsRequest)
      (serialNumber : command = .readSerialNumber →
        message = .bleSubsystemReady) :
      Received state message (started state command .shtRequestStarted)
  | restarts
      (reading : state.controller.handler = .shtRequestReading)
      (data : message = .sensorData) :
      Received state message
        (started
          { state with
            controller := { state.controller with consecutiveErrors := 0 }
            handledData := state.handledData + 1 }
          .highRepeatabilityMeasurement .shtRequestRestarted)
  | failed
      {controller : State}
      (fails : Fails state.controller.handler message)
      (gaveUp : GaveUp state.controller controller) :
      Received state message { state with controller := controller }

section Cases

variable {state next : RequestState}

theorem lift_eq_ok
    {outcome : Except Failure State}
    (lifted : state.lift outcome = .ok next) :
    ∃ controller,
      outcome = .ok controller ∧
        next = { state with controller := controller } := by
  cases outcome with
  | error failure => cases lifted
  | ok controller =>
      cases lifted
      exact ⟨controller, rfl, rfl⟩

/-- A request that is started. -/
theorem startedWith_eq_ok
    {command : Sht4xCommand}
    {handler : Handler}
    (outcome :
      ((sht4xStartRequest state command).bind fun request =>
        .ok (request.withHandler handler)) = .ok next) :
    next = started state command handler := by
  obtain ⟨request, requested, done⟩ := bind_eq_ok outcome
  obtain ⟨controller, transfer, rfl⟩ := lift_eq_ok requested
  rw [SensorController.sht4xStartRequest, i2c3Transfer] at transfer
  split at transfer
  · cases transfer
    cases done
    rfl
  · cases transfer

/-- A read that is started. -/
theorem reading_eq_ok
    {controller after : State}
    (outcome :
      ((SensorController.sht4xReadRequestData controller).bind
        fun reading =>
          .ok { reading with handler := .shtRequestReading }) =
        .ok after) :
    after =
      { controller with
        operationCompleteCb := some .responseReceived
        handler := .shtRequestReading } := by
  obtain ⟨reading, transfer, done⟩ := bind_eq_ok outcome
  rw [SensorController.sht4xReadRequestData, i2c3Transfer] at transfer
  split at transfer
  · cases transfer
    cases done
    rfl
  · cases transfer

theorem handleError_eq_ok
    (handled : handleError state = .ok next) :
    ∃ controller,
      GaveUp state.controller controller ∧
        next = { state with controller := controller } := by
  rw [handleError] at handled
  dsimp only at handled
  split at handled
  · obtain ⟨controller, transfer, rfl⟩ := lift_eq_ok handled
    rw [i2c3Transfer] at transfer
    split at transfer
    · cases transfer
      refine ⟨_, ?_, rfl⟩
      exact ⟨Or.inr rfl, nofun, nofun, rfl, rfl, rfl, rfl⟩
    · cases transfer
  · have idle := (Except.ok.inj handled).symm
    rw [idle]
    refine ⟨_, ?_, rfl⟩
    exact ⟨Or.inl rfl, nofun, nofun, rfl, rfl, rfl, rfl⟩

theorem noted_refl (controller : State) : Noted controller controller :=
  ⟨rfl, rfl, rfl, id, Or.inl, Or.inl, rfl⟩

theorem received_same (message : QueuedMessage) :
    Received state message state :=
  .noted (noted_refl state.controller) Or.inl

theorem received_reminder
    {message : QueuedMessage}
    (inProgress : state.controller.handler ≠ .idle ∧
      state.controller.handler ≠ .shtErrorHandler) :
    Received state message
      { state with
        controller :=
          SensorController.setReminderIfNeeded state.controller
            message } := by
  rw [SensorController.setReminderIfNeeded]
  split
  · exact .noted
      ⟨rfl, rfl, rfl, fun _ => rfl, fun _ => Or.inr inProgress, Or.inl, rfl⟩
      Or.inl
  · exact received_same message

/-- `IdleStateCb` -/
theorem received_idle
    {message : QueuedMessage}
    (handler : state.controller.handler = .idle)
    (received : idleStateCb state message = .ok next) :
    Received state message next := by
  cases message with
  | bleSubsystemReady =>
      rw [startedWith_eq_ok received]
      exact .requests handler (Or.inr rfl) fun _ => rfl
  | timeElapsed =>
      rw [startedWith_eq_ok received]
      exact .requests handler (Or.inl rfl) nofun
  | _ =>
      cases received
      exact received_same _

/-- `ShtRequestStartedStateCb` -/
theorem received_started
    {message : QueuedMessage}
    (handler : state.controller.handler = .shtRequestStarted)
    (known : message ≠ .recoverableError)
    (received : shtRequestStartedStateCb state message = .ok next) :
    Received state message next := by
  have reminder := @received_reminder state message
    ⟨by rw [handler]; decide, by rw [handler]; decide⟩
  cases message with
  | timeElapsed =>
      obtain ⟨controller, gaveUp, rfl⟩ := handleError_eq_ok received
      exact .failed (Or.inl ⟨handler, rfl⟩) gaveUp
  | recoverableError => exact absurd rfl known
  | requestSent =>
      cases received
      exact .noted ⟨rfl, rfl, rfl, id, Or.inl, Or.inl, rfl⟩
        fun _ => Or.inr rfl
  | sensorReady =>
      obtain ⟨controller, reading, rfl⟩ := lift_eq_ok received
      rw [reading_eq_ok reading]
      exact .reads (Or.inl ⟨handler, rfl⟩)
  | _ =>
      cases received
      exact reminder

/-- `ShtRequestRestartedCb` -/
theorem received_restarted
    {message : QueuedMessage}
    (handler : state.controller.handler = .shtRequestRestarted)
    (known : message ≠ .recoverableError)
    (received : shtRequestRestartedCb state message = .ok next) :
    Received state message next := by
  have reminder := @received_reminder state message
    ⟨by rw [handler]; decide, by rw [handler]; decide⟩
  cases message with
  | timeElapsed =>
      obtain ⟨controller, reading, rfl⟩ := lift_eq_ok received
      rw [reading_eq_ok reading]
      exact .reads (Or.inr ⟨handler, rfl⟩)
  | recoverableError => exact absurd rfl known
  | _ =>
      cases received
      exact reminder

/-- `ShtRequestReadingStateCb` -/
theorem received_reading
    {message : QueuedMessage}
    (handler : state.controller.handler = .shtRequestReading)
    (known : message ≠ .recoverableError)
    (received : shtRequestReadingStateCb state message = .ok next) :
    Received state message next := by
  have reminder := @received_reminder state message
    ⟨by rw [handler]; decide, by rw [handler]; decide⟩
  cases message with
  | sensorData =>
      rw [startedWith_eq_ok received]
      exact .restarts handler rfl
  | sensorError =>
      obtain ⟨controller, gaveUp, rfl⟩ := handleError_eq_ok received
      exact .failed (Or.inr ⟨handler, Or.inr rfl⟩) gaveUp
  | timeElapsed =>
      obtain ⟨controller, gaveUp, rfl⟩ := handleError_eq_ok received
      exact .failed (Or.inr ⟨handler, Or.inl rfl⟩) gaveUp
  | recoverableError => exact absurd rfl known
  | _ =>
      cases received
      exact reminder

/-- `ShtErrorHandlerCb` -/
theorem received_error
    {message : QueuedMessage}
    (handler : state.controller.handler = .shtErrorHandler)
    (received :
      state.lift
          (SensorController.shtErrorHandlerCb state.controller message) =
        .ok next) :
    Received state message next := by
  obtain ⟨controller, done, rfl⟩ := lift_eq_ok received
  cases message with
  | generalCallReset =>
      cases done
      exact .noted
        ⟨rfl, rfl, rfl, id, Or.inl, fun _ => Or.inr handler, rfl⟩ Or.inl
  | timeElapsed => cases done
  | recoverableError => cases done
  | _ =>
      cases done
      exact received_same _

/-- The controller does nothing else. -/
theorem received_of_receive
    {message : QueuedMessage}
    (received : receive state message = .ok next) :
    Received state message next := by
  rw [receive] at received
  split at received
  · next known =>
      have other : message ≠ .recoverableError := by
        simpa [receives] using known
      cases handler : state.controller.handler with
      | idle =>
          rw [handler] at received
          exact received_idle handler received
      | shtRequestStarted =>
          rw [handler] at received
          exact received_started handler other received
      | shtRequestRestarted =>
          rw [handler] at received
          exact received_restarted handler other received
      | shtRequestReading =>
          rw [handler] at received
          exact received_reading handler other received
      | shtErrorHandler =>
          rw [handler] at received
          exact received_error handler received
  · cases received
    exact received_same _

/-- The first message reaches the controller. -/
theorem dispatch_eq_ok
    {response : Response}
    (stepped : step state ⟨.dispatch, response⟩ = .ok next) :
    next = state ∨
      ∃ message rest,
        state.controller.queue = message :: rest ∧
          Received
            { state with
              controller := { state.controller with queue := rest } }
            message next := by
  rw [step] at stepped
  dsimp only at stepped
  split at stepped
  · cases stepped
    exact Or.inl rfl
  · next message rest queue =>
      exact Or.inr ⟨message, rest, queue, received_of_receive stepped⟩

/-- Events that the handlers do not see. -/
structure Unseen (state next : RequestState) : Prop where
  handler_eq : next.controller.handler = state.controller.handler
  reminder_eq :
    next.controller.activeReminder = state.controller.activeReminder
  reset_eq : next.controller.resetTimer = state.controller.resetTimer
  command_eq : next.command = state.command
  requests_eq : next.requests = state.requests
  handledData_eq : next.handledData = state.handledData
  /-- Nothing starts, a transfer may end. -/
  transfer :
    next.controller.operationCompleteCb = none ∨
      next.controller.operationCompleteCb =
        state.controller.operationCompleteCb

theorem unseen_of_step
    {bus : BusEvent}
    (noDispatch : bus.event ≠ .dispatch)
    (noReset : bus.event ≠ .resetTimerElapsed)
    (stepped : step state bus = .ok next) :
    Unseen state next := by
  obtain ⟨event, response⟩ := bus
  cases event with
  | dispatch => exact absurd rfl noDispatch
  | resetTimerElapsed => exact absurd rfl noReset
  | publish input =>
      cases stepped
      exact ⟨rfl, rfl, rfl, rfl, rfl, rfl, Or.inr rfl⟩
  | transferComplete crcMatches =>
      rw [step, SensorController.step] at stepped
      dsimp only at stepped
      cases ongoing : state.controller.operationCompleteCb with
      | none =>
          rw [ongoing] at stepped
          cases stepped
          exact ⟨rfl, rfl, rfl, rfl, rfl, rfl, Or.inr rfl⟩
      | some doneCb =>
          rw [ongoing] at stepped
          cases doneCb with
          | responseReceived =>
              cases crcMatches with
              | false =>
                  cases stepped
                  exact ⟨rfl, rfl, rfl, rfl, rfl, rfl, Or.inl rfl⟩
              | true =>
                  cases stepped
                  exact ⟨rfl, rfl, rfl, rfl, rfl, rfl, Or.inl rfl⟩
          | _ =>
              cases stepped
              exact ⟨rfl, rfl, rfl, rfl, rfl, rfl, Or.inl rfl⟩
  | transferError =>
      obtain ⟨controller, moved, rfl⟩ := lift_eq_ok stepped
      rw [SensorController.step] at moved
      split at moved
      · cases moved
        exact ⟨rfl, rfl, rfl, rfl, rfl, rfl, Or.inr rfl⟩
      · cases moved
        exact ⟨rfl, rfl, rfl, rfl, rfl, rfl, Or.inl rfl⟩
  | sensorTimerElapsed =>
      obtain ⟨controller, moved, rfl⟩ := lift_eq_ok stepped
      rw [SensorController.step] at moved
      split at moved
      · cases moved
        exact ⟨rfl, rfl, rfl, rfl, rfl, rfl, Or.inr rfl⟩
      · cases moved
        exact ⟨rfl, rfl, rfl, rfl, rfl, rfl, Or.inr rfl⟩

end Cases

end DemoBoard.SensorRequests
