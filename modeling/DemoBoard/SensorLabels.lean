import DemoBoard.SensorReminder

namespace DemoBoard.SensorRequests

open SensorController (State Handler QueuedMessage Event Failure)

open TransitionRuns

/-!
# Labels of sensor data

A message with sensor data is labelled with the command whose write was
complete last, and it is decoded for the command that was requested last.  The
two agree as long as every read follows the write of its request.
-/

/-- What leads a started request to its read. -/
def LeadsToRead (controller : State) : Prop :=
  .requestSent ∈ controller.queue ∨ controller.sensorTimer = true ∨
    .sensorReady ∈ controller.queue

/--
The write of a request is complete before a tick reads its response, and a
request starts when nothing is left that led to the read of the one before.
-/
structure ReadsSent (controller : State) (event : Event) : Prop where
  writeSent :
    event = .dispatch → controller.queue.head? = some .timeElapsed →
      controller.handler = .shtRequestRestarted →
        controller.requestWrite = .sent
  noneLeft :
    event = .dispatch → controller.handler = .idle →
      (∃ message ∈ controller.queue.head?, message.StartsRequest) →
        ¬LeadsToRead controller

/-- The condition on the steps of a run. -/
def Proper (outcome : Except Failure RequestState) (bus : BusEvent) : Prop :=
  ∀ state, outcome = .ok state → ReadsSent state.controller bus.event

/-- The event starts a read. -/
def ReadStarts (controller : State) (event : Event) : Prop :=
  event = .dispatch ∧
    ∃ message ∈ controller.queue.head?, StartsRead controller.handler message

/-- The label is the command whose `evaluateCb` decoded the response. -/
def Labelled (message : SensorMessage) : Prop :=
  ∃ command,
    message.parameter1 = some command ∧
      message.evaluated = some command ∧
      message.data = some (evaluateCb command message.response)

/-- What the write of the current request says about its read. -/
structure Written (state : RequestState) : Prop where
  sent :
    state.controller.requestWrite = .sent → state.parameter1 = state.command
  ongoing :
    state.controller.operationCompleteCb = some .requestCompleted →
      state.controller.requestWrite = .notSent
  led :
    state.controller.handler = .shtRequestStarted →
      LeadsToRead state.controller → state.controller.requestWrite = .sent

/-- A request that is open has a command. -/
structure Commanded (state : RequestState) : Prop where
  requested : state.controller.handler ≠ .idle →
    state.controller.handler ≠ .shtErrorHandler → state.command ≠ none
  reading :
    state.controller.operationCompleteCb = some .responseReceived →
      state.command ≠ none

/-- What holds between two events. -/
structure Labels (state : RequestState) : Prop where
  reading :
    state.controller.operationCompleteCb = some .responseReceived →
      state.parameter1 = state.command
  published : ∀ message ∈ state.published, Labelled message

section Steps

variable {state next : RequestState}

/-- The label tells measurements and serial numbers apart. -/
theorem Labelled.kind
    {message : SensorMessage}
    (labelled : Labelled message) :
    (∃ number, message.data = some (.serialNumber number)) ↔
      message.parameter1 = some .readSerialNumber := by
  obtain ⟨command, parameter1, _, data⟩ := labelled
  rw [parameter1, data]
  cases command with
  | readSerialNumber => exact ⟨fun _ => rfl, fun _ => ⟨_, rfl⟩⟩
  | lowRepeatabilityMeasurement =>
      exact ⟨fun ⟨_, same⟩ => (by cases same), nofun⟩
  | highRepeatabilityMeasurement =>
      exact ⟨fun ⟨_, same⟩ => (by cases same), nofun⟩

/-- A read that is complete publishes what was decoded. -/
theorem transferComplete_response
    {response : Response}
    (reading :
      state.controller.operationCompleteCb = some .responseReceived) :
    step state ⟨.transferComplete true, response⟩ =
      .ok
        { state with
          controller :=
            { state.controller with
              operationCompleteCb := none
              queue := state.controller.queue ++ [.sensorData] }
          published := state.published ++
            [{ parameter1 := state.parameter1
               evaluated := state.command
               response := response
               data := state.command.map (evaluateCb · response) }] } := by
  rw [step, SensorController.step]
  dsimp only
  rw [reading]
  rfl

/-- A message on which a read starts finds a request open. -/
theorem StartsRead.inProgress
    {handler : Handler}
    {message : QueuedMessage}
    (startsRead : StartsRead handler message) :
    handler ≠ .idle ∧ handler ≠ .shtErrorHandler := by
  rcases startsRead with ⟨started, _⟩ | ⟨restarted, _⟩
  · exact ⟨started.symm ▸ nofun, started.symm ▸ nofun⟩
  · exact ⟨restarted.symm ▸ nofun, restarted.symm ▸ nofun⟩

/-- Every step keeps the commands of open requests. -/
theorem commanded_step
    {bus : BusEvent}
    (pending : Pending state.controller)
    (commanded : Commanded state)
    (stepped : step state bus = .ok next) :
    Commanded next := by
  obtain ⟨event, response⟩ := bus
  by_cases dispatch : event = .dispatch
  · subst dispatch
    obtain rfl | ⟨message, rest, queue, received⟩ := dispatch_eq_ok stepped
    · exact commanded
    · cases received with
      | noted noted _ =>
          constructor
          · rw [noted.handler_eq]
            exact commanded.requested
          · rw [noted.transfer_eq]
            exact commanded.reading
      | reads startsRead =>
          obtain ⟨notIdle, notError⟩ := startsRead.inProgress
          have some := commanded.requested notIdle notError
          exact ⟨fun _ _ => some, fun _ => some⟩
      | requests _ _ _ => exact ⟨nofun, nofun⟩
      | restarts _ _ => exact ⟨nofun, nofun⟩
      | failed _ gaveUp =>
          refine ⟨fun notIdle notError => ?_,
            fun reading => absurd reading gaveUp.noRead⟩
          rcases gaveUp.handler with idle | error
          · exact absurd idle notIdle
          · exact absurd error notError
  · by_cases reset : event = .resetTimerElapsed
    · subst reset
      obtain rfl | ⟨_, rfl⟩ := resetTimerElapsed_eq_ok pending stepped
      · exact commanded
      · exact ⟨fun notIdle => absurd rfl notIdle, commanded.reading⟩
    · have unseen := unseen_of_step dispatch reset stepped
      constructor
      · rw [unseen.handler_eq, unseen.command_eq]
        exact commanded.requested
      · rw [unseen.command_eq]
        rcases unseen.transfer with ended | same
        · rw [ended]
          nofun
        · rw [same]
          exact commanded.reading

theorem labels_transferComplete
    {crcMatches : Bool}
    {response : Response}
    (commanded : Commanded state)
    (labels : Labels state)
    (stepped :
      step state ⟨.transferComplete crcMatches, response⟩ = .ok next) :
    Labels next := by
  cases ongoing : state.controller.operationCompleteCb with
  | none =>
      rw [step, SensorController.step] at stepped
      dsimp only at stepped
      rw [ongoing] at stepped
      cases stepped
      exact labels
  | some doneCb =>
      cases doneCb with
      | responseReceived =>
          cases crcMatches with
          | false =>
              rw [step, SensorController.step] at stepped
              dsimp only at stepped
              rw [ongoing] at stepped
              cases stepped
              exact ⟨(by rintro ⟨⟩), labels.published⟩
          | true =>
              rw [transferComplete_response ongoing] at stepped
              cases stepped
              refine ⟨(by rintro ⟨⟩), ?_⟩
              intro message member
              rcases List.mem_append.mp member with before | last
              · exact labels.published message before
              · rw [List.mem_singleton.mp last]
                obtain ⟨command, isCommand⟩ :=
                  Option.ne_none_iff_exists'.mp (commanded.reading ongoing)
                refine ⟨command, (labels.reading ongoing).trans isCommand,
                  isCommand, ?_⟩
                dsimp only
                rw [isCommand]
                rfl
      | requestCompleted =>
          rw [step, SensorController.step] at stepped
          dsimp only at stepped
          rw [ongoing] at stepped
          cases stepped
          exact ⟨(by rintro ⟨⟩), labels.published⟩
      | generalCallResetSent =>
          rw [step, SensorController.step] at stepped
          dsimp only at stepped
          rw [ongoing] at stepped
          cases stepped
          exact ⟨(by rintro ⟨⟩), labels.published⟩

/-- What leads to a read after a message did so before it. -/
theorem LeadsToRead.before
    {before after : State}
    (leads : LeadsToRead after)
    (queue : ∀ message ∈ after.queue, message ∈ before.queue)
    (timer : after.sensorTimer = true →
      before.sensorTimer = true ∨ .requestSent ∈ before.queue) :
    LeadsToRead before := by
  rcases leads with sent | running | ready
  · exact Or.inl (queue _ sent)
  · exact (timer running).elim (fun same => Or.inr (Or.inl same)) Or.inl
  · exact Or.inr (Or.inr (queue _ ready))

/-- A message that is queued leads to a read if it is one of these. -/
theorem LeadsToRead.of_append
    {before after : State}
    {message : QueuedMessage}
    (leads : LeadsToRead after)
    (queue : after.queue = before.queue ++ [message])
    (timer : after.sensorTimer = before.sensorTimer)
    (notSent : message ≠ .requestSent)
    (notReady : message ≠ .sensorReady) :
    LeadsToRead before := by
  unfold LeadsToRead at leads
  rw [queue, timer, List.mem_append, List.mem_append, List.mem_singleton,
    List.mem_singleton] at leads
  rcases leads with (sent | same) | running | ready | same
  · exact Or.inl sent
  · exact absurd same.symm notSent
  · exact Or.inr (Or.inl running)
  · exact Or.inr (Or.inr ready)
  · exact absurd same.symm notReady

/-- A read that follows the write of its request is for its command. -/
theorem Written.same
    {event : Event}
    (written : Written state)
    (proper : ReadsSent state.controller event)
    (starts : ReadStarts state.controller event) :
    state.parameter1 = state.command := by
  obtain ⟨dispatch, message, first, startsRead⟩ := starts
  refine written.sent ?_
  rcases startsRead with ⟨handler, rfl⟩ | ⟨handler, rfl⟩
  · exact written.led handler
      (Or.inr (Or.inr (List.mem_of_mem_head? first)))
  · exact proper.writeSent dispatch first handler

/-- An event that changes none of these values. -/
theorem Written.queued
    {controller : State}
    (written : Written state)
    (handler : controller.handler = state.controller.handler)
    (transfer :
      controller.operationCompleteCb = state.controller.operationCompleteCb)
    (write : controller.requestWrite = state.controller.requestWrite)
    (leads : LeadsToRead controller → LeadsToRead state.controller) :
    Written { state with controller := controller } := by
  refine ⟨?_, ?_, ?_⟩
  · rw [write]
    exact written.sent
  · rw [transfer, write]
    exact written.ongoing
  · rw [handler, write]
    exact fun started leading => written.led started (leads leading)

theorem written_dispatch
    {response : Response}
    (written : Written state)
    (proper : ReadsSent state.controller .dispatch)
    (stepped : step state ⟨.dispatch, response⟩ = .ok next) :
    Written next := by
  obtain rfl | ⟨message, rest, queue, received⟩ := dispatch_eq_ok stepped
  · exact written
  · have inQueue : ∀ other ∈ rest, other ∈ state.controller.queue := by
      rw [queue]
      exact fun other => List.mem_cons_of_mem message
    cases received with
    | noted noted timer =>
        refine @Written.queued state _ written noted.handler_eq
          noted.transfer_eq noted.write_eq fun leads => leads.before ?_ ?_
        · rw [noted.queue_eq]
          exact inQueue
        · intro running
          refine (timer running).imp_right ?_
          rintro rfl
          rw [queue]
          exact List.mem_cons_self
    | reads _ => exact ⟨written.sent, nofun, nofun⟩
    | requests idle starts _ =>
        have nothing := proper.noneLeft rfl idle
          ⟨message, by rw [queue]; rfl, starts⟩
        exact ⟨nofun, fun _ => rfl,
          fun _ leads => absurd (leads.before inQueue Or.inl) nothing⟩
    | restarts _ _ => exact ⟨nofun, fun _ => rfl, nofun⟩
    | failed _ gaveUp =>
        refine ⟨fun sent => written.sent (gaveUp.write_eq ▸ sent),
          fun ongoing => absurd ongoing gaveUp.noWrite, fun started => ?_⟩
        rcases gaveUp.handler with idle | error
        · rw [idle] at started
          cases started
        · rw [error] at started
          cases started

theorem written_transferComplete
    {crcMatches : Bool}
    {response : Response}
    (written : Written state)
    (stepped :
      step state ⟨.transferComplete crcMatches, response⟩ = .ok next) :
    Written next := by
  rw [step, SensorController.step] at stepped
  dsimp only at stepped
  cases ongoing : state.controller.operationCompleteCb with
  | none =>
      rw [ongoing] at stepped
      cases stepped
      exact written
  | some doneCb =>
      rw [ongoing] at stepped
      cases doneCb with
      | requestCompleted =>
          cases stepped
          exact ⟨fun _ => rfl, fun ended => (by cases ended), fun _ _ => rfl⟩
      | responseReceived =>
          cases crcMatches with
          | false =>
              cases stepped
              refine ⟨written.sent, fun ended => (by cases ended), ?_⟩
              intro started leads
              exact written.led started
                (leads.of_append rfl rfl (by decide) (by decide))
          | true =>
              cases stepped
              refine ⟨written.sent, fun ended => (by cases ended), ?_⟩
              intro started leads
              exact written.led started
                (leads.of_append rfl rfl (by decide) (by decide))
      | generalCallResetSent =>
          cases stepped
          refine ⟨written.sent, fun ended => (by cases ended), ?_⟩
          intro started leads
          exact written.led started
            (leads.of_append rfl rfl (by cases crcMatches <;> decide)
              (by cases crcMatches <;> decide))

/-- A transfer that fails, and what it leads to. -/
theorem written_transferError
    {response : Response}
    (written : Written state)
    (stepped : step state ⟨.transferError, response⟩ = .ok next) :
    Written next := by
  obtain ⟨controller, moved, rfl⟩ := lift_eq_ok stepped
  rw [SensorController.step] at moved
  cases ongoing : state.controller.operationCompleteCb with
  | none =>
      rw [ongoing] at moved
      cases moved
      exact written
  | some doneCb =>
      rw [ongoing] at moved
      cases moved
      have led (started : state.controller.handler = .shtRequestStarted)
          {after : State}
          (leads : LeadsToRead after)
          (queue : after.queue = state.controller.queue ++
            [.recoverableError])
          (timer : after.sensorTimer = state.controller.sensorTimer) :
          state.controller.requestWrite = .sent :=
        written.led started
          (leads.of_append queue timer (by decide) (by decide))
      cases doneCb with
      | requestCompleted =>
          refine ⟨fun sent => (by cases sent),
            fun ended => (by cases ended), fun started leads => ?_⟩
          -- nothing is left that led to a read of the request before
          have sent := led started leads rfl rfl
          rw [written.ongoing ongoing] at sent
          cases sent
      | responseReceived =>
          exact ⟨written.sent, fun ended => (by cases ended),
            fun started leads => led started leads rfl rfl⟩
      | generalCallResetSent =>
          exact ⟨written.sent, fun ended => (by cases ended),
            fun started leads => led started leads rfl rfl⟩

/-- Every step keeps what is known about the write. -/
theorem written_step
    {bus : BusEvent}
    (pending : Pending state.controller)
    (written : Written state)
    (proper : ReadsSent state.controller bus.event)
    (stepped : step state bus = .ok next) :
    Written next := by
  obtain ⟨event, response⟩ := bus
  cases event with
  | publish input =>
      cases stepped
      refine @Written.queued state _ written rfl rfl rfl fun leads => ?_
      cases input with
      | _ => exact leads.of_append rfl rfl (by decide) (by decide)
  | transferComplete crcMatches =>
      exact written_transferComplete written stepped
  | transferError => exact written_transferError written stepped
  | sensorTimerElapsed =>
      obtain ⟨controller, moved, rfl⟩ := lift_eq_ok stepped
      rw [SensorController.step] at moved
      split at moved
      · next running =>
          cases moved
          exact @Written.queued state _ written rfl rfl rfl
            fun _ => Or.inr (Or.inl running)
      · cases moved
        exact written
  | resetTimerElapsed =>
      obtain rfl | ⟨_, rfl⟩ := resetTimerElapsed_eq_ok pending stepped
      · exact written
      · refine ⟨written.sent, written.ongoing, ?_⟩
        intro started
        cases started
  | dispatch => exact written_dispatch written proper stepped

theorem labels_dispatch
    {response : Response}
    (labels : Labels state)
    (same : ReadStarts state.controller .dispatch →
      state.parameter1 = state.command)
    (stepped : step state ⟨.dispatch, response⟩ = .ok next) :
    Labels next := by
  obtain rfl | ⟨message, rest, queue, received⟩ := dispatch_eq_ok stepped
  · exact labels
  · cases received with
    | noted noted _ =>
        refine ⟨?_, labels.published⟩
        rw [noted.transfer_eq]
        exact labels.reading
    | reads startsRead =>
        have agree := same ⟨rfl, message, by rw [queue]; rfl, startsRead⟩
        exact ⟨fun _ => agree, labels.published⟩
    | requests _ _ _ => exact ⟨nofun, labels.published⟩
    | restarts _ _ => exact ⟨nofun, labels.published⟩
    | failed _ gaveUp =>
        exact ⟨fun reading => absurd reading gaveUp.noRead,
          labels.published⟩

/-- Every step keeps the labels. -/
theorem labels_step
    {bus : BusEvent}
    (pending : Pending state.controller)
    (commanded : Commanded state)
    (labels : Labels state)
    (same : ReadStarts state.controller bus.event →
      state.parameter1 = state.command)
    (stepped : step state bus = .ok next) :
    Labels next := by
  obtain ⟨event, response⟩ := bus
  cases event with
  | publish input =>
      cases stepped
      exact ⟨labels.reading, labels.published⟩
  | transferComplete crcMatches =>
      exact labels_transferComplete commanded labels stepped
  | transferError =>
      obtain ⟨controller, moved, rfl⟩ := lift_eq_ok stepped
      rw [SensorController.step] at moved
      split at moved
      · cases moved
        exact labels
      · cases moved
        exact ⟨(by rintro ⟨⟩), labels.published⟩
  | sensorTimerElapsed =>
      obtain ⟨controller, moved, rfl⟩ := lift_eq_ok stepped
      rw [SensorController.step] at moved
      split at moved
      · cases moved
        exact ⟨labels.reading, labels.published⟩
      · cases moved
        exact labels
  | resetTimerElapsed =>
      obtain rfl | ⟨_, rfl⟩ := resetTimerElapsed_eq_ok pending stepped
      · exact labels
      · exact ⟨labels.reading, labels.published⟩
  | dispatch => exact labels_dispatch labels same stepped

/-- The state after a read is started. -/
theorem receive_read
    {message : QueuedMessage}
    (startsRead : StartsRead state.controller.handler message)
    (received : receive state message = .ok next) :
    next =
      { state with
        controller :=
          { state.controller with
            operationCompleteCb := some .responseReceived
            handler := .shtRequestReading } } := by
  rcases startsRead with ⟨handler, rfl⟩ | ⟨handler, rfl⟩
  · rw [receive, if_pos (by decide), handler] at received
    obtain ⟨controller, reading, rfl⟩ := lift_eq_ok received
    rw [reading_eq_ok reading]
  · rw [receive, if_pos (by decide), handler] at received
    obtain ⟨controller, reading, rfl⟩ := lift_eq_ok received
    rw [reading_eq_ok reading]

/--
The data of a read is labelled exactly if the last complete write was for the
command of the request.
-/
theorem labelled_of_read
    {bus : BusEvent}
    (commanded : Commanded state)
    (starts : ReadStarts state.controller bus.event)
    (stepped : step state bus = .ok next)
    (response : Response) :
    ∃ after message,
      step next ⟨.transferComplete true, response⟩ = .ok after ∧
        after.published = state.published ++ [message] ∧
        (Labelled message ↔ state.parameter1 = state.command) := by
  obtain ⟨event, bytes⟩ := bus
  obtain ⟨rfl, message, first, startsRead⟩ := starts
  obtain ⟨notIdle, notError⟩ := startsRead.inProgress
  obtain ⟨command, isCommand⟩ := Option.ne_none_iff_exists'.mp
    (commanded.requested notIdle notError)
  obtain ⟨rest, queue⟩ := List.head?_eq_some_iff.mp first
  rw [step] at stepped
  dsimp only at stepped
  rw [queue] at stepped
  rw [@receive_read
    { state with controller := { state.controller with queue := rest } }
    next message startsRead stepped]
  refine ⟨_, _, transferComplete_response rfl, rfl, ?_, ?_⟩
  · rintro ⟨_, parameter1, evaluated, _⟩
    exact parameter1.trans evaluated.symm
  · intro same
    refine ⟨command, same.trans isCommand, isCommand, ?_⟩
    dsimp only
    rw [isCommand]
    rfl

end Steps

/--
In every run in which a tick reads only after the write of its request is
complete, and in which nothing that led to a read is left when a request starts,
sensor data is labelled with the command that decoded it.  The data of any
further read is labelled if and only if the last complete write was for the
command of the request.
-/
theorem sensorData_labelled
    {labels : List BusEvent}
    {state : RequestState}
    (run : Run (system.restrict Proper) labels (.ok state)) :
    (∀ message ∈ state.published,
      Labelled message ∧
        ((∃ number, message.data = some (.serialNumber number)) ↔
          message.parameter1 = some .readSerialNumber)) ∧
    ∀ bus next, step state bus = .ok next →
      ReadStarts state.controller bus.event →
        ∀ response, ∃ after message,
          step next ⟨.transferComplete true, response⟩ = .ok after ∧
            after.published = state.published ++ [message] ∧
            (Labelled message ↔ state.parameter1 = state.command) := by
  have invariant := @Run.invariant _ _ _
    (fun outcome => ∀ state, outcome = .ok state →
      Pending state.controller ∧ Commanded state ∧ Written state ∧
        Labels state)
    ?_ ?_ _ _ run
  · obtain ⟨_, commanded, _, labelled⟩ := invariant state rfl
    refine ⟨fun message member => ?_, fun bus next stepped starts =>
      labelled_of_read commanded starts stepped⟩
    have ofMessage := labelled.published message member
    exact ⟨ofMessage, ofMessage.kind⟩
  · rintro _ starts state rfl
    cases starts
    exact ⟨⟨nofun, nofun⟩, ⟨fun notIdle => absurd rfl notIdle, nofun⟩,
      ⟨nofun, nofun, nofun⟩, ⟨nofun, nofun⟩⟩
  · rintro before bus _ kept ⟨moves, proper⟩ state rfl
    obtain ⟨first, rfl, stepped⟩ := bind_eq_ok moves
    obtain ⟨pending, commanded, written, labels⟩ := kept first rfl
    have reads := proper first rfl
    exact ⟨pending_step pending stepped,
      commanded_step pending commanded stepped,
      written_step pending written reads stepped,
      labels_step pending commanded labels (written.same reads) stepped⟩

instance (controller : State) : Decidable (LeadsToRead controller) :=
  inferInstanceAs (Decidable (_ ∨ _ ∨ _))

instance (controller : State) (event : Event) :
    Decidable (ReadsSent controller event) :=
  decidable_of_iff
    ((event = .dispatch → controller.queue.head? = some .timeElapsed →
        controller.handler = .shtRequestRestarted →
          controller.requestWrite = .sent) ∧
      (event = .dispatch → controller.handler = .idle →
        (∃ message ∈ controller.queue.head?, message.StartsRequest) →
          ¬LeadsToRead controller))
    ⟨fun ⟨sent, left⟩ => ⟨sent, left⟩, fun ⟨sent, left⟩ => ⟨sent, left⟩⟩

/-- The serial number is read. -/
def serialNumberRead : List BusEvent :=
  [.of (.publish .bleSubsystemReady), .of .dispatch,
    .of (.transferComplete true), .of .dispatch, .of .sensorTimerElapsed,
    .of .dispatch, .of (.transferComplete true)]

/-- The measurement that follows is written and read. -/
def measurementSent : List BusEvent :=
  [.of .dispatch, .of (.transferComplete true), .of .dispatch,
    .of (.publish .timeElapsed), .of .dispatch,
    .of (.transferComplete true)]

/-- The next write fails and the sensor is read nevertheless. -/
def measurementRead : List BusEvent :=
  [.of .dispatch, .of .transferError, .of .dispatch,
    .of (.publish .timeElapsed), .of .dispatch,
    .of (.transferComplete true)]

theorem sensorData_labelled_serialNumber :
    ∃ state,
      Run (system.restrict Proper) (serialNumberRead ++ measurementSent)
        (.ok state) ∧
      state.published.map SensorMessage.parameter1 =
        [some .readSerialNumber, some .highRepeatabilityMeasurement] ∧
      ((∀ message ∈ state.published,
        Labelled message ∧
          ((∃ number, message.data = some (.serialNumber number)) ↔
            message.parameter1 = some .readSerialNumber)) ∧
      ∀ bus next, step state bus = .ok next →
        ReadStarts state.controller bus.event →
          ∀ response, ∃ after message,
            step next ⟨.transferComplete true, response⟩ = .ok after ∧
              after.published = state.published ++ [message] ∧
              (Labelled message ↔ state.parameter1 = state.command)) := by
  have start : Run (system.restrict Proper) [] (.ok static) := .start rfl
  have run := Run.ofOutcomesWhere
    (fun state bus (reads : ReadsSent state.controller bus.event) other
      same => Except.ok.inj same ▸ reads)
    (serialNumberRead ++ measurementSent) start rfl
  exact ⟨_, run, rfl, sensorData_labelled run⟩

/--
The write of the measurement fails after the serial number was read.  The tick
starts a read nevertheless, and its measurement is published as a serial
number.
-/
theorem sensorData_mislabelled :
    ∃ state message,
      Run system (serialNumberRead ++ measurementRead) (.ok state) ∧
      message ∈ state.published ∧
      message.parameter1 = some .readSerialNumber ∧
      message.evaluated = some .highRepeatabilityMeasurement ∧
      message.data = some (.measurement 0 0) ∧
      ¬Labelled message := by
  refine ⟨_, _, @run_foldl _ (.ok static),
    List.mem_cons_of_mem _ (List.mem_singleton_self _), rfl, rfl, rfl, ?_⟩
  rintro ⟨command, parameter1, evaluated, _⟩
  have same := parameter1.trans evaluated.symm
  cases same

end DemoBoard.SensorRequests
