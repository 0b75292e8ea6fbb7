import DemoBoard.SensorController

namespace DemoBoard.SensorController

open TransitionRuns

/-!
# Transfers of the sensor controller

Reads and writes find the driver released, and a bus that hangs is reset.
-/

section Ticks

variable {state next : State}

/-- A tick while a transfer is waited for is an error. -/
theorem receive_tick
    (waits :
      state.handler = .shtRequestStarted ∨
        state.handler = .shtRequestReading) :
    receive state .timeElapsed = handleError state := by
  rw [receive, if_pos (by decide)]
  rcases waits with handler | handler
  · rw [handler]
    rfl
  · rw [handler]
    rfl

/-- Where a transfer can be pending when a tick is handled. -/
theorem Invariant.waits
    {rest : List QueuedMessage}
    (invariant : Invariant state)
    (queue : state.queue = .timeElapsed :: rest)
    (proper : Proper state .dispatch)
    (ongoing : state.operationCompleteCb ≠ none)
    (other : state.handler ≠ .shtErrorHandler) :
    state.handler = .shtRequestStarted ∨
      state.handler = .shtRequestReading := by
  have first : state.queue.head? = some .timeElapsed := by
    rw [queue]
    rfl
  cases handler : state.handler with
  | idle =>
      have transfer := invariant.transfer
      rw [handler] at transfer
      exact absurd (transfer.elim id id) ongoing
  | shtRequestStarted => exact Or.inl rfl
  | shtRequestRestarted =>
      have concluded := proper.writeOver rfl first handler
      exact absurd (invariant.written (Or.inr handler) concluded) ongoing
  | shtRequestReading => exact Or.inr rfl
  | shtErrorHandler => exact absurd handler other

/-- A tick that finds a transfer pending is handled as an error. -/
theorem Invariant.tick
    {rest : List QueuedMessage}
    (invariant : Invariant state)
    (queue : state.queue = .timeElapsed :: rest)
    (waits :
      state.handler = .shtRequestStarted ∨
        state.handler = .shtRequestReading) :
    SensorController.step state .dispatch =
      .ok (failed { state with queue := rest }) := by
  have other : state.handler ≠ .shtErrorHandler := by
    rcases waits with handler | handler
    · rw [handler]
      decide
    · rw [handler]
      decide
  have few := invariant.few (Or.inl other)
  simp only [SensorController.step, queue]
  rw [@receive_tick { state with queue := rest } waits]
  exact handleError_eq few

end Ticks

/-- An event that is the end of a transfer. -/
def Event.EndsTransfer (event : Event) : Prop :=
  event = .transferError ∨ ∃ crcMatches, event = .transferComplete crcMatches

/-- The event hands a tick to the controller. -/
def HandlesTick (state : State) (event : Event) : Prop :=
  event = .dispatch ∧ state.queue.head? = some .timeElapsed

/--
The bus hangs up to the reset: any proper events but the end of a transfer, and
how many ticks are handled among them.
-/
inductive Hang (first : State) : Nat → State → Prop where
  | start : Hang first 0 first
  | tick
      {ticks : Nat}
      {state next : State}
      {event : Event}
      (hang : Hang first ticks state)
      (goesOn : state.handler ≠ .shtErrorHandler)
      (proper : Proper state event)
      (handles : HandlesTick state event)
      (stepped : step state event = .ok next) :
      Hang first (ticks + 1) next
  | other
      {ticks : Nat}
      {state next : State}
      {event : Event}
      (hang : Hang first ticks state)
      (goesOn : state.handler ≠ .shtErrorHandler)
      (proper : Proper state event)
      (pending : ¬event.EndsTransfer)
      (noTick : ¬HandlesTick state event)
      (stepped : step state event = .ok next) :
      Hang first ticks next

/-- How many ticks a bus that hangs takes to its reset. -/
def ticksLeft (state : State) : Nat :=
  match state.handler with
  | .idle => 2 * (maxConsecutiveErrors - state.consecutiveErrors)
  | .shtRequestStarted =>
      2 * (maxConsecutiveErrors - state.consecutiveErrors) - 1
  | .shtRequestRestarted => 0
  | .shtRequestReading =>
      2 * (maxConsecutiveErrors - state.consecutiveErrors) - 1
  | .shtErrorHandler => 0

/-- What the handlers wait for while the bus hangs. -/
def Hung (state : State) : Prop :=
  match state.handler with
  | .idle => True
  | .shtRequestStarted => state.operationCompleteCb ≠ none
  | .shtRequestRestarted => False
  | .shtRequestReading => state.operationCompleteCb ≠ none
  | .shtErrorHandler =>
      state.operationCompleteCb = some .generalCallResetSent

/-- A step that changes nothing a hanging bus depends on. -/
structure Unmoved (state next : State) : Prop where
  handler_eq : next.handler = state.handler
  transfer_eq : next.operationCompleteCb = state.operationCompleteCb
  errors_eq : next.consecutiveErrors = state.consecutiveErrors

/-- Hung still, with so many ticks less. -/
def Hangs (state next : State) (ticks : Nat) : Prop :=
  Hung next ∧ ticksLeft next + ticks ≤ ticksLeft state

section Hanging

variable {state next : State}

theorem Unmoved.refl (state : State) : Unmoved state state :=
  ⟨rfl, rfl, rfl⟩

theorem Unmoved.hangs (unmoved : Unmoved state next) (hung : Hung state) :
    Hangs state next 0 := by
  obtain ⟨handler, transfer, errors⟩ := unmoved
  refine ⟨?_, ?_⟩
  · unfold Hung at hung ⊢
    rw [handler, transfer]
    exact hung
  · rw [ticksLeft, ticksLeft, handler, errors]
    exact Nat.le_refl _

theorem unmoved_setReminderIfNeeded (message : QueuedMessage) :
    Unmoved state (setReminderIfNeeded state message) := by
  rw [setReminderIfNeeded]
  split <;> exact ⟨rfl, rfl, rfl⟩

/-- A request that hangs takes one tick less than its start. -/
theorem hangs_started
    (idle : state.handler = .idle)
    (few : state.consecutiveErrors < maxConsecutiveErrors)
    (requestWrite : RequestWrite) :
    Hangs state
      { state with
        operationCompleteCb := some .requestCompleted
        handler := .shtRequestStarted
        requestWrite := requestWrite }
      1 := by
  refine ⟨nofun, ?_⟩
  rw [ticksLeft, ticksLeft, idle]
  dsimp only
  omega

/-- An error that is handled takes one tick. -/
theorem hangs_failed
    (waits :
      state.handler = .shtRequestStarted ∨
        state.handler = .shtRequestReading)
    (few : state.consecutiveErrors < maxConsecutiveErrors) :
    Hangs state (failed state) 1 := by
  have before : ticksLeft state =
      2 * (maxConsecutiveErrors - state.consecutiveErrors) - 1 := by
    rcases waits with handler | handler
    · rw [ticksLeft, handler]
    · rw [ticksLeft, handler]
  unfold Hangs
  rw [before, failed]
  split
  · refine ⟨trivial, ?_⟩
    rw [ticksLeft]
    dsimp only
    omega
  · refine ⟨rfl, ?_⟩
    rw [ticksLeft]
    dsimp only
    omega

/-- What a request is not told while its write is pending. -/
theorem Invariant.notTold_started
    {message : QueuedMessage}
    {rest : List QueuedMessage}
    (invariant : Invariant state)
    (queue : state.queue = message :: rest)
    (started : state.handler = .shtRequestStarted)
    (ongoing : state.operationCompleteCb ≠ none) :
    message ≠ .requestSent ∧ message ≠ .sensorReady := by
  have atMost := invariant.paced started
  have led := leads_cons queue
  have one : pending state.operationCompleteCb = 1 := if_neg ongoing
  have counted : pending state.operationCompleteCb ≤
      leads { state with queue := rest } := by
    unfold leads
    dsimp only
    omega
  constructor
  · rintro rfl
    rw [if_pos rfl] at led
    omega
  · rintro rfl
    rw [if_pos rfl] at led
    omega

/-- What a request is not told while its read is pending. -/
theorem Invariant.notTold_reading
    {message : QueuedMessage}
    {rest : List QueuedMessage}
    (invariant : Invariant state)
    (queue : state.queue = message :: rest)
    (reading : state.handler = .shtRequestReading)
    (ongoing : state.operationCompleteCb ≠ none) :
    message.isAnswer = false := by
  have answered := invariant.answered
  unfold Answered at answered
  rw [reading] at answered
  dsimp only at answered
  have one : pending state.operationCompleteCb = 1 := if_neg ongoing
  rw [queue, answers_cons, one] at answered
  cases answer : message.isAnswer with
  | false => rfl
  | true =>
      rw [answer, if_pos rfl] at answered
      omega

/-- A message that is no tick changes nothing or starts a request. -/
theorem hangs_receive
    {message : QueuedMessage}
    (hung : Hung state)
    (goesOn : state.handler ≠ .shtErrorHandler)
    (few : state.consecutiveErrors < maxConsecutiveErrors)
    (released : state.handler = .idle → state.operationCompleteCb = none)
    (noTick : message ≠ .timeElapsed)
    (started :
      state.handler = .shtRequestStarted →
        message ≠ .requestSent ∧ message ≠ .sensorReady)
    (reading :
      state.handler = .shtRequestReading → message.isAnswer = false)
    (received : receive state message = .ok next) :
    Hangs state next 0 := by
  have same : Unmoved state next → Hangs state next 0 :=
    fun unmoved => unmoved.hangs hung
  rw [receive] at received
  split at received
  · next known =>
      have other : message ≠ .recoverableError := by
        simpa [receives] using known
      cases handler : state.handler with
      | idle =>
          rw [handler] at received
          by_cases starts : message.StartsRequest
          · rw [idleStateCb_starts (released handler) starts] at received
            cases received
            obtain ⟨hung, less⟩ := hangs_started handler few .notSent
            exact ⟨hung, Nat.le_of_succ_le less⟩
          · rw [idleStateCb_ignores starts] at received
            cases received
            exact same (.refl state)
      | shtRequestStarted =>
          rw [handler] at received
          obtain ⟨notSent, notReady⟩ := started handler
          have reminded : shtRequestStartedStateCb state message =
              .ok (setReminderIfNeeded state message) := by
            cases message with
            | requestSent => exact absurd rfl notSent
            | sensorReady => exact absurd rfl notReady
            | timeElapsed => exact absurd rfl noTick
            | recoverableError => exact absurd rfl other
            | _ => rfl
          rw [reminded] at received
          cases received
          exact same (unmoved_setReminderIfNeeded message)
      | shtRequestRestarted =>
          unfold Hung at hung
          rw [handler] at hung
          cases hung
      | shtRequestReading =>
          rw [handler] at received
          have noAnswer := reading handler
          have reminded : shtRequestReadingStateCb state message =
              .ok (setReminderIfNeeded state message) := by
            cases message with
            | sensorData => cases noAnswer
            | sensorError => cases noAnswer
            | timeElapsed => exact absurd rfl noTick
            | recoverableError => exact absurd rfl other
            | _ => rfl
          rw [reminded] at received
          cases received
          exact same (unmoved_setReminderIfNeeded message)
      | shtErrorHandler => exact absurd handler goesOn
  · cases received
    exact same (.refl state)

/-- An idle controller has no transfer. -/
theorem Invariant.idle_released
    (invariant : Invariant state)
    (idle : state.handler = .idle) :
    state.operationCompleteCb = none := by
  have transfer := invariant.transfer
  rw [idle] at transfer
  exact transfer.elim id id

/-- What the pending transfer of a handler is. -/
theorem Hung.ongoing
    (hung : Hung state)
    (waits :
      state.handler = .shtRequestStarted ∨
        state.handler = .shtRequestReading) :
    state.operationCompleteCb ≠ none := by
  unfold Hung at hung
  rcases waits with handler | handler
  · rw [handler] at hung
    exact hung
  · rw [handler] at hung
    exact hung

/-- A tick on a bus that hangs. -/
theorem Invariant.hangs_tick
    {event : Event}
    (invariant : Invariant state)
    (hung : Hung state)
    (goesOn : state.handler ≠ .shtErrorHandler)
    (handles : HandlesTick state event)
    (stepped : SensorController.step state event = .ok next) :
    Hangs state next 1 := by
  obtain ⟨rfl, first⟩ := handles
  obtain ⟨rest, queue⟩ := List.head?_eq_some_iff.mp first
  have few := invariant.few (Or.inl goesOn)
  have failing :
      (state.handler = .shtRequestStarted ∨
          state.handler = .shtRequestReading) →
        Hangs state next 1 := by
    intro waits
    rw [invariant.tick queue waits] at stepped
    cases stepped
    exact @hangs_failed { state with queue := rest } waits few
  cases handler : state.handler with
  | idle =>
      have starts := @idleStateCb_starts { state with queue := rest }
        .timeElapsed (invariant.idle_released handler) (Or.inl rfl)
      simp only [SensorController.step, queue] at stepped
      rw [SensorController.receive, if_pos (by decide)] at stepped
      dsimp only at stepped
      rw [handler] at stepped
      dsimp only at stepped
      rw [handler] at starts
      rw [starts] at stepped
      cases stepped
      exact @hangs_started { state with queue := rest } handler few .notSent
  | shtRequestStarted => exact failing (Or.inl handler)
  | shtRequestRestarted =>
      unfold Hung at hung
      rw [handler] at hung
      cases hung
  | shtRequestReading => exact failing (Or.inr handler)
  | shtErrorHandler => exact absurd handler goesOn

/-- Anything else while the bus hangs. -/
theorem Invariant.hangs_other
    {event : Event}
    (invariant : Invariant state)
    (hung : Hung state)
    (goesOn : state.handler ≠ .shtErrorHandler)
    (pending : ¬event.EndsTransfer)
    (noTick : ¬HandlesTick state event)
    (stepped : SensorController.step state event = .ok next) :
    Hangs state next 0 := by
  have same : Unmoved state next → Hangs state next 0 :=
    fun unmoved => unmoved.hangs hung
  cases event with
  | publish input =>
      cases stepped
      exact same ⟨rfl, rfl, rfl⟩
  | transferComplete crcMatches =>
      exact absurd (Or.inr ⟨crcMatches, rfl⟩) pending
  | transferError => exact absurd (Or.inl rfl) pending
  | sensorTimerElapsed =>
      rw [SensorController.step] at stepped
      split at stepped
      · cases stepped
        exact same ⟨rfl, rfl, rfl⟩
      · cases stepped
        exact same (.refl state)
  | resetTimerElapsed =>
      have stopped := (invariant.noReset goesOn).2
      rw [SensorController.step, if_neg (by rw [stopped]; decide)] at stepped
      cases stepped
      exact same (.refl state)
  | dispatch =>
      cases queue : state.queue with
      | nil =>
          simp only [SensorController.step, queue] at stepped
          cases stepped
          exact same (.refl state)
      | cons message rest =>
          simp only [SensorController.step, queue] at stepped
          have other : message ≠ .timeElapsed := by
            rintro rfl
            exact noTick ⟨rfl, by rw [queue]; rfl⟩
          exact @hangs_receive { state with queue := rest } next message hung
            goesOn (invariant.few (Or.inl goesOn)) invariant.idle_released
            other
            (fun started => invariant.notTold_started queue started
              (hung.ongoing (Or.inl started)))
            (fun reading => invariant.notTold_reading queue reading
              (hung.ongoing (Or.inr reading)))
            stepped

/-- A step that returns keeps the invariant. -/
theorem Invariant.after
    {event : Event}
    (invariant : Invariant state)
    (proper : Proper state event)
    (stepped : SensorController.step state event = .ok next) :
    Invariant next := by
  rcases invariant.step proper with ⟨kept, returned, ofKept⟩ | ⟨_, failed⟩
  · rw [stepped] at returned
    cases returned
    exact ofKept
  · rw [stepped] at failed
    cases failed

/-- Every tick that is handled brings the reset closer. -/
theorem Hang.hangs
    {first : State}
    {ticks : Nat}
    (hang : Hang first ticks next)
    (invariant : Invariant first)
    (hung : Hung first) :
    Invariant next ∧ Hangs first next ticks := by
  induction hang with
  | start => exact ⟨invariant, hung, Nat.le_refl _⟩
  | tick hang goesOn proper handles stepped inductionHypothesis =>
      obtain ⟨kept, stillHung, less⟩ := inductionHypothesis
      obtain ⟨hungNext, lessNext⟩ :=
        kept.hangs_tick stillHung goesOn handles stepped
      exact ⟨kept.after proper stepped, hungNext, by omega⟩
  | other hang goesOn proper pending noTick stepped inductionHypothesis =>
      obtain ⟨kept, stillHung, less⟩ := inductionHypothesis
      obtain ⟨hungNext, lessNext⟩ :=
        kept.hangs_other stillHung goesOn pending noTick stepped
      exact ⟨kept.after proper stepped, hungNext, by omega⟩

/-- Before the reset there are ticks left. -/
theorem Hung.ticksLeft_pos
    (hung : Hung state)
    (goesOn : state.handler ≠ .shtErrorHandler)
    (few : state.consecutiveErrors < maxConsecutiveErrors) :
    0 < ticksLeft state := by
  unfold Hung at hung
  rw [ticksLeft]
  cases handler : state.handler with
  | shtRequestRestarted =>
      rw [handler] at hung
      cases hung
  | shtErrorHandler => exact absurd handler goesOn
  | _ =>
      dsimp only
      omega

end Hanging

/-- A transfer is pending whose end the controller waits for. -/
structure Waits (state : State) : Prop where
  handler :
    state.handler = .shtRequestStarted ∨ state.handler = .shtRequestReading
  ongoing : state.operationCompleteCb ≠ none

/-- Transfers never overlap, and a bus that hangs is reset. -/
structure Serialized (outcome : Except Failure State) : Prop where
  neverOverlaps : outcome ≠ .error .transferOngoing
  /-- Every proper step returns up to the general call reset. -/
  returns :
    ∀ state event, outcome = .ok state → Proper state event →
      state.handler ≠ .shtErrorHandler → ∃ next, step state event = .ok next
  hangFails :
    ∀ state rest, outcome = .ok state →
      state.queue = .timeElapsed :: rest → Proper state .dispatch →
        state.operationCompleteCb ≠ none →
          state.handler ≠ .shtErrorHandler →
            step state .dispatch = .ok (failed { state with queue := rest })
  /-- At the latest with the fifth tick, whatever else is handled. -/
  hangResets :
    ∀ state, outcome = .ok state → Waits state →
      ∀ ticks next, Hang state ticks next →
        (next.handler ≠ .shtErrorHandler → ticks < 5) ∧
          (next.handler = .shtErrorHandler →
            next.operationCompleteCb = some .generalCallResetSent)

section Serialization

variable {state : State}

theorem Waits.hung (waits : Waits state) : Hung state := by
  obtain ⟨handler, ongoing⟩ := waits
  unfold Hung
  rcases handler with started | reading
  · rw [started]
    exact ongoing
  · rw [reading]
    exact ongoing

theorem Waits.ticksLeft_le (waits : Waits state) : ticksLeft state ≤ 5 := by
  rw [ticksLeft]
  rcases waits.handler with started | reading
  · rw [started]
    dsimp only [maxConsecutiveErrors]
    omega
  · rw [reading]
    dsimp only [maxConsecutiveErrors]
    omega

/-- The invariant gives all of it. -/
theorem Invariant.serialized (invariant : Invariant state) :
    Serialized (.ok state) := by
  refine ⟨nofun, ?_, ?_, ?_⟩
  · rintro _ event ⟨⟩ proper other
    rcases invariant.step proper with ⟨next, returned, _⟩ | ⟨handler, _⟩
    · exact ⟨next, returned⟩
    · exact absurd handler other
  · rintro _ rest ⟨⟩ queue proper ongoing other
    exact invariant.tick queue
      (invariant.waits queue proper ongoing other)
  · rintro _ ⟨⟩ waits ticks next hang
    obtain ⟨kept, hung, less⟩ := hang.hangs invariant waits.hung
    have atMost := waits.ticksLeft_le
    constructor
    · intro other
      have left := hung.ticksLeft_pos other (kept.few (Or.inl other))
      omega
    · intro resetting
      unfold Hung at hung
      rw [resetting] at hung
      exact hung

end Serialization

/--
In runs in which a tick reads the response only after the write of the request
is over, and in which no request starts while a `REQUEST_SENT` of the one before
is queued, transfers never overlap and a bus that hangs is reset.
-/
theorem transfers_serialized
    {events : List Event}
    {outcome : Except Failure State}
    (run : Run (system.restrict (Always Proper)) events outcome) :
    Serialized outcome := by
  rcases invariant_run run with ⟨state, rfl, invariant⟩ | rfl
  · exact invariant.serialized
  · exact ⟨nofun, nofun, nofun, nofun⟩

/--
A request is read when the sensor is ready, the one after it on the tick that
follows its write, and the third one hangs from its write on.
-/
def twoReads : List Event :=
  [.publish .timeElapsed, .dispatch, .transferComplete true, .dispatch,
    .sensorTimerElapsed, .dispatch, .transferComplete true, .dispatch,
    .transferComplete true, .publish .timeElapsed, .dispatch, .dispatch,
    .transferComplete false, .publish .timeElapsed, .dispatch, .dispatch]

/-- The third request, whose write is pending. -/
def thirdRequest : State :=
  { static with
    handler := .shtRequestStarted
    consecutiveErrors := 1
    operationCompleteCb := some .requestCompleted }

theorem transfers_serialized_twoReads :
    Waits thirdRequest ∧ Serialized (.ok thirdRequest) := by
  have start : Run (system.restrict (Always Proper)) [] (.ok static) :=
    .start rfl
  have run := Run.ofOutcomesWhere
    (fun state event (proper : Proper state event) other same =>
      Except.ok.inj same ▸ proper)
    twoReads start (show _ = some thirdRequest by decide)
  exact ⟨⟨Or.inl rfl, nofun⟩, transfers_serialized run⟩

/--
The request after a complete read is not sent until the next tick, which reads
nevertheless.
-/
theorem transfers_overlap :
    ¬ ∀ events outcome,
      Run (system.restrict (Always ReadsFirst)) events outcome →
        Serialized outcome := by
  intro serialized
  have start : Run (system.restrict (Always ReadsFirst)) [] (.ok static) :=
    .start rfl
  have run := Run.ofOutcomesWhere
    (fun state event (first : ReadsFirst state event) other same =>
      Except.ok.inj same ▸ first)
    [.publish .timeElapsed, .dispatch, .transferComplete true, .dispatch,
      .sensorTimerElapsed, .dispatch, .transferComplete true, .dispatch,
      .publish .timeElapsed]
    start rfl
  -- the write is still pending
  have overlap := run.step .dispatch ⟨rfl, by
    rintro state ⟨⟩
    decide⟩
  exact (serialized _ _ overlap).neverOverlaps rfl

end DemoBoard.SensorController
