import DemoBoard.SensorRequests
import Mathlib.Data.List.Induction

namespace DemoBoard.SensorRequests

open SensorController (State Handler QueuedMessage Event Failure)

open TransitionRuns

/-!
# Reminders of the sensor controller

A request for the serial number that arrives while another request is open
sets a reminder.  Complete reads lead to the next measurement and an error
clears the reminder before the controller becomes idle, so that no reminder is
ever served.
-/

/-- Where a reminder and the reset timer may be active. -/
structure Pending (controller : State) : Prop where
  reminder : controller.activeReminder = true →
    controller.handler ≠ .idle ∧ controller.handler ≠ .shtErrorHandler
  reset : controller.resetTimer = true →
    controller.handler = .shtErrorHandler

/-- The event leads to `HandleError`. -/
def HandlesError (controller : State) (event : Event) : Prop :=
  event = .dispatch ∧
    ∃ message ∈ controller.queue.head?, Fails controller.handler message

/-- Complete reads, each of which starts a measurement. -/
def Continued (state next : RequestState) : Prop :=
  ∃ count,
    next.handledData = state.handledData + count ∧
      next.requests =
        state.requests ++ List.replicate count .highRepeatabilityMeasurement

section Steps

variable {state next : RequestState}

theorem Continued.of_eq
    (data : next.handledData = state.handledData)
    (requests : next.requests = state.requests) :
    Continued state next :=
  ⟨0, data, by rw [requests, List.replicate_zero, List.append_nil]⟩

theorem Continued.trans
    {last : RequestState}
    (first : Continued state next)
    (second : Continued next last) :
    Continued state last := by
  obtain ⟨count, data, requests⟩ := first
  obtain ⟨more, moreData, moreRequests⟩ := second
  refine ⟨count + more, ?_, ?_⟩
  · rw [moreData, data, Nat.add_assoc]
  · rw [moreRequests, requests, List.append_assoc,
      List.replicate_append_replicate]

/-- The reset timer elapses in the error state only. -/
theorem resetTimerElapsed_eq_ok
    {response : Response}
    (pending : Pending state.controller)
    (stepped : step state ⟨.resetTimerElapsed, response⟩ = .ok next) :
    next = state ∨
      state.controller.handler = .shtErrorHandler ∧
        next =
          { state with
            controller :=
              { state.controller with
                resetTimer := false
                handler := .idle } } := by
  rw [step] at stepped
  dsimp only at stepped
  split at stepped
  · next running =>
      have resetting := pending.reset running
      have unset : state.controller.activeReminder = false :=
        Bool.eq_false_iff.mpr fun set =>
          (pending.reminder set).2 resetting
      have idle :
          setIdleState
              { state with
                controller :=
                  { state.controller with resetTimer := false } } =
            .ok
              { state with
                controller :=
                  { state.controller with
                    resetTimer := false
                    handler := .idle } } := by
        simp only [setIdleState, RequestState.withHandler, unset]
        rfl
      rw [idle] at stepped
      cases stepped
      exact Or.inr ⟨resetting, rfl⟩
  · cases stepped
    exact Or.inl rfl

/-- Every step keeps where reminders may be active. -/
theorem pending_step
    {bus : BusEvent}
    (pending : Pending state.controller)
    (stepped : step state bus = .ok next) :
    Pending next.controller := by
  obtain ⟨event, response⟩ := bus
  by_cases dispatch : event = .dispatch
  · subst dispatch
    obtain rfl | ⟨message, rest, queue, received⟩ := dispatch_eq_ok stepped
    · exact pending
    · have noReset :
          state.controller.handler ≠ .shtErrorHandler →
            state.controller.resetTimer ≠ true :=
        fun other running => other (pending.reset running)
      cases received with
      | noted noted _ =>
          constructor
          · intro set
            rw [noted.handler_eq]
            rcases noted.reminded set with before | inProgress
            · exact pending.reminder before
            · exact inProgress
          · intro running
            rw [noted.handler_eq]
            rcases noted.reset running with before | resetting
            · exact pending.reset before
            · exact resetting
      | reads startsRead =>
          refine ⟨fun _ => ⟨nofun, nofun⟩, fun running => ?_⟩
          refine absurd running (noReset ?_)
          rcases startsRead with ⟨handler, _⟩ | ⟨handler, _⟩
          · exact handler.symm ▸ nofun
          · exact handler.symm ▸ nofun
      | requests idle _ _ =>
          refine ⟨fun _ => ⟨nofun, nofun⟩, fun running => ?_⟩
          exact absurd running (noReset (idle.symm ▸ nofun))
      | restarts reading _ =>
          refine ⟨fun _ => ⟨nofun, nofun⟩, fun running => ?_⟩
          exact absurd running (noReset (reading.symm ▸ nofun))
      | failed fails gaveUp =>
          refine ⟨fun set => ?_, fun running => ?_⟩
          · rw [gaveUp.noReminder] at set
            cases set
          · rw [gaveUp.reset_eq] at running
            refine absurd running (noReset ?_)
            rcases fails with ⟨handler, _⟩ | ⟨handler, _⟩
            · exact handler.symm ▸ nofun
            · exact handler.symm ▸ nofun
  · by_cases reset : event = .resetTimerElapsed
    · subst reset
      obtain rfl | ⟨resetting, rfl⟩ :=
        resetTimerElapsed_eq_ok pending stepped
      · exact pending
      · refine ⟨fun set => ?_, nofun⟩
        exact absurd resetting (pending.reminder set).2
    · obtain ⟨handler, reminder, timer, _, _, _, _⟩ :=
        unseen_of_step dispatch reset stepped
      constructor
      · rw [reminder, handler]
        exact pending.reminder
      · rw [timer, handler]
        exact pending.reset

/-- A reminder stays, and complete reads lead to measurements. -/
theorem reminder_step
    {bus : BusEvent}
    (pending : Pending state.controller)
    (set : state.controller.activeReminder = true)
    (noError : ¬HandlesError state.controller bus.event)
    (stepped : step state bus = .ok next) :
    next.controller.activeReminder = true ∧ Continued state next := by
  obtain ⟨notIdle, notError⟩ := pending.reminder set
  obtain ⟨event, response⟩ := bus
  by_cases dispatch : event = .dispatch
  · subst dispatch
    obtain rfl | ⟨message, rest, queue, received⟩ := dispatch_eq_ok stepped
    · exact ⟨set, .of_eq rfl rfl⟩
    · cases received with
      | noted noted _ => exact ⟨noted.reminder set, .of_eq rfl rfl⟩
      | reads startsRead => exact ⟨set, .of_eq rfl rfl⟩
      | requests idle _ _ => exact absurd idle notIdle
      | restarts reading _ => exact ⟨set, 1, rfl, rfl⟩
      | failed fails _ =>
          exact absurd ⟨rfl, message, by rw [queue]; rfl, fails⟩ noError
  · by_cases reset : event = .resetTimerElapsed
    · subst reset
      obtain rfl | ⟨resetting, _⟩ :=
        resetTimerElapsed_eq_ok pending stepped
      · exact ⟨set, .of_eq rfl rfl⟩
      · exact absurd resetting notError
    · obtain ⟨_, reminder, _, _, requests, data, _⟩ :=
        unseen_of_step dispatch reset stepped
      exact ⟨reminder.trans set, .of_eq data requests⟩

/-- Only a message that finds the controller idle asks for the number. -/
theorem serialNumber_step
    {bus : BusEvent}
    (pending : Pending state.controller)
    (stepped : step state bus = .ok next)
    (requested : next.requests = state.requests ++ [.readSerialNumber]) :
    bus.event = .dispatch ∧ state.controller.handler = .idle ∧
      state.controller.queue.head? = some .bleSubsystemReady := by
  have longer : next.requests ≠ state.requests := by
    rw [requested]
    simp
  obtain ⟨event, response⟩ := bus
  by_cases dispatch : event = .dispatch
  · subst dispatch
    obtain rfl | ⟨message, rest, queue, received⟩ := dispatch_eq_ok stepped
    · exact absurd rfl longer
    · cases received with
      | noted _ _ => exact absurd rfl longer
      | reads _ => exact absurd rfl longer
      | requests idle _ serialNumber =>
          have command := List.append_cancel_left requested
          rw [List.cons.injEq] at command
          rw [queue, serialNumber command.1]
          exact ⟨rfl, idle, rfl⟩
      | restarts _ _ =>
          have command := List.append_cancel_left requested
          cases command
      | failed _ _ => exact absurd rfl longer
  · by_cases reset : event = .resetTimerElapsed
    · subst reset
      obtain rfl | ⟨_, rfl⟩ := resetTimerElapsed_eq_ok pending stepped
      · exact absurd rfl longer
      · exact absurd rfl longer
    · obtain ⟨_, _, _, _, requests, _, _⟩ :=
        unseen_of_step dispatch reset stepped
      exact absurd requests longer

end Steps

/-- A step that leads to no error. -/
def NoError
    (outcome : Except Failure RequestState) (bus : BusEvent) : Prop :=
  ∀ state, outcome = .ok state → ¬HandlesError state.controller bus.event

/-- What is expected after sensor data while a reminder is active. -/
structure Remembered (state after : RequestState) : Prop where
  next :
    (after.requests.drop state.requests.length).head? =
      some .readSerialNumber
  cleared : state.handledData + 2 ≤ after.handledData →
    after.controller.activeReminder = false

section Runs

variable {labels more : List BusEvent}
variable {state after : RequestState}

theorem pending_run
    {outcome : Except Failure RequestState}
    (run : Run system labels outcome) :
    ∀ state, outcome = .ok state → Pending state.controller := by
  refine @Run.invariant _ _ _
    (fun outcome => ∀ state, outcome = .ok state →
      Pending state.controller) ?_ ?_ _ _ run
  · rintro _ starts state rfl
    cases starts
    exact ⟨nofun, nofun⟩
  · rintro before bus _ kept moves state rfl
    obtain ⟨first, rfl, stepped⟩ := bind_eq_ok moves
    exact pending_step (kept first rfl) stepped

/-- As long as there is no error, a reminder stays. -/
theorem reminder_run
    {outcome : Except Failure RequestState}
    (pending : Pending state.controller)
    (set : state.controller.activeReminder = true)
    (run : Run ((system.restrict NoError).startAt (.ok state)) more
      outcome) :
    ∀ after, outcome = .ok after →
      Pending after.controller ∧
        after.controller.activeReminder = true ∧
        Continued state after := by
  refine @Run.invariant _ _ _
    (fun outcome => ∀ after, outcome = .ok after →
      Pending after.controller ∧
        after.controller.activeReminder = true ∧
        Continued state after) ?_ ?_ _ _ run
  · rintro _ starts after rfl
    cases starts
    exact ⟨pending, set, .of_eq rfl rfl⟩
  · rintro before bus _ kept ⟨moves, noError⟩ after rfl
    obtain ⟨between, rfl, stepped⟩ := bind_eq_ok moves
    obtain ⟨pendingBetween, setBetween, continued⟩ := kept between rfl
    obtain ⟨setAfter, more⟩ :=
      reminder_step pendingBetween setBetween (noError between rfl) stepped
    exact ⟨pending_step pendingBetween stepped, setAfter,
      continued.trans more⟩

/-- No reminder leads to a request: the controller was idle before. -/
theorem serialNumber_not_reminded
    {bus : BusEvent}
    {next : RequestState}
    (run : Run system labels (.ok state))
    (stepped : step state bus = .ok next)
    (requested : next.requests = state.requests ++ [.readSerialNumber]) :
    bus.event = .dispatch ∧ state.controller.handler = .idle ∧
      state.controller.activeReminder = false ∧
      state.controller.queue.head? = some .bleSubsystemReady := by
  have pending := pending_run run state rfl
  obtain ⟨dispatch, idle, first⟩ :=
    serialNumber_step pending stepped requested
  refine ⟨dispatch, idle, Bool.eq_false_iff.mpr fun set => ?_, first⟩
  exact (pending.reminder set).1 idle

/--
The request that follows sensor data while a reminder is active is a
measurement, and the reminder stays active however many reads are complete.
-/
theorem reminder_not_served
    (run : Run system labels (.ok state))
    (set : state.controller.activeReminder = true)
    (goesOn : Run ((system.restrict NoError).startAt (.ok state)) more
      (.ok after))
    (handled : state.handledData < after.handledData) :
    ¬Remembered state after ∧
      (after.requests.drop state.requests.length).head? =
        some .highRepeatabilityMeasurement ∧
      after.controller.activeReminder = true := by
  obtain ⟨pending, setAfter, count, data, requests⟩ :=
    reminder_run (pending_run run state rfl) set goesOn after rfl
  have first : (after.requests.drop state.requests.length).head? =
      some .highRepeatabilityMeasurement := by
    obtain ⟨rest, rfl⟩ : ∃ rest, count = rest + 1 :=
      Nat.exists_eq_succ_of_ne_zero (by omega)
    rw [requests, List.drop_left, List.replicate_succ, List.head?_cons]
  refine ⟨fun remembered => ?_, first, setAfter⟩
  have next := remembered.next
  rw [first] at next
  cases next

/-- Events after each other. -/
theorem run_foldl (first : Except Failure RequestState) :
    Run (system.startAt first) labels
      (labels.foldl (fun outcome bus => outcome >>= (step · bus))
        first) := by
  induction labels using List.reverseRecOn with
  | nil => exact .start rfl
  | append_singleton labels bus inductionHypothesis =>
      rw [List.foldl_append]
      exact .step inductionHypothesis bus rfl

end Runs

instance (handler : Handler) (message : QueuedMessage) :
    Decidable (Fails handler message) :=
  inferInstanceAs (Decidable (_ ∨ _))

instance (controller : State) (event : Event) :
    Decidable (HandlesError controller event) :=
  inferInstanceAs (Decidable (_ ∧ _))

/-- An event without bytes on the bus. -/
def BusEvent.of (event : Event) : BusEvent :=
  ⟨event, fun _ => 0⟩

/-- The message arrives while the first measurement is requested. -/
def reminded : List BusEvent :=
  [.of (.publish .timeElapsed), .of .dispatch,
    .of (.publish .bleSubsystemReady), .of .dispatch]

/-- The first measurement is complete. -/
def firstRead : List BusEvent :=
  [.of (.transferComplete true), .of .dispatch, .of .sensorTimerElapsed,
    .of .dispatch, .of (.transferComplete true), .of .dispatch]

/-- The next measurement is complete. -/
def secondRead : List BusEvent :=
  [.of (.transferComplete true), .of .dispatch,
    .of (.publish .timeElapsed), .of .dispatch,
    .of (.transferComplete true), .of .dispatch]

/-- The reminder is active and the first request is open. -/
def remindedState : RequestState where
  controller :=
    { SensorController.static with
      handler := .shtRequestStarted
      activeReminder := true
      operationCompleteCb := some .requestCompleted }
  command := some .highRepeatabilityMeasurement
  parameter1 := none
  requests := [.highRepeatabilityMeasurement]
  handledData := 0
  published := []

theorem run_reminded : Run system reminded (.ok remindedState) :=
  @run_foldl reminded (.ok static)

theorem reminder_not_served_first :
    ∃ after,
      Run (system.startAt (.ok remindedState)) firstRead (.ok after) ∧
      ¬Remembered remindedState after ∧
      (after.requests.drop remindedState.requests.length).head? =
        some .highRepeatabilityMeasurement ∧
      after.controller.activeReminder = true := by
  have start := @Run.start _ _
    ((system.restrict NoError).startAt (.ok remindedState)) _ rfl
  have sent := start.step (.of (.transferComplete true))
    ⟨rfl, by rintro _ ⟨⟩; decide⟩
  have waiting := sent.step (.of .dispatch) ⟨rfl, by rintro _ ⟨⟩; decide⟩
  have ready := waiting.step (.of .sensorTimerElapsed)
    ⟨rfl, by rintro _ ⟨⟩; decide⟩
  have reading := ready.step (.of .dispatch) ⟨rfl, by rintro _ ⟨⟩; decide⟩
  have read := reading.step (.of (.transferComplete true))
    ⟨rfl, by rintro _ ⟨⟩; decide⟩
  have restarted := read.step (.of .dispatch)
    ⟨rfl, by rintro _ ⟨⟩; decide⟩
  exact ⟨_, run_foldl _,
    reminder_not_served run_reminded rfl restarted (by decide)⟩

/--
The message for the serial number arrives during the first measurement.  All
transfers succeed, two measurements are complete, the reminder is active and
the requests are measurements.
-/
theorem reminder_not_remembered :
    Run system reminded (.ok remindedState) ∧
      remindedState.controller.activeReminder = true ∧
      ∃ after,
        Run (system.startAt (.ok remindedState)) (firstRead ++ secondRead)
          (.ok after) ∧
        after.handledData = remindedState.handledData + 2 ∧
        after.controller.activeReminder = true ∧
        after.requests.drop remindedState.requests.length =
          [.highRepeatabilityMeasurement,
            .highRepeatabilityMeasurement] ∧
        ¬Remembered remindedState after := by
  refine ⟨run_reminded, rfl, _, run_foldl _, rfl, rfl, rfl,
    fun remembered => ?_⟩
  have cleared := remembered.cleared (Nat.le_refl _)
  cases cleared

end DemoBoard.SensorRequests
