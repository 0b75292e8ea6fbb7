import DemoBoard.MeasurementItemController
import DemoBoard.TransitionRuns
import Mathlib.Tactic.IntervalCases

namespace DemoBoard.SampleMetadata

open TransitionRuns MeasurementItemController

/-!
# Interval and age in the sample metadata

The controller computes seconds and milliseconds with `int32_t` operations and
sends them in `uint32_t` fields.  A signed operation whose result is out of
range has no value.
-/

/-- The value of a signed operation, if it does not overflow. -/
def signed (value : Int) : Option Int :=
  if -2 ^ 31 ≤ value ∧ value < 2 ^ 31 then some value else none

/-- `loggingIntervalS * 1000` -/
def checkedIntervalMs
    (controller : MeasurementItemController) : Option Int :=
  signed (controller.loggingIntervalS * 1000)

/-- The age of `BeginReadSamples`, with every signed operation checked. -/
def checkedAge
    (controller : MeasurementItemController) (extraSample : Nat) :
    Option Int := do
  let passed ←
    signed (controller.loggingIntervalS - controller.remainingTimeS)
  let timeUntilNextLogEntry :=
    max 0 (min controller.loggingIntervalS passed)
  let samples ← signed (extraSample + controller.currentSampleIndex)
  let older ← signed (samples * controller.loggingIntervalS)
  let seconds ← signed (timeUntilNextLogEntry + older)
  signed (seconds * 1000)

/-- The response to `SERVICE_REQUEST_MESSAGE_ID_GET_LOGGING_INTERVAL`. -/
def getLoggingInterval (controller : MeasurementItemController) : UInt32 :=
  controller.loggingIntervalMs

/-- The controller, its request and what it published last. -/
structure State where
  controller : MeasurementItemController
  request : SampleRequestData
  published : List Published
  /-- The parameter the interval was last set to. -/
  accepted : Option UInt32

/-- The messages that change what the metadata is computed from. -/
inductive Event where
  | timeElapsed (elapsed : UInt8) (averages : SampleTicks)
  | deviceSettingsRead (loggingInterval : UInt32)
  | erase
  | eraseDone
  | setLoggingInterval (store : ItemStoreState) (parameter : UInt32)
  | setRequestedSamples (parameter : Nat)
  | beginReadSamples (enumeratorReady : Bool) (count : Nat)

/-- The controller handles a message. -/
def step (state : State) : Event → Except AssertionFailure State
  | .timeElapsed elapsed averages =>
      let outcome :=
        evalTimeEvent state.controller elapsed.toNat averages
          state.controller.isAddItemPossible
      .ok { state with controller := outcome.1, published := outcome.2 }
  | .deviceSettingsRead loggingInterval =>
      .ok
        { state with
          controller :=
            state.controller.deviceSettingsRead loggingInterval
          published := []
          accepted := none }
  | .erase =>
      .ok { state with controller := state.controller.erase, published := [] }
  | .eraseDone =>
      let outcome := state.controller.eraseDone
      .ok { state with controller := outcome.1, published := outcome.2 }
  | .setLoggingInterval store parameter => do
      let outcome ← setLoggingInterval store state.controller parameter
      .ok
        { state with
          controller := outcome.2.1
          published := outcome.2.2
          accepted := some parameter }
  | .setRequestedSamples parameter =>
      .ok
        { state with
          request := setRequestedSamples state.request parameter
          published := [] }
  | .beginReadSamples enumeratorReady count =>
      .ok
        { state with
          request :=
            beginReadSamples state.controller state.request
              enumeratorReady count
          published := [] }

/-- The controller from its initial value on. -/
def system : System State Event where
  start := fun state =>
    state.controller = MeasurementItemController.static ∧
      state.request = SampleRequestData.static ∧
      state.published = [] ∧ state.accepted = none
  step := fun state event next => step state event = .ok next

/-- The age that belongs to an interval, in milliseconds. -/
def exactAge
    (interval remainingTimeS : Int) (samples : Nat) : Int :=
  1000 * (max 0 (min interval (interval - remainingTimeS)) +
    samples * interval)

/-- What a request with an available count is told is exact. -/
structure Exact
    (interval : Int) (state : State) (enumeratorReady : Bool)
    (count : Nat) : Prop where
  noOverflow : checkedIntervalMs state.controller = some (1000 * interval)
  reported :
    ((getLoggingInterval state.controller).toNat : Int) = 1000 * interval
  saved :
    ∀ loggingInterval,
      .saveLoggingInterval loggingInterval ∈ state.published →
        (loggingInterval.toNat : Int) = 1000 * interval
  sent :
    let request :=
      beginReadSamples state.controller state.request enumeratorReady count
    (request.metadata.loggingIntervalMs.toNat : Int) = 1000 * interval ∧
      let age :=
        exactAge interval state.controller.remainingTimeS
          (request.extraSample + state.controller.currentSampleIndex)
      checkedAge state.controller request.extraSample = some age ∧
        (request.metadata.ageOfLatestSample.toNat : Int) = age

/-- What holds of the controller in every run. -/
structure Sound (state : State) : Prop where
  interval_le : state.controller.loggingIntervalS ≤ 4294967
  interval_nonneg : 0 ≤ state.controller.loggingIntervalS
  remaining_le : state.controller.remainingTimeS ≤ 4294967
  remaining_nonneg : 0 ≤ state.controller.remainingTimeS
  index_le : state.controller.currentSampleIndex ≤ 1
  interval_eq :
    ∀ parameter, state.accepted = some parameter →
      state.controller.loggingIntervalS = requestedIntervalS parameter
  saved :
    ∀ loggingInterval,
      .saveLoggingInterval loggingInterval ∈ state.published →
        loggingInterval = state.controller.loggingIntervalMs

/-- Saving samples changes only a flag and saves no interval. -/
theorem saveReadySamples_frame
    (controller : MeasurementItemController)
    (canAddItem : Bool) :
    let outcome := saveReadySamples controller canAddItem
    outcome.1.loggingIntervalS = controller.loggingIntervalS ∧
      outcome.1.remainingTimeS = controller.remainingTimeS ∧
      outcome.1.currentSampleIndex = controller.currentSampleIndex ∧
      ∀ loggingInterval,
        .saveLoggingInterval loggingInterval ∉ outcome.2 := by
  intro outcome
  by_cases ready : controller.isSampleReady ∧ canAddItem
  · have saves : outcome =
        ({ controller with isSampleReady := false }, [.addSamples]) :=
      if_pos ready
    rw [saves]
    exact ⟨rfl, rfl, rfl, by simp⟩
  · have waits : outcome = (controller, []) := if_neg ready
    rw [waits]
    exact ⟨rfl, rfl, rfl, by simp⟩

/-- What a time event does to the interval, the countdown and the index. -/
theorem evalTimeEvent_frame
    (controller : MeasurementItemController)
    (elapsed : Nat)
    (averages : SampleTicks)
    (canAddItem : Bool) :
    let outcome := evalTimeEvent controller elapsed averages canAddItem
    outcome.1.loggingIntervalS = controller.loggingIntervalS ∧
      outcome.1.remainingTimeS =
        (if controller.remainingTimeS - elapsed ≤ 0 then
          controller.loggingIntervalS
        else
          controller.remainingTimeS - elapsed) ∧
      outcome.1.currentSampleIndex =
        (if controller.remainingTimeS - elapsed ≤ 0 then
          (controller.currentSampleIndex + 1) % 2
        else
          controller.currentSampleIndex) ∧
      ∀ loggingInterval,
        .saveLoggingInterval loggingInterval ∉ outcome.2 := by
  intro outcome
  by_cases due : controller.remainingTimeS - elapsed ≤ 0
  · rw [if_pos due, if_pos due]
    simp only [outcome, evalTimeEvent, if_pos due]
    exact saveReadySamples_frame _ canAddItem
  · rw [if_neg due, if_neg due]
    simp only [outcome, evalTimeEvent, if_neg due]
    exact saveReadySamples_frame _ canAddItem

/-- What the end of an erase does to them. -/
theorem eraseDone_frame
    (controller : MeasurementItemController) :
    let outcome := controller.eraseDone
    outcome.1.loggingIntervalS = controller.loggingIntervalS ∧
      outcome.1.remainingTimeS = controller.remainingTimeS ∧
      outcome.1.currentSampleIndex = controller.currentSampleIndex ∧
      ∀ loggingInterval,
        .saveLoggingInterval loggingInterval ∈ outcome.2 →
          loggingInterval = controller.loggingIntervalMs := by
  obtain ⟨count, done⟩ := eraseDone_eq controller
  dsimp only at done
  rw [done]
  by_cases possible : count = 0
  · rw [if_pos (by simpa using possible)]
    by_cases changed : controller.isLoggingIntervalChanged
    · rw [if_pos changed]
      refine ⟨rfl, rfl, rfl, ?_⟩
      intro loggingInterval member
      simp only [List.mem_singleton, Published.saveLoggingInterval.injEq]
        at member
      exact member
    · rw [if_neg changed]
      obtain ⟨interval, remaining, index, silent⟩ :=
        saveReadySamples_frame
          { controller with
            nrOfPendingErase := count
            isAddItemPossible := count = 0 }
          (count = 0)
      exact ⟨interval, remaining, index,
        fun loggingInterval member =>
          absurd member (silent loggingInterval)⟩
  · rw [if_neg (by simpa using possible)]
    exact ⟨rfl, rfl, rfl, by simp⟩

/-- What a new interval does to them. -/
theorem setLoggingInterval_frame
    {store : ItemStoreState}
    {controller : MeasurementItemController}
    {parameter : UInt32}
    {outcome : ItemStoreState × MeasurementItemController × List Published}
    (set : setLoggingInterval store controller parameter = .ok outcome) :
    outcome.2.1.loggingIntervalS = requestedIntervalS parameter ∧
      outcome.2.1.remainingTimeS = controller.remainingTimeS ∧
      (outcome.2.1.currentSampleIndex = controller.currentSampleIndex ∨
        outcome.2.1.currentSampleIndex = 0) ∧
      ∀ loggingInterval,
        .saveLoggingInterval loggingInterval ∈ outcome.2.2 →
          loggingInterval = outcome.2.1.loggingIntervalMs := by
  rw [setLoggingInterval] at set
  dsimp only at set
  split at set
  · split at set
    · cases deletes : ItemStore.deleteAllItems store .measurementSample with
      | error failure =>
          rw [deletes] at set
          cases set
      | ok deleted =>
          rw [deletes] at set
          cases set
          exact ⟨rfl, rfl, Or.inr rfl, by simp⟩
    · cases set
      refine ⟨rfl, rfl, Or.inr rfl, ?_⟩
      intro loggingInterval member
      simp only [List.mem_singleton, Published.saveLoggingInterval.injEq]
        at member
      exact member
  · rename_i same
    cases set
    exact ⟨(not_ne_iff.mp same).symm, rfl, Or.inl rfl, by simp⟩

/-- The controller starts sound. -/
theorem sound_start
    {state : State}
    (starts : system.start state) :
    Sound state := by
  obtain ⟨controller, _, published, accepted⟩ := starts
  constructor
  all_goals simp [controller, published, accepted,
    MeasurementItemController.static]

/-- Every message keeps the controller sound. -/
theorem Sound.step
    {state next : State}
    {event : Event}
    (sound : Sound state)
    (moves : SampleMetadata.step state event = .ok next) :
    Sound next := by
  obtain ⟨interval_le, interval_nonneg, remaining_le, remaining_nonneg,
    index_le, interval_eq, saved⟩ := sound
  cases event with
  | timeElapsed elapsed averages =>
      cases moves
      obtain ⟨interval, remaining, index, silent⟩ :=
        evalTimeEvent_frame state.controller elapsed.toNat averages
          state.controller.isAddItemPossible
      refine ⟨by rw [interval]; exact interval_le,
        by rw [interval]; exact interval_nonneg, ?_, ?_, ?_,
        by rw [interval]; exact interval_eq,
        fun loggingInterval member =>
          absurd member (silent loggingInterval)⟩
      · rw [remaining]
        split <;> omega
      · rw [remaining]
        split <;> omega
      · rw [index]
        split <;> omega
  | deviceSettingsRead loggingInterval =>
      cases moves
      have small := loggingInterval.toNat_lt
      refine ⟨?_, ?_, remaining_le, remaining_nonneg, index_le,
        fun _ none => absurd none (by simp), by simp⟩
      · simp only [deviceSettingsRead]
        omega
      · simp only [deviceSettingsRead]
        omega
  | erase =>
      cases moves
      exact ⟨interval_le, interval_nonneg, remaining_le, remaining_nonneg,
        index_le, interval_eq, by simp⟩
  | eraseDone =>
      cases moves
      obtain ⟨interval, remaining, index, saves⟩ :=
        eraseDone_frame state.controller
      have milliseconds :
          state.controller.eraseDone.1.loggingIntervalMs =
            state.controller.loggingIntervalMs := by
        rw [MeasurementItemController.loggingIntervalMs,
          MeasurementItemController.loggingIntervalMs, interval]
      refine ⟨by rw [interval]; exact interval_le,
        by rw [interval]; exact interval_nonneg,
        by rw [remaining]; exact remaining_le,
        by rw [remaining]; exact remaining_nonneg,
        by rw [index]; exact index_le,
        by rw [interval]; exact interval_eq, ?_⟩
      intro loggingInterval member
      rw [milliseconds]
      exact saves loggingInterval member
  | setLoggingInterval store parameter =>
      cases sets : MeasurementItemController.setLoggingInterval store
          state.controller parameter with
      | error failure =>
          rw [SampleMetadata.step, sets] at moves
          cases moves
      | ok outcome =>
          rw [SampleMetadata.step, sets] at moves
          cases moves
          obtain ⟨interval, remaining, index, saves⟩ :=
            setLoggingInterval_frame sets
          have bounds := requestedIntervalS_bounds parameter
          refine ⟨by rw [interval]; omega, by rw [interval]; omega,
            by rw [remaining]; exact remaining_le,
            by rw [remaining]; exact remaining_nonneg,
            ?_, ?_, saves⟩
          · dsimp only
            rcases index with same | zero <;> omega
          · intro accepted accepted_eq
            cases accepted_eq
            exact interval
  | setRequestedSamples parameter =>
      cases moves
      exact ⟨interval_le, interval_nonneg, remaining_le, remaining_nonneg,
        index_le, interval_eq, by simp⟩
  | beginReadSamples enumeratorReady count =>
      cases moves
      exact ⟨interval_le, interval_nonneg, remaining_le, remaining_nonneg,
        index_le, interval_eq, by simp⟩

/-- The controller is sound in every run. -/
theorem sound_run
    {events : List Event}
    {state : State}
    (run : Run system events state) :
    Sound state :=
  run.invariant (fun _ starts => sound_start starts)
    (fun _ _ _ sound moves => sound.step moves)

/-- A signed operation in range has its value. -/
theorem signed_eq_some_iff
    (value result : Int) :
    signed value = some result ↔
      value = result ∧ -2 ^ 31 ≤ value ∧ value < 2 ^ 31 := by
  rw [signed]
  split
  · rename_i inside
    rw [Option.some_inj]
    exact ⟨fun same => ⟨same, inside⟩, fun both => both.1⟩
  · rename_i outside
    exact ⟨nofun, fun both => absurd both.2 outside⟩

/-- The extra sample that is read is at most one. -/
theorem extraSample_le
    (controller : MeasurementItemController)
    (request : SampleRequestData)
    (enumeratorReady : Bool)
    (count : Nat) :
    (beginReadSamples controller request enumeratorReady
      count).extraSample ≤ 1 := by
  simp only [beginReadSamples]
  omega

section Values

variable {controller : MeasurementItemController}
  {interval : Int}
  {extraSample : Nat}

/-- An age is not negative. -/
theorem exactAge_nonneg
    (interval_nonneg : 0 ≤ interval)
    (remainingTimeS : Int)
    (samples : Nat) :
    0 ≤ exactAge interval remainingTimeS samples := by
  have older : 0 ≤ (samples : Int) * interval :=
    Int.mul_nonneg (Int.natCast_nonneg _) interval_nonneg
  rw [exactAge]
  omega

/-- The age is exact as long as it fits into an `int32_t`. -/
theorem checkedAge_eq
    (sets : controller.loggingIntervalS = interval)
    (interval_le : interval ≤ 4294967)
    (interval_nonneg : 0 ≤ interval)
    (remaining_le : controller.remainingTimeS ≤ 4294967)
    (remaining_nonneg : 0 ≤ controller.remainingTimeS)
    (index_le : controller.currentSampleIndex ≤ 1)
    (extra_le : extraSample ≤ 1) :
    checkedAge controller extraSample =
      signed (exactAge interval controller.remainingTimeS
        (extraSample + controller.currentSampleIndex)) := by
  subst sets
  have passed :
      signed (controller.loggingIntervalS - controller.remainingTimeS) =
        some (controller.loggingIntervalS - controller.remainingTimeS) := by
    rw [signed_eq_some_iff]
    omega
  have samples :
      signed (extraSample + controller.currentSampleIndex) =
        some ((extraSample + controller.currentSampleIndex : Nat) : Int) := by
    rw [signed_eq_some_iff]
    omega
  have few : extraSample + controller.currentSampleIndex ≤ 2 := by omega
  have older :
      signed (((extraSample + controller.currentSampleIndex : Nat) : Int) *
          controller.loggingIntervalS) =
        some (((extraSample + controller.currentSampleIndex : Nat) : Int) *
          controller.loggingIntervalS) := by
    rw [signed_eq_some_iff]
    refine ⟨rfl, ?_⟩
    interval_cases extraSample + controller.currentSampleIndex <;> omega
  have seconds :
      signed (max 0 (min controller.loggingIntervalS
            (controller.loggingIntervalS - controller.remainingTimeS)) +
          ((extraSample + controller.currentSampleIndex : Nat) : Int) *
            controller.loggingIntervalS) =
        some (max 0 (min controller.loggingIntervalS
            (controller.loggingIntervalS - controller.remainingTimeS)) +
          ((extraSample + controller.currentSampleIndex : Nat) : Int) *
            controller.loggingIntervalS) := by
    rw [signed_eq_some_iff]
    refine ⟨rfl, ?_⟩
    interval_cases extraSample + controller.currentSampleIndex <;> omega
  simp only [checkedAge, passed, samples, older, seconds,
    Option.bind_eq_bind, Option.bind_some]
  rw [exactAge, Int.mul_comm 1000]

/-- The age that is sent is exact under the same condition. -/
theorem ageOfLatestSample_eq
    (sets : controller.loggingIntervalS = interval)
    (interval_nonneg : 0 ≤ interval)
    (fits :
      exactAge interval controller.remainingTimeS
        (extraSample + controller.currentSampleIndex) < 2 ^ 31) :
    ((ageOfLatestSample controller extraSample).toNat : Int) =
      exactAge interval controller.remainingTimeS
        (extraSample + controller.currentSampleIndex) := by
  have nonneg :=
    exactAge_nonneg interval_nonneg controller.remainingTimeS
      (extraSample + controller.currentSampleIndex)
  have same :
      (max 0 (min controller.loggingIntervalS
          (controller.loggingIntervalS - controller.remainingTimeS)) +
        (extraSample + controller.currentSampleIndex) *
          controller.loggingIntervalS) * 1000 =
        exactAge interval controller.remainingTimeS
          (extraSample + controller.currentSampleIndex) := by
    rw [exactAge, sets, Int.mul_comm, Int.natCast_add]
  rw [ageOfLatestSample, same]
  exact toNat_toUInt32 nonneg (by omega)

/-- An interval that fits is sent exactly. -/
theorem loggingIntervalMs_eq
    (sets : controller.loggingIntervalS = interval)
    (interval_nonneg : 0 ≤ interval)
    (fits : 1000 * interval < 2 ^ 31) :
    checkedIntervalMs controller = some (1000 * interval) ∧
      (controller.loggingIntervalMs.toNat : Int) = 1000 * interval := by
  have same : controller.loggingIntervalS * 1000 = 1000 * interval := by
    rw [sets, Int.mul_comm]
  rw [checkedIntervalMs, MeasurementItemController.loggingIntervalMs, same,
    signed_eq_some_iff]
  refine ⟨⟨rfl, by omega, fits⟩, toNat_toUInt32 (by omega) (by omega)⟩

end Values

/-- Three intervals that fit make every answer exact. -/
theorem exact_of_fits
    {state : State}
    {parameter : UInt32}
    (sound : Sound state)
    (accepted : state.accepted = some parameter)
    (fits : 3000 * requestedIntervalS parameter < 2 ^ 31)
    (enumeratorReady : Bool)
    (count : Nat) :
    Exact (requestedIntervalS parameter) state enumeratorReady count := by
  have bounds := requestedIntervalS_bounds parameter
  have interval := sound.interval_eq parameter accepted
  have index_le := sound.index_le
  have remaining_nonneg := sound.remaining_nonneg
  obtain ⟨checked, sent⟩ :=
    loggingIntervalMs_eq interval (by omega) (by omega)
  have extra_le :=
    extraSample_le state.controller state.request enumeratorReady count
  have small :
      exactAge (requestedIntervalS parameter)
        state.controller.remainingTimeS
        ((beginReadSamples state.controller state.request enumeratorReady
            count).extraSample +
          state.controller.currentSampleIndex) < 2 ^ 31 := by
    rw [exactAge]
    have few :
        (beginReadSamples state.controller state.request enumeratorReady
            count).extraSample +
          state.controller.currentSampleIndex ≤ 2 := by
      omega
    interval_cases (beginReadSamples state.controller state.request
      enumeratorReady count).extraSample +
        state.controller.currentSampleIndex <;> omega
  have nonneg :=
    exactAge_nonneg (show 0 ≤ requestedIntervalS parameter by omega)
      state.controller.remainingTimeS
      ((beginReadSamples state.controller state.request enumeratorReady
          count).extraSample +
        state.controller.currentSampleIndex)
  refine ⟨checked, sent, ?_, sent, ?_, ?_⟩
  · intro loggingInterval member
    rw [sound.saved loggingInterval member]
    exact sent
  · rw [checkedAge_eq interval (by omega) (by omega) sound.remaining_le
      remaining_nonneg index_le extra_le, signed_eq_some_iff]
    exact ⟨rfl, by omega, small⟩
  · exact ageOfLatestSample_eq interval (by omega) small

/-- What a run can lead to, apart from the samples themselves. -/
structure Reaches
    (accepted : Option UInt32) (interval remainingTimeS : Int)
    (index requested : Nat) (state : State) : Prop where
  reached : ∃ events, Run system events state
  accepted_eq : state.accepted = accepted
  interval_eq : state.controller.loggingIntervalS = interval
  remaining_eq : state.controller.remainingTimeS = remainingTimeS
  index_eq : state.controller.currentSampleIndex = index
  requested_eq : state.request.requestedNrOfSamples = requested

section Countdown

variable {accepted : Option UInt32} {interval remainingTimeS : Int}
  {index requested : Nat} {state : State}

/-- The message for one more second. -/
def second : Event := .timeElapsed 1 zeroTicks

/-- A second passes. -/
theorem Reaches.second
    (reaches :
      Reaches accepted interval remainingTimeS index requested state) :
    ∃ next,
      Reaches accepted interval
        (if remainingTimeS - 1 ≤ 0 then interval else remainingTimeS - 1)
        (if remainingTimeS - 1 ≤ 0 then (index + 1) % 2 else index)
        requested next := by
  obtain ⟨⟨events, run⟩, accepted_eq, interval_eq, remaining_eq, index_eq,
    requested_eq⟩ := reaches
  obtain ⟨keeps, remaining, flips, _⟩ :=
    evalTimeEvent_frame state.controller 1 zeroTicks
      state.controller.isAddItemPossible
  rw [remaining_eq, interval_eq] at remaining
  rw [remaining_eq, index_eq] at flips
  exact ⟨_, ⟨_, run.step SampleMetadata.second rfl⟩, accepted_eq,
    keeps.trans interval_eq, remaining, flips, requested_eq⟩

/-- The countdown runs for some seconds. -/
theorem Reaches.countdown
    (reaches :
      Reaches accepted interval remainingTimeS index requested state)
    (seconds : Nat)
    (early : (seconds : Int) < remainingTimeS) :
    ∃ next,
      Reaches accepted interval (remainingTimeS - seconds) index requested
        next := by
  induction seconds with
  | zero =>
      refine ⟨state, ?_⟩
      rw [Int.natCast_zero, Int.sub_zero]
      exact reaches
  | succ seconds inductionHypothesis =>
      obtain ⟨between, counted⟩ := inductionHypothesis (by omega)
      obtain ⟨next, ticked⟩ := counted.second
      refine ⟨next, ?_⟩
      rw [if_neg (by omega), if_neg (by omega)] at ticked
      rw [show remainingTimeS - ((seconds + 1 : Nat) : Int) =
        remainingTimeS - seconds - 1 by omega]
      exact ticked

/-- The countdown runs until a sample is recorded. -/
theorem Reaches.sample
    (reaches :
      Reaches accepted interval remainingTimeS index requested state)
    (positive : 0 < remainingTimeS) :
    ∃ next,
      Reaches accepted interval interval ((index + 1) % 2) requested
        next := by
  obtain ⟨between, counted⟩ :=
    reaches.countdown (remainingTimeS - 1).toNat (by omega)
  obtain ⟨next, ticked⟩ := counted.second
  refine ⟨next, ?_⟩
  rw [if_pos (by omega), if_pos (by omega)] at ticked
  exact ticked

end Countdown

/-- The controller after the first change of its interval. -/
def changed (parameter : UInt32) : MeasurementItemController :=
  { MeasurementItemController.static with
    loggingIntervalS := requestedIntervalS parameter }

/-- The first change of the interval, with no samples stored. -/
theorem setLoggingInterval_static
    {parameter : UInt32}
    (different : requestedIntervalS parameter ≠ 60) :
    setLoggingInterval (ItemStore.powerOn fun _ => 0xFF)
        MeasurementItemController.static parameter =
      .ok (ItemStore.powerOn fun _ => 0xFF, changed parameter,
        [.saveLoggingInterval (changed parameter).loggingIntervalMs]) := by
  have empty :
      ¬ ¬ ItemStore.isEmpty (ItemStore.powerOn fun _ => 0xFF)
        .measurementSample := by
    decide
  have changes :
      requestedIntervalS parameter ≠
        MeasurementItemController.static.loggingIntervalS :=
    different
  rw [setLoggingInterval]
  dsimp only
  rw [if_pos changes, if_neg empty]
  rfl

/-- One sample is requested and an interval is set. -/
theorem reaches_accepted
    {parameter : UInt32}
    (different : requestedIntervalS parameter ≠ 60) :
    ∃ state,
      Reaches (some parameter) (requestedIntervalS parameter) 60 0 1
        state := by
  have start :
      Run system []
        { controller := MeasurementItemController.static
          request := SampleRequestData.static
          published := []
          accepted := none } :=
    .start ⟨rfl, rfl, rfl, rfl⟩
  have requests := start.step (.setRequestedSamples 1) rfl
  let accepting : State :=
    { controller := changed parameter
      request := setRequestedSamples SampleRequestData.static 1
      published :=
        [.saveLoggingInterval (changed parameter).loggingIntervalMs]
      accepted := some parameter }
  refine ⟨accepting, ⟨_, requests.step
    (.setLoggingInterval (ItemStore.powerOn fun _ => 0xFF) parameter) ?_⟩,
    rfl, rfl, rfl, rfl, rfl⟩
  simp only [system, step, setLoggingInterval_static different]
  rfl

/-- Just before the fourth sample the age of the second one is the largest. -/
theorem reaches_oldest
    {parameter : UInt32}
    (different : requestedIntervalS parameter ≠ 60) :
    ∃ state,
      Reaches (some parameter) (requestedIntervalS parameter) 1 1 1
        state := by
  have bounds := requestedIntervalS_bounds parameter
  obtain ⟨_, accepted⟩ := reaches_accepted different
  obtain ⟨_, first⟩ := accepted.sample (by omega)
  obtain ⟨_, second⟩ := first.sample (by omega)
  obtain ⟨_, third⟩ := second.sample (by omega)
  obtain ⟨state, oldest⟩ :=
    third.countdown (requestedIntervalS parameter - 1).toNat (by omega)
  refine ⟨state, ?_⟩
  rw [show requestedIntervalS parameter -
    ((requestedIntervalS parameter - 1).toNat : Int) = 1 by omega] at oldest
  exact oldest

/-- The largest age does not fit if three intervals do not. -/
theorem not_exact_of_reaches
    {parameter : UInt32}
    {state : State}
    (reaches :
      Reaches (some parameter) (requestedIntervalS parameter) 1 1 1 state)
    (large : 715830 ≤ requestedIntervalS parameter) :
    ¬ Exact (requestedIntervalS parameter) state true 1 := by
  intro exact
  obtain ⟨_, _, interval_eq, remaining_eq, index_eq, requested_eq⟩ := reaches
  have bounds := requestedIntervalS_bounds parameter
  have extra :
      (beginReadSamples state.controller state.request true 1).extraSample =
        1 := by
    simp only [beginReadSamples, requested_eq]
    rfl
  obtain ⟨checked, _⟩ := exact.sent.2
  rw [extra, checkedAge_eq interval_eq (by omega) (by omega) (by omega)
    (by omega) (by omega) (by omega), signed_eq_some_iff] at checked
  have fits := checked.2.2
  rw [exactAge, remaining_eq, index_eq] at fits
  omega

/--
Every answer after an interval was set is exact, in every run, if and only if
three intervals in milliseconds fit into an `int32_t`.
-/
theorem metadata_exact_iff
    (parameter : UInt32) :
    (∀ events state, Run system events state →
      state.accepted = some parameter →
      ∀ enumeratorReady count,
        Exact (max 10 (10 * (parameter.toNat / 10000) : Nat)) state
          enumeratorReady count) ↔
      parameter.toNat < 715830000 := by
  rw [← requestedIntervalS_eq]
  constructor
  · intro exact
    by_contra large
    have interval : 715830 ≤ requestedIntervalS parameter := by
      rw [requestedIntervalS_eq]
      omega
    obtain ⟨state, reaches⟩ :=
      reaches_oldest (show requestedIntervalS parameter ≠ 60 by omega)
    obtain ⟨events, run⟩ := reaches.reached
    exact not_exact_of_reaches reaches interval
      (exact events state run reaches.accepted_eq true 1)
  · intro small events state run accepted enumeratorReady count
    refine exact_of_fits (sound_run run) accepted ?_ enumeratorReady count
    rw [requestedIntervalS_eq]
    omega

/-- The largest parameter a client can write has no exact answer. -/
theorem metadata_not_exact_largest :
    ¬ ∀ events state, Run system events state →
      state.accepted = some 4294967295 →
      ∀ enumeratorReady count,
        Exact (max 10 (10 * (4294967295 / 10000) : Nat)) state
          enumeratorReady count := by
  intro exact
  obtain ⟨state, reaches⟩ :=
    @reaches_accepted 4294967295 (by decide)
  obtain ⟨events, run⟩ := reaches.reached
  have checked :=
    (exact events state run reaches.accepted_eq true 1).noOverflow
  rw [checkedIntervalMs, signed_eq_some_iff, reaches.interval_eq] at checked
  exact absurd checked.2.2 (by decide)

end DemoBoard.SampleMetadata
