import DemoBoard.BleGap
import DemoBoard.TransitionRuns

namespace DemoBoard

open TransitionRuns

/-!
# Advertising over a stack whose calls can fail

`BleGap_AdvertiseRequest` changes the connection status before it knows whether
the stack starts to advertise, and does not look at whether the stack stopped.
Here a call of the stack either succeeds or changes nothing.
-/

/-- The calls of the BLE stack that start and stop advertising. -/
structure BleStack where
  setDiscoverable : Radio → Advertising → Radio × Bool
  setNonDiscoverable : Radio → Radio × Bool

/-- The parameters that advertise in a mode. -/
def AdvertisementMode.advertising (mode : AdvertisementMode) :
    Advertising where
  connectable := mode.connectable
  minInterval := (advertiseIntervalSpec mode.interval).1
  maxInterval := (advertiseIntervalSpec mode.interval).2

namespace BleGap

/-- `BleGap_AdvertiseRequest` over any stack. -/
def advertiseRequestOn
    (stack : BleStack) (gap : BleGap) (mode : AdvertisementMode) :
    BleGap :=
  let left :=
    if gap.context.deviceConnectionStatus = .advertising ∧
        gap.context.currentAdvertisementMode ≠ mode then
      { context := { gap.context with deviceConnectionStatus := .idle }
        radio := (stack.setNonDiscoverable gap.radio).1 }
    else
      gap
  if left.context.deviceConnectionStatus = .idle then
    let started := stack.setDiscoverable left.radio mode.advertising
    { context :=
        { left.context with
          deviceConnectionStatus := .advertising
          currentAdvertisementMode :=
            if started.2 then
              mode
            else
              left.context.currentAdvertisementMode }
      radio := started.1 }
  else
    left

/-- `BleGap_AdvertiseCancel` over any stack. -/
def advertiseCancelOn (stack : BleStack) (gap : BleGap) : BleGap :=
  if gap.context.deviceConnectionStatus ≠ .connectedServer then
    let stopped := stack.setNonDiscoverable gap.radio
    if stopped.2 then
      { context :=
          { gap.context with
            deviceConnectionStatus := .idle
            currentAdvertisementMode :=
              { gap.context.currentAdvertisementMode with
                connectable := false } }
        radio := stopped.1 }
    else
      { gap with radio := stopped.1 }
  else
    gap

/-- A stack whose calls succeed or fail. -/
def fallibleStack (answers : Answers) : BleStack where
  setDiscoverable := fun radio advertising =>
    if answers.setDiscoverable then
      ({ radio with advertising := some advertising }, true)
    else
      (radio, false)
  setNonDiscoverable := fun radio =>
    if answers.setNonDiscoverable then
      ({ radio with advertising := none }, true)
    else
      (radio, false)

/-- The calls of the application and the outcomes of the stack calls. -/
inductive AdvertiseCall where
  | request (mode : AdvertisementMode) (answers : Answers)
  | cancel (answers : Answers)

/-- What a call does. -/
def call (gap : BleGap) : AdvertiseCall → BleGap
  | .request mode answers =>
      gap.advertiseRequestOn (fallibleStack answers) mode
  | .cancel answers => gap.advertiseCancelOn (fallibleStack answers)

/-- A request in a mode calls `aci_gap_set_discoverable`. -/
def triesToStart (gap : BleGap) (mode : AdvertisementMode) : Bool :=
  gap.context.deviceConnectionStatus = .idle ∨
    gap.context.deviceConnectionStatus = .advertising ∧
      gap.context.currentAdvertisementMode ≠ mode

/-- The calls from an idle device without a connection on. -/
def advertiseSystem : System BleGap AdvertiseCall where
  start := fun gap =>
    gap.context.deviceConnectionStatus = .idle ∧
      gap.radio.advertising = none ∧ gap.radio.connection = none
  step := fun gap call next => next = gap.call call

/-- The status and the mode say what the controller does. -/
structure Mirrors (gap : BleGap) : Prop where
  status :
    gap.context.deviceConnectionStatus = .advertising ↔
      gap.radio.advertising ≠ none
  mode : gap.context.deviceConnectionStatus = .advertising →
    gap.radio.advertising =
      some gap.context.currentAdvertisementMode.advertising

/-- A call keeps the agreement, and a failed start is tried again. -/
structure Keeps (gap : BleGap) (call : AdvertiseCall) : Prop where
  mirrors : Mirrors (gap.call call)
  retries : ∀ mode answers, call = .request mode answers →
    gap.triesToStart mode = true → answers.setDiscoverable = false →
    (gap.call call).triesToStart mode = true

/-- A start does not fail while the controller is silent or silenced. -/
def Proper (gap : BleGap) : AdvertiseCall → Prop
  | .request mode answers =>
      answers.setDiscoverable = false →
      gap.context.deviceConnectionStatus = .advertising ∧
        (gap.context.currentAdvertisementMode = mode ∨
          answers.setNonDiscoverable = false)
  | .cancel _ => True

instance (gap : BleGap) (call : AdvertiseCall) :
    Decidable (Proper gap call) :=
  match call with
  | .request mode answers =>
      inferInstanceAs
        (Decidable (answers.setDiscoverable = false →
          gap.context.deviceConnectionStatus = .advertising ∧
            (gap.context.currentAdvertisementMode = mode ∨
              answers.setNonDiscoverable = false)))
  | .cancel _ => .isTrue trivial

/-- The invariant of the calls. -/
structure Advertises (gap : BleGap) : Prop extends Mirrors gap where
  alone :
    gap.context.deviceConnectionStatus = .idle ∨
      gap.context.deviceConnectionStatus = .advertising

section Calls

variable {gap : BleGap}
variable {mode : AdvertisementMode}
variable {answers : Answers}

/-- The controller while the status is idle. -/
theorem Advertises.silent
    (advertises : Advertises gap)
    (idle : gap.context.deviceConnectionStatus = .idle) :
    gap.radio.advertising = none := by
  by_contra speaks
  have status := advertises.status.mpr speaks
  rw [idle] at status
  cases status

/-- A request in the mode of the running advertising changes nothing. -/
theorem request_same
    (status : gap.context.deviceConnectionStatus = .advertising)
    (same : gap.context.currentAdvertisementMode = mode)
    (answers : Answers) :
    gap.call (.request mode answers) = gap := by
  simp [call, advertiseRequestOn, status, same]

/-- What a request leaves behind that calls the stack. -/
def started (gap : BleGap) (mode : AdvertisementMode) (answers : Answers) :
    BleGap where
  context :=
    { gap.context with
      deviceConnectionStatus := .advertising
      currentAdvertisementMode :=
        if answers.setDiscoverable then
          mode
        else
          gap.context.currentAdvertisementMode }
  radio :=
    { gap.radio with
      advertising :=
        if answers.setDiscoverable then
          some mode.advertising
        else if gap.context.deviceConnectionStatus = .advertising ∧
            answers.setNonDiscoverable then
          none
        else
          gap.radio.advertising }

/-- A request of an idle device, or in another mode. -/
theorem request_started
    (tries : gap.triesToStart mode = true)
    (answers : Answers) :
    gap.call (.request mode answers) = gap.started mode answers := by
  rcases gap with ⟨context, radio⟩
  rcases answers with ⟨setDiscoverable, setNonDiscoverable⟩
  simp only [triesToStart, decide_eq_true_eq] at tries
  rcases tries with idle | ⟨status, other⟩
  · cases setDiscoverable <;>
      simp [call, advertiseRequestOn, fallibleStack, started, idle]
  · cases setDiscoverable <;> cases setNonDiscoverable <;>
      simp [call, advertiseRequestOn, fallibleStack, started, status, other]

/-- A request either calls the stack or is in the current mode. -/
theorem Advertises.request_cases
    (advertises : Advertises gap)
    (mode : AdvertisementMode) :
    gap.triesToStart mode = true ∨
      gap.context.deviceConnectionStatus = .advertising ∧
        gap.context.currentAdvertisementMode = mode := by
  simp only [triesToStart, decide_eq_true_eq]
  by_cases same : gap.context.currentAdvertisementMode = mode
  · rcases advertises.alone with idle | status
    · exact .inl (.inl idle)
    · exact .inr ⟨status, same⟩
  · rcases advertises.alone with idle | status
    · exact .inl (.inl idle)
    · exact .inl (.inr ⟨status, same⟩)

/-- A cancellation of an idle or advertising device. -/
theorem cancel_eq
    (advertises : Advertises gap)
    (answers : Answers) :
    gap.call (.cancel answers) =
      if answers.setNonDiscoverable then
        { context :=
            { gap.context with
              deviceConnectionStatus := .idle
              currentAdvertisementMode :=
                { gap.context.currentAdvertisementMode with
                  connectable := false } }
          radio := { gap.radio with advertising := none } }
      else
        gap := by
  have notConnected :
      gap.context.deviceConnectionStatus ≠ .connectedServer := by
    rcases advertises.alone with status | status <;> simp [status]
  cases success : answers.setNonDiscoverable <;>
    simp [call, advertiseCancelOn, fallibleStack, notConnected, success]

/-- What the controller does after a start under the condition. -/
theorem started_advertising
    (advertises : Advertises gap)
    (proper : Proper gap (.request mode answers))
    (tries : gap.triesToStart mode = true) :
    (gap.started mode answers).radio.advertising =
      some (gap.started mode
        answers).context.currentAdvertisementMode.advertising := by
  simp only [started]
  cases success : answers.setDiscoverable with
  | true => rfl
  | false =>
      obtain ⟨status, kept⟩ := proper success
      have notStopped : answers.setNonDiscoverable = false := by
        rcases kept with same | failed
        · simp [triesToStart, status, same] at tries
        · exact failed
      rw [notStopped]
      simpa [status] using advertises.mode status

/-- A start that succeeds, or fails beside an advertising controller. -/
theorem Advertises.started
    (advertises : Advertises gap)
    (proper : Proper gap (.request mode answers))
    (tries : gap.triesToStart mode = true) :
    Advertises (gap.started mode answers) := by
  have speaks := started_advertising advertises proper tries
  exact
    { status := by
        rw [speaks]
        exact ⟨nofun, fun _ => rfl⟩
      mode := fun _ => speaks
      alone := .inr rfl }

/-- A call under the condition keeps the agreement. -/
theorem Advertises.call
    (advertises : Advertises gap)
    {call : AdvertiseCall}
    (proper : Proper gap call) :
    Advertises (gap.call call) := by
  cases call with
  | request mode answers =>
      rcases advertises.request_cases mode with tries | ⟨status, same⟩
      · rw [request_started tries]
        exact advertises.started proper tries
      · rw [request_same status same]
        exact advertises
  | cancel answers =>
      rw [cancel_eq advertises]
      split
      · exact
          { status := by simp
            mode := nofun
            alone := .inl rfl }
      · exact advertises

/-- A failed start under the condition is tried again. -/
theorem retries_of_proper
    (proper : Proper gap (.request mode answers))
    (tries : gap.triesToStart mode = true)
    (failed : answers.setDiscoverable = false) :
    (gap.call (.request mode answers)).triesToStart mode = true := by
  obtain ⟨status, _⟩ := proper failed
  rw [request_started tries]
  simp only [triesToStart, status, reduceCtorEq, true_and, false_or,
    decide_eq_true_eq] at tries
  simp [triesToStart, BleGap.started, failed, tries]

/-- The condition is exact for every call. -/
theorem Advertises.keeps_iff
    (advertises : Advertises gap)
    (call : AdvertiseCall) :
    Keeps gap call ↔ Proper gap call := by
  constructor
  · intro keeps
    cases call with
    | cancel answers => trivial
    | request mode answers =>
        intro failed
        rcases advertises.request_cases mode with tries | ⟨status, same⟩
        · have mirrors := keeps.mirrors
          rw [request_started tries] at mirrors
          have speaks := mirrors.status.mp rfl
          simp only [BleGap.started, failed, Bool.false_eq_true, if_false]
            at speaks
          rcases advertises.alone with idle | status
          · rw [if_neg (by simp [idle])] at speaks
            exact (speaks (advertises.silent idle)).elim
          · refine ⟨status, .inr ?_⟩
            by_contra stopped
            rw [if_pos ⟨status, by simpa using stopped⟩] at speaks
            exact speaks rfl
        · exact ⟨status, .inl same⟩
  · intro proper
    refine ⟨(advertises.call proper).toMirrors, ?_⟩
    rintro mode answers rfl tries failed
    exact retries_of_proper proper tries failed

end Calls

/--
The status mirrors the controller in every run under the condition, and the
condition is exact for every further call.
-/
theorem status_mirrors
    {calls : List AdvertiseCall}
    {gap : BleGap}
    (run : Run (advertiseSystem.restrict Proper) calls gap) :
    Mirrors gap ∧ ∀ call, Keeps gap call ↔ Proper gap call := by
  have advertises : Advertises gap := by
    refine run.invariant ?_ ?_
    · rintro gap ⟨idle, silent, _⟩
      exact
        { status := by simp [idle, silent]
          mode := by simp [idle]
          alone := .inl idle }
    · rintro gap call next advertises ⟨rfl, proper⟩
      exact advertises.call proper
  exact ⟨advertises.toMirrors, advertises.keeps_iff⟩

/-- A device that does nothing. -/
def silentDevice : BleGap where
  context :=
    { connectionHandle := 0
      deviceConnectionStatus := .idle
      timeRunningSeconds := 0
      automaticBleOff := false
      currentApplicationState := 0
      currentAdvertisementMode := { connectable := true, interval := .short } }
  radio := { advertising := none, connection := none }

/-- A connectable advertisement. -/
def connectableMode : AdvertisementMode where
  connectable := true
  interval := .short

/-- A beacon. -/
def beaconMode : AdvertisementMode where
  connectable := false
  interval := .long

/-- A mode that cannot be left, two cancellations and another mode. -/
def switchedCalls : List AdvertiseCall :=
  [ .request connectableMode
      { setDiscoverable := true, setNonDiscoverable := true },
    .request beaconMode
      { setDiscoverable := false, setNonDiscoverable := false },
    .cancel { setDiscoverable := true, setNonDiscoverable := false },
    .cancel { setDiscoverable := true, setNonDiscoverable := true },
    .request beaconMode
      { setDiscoverable := true, setNonDiscoverable := true } ]

/-- Calls succeed and fail, and the next failure is the first one that shows. -/
theorem status_mirrors_switched :
    ∃ gap,
      Run (advertiseSystem.restrict Proper) switchedCalls gap ∧
        gap.radio.advertising = some beaconMode.advertising ∧
        Mirrors gap ∧
        Keeps gap
          (.request connectableMode
            { setDiscoverable := false, setNonDiscoverable := false }) ∧
        ¬ Keeps gap
          (.request connectableMode
            { setDiscoverable := false, setNonDiscoverable := true }) := by
  have start : Run (advertiseSystem.restrict Proper) [] silentDevice :=
    .start ⟨rfl, rfl, rfl⟩
  have moves (gap : BleGap) (call : AdvertiseCall) (next : BleGap)
      (called : some (gap.call call) = some next) :
      advertiseSystem.step gap call next :=
    (Option.some.inj called).symm
  have run : Run (advertiseSystem.restrict Proper) switchedCalls _ :=
    Run.follow moves switchedCalls start rfl
  obtain ⟨mirrors, condition⟩ := status_mirrors run
  refine ⟨_, run, rfl, mirrors, ?_, ?_⟩
  · exact (condition _).mpr fun _ => ⟨rfl, .inr rfl⟩
  · rw [condition]
    intro proper
    rcases (proper rfl).2 with same | failed
    · cases same
    · cases failed

/-- A failed start leaves the status at advertising, and is not repeated. -/
theorem status_mirrors_not_failed :
    ∃ gap,
      Run advertiseSystem
          [.request connectableMode
            { setDiscoverable := false, setNonDiscoverable := true }]
          gap ∧
        ¬ Mirrors gap ∧ gap.triesToStart connectableMode = false := by
  have start : Run advertiseSystem [] silentDevice :=
    .start ⟨rfl, rfl, rfl⟩
  refine ⟨_, .step start _ rfl, ?_, rfl⟩
  intro mirrors
  exact mirrors.status.mp rfl rfl

end BleGap

end DemoBoard
