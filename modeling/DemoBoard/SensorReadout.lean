import DemoBoard.Crc
import DemoBoard.SensorLabels
import Mathlib.Data.Fin.VecNotation
import Mathlib.Data.Fintype.Basic

namespace DemoBoard.SensorReadout

open Crc CyclicRedundancy

open SensorController (Failure QueuedMessage Event Input State
  maxConsecutiveErrors)

open SensorRequests (RequestState Response SensorMessage Sht4xCommand
  SensorData Fails Pending Commanded evaluateCb)

open TransitionRuns

/-!
# Responses of the sensor

`ResponseReceived` and `CheckCrc` of `app_service/sensor/Sht4x.c` over the
check sum unit, which `app_service/item_store/SettingsController.c` uses as
well.  The sensor sends two words with a check sum each, and the line may
disturb them.  The response arrives in an interrupt, at any point of a
computation of the settings.
-/

/-- What the sensor sends for a read and what the line does to it. -/
structure Transfer where
  first : UInt16
  second : UInt16
  disturbance : Response
  deriving DecidableEq

/-- The bytes of a word, the most significant one first. -/
def wordBytes (word : UInt16) : List UInt8 :=
  [(word >>> 8).toUInt8, word.toUInt8]

/-- The check sum of the sensor: the polynomial `0x31`, from `0xFF` on. -/
def wordCrc (word : UInt16) : UInt8 :=
  ⟨remainder 0x31 0xFF (bitsOfBytes (wordBytes word))⟩

namespace Transfer

/-- The bytes that the sensor sends. -/
def frame (transfer : Transfer) : Response :=
  ![(transfer.first >>> 8).toUInt8, transfer.first.toUInt8,
    wordCrc transfer.first,
    (transfer.second >>> 8).toUInt8, transfer.second.toUInt8,
    wordCrc transfer.second]

/-- The bytes that arrive. -/
def received (transfer : Transfer) : Response :=
  fun place => transfer.frame place ^^^ transfer.disturbance place

/-- The bytes arrive as they are sent. -/
def Undisturbed (transfer : Transfer) : Prop :=
  ∀ place, transfer.disturbance place = 0

instance (transfer : Transfer) : Decidable transfer.Undisturbed :=
  inferInstanceAs (Decidable (∀ place, transfer.disturbance place = 0))

/-- In each word three bits at most are flipped, or bits that are close. -/
structure Noticeable (transfer : Transfer) : Prop where
  first : CyclicRedundancy.Noticeable 8
    (bitsOfBytes [transfer.disturbance 0, transfer.disturbance 1,
      transfer.disturbance 2])
  second : CyclicRedundancy.Noticeable 8
    (bitsOfBytes [transfer.disturbance 3, transfer.disturbance 4,
      transfer.disturbance 5])

/-- What the words say. -/
def value (transfer : Transfer) : Sht4xCommand → SensorData
  | .readSerialNumber =>
      .serialNumber
        (transfer.first.toUInt32 <<< 16 ||| transfer.second.toUInt32)
  | .lowRepeatabilityMeasurement =>
      .measurement transfer.first transfer.second
  | .highRepeatabilityMeasurement =>
      .measurement transfer.first transfer.second

end Transfer

/-- `CheckCrc` -/
def checkCrc (block : CrcBlock) : List UInt8 → Bool × CrcBlock
  | first :: second :: third :: rest =>
      let computed := crcComputeCrc block [first, second, third]
      if computed.1 ≠ 0 then
        (false, computed.2)
      else
        checkCrc computed.2 rest
  | _ => (true, block)

/-- The check sums match. -/
def Matches (response : Response) : Prop :=
  remainder 0x31#8 0xFF#8 (bitsOfBytes ((List.ofFn response).take 3)) = 0 ∧
    remainder 0x31#8 0xFF#8 (bitsOfBytes ((List.ofFn response).drop 3)) = 0

/-- The controller with the unit that it shares with the settings. -/
structure ReadoutState where
  requests : RequestState
  crc : CrcBlock
  /-- What is left of `ComputeCrcOnActualSetting`. -/
  computing : List CrcAction
  /-- The responses that were read. -/
  reads : List Transfer

/-- What can happen next. -/
inductive ReadoutEvent where
  | publish (input : Input)
  /-- The transfer is complete; only a read has a response. -/
  | transferComplete (transfer : Transfer)
  | transferError
  | sensorTimerElapsed
  | resetTimerElapsed
  | dispatch
  /-- `ComputeCrcOnActualSetting` begins. -/
  | computeCrc (settings : List UInt8)
  /-- The computation accesses the unit once. -/
  | advance

/-- The event calls `SetIdleState`. -/
def setsIdle (controller : State) : Event → Bool
  | .resetTimerElapsed => controller.resetTimer
  | .dispatch =>
      match controller.queue with
      | [] => false
      | message :: _ =>
          decide (Fails controller.handler message) &&
            decide
              ((controller.consecutiveErrors + 1) % 256 <
                maxConsecutiveErrors)
  | _ => false

/-- The controller goes on; `SetIdleState` disables the unit. -/
def ReadoutState.go (state : ReadoutState) (event : Event) :
    Except Failure ReadoutState := do
  let requests ← SensorRequests.step state.requests (.of event)
  .ok
    { state with
      requests := requests
      crc :=
        if setsIdle state.requests.controller event then
          acts state.crc (crcDisable state.crc.state)
        else
          state.crc }

/-- `ResponseReceived` -/
def responseReceived (state : ReadoutState) (transfer : Transfer) :
    Except Failure ReadoutState := do
  let enabled := acts state.crc (crcEnable state.crc.state)
  let checked := checkCrc enabled (List.ofFn transfer.received)
  let requests ←
    SensorRequests.step state.requests
      ⟨.transferComplete checked.1, transfer.received⟩
  .ok
    { state with
      requests := requests
      crc := checked.2
      reads := state.reads ++ [transfer] }

/-- A step of the system; impossible events do nothing. -/
def step (state : ReadoutState) :
    ReadoutEvent → Except Failure ReadoutState
  | .publish input => state.go (.publish input)
  | .transferComplete transfer =>
      if state.requests.controller.operationCompleteCb =
          some .responseReceived then
        responseReceived state transfer
      else
        state.go (.transferComplete true)
  | .transferError => state.go .transferError
  | .sensorTimerElapsed => state.go .sensorTimerElapsed
  | .resetTimerElapsed => state.go .resetTimerElapsed
  | .dispatch =>
      -- the settings are changed in the same task
      if state.computing = [] then state.go .dispatch else .ok state
  | .computeCrc settings =>
      if state.computing = [] then
        .ok
          { state with
            computing :=
              crcEnable state.crc.state ++ halCrcCalculate settings ++
                [.setState .ready] }
      else
        .ok state
  | .advance =>
      match state.computing with
      | [] => .ok state
      | action :: rest =>
          .ok { state with crc := act state.crc action, computing := rest }

/-- The initial values. -/
def static : ReadoutState where
  requests := SensorRequests.static
  crc := CrcBlock.static
  computing := []
  reads := []

/-- Runs from the start of the device on; a failure ends them. -/
def system : System (Except Failure ReadoutState) ReadoutEvent where
  start := fun outcome => outcome = .ok static
  step := fun outcome event next => (outcome >>= (step · event)) = next

/-- The unit is not disabled in the middle of a computation. -/
def Undivided
    (outcome : Except Failure ReadoutState) (event : ReadoutEvent) : Prop :=
  ∀ state, outcome = .ok state → event = .resetTimerElapsed →
    state.requests.controller.resetTimer = true → state.computing = []

/-! A response matches its check sums if it is not disturbed. -/

section Words

theorem disturb_bytes (first second third e₁ e₂ e₃ : UInt8) :
    bitsOfBytes [first ^^^ e₁, second ^^^ e₂, third ^^^ e₃] =
      disturb (bitsOfBytes [first, second, third])
        (bitsOfBytes [e₁, e₂, e₃]) := by
  simp only [bitsOfBytes_cons, UInt8.toBitVec_xor, bitsOf_xor]
  rw [disturb_append (by simp), disturb_append (by simp),
    disturb_append (by simp)]
  rfl

/-- The polynomial is good enough for two bytes and a check sum. -/
theorem separates : Separates 0x31#8 24 := by
  unfold Separates
  decide +kernel

/-- A word arrives as it was sent, or its check sum does not match. -/
theorem word_matches_iff
    {word : UInt16}
    {e₁ e₂ e₃ : UInt8}
    (noticeable : Noticeable 8 (bitsOfBytes [e₁, e₂, e₃])) :
    remainder 0x31#8 0xFF#8
        (bitsOfBytes
          [(word >>> 8).toUInt8 ^^^ e₁, word.toUInt8 ^^^ e₂,
            wordCrc word ^^^ e₃]) = 0 ↔
      e₁ = 0 ∧ e₂ = 0 ∧ e₃ = 0 := by
  have closed : remainder 0x31#8 0xFF#8
      (bitsOfBytes [(word >>> 8).toUInt8, word.toUInt8, wordCrc word]) =
        0 := by
    have codeword := @remainder_append_bitsOf 8 0x31#8 0xFF#8
      (bitsOfBytes (wordBytes word))
    simpa [wordBytes, wordCrc, bitsOfBytes] using codeword
  have length : (bitsOfBytes [e₁, e₂, e₃]).length = 24 := by
    simp [bitsOfBytes]
  have noticed := @remainder_noticeable 8 0x31#8 (by decide) (by decide)
    (bitsOfBytes [e₁, e₂, e₃]) (by rw [length]; exact separates) noticeable
  rw [disturb_bytes, remainder_disturbed (by simp [bitsOfBytes]) closed]
  refine noticed.trans ?_
  simp only [bitsOfBytes_cons, List.mem_append, not_or, true_notMem_bitsOf]
  simp [bitsOfBytes, ← UInt8.toBitVec_inj]

theorem matches_iff (response : Response) :
    Matches response ↔
      remainder 0x31#8 0xFF#8
          (bitsOfBytes [response 0, response 1, response 2]) = 0 ∧
        remainder 0x31#8 0xFF#8
          (bitsOfBytes [response 3, response 4, response 5]) = 0 := by
  simp [Matches, List.ofFn_succ]

theorem matches_received_iff
    {transfer : Transfer}
    (noticeable : transfer.Noticeable) :
    Matches transfer.received ↔ transfer.Undisturbed := by
  refine (matches_iff _).trans (Iff.trans (and_congr
    (word_matches_iff noticeable.first)
    (word_matches_iff noticeable.second)) ?_)
  rw [Transfer.Undisturbed, Fin.forall_fin_succ, Fin.forall_fin_succ,
    Fin.forall_fin_succ, Fin.forall_fin_succ, Fin.forall_fin_succ,
    Fin.forall_fin_one]
  constructor
  · rintro ⟨⟨zero, one, two⟩, three, four, five⟩
    exact ⟨zero, one, two, three, four, five⟩
  · rintro ⟨zero, one, two, three, four, five⟩
    exact ⟨⟨zero, one, two⟩, three, four, five⟩

theorem received_undisturbed
    {transfer : Transfer}
    (undisturbed : transfer.Undisturbed) :
    transfer.received = transfer.frame := by
  funext place
  rw [Transfer.received, undisturbed place, UInt8.xor_zero]

theorem joined_word (word : UInt16) :
    (word >>> 8).toUInt8.toUInt16 <<< 8 ||| word.toUInt8.toUInt16 =
      word := by
  apply UInt16.toBitVec_inj.mp
  have eight : (8 : UInt16).toBitVec % 16 = 8#16 := by decide
  refine BitVec.eq_of_getLsbD_eq fun place inside => ?_
  simp only [UInt16.toBitVec_or, UInt16.toBitVec_shiftLeft,
    UInt8.toBitVec_toUInt16, UInt16.toBitVec_toUInt8,
    UInt16.toBitVec_shiftRight, eight, BitVec.getLsbD_or,
    BitVec.shiftLeft_eq', BitVec.ushiftRight_eq', BitVec.getLsbD_shiftLeft,
    BitVec.getLsbD_setWidth, BitVec.getLsbD_ushiftRight]
  by_cases low : place < 8
  · simp [low, inside]
  · have same : 8 + (place - 8) = place := by omega
    have near : place - 8 < 8 := by omega
    have within : place - 8 < 16 := by omega
    simp [low, inside, near, within, same]

theorem toUInt32_word (word : UInt16) :
    word.toUInt32 =
      (word >>> 8).toUInt8.toUInt32 <<< 8 ||| word.toUInt8.toUInt32 := by
  apply UInt32.toBitVec_inj.mp
  have eight : (8 : UInt16).toBitVec % 16 = 8#16 := by decide
  have eight' : (8 : UInt32).toBitVec % 32 = 8#32 := by decide
  refine BitVec.eq_of_getLsbD_eq fun place inside => ?_
  simp only [UInt32.toBitVec_or, UInt32.toBitVec_shiftLeft,
    UInt8.toBitVec_toUInt32, UInt16.toBitVec_toUInt32,
    UInt16.toBitVec_toUInt8, UInt16.toBitVec_shiftRight, eight, eight',
    BitVec.getLsbD_or, BitVec.shiftLeft_eq', BitVec.ushiftRight_eq',
    BitVec.getLsbD_shiftLeft, BitVec.getLsbD_setWidth,
    BitVec.getLsbD_ushiftRight]
  by_cases low : place < 8
  · simp [low, inside]
  · have same : 8 + (place - 8) = place := by omega
    have within : place - 8 < 32 := by omega
    by_cases near : place - 8 < 8
    · simp [low, inside, near, within, same]
    · have beyond := BitVec.getLsbD_of_ge word.toBitVec place (by omega)
      simp [low, inside, near, beyond]

theorem joined_words (first second : UInt16) :
    (first >>> 8).toUInt8.toUInt32 <<< 24 |||
          first.toUInt8.toUInt32 <<< 16 |||
        (second >>> 8).toUInt8.toUInt32 <<< 8 |||
      second.toUInt8.toUInt32 =
        first.toUInt32 <<< 16 ||| second.toUInt32 := by
  have shifted : ∀ byte : UInt32, byte <<< 8 <<< 16 = byte <<< 24 :=
    fun byte =>
      (@UInt32.shiftLeft_add byte 8 16 (by decide) (by decide)
        (by decide)).symm
  rw [toUInt32_word first, toUInt32_word second, UInt32.shiftLeft_or, shifted,
    UInt32.or_assoc, UInt32.or_assoc]

/-- The words are decoded as they were sent. -/
theorem evaluateCb_frame
    (transfer : Transfer)
    (command : Sht4xCommand) :
    evaluateCb command transfer.frame = transfer.value command := by
  cases command with
  | readSerialNumber =>
      exact congrArg SensorData.serialNumber (joined_words _ _)
  | lowRepeatabilityMeasurement =>
      exact congrArg₂ SensorData.measurement (joined_word _) (joined_word _)
  | highRepeatabilityMeasurement =>
      exact congrArg₂ SensorData.measurement (joined_word _) (joined_word _)

end Words

instance (response : Response) : Decidable (Matches response) :=
  inferInstanceAs (Decidable (_ ∧ _))

/-- What is left of a computation keeps the clock running. -/
structure Continues (block : CrcBlock) (computing : List CrcAction) :
    Prop where
  running : ∀ action ∈ computing,
    action ≠ .clockDisable ∧ action ≠ .setState .reset
  clock : block.clock = true ∨ computing = [] ∨
    computing.head? = some .clockEnable

/-- What holds between two events. -/
structure Invariant (state : ReadoutState) : Prop where
  usable : Usable state.crc
  continues : Continues state.crc state.computing
  pending : Pending state.requests.controller
  commanded : Commanded state.requests
  decoded : ∀ message ∈ state.requests.published, ∃ command,
    message.evaluated = some command ∧
      message.data = some (evaluateCb command message.response)
  published : state.requests.published.map SensorMessage.response =
    (state.reads.filter (Matches ·.received)).map Transfer.received

section Unit

variable {block : CrcBlock}

theorem usable_of_enabled (enabled : Enabled block) : Usable block :=
  fun _ => enabled.clock

theorem matches_remainder (bytes : List UInt8) :
    remainder (generatingPolynomial.setWidth 8)
        (defaultCrcInitValue.setWidth 8) (bitsOfBytes bytes) =
      remainder 0x31#8 0xFF#8 (bitsOfBytes bytes) :=
  rfl

/-- The loop over the words looks at both check sums. -/
theorem checkCrc_eq
    (enabled : Enabled block)
    (response : Response) :
    Enabled (checkCrc block (List.ofFn response)).2 ∧
      (checkCrc block (List.ofFn response)).1 =
        decide (Matches response) := by
  have bytes : List.ofFn response =
      [response 0, response 1, response 2, response 3, response 4,
        response 5] := by
    simp [List.ofFn_succ]
  have first := crcComputeCrc_eq enabled [response 0, response 1, response 2]
  have second := crcComputeCrc_eq first.1
    [response 3, response 4, response 5]
  rw [matches_remainder] at first second
  rw [bytes, checkCrc]
  split
  · next wrong =>
      refine ⟨first.1, (decide_eq_false fun sums => wrong ?_).symm⟩
      exact first.2.trans ((matches_iff _).mp sums).1
  · next right =>
      have one := first.2.symm.trans (not_not.mp right)
      rw [checkCrc]
      split
      · next wrong =>
          refine ⟨second.1, (decide_eq_false fun sums => wrong ?_).symm⟩
          exact second.2.trans ((matches_iff _).mp sums).2
      · next right =>
          have two := second.2.symm.trans (not_not.mp right)
          refine ⟨second.1, (decide_eq_true ?_).symm⟩
          exact (matches_iff _).mpr ⟨one, two⟩

/-- Whatever the settings left behind, the unit can be enabled. -/
theorem Continues.advance
    {action : CrcAction}
    {rest : List CrcAction}
    (continues : Continues block (action :: rest)) :
    Usable (act block action) ∧ Continues (act block action) rest := by
  obtain ⟨running, clock⟩ := continues
  have here := running action (List.mem_cons_self ..)
  have behind : ∀ other ∈ rest,
      other ≠ .clockDisable ∧ other ≠ .setState .reset :=
    fun other member => running other (List.mem_cons_of_mem _ member)
  have clocked : (act block action).clock = true := by
    rcases clock with on | none | enable
    · cases action with
      | clockDisable => exact absurd rfl here.1
      | clockEnable => rfl
      | setState state => exact on
      | _ => simp [act, on]
    · cases none
    · obtain rfl : action = .clockEnable := by simpa using enable
      rfl
  exact ⟨fun _ => clocked, behind, .inl clocked⟩

/-- A computation of the settings can begin at any time. -/
theorem continues_computing
    (usable : Usable block)
    (settings : List UInt8) :
    Continues block
      (crcEnable block.state ++ halCrcCalculate settings ++
        [.setState .ready]) := by
  have handled : ∀ action ∈ crcHandle8 settings,
      ∃ bits, action = .writeDr bits := by
    induction settings using crcHandle8.induct with
    | case1 => exact fun _ member => absurd member List.not_mem_nil
    | case2 byte => simp [crcHandle8]
    | case3 first second => simp [crcHandle8]
    | case4 first second third => simp [crcHandle8]
    | case5 first second third fourth rest inductionHypothesis =>
        intro action member
        rw [crcHandle8, List.mem_cons] at member
        rcases member with rfl | later
        · exact ⟨_, rfl⟩
        · exact inductionHypothesis action later
  constructor
  · intro action member
    rw [crcEnable_eq, halCrcCalculate] at member
    simp only [List.mem_append, List.mem_cons, List.not_mem_nil,
      or_false] at member
    rcases member with ((enable | set) | begun | data) | ready
    · split at enable
      · rw [List.mem_singleton.mp enable]
        simp
      · exact absurd enable List.not_mem_nil
    · rcases set with rfl | rfl | rfl | rfl | rfl <;> simp
    · rcases begun with rfl | rfl <;> simp
    · obtain ⟨bits, rfl⟩ := handled action data
      simp
    · rw [ready]
      simp
  · by_cases reset : block.state = .reset
    · right
      right
      rw [crcEnable_eq, if_pos reset]
      rfl
    · exact .inl (usable reset)

theorem usable_crcDisable (usable : Usable block) :
    Usable (acts block (crcDisable block.state)) := by
  rw [crcDisable, halCrcDeInit]
  split
  · exact usable
  · exact fun used => absurd rfl used

end Unit

section Steps

variable {state next : ReadoutState} {requests after : RequestState}

/-- Only a read publishes sensor data. -/
theorem published_of_step
    {event : Event}
    (pending : Pending requests.controller)
    (noRead : ∀ crcMatches, event = .transferComplete crcMatches →
      requests.controller.operationCompleteCb ≠ some .responseReceived)
    (stepped : SensorRequests.step requests (.of event) = .ok after) :
    after.published = requests.published := by
  cases event with
  | publish input =>
      cases stepped
      rfl
  | transferComplete crcMatches =>
      have other := noRead crcMatches rfl
      rw [SensorRequests.step] at stepped
      dsimp only [SensorRequests.BusEvent.of] at stepped
      obtain ⟨controller, moved, rfl⟩ := SensorRequests.lift_eq_ok stepped
      split
      · rfl
      · next reading => exact absurd reading other
      · rfl
  | transferError =>
      obtain ⟨controller, moved, rfl⟩ := SensorRequests.lift_eq_ok stepped
      rfl
  | sensorTimerElapsed =>
      obtain ⟨controller, moved, rfl⟩ := SensorRequests.lift_eq_ok stepped
      rfl
  | resetTimerElapsed =>
      obtain rfl | ⟨_, rfl⟩ :=
        SensorRequests.resetTimerElapsed_eq_ok pending stepped
      · rfl
      · rfl
  | dispatch =>
      obtain rfl | ⟨message, rest, _, received⟩ :=
        SensorRequests.dispatch_eq_ok stepped
      · rfl
      · cases received <;> rfl

/-- The controller goes on. -/
theorem Invariant.go
    (invariant : Invariant state)
    (event : Event)
    (noRead : ∀ crcMatches, event = .transferComplete crcMatches →
      state.requests.controller.operationCompleteCb ≠
        some .responseReceived)
    (undivided : setsIdle state.requests.controller event = true →
      state.computing = [])
    (stepped : state.go event = .ok next) :
    Invariant next := by
  obtain ⟨requests, moved, done⟩ := bind_eq_ok stepped
  cases done
  have same := published_of_step invariant.pending noRead moved
  refine ⟨?_, ?_, SensorRequests.pending_step invariant.pending moved,
    SensorRequests.commanded_step invariant.pending invariant.commanded moved,
    ?_, ?_⟩
  · dsimp only
    split
    · exact usable_crcDisable invariant.usable
    · exact invariant.usable
  · dsimp only
    split
    · next disabled =>
        rw [undivided disabled]
        exact ⟨nofun, .inr (.inl rfl)⟩
    · exact invariant.continues
  · dsimp only
    rw [same]
    exact invariant.decoded
  · dsimp only
    rw [same]
    exact invariant.published

/-- What a complete read does to the requests. -/
theorem responseReceived_requests
    {matching : Bool}
    {response : Response}
    (reading : requests.controller.operationCompleteCb =
      some .responseReceived)
    (stepped :
      SensorRequests.step requests ⟨.transferComplete matching, response⟩ =
        .ok after) :
    after =
      { requests with
        controller :=
          { requests.controller with
            operationCompleteCb := none
            queue := requests.controller.queue ++
              [if matching then .sensorData else .sensorError] }
        published := requests.published ++
          if matching then
            [{ parameter1 := requests.parameter1
               evaluated := requests.command
               response := response
               data := requests.command.map (evaluateCb · response) }]
          else
            [] } := by
  cases matching with
  | true =>
      rw [SensorRequests.transferComplete_response reading] at stepped
      cases stepped
      rfl
  | false =>
      rw [SensorRequests.step, SensorController.step] at stepped
      dsimp only at stepped
      rw [reading] at stepped
      cases stepped
      simp [SensorController.OperationCompleteCb.message,
        SensorController.OperationCompleteCb.over]

/-- A response is checked before it is published. -/
theorem responseReceived_eq
    {transfer : Transfer}
    (usable : Usable state.crc)
    (stepped : responseReceived state transfer = .ok next) :
    Enabled next.crc ∧ next.computing = state.computing ∧
      next.reads = state.reads ++ [transfer] ∧
      SensorRequests.step state.requests
        ⟨.transferComplete (decide (Matches transfer.received)),
          transfer.received⟩ = .ok next.requests := by
  have enabled := enabled_crcEnable usable
  have checked := checkCrc_eq enabled transfer.received
  rw [responseReceived] at stepped
  obtain ⟨requests, moved, done⟩ := bind_eq_ok stepped
  cases done
  rw [checked.2] at moved
  exact ⟨checked.1, rfl, rfl, moved⟩

/-- A complete read keeps what is published and what was read together. -/
theorem Invariant.responseReceived
    {transfer : Transfer}
    (invariant : Invariant state)
    (reading : state.requests.controller.operationCompleteCb =
      some .responseReceived)
    (stepped : responseReceived state transfer = .ok next) :
    Invariant next := by
  obtain ⟨enabled, computing, reads, moved⟩ :=
    responseReceived_eq invariant.usable stepped
  have pending := SensorRequests.pending_step invariant.pending moved
  have after := responseReceived_requests reading moved
  have commanded := SensorRequests.commanded_step invariant.pending
    invariant.commanded moved
  obtain ⟨command, isCommand⟩ := Option.ne_none_iff_exists'.mp
    (invariant.commanded.reading reading)
  refine ⟨usable_of_enabled enabled, ?_, pending, commanded, ?_, ?_⟩
  · rw [computing]
    exact ⟨invariant.continues.running, .inl enabled.clock⟩
  · rw [after]
    intro message member
    rcases List.mem_append.mp member with before | last
    · exact invariant.decoded message before
    · split at last
      · rw [List.mem_singleton.mp last]
        refine ⟨command, isCommand, ?_⟩
        dsimp only
        rw [isCommand]
        rfl
      · exact absurd last List.not_mem_nil
  · rw [after, reads, List.filter_append, List.map_append, List.map_append,
      invariant.published]
    congr 1
    by_cases matching : Matches transfer.received <;> simp [matching]

/-- Every step keeps the invariant. -/
theorem Invariant.step
    {event : ReadoutEvent}
    (invariant : Invariant state)
    (undivided : Undivided (.ok state) event)
    (stepped : step state event = .ok next) :
    Invariant next := by
  cases event with
  | publish input =>
      exact invariant.go (.publish input) (by rintro _ ⟨⟩) (by rintro ⟨⟩)
        stepped
  | transferComplete transfer =>
      rw [SensorReadout.step] at stepped
      split at stepped
      · next reading => exact invariant.responseReceived reading stepped
      · next other =>
          exact invariant.go (.transferComplete true) (fun _ _ => other)
            (by rintro ⟨⟩) stepped
  | transferError =>
      exact invariant.go .transferError (by rintro _ ⟨⟩) (by rintro ⟨⟩)
        stepped
  | sensorTimerElapsed =>
      exact invariant.go .sensorTimerElapsed (by rintro _ ⟨⟩)
        (by rintro ⟨⟩) stepped
  | resetTimerElapsed =>
      exact invariant.go .resetTimerElapsed (by rintro _ ⟨⟩)
        (undivided state rfl rfl) stepped
  | dispatch =>
      rw [SensorReadout.step] at stepped
      split at stepped
      · next idle =>
          exact invariant.go .dispatch (by rintro _ ⟨⟩) (fun _ => idle)
            stepped
      · cases stepped
        exact invariant
  | computeCrc settings =>
      rw [SensorReadout.step] at stepped
      split at stepped
      · cases stepped
        exact ⟨invariant.usable,
          continues_computing invariant.usable settings, invariant.pending,
          invariant.commanded, invariant.decoded, invariant.published⟩
      · cases stepped
        exact invariant
  | advance =>
      rw [SensorReadout.step] at stepped
      split at stepped
      · cases stepped
        exact invariant
      · next action rest computing =>
          have continues := invariant.continues
          rw [computing] at continues
          obtain ⟨usable, goesOn⟩ := continues.advance
          cases stepped
          exact ⟨usable, goesOn, invariant.pending, invariant.commanded,
            invariant.decoded, invariant.published⟩

end Steps

theorem invariant_run
    {events : List ReadoutEvent}
    {state : ReadoutState}
    (run : Run (system.restrict Undivided) events (.ok state)) :
    Invariant state := by
  refine @Run.invariant _ _ _
    (fun outcome => ∀ state, outcome = .ok state → Invariant state) ?_ ?_ _ _
    run state rfl
  · rintro _ starts state rfl
    cases starts
    exact ⟨fun used => absurd rfl used, ⟨nofun, .inr (.inl rfl)⟩,
      ⟨nofun, nofun⟩, ⟨fun notIdle => absurd rfl notIdle, nofun⟩, nofun,
      rfl⟩
  · rintro before event _ kept ⟨moves, undivided⟩ state rfl
    obtain ⟨first, rfl, stepped⟩ := bind_eq_ok moves
    exact (kept first rfl).step undivided stepped

/--
Sensor data is published for exactly the responses that arrive as the sensor
sent them, in their order and with the values of the sensor; for the others an
error is published.  This holds on a line that flips up to three bits of each
word or bits that are close, and whatever computation of the settings the
response interrupts.
-/
theorem sensor_data_genuine
    {events : List ReadoutEvent}
    {state : ReadoutState}
    (run : Run (system.restrict Undivided) events (.ok state))
    (noticeable : ∀ transfer ∈ state.reads, transfer.Noticeable) :
    state.requests.published.map SensorMessage.response =
      (state.reads.filter (·.Undisturbed)).map Transfer.frame ∧
    (∀ message ∈ state.requests.published, ∃ transfer ∈ state.reads,
      transfer.Undisturbed ∧ ∃ command,
        message.evaluated = some command ∧
          message.data = some (transfer.value command)) ∧
    ∀ transfer next,
      state.requests.controller.operationCompleteCb =
        some .responseReceived →
      transfer.Noticeable →
      step state (.transferComplete transfer) = .ok next →
        next.requests.controller.queue =
          state.requests.controller.queue ++
            [if transfer.Undisturbed then .sensorData else .sensorError] := by
  have invariant := invariant_run run
  have accepted : state.reads.filter (Matches ·.received) =
      state.reads.filter (·.Undisturbed) :=
    List.filter_congr fun transfer member =>
      decide_eq_decide.mpr (matches_received_iff (noticeable transfer member))
  have published : state.requests.published.map SensorMessage.response =
      (state.reads.filter (·.Undisturbed)).map Transfer.frame := by
    rw [invariant.published, accepted]
    refine List.map_congr_left fun transfer member => ?_
    have undisturbed := (List.mem_filter.mp member).2
    exact received_undisturbed (of_decide_eq_true undisturbed)
  refine ⟨published, fun message member => ?_,
    fun transfer next reading few stepped => ?_⟩
  · have response : message.response ∈
        (state.reads.filter (·.Undisturbed)).map Transfer.frame := by
      rw [← published]
      exact List.mem_map_of_mem member
    obtain ⟨transfer, kept, frame⟩ := List.mem_map.mp response
    obtain ⟨read, undisturbed⟩ := List.mem_filter.mp kept
    obtain ⟨command, evaluated, data⟩ := invariant.decoded message member
    refine ⟨transfer, read, of_decide_eq_true undisturbed, command, evaluated,
      ?_⟩
    rw [data, ← frame, evaluateCb_frame transfer command]
  · rw [step, if_pos reading] at stepped
    obtain ⟨_, _, _, moved⟩ := responseReceived_eq invariant.usable stepped
    rw [responseReceived_requests reading moved]
    simp only [decide_eq_true_eq, matches_received_iff few]

/-- Events one after the other. -/
def outcomeOf (events : List ReadoutEvent) : Except Failure ReadoutState :=
  events.foldl (fun outcome event => outcome >>= (step · event)) (.ok static)

/-- The unit is not disabled as long as the reset timer does not elapse. -/
theorem run_outcomeOf
    {events : List ReadoutEvent}
    (noReset : .resetTimerElapsed ∉ events) :
    Run (system.restrict Undivided) events (outcomeOf events) := by
  induction events using List.reverseRecOn with
  | nil => exact .start rfl
  | append_singleton events event inductionHypothesis =>
      rw [List.mem_append, not_or] at noReset
      rw [outcomeOf, List.foldl_append]
      refine .step (inductionHypothesis noReset.1) event ⟨rfl, ?_⟩
      rintro _ _ rfl
      exact absurd (List.mem_singleton.mpr rfl) noReset.2

/-- The serial number arrives as it was sent. -/
def serialNumberTransfer : Transfer where
  first := 0x1234
  second := 0x5678
  disturbance := fun _ => 0

/-- One bit of a measurement is flipped. -/
def disturbedTransfer : Transfer where
  first := 0x6666
  second := 0x8000
  disturbance := ![0, 0x10, 0, 0, 0, 0]

/-- The second response interrupts a computation of the settings. -/
def interruptedEvents : List ReadoutEvent :=
  [.publish .bleSubsystemReady, .dispatch,
    .transferComplete serialNumberTransfer, .dispatch, .sensorTimerElapsed,
    .dispatch, .transferComplete serialNumberTransfer, .dispatch,
    .transferComplete serialNumberTransfer, .publish .timeElapsed, .dispatch,
    .dispatch, .computeCrc [1, 2, 3, 4, 5], .advance, .advance,
    .advance, .advance, .advance, .advance, .advance, .advance,
    .transferComplete disturbedTransfer]

/-- What is left at the end of a run. -/
def leftBy (state : ReadoutState) :
    List Transfer × List (Option SensorData) × List QueuedMessage ×
      List CrcAction :=
  (state.reads, state.requests.published.map SensorMessage.data,
    state.requests.controller.queue, state.computing)

theorem interruptedEvents_left :
    (outcomeOf interruptedEvents).toOption.map leftBy =
      some
        ([serialNumberTransfer, disturbedTransfer],
          [some (.serialNumber 0x12345678)], [.sensorError],
          [.writeDr (bitsOf 5#8), .setState .ready]) := by
  decide +kernel

theorem sensor_data_genuine_interrupted :
    ∃ state,
      Run (system.restrict Undivided) interruptedEvents (.ok state) ∧
      state.computing = [.writeDr (bitsOf 5#8), .setState .ready] ∧
      state.requests.controller.queue = [.sensorError] ∧
      state.requests.published.map SensorMessage.response =
        [serialNumberTransfer.frame] ∧
      ∀ message ∈ state.requests.published, ∃ transfer ∈ state.reads,
        transfer.Undisturbed ∧ ∃ command,
          message.evaluated = some command ∧
            message.data = some (transfer.value command) := by
  have left := interruptedEvents_left
  have run := @run_outcomeOf interruptedEvents (by
    rw [interruptedEvents]
    simp)
  cases outcome : outcomeOf interruptedEvents with
  | error failure =>
      rw [outcome] at left
      cases left
  | ok state =>
      rw [outcome] at left run
      have parts := Option.some.inj left
      rw [leftBy, Prod.mk.injEq, Prod.mk.injEq, Prod.mk.injEq] at parts
      obtain ⟨reads, _, queue, computing⟩ := parts
      have noticeable : ∀ transfer ∈ state.reads, transfer.Noticeable := by
        rw [reads]
        intro transfer member
        rcases List.mem_pair.mp member with rfl | rfl
        · exact ⟨.inl (by decide +kernel), .inl (by decide +kernel)⟩
        · exact ⟨.inl (by decide +kernel), .inl (by decide +kernel)⟩
      obtain ⟨published, values, _⟩ := sensor_data_genuine run noticeable
      refine ⟨state, run, computing, queue, ?_, values⟩
      have undisturbed : [serialNumberTransfer, disturbedTransfer].filter
          (fun transfer => transfer.Undisturbed) =
            [serialNumberTransfer] := by
        decide +kernel
      rw [published, reads, undisturbed]
      rfl

end DemoBoard.SensorReadout
