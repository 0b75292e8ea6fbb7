import DemoBoard.Messages

namespace DemoBoard

/-!
# Advertising

Model of `BleGap_AdvertiseRequest` and `BleGap_AdvertiseCancel` together with
what the radio does.  The radio starts to advertise when it does not, and
stops when it does; how it answers a command that makes no sense at the moment
is an input.  Advertisement data and characteristics are left out.
-/

/-- `BleTypes_ConnStatus_t` -/
inductive ConnStatus where
  | idle
  | advertising
  | lpConnecting
  | connectedServer
  | connectedClient
  deriving Repr, DecidableEq

/-- `BleTypes_AdvertisementInterval_t` -/
inductive AdvertisementInterval where
  | long
  | medium
  | short
  deriving Repr, DecidableEq

/-- `BleTypes_AdvertisementMode_t` -/
structure AdvertisementMode where
  connectable : Bool
  interval : AdvertisementInterval
  deriving Repr, DecidableEq

/-- The value of an interval in a message. -/
def AdvertisementInterval.toParameter : AdvertisementInterval → UInt32
  | .long => 0
  | .medium => 1
  | .short => 2

/-- The message parameter that carries an advertisement mode. -/
def AdvertisementMode.toParameter (mode : AdvertisementMode) : UInt32 :=
  mode.connectable.toUInt32 + 256 * mode.interval.toParameter

/-- The advertisement mode that a message parameter carries. -/
def AdvertisementMode.ofParameter (parameter : UInt32) :
    AdvertisementMode where
  connectable := parameter % 256 ≠ 0
  interval :=
    if parameter / 256 % 256 = 0 then
      .long
    else if parameter / 256 % 256 = 1 then
      .medium
    else
      .short

/-- The mode that is put into a message is taken out of it. -/
theorem AdvertisementMode.ofParameter_toParameter
    (mode : AdvertisementMode) :
    ofParameter mode.toParameter = mode := by
  rcases mode with ⟨connectable, interval⟩
  cases connectable <;> cases interval <;> decide

/-- `BleTypes_ApplicationContext_t` -/
structure BleApplicationContext where
  connectionHandle : UInt16
  deviceConnectionStatus : ConnStatus
  timeRunningSeconds : UInt64
  automaticBleOff : Bool
  currentApplicationState : UInt8
  currentAdvertisementMode : AdvertisementMode
  deriving Repr, DecidableEq

/-- The parameters of `aci_gap_set_discoverable`. -/
structure Advertising where
  connectable : Bool
  minInterval : UInt16
  maxInterval : UInt16
  deriving Repr, DecidableEq

/-- What the radio does, and the handle of the connected central. -/
structure Radio where
  advertising : Option Advertising
  connection : Option UInt16
  deriving Repr, DecidableEq

/-- How the radio answers where its answer is not determined. -/
structure Answers where
  setDiscoverable : Bool
  setNonDiscoverable : Bool
  deriving Repr, DecidableEq

/-- `aci_gap_set_discoverable`, and if it is successful. -/
def Radio.setDiscoverable
    (radio : Radio) (answers : Answers) (advertising : Advertising) :
    Radio × Bool :=
  if radio.advertising = none then
    ({ radio with advertising := some advertising }, true)
  else
    (radio, answers.setDiscoverable)

/-- `aci_gap_set_non_discoverable`, and if it is successful. -/
def Radio.setNonDiscoverable (radio : Radio) (answers : Answers) :
    Radio × Bool :=
  if radio.advertising = none then
    (radio, answers.setNonDiscoverable)
  else
    ({ radio with advertising := none }, true)

/-- `_advertiseIntervalSpec` -/
def advertiseIntervalSpec : AdvertisementInterval → UInt16 × UInt16
  | .long => (0x1F40, 0x2580)
  | .medium => (0xC80, 0xFA0)
  | .short => (0x130, 0x150)

/-- The application context and the radio. -/
structure BleGap where
  context : BleApplicationContext
  radio : Radio
  deriving Repr, DecidableEq

namespace BleGap

/-- Stop advertising when another mode is requested. -/
def leaveMode
    (gap : BleGap) (answers : Answers) (mode : AdvertisementMode) :
    BleGap :=
  if gap.context.deviceConnectionStatus = .advertising ∧
      gap.context.currentAdvertisementMode ≠ mode then
    { context := { gap.context with deviceConnectionStatus := .idle }
      radio := (gap.radio.setNonDiscoverable answers).1 }
  else
    gap

/-- `BleGap_AdvertiseRequest` -/
def advertiseRequest
    (gap : BleGap) (answers : Answers) (mode : AdvertisementMode) :
    BleGap :=
  let left := gap.leaveMode answers mode
  if left.context.deviceConnectionStatus = .idle then
    let started :=
      left.radio.setDiscoverable answers
        { connectable := mode.connectable
          minInterval := (advertiseIntervalSpec mode.interval).1
          maxInterval := (advertiseIntervalSpec mode.interval).2 }
    { context :=
        { left.context with
          deviceConnectionStatus := .advertising
          currentAdvertisementMode :=
            if started.2 then
              mode
            else
              left.context.currentAdvertisementMode }
      radio := started.1 }
  else
    left

/-- `BleGap_AdvertiseCancel` -/
def advertiseCancel (gap : BleGap) (answers : Answers) : BleGap :=
  if gap.context.deviceConnectionStatus ≠ .connectedServer then
    let stopped := gap.radio.setNonDiscoverable answers
    if stopped.2 then
      { context :=
          { gap.context with
            deviceConnectionStatus := .idle
            currentAdvertisementMode :=
              { gap.context.currentAdvertisementMode with
                connectable := false } }
        radio := stopped.1 }
    else
      { gap with radio := stopped.1 }
  else
    gap

/-- The connection status says what the radio does. -/
inductive Agrees : BleGap → Prop where
  | idle
      {gap : BleGap}
      (status : gap.context.deviceConnectionStatus = .idle)
      (silent : gap.radio.advertising = none)
      (alone : gap.radio.connection = none) :
      Agrees gap
  | advertising
      {gap : BleGap}
      (status : gap.context.deviceConnectionStatus = .advertising)
      (advertises : gap.radio.advertising ≠ none)
      (alone : gap.radio.connection = none) :
      Agrees gap
  | connected
      {gap : BleGap}
      (status : gap.context.deviceConnectionStatus = .connectedServer)
      (silent : gap.radio.advertising = none)
      (connection :
        gap.radio.connection = some gap.context.connectionHandle) :
      Agrees gap

/-- The fields of the context that advertising does not touch. -/
structure SameApplication (before after : BleGap) : Prop where
  connectionHandle :
    after.context.connectionHandle = before.context.connectionHandle
  currentApplicationState :
    after.context.currentApplicationState =
      before.context.currentApplicationState
  connection : after.radio.connection = before.radio.connection

theorem setNonDiscoverable_advertising
    (radio : Radio) (answers : Answers) :
    (radio.setNonDiscoverable answers).1.advertising = none := by
  unfold Radio.setNonDiscoverable
  split
  · assumption
  · rfl

theorem setNonDiscoverable_connection
    (radio : Radio) (answers : Answers) :
    (radio.setNonDiscoverable answers).1.connection = radio.connection := by
  unfold Radio.setNonDiscoverable
  split <;> rfl

theorem setDiscoverable_connection
    (radio : Radio) (answers : Answers) (advertising : Advertising) :
    (radio.setDiscoverable answers advertising).1.connection =
      radio.connection := by
  unfold Radio.setDiscoverable
  split <;> rfl

theorem setDiscoverable_advertising
    (radio : Radio) (answers : Answers) (advertising : Advertising) :
    (radio.setDiscoverable answers advertising).1.advertising ≠ none := by
  unfold Radio.setDiscoverable
  split
  · simp
  · assumption

theorem leaveMode_sameApplication
    (gap : BleGap) (answers : Answers) (mode : AdvertisementMode) :
    SameApplication gap (gap.leaveMode answers mode) := by
  unfold leaveMode
  split
  · exact ⟨rfl, rfl, setNonDiscoverable_connection gap.radio answers⟩
  · exact ⟨rfl, rfl, rfl⟩

theorem Agrees.leaveMode
    {gap : BleGap}
    (agrees : gap.Agrees)
    (answers : Answers)
    (mode : AdvertisementMode) :
    (gap.leaveMode answers mode).Agrees := by
  unfold BleGap.leaveMode
  split
  · rename_i changes
    cases agrees with
    | idle status => simp [status] at changes
    | advertising status advertises alone =>
        refine .idle rfl (setNonDiscoverable_advertising gap.radio answers) ?_
        exact (setNonDiscoverable_connection gap.radio answers).trans alone
    | connected status => simp [status] at changes
  · exact agrees

theorem advertiseRequest_sameApplication
    (gap : BleGap) (answers : Answers) (mode : AdvertisementMode) :
    SameApplication gap (gap.advertiseRequest answers mode) := by
  have left := leaveMode_sameApplication gap answers mode
  unfold advertiseRequest
  dsimp only
  split
  · exact ⟨left.connectionHandle, left.currentApplicationState,
      (setDiscoverable_connection ..).trans left.connection⟩
  · exact left

/-- A request keeps the agreement, and a lone device then advertises. -/
theorem Agrees.advertiseRequest
    {gap : BleGap}
    (agrees : gap.Agrees)
    (answers : Answers)
    (mode : AdvertisementMode) :
    (gap.advertiseRequest answers mode).Agrees := by
  unfold BleGap.advertiseRequest
  dsimp only
  split
  · rename_i idle
    cases agrees.leaveMode answers mode with
    | idle status silent alone =>
        refine .advertising rfl ?_
          ((setDiscoverable_connection ..).trans alone)
        exact setDiscoverable_advertising _ answers _
    | advertising status => simp [status] at idle
    | connected status => simp [status] at idle
  · exact agrees.leaveMode answers mode

theorem advertiseCancel_sameApplication
    (gap : BleGap) (answers : Answers) :
    SameApplication gap (gap.advertiseCancel answers) := by
  unfold advertiseCancel
  dsimp only
  split
  · split
    · exact ⟨rfl, rfl, setNonDiscoverable_connection gap.radio answers⟩
    · exact ⟨rfl, rfl, setNonDiscoverable_connection gap.radio answers⟩
  · exact ⟨rfl, rfl, rfl⟩

/-- After a cancellation a lone device is idle. -/
theorem Agrees.advertiseCancel
    {gap : BleGap}
    (agrees : gap.Agrees)
    (answers : Answers) :
    (gap.advertiseCancel answers).Agrees ∧
      (gap.radio.connection = none →
        (gap.advertiseCancel answers).context.deviceConnectionStatus =
          .idle) := by
  unfold BleGap.advertiseCancel
  dsimp only
  cases agrees with
  | idle status silent alone =>
      have silentAfter := setNonDiscoverable_advertising gap.radio answers
      have aloneAfter :=
        (setNonDiscoverable_connection gap.radio answers).trans alone
      rw [if_pos (by simp [status])]
      split
      · exact ⟨.idle rfl silentAfter aloneAfter, fun _ => rfl⟩
      · exact ⟨.idle status silentAfter aloneAfter, fun _ => status⟩
  | advertising status advertises alone =>
      have silentAfter := setNonDiscoverable_advertising gap.radio answers
      have aloneAfter :=
        (setNonDiscoverable_connection gap.radio answers).trans alone
      have succeeds : (gap.radio.setNonDiscoverable answers).2 = true := by
        rw [Radio.setNonDiscoverable, if_neg advertises]
      rw [if_pos (by simp [status]), if_pos succeeds]
      exact ⟨.idle rfl silentAfter aloneAfter, fun _ => rfl⟩
  | connected status silent connection =>
      rw [if_neg (by simp [status])]
      exact ⟨.connected status silent connection,
        fun alone => by simp [alone] at connection⟩

/-- The status is idle just when the device does nothing. -/
theorem Agrees.silent
    {gap : BleGap}
    (agrees : gap.Agrees)
    (status : gap.context.deviceConnectionStatus = .idle) :
    gap.radio.advertising = none ∧ gap.radio.connection = none := by
  cases agrees with
  | idle _ silent alone => exact ⟨silent, alone⟩
  | advertising other => simp [status] at other
  | connected other => simp [status] at other

end BleGap

end DemoBoard
