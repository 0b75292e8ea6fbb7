import DemoBoard.BleSubsystem

namespace DemoBoard

namespace BleSubsystem

/-!
# Critical battery

What the BLE subsystem does once the critical battery level is recorded.  The
message that switches the radio off has no effect while a central is
connected, and it is lost when the queue is full.
-/

/-- `BATTERY_MONITOR_APP_STATE_CRITICAL_BATTERY_LEVEL` is recorded. -/
def Critical (ble : BleSubsystem) : Prop :=
  ble.gap.context.currentApplicationState =
    BatteryState.criticalBatteryLevel

instance (ble : BleSubsystem) : Decidable ble.Critical :=
  inferInstanceAs (Decidable (_ = _))

/-- A message that makes `BleDefaultStateCb` switch the radio off. -/
def switchesOff (message : Message) : Bool :=
  isBleOff message || isLongPress message

/-- A message that switches the radio off is waiting. -/
def SwitchOffQueued (ble : BleSubsystem) : Prop :=
  ∃ message ∈ ble.queue.contents, switchesOff message

instance (ble : BleSubsystem) : Decidable ble.SwitchOffQueued :=
  inferInstanceAs (Decidable (∃ message ∈ ble.queue.contents, _))

/-- The radio is off, or something will still stop it. -/
def Ending (ble : BleSubsystem) : Prop :=
  ble.handler = .bleDisabledState ∨ ble.gap.radio.connection ≠ none ∨
    ble.SwitchOffQueued

instance (ble : BleSubsystem) : Decidable ble.Ending :=
  inferInstanceAs (Decidable (_ ∨ _ ∨ _))

/-- A report of the critical battery level. -/
def isCriticalReport (message : Message) : Bool :=
  message.category = Category.batteryEvent ∧
    message.id = batteryStateChange ∧
    message.currentState = BatteryState.criticalBatteryLevel

/-- The status agrees with the radio, and a disabled subsystem is idle. -/
structure Sound (ble : BleSubsystem) : Prop where
  agrees : ble.gap.Agrees
  disabled_idle :
    ble.handler = .bleDisabledState →
      ble.gap.context.deviceConnectionStatus = .idle

/-- What the handling of application messages leaves alone. -/
structure Extended (before after : BleSubsystem) : Prop where
  radio : after.gap.radio = before.gap.radio
  status :
    after.gap.context.deviceConnectionStatus =
      before.gap.context.deviceConnectionStatus
  handle :
    after.gap.context.connectionHandle =
      before.gap.context.connectionHandle
  handler : after.handler = before.handler
  queue : before.queue.contents ⊆ after.queue.contents

theorem Extended.refl (ble : BleSubsystem) : Extended ble ble :=
  ⟨rfl, rfl, rfl, rfl, List.Subset.refl _⟩

/-- The queue only grows, even where a message is dropped. -/
theorem publishBleMessage_queue (ble : BleSubsystem) (message : Message) :
    ble.queue.contents ⊆ (ble.publishBleMessage message).queue.contents := by
  unfold publishBleMessage
  by_cases room : ble.queue.isFull = false
  · rw [(ble.queue.contents_enqueue room message).2]
    exact List.subset_append_left ..
  · rw [ble.queue.enqueue_full (by simpa using room)]
    exact List.Subset.refl _

theorem publishBleMessage_extended
    (ble : BleSubsystem) (message : Message) :
    Extended ble (ble.publishBleMessage message) :=
  ⟨rfl, rfl, rfl, rfl, publishBleMessage_queue ble message⟩

/-- With room in the queue the message is queued. -/
theorem mem_publishBleMessage
    {ble : BleSubsystem}
    (room : ble.queue.isFull = false)
    (message : Message) :
    message ∈ (ble.publishBleMessage message).queue.contents := by
  rw [publishBleMessage, (ble.queue.contents_enqueue room message).2]
  simp

theorem handleBatteryState_extended (ble : BleSubsystem) (state : UInt8) :
    Extended ble (ble.handleBatteryState state) := by
  unfold handleBatteryState
  split
  · exact .refl ble
  split
  · exact ⟨rfl, rfl, rfl, rfl,
      publishBleMessage_queue (ble.recordState state) bleOffMessage⟩
  · exact ⟨rfl, rfl, rfl, rfl, List.Subset.refl _⟩

theorem forwardStateChange_extended
    (ble : BleSubsystem) (message : Message) :
    Extended ble (ble.forwardStateChange message) := by
  unfold forwardStateChange
  split
  · exact publishBleMessage_extended ..
  split
  · exact publishBleMessage_extended ..
  split
  · exact publishBleMessage_extended ..
  · exact .refl ble

theorem forwardStateChange_critical
    (ble : BleSubsystem) (message : Message) :
    (ble.forwardStateChange message).Critical ↔ ble.Critical := by
  unfold forwardStateChange
  repeat' split
  all_goals rfl

theorem forwardToBleApp_extended
    (ble : BleSubsystem) (message : Message) :
    Extended ble (ble.forwardToBleApp message) := by
  unfold forwardToBleApp
  split
  · exact ⟨rfl, rfl, rfl, rfl, List.Subset.refl _⟩
  split
  · exact publishBleMessage_extended ble message
  split
  · split
    · exact .refl ble
    · exact publishBleMessage_extended ble message
  split
  · exact forwardStateChange_extended ble message
  split
  · exact handleBatteryState_extended ble message.currentState
  split
  · exact publishBleMessage_extended ble message
  · exact .refl ble

theorem receiveAppMessage_extended
    (ble : BleSubsystem) (message : Message) :
    Extended ble (ble.receiveAppMessage message) := by
  unfold receiveAppMessage
  split
  · exact .refl ble
  · exact forwardToBleApp_extended ble message

theorem handleBatteryState_critical
    {ble : BleSubsystem}
    {state : UInt8}
    (critical : (ble.handleBatteryState state).Critical) :
    ble.Critical ∨
      state = BatteryState.criticalBatteryLevel ∧
        (ble.queue.isFull = false →
          (ble.handleBatteryState state).SwitchOffQueued) := by
  unfold handleBatteryState at *
  split at critical
  · exact .inl critical
  split at critical
  · refine .inr ⟨critical, fun room => ?_⟩
    rw [if_neg (by assumption), if_pos (by assumption)]
    exact ⟨bleOffMessage,
      @mem_publishBleMessage (ble.recordState state) room bleOffMessage,
      by decide⟩
  · rename_i notOff
    have reported : state = BatteryState.criticalBatteryLevel := critical
    rw [reported] at notOff
    exact absurd ⟨by decide, .inl rfl⟩ notOff

/-- The critical level is recorded by a report, and `BLE_OFF` is queued. -/
theorem receiveAppMessage_critical
    {ble : BleSubsystem}
    {message : Message}
    (critical : (ble.receiveAppMessage message).Critical) :
    ble.Critical ∨
      isCriticalReport message ∧
        (ble.queue.isFull = false →
          (ble.receiveAppMessage message).SwitchOffQueued) := by
  unfold receiveAppMessage at *
  split at critical
  · exact .inl critical
  rename_i delivered
  rw [if_neg delivered]
  unfold forwardToBleApp at *
  split at critical
  · exact .inl critical
  split at critical
  · exact .inl critical
  split at critical
  · split at critical
    · exact .inl critical
    · exact .inl critical
  split at critical
  · exact .inl ((forwardStateChange_critical ble message).mp critical)
  split at critical
  · rename_i notTime notSensor notPress notState report
    rw [if_neg notTime, if_neg notSensor, if_neg notPress, if_neg notState,
      if_pos report]
    rcases handleBatteryState_critical critical with was | ⟨new, queued⟩
    · exact .inl was
    · exact .inr
        ⟨by simp [isCriticalReport, report.1, report.2, new], queued⟩
  split at critical
  · exact .inl critical
  · exact .inl critical

/-- The critical level is never recovered from. -/
theorem receiveAppMessage_staysCritical
    {ble : BleSubsystem}
    (critical : ble.Critical)
    (message : Message) :
    (ble.receiveAppMessage message).Critical := by
  have same (state : UInt8) : ble.handleBatteryState state = ble :=
    if_pos critical
  unfold receiveAppMessage
  split
  · exact critical
  unfold forwardToBleApp
  split
  · exact critical
  split
  · exact critical
  split
  · split
    · exact critical
    · exact critical
  split
  · exact (forwardStateChange_critical ble message).mpr critical
  split
  · rw [same]
    exact critical
  split
  · exact critical
  · exact critical

theorem Extended.sound
    {before after : BleSubsystem}
    (extended : Extended before after)
    (sound : before.Sound) :
    after.Sound := by
  refine ⟨?_, fun disabled => ?_⟩
  · cases sound.agrees with
    | idle status silent alone =>
        exact .idle (extended.status.trans status)
          (extended.radio ▸ silent) (extended.radio ▸ alone)
    | advertising status advertises alone =>
        exact .advertising (extended.status.trans status)
          (extended.radio ▸ advertises) (extended.radio ▸ alone)
    | connected status silent connection =>
        exact .connected (extended.status.trans status)
          (extended.radio ▸ silent)
          (by rw [extended.radio, extended.handle, connection])
  · rw [extended.status]
    exact sound.disabled_idle (extended.handler ▸ disabled)

theorem Extended.ending
    {before after : BleSubsystem}
    (extended : Extended before after)
    (ending : before.Ending) :
    after.Ending := by
  rcases ending with disabled | connected | ⟨message, queued, off⟩
  · exact .inl (extended.handler.trans disabled)
  · exact .inr (.inl (extended.radio ▸ connected))
  · exact .inr (.inr ⟨message, extended.queue queued, off⟩)

/-- What the handling of a message of the BLE task leaves alone. -/
structure Handled (before after : BleSubsystem) : Prop where
  queue : after.queue = before.queue
  connection : after.gap.radio.connection = before.gap.radio.connection
  critical : after.Critical ↔ before.Critical

theorem Handled.refl (ble : BleSubsystem) : Handled ble ble :=
  ⟨rfl, rfl, Iff.rfl⟩

theorem Handled.of_gap
    {ble : BleSubsystem}
    {gap : BleGap}
    (same : BleGap.SameApplication ble.gap gap) :
    Handled ble { ble with gap := gap } := by
  refine ⟨rfl, same.connection, ?_⟩
  rw [Critical, Critical, same.currentApplicationState]

/-- The default state keeps advertising and status in agreement. -/
theorem Sound.of_default
    {ble : BleSubsystem}
    {gap : BleGap}
    (default : ble.handler = .bleDefaultState)
    (agrees : gap.Agrees) :
    Sound { ble with gap := gap } :=
  ⟨agrees, fun disabled => by simp [default] at disabled⟩

theorem switchBleOff_handled (ble : BleSubsystem) (answers : Answers) :
    Handled ble (ble.switchBleOff answers).ble := by
  have same := BleGap.advertiseCancel_sameApplication ble.gap answers
  unfold switchBleOff
  dsimp only
  split
  · exact ⟨rfl, same.connection,
      by rw [Critical, Critical, same.currentApplicationState]⟩
  · exact .of_gap same

theorem switchBleOff_sound
    {ble : BleSubsystem}
    (sound : ble.Sound)
    (default : ble.handler = .bleDefaultState)
    (answers : Answers) :
    (ble.switchBleOff answers).ble.Sound := by
  have agrees := (sound.agrees.advertiseCancel answers).1
  unfold switchBleOff
  dsimp only
  split
  · exact ⟨agrees, fun _ => by assumption⟩
  · exact .of_default default agrees

/-- Without a central the radio is switched off. -/
theorem switchBleOff_disables
    {ble : BleSubsystem}
    (sound : ble.Sound)
    (alone : ble.gap.radio.connection = none)
    (answers : Answers) :
    (ble.switchBleOff answers).ble.handler = .bleDisabledState := by
  have idle := (sound.agrees.advertiseCancel answers).2 alone
  rw [switchBleOff, if_pos idle]

theorem bleDefaultState_handled
    (ble : BleSubsystem) (answers : Answers) (message : Message) :
    Handled ble (ble.bleDefaultState answers message).ble := by
  unfold bleDefaultState
  split
  · split
    · exact .refl ble
    · exact .of_gap (BleGap.advertiseRequest_sameApplication ..)
  split
  · exact .of_gap (BleGap.advertiseCancel_sameApplication ..)
  split
  · exact .of_gap (BleGap.advertiseRequest_sameApplication ..)
  split
  · exact switchBleOff_handled ble answers
  split
  · exact switchBleOff_handled ble answers
  · exact .refl ble

theorem bleDefaultState_sound
    {ble : BleSubsystem}
    (sound : ble.Sound)
    (default : ble.handler = .bleDefaultState)
    (answers : Answers)
    (message : Message) :
    (ble.bleDefaultState answers message).ble.Sound := by
  unfold bleDefaultState
  split
  · split
    · exact sound
    · exact .of_default default (sound.agrees.advertiseRequest ..)
  split
  · exact .of_default default (sound.agrees.advertiseCancel answers).1
  split
  · exact .of_default default (sound.agrees.advertiseRequest ..)
  split
  · exact switchBleOff_sound sound default answers
  split
  · exact switchBleOff_sound sound default answers
  · exact sound

theorem bleDefaultState_switchesOff
    {message : Message}
    (off : switchesOff message)
    (ble : BleSubsystem)
    (answers : Answers) :
    ble.bleDefaultState answers message = ble.switchBleOff answers := by
  simp only [switchesOff, isBleOff, isLongPress, Bool.or_eq_true,
    decide_eq_true_eq] at off
  rcases off with ⟨ofBle, isOff⟩ | ⟨ofButton, isLong⟩
  · simp [bleDefaultState, isBleOff, ofBle, isOff, Category.bleEvent,
      Category.sensorValue, BleInterface.bleOff, BleInterface.stopAdvertise,
      BleInterface.startAdvertise]
  · simp [bleDefaultState, isBleOff, isLongPress, ofButton, isLong,
      Category.bleEvent, Category.sensorValue, Category.buttonEvent]

theorem switchBleOn_handled (ble : BleSubsystem) (answers : Answers) :
    Handled ble (ble.switchBleOn answers).ble := by
  unfold switchBleOn
  dsimp only
  have same :=
    BleGap.advertiseRequest_sameApplication
      { ble.gap with
        context :=
          if ble.gap.context.currentApplicationState =
              BatteryState.reducedOperation then
            { ble.gap.context with automaticBleOff := false }
          else
            ble.gap.context }
      answers shortMode
  refine ⟨rfl, same.connection, ?_⟩
  rw [Critical, Critical, same.currentApplicationState]
  split <;> rfl

theorem switchBleOn_sound
    {ble : BleSubsystem}
    (sound : ble.Sound)
    (disabled : ble.handler = .bleDisabledState)
    (answers : Answers) :
    (ble.switchBleOn answers).ble.Sound := by
  have idle := sound.disabled_idle disabled
  obtain ⟨silent, alone⟩ := sound.agrees.silent idle
  unfold switchBleOn
  refine ⟨?_, fun off => by simp at off⟩
  apply BleGap.Agrees.advertiseRequest
  refine .idle ?_ silent alone
  dsimp only
  split <;> exact idle

theorem bleDisabledState_handled
    (ble : BleSubsystem) (answers : Answers) (message : Message) :
    Handled ble (ble.bleDisabledState answers message).ble := by
  unfold bleDisabledState
  split
  · split
    · exact .refl ble
    · exact switchBleOn_handled ble answers
  · exact .refl ble

theorem bleDisabledState_sound
    {ble : BleSubsystem}
    (sound : ble.Sound)
    (disabled : ble.handler = .bleDisabledState)
    (answers : Answers)
    (message : Message) :
    (ble.bleDisabledState answers message).ble.Sound := by
  unfold bleDisabledState
  split
  · split
    · exact sound
    · exact switchBleOn_sound sound disabled answers
  · exact sound

/-- In the critical state no message switches the radio on again. -/
theorem bleDisabledState_critical
    {ble : BleSubsystem}
    (critical : ble.Critical)
    (answers : Answers)
    (message : Message) :
    (ble.bleDisabledState answers message).ble = ble := by
  unfold bleDisabledState
  split
  · exact congrArg BleOutcome.ble (if_pos critical)
  · rfl

theorem handleBleMessage_handled
    (ble : BleSubsystem) (answers : Answers) (message : Message) :
    Handled ble (ble.handleBleMessage answers message).ble := by
  unfold handleBleMessage
  split
  · exact .refl ble
  · split
    · exact bleDefaultState_handled ble answers message
    · exact bleDisabledState_handled ble answers message

theorem handleBleMessage_sound
    {ble : BleSubsystem}
    (sound : ble.Sound)
    (answers : Answers)
    (message : Message) :
    (ble.handleBleMessage answers message).ble.Sound := by
  unfold handleBleMessage
  split
  · exact sound
  · split
    · exact bleDefaultState_sound sound (by assumption) answers message
    · exact bleDisabledState_sound sound (by assumption) answers message

/-- A disabled subsystem stays disabled in the critical state. -/
theorem handleBleMessage_disabled
    {ble : BleSubsystem}
    (critical : ble.Critical)
    (disabled : ble.handler = .bleDisabledState)
    (answers : Answers)
    (message : Message) :
    (ble.handleBleMessage answers message).ble = ble := by
  unfold handleBleMessage
  rw [disabled]
  split
  · rfl
  · exact bleDisabledState_critical critical answers message

/-- Without a central, a message to switch off leaves the radio disabled. -/
theorem handleBleMessage_switchesOff
    {ble : BleSubsystem}
    {message : Message}
    (sound : ble.Sound)
    (critical : ble.Critical)
    (alone : ble.gap.radio.connection = none)
    (off : switchesOff message)
    (answers : Answers) :
    (ble.handleBleMessage answers message).ble.handler =
      .bleDisabledState := by
  have delivered : appListenerMask &&& message.category ≠ 0 := by
    simp only [switchesOff, isBleOff, isLongPress, Bool.or_eq_true,
      decide_eq_true_eq] at off
    rcases off with ⟨ofBle, -⟩ | ⟨ofButton, -⟩
    · rw [ofBle]
      decide
    · rw [ofButton]
      decide
  cases handler : ble.handler with
  | bleDefaultState =>
      rw [handleBleMessage, if_neg delivered, handler]
      dsimp only
      rw [bleDefaultState_switchesOff off]
      exact switchBleOff_disables sound alone answers
  | bleDisabledState =>
      rw [handleBleMessage_disabled critical handler answers message]
      exact handler

theorem runBleMessageDispatch_sound
    {ble : BleSubsystem}
    (sound : ble.Sound)
    (answers : Answers) :
    (ble.runBleMessageDispatch answers).ble.Sound := by
  unfold runBleMessageDispatch
  split
  · exact sound
  · apply handleBleMessage_sound
    exact ⟨sound.agrees, sound.disabled_idle⟩

theorem runBleMessageDispatch_critical
    (ble : BleSubsystem) (answers : Answers) :
    (ble.runBleMessageDispatch answers).ble.Critical ↔ ble.Critical := by
  unfold runBleMessageDispatch
  split
  · rfl
  · exact (handleBleMessage_handled ..).critical

/-- A dispatch leaves the radio off, or what will still stop it. -/
theorem runBleMessageDispatch_ending
    {ble : BleSubsystem}
    (sound : ble.Sound)
    (critical : ble.Critical)
    (ending : ble.Ending)
    (answers : Answers) :
    (ble.runBleMessageDispatch answers).ble.Ending := by
  unfold runBleMessageDispatch
  cases queued : ble.queue.contents with
  | nil =>
      rw [ble.queue.dequeue_empty queued]
      exact ending
  | cons message rest =>
      obtain ⟨taken, remaining⟩ := ble.queue.contents_dequeue queued
      rw [taken]
      dsimp only
      generalize eq : { ble with queue := ble.queue.dequeue.1 } = next
      have nextSound : next.Sound := by
        rw [← eq]
        exact ⟨sound.agrees, sound.disabled_idle⟩
      have nextCritical : next.Critical := by
        rw [← eq]
        exact critical
      have handled := handleBleMessage_handled next answers message
      rcases ending with disabled | connected | ⟨off, member, switches⟩
      · have nextDisabled : next.handler = .bleDisabledState := by
          rw [← eq]
          exact disabled
        rw [handleBleMessage_disabled nextCritical nextDisabled]
        exact .inl nextDisabled
      · refine .inr (.inl ?_)
        rw [handled.connection, ← eq]
        exact connected
      · rw [queued, List.mem_cons] at member
        rcases member with rfl | later
        · by_cases alone : next.gap.radio.connection = none
          · exact .inl (handleBleMessage_switchesOff nextSound nextCritical
              alone switches answers)
          · refine .inr (.inl ?_)
            rwa [handled.connection]
        · refine .inr (.inr ⟨off, ?_, switches⟩)
          rw [handled.queue, ← eq, remaining]
          exact later

theorem connectionComplete_sound
    {ble : BleSubsystem}
    (sound : ble.Sound)
    (advertises : ble.gap.radio.advertising ≠ none)
    (handle : UInt16) :
    (ble.connectionComplete handle).Sound := by
  have status :
      ble.gap.context.deviceConnectionStatus = .advertising := by
    cases sound.agrees with
    | idle _ silent => exact absurd silent advertises
    | advertising status => exact status
    | connected _ silent => exact absurd silent advertises
  refine ⟨.connected ?_ rfl rfl, fun disabled => ?_⟩
  · simp [connectionComplete, status]
  · have idle := sound.disabled_idle disabled
    rw [status] at idle
    cases idle

/-- The central that disconnects is the recorded one. -/
theorem closeConnection_agrees
    {gap : BleGap}
    {handle : UInt16}
    (agrees : gap.Agrees)
    (connected : gap.radio.connection = some handle) :
    (closeConnection gap handle).Agrees := by
  cases agrees with
  | idle _ _ alone => simp [alone] at connected
  | advertising _ _ alone => simp [alone] at connected
  | connected _ silent connection =>
      have recorded : handle = gap.context.connectionHandle := by
        rw [connection] at connected
        exact (Option.some.inj connected).symm
      rw [closeConnection, if_pos recorded]
      exact .idle rfl silent rfl

theorem disconnectionComplete_sound
    {ble : BleSubsystem}
    {handle : UInt16}
    (sound : ble.Sound)
    (connected : ble.gap.radio.connection = some handle)
    (answers : Answers) :
    (ble.disconnectionComplete answers handle).ble.Sound := by
  have closed := closeConnection_agrees sound.agrees connected
  refine ⟨(closed.advertiseCancel answers).1.advertiseRequest answers _,
    fun disabled => ?_⟩
  have idle := sound.disabled_idle disabled
  have alone := (sound.agrees.silent idle).2
  rw [alone] at connected
  cases connected

theorem disconnectionComplete_critical
    (ble : BleSubsystem) (answers : Answers) (handle : UInt16) :
    (ble.disconnectionComplete answers handle).ble.Critical ↔
      ble.Critical := by
  have cancelled :=
    BleGap.advertiseCancel_sameApplication
      (closeConnection ble.gap handle) answers
  unfold disconnectionComplete
  rw [Critical, Critical,
    (BleGap.advertiseRequest_sameApplication ..).currentApplicationState,
    cancelled.currentApplicationState, closeConnection]
  split <;> rfl

/-- Every step keeps the status in agreement with the radio. -/
theorem Sound.step
    {before after : BleSubsystem}
    {event : Event}
    (sound : before.Sound)
    (stepped : before.step event = some after) :
    after.Sound := by
  cases event with
  | app message =>
      cases stepped
      exact (receiveAppMessage_extended before message).sound sound
  | publish message =>
      cases stepped
      exact (publishBleMessage_extended before message).sound sound
  | dispatch answers =>
      cases stepped
      exact runBleMessageDispatch_sound sound answers
  | connect handle =>
      simp only [BleSubsystem.step, Option.ite_none_left_eq_some,
        Option.some.injEq] at stepped
      rcases stepped with ⟨advertises, rfl⟩
      exact connectionComplete_sound sound advertises handle
  | disconnect answers =>
      simp only [BleSubsystem.step, Option.map_eq_some_iff] at stepped
      rcases stepped with ⟨handle, connected, rfl⟩
      exact disconnectionComplete_sound sound connected answers

/-- A critical and disabled subsystem. -/
structure SwitchedOff (ble : BleSubsystem) : Prop where
  critical : ble.Critical
  disabled : ble.handler = .bleDisabledState

/-- No step leads out of the critical and disabled situation. -/
theorem SwitchedOff.step
    {before after : BleSubsystem}
    {event : Event}
    (off : before.SwitchedOff)
    (sound : before.Sound)
    (stepped : before.step event = some after) :
    after.SwitchedOff := by
  obtain ⟨silent, alone⟩ :=
    sound.agrees.silent (sound.disabled_idle off.disabled)
  cases event with
  | app message =>
      cases stepped
      have extended := receiveAppMessage_extended before message
      exact ⟨receiveAppMessage_staysCritical off.critical message,
        extended.handler.trans off.disabled⟩
  | publish message =>
      cases stepped
      exact ⟨off.critical, off.disabled⟩
  | dispatch answers =>
      cases stepped
      refine ⟨(runBleMessageDispatch_critical before answers).mpr
        off.critical, ?_⟩
      unfold runBleMessageDispatch
      split
      · exact off.disabled
      · rename_i message _
        have same :=
          @handleBleMessage_disabled
            { before with queue := before.queue.dequeue.1 }
            off.critical off.disabled answers message
        exact (congrArg BleSubsystem.handler same).trans off.disabled
  | connect handle =>
      simp [BleSubsystem.step, silent] at stepped
  | disconnect answers =>
      simp [BleSubsystem.step, alone] at stepped

/--
Where a step can leave the radio on in the critical state: a report that finds
the queue full, and a disconnect after the message to switch off was handled.
-/
def Proper (ble : BleSubsystem) : Event → Prop
  | .app message =>
      isCriticalReport message →
        ble.Critical ∨ ble.queue.isFull = false ∨ ble.Ending
  | .disconnect _ =>
      ble.Critical →
        ble.handler = .bleDisabledState ∨ ble.SwitchOffQueued
  | _ => True

instance (ble : BleSubsystem) (event : Event) :
    Decidable (ble.Proper event) :=
  match event with
  | .app _ => inferInstanceAs (Decidable (_ → _))
  | .disconnect _ => inferInstanceAs (Decidable (_ → _))
  | .publish _ => inferInstanceAs (Decidable True)
  | .dispatch _ => inferInstanceAs (Decidable True)
  | .connect _ => inferInstanceAs (Decidable True)

/-- In the critical state the radio is off, or will still be stopped. -/
theorem Proper.ending
    {before after : BleSubsystem}
    {event : Event}
    (proper : before.Proper event)
    (sound : before.Sound)
    (ending : before.Critical → before.Ending)
    (stepped : before.step event = some after)
    (critical : after.Critical) :
    after.Ending := by
  cases event with
  | app message =>
      cases stepped
      have extended := receiveAppMessage_extended before message
      rcases receiveAppMessage_critical critical with was | ⟨report, queued⟩
      · exact extended.ending (ending was)
      · rcases proper report with was | room | already
        · exact extended.ending (ending was)
        · exact .inr (.inr (queued room))
        · exact extended.ending already
  | publish message =>
      cases stepped
      exact (publishBleMessage_extended before message).ending
        (ending critical)
  | dispatch answers =>
      cases stepped
      have was := (runBleMessageDispatch_critical before answers).mp critical
      exact runBleMessageDispatch_ending sound was (ending was) answers
  | connect handle =>
      simp only [BleSubsystem.step, Option.ite_none_left_eq_some,
        Option.some.injEq] at stepped
      rcases stepped with ⟨_, rfl⟩
      exact .inr (.inl (by simp [connectionComplete]))
  | disconnect answers =>
      simp only [BleSubsystem.step, Option.map_eq_some_iff] at stepped
      rcases stepped with ⟨handle, _, rfl⟩
      have was :=
        (disconnectionComplete_critical before answers handle).mp critical
      rcases proper was with disabled | queued
      · exact .inl disabled
      · exact .inr (.inr queued)

/-- Events happen one after the other, each where `allowed` permits it. -/
inductive Run (allowed : BleSubsystem → Event → Prop)
    (start : BleSubsystem) : BleSubsystem → Prop where
  | start : Run allowed start start
  | step
      {before after : BleSubsystem}
      (event : Event)
      (run : Run allowed start before)
      (permitted : allowed before event)
      (stepped : before.step event = some after) :
      Run allowed start after

theorem started_sound : started.Sound :=
  ⟨.idle rfl rfl rfl, fun disabled => by cases disabled⟩

theorem Run.sound
    {allowed : BleSubsystem → Event → Prop}
    {start ble : BleSubsystem}
    (run : Run allowed start ble)
    (sound : start.Sound) :
    ble.Sound := by
  induction run with
  | start => exact sound
  | step _ _ _ stepped soundBefore => exact soundBefore.step stepped

theorem Run.ending
    {ble : BleSubsystem}
    (run : Run Proper started ble) :
    ble.Critical → ble.Ending := by
  induction run with
  | start => exact fun critical => absurd critical (by decide)
  | step _ run proper stepped ending =>
      exact proper.ending (run.sound started_sound) ending stepped

theorem Run.switchedOff
    {allowed : BleSubsystem → Event → Prop}
    {start ble : BleSubsystem}
    (run : Run allowed start ble)
    (sound : start.Sound)
    (off : start.SwitchedOff) :
    ble.SwitchedOff := by
  induction run with
  | start => exact off
  | step _ run _ stepped offBefore =>
      exact offBefore.step (run.sound sound) stepped

/-- The radio does not advertise and the listener is disabled. -/
structure RadioOff (ble : BleSubsystem) : Prop where
  silent : ble.gap.radio.advertising = none
  alone : ble.gap.radio.connection = none
  disabled : ble.handler = .bleDisabledState

theorem SwitchedOff.radioOff
    {ble : BleSubsystem}
    (off : ble.SwitchedOff)
    (sound : ble.Sound) :
    ble.RadioOff := by
  obtain ⟨silent, alone⟩ :=
    sound.agrees.silent (sound.disabled_idle off.disabled)
  exact ⟨silent, alone, off.disabled⟩

/--
In every run of proper steps: where the critical level is recorded, no central
is connected and the queue is empty, the radio is off, and it is off in every
later state, whatever happens.
-/
theorem critical_battery_keeps_radio_off
    {ble : BleSubsystem}
    (run : Run Proper started ble)
    (critical : ble.Critical)
    (alone : ble.gap.radio.connection = none)
    (empty : ble.queue.contents = []) :
    ble.RadioOff ∧
      ∀ later, Run (fun _ _ => True) ble later →
        later.Critical ∧ later.RadioOff := by
  have sound := run.sound started_sound
  have off : ble.SwitchedOff := by
    refine ⟨critical, ?_⟩
    rcases run.ending critical with disabled | connected | ⟨_, member, _⟩
    · exact disabled
    · exact absurd alone connected
    · simp [empty] at member
  refine ⟨off.radioOff sound, fun later continued => ?_⟩
  have offLater := continued.switchedOff sound off
  exact ⟨offLater.critical, offLater.radioOff (continued.sound sound)⟩

/-- The report of a battery state. -/
def batteryMessage (state : UInt8) : Message where
  id := batteryStateChange
  parameter1 := 0
  category := Category.batteryEvent
  parameter2 := state.toUInt32

/-- The message of a measurement. -/
def measurementMessage : Message where
  id := sensorDataId
  parameter1 := 1
  category := Category.sensorValue
  parameter2 := 0

/-- The radio refuses what makes no sense. -/
def refusing : Answers where
  setDiscoverable := false
  setNonDiscoverable := false

/-- A device that advertises. -/
def advertiser : BleSubsystem :=
  ((started.receiveAppMessage measurementMessage).runBleMessageDispatch
    refusing).ble

theorem advertiser_run
    {allowed : BleSubsystem → Event → Prop}
    (measures : allowed started (.app measurementMessage))
    (dispatches :
      allowed (started.receiveAppMessage measurementMessage)
        (.dispatch refusing)) :
    Run allowed started advertiser :=
  .step (.dispatch refusing)
    (.step (.app measurementMessage) .start measures rfl) dispatches rfl

/-- The report of the critical level. -/
def criticalMessage : Message :=
  batteryMessage BatteryState.criticalBatteryLevel

/-- The critical level is reported while the device advertises. -/
def reported : BleSubsystem :=
  advertiser.receiveAppMessage criticalMessage

/-- An advertising device is switched off at the critical level. -/
theorem critical_battery_keeps_radio_off_advertiser :
    (reported.runBleMessageDispatch refusing).ble.RadioOff ∧
      ∀ later,
        Run (fun _ _ => True)
            (reported.runBleMessageDispatch refusing).ble later →
          later.Critical ∧ later.RadioOff :=
  critical_battery_keeps_radio_off
    (.step (.dispatch refusing)
      (.step (.app criticalMessage)
        (advertiser_run (by decide) trivial) (by decide) rfl)
      trivial rfl)
    (by decide) (by decide) (by decide)

/-- A central connects, and the critical level is reported. -/
def connectedReported : BleSubsystem :=
  (advertiser.connectionComplete 1).receiveAppMessage criticalMessage

/-- The message to switch off is handled, then the central disconnects. -/
def disconnected : BleSubsystem :=
  ((connectedReported.runBleMessageDispatch
    refusing).ble.disconnectionComplete refusing 1).ble

/-- A device that had a central advertises in the critical state. -/
theorem critical_battery_keeps_radio_off_connected :
    ¬∀ ble : BleSubsystem,
      Run (fun _ _ => True) started ble →
        ble.Critical →
          ble.gap.radio.connection = none →
            ble.queue.contents = [] →
              ble.RadioOff := by
  intro keepsOff
  have connects : Run (fun _ _ => True) started connectedReported :=
    .step (.app criticalMessage)
      (.step (.connect 1) (advertiser_run trivial trivial) trivial rfl)
      trivial rfl
  have disconnects : Run (fun _ _ => True) started disconnected :=
    .step (.disconnect refusing)
      (.step (.dispatch refusing) connects trivial rfl) trivial rfl
  have off :=
    keepsOff disconnected disconnects (by decide) (by decide) (by decide)
  exact absurd off.silent (by decide)

end BleSubsystem

end DemoBoard
