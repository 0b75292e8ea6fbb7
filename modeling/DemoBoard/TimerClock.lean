import DemoBoard.TimerServerRuns

namespace DemoBoard

/-!
# The timer server and the real-time clock

The sub-second register counts ticks down and wraps around, and the time
between two set-ups of the wake-up timer is a difference of two of its values.
A call takes less than a tick: all its readings are made at one tick.
-/

/-- The ticks after which the wake-up timer generates its interrupt. -/
def WakeupTimer.ticks : WakeupTimer → Option Nat
  | .disabled => none
  | .expired => some 0
  | .counting value => some (value.toNat + 1)

namespace TimerServer

/-- `SSR_FORBIDDEN_VALUE` -/
def ssrForbiddenValue : UInt32 := 0xFFFFFFFF

/-- `LSE_VALUE`, in Hz -/
def lseValue : UInt32 := 32774

/-- `RTC_HANDLER_MAX_DELAY` -/
def rtcHandlerMaxDelay : UInt32 := 10 * (lseValue / 1000)

/-- What `ReadRtcUserConfig` keeps of the registers of the clock. -/
structure RtcUserConfig where
  asynchPrescaler : UInt8
  synchPrescaler : UInt16
  wakeupTimerDivider : UInt8

/-- `ReadRtcUserConfig`, for the register fields. -/
def readRtcUserConfig
    (asynchPrediv : UInt8) (synchPrediv : UInt16) (wakeupClock : UInt8) :
    RtcUserConfig where
  asynchPrescaler := asynchPrediv + 1
  synchPrescaler := synchPrediv + 1
  wakeupTimerDivider := 4 - wakeupClock

/-- The configuration that `Rtc_Init` writes. -/
def rtcUserConfig : RtcUserConfig := readRtcUserConfig 0x0F 0x7FFF 0

/-- `CalculateMaxWakeupTimerSetup` -/
def calculateMaxWakeupTimerSetup (config : RtcUserConfig) : UInt16 :=
  let maxWakeupTimerSetup :=
    ((config.synchPrescaler.toUInt32 - 1) *
        config.asynchPrescaler.toUInt32 - rtcHandlerMaxDelay) >>>
      config.wakeupTimerDivider.toUInt32
  if maxWakeupTimerSetup ≥ 0xFFFF then
    0xFFFF
  else
    maxWakeupTimerSetup.toUInt16

/-- `TimerServerRtcInterface_ReturnTimeElapsed` for a register value. -/
def returnTimeElapsed
    (config : RtcUserConfig) (gSsrValueOnLastSetup ssr : UInt32) :
    UInt16 :=
  if gSsrValueOnLastSetup ≠ ssrForbiddenValue then
    let returnValue :=
      if gSsrValueOnLastSetup ≥ ssr then
        gSsrValueOnLastSetup - ssr
      else
        gSsrValueOnLastSetup + (config.synchPrescaler.toUInt32 - ssr)
    ((returnValue * config.asynchPrescaler.toUInt32) >>>
      config.wakeupTimerDivider.toUInt32).toUInt16
  else
    0

/-- The sub-second register at a tick. -/
def ssrAt (tick : Nat) : UInt32 :=
  UInt32.ofNat (32767 - tick % 32768)

end TimerServer

/-- The timer server, its variable of the clock, and the wake-up timer. -/
structure ClockedServer where
  server : TimerServer
  gSsrValueOnLastSetup : UInt32
  /-- The tick at which the wake-up timer was started. -/
  setupTick : Nat

namespace ClockedServer

open TimerServer

/-- `TimerServerRtcInterface_ReturnTimeElapsed` -/
def returnTimeElapsed (clocked : ClockedServer) (tick : Nat) : UInt16 :=
  TimerServer.returnTimeElapsed rtcUserConfig
    clocked.gSsrValueOnLastSetup (ssrAt tick)

/-- `TimerServerRtcInterface_RescheduleTimerList` -/
def rescheduleTimerList (clocked : ClockedServer) (tick : Nat) :
    Except TimerFault ClockedServer := do
  let server ←
    clocked.server.rescheduleTimerList (clocked.returnTimeElapsed tick)
  .ok
    { server := server
      gSsrValueOnLastSetup := ssrAt tick
      setupTick := tick }

/-- `TimerServer_Stop` -/
def stop (clocked : ClockedServer) (timerId tick : Nat) :
    Except TimerFault ClockedServer := do
  if (← clocked.server.context timerId).timerIdStatus = .running then
    let server ← clocked.server.unlinkTimer timerId
    if server.gCurrentRunningTimerId = maxNbrConcurrentTimer then
      .ok
        { clocked with
          server := { server with wakeupTimer := .disabled }
          gSsrValueOnLastSetup := ssrForbiddenValue }
    else if server.gPreviousRunningTimerId ≠
        server.gCurrentRunningTimerId then
      rescheduleTimerList { clocked with server := server } tick
    else
      .ok { clocked with server := server }
  else
    .ok clocked

/-- `StartTimer` of a timer that is not running. -/
def startStopped
    (clocked : ClockedServer) (timerId : Nat) (timeoutTicks : UInt32)
    (tick : Nat) : Except TimerFault ClockedServer := do
  let server ← clocked.server.modifyContext timerId fun entry =>
    { entry with
      timerIdStatus := .running
      countLeft := timeoutTicks
      counterInit := timeoutTicks }
  let first := server.gCurrentRunningTimerId = maxNbrConcurrentTimer
  let timeElapsed :=
    if first then
      0
    else
      clocked.returnTimeElapsed tick
  let gSsrValueOnLastSetup :=
    if first then
      ssrForbiddenValue
    else
      clocked.gSsrValueOnLastSetup
  let server ← server.linkTimer timerId timeElapsed
  let clocked :=
    { clocked with
      server := server
      gSsrValueOnLastSetup := gSsrValueOnLastSetup }
  if server.gPreviousRunningTimerId ≠ server.gCurrentRunningTimerId then
    clocked.rescheduleTimerList tick
  else do
    let server ← server.modifyContext timerId fun entry =>
      { entry with countLeft := entry.countLeft - timeElapsed.toUInt32 }
    .ok { clocked with server := server }

/-- `StartTimer` -/
def startTimer
    (clocked : ClockedServer) (timerId : Nat) (timeoutTicks : UInt32)
    (tick : Nat) : Except TimerFault ClockedServer := do
  if (← clocked.server.context timerId).timerIdStatus = .running then
    let clocked ← clocked.stop timerId tick
    clocked.startStopped timerId timeoutTicks tick
  else
    clocked.startStopped timerId timeoutTicks tick

/-- `TimerServer_RtcWakeupHandler` when the current timer has elapsed. -/
def timerElapsed (clocked : ClockedServer) (timerId tick : Nat) :
    TimerMode → Except TimerFault ClockedServer
  | .repeated => do
      let server ← clocked.server.unlinkTimer timerId
      let counterInit := (← server.context timerId).counterInit
      startTimer { clocked with server := server } timerId counterInit
        tick
  | .singleShot => clocked.stop timerId tick

/--
`TimerServer_RtcWakeupHandler`, with the timer whose callback is invoked.
-/
def rtcWakeupHandler (clocked : ClockedServer) (tick : Nat) :
    Except TimerFault (ClockedServer × Option Nat) := do
  let clocked :=
    { clocked with
      server := { clocked.server with wakeupTimer := .disabled } }
  let currentRunningTimerId := clocked.server.gCurrentRunningTimerId
  let entry ← clocked.server.context currentRunningTimerId
  if entry.timerIdStatus = .running then
    if clocked.server.gWakeupTimerLimitation ≠ .overpassed then
      let clocked ←
        clocked.timerElapsed currentRunningTimerId tick entry.mode
      .ok (clocked, some currentRunningTimerId)
    else
      let clocked ← clocked.rescheduleTimerList tick
      .ok (clocked, none)
  else
    .ok (clocked, none)

/-- `TimerServer_Init` -/
def init : ClockedServer where
  server :=
    TimerServer.init (calculateMaxWakeupTimerSetup rtcUserConfig)
      rtcUserConfig.wakeupTimerDivider
  gSsrValueOnLastSetup := ssrForbiddenValue
  setupTick := 0

end ClockedServer

namespace TimerServer

theorem calculateMaxWakeupTimerSetup_rtcUserConfig :
    calculateMaxWakeupTimerSetup rtcUserConfig = 32747 := by
  decide

theorem toNat_ssrAt (tick : Nat) :
    (ssrAt tick).toNat = 32767 - tick % 32768 := by
  rw [ssrAt, UInt32.toNat_ofNat', Nat.mod_eq_of_lt]
  omega

theorem ssrAt_ne_forbidden (tick : Nat) :
    ssrAt tick ≠ ssrForbiddenValue := by
  intro same
  have value := congrArg UInt32.toNat same
  rw [toNat_ssrAt] at value
  simp only [ssrForbiddenValue, UInt32.reduceToNat] at value
  omega

/-- Nothing elapses before the first set-up. -/
theorem returnTimeElapsed_forbidden (ssr : UInt32) :
    returnTimeElapsed rtcUserConfig ssrForbiddenValue ssr = 0 := by
  rw [returnTimeElapsed, if_neg (not_not_intro rfl)]

/-- The elapsed ticks, as long as the register wraps around at most once. -/
theorem toNat_returnTimeElapsed
    {setupTick tick : Nat}
    (later : setupTick ≤ tick)
    (soon : tick < setupTick + 32768) :
    (returnTimeElapsed rtcUserConfig (ssrAt setupTick)
      (ssrAt tick)).toNat = tick - setupTick := by
  have setup := toNat_ssrAt setupTick
  have now := toNat_ssrAt tick
  have asynch : rtcUserConfig.asynchPrescaler.toUInt32 = 16 := by decide
  have synch : rtcUserConfig.synchPrescaler.toUInt32 = 32768 := by decide
  have divider : rtcUserConfig.wakeupTimerDivider.toUInt32 = 4 := by
    decide
  have ticks : ∀ count : UInt32, count.toNat = tick - setupTick →
      ((count * 16) >>> 4).toUInt16.toNat = tick - setupTick := by
    intro count counted
    rw [UInt32.toNat_toUInt16, UInt32.toNat_shiftRight,
      UInt32.toNat_mul, counted]
    simp only [UInt32.reduceToNat, Nat.reduceMod, Nat.shiftRight_eq_div_pow]
    omega
  rw [returnTimeElapsed, if_pos (ssrAt_ne_forbidden setupTick), asynch,
    synch, divider]
  apply ticks
  split
  · next notWrapped =>
      rw [ge_iff_le, UInt32.le_iff_toNat_le] at notWrapped
      rw [UInt32.toNat_sub_of_le _ _
        (UInt32.le_iff_toNat_le.mpr notWrapped), setup, now]
      omega
  · next wrapped =>
      rw [ge_iff_le, UInt32.le_iff_toNat_le] at wrapped
      have below : ssrAt tick ≤ 32768 := by
        rw [UInt32.le_iff_toNat_le, now]
        simp only [UInt32.reduceToNat]
        omega
      rw [UInt32.toNat_add, UInt32.toNat_sub_of_le _ _ below, setup, now]
      simp only [UInt32.reduceToNat]
      omega

end TimerServer

namespace ClockedServer

open TimerServer

variable {clocked : ClockedServer}
variable {timerId tick : Nat}

/-- The state in which the handler looks at the first timer. -/
def woken (clocked : ClockedServer) : ClockedServer :=
  { clocked with
    server := { clocked.server with wakeupTimer := .disabled } }

/-! The timer server takes the steps it takes without the clock. -/

theorem server_rescheduleTimerList :
    (clocked.rescheduleTimerList tick).map server =
      clocked.server.rescheduleTimerList
        (clocked.returnTimeElapsed tick) := by
  rw [rescheduleTimerList]
  cases clocked.server.rescheduleTimerList
    (clocked.returnTimeElapsed tick) <;> rfl

theorem server_stop :
    (clocked.stop timerId tick).map server =
      clocked.server.stop timerId (clocked.returnTimeElapsed tick) := by
  rw [stop, TimerServer.stop]
  cases clocked.server.context timerId with
  | error fault => rfl
  | ok entry =>
      simp only [bind, Except.bind]
      split
      · cases clocked.server.unlinkTimer timerId with
        | error fault => rfl
        | ok unlinked =>
            dsimp only
            split
            · rfl
            · split
              · exact server_rescheduleTimerList
              · rfl
      · rfl

theorem server_startStopped
    (timeoutTicks : UInt32)
    (stopRead : UInt16) :
    ∃ reads : ElapsedReads,
      reads.stop = stopRead ∧
      (clocked.startStopped timerId timeoutTicks tick).map server =
        clocked.server.startStopped timerId timeoutTicks reads := by
  rw [startStopped]
  simp only [bind, Except.bind, TimerServer.startStopped]
  generalize (clocked.server.modifyContext timerId _) = modified
  cases modified with
  | error fault => exact ⟨⟨stopRead, 0, 0⟩, rfl, rfl⟩
  | ok started =>
      refine ⟨⟨stopRead, clocked.returnTimeElapsed tick,
        TimerServer.returnTimeElapsed rtcUserConfig
          (if started.gCurrentRunningTimerId = maxNbrConcurrentTimer then
            ssrForbiddenValue
          else
            clocked.gSsrValueOnLastSetup) (ssrAt tick)⟩, rfl, ?_⟩
      dsimp only
      generalize (started.linkTimer timerId _) = link
      cases link with
      | error fault => rfl
      | ok linked =>
          dsimp only
          split
          · exact server_rescheduleTimerList
          · generalize (linked.modifyContext timerId _) = counted
            cases counted <;> rfl

theorem server_startTimer (timeoutTicks : UInt32) :
    ∃ reads,
      (clocked.startTimer timerId timeoutTicks tick).map server =
        clocked.server.startTimer timerId timeoutTicks reads := by
  rw [startTimer]
  simp only [bind, Except.bind, TimerServer.startTimer]
  cases clocked.server.context timerId with
  | error fault => exact ⟨⟨0, 0, 0⟩, rfl⟩
  | ok entry =>
      dsimp only
      split
      · have stops := @server_stop clocked timerId tick
        cases stopped : clocked.stop timerId tick with
        | error fault =>
            rw [stopped] at stops
            refine ⟨⟨clocked.returnTimeElapsed tick, 0, 0⟩, ?_⟩
            rw [← stops]
            rfl
        | ok result =>
            rw [stopped] at stops
            obtain ⟨reads, stopRead, same⟩ :=
              @server_startStopped result timerId tick timeoutTicks
                (clocked.returnTimeElapsed tick)
            refine ⟨reads, ?_⟩
            rw [stopRead, ← stops]
            exact same
      · obtain ⟨reads, _, same⟩ :=
          @server_startStopped clocked timerId tick timeoutTicks 0
        exact ⟨reads, same⟩

theorem server_timerElapsed (mode : TimerMode) :
    ∃ reads,
      (clocked.timerElapsed timerId tick mode).map server =
        clocked.server.timerElapsed timerId reads mode := by
  cases mode with
  | singleShot =>
      exact ⟨⟨clocked.returnTimeElapsed tick, 0, 0⟩, server_stop⟩
  | repeated =>
      rw [timerElapsed]
      simp only [bind, Except.bind, TimerServer.timerElapsed]
      cases clocked.server.unlinkTimer timerId with
      | error fault => exact ⟨⟨0, 0, 0⟩, rfl⟩
      | ok unlinked =>
          dsimp only
          cases unlinked.context timerId with
          | error fault => exact ⟨⟨0, 0, 0⟩, rfl⟩
          | ok entry => exact server_startTimer entry.counterInit

theorem server_rtcWakeupHandler :
    ∃ reads,
      (clocked.rtcWakeupHandler tick).map (fun handled =>
          handled.1.server) =
        (clocked.server.rtcWakeupHandler reads).map Prod.fst := by
  rw [rtcWakeupHandler]
  simp only [bind, Except.bind, TimerServer.rtcWakeupHandler]
  generalize (TimerServer.context _ _) = current
  cases current with
  | error fault => exact ⟨⟨0, 0, 0⟩, rfl⟩
  | ok entry =>
      dsimp only
      split
      · split
        · obtain ⟨reads, same⟩ :=
            @server_timerElapsed (woken clocked)
              clocked.server.gCurrentRunningTimerId tick entry.mode
          refine ⟨reads, ?_⟩
          simp only [woken] at same
          rw [← same]
          generalize (ClockedServer.timerElapsed _ _ _ _) = elapsed
          cases elapsed <;> rfl
        · have same := @server_rescheduleTimerList (woken clocked) tick
          refine ⟨⟨0, 0, (woken clocked).returnTimeElapsed tick⟩, ?_⟩
          simp only [woken] at same ⊢
          rw [← same]
          generalize (ClockedServer.rescheduleTimerList _ _) = done
          cases done <;> rfl
      · exact ⟨⟨0, 0, 0⟩, rfl⟩

end ClockedServer

end DemoBoard
