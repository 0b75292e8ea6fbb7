import Mathlib.Logic.Function.Basic

namespace DemoBoard

/-!
# Timer server

Model of `app_service/timer_server`.  Ids are indices into `gTimerContext`;
every access to it is checked.  The elapsed ticks that the real-time clock
reports are arguments of the functions that read them.
-/

/-- `MAX_NBR_CONCURRENT_TIMER`, also the id that stands for no timer. -/
def maxNbrConcurrentTimer : Nat := 6

/-- `TimerServerHelper_TimerIdStatus_t` -/
inductive TimerIdStatus where
  | free
  | created
  | running
  deriving Repr, DecidableEq

/-- `TimerServer_Mode_t` -/
inductive TimerMode where
  | singleShot
  | repeated
  deriving Repr, DecidableEq

/-- `TimerServerRtcInterface_WakeupTimerLimitationStatus_t` -/
inductive WakeupTimerLimitation where
  | overpassed
  | largeEnough
  deriving Repr, DecidableEq

/-- `TimerServerHelper_TimerContext_t` -/
structure TimerContext where
  callback : Option Nat
  counterInit : UInt32
  countLeft : UInt32
  timerIdStatus : TimerIdStatus
  mode : TimerMode
  previousId : Nat
  nextId : Nat
  deriving Repr, DecidableEq

/-- What is programmed into the wake-up timer. -/
inductive WakeupTimer where
  | disabled
  /-- The interrupt is pending. -/
  | expired
  | counting (value : UInt16)
  deriving Repr, DecidableEq

/-- The variables of the timer server. -/
structure TimerServer where
  gTimerContext : Nat → TimerContext
  gCurrentRunningTimerId : Nat
  gPreviousRunningTimerId : Nat
  gWakeupTimerLimitation : WakeupTimerLimitation
  gMaxWakeupTimerSetup : UInt16
  gWakeupTimerDivider : UInt8
  wakeupTimer : WakeupTimer

/-- What must not happen to the timer list. -/
inductive TimerFault where
  /-- An index that is no timer. -/
  | outOfRange (timerId : Nat)
  /-- A walk over the list meets more links than there are timers. -/
  | endless
  deriving Repr, DecidableEq

namespace TimerServer

/-- An entry of `gTimerContext`. -/
def context (server : TimerServer) (timerId : Nat) :
    Except TimerFault TimerContext :=
  if timerId < maxNbrConcurrentTimer then
    .ok (server.gTimerContext timerId)
  else
    .error (.outOfRange timerId)

/-- Change an entry of `gTimerContext`. -/
def modifyContext
    (server : TimerServer) (timerId : Nat)
    (change : TimerContext → TimerContext) :
    Except TimerFault TimerServer :=
  if timerId < maxNbrConcurrentTimer then
    .ok
      { server with
        gTimerContext :=
          Function.update server.gTimerContext timerId
            (change (server.gTimerContext timerId)) }
  else
    .error (.outOfRange timerId)

/-- Set `previousId` of the entry behind a timer, if there is one. -/
def linkBack (server : TimerServer) (nextId previousId : Nat) :
    Except TimerFault TimerServer :=
  if nextId ≠ maxNbrConcurrentTimer then
    server.modifyContext nextId fun entry =>
      { entry with previousId := previousId }
  else
    .ok server

/-- `LinkTimerAfter` -/
def linkTimerAfter
    (server : TimerServer) (timerId refTimerId : Nat) :
    Except TimerFault TimerServer := do
  let nextId := (← server.context refTimerId).nextId
  let server ← server.linkBack nextId timerId
  let server ← server.modifyContext timerId fun entry =>
    { entry with nextId := nextId }
  let server ← server.modifyContext timerId fun entry =>
    { entry with previousId := refTimerId }
  server.modifyContext refTimerId fun entry =>
    { entry with nextId := timerId }

/-- `LinkTimerBefore` -/
def linkTimerBefore
    (server : TimerServer) (timerId refTimerId : Nat) :
    Except TimerFault TimerServer := do
  if refTimerId ≠ server.gCurrentRunningTimerId then
    let previousId := (← server.context timerId).previousId
    let server ← server.modifyContext previousId fun entry =>
      { entry with nextId := timerId }
    let server ← server.modifyContext timerId fun entry =>
      { entry with nextId := refTimerId }
    let server ← server.modifyContext timerId fun entry =>
      { entry with previousId := previousId }
    server.modifyContext refTimerId fun entry =>
      { entry with previousId := timerId }
  else
    let server ← server.modifyContext timerId fun entry =>
      { entry with nextId := refTimerId }
    server.modifyContext refTimerId fun entry =>
      { entry with previousId := timerId }

/--
The while loop of `TimerServerHelper_LinkTimer`.  The links do not change while
it runs, so a walk over more entries than there are timers never ends.
-/
def lookupTimer (server : TimerServer) (timeLeft : UInt32) :
    Nat → Nat → Except TimerFault Nat
  | 0, _ => .error .endless
  | fuel + 1, timerIdLookup => do
      let nextId := (← server.context timerIdLookup).nextId
      if nextId = maxNbrConcurrentTimer then
        .ok timerIdLookup
      else if (← server.context nextId).countLeft ≤ timeLeft then
        lookupTimer server timeLeft fuel nextId
      else
        .ok timerIdLookup

/-- Another timer becomes the current one. -/
def setCurrent (server : TimerServer) (timerId : Nat) : TimerServer :=
  { server with
    gPreviousRunningTimerId := server.gCurrentRunningTimerId
    gCurrentRunningTimerId := timerId }

/-- `TimerServerHelper_LinkTimer` -/
def linkTimer
    (server : TimerServer) (timerId : Nat) (timeElapsed : UInt16) :
    Except TimerFault TimerServer := do
  if server.gCurrentRunningTimerId = maxNbrConcurrentTimer then
    -- no timer in the list
    (server.setCurrent timerId).modifyContext timerId fun entry =>
      { entry with nextId := maxNbrConcurrentTimer }
  else
    let server ← server.modifyContext timerId fun entry =>
      { entry with countLeft := entry.countLeft + timeElapsed.toUInt32 }
    let timeLeft := (← server.context timerId).countLeft
    let current ← server.context server.gCurrentRunningTimerId
    if current.countLeft ≤ timeLeft then
      let timerIdLookup ←
        server.lookupTimer timeLeft maxNbrConcurrentTimer
          server.gCurrentRunningTimerId
      server.linkTimerAfter timerId timerIdLookup
    else
      let server ←
        server.linkTimerBefore timerId server.gCurrentRunningTimerId
      .ok (server.setCurrent timerId)

/-- `TimerServerHelper_UnlinkTimer` -/
def unlinkTimer (server : TimerServer) (timerId : Nat) :
    Except TimerFault TimerServer := do
  let entry ← server.context timerId
  if timerId = server.gCurrentRunningTimerId then
    (server.setCurrent entry.nextId).modifyContext timerId fun entry =>
      { entry with timerIdStatus := .created }
  else
    let server ← server.modifyContext entry.previousId fun before =>
      { before with nextId := entry.nextId }
    let server ← server.linkBack entry.nextId entry.previousId
    -- the timer is out of the list
    server.modifyContext timerId fun entry =>
      { entry with timerIdStatus := .created }

/-- `CalculateWakeupCounterValue`: the limitation and the value. -/
def calculateWakeupCounterValue
    (server : TimerServer) (timeCountLeft : UInt32)
    (timeElapsed : UInt16) : WakeupTimerLimitation × UInt16 :=
  if timeCountLeft < timeElapsed.toUInt32 then
    -- there is no tick left to count
    (.largeEnough, 0)
  else if timeCountLeft.toNat >
      timeElapsed.toNat + server.gMaxWakeupTimerSetup.toNat then
    (.overpassed, server.gMaxWakeupTimerSetup)
  else
    (.largeEnough, (timeCountLeft - timeElapsed.toUInt32).toUInt16)

/-- The count that is left of a timer after some ticks. -/
def countDown (timeElapsed : UInt16) (countLeft : UInt32) : UInt32 :=
  if countLeft < timeElapsed.toUInt32 then
    0
  else
    countLeft - timeElapsed.toUInt32

/-- The while loop of `TimerServerRtcInterface_RescheduleTimerList`. -/
def updateCountsLeft (timeElapsed : UInt16) :
    Nat → TimerServer → Nat → Except TimerFault TimerServer
  | 0, server, localTimerId =>
      if localTimerId = maxNbrConcurrentTimer then
        .ok server
      else
        .error .endless
  | fuel + 1, server, localTimerId => do
      if localTimerId = maxNbrConcurrentTimer then
        .ok server
      else
        let server ← server.modifyContext localTimerId fun entry =>
          { entry with countLeft := countDown timeElapsed entry.countLeft }
        updateCountsLeft timeElapsed fuel server
          (← server.context localTimerId).nextId

/-- `RestartWakeupCounter` -/
def restartWakeupCounter (server : TimerServer) (value : UInt16) :
    TimerServer :=
  if value = 0 then
    -- simulate that the timer expired
    { server with wakeupTimer := .expired }
  else
    { server with
      wakeupTimer :=
        .counting
          (if value > 1 ∨ server.gWakeupTimerDivider ≠ 1 then
            value - 1
          else
            value) }

/-- `TimerServerRtcInterface_RescheduleTimerList` -/
def rescheduleTimerList (server : TimerServer) (timeElapsed : UInt16) :
    Except TimerFault TimerServer := do
  let timeCountLeft :=
    (← server.context server.gCurrentRunningTimerId).countLeft
  let wakeup :=
    server.calculateWakeupCounterValue timeCountLeft timeElapsed
  let server :=
    { server with
      wakeupTimer := .disabled
      gWakeupTimerLimitation := wakeup.1 }
  let server ← updateCountsLeft timeElapsed maxNbrConcurrentTimer server
    server.gCurrentRunningTimerId
  .ok (server.restartWakeupCounter wakeup.2)

/-- `TimerServer_Stop` -/
def stop (server : TimerServer) (timerId : Nat) (timeElapsed : UInt16) :
    Except TimerFault TimerServer := do
  if (← server.context timerId).timerIdStatus = .running then
    let server ← server.unlinkTimer timerId
    if server.gCurrentRunningTimerId = maxNbrConcurrentTimer then
      .ok { server with wakeupTimer := .disabled }
    else if server.gPreviousRunningTimerId ≠
        server.gCurrentRunningTimerId then
      server.rescheduleTimerList timeElapsed
    else
      .ok server
  else
    .ok server

/-- The elapsed ticks that are read while a timer is started. -/
structure ElapsedReads where
  /-- Read by `TimerServer_Stop` of a running timer. -/
  stop : UInt16
  /-- Read before the timer is linked. -/
  link : UInt16
  /-- Read when the list is rescheduled. -/
  reschedule : UInt16
  deriving Repr, DecidableEq

/-- `StartTimer` of a timer that is not running. -/
def startStopped
    (server : TimerServer) (timerId : Nat) (timeoutTicks : UInt32)
    (reads : ElapsedReads) : Except TimerFault TimerServer := do
  let server ← server.modifyContext timerId fun entry =>
    { entry with
      timerIdStatus := .running
      countLeft := timeoutTicks
      counterInit := timeoutTicks }
  let timeElapsed :=
    if server.gCurrentRunningTimerId = maxNbrConcurrentTimer then
      0
    else
      reads.link
  let server ← server.linkTimer timerId timeElapsed
  if server.gPreviousRunningTimerId ≠ server.gCurrentRunningTimerId then
    server.rescheduleTimerList reads.reschedule
  else
    server.modifyContext timerId fun entry =>
      { entry with countLeft := entry.countLeft - timeElapsed.toUInt32 }

/-- `StartTimer` -/
def startTimer
    (server : TimerServer) (timerId : Nat) (timeoutTicks : UInt32)
    (reads : ElapsedReads) : Except TimerFault TimerServer := do
  if (← server.context timerId).timerIdStatus = .running then
    let server ← server.stop timerId reads.stop
    server.startStopped timerId timeoutTicks reads
  else
    server.startStopped timerId timeoutTicks reads

/-- `FindFirstFreeId`, from an id on. -/
def findFirstFreeId (server : TimerServer) (id : Nat) : Nat :=
  if id < maxNbrConcurrentTimer then
    if (server.gTimerContext id).timerIdStatus ≠ .free then
      findFirstFreeId server (id + 1)
    else
      id
  else
    id
termination_by maxNbrConcurrentTimer - id

/-- `TimerServer_CreateTimer` -/
def createTimer
    (server : TimerServer) (timerMode : TimerMode)
    (timerCallback : Option Nat) : Except TimerFault (TimerServer × Nat) :=
  do
    let id := server.findFirstFreeId 0
    if id ≠ maxNbrConcurrentTimer then
      let server ← server.modifyContext id fun entry =>
        { entry with
          timerIdStatus := .created
          mode := timerMode
          callback := timerCallback }
      .ok (server, id)
    else
      .ok (server, id)

/-- `TimerServer_DeleteTimer` -/
def deleteTimer (server : TimerServer) (timerId : Nat) :
    Except TimerFault TimerServer :=
  server.modifyContext timerId fun entry =>
    { entry with timerIdStatus := .free }

/-- `TimerServer_RtcWakeupHandler` when the current timer has elapsed. -/
def timerElapsed
    (server : TimerServer) (timerId : Nat) (reads : ElapsedReads) :
    TimerMode → Except TimerFault TimerServer
  | .repeated => do
      let server ← server.unlinkTimer timerId
      let counterInit := (← server.context timerId).counterInit
      server.startTimer timerId counterInit reads
  | .singleShot => server.stop timerId reads.stop

/-- `TimerServer_RtcWakeupHandler`, with the callback that is invoked. -/
def rtcWakeupHandler (server : TimerServer) (reads : ElapsedReads) :
    Except TimerFault (TimerServer × Option Nat) := do
  let server := { server with wakeupTimer := .disabled }
  let currentRunningTimerId := server.gCurrentRunningTimerId
  let entry ← server.context currentRunningTimerId
  if entry.timerIdStatus = .running then
    if server.gWakeupTimerLimitation ≠ .overpassed then
      let server ←
        server.timerElapsed currentRunningTimerId reads entry.mode
      .ok (server, entry.callback)
    else
      let server ← server.rescheduleTimerList reads.reschedule
      .ok (server, none)
  else
    .ok (server, none)

/-- `TimerServer_Init`, for a configuration of the real-time clock. -/
def init
    (maxWakeupTimerSetup : UInt16) (wakeupTimerDivider : UInt8) :
    TimerServer where
  gTimerContext := fun _ =>
    { callback := none
      counterInit := 0
      countLeft := 0
      timerIdStatus := .free
      mode := .singleShot
      previousId := 0
      nextId := 0 }
  gCurrentRunningTimerId := maxNbrConcurrentTimer
  gPreviousRunningTimerId := 0
  gWakeupTimerLimitation := .overpassed
  gMaxWakeupTimerSetup := maxWakeupTimerSetup
  gWakeupTimerDivider := wakeupTimerDivider
  wakeupTimer := .disabled

end TimerServer

end DemoBoard
