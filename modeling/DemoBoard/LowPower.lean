import DemoBoard.FlashErase
import DemoBoard.TransitionRuns

namespace DemoBoard.LowPower

open TransitionRuns

/-!
# Low power modes

Model of `lib/Utilities/lpm/tiny_lpm/stm32_lpm.c` with its driver in
`app_service/power_manager/LpmHooks.c` and with the clients that vote in
`hal/I2c3.c`, `hal/Flash.c` and `BleInterface.c`.  The other processor shares
the hardware semaphores and the system clock.
-/

/-- `UTIL_LPM_State_t` -/
inductive LpmState where
  | enable
  | disable
  deriving Repr, DecidableEq

/-- `UTIL_LPM_Mode_t` -/
inductive Mode where
  | sleep
  | stop
  | off
  deriving Repr, DecidableEq

/-- The bit of a client: `1 << APP_DEFINE_LPM_CLIENT_...` -/
def clientBit (client : Nat) : BitVec 32 :=
  1#32 <<< client

/-- `APP_DEFINE_LPM_CLIENT_APP`, which is also `CFG_LPM_APP` -/
def clientApp : BitVec 32 :=
  clientBit 0

/-- `APP_DEFINE_LPM_CLIENT_BLE` -/
def clientBle : BitVec 32 :=
  clientBit 1

/-- `APP_DEFINE_LPM_CLIENT_I2C` -/
def clientI2c : BitVec 32 :=
  clientBit 2

/-- `APP_DEFINE_LPM_CLIENT_FLASH` -/
def clientFlash : BitVec 32 :=
  clientBit 3

/-- `StopModeDisable` and `OffModeDisable` -/
structure Lpm where
  stopModeDisable : BitVec 32
  offModeDisable : BitVec 32
  deriving Repr, DecidableEq

/-- The switch of `UTIL_LPM_SetStopMode` and of `UTIL_LPM_SetOffMode`. -/
def vote (mask lpmIdBm : BitVec 32) : LpmState → BitVec 32
  | .disable => mask ||| lpmIdBm
  | .enable => mask &&& ~~~lpmIdBm

namespace Lpm

/-- `UTIL_LPM_Init` -/
def init : Lpm where
  stopModeDisable := 0
  offModeDisable := 0

/-- `UTIL_LPM_SetStopMode` -/
def setStopMode (lpm : Lpm) (lpmIdBm : BitVec 32) (state : LpmState) :
    Lpm :=
  { lpm with stopModeDisable := vote lpm.stopModeDisable lpmIdBm state }

/-- `UTIL_LPM_SetOffMode` -/
def setOffMode (lpm : Lpm) (lpmIdBm : BitVec 32) (state : LpmState) :
    Lpm :=
  { lpm with offModeDisable := vote lpm.offModeDisable lpmIdBm state }

/-- The mode that `UTIL_LPM_EnterLowPower` enters. -/
def mode (lpm : Lpm) : Mode :=
  if lpm.stopModeDisable ≠ 0 then
    -- at least one user disallows stop mode
    .sleep
  else if lpm.offModeDisable ≠ 0 then
    .stop
  else
    .off

/-- `PowerManger_Init` -/
def powerManagerInit : Lpm :=
  (init.setOffMode clientApp .enable).setStopMode clientApp .enable

end Lpm

/-- `HAL_I2C_StateTypeDef`, as far as it is used. -/
inductive I2cState where
  | reset
  | ready
  | busy
  deriving Repr, DecidableEq

/-- The driver of `hal/I2c3.c`. -/
structure I2c where
  /-- `_operationCompleteCb` is set. -/
  operationCompleteCb : Bool
  /-- `_i2c3Instance.State`; the hardware transfers data while it is busy. -/
  state : I2cState
  deriving Repr, DecidableEq

/-- `I2c3_Release` -/
def I2c.release (i2c : I2c) (force : Bool) : I2c :=
  let operationCompleteCb := !force && i2c.operationCompleteCb
  if i2c.state = .reset ∨ operationCompleteCb = true then
    { i2c with operationCompleteCb := operationCompleteCb }
  else
    { operationCompleteCb := operationCompleteCb, state := .reset }

/-- The processors that share the hardware semaphores. -/
inductive Processor where
  | application
  | radio
  deriving Repr, DecidableEq

/-- `LL_HSEM_1StepLock`: the semaphore is free, or it is held already. -/
def lockable (owner : Option Processor) (processor : Processor) : Bool :=
  owner = none || owner = some processor

/-- `LL_HSEM_ReleaseLock`: only the owner releases a semaphore. -/
def releaseLock (owner : Option Processor) (processor : Processor) :
    Option Processor :=
  if owner = some processor then none else owner

/-- The sources of the system clock that are used. -/
inductive SysClkSource where
  | hsi
  | hse
  deriving Repr, DecidableEq

/-- Where `EnterStopMode`, `EnterOffMode` and `ExitStopMode` stand. -/
inductive Phase where
  | acquireRcc
  | lockEntryStopMode
  | checkRadio
  | releaseEntryStopMode
  | switchOnHsi
  | clearLatency
  | releaseRcc
  /-- `__WFI` -/
  | waitForInterrupt
  | exitReleaseEntryStopMode
  | exitAcquireRcc
  | exitCheckClock
  | exitSetLatency
  | exitSwitchOnHse
  | exitReleaseRcc
  deriving Repr, DecidableEq

/-- What the processor executes. -/
inductive Control where
  /-- Tasks and interrupts. -/
  | running
  /-- `UTIL_LPM_EnterLowPower`, in a critical section. -/
  | lowPower (mode : Mode) (phase : Phase)
  deriving Repr, DecidableEq

/-- The low power manager, its clients and what the processors share. -/
structure Device where
  lpm : Lpm
  i2c : I2c
  flash : Flash
  control : Control
  sysClkSource : SysClkSource
  /-- `FLASH_LATENCY_0` or `FLASH_LATENCY_1` -/
  latency : Nat
  /-- The owner of `CFG_HW_RCC_SEMID`. -/
  rcc : Option Processor
  /-- The owner of `CFG_HW_ENTRY_STOP_MODE_SEMID`. -/
  entryStopMode : Option Processor
  /-- `LL_PWR_IsActiveFlag_C2DS` or `LL_PWR_IsActiveFlag_C2SB` -/
  radioDeepSleep : Bool
  /-- `BleInterface_Start` was called. -/
  bleStarted : Bool
  /-- `I2c3_Release` gave up the last transfer. -/
  givenUp : Bool
  /-- Off mode was entered and stop mode was not since then. -/
  sinceOff : Bool

/-- What the radio processor does with the shared hardware. -/
inductive RadioEvent where
  | lockRcc
  | releaseRcc
  | lockEntryStopMode
  | releaseEntryStopMode
  | deepSleep (asleep : Bool)
  | switchClock (source : SysClkSource) (latency : Nat)
  deriving Repr, DecidableEq

/-- What can happen next. -/
inductive Event where
  /-- `I2c3_Write` or `I2c3_Read`; the transfer starts or fails to. -/
  | i2cTransfer (starts : Bool)
  /-- `HAL_I2C_MasterTxCpltCallback` or `HAL_I2C_MasterRxCpltCallback` -/
  | i2cComplete
  /-- `HAL_I2C_ErrorCallback` by an interrupt. -/
  | i2cError
  | i2cRelease (force : Bool)
  | flashErase (startPageNr nrOfPages : Nat)
  | flashTask
  | flashEndOfOperation
  | flashOperationError
  /-- `BleInterface_Start` -/
  | bleStart
  /-- `OnSystemEventReadyProcessingCb` -/
  | systemReady
  /-- `UTIL_SEQ_Idle` -/
  | idle
  /-- The low power driver takes a step. -/
  | advance
  /-- An interrupt ends `__WFI`. -/
  | wake
  /-- Both processors sleep and the device stops. -/
  | deviceStops
  | radio (event : RadioEvent)
  deriving Repr, DecidableEq

namespace Device

/-- `I2c3_Release`, which `UTIL_SEQ_PreIdle` calls without force. -/
def release (device : Device) (force : Bool) : Device :=
  { device with
    i2c := device.i2c.release force
    givenUp :=
      device.givenUp || force && device.i2c.operationCompleteCb }

/-- `I2c3_Write` and `I2c3_Read` -/
def i2cTransfer (device : Device) (starts : Bool) : Option Device :=
  if device.i2c.operationCompleteCb then
    -- `ASSERT(_operationCompleteCb == 0)`
    none
  else
    -- the system must not go to sleep while transfer is ongoing
    let disabled := device.lpm.setStopMode clientI2c .disable
    if starts then
      some
        { device with
          lpm := disabled
          i2c := { operationCompleteCb := true, state := .busy } }
    else
      -- `HAL_I2C_ErrorCallback`
      some
        { device with
          lpm := disabled.setStopMode clientI2c .enable
          i2c := { operationCompleteCb := false, state := .ready }
          givenUp := false }

/-- The completion and the error of a transfer. -/
def i2cEnd (device : Device) : Device :=
  { device with
    lpm := device.lpm.setStopMode clientI2c .enable
    i2c := { operationCompleteCb := false, state := .ready }
    givenUp := false }

/-- `Flash_Erase` -/
def flashErase (device : Device) (startPageNr nrOfPages : Nat) :
    Option Device :=
  match device.flash.erase startPageNr nrOfPages with
  | .error _ => none
  | .ok flash =>
      some
        { device with
          lpm := device.lpm.setStopMode clientFlash .disable
          flash := flash }

/-- An interrupt of the flash; the vote ends with the operation. -/
def flashInterrupt
    (device : Device)
    (handled : Flash × Option Flash.Completion) : Device :=
  { device with
    lpm :=
      if handled.2.isSome then
        device.lpm.setStopMode clientFlash .enable
      else
        device.lpm
    flash := handled.1 }

/-- `UTIL_LPM_EnterLowPower` -/
def enterLowPower (device : Device) : Device :=
  let mode := device.lpm.mode
  { device with
    control :=
      .lowPower mode
        (if mode = .sleep then .waitForInterrupt else .acquireRcc)
    sinceOff := mode = .off || mode = .sleep && device.sinceOff }

/-- The driver goes on to another phase. -/
def withPhase (device : Device) (mode : Mode) (phase : Phase) : Device :=
  { device with control := .lowPower mode phase }

/-- The next step of `EnterLowPower` or of `ExitLowPower`. -/
def advance (device : Device) (mode : Mode) : Phase → Option Device
  | .acquireRcc =>
      some
        (if lockable device.rcc .application then
          { device.withPhase mode .lockEntryStopMode with
            rcc := some .application }
        else
          device)
  | .lockEntryStopMode =>
      some
        (if lockable device.entryStopMode .application then
          { device.withPhase mode .checkRadio with
            entryStopMode := some .application }
        else
          device.withPhase mode .switchOnHsi)
  | .checkRadio =>
      some
        (device.withPhase mode
          (if device.radioDeepSleep then
            .releaseEntryStopMode
          else
            .releaseRcc))
  | .releaseEntryStopMode =>
      some
        { device.withPhase mode .switchOnHsi with
          entryStopMode := releaseLock device.entryStopMode .application }
  | .switchOnHsi =>
      some { device.withPhase mode .clearLatency with sysClkSource := .hsi }
  | .clearLatency =>
      some { device.withPhase mode .releaseRcc with latency := 0 }
  | .releaseRcc =>
      some
        { device.withPhase mode .waitForInterrupt with
          rcc := releaseLock device.rcc .application }
  | .waitForInterrupt => none
  | .exitReleaseEntryStopMode =>
      some
        { device.withPhase mode .exitAcquireRcc with
          entryStopMode := releaseLock device.entryStopMode .application }
  | .exitAcquireRcc =>
      some
        (if lockable device.rcc .application then
          { device.withPhase mode .exitCheckClock with
            rcc := some .application }
        else
          device)
  | .exitCheckClock =>
      some
        (device.withPhase mode
          (if device.sysClkSource = .hsi then
            .exitSetLatency
          else
            .exitReleaseRcc))
  | .exitSetLatency =>
      some { device.withPhase mode .exitSwitchOnHse with latency := 1 }
  | .exitSwitchOnHse =>
      some
        { device.withPhase mode .exitReleaseRcc with sysClkSource := .hse }
  | .exitReleaseRcc =>
      some
        { device with
          control := .running
          rcc := releaseLock device.rcc .application }

/-- After `__WFI`: only `ExitStopMode` calls `ExitLowPower`. -/
def wake (device : Device) : Mode → Device
  | .sleep => { device with control := .running }
  | .stop => device.withPhase .stop .exitReleaseEntryStopMode
  | .off => { device with control := .running }

/-- A step of the radio processor. -/
def radio (device : Device) : RadioEvent → Option Device
  | .lockRcc =>
      if lockable device.rcc .radio then
        some { device with rcc := some .radio }
      else
        none
  | .releaseRcc =>
      some { device with rcc := releaseLock device.rcc .radio }
  | .lockEntryStopMode =>
      if lockable device.entryStopMode .radio then
        some { device with entryStopMode := some .radio }
      else
        none
  | .releaseEntryStopMode =>
      some
        { device with
          entryStopMode := releaseLock device.entryStopMode .radio }
  | .deepSleep asleep => some { device with radioDeepSleep := asleep }
  | .switchClock source latency =>
      some { device with sysClkSource := source, latency := latency }

/-- A step of the code that runs between the low power modes. -/
def software (device : Device) : Event → Option Device
  | .i2cTransfer starts => device.i2cTransfer starts
  | .i2cComplete =>
      if device.i2c.state = .busy then some device.i2cEnd else none
  | .i2cError =>
      if device.i2c.state = .busy then some device.i2cEnd else none
  | .i2cRelease force => some (device.release force)
  | .flashErase startPageNr nrOfPages =>
      device.flashErase startPageNr nrOfPages
  | .flashTask => some { device with flash := device.flash.flashTask }
  | .flashEndOfOperation =>
      some (device.flashInterrupt device.flash.endOfOperation)
  | .flashOperationError =>
      some (device.flashInterrupt device.flash.operationError)
  | .bleStart =>
      -- do not allow standby
      some
        { device with
          lpm := device.lpm.setOffMode clientBle .disable
          bleStarted := true }
  | .systemReady =>
      some { device with lpm := device.lpm.setOffMode clientApp .enable }
  | .idle => some device.enterLowPower
  | _ => none

/-- A step of the system; `none` where the event cannot happen. -/
def step (device : Device) : Event → Option Device
  | .radio event => device.radio event
  | .deviceStops =>
      match device.control with
      | .lowPower mode .waitForInterrupt =>
          if mode ≠ .sleep ∧ device.radioDeepSleep = true then
            -- `LL_RCC_STOP_WAKEUPCLOCK_HSI`
            some { device with sysClkSource := .hsi }
          else
            none
      | _ => none
  | event =>
      match device.control, event with
      | .lowPower mode phase, .advance => device.advance mode phase
      | .lowPower mode .waitForInterrupt, .wake => some (device.wake mode)
      | .lowPower _ _, _ => none
      | .running, _ => device.software event

/-- The device after the initialisation of clocks, drivers and manager. -/
def initialized (flash : Flash) (radioDeepSleep : Bool) : Device where
  lpm := Lpm.powerManagerInit
  i2c := { operationCompleteCb := false, state := .reset }
  flash := flash
  control := .running
  sysClkSource := .hse
  latency := 1
  rcc := none
  entryStopMode := none
  radioDeepSleep := radioDeepSleep
  bleStarted := false
  givenUp := false
  sinceOff := false

end Device

/-- Runs from an initialised device on; no page is being erased. -/
def system : System Device Event where
  start := fun device =>
    ∃ memory radioDeepSleep,
      device = .initialized (Flash.powerOn memory) radioDeepSleep
  step := fun device event next => device.step event = some next

/-- The way through a mode that is deeper than sleep. -/
def Control.deep : Control → Bool
  | .running => false
  | .lowPower mode _ => mode ≠ .sleep

/-- What the radio processor makes of clock and latency. -/
def Event.clockSwitch : Event → Option (SysClkSource × Nat)
  | .radio (.switchClock source latency) => some (source, latency)
  | _ => none

/--
The radio processor only switches the clock while it holds the semaphore and
while this processor is on its way through a deep mode; to the fast clock it
switches with the latency that the fast clock needs.
-/
def Cooperates (device : Device) (event : Event) : Prop :=
  ∀ switch ∈ event.clockSwitch,
    device.rcc = some .radio ∧ device.control.deep = true ∧
      (switch.1 = .hse → switch.2 = 1)

instance (device : Device) (event : Event) :
    Decidable (Cooperates device event) :=
  inferInstanceAs (Decidable (∀ switch ∈ event.clockSwitch, _ ∧ _ ∧ _))

end DemoBoard.LowPower
