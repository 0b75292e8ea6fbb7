import DemoBoard.LowPower

namespace DemoBoard.LowPower

open TransitionRuns

/-!
# Runs of the low power manager

Which mode is entered, and what the radio processor finds changed afterwards.
-/

namespace Device

/-- A transfer is not over, or it was given up and its vote remains. -/
def i2cVotes (device : Device) : Bool :=
  device.i2c.operationCompleteCb || device.givenUp

/-- The deepest mode that the clients leave. -/
def deepest (device : Device) : Mode :=
  if device.i2cVotes || device.flash.operationComplete then
    .sleep
  else if device.bleStarted then
    .stop
  else
    .off

end Device

/-- The bits of the clients that vote. -/
def votes (i2c flash : Bool) : BitVec 32 :=
  (if i2c then clientI2c else 0) ||| (if flash then clientFlash else 0)

/-- Pages are only erased while a callback is registered. -/
structure Pages (flash : Flash) : Prop where
  erasing : flash.erasing.isSome = true → flash.operationComplete = true
  queued : flash.processNextPage.isSome = true →
    flash.operationComplete = true ∧ flash.erasing = none

/-- What holds of the votes between two events. -/
structure Votes (device : Device) : Prop where
  stopMode : device.lpm.stopModeDisable =
    votes device.i2cVotes device.flash.operationComplete
  offMode : device.lpm.offModeDisable =
    if device.bleStarted then clientBle else 0
  busy : device.i2c.state = .busy → device.i2c.operationCompleteCb = true
  pages : Pages device.flash
  mode : ∀ mode phase, device.control = .lowPower mode phase →
    mode = device.deepest

section Masks

theorem vote_i2c_disable (i2c flash : Bool) :
    vote (votes i2c flash) clientI2c .disable = votes true flash := by
  cases i2c <;> cases flash <;> decide

theorem vote_i2c_enable (i2c flash : Bool) :
    vote (votes i2c flash) clientI2c .enable = votes false flash := by
  cases i2c <;> cases flash <;> decide

theorem vote_flash_disable (i2c flash : Bool) :
    vote (votes i2c flash) clientFlash .disable = votes i2c true := by
  cases i2c <;> cases flash <;> decide

theorem vote_flash_enable (i2c flash : Bool) :
    vote (votes i2c flash) clientFlash .enable = votes i2c false := by
  cases i2c <;> cases flash <;> decide

theorem vote_ble (started : Bool) :
    vote (if started then clientBle else 0) clientBle .disable =
      clientBle := by
  cases started <;> decide

/-- The application never disallowed the off mode. -/
theorem vote_app (started : Bool) :
    vote (if started then clientBle else 0) clientApp .enable =
      if started then clientBle else 0 := by
  cases started <;> decide

theorem votes_eq_zero_iff (i2c flash : Bool) :
    votes i2c flash = 0 ↔ i2c = false ∧ flash = false := by
  cases i2c <;> cases flash <;> decide

end Masks

section Steps

variable {device next : Device}

/-- The manager enters the deepest mode that the clients leave. -/
theorem Votes.mode_eq (votes : Votes device) :
    device.lpm.mode = device.deepest := by
  have zero := votes_eq_zero_iff device.i2cVotes
    device.flash.operationComplete
  rw [Lpm.mode, Device.deepest, votes.stopMode, votes.offMode]
  by_cases none : LowPower.votes device.i2cVotes
      device.flash.operationComplete = 0
  · obtain ⟨noTransfer, noErase⟩ := zero.mp none
    rw [if_neg (not_not_intro none), noTransfer, noErase]
    cases device.bleStarted <;> rfl
  · rw [if_pos none]
    cases transfer : device.i2cVotes <;>
      cases erase : device.flash.operationComplete <;>
      first
        | rfl
        | exact absurd (zero.mpr ⟨transfer, erase⟩) none

/-- A mode that is deeper than sleep is entered without any operation. -/
theorem Votes.idle
    (votes : Votes device)
    (deep : device.deepest ≠ .sleep) :
    device.i2c.operationCompleteCb = false ∧ device.i2c.state ≠ .busy ∧
      device.flash.operationComplete = false ∧
      device.flash.erasing = none ∧ device.flash.processNextPage = none := by
  rw [Device.deepest, Device.i2cVotes] at deep
  cases transfer : device.i2c.operationCompleteCb with
  | true => simp [transfer] at deep
  | false =>
      cases erase : device.flash.operationComplete with
      | true => simp [erase] at deep
      | false =>
          refine ⟨rfl, fun busy => ?_, rfl, ?_, ?_⟩
          · rw [votes.busy busy] at transfer
            cases transfer
          · cases erasing : device.flash.erasing with
            | none => rfl
            | some page =>
                rw [votes.pages.erasing (by rw [erasing]; rfl)] at erase
                cases erase
          · cases queued : device.flash.processNextPage with
            | none => rfl
            | some page =>
                rw [(votes.pages.queued (by rw [queued]; rfl)).1] at erase
                cases erase

/-- The votes fit the drivers again, and the processor runs on. -/
theorem Votes.of_running
    (running : next.control = .running)
    (stopMode : next.lpm.stopModeDisable =
      votes next.i2cVotes next.flash.operationComplete)
    (offMode : next.lpm.offModeDisable =
      if next.bleStarted then clientBle else 0)
    (busy : next.i2c.state = .busy → next.i2c.operationCompleteCb = true)
    (pages : Pages next.flash) :
    Votes next :=
  ⟨stopMode, offMode, busy, pages, fun mode phase lowPower => by
    rw [running] at lowPower
    cases lowPower⟩

theorem Votes.i2cEnd
    (fits : Votes device)
    (running : device.control = .running) :
    Votes device.i2cEnd := by
  refine .of_running running ?_ fits.offMode (by rintro ⟨⟩) fits.pages
  rw [Device.i2cEnd]
  dsimp only [Lpm.setStopMode, Device.i2cVotes]
  rw [fits.stopMode, vote_i2c_enable]
  rfl

theorem Votes.i2cTransfer
    {starts : Bool}
    (fits : Votes device)
    (running : device.control = .running)
    (stepped : device.i2cTransfer starts = some next) :
    Votes next := by
  rw [Device.i2cTransfer] at stepped
  split at stepped
  · cases stepped
  · split at stepped
    · cases stepped
      refine .of_running running ?_ fits.offMode (fun _ => rfl) fits.pages
      dsimp only [Lpm.setStopMode, Device.i2cVotes]
      rw [fits.stopMode, vote_i2c_disable]
      rfl
    · cases stepped
      refine .of_running running ?_ fits.offMode (by rintro ⟨⟩) fits.pages
      dsimp only [Lpm.setStopMode, Device.i2cVotes]
      rw [fits.stopMode, vote_i2c_disable, vote_i2c_enable]
      rfl

theorem Votes.release
    (fits : Votes device)
    (running : device.control = .running)
    (force : Bool) :
    Votes (device.release force) := by
  have released : (device.i2c.release force).operationCompleteCb =
      (!force && device.i2c.operationCompleteCb) := by
    rw [I2c.release]
    split <;> rfl
  have same : (device.release force).i2cVotes = device.i2cVotes := by
    rw [Device.i2cVotes, Device.i2cVotes, Device.release]
    dsimp only
    rw [released]
    cases force <;> cases device.i2c.operationCompleteCb <;>
      cases device.givenUp <;> rfl
  refine .of_running running ?_ fits.offMode ?_ fits.pages
  · rw [same]
    exact fits.stopMode
  · intro busy
    rw [Device.release, I2c.release] at busy
    dsimp only at busy
    split at busy
    · next kept =>
        rcases kept with reset | pending
        · rw [reset] at busy
          cases busy
        · rw [Device.release]
          dsimp only
          rw [released, pending]
    · cases busy

theorem Pages.erase
    {flash after : Flash}
    {page nrOfPages : Nat}
    (pages : Pages flash)
    (erased : flash.erase page nrOfPages = .ok after) :
    Pages after ∧ after.operationComplete = true := by
  rw [Flash.erase] at erased
  split at erased
  · cases erased
  · split at erased
    · cases erased
    · split at erased
      · cases erased
      · next idle =>
          cases erased
          have none : flash.erasing = none := by
            cases erasing : flash.erasing with
            | none => rfl
            | some page =>
                exact absurd (pages.erasing (by rw [erasing]; rfl)) idle
          exact ⟨⟨fun _ => rfl, fun _ => ⟨rfl, none⟩⟩, rfl⟩

theorem Pages.flashTask
    {flash : Flash}
    (pages : Pages flash) :
    Pages flash.flashTask ∧
      flash.flashTask.operationComplete = flash.operationComplete := by
  rw [Flash.flashTask]
  split
  · exact ⟨pages, rfl⟩
  · next page queued =>
      have pending := pages.queued (by rw [queued]; rfl)
      exact ⟨⟨fun _ => pending.1, by rintro ⟨⟩⟩, rfl⟩

/-- An interrupt ends the vote exactly if it ends the operation. -/
theorem Pages.endOfOperation
    {flash : Flash}
    (pages : Pages flash) :
    Pages flash.endOfOperation.1 ∧
      flash.endOfOperation.1.operationComplete =
        if flash.endOfOperation.2.isSome then
          false
        else
          flash.operationComplete := by
  obtain ⟨left, isLeft⟩ :
      ∃ left, (flash.pagesToErase + 65535) % 65536 = left := ⟨_, rfl⟩
  rw [Flash.endOfOperation]
  cases erasing : flash.erasing with
  | none => exact ⟨pages, rfl⟩
  | some page =>
      have pending := pages.erasing (by rw [erasing]; rfl)
      have noMessage : flash.processNextPage = none := by
        cases queued : flash.processNextPage with
        | none => rfl
        | some next =>
            have idle := (pages.queued (by rw [queued]; rfl)).2
            rw [erasing] at idle
            cases idle
      simp only [isLeft]
      by_cases last : left = 0
      · rw [if_pos last]
        refine ⟨⟨by rintro ⟨⟩, fun queued => ?_⟩, rfl⟩
        dsimp only at queued
        rw [noMessage] at queued
        cases queued
      · rw [if_neg last]
        exact ⟨⟨by rintro ⟨⟩, fun _ => ⟨pending, rfl⟩⟩, rfl⟩

theorem Pages.operationError
    {flash : Flash}
    (pages : Pages flash) :
    Pages flash.operationError.1 ∧
      flash.operationError.1.operationComplete =
        if flash.operationError.2.isSome then
          false
        else
          flash.operationComplete := by
  rw [Flash.operationError]
  split
  · exact ⟨pages, rfl⟩
  · next page erasing =>
      refine ⟨⟨by rintro ⟨⟩, fun queued => ?_⟩, rfl⟩
      dsimp only at queued
      have idle := (pages.queued queued).2
      rw [erasing] at idle
      cases idle

theorem Votes.flashInterrupt
    {handled : Flash × Option Flash.Completion}
    (fits : Votes device)
    (running : device.control = .running)
    (pages : Pages handled.1)
    (complete : handled.1.operationComplete =
      if handled.2.isSome then false else device.flash.operationComplete) :
    Votes (device.flashInterrupt handled) := by
  refine .of_running running ?_ ?_ fits.busy pages
  · rw [Device.flashInterrupt]
    dsimp only [Device.i2cVotes]
    rw [complete]
    split
    · dsimp only [Lpm.setStopMode]
      rw [fits.stopMode, vote_flash_enable]
      rfl
    · exact fits.stopMode
  · rw [Device.flashInterrupt]
    dsimp only
    split <;> exact fits.offMode

/-- The code between the low power modes keeps the votes. -/
theorem Votes.software
    {event : Event}
    (fits : Votes device)
    (running : device.control = .running)
    (stepped : device.software event = some next) :
    Votes next := by
  cases event with
  | i2cTransfer starts => exact fits.i2cTransfer running stepped
  | i2cComplete =>
      rw [Device.software] at stepped
      split at stepped
      · cases stepped
        exact fits.i2cEnd running
      · cases stepped
  | i2cError =>
      rw [Device.software] at stepped
      split at stepped
      · cases stepped
        exact fits.i2cEnd running
      · cases stepped
  | i2cRelease force =>
      cases stepped
      exact fits.release running force
  | flashErase startPageNr nrOfPages =>
      rw [Device.software, Device.flashErase] at stepped
      split at stepped
      · cases stepped
      · next flash erased =>
          cases stepped
          obtain ⟨pages, complete⟩ := fits.pages.erase erased
          refine .of_running running ?_ fits.offMode fits.busy pages
          dsimp only [Lpm.setStopMode, Device.i2cVotes]
          rw [fits.stopMode, vote_flash_disable, complete]
          rfl
  | flashTask =>
      cases stepped
      obtain ⟨pages, complete⟩ := fits.pages.flashTask
      refine .of_running running ?_ fits.offMode fits.busy pages
      dsimp only [Device.i2cVotes]
      rw [complete]
      exact fits.stopMode
  | flashEndOfOperation =>
      cases stepped
      obtain ⟨pages, complete⟩ := fits.pages.endOfOperation
      exact fits.flashInterrupt running pages complete
  | flashOperationError =>
      cases stepped
      obtain ⟨pages, complete⟩ := fits.pages.operationError
      exact fits.flashInterrupt running pages complete
  | bleStart =>
      cases stepped
      refine .of_running running fits.stopMode ?_ fits.busy fits.pages
      dsimp only [Lpm.setOffMode]
      rw [fits.offMode, vote_ble, if_pos rfl]
  | systemReady =>
      cases stepped
      refine .of_running running fits.stopMode ?_ fits.busy fits.pages
      dsimp only [Lpm.setOffMode]
      rw [fits.offMode, vote_app]
  | idle =>
      cases stepped
      refine ⟨fits.stopMode, fits.offMode, fits.busy, fits.pages, ?_⟩
      intro mode phase entered
      cases entered
      exact fits.mode_eq
  | _ => cases stepped

end Steps

/-! The low power driver leaves the clients alone. -/

/-- Nothing changed for the clients. -/
structure SameClients (device next : Device) : Prop where
  lpm : next.lpm = device.lpm
  i2c : next.i2c = device.i2c
  flash : next.flash = device.flash
  bleStarted : next.bleStarted = device.bleStarted
  givenUp : next.givenUp = device.givenUp
  sinceOff : next.sinceOff = device.sinceOff

section Driver

variable {device next : Device} {mode : Mode} {phase : Phase}

theorem SameClients.votes
    (same : SameClients device next)
    (fits : Votes device)
    (control : ∀ mode phase, next.control = .lowPower mode phase →
      ∃ phase, device.control = .lowPower mode phase) :
    Votes next := by
  have i2cVotes : next.i2cVotes = device.i2cVotes := by
    rw [Device.i2cVotes, Device.i2cVotes, same.i2c, same.givenUp]
  have deepest : next.deepest = device.deepest := by
    rw [Device.deepest, Device.deepest, i2cVotes, same.flash,
      same.bleStarted]
  refine ⟨?_, ?_, ?_, ?_, fun mode phase lowPower => ?_⟩
  · rw [same.lpm, i2cVotes, same.flash]
    exact fits.stopMode
  · rw [same.lpm, same.bleStarted]
    exact fits.offMode
  · rw [same.i2c]
    exact fits.busy
  · rw [same.flash]
    exact fits.pages
  · obtain ⟨before, entered⟩ := control mode phase lowPower
    rw [deepest]
    exact fits.mode mode before entered

/-- The driver is the same for every mode: it leaves the clients alone. -/
theorem sameClients_advance
    (control : device.control = .lowPower mode phase)
    (stepped : device.advance mode phase = some next) :
    SameClients device next ∧
      ∀ other later, next.control = .lowPower other later →
        other = mode := by
  cases phase with
  | acquireRcc =>
      rw [Device.advance] at stepped
      split at stepped
      · cases stepped
        exact ⟨⟨rfl, rfl, rfl, rfl, rfl, rfl⟩, by rintro _ _ ⟨⟩; rfl⟩
      · cases stepped
        refine ⟨⟨rfl, rfl, rfl, rfl, rfl, rfl⟩, fun other later same => ?_⟩
        rw [control] at same
        cases same
        rfl
  | lockEntryStopMode =>
      rw [Device.advance] at stepped
      split at stepped
      · cases stepped
        exact ⟨⟨rfl, rfl, rfl, rfl, rfl, rfl⟩, by rintro _ _ ⟨⟩; rfl⟩
      · cases stepped
        exact ⟨⟨rfl, rfl, rfl, rfl, rfl, rfl⟩, by rintro _ _ ⟨⟩; rfl⟩
  | exitAcquireRcc =>
      rw [Device.advance] at stepped
      split at stepped
      · cases stepped
        exact ⟨⟨rfl, rfl, rfl, rfl, rfl, rfl⟩, by rintro _ _ ⟨⟩; rfl⟩
      · cases stepped
        refine ⟨⟨rfl, rfl, rfl, rfl, rfl, rfl⟩, fun other later same => ?_⟩
        rw [control] at same
        cases same
        rfl
  | waitForInterrupt => cases stepped
  | exitReleaseRcc =>
      cases stepped
      exact ⟨⟨rfl, rfl, rfl, rfl, rfl, rfl⟩, by rintro _ _ ⟨⟩⟩
  | _ =>
      cases stepped
      exact ⟨⟨rfl, rfl, rfl, rfl, rfl, rfl⟩, by rintro _ _ ⟨⟩; rfl⟩

/-- So does the radio processor. -/
theorem sameClients_radio
    {event : RadioEvent}
    (stepped : device.radio event = some next) :
    SameClients device next ∧ next.control = device.control := by
  cases event with
  | lockRcc =>
      rw [Device.radio] at stepped
      split at stepped
      · cases stepped
        exact ⟨⟨rfl, rfl, rfl, rfl, rfl, rfl⟩, rfl⟩
      · cases stepped
  | lockEntryStopMode =>
      rw [Device.radio] at stepped
      split at stepped
      · cases stepped
        exact ⟨⟨rfl, rfl, rfl, rfl, rfl, rfl⟩, rfl⟩
      · cases stepped
  | _ =>
      cases stepped
      exact ⟨⟨rfl, rfl, rfl, rfl, rfl, rfl⟩, rfl⟩

/-- What is left to do at a phase, and what is held. -/
def AtPhase (device : Device) : Phase → Prop
  | .acquireRcc => device.rcc ≠ some .application
  | .lockEntryStopMode => device.rcc = some .application
  | .checkRadio => device.rcc = some .application
  | .releaseEntryStopMode => device.rcc = some .application
  | .switchOnHsi => device.rcc = some .application
  | .clearLatency =>
      device.rcc = some .application ∧ device.sysClkSource = .hsi
  | .releaseRcc => device.rcc = some .application
  | .waitForInterrupt => device.rcc ≠ some .application
  | .exitReleaseEntryStopMode => device.rcc ≠ some .application
  | .exitAcquireRcc =>
      device.rcc ≠ some .application ∧
        device.entryStopMode ≠ some .application
  | .exitCheckClock =>
      device.rcc = some .application ∧
        device.entryStopMode ≠ some .application
  | .exitSetLatency =>
      device.rcc = some .application ∧
        device.entryStopMode ≠ some .application ∧
        device.sysClkSource = .hsi
  | .exitSwitchOnHse =>
      device.rcc = some .application ∧
        device.entryStopMode ≠ some .application ∧
        device.sysClkSource = .hsi ∧ device.latency = 1
  | .exitReleaseRcc =>
      device.rcc = some .application ∧
        device.entryStopMode ≠ some .application ∧
        device.sysClkSource = .hse

/-- The clock is fast again and the semaphores are given back. -/
structure Restored (device : Device) : Prop where
  rcc : device.rcc ≠ some .application
  restored : device.sinceOff = false →
    device.sysClkSource = .hse ∧
      device.entryStopMode ≠ some .application

/-- What holds of the clock between two events. -/
structure Clocks (device : Device) : Prop where
  /-- The flash is never read faster than its latency allows. -/
  latency : device.sysClkSource = .hse → device.latency = 1
  running : device.control = .running → Restored device
  sleeping : ∀ phase, device.control = .lowPower .sleep phase →
    phase = .waitForInterrupt ∧ Restored device
  deep : ∀ mode phase, device.control = .lowPower mode phase →
    mode ≠ .sleep → AtPhase device phase
  off : ∀ phase, device.control = .lowPower .off phase →
    device.sinceOff = true

theorem releaseLock_ne (owner : Option Processor) (processor : Processor) :
    releaseLock owner processor ≠ some processor := by
  rw [releaseLock]
  split
  · exact Option.some_ne_none processor |>.symm
  · assumption

/-- Only the driver itself takes what it does not hold. -/
theorem Clocks.of_deep
    (deep : mode ≠ .sleep)
    (control : next.control = .lowPower mode phase)
    (latency : next.sysClkSource = .hse → next.latency = 1)
    (holds : AtPhase next phase)
    (off : mode = .off → next.sinceOff = true) :
    Clocks next := by
  refine ⟨latency, ?_, ?_, ?_, ?_⟩
  · rw [control]
    rintro ⟨⟩
  · rw [control]
    rintro _ ⟨⟩
    exact absurd rfl deep
  · rw [control]
    rintro _ _ ⟨⟩ _
    exact holds
  · rw [control]
    rintro _ ⟨⟩
    exact off rfl

theorem Clocks.of_running
    (control : next.control = .running)
    (latency : next.sysClkSource = .hse → next.latency = 1)
    (restored : Restored next) :
    Clocks next := by
  refine ⟨latency, fun _ => restored, ?_, ?_, ?_⟩
  · rw [control]
    rintro _ ⟨⟩
  · rw [control]
    rintro _ _ ⟨⟩
  · rw [control]
    rintro _ ⟨⟩

/-- A step of the driver in a deep mode. -/
theorem Clocks.advance
    (clocks : Clocks device)
    (control : device.control = .lowPower mode phase)
    (deep : mode ≠ .sleep)
    (stepped : device.advance mode phase = some next) :
    Clocks next ∧
      (next.sysClkSource ≠ device.sysClkSource →
        device.rcc = some .application) := by
  have holds := clocks.deep mode phase control deep
  have off : mode = .off → device.sinceOff = true := by
    rintro rfl
    exact clocks.off phase control
  cases phase with
  | acquireRcc =>
      rw [Device.advance] at stepped
      split at stepped
      · cases stepped
        exact ⟨.of_deep deep rfl clocks.latency rfl off,
          fun changed => absurd rfl changed⟩
      · cases stepped
        exact ⟨clocks, fun changed => absurd rfl changed⟩
  | lockEntryStopMode =>
      rw [Device.advance] at stepped
      split at stepped
      · cases stepped
        exact ⟨.of_deep deep rfl clocks.latency holds off,
          fun changed => absurd rfl changed⟩
      · cases stepped
        exact ⟨.of_deep deep rfl clocks.latency holds off,
          fun changed => absurd rfl changed⟩
  | checkRadio =>
      rw [Device.advance] at stepped
      cases stepped
      refine ⟨.of_deep deep rfl clocks.latency ?_ off,
        fun changed => absurd rfl changed⟩
      split <;> exact holds
  | releaseEntryStopMode =>
      cases stepped
      exact ⟨.of_deep deep rfl clocks.latency holds off,
        fun changed => absurd rfl changed⟩
  | switchOnHsi =>
      cases stepped
      exact ⟨.of_deep deep rfl (by rintro ⟨⟩) ⟨holds, rfl⟩ off,
        fun _ => holds⟩
  | clearLatency =>
      cases stepped
      refine ⟨.of_deep deep rfl (fun fast => ?_) holds.1 off,
        fun changed => absurd rfl changed⟩
      have slow : device.sysClkSource = .hse := fast
      rw [holds.2] at slow
      cases slow
  | releaseRcc =>
      cases stepped
      exact ⟨.of_deep deep rfl clocks.latency (releaseLock_ne _ _) off,
        fun changed => absurd rfl changed⟩
  | waitForInterrupt => cases stepped
  | exitReleaseEntryStopMode =>
      cases stepped
      exact ⟨.of_deep deep rfl clocks.latency
          ⟨holds, releaseLock_ne _ _⟩ off,
        fun changed => absurd rfl changed⟩
  | exitAcquireRcc =>
      rw [Device.advance] at stepped
      split at stepped
      · cases stepped
        exact ⟨.of_deep deep rfl clocks.latency ⟨rfl, holds.2⟩ off,
          fun changed => absurd rfl changed⟩
      · cases stepped
        exact ⟨clocks, fun changed => absurd rfl changed⟩
  | exitCheckClock =>
      rw [Device.advance] at stepped
      cases stepped
      refine ⟨.of_deep deep rfl clocks.latency ?_ off,
        fun changed => absurd rfl changed⟩
      cases clock : device.sysClkSource with
      | hsi => exact ⟨holds.1, holds.2, clock⟩
      | hse => exact ⟨holds.1, holds.2, clock⟩
  | exitSetLatency =>
      cases stepped
      exact ⟨.of_deep deep rfl (fun _ => rfl)
          ⟨holds.1, holds.2.1, holds.2.2, rfl⟩ off,
        fun changed => absurd rfl changed⟩
  | exitSwitchOnHse =>
      cases stepped
      exact ⟨.of_deep deep rfl (fun _ => holds.2.2.2)
          ⟨holds.1, holds.2.1, rfl⟩ off,
        fun _ => holds.1⟩
  | exitReleaseRcc =>
      cases stepped
      exact ⟨.of_running rfl clocks.latency
          ⟨releaseLock_ne _ _, fun _ => ⟨holds.2.2, holds.2.1⟩⟩,
        fun changed => absurd rfl changed⟩

/-- The shared hardware is as before, and the processor runs on. -/
structure SameHardware (device next : Device) : Prop where
  control : next.control = .running
  sysClkSource : next.sysClkSource = device.sysClkSource
  latency : next.latency = device.latency
  rcc : next.rcc = device.rcc
  entryStopMode : next.entryStopMode = device.entryStopMode
  sinceOff : next.sinceOff = device.sinceOff

theorem sameHardware_software
    {event : Event}
    (running : device.control = .running)
    (noIdle : event ≠ .idle)
    (stepped : device.software event = some next) :
    SameHardware device next := by
  cases event with
  | i2cTransfer starts =>
      rw [Device.software, Device.i2cTransfer] at stepped
      split at stepped
      · cases stepped
      · split at stepped
        · cases stepped
          exact ⟨running, rfl, rfl, rfl, rfl, rfl⟩
        · cases stepped
          exact ⟨running, rfl, rfl, rfl, rfl, rfl⟩
  | i2cComplete =>
      rw [Device.software] at stepped
      split at stepped
      · cases stepped
        exact ⟨running, rfl, rfl, rfl, rfl, rfl⟩
      · cases stepped
  | i2cError =>
      rw [Device.software] at stepped
      split at stepped
      · cases stepped
        exact ⟨running, rfl, rfl, rfl, rfl, rfl⟩
      · cases stepped
  | flashErase startPageNr nrOfPages =>
      rw [Device.software, Device.flashErase] at stepped
      split at stepped
      · cases stepped
      · cases stepped
        exact ⟨running, rfl, rfl, rfl, rfl, rfl⟩
  | idle => exact absurd rfl noIdle
  | i2cRelease force =>
      cases stepped
      exact ⟨running, rfl, rfl, rfl, rfl, rfl⟩
  | flashTask =>
      cases stepped
      exact ⟨running, rfl, rfl, rfl, rfl, rfl⟩
  | flashEndOfOperation =>
      cases stepped
      exact ⟨running, rfl, rfl, rfl, rfl, rfl⟩
  | flashOperationError =>
      cases stepped
      exact ⟨running, rfl, rfl, rfl, rfl, rfl⟩
  | bleStart =>
      cases stepped
      exact ⟨running, rfl, rfl, rfl, rfl, rfl⟩
  | systemReady =>
      cases stepped
      exact ⟨running, rfl, rfl, rfl, rfl, rfl⟩
  | _ => cases stepped

theorem Clocks.software
    {event : Event}
    (clocks : Clocks device)
    (running : device.control = .running)
    (stepped : device.software event = some next) :
    Clocks next := by
  have restored := clocks.running running
  by_cases idle : event = .idle
  · subst idle
    cases stepped
    cases mode : device.lpm.mode with
    | sleep =>
        have entered : device.enterLowPower.control =
            .lowPower .sleep .waitForInterrupt := by
          rw [Device.enterLowPower, mode]
          rfl
        have same : device.enterLowPower.sinceOff = device.sinceOff := by
          rw [Device.enterLowPower, mode]
          rfl
        refine ⟨clocks.latency, ?_, ?_, ?_, ?_⟩
        · rw [entered]
          rintro ⟨⟩
        · rw [entered]
          rintro _ ⟨⟩
          refine ⟨rfl, restored.rcc, fun notOff => restored.restored ?_⟩
          rw [← same]
          exact notOff
        · rw [entered]
          rintro _ _ ⟨⟩ deep
          exact absurd rfl deep
        · rw [entered]
          rintro _ ⟨⟩
    | stop =>
        have entered : device.enterLowPower.control =
            .lowPower .stop .acquireRcc := by
          rw [Device.enterLowPower, mode]
          rfl
        exact .of_deep (by decide) entered clocks.latency restored.rcc
          (by rintro ⟨⟩)
    | off =>
        have entered : device.enterLowPower.control =
            .lowPower .off .acquireRcc := by
          rw [Device.enterLowPower, mode]
          rfl
        refine .of_deep (by decide) entered clocks.latency restored.rcc
          fun _ => ?_
        rw [Device.enterLowPower, mode]
        rfl
  · have same := sameHardware_software running idle stepped
    refine .of_running same.control ?_ ⟨?_, ?_⟩
    · rw [same.sysClkSource, same.latency]
      exact clocks.latency
    · rw [same.rcc]
      exact restored.rcc
    · rw [same.sinceOff, same.sysClkSource, same.entryStopMode]
      exact restored.restored

theorem lockable_radio
    {owner : Option Processor}
    (free : lockable owner .radio = true) :
    owner ≠ some .application := by
  rintro rfl
  cases free

theorem releaseLock_radio (owner : Option Processor) :
    releaseLock owner .radio = some .application ↔
      owner = some .application := by
  cases owner with
  | none => exact Iff.rfl
  | some processor => cases processor <;> decide

/-- What the radio processor does keeps what this processor holds. -/
structure Kept (device next : Device) : Prop where
  control : next.control = device.control
  sinceOff : next.sinceOff = device.sinceOff
  rcc : next.rcc = some .application ↔ device.rcc = some .application
  entryStopMode : next.entryStopMode = some .application ↔
    device.entryStopMode = some .application
  clock : device.rcc = some .application ∨ device.control = .running ∨
      (∃ phase, device.control = .lowPower .sleep phase) →
    next.sysClkSource = device.sysClkSource ∧
      next.latency = device.latency
  latency : (device.sysClkSource = .hse → device.latency = 1) →
    next.sysClkSource = .hse → next.latency = 1

theorem Kept.restored
    (kept : Kept device next)
    (still : device.control = .running ∨
      ∃ phase, device.control = .lowPower .sleep phase)
    (restored : Restored device) :
    Restored next := by
  refine ⟨fun held => restored.rcc (kept.rcc.mp held), fun notOff => ?_⟩
  rw [kept.sinceOff] at notOff
  obtain ⟨fast, free⟩ := restored.restored notOff
  rw [(kept.clock (.inr still)).1]
  exact ⟨fast, fun held => free (kept.entryStopMode.mp held)⟩

theorem Kept.atPhase
    (kept : Kept device next)
    (holds : AtPhase device phase) :
    AtPhase next phase := by
  have rcc := kept.rcc
  have entryStopMode := not_congr kept.entryStopMode
  have clock : device.rcc = some .application →
      next.sysClkSource = device.sysClkSource ∧
        next.latency = device.latency :=
    fun held => kept.clock (.inl held)
  cases phase with
  | acquireRcc => exact mt rcc.mp holds
  | lockEntryStopMode => exact rcc.mpr holds
  | checkRadio => exact rcc.mpr holds
  | releaseEntryStopMode => exact rcc.mpr holds
  | switchOnHsi => exact rcc.mpr holds
  | clearLatency =>
      exact ⟨rcc.mpr holds.1, (clock holds.1).1.trans holds.2⟩
  | releaseRcc => exact rcc.mpr holds
  | waitForInterrupt => exact mt rcc.mp holds
  | exitReleaseEntryStopMode => exact mt rcc.mp holds
  | exitAcquireRcc =>
      exact ⟨mt rcc.mp holds.1, entryStopMode.mpr holds.2⟩
  | exitCheckClock => exact ⟨rcc.mpr holds.1, entryStopMode.mpr holds.2⟩
  | exitSetLatency =>
      exact ⟨rcc.mpr holds.1, entryStopMode.mpr holds.2.1,
        (clock holds.1).1.trans holds.2.2⟩
  | exitSwitchOnHse =>
      exact ⟨rcc.mpr holds.1, entryStopMode.mpr holds.2.1,
        (clock holds.1).1.trans holds.2.2.1,
        (clock holds.1).2.trans holds.2.2.2⟩
  | exitReleaseRcc =>
      exact ⟨rcc.mpr holds.1, entryStopMode.mpr holds.2.1,
        (clock holds.1).1.trans holds.2.2⟩

theorem Kept.clocks
    (kept : Kept device next)
    (clocks : Clocks device) :
    Clocks next := by
  refine ⟨kept.latency clocks.latency, fun running => ?_,
    fun phase sleeping => ?_, fun mode phase lowPower deep => ?_,
    fun phase lowPower => ?_⟩
  · rw [kept.control] at running
    exact kept.restored (.inl running) (clocks.running running)
  · rw [kept.control] at sleeping
    obtain ⟨waiting, restored⟩ := clocks.sleeping phase sleeping
    exact ⟨waiting, kept.restored (.inr ⟨phase, sleeping⟩) restored⟩
  · rw [kept.control] at lowPower
    exact kept.atPhase (clocks.deep mode phase lowPower deep)
  · rw [kept.control] at lowPower
    rw [kept.sinceOff]
    exact clocks.off phase lowPower

theorem kept_radio
    {event : RadioEvent}
    (cooperates : Cooperates device (.radio event))
    (stepped : device.radio event = some next) :
    Kept device next := by
  cases event with
  | lockRcc =>
      rw [Device.radio] at stepped
      split at stepped
      · next free =>
          cases stepped
          exact ⟨rfl, rfl,
            ⟨by rintro ⟨⟩, fun held => absurd held (lockable_radio free)⟩,
            Iff.rfl, fun _ => ⟨rfl, rfl⟩, id⟩
      · cases stepped
  | releaseRcc =>
      cases stepped
      exact ⟨rfl, rfl, releaseLock_radio _, Iff.rfl, fun _ => ⟨rfl, rfl⟩,
        id⟩
  | lockEntryStopMode =>
      rw [Device.radio] at stepped
      split at stepped
      · next free =>
          cases stepped
          exact ⟨rfl, rfl, Iff.rfl,
            ⟨by rintro ⟨⟩, fun held => absurd held (lockable_radio free)⟩,
            fun _ => ⟨rfl, rfl⟩, id⟩
      · cases stepped
  | releaseEntryStopMode =>
      cases stepped
      exact ⟨rfl, rfl, Iff.rfl, releaseLock_radio _, fun _ => ⟨rfl, rfl⟩,
        id⟩
  | deepSleep asleep =>
      cases stepped
      exact ⟨rfl, rfl, Iff.rfl, Iff.rfl, fun _ => ⟨rfl, rfl⟩, id⟩
  | switchClock source latency =>
      obtain ⟨owns, deep, slow⟩ := cooperates (source, latency) rfl
      cases stepped
      refine ⟨rfl, rfl, Iff.rfl, Iff.rfl, ?_, fun _ => slow⟩
      rintro (held | running | ⟨phase, sleeping⟩)
      · rw [owns] at held
        cases held
      · rw [running] at deep
        cases deep
      · rw [sleeping] at deep
        cases deep

theorem clock_of_radio
    {event : RadioEvent}
    (stepped : device.radio event = some next)
    (noSwitch : ∀ source latency, event ≠ .switchClock source latency) :
    next.sysClkSource = device.sysClkSource := by
  cases event with
  | switchClock source latency => exact absurd rfl (noSwitch source latency)
  | lockRcc =>
      rw [Device.radio] at stepped
      split at stepped
      · cases stepped
        rfl
      · cases stepped
  | lockEntryStopMode =>
      rw [Device.radio] at stepped
      split at stepped
      · cases stepped
        rfl
      · cases stepped
  | _ =>
      cases stepped
      rfl

/-- The clock after the device has stopped is the slow one. -/
theorem Clocks.deviceStops
    (clocks : Clocks device)
    (control : device.control = .lowPower mode .waitForInterrupt)
    (deep : mode ≠ .sleep) :
    Clocks { device with sysClkSource := .hsi } := by
  refine .of_deep deep control (by rintro ⟨⟩)
    (clocks.deep mode _ control deep) ?_
  rintro rfl
  exact clocks.off _ control

/-- An interrupt ends a low power mode. -/
theorem Clocks.wake
    (clocks : Clocks device)
    (control : device.control = .lowPower mode .waitForInterrupt) :
    Clocks (device.wake mode) := by
  cases mode with
  | sleep =>
      have restored := (clocks.sleeping _ control).2
      exact .of_running rfl clocks.latency ⟨restored.rcc, restored.restored⟩
  | stop =>
      have holds := clocks.deep .stop _ control (by decide)
      exact .of_deep (by decide : Mode.stop ≠ .sleep) rfl clocks.latency holds
        (by rintro ⟨⟩)
  | off =>
      have holds := clocks.deep .off _ control (by decide)
      have sinceOff := clocks.off _ control
      refine .of_running rfl clocks.latency ⟨holds, fun notOff => ?_⟩
      have not : device.sinceOff = false := notOff
      rw [sinceOff] at not
      cases not

end Driver

section Runs

variable {device next : Device}

/-- What a step of this processor is. -/
inductive Stepped (device : Device) (event : Event) : Device → Prop where
  | software
      {next : Device}
      (running : device.control = .running)
      (stepped : device.software event = some next) :
      Stepped device event next
  | driver
      {mode : Mode}
      {phase : Phase}
      {next : Device}
      (isAdvance : event = .advance)
      (control : device.control = .lowPower mode phase)
      (stepped : device.advance mode phase = some next) :
      Stepped device event next
  | wake
      {mode : Mode}
      (control : device.control = .lowPower mode .waitForInterrupt) :
      Stepped device event (device.wake mode)
  | deviceStops
      {mode : Mode}
      (isStop : event = .deviceStops)
      (control : device.control = .lowPower mode .waitForInterrupt)
      (deep : mode ≠ .sleep) :
      Stepped device event { device with sysClkSource := .hsi }
  | radio
      {radioEvent : RadioEvent}
      {next : Device}
      (isRadio : event = .radio radioEvent)
      (stepped : device.radio radioEvent = some next) :
      Stepped device event next

theorem stepped_of_step
    {event : Event}
    (stepped : device.step event = some next) :
    Stepped device event next := by
  cases event with
  | radio radioEvent => exact .radio rfl stepped
  | deviceStops =>
      rw [Device.step] at stepped
      split at stepped
      · next mode control =>
          split at stepped
          · next asleep =>
              cases stepped
              exact .deviceStops rfl control asleep.1
          · cases stepped
      · cases stepped
  | advance =>
      cases control : device.control with
      | running =>
          simp only [Device.step, control] at stepped
          exact .software control stepped
      | lowPower mode phase =>
          simp only [Device.step, control] at stepped
          exact .driver rfl control stepped
  | wake =>
      cases control : device.control with
      | running =>
          simp only [Device.step, control] at stepped
          exact .software control stepped
      | lowPower mode phase =>
          cases phase with
          | waitForInterrupt =>
              simp only [Device.step, control] at stepped
              cases stepped
              exact .wake control
          | _ =>
              simp only [Device.step, control] at stepped
              cases stepped
  | _ =>
      cases control : device.control with
      | running =>
          simp only [Device.step, control] at stepped
          exact .software control stepped
      | lowPower mode phase =>
          simp only [Device.step, control] at stepped
          cases stepped

/-- Every step keeps the votes, whatever the radio processor does. -/
theorem Votes.step
    {event : Event}
    (fits : Votes device)
    (stepped : device.step event = some next) :
    Votes next := by
  cases stepped_of_step stepped with
  | software running stepped => exact fits.software running stepped
  | @driver mode phase _ _ control stepped =>
      obtain ⟨same, goesOn⟩ := sameClients_advance control stepped
      refine same.votes fits fun other later lowPower => ?_
      rw [goesOn other later lowPower]
      exact ⟨phase, control⟩
  | @wake mode control =>
      refine SameClients.votes ?_ fits fun other later lowPower => ?_
      · cases mode <;> exact ⟨rfl, rfl, rfl, rfl, rfl, rfl⟩
      · cases mode with
        | stop =>
            cases lowPower
            exact ⟨_, control⟩
        | _ => cases lowPower
  | deviceStops _ control deep =>
      have same : SameClients device
          { device with sysClkSource := .hsi } :=
        ⟨rfl, rfl, rfl, rfl, rfl, rfl⟩
      exact same.votes fits fun _ later lowPower => ⟨later, lowPower⟩
  | radio _ stepped =>
      obtain ⟨same, control⟩ := sameClients_radio stepped
      refine same.votes fits fun other later lowPower => ?_
      rw [control] at lowPower
      exact ⟨later, lowPower⟩

/-- The driver takes steps in the deep modes only. -/
theorem Clocks.deep_of_advance
    {mode : Mode}
    {phase : Phase}
    (clocks : Clocks device)
    (control : device.control = .lowPower mode phase)
    (stepped : device.advance mode phase = some next) :
    mode ≠ .sleep := by
  rintro rfl
  rw [(clocks.sleeping phase control).1] at stepped
  cases stepped

/-- Every step keeps the clock if the radio processor cooperates. -/
theorem Clocks.step
    {event : Event}
    (clocks : Clocks device)
    (cooperates : Cooperates device event)
    (stepped : device.step event = some next) :
    Clocks next := by
  cases stepped_of_step stepped with
  | software running stepped => exact clocks.software running stepped
  | driver _ control stepped =>
      exact (clocks.advance control (clocks.deep_of_advance control stepped)
        stepped).1
  | wake control => exact clocks.wake control
  | deviceStops _ control deep => exact clocks.deviceStops control deep
  | radio isRadio stepped =>
      subst isRadio
      exact (kept_radio cooperates stepped).clocks clocks

theorem clocks_run
    {events : List Event}
    (run : Run (system.restrict Cooperates) events device) :
    Clocks device := by
  refine run.invariant ?_ fun before event after clocks stepped =>
    clocks.step stepped.2 stepped.1
  rintro _ ⟨memory, radioDeepSleep, rfl⟩
  refine .of_running rfl (fun _ => rfl) ?_
  exact ⟨by rintro ⟨⟩, fun _ => ⟨rfl, by rintro ⟨⟩⟩⟩

/-- A device with an empty flash. -/
def emptyDevice : Device :=
  .initialized (Flash.powerOn fun _ => erasedByte) true

theorem emptyDevice_starts : system.start emptyDevice :=
  ⟨_, _, rfl⟩

/-- A transfer ends and the processor stops. -/
def stopEvents : List Event :=
  [.bleStart, .i2cTransfer true, .i2cComplete, .i2cRelease false, .idle] ++
    List.replicate 7 .advance

/-- The radio processor takes the clock of a device that has stopped. -/
def handOver : List Event :=
  stopEvents ++
    [.deviceStops, .radio (.deepSleep false), .radio .lockRcc,
      .radio (.switchClock .hse 1), .radio .releaseRcc, .wake] ++
    List.replicate 4 .advance

/--
The processors hand the clock over to each other: it is only changed by the
one that holds the semaphore or by a device that has stopped, it is never too
fast for the flash, and once a stop mode is left it is fast again and both
semaphores are given back.
-/
theorem clock_restored
    {events : List Event}
    (run : Run (system.restrict Cooperates) events device) :
    (device.sysClkSource = .hse → device.latency = 1) ∧
    (device.control = .running →
      device.rcc ≠ some .application ∧
        (device.sinceOff = false →
          device.sysClkSource = .hse ∧
            device.entryStopMode ≠ some .application)) ∧
    ∀ event next, device.step event = some next →
      Cooperates device event →
      next.sysClkSource ≠ device.sysClkSource →
        event = .deviceStops ∨ event = .advance ∧
            device.rcc = some .application ∨
          device.rcc = some .radio := by
  have clocks := clocks_run run
  refine ⟨clocks.latency, fun running => ?_,
    fun event next stepped cooperates changed => ?_⟩
  · exact ⟨(clocks.running running).rcc, (clocks.running running).restored⟩
  · cases stepped_of_step stepped with
    | software running stepped =>
        by_cases idle : event = .idle
        · subst idle
          cases stepped
          exact absurd rfl changed
        · have same := sameHardware_software running idle stepped
          exact absurd same.sysClkSource changed
    | @driver mode phase _ isAdvance control stepped =>
        have deep := clocks.deep_of_advance control stepped
        have owns := (clocks.advance control deep stepped).2
        exact .inr (.inl ⟨isAdvance, owns changed⟩)
    | @wake mode control =>
        cases mode <;> exact absurd rfl changed
    | deviceStops isStop _ _ => exact .inl isStop
    | @radio radioEvent _ isRadio switched =>
        subst isRadio
        by_cases switches : ∃ source latency,
            radioEvent = .switchClock source latency
        · obtain ⟨source, latency, rfl⟩ := switches
          exact .inr (.inr (cooperates (source, latency) rfl).1)
        · refine absurd (clock_of_radio switched ?_) changed
          exact fun source latency same => switches ⟨source, latency, same⟩

/--
The fast clock that the radio processor has switched on stays on when this
processor goes on.
-/
theorem clock_restored_handOver :
    ∃ device,
      Run (system.restrict Cooperates) handOver device ∧
      device.control = .running ∧ device.rcc ≠ some .application ∧
      device.sysClkSource = .hse ∧ device.latency = 1 := by
  have ends : (handOver.foldlM (fun device event =>
      if Cooperates device event then Device.step device event else none)
        emptyDevice).map (fun device => (device.control, device.sinceOff)) =
          some (.running, false) := by
    decide +kernel
  obtain ⟨device, ran, same⟩ := Option.map_eq_some_iff.mp ends
  rw [Prod.mk.injEq] at same
  have start : Run (system.restrict Cooperates) [] emptyDevice :=
    .start emptyDevice_starts
  have run := Run.follow (fun _ _ _ stepped => stepped) handOver start ran
  obtain ⟨latency, running, _⟩ := clock_restored run
  obtain ⟨free, restored⟩ := running same.1
  obtain ⟨fast, _⟩ := restored same.2
  exact ⟨device, run, same.1, free, fast, latency fast⟩

end Runs

end DemoBoard.LowPower
