import DemoBoard.FlashErase
import DemoBoard.TransitionRuns

namespace DemoBoard

open ByteMemory TransitionRuns

/-!
# Runs of an erase

`Flash_Erase` requests the first page.  From then on the flash task and the
two interrupt callbacks take turns: the task starts the page of a queued
message, and an interrupt ends the started page with or without an error.
-/

namespace FlashEraseRuns

/-- What moves an erase on; the task may also run without a message. -/
inductive EraseLabel where
  | flashTask
  | endOfOperation
  | operationError
  deriving Repr, DecidableEq

/-- The driver, the pages whose erase was started and the completions. -/
structure EraseState where
  flash : Flash
  started : List Nat
  completions : List Flash.Completion

namespace EraseState

/-- The flash task starts the page of its message. -/
def runTask (state : EraseState) : EraseState :=
  { state with
    flash := state.flash.flashTask
    started := state.started ++ state.flash.processNextPage.toList }

/-- An interrupt handler that may invoke the completion callback. -/
def runCallback
    (state : EraseState)
    (handled : Flash × Option Flash.Completion) : EraseState :=
  { state with
    flash := handled.1
    completions := state.completions ++ handled.2.toList }

/-- An interrupt needs a started page. -/
def step (state : EraseState) : EraseLabel → EraseState → Prop
  | .flashTask, next => next = state.runTask
  | .endOfOperation, next =>
      state.flash.erasing.isSome = true ∧
        next = state.runCallback state.flash.endOfOperation
  | .operationError, next =>
      state.flash.erasing.isSome = true ∧
        next = state.runCallback state.flash.operationError

end EraseState

/-- No page is erased and no request is on its way. -/
structure Ready (flash : Flash) : Prop where
  operationComplete : flash.operationComplete = false
  processNextPage : flash.processNextPage = none
  erasing : flash.erasing = none

theorem ready_powerOn (memory : Memory) : Ready (Flash.powerOn memory) :=
  ⟨rfl, rfl, rfl⟩

/-- The steps after a request for some pages to a driver that is ready. -/
def eraseSystem (page nrOfPages : Nat) : System EraseState EraseLabel where
  start := fun state =>
    (∃ before : Flash, Ready before ∧
      before.erase page nrOfPages = .ok state.flash) ∧
    state.started = [] ∧ state.completions = []
  step := EraseState.step

/-- What the driver holds while it erases is given back. -/
structure Released (flash : Flash) : Prop extends Ready flash where
  semaphoreLocked : flash.semaphoreLocked = false
  stopModeDisabled : flash.stopModeDisabled = false
  eraseActivity : flash.eraseActivity = false

/-- The next erase or write passes the assertion on the driver's state. -/
structure Admits (flash : Flash) : Prop where
  erase :
    ∀ page nrOfPages,
      firstWritableFlashPage ≤ page →
      page + nrOfPages - 1 ≤ lastWritableFlashPage →
      ∃ after, flash.erase page nrOfPages = .ok after
  write :
    ∀ address buffer nrOfBytes,
      minWritableAddress ≤ address →
      address + nrOfBytes - 1 ≤ maxWritableAddress →
      ∃ outcome, flash.write address buffer nrOfBytes = .ok outcome

/-- The pages, the completion and the resources of an erase. -/
structure CompletesErase
    (page nrOfPages : Nat)
    (labels : List EraseLabel)
    (state : EraseState) : Prop where
  inOrder :
    ∃ count ≤ nrOfPages, state.started = List.range' page count
  /-- As long as the callback is due, the erase can go on. -/
  pending :
    state.completions = [] →
      state.flash.processNextPage.isSome = true ∨
        state.flash.erasing.isSome = true
  bounded :
    labels.countP (· ≠ .flashTask) ≤ nrOfPages
  completedOnce : state.completions.length ≤ 1
  remaining :
    ∀ completion ∈ state.completions,
      completion.remaining = nrOfPages - labels.count .endOfOperation
  released : state.completions ≠ [] → Released state.flash
  admitted : state.completions ≠ [] → Admits state.flash

/-- What a client of `Flash_Erase` may rely on at any time of the erase. -/
structure ErasesPages
    (page nrOfPages : Nat)
    (labels : List EraseLabel)
    (state : EraseState) : Prop
    extends CompletesErase page nrOfPages labels state where
  irqDisabled :
    state.completions ≠ [] → state.flash.irqEnabled = false

/-- A driver without a registered callback admits the next operation. -/
theorem Ready.admits
    {flash : Flash}
    (ready : Ready flash) :
    Admits flash := by
  have complete := ready.operationComplete
  constructor
  · intro page nrOfPages lower upper
    rw [Flash.erase, if_neg (not_not_intro lower),
      if_neg (not_not_intro upper), if_neg (by simp [complete])]
    exact ⟨_, rfl⟩
  · intro address buffer nrOfBytes lower upper
    rw [Flash.write, if_neg (not_not_intro ⟨lower, upper⟩),
      if_neg (by simp [complete])]
    split
    · exact ⟨_, rfl⟩
    · exact ⟨_, rfl⟩

/-- The page of a message, or the page that is being erased. -/
inductive Position (flash : Flash) (page : Nat) : Bool → Prop where
  | queued
      (processNextPage : flash.processNextPage = some page)
      (erasing : flash.erasing = none) :
      Position flash page false
  | running
      (processNextPage : flash.processNextPage = none)
      (erasing : flash.erasing = some page) :
      Position flash page true

/-- The erase goes on after `erased` pages. -/
structure Pending
    (page nrOfPages erased : Nat)
    (state : EraseState) : Prop where
  within : erased < nrOfPages
  operationComplete : state.flash.operationComplete = true
  irqEnabled : state.flash.irqEnabled = true
  pagesToErase : state.flash.pagesToErase = nrOfPages - erased
  completions : state.completions = []
  position :
    ∃ running, Position state.flash (page + erased) running ∧
      state.started = List.range' page (erased + running.toNat)

/-- The callback was invoked after `erased` pages. -/
structure Returned
    (page nrOfPages erased : Nat)
    (failed : Bool)
    (state : EraseState) : Prop where
  released : Released state.flash
  irqEnabled : state.flash.irqEnabled = failed
  completion :
    ∃ last,
      state.completions =
        [{ pageNr := last, remaining := nrOfPages - erased }]
  bounded : erased + failed.toNat ≤ nrOfPages
  started :
    state.started = List.range' page (erased + failed.toNat)

/-- Where an erase is after the interrupts of a run. -/
inductive Progress (page nrOfPages : Nat) :
    List EraseLabel → EraseState → Prop where
  | pending
      {labels : List EraseLabel}
      {state : EraseState}
      (errors : labels.count .operationError = 0)
      (pending :
        Pending page nrOfPages (labels.count .endOfOperation) state) :
      Progress page nrOfPages labels state
  | returned
      {labels : List EraseLabel}
      {state : EraseState}
      (failed : Bool)
      (errors : labels.count .operationError = failed.toNat)
      (returned :
        Returned page nrOfPages (labels.count .endOfOperation) failed
          state) :
      Progress page nrOfPages labels state

section Steps

variable {page nrOfPages erased : Nat}
variable {state : EraseState}

/-- The request of `Flash_Erase`. -/
theorem Pending.start
    {before : Flash}
    (positive : 1 ≤ nrOfPages)
    (ready : Ready before)
    (requested : before.erase page nrOfPages = .ok state.flash)
    (started : state.started = [])
    (completions : state.completions = []) :
    Pending page nrOfPages 0 state := by
  have range := Flash.erase_ok requested
  have small : page % 256 = page := by
    apply Nat.mod_eq_of_lt
    simp only [lastWritableFlashPage, firstWritableFlashPage] at range
    omega
  rw [Flash.erase, if_neg (not_not_intro range.1),
    if_neg (not_not_intro range.2),
    if_neg (by simp [ready.operationComplete])] at requested
  injection requested with same
  rw [Flash.triggerNextStart, small] at same
  exact
    { within := positive
      operationComplete := by rw [← same]
      irqEnabled := by rw [← same]
      pagesToErase := by rw [← same]; rfl
      completions := completions
      position :=
        ⟨false, .queued (by rw [← same]; rfl)
          (by rw [← same]; exact ready.erasing), started⟩ }

/-- The flash task starts a queued page and otherwise does nothing. -/
theorem Pending.runTask
    (pending : Pending page nrOfPages erased state) :
    Pending page nrOfPages erased state.runTask := by
  obtain ⟨running, position, started⟩ := pending.position
  cases position with
  | running processNextPage erasing =>
      have idle : state.runTask = state := by
        simp only [EraseState.runTask, Flash.flashTask, processNextPage,
          Option.toList_none, List.append_nil]
      rw [idle]
      exact pending
  | queued processNextPage erasing =>
      have task :
          state.flash.flashTask =
            { state.flash with
              processNextPage := none
              erasing := some (page + erased) } := by
        rw [Flash.flashTask, processNextPage]
      refine
        { within := pending.within
          operationComplete := ?_
          irqEnabled := ?_
          pagesToErase := ?_
          completions := pending.completions
          position := ⟨true, .running ?_ ?_, ?_⟩ }
      · rw [EraseState.runTask, task]
        exact pending.operationComplete
      · rw [EraseState.runTask, task]
        exact pending.irqEnabled
      · rw [EraseState.runTask, task]
        exact pending.pagesToErase
      · rw [EraseState.runTask, task]
      · rw [EraseState.runTask, task]
      · rw [EraseState.runTask]
        simp only [started, processNextPage, Option.toList_some,
          Bool.toNat_false, Bool.toNat_true, Nat.add_zero,
          List.range'_concat, Nat.one_mul]

/-- A started page that ends comes from a task that has run. -/
theorem Pending.erasing
    (pending : Pending page nrOfPages erased state)
    (erasing : state.flash.erasing.isSome = true) :
    state.flash.processNextPage = none ∧
      state.flash.erasing = some (page + erased) ∧
      state.started = List.range' page (erased + 1) := by
  obtain ⟨running, position, started⟩ := pending.position
  cases position with
  | queued processNextPage idle =>
      rw [idle] at erasing
      cases erasing
  | running processNextPage erasing => exact ⟨processNextPage, erasing, started⟩

/-- The end of a page requests the next one or completes the erase. -/
theorem Pending.endOfOperation
    (pending : Pending page nrOfPages erased state)
    (byte : page + nrOfPages < 256)
    (erasing : state.flash.erasing.isSome = true) :
    (erased + 1 < nrOfPages ∧
      Pending page nrOfPages (erased + 1)
        (state.runCallback state.flash.endOfOperation)) ∨
    Returned page nrOfPages (erased + 1) false
      (state.runCallback state.flash.endOfOperation) := by
  obtain ⟨noMessage, current, started⟩ := pending.erasing erasing
  have within := pending.within
  have left :
      (state.flash.pagesToErase + 65535) % 65536 =
        nrOfPages - (erased + 1) := by
    rw [pending.pagesToErase]
    omega
  by_cases last : nrOfPages - (erased + 1) = 0
  · right
    have ended :
        state.flash.endOfOperation =
          ({ state.flash.pageErased (page + erased) with
              processNextPage := state.flash.processNextPage },
            some { pageNr := page + erased, remaining := 0 }) := by
      apply Flash.endOfOperation_lastPage current
      rw [pending.pagesToErase]
      omega
    rw [ended]
    exact
      { released := ⟨⟨rfl, noMessage, rfl⟩, rfl, rfl, rfl⟩
        irqEnabled := rfl
        completion :=
          ⟨page + erased, by
            rw [EraseState.runCallback, pending.completions, last]
            rfl⟩
        bounded := within
        started := started }
  · left
    have ended :
        state.flash.endOfOperation =
          (state.flash.nextRequested (page + erased)
            (nrOfPages - (erased + 1)), none) := by
      rw [Flash.endOfOperation, current]
      simp only [left, if_neg last, Flash.triggerNextStart,
        Nat.mod_eq_of_lt (show page + erased + 1 < 256 by omega)]
      rfl
    rw [ended]
    exact
      ⟨by omega,
        { within := by omega
          operationComplete := pending.operationComplete
          irqEnabled := pending.irqEnabled
          pagesToErase := rfl
          completions := by
            rw [EraseState.runCallback, pending.completions]
            rfl
          position := ⟨false, .queued rfl rfl, started⟩ }⟩

/-- An error ends the erase, whichever page it meets. -/
theorem Pending.operationError
    (pending : Pending page nrOfPages erased state)
    (byte : page + nrOfPages < 256)
    (erasing : state.flash.erasing.isSome = true) :
    Returned page nrOfPages erased true
      (state.runCallback state.flash.operationError) := by
  obtain ⟨noMessage, current, started⟩ := pending.erasing erasing
  have within := pending.within
  have remaining :
      state.flash.pagesToErase % 256 = nrOfPages - erased := by
    rw [pending.pagesToErase]
    omega
  rw [Flash.operationError, current]
  dsimp only
  rw [remaining]
  exact
    { released := ⟨⟨rfl, noMessage, rfl⟩, rfl, rfl, rfl⟩
      irqEnabled := pending.irqEnabled
      completion :=
        ⟨page + erased, by
          rw [EraseState.runCallback, pending.completions]
          rfl⟩
      bounded := within
      started := started }

/-- After the completion nothing is started any more. -/
theorem Returned.runTask
    {failed : Bool}
    (returned : Returned page nrOfPages erased failed state) :
    state.runTask = state := by
  simp only [EraseState.runTask, Flash.flashTask,
    returned.released.processNextPage, Option.toList_none,
    List.append_nil]

end Steps

section Runs

variable {page nrOfPages : Nat}
variable {labels : List EraseLabel}
variable {state next : EraseState}

/-- One step of an erase. -/
theorem Progress.step
    (progress : Progress page nrOfPages labels state)
    (byte : page + nrOfPages < 256)
    (label : EraseLabel)
    (moves : state.step label next) :
    Progress page nrOfPages (labels ++ [label]) next := by
  cases progress with
  | pending errors pending =>
      cases label with
      | flashTask =>
          rw [show next = state.runTask from moves]
          exact .pending (by simpa using errors)
            (by simpa using pending.runTask)
      | endOfOperation =>
          rw [moves.2]
          rcases pending.endOfOperation byte moves.1 with
            ⟨_, goesOn⟩ | returned
          · exact .pending (by simpa using errors) (by simpa using goesOn)
          · exact .returned false (by simpa using errors)
              (by simpa using returned)
      | operationError =>
          rw [moves.2]
          exact .returned true (by simpa using errors)
            (by simpa using pending.operationError byte moves.1)
  | returned failed errors returned =>
      cases label with
      | flashTask =>
          rw [show next = state.runTask from moves, returned.runTask]
          exact .returned failed (by simpa using errors)
            (by simpa using returned)
      | endOfOperation =>
          have erasing := moves.1
          rw [returned.released.erasing] at erasing
          cases erasing
      | operationError =>
          have erasing := moves.1
          rw [returned.released.erasing] at erasing
          cases erasing

/-- A run of an erase. -/
theorem Progress.of_run
    (positive : 1 ≤ nrOfPages)
    (run : Run (eraseSystem page nrOfPages) labels state) :
    Progress page nrOfPages labels state := by
  have range :
      page + nrOfPages < 256 := by
    have writable :
        page + nrOfPages - 1 ≤ lastWritableFlashPage := by
      induction run with
      | start starts =>
          obtain ⟨⟨before, _, requested⟩, _⟩ := starts
          exact (Flash.erase_ok requested).2
      | step run label moves inductionHypothesis =>
          exact inductionHypothesis
    simp only [lastWritableFlashPage, firstWritableFlashPage] at writable
    omega
  refine run.history ?_ ?_
  · rintro first ⟨⟨before, ready, requested⟩, started, completions⟩
    exact .pending rfl
      (Pending.start positive ready requested started completions)
  · intro labels first label second progress moves
    exact progress.step range label moves

/-- The interrupts of a run. -/
theorem countP_interrupts (labels : List EraseLabel) :
    labels.countP (· ≠ .flashTask) =
      labels.count .endOfOperation + labels.count .operationError := by
  induction labels with
  | nil => rfl
  | cons label rest inductionHypothesis =>
      rw [List.countP_cons, List.count_cons, List.count_cons,
        inductionHypothesis]
      cases label with
      | flashTask => rfl
      | endOfOperation => simp; omega
      | operationError => simp; omega

/-- Every erase completes and gives back what it holds. -/
theorem Progress.completesErase
    (progress : Progress page nrOfPages labels state) :
    CompletesErase page nrOfPages labels state := by
  have interrupts := countP_interrupts labels
  cases progress with
  | pending errors pending =>
      obtain ⟨running, position, started⟩ := pending.position
      have within := pending.within
      have none := pending.completions
      exact
        { inOrder :=
            ⟨_, by have := running.toNat_le; omega, started⟩
          pending := fun _ => by
            cases position with
            | queued message idle => exact Or.inl (by rw [message]; rfl)
            | running idle erasing =>
                exact Or.inr (by rw [erasing]; rfl)
          bounded := by omega
          completedOnce := by rw [none]; exact Nat.zero_le 1
          remaining := by rw [none]; nofun
          released := fun some => absurd none some
          admitted := fun some => absurd none some }
  | returned failed errors returned =>
      obtain ⟨last, completion⟩ := returned.completion
      have within := returned.bounded
      exact
        { inOrder := ⟨_, within, returned.started⟩
          pending := fun none => by rw [completion] at none; cases none
          bounded := by
            rw [interrupts, errors]
            exact within
          completedOnce := by rw [completion]; exact Nat.le_refl 1
          remaining := by
            intro made member
            rw [completion, List.mem_singleton] at member
            rw [member]
          released := fun _ => returned.released
          admitted := fun _ => returned.released.toReady.admits }

/--
An erase keeps what its client relies on exactly as long as no page ends with
an error: the error callback leaves the interrupt enabled.
-/
theorem erasesPages_iff
    (positive : 1 ≤ nrOfPages)
    (run : Run (eraseSystem page nrOfPages) labels state) :
    ErasesPages page nrOfPages labels state ↔
      .operationError ∉ labels := by
  have progress := Progress.of_run positive run
  have completes := progress.completesErase
  rw [← List.count_eq_zero]
  cases progress with
  | pending errors pending =>
      exact ⟨fun _ => errors,
        fun _ => ⟨completes, fun some => absurd pending.completions some⟩⟩
  | returned failed errors returned =>
      obtain ⟨last, completion⟩ := returned.completion
      have irq := returned.irqEnabled
      rw [errors, Bool.toNat_eq_zero]
      constructor
      · intro erases
        rw [← irq]
        exact erases.irqDisabled (by rw [completion]; nofun)
      · intro works
        exact ⟨completes, fun _ => irq.trans works⟩

/-- A run over one page that is erased. -/
theorem erasesPages_iff_onePage :
    ∃ state,
      Run (eraseSystem 65 1) [.flashTask, .endOfOperation] state ∧
      state.completions = [{ pageNr := 65, remaining := 0 }] ∧
      ErasesPages 65 1 [.flashTask, .endOfOperation] state := by
  have run :=
    Run.step
      (Run.step
        (Run.start
          (show (eraseSystem 65 1).start
              ⟨(Flash.powerOn fun _ => 0).eraseRequested 65 1, [], []⟩ from
            ⟨⟨_, ready_powerOn fun _ => 0, rfl⟩, rfl, rfl⟩))
        .flashTask rfl)
      .endOfOperation ⟨rfl, rfl⟩
  exact ⟨_, run, rfl, (erasesPages_iff (by decide) run).mpr (by decide)⟩

/-- A page that ends with an error leaves the flash interrupt enabled. -/
theorem operationError_irqEnabled :
    ∃ state,
      Run (eraseSystem 65 1) [.flashTask, .operationError] state ∧
      state.completions = [{ pageNr := 65, remaining := 1 }] ∧
      state.flash.irqEnabled = true ∧
      ¬ ErasesPages 65 1 [.flashTask, .operationError] state := by
  refine ⟨_,
    Run.step
      (Run.step
        (Run.start
          (show (eraseSystem 65 1).start
              ⟨(Flash.powerOn fun _ => 0).eraseRequested 65 1, [], []⟩ from
            ⟨⟨_, ready_powerOn fun _ => 0, rfl⟩, rfl, rfl⟩))
        .flashTask rfl)
      .operationError ⟨rfl, rfl⟩, rfl, rfl, ?_⟩
  intro erases
  have disabled := erases.irqDisabled nofun
  cases disabled

end Runs

end FlashEraseRuns

end DemoBoard
