import DemoBoard.ItemStoreImage

namespace DemoBoard

open ByteMemory

/-!
# Erases of several pages

What the driver does between the request to erase a range of pages and the end
of the last page, and what a write leaves behind that may fail half way.
-/

/-- A page without data. -/
def PageErased (memory : Memory) (page : Nat) : Prop :=
  ConstantOn memory erasedByte (pageAddr page)
    (pageAddr page + flashPageSize)

/-- The effect of a page erase. -/
def erasePage (memory : Memory) (page : Nat) : Memory :=
  fillBytes memory (pageAddr page) flashPageSize erasedByte

theorem pageErased_erasePage (memory : Memory) (page : Nat) :
    PageErased (erasePage memory page) page :=
  fillBytes_constantOn memory (pageAddr page) flashPageSize erasedByte

/-- The erase of a page leaves every other page alone. -/
theorem erasePage_agreeOn
    (memory : Memory)
    {page other : Nat}
    (different : other ≠ page) :
    AgreeOn (erasePage memory page) memory (pageAddr other)
      (pageAddr other + flashPageSize) := by
  have apart :
      pageAddr other + flashPageSize ≤ pageAddr page ∨
        pageAddr page + flashPageSize ≤ pageAddr other := by
    simp only [pageAddr, flashPageSize]
    omega
  exact fillBytes_agreeOn memory erasedByte (by omega)

/-- Erased pages stay erased while other pages are erased. -/
theorem PageErased.erasePage
    {memory : Memory}
    {page : Nat}
    (erased : PageErased memory page)
    (other : Nat) :
    PageErased (erasePage memory other) page := by
  by_cases same : page = other
  · rw [same]
    exact pageErased_erasePage memory other
  · exact ConstantOn.congr erased (erasePage_agreeOn memory same)

/-- The effect of the erase of some pages from `page` on. -/
def erasePages (memory : Memory) (page count : Nat) : Memory :=
  (List.range count).foldl
    (fun memory index => erasePage memory (page + index)) memory

theorem erasePages_succ (memory : Memory) (page count : Nat) :
    erasePages memory page (count + 1) =
      erasePage (erasePages memory page count) (page + count) := by
  rw [erasePages, List.range_succ, List.foldl_append]
  rfl

/-- The erased pages. -/
theorem pageErased_erasePages
    (memory : Memory)
    {page count other : Nat}
    (lower : page ≤ other)
    (upper : other < page + count) :
    PageErased (erasePages memory page count) other := by
  induction count with
  | zero => omega
  | succ count inductionHypothesis =>
      rw [erasePages_succ]
      by_cases last : other = page + count
      · rw [last]
        exact pageErased_erasePage _ _
      · exact (inductionHypothesis (by omega)).erasePage _

/-- The other pages. -/
theorem erasePages_agreeOn
    (memory : Memory)
    {page count other : Nat}
    (outside : other < page ∨ page + count ≤ other) :
    AgreeOn (erasePages memory page count) memory (pageAddr other)
      (pageAddr other + flashPageSize) := by
  induction count with
  | zero => exact fun _ _ _ => rfl
  | succ count inductionHypothesis =>
      rw [erasePages_succ]
      exact (erasePage_agreeOn _ (by omega)).trans
        (inductionHypothesis (by omega))

namespace Flash

/-- An erase is running; `page` comes next and `remaining` pages are left. -/
structure Erasing (flash : Flash) (page remaining : Nat) : Prop where
  programFaults : flash.programFaults = []
  operationComplete : flash.operationComplete = true
  processNextPage : flash.processNextPage = some page
  erasing : flash.erasing = none
  pagesToErase : flash.pagesToErase = remaining

/-- The driver state after `Flash_Erase`. -/
def eraseRequested (flash : Flash) (page nrOfPages : Nat) : Flash :=
  { flash with
    pagesToErase := nrOfPages
    operationComplete := true
    semaphoreLocked := true
    stopModeDisabled := true
    irqEnabled := true
    eraseActivity := true
    processNextPage := some page }

/-- The driver state after a page that is not the last one. -/
def nextRequested (flash : Flash) (page remaining : Nat) : Flash :=
  { flash with
    memory := erasePage flash.memory page
    history := flash.history ++ [.erasePage page]
    pagesToErase := remaining
    processNextPage := some (page + 1)
    erasing := none }

/-- A request for writable pages passes the assertions of an idle driver. -/
theorem erase_idle
    {flash : Flash}
    {page nrOfPages : Nat}
    (idle : flash.Idle)
    (lower : firstWritableFlashPage ≤ page)
    (upper : page + nrOfPages - 1 ≤ lastWritableFlashPage) :
    flash.erase page nrOfPages =
      .ok (flash.eraseRequested page nrOfPages) := by
  have small : page % 256 = page := by
    apply Nat.mod_eq_of_lt
    simp only [lastWritableFlashPage, firstWritableFlashPage] at upper
    omega
  rw [erase, if_neg (not_not_intro lower), if_neg (not_not_intro upper),
    if_neg (by simp [idle.operationComplete])]
  simp only [triggerNextStart, small, eraseRequested]

theorem Idle.eraseRequested
    {flash : Flash}
    (idle : flash.Idle)
    (page nrOfPages : Nat) :
    (flash.eraseRequested page nrOfPages).Erasing page nrOfPages :=
  ⟨idle.programFaults, rfl, rfl, idle.erasing, rfl⟩

/-- A request that passes the assertions is for writable pages. -/
theorem erase_ok
    {flash after : Flash}
    {page nrOfPages : Nat}
    (requested : flash.erase page nrOfPages = .ok after) :
    firstWritableFlashPage ≤ page ∧
      page + nrOfPages - 1 ≤ lastWritableFlashPage := by
  unfold erase at requested
  split at requested
  · cases requested
  split at requested
  · cases requested
  · rename_i lower upper
    exact ⟨not_not.mp lower, not_not.mp upper⟩

section Step

variable {flash : Flash}
variable {page remaining : Nat}

theorem Erasing.flashTask
    (running : flash.Erasing page remaining) :
    flash.flashTask =
      { flash with processNextPage := none, erasing := some page } := by
  rw [Flash.flashTask, running.processNextPage]

/-- The end of a page that is not the last one. -/
theorem Erasing.endOfOperation_next
    (running : flash.Erasing page (remaining + 2))
    (small : remaining + 2 < 65536)
    (byte : page + 1 < 256) :
    flash.flashTask.endOfOperation =
      (flash.nextRequested page (remaining + 1), none) := by
  have left :
      (remaining + 2 + 65535) % 65536 = remaining + 1 := by
    omega
  rw [running.flashTask, endOfOperation]
  simp only [running.pagesToErase, left, Nat.add_eq_zero_iff, one_ne_zero,
    and_false, if_false, triggerNextStart, Nat.mod_eq_of_lt byte]
  rfl

theorem Erasing.nextRequested
    (running : flash.Erasing page (remaining + 2)) :
    (flash.nextRequested page (remaining + 1)).Erasing (page + 1)
      (remaining + 1) :=
  ⟨running.programFaults, running.operationComplete, rfl, rfl, rfl⟩

/-- The end of the last page. -/
theorem Erasing.endOfOperation_last
    (running : flash.Erasing page 1) :
    flash.flashTask.endOfOperation =
      (flash.pageErased page, some { pageNr := page, remaining := 0 }) := by
  rw [running.flashTask, endOfOperation]
  simp only [running.pagesToErase]
  rfl

theorem Erasing.pageErased
    (running : flash.Erasing page 1) :
    (flash.pageErased page).Idle :=
  ⟨running.programFaults, rfl, rfl, rfl, rfl⟩

end Step

/-- A double word that can be programmed is erased. -/
theorem constantOn_of_isErasedDoubleWord
    {memory : Memory}
    {address : Nat}
    (erased : isErasedDoubleWord memory address = true) :
    ConstantOn memory erasedByte address (address + 8) := by
  simp only [isErasedDoubleWord, decide_eq_true_eq] at erased
  exact PageHolds.constantOn_of_replicate erased

/-- The program loop stops at the first double word that fails. -/
theorem writeLoop_partial
    {flash : Flash}
    (buffer : Memory)
    (address offset count : Nat)
    (faultFree : flash.programFaults = []) :
    ∃ words ≤ count + 1, ∃ ok,
      flash.writeLoop address buffer offset (offset + 8 * (count + 1)) =
          ({ flash with
              memory :=
                applyEffects flash.memory
                  (programEffects buffer address offset words)
              history :=
                flash.history ++
                  programEffects buffer address offset words },
            ok) ∧
        (ok = true →
          ConstantOn flash.memory erasedByte address
            (address + 8 * (count + 1))) := by
  induction count generalizing flash address offset with
  | zero =>
      rw [writeLoop]
      by_cases erased :
          isErasedDoubleWord flash.memory address = true
      · refine ⟨1, Nat.le_refl _, true, ?_,
          fun _ => constantOn_of_isErasedDoubleWord erased⟩
        rw [halProgram_erased _ faultFree erased]
        simp [dataToProgram, programEffects, FlashEffect.apply]
      · refine ⟨0, Nat.zero_le _, false, ?_,
          fun failed => absurd failed Bool.false_ne_true⟩
        simp [halProgram, faultFree, erased, programEffects]
  | succ count inductionHypothesis =>
      rw [writeLoop]
      by_cases erased :
          isErasedDoubleWord flash.memory address = true
      · have data :
            dataToProgram buffer offset (offset + 8 * (count + 1 + 1)) =
              loadDoubleWord buffer offset := by
          rw [dataToProgram, if_neg (by omega)]
        rw [data, halProgram_erased _ faultFree erased]
        simp only [reduceCtorEq, ↓reduceIte]
        rw [if_pos (by omega),
          show offset + 8 * (count + 1 + 1) =
            offset + 8 + 8 * (count + 1) by omega]
        obtain ⟨words, bound, ok, rest, all⟩ :=
          @inductionHypothesis
            { flash with
              memory :=
                writeBytes flash.memory address
                  (doubleWordBytes (loadDoubleWord buffer offset))
              history :=
                flash.history ++
                  [.program address (loadDoubleWord buffer offset)] }
            (address + 8) (offset + 8) faultFree
        refine ⟨words + 1, by omega, ok, ?_, ?_⟩
        · rw [rest, programEffects_succ]
          simp [FlashEffect.apply]
        · intro success location lower upper
          by_cases first : location < address + 8
          · exact constantOn_of_isErasedDoubleWord erased location lower
              first
          · have later := all success location (by omega) (by omega)
            have agree :=
              @writeBytes_agreeOn flash.memory address (address + 8)
                (address + 8 + 8 * (count + 1))
                (doubleWordBytes (loadDoubleWord buffer offset))
                (by simp) location (by omega) (by omega)
            rw [← agree]
            exact later
      · refine ⟨0, Nat.zero_le _, false, ?_,
          fun failed => absurd failed Bool.false_ne_true⟩
        simp [halProgram, faultFree, erased, programEffects]

/-- A write that passes the assertions stores some of its double words. -/
theorem write_ok
    {flash after : Flash}
    {buffer : Memory}
    {address count : Nat}
    {ok : Bool}
    (idle : flash.Idle)
    (aligned : address % 8 = 0)
    (wrote :
      flash.write address buffer (8 * (count + 1)) = .ok (after, ok)) :
    (∃ words ≤ count + 1, after = flash.written address buffer words) ∧
      (ok = true →
        ConstantOn flash.memory erasedByte address
          (address + 8 * (count + 1))) := by
  unfold write at wrote
  split at wrote
  · cases wrote
  rw [if_neg (by simp [idle.operationComplete]),
    if_neg (by omega)] at wrote
  obtain ⟨words, bound, success, loop, erased⟩ :=
    writeLoop_partial buffer address 0 count idle.programFaults
  rw [Nat.zero_add] at loop
  rw [loop] at wrote
  cases wrote
  refine ⟨⟨words, bound, ?_⟩, erased⟩
  rw [written, applyEffects_programEffects]

end Flash

end DemoBoard
