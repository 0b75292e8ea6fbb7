import DemoBoard.Flash
import Mathlib.Data.List.Basic

namespace DemoBoard

open ByteMemory

/-!
# What the flash operations do

One lemma for each driver function: reads return the bytes of the array, a
write to an erased range stores the buffer and records one program operation
for every double word, and a page erase leaves an idle driver and an erased
page.  `applyEffects` replays recorded operations, so that any prefix of them
describes the array at a power loss.
-/

/-- Replay hardware operations in order. -/
def applyEffects (memory : Memory) (effects : List FlashEffect) : Memory :=
  effects.foldl FlashEffect.apply memory

@[simp] theorem applyEffects_nil (memory : Memory) :
    applyEffects memory [] = memory :=
  rfl

@[simp] theorem applyEffects_cons
    (memory : Memory)
    (effect : FlashEffect)
    (rest : List FlashEffect) :
    applyEffects memory (effect :: rest) =
      applyEffects (effect.apply memory) rest :=
  rfl

theorem applyEffects_append
    (memory : Memory)
    (first second : List FlashEffect) :
    applyEffects memory (first ++ second) =
      applyEffects (applyEffects memory first) second := by
  simp [applyEffects]

/-- Programming a loaded double word stores the bytes of the buffer. -/
theorem doubleWordBytes_loadDoubleWord
    (buffer : Memory)
    (offset : Nat) :
    doubleWordBytes (Flash.loadDoubleWord buffer offset) =
      readBytes buffer offset 8 := by
  have bound := leValue_lt (readBytes buffer offset 8)
  rw [length_readBytes] at bound
  rw [doubleWordBytes, Flash.loadDoubleWord, BitVec.toNat_ofNat,
    Nat.mod_eq_of_lt (by omega)]
  simpa using leBytes_leValue (readBytes buffer offset 8)

@[simp] theorem length_doubleWordBytes (data : BitVec 64) :
    (doubleWordBytes data).length = 8 := by
  simp [doubleWordBytes]

/-- The program operations that store `count` double words of a buffer. -/
def programEffects
    (buffer : Memory) (address offset count : Nat) : List FlashEffect :=
  (List.range count).map fun i =>
    .program (address + 8 * i)
      (Flash.loadDoubleWord buffer (offset + 8 * i))

@[simp] theorem length_programEffects
    (buffer : Memory)
    (address offset count : Nat) :
    (programEffects buffer address offset count).length = count := by
  simp [programEffects]

/-- The first of several program operations. -/
theorem programEffects_succ
    (buffer : Memory)
    (address offset count : Nat) :
    programEffects buffer address offset (count + 1) =
      .program address (Flash.loadDoubleWord buffer offset) ::
        programEffects buffer (address + 8) (offset + 8) count := by
  simp only [programEffects, List.range_succ_eq_map, List.map_cons,
    List.map_map, Nat.mul_zero, Nat.add_zero]
  congr 1
  apply List.map_congr_left
  intro i _
  simp only [Function.comp_apply, Nat.succ_eq_add_one, Nat.mul_add,
    Nat.mul_one]
  rw [Nat.add_right_comm address, Nat.add_right_comm offset]
  simp only [Nat.add_comm, Nat.add_left_comm]

/-- Fewer double words are a prefix of more double words. -/
theorem take_programEffects
    (buffer : Memory)
    (address offset : Nat)
    {count total : Nat}
    (within : count ≤ total) :
    (programEffects buffer address offset total).take count =
      programEffects buffer address offset count := by
  simp [programEffects, ← List.map_take, List.take_range,
    Nat.min_eq_left within]

/-- Replaying the program operations of a buffer writes its bytes. -/
theorem applyEffects_programEffects
    (memory buffer : Memory)
    (address offset count : Nat) :
    applyEffects memory (programEffects buffer address offset count) =
      writeBytes memory address (readBytes buffer offset (8 * count)) := by
  induction count generalizing memory address offset with
  | zero =>
      simp [programEffects]
  | succ count inductionHypothesis =>
      rw [programEffects_succ, applyEffects_cons, inductionHypothesis,
        show 8 * (count + 1) = 8 + 8 * count by omega,
        readBytes_add, writeBytes_append, length_readBytes]
      rw [FlashEffect.apply, doubleWordBytes_loadDoubleWord]

/-- An operation changes flash pages of one range only. -/
def FlashEffect.Inside (firstPage nrOfPages : Nat) : FlashEffect → Prop
  | .program address _ =>
      pageAddr firstPage ≤ address ∧
        address + 8 ≤ pageAddr (firstPage + nrOfPages)
  | .erasePage page => firstPage ≤ page ∧ page < firstPage + nrOfPages

/-- Operations inside a range of pages leave the other pages alone. -/
theorem applyEffects_agreeOn
    {firstPage nrOfPages first last : Nat}
    {effects : List FlashEffect}
    (inside : ∀ effect ∈ effects, effect.Inside firstPage nrOfPages)
    (apart :
      last ≤ pageAddr firstPage ∨
        pageAddr (firstPage + nrOfPages) ≤ first)
    (memory : Memory) :
    AgreeOn (applyEffects memory effects) memory first last := by
  induction effects generalizing memory with
  | nil => exact AgreeOn.refl memory first last
  | cons effect rest inductionHypothesis =>
      have one := inside effect (List.mem_cons_self ..)
      have others := inductionHypothesis
        (fun other member => inside other (List.mem_cons_of_mem _ member))
        (effect.apply memory)
      rw [applyEffects_cons]
      refine others.trans ?_
      cases effect with
      | program address data =>
          exact writeBytes_agreeOn memory (by
            rw [length_doubleWordBytes]
            simp only [FlashEffect.Inside] at one
            omega)
      | erasePage page =>
          exact fillBytes_agreeOn memory erasedByte (by
            simp only [FlashEffect.Inside, pageAddr] at one apart ⊢
            have lower := Nat.mul_le_mul_right flashPageSize one.1
            have upper := Nat.mul_le_mul_right flashPageSize one.2
            rw [Nat.succ_mul] at upper
            omega)

/-- Writing a buffer stays inside the pages of its address range. -/
theorem inside_programEffects
    (buffer : Memory)
    {address count firstPage nrOfPages : Nat}
    (offset : Nat)
    (lower : pageAddr firstPage ≤ address)
    (upper : address + 8 * count ≤ pageAddr (firstPage + nrOfPages)) :
    ∀ effect ∈ programEffects buffer address offset count,
      effect.Inside firstPage nrOfPages := by
  intro effect member
  obtain ⟨i, inRange, same⟩ := List.mem_map.mp member
  have bound := List.mem_range.mp inRange
  rw [← same]
  exact ⟨by omega, by omega⟩

/-- The address a program operation targets; erases target none. -/
def FlashEffect.programmed? : FlashEffect → Option Nat
  | .program address _ => some address
  | .erasePage _ => none

/--
Replaying a list of operations, every program operation targets a double word
that is erased at that time and lies in the address range `[first, last)`.
-/
def ProgramsErased (first last : Nat) :
    Memory → List FlashEffect → Prop
  | _, [] => True
  | memory, effect :: rest =>
      (∀ address, effect.programmed? = some address →
        first ≤ address ∧ address + 8 ≤ last ∧
          Flash.isErasedDoubleWord memory address = true) ∧
      ProgramsErased first last (effect.apply memory) rest

/-- `ProgramsErased` of two consecutive lists of operations. -/
theorem ProgramsErased.append
    {first last : Nat}
    {memory : Memory}
    {before after : List FlashEffect}
    (beforeErased : ProgramsErased first last memory before)
    (afterErased :
      ProgramsErased first last (applyEffects memory before) after) :
    ProgramsErased first last memory (before ++ after) := by
  induction before generalizing memory with
  | nil =>
      exact afterErased
  | cons effect rest inductionHypothesis =>
      exact ⟨beforeErased.1,
        inductionHypothesis beforeErased.2 afterErased⟩

/-- A page erase programs nothing. -/
theorem programsErased_erasePage
    (first last : Nat)
    (memory : Memory)
    (page : Nat) :
    ProgramsErased first last memory [.erasePage page] := by
  refine ⟨?_, trivial⟩
  intro address programmed
  cases programmed

/-- An erased range consists of erased double words. -/
theorem isErasedDoubleWord_of_constantOn
    {memory : Memory}
    {address last : Nat}
    (erased : ConstantOn memory erasedByte address last)
    (inside : address + 8 ≤ last) :
    Flash.isErasedDoubleWord memory address = true := by
  simp only [Flash.isErasedDoubleWord, decide_eq_true_eq]
  exact erased.readBytes_eq inside

/-- Storing a buffer in an erased range programs erased double words only. -/
theorem programsErased_programEffects
    {memory : Memory}
    (buffer : Memory)
    (offset : Nat)
    {address count first last : Nat}
    (erased :
      ConstantOn memory erasedByte address (address + 8 * count))
    (lower : first ≤ address)
    (upper : address + 8 * count ≤ last) :
    ProgramsErased first last memory
      (programEffects buffer address offset count) := by
  induction count generalizing memory address offset with
  | zero =>
      exact trivial
  | succ count inductionHypothesis =>
      rw [programEffects_succ]
      refine ⟨?_, ?_⟩
      · intro target programmed
        cases programmed
        exact ⟨lower, by omega,
          isErasedDoubleWord_of_constantOn erased (by omega)⟩
      · apply inductionHypothesis
        · have rest := erased.mono
            (Nat.le_add_right address 8) (Nat.le_refl _)
          have agree :
              AgreeOn
                (FlashEffect.apply memory
                  (.program address
                    (Flash.loadDoubleWord buffer offset)))
                memory (address + 8) (address + 8 * (count + 1)) :=
            writeBytes_agreeOn memory (by simp)
          exact (rest.congr agree).mono (Nat.le_refl _) (by omega)
        · omega
        · omega

namespace Flash

/-- No operation is running or queued and no hardware fault is due. -/
structure Idle (flash : Flash) : Prop where
  programFaults : flash.programFaults = []
  operationComplete : flash.operationComplete = false
  processNextPage : flash.processNextPage = none
  erasing : flash.erasing = none
  pagesToErase : flash.pagesToErase = 0

theorem idle_powerOn (memory : Memory) : (powerOn memory).Idle :=
  ⟨rfl, rfl, rfl, rfl, rfl⟩

/-- The loop of `Flash_Read` copies consecutive bytes. -/
theorem readLoop_eq
    (memory : Memory)
    (address bytesRead nrOfBytes : Nat) :
    readLoop memory address bytesRead nrOfBytes =
      readBytes memory address (nrOfBytes - bytesRead) := by
  fun_induction readLoop with
  | case1 address bytesRead inductionHypothesis =>
      rw [take_readBytes, Nat.min_eq_left (Nat.min_le_left _ _)]
      by_cases more : bytesRead + 8 < nrOfBytes
      · rw [if_pos more, inductionHypothesis more,
          Nat.min_eq_left (by omega), ← readBytes_add]
        congr 1
        omega
      · rw [if_neg more, List.append_nil, Nat.min_eq_right (by omega)]

/-- `Flash_Read` of an aligned address. -/
theorem read_eq
    (flash : Flash)
    {address : Nat}
    (nrOfBytes : Nat)
    (aligned : address % 8 = 0) :
    flash.read address nrOfBytes =
      some (readBytes flash.memory address nrOfBytes) := by
  simp [read, aligned, readLoop_eq]

/-- The driver state after a successful write of a buffer. -/
def written
    (flash : Flash) (address : Nat) (buffer : Memory) (count : Nat) :
    Flash :=
  { flash with
    memory := writeBytes flash.memory address (readBytes buffer 0 (8 * count))
    history := flash.history ++ programEffects buffer address 0 count
    semaphoreLocked := false }

/-- Programming an erased double word of a fault-free flash. -/
theorem halProgram_erased
    {flash : Flash}
    {address : Nat}
    (data : BitVec 64)
    (faultFree : flash.programFaults = [])
    (erased : isErasedDoubleWord flash.memory address = true) :
    flash.halProgram address data =
      ({ flash with
          memory := writeBytes flash.memory address (doubleWordBytes data)
          history := flash.history ++ [.program address data] }, true) := by
  simp [halProgram, faultFree, erased, FlashEffect.apply]

/-- The loop of `Flash_Write` over an erased range. -/
theorem writeLoop_erased
    {flash : Flash}
    (buffer : Memory)
    {address : Nat}
    (offset count : Nat)
    (faultFree : flash.programFaults = [])
    (erased :
      ConstantOn flash.memory erasedByte address
        (address + 8 * (count + 1))) :
    flash.writeLoop address buffer offset (offset + 8 * (count + 1)) =
      ({ flash with
          memory :=
            writeBytes flash.memory address
              (readBytes buffer offset (8 * (count + 1)))
          history :=
            flash.history ++
              programEffects buffer address offset (count + 1) },
        true) := by
  induction count generalizing flash address offset with
  | zero =>
      have erasedWord :=
        isErasedDoubleWord_of_constantOn erased (by omega)
      have programmed :=
        halProgram_erased (loadDoubleWord buffer offset)
          faultFree erasedWord
      rw [writeLoop]
      simp [dataToProgram, programmed, doubleWordBytes_loadDoubleWord,
        programEffects]
  | succ count inductionHypothesis =>
      have erasedWord :=
        isErasedDoubleWord_of_constantOn erased (by omega)
      have programmed :=
        halProgram_erased (loadDoubleWord buffer offset)
          faultFree erasedWord
      have data :
          dataToProgram buffer offset (offset + 8 * (count + 1 + 1)) =
            loadDoubleWord buffer offset := by
        rw [dataToProgram, if_neg (by omega)]
      rw [writeLoop, data, programmed,
        doubleWordBytes_loadDoubleWord]
      simp only [reduceCtorEq, ↓reduceIte]
      rw [if_pos (by omega),
        show offset + 8 * (count + 1 + 1) =
          offset + 8 + 8 * (count + 1) by omega]
      rw [inductionHypothesis]
      · rw [programEffects_succ buffer address offset (count + 1),
          show 8 * (count + 1 + 1) = 8 + 8 * (count + 1) by omega,
          readBytes_add, writeBytes_append, length_readBytes]
        simp
      · exact faultFree
      · have rest := erased.mono
          (Nat.le_add_right address 8) (Nat.le_refl _)
        exact (rest.congr
          (writeBytes_agreeOn flash.memory (by simp))).mono
            (Nat.le_refl _) (by omega)

/-- `Flash_Write` of whole double words to an erased, writable range. -/
theorem write_erased
    {flash : Flash}
    (buffer : Memory)
    {address : Nat}
    (count : Nat)
    (idle : flash.Idle)
    (aligned : address % 8 = 0)
    (lower : minWritableAddress ≤ address)
    (upper : address + 8 * (count + 1) ≤ maxWritableAddress + 1)
    (erased :
      ConstantOn flash.memory erasedByte address
        (address + 8 * (count + 1))) :
    flash.write address buffer (8 * (count + 1)) =
      .ok (flash.written address buffer (count + 1), true) := by
  have loop :=
    writeLoop_erased buffer 0 count idle.programFaults erased
  rw [Nat.zero_add] at loop
  have range :
      minWritableAddress ≤ address ∧
        address + 8 * (count + 1) - 1 ≤ maxWritableAddress := by
    omega
  simp [write, range, idle.operationComplete, aligned, loop, written]

theorem Idle.written
    {flash : Flash}
    (idle : flash.Idle)
    (address : Nat)
    (buffer : Memory)
    (count : Nat) :
    (flash.written address buffer count).Idle :=
  ⟨idle.programFaults, idle.operationComplete, idle.processNextPage,
    idle.erasing, idle.pagesToErase⟩

/-- The driver state after `Flash_Erase` of a single page. -/
def erasePending (flash : Flash) (page : Nat) : Flash :=
  { flash with
    pagesToErase := 1
    operationComplete := true
    semaphoreLocked := true
    stopModeDisabled := true
    irqEnabled := true
    eraseActivity := true
    processNextPage := some page }

/-- `Flash_Erase` of a single writable page on an idle driver. -/
theorem erase_single
    {flash : Flash}
    {page : Nat}
    (idle : flash.Idle)
    (lower : firstWritableFlashPage ≤ page)
    (upper : page ≤ lastWritableFlashPage) :
    flash.erase page 1 = .ok (flash.erasePending page) := by
  have small : page % 256 = page := by
    apply Nat.mod_eq_of_lt
    simp only [lastWritableFlashPage, firstWritableFlashPage] at upper
    omega
  simp [erase, lower, upper, idle.operationComplete, triggerNextStart,
    erasePending, small]

/-- The driver refuses to start an erase while another one is running. -/
theorem erase_busy
    {flash : Flash}
    (page nrOfPages : Nat)
    (busy : flash.operationComplete = true) :
    ∃ failure, flash.erase page nrOfPages = .error failure := by
  unfold erase
  rw [if_pos busy]
  split
  · exact ⟨_, rfl⟩
  · split
    · exact ⟨_, rfl⟩
    · exact ⟨_, rfl⟩

/-- The driver state after the erase of a single page has finished. -/
def pageErased (flash : Flash) (page : Nat) : Flash :=
  { flash with
    memory := fillBytes flash.memory (pageAddr page) flashPageSize erasedByte
    history := flash.history ++ [.erasePage page]
    pagesToErase := 0
    operationComplete := false
    semaphoreLocked := false
    stopModeDisabled := false
    irqEnabled := false
    eraseActivity := false
    processNextPage := none
    erasing := none }

/-- The end of the last page erase unregisters the callback it invokes. -/
theorem endOfOperation_lastPage
    {flash : Flash}
    {page : Nat}
    (erasing : flash.erasing = some page)
    (lastPage : flash.pagesToErase = 1) :
    flash.endOfOperation =
      ({ flash.pageErased page with
          processNextPage := flash.processNextPage },
        some { pageNr := page, remaining := 0 }) := by
  unfold endOfOperation
  rw [erasing, lastPage]
  rfl

/-- Flash task and end-of-operation interrupt finish a single page erase. -/
theorem endOfOperation_erasePending (flash : Flash) (page : Nat) :
    (flash.erasePending page).flashTask.endOfOperation =
      (flash.pageErased page,
        some { pageNr := page, remaining := 0 }) := by
  have started :
      (flash.erasePending page).flashTask =
        { flash.erasePending page with
          processNextPage := none
          erasing := some page } := rfl
  have ended :=
    @endOfOperation_lastPage (flash.erasePending page).flashTask page
      rfl rfl
  rw [ended, started]
  rfl

theorem Idle.pageErased
    {flash : Flash}
    (idle : flash.Idle)
    (page : Nat) :
    (flash.pageErased page).Idle :=
  ⟨idle.programFaults, rfl, rfl, rfl, rfl⟩

end Flash

end DemoBoard
