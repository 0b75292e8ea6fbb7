import DemoBoard.ByteMemory

namespace DemoBoard

open ByteMemory

/-!
# Flash driver

Model of `hal/Flash.c`.  The flash is byte addressed; the hardware programs
erased double words and erases whole pages.  A page erase is asynchronous: the
flash task starts the erase of one page, an interrupt reports its end and the
next page is requested until all pages are done.

A failed `ASSERT` never returns to the caller, hence the operations live in
`Except AssertionFailure`.
-/

/-- The `ASSERT`s of the flash driver and of the item store. -/
inductive AssertionFailure where
  | writeOutOfRange
  | writeWhileErasing
  | eraseOutOfRange
  | eraseWhileErasing
  | writeOutsideStore
  | erasedPageNotOldest
  | erasedPageOutsideStore
  | deleteOutOfRange
  | unknownStore
  deriving Repr, DecidableEq

/-- `FLASH_PAGE_SIZE` -/
def flashPageSize : Nat := 4096

/-- `FLASH_BASE` -/
def flashBase : Nat := 0x08000000

/-- `FIRST_WRITABLE_FLASH_PAGE` -/
def firstWritableFlashPage : Nat := 65

/-- `LAST_WRITABLE_FLASH_PAGE` -/
def lastWritableFlashPage : Nat := firstWritableFlashPage - 1 + 2 + 32

/-- `PAGE_ADDR`; the base comes first. -/
def pageAddr (page : Nat) : Nat := flashBase + page * flashPageSize

/-- `MIN_WRITABLE_ADDRESS` -/
def minWritableAddress : Nat := pageAddr firstWritableFlashPage

/-- `MAX_WRITABLE_ADDRESS` -/
def maxWritableAddress : Nat := pageAddr (lastWritableFlashPage + 1) - 1

/-- The value of an erased byte. -/
def erasedByte : Byte := 0xFF

/-- A completed hardware operation on the flash array. -/
inductive FlashEffect where
  | program (address : Nat) (data : BitVec 64)
  | erasePage (page : Nat)
  deriving Repr, DecidableEq

/-- The bytes of a double word in memory order. -/
def doubleWordBytes (data : BitVec 64) : List Byte :=
  leBytes 8 data.toNat

/-- What one hardware operation does to the flash array. -/
def FlashEffect.apply (memory : Memory) : FlashEffect → Memory
  | .program address data =>
      writeBytes memory address (doubleWordBytes data)
  | .erasePage page =>
      fillBytes memory (pageAddr page) flashPageSize erasedByte

/--
Flash array, driver variables and the peripherals the driver switches.

`history` records the hardware operations in execution order.
`programFaults` lists the outcome of the next program operations of the
hardware (`true` fails); operations beyond its end do not fail spontaneously.
-/
structure Flash where
  memory : Memory
  history : List FlashEffect
  programFaults : List Bool
  /-- A completion callback is registered in `_flashOperationComplete`. -/
  operationComplete : Bool
  pagesToErase : Nat
  /-- Page number of a queued `FLASH_MESSAGE_PROCESS_NEXT_PAGE`. -/
  processNextPage : Option Nat
  /-- Page the hardware is erasing. -/
  erasing : Option Nat
  semaphoreLocked : Bool
  stopModeDisabled : Bool
  irqEnabled : Bool
  eraseActivity : Bool

namespace Flash

/-- Flash driver after `Flash_Init` over a given flash array. -/
def powerOn (memory : Memory) : Flash where
  memory := memory
  history := []
  programFaults := []
  operationComplete := false
  pagesToErase := 0
  processNextPage := none
  erasing := none
  semaphoreLocked := false
  stopModeDisabled := false
  irqEnabled := false
  eraseActivity := false

/--
The do-while loop of `Flash_Read`.  `bytesRead` is a `uint16_t`, which does
not wrap for the lengths up to 65528.
-/
def readLoop
    (memory : Memory)
    (readAddress bytesRead nrOfBytes : Nat) : List Byte :=
  (readBytes memory readAddress 8).take (min 8 (nrOfBytes - bytesRead)) ++
    if bytesRead + 8 < nrOfBytes then
      readLoop memory (readAddress + 8) (bytesRead + 8) nrOfBytes
    else
      []
termination_by nrOfBytes - bytesRead

/-- `Flash_Read`: the bytes copied to the buffer, or `none` for `false`. -/
def read (flash : Flash) (address nrOfBytes : Nat) : Option (List Byte) :=
  if address % 8 ≠ 0 then
    none
  else
    some (readLoop flash.memory address 0 nrOfBytes)

/-- Load `*((uint64_t*)buffer)` at an offset of the buffer. -/
def loadDoubleWord (buffer : Memory) (offset : Nat) : BitVec 64 :=
  BitVec.ofNat 64 (leValue (readBytes buffer offset 8))

/-- `data &= ~mask` for the bytes that exceed the requested length. -/
def clearExcess (data : BitVec 64) (excess : Nat) : BitVec 64 :=
  data &&& ~~~((1#64 <<< (8 * excess)) - 1#64)

/-- The double word `Flash_Write` programs at an offset of the buffer. -/
def dataToProgram
    (buffer : Memory) (offset nrOfBytes : Nat) : BitVec 64 :=
  let data := loadDoubleWord buffer offset
  let bytesWritten := offset + 8
  if bytesWritten > nrOfBytes then
    clearExcess data (bytesWritten - nrOfBytes)
  else
    data

/-- A double word is erased when all its bits are set. -/
def isErasedDoubleWord (memory : Memory) (address : Nat) : Bool :=
  readBytes memory address 8 = List.replicate 8 erasedByte

/--
`HAL_FLASH_Program` of one double word.  It fails on a spontaneous fault and
on a double word that is not erased.
-/
def halProgram
    (flash : Flash) (address : Nat) (data : BitVec 64) : Flash × Bool :=
  let fault := flash.programFaults.headD false
  let flash := { flash with programFaults := flash.programFaults.tail }
  if fault ∨ ¬ isErasedDoubleWord flash.memory address then
    (flash, false)
  else
    let effect := FlashEffect.program address data
    ({ flash with
        memory := effect.apply flash.memory
        history := flash.history ++ [effect] }, true)

/-- The do-while loop of `Flash_Write`; `offset` is `bytesWritten`. -/
def writeLoop
    (flash : Flash) (writeAddress : Nat) (buffer : Memory)
    (offset nrOfBytes : Nat) : Flash × Bool :=
  let outcome :=
    flash.halProgram writeAddress (dataToProgram buffer offset nrOfBytes)
  if outcome.2 = false then
    outcome
  else if offset + 8 < nrOfBytes then
    writeLoop outcome.1 (writeAddress + 8) buffer (offset + 8) nrOfBytes
  else
    outcome
termination_by nrOfBytes - offset

/-- `Flash_Write` -/
def write
    (flash : Flash) (address : Nat) (buffer : Memory) (nrOfBytes : Nat) :
    Except AssertionFailure (Flash × Bool) :=
  if ¬ (minWritableAddress ≤ address ∧
      address + nrOfBytes - 1 ≤ maxWritableAddress) then
    .error .writeOutOfRange
  else if flash.operationComplete then
    .error .writeWhileErasing
  else if address % 8 ≠ 0 then
    .ok (flash, false)
  else
    -- the hardware semaphore is held during the loop and released after it
    let outcome := flash.writeLoop address buffer 0 nrOfBytes
    .ok ({ outcome.1 with semaphoreLocked := false }, outcome.2)

/-- `TriggerNextStart`: the page number travels in a `uint8_t` parameter. -/
def triggerNextStart (flash : Flash) (pageNr : Nat) : Flash :=
  { flash with processNextPage := some (pageNr % 256) }

/-- `Flash_Erase` -/
def erase
    (flash : Flash) (startPageNr nrOfPages : Nat) :
    Except AssertionFailure Flash :=
  if ¬ firstWritableFlashPage ≤ startPageNr then
    .error .eraseOutOfRange
  else if ¬ startPageNr + nrOfPages - 1 ≤ lastWritableFlashPage then
    .error .eraseOutOfRange
  else if flash.operationComplete then
    .error .eraseWhileErasing
  else
    .ok ({ flash with
      pagesToErase := nrOfPages
      operationComplete := true
      semaphoreLocked := true
      stopModeDisabled := true
      irqEnabled := true
      eraseActivity := true }.triggerNextStart startPageNr)

/-- `FlashTask`: dispatch a queued message and start the erase of its page. -/
def flashTask (flash : Flash) : Flash :=
  match flash.processNextPage with
  | none => flash
  | some pageNr =>
      { flash with processNextPage := none, erasing := some pageNr }

/-- Arguments of an invoked completion callback. -/
structure Completion where
  pageNr : Nat
  remaining : Nat
  deriving Repr, DecidableEq

/--
The hardware has erased a page and raises the end-of-operation interrupt,
which runs `HAL_FLASH_EndOfOperationCallback`.
-/
def endOfOperation (flash : Flash) : Flash × Option Completion :=
  match flash.erasing with
  | none => (flash, none)
  | some pageNr =>
      let effect := FlashEffect.erasePage pageNr
      let flash :=
        { flash with
          memory := effect.apply flash.memory
          history := flash.history ++ [effect]
          erasing := none
          pagesToErase := (flash.pagesToErase + 65535) % 65536 }
      if flash.pagesToErase = 0 then
        ({ flash with
            stopModeDisabled := false
            operationComplete := false
            eraseActivity := false
            irqEnabled := false
            semaphoreLocked := false },
          some { pageNr := pageNr, remaining := flash.pagesToErase % 256 })
      else
        (flash.triggerNextStart (pageNr + 1), none)

/--
The hardware reports an erase error, which runs
`HAL_FLASH_OperationErrorCallback`.
-/
def operationError (flash : Flash) : Flash × Option Completion :=
  match flash.erasing with
  | none => (flash, none)
  | some pageNr =>
      ({ flash with
          erasing := none
          stopModeDisabled := false
          operationComplete := false
          eraseActivity := false
          semaphoreLocked := false },
        some
          { pageNr := pageNr, remaining := flash.pagesToErase % 256 })

end Flash

end DemoBoard
