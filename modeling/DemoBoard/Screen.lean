import DemoBoard.PairingCode
import Mathlib.Data.Fintype.Basic
import Mathlib.Tactic.Common

namespace DemoBoard

/-!
# Screen

Model of the seven-segment symbols of `screen/Screen.c` and of
`Screen_DisplayFourDigits`.  The display memory has two registers for each of
four common lines; a symbol is spread over the registers of all lines.  The
wait of `HAL_LCD_Write` for a pending update is left out.
-/

/-- `Screen_SegmentBitmap_t` -/
abbrev SegmentBitmap := BitVec 8

/-- `SCREEN_BLANK` -/
def blankBitmap : SegmentBitmap := screenBlank.toBitVec

/-- `SCREEN_MINUS` -/
def minusBitmap : SegmentBitmap := 0x10

/-- The entry of a digit in `gScreen_Digit`. -/
def digitBitmap (digit : Nat) : SegmentBitmap :=
  (screenDigit.getD digit screenBlank).toBitVec

/-- The `RAM` registers of the LCD controller. -/
abbrev Lcd := Nat → BitVec 32

namespace Lcd

/-- `HAL_LCD_Write`: the mask holds the bits that are kept. -/
def halWrite (lcd : Lcd) (register : Nat) (mask data : BitVec 32) : Lcd :=
  fun other =>
    if other = register then
      (lcd register &&& mask) ||| data
    else
      lcd other

end Lcd

/-- A bit of the display memory: `LCD_COM_<com>_<bank>` and the shift. -/
structure Segment where
  com : Fin 4
  bank : Fin 2
  shift : Fin 32
  deriving Repr, DecidableEq

/-- The register of a common line and a bank. -/
def lcdCom (com bank : Nat) : Nat := 2 * com + bank

/-- A segment is switched on. -/
def Segment.lit (segment : Segment) (lcd : Lcd) : Bool :=
  (lcd (lcdCom segment.com segment.bank)).getLsbD segment.shift

/--
The shifts of a symbol in the registers of a common line.  Line `n` carries
the bits `2 * n` and `2 * n + 1` of the bitmap, possibly in both banks.
-/
structure SymbolPins where
  even : Fin 2 → Option (Fin 32)
  odd : Fin 2 → Option (Fin 32)
  /-- The lowest bit of the bitmap is written. -/
  lowest : Bool
  apart : ∀ bank, even bank = none ∨ even bank ≠ odd bank := by decide

namespace SymbolPins

/-- The bit of a shift, or no bit. -/
def pinBit : Option (Fin 32) → BitVec 32
  | none => 0
  | some shift => BitVec.twoPow 32 shift

/-- The mask of a symbol in one bank. -/
def mask (pins : SymbolPins) (bank : Fin 2) : BitVec 32 :=
  ~~~(pinBit (pins.even bank) ||| pinBit (pins.odd bank))

/-- One bit of a bitmap, moved to its shift. -/
def dataBit
    (bitmap : SegmentBitmap) (bit : Nat) : Option (Fin 32) → BitVec 32
  | none => 0
  | some shift =>
      ((bitmap.setWidth 32 &&& BitVec.twoPow 32 bit) >>> bit) <<< shift.val

/-- The data of a symbol in one register. -/
def data
    (pins : SymbolPins) (bitmap : SegmentBitmap) (com : Nat)
    (bank : Fin 2) : BitVec 32 :=
  (if com = 0 ∧ pins.lowest = false then
      0
    else
      dataBit bitmap (2 * com) (pins.even bank)) |||
    dataBit bitmap (2 * com + 1) (pins.odd bank)

/-- The write to the register of a line and a bank with pins. -/
def displayBank
    (pins : SymbolPins) (bitmap : SegmentBitmap) (com : Nat) (lcd : Lcd)
    (bank : Fin 2) : Lcd :=
  if pins.even bank = none ∧ pins.odd bank = none then
    lcd
  else
    lcd.halWrite (lcdCom com bank) (pins.mask bank)
      (pins.data bitmap com bank)

/-- The writes to the registers of one common line. -/
def displayCom
    (pins : SymbolPins) (bitmap : SegmentBitmap) (lcd : Lcd)
    (com : Nat) : Lcd :=
  [0, 1].foldl (pins.displayBank bitmap com) lcd

/-- The common shape of `Screen_DisplaySymbol1` to `Screen_DisplaySymbol8`. -/
def display
    (pins : SymbolPins) (bitmap : SegmentBitmap) (lcd : Lcd) : Lcd :=
  [0, 1, 2, 3].foldl (pins.displayCom bitmap) lcd

end SymbolPins

/-- The shifts of one bank. -/
def inBank (bank : Fin 2) (shift : Fin 32) : Fin 2 → Option (Fin 32) :=
  fun other => if other = bank then some shift else none

/-- The shifts of both banks. -/
def inBanks (first second : Fin 32) : Fin 2 → Option (Fin 32) :=
  fun bank => if bank = 0 then some first else some second

/-! ## The symbols; `LCD_SEG32_SHIFT` and above count from 0 again -/

/-- SEG32 and SEG39 -/
def symbol1 : SymbolPins where
  even := inBank 1 0
  odd := inBank 1 7
  lowest := true

/-- `Screen_DisplaySymbol1` -/
def displaySymbol1 : SegmentBitmap → Lcd → Lcd := symbol1.display

/-- SEG30 with SEG42, and SEG17 -/
def symbol2 : SymbolPins where
  even := inBanks 30 10
  odd := inBank 0 17
  lowest := true

/-- `Screen_DisplaySymbol2` -/
def displaySymbol2 : SegmentBitmap → Lcd → Lcd := symbol2.display

/-- SEG7, and SEG29 with SEG41 -/
def symbol3 : SymbolPins where
  even := inBank 0 7
  odd := inBanks 29 9
  lowest := true

/-- `Screen_DisplaySymbol3` -/
def displaySymbol3 : SegmentBitmap → Lcd → Lcd := symbol3.display

/-- SEG9 and SEG8 -/
def symbol4 : SymbolPins where
  even := inBank 0 9
  odd := inBank 0 8
  lowest := true

/-- `Screen_DisplaySymbol4` -/
def displaySymbol4 : SegmentBitmap → Lcd → Lcd := symbol4.display

/-- SEG14 and SEG12 -/
def symbol5 : SymbolPins where
  even := inBank 0 14
  odd := inBank 0 12
  lowest := true

/-- `Screen_DisplaySymbol5` -/
def displaySymbol5 : SegmentBitmap → Lcd → Lcd := symbol5.display

/-- SEG33 and SEG15 -/
def symbol6 : SymbolPins where
  even := inBank 1 1
  odd := inBank 0 15
  lowest := true

/-- `Screen_DisplaySymbol6` -/
def displaySymbol6 : SegmentBitmap → Lcd → Lcd := symbol6.display

/-- SEG31 with SEG43, and SEG27 -/
def symbol7 : SymbolPins where
  even := inBanks 31 11
  odd := inBank 0 27
  lowest := true

/-- `Screen_DisplaySymbol7` -/
def displaySymbol7 : SegmentBitmap → Lcd → Lcd := symbol7.display

/-- SEG13 and SEG24; SEG13 of line 0 is cleared -/
def symbol8 : SymbolPins where
  even := inBank 0 13
  odd := inBank 0 24
  lowest := false

/-- `Screen_DisplaySymbol8` -/
def displaySymbol8 : SegmentBitmap → Lcd → Lcd := symbol8.display

/-- A single segment, as `Screen_DisplayMinusTop` and its siblings write it. -/
def displaySegment (segment : Segment) (on : Bool) (lcd : Lcd) : Lcd :=
  lcd.halWrite (lcdCom segment.com segment.bank)
    (~~~(BitVec.twoPow 32 segment.shift))
    (((BitVec.ofBool on).setWidth 32) <<< segment.shift.val)

/-- `Screen_DisplayMinusTop`: SEG22 of line 1 -/
def minusTop : Segment := ⟨1, 0, 22⟩

/-- `Screen_DisplayMinusBottom`: SEG22 of line 0 -/
def minusBottom : Segment := ⟨0, 0, 22⟩

/-- The loop of `Screen_DisplayFourDigits`, with what is left of the value. -/
def displayLowerDigits
    (row : Fin 4 → SegmentBitmap → Lcd → Lcd) (absValue : Nat)
    (lcd : Lcd) : Nat × Lcd :=
  ([0, 1, 2] : List (Fin 4)).foldl
    (fun (absValue, lcd) position =>
      (absValue / 10, row position (digitBitmap (absValue % 10)) lcd))
    (absValue, lcd)

/--
`Screen_DisplayFourDigits`.  The sign indicator is written only when the
leading digit is not zero.
-/
def displayFourDigits
    (value : Int)
    (row : Fin 4 → SegmentBitmap → Lcd → Lcd)
    (sign : Bool → Lcd → Lcd)
    (lcd : Lcd) : Lcd :=
  let (absValue, lcd) := displayLowerDigits row value.natAbs lcd
  let digit := absValue % 10
  if digit = 0 then
    let lcd := row 3 blankBitmap lcd
    if value < 0 then
      row 3 minusBitmap lcd
    else
      lcd
  else
    sign (value < 0) (row 3 (digitBitmap digit) lcd)

end DemoBoard
