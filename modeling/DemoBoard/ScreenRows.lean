import DemoBoard.Screen
import Mathlib.Tactic.FinCases

namespace DemoBoard

/-!
# Rows of the screen

Which bit of a bitmap a segment shows, and that the symbols of a row and its
minus sign use different segments.
-/

/-- What a symbol does to a segment of its own. -/
inductive Source where
  | bit (bit : Nat)
  | cleared
  deriving Repr, DecidableEq

namespace SymbolPins

/-- The source of a segment, if it belongs to the symbol. -/
def source (pins : SymbolPins) (segment : Segment) : Option Source :=
  if pins.even segment.bank = some segment.shift then
    if segment.com.val = 0 ∧ pins.lowest = false then
      some .cleared
    else
      some (.bit (2 * segment.com))
  else if pins.odd segment.bank = some segment.shift then
    some (.bit (2 * segment.com + 1))
  else
    none

/-- The symbol has a pin at a shift. -/
def uses (pins : SymbolPins) (bank : Fin 2) (shift : Fin 32) : Bool :=
  decide (pins.even bank = some shift) ||
    decide (pins.odd bank = some shift)

theorem source_eq_none
    {pins : SymbolPins}
    {segment : Segment}
    (unused : pins.uses segment.bank segment.shift = false) :
    pins.source segment = none := by
  simp only [uses, Bool.or_eq_false_iff, decide_eq_false_iff_not] at unused
  rw [source, if_neg unused.1, if_neg unused.2]

end SymbolPins

/-- A segment after a write to a register. -/
theorem lit_halWrite
    (segment : Segment)
    (lcd : Lcd)
    (register : Nat)
    (mask data : BitVec 32) :
    segment.lit (lcd.halWrite register mask data) =
      if lcdCom segment.com segment.bank = register then
        (segment.lit lcd && mask.getLsbD segment.shift) ||
          data.getLsbD segment.shift
      else
        segment.lit lcd := by
  unfold Segment.lit Lcd.halWrite
  split
  · next same =>
      rw [BitVec.getLsbD_or, BitVec.getLsbD_and, same]
  · rfl

/-- Registers tell lines and banks apart. -/
theorem lcdCom_eq_iff (first second : Nat) (bank other : Fin 2) :
    lcdCom first bank = lcdCom second other ↔
      first = second ∧ bank = other := by
  simp only [lcdCom, Fin.ext_iff]
  omega

namespace SymbolPins

/-- The bit of a shift. -/
theorem getLsbD_pinBit (pin : Option (Fin 32)) (shift : Fin 32) :
    (pinBit pin).getLsbD shift = decide (pin = some shift) := by
  cases pin with
  | none => simp [pinBit]
  | some other => simp [pinBit, Fin.ext_iff, eq_comm]

/-- A mask keeps the segments of other symbols. -/
theorem getLsbD_mask
    (pins : SymbolPins)
    (bank : Fin 2)
    (shift : Fin 32) :
    (pins.mask bank).getLsbD shift =
      !(decide (pins.even bank = some shift) ||
        decide (pins.odd bank = some shift)) := by
  rw [mask, BitVec.getLsbD_not, BitVec.getLsbD_or, getLsbD_pinBit,
    getLsbD_pinBit]
  simp

/-- One bit of a bitmap arrives at its shift. -/
theorem getLsbD_dataBit
    (bitmap : SegmentBitmap)
    {bit : Nat}
    (inside : bit < 8)
    (pin : Option (Fin 32))
    (shift : Fin 32) :
    (dataBit bitmap bit pin).getLsbD shift =
      (decide (pin = some shift) && bitmap.getLsbD bit) := by
  cases pin with
  | none => simp [dataBit]
  | some other =>
      rw [dataBit, BitVec.getLsbD_shiftLeft, BitVec.getLsbD_ushiftRight,
        BitVec.getLsbD_and, BitVec.getLsbD_twoPow, BitVec.getLsbD_setWidth]
      by_cases same : other = shift
      · subst same
        simp [show bit < 32 by omega]
      · have different : some other ≠ some shift :=
          fun equal => same (Option.some.inj equal)
        rw [decide_eq_false different, Bool.false_and]
        by_cases below : shift.val < other.val
        · simp [below]
        · have later : shift.val - other.val ≠ 0 := by
            have apart : shift.val ≠ other.val :=
              fun equal => same (Fin.ext equal.symm)
            omega
          simp [later]

/-- The data of a symbol at a segment. -/
theorem getLsbD_data
    (pins : SymbolPins)
    (bitmap : SegmentBitmap)
    (segment : Segment) :
    (pins.data bitmap segment.com segment.bank).getLsbD segment.shift =
      match pins.source segment with
      | some (.bit bit) => bitmap.getLsbD bit
      | some .cleared => false
      | none => false := by
  have line := segment.com.isLt
  have apart := pins.apart segment.bank
  rw [data, BitVec.getLsbD_or, getLsbD_dataBit bitmap (by omega), source]
  by_cases even : pins.even segment.bank = some segment.shift
  · have notOdd : pins.odd segment.bank ≠ some segment.shift := by
      rcases apart with none | different
      · rw [even] at none
        cases none
      · exact fun odd => different (even.trans odd.symm)
    rw [if_pos even, decide_eq_false notOdd]
    split
    · simp
    · rw [getLsbD_dataBit bitmap (by omega), decide_eq_true even]
      simp
  · rw [if_neg even]
    have noEven :
        (if segment.com.val = 0 ∧ pins.lowest = false then
          (0 : BitVec 32)
        else
          dataBit bitmap (2 * segment.com)
            (pins.even segment.bank)).getLsbD segment.shift = false := by
      split
      · simp
      · rw [getLsbD_dataBit bitmap (by omega), decide_eq_false even,
          Bool.false_and]
    rw [noEven]
    by_cases odd : pins.odd segment.bank = some segment.shift
    · rw [if_pos odd, decide_eq_true odd]
      simp
    · rw [if_neg odd, decide_eq_false odd]
      simp

/-- A segment after a symbol was displayed. -/
def result
    (pins : SymbolPins) (bitmap : SegmentBitmap) (segment : Segment)
    (before : Bool) : Bool :=
  match pins.source segment with
  | some (.bit bit) => bitmap.getLsbD bit
  | some .cleared => false
  | none => before

/-- The write of a symbol to the register of a segment. -/
theorem lit_write
    (pins : SymbolPins)
    (bitmap : SegmentBitmap)
    (segment : Segment)
    (lcd : Lcd) :
    ((segment.lit lcd &&
        (pins.mask segment.bank).getLsbD segment.shift) ||
      (pins.data bitmap segment.com segment.bank).getLsbD
        segment.shift) =
      pins.result bitmap segment (segment.lit lcd) := by
  rw [getLsbD_data, getLsbD_mask, result, source]
  by_cases even : pins.even segment.bank = some segment.shift
  · rw [if_pos even, decide_eq_true even]
    by_cases cleared : segment.com.val = 0 ∧ pins.lowest = false
    · rw [if_pos cleared]
      simp
    · rw [if_neg cleared]
      simp
  · rw [if_neg even, decide_eq_false even]
    by_cases odd : pins.odd segment.bank = some segment.shift
    · rw [if_pos odd, decide_eq_true odd]
      simp
    · rw [if_neg odd, decide_eq_false odd]
      simp

/-- The write to one register. -/
theorem lit_displayBank
    (pins : SymbolPins)
    (bitmap : SegmentBitmap)
    (segment : Segment)
    (lcd : Lcd)
    (com : Nat)
    (bank : Fin 2) :
    segment.lit (pins.displayBank bitmap com lcd bank) =
      if segment.com.val = com ∧ segment.bank = bank then
        pins.result bitmap segment (segment.lit lcd)
      else
        segment.lit lcd := by
  unfold displayBank
  split
  · next unused =>
      split
      · next own =>
          rw [result, source, own.2, unused.1, unused.2]
          simp
      · rfl
  · rw [lit_halWrite]
    simp only [lcdCom_eq_iff]
    split
    · next own =>
        rw [← own.1, ← own.2, lit_write]
    · rfl

/-- The writes to one line. -/
theorem lit_displayCom
    (pins : SymbolPins)
    (bitmap : SegmentBitmap)
    (segment : Segment)
    (lcd : Lcd)
    (com : Nat) :
    segment.lit (pins.displayCom bitmap lcd com) =
      if segment.com.val = com then
        pins.result bitmap segment (segment.lit lcd)
      else
        segment.lit lcd := by
  rw [displayCom, List.foldl_cons, List.foldl_cons, List.foldl_nil,
    lit_displayBank, lit_displayBank]
  by_cases line : segment.com.val = com
  · rcases Fin.exists_fin_two.mp ⟨segment.bank, rfl⟩ with first | second
    · simp [line, first]
    · simp [line, second]
  · simp [line]

/-- A segment after the writes to all lines. -/
theorem lit_display
    (pins : SymbolPins)
    (bitmap : SegmentBitmap)
    (segment : Segment)
    (lcd : Lcd) :
    segment.lit (pins.display bitmap lcd) =
      pins.result bitmap segment (segment.lit lcd) := by
  simp only [display, List.foldl_cons, List.foldl_nil, lit_displayCom]
  have line := segment.com.isLt
  have lines :
      segment.com.val = 0 ∨ segment.com.val = 1 ∨ segment.com.val = 2 ∨
        segment.com.val = 3 := by
    omega
  rcases lines with line | line | line | line
  · simp [line]
  · simp [line]
  · simp [line]
  · simp [line]

end SymbolPins

/-- A segment after a single segment was written. -/
theorem lit_displaySegment
    (segment written : Segment)
    (on : Bool)
    (lcd : Lcd) :
    segment.lit (displaySegment written on lcd) =
      if segment = written then on else segment.lit lcd := by
  have data :
      (((BitVec.ofBool on).setWidth 32) <<< written.shift.val).getLsbD
          segment.shift =
        (decide (segment.shift = written.shift) && on) := by
    rw [BitVec.getLsbD_shiftLeft, BitVec.getLsbD_setWidth]
    rcases Nat.lt_trichotomy segment.shift.val written.shift.val with
      below | same | above
    · have different : segment.shift ≠ written.shift := by
        rintro equal
        rw [equal] at below
        exact Nat.lt_irrefl _ below
      simp [below, different]
    · have equal := Fin.ext same
      simp [equal]
    · have different : segment.shift ≠ written.shift := by
        rintro equal
        rw [equal] at above
        exact Nat.lt_irrefl _ above
      have later : segment.shift.val - written.shift.val ≠ 0 := by omega
      simp [different, BitVec.getLsbD_ofBool, later]
  rw [displaySegment, lit_halWrite, data, BitVec.getLsbD_not,
    BitVec.getLsbD_twoPow]
  simp only [lcdCom_eq_iff]
  by_cases register :
      segment.com.val = written.com.val ∧ segment.bank = written.bank
  · rw [if_pos register]
    by_cases shift : segment.shift = written.shift
    · have same : segment = written := by
        cases segment
        cases written
        simp only [Segment.mk.injEq]
        exact ⟨Fin.ext register.1, register.2, shift⟩
      simp [same]
    · have different : segment ≠ written := fun same =>
        shift (congrArg Segment.shift same)
      have other : ¬ written.shift.val = segment.shift.val := fun same =>
        shift (Fin.ext same.symm)
      simp [different, shift, other]
  · have different : segment ≠ written := fun same =>
      register ⟨congrArg (fun part => part.com.val) same,
        congrArg Segment.bank same⟩
    rw [if_neg register, if_neg different]

/-- The rows that `Presentation.c` hands to `Screen_DisplayFourDigits`. -/
inductive ScreenRow where
  | top
  | bottom
  deriving Repr, DecidableEq

namespace ScreenRow

/-- `rowTop` and `rowBottom`, the symbol of the lowest digit first -/
def symbols : ScreenRow → Fin 4 → SegmentBitmap → Lcd → Lcd
  | .top, 0 => displaySymbol4
  | .top, 1 => displaySymbol3
  | .top, 2 => displaySymbol2
  | .top, 3 => displaySymbol1
  | .bottom, 0 => displaySymbol8
  | .bottom, 1 => displaySymbol7
  | .bottom, 2 => displaySymbol6
  | .bottom, 3 => displaySymbol5

/-- The pins of the symbols of a row. -/
def pins : ScreenRow → Fin 4 → SymbolPins
  | .top, 0 => symbol4
  | .top, 1 => symbol3
  | .top, 2 => symbol2
  | .top, 3 => symbol1
  | .bottom, 0 => symbol8
  | .bottom, 1 => symbol7
  | .bottom, 2 => symbol6
  | .bottom, 3 => symbol5

/-- The segment of the sign indicator. -/
def signSegment : ScreenRow → Segment
  | .top => minusTop
  | .bottom => minusBottom

/-- `Screen_DisplayMinusTop` and `Screen_DisplayMinusBottom` -/
def sign (row : ScreenRow) : Bool → Lcd → Lcd :=
  displaySegment row.signSegment

/-- Every segment of a symbol agrees with its bit of the bitmap. -/
def Shows
    (row : ScreenRow) (position : Fin 4) (bitmap : SegmentBitmap)
    (lcd : Lcd) : Prop :=
  ∀ (segment : Segment) (bit : Nat),
    (row.pins position).source segment = some (.bit bit) →
    segment.lit lcd = bitmap.getLsbD bit

/-- The sign indicator is on. -/
def SignOn (row : ScreenRow) (lcd : Lcd) : Prop :=
  row.signSegment.lit lcd = true

variable (row : ScreenRow)

theorem symbols_eq (position : Fin 4) :
    row.symbols position = (row.pins position).display := by
  cases row with
  | top => fin_cases position <;> rfl
  | bottom => fin_cases position <;> rfl

/-- The symbols of a row have no segment in common. -/
theorem source_apart
    {position other : Fin 4}
    (different : position ≠ other)
    (segment : Segment) :
    (row.pins position).source segment = none ∨
      (row.pins other).source segment = none := by
  have apart :
      ∀ (position other : Fin 4) (bank : Fin 2) (shift : Fin 32),
        position ≠ other →
        (row.pins position).uses bank shift = false ∨
          (row.pins other).uses bank shift = false := by
    cases row with
    | top => decide +kernel
    | bottom => decide +kernel
  exact (apart position other segment.bank segment.shift different).imp
    SymbolPins.source_eq_none SymbolPins.source_eq_none

/-- No symbol has the segment of the sign indicator. -/
theorem source_signSegment (position : Fin 4) :
    (row.pins position).source row.signSegment = none := by
  cases row with
  | top => fin_cases position <;> rfl
  | bottom => fin_cases position <;> rfl

/-- Every bit but the lowest has a segment. -/
theorem exists_segment
    (position : Fin 4)
    {bit : Fin 8}
    (notLowest : bit ≠ 0) :
    ∃ segment,
      (row.pins position).source segment = some (.bit bit) := by
  have somewhere :
      ∀ (position : Fin 4) (bit : Fin 8), bit ≠ 0 →
        ∃ (com : Fin 4) (bank : Fin 2) (shift : Fin 32),
          (row.pins position).source ⟨com, bank, shift⟩ =
            some (.bit bit) := by
    cases row with
    | top => decide +kernel
    | bottom => decide +kernel
  obtain ⟨com, bank, shift, own⟩ := somewhere position bit notLowest
  exact ⟨⟨com, bank, shift⟩, own⟩

variable {lcd : Lcd}

/-- A symbol shows what was displayed. -/
theorem shows_symbols
    (position : Fin 4)
    (bitmap : SegmentBitmap)
    (lcd : Lcd) :
    row.Shows position bitmap (row.symbols position bitmap lcd) := by
  intro segment bit own
  rw [symbols_eq, SymbolPins.lit_display, SymbolPins.result, own]

/-- The other symbols of the row stay. -/
theorem Shows.symbols
    {row : ScreenRow}
    {position other : Fin 4}
    {bitmap : SegmentBitmap}
    (shows : row.Shows position bitmap lcd)
    (different : position ≠ other)
    (displayed : SegmentBitmap) :
    row.Shows position bitmap (row.symbols other displayed lcd) := by
  intro segment bit own
  have foreign : (row.pins other).source segment = none := by
    rcases row.source_apart different segment with none | none
    · rw [own] at none
      cases none
    · exact none
  rw [symbols_eq, SymbolPins.lit_display, SymbolPins.result, foreign]
  exact shows segment bit own

/-- The sign indicator leaves the symbols of its row alone. -/
theorem Shows.sign
    {row : ScreenRow}
    {position : Fin 4}
    {bitmap : SegmentBitmap}
    (shows : row.Shows position bitmap lcd)
    (on : Bool) :
    row.Shows position bitmap (row.sign on lcd) := by
  intro segment bit own
  have different : segment ≠ row.signSegment := by
    rintro rfl
    rw [row.source_signSegment position] at own
    cases own
  rw [ScreenRow.sign, lit_displaySegment, if_neg different]
  exact shows segment bit own

/-- A symbol leaves the sign indicator of its row alone. -/
theorem signOn_symbols
    (position : Fin 4)
    (bitmap : SegmentBitmap) :
    row.SignOn (row.symbols position bitmap lcd) ↔ row.SignOn lcd := by
  rw [SignOn, symbols_eq, SymbolPins.lit_display, SymbolPins.result,
    row.source_signSegment position]
  exact Iff.rfl

theorem signOn_sign (on : Bool) :
    row.SignOn (row.sign on lcd) ↔ on = true := by
  rw [SignOn, sign, lit_displaySegment, if_pos rfl]

/-- A symbol shows one bitmap, apart from the lowest bit. -/
theorem Shows.unique
    {row : ScreenRow}
    {position : Fin 4}
    {first second : SegmentBitmap}
    (showsFirst : row.Shows position first lcd)
    (showsSecond : row.Shows position second lcd)
    {bit : Fin 8}
    (notLowest : bit ≠ 0) :
    first.getLsbD bit = second.getLsbD bit := by
  obtain ⟨segment, own⟩ := row.exists_segment position notLowest
  exact (showsFirst segment bit own).symm.trans
    (showsSecond segment bit own)

end ScreenRow

end DemoBoard
