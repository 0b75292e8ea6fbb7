import DemoBoard.CyclicRedundancy

namespace DemoBoard.Crc

open CyclicRedundancy

/-!
# The check sum unit

Model of `hal/Crc.c` and of what it calls in `stm32wbxx_hal_crc.c` and
`stm32wbxx_hal_crc_ex.c`.  The functions are lists of accesses to the unit and
to its handle, so that an interrupt can come between any two of them.
-/

/-- `HAL_CRC_StateTypeDef`, as far as it is used. -/
inductive HandleState where
  | reset
  | ready
  | busy
  deriving Repr, DecidableEq

/-- The registers of the unit and `_hcrc.State`. -/
structure CrcBlock where
  /-- `__HAL_RCC_CRC_CLK_ENABLE` -/
  clock : Bool
  /-- `POL` -/
  pol : BitVec 32
  /-- The degree in `CRC_CR_POLYSIZE` of `CR`. -/
  polySize : Nat
  /-- `INIT` -/
  init : BitVec 32
  /-- `DR` -/
  dr : BitVec 32
  state : HandleState
  deriving Repr, DecidableEq

/-- One access to the unit or to its handle. -/
inductive CrcAction where
  /-- `HAL_CRC_MspInit` -/
  | clockEnable
  /-- `HAL_CRC_MspDeInit` -/
  | clockDisable
  | setState (state : HandleState)
  | writePol (value : BitVec 32)
  | writePolySize (size : Nat)
  | writeInit (value : BitVec 32)
  /-- `__HAL_CRC_DR_RESET` -/
  | resetDr
  /-- A write to `DR`, the most significant bit first. -/
  | writeDr (bits : List Bool)
  deriving Repr, DecidableEq

/-- The unit takes data into the low bits of its register. -/
def takeIn (block : CrcBlock) (bits : List Bool) : BitVec 32 :=
  let low :=
    remainder (block.pol.setWidth block.polySize)
      (block.dr.setWidth block.polySize) bits
  ((block.dr >>> block.polySize) <<< block.polySize) ||| low.setWidth 32

/-- What an access changes; registers without a clock keep their values. -/
def act (block : CrcBlock) : CrcAction → CrcBlock
  | .clockEnable => { block with clock := true }
  | .clockDisable => { block with clock := false }
  | .setState state => { block with state := state }
  | .writePol value =>
      if block.clock then { block with pol := value } else block
  | .writePolySize size =>
      if block.clock then { block with polySize := size } else block
  | .writeInit value =>
      if block.clock then { block with init := value } else block
  | .resetDr =>
      if block.clock then { block with dr := block.init } else block
  | .writeDr bits =>
      if block.clock then { block with dr := takeIn block bits } else block

/-- Some accesses, one after the other. -/
def acts (block : CrcBlock) (actions : List CrcAction) : CrcBlock :=
  actions.foldl act block

/-- A read of `DR`; without a clock there is nothing to read. -/
def readDr (block : CrcBlock) : BitVec 32 :=
  if block.clock then block.dr else 0

/-- The loop of `HAL_CRCEx_Polynomial_Set`, for the value of `msb`. -/
def polynomialMsb (pol : BitVec 32) : Nat → Option Nat
  | 0 => none
  | msb + 1 => if pol.getLsbD msb then some msb else polynomialMsb pol msb

/-- `HAL_CRCEx_Polynomial_Set`; `none` is `HAL_ERROR`. -/
def halCrcExPolynomialSet (pol : BitVec 32) (polyLength : Nat) :
    Option (List CrcAction) :=
  -- ensure that the generating polynomial is odd
  if pol.getLsbD 0 then
    match polynomialMsb pol 31 with
    | none => none
    | some msb =>
        if polyLength ≠ 32 ∧ polyLength ≤ msb then
          none
        else
          some [.writePol pol, .writePolySize polyLength]
  else
    none

/-- `DEFAULT_CRC_INITVALUE` -/
def defaultCrcInitValue : BitVec 32 :=
  0xFFFFFFFF

/-- `HAL_CRC_Init` for a generating polynomial and the default value. -/
def halCrcInit
    (state : HandleState) (pol : BitVec 32) (polyLength : Nat) :
    List CrcAction :=
  let begun :=
    (if state = .reset then [.clockEnable] else []) ++ [.setState .busy]
  match halCrcExPolynomialSet pol polyLength with
  | none => begun
  | some set =>
      begun ++ set ++ [.writeInit defaultCrcInitValue, .setState .ready]

/-- `HAL_CRC_DeInit` -/
def halCrcDeInit (state : HandleState) : List CrcAction :=
  if state = .busy then
    []
  else
    [.setState .busy, .resetDr, .clockDisable, .setState .reset]

/-- The bits of bytes in the order of the bytes. -/
def bitsOfBytes (bytes : List UInt8) : List Bool :=
  bytes.flatMap fun byte => bitsOf byte.toBitVec

/-- `CRC_Handle_8`: four bytes are written as one word. -/
def crcHandle8 : List UInt8 → List CrcAction
  | [] => []
  | [byte] => [.writeDr (bitsOf byte.toBitVec)]
  | [first, second] =>
      [.writeDr (bitsOf (first.toBitVec ++ second.toBitVec))]
  | [first, second, third] =>
      [.writeDr (bitsOf (first.toBitVec ++ second.toBitVec)),
        .writeDr (bitsOf third.toBitVec)]
  | first :: second :: third :: fourth :: rest =>
      .writeDr
          (bitsOf (first.toBitVec ++ second.toBitVec ++ third.toBitVec ++
            fourth.toBitVec)) ::
        crcHandle8 rest

/-- `HAL_CRC_Calculate` up to the read of the result. -/
def halCrcCalculate (bytes : List UInt8) : List CrcAction :=
  [.setState .busy, .resetDr] ++ crcHandle8 bytes

/-- `_hcrc.Init.GeneratingPolynomial` -/
def generatingPolynomial : BitVec 32 :=
  0x31

/-- `Crc_Enable` -/
def crcEnable (state : HandleState) : List CrcAction :=
  halCrcInit state generatingPolynomial 8

/-- `Crc_Disable` -/
def crcDisable (state : HandleState) : List CrcAction :=
  halCrcDeInit state

/-- `Crc_ComputeCrc`, without an interrupt. -/
def crcComputeCrc (block : CrcBlock) (bytes : List UInt8) :
    BitVec 8 × CrcBlock :=
  let computed := acts block (halCrcCalculate bytes)
  ((readDr computed).setWidth 8, act computed (.setState .ready))

/-- The unit after the reset of the device. -/
def CrcBlock.static : CrcBlock where
  clock := false
  pol := 0x04C11DB7
  polySize := 32
  init := 0xFFFFFFFF
  dr := 0xFFFFFFFF
  state := .reset

/-- A handle that is in use has a clock. -/
def Usable (block : CrcBlock) : Prop :=
  block.state ≠ .reset → block.clock = true

/-- The unit is set up for the check sums of the firmware. -/
structure Enabled (block : CrcBlock) : Prop where
  clock : block.clock = true
  pol : block.pol = generatingPolynomial
  polySize : block.polySize = 8
  init : block.init = defaultCrcInitValue

section Computing

variable {block : CrcBlock}

theorem acts_append (first second : List CrcAction) :
    acts block (first ++ second) = acts (acts block first) second :=
  List.foldl_append

@[simp] theorem acts_nil : acts block [] = block :=
  rfl

@[simp] theorem acts_cons (action : CrcAction) (rest : List CrcAction) :
    acts block (action :: rest) = acts (act block action) rest :=
  rfl

/-- The polynomial is odd and short enough. -/
theorem crcEnable_eq (state : HandleState) :
    crcEnable state =
      (if state = .reset then [.clockEnable] else []) ++
        [.setState .busy, .writePol generatingPolynomial, .writePolySize 8,
          .writeInit defaultCrcInitValue, .setState .ready] := by
  have set : halCrcExPolynomialSet generatingPolynomial 8 =
      some [.writePol generatingPolynomial, .writePolySize 8] := by
    decide
  rw [crcEnable, halCrcInit, set]
  dsimp only
  rw [List.append_assoc, List.append_assoc]
  rfl

theorem enabled_crcEnable (usable : Usable block) :
    Enabled (acts block (crcEnable block.state)) := by
  obtain ⟨clock, pol, polySize, init, dr, state⟩ := block
  rw [crcEnable_eq, acts_append]
  by_cases reset : state = .reset
  · rw [if_pos reset]
    exact ⟨rfl, rfl, rfl, rfl⟩
  · obtain rfl : clock = true := usable reset
    rw [if_neg reset]
    exact ⟨rfl, rfl, rfl, rfl⟩

/-- What a write to the register does to its low bits. -/
theorem act_writeDr
    (enabled : Enabled block)
    (bits : List Bool) :
    Enabled (act block (.writeDr bits)) ∧
      (act block (.writeDr bits)).dr.setWidth 8 =
        remainder (generatingPolynomial.setWidth 8) (block.dr.setWidth 8)
          bits := by
  obtain ⟨clock, pol, polySize, init⟩ := enabled
  obtain ⟨_, _, _, _, dr, state⟩ := block
  dsimp only at clock pol polySize init
  subst clock pol polySize init
  refine ⟨⟨rfl, rfl, rfl, rfl⟩, ?_⟩
  refine BitVec.eq_of_getLsbD_eq fun place inside => ?_
  simp [act, takeIn, inside]

theorem bitsOfBytes_cons (byte : UInt8) (rest : List UInt8) :
    bitsOfBytes (byte :: rest) = bitsOf byte.toBitVec ++ bitsOfBytes rest :=
  rfl

/-- Words of four bytes do what the bytes would do. -/
theorem acts_crcHandle8
    (enabled : Enabled block)
    (bytes : List UInt8) :
    Enabled (acts block (crcHandle8 bytes)) ∧
      (acts block (crcHandle8 bytes)).dr.setWidth 8 =
        remainder (generatingPolynomial.setWidth 8) (block.dr.setWidth 8)
          (bitsOfBytes bytes) := by
  induction bytes using crcHandle8.induct generalizing block with
  | case1 => exact ⟨enabled, rfl⟩
  | case2 byte =>
      have one := act_writeDr enabled (bitsOf byte.toBitVec)
      refine ⟨one.1, one.2.trans ?_⟩
      rw [bitsOfBytes_cons, bitsOfBytes, List.flatMap_nil, List.append_nil]
  | case3 first second =>
      have two := act_writeDr enabled
        (bitsOf (first.toBitVec ++ second.toBitVec))
      refine ⟨two.1, two.2.trans ?_⟩
      rw [bitsOf_append, bitsOfBytes_cons, bitsOfBytes_cons, bitsOfBytes,
        List.flatMap_nil, List.append_nil]
  | case4 first second third =>
      have two := act_writeDr enabled
        (bitsOf (first.toBitVec ++ second.toBitVec))
      have last := act_writeDr two.1 (bitsOf third.toBitVec)
      refine ⟨last.1, last.2.trans ?_⟩
      rw [two.2, ← remainder_append, bitsOf_append, bitsOfBytes_cons,
        bitsOfBytes_cons, bitsOfBytes_cons, bitsOfBytes, List.flatMap_nil,
        List.append_nil, List.append_assoc]
  | case5 first second third fourth rest inductionHypothesis =>
      have word := act_writeDr enabled
        (bitsOf (first.toBitVec ++ second.toBitVec ++ third.toBitVec ++
          fourth.toBitVec))
      have behind := inductionHypothesis word.1
      rw [crcHandle8, acts_cons]
      refine ⟨behind.1, behind.2.trans ?_⟩
      rw [word.2, ← remainder_append, bitsOf_append, bitsOf_append,
        bitsOf_append]
      simp only [bitsOfBytes_cons, List.append_assoc]

/-- The check sum of some bytes, whatever the unit did before. -/
theorem crcComputeCrc_eq
    (enabled : Enabled block)
    (bytes : List UInt8) :
    Enabled (crcComputeCrc block bytes).2 ∧
      (crcComputeCrc block bytes).1 =
        remainder (generatingPolynomial.setWidth 8)
          (defaultCrcInitValue.setWidth 8) (bitsOfBytes bytes) := by
  have begun : Enabled (acts block [.setState .busy, .resetDr]) ∧
      (acts block [.setState .busy, .resetDr]).dr = defaultCrcInitValue := by
    obtain ⟨clock, pol, polySize, init⟩ := enabled
    obtain ⟨_, _, _, _, dr, state⟩ := block
    dsimp only at clock pol polySize init
    subst clock pol polySize init
    exact ⟨⟨rfl, rfl, rfl, rfl⟩, rfl⟩
  have computed := acts_crcHandle8 begun.1 bytes
  rw [crcComputeCrc, halCrcCalculate, acts_append]
  refine ⟨⟨computed.1.clock, computed.1.pol, computed.1.polySize,
    computed.1.init⟩, ?_⟩
  dsimp only
  rw [readDr, if_pos computed.1.clock, computed.2, begun.2]

end Computing

end DemoBoard.Crc
