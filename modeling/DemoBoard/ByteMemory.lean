import Mathlib.Data.List.Basic
import Mathlib.Data.List.GetD
import Mathlib.Tactic.Common
import Mathlib.Tactic.Ring

namespace ByteMemory

/-!
# Byte-addressed memory

A memory is a total map from addresses to bytes.  Reads and writes of byte
lists, and filling a range with one value, are the only operations; the lemmas
below say how they compose and what they leave unchanged.  Numbers are stored
in little-endian order.
-/

/-- One memory cell. -/
abbrev Byte := UInt8

/-- A total map from addresses to bytes. -/
abbrev Memory := Nat → Byte

/-- The `count` bytes that start at `address`. -/
def readBytes (memory : Memory) (address count : Nat) : List Byte :=
  (List.range count).map fun offset => memory (address + offset)

/-- Store `bytes` consecutively from `address`. -/
def writeBytes (memory : Memory) (address : Nat) (bytes : List Byte) :
    Memory :=
  fun location =>
    if address ≤ location ∧ location < address + bytes.length then
      bytes.getD (location - address) 0
    else
      memory location

/-- Set the `count` bytes that start at `address` to one value. -/
def fillBytes (memory : Memory) (address count : Nat) (value : Byte) :
    Memory :=
  fun location =>
    if address ≤ location ∧ location < address + count then
      value
    else
      memory location

/-- Two memories hold the same bytes in `[first, last)`. -/
def AgreeOn (left right : Memory) (first last : Nat) : Prop :=
  ∀ location, first ≤ location → location < last →
    left location = right location

/-- Every byte in `[first, last)` has the given value. -/
def ConstantOn (memory : Memory) (value : Byte) (first last : Nat) : Prop :=
  ∀ location, first ≤ location → location < last →
    memory location = value

@[simp] theorem length_readBytes (memory : Memory) (address count : Nat) :
    (readBytes memory address count).length = count := by
  simp [readBytes]

@[simp] theorem readBytes_zero (memory : Memory) (address : Nat) :
    readBytes memory address 0 = [] := by
  simp [readBytes]

theorem getElem?_readBytes
    (memory : Memory)
    {address count offset : Nat}
    (inside : offset < count) :
    (readBytes memory address count)[offset]? =
      some (memory (address + offset)) := by
  simp [readBytes, inside]

/-- A read can be split at any offset. -/
theorem readBytes_add
    (memory : Memory)
    (address first second : Nat) :
    readBytes memory address (first + second) =
      readBytes memory address first ++
        readBytes memory (address + first) second := by
  simp [readBytes, List.range_add, Function.comp_def, Nat.add_assoc]

/-- A prefix of a read is a shorter read. -/
theorem take_readBytes
    (memory : Memory)
    (address count length : Nat) :
    (readBytes memory address count).take length =
      readBytes memory address (min length count) := by
  rcases Nat.le_total length count with short | long
  · obtain ⟨rest, rfl⟩ := Nat.exists_eq_add_of_le short
    rw [readBytes_add, Nat.min_eq_left short, List.take_left']
    simp
  · rw [Nat.min_eq_right long, List.take_of_length_le]
    simpa using long

/-- A read equals a list when every byte agrees. -/
theorem readBytes_eq_of_forall
    {memory : Memory}
    {address : Nat}
    {bytes : List Byte}
    (same :
      ∀ offset, offset < bytes.length →
        memory (address + offset) = bytes.getD offset 0) :
    readBytes memory address bytes.length = bytes := by
  apply List.ext_getElem
  · simp
  · intro offset _ inside
    have byteSame := same offset inside
    rw [List.getD_eq_getElem _ _ inside] at byteSame
    simp [readBytes, byteSame]

/-- Agreeing memories give equal reads. -/
theorem readBytes_congr
    {left right : Memory}
    {address count : Nat}
    (agree : AgreeOn left right address (address + count)) :
    readBytes left address count = readBytes right address count := by
  apply List.map_congr_left
  intro offset member
  have inside : offset < count := List.mem_range.mp member
  exact agree (address + offset) (by omega) (by omega)

/-- Reading back what was just written. -/
theorem readBytes_writeBytes_same
    (memory : Memory)
    (address : Nat)
    (bytes : List Byte) :
    readBytes (writeBytes memory address bytes) address bytes.length =
      bytes := by
  apply readBytes_eq_of_forall
  intro offset inside
  simp [writeBytes, inside]

/-- Writing leaves every byte outside the written range alone. -/
theorem writeBytes_agreeOn
    (memory : Memory)
    {address first last : Nat}
    {bytes : List Byte}
    (apart : last ≤ address ∨ address + bytes.length ≤ first) :
    AgreeOn (writeBytes memory address bytes) memory first last := by
  intro location lower upper
  have outside :
      ¬ (address ≤ location ∧ location < address + bytes.length) := by
    omega
  simp [writeBytes, outside]

/-- Filling leaves every byte outside the filled range alone. -/
theorem fillBytes_agreeOn
    (memory : Memory)
    {address count first last : Nat}
    (value : Byte)
    (apart : last ≤ address ∨ address + count ≤ first) :
    AgreeOn (fillBytes memory address count value) memory first last := by
  intro location lower upper
  have outside :
      ¬ (address ≤ location ∧ location < address + count) := by
    omega
  simp [fillBytes, outside]

/-- The filled range holds the fill value. -/
theorem fillBytes_constantOn
    (memory : Memory)
    (address count : Nat)
    (value : Byte) :
    ConstantOn (fillBytes memory address count value)
      value address (address + count) := by
  intro location lower upper
  simp [fillBytes, lower, upper]

/-- Writing nothing changes nothing. -/
@[simp] theorem writeBytes_nil (memory : Memory) (address : Nat) :
    writeBytes memory address [] = memory := by
  funext location
  simp only [writeBytes, List.length_nil, Nat.add_zero]
  rw [if_neg (by omega)]

/-- A write can be split into two consecutive writes. -/
theorem writeBytes_append
    (memory : Memory)
    (address : Nat)
    (first second : List Byte) :
    writeBytes memory address (first ++ second) =
      writeBytes (writeBytes memory address first)
        (address + first.length) second := by
  funext location
  simp only [writeBytes, List.length_append]
  by_cases inFirst :
      address ≤ location ∧ location < address + first.length
  · rw [if_pos (by omega), if_neg (by omega), if_pos inFirst]
    exact List.getD_append _ _ _ _ (by omega)
  · by_cases inSecond :
        address + first.length ≤ location ∧
          location < address + first.length + second.length
    · rw [if_pos (by omega), if_pos inSecond]
      rw [List.getD_append_right _ _ _ _ (by omega)]
      congr 1
      omega
    · rw [if_neg (by omega), if_neg inSecond, if_neg inFirst]

/-- Writing the value a range already holds changes nothing. -/
theorem writeBytes_replicate
    {memory : Memory}
    {value : Byte}
    {address count last : Nat}
    (constant : ConstantOn memory value address last)
    (inside : address + count ≤ last) :
    writeBytes memory address (List.replicate count value) = memory := by
  funext location
  simp only [writeBytes, List.length_replicate]
  split
  · next within =>
      rw [constant location within.1 (by omega),
        List.getD_replicate _ (by omega)]
  · rfl

/-- The `width` low bytes of a number, least significant first. -/
def leBytes : Nat → Nat → List Byte
  | 0, _ => []
  | width + 1, value =>
      UInt8.ofNat value :: leBytes width (value / 256)

/-- The number stored in a byte list, least significant byte first. -/
def leValue : List Byte → Nat
  | [] => 0
  | byte :: rest => byte.toNat + 256 * leValue rest

@[simp] theorem length_leBytes (width value : Nat) :
    (leBytes width value).length = width := by
  induction width generalizing value with
  | zero => rfl
  | succ width inductionHypothesis =>
      simp [leBytes, inductionHypothesis]

/-- Decoding an encoded number keeps its low bytes. -/
theorem leValue_leBytes (width value : Nat) :
    leValue (leBytes width value) = value % 256 ^ width := by
  induction width generalizing value with
  | zero => simp [leBytes, leValue, Nat.mod_one]
  | succ width inductionHypothesis =>
      rw [leBytes, leValue, inductionHypothesis, Nat.pow_succ',
        Nat.mod_mul]
      simp

/-- A byte list of length `width` stores a number below `256 ^ width`. -/
theorem leValue_lt (bytes : List Byte) :
    leValue bytes < 256 ^ bytes.length := by
  induction bytes with
  | nil => simp [leValue]
  | cons byte rest inductionHypothesis =>
      have byteBound : byte.toNat < 256 := byte.toNat_lt
      rw [leValue, List.length_cons, Nat.pow_succ']
      omega

/-- Encoding a decoded byte list gives the list back. -/
theorem leBytes_leValue (bytes : List Byte) :
    leBytes bytes.length (leValue bytes) = bytes := by
  induction bytes with
  | nil => rfl
  | cons byte rest inductionHypothesis =>
      have byteBound : byte.toNat < 256 := byte.toNat_lt
      have head :
          UInt8.ofNat (byte.toNat + 256 * leValue rest) = byte := by
        apply UInt8.toNat_inj.mp
        rw [UInt8.toNat_ofNat']
        omega
      have tail :
          (byte.toNat + 256 * leValue rest) / 256 = leValue rest := by
        omega
      rw [leValue, List.length_cons, leBytes, head, tail,
        inductionHypothesis]

/-- The first part of a byte list is its low part. -/
theorem leValue_append (low high : List Byte) :
    leValue (low ++ high) = leValue low + 256 ^ low.length * leValue high := by
  induction low with
  | nil => simp [leValue]
  | cons byte rest inductionHypothesis =>
      rw [List.cons_append, leValue, leValue, inductionHypothesis,
        List.length_cons, Nat.pow_succ']
      ring

/-- Multiplying by a power of 256 puts zero bytes in front. -/
theorem leBytes_shift (shift width value : Nat) :
    leBytes (shift + width) (256 ^ shift * value) =
      List.replicate shift 0 ++ leBytes width value := by
  induction shift with
  | zero => simp
  | succ shift inductionHypothesis =>
      have tail :
          256 ^ (shift + 1) * value / 256 = 256 ^ shift * value := by
        rw [Nat.pow_succ', Nat.mul_assoc]
        exact Nat.mul_div_cancel_left _ (by decide)
      have head : UInt8.ofNat (256 ^ (shift + 1) * value) = 0 := by
        apply UInt8.toNat_inj.mp
        rw [UInt8.toNat_ofNat', Nat.pow_succ', Nat.mul_assoc]
        exact Nat.mul_mod_right _ _
      rw [Nat.add_right_comm, leBytes, head, tail, inductionHypothesis]
      rfl

/-- A byte of a range that was just written. -/
theorem writeBytes_readBytes_apply
    (memory source : Memory)
    {address first count offset : Nat}
    (inside : offset < count) :
    writeBytes memory address (readBytes source first count)
        (address + offset) =
      source (first + offset) := by
  simp [writeBytes, inside, readBytes]

namespace AgreeOn

theorem refl (memory : Memory) (first last : Nat) :
    AgreeOn memory memory first last :=
  fun _ _ _ => rfl

theorem symm
    {left right : Memory}
    {first last : Nat}
    (agree : AgreeOn left right first last) :
    AgreeOn right left first last :=
  fun location lower upper => (agree location lower upper).symm

theorem trans
    {left middle right : Memory}
    {first last : Nat}
    (leftAgree : AgreeOn left middle first last)
    (rightAgree : AgreeOn middle right first last) :
    AgreeOn left right first last :=
  fun location lower upper =>
    (leftAgree location lower upper).trans
      (rightAgree location lower upper)

/-- Agreement restricts to smaller ranges. -/
theorem mono
    {left right : Memory}
    {first last innerFirst innerLast : Nat}
    (agree : AgreeOn left right first last)
    (lower : first ≤ innerFirst)
    (upper : innerLast ≤ last) :
    AgreeOn left right innerFirst innerLast :=
  fun location above below =>
    agree location (by omega) (by omega)

end AgreeOn

namespace ConstantOn

/-- A constant range restricts to smaller ranges. -/
theorem mono
    {memory : Memory}
    {value : Byte}
    {first last innerFirst innerLast : Nat}
    (constant : ConstantOn memory value first last)
    (lower : first ≤ innerFirst)
    (upper : innerLast ≤ last) :
    ConstantOn memory value innerFirst innerLast :=
  fun location above below =>
    constant location (by omega) (by omega)

/-- Agreeing memories are constant on the same ranges. -/
theorem congr
    {left right : Memory}
    {value : Byte}
    {first last : Nat}
    (constant : ConstantOn right value first last)
    (agree : AgreeOn left right first last) :
    ConstantOn left value first last :=
  fun location lower upper =>
    (agree location lower upper).trans (constant location lower upper)

/-- Reading a constant range gives a constant list. -/
theorem readBytes_eq
    {memory : Memory}
    {value : Byte}
    {address count last : Nat}
    (constant : ConstantOn memory value address last)
    (inside : address + count ≤ last) :
    readBytes memory address count = List.replicate count value := by
  apply List.ext_getElem
  · simp
  · intro offset offsetRead _
    have bound : offset < count := by simpa using offsetRead
    simpa [readBytes] using
      constant (address + offset) (by omega) (by omega)

end ConstantOn

end ByteMemory
