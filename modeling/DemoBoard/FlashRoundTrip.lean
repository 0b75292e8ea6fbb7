import DemoBoard.FlashOperations

namespace DemoBoard

open ByteMemory

/-!
# Write and read back

A write of `nrOfBytes` bytes followed by a read of as many.  Whole double
words travel unchanged.  The double word that the buffer fills only in part
is masked on the side of its low bytes, which come first in memory: the
first bytes of that word are cleared and the ones behind the buffer are
programmed.
-/

namespace Flash

/-- The mask covers the bits of the excess bytes. -/
theorem excessMask_toNat
    {excess : Nat}
    (partialWord : excess < 8) :
    ((1#64 <<< (8 * excess)) - 1#64).toNat = 2 ^ (8 * excess) - 1 := by
  have positive : 0 < 2 ^ (8 * excess) := Nat.two_pow_pos _
  have bound : 2 ^ (8 * excess) ≤ 2 ^ 56 :=
    Nat.pow_le_pow_right (by decide) (by omega)
  rw [BitVec.toNat_sub, BitVec.toNat_shiftLeft, Nat.shiftLeft_eq]
  simp only [BitVec.toNat_ofNat]
  omega

/-- Clearing the excess keeps the high bits of the double word. -/
theorem clearExcess_toNat
    (data : BitVec 64)
    {excess : Nat}
    (partialWord : excess < 8) :
    (clearExcess data excess).toNat =
      256 ^ excess * (data.toNat / 256 ^ excess) := by
  have power : 256 ^ excess = 2 ^ (8 * excess) := by
    rw [Nat.pow_mul]
  rw [power]
  apply Nat.eq_of_testBit_eq
  intro bit
  rw [Nat.testBit_two_pow_mul, Nat.testBit_div_two_pow, clearExcess,
    BitVec.testBit_toNat, BitVec.getLsbD_and, BitVec.getLsbD_not,
    ← BitVec.testBit_toNat, ← BitVec.testBit_toNat,
    excessMask_toNat partialWord, Nat.testBit_two_pow_sub_one]
  by_cases low : bit < 8 * excess
  · simp [low]
  · rw [Nat.sub_add_cancel (by omega)]
    by_cases inside : bit < 64
    · simp [low, inside, Nat.le_of_not_lt low]
    · have none : data.toNat.testBit bit = false :=
        BitVec.getLsbD_of_ge data bit (by omega)
      simp [none]

/-- Clearing the excess zeroes the first bytes in memory. -/
theorem doubleWordBytes_clearExcess
    (buffer : Memory)
    (offset : Nat)
    {excess : Nat}
    (partialWord : excess < 8) :
    doubleWordBytes (clearExcess (loadDoubleWord buffer offset) excess) =
      List.replicate excess 0 ++
        readBytes buffer (offset + excess) (8 - excess) := by
  have split :
      readBytes buffer offset 8 =
        readBytes buffer offset excess ++
          readBytes buffer (offset + excess) (8 - excess) := by
    rw [← readBytes_add, Nat.add_sub_cancel' (by omega)]
  have loaded :
      (loadDoubleWord buffer offset).toNat =
        leValue (readBytes buffer offset 8) := by
    have bound := leValue_lt (readBytes buffer offset 8)
    rw [length_readBytes] at bound
    rw [loadDoubleWord, BitVec.toNat_ofNat, Nat.mod_eq_of_lt (by omega)]
  have low := leValue_lt (readBytes buffer offset excess)
  rw [length_readBytes] at low
  have high :
      leValue (readBytes buffer offset 8) / 256 ^ excess =
        leValue (readBytes buffer (offset + excess) (8 - excess)) := by
    rw [split, leValue_append, length_readBytes, Nat.add_comm,
      Nat.mul_add_div (Nat.pow_pos (by decide)), Nat.div_eq_of_lt low,
      Nat.add_zero]
  have encoded :=
    leBytes_leValue (readBytes buffer (offset + excess) (8 - excess))
  rw [length_readBytes] at encoded
  rw [doubleWordBytes, clearExcess_toNat _ partialWord, loaded, high,
    show leBytes 8 = leBytes (excess + (8 - excess)) by
      rw [Nat.add_sub_cancel' (by omega)],
    leBytes_shift, encoded]

/--
The bytes a write stores, by their offset.  In a last double word that holds
`nrOfBytes % 8` bytes of the buffer, the other ones count from its start.
-/
def storedByte (buffer : Memory) (nrOfBytes : Nat) : Memory :=
  fun offset =>
    if 8 * (nrOfBytes / 8) ≤ offset ∧
        offset + nrOfBytes % 8 < 8 * (nrOfBytes / 8) + 8 ∧
        nrOfBytes % 8 ≠ 0 then
      0
    else
      buffer offset

/-- `nrOfBytes` rounded up to whole double words. -/
def storedLength (nrOfBytes : Nat) : Nat := 8 * ((nrOfBytes + 7) / 8)

/-- What `Flash_Write` programs at one offset. -/
theorem doubleWordBytes_dataToProgram
    (buffer : Memory)
    {offset nrOfBytes : Nat}
    (wordOffset : offset % 8 = 0)
    (within : offset < nrOfBytes) :
    doubleWordBytes (dataToProgram buffer offset nrOfBytes) =
      readBytes (storedByte buffer nrOfBytes) offset 8 := by
  rw [dataToProgram]
  by_cases whole : offset + 8 ≤ nrOfBytes
  · rw [if_neg (by omega), doubleWordBytes_loadDoubleWord]
    apply readBytes_congr
    intro location lower upper
    rw [storedByte, if_neg (by omega)]
  · have partialWord : offset + 8 - nrOfBytes < 8 := by omega
    rw [if_pos (by omega), doubleWordBytes_clearExcess _ _ partialWord]
    have split :=
      readBytes_add (storedByte buffer nrOfBytes) offset
        (offset + 8 - nrOfBytes) (8 - (offset + 8 - nrOfBytes))
    rw [Nat.add_sub_cancel' (by omega)] at split
    rw [split]
    congr 1
    · symm
      have cleared :
          ConstantOn (storedByte buffer nrOfBytes) 0 offset
            (offset + (offset + 8 - nrOfBytes)) := by
        intro location lower upper
        rw [storedByte, if_pos (by omega)]
      exact cleared.readBytes_eq (Nat.le_refl _)
    · apply readBytes_congr
      intro location lower upper
      rw [storedByte, if_neg (by omega)]

/-- A program operation that succeeds stores its double word. -/
theorem halProgram_stored
    {flash result : Flash}
    {address : Nat}
    {data : BitVec 64}
    (programmed : flash.halProgram address data = (result, true)) :
    result.memory =
      writeBytes flash.memory address (doubleWordBytes data) := by
  unfold halProgram at programmed
  dsimp only at programmed
  split at programmed
  · cases programmed
  · cases programmed
    rfl

/-- The loop of `Flash_Write` stores the rest of the double words. -/
theorem writeLoop_stored
    {flash result : Flash}
    {buffer : Memory}
    {address offset nrOfBytes : Nat}
    (wordOffset : offset % 8 = 0)
    (within : offset < nrOfBytes)
    (finished :
      flash.writeLoop address buffer offset nrOfBytes = (result, true)) :
    result.memory =
      writeBytes flash.memory address
        (readBytes (storedByte buffer nrOfBytes) offset
          (storedLength nrOfBytes - offset)) := by
  fun_induction writeLoop flash address buffer offset nrOfBytes with
  | case1 flash address offset outcome failed =>
      rw [finished] at failed
      cases failed
  | case2 flash address offset outcome programmed more
      inductionHypothesis =>
      have stored : flash.halProgram address
          (dataToProgram buffer offset nrOfBytes) = (outcome.1, true) :=
        Prod.ext rfl (by simpa using programmed)
      have rest := inductionHypothesis (by omega) more finished
      have length :
          storedLength nrOfBytes - offset =
            8 + (storedLength nrOfBytes - (offset + 8)) := by
        simp only [storedLength]
        omega
      rw [rest, halProgram_stored stored,
        doubleWordBytes_dataToProgram buffer wordOffset within, length,
        readBytes_add, writeBytes_append, length_readBytes]
  | case3 flash address offset outcome programmed done =>
      have length : storedLength nrOfBytes - offset = 8 := by
        simp only [storedLength]
        omega
      rw [halProgram_stored finished,
        doubleWordBytes_dataToProgram buffer wordOffset within, length]

/--
The do-while loop of `Flash_Read` with its 16 bit counter: `none` when the
loop takes more than the given number of turns.
-/
def readTurns
    (memory : Memory) (nrOfBytes : UInt16) :
    Nat → Nat → UInt16 → Option (List Byte)
  | 0, _, _ => none
  | turns + 1, readAddress, bytesRead =>
      let data64 := readBytes memory readAddress 8
      let copied :=
        data64.take (min 8 (nrOfBytes.toNat - bytesRead.toNat))
      let bytesRead := bytesRead + 8
      if bytesRead < nrOfBytes then
        (readTurns memory nrOfBytes turns (readAddress + 8) bytesRead).map
          (copied ++ ·)
      else
        some copied

/-- The do-while loop of `Flash_Write` with its 16 bit counter. -/
def writeTurns
    (buffer : Memory) (nrOfBytes : UInt16) :
    Nat → Flash → Nat → Nat → UInt16 → Option (Flash × Bool)
  | 0, _, _, _, _ => none
  | turns + 1, flash, writeAddress, offset, bytesWritten =>
      let data := loadDoubleWord buffer offset
      let bytesWritten := bytesWritten + 8
      let data :=
        if nrOfBytes < bytesWritten then
          clearExcess data (bytesWritten.toNat - nrOfBytes.toNat)
        else
          data
      let outcome := flash.halProgram writeAddress data
      if outcome.2 = false then
        some outcome
      else if bytesWritten < nrOfBytes then
        writeTurns buffer nrOfBytes turns outcome.1 (writeAddress + 8)
          (offset + 8) bytesWritten
      else
        some outcome

/-- The longest transfer whose loop ends. -/
def longestTransfer : Nat := 65528

/-- The counter advances without wrapping up to `longestTransfer`. -/
theorem counter_advances
    {counter : UInt16}
    (room : counter.toNat + 8 ≤ longestTransfer) :
    (counter + 8).toNat = counter.toNat + 8 := by
  rw [UInt16.toNat_add]
  simp only [longestTransfer] at room
  exact Nat.mod_eq_of_lt (by simp; omega)

/-- The read loop ends, and its counter never wraps on the way. -/
theorem readTurns_ends
    (memory : Memory)
    {nrOfBytes bytesRead : UInt16}
    {address turns : Nat}
    (short : nrOfBytes.toNat ≤ longestTransfer)
    (wordOffset : bytesRead.toNat % 8 = 0)
    (within : bytesRead < nrOfBytes)
    (enough : nrOfBytes.toNat ≤ bytesRead.toNat + 8 * turns) :
    readTurns memory nrOfBytes turns address bytesRead =
      some (readLoop memory address bytesRead.toNat nrOfBytes.toNat) := by
  rw [UInt16.lt_iff_toNat_lt] at within
  induction turns generalizing address bytesRead with
  | zero => omega
  | succ turns inductionHypothesis =>
      have advanced : (bytesRead + 8).toNat = bytesRead.toNat + 8 :=
        counter_advances (by simp only [longestTransfer] at *; omega)
      rw [readTurns, readLoop]
      simp only [UInt16.lt_iff_toNat_lt, advanced]
      by_cases more : bytesRead.toNat + 8 < nrOfBytes.toNat
      · rw [if_pos more, if_pos more,
          inductionHypothesis (by omega) (by omega) (by omega), advanced]
        rfl
      · rw [if_neg more, if_neg more, List.append_nil]

/-- A longer read never ends: its counter cannot reach the length. -/
theorem readTurns_endless
    (memory : Memory)
    {nrOfBytes bytesRead : UInt16}
    (long : longestTransfer < nrOfBytes.toNat)
    (wordOffset : bytesRead.toNat % 8 = 0)
    (address turns : Nat) :
    readTurns memory nrOfBytes turns address bytesRead = none := by
  simp only [longestTransfer] at long
  induction turns generalizing address bytesRead with
  | zero => rfl
  | succ turns inductionHypothesis =>
      have wrapped : (bytesRead + 8).toNat % 8 = 0 ∧
          (bytesRead + 8).toNat ≤ longestTransfer := by
        have bound := bytesRead.toNat_lt
        rw [UInt16.toNat_add]
        simp only [longestTransfer, UInt16.reduceToNat]
        omega
      rw [readTurns, if_pos, inductionHypothesis wrapped.1]
      · rfl
      · rw [UInt16.lt_iff_toNat_lt]
        exact Nat.lt_of_le_of_lt wrapped.2 long

/-- The write loop ends, and its counter never wraps on the way. -/
theorem writeTurns_ends
    (buffer : Memory)
    {flash : Flash}
    {nrOfBytes bytesWritten : UInt16}
    {address turns : Nat}
    (short : nrOfBytes.toNat ≤ longestTransfer)
    (wordOffset : bytesWritten.toNat % 8 = 0)
    (within : bytesWritten < nrOfBytes)
    (enough : nrOfBytes.toNat ≤ bytesWritten.toNat + 8 * turns) :
    writeTurns buffer nrOfBytes turns flash address bytesWritten.toNat
        bytesWritten =
      some (flash.writeLoop address buffer bytesWritten.toNat
        nrOfBytes.toNat) := by
  rw [UInt16.lt_iff_toNat_lt] at within
  induction turns generalizing flash address bytesWritten with
  | zero => omega
  | succ turns inductionHypothesis =>
      have advanced : (bytesWritten + 8).toNat = bytesWritten.toNat + 8 :=
        counter_advances (by simp only [longestTransfer] at *; omega)
      have data :
          (if nrOfBytes.toNat < bytesWritten.toNat + 8 then
            clearExcess (loadDoubleWord buffer bytesWritten.toNat)
              (bytesWritten.toNat + 8 - nrOfBytes.toNat)
          else
            loadDoubleWord buffer bytesWritten.toNat) =
          dataToProgram buffer bytesWritten.toNat nrOfBytes.toNat := rfl
      rw [writeTurns, writeLoop]
      simp only [UInt16.lt_iff_toNat_lt, advanced, data]
      by_cases failed :
          (flash.halProgram address
            (dataToProgram buffer bytesWritten.toNat
              nrOfBytes.toNat)).2 = false
      · rw [if_pos failed, if_pos failed]
      · rw [if_neg failed, if_neg failed]
        by_cases more : bytesWritten.toNat + 8 < nrOfBytes.toNat
        · rw [if_pos more, if_pos more, ← advanced,
            inductionHypothesis (by omega) (by omega) (by omega)]
        · rw [if_neg more, if_neg more]

/--
A write that went from `flash` to `result` can be read back, is padded with 0
up to the next double word and touched nothing else; both loops end.
-/
structure RoundTrip
    (flash result : Flash)
    (address : Nat)
    (buffer : Memory)
    (nrOfBytes : UInt16) : Prop where
  readBack :
    result.read address nrOfBytes.toNat =
      some (readBytes buffer 0 nrOfBytes.toNat)
  padded :
    ConstantOn result.memory 0 (address + nrOfBytes.toNat)
      (address + storedLength nrOfBytes.toNat)
  unchanged :
    ∀ location,
      location < address ∨
        address + storedLength nrOfBytes.toNat ≤ location →
      result.memory location = flash.memory location
  writeEnds :
    ∃ turns,
      writeTurns buffer nrOfBytes turns flash address 0 0 =
        some (flash.writeLoop address buffer 0 nrOfBytes.toNat)
  readEnds :
    ∃ turns,
      readTurns result.memory nrOfBytes turns address 0 =
        result.read address nrOfBytes.toNat

/--
The double word the buffer fills in part looks the same when its bytes are
counted from its end: it holds 0 where the two differ.
-/
def LastWordClear (buffer : Memory) (nrOfBytes : Nat) : Prop :=
  nrOfBytes % 8 = 0 ∨
    ∀ i, i < 8 →
      i < min (nrOfBytes % 8) (8 - nrOfBytes % 8) ∨
        max (nrOfBytes % 8) (8 - nrOfBytes % 8) ≤ i →
      buffer (8 * (nrOfBytes / 8) + i) = 0

/-- The condition says where the stored bytes are the expected ones. -/
theorem lastWordClear_iff
    (buffer : Memory)
    (nrOfBytes : Nat) :
    LastWordClear buffer nrOfBytes ↔
      (∀ offset, offset < nrOfBytes →
        storedByte buffer nrOfBytes offset = buffer offset) ∧
      ∀ offset, nrOfBytes ≤ offset → offset < storedLength nrOfBytes →
        storedByte buffer nrOfBytes offset = 0 := by
  constructor
  · intro clear
    refine ⟨fun offset inside => ?_, fun offset behind inside => ?_⟩
    · rw [storedByte]
      split
      · next cleared =>
          rcases clear with whole | zero
          · exact absurd whole cleared.2.2
          · have byte := zero (offset - 8 * (nrOfBytes / 8))
              (by omega) (Or.inl (by omega))
            rw [Nat.add_sub_cancel' cleared.1] at byte
            exact byte.symm
      · rfl
    · rw [storedByte]
      split
      · rfl
      · next kept =>
          simp only [storedLength] at inside
          rcases clear with whole | zero
          · omega
          · have byte := zero (offset - 8 * (nrOfBytes / 8))
              (by omega) (Or.inr (by omega))
            rw [Nat.add_sub_cancel' (by omega)] at byte
            exact byte
  · rintro ⟨same, padded⟩
    by_cases whole : nrOfBytes % 8 = 0
    · exact Or.inl whole
    · refine Or.inr fun i inWord position => ?_
      rcases position with front | back
      · have byte := same (8 * (nrOfBytes / 8) + i) (by omega)
        rw [storedByte, if_pos (by omega)] at byte
        exact byte.symm
      · have byte := padded (8 * (nrOfBytes / 8) + i) (by omega)
          (by simp only [storedLength]; omega)
        rw [storedByte, if_neg (by omega)] at byte
        exact byte

/-- What a successful `Flash_Write` leaves in the flash array. -/
theorem write_stored
    {flash result : Flash}
    {address nrOfBytes : Nat}
    {buffer : Memory}
    (positive : 1 ≤ nrOfBytes)
    (written : flash.write address buffer nrOfBytes = .ok (result, true)) :
    address % 8 = 0 ∧
      result.memory =
        writeBytes flash.memory address
          (readBytes (storedByte buffer nrOfBytes) 0
            (storedLength nrOfBytes)) := by
  unfold write at written
  split at written
  · cases written
  · split at written
    · cases written
    · split at written
      · cases written
      · next aligned =>
          injection written with same
          obtain ⟨sameFlash, finished⟩ := Prod.mk.inj same
          have stored :=
            writeLoop_stored rfl positive (Prod.ext rfl finished)
          rw [← sameFlash]
          exact ⟨not_not.mp aligned, stored⟩

/-- A write reads back exactly when its last double word is clear. -/
theorem write_roundTrip
    {flash result : Flash}
    {address : Nat}
    {buffer : Memory}
    {nrOfBytes : UInt16}
    (positive : 1 ≤ nrOfBytes.toNat)
    (short : nrOfBytes.toNat ≤ longestTransfer)
    (written :
      flash.write address buffer nrOfBytes.toNat = .ok (result, true)) :
    RoundTrip flash result address buffer nrOfBytes ↔
      LastWordClear buffer nrOfBytes.toNat := by
  obtain ⟨aligned, stored⟩ := write_stored positive written
  have byte :
      ∀ offset, offset < storedLength nrOfBytes.toNat →
        result.memory (address + offset) =
          storedByte buffer nrOfBytes.toNat offset := by
    intro offset inside
    rw [stored, writeBytes_readBytes_apply _ _ inside, Nat.zero_add]
  have covered :
      nrOfBytes.toNat ≤ storedLength nrOfBytes.toNat := by
    simp only [storedLength]
    omega
  have read := result.read_eq nrOfBytes.toNat aligned
  rw [lastWordClear_iff]
  constructor
  · intro roundTrip
    refine ⟨fun offset inside => ?_, fun offset behind inside => ?_⟩
    · have same :=
        Option.some.inj (read.symm.trans roundTrip.readBack)
      have atOffset := congrArg (·[offset]?) same
      rw [getElem?_readBytes _ inside, getElem?_readBytes _ inside,
        Nat.zero_add] at atOffset
      rw [← byte offset (by omega)]
      exact Option.some.inj atOffset
    · rw [← byte offset inside]
      exact roundTrip.padded _ (by omega) (by omega)
  · rintro ⟨same, padded⟩
    have start : (0 : UInt16) < nrOfBytes :=
      UInt16.lt_iff_toNat_lt.mpr positive
    refine
      { readBack := ?_, padded := ?_, unchanged := ?_,
        writeEnds := ⟨nrOfBytes.toNat, ?_⟩
        readEnds := ⟨nrOfBytes.toNat, ?_⟩ }
    · rw [read]
      congr 1
      apply List.map_congr_left
      intro offset member
      have inside := List.mem_range.mp member
      rw [byte offset (by omega), same offset inside, Nat.zero_add]
    · intro location lower upper
      obtain ⟨offset, rfl⟩ :=
        Nat.exists_eq_add_of_le (Nat.le_of_add_right_le lower)
      rw [byte offset (by omega)]
      exact padded offset (by omega) (by omega)
    · intro location apart
      rw [stored]
      exact writeBytes_agreeOn _
        (by rw [length_readBytes]; exact apart.imp id id)
        location (Nat.le_refl _) (Nat.lt_succ_self _)
    · exact writeTurns_ends buffer short rfl start (by simp; omega)
    · rw [Flash.read, if_neg (by omega)]
      exact readTurns_ends _ short rfl start (by simp; omega)

/-- A whole double word, written to an erased flash, reads back. -/
theorem write_roundTrip_doubleWord :
    ∃ result,
      (powerOn fun _ => erasedByte).write minWritableAddress
          (fun offset => UInt8.ofNat (offset + 1)) 8 =
        .ok (result, true) ∧
      RoundTrip (powerOn fun _ => erasedByte) result minWritableAddress
        (fun offset => UInt8.ofNat (offset + 1)) 8 := by
  have written :=
    write_erased (fun offset => UInt8.ofNat (offset + 1)) 0
      (idle_powerOn fun _ => erasedByte)
      (show minWritableAddress % 8 = 0 by decide)
      (Nat.le_refl _) (by decide) (fun _ _ _ => rfl)
  exact ⟨_, written,
    (@write_roundTrip _ _ _ _ 8 (by decide) (by decide) written).mpr
      (Or.inl rfl)⟩

/--
Four bytes 1, 2, 3, 4 in front of other data: the write succeeds, the read
returns zeroes and the padding holds the data behind the buffer.
-/
theorem write_partial_lost :
    ∃ result,
      (powerOn fun _ => erasedByte).write minWritableAddress
          (fun offset => UInt8.ofNat (offset + 1)) 4 =
        .ok (result, true) ∧
      result.read minWritableAddress 4 = some [0, 0, 0, 0] ∧
      readBytes result.memory (minWritableAddress + 4) 4 = [5, 6, 7, 8] ∧
      ¬ RoundTrip (powerOn fun _ => erasedByte) result minWritableAddress
        (fun offset => UInt8.ofNat (offset + 1)) 4 := by
  have accepted :
      ((powerOn fun _ => erasedByte).write minWritableAddress
        (fun offset => UInt8.ofNat (offset + 1)) 4).toOption.map
          (fun outcome =>
            (outcome.2, outcome.1.read minWritableAddress 4,
              readBytes outcome.1.memory (minWritableAddress + 4) 4)) =
        some (true, some [0, 0, 0, 0], [5, 6, 7, 8]) := by
    decide +kernel
  cases outcome :
      (powerOn fun _ => erasedByte).write minWritableAddress
        (fun offset => UInt8.ofNat (offset + 1)) 4 with
  | error failure =>
      rw [outcome] at accepted
      cases accepted
  | ok written =>
      rw [outcome] at accepted
      simp only [Except.toOption, Option.map_some, Option.some.injEq,
        Prod.mk.injEq] at accepted
      obtain ⟨succeeded, readBack, padding⟩ := accepted
      refine ⟨written.1, by rw [← succeeded], readBack, padding, ?_⟩
      intro roundTrip
      have lost := readBack.symm.trans roundTrip.readBack
      revert lost
      decide

end Flash

end DemoBoard
