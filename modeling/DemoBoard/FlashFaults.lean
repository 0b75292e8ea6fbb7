import DemoBoard.FlashErase

namespace DemoBoard

open ByteMemory

/-!
# Program operations that fail

A list of outcomes says which of the next program operations of the hardware
fail.  A write over an erased range is complete when none of its operations
fails, and otherwise stops at the first one that does.
-/

/-- None of the next operations fails. -/
def Works (faults : List Bool) (count : Nat) : Prop :=
  ∀ operation, operation < count → faults[operation]? ≠ some true

/-- The first operation that fails. -/
structure FailsAt (faults : List Bool) (operation : Nat) : Prop where
  before : Works faults operation
  fails : faults[operation]? = some true

section Faults

variable {faults : List Bool}
variable {count more operation : Nat}

theorem works_nil (count : Nat) : Works [] count := by
  intro operation _
  simp

theorem Works.mono
    (works : Works faults count)
    (fewer : more ≤ count) :
    Works faults more :=
  fun operation inside => works operation (Nat.lt_of_lt_of_le inside fewer)

/-- The operations after the first ones. -/
theorem Works.drop
    (works : Works faults (count + more)) :
    Works (faults.drop count) more := by
  intro operation inside
  rw [List.getElem?_drop]
  exact works (count + operation) (Nat.add_lt_add_left inside count)

theorem FailsAt.drop
    (failsAt : FailsAt faults (count + operation)) :
    FailsAt (faults.drop count) operation := by
  refine ⟨failsAt.before.drop, ?_⟩
  rw [List.getElem?_drop]
  exact failsAt.fails

/-- Without faults nothing fails. -/
theorem FailsAt.absurd_nil
    {result : Prop}
    (failsAt : FailsAt faults operation)
    (none : faults = []) :
    result := by
  have fails := failsAt.fails
  rw [none] at fails
  cases fails

/-- Either nothing fails or there is a first operation that fails. -/
theorem works_or_failsAt (faults : List Bool) (count : Nat) :
    Works faults count ∨
      ∃ operation < count, FailsAt faults operation := by
  induction count with
  | zero => exact Or.inl fun _ impossible => absurd impossible (by omega)
  | succ count inductionHypothesis =>
      rcases inductionHypothesis with works | ⟨first, inside, failsAt⟩
      · by_cases fails : faults[count]? = some true
        · exact Or.inr ⟨count, Nat.lt_succ_self count, works, fails⟩
        · refine Or.inl fun operation inside => ?_
          rcases Nat.lt_succ_iff_lt_or_eq.mp inside with earlier | rfl
          · exact works operation earlier
          · exact fails
      · exact Or.inr ⟨first, Nat.lt_succ_of_lt inside, failsAt⟩

end Faults

namespace Flash

/-- A pattern of program faults. -/
def withFaults (flash : Flash) (faults : List Bool) : Flash :=
  { flash with programFaults := faults }

/-- The first double words of a buffer are programmed. -/
def programmed
    (flash : Flash) (buffer : Memory) (address offset count : Nat)
    (faults : List Bool) : Flash :=
  { flash with
    memory :=
      applyEffects flash.memory
        (programEffects buffer address offset count)
    history :=
      flash.history ++ programEffects buffer address offset count
    programFaults := faults }

section Program

variable {flash : Flash}
variable {faults : List Bool}
variable {address : Nat}

/-- Programming a double word before the others. -/
theorem programmed_succ
    (buffer : Memory)
    (offset count : Nat)
    (faults rest : List Bool) :
    (flash.programmed buffer address offset 1 faults).programmed buffer
        (address + 8) (offset + 8) count rest =
      flash.programmed buffer address offset (count + 1) rest := by
  simp only [programmed, programEffects_succ]
  simp [programEffects]

/-- An operation that does not fail. -/
theorem halProgram_works
    (buffer : Memory)
    (offset : Nat)
    (works : Works faults 1)
    (erased : isErasedDoubleWord flash.memory address = true) :
    (flash.withFaults faults).halProgram address
        (loadDoubleWord buffer offset) =
      (flash.programmed buffer address offset 1 (faults.drop 1), true) := by
  have none : faults.headD false = false := by
    cases faults with
    | nil => rfl
    | cons first rest =>
        cases first with
        | false => rfl
        | true => exact absurd rfl (works 0 Nat.zero_lt_one)
  have tail : faults.drop 1 = faults.tail := List.drop_one
  simp only [halProgram, withFaults, none, erased, tail, programmed]
  rfl

/-- An operation that fails. -/
theorem halProgram_fails
    (buffer : Memory)
    (offset : Nat)
    (data : BitVec 64)
    (failsAt : FailsAt faults 0) :
    (flash.withFaults faults).halProgram address data =
      (flash.programmed buffer address offset 0 (faults.drop 1),
        false) := by
  have fails : faults.headD false = true := by
    have first := failsAt.fails
    cases faults with
    | nil => cases first
    | cons head rest => exact Option.some.inj first
  have tail : faults.drop 1 = faults.tail := List.drop_one
  have nothing : programEffects buffer address offset 0 = [] := rfl
  simp only [halProgram, withFaults, fails, true_or, if_true, tail,
    programmed, nothing, applyEffects_nil, List.append_nil]

/-- The first operation of a loop does not fail. -/
theorem writeLoop_first
    (buffer : Memory)
    (offset count : Nat)
    (erased :
      ConstantOn flash.memory erasedByte address
        (address + 8 * (count + 1 + 1)))
    (works : Works faults 1) :
    (flash.withFaults faults).writeLoop address buffer offset
        (offset + 8 * (count + 1 + 1)) =
      ((flash.programmed buffer address offset 1 []).withFaults
          (faults.drop 1)).writeLoop (address + 8) buffer (offset + 8)
        (offset + 8 + 8 * (count + 1)) := by
  have erasedWord := isErasedDoubleWord_of_constantOn erased (by omega)
  have data :
      dataToProgram buffer offset (offset + 8 * (count + 1 + 1)) =
        loadDoubleWord buffer offset := by
    rw [dataToProgram, if_neg (by omega)]
  rw [writeLoop, data, halProgram_works buffer offset works erasedWord]
  simp only [reduceCtorEq, ↓reduceIte]
  rw [if_pos (by omega), show offset + 8 * (count + 1 + 1) =
    offset + 8 + 8 * (count + 1) by omega]
  rfl

/-- The rest of an erased range. -/
theorem erased_rest
    (buffer : Memory)
    (offset count : Nat)
    (erased :
      ConstantOn flash.memory erasedByte address
        (address + 8 * (count + 1 + 1))) :
    ConstantOn (flash.programmed buffer address offset 1 faults).memory
      erasedByte (address + 8) (address + 8 + 8 * (count + 1)) := by
  have rest := erased.mono (Nat.le_add_right address 8) (Nat.le_refl _)
  rw [programmed, applyEffects_programEffects]
  exact (rest.congr (writeBytes_agreeOn flash.memory (by simp))).mono
    (Nat.le_refl _) (by omega)

/-- A loop in which no operation fails. -/
theorem writeLoop_works
    (buffer : Memory)
    (offset count : Nat)
    (erased :
      ConstantOn flash.memory erasedByte address
        (address + 8 * (count + 1)))
    (works : Works faults (count + 1)) :
    (flash.withFaults faults).writeLoop address buffer offset
        (offset + 8 * (count + 1)) =
      (flash.programmed buffer address offset (count + 1)
        (faults.drop (count + 1)), true) := by
  induction count generalizing flash faults address offset with
  | zero =>
      have erasedWord := isErasedDoubleWord_of_constantOn erased (by omega)
      have data :
          dataToProgram buffer offset (offset + 8 * (0 + 1)) =
            loadDoubleWord buffer offset := by
        rw [dataToProgram, if_neg (by omega)]
      rw [writeLoop, data, halProgram_works buffer offset works erasedWord]
      simp
  | succ count inductionHypothesis =>
      rw [writeLoop_first buffer offset count erased
        (works.mono (by omega))]
      rw [inductionHypothesis (offset + 8) (erased_rest buffer offset count
        erased) (Works.drop (by rwa [Nat.add_comm 1])),
        programmed_succ, List.drop_drop, Nat.add_comm 1]

/-- A loop stops at the first operation that fails. -/
theorem writeLoop_fails
    (buffer : Memory)
    (offset count : Nat)
    {operation : Nat}
    (erased :
      ConstantOn flash.memory erasedByte address
        (address + 8 * (count + 1)))
    (inside : operation ≤ count)
    (failsAt : FailsAt faults operation) :
    (flash.withFaults faults).writeLoop address buffer offset
        (offset + 8 * (count + 1)) =
      (flash.programmed buffer address offset operation
        (faults.drop (operation + 1)), false) := by
  induction count generalizing flash faults address offset operation with
  | zero =>
      obtain rfl : operation = 0 := by omega
      rw [writeLoop, halProgram_fails buffer offset _ failsAt]
      rfl
  | succ count inductionHypothesis =>
      cases operation with
      | zero =>
          rw [writeLoop, halProgram_fails buffer offset _ failsAt]
          rfl
      | succ operation =>
          have later : FailsAt (faults.drop 1) operation :=
            FailsAt.drop (by rwa [Nat.add_comm 1])
          rw [writeLoop_first buffer offset count erased
            (failsAt.before.mono (by omega))]
          rw [inductionHypothesis (offset + 8) (erased_rest buffer offset
            count erased) (by omega) later, programmed_succ,
            List.drop_drop, Nat.add_comm 1]

/-- The state of the driver after some double words of a write. -/
theorem written_programmed
    (buffer : Memory)
    (count : Nat)
    (faults : List Bool) :
    { flash.programmed buffer address 0 count faults with
      semaphoreLocked := false } =
      (flash.written address buffer count).withFaults faults := by
  simp only [programmed, written, withFaults, applyEffects_programEffects]

/-- What a write that succeeds without faults does with faults. -/
theorem write_withFaults
    {after : Flash}
    {buffer : Memory}
    {count : Nat}
    (idle : flash.Idle)
    (aligned : address % 8 = 0)
    (wrote :
      flash.write address buffer (8 * (count + 1)) = .ok (after, true)) :
    after = flash.written address buffer (count + 1) ∧
      (Works faults (count + 1) →
        (flash.withFaults faults).write address buffer
            (8 * (count + 1)) =
          .ok (after.withFaults (faults.drop (count + 1)), true)) ∧
      ∀ operation, operation ≤ count → FailsAt faults operation →
        (flash.withFaults faults).write address buffer
            (8 * (count + 1)) =
          .ok
            ((flash.written address buffer operation).withFaults
              (faults.drop (operation + 1)), false) := by
  have erased := (write_ok idle aligned wrote).2 rfl
  have shape : ∀ flash : Flash,
      flash.operationComplete = false →
      ¬ ¬ (minWritableAddress ≤ address ∧
        address + 8 * (count + 1) - 1 ≤ maxWritableAddress) →
      flash.write address buffer (8 * (count + 1)) =
        .ok
          ({ (flash.writeLoop address buffer 0 (8 * (count + 1))).1 with
              semaphoreLocked := false },
            (flash.writeLoop address buffer 0 (8 * (count + 1))).2) := by
    intro flash complete range
    rw [write, if_neg range, if_neg (by simp [complete]),
      if_neg (by omega)]
  have range :
      ¬ ¬ (minWritableAddress ≤ address ∧
        address + 8 * (count + 1) - 1 ≤ maxWritableAddress) := by
    intro outside
    rw [write, if_pos outside] at wrote
    cases wrote
  have loop := writeLoop_erased buffer 0 count idle.programFaults erased
  rw [Nat.zero_add] at loop
  rw [shape flash idle.operationComplete range, loop] at wrote
  have after_eq : after = flash.written address buffer (count + 1) := by
    cases wrote
    rfl
  refine ⟨after_eq, ?_, ?_⟩
  · intro works
    have faulty := writeLoop_works buffer 0 count erased works
    rw [Nat.zero_add] at faulty
    rw [shape (flash.withFaults faults) idle.operationComplete range,
      faulty, written_programmed, after_eq]
  · intro operation inside failsAt
    have faulty :=
      writeLoop_fails buffer 0 count erased inside failsAt
    rw [Nat.zero_add] at faulty
    rw [shape (flash.withFaults faults) idle.operationComplete range,
      faulty, written_programmed]

/-- A write to a double word that is not erased stops at once. -/
theorem write_programmed
    {count : Nat}
    (buffer : Memory)
    (idle : flash.Idle)
    (aligned : address % 8 = 0)
    (lower : minWritableAddress ≤ address)
    (upper : address + count - 1 ≤ maxWritableAddress)
    (notErased : isErasedDoubleWord flash.memory address = false) :
    (flash.withFaults faults).write address buffer count =
      .ok
        ({ flash with
            programFaults := faults.tail
            semaphoreLocked := false }, false) := by
  have complete := idle.operationComplete
  have operation :
      (flash.withFaults faults).halProgram address
          (dataToProgram buffer 0 count) =
        ({ flash with programFaults := faults.tail }, false) := by
    simp [halProgram, withFaults, notErased]
  rw [write, if_neg (not_not_intro ⟨lower, upper⟩),
    if_neg (by simp [withFaults, complete]), if_neg (by omega)]
  rw [writeLoop, operation]
  rfl

end Program

end Flash

end DemoBoard
