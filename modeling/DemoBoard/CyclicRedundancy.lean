import Mathlib.Data.List.OfFn

namespace DemoBoard.CyclicRedundancy

/-!
# Cyclic redundancy checks

A shift register with feedback, of any width and for any polynomial, and the
disturbances of a message that it notices.  The leading term of the polynomial
is not written.
-/

/-- One bit goes into the register. -/
def feed {width : Nat} (polynomial crc : BitVec width) (bit : Bool) :
    BitVec width :=
  if (crc.msb ^^ bit) = true then
    (crc <<< 1) ^^^ polynomial
  else
    crc <<< 1

/-- The register after some bits. -/
def remainder {width : Nat} (polynomial crc : BitVec width)
    (bits : List Bool) : BitVec width :=
  bits.foldl (feed polynomial) crc

/-- The bits of a register, the most significant one first. -/
def bitsOf {width : Nat} (value : BitVec width) : List Bool :=
  List.ofFn fun place : Fin width => value.getMsbD place

/-- Bits that are flipped where there is a disturbance. -/
def disturb (bits errors : List Bool) : List Bool :=
  List.zipWith (· ^^ ·) bits errors

/-- The sum of the bits. -/
def parity (bits : List Bool) : Bool :=
  bits.foldr (· ^^ ·) false

/-- All disturbed bits are within a window. -/
def Burst (span : Nat) (errors : List Bool) : Prop :=
  ∃ before window behind,
    errors =
      List.replicate before false ++ window ++ List.replicate behind false ∧
    window.length ≤ span

/-- Two bits that are less than a length apart never cancel. -/
def Separates {width : Nat} (polynomial : BitVec width) (length : Nat) :
    Prop :=
  ∀ apart < length, 0 < apart →
    remainder polynomial polynomial (List.replicate apart false) ≠ polynomial

/-- At most three disturbed bits, or a burst as wide as the register. -/
def Noticeable (width : Nat) (errors : List Bool) : Prop :=
  errors.count true ≤ 3 ∨ Burst width errors

section Register

variable {width : Nat} {polynomial : BitVec width}

@[simp] theorem remainder_nil (crc : BitVec width) :
    remainder polynomial crc [] = crc :=
  rfl

@[simp] theorem remainder_cons
    (crc : BitVec width)
    (bit : Bool)
    (bits : List Bool) :
    remainder polynomial crc (bit :: bits) =
      remainder polynomial (feed polynomial crc bit) bits :=
  rfl

theorem remainder_append
    (crc : BitVec width)
    (bits more : List Bool) :
    remainder polynomial crc (bits ++ more) =
      remainder polynomial (remainder polynomial crc bits) more :=
  List.foldl_append

theorem shiftLeft_xor (left right : BitVec width) :
    (left ^^^ right) <<< 1 = (left <<< 1) ^^^ (right <<< 1) :=
  BitVec.shiftLeft_xor_distrib left right 1

/-- The register is linear. -/
theorem feed_xor
    (left right : BitVec width)
    (bit error : Bool) :
    feed polynomial (left ^^^ right) (bit ^^ error) =
      feed polynomial left bit ^^^ feed polynomial right error := by
  have cancel : polynomial ^^^ polynomial = 0#(width) := BitVec.xor_self
  have swapped : (left <<< 1) ^^^ polynomial ^^^
      ((right <<< 1) ^^^ polynomial) = (left <<< 1) ^^^ (right <<< 1) := by
    rw [BitVec.xor_assoc, ← BitVec.xor_assoc polynomial,
      BitVec.xor_comm polynomial (right <<< 1), BitVec.xor_assoc, cancel,
      BitVec.xor_zero]
  rw [feed, feed, feed, BitVec.msb_xor, shiftLeft_xor]
  cases left.msb <;> cases right.msb <;> cases bit <;> cases error <;>
    simp only [Bool.xor_false, Bool.xor_true, Bool.not_false, Bool.not_true,
      Bool.false_eq_true, if_true, if_false, swapped, BitVec.xor_assoc] <;>
    rw [BitVec.xor_comm polynomial]

theorem remainder_disturb
    {bits errors : List Bool}
    (sameLength : bits.length = errors.length)
    (left right : BitVec width) :
    remainder polynomial (left ^^^ right) (disturb bits errors) =
      remainder polynomial left bits ^^^
        remainder polynomial right errors := by
  induction bits generalizing errors left right with
  | nil =>
      obtain rfl := List.length_eq_zero_iff.mp sameLength.symm
      rfl
  | cons bit rest inductionHypothesis =>
      cases errors with
      | nil => cases sameLength
      | cons error errors =>
          rw [disturb, List.zipWith_cons_cons, remainder_cons, feed_xor]
          exact inductionHypothesis (Nat.succ.inj sameLength) _ _

/-- Nothing goes in and nothing comes out. -/
theorem remainder_zero (count : Nat) :
    remainder polynomial 0#(width) (List.replicate count false) =
      0#(width) := by
  induction count with
  | zero => rfl
  | succ count inductionHypothesis =>
      have still : feed polynomial 0#(width) false = 0#(width) := by
        rw [feed, BitVec.msb_zero]
        exact BitVec.zero_shiftLeft 1
      rw [List.replicate_succ, remainder_cons, still, inductionHypothesis]

end Register

/-! A message with its remainder leaves nothing in the register. -/

section Codeword

variable {width : Nat} {polynomial : BitVec width}

@[simp] theorem length_bitsOf (value : BitVec width) :
    (bitsOf value).length = width :=
  List.length_ofFn

theorem remainder_take_bitsOf
    (value : BitVec width)
    {count : Nat}
    (within : count ≤ width) :
    remainder polynomial value ((bitsOf value).take count) =
      value <<< count := by
  induction count with
  | zero => exact (BitVec.shiftLeft_zero value).symm
  | succ count inductionHypothesis =>
      have inside : count < (bitsOf value).length := by
        rw [length_bitsOf]
        omega
      have bit : (bitsOf value)[count] = value.getMsbD count :=
        List.getElem_ofFn _
      have same : (value <<< count).msb = value.getMsbD count := by
        rw [BitVec.msb, BitVec.getMsbD_shiftLeft, Nat.zero_add]
      rw [List.take_succ_eq_append_getElem inside, remainder_append,
        inductionHypothesis (by omega), bit, remainder_cons, remainder_nil,
        feed, same, Bool.xor_self, if_neg Bool.false_ne_true,
        ← BitVec.shiftLeft_add]

theorem remainder_bitsOf (value : BitVec width) :
    remainder polynomial value (bitsOf value) = 0#(width) := by
  have all := @remainder_take_bitsOf _ polynomial value _
    (Nat.le_refl width)
  rw [List.take_of_length_le (by rw [length_bitsOf])] at all
  rw [all]
  exact BitVec.shiftLeft_eq_zero (Nat.le_refl width)

/-- Only the remainder itself closes a message. -/
theorem remainder_append_bitsOf
    (crc : BitVec width)
    (message : List Bool) :
    remainder polynomial crc
      (message ++ bitsOf (remainder polynomial crc message)) = 0#(width) := by
  rw [remainder_append, remainder_bitsOf]

/-- What a disturbance leaves does not depend on the message. -/
theorem remainder_disturbed
    {crc : BitVec width}
    {bits errors : List Bool}
    (sameLength : bits.length = errors.length)
    (accepted : remainder polynomial crc bits = 0#(width)) :
    remainder polynomial crc (disturb bits errors) =
      remainder polynomial 0#(width) errors := by
  have linear := @remainder_disturb _ polynomial _ _ sameLength crc 0#(width)
  rw [BitVec.xor_zero, accepted, BitVec.zero_xor] at linear
  exact linear

end Codeword

/-! Registers one after the other. -/

section Rows

variable {width more : Nat}

theorem bitsOf_append (high : BitVec width) (low : BitVec more) :
    bitsOf (high ++ low) = bitsOf high ++ bitsOf low := by
  rw [bitsOf, List.ofFn_add]
  congr 1
  · refine congrArg List.ofFn (funext fun place => ?_)
    rw [BitVec.getMsbD_append, Fin.val_castLE, if_neg (by omega)]
  · refine congrArg List.ofFn (funext fun place => ?_)
    rw [BitVec.getMsbD_append, Fin.val_natAdd, if_pos (by omega),
      Nat.add_sub_cancel_left]

theorem disturb_append
    {bits errors : List Bool}
    (sameLength : bits.length = errors.length)
    (bits' errors' : List Bool) :
    disturb (bits ++ bits') (errors ++ errors') =
      disturb bits errors ++ disturb bits' errors' :=
  List.zipWith_append sameLength

theorem true_notMem_bitsOf {value : BitVec width} :
    true ∉ bitsOf value ↔ value = 0#(width) := by
  refine ⟨fun none => ?_, fun zero member => ?_⟩
  · refine BitVec.eq_of_getMsbD_eq fun place inside => ?_
    rw [BitVec.getMsbD_zero]
    cases bit : value.getMsbD place with
    | false => rfl
    | true =>
        exact absurd (List.mem_ofFn.mpr ⟨⟨place, inside⟩, bit⟩) none
  · rw [zero, bitsOf, List.mem_ofFn] at member
    obtain ⟨place, bit⟩ := member
    rw [BitVec.getMsbD_zero] at bit
    cases bit

end Rows

/-! The disturbances that leave something in the register. -/

section Disturbances

variable {width : Nat} {polynomial : BitVec width}

theorem eq_zero_of_feed
    (odd : polynomial.getLsbD 0 = true)
    {crc : BitVec width}
    (nothing : feed polynomial crc false = 0#(width)) :
    crc = 0#(width) := by
  have positive : 0 < width := by
    by_contra empty
    obtain rfl : width = 0 := by omega
    rw [BitVec.getLsbD_of_ge _ _ (Nat.le_refl 0)] at odd
    cases odd
  have lowest : ∀ place, (feed polynomial crc false).getLsbD place = false :=
    fun place => by rw [nothing, BitVec.getLsbD_zero]
  rw [feed, Bool.xor_false] at lowest
  cases top : crc.msb with
  | true =>
      have bit := lowest 0
      rw [if_pos top, BitVec.getLsbD_xor, odd] at bit
      simp at bit
  | false =>
      rw [if_neg (by rw [top]; exact Bool.false_ne_true)] at lowest
      apply BitVec.eq_of_getLsbD_eq
      intro place inside
      rw [BitVec.getLsbD_zero]
      by_cases last : place + 1 < width
      · have bit := lowest (place + 1)
        rw [BitVec.getLsbD_shiftLeft] at bit
        simpa [last] using bit
      · obtain rfl : place = width - 1 := by omega
        rw [← BitVec.msb_eq_getLsbD_last]
        exact top

theorem eq_zero_of_remainder
    (odd : polynomial.getLsbD 0 = true)
    {crc : BitVec width}
    {count : Nat}
    (nothing :
      remainder polynomial crc (List.replicate count false) = 0#(width)) :
    crc = 0#(width) := by
  induction count generalizing crc with
  | zero => exact nothing
  | succ count inductionHypothesis =>
      rw [List.replicate_succ, remainder_cons] at nothing
      exact eq_zero_of_feed odd (inductionHypothesis nothing)

/-- Every row of bits is a register. -/
theorem exists_bitsOf
    {bits : List Bool}
    (length : bits.length = width) :
    ∃ value : BitVec width, bitsOf value = bits := by
  subst length
  refine ⟨BitVec.ofBoolListBE bits, ?_⟩
  refine List.ext_getElem (length_bitsOf _) fun place inside within => ?_
  have bit : (bitsOf (BitVec.ofBoolListBE bits))[place] =
      (BitVec.ofBoolListBE bits).getMsbD place :=
    List.getElem_ofFn _
  rw [bit, BitVec.getMsbD_ofBoolListBE]
  exact (List.getElem_eq_getD false).symm

/-- From an empty register the bits do what their register does. -/
theorem remainder_bitsOf_zero (value : BitVec width) :
    remainder polynomial 0#(width) (bitsOf value) =
      remainder polynomial value (List.replicate width false) := by
  have same : disturb (List.replicate width false) (bitsOf value) =
      bitsOf value := by
    refine List.ext_getElem (by simp [disturb]) fun place inside within => ?_
    simp [disturb]
  have linear := @remainder_disturb _ polynomial
    (List.replicate width false) (bitsOf value)
    (by rw [List.length_replicate, length_bitsOf]) value 0#(width)
  rw [BitVec.xor_zero, same, remainder_bitsOf] at linear
  exact (BitVec.xor_eq_zero_iff.mp linear.symm).symm

/-- A burst leaves something. -/
theorem remainder_burst
    (odd : polynomial.getLsbD 0 = true)
    {errors : List Bool}
    (burst : Burst width errors)
    (nothing : remainder polynomial 0#(width) errors = 0#(width)) :
    true ∉ errors := by
  obtain ⟨before, window, behind, rfl, short⟩ := burst
  rw [remainder_append, remainder_append, remainder_zero] at nothing
  have empty := eq_zero_of_remainder odd nothing
  have filled : (window ++
      List.replicate (width - window.length) false).length = width := by
    rw [List.length_append, List.length_replicate]
    omega
  obtain ⟨value, isValue⟩ := exists_bitsOf filled
  have zero : value = 0#(width) := by
    apply eq_zero_of_remainder odd
    rw [← remainder_bitsOf_zero, isValue, remainder_append, empty,
      remainder_zero]
  have none : true ∉ window := by
    intro member
    have inBits : true ∈ bitsOf value := by
      rw [isValue]
      exact List.mem_append_left _ member
    exact true_notMem_bitsOf.mpr zero inBits
  simp [List.mem_append, List.mem_replicate, none]

@[simp] theorem parity_nil : parity [] = false :=
  rfl

@[simp] theorem parity_cons (bit : Bool) (bits : List Bool) :
    parity (bit :: bits) = (bit ^^ parity bits) :=
  rfl

theorem parity_append (bits more : List Bool) :
    parity (bits ++ more) = (parity bits ^^ parity more) := by
  induction bits with
  | nil => exact (Bool.false_xor _).symm
  | cons bit rest inductionHypothesis =>
      rw [List.cons_append, parity_cons, parity_cons, inductionHypothesis,
        Bool.xor_assoc]

theorem parity_disturb
    {bits errors : List Bool}
    (sameLength : bits.length = errors.length) :
    parity (disturb bits errors) = (parity bits ^^ parity errors) := by
  induction bits generalizing errors with
  | nil =>
      obtain rfl := List.length_eq_zero_iff.mp sameLength.symm
      rfl
  | cons bit rest inductionHypothesis =>
      cases errors with
      | nil => cases sameLength
      | cons error errors =>
          have shorter := inductionHypothesis (Nat.succ.inj sameLength)
          rw [disturb] at shorter
          rw [disturb, List.zipWith_cons_cons, parity_cons, parity_cons,
            parity_cons, shorter]
          cases bit <;> cases error <;> cases parity rest <;>
            cases parity errors <;> rfl

theorem parity_eq_count (bits : List Bool) :
    parity bits = decide (bits.count true % 2 = 1) := by
  induction bits with
  | nil => rfl
  | cons bit rest inductionHypothesis =>
      rw [parity_cons, inductionHypothesis, List.count_cons]
      cases bit with
      | false => simp
      | true =>
          have flips : (List.count true rest + 1) % 2 = 1 ↔
              ¬List.count true rest % 2 = 1 := by omega
          rw [if_pos (beq_self_eq_true true), decide_eq_decide.mpr flips,
            decide_not, Bool.true_xor]

theorem bitsOf_xor (left right : BitVec width) :
    bitsOf (left ^^^ right) = disturb (bitsOf left) (bitsOf right) := by
  refine List.ext_getElem (by simp [disturb]) fun place inside within => ?_
  simp [bitsOf, disturb]

theorem parity_shiftLeft (value : BitVec width) :
    parity (bitsOf (value <<< 1)) = (parity (bitsOf value) ^^ value.msb) := by
  cases width with
  | zero => simp [bitsOf, BitVec.msb]
  | succ width =>
      have first : bitsOf value =
          value.msb :: List.ofFn fun place : Fin width =>
            value.getMsbD (place + 1) := by
        rw [bitsOf, List.ofFn_succ]
        rfl
      have shifted : bitsOf (value <<< 1) =
          (List.ofFn fun place : Fin width => value.getMsbD (place + 1)) ++
            [false] := by
        rw [bitsOf, List.ofFn_succ_last]
        congr 1
        · refine congrArg List.ofFn (funext fun place => ?_)
          rw [BitVec.getMsbD_shiftLeft]
          simp
        · simp
      rw [first, shifted, parity_append, parity_cons]
      cases value.msb <;> simp

/-- With an even number of terms the register keeps the sum of the bits. -/
theorem parity_remainder
    (even : parity (bitsOf polynomial) = true)
    (crc : BitVec width)
    (bits : List Bool) :
    parity (bitsOf (remainder polynomial crc bits)) =
      (parity (bitsOf crc) ^^ parity bits) := by
  induction bits generalizing crc with
  | nil => exact (Bool.xor_false _).symm
  | cons bit rest inductionHypothesis =>
      have fed : parity (bitsOf (feed polynomial crc bit)) =
          (parity (bitsOf crc) ^^ bit) := by
        have summed : parity (bitsOf ((crc <<< 1) ^^^ polynomial)) =
            (parity (bitsOf crc) ^^ crc.msb ^^ true) := by
          rw [bitsOf_xor, parity_disturb (by simp), parity_shiftLeft, even]
        rw [feed]
        cases top : crc.msb <;> cases bit <;>
          simp [summed, parity_shiftLeft, top]
      rw [remainder_cons, inductionHypothesis, fed, parity_cons,
        Bool.xor_assoc]

theorem remainder_odd
    (even : parity (bitsOf polynomial) = true)
    {errors : List Bool}
    (odd : errors.count true % 2 = 1) :
    remainder polynomial 0#(width) errors ≠ 0#(width) := by
  intro nothing
  have kept := parity_remainder even 0#(width) errors
  rw [nothing, parity_eq_count errors, decide_eq_true odd] at kept
  cases bits : parity (bitsOf 0#(width)) <;> rw [bits] at kept <;> cases kept

/-- The first bit that is set. -/
theorem exists_first
    {bits : List Bool}
    (member : true ∈ bits) :
    ∃ before rest, bits = List.replicate before false ++ true :: rest := by
  induction bits with
  | nil => cases member
  | cons bit rest inductionHypothesis =>
      cases bit with
      | true => exact ⟨0, rest, rfl⟩
      | false =>
          have later : true ∈ rest := by simpa using member
          obtain ⟨before, behind, rfl⟩ := inductionHypothesis later
          exact ⟨before + 1, behind, rfl⟩

theorem remainder_two
    (odd : polynomial.getLsbD 0 = true)
    {errors : List Bool}
    (separates : Separates polynomial errors.length)
    (two : errors.count true = 2) :
    remainder polynomial 0#(width) errors ≠ 0#(width) := by
  obtain ⟨before, rest, rfl⟩ := exists_first
    (List.count_pos_iff.mp (by omega : 0 < errors.count true))
  have one : rest.count true = 1 := by
    simpa [List.count_replicate] using two
  obtain ⟨between, behind, rfl⟩ := exists_first
    (List.count_pos_iff.mp (by omega : 0 < rest.count true))
  have zero : behind.count true = 0 := by
    simpa [List.count_replicate] using one
  have empty : behind = List.replicate behind.length false := by
    refine List.eq_replicate_iff.mpr ⟨rfl, fun bit member => ?_⟩
    cases bit with
    | false => rfl
    | true => exact absurd member (List.count_eq_zero.mp zero)
  have first : feed polynomial 0#(width) true = polynomial := by
    rw [feed, BitVec.msb_zero, Bool.false_xor, if_pos rfl,
      BitVec.zero_shiftLeft, BitVec.zero_xor]
  have second : ∀ crc, feed polynomial crc true =
      feed polynomial crc false ^^^ polynomial := by
    intro crc
    have linear := @feed_xor _ polynomial crc 0#(width) false true
    rwa [BitVec.xor_zero, Bool.false_xor, first] at linear
  intro nothing
  rw [empty, remainder_append, remainder_zero, remainder_cons, first,
    remainder_append, remainder_cons, second] at nothing
  have cancelled := eq_zero_of_remainder odd nothing
  have apart : remainder polynomial polynomial
      (List.replicate (between + 1) false) = polynomial := by
    rw [List.replicate_succ', remainder_append]
    exact BitVec.xor_eq_zero_iff.mp cancelled
  refine separates (between + 1) ?_ (Nat.succ_pos between) apart
  simp only [List.length_append, List.length_replicate, List.length_cons]
  omega

/--
The register notices every disturbance of at most three bits and every burst
that is not wider than the register.
-/
theorem remainder_noticeable
    (odd : polynomial.getLsbD 0 = true)
    (even : parity (bitsOf polynomial) = true)
    {errors : List Bool}
    (separates : Separates polynomial errors.length)
    (noticeable : Noticeable width errors) :
    remainder polynomial 0#(width) errors = 0#(width) ↔ true ∉ errors := by
  refine ⟨fun nothing => ?_, fun none => ?_⟩
  · rcases noticeable with few | burst
    · have counts : errors.count true = 0 ∨ errors.count true % 2 = 1 ∨
          errors.count true = 2 := by omega
      rcases counts with none | one | two
      · exact List.count_eq_zero.mp none
      · exact absurd nothing (remainder_odd even one)
      · exact absurd nothing (remainder_two odd separates two)
    · exact remainder_burst odd burst nothing
  · have empty : errors = List.replicate errors.length false := by
      refine List.eq_replicate_iff.mpr ⟨rfl, fun bit member => ?_⟩
      cases bit with
      | false => rfl
      | true => exact absurd member none
    rw [empty, remainder_zero]

end Disturbances

end DemoBoard.CyclicRedundancy
