import Mathlib.Data.List.Basic
import Mathlib.Data.List.GetD
import Mathlib.Data.Nat.ModEq
import Mathlib.Tactic.Common

namespace SegmentedLog

/-!
# Segmented logs

A log is an append-only list that is cut into segments of a fixed size.  A ring
of `count` places keeps the segments of a window; segment `index` lives in
place `index % count`.  Segments and places are addressed by ordinals that
never wrap.
-/

variable {Entry : Type*}

/-- The entries of one segment of a log. -/
def segment (size : Nat) (log : List Entry) (index : Nat) : List Entry :=
  (log.drop (index * size)).take size

/-- The segment the next entry goes to. -/
def current (size : Nat) (log : List Entry) : Nat :=
  log.length / size

/-- The number of entries in the current segment. -/
def used (size : Nat) (log : List Entry) : Nat :=
  log.length % size

/-- The oldest segment of a ring that writes segment `index`. -/
def oldest (count index : Nat) : Nat :=
  index + 1 - count

/-- The entries from segment `first` on. -/
def retained (size first : Nat) (log : List Entry) : List Entry :=
  log.drop (first * size)

theorem length_eq (size : Nat) (log : List Entry) :
    log.length = current size log * size + used size log := by
  rw [current, used, Nat.mul_comm]
  exact (Nat.div_add_mod _ _).symm

theorem used_lt
    {size : Nat}
    (positive : 0 < size)
    (log : List Entry) :
    used size log < size :=
  Nat.mod_lt _ positive

theorem length_retained (size first : Nat) (log : List Entry) :
    (retained size first log).length = log.length - first * size := by
  simp [retained]

/-- An entry of a segment is an entry of the log. -/
theorem getElem?_segment
    {size slot : Nat}
    (inside : slot < size)
    (log : List Entry)
    (index : Nat) :
    (segment size log index)[slot]? = log[index * size + slot]? := by
  simp [segment, inside, List.getElem?_drop]

theorem length_segment (size : Nat) (log : List Entry) (index : Nat) :
    (segment size log index).length =
      min size (log.length - index * size) := by
  simp [segment]

/-- Every segment before the current one is full. -/
theorem length_segment_of_lt
    {size index : Nat}
    {log : List Entry}
    (earlier : index < current size log) :
    (segment size log index).length = size := by
  have shape := length_eq size log
  have bound : (index + 1) * size ≤ current size log * size :=
    Nat.mul_le_mul_right size earlier
  rw [Nat.succ_mul] at bound
  rw [length_segment]
  omega

theorem length_segment_current
    {size : Nat}
    (positive : 0 < size)
    (log : List Entry) :
    (segment size log (current size log)).length = used size log := by
  have shape := length_eq size log
  have bound := used_lt positive log
  rw [length_segment]
  omega

/-- Full segments, joined. -/
theorem length_flatMap_segment
    {size : Nat}
    {log : List Entry}
    {indices : List Nat}
    (earlier : ∀ index ∈ indices, index < current size log) :
    (indices.flatMap (segment size log)).length =
      indices.length * size := by
  induction indices with
  | nil => rw [List.flatMap_nil, List.length_nil, List.length_nil,
      Nat.zero_mul]
  | cons index rest inductionHypothesis =>
      rw [List.flatMap_cons, List.length_append,
        length_segment_of_lt (earlier index (List.mem_cons_self ..)),
        inductionHypothesis
          (fun next member => earlier next (List.mem_cons_of_mem _ member)),
        List.length_cons, Nat.succ_mul, Nat.add_comm]

/-- No segment after the current one has entries. -/
theorem segment_of_gt
    {size index : Nat}
    {log : List Entry}
    (positive : 0 < size)
    (later : current size log < index) :
    segment size log index = [] := by
  have shape := length_eq size log
  have usedBound := used_lt positive log
  have bound : (current size log + 1) * size ≤ index * size :=
    Nat.mul_le_mul_right size later
  rw [Nat.succ_mul] at bound
  apply List.eq_nil_of_length_eq_zero
  rw [length_segment]
  omega

theorem segment_current_of_used_zero
    {size : Nat}
    {log : List Entry}
    (positive : 0 < size)
    (none : used size log = 0) :
    segment size log (current size log) = [] := by
  apply List.eq_nil_of_length_eq_zero
  rw [length_segment_current positive, none]

/-- Appending changes no segment but the current one. -/
theorem segment_append_of_ne
    {size index : Nat}
    {log : List Entry}
    (positive : 0 < size)
    (entry : Entry)
    (other : index ≠ current size log) :
    segment size (log ++ [entry]) index = segment size log index := by
  have shape := length_eq size log
  have usedBound := used_lt positive log
  rcases Nat.lt_or_gt_of_ne other with earlier | later
  · have bound : (index + 1) * size ≤ current size log * size :=
      Nat.mul_le_mul_right size earlier
    rw [Nat.succ_mul] at bound
    rw [segment, segment, List.drop_append_of_le_length (by omega),
      List.take_append_of_le_length]
    rw [List.length_drop]
    omega
  · have bound : (current size log + 1) * size ≤ index * size :=
      Nat.mul_le_mul_right size later
    rw [Nat.succ_mul] at bound
    rw [segment_of_gt positive later]
    apply List.eq_nil_of_length_eq_zero
    rw [length_segment, List.length_append, List.length_singleton]
    omega

/-- Appending extends the current segment. -/
theorem segment_append_current
    {size : Nat}
    (positive : 0 < size)
    (log : List Entry)
    (entry : Entry) :
    segment size (log ++ [entry]) (current size log) =
      segment size log (current size log) ++ [entry] := by
  have shape := length_eq size log
  have usedBound := used_lt positive log
  rw [segment, segment, List.drop_append_of_le_length (by omega),
    List.take_of_length_le, List.take_of_length_le]
  · rw [List.length_drop]
    omega
  · rw [List.length_append, List.length_drop, List.length_singleton]
    omega

/-- The position of an entry determines its segment. -/
theorem div_of_position
    {size index slot : Nat}
    (inside : slot < size) :
    (index * size + slot) / size = index := by
  apply Nat.div_eq_of_lt_le
  · omega
  · rw [Nat.succ_mul]
    omega

/-- Two segments of one window share no place. -/
theorem eq_of_same_place
    {count first left right : Nat}
    (leftLower : first ≤ left)
    (leftUpper : left < first + count)
    (rightLower : first ≤ right)
    (rightUpper : right < first + count)
    (same : left % count = right % count) :
    left = right := by
  have congruent : left ≡ right [MOD count] := same
  rcases Nat.le_total left right with ordered | ordered
  · have divides := (Nat.modEq_iff_dvd' ordered).mp congruent
    have difference := Nat.eq_zero_of_dvd_of_lt divides (by omega)
    omega
  · have divides := (Nat.modEq_iff_dvd' ordered).mp congruent.symm
    have difference := Nat.eq_zero_of_dvd_of_lt divides (by omega)
    omega

/-- The successor of a place is the next place, or the first one. -/
theorem succ_place
    {count : Nat}
    (positive : 0 < count)
    (index : Nat) :
    (index + 1) % count =
      if index % count + 1 = count then 0 else index % count + 1 := by
  have bound := Nat.mod_lt index positive
  rw [Nat.add_mod]
  by_cases single : count = 1
  · subst single
    simp [Nat.mod_one]
  · rw [Nat.mod_eq_of_lt (show 1 < count by omega)]
    split
    · next last => rw [last, Nat.mod_self]
    · next inner => exact Nat.mod_eq_of_lt (by omega)

/-- The segment of the window from `first` on that lives in a place. -/
def ordinalAt (count first place : Nat) : Nat :=
  if first % count ≤ place then
    first + (place - first % count)
  else
    first + count + place - first % count

theorem ordinalAt_ge
    {count place : Nat}
    (first : Nat)
    (inside : place < count) :
    first ≤ ordinalAt count first place := by
  have bound := Nat.mod_lt first (show 0 < count by omega)
  rw [ordinalAt]
  split <;> omega

theorem ordinalAt_lt
    {count place : Nat}
    (first : Nat)
    (inside : place < count) :
    ordinalAt count first place < first + count := by
  have bound := Nat.mod_lt first (show 0 < count by omega)
  rw [ordinalAt]
  split <;> omega

theorem ordinalAt_mod
    {count place : Nat}
    (first : Nat)
    (inside : place < count) :
    ordinalAt count first place % count = place := by
  have shape := Nat.div_add_mod first count
  have bound := Nat.mod_lt first (show 0 < count by omega)
  rw [ordinalAt]
  split
  · next after =>
      have split :
          first + (place - first % count) =
            place + count * (first / count) := by
        omega
      rw [split, Nat.add_mul_mod_self_left, Nat.mod_eq_of_lt inside]
  · next before =>
      have split :
          first + count + place - first % count =
            place + count * (first / count + 1) := by
        rw [Nat.mul_add]
        omega
      rw [split, Nat.add_mul_mod_self_left, Nat.mod_eq_of_lt inside]

/-- The place of a segment of the window determines the segment. -/
theorem eq_ordinalAt
    {count first index : Nat}
    (lower : first ≤ index)
    (upper : index < first + count) :
    index = ordinalAt count first (index % count) := by
  have inside := Nat.mod_lt index (show 0 < count by omega)
  exact eq_of_same_place lower upper (ordinalAt_ge first inside)
    (ordinalAt_lt first inside) (ordinalAt_mod first inside).symm

/-- Counting the numbers of a range that lie below a bound. -/
theorem countP_range_add_lt (offset bound size : Nat) :
    (List.range size).countP (fun i => offset + i < bound) =
      min size (bound - offset) := by
  induction size with
  | zero => simp
  | succ size inductionHypothesis =>
      rw [List.range_succ, List.countP_append, inductionHypothesis,
        List.countP_singleton]
      by_cases inside : offset + size < bound
      · simp only [inside, decide_true, if_true]
        omega
      · simp only [inside, decide_false, Bool.false_eq_true, if_false]
        omega

/-- The places of a window that hold segments before `bound`. -/
theorem countP_ordinalAt
    {count first bound : Nat}
    (positive : 0 < count)
    (lower : first ≤ bound)
    (upper : bound ≤ first + count) :
    (List.range count).countP
        (fun place => ordinalAt count first place < bound) =
      bound - first := by
  have offset := Nat.mod_lt first positive
  obtain ⟨rest, shape⟩ : ∃ rest, count = first % count + rest :=
    ⟨count - first % count, by omega⟩
  have wrapped :
      (List.range (first % count)).countP
          (fun place => ordinalAt count first place < bound) =
        (List.range (first % count)).countP
          (fun i => first + count - first % count + i < bound) := by
    apply List.countP_congr
    intro place member
    have inside := List.mem_range.mp member
    rw [ordinalAt, if_neg (by omega)]
    simp only [decide_eq_true_eq]
    omega
  have straight :
      (List.range rest).countP
          ((fun place => ordinalAt count first place < bound) ∘
            fun i => first % count + i) =
        (List.range rest).countP (fun i => first + i < bound) := by
    apply List.countP_congr
    intro place member
    simp only [Function.comp_apply]
    rw [ordinalAt, if_pos (Nat.le_add_right _ _)]
    simp
  have total :
      List.range count =
        List.range (first % count) ++
          (List.range rest).map (first % count + ·) := by
    rw [← List.range_add, ← shape]
  rw [total, List.countP_append, List.countP_map, wrapped,
    countP_range_add_lt]
  have second := straight.trans (countP_range_add_lt first bound rest)
  simp only [Function.comp_def] at second ⊢
  rw [second]
  omega

/-- The entries of successive segments. -/
theorem flatMap_segment
    {size first count : Nat}
    {log : List Entry}
    (within : first + count ≤ current size log) :
    (List.range' first count).flatMap (segment size log) =
      (log.take ((first + count) * size)).drop (first * size) := by
  induction count with
  | zero => simp
  | succ count inductionHypothesis =>
      have shape := length_eq size log
      have bound := Nat.mul_le_mul_right size within
      have lower := Nat.mul_le_mul_right size (Nat.le_add_right first count)
      rw [← Nat.add_assoc, Nat.succ_mul] at bound
      rw [List.range'_1_concat, List.flatMap_append,
        inductionHypothesis (by omega), ← Nat.add_assoc, Nat.succ_mul,
        List.take_add, List.drop_append_of_le_length]
      · simp [segment]
      · rw [List.length_take]
        omega

/-- The numbers of an interval. -/
theorem filter_range_interval
    {size first count : Nat}
    {inside : Nat → Bool}
    (within : first + count ≤ size)
    (interval : ∀ index, index < size →
      (inside index = true ↔ first ≤ index ∧ index < first + count)) :
    (List.range size).filter inside = List.range' first count := by
  obtain ⟨rest, shape⟩ : ∃ rest, size = first + count + rest :=
    ⟨size - (first + count), by omega⟩
  have split :
      List.range size =
        List.range' 0 first ++ List.range' first count ++
          List.range' (first + count) rest := by
    have front := @List.range'_append_1 0 first count
    have all := @List.range'_append_1 0 (first + count) rest
    rw [Nat.zero_add] at front all
    rw [shape, List.range_eq_range', front, all]
  rw [split, List.filter_append, List.filter_append,
    List.filter_eq_nil_iff.mpr, List.filter_eq_self.mpr,
    List.filter_eq_nil_iff.mpr]
  · simp
  all_goals
    intro index member
    rw [List.mem_range'_1] at member
    rw [interval index (by omega)]
    omega

end SegmentedLog
