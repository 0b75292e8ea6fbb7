import DemoBoard.BatteryMonitor
import Mathlib.Algebra.Group.Nat.Defs
import Mathlib.Data.List.Induction

namespace DemoBoard

open ExchangeSort

/-!
# Battery level and median

The ring holds the last four voltages in some rotation, and the copy holds
them in order.  The level is the mean of the two upper ones of the sorted
values, which is the median only where the upper values are close together.
-/

namespace BatteryMonitor

/-- The last measurements, the oldest one first. -/
def lastMeasurements (measurements : List UInt32) : List UInt32 :=
  measurements.drop (measurements.length - historyDepth)

/-- The median of four values, rounded down. -/
def IsMedian (values : List Nat) (median : Nat) : Prop :=
  ∃ a b c d : Nat, (a ≤ b ∧ b ≤ c ∧ c ≤ d) ∧
    values.Perm [a, b, c, d] ∧ median = (b + c) / 2

/--
The third smallest of four values is the second smallest one, and the largest
is at most one above it.
-/
def UpperClose (values : List Nat) : Prop :=
  ∃ a b d : Nat, (a ≤ b ∧ b ≤ d ∧ d ≤ b + 1) ∧ values.Perm [a, b, b, d]

/-- The level and the sorted copy that belong to some measurements. -/
structure MedianLevel
    (measurements : List UInt32)
    (monitor : BatteryMonitor) : Prop where
  level :
    IsMedian ((lastMeasurements measurements).map UInt32.toNat)
      monitor.batteryLevelMV.toNat
  sorted : Monotone monitor.batteryVoltageMeasurementsSorted
  rearranged :
    Rearranges monitor.batteryVoltageMeasurements
      monitor.batteryVoltageMeasurementsSorted

/-- Four values have one order. -/
theorem sorted_unique
    {a b c d a' b' c' d' : Nat}
    (sorted : a ≤ b ∧ b ≤ c ∧ c ≤ d)
    (sorted' : a' ≤ b' ∧ b' ≤ c' ∧ c' ≤ d')
    (rearranged : [a, b, c, d].Perm [a', b', c', d']) :
    a = a' ∧ b = b' ∧ c = c' ∧ d = d' := by
  have same : [a, b, c, d] = [a', b', c', d'] := by
    apply List.Perm.eq_of_sortedLE _ _ rearranged
    · rw [List.sortedLE_iff_pairwise]
      simp
      omega
    · rw [List.sortedLE_iff_pairwise]
      simp
      omega
  simpa using same

/-- Where the mean of the two upper values is the median. -/
theorem isMedian_upper_iff
    {values : List Nat}
    {a b c d : Nat}
    (sorted : a ≤ b ∧ b ≤ c ∧ c ≤ d)
    (rearranged : values.Perm [a, b, c, d]) :
    IsMedian values ((c + d) / 2) ↔ UpperClose values := by
  constructor
  · rintro ⟨a', b', c', d', sorted', rearranged', median⟩
    obtain ⟨sameA, sameB, sameC, sameD⟩ :=
      sorted_unique sorted sorted' (rearranged.symm.trans rearranged')
    have close : c = b := by omega
    rw [close] at rearranged
    exact ⟨a, b, d, by omega, rearranged⟩
  · rintro ⟨a', b', d', sorted', rearranged'⟩
    obtain ⟨sameA, sameB, sameC, sameD⟩ :=
      sorted_unique sorted ⟨sorted'.1, Nat.le_refl _, sorted'.2.1⟩
        (rearranged.symm.trans rearranged')
    exact ⟨a, b, c, d, sorted, rearranged, by omega⟩

/-- What an evaluation of the measurements does to the monitor. -/
structure Evaluated (before after : BatteryMonitor) : Prop where
  measurements :
    after.batteryVoltageMeasurements = before.batteryVoltageMeasurements
  index : after.bufferIndex = before.bufferIndex
  complete : after.historyComplete = before.historyComplete
  sorted :
    after.batteryVoltageMeasurementsSorted =
      exchangeSort before.batteryVoltageMeasurements
  level :
    after.batteryLevelMV =
      (after.batteryVoltageMeasurementsSorted ⟨2, by decide⟩ +
        after.batteryVoltageMeasurementsSorted ⟨3, by decide⟩) / 2

/-- The sorted copy stays the sorted copy of the kept measurements. -/
theorem Evaluated.again
    {before after : BatteryMonitor}
    (evaluated : Evaluated before after) :
    Evaluated after after where
  measurements := rfl
  index := rfl
  complete := rfl
  sorted := by rw [evaluated.sorted, evaluated.measurements]
  level := evaluated.level

theorem updateLevel_evaluated (monitor : BatteryMonitor) :
    Evaluated monitor monitor.updateLevel := by
  have upper : historyDepth % 2 = 0 := by decide
  constructor
  all_goals
    simp only [updateLevel, getMeasuredVoltagesMedianMv,
      copyAndSortMeasurements, if_pos upper]
  rfl

/-- Nothing changes but the application state. -/
theorem Evaluated.updateState
    {before after : BatteryMonitor}
    (evaluated : Evaluated before after) :
    Evaluated before after.updateState.1 := by
  unfold BatteryMonitor.updateState
  dsimp only
  split
  · exact ⟨evaluated.measurements, evaluated.index, evaluated.complete,
      evaluated.sorted, evaluated.level⟩
  · exact ⟨evaluated.measurements, evaluated.index, evaluated.complete,
      evaluated.sorted, evaluated.level⟩

/-- Nothing changes but the remaining capacity. -/
theorem Evaluated.updateCapacity
    {before after : BatteryMonitor}
    (evaluated : Evaluated before after)
    (remainingCapacity : UInt8) :
    Evaluated before (after.updateCapacity remainingCapacity).1 := by
  unfold BatteryMonitor.updateCapacity
  split
  · exact ⟨evaluated.measurements, evaluated.index, evaluated.complete,
      evaluated.sorted, evaluated.level⟩
  · exact evaluated

/-- The ring holds the last of some measurements. -/
structure Holds
    (measurements : List UInt32)
    (monitor : BatteryMonitor) : Prop where
  index :
    (monitor.bufferIndex : Nat) = measurements.length % historyDepth
  complete :
    monitor.historyComplete = decide (historyDepth ≤ measurements.length)
  recent :
    ∀ (slot : Fin historyDepth) (position : Nat) (value : UInt32),
      measurements[position]? = some value →
      measurements.length ≤ position + historyDepth →
      position % historyDepth = slot →
      monitor.batteryVoltageMeasurements slot = value

theorem holds_initializeVbatCb
    (monitor : BatteryMonitor)
    (vbatMv : UInt32) :
    Holds [vbatMv] (monitor.initializeVbatCb vbatMv) := by
  refine ⟨rfl, rfl, ?_⟩
  intro slot position value stored recent same
  obtain ⟨rfl, rfl⟩ : position = 0 ∧ value = vbatMv := by
    cases position with
    | zero => exact ⟨rfl, (Option.some.inj stored).symm⟩
    | succ position => cases stored
  obtain rfl : slot = ⟨0, by decide⟩ := Fin.ext same.symm
  rfl

/-- A measurement takes the place of the fourth one before it. -/
theorem Holds.storeMeasurement
    {measurements : List UInt32}
    {monitor : BatteryMonitor}
    (holds : Holds measurements monitor)
    (vbatMv : UInt32) :
    Holds (measurements ++ [vbatMv])
      (monitor.storeMeasurement vbatMv).advanceIndex := by
  have ring :
      ∀ (slot : Fin historyDepth) (position : Nat) (value : UInt32),
        (measurements ++ [vbatMv])[position]? = some value →
        (measurements ++ [vbatMv]).length ≤ position + historyDepth →
        position % historyDepth = slot →
        (monitor.storeMeasurement vbatMv).batteryVoltageMeasurements slot =
          value := by
    intro slot position value stored recent same
    have index := holds.index
    rw [List.length_append, List.length_singleton] at recent
    simp only [BatteryMonitor.storeMeasurement, Function.update_apply]
    rcases Nat.lt_trichotomy position measurements.length with
      earlier | rfl | later
    · rw [List.getElem?_append_left earlier] at stored
      have other : slot ≠ monitor.bufferIndex := by
        intro taken
        rw [taken, index] at same
        simp only [historyDepth] at same recent
        omega
      rw [if_neg other]
      exact holds.recent slot position value stored (by omega) same
    · rw [if_pos (Fin.ext (by omega))]
      simpa using stored
    · rw [List.getElem?_eq_none (by simp; omega)] at stored
      cases stored
  have index := holds.index
  have complete := holds.complete
  unfold advanceIndex
  simp only [historyDepth] at index complete
  split
  · next more =>
      refine ⟨?_, ?_, ring⟩
      · simp only [BatteryMonitor.storeMeasurement, historyDepth] at more ⊢
        simp only [List.length_append, List.length_singleton]
        omega
      · simp only [BatteryMonitor.storeMeasurement, historyDepth] at more
        refine complete.trans (decide_eq_decide.mpr ?_)
        simp only [List.length_append, List.length_singleton,
          historyDepth]
        omega
  · next done =>
      refine ⟨?_, ?_, ring⟩
      · simp only [BatteryMonitor.storeMeasurement, historyDepth] at done ⊢
        simp only [List.length_append, List.length_singleton]
        omega
      · simp only [BatteryMonitor.storeMeasurement, historyDepth] at done ⊢
        simp only [List.length_append, List.length_singleton]
        symm
        rw [decide_eq_true_eq]
        omega

/-- The invariant of the measurements: ring and evaluation belong together. -/
structure Follows
    (measurements : List UInt32)
    (monitor : BatteryMonitor) : Prop where
  holds : Holds measurements monitor
  evaluated :
    1 < measurements.length →
    monitor.historyComplete = true → Evaluated monitor monitor

theorem Follows.updateVbatCb
    {measurements : List UInt32}
    {monitor : BatteryMonitor}
    (follows : Follows measurements monitor)
    (vbatMv : UInt32) :
    Follows (measurements ++ [vbatMv]) (monitor.updateVbatCb vbatMv).1 := by
  have stored := follows.holds.storeMeasurement vbatMv
  unfold BatteryMonitor.updateVbatCb
  dsimp only
  split
  · next incomplete =>
      exact ⟨stored, fun _ complete => by simp [incomplete] at complete⟩
  · have evaluated :=
      (updateLevel_evaluated
        (monitor.storeMeasurement vbatMv).advanceIndex).updateState
    have evaluated := evaluated.updateCapacity
      (BatteryMonitor.computeRemainingCapacity
        (updateState (updateLevel
          (monitor.storeMeasurement vbatMv).advanceIndex)).1
        (updateState (updateLevel
          (monitor.storeMeasurement vbatMv).advanceIndex)).1.batteryLevelMV)
    refine ⟨⟨?_, ?_, ?_⟩, fun _ _ => evaluated.again⟩
    · rw [evaluated.index]
      exact stored.index
    · rw [evaluated.complete]
      exact stored.complete
    · rw [evaluated.measurements]
      exact stored.recent

/-- Ring and evaluation after any measurements. -/
theorem follows_measured
    (monitor : BatteryMonitor)
    (first : UInt32)
    (others : List UInt32) :
    Follows (first :: others) (monitor.measured first others) := by
  induction others using List.reverseRecOn with
  | nil =>
      exact ⟨holds_initializeVbatCb monitor first,
        fun more => absurd more (by simp)⟩
  | append_singleton others vbatMv inductionHypothesis =>
      rw [measured, List.foldl_append, ← List.cons_append]
      exact inductionHypothesis.updateVbatCb vbatMv

/-- The ring holds the last measurements, beginning at the insert index. -/
theorem Holds.perm_lastMeasurements
    {measurements : List UInt32}
    {monitor : BatteryMonitor}
    (holds : Holds measurements monitor)
    (enough : historyDepth ≤ measurements.length) :
    (List.ofFn monitor.batteryVoltageMeasurements).Perm
      (lastMeasurements measurements) := by
  have rotated :
      (List.ofFn monitor.batteryVoltageMeasurements).rotate
          measurements.length =
        lastMeasurements measurements := by
    apply List.ext_getElem
    · simp only [List.length_rotate, List.length_ofFn, lastMeasurements,
        List.length_drop]
      omega
    · intro offset inRing inLast
      simp only [List.length_rotate, List.length_ofFn] at inRing
      rw [List.getElem_rotate, List.getElem_ofFn]
      simp only [lastMeasurements, List.getElem_drop]
      apply holds.recent _
        (measurements.length - historyDepth + offset) _
        (List.getElem?_eq_getElem (by omega)) (by omega)
      change (measurements.length - historyDepth + offset) % historyDepth =
        (offset + measurements.length) %
          (List.ofFn monitor.batteryVoltageMeasurements).length
      rw [List.length_ofFn]
      simp only [historyDepth] at enough ⊢
      omega
  rw [← rotated]
  exact (List.rotate_perm _ _).symm

/-- The mean of two voltages does not overflow. -/
theorem toNat_mean
    {first second : UInt32}
    (firstSmall : first.toNat < 2 ^ 31)
    (secondSmall : second.toNat < 2 ^ 31) :
    ((first + second) / 2).toNat = (first.toNat + second.toNat) / 2 := by
  rw [UInt32.toNat_div, UInt32.toNat_add, Nat.mod_eq_of_lt (by omega)]
  rfl

/-- The entries of the sorted copy as numbers, smallest first. -/
theorem Evaluated.sorted_values
    {monitor : BatteryMonitor}
    (evaluated : Evaluated monitor monitor) :
    ∃ a b c d : UInt32,
      (a.toNat ≤ b.toNat ∧ b.toNat ≤ c.toNat ∧ c.toNat ≤ d.toNat) ∧
        (List.ofFn monitor.batteryVoltageMeasurements).Perm [a, b, c, d] ∧
        monitor.batteryLevelMV = (c + d) / 2 := by
  have monotone :=
    exchangeSort_monotone monitor.batteryVoltageMeasurements
  obtain ⟨order, rearranged⟩ :=
    exchangeSort_rearranges monitor.batteryVoltageMeasurements
  have perm :=
    Equiv.Perm.ofFn_comp_perm order monitor.batteryVoltageMeasurements
  rw [← rearranged, ← evaluated.sorted] at perm
  rw [← evaluated.sorted] at monotone
  have ordered (first second : Fin historyDepth) (le : first ≤ second) :=
    UInt32.le_iff_toNat_le.mp (monotone le)
  exact ⟨_, _, _, _,
    ⟨ordered ⟨0, by decide⟩ ⟨1, by decide⟩ (by decide),
      ordered ⟨1, by decide⟩ ⟨2, by decide⟩ (by decide),
      ordered ⟨2, by decide⟩ ⟨3, by decide⟩ (by decide)⟩,
    perm.symm, evaluated.level⟩

section Measured

variable (monitor : BatteryMonitor)
variable {first : UInt32}
variable {others : List UInt32}

/-- Four measurements complete the history. -/
theorem measured_evaluated
    (enough : historyDepth ≤ (first :: others).length) :
    Evaluated (monitor.measured first others)
      (monitor.measured first others) := by
  have follows := follows_measured monitor first others
  apply follows.evaluated (Nat.lt_of_lt_of_le (by decide) enough)
  rw [follows.holds.complete]
  exact decide_eq_true enough

/-- The level is the mean of the two upper ones of the last four values. -/
theorem measured_level
    (enough : historyDepth ≤ (first :: others).length)
    (small : ∀ vbatMv ∈ first :: others, vbatMv.toNat < 2 ^ 31) :
    ∃ a b c d : Nat,
      (a ≤ b ∧ b ≤ c ∧ c ≤ d) ∧
        ((lastMeasurements (first :: others)).map UInt32.toNat).Perm
          [a, b, c, d] ∧
        (monitor.measured first others).batteryLevelMV.toNat =
          (c + d) / 2 := by
  have follows := follows_measured monitor first others
  obtain ⟨a, b, c, d, ordered, perm, level⟩ :=
    (measured_evaluated monitor enough).sorted_values
  have last := (follows.holds.perm_lastMeasurements enough).symm.trans perm
  have bounded :
      ∀ vbatMv ∈ [a, b, c, d], vbatMv.toNat < 2 ^ 31 :=
    fun vbatMv member =>
      small vbatMv (List.mem_of_mem_drop (last.mem_iff.mpr member))
  refine ⟨_, _, _, _, ordered, last.map UInt32.toNat, ?_⟩
  rw [level]
  exact toNat_mean (bounded c (by simp)) (bounded d (by simp))

/-- The level is the median exactly when the upper values are close. -/
theorem measured_medianLevel
    (enough : historyDepth ≤ (first :: others).length)
    (small : ∀ vbatMv ∈ first :: others, vbatMv.toNat < 2 ^ 31) :
    MedianLevel (first :: others) (monitor.measured first others) ↔
      UpperClose
        ((lastMeasurements (first :: others)).map UInt32.toNat) := by
  obtain ⟨a, b, c, d, ordered, last, level⟩ :=
    measured_level monitor enough small
  have evaluated := measured_evaluated monitor enough
  rw [← isMedian_upper_iff ordered last, ← level]
  constructor
  · exact fun medianLevel => medianLevel.level
  · intro median
    refine ⟨median, ?_, ?_⟩
    · rw [evaluated.sorted]
      exact exchangeSort_monotone _
    · rw [evaluated.sorted]
      exact exchangeSort_rearranges _

end Measured

theorem historyDepth_pos : 0 < historyDepth := by
  decide

/-- A monitor before its first measurement. -/
def unmeasured : BatteryMonitor where
  batteryLevelMV := 0
  remainingCapacity := 0
  actualApplicationState := BatteryState.undefined
  batteryVoltageMeasurements := fun _ => 0
  bufferIndex := ⟨0, historyDepth_pos⟩
  historyComplete := false
  batteryVoltageMeasurementsSorted := fun _ => 0

/-- Five measurements whose last four have close upper values. -/
theorem measured_medianLevel_constant :
    MedianLevel [2700, 2650, 2700, 2701, 2700]
      (unmeasured.measured 2700 [2650, 2700, 2701, 2700]) :=
  (measured_medianLevel unmeasured (by decide) (by simp)).mpr
    ⟨2650, 2700, 2701, by decide, by decide⟩

/-- The median of 1000, 2000, 3000 and 4000 is 2500 and not 3500. -/
theorem measured_upperMean :
    (unmeasured.measured 4000 [1000, 3000, 2000]).batteryLevelMV.toNat =
        3500 ∧
      IsMedian [4000, 1000, 3000, 2000] 2500 ∧
      ¬ MedianLevel [4000, 1000, 3000, 2000]
        (unmeasured.measured 4000 [1000, 3000, 2000]) := by
  obtain ⟨a, b, c, d, sorted, rearranged, level⟩ :=
    @measured_level unmeasured 4000 [1000, 3000, 2000]
      (by decide) (by simp)
  obtain ⟨sameA, sameB, sameC, sameD⟩ :=
    @sorted_unique 1000 2000 3000 4000 a b c d (by decide) sorted
      (List.Perm.trans (by decide) rearranged)
  rw [← sameC, ← sameD] at level
  refine ⟨level, ⟨1000, 2000, 3000, 4000, by decide, by decide, rfl⟩, ?_⟩
  intro medianLevel
  obtain ⟨a', b', c', d', sorted', rearranged', median⟩ :=
    medianLevel.level
  obtain ⟨sameA', sameB', sameC', sameD'⟩ :=
    sorted_unique sorted sorted' (rearranged.symm.trans rearranged')
  rw [level] at median
  omega

end BatteryMonitor

end DemoBoard
