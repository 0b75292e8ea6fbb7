import Mathlib.Data.Fintype.EquivFin
import Mathlib.Logic.Equiv.Basic
import Mathlib.Order.Monotone.Basic
import Mathlib.Order.Lattice
import Mathlib.Tactic.Common

namespace ExchangeSort

/-!
# Sorting by exchanges

Two loops over all indices of an array that exchange the entries at `i` and
`j` whenever the one at `i` is the smaller one.  A sweep over `j` inserts the
entry at `i` into the sorted entries before it and leaves a largest entry at
`i`, so that the outer loop extends a sorted prefix.
-/

variable {n : ℕ} {α : Type} [LinearOrder α]

/-- A property that every turn of a counting loop hands on. -/
theorem foldl_invariant
    {n : ℕ}
    {β : Type}
    (holds : ℕ → β → Prop)
    (turn : β → Fin n → β)
    (first : β)
    (starts : holds 0 first)
    (preserved : ∀ (index : Fin n) (value : β),
      holds index value → holds (index + 1) (turn value index)) :
    holds n (Fin.foldl n turn first) := by
  induction n with
  | zero => exact starts
  | succ n inductionHypothesis =>
      rw [Fin.foldl_succ_last]
      exact preserved (Fin.last n) _
        (inductionHypothesis (fun value index => turn value index.castSucc)
          fun index value held => preserved index.castSucc value held)

/-- Exchange two entries if the first index holds the smaller one. -/
def compareExchange (values : Fin n → α) (i j : Fin n) : Fin n → α :=
  if values i < values j then values ∘ Equiv.swap i j else values

/-- The inner loop. -/
def sweep (values : Fin n → α) (i : Fin n) : Fin n → α :=
  Fin.foldl n (fun current j => compareExchange current i j) values

/-- The outer loop. -/
def exchangeSort (values : Fin n → α) : Fin n → α :=
  Fin.foldl n sweep values

section Exchange

variable (values : Fin n → α)
variable (i j : Fin n)

/-- The first index keeps the larger entry. -/
theorem compareExchange_left :
    compareExchange values i j i = max (values i) (values j) := by
  rw [compareExchange]
  split
  · next smaller =>
      rw [Function.comp_apply, Equiv.swap_apply_left,
        max_eq_right smaller.le]
  · next notSmaller =>
      rw [max_eq_left (le_of_not_gt notSmaller)]

/-- The second index keeps the smaller entry. -/
theorem compareExchange_right :
    compareExchange values i j j = min (values i) (values j) := by
  rw [compareExchange]
  split
  · next smaller =>
      rw [Function.comp_apply, Equiv.swap_apply_right,
        min_eq_left smaller.le]
  · next notSmaller =>
      rw [min_eq_right (le_of_not_gt notSmaller)]

/-- The other entries stay. -/
theorem compareExchange_other
    {k : Fin n}
    (notLeft : k ≠ i)
    (notRight : k ≠ j) :
    compareExchange values i j k = values k := by
  rw [compareExchange]
  split
  · rw [Function.comp_apply,
      Equiv.swap_apply_of_ne_of_ne notLeft notRight]
  · rfl

end Exchange

/-- An array with the entries of another one. -/
def Rearranges (original values : Fin n → α) : Prop :=
  ∃ order : Equiv.Perm (Fin n), values = original ∘ order

omit [LinearOrder α] in
theorem Rearranges.refl (values : Fin n → α) : Rearranges values values :=
  ⟨Equiv.refl _, rfl⟩

theorem Rearranges.compareExchange
    {original values : Fin n → α}
    (rearranges : Rearranges original values)
    (i j : Fin n) :
    Rearranges original (compareExchange values i j) := by
  obtain ⟨order, rfl⟩ := rearranges
  rw [ExchangeSort.compareExchange]
  split
  · exact ⟨(Equiv.swap i j).trans order, rfl⟩
  · exact ⟨order, rfl⟩

theorem Rearranges.sweep
    {original values : Fin n → α}
    (rearranges : Rearranges original values)
    (i : Fin n) :
    Rearranges original (sweep values i) :=
  foldl_invariant (fun _ current => Rearranges original current) _ values
    rearranges fun j _ held => held.compareExchange i j

/-- Sorting rearranges. -/
theorem exchangeSort_rearranges (values : Fin n → α) :
    Rearranges values (exchangeSort values) :=
  foldl_invariant (fun _ current => Rearranges values current) _ values
    (.refl values) fun i _ held => held.sweep i

/-- The entries before an index are in order. -/
def SortedBelow (values : Fin n → α) (bound : ℕ) : Prop :=
  ∀ p q : Fin n, p < q → q < bound → values p ≤ values q

/-- The entries before `j` do not exceed the one at `i`. -/
def DominatedBelow (values : Fin n → α) (i : Fin n) (j : ℕ) : Prop :=
  ∀ p : Fin n, p < j → values p ≤ values i

section Turn

variable {values : Fin n → α}
variable {i j : Fin n}

/-- An exchange keeps the entries before `i` in order. -/
theorem SortedBelow.compareExchange
    (sorted : SortedBelow values i)
    (dominated : DominatedBelow values i j) :
    SortedBelow (compareExchange values i j) i := by
  intro p q before inside
  have notLeft : p ≠ i := fun same => by omega
  have notLeft' : q ≠ i := fun same => by omega
  by_cases firstExchanged : p = j
  · have notRight : q ≠ j := fun same => by omega
    rw [firstExchanged, compareExchange_right,
      compareExchange_other values i j notLeft' notRight]
    exact (min_le_right _ _).trans
      (sorted j q (firstExchanged ▸ before) inside)
  · rw [compareExchange_other values i j notLeft firstExchanged]
    by_cases secondExchanged : q = j
    · rw [secondExchanged] at before inside ⊢
      rw [compareExchange_right]
      exact le_min (dominated p before) (sorted p j before inside)
    · rw [compareExchange_other values i j notLeft' secondExchanged]
      exact sorted p q before inside

/-- An exchange extends the entries that do not exceed the one at `i`. -/
theorem DominatedBelow.compareExchange
    (dominated : DominatedBelow values i j) :
    DominatedBelow (compareExchange values i j) i (j + 1) := by
  intro p before
  rw [compareExchange_left]
  by_cases left : p = i
  · rw [left, compareExchange_left]
  · by_cases right : p = j
    · rw [right, compareExchange_right]
      exact min_le_max
    · rw [compareExchange_other values i j left right]
      exact (dominated p (by omega)).trans (le_max_left _ _)

/-- A sweep extends the sorted prefix. -/
theorem SortedBelow.sweep
    (sorted : SortedBelow values i) :
    SortedBelow (sweep values i) (i + 1) := by
  have swept :
      SortedBelow (ExchangeSort.sweep values i) i ∧
        DominatedBelow (ExchangeSort.sweep values i) i n :=
    foldl_invariant
      (fun j current =>
        SortedBelow current i ∧ DominatedBelow current i j)
      (fun current j => ExchangeSort.compareExchange current i j) values
      ⟨sorted, fun _ impossible => absurd impossible (Nat.not_lt_zero _)⟩
      fun _ _ held =>
        ⟨held.1.compareExchange held.2, held.2.compareExchange⟩
  intro p q before inside
  rcases Nat.lt_succ_iff_lt_or_eq.mp inside with below | last
  · exact swept.1 p q before below
  · rw [Fin.ext last]
    exact swept.2 p p.isLt

end Turn

/-- Sorting puts the entries in order. -/
theorem exchangeSort_monotone (values : Fin n → α) :
    Monotone (exchangeSort values) := by
  have sorted : SortedBelow (exchangeSort values) n :=
    foldl_invariant (fun i current => SortedBelow current i) sweep values
      (fun _ _ _ impossible => absurd impossible (Nat.not_lt_zero _))
      fun _ _ held => held.sweep
  intro p q before
  rcases before.lt_or_eq with less | same
  · exact sorted p q less q.isLt
  · rw [same]

end ExchangeSort
