import Mathlib.Data.Set.Basic

namespace DemoBoard.RoundRobin

/-!
# Round robin

A chooser that sets aside whoever it has chosen, and allows everyone again
once nobody who is ready is left.  How often others are chosen before one that
keeps waiting.
-/

variable {α : Type*}

open Classical in
/-- Who may be chosen among those that are ready. -/
noncomputable def refill (everyone allowed ready : Set α) : Set α :=
  if allowed ∩ ready = ∅ then everyone else allowed

/-- One choice, and who is allowed after it. -/
structure Chooses
    (everyone allowed ready : Set α) (chosen : α) (next : Set α) :
    Prop where
  chosen_ready : chosen ∈ ready
  chosen_allowed : chosen ∈ refill everyone allowed ready
  next_eq : next = refill everyone allowed ready \ {chosen}

open Classical in
/-- How often `other` can still be chosen before `waiting`. -/
noncomputable def credit (allowed : Set α) (waiting other : α) : Nat :=
  (if other ∈ allowed then 1 else 0) + if waiting ∈ allowed then 0 else 1

theorem credit_le_two (allowed : Set α) (waiting other : α) :
    credit allowed waiting other ≤ 2 := by
  unfold credit
  split <;> split <;> omega

/-- One that was set aside is chosen after a refill only. -/
theorem credit_le_one
    {allowed : Set α}
    {waiting other : α}
    (setAside : other ∉ allowed) :
    credit allowed waiting other ≤ 1 := by
  unfold credit
  rw [if_neg setAside]
  split <;> omega

/-- A choice of another one uses up the credit of the chosen one. -/
theorem Chooses.credit_add_le
    [DecidableEq α]
    {everyone allowed ready next : Set α}
    {chosen waiting : α}
    (chooses : Chooses everyone allowed ready chosen next)
    (known : waiting ∈ everyone)
    (waits : waiting ∈ ready)
    (passed : chosen ≠ waiting)
    (other : α) :
    credit next waiting other + (if chosen = other then 1 else 0) ≤
      credit allowed waiting other := by
  classical
  obtain ⟨_, mayChoose, rfl⟩ := chooses
  have waitingKept : waiting ∈ refill everyone allowed ready \ {chosen} ↔
      waiting ∈ refill everyone allowed ready :=
    ⟨fun kept => kept.1, fun kept => ⟨kept, Ne.symm passed⟩⟩
  unfold credit
  by_cases nobody : allowed ∩ ready = ∅
  · -- a refill: `waiting` was set aside, and is allowed from now on
    have setAside : waiting ∉ allowed := fun inside =>
      Set.notMem_empty waiting (nobody ▸ ⟨inside, waits⟩)
    have refilled : refill everyone allowed ready = everyone :=
      if_pos nobody
    have allowedNow : waiting ∈ refill everyone allowed ready := by
      rw [refilled]
      exact known
    rw [if_pos (waitingKept.mpr allowedNow), if_neg setAside]
    by_cases same : chosen = other
    · subst same
      rw [if_neg fun kept => kept.2 rfl, if_pos rfl]
      omega
    · rw [if_neg same]
      split <;> omega
  · have same : refill everyone allowed ready = allowed := if_neg nobody
    rw [same] at mayChoose waitingKept ⊢
    simp only [waitingKept]
    by_cases isOther : chosen = other
    · subst isOther
      rw [if_neg fun kept => kept.2 rfl, if_pos rfl, if_pos mayChoose]
      omega
    · have otherKept : other ∈ allowed \ {chosen} ↔ other ∈ allowed :=
        ⟨fun kept => kept.1, fun kept => ⟨kept, Ne.symm isOther⟩⟩
      simp only [otherKept, if_neg isOther]
      omega

end DemoBoard.RoundRobin
