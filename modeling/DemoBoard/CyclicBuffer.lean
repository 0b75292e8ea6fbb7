import Mathlib.Logic.Function.Basic
import Mathlib.Data.List.Basic

namespace DemoBoard

/-!
# Cyclic buffer

Model of `utility/collection/CyclicBuffer.c` over any kind of elements.  Its
contents are a first-in first-out queue of at most `capacity - 1` elements.
-/

/-- `CyclicBuffer_Buffer_t` -/
structure CyclicBuffer (α : Type*) where
  capacity : Nat
  elementStorage : Nat → α
  indexIn : Nat
  indexOut : Nat
  capacity_gt : 1 < capacity
  capacity_le : capacity ≤ 256
  indexIn_lt : indexIn < capacity
  indexOut_lt : indexOut < capacity

namespace CyclicBuffer

variable {α : Type*}

/-- `RESTRICT_BOUND` -/
def restrictBound (capacity index : Nat) : Nat :=
  if index ≥ capacity then 0 else index

theorem restrictBound_lt
    {capacity : Nat}
    (capacityGt : 1 < capacity)
    (index : Nat) :
    restrictBound capacity index < capacity := by
  rw [restrictBound]
  split <;> omega

/-- `CyclicBuffer_Create` -/
def create
    (elementStorage : Nat → α) (capacity : Nat)
    (capacity_gt : 1 < capacity) (capacity_le : capacity ≤ 256) :
    CyclicBuffer α where
  capacity := capacity
  elementStorage := elementStorage
  indexIn := 0
  indexOut := 0
  capacity_gt := capacity_gt
  capacity_le := capacity_le
  indexIn_lt := by omega
  indexOut_lt := by omega

/-- `CyclicBuffer_IsEmpty` -/
def isEmpty (queue : CyclicBuffer α) : Bool :=
  queue.indexIn = queue.indexOut

/-- `CyclicBuffer_IsFull` -/
def isFull (queue : CyclicBuffer α) : Bool :=
  restrictBound queue.capacity (queue.indexIn + 1) = queue.indexOut

/-- `CyclicBuffer_Enqueue` -/
def enqueue (queue : CyclicBuffer α) (element : α) :
    CyclicBuffer α × Bool :=
  if queue.isFull then
    (queue, false)
  else
    ({ queue with
        elementStorage :=
          Function.update queue.elementStorage queue.indexIn element
        indexIn := restrictBound queue.capacity (queue.indexIn + 1)
        indexIn_lt := restrictBound_lt queue.capacity_gt _ }, true)

/-- `CyclicBuffer_Dequeue` -/
def dequeue (queue : CyclicBuffer α) : CyclicBuffer α × Option α :=
  if queue.isEmpty then
    (queue, none)
  else
    ({ queue with
        indexOut := restrictBound queue.capacity (queue.indexOut + 1)
        indexOut_lt := restrictBound_lt queue.capacity_gt _ },
      some (queue.elementStorage queue.indexOut))

/-- The number of queued elements. -/
def length (queue : CyclicBuffer α) : Nat :=
  if queue.indexOut ≤ queue.indexIn then
    queue.indexIn - queue.indexOut
  else
    queue.indexIn + queue.capacity - queue.indexOut

/-- The index of a queued element. -/
def place (queue : CyclicBuffer α) (offset : Nat) : Nat :=
  if queue.indexOut + offset < queue.capacity then
    queue.indexOut + offset
  else
    queue.indexOut + offset - queue.capacity

/-- The queued elements, oldest first. -/
def contents (queue : CyclicBuffer α) : List α :=
  (List.range queue.length).map fun offset =>
    queue.elementStorage (queue.place offset)

@[simp] theorem length_contents (queue : CyclicBuffer α) :
    queue.contents.length = queue.length := by
  simp [contents]

@[simp] theorem contents_create
    (elementStorage : Nat → α)
    {capacity : Nat}
    (capacityGt : 1 < capacity)
    (capacityLe : capacity ≤ 256) :
    (create elementStorage capacity capacityGt capacityLe).contents = []
    := by
  simp [contents, length, create]

/-- The indices differ exactly while there are elements. -/
theorem indexIn_ne_iff (queue : CyclicBuffer α) :
    queue.indexIn ≠ queue.indexOut ↔ queue.contents ≠ [] := by
  have inside := queue.indexIn_lt
  have outside := queue.indexOut_lt
  rw [ne_eq, ne_eq, ← List.length_eq_zero_iff, length_contents, length]
  split <;> omega

theorem isEmpty_iff (queue : CyclicBuffer α) :
    queue.isEmpty = true ↔ queue.contents = [] := by
  rw [isEmpty, decide_eq_true_eq]
  exact not_iff_not.mp queue.indexIn_ne_iff

/-- There is room for at most `capacity - 1` elements. -/
theorem isFull_iff (queue : CyclicBuffer α) :
    queue.isFull = true ↔ queue.contents.length + 1 = queue.capacity := by
  have inside := queue.indexIn_lt
  have outside := queue.indexOut_lt
  have capacityGt := queue.capacity_gt
  rw [length_contents, isFull, length, restrictBound, decide_eq_true_eq]
  split <;> split <;> omega

/-- An element is added behind the others. -/
theorem contents_enqueue
    (queue : CyclicBuffer α)
    (room : queue.isFull = false)
    (element : α) :
    (queue.enqueue element).2 = true ∧
      (queue.enqueue element).1.contents =
        queue.contents ++ [element] := by
  have inside := queue.indexIn_lt
  have outside := queue.indexOut_lt
  have capacityGt := queue.capacity_gt
  have notFull := room
  rw [isFull, restrictBound, decide_eq_false_iff_not] at notFull
  rw [enqueue, if_neg (by simp [room])]
  refine ⟨rfl, ?_⟩
  have grown :
      CyclicBuffer.length
        { queue with
          elementStorage :=
            Function.update queue.elementStorage queue.indexIn element
          indexIn := restrictBound queue.capacity (queue.indexIn + 1)
          indexIn_lt := restrictBound_lt queue.capacity_gt _ } =
        queue.length + 1 := by
    simp only [length, restrictBound]
    split at notFull <;> split <;> grind
  rw [contents, grown, List.range_succ, List.map_append, contents]
  congr 1
  · apply List.map_congr_left
    intro offset member
    have small := List.mem_range.mp member
    have other : queue.place offset ≠ queue.indexIn := by
      rw [length] at small
      rw [place]
      split at small <;> split <;> omega
    exact Function.update_of_ne other _ _
  · have last : queue.place queue.length = queue.indexIn := by
      rw [place, length]
      split <;> split <;> omega
    simp only [List.map_cons, List.map_nil]
    rw [show CyclicBuffer.place
      { queue with
        elementStorage :=
          Function.update queue.elementStorage queue.indexIn element
        indexIn := restrictBound queue.capacity (queue.indexIn + 1)
        indexIn_lt := restrictBound_lt queue.capacity_gt _ }
      queue.length = queue.indexIn from last, Function.update_self]

theorem indexOut_enqueue (queue : CyclicBuffer α) (element : α) :
    (queue.enqueue element).1.indexOut = queue.indexOut := by
  rw [enqueue]
  split <;> rfl

/-- An element is rejected when there is no room. -/
theorem enqueue_full
    (queue : CyclicBuffer α)
    (full : queue.isFull = true)
    (element : α) :
    queue.enqueue element = (queue, false) :=
  if_pos full

theorem dequeue_empty
    (queue : CyclicBuffer α)
    (empty : queue.contents = []) :
    queue.dequeue = (queue, none) :=
  if_pos (queue.isEmpty_iff.mpr empty)

/-- The oldest element is taken out. -/
theorem contents_dequeue
    (queue : CyclicBuffer α)
    {element : α}
    {rest : List α}
    (some : queue.contents = element :: rest) :
    queue.dequeue.2 = Option.some element ∧
      queue.dequeue.1.contents = rest := by
  have inside := queue.indexIn_lt
  have outside := queue.indexOut_lt
  have notEmpty : queue.isEmpty = false := by
    rw [← Bool.not_eq_true, isEmpty_iff, some]
    simp
  have different := notEmpty
  simp only [isEmpty, decide_eq_false_iff_not] at different
  have shrunk :
      CyclicBuffer.length
        { queue with
          indexOut := restrictBound queue.capacity (queue.indexOut + 1)
          indexOut_lt := restrictBound_lt queue.capacity_gt _ } + 1 =
        queue.length := by
    simp only [length, restrictBound]
    split <;> split <;> split <;> omega
  rw [dequeue, if_neg (by simp [notEmpty])]
  rw [contents, ← shrunk, List.range_succ_eq_map, List.map_cons,
    List.cons.injEq] at some
  obtain ⟨first, others⟩ := some
  refine ⟨?_, ?_⟩
  · have start : queue.place 0 = queue.indexOut := if_pos (by omega)
    rw [← first, start]
  · rw [← others, contents, List.map_map]
    apply List.map_congr_left
    intro offset member
    have small := List.mem_range.mp member
    simp only [Function.comp_apply, place, restrictBound]
    congr 1
    simp only [length, restrictBound] at small
    split at small <;> split <;> split <;> grind

end CyclicBuffer

end DemoBoard
