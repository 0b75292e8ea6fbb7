import Mathlib.Data.List.Induction
import DemoBoard.CyclicBuffer

namespace DemoBoard

/-!
# Runs of the cyclic buffer

A queue of bounded length is a list with a limit.  The cyclic buffer refines
it: every run of the buffer has the outcomes of the same run of the list, and
the laws of the list carry over to the buffer.
-/

/-- An operation of a client of a queue. -/
inductive QueueOperation (α : Type*) where
  | enqueue (element : α)
  | dequeue
  | empty
  deriving Repr, DecidableEq

/-- What a client observes of an operation. -/
inductive QueueEvent (α : Type*) where
  | enqueued (element : α)
  | rejected
  | dequeued (element : α)
  | missing
  | emptied
  deriving Repr, DecidableEq

namespace QueueEvent

variable {α : Type*}

/-- The elements that were taken out, in this order. -/
def delivered (events : List (QueueEvent α)) : List α :=
  events.filterMap fun
    | dequeued element => some element
    | _ => none

/--
The accepted elements that no `emptied` has discarded, and the number of them
that are still stored.  What is discarded are the last accepted elements, as
many as are stored.
-/
def survive
    (accounts : List α × Nat) : QueueEvent α → List α × Nat
  | enqueued element => (accounts.1 ++ [element], accounts.2 + 1)
  | rejected => accounts
  | dequeued _ => (accounts.1, accounts.2 - 1)
  | missing => accounts
  | emptied => (accounts.1.take (accounts.1.length - accounts.2), 0)

/-- The accepted elements that were not discarded. -/
def survivors (events : List (QueueEvent α)) : List α :=
  (events.foldl survive ([], 0)).1

/-- The number of elements that are accepted and neither out nor discarded. -/
def stored (events : List (QueueEvent α)) : Nat :=
  (events.foldl survive ([], 0)).2

theorem delivered_append (events : List (QueueEvent α)) (event : QueueEvent α) :
    delivered (events ++ [event]) =
      delivered events ++ delivered [event] := by
  rw [delivered, List.filterMap_append]
  rfl

/-- The accounts after one more event. -/
theorem survive_append (events : List (QueueEvent α)) (event : QueueEvent α) :
    survivors (events ++ [event]) =
        (survive (survivors events, stored events) event).1 ∧
      stored (events ++ [event]) =
        (survive (survivors events, stored events) event).2 := by
  simp only [survivors, stored, List.foldl_append, List.foldl_cons,
    List.foldl_nil, and_self]

end QueueEvent

/-! ## The bounded list -/

namespace BoundedFifo

variable {α : Type*}

/-- An operation on a list of at most `limit` elements. -/
def step (limit : Nat) (contents : List α) :
    QueueOperation α → List α × QueueEvent α
  | .enqueue element =>
      if contents.length < limit then
        (contents ++ [element], .enqueued element)
      else
        (contents, .rejected)
  | .dequeue =>
      match contents with
      | [] => ([], .missing)
      | element :: rest => (rest, .dequeued element)
  | .empty => ([], .emptied)

/-- The list and the events after a number of operations. -/
def run (limit : Nat) (operations : List (QueueOperation α)) :
    List α × List (QueueEvent α) :=
  operations.foldl
    (fun state operation =>
      let outcome := step limit state.1 operation
      (outcome.1, state.2 ++ [outcome.2]))
    ([], [])

/-- What was delivered and is stored is what was accepted and not discarded. -/
structure Accounted
    (limit : Nat) (contents : List α) (events : List (QueueEvent α)) :
    Prop where
  survivors_eq :
    QueueEvent.delivered events ++ contents = QueueEvent.survivors events
  stored_eq : QueueEvent.stored events = contents.length
  length_le : contents.length ≤ limit

section Step

variable {limit : Nat}
variable {contents : List α}
variable {events : List (QueueEvent α)}

theorem accounted_nil : Accounted (α := α) limit [] [] where
  survivors_eq := rfl
  stored_eq := rfl
  length_le := Nat.zero_le _

/-- One operation keeps the accounts. -/
theorem Accounted.step
    (accounted : Accounted limit contents events)
    (operation : QueueOperation α) :
    Accounted limit (step limit contents operation).1
      (events ++ [(BoundedFifo.step limit contents operation).2]) := by
  have survivors := accounted.survivors_eq
  have stored := accounted.stored_eq
  have within := accounted.length_le
  cases operation with
  | enqueue element =>
      rw [BoundedFifo.step]
      split
      · next room =>
          obtain ⟨next, count⟩ :=
            QueueEvent.survive_append events (.enqueued element)
          refine ⟨?_, ?_, ?_⟩
          · rw [next, QueueEvent.delivered_append, QueueEvent.survive,
              ← survivors, List.append_assoc, List.append_assoc]
            rfl
          · rw [count, QueueEvent.survive, stored, List.length_append,
              List.length_singleton]
          · rw [List.length_append, List.length_singleton]
            exact room
      · obtain ⟨next, count⟩ := QueueEvent.survive_append events .rejected
        refine ⟨?_, ?_, within⟩
        · rw [next, QueueEvent.delivered_append, QueueEvent.survive,
            ← survivors]
          exact congrArg (· ++ contents) (List.append_nil _)
        · rw [count]
          exact stored
  | dequeue =>
      cases contents with
      | nil =>
          obtain ⟨next, count⟩ :=
            QueueEvent.survive_append events .missing
          refine ⟨?_, ?_, within⟩
          · rw [BoundedFifo.step, next, QueueEvent.delivered_append,
              QueueEvent.survive, ← survivors]
            exact congrArg (· ++ []) (List.append_nil _)
          · rw [BoundedFifo.step, count]
            exact stored
      | cons element rest =>
          obtain ⟨next, count⟩ :=
            QueueEvent.survive_append events (.dequeued element)
          refine ⟨?_, ?_, ?_⟩
          · rw [BoundedFifo.step, next, QueueEvent.delivered_append,
              QueueEvent.survive, ← survivors, List.append_assoc]
            rfl
          · rw [BoundedFifo.step, count, QueueEvent.survive, stored,
              List.length_cons, Nat.add_sub_cancel]
          · rw [List.length_cons] at within
            exact Nat.le_of_succ_le within
  | empty =>
      obtain ⟨next, count⟩ := QueueEvent.survive_append events .emptied
      refine ⟨?_, ?_, Nat.zero_le _⟩
      · rw [BoundedFifo.step, next, QueueEvent.delivered_append,
          QueueEvent.survive, stored, ← survivors, List.length_append,
          Nat.add_sub_cancel, List.take_left]
        simp [QueueEvent.delivered]
      · rw [BoundedFifo.step, count]
        rfl

end Step

/-- The accounts hold after every run. -/
theorem run_accounted
    (limit : Nat)
    (operations : List (QueueOperation α)) :
    Accounted limit (run limit operations).1 (run limit operations).2 := by
  induction operations using List.reverseRecOn with
  | nil => exact accounted_nil
  | append_singleton operations operation inductionHypothesis =>
      rw [run, List.foldl_append]
      exact inductionHypothesis.step operation

end BoundedFifo

/-! ## The cyclic buffer -/

namespace CyclicBuffer

variable {α : Type*}

/-- `CyclicBuffer_Empty` -/
def empty (queue : CyclicBuffer α) : CyclicBuffer α :=
  { queue with
    indexIn := 0
    indexOut := 0
    indexIn_lt := Nat.lt_of_lt_of_le Nat.zero_lt_one
      (Nat.le_of_lt queue.capacity_gt)
    indexOut_lt := Nat.lt_of_lt_of_le Nat.zero_lt_one
      (Nat.le_of_lt queue.capacity_gt) }

theorem contents_empty (queue : CyclicBuffer α) :
    queue.empty.contents = [] := by
  simp [contents, length, empty]

/-- The number of stored elements is below the capacity. -/
theorem length_lt (queue : CyclicBuffer α) :
    queue.contents.length < queue.capacity := by
  have inside := queue.indexIn_lt
  have outside := queue.indexOut_lt
  rw [length_contents, length]
  split <;> omega

theorem capacity_enqueue (queue : CyclicBuffer α) (element : α) :
    (queue.enqueue element).1.capacity = queue.capacity := by
  rw [enqueue]
  split <;> rfl

theorem capacity_dequeue (queue : CyclicBuffer α) :
    queue.dequeue.1.capacity = queue.capacity := by
  rw [dequeue]
  split <;> rfl

/-- A client with the variable that `CyclicBuffer_Dequeue` writes to. -/
structure Client (α : Type*) where
  queue : CyclicBuffer α
  element : α
  events : List (QueueEvent α)

namespace Client

/-- An operation of the client. -/
def step (client : Client α) : QueueOperation α → Client α
  | .enqueue element =>
      let outcome := client.queue.enqueue element
      { client with
        queue := outcome.1
        events := client.events ++
          [if outcome.2 then .enqueued element else .rejected] }
  | .dequeue =>
      let outcome := client.queue.dequeue
      match outcome.2 with
      | some element =>
          { queue := outcome.1
            element := element
            events := client.events ++ [.dequeued element] }
      | none =>
          { client with
            queue := outcome.1
            events := client.events ++ [.missing] }
  | .empty =>
      { client with
        queue := client.queue.empty
        events := client.events ++ [.emptied] }

/-- A client that has created its queue. -/
def start
    (elementStorage : Nat → α) (capacity : Nat)
    (capacityGt : 1 < capacity) (capacityLe : capacity ≤ 256)
    (element : α) : Client α where
  queue := create elementStorage capacity capacityGt capacityLe
  element := element
  events := []

/-- A number of operations of the client. -/
def run (client : Client α) (operations : List (QueueOperation α)) :
    Client α :=
  operations.foldl step client

/-- The client sees what the bounded list does. -/
structure Refines
    (capacity : Nat) (client : Client α)
    (list : List α × List (QueueEvent α)) : Prop where
  capacity_eq : client.queue.capacity = capacity
  contents_eq : client.queue.contents = list.1
  events_eq : client.events = list.2

/-- An operation of the buffer is the operation of the bounded list. -/
theorem Refines.step
    {capacity : Nat}
    {client : Client α}
    {contents : List α}
    {events : List (QueueEvent α)}
    (refines : Refines capacity client (contents, events))
    (operation : QueueOperation α) :
    Refines capacity (client.step operation)
      ((BoundedFifo.step (capacity - 1) contents operation).1,
        events ++
          [(BoundedFifo.step (capacity - 1) contents operation).2]) := by
  obtain ⟨capacity_eq, contents_eq, events_eq⟩ := refines
  have inside := client.queue.length_lt
  have full := client.queue.isFull_iff
  rw [contents_eq, capacity_eq] at inside full
  cases operation with
  | enqueue element =>
      have sameCapacity := client.queue.capacity_enqueue element
      cases isFull : client.queue.isFull with
      | true =>
          have noRoom := full.mp isFull
          have rejected := client.queue.enqueue_full isFull element
          rw [BoundedFifo.step, if_neg (by dsimp only at noRoom; omega)]
          refine ⟨sameCapacity.trans capacity_eq, ?_, ?_⟩
          · rw [Client.step, rejected]
            exact contents_eq
          · rw [Client.step, rejected, events_eq]
            rfl
      | false =>
          have room : contents.length < capacity - 1 := by
            have notLast : ¬ contents.length + 1 = capacity := by
              rw [← full, isFull]
              exact Bool.false_ne_true
            dsimp only at inside
            omega
          obtain ⟨accepted, appended⟩ :=
            client.queue.contents_enqueue isFull element
          rw [BoundedFifo.step, if_pos room]
          refine ⟨sameCapacity.trans capacity_eq, ?_, ?_⟩
          · rw [Client.step, appended, contents_eq]
          · rw [Client.step, accepted, events_eq]
            rfl
  | dequeue =>
      have sameCapacity := client.queue.capacity_dequeue
      cases contents with
      | nil =>
          have missing := client.queue.dequeue_empty contents_eq
          refine ⟨?_, ?_, ?_⟩
          · rw [Client.step, missing]
            exact capacity_eq
          · rw [Client.step, missing]
            exact contents_eq
          · rw [Client.step, missing, events_eq]
            rfl
      | cons element rest =>
          obtain ⟨taken, remaining⟩ :=
            client.queue.contents_dequeue contents_eq
          refine ⟨?_, ?_, ?_⟩
          · simp only [Client.step, taken]
            exact sameCapacity.trans capacity_eq
          · simp only [Client.step, taken]
            exact remaining
          · simp only [Client.step, taken, events_eq]
            rfl
  | empty =>
      refine ⟨capacity_eq, client.queue.contents_empty, ?_⟩
      rw [Client.step, events_eq]
      rfl

/-- A run of the buffer is the run of the bounded list. -/
theorem run_refines
    (elementStorage : Nat → α)
    {capacity : Nat}
    (capacityGt : 1 < capacity)
    (capacityLe : capacity ≤ 256)
    (element : α)
    (operations : List (QueueOperation α)) :
    Refines capacity
      ((start elementStorage capacity capacityGt capacityLe element).run
        operations)
      (BoundedFifo.run (capacity - 1) operations) := by
  induction operations using List.reverseRecOn with
  | nil =>
      exact
        { capacity_eq := rfl
          contents_eq := contents_create elementStorage capacityGt capacityLe
          events_eq := rfl }
  | append_singleton operations operation inductionHypothesis =>
      rw [run, List.foldl_append, BoundedFifo.run, List.foldl_append]
      exact inductionHypothesis.step operation

/-- An enqueue that fails changes nothing. -/
theorem enqueue_eq_of_false
    (queue : CyclicBuffer α)
    (element : α) :
    ((queue.enqueue element).2 = false ↔ queue.isFull = true) ∧
      ((queue.enqueue element).2 = false →
        (queue.enqueue element).1 = queue) := by
  rw [enqueue]
  split <;> simp_all

/-- A dequeue that fails changes neither the queue nor the variable. -/
theorem step_dequeue_missing
    (client : Client α)
    (missing : client.queue.dequeue.2 = none) :
    (client.step .dequeue).queue = client.queue ∧
      (client.step .dequeue).element = client.element := by
  have empty : client.queue.contents = [] := by
    by_contra some
    obtain ⟨element, rest, shape⟩ := List.exists_cons_of_ne_nil some
    rw [(client.queue.contents_dequeue shape).1] at missing
    cases missing
  rw [Client.step, client.queue.dequeue_empty empty]
  exact ⟨rfl, rfl⟩

/--
After every run the indices are below the capacity, the client has seen what a
list of at most `capacity - 1` elements shows, the elements taken out and those
still stored are the accepted and not discarded ones in their order, and the
operations fail exactly when the list is full or empty, without a change.
-/
theorem run_bounded_fifo
    (elementStorage : Nat → α)
    (capacity : Nat)
    (capacityGt : 1 < capacity)
    (capacityLe : capacity ≤ 256)
    (element : α)
    (operations : List (QueueOperation α)) :
    let client :=
      (start elementStorage capacity capacityGt capacityLe element).run
        operations
    let queue := client.queue
    let stored := QueueEvent.stored client.events
    (queue.indexIn < capacity ∧ queue.indexOut < capacity) ∧
    client.events = (BoundedFifo.run (capacity - 1) operations).2 ∧
    QueueEvent.delivered client.events ++ queue.contents =
      QueueEvent.survivors client.events ∧
    (∀ next,
      ((queue.enqueue next).2 = false ↔ stored = capacity - 1) ∧
        ((queue.enqueue next).2 = false →
          (queue.enqueue next).1 = queue)) ∧
    ((queue.dequeue.2 = none ↔ stored = 0) ∧
      (queue.dequeue.2 = none →
        (client.step .dequeue).queue = queue ∧
          (client.step .dequeue).element = client.element)) ∧
    (queue.isEmpty = true ↔ stored = 0) ∧
    (queue.isFull = true ↔ stored = capacity - 1) := by
  intro client queue stored
  have refines := run_refines elementStorage capacityGt capacityLe element
    operations
  have accounted := BoundedFifo.run_accounted (capacity - 1) operations
  have stored_eq : stored = queue.contents.length := by
    rw [show stored = QueueEvent.stored client.events from rfl,
      refines.events_eq, accounted.stored_eq, ← refines.contents_eq]
  have inside := queue.indexIn_lt
  have outside := queue.indexOut_lt
  have sameCapacity : queue.capacity = capacity := refines.capacity_eq
  have isFull : queue.isFull = true ↔ stored = capacity - 1 := by
    rw [queue.isFull_iff, sameCapacity, stored_eq]
    omega
  have isEmpty : queue.isEmpty = true ↔ stored = 0 := by
    rw [queue.isEmpty_iff, stored_eq, List.length_eq_zero_iff]
  refine ⟨⟨by omega, by omega⟩, refines.events_eq, ?_, ?_, ?_, isEmpty,
    isFull⟩
  · rw [show queue.contents = _ from refines.contents_eq,
      refines.events_eq]
    exact accounted.survivors_eq
  · intro next
    obtain ⟨fails, unchanged⟩ := enqueue_eq_of_false queue next
    exact ⟨fails.trans isFull, unchanged⟩
  · refine ⟨?_, step_dequeue_missing client⟩
    rw [← isEmpty, dequeue]
    split <;> simp_all

/-- Two elements, one of them discarded, through two slots. -/
theorem run_bounded_fifo_two :
    let client :=
      (start (fun _ => 0) 2 (by decide) (by decide) 0).run
        [.enqueue 5, .dequeue, .enqueue 6, .empty, .enqueue 7]
    QueueEvent.delivered client.events ++ client.queue.contents =
      QueueEvent.survivors client.events ∧
    QueueEvent.survivors client.events = [5, 7] :=
  ⟨(run_bounded_fifo (fun _ => 0) 2 (by decide) (by decide) 0
    [.enqueue 5, .dequeue, .enqueue 6, .empty, .enqueue 7]).2.2.1,
    by decide⟩

end Client

end CyclicBuffer

end DemoBoard
