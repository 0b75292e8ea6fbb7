import DemoBoard.MessageBroker
import DemoBoard.TransitionRuns

namespace DemoBoard

open IntrusiveList TransitionRuns

/-!
# The linked list

The list of the message broker with all its operations.  It is circular through
its embedded head node, and a node that is in no list has no link.  The loops
test the link of the current node against the head, so the search of
`LinkedList_Remove` reaches the last node but does not look at it.
-/

namespace LinkedList

/-- Why an operation does not return. -/
inductive Failure where
  | assertion
  | outOfFuel
  deriving Repr, DecidableEq

/-- The loop of `LinkedList_Append`. -/
def findLast (list : LinkedList) : Nat → Node → Option Node
  | 0, _ => none
  | fuel + 1, current =>
      if list.next current ≠ .head then
        findLast list fuel (list.next current)
      else
        some current

/-- `LinkedList_Append` -/
def append (fuel : Nat) (list : LinkedList) (node : Node) :
    Except Failure LinkedList :=
  if list.next node ≠ .null then
    .error .assertion
  else
    match findLast list fuel .head with
    | none => .error .outOfFuel
    | some current =>
        .ok
          { next :=
              Function.update
                (Function.update list.next node (list.next current))
                current node
            nrOfElements := (list.nrOfElements + 1) % 65536 }

/-- The loop of `LinkedList_Remove`; the node before the found one. -/
def search (list : LinkedList) (node : Node) :
    Nat → Node → Node → Option (Option Node)
  | 0, _, _ => none
  | fuel + 1, previous, current =>
      if list.next current ≠ .head then
        if current = node then
          some (some previous)
        else
          search list node fuel current (list.next current)
      else
        some none

/-- `LinkedList_Remove` -/
def remove (fuel : Nat) (list : LinkedList) (node : Node) :
    Except Failure (LinkedList × Bool) :=
  if node = .head then
    .error .assertion
  else
    match search list node fuel .head .head with
    | none => .error .outOfFuel
    | some none => .ok (list, false)
    | some (some previous) =>
        .ok
          ({ next :=
              Function.update
                (Function.update list.next previous (list.next node))
                node .null
             nrOfElements := (list.nrOfElements + 65535) % 65536 },
            true)

/-- The loop of `LinkedList_Empty`. -/
def unlinkAll :
    Nat → (Node → Node) → Node → Option ((Node → Node) × Node)
  | 0, _, _ => none
  | fuel + 1, next, current =>
      if next current ≠ .head then
        unlinkAll fuel (Function.update next current .null) (next current)
      else
        some (next, current)

/-- `LinkedList_Empty` -/
def empty (fuel : Nat) (list : LinkedList) : Except Failure LinkedList :=
  match unlinkAll fuel list.next .head with
  | none => .error .outOfFuel
  | some (next, current) =>
      -- The last element needs to be reset as well.
      .ok
        { next :=
            Function.update (Function.update next current .null)
              .head .head
          nrOfElements := 0 }

/-- The nodes that `LinkedList_ForEach` hands to its callback. -/
def forEach (list : LinkedList) : Nat → Node → Option (List Node)
  | 0, _ => none
  | fuel + 1, current =>
      if list.next current ≠ .head then
        (forEach list fuel (list.next current)).map
          (list.next current :: ·)
      else
        some []

/-- The nodes that calls of `LinkedList_Iterate` store in the iterator. -/
def iterated (list : LinkedList) :
    Nat → LinkedListIterator → Option (List Node)
  | 0, _ => none
  | fuel + 1, iterator =>
      if iterator.hasMoreElements then
        (iterated list fuel (list.iterate iterator)).map
          ((list.iterate iterator).node :: ·)
      else
        some []

/-- A call of a client. -/
inductive Operation where
  | append (node : Node)
  | insert (node : Node)
  | remove (node : Node)
  | empty

/-- What a call does and returns. -/
def step (fuel : Nat) (list : LinkedList) :
    Operation → Except Failure (LinkedList × Option Bool)
  | .append node => do
      let list ← append fuel list node
      .ok (list, none)
  | .insert node =>
      match list.insert node with
      | none => .error .assertion
      | some list => .ok (list, none)
  | .remove node => do
      let removed ← remove fuel list node
      .ok (removed.1, some removed.2)
  | .empty => do
      let list ← empty fuel list
      .ok (list, none)

/-- The sequence of nodes after a call. -/
def Operation.apply (nodes : List Node) : Operation → List Node
  | .append node => nodes ++ [node]
  | .insert node => node :: nodes
  | .remove node => nodes.erase node
  | .empty => []

/-- What a call is expected to return. -/
def Operation.result (nodes : List Node) : Operation → Option Bool
  | .remove node => some (nodes.contains node)
  | _ => none

/-- The sequence of nodes after some calls. -/
def content (operations : List Operation) : List Node :=
  operations.foldl Operation.apply []

/-- Nodes that are added are in no list; the head is not removed. -/
def Admissible (list : LinkedList) : Operation → Prop
  | .append node => node ≠ .null ∧ list.next node = .null
  | .insert node => node ≠ .null ∧ list.next node = .null
  | .remove node => node ≠ .head
  | .empty => True

/-- The calls on a list from its creation on. -/
def listSystem : System LinkedList Operation where
  start := fun list => list = create
  step := fun list operation next =>
    Admissible list operation ∧
      ∃ bound result, ∀ fuel, bound < fuel →
        step fuel list operation = .ok (next, result)

/-- Neither the last node is removed nor the counter overflows. -/
def Proper (list : LinkedList) : Operation → Prop
  | .append _ => list.nrOfElements < 65535
  | .insert _ => list.nrOfElements < 65535
  | .remove node => list.next node ≠ .head
  | .empty => True

/-- The list holds a sequence of nodes. -/
structure Holds (list : LinkedList) (nodes : List Node) : Prop where
  /-- Every iteration that is long enough visits exactly the nodes. -/
  iterated : ∀ fuel, nodes.length < fuel →
    LinkedList.iterated list fuel list.iteratorInit = some nodes
  forEach : ∀ fuel, nodes.length < fuel →
    LinkedList.forEach list fuel .head = some nodes
  nrOfElements : list.nrOfElements = nodes.length
  distinct : nodes.Nodup
  unlinked : ∀ node, node ∉ nodes → node ≠ .head →
    list.next node = .null

/-- A call returns, changes the sequence and reports as it should. -/
def Refines
    (list : LinkedList) (nodes : List Node) (operation : Operation) :
    Prop :=
  ∀ fuel, nodes.length < fuel →
    ∃ next, step fuel list operation =
        .ok (next, operation.result nodes) ∧
      Holds next (operation.apply nodes)

/-- The invariant of a list under calls that meet the condition. -/
structure Ring (list : LinkedList) (nodes : List Node) : Prop where
  circular : Circular list.next .head nodes
  nrOfElements : list.nrOfElements = nodes.length
  unlinked : ∀ node, node ∉ nodes → node ≠ .head →
    list.next node = .null
  linked : .null ∉ nodes
  small : nodes.length < 65536

section Loops

variable {list : LinkedList}
variable {nodes front after rest : List Node}
variable {current previous node : Node}
variable {fuel : Nat}

/-- The search for the last node. -/
theorem findLast_eq
    (threaded : Threaded list.next .head (list.next current) after)
    (enough : after.length < fuel) :
    ∃ front last, current :: after = front ++ [last] ∧
      findLast list fuel current = some last := by
  induction after generalizing current fuel with
  | nil =>
      obtain ⟨fewer, rfl⟩ := Nat.exists_eq_add_of_lt enough
      have last := threaded.eq_nil_iff.mp rfl
      exact ⟨[], current, rfl, if_neg (not_not_intro last)⟩
  | cons second later inductionHypothesis =>
      obtain ⟨fewer, rfl⟩ := Nat.exists_eq_add_of_lt enough
      have notLast := threaded.head_ne_stop
      have second_eq := threaded.head_of_cons
      obtain ⟨front, last, shape, found⟩ :=
        @inductionHypothesis (list.next current)
          ((second :: later).length + fewer)
          (by rw [← second_eq]; exact threaded.tail)
          (by simp only [List.length_cons]; omega)
      refine ⟨current :: front, last, ?_, ?_⟩
      · rw [second_eq, shape, List.cons_append]
      · rw [findLast, if_pos notLast, found]

/-- `LinkedList_ForEach` from a node on. -/
theorem forEach_eq
    (threaded : Threaded list.next .head (list.next current) after)
    (enough : after.length < fuel) :
    forEach list fuel current = some after := by
  induction after generalizing current fuel with
  | nil =>
      obtain ⟨fewer, rfl⟩ := Nat.exists_eq_add_of_lt enough
      have last := threaded.eq_nil_iff.mp rfl
      exact if_neg (not_not_intro last)
  | cons second later inductionHypothesis =>
      obtain ⟨fewer, rfl⟩ := Nat.exists_eq_add_of_lt enough
      have notLast := threaded.head_ne_stop
      have second_eq := threaded.head_of_cons
      have visited := @inductionHypothesis (list.next current)
        ((second :: later).length + fewer)
        (by rw [← second_eq]; exact threaded.tail)
        (by simp only [List.length_cons]; omega)
      rw [forEach, if_pos notLast, visited, ← second_eq]
      rfl

/-- `LinkedList_Iterate` from a node on. -/
theorem iterated_eq
    (threaded : Threaded list.next .head (list.next current) after)
    (enough : after.length < fuel) :
    iterated list fuel
        { hasMoreElements := list.next current ≠ .head
          node := current } =
      some after := by
  induction after generalizing current fuel with
  | nil =>
      obtain ⟨fewer, rfl⟩ := Nat.exists_eq_add_of_lt enough
      have last := threaded.eq_nil_iff.mp rfl
      simp [iterated, last]
  | cons second later inductionHypothesis =>
      obtain ⟨fewer, rfl⟩ := Nat.exists_eq_add_of_lt enough
      have notLast := threaded.head_ne_stop
      have second_eq := threaded.head_of_cons
      have visited := @inductionHypothesis (list.next current)
        ((second :: later).length + fewer)
        (by rw [← second_eq]; exact threaded.tail)
        (by simp only [List.length_cons]; omega)
      rw [iterated, if_pos (by simpa using notLast), iterate, visited,
        ← second_eq]
      rfl

/-- A node with another one behind it is found. -/
theorem search_found
    (threaded : Threaded list.next .head (list.next current)
      (front ++ node :: after))
    (different : current ≠ node)
    (notLast : after ≠ [])
    (enough : (front ++ node :: after).length < fuel) :
    ∃ before place, current :: front = before ++ [place] ∧
      search list node fuel previous current = some (some place) := by
  induction front generalizing previous current fuel with
  | nil =>
      obtain ⟨fewer, rfl⟩ := Nat.exists_eq_add_of_lt enough
      have here := threaded.head_of_cons
      have more := threaded.head_ne_stop
      have beyond : list.next node ≠ .head :=
        fun last => notLast (threaded.tail.eq_nil_iff.mpr last)
      refine ⟨[], current, rfl, ?_⟩
      rw [search, if_pos more, if_neg different, ← here]
      simp only [List.nil_append, List.length_cons]
      rw [Nat.add_right_comm, search, if_pos beyond, if_pos rfl]
  | cons second later inductionHypothesis =>
      obtain ⟨fewer, rfl⟩ := Nat.exists_eq_add_of_lt enough
      have more := threaded.head_ne_stop
      have second_eq := threaded.head_of_cons
      have apart : second ≠ node := by
        have nodup := threaded.ids_nodup
        simp only [List.cons_append, List.nodup_cons, List.mem_append,
          List.mem_cons, not_or] at nodup
        exact nodup.1.2.1
      obtain ⟨before, place, shape, found⟩ :=
        @inductionHypothesis (list.next current) current
          ((second :: later ++ node :: after).length + fewer)
          (by rw [← second_eq]; exact threaded.tail)
          (by rw [← second_eq]; exact apart)
          (by simp only [List.cons_append, List.length_cons]; omega)
      refine ⟨current :: before, place, ?_, ?_⟩
      · rw [second_eq, shape, List.cons_append]
      · rw [search, if_pos more, if_neg different, found]

/-- A node that is last or in no list is not found. -/
theorem search_notFound
    (threaded : Threaded list.next .head (list.next current) after)
    (absent : ∀ other ∈ current :: after, list.next other ≠ .head →
      other ≠ node)
    (enough : after.length < fuel) :
    search list node fuel previous current = some none := by
  induction after generalizing previous current fuel with
  | nil =>
      obtain ⟨fewer, rfl⟩ := Nat.exists_eq_add_of_lt enough
      have last := threaded.eq_nil_iff.mp rfl
      exact if_neg (not_not_intro last)
  | cons second later inductionHypothesis =>
      obtain ⟨fewer, rfl⟩ := Nat.exists_eq_add_of_lt enough
      have notLast := threaded.head_ne_stop
      have second_eq := threaded.head_of_cons
      have different := absent current (List.mem_cons_self ..) notLast
      have ended := @inductionHypothesis (list.next current) current
        ((second :: later).length + fewer)
        (by rw [← second_eq]; exact threaded.tail)
        (by
          intro other member
          rw [← second_eq] at member
          exact absent other (List.mem_cons_of_mem _ member))
        (by simp only [List.length_cons]; omega)
      rw [search, if_pos notLast, if_neg different, ended]

/-- The links behind a node are reset. -/
theorem unlinkAll_eq
    {next : Node → Node}
    (threaded : Threaded next .head (next current) after)
    (absent : current ∉ after)
    (enough : after.length < fuel) :
    ∃ links last, unlinkAll fuel next current = some (links, last) ∧
      ∀ node, Function.update links last .null node =
        if node ∈ current :: after then .null else next node := by
  induction after generalizing next current fuel with
  | nil =>
      obtain ⟨fewer, rfl⟩ := Nat.exists_eq_add_of_lt enough
      have last := threaded.eq_nil_iff.mp rfl
      refine ⟨next, current, if_neg (not_not_intro last), ?_⟩
      intro node
      simp [Function.update_apply]
  | cons second later inductionHypothesis =>
      obtain ⟨fewer, rfl⟩ := Nat.exists_eq_add_of_lt enough
      have notLast := threaded.head_ne_stop
      have second_eq := threaded.head_of_cons
      have kept : ∀ node ∈ second :: later,
          Function.update next current .null node = next node := by
        rintro node member
        rw [Function.update_of_ne]
        rintro rfl
        exact absent member
      have here := kept second (List.mem_cons_self ..)
      obtain ⟨links, last, reset, each⟩ :=
        @inductionHypothesis (next current)
          ((second :: later).length + fewer)
          (Function.update next current .null)
          (by
            rw [← second_eq, here]
            exact threaded.tail.congr fun node member =>
              kept node (List.mem_cons_of_mem _ member))
          (by
            rw [← second_eq]
            exact (List.nodup_cons.mp threaded.ids_nodup).1)
          (by simp only [List.length_cons]; omega)
      refine ⟨links, last, ?_, ?_⟩
      · rw [unlinkAll, if_pos notLast, reset]
      · intro node
        rw [each node, ← second_eq]
        by_cases same : node = current
        · simp [same]
        · simp [same]

end Loops

section Operations

variable {list next : LinkedList}
variable {nodes changed before after : List Node}
variable {entry new node : Node}
variable {fuel : Nat}

/-- A created list. -/
theorem ring_create : Ring create [] where
  circular := .nil (by simp [create])
  nrOfElements := rfl
  unlinked := by
    intro node _ different
    simp [create, different]
  linked := nofun
  small := Nat.zero_lt_succ _

/-- The ring describes what the iterations visit. -/
theorem Ring.holds
    (ring : Ring list nodes) :
    Holds list nodes where
  iterated := fun _ enough => iterated_eq ring.circular.threaded enough
  forEach := fun _ enough => forEach_eq ring.circular.threaded enough
  nrOfElements := ring.nrOfElements
  distinct := (List.nodup_cons.mp ring.circular.nodup).2
  unlinked := ring.unlinked

/-- A node without a link is in no list. -/
theorem Ring.absent
    (ring : Ring list nodes)
    (unlinked : list.next new = .null) :
    new ∉ Node.head :: nodes := by
  intro member
  obtain ⟨before, after, shape⟩ := List.append_of_mem member
  have behind := ring.circular.next_of_append shape
  rw [unlinked] at behind
  have inRing : Node.null ∈ after ++ [Node.head] :=
    List.mem_of_mem_head? behind
  simp only [List.mem_append, List.mem_singleton, reduceCtorEq, or_false]
    at inRing
  have inNodes : Node.null ∈ Node.head :: nodes := by
    rw [shape]
    exact List.mem_append_right _ (List.mem_cons_of_mem _ inRing)
  exact ring.linked
    (List.mem_of_ne_of_mem (show Node.null ≠ Node.head from nofun) inNodes)

/-- A node is linked behind an entry of the ring. -/
theorem Ring.insertAfter
    (ring : Ring list nodes)
    (exists' : new ≠ .null)
    (unlinked : list.next new = .null)
    (room : list.nrOfElements < 65535)
    (here : .head :: nodes = before ++ entry :: after)
    (longer : .head :: changed = before ++ entry :: new :: after) :
    Ring
      { next :=
          Function.update
            (Function.update list.next new (list.next entry)) entry new
        nrOfElements := (list.nrOfElements + 1) % 65536 }
      changed := by
  have absent := ring.absent unlinked
  have different : new ≠ entry := by
    rintro rfl
    exact absent (by rw [here]; simp)
  have members (node : Node) (notHead : node ≠ .head) :
      node ∈ changed ↔ node = new ∨ node ∈ nodes := by
    have inLonger : node ∈ Node.head :: changed ↔
        node = new ∨ node ∈ Node.head :: nodes := by
      rw [longer, here]
      simp only [List.mem_append, List.mem_cons]
      tauto
    simpa [notHead] using inLonger
  have lengths := congrArg List.length here
  have longerLengths := congrArg List.length longer
  simp only [List.length_cons, List.length_append] at lengths longerLengths
  have counted := ring.nrOfElements
  refine ⟨?_, ?_, ?_, ?_, by omega⟩
  · refine ring.circular.insertAfter here longer absent ?_ ?_ ?_
    · simp [different]
    · simp
    · intro node notNew notEntry
      simp [notNew, notEntry]
  · dsimp only
    omega
  · intro node notMember notHead
    rw [members node notHead, not_or] at notMember
    have notEntry : node ≠ entry := by
      rintro rfl
      have member : node ∈ Node.head :: nodes := by
        rw [here]
        simp
      exact notMember.2 (List.mem_of_ne_of_mem notHead member)
    simp only [Function.update_of_ne notEntry,
      Function.update_of_ne notMember.1]
    exact ring.unlinked node notMember.2 notHead
  · rw [members .null nofun, not_or]
    exact ⟨exists'.symm, ring.linked⟩

/-- A node behind an entry of the ring is unlinked. -/
theorem Ring.removeAfter
    (ring : Ring list nodes)
    (here : .head :: nodes = before ++ entry :: node :: after)
    (shorter : .head :: changed = before ++ entry :: after) :
    Ring
      { next :=
          Function.update
            (Function.update list.next entry (list.next node)) node .null
        nrOfElements := (list.nrOfElements + 65535) % 65536 }
      changed := by
  have nodup := ring.circular.nodup
  rw [here] at nodup
  have members (other : Node) (notHead : other ≠ .head) :
      other ∈ changed ↔ other ≠ node ∧ other ∈ nodes := by
    have inShorter : other ∈ Node.head :: changed ↔
        other ≠ node ∧ other ∈ Node.head :: nodes := by
      rw [shorter, here]
      simp only [List.mem_append, List.mem_cons]
      grind
    simpa [notHead] using inShorter
  have entryMember : entry = .head ∨ entry ∈ changed := by
    have member : entry ∈ Node.head :: changed := by
      rw [shorter]
      simp
    exact List.mem_cons.mp member
  have lengths := congrArg List.length here
  have shorterLengths := congrArg List.length shorter
  simp only [List.length_cons, List.length_append] at lengths shorterLengths
  have counted := ring.nrOfElements
  have small := ring.small
  refine ⟨?_, ?_, ?_, ?_, by omega⟩
  · refine ring.circular.removeAfter here shorter ?_ ?_
    · have different : entry ≠ node := by grind
      simp [different]
    · intro other notEntry notNode
      simp [notEntry, notNode]
  · dsimp only
    omega
  · intro other notMember notHead
    dsimp only
    by_cases same : other = node
    · rw [same, Function.update_self]
    · have notEntry : other ≠ entry := by
        rintro rfl
        exact entryMember.elim notHead notMember
      rw [Function.update_of_ne same, Function.update_of_ne notEntry]
      rw [members other notHead, not_and] at notMember
      exact ring.unlinked other (notMember same) notHead
  · rw [members .null nofun, not_and]
    exact fun _ => ring.linked

/-- `LinkedList_Append` -/
theorem Ring.append
    (ring : Ring list nodes)
    (admissible : Admissible list (.append new))
    (proper : Proper list (.append new))
    (enough : nodes.length < fuel) :
    ∃ next, LinkedList.append fuel list new = .ok next ∧
      Ring next (nodes ++ [new]) := by
  obtain ⟨exists', unlinked⟩ := admissible
  obtain ⟨front, last, shape, found⟩ :=
    findLast_eq ring.circular.threaded enough
  refine ⟨_, ?_, ring.insertAfter exists' unlinked proper shape ?_⟩
  · rw [LinkedList.append, if_neg (not_not_intro unlinked), found]
  · rw [← List.cons_append, shape, List.append_assoc]
    rfl

/-- `LinkedList_Insert` -/
theorem Ring.insert
    (ring : Ring list nodes)
    (admissible : Admissible list (.insert new))
    (proper : Proper list (.insert new)) :
    ∃ next, list.insert new = some next ∧ Ring next (new :: nodes) := by
  obtain ⟨exists', unlinked⟩ := admissible
  exact ⟨_, if_neg (not_not_intro unlinked),
    @Ring.insertAfter list nodes _ [] nodes .head new ring exists' unlinked
      proper rfl rfl⟩

/-- `LinkedList_Remove` of a node that is not the last one. -/
theorem Ring.remove
    (ring : Ring list nodes)
    (admissible : Admissible list (.remove node))
    (proper : Proper list (.remove node))
    (enough : nodes.length < fuel) :
    ∃ next,
      LinkedList.remove fuel list node =
          .ok (next, nodes.contains node) ∧
        Ring next (nodes.erase node) := by
  have threaded := ring.circular.threaded
  by_cases member : node ∈ nodes
  · obtain ⟨front, after, rfl⟩ := List.append_of_mem member
    have behind := @Circular.next_of_append _ _ _ node _ (.head :: front)
      after ring.circular rfl
    have notLast : after ≠ [] := by
      rintro rfl
      exact proper (Option.some.inj behind).symm
    obtain ⟨before, place, shape, found⟩ :=
      @search_found list front after .head .head node fuel threaded
        (Ne.symm admissible) notLast enough
    have distinct := (List.nodup_cons.mp ring.circular.nodup).2
    have inFront : node ∉ front := by grind
    refine ⟨_, ?_,
      @Ring.removeAfter list _ _ before after place node ring ?_ ?_⟩
    · rw [LinkedList.remove, if_neg admissible, found]
      simp
    · rw [← List.cons_append, shape, List.append_assoc]
      rfl
    · rw [List.erase_append_right _ inFront, List.erase_cons_head,
        ← List.cons_append, shape, List.append_assoc]
      rfl
  · have notFound := @search_notFound list nodes .head .head node fuel
      threaded (by
        rintro other inRing notLast rfl
        exact member (List.mem_of_ne_of_mem admissible inRing)) enough
    refine ⟨list, ?_, ?_⟩
    · rw [LinkedList.remove, if_neg admissible, notFound]
      simp [member]
    · rw [List.erase_of_not_mem member]
      exact ring

/-- `LinkedList_Empty` -/
theorem Ring.empty
    (ring : Ring list nodes)
    (enough : nodes.length < fuel) :
    ∃ next, LinkedList.empty fuel list = .ok next ∧ Ring next [] := by
  obtain ⟨links, last, reset, each⟩ := unlinkAll_eq ring.circular.threaded
    (List.nodup_cons.mp ring.circular.nodup).1 enough
  refine ⟨_, by rw [LinkedList.empty, reset], ?_⟩
  refine ⟨.nil (by simp), rfl, ?_, nofun, Nat.zero_lt_succ _⟩
  intro node _ notHead
  dsimp only
  rw [Function.update_of_ne notHead, each]
  split
  · rfl
  · rename_i outside
    exact ring.unlinked node (fun member =>
      outside (List.mem_cons_of_mem _ member)) notHead

/-- Every call under the condition keeps the ring. -/
theorem Ring.step
    (ring : Ring list nodes)
    {operation : Operation}
    (admissible : Admissible list operation)
    (proper : Proper list operation)
    (enough : nodes.length < fuel) :
    ∃ next,
      LinkedList.step fuel list operation =
          .ok (next, operation.result nodes) ∧
        Ring next (operation.apply nodes) := by
  cases operation with
  | append node =>
      obtain ⟨next, appended, later⟩ :=
        ring.append admissible proper enough
      exact ⟨next, by simp only [LinkedList.step, appended]; rfl, later⟩
  | insert node =>
      obtain ⟨next, inserted, later⟩ := ring.insert admissible proper
      exact ⟨next, by simp only [LinkedList.step, inserted]; rfl, later⟩
  | remove node =>
      obtain ⟨next, removed, later⟩ :=
        ring.remove admissible proper enough
      exact ⟨next, by simp only [LinkedList.step, removed]; rfl, later⟩
  | empty =>
      obtain ⟨next, emptied, later⟩ := ring.empty enough
      exact ⟨next, by simp only [LinkedList.step, emptied]; rfl, later⟩

/-- The ring holds in every run under the condition. -/
theorem ring_run
    {operations : List Operation}
    (run : Run (listSystem.restrict Proper) operations list) :
    Ring list (content operations) := by
  refine @Run.history _ _ _ (fun operations list =>
    Ring list (content operations)) ?_ ?_ _ _ run
  · rintro list rfl
    exact ring_create
  · rintro operations list operation next ring
      ⟨⟨admissible, bound, result, returns⟩, proper⟩
    obtain ⟨after, stepped, later⟩ := @Ring.step list _
      (bound + (content operations).length + 1) ring operation admissible
      proper (by omega)
    rw [returns _ (by omega)] at stepped
    cases stepped
    rw [content, List.foldl_append]
    exact later

/-- A ring determines the list. -/
theorem Ring.unique
    (ring : Ring list nodes)
    (other : Ring next nodes) :
    list = next := by
  have links : list.next = next.next := by
    funext node
    by_cases member : node ∈ Node.head :: nodes
    · obtain ⟨before, after, shape⟩ := List.append_of_mem member
      have behind := ring.circular.next_of_append shape
      rw [other.circular.next_of_append shape] at behind
      exact (Option.some.inj behind).symm
    · rw [List.mem_cons, not_or] at member
      rw [ring.unlinked node member.2 member.1,
        other.unlinked node member.2 member.1]
  have counted := ring.nrOfElements.trans other.nrOfElements.symm
  cases list
  cases next
  exact congrArg₂ LinkedList.mk links counted

/-- A run goes on with every call under the condition. -/
theorem run_call
    {operations : List Operation}
    {operation : Operation}
    (run : Run (listSystem.restrict Proper) operations list)
    (admissible : Admissible list operation)
    (proper : Proper list operation) :
    ∃ next,
      Run (listSystem.restrict Proper) (operations ++ [operation]) next := by
  have ring := ring_run run
  obtain ⟨next, _, changed⟩ :=
    ring.step admissible proper (Nat.lt_succ_self _)
  refine ⟨next, run.step operation
    ⟨⟨admissible, (content operations).length,
      operation.result (content operations), ?_⟩, proper⟩⟩
  -- How long the loops may run does not matter.
  intro fuel enough
  obtain ⟨same, returns, changedSame⟩ := ring.step admissible proper enough
  rw [returns, changedSame.unique changed]

/-- A node that is in no list is added. -/
theorem Ring.admissible
    (ring : Ring list nodes)
    (exists' : new ≠ .null)
    (notHead : new ≠ .head)
    (absent : new ∉ nodes) :
    Admissible list (.append new) ∧ Admissible list (.insert new) := by
  have unlinked := ring.unlinked new absent notHead
  exact ⟨⟨exists', unlinked⟩, exists', unlinked⟩

/-- A node with another one behind it may be removed. -/
theorem Ring.proper
    {front : List Node}
    (ring : Ring list (front ++ entry :: node :: after)) :
    Proper list (.remove entry) := by
  have behind := @Circular.next_of_append _ _ _ entry _ (.head :: front)
    (node :: after) ring.circular rfl
  have nodup := ring.circular.nodup
  intro last
  rw [last] at behind
  cases behind
  exact (List.nodup_cons.mp nodup).1
    (List.mem_append_right front
      (List.mem_cons_of_mem entry (List.mem_cons_self ..)))

end Operations

/--
The list is the sequence of its nodes in every run under the condition, and
every further call under the condition returns and changes it as it should.
-/
theorem list_refines
    {operations : List Operation}
    {list : LinkedList}
    (run : Run (listSystem.restrict Proper) operations list) :
    Holds list (content operations) ∧
      ∀ operation, Admissible list operation → Proper list operation →
        Refines list (content operations) operation := by
  have ring := ring_run run
  refine ⟨ring.holds, ?_⟩
  intro operation admissible proper fuel enough
  obtain ⟨next, stepped, later⟩ := ring.step admissible proper enough
  exact ⟨next, stepped, later.holds⟩

/-- The list of one node. -/
def oneNode : LinkedList where
  next :=
    Function.update
      (Function.update create.next (.listener 0) .head)
      .head (.listener 0)
  nrOfElements := 1

/-- The first node is appended. -/
theorem run_append
    (proper : LinkedList → Operation → Prop)
    (permits : proper create (.append (.listener 0))) :
    Run (listSystem.restrict proper) [.append (.listener 0)] oneNode := by
  have start : Run (listSystem.restrict proper) [] create := .start rfl
  refine .step start (.append (.listener 0))
    ⟨⟨⟨nofun, by decide⟩, 0, none, ?_⟩, permits⟩
  intro fuel positive
  obtain ⟨fewer, rfl⟩ := Nat.exists_eq_succ_of_ne_zero
    (Nat.ne_of_gt positive)
  rfl

/-- The first of two nodes is removed with another one before it. -/
theorem list_refines_removed :
    ∃ list,
      Run (listSystem.restrict Proper)
          [.append (.listener 0), .append (.listener 1),
            .insert (.listener 2), .remove (.listener 0)] list ∧
        Holds list [.listener 2, .listener 1] ∧
        Refines list [.listener 2, .listener 1] (.insert (.listener 0)) := by
  have one := run_append Proper (show 0 < 65535 by decide)
  obtain ⟨list, two⟩ := run_call one
    (@Ring.admissible _ [.listener 0] (.listener 1) (ring_run one)
      nofun nofun (by decide)).1
    (show 1 < 65535 by decide)
  have ringTwo := ring_run two
  obtain ⟨list, three⟩ := run_call two
    (@Ring.admissible list [.listener 0, .listener 1] (.listener 2)
      ringTwo nofun nofun (by decide)).2
    (ringTwo.nrOfElements.trans_lt (show 2 < 65535 by decide))
  obtain ⟨list, removed⟩ := run_call three
    (show Admissible list (.remove (.listener 0)) from nofun)
    (@Ring.proper list [] (.listener 0) (.listener 1) [.listener 2]
      (ring_run three))
  have ring := ring_run removed
  obtain ⟨holds, refines⟩ := list_refines removed
  exact ⟨list, removed, holds,
    refines (.insert (.listener 0))
      (@Ring.admissible list [.listener 2, .listener 1] (.listener 0)
        ring nofun nofun (by decide)).2
      (ring.nrOfElements.trans_lt (show 2 < 65535 by decide))⟩

/-- The only node of a list is not removed. -/
theorem list_refines_not_last :
    ∃ list, Run listSystem [.append (.listener 0)] list ∧
      Admissible list (.remove (.listener 0)) ∧
      ¬ Refines list [.listener 0] (.remove (.listener 0)) := by
  have run := run_append (fun _ _ => True) trivial
  refine ⟨oneNode, run.unrestricted, nofun, ?_⟩
  intro refines
  obtain ⟨next, removed, _⟩ := refines 2 (by decide)
  have kept : step 2 oneNode (.remove (.listener 0)) =
      .ok (oneNode, some false) :=
    rfl
  rw [kept] at removed
  cases removed

end LinkedList

end DemoBoard
