import Mathlib.Data.List.Chain
import Mathlib.Data.List.Nodup
import Mathlib.Data.List.Pairwise

namespace DemoBoard.IntrusiveList

/-!
# Lists threaded through link fields

The elements of an intrusive list carry the ids of their neighbours.  Only the
links that the list uses matter: the last element points to `stop`, the
previous link of the head and all links of other elements are left over.
-/

/-- Following `next` from `head` visits `ids` and then meets `stop`. -/
structure Threaded {Id : Type*}
    (next : Id → Id) (stop head : Id) (ids : List Id) : Prop where
  head_eq : (ids ++ [stop]).head? = some head
  next_eq :
    (ids ++ [stop]).IsChain fun first second => next first = second
  nodup : (ids ++ [stop]).Nodup

/-- A threaded list whose elements also know the one before them. -/
structure Linked {Id : Type*}
    (next previous : Id → Id) (stop head : Id) (ids : List Id) : Prop
    extends Threaded next stop head ids where
  previous_eq :
    ids.IsChain fun first second => previous second = first

/-- The relation matters at the elements before the last one only. -/
theorem isChain_of_left {α : Type*}
    {R S : α → α → Prop}
    {entries : List α}
    {last : α}
    (chain : (entries ++ [last]).IsChain R)
    (agree : ∀ first ∈ entries, ∀ second, R first second →
      S first second) :
    (entries ++ [last]).IsChain S := by
  induction entries with
  | nil => exact List.isChain_singleton last
  | cons first rest inductionHypothesis =>
      rw [List.cons_append, List.isChain_cons] at chain ⊢
      exact ⟨fun second behind =>
          agree first (List.mem_cons_self ..) second
            (chain.1 second behind),
        inductionHypothesis chain.2 fun entry member =>
          agree entry (List.mem_cons_of_mem _ member)⟩

section Links

variable {Id : Type*}
variable {next previous changedNext changedPrevious : Id → Id}
variable {stop head entry new : Id}
variable {ids before after : List Id}

/-- The list without elements. -/
theorem linked_nil (next previous : Id → Id) (stop : Id) :
    Linked next previous stop stop [] where
  head_eq := rfl
  next_eq := List.isChain_singleton stop
  previous_eq := List.isChain_nil
  nodup := List.nodup_singleton stop

/-- The list of one element. -/
theorem linked_singleton
    (different : new ≠ stop)
    (last : next new = stop) :
    Linked next previous stop new [new] where
  head_eq := rfl
  next_eq := List.isChain_pair.mpr last
  previous_eq := List.isChain_singleton new
  nodup := by simpa using different

namespace Threaded

theorem stop_notMem
    (threaded : Threaded next stop head ids) :
    stop ∉ ids := by
  have nodup := threaded.nodup
  rw [List.nodup_append] at nodup
  intro member
  exact nodup.2.2 stop member stop (List.mem_singleton_self stop) rfl

theorem ids_nodup
    (threaded : Threaded next stop head ids) :
    ids.Nodup :=
  (List.nodup_append.mp threaded.nodup).1

/-- The head is `stop` exactly when there is no element. -/
theorem eq_nil_iff
    (threaded : Threaded next stop head ids) :
    ids = [] ↔ head = stop := by
  have first := threaded.head_eq
  cases ids with
  | nil => simpa [eq_comm] using first
  | cons entry rest =>
      have absent := threaded.stop_notMem
      simp only [List.cons_append, List.head?_cons, Option.some.injEq]
        at first
      subst first
      simp only [List.mem_cons, not_or] at absent
      simpa using Ne.symm absent.1

theorem head_of_cons
    (threaded : Threaded next stop head (entry :: after)) :
    entry = head := by
  simpa using threaded.head_eq

/-- A list with elements does not begin with its end. -/
theorem head_ne_stop
    (threaded : Threaded next stop head (entry :: after)) :
    head ≠ stop :=
  fun same => List.cons_ne_nil _ _ (threaded.eq_nil_iff.mpr same)

/-- The element behind an entry. -/
theorem next_of_append
    (threaded :
      Threaded next stop head (before ++ entry :: after)) :
    (after ++ [stop]).head? = some (next entry) := by
  have chain := threaded.next_eq
  rw [List.append_assoc, List.cons_append] at chain
  have rest := chain.right_of_append
  cases after with
  | nil => simpa [eq_comm] using rest
  | cons second later =>
      simp only [List.cons_append, List.isChain_cons_cons] at rest
      simpa [eq_comm] using rest.1

/-- The last element points to `stop`, and no other element does. -/
theorem next_eq_stop_iff
    (threaded :
      Threaded next stop head (before ++ entry :: after)) :
    next entry = stop ↔ after = [] := by
  have behind := threaded.next_of_append
  have absent := threaded.stop_notMem
  cases after with
  | nil => simpa [eq_comm] using behind
  | cons second later =>
      simp only [List.cons_append, List.head?_cons, Option.some.injEq]
        at behind
      simp only [List.mem_append, List.mem_cons, not_or] at absent
      rw [← behind]
      simpa using Ne.symm absent.2.2.1

/-- The list without its head. -/
theorem tail
    (threaded : Threaded next stop head (entry :: after)) :
    Threaded next stop (next entry) after where
  head_eq := @next_of_append _ _ _ _ _ [] _ threaded
  next_eq := threaded.next_eq.tail
  nodup := threaded.nodup.tail

/-- The links determine the list. -/
theorem unique
    {others : List Id}
    (threaded : Threaded next stop head ids)
    (threadedOthers : Threaded next stop head others) :
    ids = others := by
  induction ids generalizing head others with
  | nil =>
      have none := threaded.eq_nil_iff.mp rfl
      exact (threadedOthers.eq_nil_iff.mpr none).symm
  | cons entry after inductionHypothesis =>
      obtain ⟨other, behind, rfl⟩ :=
        List.exists_cons_of_ne_nil fun empty =>
          threaded.head_ne_stop (threadedOthers.eq_nil_iff.mp empty)
      have same : entry = other :=
        threaded.head_of_cons.trans threadedOthers.head_of_cons.symm
      subst same
      rw [inductionHypothesis threaded.tail threadedOthers.tail]

/-- The list only depends on the links of its elements. -/
theorem congr
    (threaded : Threaded next stop head ids)
    (sameNext : ∀ id ∈ ids, changedNext id = next id) :
    Threaded changedNext stop head ids where
  head_eq := threaded.head_eq
  next_eq := by
    apply isChain_of_left threaded.next_eq
    intro first member second link
    rw [sameNext first member, link]
  nodup := threaded.nodup

/-- A new head. -/
theorem cons
    (threaded : Threaded next stop head ids)
    (absent : new ∉ ids ++ [stop])
    (nextNew : changedNext new = head)
    (sameNext : ∀ id ∈ ids, changedNext id = next id) :
    Threaded changedNext stop new (new :: ids) where
  head_eq := rfl
  next_eq := by
    have rest := threaded.congr sameNext
    refine List.isChain_cons.mpr ⟨?_, rest.next_eq⟩
    intro second first
    have second_eq := rest.head_eq.symm.trans first
    rw [nextNew, Option.some.inj second_eq]
  nodup := List.nodup_cons.mpr ⟨absent, threaded.nodup⟩

end Threaded

namespace Linked

/-- The element before an entry. -/
theorem previous_of_append
    (linked :
      Linked next previous stop head (before ++ entry :: new :: after)) :
    previous new = entry := by
  have chain := linked.previous_eq.right_of_append
  exact (List.isChain_cons_cons.mp chain).1

/-- The list only depends on the links of its elements. -/
theorem congr
    (linked : Linked next previous stop head ids)
    (sameNext : ∀ id ∈ ids, changedNext id = next id)
    (samePrevious : ∀ id ∈ ids, changedPrevious id = previous id) :
    Linked changedNext changedPrevious stop head ids where
  toThreaded := linked.toThreaded.congr sameNext
  previous_eq := by
    apply linked.previous_eq.imp_of_mem_imp
    intro first second _ member link
    rw [samePrevious second member, link]

/-- The list without its head. -/
theorem tail
    (linked : Linked next previous stop head (entry :: after)) :
    Linked next previous stop (next entry) after where
  toThreaded := linked.toThreaded.tail
  previous_eq := linked.previous_eq.tail

/-- A new head. -/
theorem cons
    (linked : Linked next previous stop head (entry :: after))
    (absent : new ∉ (entry :: after) ++ [stop])
    (nextNew : changedNext new = head)
    (previousHead : changedPrevious head = new)
    (sameNext : ∀ id, id ≠ new → changedNext id = next id)
    (samePrevious : ∀ id, id ≠ head →
      changedPrevious id = previous id) :
    Linked changedNext changedPrevious stop new
      (new :: entry :: after) where
  toThreaded := by
    apply linked.toThreaded.cons absent nextNew
    intro id member
    apply sameNext
    rintro rfl
    exact absent (List.mem_append_left _ member)
  previous_eq := by
    have first := linked.head_of_cons
    refine List.isChain_cons_cons.mpr ⟨by rw [first, previousHead], ?_⟩
    apply linked.previous_eq.imp_of_mem_tail_imp
    intro earlier id _ member link
    rw [samePrevious id ?_, link]
    rintro rfl
    rw [List.tail_cons, ← first] at member
    exact (List.nodup_cons.mp linked.ids_nodup).1 member

/-- A new element behind an entry. -/
theorem insertAfter
    (linked :
      Linked next previous stop head (before ++ entry :: after))
    (absent : new ∉ (before ++ entry :: after) ++ [stop])
    (nextNew : changedNext new = next entry)
    (nextEntry : changedNext entry = new)
    (sameNext : ∀ id, id ≠ new → id ≠ entry →
      changedNext id = next id)
    (previousNew : changedPrevious new = entry)
    (previousBehind : next entry ≠ stop →
      changedPrevious (next entry) = new)
    (samePrevious : ∀ id, id ≠ new → id ≠ next entry →
      changedPrevious id = previous id) :
    Linked changedNext changedPrevious stop head
      (before ++ entry :: new :: after) := by
  have behind := linked.next_of_append
  have nodup := linked.nodup
  have links := linked.next_eq
  rw [List.append_assoc, List.cons_append] at links
  obtain ⟨linksBefore, linksBehind⟩ := List.isChain_split.mp links
  obtain ⟨backBefore, backBehind⟩ :=
    List.isChain_split.mp linked.previous_eq
  refine ⟨⟨?_, ?_, by grind⟩, ?_⟩
  · have first := linked.head_eq
    cases before <;> simpa using first
  · rw [List.append_assoc, List.cons_append, List.cons_append]
    refine List.isChain_split.mpr
      ⟨?_, List.isChain_cons_cons.mpr ⟨nextEntry, ?_⟩⟩
    · apply isChain_of_left linksBefore
      intro id member second link
      rw [sameNext id (by grind) (by grind), link]
    · refine List.isChain_cons.mpr ⟨?_, ?_⟩
      · intro second first
        rw [behind] at first
        rw [nextNew, Option.mem_some.mp first]
      · apply isChain_of_left linksBehind.tail
        intro id member second link
        rw [sameNext id (by grind) (by grind), link]
  · refine List.isChain_split.mpr
      ⟨?_, List.isChain_cons_cons.mpr ⟨previousNew, ?_⟩⟩
    · apply backBefore.imp_of_mem_tail_imp
      intro earlier id _ member link
      have inFront := List.mem_of_mem_tail member
      rw [samePrevious id (by grind) (by cases after <;> grind), link]
    · refine List.isChain_cons.mpr ⟨?_, ?_⟩
      · intro second first
        cases after with
        | nil => cases first
        | cons next later =>
            simp at behind first
            subst first
            rw [behind]
            exact previousBehind (by grind)
      · apply backBehind.tail.imp_of_mem_tail_imp
        intro earlier id _ member link
        rw [List.tail_cons] at member
        have inAfter := List.mem_of_mem_tail member
        rw [samePrevious id (by grind) (by cases after <;> grind), link]

/-- An element behind another one is taken out. -/
theorem removeAfter
    (linked :
      Linked next previous stop head (before ++ entry :: new :: after))
    (nextEntry : changedNext entry = next new)
    (sameNext : ∀ id, id ≠ entry → changedNext id = next id)
    (previousBehind : next new ≠ stop →
      changedPrevious (next new) = entry)
    (samePrevious : ∀ id, id ≠ next new →
      changedPrevious id = previous id) :
    Linked changedNext changedPrevious stop head
      (before ++ entry :: after) := by
  have behind :
      (after ++ [stop]).head? = some (next new) := by
    have shape : before ++ entry :: new :: after =
        (before ++ [entry]) ++ new :: after := by simp
    rw [shape] at linked
    exact linked.next_of_append
  have nodup := linked.nodup
  have links := linked.next_eq
  rw [List.append_assoc, List.cons_append] at links
  obtain ⟨linksBefore, linksBehind⟩ := List.isChain_split.mp links
  obtain ⟨backBefore, backBehind⟩ :=
    List.isChain_split.mp linked.previous_eq
  refine ⟨⟨?_, ?_, by grind⟩, ?_⟩
  · have first := linked.head_eq
    cases before <;> simpa using first
  · rw [List.append_assoc, List.cons_append]
    refine List.isChain_split.mpr ⟨?_, List.isChain_cons.mpr ⟨?_, ?_⟩⟩
    · apply isChain_of_left linksBefore
      intro id member second link
      rw [sameNext id (by grind), link]
    · intro second first
      rw [behind] at first
      rw [nextEntry, Option.mem_some.mp first]
    · apply isChain_of_left linksBehind.tail.tail
      intro id member second link
      rw [sameNext id (by grind), link]
  · refine List.isChain_split.mpr ⟨?_, List.isChain_cons.mpr ⟨?_, ?_⟩⟩
    · apply backBefore.imp_of_mem_tail_imp
      intro earlier id _ member link
      have inFront := List.mem_of_mem_tail member
      rw [samePrevious id (by cases after <;> grind), link]
    · intro second first
      cases after with
      | nil => cases first
      | cons next later =>
          simp at behind first
          subst first
          rw [behind]
          exact previousBehind (by grind)
    · apply backBehind.tail.tail.imp_of_mem_tail_imp
      intro earlier id _ member link
      simp only [List.tail_cons] at member
      have inAfter := List.mem_of_mem_tail member
      rw [samePrevious id (by cases after <;> grind), link]

end Linked

end Links

/-- Following `next` from `head` visits `ids` and then meets `head` again. -/
structure Circular {Id : Type*}
    (next : Id → Id) (head : Id) (ids : List Id) : Prop where
  next_eq :
    (head :: ids ++ [head]).IsChain fun first second =>
      next first = second
  nodup : (head :: ids).Nodup

namespace Circular

variable {Id : Type*}
variable {next changedNext : Id → Id}
variable {head entry new : Id}
variable {ids changed before after : List Id}

/-- The ring of the head alone. -/
theorem nil
    (last : next head = head) :
    Circular next head [] where
  next_eq := List.isChain_pair.mpr last
  nodup := List.nodup_singleton head

/-- The entries of the ring behind its head. -/
theorem threaded
    (circular : Circular next head ids) :
    Threaded next head (next head) ids where
  head_eq := by
    have links := circular.next_eq
    cases ids with
    | nil => simpa [eq_comm] using links
    | cons first rest =>
        simp only [List.cons_append, List.isChain_cons_cons] at links
        simpa [eq_comm] using links.1
  next_eq := circular.next_eq.tail
  nodup := by
    have nodup := circular.nodup
    simp only [List.nodup_cons] at nodup
    exact List.nodup_append.mpr ⟨nodup.2, List.nodup_singleton head,
      by grind⟩

/-- What follows an entry of the ring. -/
theorem next_of_append
    (circular : Circular next head ids)
    (ring : head :: ids = before ++ entry :: after) :
    (after ++ [head]).head? = some (next entry) := by
  have chain := circular.next_eq
  rw [ring, List.append_assoc, List.cons_append] at chain
  have rest := chain.right_of_append
  cases after with
  | nil => simpa [eq_comm] using rest
  | cons second later =>
      simp only [List.cons_append, List.isChain_cons_cons] at rest
      simpa [eq_comm] using rest.1

/-- A new entry behind another one. -/
theorem insertAfter
    (circular : Circular next head ids)
    (ring : head :: ids = before ++ entry :: after)
    (longer : head :: changed = before ++ entry :: new :: after)
    (absent : new ∉ head :: ids)
    (nextNew : changedNext new = next entry)
    (nextEntry : changedNext entry = new)
    (sameNext : ∀ id, id ≠ new → id ≠ entry →
      changedNext id = next id) :
    Circular changedNext head changed := by
  have behind := circular.next_of_append ring
  have links := circular.next_eq
  have nodup := circular.nodup
  rw [ring] at links nodup absent
  rw [List.append_assoc, List.cons_append] at links
  obtain ⟨linksBefore, linksBehind⟩ := List.isChain_split.mp links
  refine ⟨?_, by rw [longer]; grind⟩
  rw [longer, List.append_assoc, List.cons_append, List.cons_append]
  refine List.isChain_split.mpr
    ⟨?_, List.isChain_cons_cons.mpr ⟨nextEntry, ?_⟩⟩
  · apply isChain_of_left linksBefore
    intro id member second link
    rw [sameNext id (by grind) (by grind), link]
  · refine List.isChain_cons.mpr ⟨?_, ?_⟩
    · intro second first
      rw [behind] at first
      rw [nextNew, Option.mem_some.mp first]
    · apply isChain_of_left linksBehind.tail
      intro id member second link
      rw [sameNext id (by grind) (by grind), link]

/-- An entry behind another one is taken out. -/
theorem removeAfter
    (circular : Circular next head ids)
    (ring : head :: ids = before ++ entry :: new :: after)
    (shorter : head :: changed = before ++ entry :: after)
    (nextEntry : changedNext entry = next new)
    (sameNext : ∀ id, id ≠ entry → id ≠ new →
      changedNext id = next id) :
    Circular changedNext head changed := by
  have behind := @next_of_append _ _ _ new _ (before ++ [entry]) after
    circular (by simp [ring])
  have links := circular.next_eq
  have nodup := circular.nodup
  rw [ring] at links nodup
  rw [List.append_assoc, List.cons_append] at links
  obtain ⟨linksBefore, linksBehind⟩ := List.isChain_split.mp links
  refine ⟨?_, by rw [shorter]; grind⟩
  rw [shorter, List.append_assoc, List.cons_append]
  refine List.isChain_split.mpr ⟨?_, List.isChain_cons.mpr ⟨?_, ?_⟩⟩
  · apply isChain_of_left linksBefore
    intro id member second link
    rw [sameNext id (by grind) (by grind), link]
  · intro second first
    rw [behind] at first
    rw [nextEntry, Option.mem_some.mp first]
  · apply isChain_of_left linksBehind.tail.tail
    intro id member second link
    rw [sameNext id (by grind) (by grind), link]

end Circular

end DemoBoard.IntrusiveList
