import DemoBoard.IntrusiveList
import DemoBoard.TimerServer
import Mathlib.Data.List.Perm.Subperm

namespace DemoBoard.TimerServer

open IntrusiveList

/-!
# The list of running timers

The running timers form one list in the order of their remaining counts.  Each
operation is described by what it does to that list; the links left over in
timers outside of the list never matter.
-/

/-- `nextId` of a timer. -/
def nextOf (server : TimerServer) (timerId : Nat) : Nat :=
  (server.gTimerContext timerId).nextId

/-- `previousId` of a timer. -/
def previousOf (server : TimerServer) (timerId : Nat) : Nat :=
  (server.gTimerContext timerId).previousId

/-- `countLeft` of a timer. -/
def countOf (server : TimerServer) (timerId : Nat) : UInt32 :=
  (server.gTimerContext timerId).countLeft

/-- `timerIdStatus` of a timer. -/
def statusOf (server : TimerServer) (timerId : Nat) : TimerIdStatus :=
  (server.gTimerContext timerId).timerIdStatus

/-- What neither links nor counts change in a timer. -/
structure TimerSettings where
  callback : Option Nat
  counterInit : UInt32
  mode : TimerMode

/-- Callback, reload value and mode of a timer. -/
def settingsOf (server : TimerServer) (timerId : Nat) : TimerSettings where
  callback := (server.gTimerContext timerId).callback
  counterInit := (server.gTimerContext timerId).counterInit
  mode := (server.gTimerContext timerId).mode

/-- The configuration of the real-time clock. -/
def clockOf (server : TimerServer) : UInt16 × UInt8 :=
  (server.gMaxWakeupTimerSetup, server.gWakeupTimerDivider)

/-- The list that starts with the current timer. -/
structure Chained (server : TimerServer) (ids : List Nat) : Prop where
  linked :
    Linked server.nextOf server.previousOf maxNbrConcurrentTimer
      server.gCurrentRunningTimerId ids
  sorted :
    ids.Pairwise fun first second =>
      server.countOf first ≤ server.countOf second
  inRange : ∀ id ∈ ids, id < maxNbrConcurrentTimer

/-- The list of the running timers. -/
structure Represents (server : TimerServer) (ids : List Nat) : Prop
    extends Chained server ids where
  running : ∀ id,
    id ∈ ids ↔ id < maxNbrConcurrentTimer ∧ server.statusOf id = .running
  previous_ne :
    server.gPreviousRunningTimerId ≠ server.gCurrentRunningTimerId

/-- An entry of `gTimerContext` is changed. -/
def withContext
    (server : TimerServer) (timerId : Nat)
    (change : TimerContext → TimerContext) : TimerServer :=
  { server with
    gTimerContext :=
      Function.update server.gTimerContext timerId
        (change (server.gTimerContext timerId)) }

section Access

variable {server : TimerServer}
variable {timerId : Nat}
variable {change : TimerContext → TimerContext}

theorem context_of_lt
    (inRange : timerId < maxNbrConcurrentTimer) :
    server.context timerId = .ok (server.gTimerContext timerId) :=
  if_pos inRange

theorem modifyContext_of_lt
    (inRange : timerId < maxNbrConcurrentTimer) :
    server.modifyContext timerId change =
      .ok (server.withContext timerId change) :=
  if_pos inRange

@[simp] theorem withContext_current :
    (server.withContext timerId change).gCurrentRunningTimerId =
      server.gCurrentRunningTimerId :=
  rfl

@[simp] theorem withContext_previous :
    (server.withContext timerId change).gPreviousRunningTimerId =
      server.gPreviousRunningTimerId :=
  rfl

theorem withContext_apply (id : Nat) :
    (server.withContext timerId change).gTimerContext id =
      if id = timerId then
        change (server.gTimerContext timerId)
      else
        server.gTimerContext id := by
  simp [withContext, Function.update_apply]

@[simp] theorem nextOf_kept
    (kept : ∀ entry, (change entry).nextId = entry.nextId)
    (id : Nat) :
    (server.withContext timerId change).nextOf id = server.nextOf id := by
  rw [nextOf, withContext_apply]
  split
  · next same => rw [kept, same, nextOf]
  · rfl

@[simp] theorem previousOf_kept
    (kept : ∀ entry, (change entry).previousId = entry.previousId)
    (id : Nat) :
    (server.withContext timerId change).previousOf id =
      server.previousOf id := by
  rw [previousOf, withContext_apply]
  split
  · next same => rw [kept, same, previousOf]
  · rfl

@[simp] theorem countOf_kept
    (kept : ∀ entry, (change entry).countLeft = entry.countLeft)
    (id : Nat) :
    (server.withContext timerId change).countOf id = server.countOf id := by
  rw [countOf, withContext_apply]
  split
  · next same => rw [kept, same, countOf]
  · rfl

@[simp] theorem statusOf_kept
    (kept : ∀ entry, (change entry).timerIdStatus = entry.timerIdStatus)
    (id : Nat) :
    (server.withContext timerId change).statusOf id = server.statusOf id := by
  rw [statusOf, withContext_apply]
  split
  · next same => rw [kept, same, statusOf]
  · rfl

@[simp] theorem settingsOf_kept
    (callback : ∀ entry, (change entry).callback = entry.callback)
    (counterInit : ∀ entry, (change entry).counterInit = entry.counterInit)
    (mode : ∀ entry, (change entry).mode = entry.mode)
    (id : Nat) :
    (server.withContext timerId change).settingsOf id =
      server.settingsOf id := by
  rw [settingsOf, withContext_apply]
  split
  · next same => rw [callback, counterInit, mode, same, settingsOf]
  · rfl

@[simp] theorem clockOf_withContext :
    (server.withContext timerId change).clockOf = server.clockOf :=
  rfl

@[simp] theorem nextOf_set (value id : Nat) :
    (server.withContext timerId fun entry =>
        { entry with nextId := value }).nextOf id =
      if id = timerId then value else server.nextOf id := by
  rw [nextOf, withContext_apply]
  split <;> rfl

@[simp] theorem previousOf_set (value id : Nat) :
    (server.withContext timerId fun entry =>
        { entry with previousId := value }).previousOf id =
      if id = timerId then value else server.previousOf id := by
  rw [previousOf, withContext_apply]
  split <;> rfl

@[simp] theorem statusOf_set (value : TimerIdStatus) (id : Nat) :
    (server.withContext timerId fun entry =>
        { entry with timerIdStatus := value }).statusOf id =
      if id = timerId then value else server.statusOf id := by
  rw [statusOf, withContext_apply]
  split <;> rfl

theorem countOf_other
    {id : Nat}
    (different : id ≠ timerId) :
    (server.withContext timerId change).countOf id =
      server.countOf id := by
  rw [countOf, withContext_apply, if_neg different, countOf]

@[simp] theorem nextOf_setCurrent :
    (server.setCurrent timerId).nextOf = server.nextOf :=
  rfl

@[simp] theorem previousOf_setCurrent :
    (server.setCurrent timerId).previousOf = server.previousOf :=
  rfl

@[simp] theorem countOf_setCurrent :
    (server.setCurrent timerId).countOf = server.countOf :=
  rfl

@[simp] theorem statusOf_setCurrent :
    (server.setCurrent timerId).statusOf = server.statusOf :=
  rfl

@[simp] theorem settingsOf_setCurrent :
    (server.setCurrent timerId).settingsOf = server.settingsOf :=
  rfl

@[simp] theorem clockOf_setCurrent :
    (server.setCurrent timerId).clockOf = server.clockOf :=
  rfl

@[simp] theorem setCurrent_current :
    (server.setCurrent timerId).gCurrentRunningTimerId = timerId :=
  rfl

@[simp] theorem setCurrent_previous :
    (server.setCurrent timerId).gPreviousRunningTimerId =
      server.gCurrentRunningTimerId :=
  rfl

end Access

/-- Only links of timers differ. -/
structure Relinked (before after : TimerServer) : Prop where
  count_eq : ∀ id, after.countOf id = before.countOf id
  status_eq : ∀ id, after.statusOf id = before.statusOf id
  settings_eq : ∀ id, after.settingsOf id = before.settingsOf id
  clock_eq : after.clockOf = before.clockOf

/-- The previous link of the entry behind a timer, unless it is the last. -/
def withPrevious
    (server : TimerServer) (timerId previousId : Nat) : TimerServer :=
  if timerId ≠ maxNbrConcurrentTimer then
    server.withContext timerId fun entry =>
      { entry with previousId := previousId }
  else
    server

section Links

variable {server : TimerServer}
variable {ids before after : List Nat}
variable {timerId refTimerId : Nat}

theorem withPrevious_apply (previousId id : Nat) :
    (server.withPrevious timerId previousId).gTimerContext id =
      if id = timerId ∧ timerId ≠ maxNbrConcurrentTimer then
        { server.gTimerContext id with previousId := previousId }
      else
        server.gTimerContext id := by
  rw [withPrevious]
  split
  · next timer =>
      rw [withContext_apply]
      by_cases same : id = timerId
      · subst same
        rw [if_pos rfl, if_pos ⟨rfl, timer⟩]
      · rw [if_neg same, if_neg fun both => same both.1]
  · next noTimer => rw [if_neg fun both => noTimer both.2]

@[simp] theorem nextOf_withPrevious (previousId id : Nat) :
    (server.withPrevious timerId previousId).nextOf id =
      server.nextOf id := by
  rw [nextOf, withPrevious_apply]
  split <;> rfl

theorem previousOf_withPrevious (previousId id : Nat) :
    (server.withPrevious timerId previousId).previousOf id =
      if id = timerId ∧ timerId ≠ maxNbrConcurrentTimer then
        previousId
      else
        server.previousOf id := by
  rw [previousOf, withPrevious_apply]
  split <;> rfl

@[simp] theorem countOf_withPrevious (previousId id : Nat) :
    (server.withPrevious timerId previousId).countOf id =
      server.countOf id := by
  rw [countOf, withPrevious_apply]
  split <;> rfl

@[simp] theorem statusOf_withPrevious (previousId id : Nat) :
    (server.withPrevious timerId previousId).statusOf id =
      server.statusOf id := by
  rw [statusOf, withPrevious_apply]
  split <;> rfl

@[simp] theorem settingsOf_withPrevious (previousId id : Nat) :
    (server.withPrevious timerId previousId).settingsOf id =
      server.settingsOf id := by
  rw [settingsOf, withPrevious_apply]
  split <;> rfl

@[simp] theorem clockOf_withPrevious (previousId : Nat) :
    (server.withPrevious timerId previousId).clockOf =
      server.clockOf := by
  rw [withPrevious]
  split <;> rfl

@[simp] theorem withPrevious_current (previousId : Nat) :
    (server.withPrevious timerId previousId).gCurrentRunningTimerId =
      server.gCurrentRunningTimerId := by
  rw [withPrevious]
  split <;> rfl

@[simp] theorem withPrevious_previous (previousId : Nat) :
    (server.withPrevious timerId previousId).gPreviousRunningTimerId =
      server.gPreviousRunningTimerId := by
  rw [withPrevious]
  split <;> rfl

theorem linkBack_eq
    (previousId : Nat)
    (inRange : timerId ≠ maxNbrConcurrentTimer →
      timerId < maxNbrConcurrentTimer) :
    server.linkBack timerId previousId =
      .ok (server.withPrevious timerId previousId) := by
  rw [linkBack, withPrevious]
  split
  · next timer => rw [modifyContext_of_lt (inRange timer)]
  · rfl

/-- The entry behind a timer of the list. -/
theorem next_inRange
    (linked :
      Linked server.nextOf server.previousOf maxNbrConcurrentTimer
        server.gCurrentRunningTimerId (before ++ refTimerId :: after))
    (inRange : ∀ id ∈ before ++ refTimerId :: after,
      id < maxNbrConcurrentTimer) :
    server.nextOf refTimerId ≠ maxNbrConcurrentTimer →
      server.nextOf refTimerId ∈ after ∧
        server.nextOf refTimerId < maxNbrConcurrentTimer := by
  intro timer
  have behind := linked.next_of_append
  cases after with
  | nil => exact absurd (by simpa [eq_comm] using behind) timer
  | cons second later =>
      simp only [List.cons_append, List.head?_cons, Option.some.injEq]
        at behind
      rw [← behind]
      exact ⟨List.mem_cons_self .., inRange second (by simp)⟩

/-- `LinkTimerAfter` inserts a timer behind another one. -/
theorem linkTimerAfter_spec
    (linked :
      Linked server.nextOf server.previousOf maxNbrConcurrentTimer
        server.gCurrentRunningTimerId (before ++ refTimerId :: after))
    (inRange : ∀ id ∈ before ++ refTimerId :: after,
      id < maxNbrConcurrentTimer)
    (timer : timerId < maxNbrConcurrentTimer)
    (absent : timerId ∉ before ++ refTimerId :: after) :
    ∃ result,
      server.linkTimerAfter timerId refTimerId = .ok result ∧
      Linked result.nextOf result.previousOf maxNbrConcurrentTimer
        result.gCurrentRunningTimerId
        (before ++ refTimerId :: timerId :: after) ∧
      Relinked server result ∧
      result.gCurrentRunningTimerId = server.gCurrentRunningTimerId ∧
      result.gPreviousRunningTimerId =
        server.gPreviousRunningTimerId := by
  have ref := inRange refTimerId (by simp)
  have different : refTimerId ≠ timerId := by
    rintro rfl
    simp at absent
  have behind := next_inRange linked inRange
  have nextNe : server.nextOf refTimerId ≠ timerId := by
    intro same
    by_cases last : server.nextOf refTimerId = maxNbrConcurrentTimer
    · omega
    · have member := (behind last).1
      rw [same] at member
      exact absent (by simp [member])
  have notStop : timerId ≠ maxNbrConcurrentTimer := Nat.ne_of_lt timer
  have linkedBack :=
    @linkBack_eq server _ timerId fun some => (behind some).2
  rw [nextOf] at linkedBack
  refine ⟨_, by
    rw [linkTimerAfter, context_of_lt ref]
    simp only [bind, Except.bind, linkedBack, modifyContext_of_lt timer,
      modifyContext_of_lt ref]
    rfl, ?_, ?_, ?_, ?_⟩
  · simp only [withContext_current, withPrevious_current]
    apply linked.insertAfter
    · simpa [notStop] using absent
    all_goals
      simp [previousOf_withPrevious] <;> grind [nextOf]
  · constructor <;> simp
  · simp
  · simp

/-- A timer of the list that is not the head is behind another one. -/
theorem exists_before
    (linked :
      Linked server.nextOf server.previousOf maxNbrConcurrentTimer
        server.gCurrentRunningTimerId ids)
    (member : timerId ∈ ids)
    (notHead : timerId ≠ server.gCurrentRunningTimerId) :
    ∃ before entry after, ids = before ++ entry :: timerId :: after := by
  obtain ⟨front, after, rfl⟩ := List.append_of_mem member
  rcases List.eq_nil_or_concat front with rfl | ⟨before, entry, rfl⟩
  · exact absurd linked.head_of_cons notHead
  · exact ⟨before, entry, after, by simp⟩

/-- `TimerServerHelper_UnlinkTimer` takes a timer out of the list. -/
theorem unlinkTimer_spec
    (chained : Chained server ids)
    (member : timerId ∈ ids) :
    ∃ result,
      server.unlinkTimer timerId = .ok result ∧
      Chained result (ids.erase timerId) ∧
      Relinked
        (server.withContext timerId fun entry =>
          { entry with timerIdStatus := .created }) result ∧
      (server.gPreviousRunningTimerId ≠ server.gCurrentRunningTimerId →
        result.gPreviousRunningTimerId ≠
          result.gCurrentRunningTimerId) := by
  have linked := chained.linked
  have timer := chained.inRange timerId member
  have shorter : (ids.erase timerId).Sublist ids := List.erase_sublist
  have inRange : ∀ id ∈ ids.erase timerId, id < maxNbrConcurrentTimer :=
    fun id member => chained.inRange id (shorter.subset member)
  have sorted := chained.sorted.sublist shorter
  by_cases current : timerId = server.gCurrentRunningTimerId
  · obtain ⟨after, rfl⟩ : ∃ after, ids = timerId :: after := by
      cases ids with
      | nil => cases member
      | cons first after =>
          exact ⟨after, by rw [linked.head_of_cons, current]⟩
    have nextNe : server.nextOf timerId ≠ timerId := by
      have rest := linked.tail.head_eq
      have nodup := linked.nodup
      intro same
      rw [same] at rest
      cases after with
      | nil =>
          rw [List.nil_append, List.head?_cons, Option.some.injEq] at rest
          omega
      | cons second later =>
          rw [List.cons_append, List.head?_cons, Option.some.injEq]
            at rest
          rw [rest] at nodup
          simp at nodup
    rw [List.erase_cons_head] at sorted inRange ⊢
    refine ⟨_, by
      rw [unlinkTimer, context_of_lt timer]
      simp only [bind, Except.bind, if_pos current,
        modifyContext_of_lt timer]
      rfl, ⟨?_, ?_, inRange⟩, ?_, ?_⟩
    · apply linked.tail.congr <;>
        intro id _ <;>
        simp
    · apply sorted.imp
      intro first second
      simp
    · constructor <;> simp
    · intro _
      simp only [withContext_previous, withContext_current,
        setCurrent_previous, setCurrent_current]
      rw [← current]
      exact Ne.symm nextNe
  · obtain ⟨before, entry, after, rfl⟩ :=
      exists_before linked member current
    have links := linked.previous_of_append
    have behind : server.nextOf timerId ≠ maxNbrConcurrentTimer →
        server.nextOf timerId ∈ after ∧
          server.nextOf timerId < maxNbrConcurrentTimer := by
      have shape : before ++ entry :: timerId :: after =
          (before ++ [entry]) ++ timerId :: after := by simp
      rw [shape] at linked chained
      exact next_inRange linked chained.inRange
    have nodup := linked.ids_nodup
    have erased : (before ++ entry :: timerId :: after).erase timerId =
        before ++ entry :: after := by
      have absent : timerId ∉ before ++ [entry] := by grind
      have shape : before ++ entry :: timerId :: after =
          (before ++ [entry]) ++ timerId :: after := by simp
      rw [shape, List.erase_append_right _ absent, List.erase_cons_head]
      simp
    have entryTimer := chained.inRange entry (by simp)
    have linkedBack := @linkBack_eq
      (server.withContext entry fun before =>
        { before with nextId := server.nextOf timerId })
      _ entry fun some => (behind some).2
    rw [erased] at sorted inRange ⊢
    simp only [nextOf, previousOf] at links linkedBack
    refine ⟨_, by
      rw [unlinkTimer, context_of_lt timer]
      simp only [bind, Except.bind, if_neg current, links,
        modifyContext_of_lt entryTimer, linkedBack,
        modifyContext_of_lt timer]
      rfl, ⟨?_, ?_, inRange⟩, ?_, ?_⟩
    · simp only [withContext_current, withPrevious_current]
      apply linked.removeAfter <;>
        simp [previousOf_withPrevious] <;> grind [nextOf]
    · apply sorted.imp
      intro first second
      simp
    · constructor <;> simp
    · simp

/-- The search ends behind the last timer that elapses no later. -/
theorem lookupTimer_spec
    {timeLeft : UInt32}
    (linked :
      Linked server.nextOf server.previousOf maxNbrConcurrentTimer
        server.gCurrentRunningTimerId (before ++ refTimerId :: after))
    (inRange : ∀ id ∈ before ++ refTimerId :: after,
      id < maxNbrConcurrentTimer)
    (notLater : server.countOf refTimerId ≤ timeLeft)
    {fuel : Nat}
    (enough : after.length < fuel) :
    ∃ front entry behind,
      before ++ refTimerId :: after = front ++ entry :: behind ∧
      server.lookupTimer timeLeft fuel refTimerId = .ok entry ∧
      server.countOf entry ≤ timeLeft ∧
      ∀ id ∈ behind.head?, timeLeft < server.countOf id := by
  induction after generalizing before refTimerId fuel with
  | nil =>
      obtain ⟨fuel, rfl⟩ := Nat.exists_eq_succ_of_ne_zero
        (Nat.ne_zero_of_lt enough)
      have last := linked.next_eq_stop_iff.mpr rfl
      refine ⟨before, refTimerId, [], rfl, ?_, notLater, by simp⟩
      rw [lookupTimer, context_of_lt (inRange refTimerId (by simp))]
      exact if_pos last
  | cons second later inductionHypothesis =>
      obtain ⟨fuel, rfl⟩ := Nat.exists_eq_succ_of_ne_zero
        (Nat.ne_zero_of_lt enough)
      have behind := linked.next_of_append
      simp only [List.cons_append, List.head?_cons, Option.some.injEq]
        at behind
      have timer := inRange second (by simp)
      have notStop : second ≠ maxNbrConcurrentTimer := Nat.ne_of_lt timer
      have looked :
          server.lookupTimer timeLeft (fuel + 1) refTimerId =
            if server.countOf second ≤ timeLeft then
              server.lookupTimer timeLeft fuel second
            else
              .ok refTimerId := by
        rw [nextOf] at behind
        rw [lookupTimer, context_of_lt (inRange refTimerId (by simp))]
        simp only [bind, Except.bind, ← behind, if_neg notStop,
          context_of_lt timer]
        rfl
      by_cases continued : server.countOf second ≤ timeLeft
      · have shape : before ++ refTimerId :: second :: later =
            (before ++ [refTimerId]) ++ second :: later := by simp
        rw [shape] at linked inRange ⊢
        rw [looked, if_pos continued]
        exact inductionHypothesis linked inRange continued
          (by rw [List.length_cons] at enough; omega)
      · refine ⟨before, refTimerId, second :: later, rfl, ?_, notLater,
          ?_⟩
        · rw [looked, if_neg continued]
        · simpa using UInt32.not_le.mp continued

/-- What elapses before the first timer elapses before all of them. -/
theorem earlier_of_head
    {timeLeft : UInt32}
    (sorted : after.Pairwise fun first second =>
      server.countOf first ≤ server.countOf second)
    (earlier : ∀ id ∈ after.head?, timeLeft < server.countOf id) :
    ∀ id ∈ after, timeLeft < server.countOf id := by
  cases after with
  | nil => simp
  | cons next later =>
      have first := earlier next rfl
      intro id member
      rcases List.mem_cons.mp member with rfl | inside
      · exact first
      · exact UInt32.lt_of_lt_of_le first
          ((List.pairwise_cons.mp sorted).1 id inside)

/-- A timer fits between the timers that elapse before and after it. -/
theorem sorted_insert
    (sorted :
      (before ++ refTimerId :: after).Pairwise fun first second =>
        server.countOf first ≤ server.countOf second)
    (notEarlier : server.countOf refTimerId ≤ server.countOf timerId)
    (earlier : ∀ id ∈ after,
      server.countOf timerId < server.countOf id) :
    (before ++ refTimerId :: timerId :: after).Pairwise
      fun first second =>
        server.countOf first ≤ server.countOf second := by
  have shape : before ++ refTimerId :: timerId :: after =
      (before ++ [refTimerId]) ++ timerId :: after := by simp
  have whole : before ++ refTimerId :: after =
      (before ++ [refTimerId]) ++ after := by simp
  rw [whole, List.pairwise_append] at sorted
  obtain ⟨front, behind, across⟩ := sorted
  have toFront : ∀ id ∈ before ++ [refTimerId],
      server.countOf id ≤ server.countOf timerId := by
    intro id member
    rcases List.mem_append.mp member with inside | last
    · exact UInt32.le_trans
        ((List.pairwise_append.mp front).2.2 id inside refTimerId
          (List.mem_singleton_self _)) notEarlier
    · rw [List.mem_singleton.mp last]
      exact notEarlier
  have toBehind : ∀ id ∈ after,
      server.countOf timerId ≤ server.countOf id :=
    fun id member => UInt32.le_of_lt (earlier id member)
  rw [shape, List.pairwise_append]
  refine ⟨front, List.pairwise_cons.mpr ⟨toBehind, behind⟩, ?_⟩
  intro first inFront second inBehind
  rcases List.mem_cons.mp inBehind with rfl | inside
  · exact toFront first inFront
  · exact across first inFront second inside

/-- `LinkTimerBefore` and the new current timer. -/
theorem linkTimerBefore_spec
    (chained : Chained server (refTimerId :: after))
    (timer : timerId < maxNbrConcurrentTimer)
    (absent : timerId ∉ refTimerId :: after)
    (earlier : server.countOf timerId ≤ server.countOf refTimerId) :
    ∃ result,
      server.linkTimerBefore timerId server.gCurrentRunningTimerId =
        .ok result ∧
      Chained (result.setCurrent timerId)
        (timerId :: refTimerId :: after) ∧
      Relinked server result ∧
      result.gCurrentRunningTimerId = refTimerId := by
  have linked := chained.linked
  have first := linked.head_of_cons
  have ref := chained.inRange refTimerId (List.mem_cons_self ..)
  have notStop : timerId ≠ maxNbrConcurrentTimer := Nat.ne_of_lt timer
  have different : refTimerId ≠ timerId := by
    rintro rfl
    simp at absent
  have current : server.gCurrentRunningTimerId < maxNbrConcurrentTimer :=
    by rw [← first]; exact ref
  refine ⟨_, by
    rw [linkTimerBefore, if_neg (not_not.mpr rfl),
      modifyContext_of_lt timer]
    simp only [bind, Except.bind, modifyContext_of_lt current]
    rfl, ⟨?_, ?_, ?_⟩, by constructor <;> simp, by simp [first]⟩
  · simp only [setCurrent_current, nextOf_setCurrent,
      previousOf_setCurrent]
    apply linked.cons
    · simpa [notStop] using absent
    · simp
    · simp
    · intro id other
      simp [other]
    · intro id other
      simp [other]
  · refine List.pairwise_cons.mpr ⟨?_, by simpa using chained.sorted⟩
    intro id member
    have behind : server.countOf refTimerId ≤ server.countOf id := by
      rcases List.mem_cons.mp member with rfl | inside
      · exact UInt32.le_refl _
      · exact (List.pairwise_cons.mp chained.sorted).1 id inside
    simpa using UInt32.le_trans earlier behind
  · intro id member
    rcases List.mem_cons.mp member with rfl | inside
    · exact timer
    · exact chained.inRange id inside

/-- A timer behind others counts from the last set-up on. -/
def withElapsed
    (server : TimerServer) (timerId : Nat) (timeElapsed : UInt16)
    (ids : List Nat) : TimerServer :=
  if ids = [] then
    server
  else
    server.withContext timerId fun entry =>
      { entry with countLeft := entry.countLeft + timeElapsed.toUInt32 }

@[simp] theorem statusOf_withElapsed (timeElapsed : UInt16) (id : Nat) :
    (server.withElapsed timerId timeElapsed ids).statusOf id =
      server.statusOf id := by
  rw [withElapsed]
  split <;> simp

@[simp] theorem settingsOf_withElapsed (timeElapsed : UInt16) (id : Nat) :
    (server.withElapsed timerId timeElapsed ids).settingsOf id =
      server.settingsOf id := by
  rw [withElapsed]
  split <;> simp

@[simp] theorem clockOf_withElapsed (timeElapsed : UInt16) :
    (server.withElapsed timerId timeElapsed ids).clockOf =
      server.clockOf := by
  rw [withElapsed]
  split <;> rfl

theorem countOf_withElapsed (timeElapsed : UInt16) (id : Nat) :
    (server.withElapsed timerId timeElapsed ids).countOf id =
      if id = timerId ∧ ids ≠ [] then
        server.countOf id + timeElapsed.toUInt32
      else
        server.countOf id := by
  rw [withElapsed]
  split
  · next none => rw [if_neg fun both => both.2 none]
  · next some =>
      rw [countOf, withContext_apply]
      by_cases same : id = timerId
      · subst same
        rw [if_pos rfl, if_pos ⟨rfl, some⟩, countOf]
      · rw [if_neg same, if_neg fun both => same both.1, countOf]

/-- There are no more timers in the list than ids. -/
theorem Chained.length_le
    (chained : Chained server ids) :
    ids.length ≤ maxNbrConcurrentTimer := by
  have inside : ids ⊆ List.range maxNbrConcurrentTimer :=
    fun id member => List.mem_range.mpr (chained.inRange id member)
  have fewer :=
    (List.subperm_of_subset chained.linked.ids_nodup inside).length_le
  rwa [List.length_range] at fewer

/-- The count of a timer outside of the list does not matter. -/
theorem Chained.recount
    (chained : Chained server ids)
    (absent : timerId ∉ ids)
    (change : UInt32 → UInt32) :
    Chained
      (server.withContext timerId fun entry =>
        { entry with countLeft := change entry.countLeft }) ids where
  linked := by
    apply chained.linked.congr <;> simp
  sorted := by
    apply chained.sorted.imp_of_mem
    intro first second inFront behind ordered
    rw [countOf_other fun same => absent (by rw [← same]; exact inFront),
      countOf_other fun same => absent (by rw [← same]; exact behind)]
    exact ordered
  inRange := chained.inRange

/-- Linking a timer whose count is up to date. -/
theorem linkCounted_spec
    (chained : Chained server (refTimerId :: after))
    (previousNe :
      server.gPreviousRunningTimerId ≠ server.gCurrentRunningTimerId)
    (timer : timerId < maxNbrConcurrentTimer)
    (absent : timerId ∉ refTimerId :: after)
    (few : after.length < maxNbrConcurrentTimer) :
    ∃ result front behind,
      (if server.countOf server.gCurrentRunningTimerId ≤
          server.countOf timerId then do
        let timerIdLookup ←
          server.lookupTimer (server.countOf timerId)
            maxNbrConcurrentTimer server.gCurrentRunningTimerId
        server.linkTimerAfter timerId timerIdLookup
      else do
        let server ←
          server.linkTimerBefore timerId server.gCurrentRunningTimerId
        .ok (server.setCurrent timerId)) = .ok result ∧
      refTimerId :: after = front ++ behind ∧
      Chained result (front ++ timerId :: behind) ∧
      (∀ id ∈ behind, result.countOf timerId < result.countOf id) ∧
      Relinked server result ∧
      result.gPreviousRunningTimerId ≠ result.gCurrentRunningTimerId := by
  have first := chained.linked.head_of_cons
  split
  · next notLater =>
      obtain ⟨front, entry, behind, shape, looked, notEarlier, later⟩ :=
        @lookupTimer_spec server [] after refTimerId
          (server.countOf timerId) chained.linked chained.inRange
          (by rw [first]; exact notLater) maxNbrConcurrentTimer few
      rw [List.nil_append] at shape
      rw [shape] at chained absent
      obtain ⟨result, linked, links, relinked, sameCurrent,
          samePrevious⟩ :=
        linkTimerAfter_spec chained.linked chained.inRange timer absent
      have insertion : front ++ entry :: timerId :: behind =
          (front ++ [entry]) ++ timerId :: behind := by simp
      have strict := earlier_of_head
        (List.pairwise_cons.mp
          (List.pairwise_append.mp chained.sorted).2.1).2 later
      rw [← first, looked]
      refine ⟨result, front ++ [entry], behind, linked, by simp [shape],
        ?_, ?_, relinked, ?_⟩
      · rw [← insertion]
        refine ⟨links, ?_, ?_⟩
        · apply (sorted_insert chained.sorted notEarlier strict).imp
          intro left right ordered
          rw [relinked.count_eq, relinked.count_eq]
          exact ordered
        · intro id member
          rcases List.mem_append.mp member with inFront | inBehind
          · exact chained.inRange id (List.mem_append_left _ inFront)
          · simp only [List.mem_cons] at inBehind
            rcases inBehind with rfl | rfl | inside
            · exact chained.inRange id (by simp)
            · exact timer
            · exact chained.inRange id (by simp [inside])
      · intro id member
        rw [relinked.count_eq, relinked.count_eq]
        exact strict id member
      · rw [sameCurrent, samePrevious]
        exact previousNe
  · next earlier =>
      rw [← first, UInt32.not_le] at earlier
      obtain ⟨result, linked, linkedChain, relinked, head⟩ :=
        linkTimerBefore_spec chained timer absent
          (UInt32.le_of_lt earlier)
      have strict := earlier_of_head chained.sorted
        (show ∀ id ∈ (refTimerId :: after).head?,
          server.countOf timerId < server.countOf id by simpa using earlier)
      rw [linked]
      refine ⟨_, [], refTimerId :: after, rfl, rfl, linkedChain, ?_,
        ⟨relinked.count_eq, relinked.status_eq, relinked.settings_eq,
          relinked.clock_eq⟩, ?_⟩
      · intro id member
        rw [countOf_setCurrent, relinked.count_eq, relinked.count_eq]
        exact strict id member
      · rw [setCurrent_previous, setCurrent_current, head]
        rintro rfl
        simp at absent

/-- `TimerServerHelper_LinkTimer` adds a timer to the list. -/
theorem linkTimer_spec
    (chained : Chained server ids)
    (previousNe :
      server.gPreviousRunningTimerId ≠ server.gCurrentRunningTimerId)
    (timer : timerId < maxNbrConcurrentTimer)
    (absent : timerId ∉ ids)
    (timeElapsed : UInt16) :
    ∃ result front behind,
      server.linkTimer timerId timeElapsed = .ok result ∧
      ids = front ++ behind ∧
      Chained result (front ++ timerId :: behind) ∧
      (∀ id ∈ behind, result.countOf timerId < result.countOf id) ∧
      Relinked (server.withElapsed timerId timeElapsed ids) result ∧
      result.gPreviousRunningTimerId ≠ result.gCurrentRunningTimerId := by
  have notStop : timerId ≠ maxNbrConcurrentTimer := Nat.ne_of_lt timer
  cases ids with
  | nil =>
      have none := chained.linked.eq_nil_iff.mp rfl
      refine ⟨_, [], [], by
        rw [linkTimer, if_pos none, modifyContext_of_lt timer], rfl,
        ⟨?_, ?_, ?_⟩, by simp,
        by rw [withElapsed, if_pos rfl]; constructor <;> simp, ?_⟩
      · simp only [withContext_current, setCurrent_current]
        exact linked_singleton notStop (by simp)
      · exact List.pairwise_singleton ..
      · intro id member
        rw [List.mem_singleton.mp member]
        exact timer
      · simp only [withContext_previous, withContext_current,
          setCurrent_previous, setCurrent_current, none]
        exact Ne.symm notStop
  | cons refTimerId after =>
      have first := chained.linked.head_of_cons
      have ref := chained.inRange refTimerId (List.mem_cons_self ..)
      have some : server.gCurrentRunningTimerId ≠
          maxNbrConcurrentTimer := by
        rw [← first]
        exact Nat.ne_of_lt ref
      have current : server.gCurrentRunningTimerId <
          maxNbrConcurrentTimer := by
        rw [← first]
        exact ref
      obtain ⟨result, front, behind, linked, shape, linkedChain, strict,
          relinked, resultNe⟩ :=
        linkCounted_spec
          (chained.recount absent fun count =>
            count + timeElapsed.toUInt32)
          previousNe timer absent (Nat.lt_of_succ_le chained.length_le)
      refine ⟨result, front, behind, ?_, shape, linkedChain, strict,
        relinked, resultNe⟩
      rw [← linked, linkTimer, if_neg some, modifyContext_of_lt timer]
      simp only [bind, Except.bind, context_of_lt timer,
        withContext_current, context_of_lt current]
      rfl

/-- The counts of some timers after some ticks. -/
def countedDown
    (server : TimerServer) (timeElapsed : UInt16) (ids : List Nat) :
    TimerServer :=
  ids.foldl
    (fun server id => server.withContext id fun entry =>
      { entry with countLeft := countDown timeElapsed entry.countLeft })
    server

/-- Counting down keeps the order of the counts. -/
theorem countDown_mono
    (timeElapsed : UInt16)
    {first second : UInt32}
    (ordered : first ≤ second) :
    countDown timeElapsed first ≤ countDown timeElapsed second := by
  rw [UInt32.le_iff_toNat_le] at ordered ⊢
  rw [countDown, countDown]
  split
  · exact Nat.zero_le _
  · next enough =>
      rw [UInt32.not_lt] at enough
      have secondEnough := UInt32.le_trans enough
        (UInt32.le_iff_toNat_le.mpr ordered)
      rw [if_neg (UInt32.not_lt.mpr secondEnough),
        UInt32.toNat_sub_of_le _ _ enough,
        UInt32.toNat_sub_of_le _ _ secondEnough]
      exact Nat.sub_le_sub_right ordered _

section Counts

variable {timeElapsed : UInt16}

theorem countedDown_frame :
    (server.countedDown timeElapsed ids).nextOf = server.nextOf ∧
      (server.countedDown timeElapsed ids).previousOf =
        server.previousOf ∧
      (server.countedDown timeElapsed ids).statusOf = server.statusOf ∧
      (server.countedDown timeElapsed ids).gCurrentRunningTimerId =
        server.gCurrentRunningTimerId ∧
      (server.countedDown timeElapsed ids).gPreviousRunningTimerId =
        server.gPreviousRunningTimerId := by
  induction ids generalizing server with
  | nil => exact ⟨rfl, rfl, rfl, rfl, rfl⟩
  | cons id rest inductionHypothesis =>
      obtain ⟨sameNext, samePrevious, sameStatus, sameCurrent,
          sameBefore⟩ :=
        @inductionHypothesis
          (server.withContext id fun entry =>
            { entry with
              countLeft := countDown timeElapsed entry.countLeft })
      refine ⟨sameNext.trans ?_, samePrevious.trans ?_,
        sameStatus.trans ?_, sameCurrent, sameBefore⟩ <;>
        funext id <;> simp

/-- Counting down changes counts only. -/
theorem countedDown_settings :
    (server.countedDown timeElapsed ids).settingsOf = server.settingsOf ∧
      (server.countedDown timeElapsed ids).clockOf = server.clockOf ∧
      (server.countedDown timeElapsed ids).gWakeupTimerLimitation =
        server.gWakeupTimerLimitation := by
  induction ids generalizing server with
  | nil => exact ⟨rfl, rfl, rfl⟩
  | cons id rest inductionHypothesis =>
      obtain ⟨sameSettings, sameClock, sameLimitation⟩ :=
        @inductionHypothesis
          (server.withContext id fun entry =>
            { entry with
              countLeft := countDown timeElapsed entry.countLeft })
      refine ⟨sameSettings.trans ?_, sameClock, sameLimitation⟩
      funext id
      simp

theorem countOf_countedDown
    (nodup : ids.Nodup)
    (id : Nat) :
    (server.countedDown timeElapsed ids).countOf id =
      if id ∈ ids then
        countDown timeElapsed (server.countOf id)
      else
        server.countOf id := by
  induction ids generalizing server with
  | nil => rfl
  | cons first rest inductionHypothesis =>
      obtain ⟨absent, rest_nodup⟩ := List.nodup_cons.mp nodup
      rw [countedDown, List.foldl_cons, ← countedDown,
        inductionHypothesis rest_nodup]
      by_cases same : id = first
      · subst same
        rw [if_neg absent, if_pos (List.mem_cons_self ..), countOf,
          withContext_apply, if_pos rfl, countOf]
      · rw [countOf_other same]
        simp [same]

/-- The loop visits every timer of the list once. -/
theorem updateCountsLeft_eq
    {localTimerId fuel : Nat}
    (linked :
      Linked server.nextOf server.previousOf maxNbrConcurrentTimer
        localTimerId ids)
    (inRange : ∀ id ∈ ids, id < maxNbrConcurrentTimer)
    (enough : ids.length ≤ fuel) :
    updateCountsLeft timeElapsed fuel server localTimerId =
      .ok (server.countedDown timeElapsed ids) := by
  induction ids generalizing server localTimerId fuel with
  | nil =>
      have none := linked.eq_nil_iff.mp rfl
      cases fuel <;> simp [updateCountsLeft, none, countedDown]
  | cons first rest inductionHypothesis =>
      obtain ⟨fuel, rfl⟩ := Nat.exists_eq_succ_of_ne_zero
        (show fuel ≠ 0 by rintro rfl; simp at enough)
      have head := linked.head_of_cons
      have timer := inRange first (List.mem_cons_self ..)
      have notStop : first ≠ maxNbrConcurrentTimer := Nat.ne_of_lt timer
      have sameNext : ∀ change : UInt32 → UInt32,
          (server.withContext first fun entry =>
            { entry with
              countLeft := change entry.countLeft }).nextOf =
            server.nextOf := fun change => by funext id; simp
      have samePrevious : ∀ change : UInt32 → UInt32,
          (server.withContext first fun entry =>
            { entry with
              countLeft := change entry.countLeft }).previousOf =
            server.previousOf := fun change => by funext id; simp
      have tail := linked.tail
      rw [← sameNext (countDown timeElapsed),
        ← samePrevious (countDown timeElapsed)] at tail
      have visited := inductionHypothesis tail
        (fun id member => inRange id (List.mem_cons_of_mem _ member))
        (Nat.le_of_succ_le_succ enough)
      rw [← head, updateCountsLeft, if_neg notStop]
      simp only [bind, Except.bind, modifyContext_of_lt timer,
        context_of_lt timer]
      exact visited

/-- Counting down the whole list. -/
theorem Chained.countedDown
    (chained : Chained server ids) :
    Chained (server.countedDown timeElapsed ids) ids where
  linked := by
    obtain ⟨sameNext, samePrevious, _, sameCurrent, _⟩ :=
      @countedDown_frame server ids timeElapsed
    rw [sameNext, samePrevious, sameCurrent]
    exact chained.linked
  sorted := by
    have counts := @countOf_countedDown server ids timeElapsed
      chained.linked.ids_nodup
    apply chained.sorted.imp_of_mem
    intro first second inFront behind ordered
    rw [counts, counts, if_pos inFront, if_pos behind]
    exact countDown_mono timeElapsed ordered
  inRange := chained.inRange

end Counts

end Links

/-- Only the wake-up timer differs. -/
structure SameList (server result : TimerServer) : Prop where
  context_eq : result.gTimerContext = server.gTimerContext
  current_eq :
    result.gCurrentRunningTimerId = server.gCurrentRunningTimerId
  previous_eq :
    result.gPreviousRunningTimerId = server.gPreviousRunningTimerId

theorem SameList.represents
    {server result : TimerServer}
    {ids : List Nat}
    (same : SameList server result)
    (represents : Represents server ids) :
    Represents result ids := by
  have sameNext : result.nextOf = server.nextOf := by
    funext id
    rw [nextOf, same.context_eq, nextOf]
  have samePrevious : result.previousOf = server.previousOf := by
    funext id
    rw [previousOf, same.context_eq, previousOf]
  have sameCount : result.countOf = server.countOf := by
    funext id
    rw [countOf, same.context_eq, countOf]
  have sameStatus : result.statusOf = server.statusOf := by
    funext id
    rw [statusOf, same.context_eq, statusOf]
  refine ⟨⟨?_, ?_, represents.inRange⟩, ?_, ?_⟩
  · rw [sameNext, samePrevious, same.current_eq]
    exact represents.linked
  · rw [sameCount]
    exact represents.sorted
  · rw [sameStatus]
    exact represents.running
  · rw [same.previous_eq, same.current_eq]
    exact represents.previous_ne

theorem sameList_restartWakeupCounter
    (server : TimerServer)
    (value : UInt16) :
    SameList server (server.restartWakeupCounter value) := by
  rw [restartWakeupCounter]
  split <;> exact ⟨rfl, rfl, rfl⟩

section Operations

variable {server : TimerServer}
variable {ids : List Nat}
variable {timerId : Nat}

/-- The current timer is the head of the list. -/
theorem Represents.current_lt
    (represents : Represents server ids)
    (some : server.gCurrentRunningTimerId ≠ maxNbrConcurrentTimer) :
    server.gCurrentRunningTimerId ∈ ids ∧
      server.gCurrentRunningTimerId < maxNbrConcurrentTimer := by
  cases ids with
  | nil => exact absurd (represents.linked.eq_nil_iff.mp rfl) some
  | cons first rest =>
      have head := represents.linked.head_of_cons
      rw [← head]
      exact ⟨List.mem_cons_self ..,
        represents.inRange first (List.mem_cons_self ..)⟩

/-- What rescheduling the list does to counts and to the wake-up timer. -/
structure Rescheduled
    (server result : TimerServer) (ids : List Nat) (timeElapsed : UInt16) :
    Prop where
  count_eq : ∀ id, result.countOf id =
    if id ∈ ids then
      countDown timeElapsed (server.countOf id)
    else
      server.countOf id
  settings_eq : result.settingsOf = server.settingsOf
  clock_eq : result.clockOf = server.clockOf
  limitation_eq : result.gWakeupTimerLimitation =
    (server.calculateWakeupCounterValue
      (server.countOf server.gCurrentRunningTimerId) timeElapsed).1
  wakeupTimer_eq : result.wakeupTimer =
    (server.restartWakeupCounter
      (server.calculateWakeupCounterValue
        (server.countOf server.gCurrentRunningTimerId)
        timeElapsed).2).wakeupTimer

theorem restartWakeupCounter_frame
    (server : TimerServer)
    (value : UInt16) :
    (server.restartWakeupCounter value).countOf = server.countOf ∧
      (server.restartWakeupCounter value).settingsOf =
        server.settingsOf ∧
      (server.restartWakeupCounter value).clockOf = server.clockOf ∧
      (server.restartWakeupCounter value).gWakeupTimerLimitation =
        server.gWakeupTimerLimitation := by
  rw [restartWakeupCounter]
  split <;> exact ⟨rfl, rfl, rfl, rfl⟩

/-- The wake-up timer depends on the value and on the divider only. -/
theorem restartWakeupCounter_congr
    {other : TimerServer}
    (sameClock : other.clockOf = server.clockOf)
    (value : UInt16) :
    (other.restartWakeupCounter value).wakeupTimer =
      (server.restartWakeupCounter value).wakeupTimer := by
  have divider : other.gWakeupTimerDivider = server.gWakeupTimerDivider :=
    congrArg Prod.snd sameClock
  rw [restartWakeupCounter, restartWakeupCounter]
  split
  · rfl
  · rw [divider]

/-- `TimerServerRtcInterface_RescheduleTimerList` -/
theorem rescheduleTimerList_spec
    (represents : Represents server ids)
    (some : server.gCurrentRunningTimerId ≠ maxNbrConcurrentTimer)
    (timeElapsed : UInt16) :
    ∃ result,
      server.rescheduleTimerList timeElapsed = .ok result ∧
      Represents result ids ∧
      Rescheduled server result ids timeElapsed := by
  have current := (represents.current_lt some).2
  generalize wakeupEq :
    server.calculateWakeupCounterValue
      (server.gTimerContext server.gCurrentRunningTimerId).countLeft
      timeElapsed = wakeup
  have same :
      SameList server
        { server with
          wakeupTimer := .disabled
          gWakeupTimerLimitation := wakeup.1 } :=
    ⟨rfl, rfl, rfl⟩
  have prepared := same.represents represents
  refine ⟨_, by
    rw [rescheduleTimerList, context_of_lt current]
    simp only [bind, Except.bind, wakeupEq]
    rw [updateCountsLeft_eq prepared.linked prepared.inRange
      prepared.toChained.length_le],
    (sameList_restartWakeupCounter _ _).represents ?_, ?_⟩
  · obtain ⟨_, _, sameStatus, sameCurrent, samePrevious⟩ :=
      @countedDown_frame
        { server with
          wakeupTimer := .disabled
          gWakeupTimerLimitation := wakeup.1 } ids timeElapsed
    refine ⟨prepared.toChained.countedDown, ?_, ?_⟩
    · rw [sameStatus]
      exact prepared.running
    · rw [sameCurrent, samePrevious]
      exact prepared.previous_ne
  · have counts := @countOf_countedDown
      { server with
        wakeupTimer := .disabled
        gWakeupTimerLimitation := wakeup.1 } ids timeElapsed
      represents.linked.ids_nodup
    obtain ⟨sameSettings, sameClock, sameLimitation⟩ :=
      @countedDown_settings
        { server with
          wakeupTimer := .disabled
          gWakeupTimerLimitation := wakeup.1 } ids timeElapsed
    generalize TimerServer.countedDown
      { server with
        wakeupTimer := .disabled
        gWakeupTimerLimitation := wakeup.1 } timeElapsed ids = counted
      at counts sameSettings sameClock sameLimitation ⊢
    obtain ⟨keptCount, keptSettings, keptClock, keptLimitation⟩ :=
      restartWakeupCounter_frame counted wakeup.2
    exact
      { count_eq := fun id => (congrFun keptCount id).trans (counts id)
        settings_eq := keptSettings.trans sameSettings
        clock_eq := keptClock.trans sameClock
        limitation_eq := by
          rw [keptLimitation, sameLimitation, countOf, wakeupEq]
        wakeupTimer_eq := by
          rw [@restartWakeupCounter_congr server counted sameClock,
            countOf, wakeupEq] }

/-- The list after `TimerServerHelper_UnlinkTimer`. -/
theorem Represents.unlinkTimer
    (represents : Represents server ids)
    (member : timerId ∈ ids) :
    ∃ result,
      server.unlinkTimer timerId = .ok result ∧
      Represents result (ids.erase timerId) ∧
      Relinked
        (server.withContext timerId fun entry =>
          { entry with timerIdStatus := .created }) result := by
  obtain ⟨result, unlinked, chained, relinked, previousNe⟩ :=
    unlinkTimer_spec represents.toChained member
  refine ⟨result, unlinked, ⟨chained, ?_,
    previousNe represents.previous_ne⟩, relinked⟩
  intro id
  rw [represents.linked.ids_nodup.mem_erase_iff, represents.running,
    relinked.status_eq, statusOf_set]
  by_cases same : id = timerId
  · simp [same]
  · simp [same]

/-- `TimerServer_Stop` takes a running timer out of the list. -/
theorem stop_spec
    (represents : Represents server ids)
    (timer : timerId < maxNbrConcurrentTimer)
    (timeElapsed : UInt16) :
    ∃ result rest,
      server.stop timerId timeElapsed = .ok result ∧
      Represents result rest ∧
      timerId ∉ rest := by
  by_cases running :
      (server.gTimerContext timerId).timerIdStatus = .running
  · have member := (represents.running timerId).mpr ⟨timer, running⟩
    obtain ⟨unlinked, unlink, rest, _⟩ := represents.unlinkTimer member
    have absent : timerId ∉ ids.erase timerId :=
      represents.linked.ids_nodup.not_mem_erase
    have stopped : server.stop timerId timeElapsed =
        if unlinked.gCurrentRunningTimerId = maxNbrConcurrentTimer then
          .ok { unlinked with wakeupTimer := .disabled }
        else
          unlinked.rescheduleTimerList timeElapsed := by
      rw [stop, context_of_lt timer]
      simp only [bind, Except.bind]
      rw [if_pos running]
      simp only [unlink, if_pos rest.previous_ne]
    rw [stopped]
    split
    · exact ⟨_, _, rfl,
        (show SameList unlinked
          { unlinked with wakeupTimer := .disabled } from
            ⟨rfl, rfl, rfl⟩).represents rest, absent⟩
    · next some =>
        obtain ⟨result, rescheduled, represented, _⟩ :=
          rescheduleTimerList_spec rest some timeElapsed
        exact ⟨result, _, rescheduled, represented, absent⟩
  · refine ⟨server, ids, ?_, represents, ?_⟩
    · rw [stop, context_of_lt timer]
      exact if_neg running
    · intro member
      exact running ((represents.running timerId).mp member).2

/-- A timer that is about to be linked. -/
def withStarted
    (server : TimerServer) (timerId : Nat) (timeoutTicks : UInt32) :
    TimerServer :=
  server.withContext timerId fun entry =>
    { entry with
      timerIdStatus := .running
      countLeft := timeoutTicks
      counterInit := timeoutTicks }

theorem modifyContext_started
    (timer : timerId < maxNbrConcurrentTimer)
    (timeoutTicks : UInt32) :
    server.modifyContext timerId (fun entry =>
        { entry with
          timerIdStatus := .running
          countLeft := timeoutTicks
          counterInit := timeoutTicks }) =
      .ok (server.withStarted timerId timeoutTicks) :=
  modifyContext_of_lt timer

theorem withStarted_current (timeoutTicks : UInt32) :
    (server.withStarted timerId timeoutTicks).gCurrentRunningTimerId =
      server.gCurrentRunningTimerId :=
  rfl

theorem statusOf_withStarted (timeoutTicks : UInt32) (id : Nat) :
    (server.withStarted timerId timeoutTicks).statusOf id =
      if id = timerId then .running else server.statusOf id := by
  rw [withStarted, statusOf, withContext_apply]
  split <;> rfl

theorem countOf_withStarted (timeoutTicks : UInt32) (id : Nat) :
    (server.withStarted timerId timeoutTicks).countOf id =
      if id = timerId then timeoutTicks else server.countOf id := by
  rw [withStarted, countOf, withContext_apply]
  split <;> rfl

theorem counterInit_withStarted (timeoutTicks : UInt32) (id : Nat) :
    ((server.withStarted timerId timeoutTicks).settingsOf id).counterInit =
      if id = timerId then
        timeoutTicks
      else
        (server.settingsOf id).counterInit := by
  rw [withStarted, settingsOf, withContext_apply]
  split <;> rfl

/-- A timer outside of the list is started and linked. -/
theorem Represents.linkStarted
    (represents : Represents server ids)
    (timer : timerId < maxNbrConcurrentTimer)
    (absent : timerId ∉ ids)
    (timeoutTicks : UInt32)
    (timeElapsed : UInt16) :
    ∃ linked front behind,
      (server.withStarted timerId timeoutTicks).linkTimer timerId
          timeElapsed = .ok linked ∧
      ids = front ++ behind ∧
      Represents linked (front ++ timerId :: behind) ∧
      (∀ id ∈ behind, linked.countOf timerId < linked.countOf id) ∧
      Relinked
        ((server.withStarted timerId timeoutTicks).withElapsed timerId
          timeElapsed ids) linked ∧
      linked.gCurrentRunningTimerId ≠ maxNbrConcurrentTimer := by
  have chained : Chained (server.withStarted timerId timeoutTicks) ids := by
    refine ⟨represents.linked.congr ?_ ?_, ?_, represents.inRange⟩
    · simp [withStarted]
    · simp [withStarted]
    · apply represents.sorted.imp_of_mem
      intro first second inFront behind ordered
      rw [countOf_withStarted,
        if_neg fun same => absent (by rw [← same]; exact inFront),
        countOf_withStarted,
        if_neg fun same => absent (by rw [← same]; exact behind)]
      exact ordered
  obtain ⟨linked, front, behind, link, shape, linkedChain, strict,
      relinked, linkedNe⟩ :=
    linkTimer_spec chained represents.previous_ne timer absent timeElapsed
  refine ⟨linked, front, behind, link, shape, ⟨linkedChain, ?_, linkedNe⟩,
    strict, relinked, ?_⟩
  · intro id
    have running := represents.running id
    rw [shape, List.mem_append] at running
    rw [List.mem_append, List.mem_cons, or_left_comm, running,
      relinked.status_eq, statusOf_withElapsed, statusOf_withStarted]
    by_cases same : id = timerId
    · simp [same, timer]
    · simp [same]
  · intro none
    have empty := linkedChain.linked.eq_nil_iff.mpr none
    simp at empty

/-- `StartTimer` of a timer outside of the list. -/
theorem startStopped_spec
    (represents : Represents server ids)
    (timer : timerId < maxNbrConcurrentTimer)
    (absent : timerId ∉ ids)
    (timeoutTicks : UInt32)
    (reads : ElapsedReads) :
    ∃ result started,
      server.startStopped timerId timeoutTicks reads = .ok result ∧
      Represents result started := by
  obtain ⟨linked, front, behind, link, _, represented, _, _, some⟩ :=
    represents.linkStarted timer absent timeoutTicks
      (if (server.withStarted timerId timeoutTicks).gCurrentRunningTimerId =
          maxNbrConcurrentTimer then
        0
      else
        reads.link)
  obtain ⟨result, rescheduled, after, _⟩ :=
    rescheduleTimerList_spec represented some reads.reschedule
  refine ⟨result, _, ?_, after⟩
  rw [startStopped, modifyContext_started timer]
  simp only [bind, Except.bind, link, if_pos represented.previous_ne]
  exact rescheduled

/-- `StartTimer` -/
theorem startTimer_spec
    (represents : Represents server ids)
    (timer : timerId < maxNbrConcurrentTimer)
    (timeoutTicks : UInt32)
    (reads : ElapsedReads) :
    ∃ result started,
      server.startTimer timerId timeoutTicks reads = .ok result ∧
      Represents result started := by
  by_cases running :
      (server.gTimerContext timerId).timerIdStatus = .running
  · obtain ⟨stopped, rest, stops, restRepresented, absent⟩ :=
      stop_spec represents timer reads.stop
    obtain ⟨result, started, starts, represented⟩ :=
      startStopped_spec restRepresented timer absent timeoutTicks reads
    refine ⟨result, started, ?_, represented⟩
    rw [startTimer, context_of_lt timer]
    simp only [bind, Except.bind]
    rw [if_pos running]
    simp only [stops, starts]
  · have absent : timerId ∉ ids := fun member =>
      running ((represents.running timerId).mp member).2
    obtain ⟨result, started, starts, represented⟩ :=
      startStopped_spec represents timer absent timeoutTicks reads
    refine ⟨result, started, ?_, represented⟩
    rw [startTimer, context_of_lt timer]
    simp only [bind, Except.bind]
    rw [if_neg running]
    exact starts

end Operations

end DemoBoard.TimerServer
