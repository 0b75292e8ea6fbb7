import DemoBoard.TimerList

namespace DemoBoard.TimerServer

/-!
# Runs of the timer server

Clients create, start, stop and delete timers in any order and the wake-up
handler runs whenever the list is not empty.  After every step the list holds
exactly the running timers, in the order of their remaining counts.
-/

/-- Calls of the clients and of the wake-up interrupt. -/
inductive Event where
  | createTimer (timerMode : TimerMode) (timerCallback : Option Nat)
  | startTimer
      (timerId : Nat) (timeoutTicks : UInt32) (reads : ElapsedReads)
  | stop (timerId : Nat) (timeElapsed : UInt16)
  | deleteTimer (timerId : Nat)
  | rtcWakeup (reads : ElapsedReads)
  deriving Repr, DecidableEq

/-- A step of the timer server. -/
def step (server : TimerServer) : Event → Except TimerFault TimerServer
  | .createTimer timerMode timerCallback => do
      let outcome ← server.createTimer timerMode timerCallback
      .ok outcome.1
  | .startTimer timerId timeoutTicks reads =>
      server.startTimer timerId timeoutTicks reads
  | .stop timerId timeElapsed => server.stop timerId timeElapsed
  | .deleteTimer timerId => server.deleteTimer timerId
  | .rtcWakeup reads => do
      let outcome ← server.rtcWakeupHandler reads
      .ok outcome.1

/--
Clients name timers, they do not delete a running one, and the interrupt only
occurs while a timer is running.
-/
def Allowed (server : TimerServer) : Event → Prop
  | .createTimer _ _ => True
  | .startTimer timerId _ _ => timerId < maxNbrConcurrentTimer
  | .stop timerId _ => timerId < maxNbrConcurrentTimer
  | .deleteTimer timerId =>
      timerId < maxNbrConcurrentTimer ∧
        server.statusOf timerId ≠ .running
  | .rtcWakeup _ =>
      server.gCurrentRunningTimerId ≠ maxNbrConcurrentTimer

/-- The states after `TimerServer_Init` and any number of steps. -/
inductive Reachable : TimerServer → Prop
  | init (maxWakeupTimerSetup : UInt16) (wakeupTimerDivider : UInt8) :
      Reachable (init maxWakeupTimerSetup wakeupTimerDivider)
  | step
      {server next : TimerServer}
      {event : Event}
      (reachable : Reachable server)
      (allowed : Allowed server event)
      (stepped : step server event = .ok next) :
      Reachable next

section Steps

variable {server : TimerServer}
variable {ids : List Nat}

/-- The first free id, if there is one. -/
theorem findFirstFreeId_spec
    (server : TimerServer)
    (id : Nat) :
    id ≤ maxNbrConcurrentTimer →
      server.findFirstFreeId id = maxNbrConcurrentTimer ∨
        server.findFirstFreeId id < maxNbrConcurrentTimer ∧
          server.statusOf (server.findFirstFreeId id) = .free := by
  fun_induction server.findFirstFreeId id with
  | case1 id inside taken inductionHypothesis =>
      exact fun _ => inductionHypothesis inside
  | case2 id inside free =>
      exact fun _ => Or.inr ⟨inside, not_not.mp free⟩
  | case3 id outside => exact fun bound => Or.inl (by omega)

/-- Timers outside of the list change their status freely. -/
theorem Represents.withStatus
    (represents : Represents server ids)
    {timerId : Nat}
    (absent : timerId ∉ ids)
    {change : TimerContext → TimerContext}
    (sameLinks : ∀ entry,
      (change entry).nextId = entry.nextId ∧
        (change entry).previousId = entry.previousId ∧
        (change entry).countLeft = entry.countLeft)
    (notRunning : ∀ entry, (change entry).timerIdStatus ≠ .running) :
    Represents (server.withContext timerId change) ids := by
  refine ⟨⟨?_, ?_, represents.inRange⟩, ?_, represents.previous_ne⟩
  · apply represents.linked.congr
    · intro id _
      exact nextOf_kept (fun entry => (sameLinks entry).1) id
    · intro id _
      exact previousOf_kept (fun entry => (sameLinks entry).2.1) id
  · apply represents.sorted.imp
    intro first second ordered
    rw [countOf_kept fun entry => (sameLinks entry).2.2,
      countOf_kept fun entry => (sameLinks entry).2.2]
    exact ordered
  · intro id
    by_cases same : id = timerId
    · subst same
      rw [statusOf, withContext_apply, if_pos rfl]
      exact ⟨fun member => absurd member absent,
        fun running => absurd running.2 (notRunning _)⟩
    · rw [statusOf, withContext_apply, if_neg same]
      exact represents.running id

/-- The wake-up timer and all counts are kept. -/
structure SameTimes (server result : TimerServer) : Prop where
  wakeupTimer_eq : result.wakeupTimer = server.wakeupTimer
  limitation_eq :
    result.gWakeupTimerLimitation = server.gWakeupTimerLimitation
  clock_eq : result.clockOf = server.clockOf
  count_eq : ∀ id, result.countOf id = server.countOf id
  counterInit_eq : ∀ id,
    (result.gTimerContext id).counterInit =
      (server.gTimerContext id).counterInit

/-- `TimerServer_CreateTimer` -/
theorem createTimer_spec
    (represents : Represents server ids)
    (timerMode : TimerMode)
    (timerCallback : Option Nat) :
    ∃ result,
      server.createTimer timerMode timerCallback =
        .ok (result, server.findFirstFreeId 0) ∧
      Represents result ids ∧
      SameTimes server result := by
  rcases findFirstFreeId_spec server 0 (Nat.zero_le _) with
    none | ⟨timer, free⟩
  · refine ⟨server, ?_, represents, rfl, rfl, rfl, fun _ => rfl,
      fun _ => rfl⟩
    rw [createTimer]
    simp only [none]
    rfl
  · have absent : server.findFirstFreeId 0 ∉ ids := by
      intro member
      have running := ((represents.running _).mp member).2
      rw [free] at running
      cases running
    refine ⟨server.withContext (server.findFirstFreeId 0) fun entry =>
        { entry with
          timerIdStatus := .created
          mode := timerMode
          callback := timerCallback }, ?_,
      represents.withStatus absent (fun _ => ⟨rfl, rfl, rfl⟩)
        (fun _ => by simp), rfl, rfl, rfl, countOf_kept fun _ => rfl, ?_⟩
    · rw [createTimer]
      simp only [ne_eq, Nat.ne_of_lt timer, not_false_eq_true, if_true,
        modifyContext_of_lt timer, bind, Except.bind]
    · intro id
      rw [withContext_apply]
      split
      · next created =>
          rw [created]
      · rfl

/-- `TimerServer_DeleteTimer` of a timer that is not running. -/
theorem deleteTimer_spec
    (represents : Represents server ids)
    {timerId : Nat}
    (timer : timerId < maxNbrConcurrentTimer)
    (notRunning : server.statusOf timerId ≠ .running) :
    ∃ result,
      server.deleteTimer timerId = .ok result ∧
      Represents result ids ∧
      SameTimes server result := by
  refine ⟨_, modifyContext_of_lt timer,
    represents.withStatus ?_ (fun _ => ⟨rfl, rfl, rfl⟩)
      (fun _ => by simp), rfl, rfl, rfl, countOf_kept fun _ => rfl, ?_⟩
  · intro member
    exact notRunning ((represents.running timerId).mp member).2
  · intro id
    rw [withContext_apply]
    split
    · next deleted =>
        rw [deleted]
    · rfl

/-- The current timer elapses. -/
theorem timerElapsed_spec
    (represents : Represents server ids)
    {timerId : Nat}
    (member : timerId ∈ ids)
    (reads : ElapsedReads)
    (mode : TimerMode) :
    ∃ result rest,
      server.timerElapsed timerId reads mode = .ok result ∧
      Represents result rest := by
  have timer := represents.inRange timerId member
  cases mode with
  | singleShot =>
      obtain ⟨result, rest, stopped, represented, _⟩ :=
        stop_spec represents timer reads.stop
      exact ⟨result, rest, stopped, represented⟩
  | repeated =>
      obtain ⟨unlinked, unlink, rest, _⟩ := represents.unlinkTimer member
      obtain ⟨result, started, starts, represented⟩ :=
        startTimer_spec rest timer
          (unlinked.gTimerContext timerId).counterInit reads
      refine ⟨result, started, ?_, represented⟩
      simp only [timerElapsed, unlink, context_of_lt timer, bind,
        Except.bind]
      exact starts

/-- `TimerServer_RtcWakeupHandler` while a timer is running. -/
theorem rtcWakeupHandler_spec
    (represents : Represents server ids)
    (some : server.gCurrentRunningTimerId ≠ maxNbrConcurrentTimer)
    (reads : ElapsedReads) :
    ∃ result callback rest,
      server.rtcWakeupHandler reads = .ok (result, callback) ∧
      Represents result rest := by
  obtain ⟨member, current⟩ := represents.current_lt some
  have running := ((represents.running _).mp member).2
  rw [statusOf] at running
  generalize wokenEq :
    { server with wakeupTimer := .disabled } = woken
  have same : SameList server woken := by
    rw [← wokenEq]
    exact ⟨rfl, rfl, rfl⟩
  have represented := same.represents represents
  rw [← same.current_eq] at some member current
  have status :
      (woken.gTimerContext woken.gCurrentRunningTimerId).timerIdStatus =
        .running := by
    rw [same.context_eq, same.current_eq]
    exact running
  have handled : server.rtcWakeupHandler reads =
      if woken.gWakeupTimerLimitation ≠ .overpassed then
        woken.timerElapsed woken.gCurrentRunningTimerId reads
            (woken.gTimerContext woken.gCurrentRunningTimerId).mode >>=
          fun result => .ok (result,
            (woken.gTimerContext woken.gCurrentRunningTimerId).callback)
      else
        woken.rescheduleTimerList reads.reschedule >>=
          fun result => .ok (result, none) := by
    have limitation : woken.gWakeupTimerLimitation =
        server.gWakeupTimerLimitation := by
      rw [← wokenEq]
    rw [rtcWakeupHandler]
    simp only [wokenEq, bind, Except.bind]
    rw [← same.current_eq, ← limitation, context_of_lt current]
    simp only [if_pos status]
  rw [handled]
  split
  · obtain ⟨result, rest, elapsed, after⟩ :=
      timerElapsed_spec represented member reads
        (woken.gTimerContext woken.gCurrentRunningTimerId).mode
    rw [elapsed]
    exact ⟨result, _, rest, rfl, after⟩
  · obtain ⟨result, rescheduled, after, _⟩ :=
      rescheduleTimerList_spec represented some reads.reschedule
    rw [rescheduled]
    exact ⟨result, _, ids, rfl, after⟩

/-- Every allowed step succeeds and keeps the list. -/
theorem step_spec
    (represents : Represents server ids)
    (event : Event)
    (allowed : Allowed server event) :
    ∃ next nextIds,
      step server event = .ok next ∧ Represents next nextIds := by
  cases event with
  | createTimer timerMode timerCallback =>
      obtain ⟨result, created, represented, _⟩ :=
        createTimer_spec represents timerMode timerCallback
      exact ⟨result, ids, by rw [step, created]; rfl, represented⟩
  | startTimer timerId timeoutTicks reads =>
      exact startTimer_spec represents allowed timeoutTicks reads
  | stop timerId timeElapsed =>
      obtain ⟨result, rest, stopped, represented, _⟩ :=
        stop_spec represents allowed timeElapsed
      exact ⟨result, rest, stopped, represented⟩
  | deleteTimer timerId =>
      obtain ⟨result, deleted, represented, _⟩ :=
        deleteTimer_spec represents allowed.1 allowed.2
      exact ⟨result, ids, deleted, represented⟩
  | rtcWakeup reads =>
      obtain ⟨result, callback, rest, handled, represented⟩ :=
        rtcWakeupHandler_spec represents allowed reads
      exact ⟨result, rest, by rw [step, handled]; rfl, represented⟩

theorem represents_init
    (maxWakeupTimerSetup : UInt16)
    (wakeupTimerDivider : UInt8) :
    Represents (init maxWakeupTimerSetup wakeupTimerDivider) [] where
  linked := IntrusiveList.linked_nil _ _ _
  sorted := List.Pairwise.nil
  inRange := by simp
  running := by
    intro id
    simp [statusOf, init]
  previous_ne := by simp [init, maxNbrConcurrentTimer]

theorem Reachable.represents
    (reachable : Reachable server) :
    ∃ ids, Represents server ids := by
  induction reachable with
  | init maxWakeupTimerSetup wakeupTimerDivider =>
      exact ⟨[], represents_init maxWakeupTimerSetup wakeupTimerDivider⟩
  | step _ allowed stepped inductionHypothesis =>
      obtain ⟨ids, represents⟩ := inductionHypothesis
      obtain ⟨next, nextIds, same, represented⟩ :=
        step_spec represents _ allowed
      rw [stepped] at same
      cases same
      exact ⟨nextIds, represented⟩

/--
In every reachable state the links from the current timer on form the list of
the running timers in the order of their counts, and no allowed step accesses
an entry outside of `gTimerContext` or walks over the list without end.
-/
theorem timer_list_invariant
    (reachable : Reachable server) :
    (∃ ids, Represents server ids) ∧
      ∀ event, Allowed server event →
        ∃ next, step server event = .ok next := by
  obtain ⟨ids, represents⟩ := reachable.represents
  refine ⟨⟨ids, represents⟩, ?_⟩
  intro event allowed
  obtain ⟨next, _, stepped, _⟩ := step_spec represents event allowed
  exact ⟨next, stepped⟩

end Steps

instance (server : TimerServer) (event : Event) :
    Decidable (Allowed server event) :=
  match event with
  | .createTimer _ _ => .isTrue trivial
  | .startTimer timerId _ _ =>
      inferInstanceAs (Decidable (timerId < maxNbrConcurrentTimer))
  | .stop timerId _ =>
      inferInstanceAs (Decidable (timerId < maxNbrConcurrentTimer))
  | .deleteTimer timerId =>
      inferInstanceAs
        (Decidable
          (timerId < maxNbrConcurrentTimer ∧
            server.statusOf timerId ≠ .running))
  | .rtcWakeup _ =>
      inferInstanceAs
        (Decidable (server.gCurrentRunningTimerId ≠ maxNbrConcurrentTimer))

/-- Allowed steps that are evaluated one after the other. -/
theorem Reachable.follow
    (events : List Event)
    {server after : TimerServer}
    (reachable : Reachable server)
    (applied : events.foldlM (fun server event =>
      if Allowed server event then
        (TimerServer.step server event).toOption
      else
        none) server = some after) :
    Reachable after ∧
      events.foldlM TimerServer.step server = .ok after := by
  induction events generalizing server with
  | nil =>
      cases applied
      exact ⟨reachable, rfl⟩
  | cons event rest inductionHypothesis =>
      rw [List.foldlM_cons, Option.bind_eq_bind,
        Option.bind_eq_some_iff] at applied
      obtain ⟨middle, moved, others⟩ := applied
      obtain ⟨allowed, moved⟩ := Option.ite_none_right_eq_some.mp moved
      cases stepped : TimerServer.step server event with
      | error fault =>
          rw [stepped] at moved
          cases moved
      | ok value =>
          rw [stepped] at moved
          cases moved
          obtain ⟨reached, same⟩ :=
            inductionHypothesis (reachable.step allowed stepped) others
          refine ⟨reached, ?_⟩
          rw [List.foldlM_cons, stepped]
          exact same

/--
Three timers, two of them beyond the range of the wake-up timer.  The first
wake-up calls back, the second one is a partial one, and the timer that is due
last is restarted while it is running.
-/
def threeTimers : List Event :=
  [.createTimer .repeated (some 0), .createTimer .singleShot (some 1),
    .createTimer .singleShot (some 2), .startTimer 0 100000 ⟨0, 0, 0⟩,
    .startTimer 1 160 ⟨0, 20, 20⟩, .startTimer 2 50000 ⟨0, 30, 0⟩,
    .rtcWakeup ⟨165, 0, 165⟩, .rtcWakeup ⟨0, 0, 32760⟩,
    .startTimer 0 90000 ⟨5, 5, 5⟩]

theorem timer_list_invariant_three :
    ∃ server,
      threeTimers.foldlM step (init 32747 4) = .ok server ∧
      server.gCurrentRunningTimerId = 2 ∧ server.nextOf 2 = 0 ∧
      server.nextOf 0 = maxNbrConcurrentTimer ∧
      (∃ ids, Represents server ids) ∧
      ∀ event, Allowed server event →
        ∃ next, step server event = .ok next := by
  have evaluated :
      (threeTimers.foldlM (fun server event =>
          if Allowed server event then
            (step server event).toOption
          else
            none) (init 32747 4)).map (fun server =>
        (server.gCurrentRunningTimerId, server.nextOf 2,
          server.nextOf 0)) =
        some (2, 0, maxNbrConcurrentTimer) := by
    decide +kernel
  obtain ⟨server, applied, links⟩ := Option.map_eq_some_iff.mp evaluated
  obtain ⟨reachable, steps⟩ :=
    Reachable.follow threeTimers (.init 32747 4) applied
  obtain ⟨current, second, last⟩ :
      server.gCurrentRunningTimerId = 2 ∧ server.nextOf 2 = 0 ∧
        server.nextOf 0 = maxNbrConcurrentTimer := by
    simpa using links
  exact ⟨server, steps, current, second, last,
    timer_list_invariant reachable⟩

end DemoBoard.TimerServer
