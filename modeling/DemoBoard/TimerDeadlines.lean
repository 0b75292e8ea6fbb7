import DemoBoard.TimerClock
import DemoBoard.TransitionRuns

namespace DemoBoard.TimerDeadlines

open TimerServer TransitionRuns

/-!
# Deadlines of the timers

The counts of the timers are relative to the last set-up of the wake-up timer,
and the difference of a deadline and the tick of that set-up is the count as
long as the deadline is not missed; a missed deadline leaves the count 0.  Every
start, stop and wake-up moves the set-up tick and counts down accordingly, so
that the list stays ordered by deadlines.
-/

/-- The longest time between a wake-up and its handler. -/
def maxHandlerDelay : Nat := 20

/-- The longest timeout a client may ask for. -/
def maxTimeoutTicks : Nat := 4294967

/-- Calls of the clients and of the wake-up interrupt. -/
inductive TimerEvent where
  | createTimer (timerMode : TimerMode) (timerCallback : Option Nat)
  | startTimer (timerId : Nat) (timeoutTicks : UInt32)
  | stop (timerId : Nat)
  | rtcWakeup
  deriving Repr, DecidableEq

/-- An event and its tick. -/
structure TimedEvent where
  tick : Nat
  event : TimerEvent
  deriving Repr, DecidableEq

/-- The timer server, the tick of the last event and what clients expect. -/
structure TimedState where
  clocked : ClockedServer
  now : Nat
  /-- The tick from which on a running timer may call back. -/
  due : Nat → Nat

/-- The reload value of a timer. -/
def reloadOf (clocked : ClockedServer) (timerId : Nat) : Nat :=
  (clocked.server.gTimerContext timerId).counterInit.toNat

/-- A repeated timer is restarted when it calls back. -/
def dueAfterCall
    (clocked : ClockedServer) (due : Nat → Nat) (tick : Nat) :
    Option Nat → Nat → Nat
  | none => due
  | some timerId =>
      match (clocked.server.gTimerContext timerId).mode with
      | .singleShot => due
      | .repeated =>
          Function.update due timerId (tick + reloadOf clocked timerId)

/-- A step of the timer server. -/
def step (state : TimedState) (timed : TimedEvent) :
    Except TimerFault TimedState :=
  match timed.event with
  | .createTimer timerMode timerCallback => do
      let created ←
        state.clocked.server.createTimer timerMode timerCallback
      .ok
        { state with
          clocked := { state.clocked with server := created.1 }
          now := timed.tick }
  | .startTimer timerId timeoutTicks => do
      let clocked ←
        state.clocked.startTimer timerId timeoutTicks timed.tick
      .ok
        { clocked := clocked
          now := timed.tick
          due :=
            Function.update state.due timerId
              (timed.tick + timeoutTicks.toNat) }
  | .stop timerId => do
      let clocked ← state.clocked.stop timerId timed.tick
      .ok { state with clocked := clocked, now := timed.tick }
  | .rtcWakeup => do
      let handled ← state.clocked.rtcWakeupHandler timed.tick
      .ok
        { clocked := handled.1
          now := timed.tick
          due :=
            dueAfterCall state.clocked state.due timed.tick handled.2 }

/--
Time does not go back, a wake-up is handled in time, and the handler does not
run before the wake-up.
-/
def OnTime (state : TimedState) (timed : TimedEvent) : Prop :=
  state.now ≤ timed.tick ∧
    match state.clocked.server.wakeupTimer.ticks with
    | none => timed.event ≠ .rtcWakeup
    | some ticks =>
        timed.tick ≤ state.clocked.setupTick + ticks + maxHandlerDelay ∧
          (timed.event = .rtcWakeup →
            state.clocked.setupTick + ticks ≤ timed.tick)

/-- Clients name timers and ask for timeouts in range. -/
def WellFormed : TimerEvent → Prop
  | .createTimer _ _ => True
  | .startTimer timerId timeoutTicks =>
      timerId < maxNbrConcurrentTimer ∧ 0 < timeoutTicks.toNat ∧
        timeoutTicks.toNat ≤ maxTimeoutTicks
  | .stop timerId => timerId < maxNbrConcurrentTimer
  | .rtcWakeup => True

/-- Runs after `TimerServer_Init`. -/
def system : System TimedState TimedEvent where
  start := fun state => state.clocked = ClockedServer.init
  step := fun state timed next =>
    OnTime state timed ∧ WellFormed timed.event ∧
      step state timed = .ok next

/-- The deadlines behind the counts of a list of timers. -/
structure Timely
    (clocked : ClockedServer) (due : Nat → Nat) (now : Nat)
    (ids : List Nat) : Prop where
  represents : Represents clocked.server ids
  clock_eq : clocked.server.clockOf = (32747, 4)
  setup_le : ids ≠ [] → clocked.setupTick ≤ now
  ssr_eq : ids ≠ [] →
    clocked.gSsrValueOnLastSetup = ssrAt clocked.setupTick
  count_eq : ∀ id ∈ ids,
    (clocked.server.countOf id).toNat = due id - clocked.setupTick
  inOrder : ids.Pairwise fun first second => due first ≤ due second
  soon : ∀ id ∈ ids, due id ≤ now + maxTimeoutTicks
  reload : ∀ id ∈ ids, reloadOf clocked id ≤ maxTimeoutTicks

/-- What the wake-up timer counts for the first timer of the list. -/
structure Armed (clocked : ClockedServer) (timerId : Nat) : Prop where
  overpassed : clocked.server.gWakeupTimerLimitation = .overpassed →
    clocked.server.wakeupTimer.ticks = some 32747
  far : clocked.server.gWakeupTimerLimitation = .overpassed →
    32747 < (clocked.server.countOf timerId).toNat
  largeEnough : clocked.server.gWakeupTimerLimitation ≠ .overpassed →
    clocked.server.wakeupTimer.ticks =
      some (clocked.server.countOf timerId).toNat
  ticks_le : ∀ ticks, clocked.server.wakeupTimer.ticks = some ticks →
    ticks ≤ 32747

/-- The state between two events. -/
structure Punctual
    (clocked : ClockedServer) (due : Nat → Nat) (now : Nat)
    (ids : List Nat) : Prop extends Timely clocked due now ids where
  stopped : ids = [] → clocked.server.wakeupTimer = .disabled
  armed : ∀ timerId ∈ ids.head?, Armed clocked timerId

section Counts

variable {server : TimerServer}

theorem toNat_countDown (timeElapsed : UInt16) (countLeft : UInt32) :
    (countDown timeElapsed countLeft).toNat =
      countLeft.toNat - timeElapsed.toNat := by
  rw [countDown]
  split
  · next less =>
      rw [UInt32.lt_iff_toNat_lt, UInt16.toNat_toUInt32] at less
      rw [UInt32.toNat_zero]
      omega
  · next enough =>
      rw [UInt32.not_lt] at enough
      rw [UInt32.toNat_sub_of_le _ _ enough, UInt16.toNat_toUInt32]

/-- The interrupt is generated after as many ticks as were asked for. -/
theorem ticks_restartWakeupCounter
    (clock : server.clockOf = (32747, 4))
    (value : UInt16) :
    (server.restartWakeupCounter value).wakeupTimer.ticks =
      some value.toNat := by
  have divider : server.gWakeupTimerDivider = 4 :=
    congrArg Prod.snd clock
  rw [restartWakeupCounter]
  split
  · next zero =>
      rw [zero]
      rfl
  · next some =>
      have positive : 1 ≤ value.toNat := by
        by_contra none
        apply some
        apply UInt16.toNat_inj.mp
        rw [UInt16.toNat_zero]
        omega
      have one : (1 : UInt16) ≤ value := UInt16.le_iff_toNat_le.mpr positive
      rw [divider, if_pos (Or.inr (by decide)), WakeupTimer.ticks,
        UInt16.toNat_sub_of_le _ _ one, UInt16.toNat_one,
        Nat.sub_add_cancel positive]

/-- `CalculateWakeupCounterValue` in terms of the count that is left. -/
theorem calculateWakeupCounterValue_spec
    (clock : server.clockOf = (32747, 4))
    (countLeft : UInt32)
    (timeElapsed : UInt16) :
    let wakeup := server.calculateWakeupCounterValue countLeft timeElapsed
    (wakeup.1 = .overpassed → wakeup.2.toNat = 32747 ∧
        timeElapsed.toNat + 32747 < countLeft.toNat) ∧
      (wakeup.1 ≠ .overpassed →
        wakeup.2.toNat = countLeft.toNat - timeElapsed.toNat) ∧
      wakeup.2.toNat ≤ 32747 := by
  have setup : server.gMaxWakeupTimerSetup = 32747 :=
    congrArg Prod.fst clock
  dsimp only
  rw [calculateWakeupCounterValue, setup]
  split
  · next less =>
      rw [UInt32.lt_iff_toNat_lt, UInt16.toNat_toUInt32] at less
      refine ⟨fun impossible => ?_, fun _ => ?_, ?_⟩
      · cases impossible
      · rw [UInt16.toNat_zero]
        omega
      · exact Nat.zero_le _
  · next enough =>
      rw [UInt32.not_lt] at enough
      split
      · next long =>
          exact ⟨fun _ => ⟨rfl, long⟩,
            fun impossible => absurd rfl impossible, Nat.le_refl _⟩
      · next short =>
          have maximum : (32747 : UInt16).toNat = 32747 := rfl
          rw [maximum] at short
          have value :
              (countLeft - timeElapsed.toUInt32).toUInt16.toNat =
                countLeft.toNat - timeElapsed.toNat := by
            rw [UInt32.toNat_toUInt16, UInt32.toNat_sub_of_le _ _ enough,
              UInt16.toNat_toUInt32, Nat.mod_eq_of_lt (by omega)]
          refine ⟨fun impossible => ?_, fun _ => value, ?_⟩
          · cases impossible
          · rw [value]
            omega

end Counts

section Operations

variable {clocked : ClockedServer}
variable {due : Nat → Nat}
variable {ids : List Nat}
variable {tick : Nat}

/-- Rescheduling moves the set-up tick. -/
theorem rescheduleTimerList_punctual
    {base : Nat}
    (represents : Represents clocked.server ids)
    (some : ids ≠ [])
    (clock : clocked.server.clockOf = (32747, 4))
    (later : base ≤ tick)
    (elapsed : (clocked.returnTimeElapsed tick).toNat = tick - base)
    (counts : ∀ id ∈ ids,
      (clocked.server.countOf id).toNat = due id - base)
    (inOrder : ids.Pairwise fun first second => due first ≤ due second)
    (soon : ∀ id ∈ ids, due id ≤ tick + maxTimeoutTicks)
    (reload : ∀ id ∈ ids, reloadOf clocked id ≤ maxTimeoutTicks) :
    ∃ result,
      clocked.rescheduleTimerList tick = .ok result ∧
      result.setupTick = tick ∧
      Punctual result due tick ids := by
  have current :
      clocked.server.gCurrentRunningTimerId ≠ maxNbrConcurrentTimer :=
    fun none => some (represents.linked.eq_nil_iff.mpr none)
  obtain ⟨server, done, represented, rescheduled⟩ :=
    rescheduleTimerList_spec represents current
      (clocked.returnTimeElapsed tick)
  have clockAfter : server.clockOf = (32747, 4) :=
    rescheduled.clock_eq.trans clock
  refine ⟨⟨server, ssrAt tick, tick⟩, ?_, rfl, ?_⟩
  · rw [ClockedServer.rescheduleTimerList, done]
    rfl
  have countAfter : ∀ id ∈ ids,
      (server.countOf id).toNat = due id - tick := by
    intro id member
    have count := counts id member
    rw [rescheduled.count_eq, if_pos member, toNat_countDown, count,
      elapsed]
    omega
  have reloads : ∀ id,
      reloadOf ⟨server, ssrAt tick, tick⟩ id = reloadOf clocked id := by
    intro id
    have settings := congrFun rescheduled.settings_eq id
    exact congrArg
      (fun settings : TimerSettings => settings.counterInit.toNat) settings
  exact
    { represents := represented
      clock_eq := clockAfter
      setup_le := fun _ => Nat.le_refl _
      ssr_eq := fun _ => rfl
      count_eq := countAfter
      inOrder := inOrder
      soon := soon
      reload := by
        intro id member
        rw [reloads]
        exact reload id member
      stopped := fun none => absurd none some
      armed := by
        intro timerId first
        obtain ⟨rest, rfl⟩ : ∃ rest, ids = timerId :: rest :=
          List.head?_eq_some_iff.mp first
        have head := represents.linked.head_of_cons
        have limitation := rescheduled.limitation_eq
        have ticks := congrArg WakeupTimer.ticks rescheduled.wakeupTimer_eq
        rw [ticks_restartWakeupCounter clock] at ticks
        rw [← head] at limitation ticks
        obtain ⟨overpassed, large, most⟩ :=
          calculateWakeupCounterValue_spec clock
            (clocked.server.countOf timerId)
            (clocked.returnTimeElapsed tick)
        rw [← limitation] at overpassed large
        have count := rescheduled.count_eq timerId
        rw [if_pos (List.mem_cons_self ..)] at count
        refine ⟨fun far => ?_, fun far => ?_, fun near => ?_,
          fun count counted => ?_⟩
        · rw [← (overpassed far).1]
          exact ticks
        · have long := (overpassed far).2
          rw [count, toNat_countDown]
          omega
        · rw [count, toNat_countDown, ← large near]
          exact ticks
        · rw [ticks] at counted
          rw [← Option.some.inj counted]
          exact most }

/-- The ticks since the last set-up. -/
theorem Timely.returnTimeElapsed
    {now : Nat}
    (timely : Timely clocked due now ids)
    (some : ids ≠ [])
    (later : now ≤ tick)
    (within : tick < clocked.setupTick + 32768) :
    (clocked.returnTimeElapsed tick).toNat = tick - clocked.setupTick := by
  rw [ClockedServer.returnTimeElapsed, timely.ssr_eq some]
  exact toNat_returnTimeElapsed
    (Nat.le_trans (timely.setup_le some) later) within

/-- Time passes. -/
theorem Timely.mono
    {now : Nat}
    (timely : Timely clocked due now ids)
    (later : now ≤ tick) :
    Timely clocked due tick ids :=
  { timely with
    setup_le := fun some => Nat.le_trans (timely.setup_le some) later
    soon := fun id member =>
      Nat.le_trans (timely.soon id member) (Nat.add_le_add_right later _) }

/-- A timer that is not running any more. -/
theorem Timely.unlinkTimer
    {now timerId : Nat}
    (timely : Timely clocked due now ids)
    (member : timerId ∈ ids) :
    ∃ server,
      clocked.server.unlinkTimer timerId = .ok server ∧
      server.settingsOf timerId = clocked.server.settingsOf timerId ∧
      server.statusOf timerId = .created ∧
      Timely { clocked with server := server } due now
        (ids.erase timerId) := by
  obtain ⟨server, unlinked, represents, relinked⟩ :=
    timely.represents.unlinkTimer member
  have settings : ∀ id,
      server.settingsOf id = clocked.server.settingsOf id := by
    intro id
    rw [relinked.settings_eq]
    simp
  have reloads : ∀ id,
      reloadOf { clocked with server := server } id =
        reloadOf clocked id := fun id =>
    congrArg (fun settings : TimerSettings => settings.counterInit.toNat)
      (settings id)
  have some : ids.erase timerId ≠ [] → ids ≠ [] := by
    rintro rest rfl
    exact rest rfl
  refine ⟨server, unlinked, settings timerId, ?_, ?_⟩
  · rw [relinked.status_eq, statusOf_set, if_pos rfl]
  exact
    { represents := represents
      clock_eq := relinked.clock_eq.trans timely.clock_eq
      setup_le := fun rest => timely.setup_le (some rest)
      ssr_eq := fun rest => timely.ssr_eq (some rest)
      count_eq := by
        intro id inRest
        rw [relinked.count_eq]
        simpa using timely.count_eq id (List.mem_of_mem_erase inRest)
      inOrder := timely.inOrder.sublist List.erase_sublist
      soon := fun id inRest =>
        timely.soon id (List.mem_of_mem_erase inRest)
      reload := by
        intro id inRest
        rw [reloads]
        exact timely.reload id (List.mem_of_mem_erase inRest) }

/-- `TimerServer_Stop` of a running timer. -/
theorem stop_punctual
    {now timerId : Nat}
    (timely : Timely clocked due now ids)
    (member : timerId ∈ ids)
    (later : now ≤ tick)
    (within : tick < clocked.setupTick + 32768) :
    ∃ result,
      clocked.stop timerId tick = .ok result ∧
      (ids.erase timerId ≠ [] → result.setupTick = tick) ∧
      Punctual result due tick (ids.erase timerId) := by
  obtain ⟨timer, running⟩ :=
    (timely.represents.running timerId).mp member
  obtain ⟨server, unlinked, _, _, rest⟩ := timely.unlinkTimer member
  have current := rest.represents.linked.eq_nil_iff
  have stopped : clocked.stop timerId tick =
      if server.gCurrentRunningTimerId = maxNbrConcurrentTimer then
        .ok
          { clocked with
            server := { server with wakeupTimer := .disabled }
            gSsrValueOnLastSetup := ssrForbiddenValue }
      else
        ClockedServer.rescheduleTimerList
          { clocked with server := server } tick := by
    rw [statusOf] at running
    rw [ClockedServer.stop, context_of_lt timer]
    simp only [bind, Except.bind, if_pos running, unlinked,
      if_pos rest.represents.previous_ne]
  rw [stopped]
  split
  · next none =>
      have empty := current.mpr none
      rw [empty] at rest ⊢
      have same : SameList server
          { server with wakeupTimer := .disabled } := ⟨rfl, rfl, rfl⟩
      exact ⟨_, rfl, fun some => absurd rfl some,
        { represents := same.represents rest.represents
          clock_eq := rest.clock_eq
          setup_le := fun some => absurd rfl some
          ssr_eq := fun some => absurd rfl some
          count_eq := by simp
          inOrder := List.Pairwise.nil
          soon := by simp
          reload := by simp
          stopped := fun _ => rfl
          armed := by simp }⟩
  · next some =>
      have nonempty : ids.erase timerId ≠ [] :=
        fun empty => some (current.mp empty)
      have ahead := rest.mono later
      obtain ⟨result, done, setup, punctual⟩ :=
        rescheduleTimerList_punctual rest.represents nonempty
          rest.clock_eq (ahead.setup_le nonempty)
          (rest.returnTimeElapsed nonempty later within) rest.count_eq
          rest.inOrder ahead.soon rest.reload
      exact ⟨result, done, fun _ => setup, punctual⟩

/-- A list in the order of its counts is in the order of its deadlines. -/
theorem inOrder_insert
    {base timerId deadline : Nat}
    {countOf : Nat → UInt32}
    {front behind : List Nat}
    (sorted : (front ++ timerId :: behind).Pairwise fun first second =>
      countOf first ≤ countOf second)
    (absent : timerId ∉ front ++ behind)
    (inOrder : (front ++ behind).Pairwise fun first second =>
      due first ≤ due second)
    (counts : ∀ id ∈ front ++ behind, (countOf id).toNat = due id - base)
    (count : (countOf timerId).toNat = deadline - base)
    (later : base ≤ deadline)
    (strict : ∀ id ∈ behind, countOf timerId < countOf id) :
    (front ++ timerId :: behind).Pairwise fun first second =>
      Function.update due timerId deadline first ≤
        Function.update due timerId deadline second := by
  have old : ∀ id ∈ front ++ behind,
      Function.update due timerId deadline id = due id := by
    intro id member
    rw [Function.update_of_ne]
    rintro rfl
    exact absent member
  rw [List.pairwise_append] at sorted inOrder ⊢
  obtain ⟨_, _, sortedAcross⟩ := sorted
  obtain ⟨orderFront, orderBehind, orderAcross⟩ := inOrder
  refine ⟨?_, List.pairwise_cons.mpr ⟨?_, ?_⟩, ?_⟩
  · refine orderFront.imp_of_mem ?_
    intro first second inFirst inSecond ordered
    rw [old first (List.mem_append_left _ inFirst),
      old second (List.mem_append_left _ inSecond)]
    exact ordered
  · intro second member
    have ordered := strict second member
    rw [UInt32.lt_iff_toNat_lt, count,
      counts second (List.mem_append_right _ member)] at ordered
    rw [old second (List.mem_append_right _ member), Function.update_self]
    omega
  · refine orderBehind.imp_of_mem ?_
    intro first second inFirst inSecond ordered
    rw [old first (List.mem_append_right _ inFirst),
      old second (List.mem_append_right _ inSecond)]
    exact ordered
  · intro first inFront second inBehind
    rw [old first (List.mem_append_left _ inFront)]
    rcases List.mem_cons.mp inBehind with rfl | inside
    · have ordered := sortedAcross first inFront second inBehind
      rw [UInt32.le_iff_toNat_le, count,
        counts first (List.mem_append_left _ inFront)] at ordered
      rw [Function.update_self]
      omega
    · rw [old second (List.mem_append_right _ inside)]
      exact orderAcross first inFront second inside

/--
The tick from which the counts run while a timer is started: a first timer
counts from now on, any other one from the last set-up on.
-/
structure StartBase
    (clocked : ClockedServer) (ids : List Nat) (tick base : Nat)
    (timeElapsed : UInt16) (ssr : UInt32) : Prop where
  base_le : base ≤ tick
  of_nil : ids = [] → base = tick
  of_ne_nil : ids ≠ [] → base = clocked.setupTick
  elapsed : timeElapsed.toNat = tick - base
  read :
    (returnTimeElapsed rtcUserConfig ssr (ssrAt tick)).toNat = tick - base

/-- What `StartTimer` reads from the clock determines the base. -/
theorem Timely.exists_startBase
    {now : Nat}
    (timely : Timely clocked due now ids)
    (later : now ≤ tick)
    (within : ids ≠ [] → tick < clocked.setupTick + 32768) :
    ∃ base,
      StartBase clocked ids tick base
        (if clocked.server.gCurrentRunningTimerId =
            maxNbrConcurrentTimer then
          0
        else
          clocked.returnTimeElapsed tick)
        (if clocked.server.gCurrentRunningTimerId =
            maxNbrConcurrentTimer then
          ssrForbiddenValue
        else
          clocked.gSsrValueOnLastSetup) := by
  have current := timely.represents.linked.eq_nil_iff
  by_cases none : ids = []
  · rw [if_pos (current.mp none), if_pos (current.mp none)]
    refine ⟨tick, Nat.le_refl _, fun _ => rfl,
      fun some => absurd none some, ?_, ?_⟩
    · rw [Nat.sub_self]
      rfl
    · rw [returnTimeElapsed_forbidden, Nat.sub_self]
      rfl
  · have some := fun first => none (current.mpr first)
    rw [if_neg some, if_neg some]
    have ticks := timely.returnTimeElapsed none later (within none)
    exact ⟨clocked.setupTick,
      Nat.le_trans (timely.setup_le none) later,
      fun empty => absurd empty none, fun _ => rfl, ticks, ticks⟩

namespace StartBase

variable {now timerId base : Nat}
variable {timeoutTicks ssr : UInt32}
variable {timeElapsed : UInt16}
variable {linked : TimerServer}

/-- The count of the started timer, from the base on. -/
theorem count_started
    (startBase : StartBase clocked ids tick base timeElapsed ssr)
    (relinked :
      Relinked
        ((clocked.server.withStarted timerId timeoutTicks).withElapsed
          timerId timeElapsed ids) linked)
    (range : timeoutTicks.toNat ≤ maxTimeoutTicks) :
    (linked.countOf timerId).toNat = tick + timeoutTicks.toNat - base := by
  have short := timeElapsed.toNat_lt
  have base_le := startBase.base_le
  rw [relinked.count_eq, countOf_withElapsed, countOf_withStarted,
    if_pos rfl]
  simp only [maxTimeoutTicks] at range
  split
  · rw [UInt32.toNat_add, UInt16.toNat_toUInt32, startBase.elapsed] at *
    omega
  · next none =>
      have empty := startBase.of_nil (by simpa using none)
      omega

/-- The counts of the other timers, from the base on. -/
theorem count_other
    (startBase : StartBase clocked ids tick base timeElapsed ssr)
    (timely : Timely clocked due now ids)
    (absent : timerId ∉ ids)
    (relinked :
      Relinked
        ((clocked.server.withStarted timerId timeoutTicks).withElapsed
          timerId timeElapsed ids) linked)
    {id : Nat}
    (member : id ∈ ids) :
    (linked.countOf id).toNat = due id - base := by
  have other : id ≠ timerId := by
    rintro rfl
    exact absent member
  rw [relinked.count_eq, countOf_withElapsed,
    if_neg fun both => other both.1, countOf_withStarted, if_neg other,
    timely.count_eq id member,
    startBase.of_ne_nil (List.ne_nil_of_mem member)]

end StartBase

/-- `StartTimer` of a timer that is not running. -/
theorem startStopped_punctual
    {now timerId : Nat}
    {timeoutTicks : UInt32}
    (timely : Timely clocked due now ids)
    (timer : timerId < maxNbrConcurrentTimer)
    (absent : timerId ∉ ids)
    (range : timeoutTicks.toNat ≤ maxTimeoutTicks)
    (later : now ≤ tick)
    (within : ids ≠ [] → tick < clocked.setupTick + 32768) :
    ∃ result started,
      clocked.startStopped timerId timeoutTicks tick = .ok result ∧
      result.setupTick = tick ∧
      Punctual result
        (Function.update due timerId (tick + timeoutTicks.toNat)) tick
        started ∧
      ∀ id, id ∈ started ↔ id = timerId ∨ id ∈ ids := by
  obtain ⟨base, startBase⟩ := timely.exists_startBase later within
  have current :=
    @withStarted_current clocked.server timerId timeoutTicks
  generalize elapsedEq :
    (if clocked.server.gCurrentRunningTimerId =
        maxNbrConcurrentTimer then
      0
    else
      clocked.returnTimeElapsed tick) = timeElapsed at startBase
  generalize ssrEq :
    (if clocked.server.gCurrentRunningTimerId =
        maxNbrConcurrentTimer then
      ssrForbiddenValue
    else
      clocked.gSsrValueOnLastSetup) = ssr at startBase
  have base_le := startBase.base_le
  obtain ⟨linked, front, behind, link, shape, represents, strict,
      relinked, _⟩ :=
    timely.represents.linkStarted timer absent timeoutTicks timeElapsed
  have count := startBase.count_started relinked range
  have counts : ∀ id ∈ ids, (linked.countOf id).toNat = due id - base :=
    fun id member => startBase.count_other timely absent relinked member
  have reloads : ∀ id, id ∈ front ++ timerId :: behind →
      (linked.settingsOf id).counterInit.toNat ≤ maxTimeoutTicks := by
    intro id member
    rw [relinked.settings_eq, settingsOf_withElapsed,
      counterInit_withStarted]
    split
    · exact range
    · next other =>
        refine timely.reload id ?_
        rw [shape]
        simpa [other] using member
  have started :
      (clocked.startStopped timerId timeoutTicks tick) =
        ClockedServer.rescheduleTimerList
          { clocked with
            server := linked
            gSsrValueOnLastSetup := ssr } tick := by
    rw [ClockedServer.startStopped, modifyContext_started timer]
    simp only [bind, Except.bind, current, elapsedEq, ssrEq, link,
      if_pos represents.previous_ne]
  rw [started]
  rw [shape] at absent counts
  obtain ⟨result, done, setup, punctual⟩ :=
    @rescheduleTimerList_punctual
      { clocked with
        server := linked
        gSsrValueOnLastSetup := ssr }
      (Function.update due timerId (tick + timeoutTicks.toNat))
      (front ++ timerId :: behind) tick base represents (by simp)
      (by
        rw [relinked.clock_eq, clockOf_withElapsed]
        exact timely.clock_eq)
      base_le startBase.read
      (by
        intro id member
        by_cases same : id = timerId
        · rw [same, Function.update_self]
          exact count
        · rw [Function.update_of_ne same]
          exact counts id (by simpa [same] using member))
      (inOrder_insert represents.sorted absent
        (by rw [← shape]; exact timely.inOrder) counts count (by omega)
        strict)
      (by
        intro id member
        by_cases same : id = timerId
        · rw [same, Function.update_self]
          omega
        · rw [Function.update_of_ne same]
          have soon := timely.soon id
            (by rw [shape]; simpa [same] using member)
          omega)
      reloads
  refine ⟨result, _, done, setup, punctual, fun id => ?_⟩
  rw [shape, List.mem_append, List.mem_cons, List.mem_append,
    or_left_comm]

/-- `StartTimer` -/
theorem startTimer_punctual
    {now timerId : Nat}
    {timeoutTicks : UInt32}
    (timely : Timely clocked due now ids)
    (timer : timerId < maxNbrConcurrentTimer)
    (range : timeoutTicks.toNat ≤ maxTimeoutTicks)
    (later : now ≤ tick)
    (within : ids ≠ [] → tick < clocked.setupTick + 32768) :
    ∃ result started,
      clocked.startTimer timerId timeoutTicks tick = .ok result ∧
      result.setupTick = tick ∧
      Punctual result
        (Function.update due timerId (tick + timeoutTicks.toNat)) tick
        started ∧
      ∀ id, id ∈ started ↔ id = timerId ∨ id ∈ ids := by
  rw [ClockedServer.startTimer, context_of_lt timer]
  simp only [bind, Except.bind]
  by_cases running :
      (clocked.server.gTimerContext timerId).timerIdStatus = .running
  · have member := (timely.represents.running timerId).mpr ⟨timer, running⟩
    obtain ⟨stopped, stops, setup, punctual⟩ :=
      stop_punctual timely member later
        (within (List.ne_nil_of_mem member))
    have absent : timerId ∉ ids.erase timerId :=
      timely.represents.linked.ids_nodup.not_mem_erase
    rw [if_pos running, stops]
    obtain ⟨result, started, starts, setupTick, after, members⟩ :=
      startStopped_punctual punctual.toTimely timer absent range
        (Nat.le_refl tick) (fun some => by rw [setup some]; omega)
    refine ⟨result, started, starts, setupTick, after, fun id => ?_⟩
    rw [members]
    by_cases same : id = timerId
    · simp [same]
    · simp [same, List.mem_erase_of_ne same]
  · have absent : timerId ∉ ids := fun member =>
      running ((timely.represents.running timerId).mp member).2
    rw [if_neg running]
    exact startStopped_punctual timely timer absent range later within

/-- What the handler does with the first timer of the list. -/
theorem timerElapsed_punctual
    {now timerId : Nat}
    (timely : Timely clocked due now ids)
    (member : timerId ∈ ids)
    (later : now ≤ tick)
    (within : tick < clocked.setupTick + 32768) :
    ∃ result rest,
      clocked.timerElapsed timerId tick
          (clocked.server.gTimerContext timerId).mode =
        .ok result ∧
      (rest ≠ [] → result.setupTick = tick) ∧
      Punctual result (dueAfterCall clocked due tick (some timerId)) tick
        rest ∧
      (∀ id ≠ timerId, id ∈ rest ↔ id ∈ ids) ∧
      (timerId ∈ rest →
        tick ≤ dueAfterCall clocked due tick (some timerId) timerId) := by
  have timer := timely.represents.inRange timerId member
  rw [dueAfterCall]
  cases (clocked.server.gTimerContext timerId).mode with
  | singleShot =>
      obtain ⟨result, stopped, setup, punctual⟩ :=
        stop_punctual timely member later within
      exact ⟨result, _, stopped, setup, punctual,
        fun id other => List.mem_erase_of_ne other,
        fun again => absurd again
          timely.represents.linked.ids_nodup.not_mem_erase⟩
  | repeated =>
      have range := timely.reload timerId member
      obtain ⟨server, unlinked, settings, created, rest⟩ :=
        timely.unlinkTimer member
      have reload :
          (server.gTimerContext timerId).counterInit =
            (clocked.server.gTimerContext timerId).counterInit :=
        congrArg TimerSettings.counterInit settings
      obtain ⟨result, started, starts, setup, punctual, members⟩ :=
        startTimer_punctual rest timer range later (fun _ => within)
      refine ⟨result, started, ?_, fun _ => setup, punctual,
        fun id other => ?_, ?_⟩
      · rw [ClockedServer.timerElapsed]
        simp only [bind, Except.bind, unlinked, context_of_lt timer,
          reload]
        exact starts
      · rw [members, List.mem_erase_of_ne other]
        simp [other]
      · intro _
        dsimp only
        rw [Function.update_self]
        exact Nat.le_add_right ..

/-- A call is in time and no running timer is due earlier. -/
structure InOrder
    (clocked : ClockedServer) (due : Nat → Nat) (tick timerId : Nat) :
    Prop where
  timer : timerId < maxNbrConcurrentTimer
  running : clocked.server.statusOf timerId = .running
  notEarly : due timerId ≤ tick
  first : ∀ other, other < maxNbrConcurrentTimer →
    clocked.server.statusOf other = .running → due timerId ≤ due other

/-- The callback of the first timer of the list is not early. -/
theorem Punctual.first
    {now timerId ticks : Nat}
    {rest : List Nat}
    (punctual : Punctual clocked due now (timerId :: rest))
    (near : clocked.server.gWakeupTimerLimitation ≠ .overpassed)
    (started : clocked.server.wakeupTimer.ticks = some ticks)
    (reached : clocked.setupTick + ticks ≤ tick) :
    InOrder clocked due tick timerId := by
  have member : timerId ∈ timerId :: rest := List.mem_cons_self ..
  obtain ⟨timer, running⟩ :=
    (punctual.represents.running timerId).mp member
  refine ⟨timer, running, ?_, fun other inRange isRunning => ?_⟩
  · have counted := (punctual.armed timerId rfl).largeEnough near
    rw [started, punctual.count_eq timerId member] at counted
    have count := Option.some.inj counted
    omega
  · have inList :=
      (punctual.represents.running other).mpr ⟨inRange, isRunning⟩
    rcases List.mem_cons.mp inList with rfl | later
    · exact Nat.le_refl _
    · exact (List.pairwise_cons.mp punctual.inOrder).1 other later

/-- The handler has disabled the wake-up timer. -/
theorem Timely.wakeupDisabled
    {now : Nat}
    (timely : Timely clocked due now ids) :
    Timely clocked.woken due now ids :=
  have same : SameList clocked.server
      { clocked.server with wakeupTimer := .disabled } := ⟨rfl, rfl, rfl⟩
  { timely with represents := same.represents timely.represents }

/-- `TimerServer_RtcWakeupHandler` while the first timer is running. -/
theorem rtcWakeupHandler_eq
    {timerId : Nat}
    (head : timerId = clocked.server.gCurrentRunningTimerId)
    (timer : timerId < maxNbrConcurrentTimer)
    (running : clocked.server.statusOf timerId = .running) :
    clocked.rtcWakeupHandler tick =
      if clocked.server.gWakeupTimerLimitation ≠ .overpassed then
        (clocked.woken.timerElapsed timerId tick
          (clocked.woken.server.gTimerContext timerId).mode).bind
            fun result => .ok (result, some timerId)
      else
        (clocked.woken.rescheduleTimerList tick).bind
          fun result => .ok (result, none) := by
  have current :
      clocked.woken.server.gCurrentRunningTimerId = timerId := head.symm
  have shape :
      clocked.rtcWakeupHandler tick =
        (clocked.woken.server.context
          clocked.woken.server.gCurrentRunningTimerId).bind
          fun entry =>
            if entry.timerIdStatus = .running then
              if clocked.server.gWakeupTimerLimitation ≠
                  .overpassed then
                (clocked.woken.timerElapsed
                  clocked.woken.server.gCurrentRunningTimerId tick
                  entry.mode).bind fun result =>
                    .ok (result,
                      some clocked.woken.server.gCurrentRunningTimerId)
              else
                (clocked.woken.rescheduleTimerList tick).bind
                  fun result => .ok (result, none)
            else
              .ok (clocked.woken, none) := rfl
  rw [shape, current, context_of_lt timer]
  exact if_pos running

/-- Which timers run after a wake-up. -/
structure Woken
    (clocked result : ClockedServer) (due : Nat → Nat) (tick : Nat)
    (ids rest : List Nat) (called : Option Nat) : Prop where
  setup_eq : rest ≠ [] → result.setupTick = tick
  counted : called = none →
    clocked.server.gWakeupTimerLimitation = .overpassed ∧ rest = ids
  near : ∀ timerId, called = some timerId →
    clocked.server.gWakeupTimerLimitation ≠ .overpassed
  others : ∀ timerId, called = some timerId →
    ∀ id ≠ timerId, id ∈ rest ↔ id ∈ ids
  restarted : ∀ timerId, called = some timerId → timerId ∈ rest →
    tick ≤ dueAfterCall clocked due tick called timerId

/-- `TimerServer_RtcWakeupHandler` after a wake-up. -/
theorem rtcWakeupHandler_punctual
    {now ticks : Nat}
    (punctual : Punctual clocked due now ids)
    (started : clocked.server.wakeupTimer.ticks = some ticks)
    (later : now ≤ tick)
    (reached : clocked.setupTick + ticks ≤ tick)
    (prompt : tick ≤ clocked.setupTick + ticks + maxHandlerDelay) :
    ∃ result called rest,
      clocked.rtcWakeupHandler tick = .ok (result, called) ∧
      Punctual result (dueAfterCall clocked due tick called) tick rest ∧
      (∀ timerId, called = some timerId →
        InOrder clocked due tick timerId) ∧
      Woken clocked result due tick ids rest called := by
  have timely := punctual.toTimely.wakeupDisabled
  cases ids with
  | nil =>
      rw [punctual.stopped rfl] at started
      cases started
  | cons timerId others =>
      have member : timerId ∈ timerId :: others := List.mem_cons_self ..
      have head := punctual.represents.linked.head_of_cons
      obtain ⟨timer, running⟩ :=
        (punctual.represents.running timerId).mp member
      have most := (punctual.armed timerId rfl).ticks_le ticks started
      have within : tick < clocked.setupTick + 32768 := by
        simp only [maxHandlerDelay] at prompt
        omega
      rw [rtcWakeupHandler_eq head timer running]
      split
      · next near =>
          obtain ⟨result, rest, elapsed, setup, after, members, again⟩ :=
            timerElapsed_punctual timely member later within
          rw [elapsed]
          refine ⟨result, some timerId, rest, rfl, after, ?_,
            ⟨setup, nofun, fun _ _ => near, ?_, ?_⟩⟩
          · rintro _ ⟨⟩
            exact punctual.first near started reached
          · rintro _ ⟨⟩
            exact members
          · rintro _ ⟨⟩
            exact again
      · next far =>
        have some : timerId :: others ≠ [] := List.cons_ne_nil _ _
        have ahead := timely.mono later
        obtain ⟨result, done, setup, after⟩ :=
          rescheduleTimerList_punctual timely.represents some
            timely.clock_eq (ahead.setup_le some)
            (timely.returnTimeElapsed some later within) timely.count_eq
            timely.inOrder ahead.soon timely.reload
        rw [done]
        exact ⟨result, none, _, rfl, after, nofun,
          ⟨fun _ => setup, fun _ => ⟨not_not.mp far, rfl⟩, nofun, nofun,
            nofun⟩⟩

end Operations

section Runs

variable {state next : TimedState}
variable {ids : List Nat}

/-- What holds between two events. -/
def Invariant (state : TimedState) : Prop :=
  ∃ ids, Punctual state.clocked state.due state.now ids

/-- Time passes without an event. -/
theorem Punctual.mono
    {clocked : ClockedServer}
    {due : Nat → Nat}
    {now tick : Nat}
    (punctual : Punctual clocked due now ids)
    (later : now ≤ tick) :
    Punctual clocked due tick ids :=
  { punctual with toTimely := punctual.toTimely.mono later }

/-- What changes neither the list nor a count. -/
theorem Punctual.sameTimes
    {clocked : ClockedServer}
    {due : Nat → Nat}
    {now : Nat}
    {server : TimerServer}
    (punctual : Punctual clocked due now ids)
    (represents : Represents server ids)
    (same : SameTimes clocked.server server) :
    Punctual { clocked with server := server } due now ids where
  represents := represents
  clock_eq := same.clock_eq.trans punctual.clock_eq
  setup_le := punctual.setup_le
  ssr_eq := punctual.ssr_eq
  count_eq := by
    intro id member
    rw [same.count_eq]
    exact punctual.count_eq id member
  inOrder := punctual.inOrder
  soon := punctual.soon
  reload := by
    intro id member
    rw [reloadOf, same.counterInit_eq]
    exact punctual.reload id member
  stopped := fun none => same.wakeupTimer_eq.trans (punctual.stopped none)
  armed := by
    intro timerId first
    obtain ⟨overpassed, far, largeEnough, ticks_le⟩ :=
      punctual.armed timerId first
    constructor
    · rw [same.limitation_eq, same.wakeupTimer_eq]
      exact overpassed
    · rw [same.limitation_eq, same.count_eq]
      exact far
    · rw [same.limitation_eq, same.wakeupTimer_eq, same.count_eq]
      exact largeEnough
    · rw [same.wakeupTimer_eq]
      exact ticks_le

/-- Before a wake-up is handled the clock register has not wrapped around. -/
theorem Punctual.within
    {timed : TimedEvent}
    (punctual : Punctual state.clocked state.due state.now ids)
    (onTime : OnTime state timed)
    (some : ids ≠ []) :
    timed.tick < state.clocked.setupTick + 32768 := by
  obtain ⟨timerId, rest, rfl⟩ := List.exists_cons_of_ne_nil some
  have armed := punctual.armed timerId rfl
  obtain ⟨ticks, started⟩ :
      ∃ ticks, state.clocked.server.wakeupTimer.ticks = .some ticks := by
    by_cases far :
        state.clocked.server.gWakeupTimerLimitation = .overpassed
    · exact ⟨_, armed.overpassed far⟩
    · exact ⟨_, armed.largeEnough far⟩
  have most := armed.ticks_le ticks started
  have prompt := onTime.2
  rw [started] at prompt
  have bound := prompt.1
  simp only [maxHandlerDelay] at bound
  omega

/-- The wake-up timer was started before a wake-up. -/
theorem OnTime.wakeup
    {tick : Nat}
    (onTime : OnTime state ⟨tick, .rtcWakeup⟩) :
    ∃ ticks,
      state.clocked.server.wakeupTimer.ticks = some ticks ∧
      tick ≤ state.clocked.setupTick + ticks + maxHandlerDelay ∧
      state.clocked.setupTick + ticks ≤ tick := by
  have wakeup := onTime.2
  cases started : state.clocked.server.wakeupTimer.ticks with
  | none =>
      rw [started] at wakeup
      exact absurd rfl wakeup
  | some ticks =>
      rw [started] at wakeup
      exact ⟨ticks, rfl, wakeup.1, wakeup.2 rfl⟩

/-- Every step succeeds and keeps the invariant. -/
theorem step_punctual
    {timed : TimedEvent}
    (punctual : Punctual state.clocked state.due state.now ids)
    (onTime : OnTime state timed)
    (wellFormed : WellFormed timed.event) :
    ∃ next, step state timed = .ok next ∧ Invariant next := by
  have within := punctual.within onTime
  obtain ⟨tick, event⟩ := timed
  have later : state.now ≤ tick := onTime.1
  cases event with
  | createTimer timerMode timerCallback =>
      obtain ⟨server, creates, represents, same⟩ :=
        createTimer_spec punctual.represents timerMode timerCallback
      refine ⟨{ state with
          clocked := { state.clocked with server := server }
          now := tick }, ?_, ids,
        (punctual.mono later).sameTimes represents same⟩
      simp only [step, bind, Except.bind, creates]
  | startTimer timerId timeoutTicks =>
      obtain ⟨timer, _, range⟩ := wellFormed
      obtain ⟨result, started, starts, _, after, _⟩ :=
        startTimer_punctual punctual.toTimely timer range later within
      refine ⟨⟨result, tick,
          Function.update state.due timerId (tick + timeoutTicks.toNat)⟩,
        ?_, started, after⟩
      simp only [step, bind, Except.bind, starts]
  | stop timerId =>
      by_cases running :
          state.clocked.server.statusOf timerId = .running
      · have member :=
          (punctual.represents.running timerId).mpr ⟨wellFormed, running⟩
        obtain ⟨result, stops, _, after⟩ :=
          stop_punctual punctual.toTimely member later
            (within (List.ne_nil_of_mem member))
        refine ⟨⟨result, tick, state.due⟩, ?_, _, after⟩
        simp only [step, bind, Except.bind, stops]
      · refine ⟨⟨state.clocked, tick, state.due⟩, ?_, ids,
          punctual.mono later⟩
        rw [statusOf] at running
        simp only [step, ClockedServer.stop, context_of_lt wellFormed, bind,
          Except.bind, if_neg running]
  | rtcWakeup =>
      obtain ⟨ticks, started, prompt, reached⟩ := onTime.wakeup
      obtain ⟨result, called, rest, handled, after, _⟩ :=
        rtcWakeupHandler_punctual punctual started later reached prompt
      refine ⟨⟨result, tick,
          dueAfterCall state.clocked state.due tick called⟩,
        ?_, rest, after⟩
      simp only [step, bind, Except.bind, handled]

/-- No timer is running after `TimerServer_Init`. -/
theorem punctual_init
    (due : Nat → Nat)
    (now : Nat) :
    Punctual ClockedServer.init due now [] where
  represents := represents_init _ _
  clock_eq := by
    rw [ClockedServer.init, calculateMaxWakeupTimerSetup_rtcUserConfig]
    rfl
  setup_le := fun some => absurd rfl some
  ssr_eq := fun some => absurd rfl some
  count_eq := by simp
  inOrder := List.Pairwise.nil
  soon := by simp
  reload := by simp
  stopped := fun _ => rfl
  armed := by simp

/-- The invariant of all runs. -/
theorem run_invariant
    {events : List TimedEvent}
    (run : Run system events state) :
    Invariant state := by
  apply run.invariant
  · intro first starts
    refine ⟨[], ?_⟩
    rw [show first.clocked = ClockedServer.init from starts]
    exact punctual_init first.due first.now
  · intro before timed after ⟨ids, punctual⟩ ⟨onTime, wellFormed, stepped⟩
    obtain ⟨next, same, invariant⟩ :=
      step_punctual punctual onTime wellFormed
    rw [stepped] at same
    cases same
    exact invariant

/-- A timed step is a step of the timer server without the clock. -/
theorem step_server
    {timed : TimedEvent}
    (punctual : Punctual state.clocked state.due state.now ids)
    (onTime : OnTime state timed)
    (wellFormed : WellFormed timed.event)
    (stepped : step state timed = .ok next) :
    ∃ event,
      Allowed state.clocked.server event ∧
      TimerServer.step state.clocked.server event =
        .ok next.clocked.server := by
  obtain ⟨tick, event⟩ := timed
  cases event with
  | createTimer timerMode timerCallback =>
      obtain ⟨outcome, created, done⟩ := bind_eq_ok stepped
      cases done
      refine ⟨.createTimer timerMode timerCallback, trivial, ?_⟩
      rw [TimerServer.step, created]
      rfl
  | startTimer timerId timeoutTicks =>
      obtain ⟨reads, same⟩ :=
        @ClockedServer.server_startTimer state.clocked timerId tick
          timeoutTicks
      obtain ⟨result, started, done⟩ := bind_eq_ok stepped
      cases done
      refine ⟨.startTimer timerId timeoutTicks reads, wellFormed.1, ?_⟩
      rw [TimerServer.step, ← same, started]
      rfl
  | stop timerId =>
      obtain ⟨result, stopped, done⟩ := bind_eq_ok stepped
      cases done
      refine ⟨.stop timerId (state.clocked.returnTimeElapsed tick),
        wellFormed, ?_⟩
      rw [TimerServer.step, ← ClockedServer.server_stop, stopped]
      rfl
  | rtcWakeup =>
      obtain ⟨reads, same⟩ :=
        @ClockedServer.server_rtcWakeupHandler state.clocked tick
      obtain ⟨outcome, handled, done⟩ := bind_eq_ok stepped
      cases done
      refine ⟨.rtcWakeup reads, fun none => ?_, ?_⟩
      · have empty := punctual.represents.linked.eq_nil_iff.mpr none
        obtain ⟨ticks, started, _⟩ := onTime.wakeup
        rw [punctual.stopped empty] at started
        cases started
      · rw [handled] at same
        rw [TimerServer.step]
        cases served : state.clocked.server.rtcWakeupHandler reads with
        | error fault =>
            rw [served] at same
            cases same
        | ok result =>
            rw [served] at same
            exact congrArg Except.ok (Except.ok.inj same).symm

/-- Timed runs are runs of the timer server without the clock. -/
theorem run_reachable
    {events : List TimedEvent}
    (run : Run system events state) :
    Reachable state.clocked.server := by
  induction run with
  | start starts =>
      rw [starts]
      exact .init _ _
  | step run timed moves inductionHypothesis =>
      obtain ⟨onTime, wellFormed, stepped⟩ := moves
      obtain ⟨ids, punctual⟩ := run_invariant run
      obtain ⟨event, allowed, same⟩ :=
        step_server punctual onTime wellFormed stepped
      exact .step inductionHypothesis allowed same

/--
In every run no timer calls back before it is due, and among the timers that
are running the one that is due first calls back first.  No call fails.
-/
theorem callbacks_in_deadline_order
    {events : List TimedEvent}
    (run : Run system events state) :
    (∀ timed, OnTime state timed → WellFormed timed.event →
      ∃ next, step state timed = .ok next) ∧
    ∀ tick, OnTime state ⟨tick, .rtcWakeup⟩ →
      ∃ result called,
        state.clocked.rtcWakeupHandler tick = .ok (result, called) ∧
        ∀ timerId, called = some timerId →
          InOrder state.clocked state.due tick timerId := by
  obtain ⟨ids, punctual⟩ := run_invariant run
  refine ⟨fun timed onTime wellFormed => ?_, fun tick onTime => ?_⟩
  · obtain ⟨next, stepped, _⟩ := step_punctual punctual onTime wellFormed
    exact ⟨next, stepped⟩
  · obtain ⟨ticks, started, prompt, reached⟩ := onTime.wakeup
    obtain ⟨result, called, _, handled, _, ordered, _⟩ :=
      rtcWakeupHandler_punctual punctual started onTime.1 reached prompt
    exact ⟨result, called, handled, ordered⟩

end Runs

instance (state : TimedState) (timed : TimedEvent) :
    Decidable (OnTime state timed) :=
  match started : state.clocked.server.wakeupTimer.ticks with
  | none =>
      decidable_of_iff
        (state.now ≤ timed.tick ∧ timed.event ≠ .rtcWakeup)
        (by rw [OnTime, started])
  | some ticks =>
      decidable_of_iff
        (state.now ≤ timed.tick ∧
          timed.tick ≤ state.clocked.setupTick + ticks + maxHandlerDelay ∧
          (timed.event = .rtcWakeup →
            state.clocked.setupTick + ticks ≤ timed.tick))
        (by rw [OnTime, started])

instance (event : TimerEvent) : Decidable (WellFormed event) :=
  match event with
  | .createTimer _ _ => .isTrue trivial
  | .startTimer timerId timeoutTicks =>
      inferInstanceAs
        (Decidable
          (timerId < maxNbrConcurrentTimer ∧ 0 < timeoutTicks.toNat ∧
            timeoutTicks.toNat ≤ maxTimeoutTicks))
  | .stop timerId =>
      inferInstanceAs (Decidable (timerId < maxNbrConcurrentTimer))
  | .rtcWakeup => .isTrue trivial

/-- A step of a client or of the wake-up timer, if it is possible. -/
def possibleStep (state : TimedState) (timed : TimedEvent) :
    Option TimedState :=
  if OnTime state timed ∧ WellFormed timed.event then
    (step state timed).toOption
  else
    none

/-- Possible steps are evaluated one after the other. -/
theorem run_possibleSteps
    {events : List TimedEvent}
    {first state : TimedState}
    (starts : system.start first)
    (applied : events.foldlM possibleStep first = some state) :
    Run system events state := by
  have moves : ∀ state timed next, possibleStep state timed = some next →
      system.step state timed next := by
    intro state timed next moved
    obtain ⟨possible, moved⟩ := Option.ite_none_right_eq_some.mp moved
    refine ⟨possible.1, possible.2, ?_⟩
    cases stepped : step state timed with
    | error fault =>
        rw [stepped] at moved
        cases moved
    | ok value =>
        rw [stepped] at moved
        cases moved
        rfl
  have begun : Run (system.restrict fun _ _ => True) [] first :=
    .start starts
  exact (Run.follow moves events begun (by simpa using applied)).unrestricted

/--
Two of three timers are beyond the range of the wake-up timer; one of them is
next after a partial wake-up.
-/
def threeTimers : List TimedEvent :=
  [⟨0, .createTimer .repeated (some 0)⟩,
    ⟨0, .createTimer .singleShot (some 1)⟩,
    ⟨0, .createTimer .singleShot (some 2)⟩,
    ⟨5, .startTimer 0 100000⟩, ⟨10, .startTimer 1 40000⟩,
    ⟨20, .startTimer 2 50⟩, ⟨75, .rtcWakeup⟩, ⟨32830, .rtcWakeup⟩]

theorem callbacks_in_deadline_order_three :
    ∃ state,
      Run system threeTimers state ∧
      state.clocked.server.statusOf 0 = .running ∧
      state.due 0 = 100005 ∧ state.due 1 = 40010 ∧
      OnTime state ⟨40020, .rtcWakeup⟩ ∧
      ∃ result,
        state.clocked.rtcWakeupHandler 40020 = .ok (result, some 1) ∧
        InOrder state.clocked state.due 40020 1 := by
  have evaluated :
      (threeTimers.foldlM possibleStep
          ⟨ClockedServer.init, 0, fun _ => 0⟩).map (fun state =>
        (state.clocked.server.statusOf 0, state.due 0, state.due 1,
          decide (OnTime state ⟨40020, .rtcWakeup⟩),
          (state.clocked.rtcWakeupHandler 40020).toOption.map
            Prod.snd)) =
        some (.running, 100005, 40010, true, some (some 1)) := by
    decide +kernel
  obtain ⟨state, applied, facts⟩ := Option.map_eq_some_iff.mp evaluated
  have starts : system.start ⟨ClockedServer.init, 0, fun _ => 0⟩ := rfl
  have run := run_possibleSteps starts applied
  obtain ⟨running, first, second, onTime, called⟩ :
      state.clocked.server.statusOf 0 = .running ∧
        state.due 0 = 100005 ∧ state.due 1 = 40010 ∧
        OnTime state ⟨40020, .rtcWakeup⟩ ∧
        (state.clocked.rtcWakeupHandler 40020).toOption.map Prod.snd =
          some (some 1) := by
    simpa only [Prod.mk.injEq, decide_eq_true_eq] using facts
  obtain ⟨result, timer, handled, ordered⟩ :=
    (callbacks_in_deadline_order run).2 40020 onTime
  rw [handled] at called
  obtain rfl : timer = some 1 := by
    simpa [Except.toOption] using called
  exact ⟨state, run, running, first, second, onTime, result, handled,
    ordered 1 rfl⟩

end DemoBoard.TimerDeadlines
