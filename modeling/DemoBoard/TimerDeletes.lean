import DemoBoard.TimerDeadlines
import Mathlib.Data.Finset.Card
import Mathlib.Data.Finset.Range
import Mathlib.Data.List.Induction

namespace DemoBoard.TimerDeletes

open TimerServer TransitionRuns

open TimerDeadlines (TimedState OnTime Timely Punctual Armed InOrder Woken
  reloadOf dueAfterCall maxTimeoutTicks)

/-!
# Deleting timers

`TimerServer_DeleteTimer` only releases the id.  As long as no running timer is
deleted, what clients expect of a deleted timer holds: it does not call back
before it is created and started again, and the other timers still call back.
A running timer that is deleted stays in the list.
-/

/-- `MillisecondsToTicks` -/
def millisecondsToTicks (milliseconds : UInt32) : UInt32 :=
  lseValue / (0x0F + 1) * milliseconds / 1000

/-- Calls of the clients and of the wake-up interrupt. -/
inductive ClientEvent where
  | createTimer (timerMode : TimerMode) (timerCallback : Option Nat)
  | start (timerId : Nat) (timeoutMs : UInt32)
  | stop (timerId : Nat)
  | deleteTimer (timerId : Nat)
  | rtcWakeup
  deriving Repr, DecidableEq

/-- An event and its tick. -/
structure ClientCall where
  tick : Nat
  event : ClientEvent
  deriving Repr, DecidableEq

/-- The timer server and what the clients did with each timer. -/
structure ClientState extends TimedState where
  /-- The timer was created since it was last deleted. -/
  created : Nat → Bool
  /-- The timer was created and then started since it was last deleted. -/
  started : Nat → Bool
  /-- The timers whose callbacks were invoked. -/
  calls : List Nat

/-- Another state of the timer server, at a tick. -/
def ClientState.withServer
    (state : ClientState) (server : TimerServer) (tick : Nat) :
    ClientState :=
  { state with
    clocked := { state.clocked with server := server }
    now := tick }

/-- A step of the timer server. -/
def step (state : ClientState) (call : ClientCall) :
    Except TimerFault ClientState :=
  match call.event with
  | .createTimer timerMode timerCallback => do
      let (server, timerId) ←
        state.clocked.server.createTimer timerMode timerCallback
      .ok
        { state.withServer server call.tick with
          created := Function.update state.created timerId true
          started := Function.update state.started timerId false }
  | .start timerId timeoutMs => do
      let timeoutTicks := millisecondsToTicks timeoutMs
      let clocked ←
        state.clocked.startTimer timerId timeoutTicks call.tick
      .ok
        { state with
          clocked := clocked
          now := call.tick
          due :=
            Function.update state.due timerId
              (call.tick + timeoutTicks.toNat)
          started :=
            Function.update state.started timerId
              (state.created timerId) }
  | .stop timerId => do
      let clocked ← state.clocked.stop timerId call.tick
      .ok { state with clocked := clocked, now := call.tick }
  | .deleteTimer timerId => do
      let server ← state.clocked.server.deleteTimer timerId
      .ok
        { state.withServer server call.tick with
          created := Function.update state.created timerId false
          started := Function.update state.started timerId false }
  | .rtcWakeup => do
      let (clocked, called) ← state.clocked.rtcWakeupHandler call.tick
      .ok
        { state with
          clocked := clocked
          now := call.tick
          due := dueAfterCall state.clocked state.due call.tick called
          calls := state.calls ++ called.toList }

/-- The event that the clock sees. -/
def ClientEvent.timed : ClientEvent → TimerDeadlines.TimerEvent
  | .createTimer timerMode timerCallback =>
      .createTimer timerMode timerCallback
  | .start timerId timeoutMs =>
      .startTimer timerId (millisecondsToTicks timeoutMs)
  | .stop timerId => .stop timerId
  | .deleteTimer timerId => .stop timerId
  | .rtcWakeup => .rtcWakeup

/-- Clients name timers, and they start timers that they have created. -/
def Contract (state : ClientState) : ClientEvent → Prop
  | .createTimer _ _ => True
  | .start timerId _ =>
      timerId < maxNbrConcurrentTimer ∧ state.created timerId = true
  | .stop timerId => timerId < maxNbrConcurrentTimer
  | .deleteTimer timerId => timerId < maxNbrConcurrentTimer
  | .rtcWakeup => True

/-- The timer that is deleted is not running. -/
def DeletesStopped (state : ClientState) (call : ClientCall) : Prop :=
  match call.event with
  | .deleteTimer timerId =>
      state.clocked.server.statusOf timerId ≠ .running
  | _ => True

instance (state : TimedState) (timed : TimerDeadlines.TimedEvent) :
    Decidable (OnTime state timed) :=
  decidable_of_iff
    (state.now ≤ timed.tick ∧
      (state.clocked.server.wakeupTimer.ticks = none →
        timed.event ≠ .rtcWakeup) ∧
      ∀ ticks ∈ state.clocked.server.wakeupTimer.ticks,
        timed.tick ≤ state.clocked.setupTick + ticks +
            TimerDeadlines.maxHandlerDelay ∧
          (timed.event = .rtcWakeup →
            state.clocked.setupTick + ticks ≤ timed.tick))
    (by
      rw [OnTime]
      cases state.clocked.server.wakeupTimer.ticks <;> simp)

instance (state : ClientState) :
    (event : ClientEvent) → Decidable (Contract state event)
  | .createTimer _ _ => inferInstanceAs (Decidable True)
  | .start timerId _ =>
      inferInstanceAs (Decidable
        (timerId < maxNbrConcurrentTimer ∧
          state.created timerId = true))
  | .stop timerId =>
      inferInstanceAs (Decidable (timerId < maxNbrConcurrentTimer))
  | .deleteTimer timerId =>
      inferInstanceAs (Decidable (timerId < maxNbrConcurrentTimer))
  | .rtcWakeup => inferInstanceAs (Decidable True)

instance (state : ClientState) :
    (call : ClientCall) → Decidable (DeletesStopped state call)
  | ⟨_, .deleteTimer timerId⟩ =>
      inferInstanceAs (Decidable
        (state.clocked.server.statusOf timerId ≠ .running))
  | ⟨_, .createTimer _ _⟩ => inferInstanceAs (Decidable True)
  | ⟨_, .start _ _⟩ => inferInstanceAs (Decidable True)
  | ⟨_, .stop _⟩ => inferInstanceAs (Decidable True)
  | ⟨_, .rtcWakeup⟩ => inferInstanceAs (Decidable True)

/-- Runs after `TimerServer_Init`. -/
def system : System ClientState ClientCall where
  start := fun state =>
    state.clocked = ClockedServer.init ∧
      state.created = (fun _ => false) ∧
      state.started = (fun _ => false) ∧ state.calls = []
  step := fun state call next =>
    OnTime state.toTimedState ⟨call.tick, call.event.timed⟩ ∧
      Contract state call.event ∧ step state call = .ok next

/-- What holds between two calls. -/
structure Kept (state : ClientState) (ids : List Nat) : Prop where
  punctual : Punctual state.clocked state.due state.now ids
  started : ∀ id ∈ ids, state.started id = true

/-- The running timers that are due no later than a timer. -/
def ahead (state : ClientState) (timerId : Nat) : Finset Nat :=
  (Finset.range maxNbrConcurrentTimer).filter fun other =>
    state.clocked.server.statusOf other = .running ∧
      state.due other ≤ state.due timerId

/-- The wake-ups that may pass until a timer that is due calls back. -/
def waiting (state : ClientState) (timerId : Nat) : Nat :=
  (ahead state timerId).card +
    if state.clocked.server.gWakeupTimerLimitation = .overpassed then
      1
    else
      0

/-- A timer that has not called back yet gets closer to it. -/
structure Closer
    (state next : ClientState) (nextIds : List Nat)
    (timerId wakeups : Nat) : Prop where
  member : timerId ∈ nextIds
  due_eq : next.due timerId = state.due timerId
  waiting_le : waiting next timerId + wakeups ≤ waiting state timerId

section Waiting

variable {state next : ClientState}
variable {ids nextIds : List Nat}
variable {timerId : Nat}

/-- A timeout of a client is in the range of the counts. -/
theorem millisecondsToTicks_le (milliseconds : UInt32) :
    (millisecondsToTicks milliseconds).toNat ≤ maxTimeoutTicks := by
  have short :=
    (lseValue / (0x0F + 1) * milliseconds : UInt32).toNat_lt
  rw [millisecondsToTicks, UInt32.toNat_div, maxTimeoutTicks]
  have divisor : (1000 : UInt32).toNat = 1000 := rfl
  rw [divisor]
  omega

theorem mem_ahead
    (represents : Represents state.clocked.server ids)
    (other : Nat) :
    other ∈ ahead state timerId ↔
      other ∈ ids ∧ state.due other ≤ state.due timerId := by
  rw [ahead, Finset.mem_filter, Finset.mem_range, represents.running,
    and_assoc]

/-- No timer comes ahead. -/
theorem ahead_subset
    (represents : Represents state.clocked.server ids)
    (representsNext : Represents next.clocked.server nextIds)
    (fewer : ∀ other ∈ nextIds, next.due other ≤ next.due timerId →
      other ∈ ids ∧ state.due other ≤ state.due timerId) :
    ahead next timerId ⊆ ahead state timerId := by
  intro other inside
  obtain ⟨member, earlier⟩ := (mem_ahead representsNext other).mp inside
  exact (mem_ahead represents other).mpr (fewer other member earlier)

theorem waiting_mono
    (fewer : ahead next timerId ⊆ ahead state timerId)
    (near : next.clocked.server.gWakeupTimerLimitation = .overpassed →
      state.clocked.server.gWakeupTimerLimitation = .overpassed) :
    waiting next timerId ≤ waiting state timerId := by
  have cards := Finset.card_le_card fewer
  rw [waiting, waiting]
  split
  · next far =>
      rw [if_pos (near far)]
      omega
  · split <;> omega

/-- A part of the count has elapsed. -/
theorem waiting_counted
    (fewer : ahead next timerId ⊆ ahead state timerId)
    (far : state.clocked.server.gWakeupTimerLimitation = .overpassed)
    (near : next.clocked.server.gWakeupTimerLimitation ≠ .overpassed) :
    waiting next timerId + 1 ≤ waiting state timerId := by
  have cards := Finset.card_le_card fewer
  rw [waiting, waiting, if_neg near, if_pos far]
  omega

/-- A timer that was ahead has called back. -/
theorem waiting_called
    {called : Nat}
    (represents : Represents state.clocked.server ids)
    (representsNext : Represents next.clocked.server nextIds)
    (fewer : ahead next timerId ⊆ ahead state timerId)
    (near : next.clocked.server.gWakeupTimerLimitation ≠ .overpassed)
    (member : called ∈ ids)
    (earlier : state.due called ≤ state.due timerId)
    (gone : called ∈ nextIds → next.due timerId < next.due called) :
    waiting next timerId + 1 ≤ waiting state timerId := by
  have strict : ahead next timerId ⊂ ahead state timerId := by
    rw [Finset.ssubset_iff_of_subset fewer]
    refine ⟨called, (mem_ahead represents called).mpr ⟨member, earlier⟩,
      ?_⟩
    intro inside
    obtain ⟨again, notLater⟩ :=
      (mem_ahead representsNext called).mp inside
    exact absurd (gone again) (Nat.not_lt.mpr notLater)
  have cards := Finset.card_lt_card strict
  rw [waiting, waiting, if_neg near]
  omega

/-- The full count of a timer that is due is programmed. -/
theorem near_of_setup
    {clocked : ClockedServer}
    {due : Nat → Nat}
    {now : Nat}
    (punctual : Punctual clocked due now nextIds)
    (setup : clocked.setupTick = now)
    (member : timerId ∈ nextIds)
    (passed : due timerId ≤ now) :
    clocked.server.gWakeupTimerLimitation ≠ .overpassed := by
  intro overpassed
  obtain ⟨first, rest, rfl⟩ :=
    List.exists_cons_of_ne_nil (List.ne_nil_of_mem member)
  have far := (punctual.armed first rfl).far overpassed
  have count := punctual.count_eq first (List.mem_cons_self ..)
  have earlier : due first ≤ due timerId := by
    rcases List.mem_cons.mp member with rfl | later
    · exact Nat.le_refl _
    · exact (List.pairwise_cons.mp punctual.inOrder).1 timerId later
  omega

end Waiting

/-- The call starts or stops the timer. -/
def Touches (timerId : Nat) : ClientEvent → Prop
  | .start other _ => other = timerId
  | .stop other => other = timerId
  | _ => False

/-- Timers that are due call back or get closer to it. -/
def Serves
    (state : ClientState) (call : ClientCall) (next : ClientState)
    (ids nextIds : List Nat) : Prop :=
  ∀ timerId ∈ ids, ¬Touches timerId call.event →
    state.due timerId < call.tick →
    next.calls = state.calls ++ [timerId] ∨
      Closer state next nextIds timerId
        (if call.event = .rtcWakeup then 1 else 0)

section Steps

variable {state : ClientState}
variable {ids : List Nat}
variable {timerId tick : Nat}

/-- A call that changes neither the list nor a count. -/
theorem Kept.withServer
    {server : TimerServer}
    (kept : Kept state ids)
    (later : state.now ≤ tick)
    (represents : Represents server ids)
    (same : SameTimes state.clocked.server server)
    (created : Nat → Bool)
    {started : Nat → Bool}
    (stillStarted : ∀ id ∈ ids, started id = state.started id) :
    Kept
        { state.withServer server tick with
          created := created
          started := started } ids ∧
      ∀ timerId ∈ ids,
        Closer state
          { state.withServer server tick with
            created := created
            started := started } ids timerId 0 := by
  refine ⟨⟨(kept.punctual.mono later).sameTimes represents same, ?_⟩, ?_⟩
  · intro id member
    exact (stillStarted id member).trans (kept.started id member)
  · intro timerId member
    refine ⟨member, rfl, ?_⟩
    apply waiting_mono
    · exact ahead_subset kept.punctual.represents represents
        fun other inside earlier => ⟨inside, earlier⟩
    · exact fun far => same.limitation_eq ▸ far

theorem createTimer_kept
    (kept : Kept state ids)
    (later : state.now ≤ tick)
    (timerMode : TimerMode)
    (timerCallback : Option Nat) :
    ∃ next,
      step state ⟨tick, .createTimer timerMode timerCallback⟩ = .ok next ∧
      Kept next ids ∧
      Serves state ⟨tick, .createTimer timerMode timerCallback⟩ next ids
        ids := by
  obtain ⟨server, creates, represents, same⟩ :=
    createTimer_spec kept.punctual.represents timerMode timerCallback
  have absent : state.clocked.server.findFirstFreeId 0 ∉ ids := by
    intro member
    obtain ⟨timer, running⟩ :=
      (kept.punctual.represents.running _).mp member
    rcases findFirstFreeId_spec state.clocked.server 0 (Nat.zero_le _) with
      none | ⟨_, free⟩
    · exact absurd none (Nat.ne_of_lt timer)
    · rw [free] at running
      cases running
  have stillStarted : ∀ id ∈ ids,
      Function.update state.started
        (state.clocked.server.findFirstFreeId 0) false id =
        state.started id := by
    intro id member
    rw [Function.update_of_ne]
    rintro rfl
    exact absent member
  obtain ⟨after, closer⟩ := kept.withServer later represents same
    (Function.update state.created
      (state.clocked.server.findFirstFreeId 0) true) stillStarted
  refine ⟨_, ?_, after, fun timerId member _ _ => Or.inr ?_⟩
  · simp only [step, bind, Except.bind, creates]
  · exact closer timerId member

theorem deleteTimer_kept
    (kept : Kept state ids)
    (later : state.now ≤ tick)
    (timer : timerId < maxNbrConcurrentTimer)
    (notRunning : state.clocked.server.statusOf timerId ≠ .running) :
    ∃ next,
      step state ⟨tick, .deleteTimer timerId⟩ = .ok next ∧
      Kept next ids ∧
      Serves state ⟨tick, .deleteTimer timerId⟩ next ids ids := by
  obtain ⟨server, deletes, represents, same⟩ :=
    deleteTimer_spec kept.punctual.represents timer notRunning
  have stillStarted : ∀ id ∈ ids,
      Function.update state.started timerId false id =
        state.started id := by
    intro id member
    rw [Function.update_of_ne]
    rintro rfl
    exact notRunning ((kept.punctual.represents.running id).mp member).2
  obtain ⟨after, closer⟩ := kept.withServer later represents same
    (Function.update state.created timerId false) stillStarted
  refine ⟨_, ?_, after, fun timerId member _ _ => Or.inr ?_⟩
  · simp only [step, bind, Except.bind, deletes]
  · exact closer timerId member

/-- `TimerServer_Start` -/
theorem start_kept
    (kept : Kept state ids)
    (later : state.now ≤ tick)
    (within : ids ≠ [] → tick < state.clocked.setupTick + 32768)
    (timer : timerId < maxNbrConcurrentTimer)
    (created : state.created timerId = true)
    (timeoutMs : UInt32) :
    ∃ next nextIds,
      step state ⟨tick, .start timerId timeoutMs⟩ = .ok next ∧
      Kept next nextIds ∧
      Serves state ⟨tick, .start timerId timeoutMs⟩ next ids nextIds := by
  obtain ⟨clocked, started, starts, setup, punctual, members⟩ :=
    TimerDeadlines.startTimer_punctual kept.punctual.toTimely timer
      (millisecondsToTicks_le timeoutMs) later within
  refine ⟨{ state with
      clocked := clocked
      now := tick
      due :=
        Function.update state.due timerId
          (tick + (millisecondsToTicks timeoutMs).toNat)
      started :=
        Function.update state.started timerId (state.created timerId) },
    started, ?_, ⟨punctual, ?_⟩, ?_⟩
  · simp only [step, bind, Except.bind, starts]
  · intro id member
    dsimp only
    by_cases same : id = timerId
    · rw [same, Function.update_self]
      exact created
    · rw [Function.update_of_ne same]
      exact kept.started id (((members id).mp member).resolve_left same)
  · intro other member untouched passed
    have different : other ≠ timerId := fun same => untouched same.symm
    have inside := (members other).mpr (Or.inr member)
    have dueSame : Function.update state.due timerId
        (tick + (millisecondsToTicks timeoutMs).toNat) other =
          state.due other := Function.update_of_ne different _ _
    refine Or.inr ⟨inside, dueSame, ?_⟩
    refine waiting_mono
      (ahead_subset kept.punctual.represents punctual.represents ?_)
      fun far => absurd far
        (near_of_setup punctual setup inside
          (by rw [dueSame]; exact Nat.le_of_lt passed))
    intro third inNext earlier
    dsimp only at earlier passed
    rw [dueSame] at earlier
    by_cases same : third = timerId
    · rw [same, Function.update_self] at earlier
      omega
    · rw [Function.update_of_ne same] at earlier
      exact ⟨((members third).mp inNext).resolve_left same, earlier⟩

/-- `TimerServer_Stop` -/
theorem stop_kept
    (kept : Kept state ids)
    (later : state.now ≤ tick)
    (within : ids ≠ [] → tick < state.clocked.setupTick + 32768)
    (timer : timerId < maxNbrConcurrentTimer) :
    ∃ next nextIds,
      step state ⟨tick, .stop timerId⟩ = .ok next ∧
      Kept next nextIds ∧
      Serves state ⟨tick, .stop timerId⟩ next ids nextIds := by
  by_cases running : state.clocked.server.statusOf timerId = .running
  · have member :=
      (kept.punctual.represents.running timerId).mpr ⟨timer, running⟩
    obtain ⟨clocked, stops, setup, punctual⟩ :=
      TimerDeadlines.stop_punctual kept.punctual.toTimely member later
        (within (List.ne_nil_of_mem member))
    refine ⟨{ state with clocked := clocked, now := tick },
      ids.erase timerId, ?_, ⟨punctual, ?_⟩, ?_⟩
    · simp only [step, bind, Except.bind, stops]
    · intro id inRest
      exact kept.started id (List.mem_of_mem_erase inRest)
    · intro other isRunning untouched passed
      have different : other ≠ timerId := fun same => untouched same.symm
      have inside := (List.mem_erase_of_ne different).mpr isRunning
      refine Or.inr ⟨inside, rfl, ?_⟩
      exact waiting_mono
        (ahead_subset kept.punctual.represents punctual.represents
          fun third inRest earlier =>
            ⟨List.mem_of_mem_erase inRest, earlier⟩)
        fun far => absurd far
          (near_of_setup punctual (setup (List.ne_nil_of_mem inside))
            inside (Nat.le_of_lt passed))
  · refine ⟨{ state with now := tick }, ids, ?_,
      ⟨kept.punctual.mono later, kept.started⟩, ?_⟩
    · rw [statusOf] at running
      simp only [step, ClockedServer.stop, context_of_lt timer, bind,
        Except.bind, if_neg running]
    · intro other member _ _
      exact Or.inr ⟨member, rfl, waiting_mono (Finset.Subset.refl _) id⟩

theorem dueAfterCall_other
    {clocked : ClockedServer}
    {due : Nat → Nat}
    {other : Nat}
    (different : other ≠ timerId) :
    dueAfterCall clocked due tick (some timerId) other = due other := by
  rw [dueAfterCall]
  cases (clocked.server.gTimerContext timerId).mode with
  | singleShot => rfl
  | repeated => exact Function.update_of_ne different _ _

/-- `TimerServer_RtcWakeupHandler` -/
theorem rtcWakeup_kept
    (kept : Kept state ids)
    (onTime : OnTime state.toTimedState ⟨tick, .rtcWakeup⟩) :
    ∃ next nextIds,
      step state ⟨tick, .rtcWakeup⟩ = .ok next ∧
      Kept next nextIds ∧
      Serves state ⟨tick, .rtcWakeup⟩ next ids nextIds := by
  obtain ⟨ticks, counting, prompt, reached⟩ := onTime.wakeup
  obtain ⟨clocked, called, rest, handled, punctual, ordered, woken⟩ :=
    TimerDeadlines.rtcWakeupHandler_punctual kept.punctual counting
      onTime.1 reached prompt
  have represents := kept.punctual.represents
  refine ⟨{ state with
      clocked := clocked
      now := tick
      due := dueAfterCall state.clocked state.due tick called
      calls := state.calls ++ called.toList }, rest, ?_,
    ⟨punctual, ?_⟩, ?_⟩
  · simp only [step, bind, Except.bind, handled]
  · intro id member
    cases called with
    | none =>
        rw [(woken.counted rfl).2] at member
        exact kept.started id member
    | some timerId =>
        by_cases same : id = timerId
        · obtain ⟨timer, running, _⟩ := ordered timerId rfl
          rw [same]
          exact kept.started timerId
            ((represents.running timerId).mpr ⟨timer, running⟩)
        · exact kept.started id
            ((woken.others timerId rfl id same).mp member)
  · intro other member _ passed
    cases called with
    | none =>
        obtain ⟨far, rfl⟩ := woken.counted rfl
        have near := near_of_setup punctual
          (woken.setup_eq (List.ne_nil_of_mem member)) member
          (Nat.le_of_lt passed)
        refine Or.inr ⟨member, rfl, ?_⟩
        exact waiting_counted
          (ahead_subset represents punctual.represents
            fun third inside earlier => ⟨inside, earlier⟩) far near
    | some timerId =>
        by_cases same : other = timerId
        · left
          rw [same]
          rfl
        have dueSame :
            dueAfterCall state.clocked state.due tick (some timerId)
              other = state.due other := dueAfterCall_other same
        have restarted : timerId ∈ rest → tick ≤ dueAfterCall
            state.clocked state.due tick (some timerId) timerId :=
          woken.restarted timerId rfl
        have inside := (woken.others timerId rfl other same).mpr member
        obtain ⟨timer, running, notEarly, first⟩ := ordered timerId rfl
        have calledMember :=
          (represents.running timerId).mpr ⟨timer, running⟩
        obtain ⟨otherTimer, otherRunning⟩ :=
          (represents.running other).mp member
        refine Or.inr ⟨inside, dueSame, ?_⟩
        refine waiting_called represents punctual.represents
          (ahead_subset represents punctual.represents ?_)
          (near_of_setup punctual
            (woken.setup_eq (List.ne_nil_of_mem inside)) inside
            (by rw [dueSame]; exact Nat.le_of_lt passed))
          calledMember (first other otherTimer otherRunning) ?_
        · intro third inNext earlier
          dsimp only at earlier passed
          rw [dueSame] at earlier
          by_cases again : third = timerId
          · have late := restarted (by rw [← again]; exact inNext)
            rw [again] at earlier
            omega
          · rw [dueAfterCall_other again] at earlier
            exact ⟨(woken.others timerId rfl third again).mp inNext,
              earlier⟩
        · intro again
          have late := restarted again
          dsimp only at passed ⊢
          rw [dueSame]
          omega

end Steps

section Runs

variable {state next : ClientState}
variable {ids : List Nat}
variable {calls : List ClientCall}

/-- Every call takes a tick and may add to the callbacks. -/
theorem step_frame
    {call : ClientCall}
    (stepped : step state call = .ok next) :
    next.now = call.tick ∧
      ∃ called, next.calls = state.calls ++ called := by
  obtain ⟨tick, event⟩ := call
  cases event with
  | createTimer timerMode timerCallback =>
      obtain ⟨result, _, done⟩ := bind_eq_ok stepped
      cases done
      exact ⟨rfl, [], (List.append_nil _).symm⟩
  | start timerId timeoutMs =>
      obtain ⟨result, _, done⟩ := bind_eq_ok stepped
      cases done
      exact ⟨rfl, [], (List.append_nil _).symm⟩
  | stop timerId =>
      obtain ⟨result, _, done⟩ := bind_eq_ok stepped
      cases done
      exact ⟨rfl, [], (List.append_nil _).symm⟩
  | deleteTimer timerId =>
      obtain ⟨result, _, done⟩ := bind_eq_ok stepped
      cases done
      exact ⟨rfl, [], (List.append_nil _).symm⟩
  | rtcWakeup =>
      obtain ⟨result, _, done⟩ := bind_eq_ok stepped
      cases done
      exact ⟨rfl, _, rfl⟩

/-- Every call succeeds, keeps the invariant and serves the timers. -/
theorem step_kept
    {call : ClientCall}
    (kept : Kept state ids)
    (onTime : OnTime state.toTimedState ⟨call.tick, call.event.timed⟩)
    (contract : Contract state call.event)
    (deletesStopped : DeletesStopped state call) :
    ∃ next nextIds,
      step state call = .ok next ∧
      Kept next nextIds ∧
      Serves state call next ids nextIds := by
  have within := kept.punctual.within onTime
  obtain ⟨tick, event⟩ := call
  have later : state.now ≤ tick := onTime.1
  cases event with
  | createTimer timerMode timerCallback =>
      obtain ⟨next, stepped, after, serves⟩ :=
        createTimer_kept kept later timerMode timerCallback
      exact ⟨next, ids, stepped, after, serves⟩
  | start timerId timeoutMs =>
      exact start_kept kept later within contract.1 contract.2 timeoutMs
  | stop timerId => exact stop_kept kept later within contract
  | deleteTimer timerId =>
      obtain ⟨next, stepped, after, serves⟩ :=
        deleteTimer_kept kept later contract deletesStopped
      exact ⟨next, ids, stepped, after, serves⟩
  | rtcWakeup => exact rtcWakeup_kept kept onTime

theorem run_kept
    (run : Run (system.restrict DeletesStopped) calls state) :
    ∃ ids, Kept state ids := by
  apply run.invariant
  · intro first starts
    refine ⟨[], ?_, by simp⟩
    rw [starts.1]
    exact TimerDeadlines.punctual_init first.due first.now
  · intro before call after ⟨ids, kept⟩ ⟨⟨onTime, contract, stepped⟩, stopped⟩
    obtain ⟨next, nextIds, same, keptNext, _⟩ :=
      step_kept kept onTime contract stopped
    rw [stepped] at same
    cases same
    exact ⟨nextIds, keptNext⟩

/-- Calls of clients that leave a timer alone. -/
def leaving (timerId : Nat) : System ClientState ClientCall :=
  (system.restrict DeletesStopped).restrict fun _ call =>
    ¬Touches timerId call.event

/-- A wake-up. -/
def isWakeup (call : ClientCall) : Bool :=
  call.event = .rtcWakeup

/-- No more timers are ahead than there are. -/
theorem waiting_bounds
    {timerId : Nat}
    (represents : Represents state.clocked.server ids)
    (member : timerId ∈ ids) :
    0 < waiting state timerId ∧
      waiting state timerId ≤ maxNbrConcurrentTimer + 1 := by
  have inside : timerId ∈ ahead state timerId :=
    (mem_ahead represents timerId).mpr ⟨member, Nat.le_refl _⟩
  have positive := Finset.card_pos.mpr ⟨timerId, inside⟩
  have most := Finset.card_le_card
    (Finset.filter_subset (fun other =>
        state.clocked.server.statusOf other = .running ∧
          state.due other ≤ state.due timerId)
      (Finset.range maxNbrConcurrentTimer))
  rw [Finset.card_range] at most
  rw [waiting]
  constructor
  · omega
  · rw [ahead]
    split <;> omega

/-- A timer that is due calls back after a bounded number of wake-ups. -/
theorem fires
    {timerId : Nat}
    {after : ClientState}
    (kept : Kept state ids)
    (member : timerId ∈ ids)
    (passed : state.due timerId < state.now)
    (run : Run ((leaving timerId).startAt state) calls after)
    (wakeups : maxNbrConcurrentTimer < calls.countP isWakeup) :
    state.calls.count timerId < after.calls.count timerId := by
  let holds (between : ClientState) : Prop :=
    (∃ ids, Kept between ids ∧ timerId ∈ ids) ∧
      between.due timerId < between.now ∧
      state.calls.count timerId ≤ between.calls.count timerId
  have outcome := @Run.reaches _ _ _ holds
    (fun between =>
      state.calls.count timerId < between.calls.count timerId)
    (fun between => waiting between timerId) isWakeup
    (waiting state timerId) ?_ ?_ ?_ _ _ run
  · rcases outcome with done | ⟨⟨⟨rest, keptAfter, inRest⟩, _⟩, least⟩
    · exact done
    · have atMost := (waiting_bounds kept.punctual.represents member).2
      have atLeast :=
        (waiting_bounds keptAfter.punctual.represents inRest).1
      omega
  · rintro _ rfl
    exact ⟨⟨⟨ids, kept, member⟩, passed, Nat.le_refl _⟩, Nat.le_refl _⟩
  · intro between call next ⟨⟨rest, keptRest, inRest⟩, dueBefore, noFewer⟩
      ⟨⟨⟨onTime, contract, stepped⟩, stopped⟩, untouched⟩
    obtain ⟨result, nextIds, same, keptNext, serves⟩ :=
      step_kept keptRest onTime contract stopped
    rw [stepped] at same
    cases same
    obtain ⟨now, called, more⟩ := step_frame stepped
    have later : between.now ≤ call.tick := onTime.1
    rcases serves timerId inRest untouched (by omega) with fired | closer
    · left
      rw [fired, List.count_append, List.count_singleton_self]
      omega
    · right
      obtain ⟨inNext, dueSame, less⟩ := closer
      refine ⟨⟨⟨nextIds, keptNext, inNext⟩, ?_, ?_⟩, ?_⟩
      · rw [dueSame, now]
        omega
      · rw [more, List.count_append]
        omega
      · rw [isWakeup]
        by_cases wakeup : call.event = .rtcWakeup
        · simpa [wakeup] using less
        · simpa [wakeup] using less
  · intro between call next done ⟨⟨⟨_, _, stepped⟩, _⟩, _⟩
    obtain ⟨_, called, more⟩ := step_frame stepped
    rw [more, List.count_append]
    omega

end Runs

/-- The state after some calls, if clients and the clock may make them. -/
def runCalls
    (proper : ClientState → ClientCall → Prop)
    [∀ state call, Decidable (proper state call)]
    (first : ClientState) (calls : List ClientCall) :
    Option ClientState :=
  calls.foldlM
    (fun state call =>
      if OnTime state.toTimedState ⟨call.tick, call.event.timed⟩ ∧
          Contract state call.event ∧ proper state call then
        (step state call).toOption
      else
        none)
    first

theorem run_of_runCalls
    {proper : ClientState → ClientCall → Prop}
    [∀ state call, Decidable (proper state call)]
    {first state : ClientState}
    {calls : List ClientCall}
    (starts : system.start first)
    (ran : runCalls proper first calls = some state) :
    Run (system.restrict proper) calls state := by
  induction calls using List.reverseRecOn generalizing state with
  | nil =>
      cases ran
      exact .start starts
  | append_singleton calls call inductionHypothesis =>
      rw [runCalls, List.foldlM_append] at ran
      obtain ⟨before, ranBefore, last⟩ := Option.bind_eq_some_iff.mp ran
      have run := inductionHypothesis ranBefore
      rw [List.foldlM_cons] at last
      obtain ⟨next, stepped, done⟩ := Option.bind_eq_some_iff.mp last
      cases done
      split at stepped
      · next allowed =>
          refine .step run call
            ⟨⟨allowed.1, allowed.2.1, ?_⟩, allowed.2.2⟩
          cases result : step before call with
          | error fault =>
              rw [result] at stepped
              cases stepped
          | ok after =>
              rw [result] at stepped
              cases stepped
              rfl
      · cases stepped

/-- The state after `TimerServer_Init`. -/
def booted : ClientState where
  clocked := ClockedServer.init
  now := 0
  due := fun _ => 0
  created := fun _ => false
  started := fun _ => false
  calls := []

/-- A run of calls that are given, and what holds after it. -/
theorem run_of_any
    {proper : ClientState → ClientCall → Prop}
    [∀ state call, Decidable (proper state call)]
    {calls : List ClientCall}
    {holds : ClientState → Prop}
    [DecidablePred holds]
    (ran : (runCalls proper booted calls).any
      (fun state => decide (holds state)) = true) :
    ∃ state, Run (system.restrict proper) calls state ∧ holds state := by
  obtain ⟨state, done, held⟩ := (Option.any_eq_true _ _).mp ran
  exact ⟨state, run_of_runCalls ⟨rfl, rfl, rfl, rfl⟩ done,
    of_decide_eq_true held⟩

/-- What clients expect of deleted timers and of all others. -/
structure Removed (state : ClientState) : Prop where
  chain : ∃ ids, Represents state.clocked.server ids
  succeeds : ∀ call : ClientCall,
    OnTime state.toTimedState ⟨call.tick, call.event.timed⟩ →
    Contract state call.event → DeletesStopped state call →
    ∃ next, step state call = .ok next
  onlyStarted : ∀ tick, OnTime state.toTimedState ⟨tick, .rtcWakeup⟩ →
    ∃ clocked called,
      state.clocked.rtcWakeupHandler tick = .ok (clocked, called) ∧
      ∀ timerId, called = some timerId → state.started timerId = true
  rescheduled : ∀ timerId < maxNbrConcurrentTimer,
    state.clocked.server.statusOf timerId = .running →
    ∃ ticks, state.clocked.server.wakeupTimer.ticks = some ticks
  fires : ∀ timerId < maxNbrConcurrentTimer,
    state.clocked.server.statusOf timerId = .running →
    state.due timerId < state.now →
    ∀ calls after, Run ((leaving timerId).startAt state) calls after →
      maxNbrConcurrentTimer < calls.countP isWakeup →
      state.calls.count timerId < after.calls.count timerId
  delete_iff : ∀ timerId < maxNbrConcurrentTimer,
    ∃ server, state.clocked.server.deleteTimer timerId = .ok server ∧
      ((∃ ids, Represents server ids) ↔
        state.clocked.server.statusOf timerId ≠ .running)

/-- A running timer that is deleted stays in the list. -/
theorem deleteTimer_represents_iff
    {server : TimerServer}
    {ids : List Nat}
    {timerId : Nat}
    (represents : Represents server ids)
    (timer : timerId < maxNbrConcurrentTimer) :
    ∃ result, server.deleteTimer timerId = .ok result ∧
      ((∃ ids, Represents result ids) ↔
        server.statusOf timerId ≠ .running) := by
  refine ⟨_, modifyContext_of_lt timer, ?_, fun notRunning => ?_⟩
  · rintro ⟨others, represented⟩ running
    have member := (represents.running timerId).mpr ⟨timer, running⟩
    have threaded :
        IntrusiveList.Threaded server.nextOf maxNbrConcurrentTimer
          server.gCurrentRunningTimerId others :=
      represented.linked.toThreaded.congr fun id _ => by simp
    rw [represents.linked.unique threaded] at member
    have still := ((represented.running timerId).mp member).2
    rw [statusOf_set, if_pos rfl] at still
    cases still
  · obtain ⟨result, deletes, represented, _⟩ :=
      deleteTimer_spec represents timer notRunning
    have same := (modifyContext_of_lt timer).symm.trans deletes
    cases same
    exact ⟨ids, represented⟩

/--
In every run in which no running timer is deleted, the links form the list of
the running timers, only timers that were created and started since they were
last deleted call back, and every running timer calls back after it is due.
The list survives a further deletion exactly if the timer is not running.
-/
theorem deleteTimer_removes
    {calls : List ClientCall}
    {state : ClientState}
    (run : Run (system.restrict DeletesStopped) calls state) :
    Removed state := by
  obtain ⟨ids, kept⟩ := run_kept run
  have represents := kept.punctual.represents
  refine ⟨⟨ids, represents⟩, ?_, ?_, ?_, ?_, ?_⟩
  · intro call onTime contract stopped
    obtain ⟨next, _, stepped, _⟩ :=
      step_kept kept onTime contract stopped
    exact ⟨next, stepped⟩
  · intro tick onTime
    obtain ⟨ticks, counting, prompt, reached⟩ := onTime.wakeup
    obtain ⟨clocked, called, _, handled, _, ordered, _⟩ :=
      TimerDeadlines.rtcWakeupHandler_punctual kept.punctual counting
        onTime.1 reached prompt
    refine ⟨clocked, called, handled, fun timerId invoked => ?_⟩
    obtain ⟨timer, running, _⟩ := ordered timerId invoked
    exact kept.started timerId
      ((represents.running timerId).mpr ⟨timer, running⟩)
  · intro timerId timer running
    have member := (represents.running timerId).mpr ⟨timer, running⟩
    obtain ⟨first, rest, rfl⟩ :=
      List.exists_cons_of_ne_nil (List.ne_nil_of_mem member)
    have armed := kept.punctual.armed first rfl
    by_cases far :
        state.clocked.server.gWakeupTimerLimitation = .overpassed
    · exact ⟨_, armed.overpassed far⟩
    · exact ⟨_, armed.largeEnough far⟩
  · intro timerId timer running passed labels after goesOn wakeups
    have member := (represents.running timerId).mpr ⟨timer, running⟩
    exact fires kept member passed goesOn wakeups
  · intro timerId timer
    exact deleteTimer_represents_iff represents timer

theorem deleteTimer_removes_stopped :
    ∃ state,
      Run (system.restrict DeletesStopped)
        [⟨0, .createTimer .singleShot none⟩, ⟨0, .start 0 100⟩,
          ⟨3, .stop 0⟩, ⟨3, .deleteTimer 0⟩] state ∧
      Removed state := by
  obtain ⟨state, run, _⟩ :=
    @run_of_any DeletesStopped _
      [⟨0, .createTimer .singleShot none⟩, ⟨0, .start 0 100⟩,
        ⟨3, .stop 0⟩, ⟨3, .deleteTimer 0⟩]
      (fun state => state.now = 3) _ (by decide +kernel)
  exact ⟨state, run, deleteTimer_removes run⟩

/--
The first running timer is deleted: the wake-up handler does not reschedule the
list, and timer 1 never calls back.  Timer 0 is deleted and created again: the
list that it is linked to a second time never ends.
-/
theorem deleteTimer_removes_not_running :
    (∃ state,
      Run system
        [⟨0, .createTimer .singleShot none⟩, ⟨0, .start 0 100⟩,
          ⟨0, .createTimer .singleShot none⟩, ⟨0, .start 1 1000⟩,
          ⟨1, .deleteTimer 0⟩, ⟨204, .rtcWakeup⟩] state ∧
      state.clocked.server.statusOf 1 = .running ∧
      state.clocked.server.wakeupTimer.ticks = none ∧
      state.calls = []) ∧
    ∃ state,
      Run system
        [⟨0, .createTimer .singleShot none⟩, ⟨0, .start 0 100⟩,
          ⟨1, .deleteTimer 0⟩, ⟨1, .createTimer .singleShot none⟩]
        state ∧
      state.created 0 = true ∧
      OnTime state.toTimedState
        ⟨1, .startTimer 0 (millisecondsToTicks 100)⟩ ∧
      (step state ⟨1, .start 0 100⟩).map (fun _ => ()) =
        .error .endless := by
  constructor
  · obtain ⟨state, run, held⟩ :=
      @run_of_any (fun _ _ => True) _
        [⟨0, .createTimer .singleShot none⟩, ⟨0, .start 0 100⟩,
          ⟨0, .createTimer .singleShot none⟩, ⟨0, .start 1 1000⟩,
          ⟨1, .deleteTimer 0⟩, ⟨204, .rtcWakeup⟩]
        (fun state =>
          state.clocked.server.statusOf 1 = .running ∧
            state.clocked.server.wakeupTimer.ticks = none ∧
            state.calls = []) _ (by decide +kernel)
    exact ⟨state, run.unrestricted, held⟩
  · obtain ⟨state, run, held⟩ :=
      @run_of_any (fun _ _ => True) _
        [⟨0, .createTimer .singleShot none⟩, ⟨0, .start 0 100⟩,
          ⟨1, .deleteTimer 0⟩, ⟨1, .createTimer .singleShot none⟩]
        (fun state =>
          state.created 0 = true ∧
            OnTime state.toTimedState
              ⟨1, .startTimer 0 (millisecondsToTicks 100)⟩ ∧
            (step state ⟨1, .start 0 100⟩).map (fun _ => ()) =
              .error .endless) _ (by decide +kernel)
    exact ⟨state, run.unrestricted, held⟩

end DemoBoard.TimerDeletes
