import DemoBoard.Button
import Mathlib.Data.Nat.Count

namespace DemoBoard.Button

/-!
# Sessions of the button

The state of a session, described by the samples alone.  A session first looks
for a run of pressed samples, then counts pressed and released samples until
one of them wins.  After a short press it waits for released samples only,
and no overall time limits that wait.
-/

section Samples

variable (levels : Nat → Bool)

/-- The number of pressed samples in a row up to a time. -/
def pressedRun : Nat → Nat
  | 0 => (levels 0).toNat
  | time + 1 => if levels (time + 1) then pressedRun time + 1 else 0

/-- The pressed ones among some samples. -/
def pressed (first count : Nat) : Nat :=
  Nat.count (fun offset => levels (first + offset) = true) count

/-- The released ones among some samples. -/
def released (first count : Nat) : Nat :=
  Nat.count (fun offset => levels (first + offset) = false) count

theorem pressed_succ (first count : Nat) :
    pressed levels first (count + 1) =
      pressed levels first count + (levels (first + count)).toNat := by
  rw [pressed, Nat.count_succ]
  cases level : levels (first + count) with
  | false => rw [if_neg nofun]; rfl
  | true => rw [if_pos rfl]; rfl

theorem released_succ (first count : Nat) :
    released levels first (count + 1) =
      released levels first count + (!levels (first + count)).toNat := by
  rw [released, Nat.count_succ]
  cases level : levels (first + count) with
  | false => rw [if_pos rfl]; rfl
  | true => rw [if_neg nofun]; rfl

/-- Every sample is pressed or released. -/
theorem pressed_add_released (first count : Nat) :
    pressed levels first count + released levels first count = count := by
  induction count with
  | zero => rfl
  | succ count inductionHypothesis =>
      rw [pressed_succ, released_succ]
      cases levels (first + count) with
      | false => simp; omega
      | true => simp; omega

theorem pressed_mono (first : Nat) {count more : Nat} (le : count ≤ more) :
    pressed levels first count ≤ pressed levels first more :=
  Nat.count_monotone _ le

theorem released_mono (first : Nat) {count more : Nat} (le : count ≤ more) :
    released levels first count ≤ released levels first more :=
  Nat.count_monotone _ le

/-- The first time with more than three pressed samples in a row. -/
structure StablePress (time : Nat) : Prop where
  window : time ≤ 101
  stable : 3 < pressedRun levels time
  first : ∀ earlier, earlier < time → pressedRun levels earlier ≤ 3

theorem pressedRun_le (time : Nat) : pressedRun levels time ≤ time + 1 := by
  induction time with
  | zero => exact Bool.toNat_le _
  | succ time inductionHypothesis =>
      rw [pressedRun]
      split
      · omega
      · omega

/-- A stable press takes four samples. -/
theorem StablePress.three_le
    {levels : Nat → Bool}
    {time : Nat}
    (press : StablePress levels time) :
    3 ≤ time := by
  have stable := press.stable
  have bound := pressedRun_le levels time
  omega

/--
The fourth released sample after a stable press is the one at
`stable + 1 + count`, and so far the button was not down for long.
-/
structure ShortPress (stable count : Nat) : Prop where
  press : StablePress levels stable
  releasedBefore : released levels (stable + 1) count = 3
  releasedNow : levels (stable + 1 + count) = false
  short : pressed levels (stable + 1) count ≤ 996

/-- The sample at `stable + 1 + count` makes a press a long one. -/
structure LongPress (stable count : Nat) : Prop where
  press : StablePress levels stable
  pressedBefore : pressed levels (stable + 1) count = 996
  pressedNow : levels (stable + 1 + count) = true
  notReleased : released levels (stable + 1) count ≤ 3

/-- Why a session may have ended by some time. -/
inductive Ended (time : Nat) : Prop where
  | unstable (never : ∀ earlier ≤ 101, pressedRun levels earlier ≤ 3)
  | long
      (stable count : Nat)
      (press : LongPress levels stable count)
  | short
      (stable count waited : Nat)
      (press : ShortPress levels stable count)
      (done : 50 < released levels (stable + 2 + count) waited)
      (past : stable + 1 + count + waited ≤ time)

variable {levels} in
theorem Ended.mono
    {time later : Nat}
    (ended : Ended levels time)
    (le : time ≤ later) :
    Ended levels later := by
  cases ended with
  | unstable never => exact .unstable never
  | long stable count press => exact .long stable count press
  | short stable count waited press done past =>
      exact .short stable count waited press done (past.trans le)

end Samples

/-- The session goes on in a handler with some counters. -/
structure Monitors
    (state : State) (handler : Handler) (low up time : Nat) : Prop where
  handler : state.monitoringStateHandler = handler
  monitoring : state.monitoring = true
  low : state.buttonLowInRow.toNat = low
  up : state.buttonUpInRow.toNat = up
  time : state.monitoringTime.toNat = time

/-- The session after the sample at a time. -/
inductive Phase
    (levels : Nat → Bool) (time : Nat) (state : State) : Prop where
  | debouncing
      (up : Nat)
      (monitors :
        Monitors state .debouncing (pressedRun levels time) up time)
      (early : time ≤ 100)
      (unstable : ∀ earlier ≤ time, pressedRun levels earlier ≤ 3)
      (bounded : up ≤ time + 1)
  | pressed
      (stable count : Nat)
      (press : StablePress levels stable)
      (monitors :
        Monitors state .buttonPressed
          (4 + pressed levels (stable + 1) count)
          (released levels (stable + 1) count) time)
      (now : time = stable + count)
      (short : pressed levels (stable + 1) count ≤ 996)
      (notReleased : released levels (stable + 1) count ≤ 3)
  | long
      (stable count low up : Nat)
      (press : LongPress levels stable count)
      (since : stable ≤ time)
      (monitors : Monitors state .releaseLongPressed low up time)
      (notSticky : time ≤ 5000)
      (lowBounded : low ≤ time + 1)
      (upBounded : up ≤ 3)
  | released
      (stable count waited : Nat)
      (press : ShortPress levels stable count)
      (monitors :
        Monitors state .buttonReleased
          (pressed levels (stable + 2 + count) waited)
          (released levels (stable + 2 + count) waited) time)
      (now : time = stable + 1 + count + waited)
      (waiting : released levels (stable + 2 + count) waited ≤ 50)
  | ended
      (ending : Ended levels time)
      (stopped : state.monitoring = false)
      (low : state.buttonLowInRow.toNat ≤ time + 1)
      (up : state.buttonUpInRow.toNat ≤ time + 1)
      (now : state.monitoringTime.toNat ≤ time)

section Steps

variable {levels : Nat → Bool}
variable {time low up : Nat}
variable {state : State}
variable {handler : Handler}

/-- A counter below its limit does not wrap. -/
theorem toNat_increment
    {counter : UInt16}
    {value : Nat}
    (current : counter.toNat = value)
    (room : value < 65535) :
    (counter + 1).toNat = value + 1 := by
  rw [UInt16.toNat_add, current]
  exact Nat.mod_eq_of_lt (by simp; omega)

/-- The counting of one sample. -/
theorem Monitors.countSample
    (monitors : Monitors state handler low up time)
    (lowRoom : low < 65535)
    (upRoom : up < 65535)
    (level : Bool) :
    Monitors (state.countSample level) handler (low + level.toNat)
      (up + (!level).toNat) time := by
  cases level with
  | false =>
      exact ⟨monitors.handler, monitors.monitoring, monitors.low,
        toNat_increment monitors.up upRoom, monitors.time⟩
  | true =>
      exact ⟨monitors.handler, monitors.monitoring,
        toNat_increment monitors.low lowRoom, monitors.up, monitors.time⟩

/-- The tick of a running session counts the time first. -/
theorem Monitors.tick
    (monitors : Monitors state handler low up time)
    (room : time < 65535)
    (level : Bool) :
    ∃ timed : State,
      Monitors timed handler low up (time + 1) ∧
        state.tick level = timed.handle level := by
  refine ⟨state.countTime,
    ⟨monitors.handler, monitors.monitoring, monitors.low, monitors.up,
      toNat_increment monitors.time room⟩, ?_⟩
  rw [State.tick, if_pos monitors.monitoring, State.handleButtonActive]

/-- A counter is above a threshold. -/
theorem exceeds_iff
    {counter threshold : UInt16}
    {value limit : Nat}
    (current : counter.toNat = value)
    (limited : threshold.toNat = limit) :
    counter > threshold ↔ limit < value := by
  rw [gt_iff_lt, UInt16.lt_iff_toNat_lt, current, limited]

theorem pressedThreshold_eq : pressedThreshold.toNat = 3 := rfl

theorem unstableThreshold_eq : unstableThreshold.toNat = 100 := rfl

theorem longPressedThreshold_eq : longPressedThreshold.toNat = 1000 := rfl

theorem releaseThreshold_eq : releaseThreshold.toNat = 3 := rfl

theorem pressDoneThreshold_eq : pressDoneThreshold.toNat = 50 := rfl

theorem stickyButtonThreshold_eq : stickyButtonThreshold.toNat = 5000 := rfl

/-- A stopped session. -/
theorem Phase.of_stopped
    (ending : Ended levels time)
    (monitors : Monitors state handler low up time)
    (event : Option Event)
    (lowBounded : low ≤ time + 1)
    (upBounded : up ≤ time + 1) :
    Phase levels time (state.stopMonitoringAndSignal event) := by
  have counters :
      (state.stopMonitoringAndSignal event).buttonLowInRow =
          state.buttonLowInRow ∧
        (state.stopMonitoringAndSignal event).buttonUpInRow =
          state.buttonUpInRow ∧
        (state.stopMonitoringAndSignal event).monitoringTime =
          state.monitoringTime ∧
        (state.stopMonitoringAndSignal event).monitoring = false := by
    cases event with
    | none => exact ⟨rfl, rfl, rfl, rfl⟩
    | some event =>
        simp only [State.stopMonitoringAndSignal, State.invoke]
        split
        · exact ⟨rfl, rfl, rfl, rfl⟩
        · exact ⟨rfl, rfl, rfl, rfl⟩
  obtain ⟨sameLow, sameUp, sameTime, stopped⟩ := counters
  refine .ended ending stopped ?_ ?_ ?_
  · rw [sameLow, monitors.low]
    exact lowBounded
  · rw [sameUp, monitors.up]
    exact upBounded
  · rw [sameTime, monitors.time]

/-- A sample while the button is not stable yet. -/
theorem Phase.debounce
    (monitors : Monitors state .debouncing low up time)
    (lowBounded : low ≤ 3)
    (upBounded : up ≤ time)
    (window : time ≤ 101)
    (level : Bool)
    (run : pressedRun levels time = if level then low + 1 else 0)
    (unstable : ∀ earlier, earlier < time → pressedRun levels earlier ≤ 3) :
    Phase levels time (state.debouncing level) := by
  have counted :
      Monitors (state.countInRow level) .debouncing
        (pressedRun levels time) (if level then 0 else up + 1) time := by
    rw [run]
    cases level with
    | false =>
        exact ⟨monitors.handler, monitors.monitoring, rfl,
          toNat_increment monitors.up (by omega), monitors.time⟩
    | true =>
        exact ⟨monitors.handler, monitors.monitoring,
          toNat_increment monitors.low (by omega), rfl, monitors.time⟩
  have upNow : (if level then 0 else up + 1) ≤ time + 1 := by
    split
    · omega
    · omega
  unfold State.debouncing
  by_cases stable : 3 < pressedRun levels time
  · rw [if_pos ((exceeds_iff counted.low pressedThreshold_eq).mpr stable)]
    have pressedNow : level = true := by
      cases level with
      | false =>
          rw [run] at stable
          exact absurd stable (by simp)
      | true => rfl
    subst pressedNow
    have four : pressedRun levels time = 4 := by
      rw [if_pos rfl] at run
      omega
    have press : StablePress levels time := ⟨window, stable, unstable⟩
    refine .pressed time 0 press
      ⟨rfl, counted.monitoring, ?_, counted.up, counted.time⟩ rfl
      (Nat.zero_le _) (Nat.zero_le _)
    exact counted.low.trans four
  · rw [if_neg fun exceeds =>
      stable ((exceeds_iff counted.low pressedThreshold_eq).mp exceeds)]
    have unstableNow :
        ∀ earlier ≤ time, pressedRun levels earlier ≤ 3 := by
      intro earlier past
      rcases Nat.lt_or_eq_of_le past with before | now
      · exact unstable earlier before
      · rw [now]
        exact Nat.le_of_not_lt stable
    by_cases late : 100 < time
    · rw [if_pos ((exceeds_iff counted.time unstableThreshold_eq).mpr late)]
      have end_ : time = 101 := by omega
      exact .of_stopped (.unstable fun earlier past =>
        unstableNow earlier (by omega)) counted none (by omega) upNow
    · rw [if_neg fun exceeds =>
        late ((exceeds_iff counted.time unstableThreshold_eq).mp exceeds)]
      exact .debouncing _ counted (by omega) unstableNow upNow

/-- A sample while the button is down. -/
theorem Phase.press
    {stable count : Nat}
    (press : StablePress levels stable)
    (monitors :
      Monitors state .buttonPressed
        (4 + Button.pressed levels (stable + 1) count)
        (Button.released levels (stable + 1) count) time)
    (now : time = stable + 1 + count)
    (short : Button.pressed levels (stable + 1) count ≤ 996)
    (notReleased : Button.released levels (stable + 1) count ≤ 3) :
    Phase levels time (state.buttonPressed (levels time)) := by
  have total := pressed_add_released levels (stable + 1) count
  have window := press.window
  have counted :=
    monitors.countSample (by omega) (by omega) (levels time)
  rw [Nat.add_assoc, now, ← pressed_succ, ← released_succ, ← now] at counted
  unfold State.buttonPressed
  by_cases long : 996 < Button.pressed levels (stable + 1) (count + 1)
  · rw [if_pos ((exceeds_iff counted.low
      longPressedThreshold_eq).mpr (by omega))]
    have steps := pressed_succ levels (stable + 1) count
    have pressedNow : levels (stable + 1 + count) = true := by
      cases level : levels (stable + 1 + count) with
      | true => rfl
      | false =>
          rw [level, Bool.toNat_false] at steps
          omega
    have notReleasedNow :
        Button.released levels (stable + 1) (count + 1) =
          Button.released levels (stable + 1) count := by
      rw [released_succ, pressedNow]
      rfl
    have pressLong : LongPress levels stable count := by
      refine ⟨press, ?_, pressedNow, notReleased⟩
      rw [pressedNow, Bool.toNat_true] at steps
      omega
    have invoked :
        Monitors
          { (state.countSample (levels time)).invoke .longPress with
            monitoringStateHandler := .releaseLongPressed }
          .releaseLongPressed
          (4 + Button.pressed levels (stable + 1) (count + 1))
          (Button.released levels (stable + 1) (count + 1)) time := by
      unfold State.invoke
      split
      · exact ⟨rfl, counted.monitoring, counted.low, counted.up,
          counted.time⟩
      · exact ⟨rfl, counted.monitoring, counted.low, counted.up,
          counted.time⟩
    have totalNow := pressed_add_released levels (stable + 1) (count + 1)
    have notEarly := press.three_le
    exact .long stable count _ _ pressLong (by omega) invoked (by omega)
      (by omega) (by omega)
  · rw [if_neg fun exceeds => long (by
      have above := (exceeds_iff counted.low
        longPressedThreshold_eq).mp exceeds
      omega)]
    by_cases up : 3 < Button.released levels (stable + 1) (count + 1)
    · rw [if_pos ((exceeds_iff counted.up releaseThreshold_eq).mpr up)]
      have steps := released_succ levels (stable + 1) count
      have releasedNow : levels (stable + 1 + count) = false := by
        cases level : levels (stable + 1 + count) with
        | false => rfl
        | true =>
            rw [level, Bool.not_true, Bool.toNat_false] at steps
            omega
      rw [releasedNow, Bool.not_false, Bool.toNat_true] at steps
      exact .released stable count 0
        ⟨press, by omega, releasedNow, short⟩
        ⟨rfl, counted.monitoring, rfl, rfl, counted.time⟩ now
        (Nat.zero_le _)
    · rw [if_neg fun exceeds =>
        up ((exceeds_iff counted.up releaseThreshold_eq).mp exceeds)]
      exact .pressed stable (count + 1) press counted (by omega)
        (by omega) (by omega)

/-- A sample while the button is up again. -/
theorem Phase.release
    {stable count waited : Nat}
    (press : ShortPress levels stable count)
    (monitors :
      Monitors state .buttonReleased
        (Button.pressed levels (stable + 2 + count) waited)
        (Button.released levels (stable + 2 + count) waited) time)
    (room : time < 65535)
    (now : time = stable + 2 + count + waited)
    (waiting : Button.released levels (stable + 2 + count) waited ≤ 50) :
    Phase levels time (state.buttonReleased (levels time)) := by
  have total := pressed_add_released levels (stable + 2 + count) waited
  have counted :=
    monitors.countSample (by omega) (by omega) (levels time)
  rw [now, ← pressed_succ, ← released_succ, ← now] at counted
  have totalNow :=
    pressed_add_released levels (stable + 2 + count) (waited + 1)
  unfold State.buttonReleased
  by_cases done :
      50 < Button.released levels (stable + 2 + count) (waited + 1)
  · rw [if_pos ((exceeds_iff counted.up pressDoneThreshold_eq).mpr done)]
    have ending : Ended levels time :=
      .short stable count (waited + 1) press done (by omega)
    split
    · exact .of_stopped ending counted _ (by omega) (by omega)
    · exact .of_stopped ending counted _ (by omega) (by omega)
  · rw [if_neg fun exceeds =>
      done ((exceeds_iff counted.up pressDoneThreshold_eq).mp exceeds)]
    exact .released stable count (waited + 1) press counted (by omega)
      (by omega)

/-- A sample after a long press. -/
theorem Phase.releaseLong
    {stable count : Nat}
    (press : LongPress levels stable count)
    (since : stable ≤ time)
    (monitors : Monitors state .releaseLongPressed low up time)
    (notSticky : time ≤ 5001)
    (lowBounded : low ≤ time)
    (upBounded : up ≤ 3)
    (level : Bool) :
    Phase levels time (state.releaseLongPressed level) := by
  have counted := monitors.countSample (by omega) (by omega) level
  have notEarly := press.press.three_le
  have bit := level.toNat_le
  have notBit := (!level).toNat_le
  unfold State.releaseLongPressed
  dsimp only
  split
  · exact .of_stopped (.long stable count press) counted _ (by omega)
      (by omega)
  · next goesOn =>
      have quiet := not_or.mp goesOn
      have upNow : ¬ 3 < up + (!level).toNat := fun above =>
        quiet.1 ((exceeds_iff counted.up releaseThreshold_eq).mpr above)
      have timeNow : ¬ 5000 < time := fun above =>
        quiet.2 ((exceeds_iff counted.time stickyButtonThreshold_eq).mpr above)
      exact .long stable count _ _ press since counted (by omega)
        (by omega) (by omega)

/-- One tick of the timer. -/
theorem Phase.tick
    (phase : Phase levels time state)
    (room : time < 65534) :
    Phase levels (time + 1) (state.tick (levels (time + 1))) := by
  cases phase with
  | debouncing up monitors early unstable bounded =>
      obtain ⟨timed, later, ticked⟩ :=
        monitors.tick (by omega) (levels (time + 1))
      rw [ticked, State.handle, later.handler]
      exact .debounce later (unstable time (Nat.le_refl _)) bounded
        (by omega) _ rfl fun earlier before =>
          unstable earlier (Nat.le_of_lt_succ before)
  | pressed stable count press monitors now short notReleased =>
      obtain ⟨timed, later, ticked⟩ :=
        monitors.tick (by omega) (levels (time + 1))
      rw [ticked, State.handle, later.handler]
      exact .press press later (by omega) short notReleased
  | long stable count low up press since monitors notSticky lowBounded
      upBounded =>
      obtain ⟨timed, later, ticked⟩ :=
        monitors.tick (by omega) (levels (time + 1))
      rw [ticked, State.handle, later.handler]
      exact .releaseLong press (by omega) later (by omega) lowBounded
        upBounded _
  | released stable count waited press monitors now waiting =>
      obtain ⟨timed, later, ticked⟩ :=
        monitors.tick (by omega) (levels (time + 1))
      rw [ticked, State.handle, later.handler]
      exact .release press later (by omega) (by omega) waiting
  | ended ending stopped low up now =>
      rw [State.tick, if_neg (by rw [stopped]; nofun)]
      exact .ended (ending.mono (Nat.le_succ time)) stopped (by omega)
        (by omega) (by omega)

end Steps

section Sessions

variable {levels : Nat → Bool}
variable {time : Nat}
variable {state : State}

/-- The phases of a session. -/
theorem phase_session
    (state : State)
    (levels : Nat → Bool)
    (room : time ≤ 65534) :
    Phase levels time (state.session levels time) := by
  induction time with
  | zero =>
      have run : pressedRun levels 0 = if levels 0 then 0 + 1 else 0 := by
        rw [pressedRun]
        cases levels 0 with
        | false => rfl
        | true => rfl
      have fresh : Monitors state.startMonitoring .debouncing 0 0 0 :=
        ⟨rfl, rfl, rfl, rfl, rfl⟩
      exact .debounce fresh (Nat.zero_le _) (Nat.le_refl _)
        (Nat.zero_le _) _ run
        fun _ impossible => absurd impossible (Nat.not_lt_zero _)
  | succ time inductionHypothesis =>
      exact (inductionHypothesis (by omega)).tick (by omega)

/-- The counters of a phase have room for another sample. -/
theorem Phase.room
    (phase : Phase levels time state)
    (early : time < 65534) :
    state.buttonLowInRow.toNat < 65535 ∧
      state.buttonUpInRow.toNat < 65535 ∧
      state.monitoringTime.toNat < 65535 := by
  cases phase with
  | debouncing up monitors early unstable bounded =>
      have low := unstable time (Nat.le_refl _)
      rw [monitors.low, monitors.up, monitors.time]
      omega
  | pressed stable count press monitors now short notReleased =>
      rw [monitors.low, monitors.up, monitors.time]
      omega
  | long stable count low up press since monitors notSticky lowBounded
      upBounded =>
      rw [monitors.low, monitors.up, monitors.time]
      omega
  | released stable count waited press monitors now waiting =>
      have total :=
        pressed_add_released levels (stable + 2 + count) waited
      rw [monitors.low, monitors.up, monitors.time]
      omega
  | ended ending stopped low up now => omega

/-- A stopped session stays as it is. -/
theorem session_stopped
    (stopped : (state.session levels time).monitoring = false)
    (more : Nat) :
    state.session levels (time + more) = state.session levels time := by
  induction more with
  | zero => rfl
  | succ more inductionHypothesis =>
      rw [← Nat.add_assoc, State.session, inductionHypothesis, State.tick,
        if_neg (by rw [stopped]; nofun)]

/-- Events so far: none before a long press or the end, and one at most. -/
structure Signals (before : Nat) (state : State) : Prop where
  most : state.invoked.length ≤ before + 1
  none :
    state.monitoring = true →
    state.monitoringStateHandler ≠ .releaseLongPressed →
    state.invoked.length = before

theorem length_invoke (state : State) (event : Event) :
    (state.invoke event).invoked.length ≤ state.invoked.length + 1 := by
  unfold State.invoke
  split
  · simp
  · exact Nat.le_succ _

/-- Without a new event both parts of the account hold. -/
theorem Signals.of_count
    {before : Nat}
    (count : state.invoked.length = before) :
    Signals before state where
  most := Nat.le_succ_of_le (Nat.le_of_eq count)
  none := fun _ _ => count

/-- The end of a session signals one event at most. -/
theorem Signals.of_stopped
    {before : Nat}
    (count : state.invoked.length = before)
    (event : Option Event) :
    Signals before (state.stopMonitoringAndSignal event) := by
  cases event with
  | none => exact .of_count count
  | some event =>
      refine ⟨?_, fun running => ?_⟩
      · rw [← count]
        exact length_invoke _ event
      · simp only [State.stopMonitoringAndSignal, State.invoke] at running
        split at running
        · cases running
        · cases running

theorem invoked_countSample (state : State) (level : Bool) :
    (state.countSample level).invoked = state.invoked := by
  cases level with
  | false => rfl
  | true => rfl

theorem invoked_countInRow (state : State) (level : Bool) :
    (state.countInRow level).invoked = state.invoked := by
  cases level with
  | false => rfl
  | true => rfl

/-- One sample keeps the account of the events. -/
theorem Signals.handle
    {before : Nat}
    (signals : Signals before state)
    (running : state.monitoring = true)
    (level : Bool) :
    Signals before (state.handle level) := by
  unfold State.handle
  cases handler : state.monitoringStateHandler with
  | debouncing =>
      have count := signals.none running (by rw [handler]; nofun)
      rw [← invoked_countInRow state level] at count
      simp only [State.debouncing]
      split
      · exact .of_count count
      split
      · exact .of_stopped count Option.none
      · exact .of_count count
  | buttonPressed =>
      have count := signals.none running (by rw [handler]; nofun)
      rw [← invoked_countSample state level] at count
      simp only [State.buttonPressed]
      split
      · refine ⟨?_, fun _ other => absurd rfl other⟩
        rw [← count]
        exact length_invoke _ .longPress
      split
      · exact .of_count count
      · exact .of_count count
  | buttonReleased =>
      have count := signals.none running (by rw [handler]; nofun)
      rw [← invoked_countSample state level] at count
      simp only [State.buttonReleased]
      split
      · split
        · exact .of_stopped count _
        · exact .of_stopped count _
      · exact .of_count count
  | releaseLongPressed =>
      have most := signals.most
      rw [← invoked_countSample state level] at most
      have long :
          (state.countSample level).monitoringStateHandler =
            .releaseLongPressed := by
        cases level with
        | false => exact handler
        | true => exact handler
      simp only [State.releaseLongPressed]
      split
      · exact ⟨most, nofun⟩
      · exact ⟨most, fun _ other => absurd long other⟩

/-- A session invokes one event handler at most. -/
theorem signals_session
    (state : State)
    (levels : Nat → Bool)
    (time : Nat) :
    Signals state.invoked.length (state.session levels time) := by
  induction time with
  | zero =>
      have fresh :
          Signals state.invoked.length state.startMonitoring :=
        ⟨Nat.le_succ _, fun _ _ => rfl⟩
      exact fresh.handle rfl _
  | succ time inductionHypothesis =>
      rw [State.session, State.tick]
      split
      · next running =>
          have counted :
              Signals state.invoked.length
                (state.session levels time).countTime :=
            ⟨inductionHypothesis.most, inductionHypothesis.none⟩
          exact counted.handle running _
      · exact inductionHypothesis

/-- A button is pressed stably for the first time once. -/
theorem StablePress.unique
    {first second : Nat}
    (press : StablePress levels first)
    (other : StablePress levels second) :
    first = second := by
  rcases Nat.lt_trichotomy first second with before | same | after
  · have below := other.first first before
    have above := press.stable
    omega
  · exact same
  · have below := press.first second after
    have above := other.stable
    omega

/-- The fourth released sample. -/
theorem ShortPress.fourth
    {stable count : Nat}
    (press : ShortPress levels stable count) :
    released levels (stable + 1) (count + 1) = 4 := by
  rw [released_succ, press.releasedBefore, press.releasedNow]
  rfl

/-- A press is short in one way. -/
theorem ShortPress.unique
    {stable count other : Nat}
    (press : ShortPress levels stable count)
    (otherPress : ShortPress levels stable other) :
    count = other := by
  have fourth := press.fourth
  have otherFourth := otherPress.fourth
  have third := press.releasedBefore
  have otherThird := otherPress.releasedBefore
  rcases Nat.lt_trichotomy count other with before | same | after
  · have mono := released_mono levels (stable + 1)
      (show count + 1 ≤ other from before)
    omega
  · exact same
  · have mono := released_mono levels (stable + 1)
      (show other + 1 ≤ count from after)
    omega

/-- A short press is not long. -/
theorem ShortPress.not_long
    {stable count other : Nat}
    (press : ShortPress levels stable count)
    (long : LongPress levels stable other) :
    False := by
  rcases Nat.lt_trichotomy count other with before | same | after
  · have mono := released_mono levels (stable + 1)
      (show count + 1 ≤ other from before)
    have fourth := press.fourth
    have few := long.notReleased
    omega
  · have level := long.pressedNow
    rw [← same, press.releasedNow] at level
    cases level
  · have mono := pressed_mono levels (stable + 1)
      (show other + 1 ≤ count from after)
    have steps := pressed_succ levels (stable + 1) other
    rw [long.pressedBefore, long.pressedNow, Bool.toNat_true] at steps
    have short := press.short
    omega

end Sessions

/--
`STICKY_BUTTON_THRESHOLD_TM` and the windows of the other states: debouncing,
release and double click.
-/
def sessionBound : Nat := 5000 + 100 + 3 + 50

/-- A session ends in time, with one event at most and without overflow. -/
structure SessionEnds (state : State) (levels : Nat → Bool) : Prop where
  ends : (state.session levels sessionBound).monitoring = false
  oneEvent :
    ∀ time,
      (state.session levels time).invoked.length ≤
        state.invoked.length + 1
  noOverflow :
    ∀ time,
      (state.session levels time).buttonLowInRow.toNat < 65535 ∧
        (state.session levels time).buttonUpInRow.toNat < 65535 ∧
        (state.session levels time).monitoringTime.toNat < 65535

/--
After a short press the button is up often enough: more than 50 of the samples
up to the bound are released.
-/
def ReleasedInTime (levels : Nat → Bool) : Prop :=
  ∀ stable count,
    ShortPress levels stable count →
    50 < released levels (stable + 2 + count)
      (sessionBound - (stable + 1 + count))

/-- A session ends in time exactly when a short press is released in time. -/
theorem sessionEnds_iff (state : State) (levels : Nat → Bool) :
    SessionEnds state levels ↔ ReleasedInTime levels := by
  have phase :=
    phase_session state levels (show sessionBound ≤ 65534 by decide)
  constructor
  · intro sessionEnds stable count press
    have ends := sessionEnds.ends
    cases phase with
    | debouncing up monitors early unstable bounded =>
        exact absurd early (by decide)
    | pressed other taken before monitors now short notReleased =>
        rw [monitors.monitoring] at ends
        cases ends
    | long other taken low up before since monitors notSticky lowBounded
        upBounded =>
        exact absurd notSticky (by decide)
    | released other taken waited before monitors now waiting =>
        rw [monitors.monitoring] at ends
        cases ends
    | ended ending stopped low up now =>
        cases ending with
        | unstable never =>
            have below := never stable press.press.window
            have above := press.press.stable
            omega
        | long other taken long =>
            obtain rfl := press.press.unique long.press
            exact (press.not_long long).elim
        | short other taken waited before done past =>
            obtain rfl := press.press.unique before.press
            obtain rfl := press.unique before
            exact Nat.lt_of_lt_of_le done
              (released_mono levels _ (by omega))
  · intro releasedInTime
    have ends : (state.session levels sessionBound).monitoring = false := by
      cases phase with
      | debouncing up monitors early unstable bounded =>
          exact absurd early (by decide)
      | pressed stable count press monitors now short notReleased =>
          have total := pressed_add_released levels (stable + 1) count
          have window := press.window
          simp only [sessionBound] at now
          omega
      | long stable count low up press since monitors notSticky lowBounded
          upBounded =>
          exact absurd notSticky (by decide)
      | released stable count waited press monitors now waiting =>
          have done := releasedInTime stable count press
          rw [show sessionBound - (stable + 1 + count) = waited by omega]
            at done
          omega
      | ended ending stopped low up now => exact stopped
    refine ⟨ends, fun time => (signals_session state levels time).most,
      fun time => ?_⟩
    rcases Nat.le_total time sessionBound with within | beyond
    · have small : sessionBound < 65534 := by decide
      exact (phase_session state levels (by omega)).room (by omega)
    · obtain ⟨more, rfl⟩ := Nat.exists_eq_add_of_le beyond
      rw [session_stopped ends]
      exact phase.room (by decide)

/-- The button service after `Button_Init` with three handlers. -/
def initialized : State where
  buttonLowInRow := 0
  buttonUpInRow := 0
  monitoringTime := 0
  monitoringStateHandler := .debouncing
  registered := fun _ => true
  monitoring := false
  invoked := []

/-- Four pressed samples, four released ones, and then the button is held. -/
def heldAgain (time : Nat) : Bool := time < 4 ∨ 8 ≤ time

/-- While the button is held after a release, nothing changes the state. -/
theorem held_released (more : Nat) :
    (initialized.session heldAgain (7 + more)).monitoring = true ∧
      (initialized.session heldAgain (7 + more)).monitoringStateHandler =
        .buttonReleased ∧
      (initialized.session heldAgain (7 + more)).buttonUpInRow = 0 := by
  induction more with
  | zero => decide
  | succ more inductionHypothesis =>
      obtain ⟨running, handler, up⟩ := inductionHypothesis
      have held : heldAgain (7 + more + 1) = true := by
        simp only [heldAgain, decide_eq_true_eq]
        omega
      rw [← Nat.add_assoc, State.session, State.tick, if_pos running, held]
      generalize initialized.session heldAgain (7 + more) = state at *
      have waits :
          state.handleButtonActive true = state.countTime.countSample true := by
        have notDone :
            ¬ (state.countTime.countSample true).buttonUpInRow >
              pressDoneThreshold := by
          change ¬ state.buttonUpInRow > pressDoneThreshold
          rw [up]
          decide
        have current :
            state.countTime.monitoringStateHandler = .buttonReleased :=
          handler
        rw [State.handleButtonActive, State.handle, current]
        exact if_neg notDone
      rw [waits]
      exact ⟨running, handler, up⟩

/-- A button that is held after a short press keeps its session forever. -/
theorem held_forever :
    (∀ time, (initialized.session heldAgain time).monitoring = true) ∧
      ¬ SessionEnds initialized heldAgain := by
  have forever :
      ∀ time, (initialized.session heldAgain time).monitoring = true := by
    intro time
    rcases Nat.lt_or_ge time 7 with early | late
    · have first :
          ∀ time < 7,
            (initialized.session heldAgain time).monitoring = true := by
        decide
      exact first time early
    · obtain ⟨more, rfl⟩ := Nat.exists_eq_add_of_le late
      exact (held_released more).1
  refine ⟨forever, fun sessionEnds => ?_⟩
  have ends := sessionEnds.ends
  rw [forever] at ends
  cases ends

end DemoBoard.Button
