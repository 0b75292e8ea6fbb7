import DemoBoard.SampleMetadata

namespace DemoBoard.LoggingDrift

open MeasurementItemController SampleMetadata

/-!
# When samples are recorded

The countdown of the controller is reloaded with the interval when it ends: the
part of a time step that goes beyond its end is forgotten.  Ticks are numbered
from 1 on.
-/

/-- The seconds that have elapsed with some ticks. -/
def elapsedAfter (steps : List Nat) (ticks : Nat) : Nat :=
  (steps.take ticks).sum

/-- The first tick with at least a given time elapsed. -/
structure FirstAt (steps : List Nat) (time : Int) (tick : Nat) : Prop where
  positive : 0 < tick
  inside : tick ≤ steps.length
  reached : time ≤ elapsedAfter steps tick
  before :
    ∀ earlier, 0 < earlier → earlier < tick →
      (elapsedAfter steps earlier : Int) < time

/-- The ticks at which a reloaded countdown ends. -/
def countdownEnds (interval : Int) : Int → List Nat → List Nat
  | _, [] => []
  | remaining, step :: steps =>
      if remaining - step ≤ 0 then
        1 :: (countdownEnds interval interval steps).map (· + 1)
      else
        (countdownEnds interval (remaining - step) steps).map (· + 1)

section Countdown

variable {interval remaining : Int} {steps : List Nat}

theorem elapsedAfter_succ
    (step : Nat)
    (steps : List Nat)
    (ticks : Nat) :
    elapsedAfter (step :: steps) (ticks + 1) =
      step + elapsedAfter steps ticks := by
  rw [elapsedAfter, List.take_succ_cons, List.sum_cons, elapsedAfter]

/-- The first tick ends the wait, or the rest of the ticks does. -/
theorem firstAt_cons_iff
    (step : Nat)
    (steps : List Nat)
    (time : Int)
    (tick : Nat) :
    FirstAt (step :: steps) time (tick + 1) ↔
      (time ≤ step ∧ tick = 0) ∨
        (step < time ∧ FirstAt steps (time - step) tick) := by
  constructor
  · rintro ⟨_, inside, reached, before⟩
    rw [elapsedAfter_succ] at reached
    cases tick with
    | zero =>
        refine Or.inl ⟨?_, rfl⟩
        simpa [elapsedAfter] using reached
    | succ tick =>
        have first := before 1 Nat.one_pos (by omega)
        rw [elapsedAfter_succ] at first
        have passed : (step : Int) < time := by
          simpa [elapsedAfter] using first
        refine Or.inr ⟨passed, Nat.succ_pos tick, by
          rw [List.length_cons] at inside; omega, by omega, ?_⟩
        intro earlier _ earlier_lt
        have later := before (earlier + 1) (Nat.succ_pos _) (by omega)
        rw [elapsedAfter_succ] at later
        omega
  · rintro (⟨reached, rfl⟩ | ⟨passed, positive, inside, reached, before⟩)
    · refine ⟨Nat.one_pos, by simp, ?_, by omega⟩
      rw [elapsedAfter_succ]
      omega
    · refine ⟨Nat.succ_pos tick, by rw [List.length_cons]; omega, ?_, ?_⟩
      · rw [elapsedAfter_succ]
        omega
      · intro earlier earlier_pos earlier_lt
        obtain ⟨earlier, rfl⟩ :=
          Nat.exists_eq_succ_of_ne_zero (Nat.ne_of_gt earlier_pos)
        rw [Nat.succ_eq_add_one, elapsedAfter_succ]
        by_cases start : earlier = 0
        · subst start
          simpa [elapsedAfter] using passed
        · have rest := before earlier (Nat.pos_of_ne_zero start) (by omega)
          omega

/-- No tick is the first of no ticks. -/
theorem not_firstAt_nil (time : Int) (tick : Nat) : ¬ FirstAt [] time tick :=
  fun first => by
    have positive := first.positive
    have inside := first.inside
    simp at inside
    omega

/-- Reaching a time gives the first tick that reaches it. -/
theorem exists_firstAt
    {time : Int}
    {tick : Nat}
    (positive : 0 < tick)
    (inside : tick ≤ steps.length)
    (reached : time ≤ elapsedAfter steps tick) :
    ∃ first ≤ tick, FirstAt steps time first := by
  induction tick using Nat.strong_induction_on with
  | _ tick inductionHypothesis =>
      by_cases earliest :
          ∃ earlier, 0 < earlier ∧ earlier < tick ∧
            time ≤ elapsedAfter steps earlier
      · obtain ⟨earlier, earlier_pos, earlier_lt, time_le⟩ := earliest
        obtain ⟨first, first_le, firstAt⟩ :=
          inductionHypothesis earlier earlier_lt earlier_pos (by omega)
            time_le
        exact ⟨first, by omega, firstAt⟩
      · refine ⟨tick, Nat.le_refl tick, positive, inside, reached, ?_⟩
        intro earlier earlier_pos earlier_lt
        by_contra late
        exact earliest ⟨earlier, earlier_pos, earlier_lt, by omega⟩

/-- What ends after the first tick ends one tick later with it. -/
theorem map_succ_iff
    {ends : List Nat}
    {index step : Nat}
    {time : Int}
    (passed : step < time)
    (later :
      ∀ tick, ends[index]? = some tick ↔
        FirstAt steps (time - step) tick)
    (tick : Nat) :
    (ends.map (· + 1))[index]? = some tick ↔
      FirstAt (step :: steps) time tick := by
  rw [List.getElem?_map, Option.map_eq_some_iff]
  cases tick with
  | zero =>
      constructor
      · rintro ⟨_, _, impossible⟩
        omega
      · intro first
        exact absurd first.positive (Nat.lt_irrefl 0)
  | succ tick =>
      rw [firstAt_cons_iff]
      constructor
      · rintro ⟨rest, ends_eq, same⟩
        have tick_eq : rest = tick := by omega
        subst tick_eq
        exact Or.inr ⟨passed, (later rest).mp ends_eq⟩
      · rintro (⟨early, _⟩ | ⟨_, first⟩)
        · omega
        · exact ⟨tick, (later tick).mpr first, rfl⟩

/-- The countdown first ends when its rest has elapsed. -/
theorem countdownEnds_zero_iff
    (tick : Nat) :
    (countdownEnds interval remaining steps)[0]? = some tick ↔
      FirstAt steps remaining tick := by
  induction steps generalizing remaining tick with
  | nil =>
      simp only [countdownEnds, List.getElem?_nil, reduceCtorEq, false_iff]
      exact not_firstAt_nil remaining tick
  | cons step steps inductionHypothesis =>
      rw [countdownEnds]
      split
      · rename_i ends
        rw [List.getElem?_cons_zero, Option.some.injEq]
        cases tick with
        | zero =>
            have never : ¬ FirstAt (step :: steps) remaining 0 :=
              fun first => Nat.lt_irrefl 0 first.positive
            simp [never]
        | succ tick =>
            rw [firstAt_cons_iff]
            omega
      · rename_i continues
        exact map_succ_iff (by omega)
          (fun rest => inductionHypothesis rest) tick

/-- After it has ended the countdown ends when the interval has elapsed. -/
theorem countdownEnds_succ_iff
    (interval_pos : 0 < interval)
    {index tick : Nat}
    (ended : (countdownEnds interval remaining steps)[index]? = some tick)
    (next : Nat) :
    (countdownEnds interval remaining steps)[index + 1]? = some next ↔
      FirstAt steps (elapsedAfter steps tick + interval) next := by
  induction steps generalizing remaining index tick next with
  | nil =>
      rw [countdownEnds, List.getElem?_nil] at ended
      cases ended
  | cons step steps inductionHypothesis =>
      have shifted :
          ∀ {rest : Int} {position before : Nat},
            (countdownEnds interval rest steps)[position]? = some before →
              (((countdownEnds interval rest steps).map
                (· + 1))[position + 1]? = some next ↔
                  FirstAt (step :: steps)
                    (elapsedAfter (step :: steps) (before + 1) + interval)
                    next) := by
        intro rest position before found
        have time_eq :
            ((elapsedAfter (step :: steps) (before + 1) : Int) + interval -
                step) =
              elapsedAfter steps before + interval := by
          rw [elapsedAfter_succ]
          omega
        refine map_succ_iff (by rw [elapsedAfter_succ]; omega) ?_ next
        intro tick
        rw [time_eq]
        exact inductionHypothesis found tick
      rw [countdownEnds] at ended ⊢
      split at ended
      · rename_i ends
        rw [if_pos ends, List.getElem?_cons_succ]
        cases index with
        | zero =>
            rw [List.getElem?_cons_zero, Option.some.injEq] at ended
            subst ended
            have time_eq :
                ((elapsedAfter (step :: steps) 1 : Int) + interval -
                    step) =
                  interval := by
              rw [elapsedAfter_succ]
              simp [elapsedAfter]
            refine map_succ_iff (by omega) ?_ next
            intro tick
            rw [time_eq]
            exact countdownEnds_zero_iff tick
        | succ index =>
            rw [List.getElem?_cons_succ, List.getElem?_map,
              Option.map_eq_some_iff] at ended
            obtain ⟨before, found, rfl⟩ := ended
            exact shifted found
      · rename_i continues
        rw [if_neg continues]
        rw [List.getElem?_map, Option.map_eq_some_iff] at ended
        obtain ⟨before, found, rfl⟩ := ended
        exact shifted found

/-- The ticks of which the countdown is right. -/
structure Punctual
    (interval remaining : Int) (steps : List Nat) : Prop where
  /-- No tick lies between the rest of the countdown and the interval. -/
  first :
    ∀ tick, FirstAt steps remaining tick ↔ FirstAt steps interval tick
  /-- No tick goes less beyond its multiple than the one before. -/
  later :
    ∀ count tick next : Nat,
      FirstAt steps ((count + 1) * interval) tick →
        FirstAt steps ((count + 2) * interval) next →
          elapsedAfter steps tick - (count + 1) * interval ≤
            elapsedAfter steps next - (count + 2) * interval

/-- The countdown ends with the multiples of the interval. -/
def OnSchedule
    (interval : Int) (steps : List Nat) (ends : List Nat) : Prop :=
  ∀ count tick : Nat,
    ends[count]? = some tick ↔ FirstAt steps ((count + 1) * interval) tick

/-- A multiple of the interval and one more interval. -/
theorem mul_succ_interval (count : Nat) (interval : Int) :
    ((count : Int) + 2) * interval = (count + 1) * interval + interval := by
  ring

/-- A countdown on schedule has punctual ticks. -/
theorem punctual_of_onSchedule
    (interval_pos : 0 < interval)
    (scheduled :
      OnSchedule interval steps (countdownEnds interval remaining steps)) :
    Punctual interval remaining steps := by
  constructor
  · intro tick
    rw [← @countdownEnds_zero_iff interval remaining steps tick]
    have first := scheduled 0 tick
    rw [Int.natCast_zero, Int.zero_add, Int.one_mul] at first
    exact first
  · intro count tick next reached reachedNext
    have ended := (scheduled count tick).mpr reached
    have endedNext := (scheduled (count + 1) next).mpr (by
      rw [Int.natCast_add, Int.natCast_one, Int.add_assoc]
      exact reachedNext)
    have after :=
      (countdownEnds_succ_iff interval_pos ended next).mp endedNext
    have elapsed := after.reached
    rw [mul_succ_interval]
    omega

/-- A first tick is the only one. -/
theorem FirstAt.unique
    {time : Int}
    {tick other : Nat}
    (first : FirstAt steps time tick)
    (second : FirstAt steps time other) :
    tick = other := by
  rcases Nat.lt_trichotomy tick other with earlier | same | later
  · have early := second.before tick first.positive earlier
    have reached := first.reached
    omega
  · exact same
  · have early := first.before other second.positive later
    have reached := second.reached
    omega

/-- Punctual ticks keep the countdown on schedule. -/
theorem onSchedule_of_punctual
    (interval_pos : 0 < interval)
    (punctual : Punctual interval remaining steps) :
    OnSchedule interval steps (countdownEnds interval remaining steps) := by
  intro count
  induction count with
  | zero =>
      intro tick
      rw [Int.natCast_zero, Int.zero_add, Int.one_mul,
        countdownEnds_zero_iff]
      exact punctual.first tick
  | succ count inductionHypothesis =>
      intro tick
      -- one interval after the tick before, or at the next multiple
      have same :
          ∀ {previous},
            FirstAt steps ((count + 1) * interval) previous →
              (FirstAt steps (elapsedAfter steps previous + interval) tick ↔
                FirstAt steps ((count + 2) * interval) tick) := by
        intro previous reached
        have late := reached.reached
        rw [mul_succ_interval]
        constructor
        · intro after
          have elapsed := after.reached
          obtain ⟨first, first_le, firstAt⟩ :=
            exists_firstAt after.positive after.inside
              (show (count + 1) * interval + interval ≤
                elapsedAfter steps tick by omega)
          have overshoot := punctual.later count previous first reached
            (by rw [mul_succ_interval]; exact firstAt)
          rw [mul_succ_interval] at overshoot
          rcases Nat.lt_or_eq_of_le first_le with earlier | equal
          · have early := after.before first firstAt.positive earlier
            omega
          · rw [← equal]
            exact firstAt
        · intro next
          have overshoot := punctual.later count previous tick reached
            (by rw [mul_succ_interval]; exact next)
          rw [mul_succ_interval] at overshoot
          refine ⟨next.positive, next.inside, by omega, ?_⟩
          intro earlier earlier_pos earlier_lt
          have early := next.before earlier earlier_pos earlier_lt
          omega
      rw [show (((count + 1 : Nat) : Int) + 1) = (count : Int) + 2 by omega]
      constructor
      · intro ended
        have inside :=
          (List.getElem?_eq_some_iff.mp ended).choose
        have found :
            (countdownEnds interval remaining steps)[count]? =
              some (countdownEnds interval remaining steps)[count] :=
          List.getElem?_eq_getElem (by omega)
        exact (same ((inductionHypothesis _).mp found)).mp
          ((countdownEnds_succ_iff interval_pos found tick).mp ended)
      · intro next
        have reached := next.reached
        rw [mul_succ_interval] at reached
        obtain ⟨previous, _, firstAt⟩ :=
          exists_firstAt next.positive next.inside
            (show (count + 1) * interval ≤ elapsedAfter steps tick by omega)
        have found := (inductionHypothesis previous).mpr firstAt
        exact (countdownEnds_succ_iff interval_pos found tick).mpr
          ((same firstAt).mpr next)

/-- Ticks of one second are punctual after a full interval. -/
theorem punctual_seconds
    (interval_pos : 0 < interval)
    (seconds : Nat) :
    Punctual interval interval (List.replicate seconds 1) := by
  have exact :
      ∀ {time tick}, 0 < time →
        FirstAt (List.replicate seconds 1) time tick →
          (elapsedAfter (List.replicate seconds 1) tick : Int) = time := by
    intro time tick time_pos first
    obtain ⟨positive, inside, reached, before⟩ := first
    have elapsed :
        ∀ ticks ≤ seconds,
          elapsedAfter (List.replicate seconds 1) ticks = ticks := by
      intro ticks ticks_le
      rw [elapsedAfter, List.take_replicate, List.sum_replicate_nat,
        Nat.min_eq_left ticks_le, Nat.mul_one]
    rw [List.length_replicate] at inside
    rw [elapsed tick inside] at reached ⊢
    by_cases start : tick = 1
    · omega
    · have early := before (tick - 1) (by omega) (by omega)
      rw [elapsed (tick - 1) (by omega)] at early
      omega
  refine ⟨fun _ => Iff.rfl, ?_⟩
  intro count tick next first firstNext
  rw [exact (by positivity) first, exact (by positivity) firstNext]
  omega

end Countdown

/-- `MESSAGE_ID_TIME_INFO_TIME_ELAPSED` and the averages it meets. -/
structure TimeElapsed where
  elapsed : Nat
  averages : SampleTicks

/-- The ticks at which the controller records a sample. -/
def recordedAt (controller : MeasurementItemController) :
    List TimeElapsed → List Nat
  | [] => []
  | message :: messages =>
      let next :=
        (evalTimeEvent controller message.elapsed message.averages
          controller.isAddItemPossible).1
      let later := (recordedAt next messages).map (· + 1)
      -- each sample is recorded at the other index
      if next.currentSampleIndex = controller.currentSampleIndex then
        later
      else
        1 :: later

/-- Samples are recorded where the countdown ends. -/
theorem recordedAt_eq
    (controller : MeasurementItemController)
    (messages : List TimeElapsed) :
    recordedAt controller messages =
      countdownEnds controller.loggingIntervalS controller.remainingTimeS
        (messages.map (·.elapsed)) := by
  induction messages generalizing controller with
  | nil => rfl
  | cons message messages inductionHypothesis =>
      obtain ⟨interval, remaining, index, _⟩ :=
        evalTimeEvent_frame controller message.elapsed message.averages
          controller.isAddItemPossible
      rw [recordedAt, List.map_cons, countdownEnds, inductionHypothesis,
        interval, remaining, index]
      by_cases ends : controller.remainingTimeS - message.elapsed ≤ 0
      · rw [if_pos ends, if_pos ends, if_pos ends, if_neg (by omega)]
      · rw [if_neg ends, if_neg ends, if_neg ends, if_pos rfl]

/--
The samples after a change of the interval are recorded when a multiple of the
interval has elapsed, if and only if the ticks are punctual.
-/
theorem logging_on_schedule_iff
    {store : ItemStoreState}
    {controller : MeasurementItemController}
    {parameter : UInt32}
    {outcome : ItemStoreState × MeasurementItemController × List Published}
    (set : setLoggingInterval store controller parameter = .ok outcome)
    (messages : List TimeElapsed) :
    OnSchedule (requestedIntervalS parameter) (messages.map (·.elapsed))
        (recordedAt outcome.2.1 messages) ↔
      Punctual (requestedIntervalS parameter) controller.remainingTimeS
        (messages.map (·.elapsed)) := by
  obtain ⟨interval, remaining, _⟩ := setLoggingInterval_frame set
  have bounds := requestedIntervalS_bounds parameter
  rw [recordedAt_eq, interval, remaining]
  exact ⟨punctual_of_onSchedule (by omega),
    onSchedule_of_punctual (by omega)⟩

/-- A controller whose countdown has ten seconds left. -/
def tenLeft : MeasurementItemController :=
  { MeasurementItemController.static with remainingTimeS := 10 }

/-- Ticks of one second after a change from a minute to ten seconds. -/
theorem logging_on_schedule_changed :
    ∃ outcome,
      setLoggingInterval (ItemStore.powerOn fun _ => 0xFF) tenLeft 10000 =
          .ok outcome ∧
        tenLeft.loggingIntervalS = 60 ∧
        outcome.2.1.loggingIntervalS = 10 ∧
        OnSchedule 10 (List.replicate 600 1)
          (recordedAt outcome.2.1
            (List.replicate 600 { elapsed := 1, averages := zeroTicks })) := by
  refine ⟨_, rfl, rfl, rfl, ?_⟩
  have scheduled :=
    (logging_on_schedule_iff
      (show setLoggingInterval (ItemStore.powerOn fun _ => 0xFF) tenLeft
        10000 = .ok _ from rfl)
      (List.replicate 600 { elapsed := 1, averages := zeroTicks })).mpr (by
        rw [List.map_replicate]
        exact punctual_seconds (by decide) 600)
  rw [List.map_replicate] at scheduled
  exact scheduled

/-- Steps of changing size, the third one to the eleventh second. -/
def unevenMessages : List TimeElapsed :=
  [1, 5, 5, 1, 1, 1, 1, 5].map fun elapsed =>
    { elapsed := elapsed, averages := zeroTicks }

/--
With an interval of ten seconds the step to the eleventh second delays the
second sample: it is not recorded after twenty seconds.
-/
theorem logging_drifts :
    ∃ outcome,
      setLoggingInterval (ItemStore.powerOn fun _ => 0xFF) tenLeft 10000 =
          .ok outcome ∧
        ¬ OnSchedule 10 (unevenMessages.map (·.elapsed))
          (recordedAt outcome.2.1 unevenMessages) := by
  refine ⟨_, rfl, ?_⟩
  intro scheduled
  have due :
      FirstAt (unevenMessages.map (·.elapsed)) (((1 : Nat) + 1) * 10) 8 := by
    refine ⟨by decide, by decide, by decide, ?_⟩
    intro earlier earlier_pos earlier_lt
    interval_cases earlier <;> decide
  have recorded := (scheduled 1 8).mpr due
  revert recorded
  decide

end DemoBoard.LoggingDrift
