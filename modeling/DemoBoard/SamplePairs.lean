import DemoBoard.ItemStoreErase
import DemoBoard.MeasurementItemController
import DemoBoard.TransitionRuns

namespace DemoBoard.SamplePairs

open ItemStore TransitionRuns
open MeasurementItemController hiding static erase eraseDone

/-!
# Samples on their way to the item store

Two samples make an item.  `ItemStore_AddItem` publishes the address of the
samples of the controller: the item store reads them when it handles the
message, whatever they are by then.  It ignores the message while it erases
pages or while the samples are enumerated.
-/

/-- What decides whether the item store executes an add of samples. -/
@[ext] structure Listener where
  listenerState : ListenerState
  /-- `_eraseReminder` holds an erase. -/
  reminder : Bool
  /-- `currentState` of the store of the samples. -/
  currentState : StoreState
  deriving DecidableEq

namespace Listener

/-- The listener of an item store. -/
def ofStore (store : ItemStoreState) : Listener where
  listenerState := store.listenerState
  reminder := hasReminder store.eraseReminder
  currentState := (store.itemStore .measurementSample).currentState

/-- `IdleState` of the samples gets the message. -/
def executes (listener : Listener) : Bool :=
  listener.listenerState = .idle ∧ listener.currentState = .idle

/-- `ITEM_STORE_MESSAGE_ERASE` -/
def erase (listener : Listener) : Listener :=
  match listener.listenerState with
  | .idle => { listener with listenerState := .erasing }
  | .erasing => { listener with reminder := true }

/-- `ITEM_STORE_MESSAGE_ERASE_DONE` -/
def eraseDone (listener : Listener) : Listener :=
  match listener.listenerState with
  | .idle => listener
  | .erasing =>
      if listener.reminder then
        { listener with reminder := false }
      else
        { listener with listenerState := .idle }

/-- An add that is executed, and the erase that a full ring needs. -/
def addItem (listener : Listener) (eraseOldest : Bool) : Listener :=
  if eraseOldest then
    { listener with listenerState := .erasing }
  else
    listener

section Store

variable {store : ItemStoreState}
variable {dones : Nat}
variable {handled : Handled}

/-- The item store handles the message of a delete like its listener. -/
theorem ofStore_erase
    {item : ItemDef}
    (dispatched : Dispatched store (.erase (eraseOf item)) handled) :
    ofStore handled.state = (ofStore store).erase := by
  generalize request_eq : Request.erase (eraseOf item) = request
    at dispatched
  cases dispatched with
  | deleteStarted _ rest =>
      simp only [ofStore, erase, rest.listenerIdle]
      rfl
  | reminded _ erasing =>
      simp only [ofStore, erase, erasing, hasReminder_eraseOf]
  | ignored _ addOrEnumerate =>
      rw [← request_eq] at addOrEnumerate
      rcases addOrEnumerate with ⟨_, _, same⟩ | ⟨_, _, same⟩ <;> cases same
  | _ => cases request_eq

/-- The item store ends an erase like its listener. -/
theorem ofStore_eraseDone
    (sound : Sound store dones)
    (dispatched : Dispatched store .eraseDone handled) :
    ofStore handled.state = (ofStore store).eraseDone := by
  have client := (sound.keepsClients dispatched .measurementSample).2 (by
    rintro _ _ ⟨⟩)
  cases dispatched with
  | ignored _ addOrEnumerate =>
      rcases addOrEnumerate with ⟨_, _, same⟩ | ⟨_, _, same⟩ <;> cases same
  | restarted item erasing reminder =>
      have remembered := @hasReminder_eraseOf item
      rw [← reminder] at remembered
      have again : (ofStore store).eraseDone =
          { ofStore store with reminder := false } := by
        simp [eraseDone, ofStore, erasing, remembered]
      rw [again]
      exact Listener.ext erasing.symm hasReminder_noReminder rfl
  | deleted item erasing quiet parameters =>
      have idle : (ofStore store).eraseDone =
          { ofStore store with listenerState := .idle } := by
        simp [eraseDone, ofStore, erasing, quiet]
      rw [idle]
      exact Listener.ext rfl rfl client
  | wrapped item erasing quiet keep page =>
      have idle : (ofStore store).eraseDone =
          { ofStore store with listenerState := .idle } := by
        simp [eraseDone, ofStore, erasing, quiet]
      rw [idle]
      rfl

/-- The item store handles an add of samples like its listener. -/
theorem ofStore_addItem
    (sound : Sound store dones)
    {data : List ByteMemory.Byte}
    (dispatched :
      Dispatched store (.addItem .measurementSample data) handled) :
    handled.consumed = (ofStore store).executes ∧
      ofStore handled.state =
        if (ofStore store).executes then
          (ofStore store).addItem
            (handled.state.listenerState = .erasing)
        else
          ofStore store := by
  have client := (sound.keepsClients dispatched .measurementSample).2 (by
    rintro _ _ ⟨⟩)
  have executes_eq : (ofStore store).executes =
      decide (store.listenerState = .idle ∧
        (store.itemStore .measurementSample).currentState = .idle) :=
    rfl
  cases dispatched with
  | @added _ _ rest storeIdle after ok result =>
      obtain ⟨settled, _⟩ :=
        addItem_settled (sound.placed .measurementSample) rest result
      obtain ⟨effects, extended⟩ := settled.extended
      have reminder : (if ok then after
          else recoverableError after 0).eraseReminder =
            store.eraseReminder := by
        rw [← extended.eraseReminder]
        cases ok <;> rfl
      have executed : (ofStore store).executes = true :=
        executes_eq.trans
          (decide_eq_true ⟨rest.listenerIdle, storeIdle⟩)
      rw [executed, if_pos rfl, addItem]
      refine ⟨rfl, ?_⟩
      dsimp only at client ⊢
      generalize (if ok then after else recoverableError after 0) = next
        at client reminder ⊢
      cases busy : next.listenerState with
      | idle =>
          rw [if_neg (by decide)]
          exact Listener.ext (busy.trans rest.listenerIdle.symm)
            (congrArg hasReminder reminder) client
      | erasing =>
          rw [if_pos (by decide)]
          exact Listener.ext busy (congrArg hasReminder reminder) client
  | ignored busy addOrEnumerate =>
      have notExecuted : (ofStore store).executes = false := by
        rw [executes_eq, decide_eq_false_iff_not]
        rintro ⟨listens, idle⟩
        rcases busy with erasing | enumerating
        · rw [listens] at erasing
          cases erasing
        · rw [Request.item, idle] at enumerating
          cases enumerating
      rw [notExecuted]
      exact ⟨rfl, rfl⟩

end Store

end Listener

/-- Messages that others publish. -/
inductive Input where
  /-- `MESSAGE_ID_TIME_INFO_TIME_ELAPSED`, and the averages it will meet. -/
  | timeElapsed (elapsed : Nat) (averages : SampleTicks)
  /-- `ITEM_STORE_MESSAGE_ERASE` -/
  | erase
  /-- `ITEM_STORE_MESSAGE_ERASE_DONE` -/
  | eraseDone
  deriving DecidableEq

/-- The messages in the queue of the application. -/
inductive QueuedMessage where
  | input (message : Input)
  /-- `ITEM_STORE_MESSAGE_ADD_ITEM` of the controller. -/
  | addItem
  deriving DecidableEq

/-- The controller, the item store and what has gone between them. -/
structure State where
  controller : MeasurementItemController
  listener : Listener
  queue : List QueuedMessage
  /-- The recorded samples. -/
  recorded : List SampleTicks
  /-- What the item store has read. -/
  dispatched : List MeasurementSample

/-- What can happen next. -/
inductive Event where
  | publish (message : Input)
  /--
  The first message is dispatched; `eraseOldest` tells whether an add that is
  executed fills the ring.
  -/
  | dispatch (eraseOldest : Bool)
  /-- The samples are enumerated, or no longer. -/
  | enumerate (currentState : StoreState)
  deriving DecidableEq

/-- The queued messages of what the controller publishes. -/
def queued (published : List Published) : List QueuedMessage :=
  published.filterMap fun message =>
    match message with
    | .addSamples => some .addItem
    | .saveLoggingInterval _ => none
    | .erase _ => none

/-- The controller handles a message. -/
def handle (controller : MeasurementItemController) :
    Input → MeasurementItemController × List Published
  | .timeElapsed elapsed averages =>
      evalTimeEvent controller elapsed averages controller.isAddItemPossible
  | .erase => (MeasurementItemController.erase controller, [])
  | .eraseDone => MeasurementItemController.eraseDone controller

/-- The item store handles a message. -/
def Listener.handle (listener : Listener) : Input → Listener
  | .timeElapsed _ _ => listener
  | .erase => listener.erase
  | .eraseDone => listener.eraseDone

/-- The samples that are recorded with a message. -/
def recordedWith (controller : MeasurementItemController) :
    Input → List SampleTicks
  | .timeElapsed elapsed averages =>
      if controller.remainingTimeS - elapsed ≤ 0 then [averages] else []
  | .erase => []
  | .eraseDone => []

/-- A step of controller and queue. -/
def step (state : State) : Event → State
  | .publish message =>
      { state with queue := state.queue ++ [.input message] }
  | .dispatch eraseOldest =>
      match state.queue with
      | [] => state
      | .input message :: rest =>
          let outcome := handle state.controller message
          { state with
            controller := outcome.1
            listener := state.listener.handle message
            queue := rest ++ queued outcome.2
            recorded :=
              state.recorded ++ recordedWith state.controller message }
      | .addItem :: rest =>
          if state.listener.executes then
            { state with
              listener := state.listener.addItem eraseOldest
              queue := rest
              dispatched :=
                state.dispatched ++ [state.controller.samples] }
          else
            { state with queue := rest }
  | .enumerate currentState =>
      { state with
        listener := { state.listener with currentState := currentState } }

/-- Runs from a controller without samples and an idle item store on. -/
def system : System State Event where
  start := fun state =>
    state.controller.currentSampleIndex = 0 ∧
      state.controller.isSampleReady = false ∧
      state.listener.listenerState = .idle ∧
      state.listener.reminder = false ∧
      state.queue = [] ∧ state.recorded = [] ∧ state.dispatched = []
  step := fun state event next => step state event = next

/-- Two samples that the item store has not read yet. -/
def Waiting
    (controller : MeasurementItemController) (queue : List QueuedMessage) :
    Prop :=
  controller.isSampleReady = true ∨ .addItem ∈ queue

instance (controller : MeasurementItemController)
    (queue : List QueuedMessage) : Decidable (Waiting controller queue) :=
  inferInstanceAs (Decidable (_ ∨ _))

/-- The condition under which the item store gets every pair as it was. -/
structure Proper (state : State) (event : Event) : Prop where
  /-- No sample is recorded while two samples are waiting. -/
  records : ∀ eraseOldest elapsed averages rest,
    event = .dispatch eraseOldest →
    state.queue = .input (.timeElapsed elapsed averages) :: rest →
      state.controller.remainingTimeS - elapsed ≤ 0 →
        ¬ Waiting state.controller state.queue
  /-- The item store neither erases nor enumerates when it has to add. -/
  executes : ∀ eraseOldest rest, event = .dispatch eraseOldest →
    state.queue = .addItem :: rest → state.listener.executes = true

/-- The consecutive pairs of samples. -/
def pairsOf : List SampleTicks → List MeasurementSample
  | first :: second :: rest =>
      { first := first, second := second } :: pairsOf rest
  | _ => []

/-- The item store has read the pairs, but for one that is still there. -/
def Paired (state : State) : Prop :=
  pairsOf state.recorded =
    state.dispatched ++
      if Waiting state.controller state.queue then
        [state.controller.samples]
      else
        []

/-- Pairs do not reach over an even number of samples. -/
theorem pairsOf_append
    (first second : List SampleTicks)
    (even : first.length % 2 = 0) :
    pairsOf (first ++ second) = pairsOf first ++ pairsOf second := by
  induction first using pairsOf.induct with
  | case1 one other rest inductionHypothesis =>
      rw [List.length_cons, List.length_cons] at even
      simp only [List.cons_append, pairsOf]
      rw [inductionHypothesis (by omega)]
  | case2 rest short =>
      cases rest with
      | nil => rfl
      | cons one rest =>
          cases rest with
          | nil => cases even
          | cons other rest => exact absurd rfl (short one other rest)

/-- Where the recorded samples are. -/
structure Located
    (controller : MeasurementItemController) (queue : List QueuedMessage)
    (recorded : List SampleTicks) (dispatched : List MeasurementSample) :
    Prop where
  index_le : controller.currentSampleIndex ≤ 1
  single :
    (if controller.isSampleReady then 1 else 0) +
      queue.count .addItem ≤ 1
  start_of_waiting :
    Waiting controller queue → controller.currentSampleIndex = 0
  halves :
    ∃ complete : List SampleTicks,
      complete.length % 2 = 0 ∧
        recorded =
          complete ++
            (if controller.currentSampleIndex = 1 then
              [controller.samples.first]
            else
              []) ∧
        pairsOf complete =
          dispatched ++
            if Waiting controller queue then
              [controller.samples]
            else
              []

section Steps

variable {controller : MeasurementItemController}
  {queue rest : List QueuedMessage}
  {recorded : List SampleTicks}
  {dispatched : List MeasurementSample}

/-- Only three fields of the controller matter. -/
theorem Located.congr
    {next : MeasurementItemController}
    (located : Located controller queue recorded dispatched)
    (ready_eq : next.isSampleReady = controller.isSampleReady)
    (index_eq : next.currentSampleIndex = controller.currentSampleIndex)
    (samples_eq : next.samples = controller.samples) :
    Located next queue recorded dispatched := by
  obtain ⟨index_le, single, start_of_waiting, halves⟩ := located
  have waiting : Waiting next queue ↔ Waiting controller queue := by
    rw [Waiting, Waiting, ready_eq]
  constructor
  · rw [index_eq]
    exact index_le
  · rw [ready_eq]
    exact single
  · rw [waiting, index_eq]
    exact start_of_waiting
  · simp only [waiting, index_eq, samples_eq]
    exact halves

/-- Other messages of the queue do not matter. -/
theorem Located.requeue
    {other : List QueuedMessage}
    (located : Located controller queue recorded dispatched)
    (count_eq : other.count .addItem = queue.count .addItem) :
    Located controller other recorded dispatched := by
  obtain ⟨index_le, single, start_of_waiting, halves⟩ := located
  have member :
      QueuedMessage.addItem ∈ other ↔ QueuedMessage.addItem ∈ queue := by
    rw [← List.count_pos_iff, ← List.count_pos_iff, count_eq]
  have waiting : Waiting controller other ↔ Waiting controller queue := by
    rw [Waiting, Waiting, member]
  constructor
  · exact index_le
  · rw [count_eq]
    exact single
  · rw [waiting]
    exact start_of_waiting
  · simp only [waiting]
    exact halves

/-- Saving moves two samples from the controller to the queue. -/
theorem Located.save
    (located : Located controller queue recorded dispatched)
    (canAddItem : Bool) :
    let outcome := saveReadySamples controller canAddItem
    Located outcome.1 (queue ++ queued outcome.2) recorded dispatched := by
  intro outcome
  by_cases saves : controller.isSampleReady ∧ canAddItem
  · have saved : outcome =
        ({ controller with isSampleReady := false }, [.addSamples]) :=
      if_pos saves
    rw [saved]
    obtain ⟨index_le, single, start_of_waiting, halves⟩ := located
    have waits : Waiting controller queue := Or.inl saves.1
    have stillWaits :
        Waiting { controller with isSampleReady := false }
          (queue ++ queued [.addSamples]) :=
      Or.inr (List.mem_append_right queue (List.mem_singleton_self _))
    constructor
    · exact index_le
    · have one : (queued [.addSamples]).count .addItem = 1 := by
        decide
      rw [saves.1, if_pos rfl] at single
      rw [List.count_append, one]
      simp only [Bool.false_eq_true, if_false]
      omega
    · exact fun _ => start_of_waiting waits
    · rw [if_pos waits] at halves
      rw [if_pos stillWaits]
      exact halves
  · have kept : outcome = (controller, []) := if_neg saves
    rw [kept, show queued [] = [] from rfl, List.append_nil]
    exact located

/-- A sample is recorded if no samples are waiting. -/
theorem Located.record
    {next : MeasurementItemController}
    (located : Located controller queue recorded dispatched)
    (nothing : ¬ Waiting controller queue)
    (averages : SampleTicks)
    (ready_eq :
      next.isSampleReady =
        (controller.isSampleReady ||
          (controller.currentSampleIndex + 1) % 2 == 0))
    (index_eq :
      next.currentSampleIndex = (controller.currentSampleIndex + 1) % 2)
    (samples_eq :
      next.samples =
        setSample controller.samples controller.currentSampleIndex
          averages) :
    Located next queue (recorded ++ [averages]) dispatched := by
  obtain ⟨index_le, single, start_of_waiting, complete, even, recorded_eq,
    pairs⟩ := located
  have notReady : controller.isSampleReady = false := by
    cases ready : controller.isSampleReady with
    | false => rfl
    | true => exact absurd (Or.inl ready) nothing
  have notQueued : QueuedMessage.addItem ∉ queue :=
    fun member => nothing (Or.inr member)
  rw [if_neg nothing, List.append_nil] at pairs
  rw [notReady, Bool.false_or] at ready_eq
  by_cases first : controller.currentSampleIndex = 0
  · rw [first] at ready_eq index_eq samples_eq recorded_eq
    have waiting : ¬ Waiting next queue := by
      rintro (ready | member)
      · rw [ready_eq] at ready
        cases ready
      · exact notQueued member
    refine ⟨by omega, ?_, fun waits => absurd waits waiting, complete, even,
      ?_, ?_⟩
    · rw [ready_eq, List.count_eq_zero.mpr notQueued]
      decide
    · rw [recorded_eq, index_eq, samples_eq]
      simp [setSample]
    · rw [if_neg waiting, List.append_nil]
      exact pairs
  · have second : controller.currentSampleIndex = 1 := by omega
    rw [second] at ready_eq index_eq samples_eq recorded_eq
    have waiting : Waiting next queue := Or.inl (by rw [ready_eq]; rfl)
    refine ⟨by omega, ?_, fun _ => by omega,
      complete ++ [controller.samples.first, averages], ?_, ?_, ?_⟩
    · rw [ready_eq, List.count_eq_zero.mpr notQueued]
      decide
    · rw [List.length_append]
      simp only [List.length_cons, List.length_nil]
      omega
    · rw [recorded_eq, index_eq]
      simp
    · rw [pairsOf_append _ _ even, pairs, if_pos waiting, samples_eq]
      rfl

/-- A message of another module reaches the controller. -/
theorem Located.handle
    {message : Input}
    (located : Located controller queue recorded dispatched)
    (proper :
      ∀ elapsed averages, message = .timeElapsed elapsed averages →
        controller.remainingTimeS - elapsed ≤ 0 →
          ¬ Waiting controller queue) :
    let outcome := SamplePairs.handle controller message
    Located outcome.1 (queue ++ queued outcome.2)
      (recorded ++ recordedWith controller message) dispatched := by
  intro outcome
  cases message with
  | timeElapsed elapsed averages =>
      by_cases due : controller.remainingTimeS - elapsed ≤ 0
      · have nothing := proper elapsed averages rfl due
        simp only [outcome, SamplePairs.handle, evalTimeEvent, if_pos due,
          recordedWith]
        exact (located.record nothing averages rfl rfl rfl).save _
      · simp only [outcome, SamplePairs.handle, evalTimeEvent, if_neg due,
          recordedWith, List.append_nil]
        have counted :
            Located
              { controller with
                remainingTimeS := controller.remainingTimeS - elapsed }
              queue recorded dispatched :=
          located.congr rfl rfl rfl
        exact counted.save _
  | erase =>
      have same : Located controller.erase queue recorded dispatched :=
        located.congr rfl rfl rfl
      simpa [outcome, SamplePairs.handle, recordedWith, queued] using same
  | eraseDone =>
      obtain ⟨count, done⟩ := eraseDone_eq controller
      have counted :
          Located
            { controller with
              nrOfPendingErase := count
              isAddItemPossible := count = 0 }
            queue recorded dispatched :=
        located.congr rfl rfl rfl
      dsimp only at done
      simp only [outcome, SamplePairs.handle, done, recordedWith,
        List.append_nil]
      by_cases possible : count = 0
      · rw [if_pos (by simpa using possible)]
        by_cases changed : controller.isLoggingIntervalChanged
        · rw [if_pos changed]
          have same :
              Located
                { controller with
                  nrOfPendingErase := count
                  isAddItemPossible := count = 0
                  isLoggingIntervalChanged := false }
                queue recorded dispatched :=
            located.congr rfl rfl rfl
          simpa [queued] using same
        · rw [if_neg changed]
          exact counted.save _
      · rw [if_neg (by simpa using possible)]
        simpa [queued] using counted

/-- The item store reads the samples that are waiting. -/
theorem Located.dispatch
    (located : Located controller (.addItem :: rest) recorded dispatched) :
    Located controller rest recorded
      (dispatched ++ [controller.samples]) := by
  obtain ⟨index_le, single, start_of_waiting, complete, even, recorded_eq,
    pairs⟩ := located
  have waits : Waiting controller (.addItem :: rest) :=
    Or.inr (List.mem_cons_self ..)
  rw [List.count_cons_self] at single
  have notReady : controller.isSampleReady = false := by
    cases ready : controller.isSampleReady with
    | false => rfl
    | true =>
        rw [ready, if_pos rfl] at single
        omega
  have notQueued : QueuedMessage.addItem ∉ rest := by
    rw [← List.count_eq_zero]
    omega
  have nothing : ¬ Waiting controller rest := by
    rintro (ready | member)
    · rw [notReady] at ready
      cases ready
    · exact notQueued member
  refine ⟨index_le, by omega, fun waiting => absurd waiting nothing,
    complete, even, recorded_eq, ?_⟩
  rw [if_pos waits] at pairs
  rw [if_neg nothing, List.append_nil]
  exact pairs

end Steps

/-- A proper step keeps the samples located. -/
theorem located_step
    {state : State}
    {event : Event}
    (located :
      Located state.controller state.queue state.recorded state.dispatched)
    (proper : Proper state event) :
    let next := step state event
    Located next.controller next.queue next.recorded next.dispatched := by
  cases event with
  | publish message =>
      have kept :
          (state.queue ++ [QueuedMessage.input message]).count
              QueuedMessage.addItem =
            state.queue.count QueuedMessage.addItem := by
        rw [List.count_append]
        simp
      exact located.requeue kept
  | dispatch eraseOldest =>
      cases queue : state.queue with
      | nil =>
          simp only [step, queue]
          rw [queue] at located
          simpa [queue] using located
      | cons message rest =>
          cases message with
          | input message =>
              simp only [step, queue]
              rw [queue] at located
              have without :
                  Located state.controller rest state.recorded
                    state.dispatched :=
                located.requeue (by simp)
              refine without.handle ?_
              rintro elapsed averages rfl due waits
              refine proper.records eraseOldest elapsed averages rest rfl
                queue due ?_
              rw [queue]
              exact waits.imp id (List.mem_cons_of_mem _)
          | addItem =>
              have executes := proper.executes eraseOldest rest rfl queue
              simp only [step, queue, executes, if_true]
              rw [queue] at located
              exact located.dispatch
  | enumerate currentState => exact located

/-- The samples are located in every proper run. -/
theorem located_run
    {events : List Event}
    {state : State}
    (run : Run (system.restrict Proper) events state) :
    Located state.controller state.queue state.recorded
      state.dispatched := by
  refine @Run.invariant _ _ _ (fun state =>
    Located state.controller state.queue state.recorded state.dispatched)
    ?_ ?_ _ _ run
  · rintro state ⟨index_eq, ready_eq, _, _, queue, recorded, dispatched⟩
    have nothing : ¬ Waiting state.controller state.queue := by
      rw [Waiting, ready_eq, queue]
      simp
    refine ⟨by omega, by simp [ready_eq, queue],
      fun waits => absurd waits nothing, [], rfl, ?_, ?_⟩
    · rw [recorded, index_eq]
      rfl
    · rw [if_neg nothing, dispatched]
      rfl
  · rintro state event next located ⟨moves, proper⟩
    cases moves
    exact located_step located proper

/-- One sample after complete pairs is not part of a pair. -/
theorem pairsOf_half
    {complete : List SampleTicks}
    (even : complete.length % 2 = 0)
    (half : SampleTicks) :
    pairsOf (complete ++ [half]) = pairsOf complete := by
  rw [pairsOf_append _ _ even]
  simp [pairsOf]

/--
If no sample is recorded while two samples are waiting, and no add is
dispatched while the item store is busy, the item store reads the consecutive
pairs in order, each one once.
-/
theorem samples_paired
    {events : List Event}
    {state : State}
    (run : Run (system.restrict Proper) events state) :
    Paired state := by
  obtain ⟨_, _, _, complete, even, recorded_eq, pairs⟩ := located_run run
  rw [Paired, ← pairs, recorded_eq]
  split
  · exact pairsOf_half even _
  · rw [List.append_nil]

/-- The controller and the item store after a reset. -/
def started : State where
  controller := MeasurementItemController.static
  listener :=
    { listenerState := .idle, reminder := false, currentState := .idle }
  queue := []
  recorded := []
  dispatched := []

/-- Whether a step meets the condition. -/
def properly (state : State) : Event → Bool
  | .dispatch _ =>
      match state.queue with
      | .input (.timeElapsed elapsed _) :: _ =>
          ¬ (state.controller.remainingTimeS - elapsed ≤ 0 ∧
            Waiting state.controller state.queue)
      | .addItem :: _ => state.listener.executes
      | _ => true
  | _ => true

theorem proper_of_properly
    {state : State}
    {event : Event}
    (proper : properly state event = true) :
    Proper state event where
  records := by
    rintro eraseOldest elapsed averages rest rfl queue due waits
    simp only [properly, queue, decide_eq_true_eq] at proper
    rw [queue] at waits
    exact proper ⟨due, waits⟩
  executes := by
    rintro eraseOldest rest rfl queue
    simpa only [properly, queue] using proper

/-- The state after steps that all meet the condition. -/
def stepsProperly : List Event → State → Option State
  | [], state => some state
  | event :: rest, state =>
      if properly state event then
        stepsProperly rest (step state event)
      else
        none

/-- Steps that meet the condition are a run. -/
theorem run_stepsProperly
    {events before : List Event}
    {state next : State}
    (run : Run (system.restrict Proper) before state)
    (steps : stepsProperly events state = some next) :
    Run (system.restrict Proper) (before ++ events) next := by
  induction events generalizing before state with
  | nil =>
      cases steps
      rw [List.append_nil]
      exact run
  | cons event events inductionHypothesis =>
      rw [stepsProperly] at steps
      split at steps
      · next proper =>
          rw [List.append_cons]
          exact inductionHypothesis
            (run.step event ⟨rfl, proper_of_properly proper⟩) steps
      · cases steps

/-- A minute in ticks of five seconds, with some averages at its end. -/
def minute (temperatureTicks : UInt16) : List Event :=
  (List.replicate 12
    [.publish (.timeElapsed 5
      { temperatureTicks := temperatureTicks, humidityTicks := 0 }),
      .dispatch false]).flatten

/--
The add of the first pair fills the ring, and the oldest page is erased; the
second pair waits for the end of a delete.
-/
def twoPairs : List Event :=
  minute 1 ++ minute 2 ++
    [.dispatch true, .publish .eraseDone, .dispatch false, .publish .erase,
      .dispatch false] ++
    minute 3 ++ minute 4 ++
    [.publish .eraseDone, .dispatch false, .dispatch false]

theorem samples_paired_twoPairs :
    ∃ state,
      Run (system.restrict Proper) twoPairs state ∧
        state.dispatched.length = 2 ∧ Paired state := by
  have start : Run (system.restrict Proper) [] started :=
    .start ⟨rfl, rfl, rfl, rfl, rfl, rfl, rfl⟩
  have steps : ∃ state, stepsProperly twoPairs started = some state ∧
      state.dispatched.length = 2 := by
    decide +kernel
  obtain ⟨state, steps, two⟩ := steps
  have run := run_stepsProperly start steps
  exact ⟨state, run, two, samples_paired run⟩

/-- Runs without a condition, one step after the other. -/
theorem run_foldl
    {events before : List Event}
    {state : State}
    (run : Run system before state) :
    Run system (before ++ events) (events.foldl step state) := by
  induction events generalizing before state with
  | nil =>
      rw [List.append_nil]
      exact run
  | cons event events inductionHypothesis =>
      rw [List.foldl_cons, List.append_cons]
      exact inductionHypothesis (run.step event rfl)

/--
While an erase takes more than a minute the third sample replaces the first
one, and the item store reads it together with the second one.
-/
theorem samples_not_paired :
    ¬ ∀ events state, Run system events state → Paired state := by
  intro paired
  have start : Run system [] started :=
    .start ⟨rfl, rfl, rfl, rfl, rfl, rfl, rfl⟩
  have mixed := paired _ _ (@run_foldl
    ([.publish .erase, .dispatch false] ++ minute 1 ++ minute 2 ++
      minute 3 ++ [.publish .eraseDone, .dispatch false, .dispatch false])
    [] started start)
  revert mixed
  rw [Paired]
  decide +kernel

/-- An add behind the message of a delete is lost with its samples. -/
theorem pair_ignored_while_erasing :
    ∃ events state, Run system events state ∧ state.queue = [] ∧
      pairsOf state.recorded ≠ [] ∧ state.dispatched = [] := by
  have start : Run system [] started :=
    .start ⟨rfl, rfl, rfl, rfl, rfl, rfl, rfl⟩
  refine ⟨_, _, @run_foldl
    (minute 1 ++ (minute 2).dropLast ++ [.publish .erase, .dispatch false,
      .dispatch false, .dispatch false]) [] started start, ?_⟩
  decide +kernel

end DemoBoard.SamplePairs
