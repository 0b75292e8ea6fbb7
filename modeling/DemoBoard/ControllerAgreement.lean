import DemoBoard.ItemStoreHolds
import DemoBoard.ItemStoreQueue
import DemoBoard.MeasurementItemController

namespace DemoBoard.ControllerAgreement

open ItemStore TransitionRuns MeasurementItemController ItemCounters

/-!
# Item store and measurement controller on one broker

The controller infers from the messages about erases whether the item store
accepts items: it counts them, one up for `ITEM_STORE_MESSAGE_ERASE` and one
down for `ITEM_STORE_MESSAGE_ERASE_DONE`.  It sees each message before the
item store does.
-/

/-- The item store messages in the queue of the application. -/
inductive QueuedMessage where
  /-- The samples of the controller, by their address. -/
  | samples
  /-- Any other message. -/
  | plain (request : Request)
  deriving DecidableEq

/-- Item store, measurement controller and the queue of the broker. -/
structure ComposedState where
  store : ItemStoreState
  controller : MeasurementItemController
  queue : List QueuedMessage

/-- What can happen next. -/
inductive Event where
  /-- `MESSAGE_ID_TIME_INFO_TIME_ELAPSED` -/
  | timeElapsed (elapsed : Nat) (averages : SampleTicks)
  | addItem (item : ItemDef) (data : ItemBytes item)
  /-- The delete after a power on reset. -/
  | deleteAllItems
  | setLoggingInterval (parameter : UInt32)
  /-- The first message of the queue reaches its listeners. -/
  | dispatch
  | endOfPage

/-- The item store messages among the published ones. -/
def itemStoreMessages (published : List Published) : List QueuedMessage :=
  published.filterMap fun message =>
    match message with
    | .addSamples => some .samples
    | .erase parameters => some (.plain (.erase parameters))
    | .saveLoggingInterval _ => none

/-- A message as the item store reads it. -/
def QueuedMessage.read
    (message : QueuedMessage) (controller : MeasurementItemController) :
    Request :=
  match message with
  | .samples => .addItem .measurementSample controller.samples.toBytes
  | .plain request => request

/-- The item store messages that `ItemStoreIdleState` handles. -/
def itemStoreIdleState (controller : MeasurementItemController) :
    Request → MeasurementItemController × List Published
  | .erase _ => (controller.erase, [])
  | .eraseDone => controller.eraseDone
  | _ => (controller, [])

/-- A step of the composed system; impossible events do nothing. -/
def step (state : ComposedState) :
    Event → Except AssertionFailure ComposedState
  | .timeElapsed elapsed averages =>
      let outcome :=
        evalTimeEvent state.controller elapsed averages
          state.controller.isAddItemPossible
      .ok
        { state with
          controller := outcome.1
          queue := state.queue ++ itemStoreMessages outcome.2 }
  | .addItem item data =>
      .ok
        { state with
          queue := state.queue ++ [.plain (.addItem item data.val)] }
  | .deleteAllItems => do
      let deleted ← deleteAllItems state.store .measurementSample
      .ok
        { state with
          store := deleted.1
          queue := state.queue ++ [.plain (.erase deleted.2)] }
  | .setLoggingInterval parameter => do
      let outcome ←
        setLoggingInterval state.store state.controller parameter
      .ok
        { store := outcome.1
          controller := outcome.2.1
          queue := state.queue ++ itemStoreMessages outcome.2.2 }
  | .dispatch =>
      match state.queue with
      | [] => .ok state
      | message :: rest => do
          let request := message.read state.controller
          let seen := itemStoreIdleState state.controller request
          let handled ← listener state.store request
          .ok
            { store := handled.state
              controller := seen.1
              queue := rest ++ itemStoreMessages seen.2 }
  | .endOfPage =>
      if state.store.flash.processNextPage = none then
        .ok state
      else
        let ended := endOfPage state.store
        .ok
          { state with
            store := ended.1
            queue :=
              if ended.2 then
                state.queue ++ [.plain .eraseDone]
              else
                state.queue }

/-- The composed system from a boot on. -/
def composedSystem : System ComposedState Event where
  start := fun state =>
    Booted state.store ∧ state.queue = [] ∧
      state.controller.nrOfPendingErase = 0 ∧
      state.controller.isAddItemPossible = true
  step := fun state event next => step state event = .ok next

/-- What the listener of the item store is about to do. -/
inductive Outlook where
  | idle
  | erasing (reminder : Bool)
  deriving DecidableEq

/-- Where the listener stands. -/
def outlook (store : ItemStoreState) : Outlook :=
  match store.listenerState with
  | .idle => .idle
  | .erasing => .erasing (hasReminder store.eraseReminder)

/-- Where the listener stands after a message about an erase. -/
def Outlook.after (outlook : Outlook) : QueuedMessage → Outlook
  | .plain (.erase _) =>
      match outlook with
      | .idle => .erasing false
      | .erasing _ => .erasing true
  | .plain .eraseDone =>
      match outlook with
      | .erasing true => .erasing false
      | _ => .idle
  | _ => outlook

/-- Where the listener stands when the queue is processed. -/
def forecast (state : ComposedState) : Outlook :=
  state.queue.foldl Outlook.after (outlook state.store)

/-- The event makes `SaveReadySamples` publish the samples. -/
def SavesSamples (state : ComposedState) : Event → Prop
  | .timeElapsed elapsed averages =>
      .addSamples ∈
        (evalTimeEvent state.controller elapsed averages
          state.controller.isAddItemPossible).2
  | .dispatch =>
      state.queue.head? = some (.plain .eraseDone) ∧
        .addSamples ∈ state.controller.eraseDone.2
  | _ => False

/-- The condition under which controller and item store agree. -/
structure Proper (state : ComposedState) (event : Event) : Prop where
  /-- Samples are saved when the queued messages leave the listener idle. -/
  settles : SavesSamples state event → forecast state = .idle
  /-- No samples wait behind an add that starts the erase of a page. -/
  wraps : event = .dispatch → ∀ message rest item data,
    state.queue = message :: rest →
    message.read state.controller = .addItem item data →
    state.store.listenerState = .idle →
    StartsWrap item state.store →
    .samples ∉ rest
  /-- A reminder is only replaced while at most one erase is pending. -/
  reminders : event = .dispatch → ∀ parameters rest,
    state.queue = .plain (.erase parameters) :: rest →
    hasReminder state.store.eraseReminder = true →
    state.controller.nrOfPendingErase ≤ 1

/-- Samples are only queued where the listener will be idle. -/
def Clear : Outlook → List QueuedMessage → Prop
  | _, [] => True
  | outlook, message :: rest =>
      (message = .samples → outlook = .idle) ∧
        Clear (outlook.after message) rest

/-- A message waits behind others. -/
theorem clear_append
    {outlook : Outlook}
    {queue : List QueuedMessage}
    {message : QueuedMessage} :
    Clear outlook (queue ++ [message]) ↔
      Clear outlook queue ∧
        (message = .samples →
          queue.foldl Outlook.after outlook = .idle) := by
  induction queue generalizing outlook with
  | nil => simp [Clear]
  | cons first rest inductionHypothesis =>
      rw [List.cons_append, Clear, Clear, inductionHypothesis,
        List.foldl_cons, and_assoc]

/-- Nothing is expected of the listener without samples. -/
theorem clear_of_not_mem
    {queue : List QueuedMessage}
    (none : .samples ∉ queue)
    (outlook : Outlook) :
    Clear outlook queue := by
  induction queue generalizing outlook with
  | nil => trivial
  | cons first rest inductionHypothesis =>
      rw [List.mem_cons, not_or] at none
      exact ⟨fun same => (none.1 same.symm).elim,
        inductionHypothesis none.2 _⟩

/-- A message without the data of the samples. -/
def QueuedMessage.abstract : QueuedMessage → Request
  | .samples => .addItem .measurementSample []
  | .plain request => request

/-- How many ends of erases the listener still waits for. -/
def Outlook.ends : Outlook → Int
  | .idle => 0
  | .erasing false => 1
  | .erasing true => 2

/-- The invariant of the composed system. -/
structure Invariant (state : ComposedState) : Prop where
  queueSound :
    QueueSound
      { store := state.store
        queue := state.queue.map QueuedMessage.abstract }
  storesIdle : ∀ item, (state.store.itemStore item).currentState = .idle
  noEnumeration : ∀ item enumerator,
    .plain (.beginEnumerate item enumerator) ∉ state.queue
  pending_ge : 0 ≤ state.controller.nrOfPendingErase
  pending_le :
    state.controller.nrOfPendingErase ≤ (outlook state.store).ends
  possible_iff :
    state.controller.isAddItemPossible = true ↔
      state.controller.nrOfPendingErase = 0
  clear : Clear (outlook state.store) state.queue

section Outlooks

variable {store : ItemStoreState}
variable {dones : Nat}
variable {request : Request}
variable {handled : Handled}

theorem outlook_idle
    (idle : store.listenerState = .idle) :
    outlook store = .idle := by
  rw [outlook, idle]

theorem outlook_erasing
    (erasing : store.listenerState = .erasing) :
    outlook store = .erasing (hasReminder store.eraseReminder) := by
  rw [outlook, erasing]

/-- The listener moves on as expected, unless an add starts an erase. -/
theorem outlook_dispatched
    (sound : Sound store dones)
    (dispatched : Dispatched store request handled) :
    outlook handled.state = (outlook store).after (.plain request) ∨
      outlook handled.state = .erasing false ∧
        outlook store = .idle ∧
        ∃ item data, request = .addItem item data ∧
          StartsWrap item store := by
  cases dispatched with
  | @added item data rest storeIdle after ok result =>
      obtain ⟨settled, ends⟩ := addItem_settled (sound.placed item) rest result
      obtain ⟨effects, extended⟩ := settled.extended
      obtain ⟨_, _, quiet⟩ := sound.phase.atRest rest.listenerIdle
      have same : outlook (if ok then after else recoverableError after 0) =
          outlook after := by
        cases ok <;> rfl
      rw [same, outlook_idle rest.listenerIdle]
      rcases settled.phase with still | wrap
      · exact .inl (outlook_idle still.listenerIdle)
      · rcases ends with still | starts
        · have idle := still.listenerIdle
          rw [wrap.erasing] at idle
          cases idle
        · refine .inr ⟨?_, rfl, item, data, rfl, starts⟩
          rw [outlook_erasing wrap.erasing, extended.eraseReminder, quiet]
  | enumerated item enumerator rest storeIdle =>
      have same := sameContent_beginEnumerate store item enumerator
      refine .inl ?_
      simp only [outlook, same.listenerState, same.eraseReminder,
        Outlook.after]
  | ignored busy addOrEnumerate =>
      rcases addOrEnumerate with ⟨item, data, rfl⟩ | ⟨item, enumerator, rfl⟩
      · exact .inl rfl
      · exact .inl rfl
  | deleteStarted item rest =>
      obtain ⟨_, _, quiet⟩ := sound.phase.atRest rest.listenerIdle
      refine .inl ?_
      rw [outlook_idle rest.listenerIdle, outlook_erasing rfl, beginErase,
        quiet]
      rfl
  | reminded item erasing =>
      have after := @outlook_erasing
        { store with eraseReminder := eraseOf item } erasing
      refine .inl ?_
      rw [after, outlook_erasing erasing, hasReminder_eraseOf]
      rfl
  | restarted item erasing reminder =>
      refine .inl ?_
      rw [outlook_erasing erasing, outlook_erasing rfl, beginErase,
        hasReminder_noReminder, reminder, hasReminder_eraseOf]
      rfl
  | deleted item erasing quiet parameters =>
      refine .inl ?_
      rw [outlook_erasing erasing, outlook_idle rfl, quiet]
      rfl
  | wrapped item erasing quiet keep page =>
      refine .inl ?_
      rw [outlook_erasing erasing, outlook_idle rfl, quiet]
      rfl

end Outlooks

section Counting

variable {controller : MeasurementItemController}

/-- The messages of a handler that at most saves samples. -/
theorem itemStoreMessages_saves
    {published : List Published}
    (saves : published = [] ∨ published = [.addSamples]) :
    itemStoreMessages published = [] ∨
      itemStoreMessages published = [.samples] ∧
        .addSamples ∈ published := by
  rcases saves with rfl | rfl
  · exact .inl rfl
  · exact .inr ⟨rfl, List.mem_singleton_self _⟩

/-- Setting the interval changes no counter and may delete the samples. -/
theorem setLoggingInterval_kept
    {store : ItemStoreState}
    (static :
      StaticInfo .measurementSample (store.itemStore .measurementSample))
    (controller : MeasurementItemController)
    (parameter : UInt32) :
    ∃ changed : MeasurementItemController,
      changed.nrOfPendingErase = controller.nrOfPendingErase ∧
      changed.isAddItemPossible = controller.isAddItemPossible ∧
      (setLoggingInterval store controller parameter =
          .ok (countersCleared .measurementSample store, changed,
            [.erase (eraseOf .measurementSample)]) ∨
        ∃ published,
          itemStoreMessages published = [] ∧
          setLoggingInterval store controller parameter =
            .ok (store, changed, published)) := by
  have deleted := deleteAllItems_eq static
  unfold setLoggingInterval
  simp only [deleted, bind, Except.bind]
  split
  · split
    · refine ⟨_, ?_, ?_, .inl rfl⟩
      · rfl
      · rfl
    · refine ⟨_, ?_, ?_, .inr ⟨_, ?_, rfl⟩⟩
      · rfl
      · rfl
      · rfl
  · exact ⟨controller, rfl, rfl, .inr ⟨[], rfl, rfl⟩⟩

/-- The counter of pending erases after a message. -/
theorem counted
    {outlook : Outlook}
    {request : Request}
    (pending_ge : 0 ≤ controller.nrOfPendingErase)
    (pending_le : controller.nrOfPendingErase ≤ outlook.ends)
    (possible_iff :
      controller.isAddItemPossible = true ↔
        controller.nrOfPendingErase = 0)
    (reminders : outlook = .erasing true →
      (∃ parameters, request = .erase parameters) →
        controller.nrOfPendingErase ≤ 1) :
    let seen := itemStoreIdleState controller request
    0 ≤ seen.1.nrOfPendingErase ∧
      seen.1.nrOfPendingErase ≤ (outlook.after (.plain request)).ends ∧
      (seen.1.isAddItemPossible = true ↔ seen.1.nrOfPendingErase = 0) ∧
      (itemStoreMessages seen.2 = [] ∨
        itemStoreMessages seen.2 = [.samples] ∧ request = .eraseDone ∧
          .addSamples ∈ controller.eraseDone.2) := by
  have small : controller.nrOfPendingErase ≤ 2 := by
    cases outlook with
    | idle => exact Int.le_trans pending_le (by decide)
    | erasing reminder =>
        cases reminder <;> exact Int.le_trans pending_le (by decide)
  cases request with
  | addItem item data => exact ⟨pending_ge, pending_le, possible_iff, .inl rfl⟩
  | beginEnumerate item enumerator =>
      exact ⟨pending_ge, pending_le, possible_iff, .inl rfl⟩
  | erase parameters =>
      have exact : toInt8 (controller.nrOfPendingErase + 1) =
          controller.nrOfPendingErase + 1 := by
        rw [toInt8]
        omega
      simp only [itemStoreIdleState, erase, exact]
      refine ⟨by omega, ?_, ?_, .inl rfl⟩
      · cases outlook with
        | idle =>
            simp only [Outlook.ends, Outlook.after] at pending_le ⊢
            omega
        | erasing reminder =>
            cases reminder with
            | false =>
                simp only [Outlook.ends, Outlook.after] at pending_le ⊢
                omega
            | true =>
                have few := reminders rfl ⟨parameters, rfl⟩
                simp only [Outlook.ends, Outlook.after]
                omega
      · simp only [Bool.false_eq_true, false_iff]
        omega
  | eraseDone =>
      have exact : toInt8 (controller.nrOfPendingErase - 1) =
          controller.nrOfPendingErase - 1 := by
        rw [toInt8]
        omega
      have ends_le : (if controller.nrOfPendingErase - 1 < 0 then 0 else
          controller.nrOfPendingErase - 1) ≤
            (outlook.after (.plain .eraseDone)).ends := by
        cases outlook with
        | idle =>
            simp only [Outlook.ends, Outlook.after] at pending_le ⊢
            split <;> omega
        | erasing reminder =>
            cases reminder <;>
              simp only [Outlook.ends, Outlook.after] at pending_le ⊢ <;>
              split <;> omega
      have ends_ge : 0 ≤ (if controller.nrOfPendingErase - 1 < 0 then 0 else
          controller.nrOfPendingErase - 1) := by
        split <;> omega
      generalize counts : (if controller.nrOfPendingErase - 1 < 0 then 0 else
        controller.nrOfPendingErase - 1) = left at ends_le ends_ge
      have published (publishes :
          itemStoreMessages controller.eraseDone.2 = [] ∨
            itemStoreMessages controller.eraseDone.2 = [.samples] ∧
              .addSamples ∈ controller.eraseDone.2) :
          itemStoreMessages controller.eraseDone.2 = [] ∨
            itemStoreMessages controller.eraseDone.2 = [.samples] ∧
              Request.eraseDone = .eraseDone ∧
              .addSamples ∈ controller.eraseDone.2 := by
        rcases publishes with none | ⟨samples, member⟩
        · exact .inl none
        · exact .inr ⟨samples, rfl, member⟩
      have kept :
          controller.eraseDone.1.nrOfPendingErase = left ∧
            (controller.eraseDone.1.isAddItemPossible = true ↔ left = 0) ∧
            (itemStoreMessages controller.eraseDone.2 = [] ∨
              itemStoreMessages controller.eraseDone.2 = [.samples] ∧
                .addSamples ∈ controller.eraseDone.2) := by
        simp only [eraseDone, exact, counts]
        split
        · split
          · rename_i none _
            exact ⟨rfl, by simp, .inl rfl⟩
          · have saves := saveReadySamples_saves
              { controller with
                nrOfPendingErase := left
                isAddItemPossible := left = 0 }
              (left = 0)
            refine ⟨saves.pending, ?_,
              itemStoreMessages_saves saves.published⟩
            rw [saves.possible]
            simp
        · exact ⟨rfl, by simp, .inl rfl⟩
      intro seen
      rw [show seen = controller.eraseDone from rfl, kept.1]
      exact ⟨ends_ge, ends_le, kept.2.1, published kept.2.2⟩

end Counting

section Steps

variable {state next : ComposedState}
variable {event : Event}

theorem forecast_eq_foldl
    (store : ItemStoreState)
    (controller : MeasurementItemController)
    (queue : List QueuedMessage) :
    forecast
        { store := store, controller := controller, queue := queue } =
      queue.foldl Outlook.after (outlook store) :=
  rfl

/-- A step that publishes at most the samples. -/
theorem Invariant.saves
    (invariant : Invariant state)
    {controller : MeasurementItemController}
    (count :
      controller.nrOfPendingErase = state.controller.nrOfPendingErase)
    (possible :
      controller.isAddItemPossible = state.controller.isAddItemPossible)
    {messages : List QueuedMessage}
    (messages_eq : messages = [] ∨
      messages = [.samples] ∧ forecast state = .idle) :
    Invariant
      { state with
        controller := controller
        queue := state.queue ++ messages } := by
  rcases messages_eq with rfl | ⟨rfl, settled⟩
  · exact
      { queueSound := by
          rw [List.append_nil]
          exact invariant.queueSound
        storesIdle := invariant.storesIdle
        noEnumeration := by
          rw [List.append_nil]
          exact invariant.noEnumeration
        pending_ge := by
          rw [count]
          exact invariant.pending_ge
        pending_le := by
          rw [count]
          exact invariant.pending_le
        possible_iff := by
          rw [count, possible]
          exact invariant.possible_iff
        clear := by
          rw [List.append_nil]
          exact invariant.clear }
  · exact
      { queueSound := by
          rw [List.map_append]
          exact invariant.queueSound.publish invariant.queueSound.sound
            trivial nofun
        storesIdle := invariant.storesIdle
        noEnumeration := by
          intro item enumerator member
          simp only [List.mem_append, List.mem_singleton, reduceCtorEq,
            or_false] at member
          exact invariant.noEnumeration item enumerator member
        pending_ge := by
          rw [count]
          exact invariant.pending_ge
        pending_le := by
          rw [count]
          exact invariant.pending_le
        possible_iff := by
          rw [count, possible]
          exact invariant.possible_iff
        clear := clear_append.mpr ⟨invariant.clear, fun _ => settled⟩ }

/-- A step in which another client publishes a message. -/
theorem Invariant.publishes
    (invariant : Invariant state)
    {store : ItemStoreState}
    {controller : MeasurementItemController}
    {request : Request}
    (queueSound :
      QueueSound
        { store := store
          queue :=
            state.queue.map QueuedMessage.abstract ++ [request] })
    (storesIdle : ∀ item, (store.itemStore item).currentState = .idle)
    (noEnumeration :
      ∀ item enumerator, request ≠ .beginEnumerate item enumerator)
    (sameOutlook : outlook store = outlook state.store)
    (count :
      controller.nrOfPendingErase = state.controller.nrOfPendingErase)
    (possible :
      controller.isAddItemPossible =
        state.controller.isAddItemPossible) :
    Invariant
      { store := store
        controller := controller
        queue := state.queue ++ [.plain request] } where
  queueSound := by
    rw [List.map_append]
    exact queueSound
  storesIdle := storesIdle
  noEnumeration := by
    intro item enumerator member
    simp only [List.mem_append, List.mem_singleton,
      QueuedMessage.plain.injEq] at member
    rcases member with earlier | last
    · exact invariant.noEnumeration item enumerator earlier
    · exact noEnumeration item enumerator last.symm
  pending_ge := by
    rw [count]
    exact invariant.pending_ge
  pending_le := by
    rw [count, sameOutlook]
    exact invariant.pending_le
  possible_iff := by
    rw [count, possible]
    exact invariant.possible_iff
  clear := by
    rw [sameOutlook]
    exact clear_append.mpr ⟨invariant.clear, nofun⟩

/-- `ItemStore_DeleteAllItems` on the measurement store. -/
theorem Invariant.deletes
    (invariant : Invariant state)
    {controller : MeasurementItemController}
    (count :
      controller.nrOfPendingErase = state.controller.nrOfPendingErase)
    (possible :
      controller.isAddItemPossible =
        state.controller.isAddItemPossible) :
    Invariant
      { store := countersCleared .measurementSample state.store
        controller := controller
        queue :=
          state.queue ++
            [.plain (.erase (eraseOf .measurementSample))] } := by
  refine invariant.publishes
    (invariant.queueSound.deleteAllItems .measurementSample) ?_ nofun rfl
    count possible
  intro item
  by_cases same : item = .measurementSample
  · rw [same, countersCleared, modifyInfo_same]
    exact invariant.storesIdle .measurementSample
  · rw [countersCleared, modifyInfo_other _ _ same]
    exact invariant.storesIdle item

/-- What an add carries does not matter to the queue. -/
theorem queueSound_read
    {store : ItemStoreState}
    {message : QueuedMessage}
    {rest : List Request}
    (sound : QueueSound { store := store, queue := message.abstract :: rest })
    (controller : MeasurementItemController) :
    QueueSound
      { store := store, queue := message.read controller :: rest } := by
  cases message with
  | plain request => exact sound
  | samples => exact sound.readAs nofun trivial nofun

/-- Reading a message does not change what to expect of the listener. -/
theorem after_read
    (outlook : Outlook)
    (message : QueuedMessage)
    (controller : MeasurementItemController) :
    outlook.after (.plain (message.read controller)) =
      outlook.after message := by
  cases message <;> rfl

/-- The dispatch of the first message. -/
theorem Invariant.dispatches
    (invariant : Invariant state)
    (proper : Proper state .dispatch)
    {message : QueuedMessage}
    {rest : List QueuedMessage}
    (first : state.queue = message :: rest)
    {handled : Handled}
    (result :
      listener state.store (message.read state.controller) =
        .ok handled) :
    let seen := itemStoreIdleState state.controller
      (message.read state.controller)
    Invariant
      { store := handled.state
        controller := seen.1
        queue := rest ++ itemStoreMessages seen.2 } := by
  intro seen
  have queueSound := invariant.queueSound
  rw [first, List.map_cons] at queueSound
  have read := queueSound_read queueSound state.controller
  have dispatched := read.sound.dispatched (read.admissible rfl) result
  have noBegin : ∀ item enumerator,
      message.read state.controller ≠
        .beginEnumerate item enumerator := by
    intro item enumerator same
    cases message with
    | samples => cases same
    | plain request =>
        apply invariant.noEnumeration item enumerator
        rw [first, ← same]
        exact List.mem_cons_self ..
  have reminders : outlook state.store = .erasing true →
      (∃ parameters,
        message.read state.controller = .erase parameters) →
      state.controller.nrOfPendingErase ≤ 1 := by
    rintro busy ⟨parameters, erase⟩
    have pending : hasReminder state.store.eraseReminder = true := by
      rw [outlook] at busy
      split at busy
      · cases busy
      · exact Outlook.erasing.inj busy
    cases message with
    | samples => cases erase
    | plain request =>
        refine proper.reminders rfl parameters rest ?_ pending
        rw [first, ← erase]
        rfl
  obtain ⟨count_ge, count_le, possible_iff, messages⟩ :=
    counted invariant.pending_ge invariant.pending_le
      invariant.possible_iff reminders
  have wasClear := invariant.clear
  rw [first, Clear] at wasClear
  have moved := outlook_dispatched read.sound dispatched
  rw [after_read] at moved count_le
  have clear : Clear (outlook handled.state) rest := by
    rcases moved with expected | ⟨_, idle, item, data, add, starts⟩
    · rw [expected]
      exact wasClear.2
    · refine clear_of_not_mem ?_ _
      have listens : state.store.listenerState = .idle := by
        rw [outlook] at idle
        split at idle
        · assumption
        · cases idle
      exact proper.wraps rfl message rest item data first add listens starts
  have pending_le :
      seen.1.nrOfPendingErase ≤ (outlook handled.state).ends := by
    rcases moved with expected | ⟨started, idle, item, data, add, _⟩
    · rw [expected]
      exact count_le
    · have same : seen =
          itemStoreIdleState state.controller (.addItem item data) := by
        rw [← add]
      rw [← after_read _ message state.controller, idle, add] at count_le
      rw [started, same]
      exact Int.le_trans count_le (by simp [Outlook.after, Outlook.ends])
  have storesIdle : ∀ item,
      (handled.state.itemStore item).currentState = .idle := by
    intro item
    rw [(read.sound.keepsClients dispatched item).2 noBegin]
    exact invariant.storesIdle item
  have later : Invariant
      { store := handled.state, controller := seen.1, queue := rest } :=
    { queueSound := read.dispatch rfl result
      storesIdle := storesIdle
      noEnumeration := by
        intro item enumerator member
        apply invariant.noEnumeration item enumerator
        rw [first]
        exact List.mem_cons_of_mem _ member
      pending_ge := count_ge
      pending_le := pending_le
      possible_iff := possible_iff
      clear := clear }
  refine later.saves rfl rfl ?_
  rcases messages with none | ⟨samples, done, member⟩
  · exact .inl none
  · refine .inr ⟨samples, ?_⟩
    have head : message = .plain .eraseDone := by
      cases message with
      | samples => cases done
      | plain request => exact congrArg QueuedMessage.plain done
    have settled := proper.settles
      ⟨by rw [first, head]; rfl, member⟩
    rw [forecast, first, List.foldl_cons] at settled
    rcases moved with expected | ⟨_, _, item, data, add, _⟩
    · rw [forecast_eq_foldl, expected]
      exact settled
    · rw [add] at done
      cases done

/-- Every proper step keeps the invariant. -/
theorem Invariant.step
    (invariant : Invariant state)
    (proper : Proper state event)
    (stepped : step state event = .ok next) :
    Invariant next := by
  cases event with
  | timeElapsed elapsed averages =>
      have saves := evalTimeEvent_saves state.controller elapsed averages
        state.controller.isAddItemPossible
      cases stepped
      refine invariant.saves saves.pending saves.possible ?_
      rcases itemStoreMessages_saves saves.published with
        none | ⟨samples, member⟩
      · exact .inl none
      · exact .inr ⟨samples, proper.settles member⟩
  | addItem item data =>
      cases stepped
      exact invariant.publishes
        (invariant.queueSound.publish invariant.queueSound.sound trivial
          nofun)
        invariant.storesIdle nofun rfl rfl rfl
  | deleteAllItems =>
      have deleted := deleteAllItems_eq
        (invariant.queueSound.sound.placed .measurementSample).static
      simp only [ControllerAgreement.step, deleted, bind, Except.bind]
        at stepped
      cases stepped
      exact invariant.deletes rfl rfl
  | setLoggingInterval parameter =>
      obtain ⟨controller, count, possible, result⟩ :=
        setLoggingInterval_kept
          (invariant.queueSound.sound.placed .measurementSample).static
          state.controller parameter
      simp only [ControllerAgreement.step] at stepped
      rcases result with deleted | ⟨published, none, saved⟩
      · rw [deleted] at stepped
        cases stepped
        exact invariant.deletes count possible
      · rw [saved] at stepped
        cases stepped
        exact invariant.saves count possible (.inl none)
  | dispatch =>
      cases queue : state.queue with
      | nil =>
          simp only [ControllerAgreement.step, queue] at stepped
          cases stepped
          exact invariant
      | cons message rest =>
          simp only [ControllerAgreement.step, queue] at stepped
          obtain ⟨handled, result, done⟩ := bind_eq_ok stepped
          cases done
          exact invariant.dispatches proper queue result
  | endOfPage =>
      simp only [ControllerAgreement.step] at stepped
      split at stepped
      · cases stepped
        exact invariant
      · rename_i pending
        cases stepped
        have ended := invariant.queueSound.endOfPage pending
        obtain ⟨_, ⟨page, erases⟩, _⟩ :=
          invariant.queueSound.sound.endOfPage pending
        have same : outlook (endOfPage state.store).1 =
            outlook state.store := by
          rw [outlook, erases.listenerState, erases.eraseReminder, outlook]
        have storesIdle : ∀ item,
            ((endOfPage state.store).1.itemStore item).currentState =
              .idle := by
          rw [erases.itemStore]
          exact invariant.storesIdle
        cases published : (endOfPage state.store).2 with
        | false =>
            rw [published] at ended
            exact
              { queueSound := ended
                storesIdle := storesIdle
                noEnumeration := invariant.noEnumeration
                pending_ge := invariant.pending_ge
                pending_le := by
                  rw [same]
                  exact invariant.pending_le
                possible_iff := invariant.possible_iff
                clear := by
                  rw [same]
                  exact invariant.clear }
        | true =>
            rw [published] at ended
            exact invariant.publishes ended storesIdle nofun same rfl rfl

end Steps

/-- The invariant of a boot. -/
theorem invariant_start
    {state : ComposedState}
    (starts : composedSystem.start state) :
    Invariant state := by
  obtain ⟨booted, queue, count, possible⟩ := starts
  obtain ⟨⟨_, _, _, _, tracks⟩, _⟩ := booted .systemConfig
  have idle := outlook_idle tracks.listenerIdle
  exact
    { queueSound := by
        refine ⟨?_, ?_⟩
        · simp only [queue, List.map_nil, List.count_nil]
          exact booted.sound
        · simp [queue]
      storesIdle := fun item => (booted item).2
      noEnumeration := by simp [queue]
      pending_ge := Int.le_of_eq count.symm
      pending_le := by
        rw [idle, count]
        exact Int.le_refl 0
      possible_iff := by simp [count, possible]
      clear := by
        rw [queue]
        trivial }

/-- The message about an erase or its end. -/
def QueuedMessage.isErase : QueuedMessage → Bool
  | .plain (.erase _) => true
  | .plain .eraseDone => true
  | _ => false

/-- `AddItem` executes the samples once they are dispatched. -/
def ExecutesSamples (state : ComposedState) : Prop :=
  let request := QueuedMessage.samples.read state.controller
  listener state.store request = idleState state.store request

/-- Controller and item store agree on when items are accepted. -/
structure Agrees (state : ComposedState) : Prop where
  executed : state.queue.head? = some .samples → ExecutesSamples state
  accepted : state.store.flash.pagesToErase = 0 →
    (∀ message ∈ state.queue, message.isErase = false) →
    state.controller.nrOfPendingErase = 0 ∧
      state.controller.isAddItemPossible = true

theorem Invariant.agrees
    {state : ComposedState}
    (invariant : Invariant state) :
    Agrees state where
  executed := by
    intro first
    cases queue : state.queue with
    | nil =>
        rw [queue] at first
        cases first
    | cons message rest =>
        rw [queue, List.head?_cons, Option.some.injEq] at first
        have clear := invariant.clear
        rw [queue, Clear] at clear
        have idle := clear.1 first
        have listens : state.store.listenerState = .idle := by
          rw [outlook] at idle
          split at idle
          · assumption
          · cases idle
        simp only [ExecutesSamples, QueuedMessage.read, listener, listens,
          listenerIdleState, Request.item, invariant.storesIdle]
  accepted := by
    intro noPages noErase
    have phase := invariant.queueSound.sound.phase
    have noDone : (state.queue.map QueuedMessage.abstract).count
        .eraseDone = 0 := by
      rw [List.count_eq_zero]
      intro member
      obtain ⟨message, queued, same⟩ := List.mem_map.mp member
      have other := noErase message queued
      cases message with
      | samples => cases same
      | plain request =>
          simp only [QueuedMessage.abstract] at same
          rw [same] at other
          cases other
    simp only [noDone] at phase
    have few := invariant.pending_le
    have count : state.controller.nrOfPendingErase = 0 := by
      cases phase with
      | idle rest quiet =>
          rw [outlook_idle rest.listenerIdle] at few
          exact Int.le_antisymm few invariant.pending_ge
      | running erasing target flash started total erased =>
          have pages : state.store.flash.pagesToErase = _ :=
            flash.pagesToErase
          omega
    exact ⟨count, invariant.possible_iff.mpr count⟩

theorem invariant_run
    {events : List Event}
    {state : ComposedState}
    (run : Run (composedSystem.restrict Proper) events state) :
    Invariant state := by
  refine run.invariant ?_ ?_
  · intro state starts
    exact invariant_start starts
  · intro state event next invariant moves
    exact invariant.step moves.2 moves.1

/--
The measurement controller and the item store agree, as long as samples are
saved when the queued messages leave the listener idle, no samples wait behind
an add that starts the erase of a page, and a reminder is only replaced while
at most one erase is pending.
-/
theorem controller_agrees
    {events : List Event}
    {state : ComposedState}
    (run : Run (composedSystem.restrict Proper) events state) :
    Agrees state :=
  (invariant_run run).agrees

/-- A controller that starts over a booted item store. -/
def started (store : ItemStoreState) : ComposedState where
  store := store
  controller := static
  queue := []

theorem start_started
    {store : ItemStoreState}
    (booted : Booted store) :
    composedSystem.start (started store) :=
  ⟨booted, rfl, rfl, rfl⟩

/-- A time event of five seconds. -/
def tick : Event :=
  .timeElapsed 5 zeroTicks

/-- What the controller does at a time event of five seconds. -/
def evalTick (controller : MeasurementItemController) :
    MeasurementItemController × List Published :=
  evalTimeEvent controller 5 zeroTicks controller.isAddItemPossible

/-- The controller after some time events. -/
def ticked (controller : MeasurementItemController) :
    Nat → MeasurementItemController
  | 0 => controller
  | count + 1 => (evalTick (ticked controller count)).1

/-- The next of the time events that save samples is the last one of them. -/
def SavesLast (controller : MeasurementItemController) (count : Nat) : Prop :=
  (∀ done, done < count → (evalTick (ticked controller done)).2 = []) ∧
    (evalTick (ticked controller count)).2 = [.addSamples]

instance (controller : MeasurementItemController) (count : Nat) :
    Decidable (SavesLast controller count) :=
  inferInstanceAs (Decidable (_ ∧ _))

section Examples

variable {events : List Event}
variable {state : ComposedState}

/-- Time events that save no samples. -/
theorem run_silent
    (run : Run (composedSystem.restrict Proper) events state)
    (count : Nat)
    (silent : ∀ done, done < count →
      (evalTick (ticked state.controller done)).2 = []) :
    Run (composedSystem.restrict Proper)
      (events ++ List.replicate count tick)
      { state with controller := ticked state.controller count } := by
  induction count with
  | zero =>
      rw [List.replicate_zero, List.append_nil]
      exact run
  | succ count inductionHypothesis =>
      have earlier := inductionHypothesis fun done before =>
        silent done (Nat.lt_succ_of_lt before)
      have nothing := silent count (Nat.lt_succ_self count)
      rw [List.replicate_succ', ← List.append_assoc]
      refine earlier.step tick ⟨?_, ?_, nofun, nofun⟩
      · rw [evalTick] at nothing
        simp only [composedSystem, step, tick, nothing, itemStoreMessages,
          List.filterMap_nil, List.append_nil]
        rfl
      · intro saves
        have published : .addSamples ∈
            (evalTick (ticked state.controller count)).2 := saves
        rw [nothing] at published
        cases published

/-- Time events of which the last one saves the samples. -/
theorem run_saves
    (run : Run (composedSystem.restrict Proper) events state)
    (idle : forecast state = .idle)
    {count : Nat}
    (saves : SavesLast state.controller count) :
    Run (composedSystem.restrict Proper)
      (events ++ List.replicate count tick ++ [tick])
      { state with
        controller := ticked state.controller (count + 1)
        queue := state.queue ++ [.samples] } := by
  have published := saves.2
  refine (run_silent run count saves.1).step tick
    ⟨?_, fun _ => idle, nofun, nofun⟩
  rw [evalTick] at published
  simp only [composedSystem, step, tick, published, itemStoreMessages,
    List.filterMap_cons, List.filterMap_nil]
  rfl

/-- The dispatch of a message that waits alone. -/
theorem run_executed
    {message : QueuedMessage}
    {after : ItemStoreState}
    (run : Run (composedSystem.restrict Proper) events state)
    (alone : state.queue = [message])
    (silent :
      message ≠ .plain .eraseDone ∨ state.controller.eraseDone.2 = [])
    (quiet : hasReminder state.store.eraseReminder = false)
    (executed :
      queueStep
          { store := state.store
            queue := [message.read state.controller] } .dispatch =
        .ok { store := after, queue := [] }) :
    Run (composedSystem.restrict Proper) (events ++ [.dispatch])
      { store := after
        controller :=
          (itemStoreIdleState state.controller
            (message.read state.controller)).1
        queue :=
          itemStoreMessages
            (itemStoreIdleState state.controller
              (message.read state.controller)).2 } := by
  obtain ⟨handled, result, same⟩ := listener_of_queueStep executed
  refine run.step .dispatch ⟨?_, ?_, ?_, ?_⟩
  · simp only [composedSystem, step, alone, result, ← same]
    rfl
  · rintro ⟨done, saves⟩
    rw [alone, List.head?_cons, Option.some.injEq] at done
    rcases silent with other | nothing
    · exact (other done).elim
    · rw [nothing] at saves
      cases saves
  · intro _ message rest item data queue _ _ _
    rw [alone] at queue
    cases queue
    nofun
  · intro _ parameters rest _ pending
    rw [quiet] at pending
    cases pending

/-- The pages of an erase end one after the other. -/
theorem run_erased
    {page remaining : Nat}
    (run : Run (composedSystem.restrict Proper) events state)
    (flash : state.store.flash.Erasing page (remaining + 1))
    (small : remaining + 1 < 65536)
    (byte : page + remaining < 256) :
    ∃ count erased,
      Run (composedSystem.restrict Proper)
          (events ++ List.replicate count .endOfPage)
          { state with
            store := { state.store with flash := erased }
            queue := state.queue ++ [.plain .eraseDone] } ∧
        erased.pagesToErase = 0 := by
  obtain ⟨before, erased, ⟨count, reached⟩, pending, ended, finished⟩ :=
    @lastPage_reached _ _ _
      (fun store => ∃ count,
        Run (composedSystem.restrict Proper)
          (events ++ List.replicate count .endOfPage)
          { state with store := store })
      (by
        rintro before next ⟨count, reached⟩ pending ended
        refine ⟨count + 1, ?_⟩
        rw [List.replicate_succ', ← List.append_assoc]
        refine reached.step .endOfPage ⟨?_, nofun, nofun, nofun⟩
        simp only [composedSystem, step, pending, if_false, ended,
          Bool.false_eq_true])
      ⟨0, by rwa [List.replicate_zero, List.append_nil]⟩ flash small byte
  refine ⟨count + 1, erased, ?_, finished⟩
  rw [List.replicate_succ', ← List.append_assoc]
  refine reached.step .endOfPage ⟨?_, nofun, nofun, nofun⟩
  simp only [composedSystem, step, pending, if_false, ended, if_true]

/-- The delete after a power on reset is dispatched. -/
theorem run_deleteStarted
    (run : Run (composedSystem.restrict Proper) events state)
    (noMessage : state.queue = [])
    (atRest : AtRest state.store)
    (quiet : hasReminder state.store.eraseReminder = false) :
    Run (composedSystem.restrict Proper)
      (events ++ [.deleteAllItems] ++ [.dispatch])
      { store :=
          beginErase (eraseOf .measurementSample) state.store.eraseReminder
            (countersCleared .measurementSample state.store)
        controller := state.controller.erase
        queue := [] } := by
  have static :=
    ((invariant_run run).queueSound.sound.placed .measurementSample).static
  have deleted := deleteAllItems_eq static
  have requested :
      Run (composedSystem.restrict Proper) (events ++ [.deleteAllItems])
        { state with
          store := countersCleared .measurementSample state.store
          queue := [.plain (.erase (eraseOf .measurementSample))] } := by
    refine run.step .deleteAllItems ⟨?_, nofun, nofun, nofun⟩
    simp only [composedSystem, step, deleted, noMessage]
    rfl
  exact run_executed requested rfl (.inl nofun) quiet
    (@queueStep_erase (countersCleared .measurementSample state.store) []
      ⟨atRest.listenerIdle, atRest.flashIdle⟩ .measurementSample)

end Examples

/--
The first two samples are stored; the next ones are due after 24 ticks, also
when a delete comes in between.
-/
theorem run_stored :
    ∃ store controller,
      Run (composedSystem.restrict Proper)
          ([] ++ List.replicate 23 tick ++ [tick] ++ [.dispatch])
          { store := store, controller := controller, queue := [] } ∧
        AtRest store ∧ hasReminder store.eraseReminder = false ∧
        SavesLast controller 23 ∧ controller.erase.eraseDone.2 = [] ∧
        SavesLast controller.erase.eraseDone.1 23 := by
  obtain ⟨store, _, booted, atRest, quiet, empty⟩ := holds_erasedFlash
  have start : Run (composedSystem.restrict Proper) [] (started store) :=
    .start (start_started booted)
  have saves := run_saves start (outlook_idle atRest.listenerIdle)
    (show SavesLast static 23 by decide +kernel)
  have later :
      SavesLast (ticked static (23 + 1)) 23 ∧
        (ticked static (23 + 1)).erase.eraseDone.2 = [] ∧
        SavesLast (ticked static (23 + 1)).erase.eraseDone.1 23 := by
    decide +kernel
  have first : (started store).controller = static := rfl
  rw [first] at saves
  generalize ticked static (23 + 1) = controller at saves later
  obtain ⟨after, _, _, added, extended, atRestAfter, _⟩ :=
    addItem_empty (empty .measurementSample) atRest quiet
      (MeasurementSample.length_toBytes controller.samples)
  have quietAfter : hasReminder after.eraseReminder = false := by
    rw [extended.eraseReminder]
    exact quiet
  have adds := run_executed saves rfl (.inl nofun) quiet
    (queueStep_added atRest.listenerIdle (booted .measurementSample).2 added
      [])
  exact ⟨after, controller, adds, atRestAfter, quietAfter, later⟩

/--
The samples are deleted and new ones are saved: the listener is idle when they
arrive, and the controller waits for no erase.
-/
theorem controller_agrees_delete :
    ∃ count state,
      Run (composedSystem.restrict Proper)
          ([] ++ List.replicate 23 tick ++ [tick] ++ [.dispatch] ++
            [.deleteAllItems] ++ [.dispatch] ++
            List.replicate count .endOfPage ++ [.dispatch] ++
            List.replicate 23 tick ++ [tick])
          state ∧
        state.queue = [.samples] ∧
        state.store.flash.pagesToErase = 0 ∧
        Agrees state := by
  obtain ⟨store, controller, stored, atRest, quiet, _, silent, again⟩ :=
    run_stored
  have deletes := run_deleteStarted stored rfl atRest quiet
  have flash := atRest.flashIdle.eraseRequested
    (eraseOf .measurementSample).pageNumber
    (eraseOf .measurementSample).nrOfPages
  obtain ⟨count, erased, completed, finished⟩ :=
    @run_erased _ _ _ 31 deletes flash (by decide) (by decide)
  have sound := (invariant_run completed).queueSound
  have ended := run_executed completed rfl (.inr silent) quiet
    (queueStep_deleted sound rfl quiet)
  have saves := run_saves ended
    (by simp only [QueuedMessage.read, itemStoreIdleState, silent]; rfl)
    again
  refine ⟨count, _, saves, ?_, finished, controller_agrees saves⟩
  simp only [QueuedMessage.read, itemStoreIdleState, silent]
  rfl

/--
Samples are saved between `ItemStore_DeleteAllItems` and the dispatch of its
message: the listener erases when they arrive, and drops them.
-/
theorem controller_agrees_not_saved :
    ¬ ∀ events state, Run composedSystem events state → Agrees state := by
  intro agrees
  obtain ⟨store, controller, stored, atRest, _, saves, _⟩ := run_stored
  have waits := run_silent stored 23 saves.1
  have static : StaticInfo .measurementSample
      (store.itemStore .measurementSample) :=
    ((invariant_run waits).queueSound.sound.placed .measurementSample).static
  have deleted := deleteAllItems_eq static
  have deletes : Run composedSystem _
      { store := countersCleared .measurementSample store
        controller := ticked controller 23
        queue := [.plain (.erase (eraseOf .measurementSample))] } :=
    waits.unrestricted.step .deleteAllItems (by
      simp only [composedSystem, step, deleted]
      rfl)
  have published := saves.2
  have saves : Run composedSystem _
      { store := countersCleared .measurementSample store
        controller := ticked controller (23 + 1)
        queue :=
          [.plain (.erase (eraseOf .measurementSample)), .samples] } :=
    deletes.step tick (by
      rw [evalTick] at published
      simp only [composedSystem, step, tick, published]
      rfl)
  have dispatched := @listener_erase
    (countersCleared .measurementSample store)
    ⟨atRest.listenerIdle, atRest.flashIdle⟩ .measurementSample
  have erases : Run composedSystem _
      { store :=
          beginErase (eraseOf .measurementSample) store.eraseReminder
            (countersCleared .measurementSample store)
        controller := (ticked controller (23 + 1)).erase
        queue := [.samples] } :=
    saves.step .dispatch (by
      simp only [composedSystem, step, QueuedMessage.read, dispatched]
      rfl)
  have executed := (agrees _ _ erases).executed rfl
  simp only [ExecutesSamples, QueuedMessage.read, listener, beginErase,
    listenerErasingState, idleState, bind, Except.bind] at executed
  split at executed
  · cases executed
  · cases congrArg Handled.consumed (Except.ok.inj executed)

end DemoBoard.ControllerAgreement
