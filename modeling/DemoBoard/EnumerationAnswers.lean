import DemoBoard.EnumerationStart
import Mathlib.Data.List.Forall2

namespace DemoBoard.EnumerationAnswers

open ByteMemory ItemStore TransitionRuns ItemCounters
open ItemStoreDeletes hiding Proper

/-!
# Requests to enumerate and their callbacks

`ItemStore_BeginEnumerate` leaves the callback in the metadata of the store and
the start index in the enumerator of the client; only the address of the
enumerator travels through the queue.  What the callback finds depends on what
both contain when the message is dispatched, and on the items of the store.
-/

/-- The item store messages; an enumerator is referred to by its address. -/
inductive QueuedMessage where
  | plain (request : Request)
  | beginEnumerate (item : ItemDef) (enumerator : Nat)

/-- A call of `ItemStore_BeginEnumerate`. -/
structure Call where
  item : ItemDef
  enumerator : Nat
  startIndex : Int
  onDoneCb : EnumeratorCallback

/-- The invocation of a callback at the end of `BeginEnumerate`. -/
structure Answer where
  item : ItemDef
  enumerator : Nat
  onDoneCb : EnumeratorCallback
  /-- The items of the store when the message was dispatched. -/
  stored : List (List Byte)
  /-- Item store, enumerator and argument of the callback. -/
  outcome : ItemStoreState × Enumerator × Bool

/-- The item store, its clients' enumerators, the queue and what happened. -/
structure ClientState where
  store : ItemStoreState
  enumerators : Nat → Enumerator
  queue : List QueuedMessage
  /-- The items a store has accepted since the last call of a delete. -/
  stored : ItemDef → List (List Byte)
  calls : List Call
  answers : List Answer

/-- What can happen next. -/
inductive Event where
  | addItem (item : ItemDef) (data : ItemBytes item)
  | deleteAllItems (item : ItemDef)
  | setStartIndex (enumerator : Nat) (startIndex : Int)
  | beginEnumerate
      (item : ItemDef) (enumerator : Nat) (onDoneCb : EnumeratorCallback)
  | endEnumerate (item : ItemDef) (enumerator : Nat)
  | getNext (enumerator : Nat)
  | dispatch
  | endOfPage

/-- A message as the item store reads it. -/
def QueuedMessage.read
    (message : QueuedMessage) (enumerators : Nat → Enumerator) : Request :=
  match message with
  | .plain request => request
  | .beginEnumerate item enumerator =>
      .beginEnumerate item (enumerators enumerator)

/-- What the clients see of the enumeration a message has started. -/
def answered
    (state : ClientState) (message : QueuedMessage) (handled : Handled) :
    (Nat → Enumerator) × List Answer :=
  match message, handled.enumeration with
  | .beginEnumerate item enumerator, some started =>
      (Function.update state.enumerators enumerator started.enumerator,
        [{ item := item
           enumerator := enumerator
           onDoneCb := (handled.state.itemStore item).enumeratorStatusCb
           stored := state.stored item
           outcome :=
             (handled.state, started.enumerator, started.ready) }])
  | _, _ => (state.enumerators, [])

/-- A step of the item store and its clients. -/
def step (state : ClientState) :
    Event → Except AssertionFailure ClientState
  | .addItem item data =>
      .ok
        { state with
          queue := state.queue ++ [.plain (.addItem item data.val)] }
  | .deleteAllItems item => do
      let deleted ← deleteAllItems state.store item
      .ok
        { state with
          store := deleted.1
          queue := state.queue ++ [.plain (.erase deleted.2)]
          stored := Function.update state.stored item [] }
  | .setStartIndex enumerator startIndex =>
      .ok
        { state with
          enumerators :=
            Function.update state.enumerators enumerator
              { state.enumerators enumerator with startIndex := startIndex } }
  | .beginEnumerate item enumerator onDoneCb =>
      .ok
        { state with
          store := registerCallback state.store item onDoneCb
          queue := state.queue ++ [.beginEnumerate item enumerator]
          calls :=
            state.calls ++
              [{ item := item
                 enumerator := enumerator
                 startIndex := (state.enumerators enumerator).startIndex
                 onDoneCb := onDoneCb }] }
  | .endEnumerate item enumerator =>
      let ended :=
        endEnumerate state.store item (state.enumerators enumerator)
      .ok
        { state with
          store := ended.1
          enumerators :=
            Function.update state.enumerators enumerator ended.2 }
  | .getNext enumerator =>
      let next := getNext state.store (state.enumerators enumerator)
      .ok
        { state with
          store := next.1
          enumerators :=
            Function.update state.enumerators enumerator next.2.1 }
  | .dispatch =>
      match state.queue with
      | [] => .ok state
      | message :: rest => do
          let request := message.read state.enumerators
          let handled ← listener state.store request
          let seen := answered state message handled
          .ok
            { state with
              store := handled.state
              enumerators := seen.1
              queue := rest
              stored := storedAfter state.store state.stored request
              answers := state.answers ++ seen.2 }
  | .endOfPage =>
      if state.store.flash.processNextPage = none then
        .ok state
      else
        let ended := endOfPage state.store
        .ok
          { state with
            store := ended.1
            queue :=
              if ended.2 then
                state.queue ++ [.plain .eraseDone]
              else
                state.queue }

/-- The clients after an idle store has begun an enumeration. -/
def enumerated
    (state : ClientState) (item : ItemDef) (enumerator : Nat)
    (rest : List QueuedMessage) : ClientState :=
  let begun :=
    beginEnumerate state.store item (state.enumerators enumerator)
  { store := begun.1
    enumerators := Function.update state.enumerators enumerator begun.2.1
    queue := rest
    stored := state.stored
    calls := state.calls
    answers :=
      state.answers ++
        [{ item := item
           enumerator := enumerator
           onDoneCb := (begun.1.itemStore item).enumeratorStatusCb
           stored := state.stored item
           outcome := begun }] }

/-- The item store as `ItemStore_Init` leaves it, with these items. -/
structure BootedWith
    (stored : ItemDef → List (List Byte)) (store : ItemStoreState) :
    Prop where
  tracks : ∀ item, ∃ log,
    log.items = stored item ∧ log.Regular (geometry item) ∧
      Tracks item log 0 store
  idle : ∀ item, (store.itemStore item).currentState = .idle

/-- The item store and its clients from a boot on. -/
def clientSystem : System ClientState Event where
  start := fun state =>
    BootedWith state.stored state.store ∧ state.queue = [] ∧
      state.calls = [] ∧ state.answers = []
  step := fun state event next => step state event = .ok next

/-- The invocation is the one that a call has asked for. -/
structure Answers (call : Call) (answer : Answer) : Prop where
  item : answer.item = call.item
  enumerator : answer.enumerator = call.enumerator
  onDoneCb : answer.onDoneCb = call.onDoneCb
  /-- The items on flash are delivered from the start index on. -/
  positioned :
    StandsAt (keptItems answer.item answer.stored) call.startIndex
      answer.outcome

/-- The condition under which every call gets its own callback. -/
structure Proper (state : ClientState) (event : Event) : Prop where
  /-- A call does not replace the callback another one waits for. -/
  callback : ∀ item enumerator onDoneCb,
    event = .beginEnumerate item enumerator onDoneCb →
    ∀ other, .beginEnumerate item other ∈ state.queue →
      (state.store.itemStore item).enumeratorStatusCb = onDoneCb
  /-- The start index of a waiting enumerator does not change. -/
  startIndex : ∀ enumerator startIndex,
    event = .setStartIndex enumerator startIndex →
    ∀ item, .beginEnumerate item enumerator ∈ state.queue →
      (state.enumerators enumerator).startIndex = startIndex
  /-- A request meets an item store that can enumerate. -/
  ready : event = .dispatch → ∀ item enumerator rest,
    state.queue = .beginEnumerate item enumerator :: rest →
    state.store.listenerState = .idle ∧
      (state.store.itemStore item).currentState = .idle
  /-- No delete of the store waits behind the request. -/
  notDeleted : event = .dispatch → ∀ item enumerator rest,
    state.queue = .beginEnumerate item enumerator :: rest →
    .plain (.erase (eraseOf item)) ∉ rest
  /-- The store honours the start index. -/
  honoured : event = .dispatch → ∀ item enumerator rest,
    state.queue = .beginEnumerate item enumerator :: rest →
    HonouredAt item (state.store.itemStore item)
      (keptItems item (state.stored item))
      (state.enumerators enumerator).startIndex
  /-- No add is executed between a delete and its erase. -/
  adds : event = .dispatch → ∀ item data rest,
    state.queue = .plain (.addItem item data) :: rest →
    state.store.listenerState = .idle →
    (state.store.itemStore item).currentState = .idle →
    .plain (.erase (eraseOf item)) ∉ rest
  /-- A reminder replaces neither another one nor the end of a delete. -/
  reminders : event = .dispatch → ∀ item rest,
    state.queue = .plain (.erase (eraseOf item)) :: rest →
    state.store.listenerState = .erasing →
    (state.store.eraseParameters.reinit = true →
        state.store.eraseParameters = eraseOf item) ∧
      (hasReminder state.store.eraseReminder = true →
        state.store.eraseReminder = eraseOf item)

/-- The enumeration a message asks for. -/
def QueuedMessage.begins : QueuedMessage → Option (ItemDef × Nat)
  | .plain _ => none
  | .beginEnumerate item enumerator => some (item, enumerator)

/-- A message without the content of the enumerator. -/
def QueuedMessage.abstract : QueuedMessage → Request
  | .plain request => request
  | .beginEnumerate item _ => .beginEnumerate item (enumeratorFrom 0)

/-- The item store still has what a call has left for its message. -/
structure Waits (state : ClientState) (call : Call) : Prop where
  onDoneCb :
    (state.store.itemStore call.item).enumeratorStatusCb = call.onDoneCb
  startIndex :
    (state.enumerators call.enumerator).startIndex = call.startIndex

/-- Calls are answered in their order; the others wait in the queue. -/
structure Answering
    (state : ClientState) (done waiting : List Call) : Prop where
  calls : state.calls = done ++ waiting
  answered : List.Forall₂ Answers done state.answers
  queued :
    state.queue.filterMap QueuedMessage.begins =
      waiting.map fun call => (call.item, call.enumerator)
  waits : ∀ call ∈ waiting, Waits state call

/-- The invariant of the clients. -/
structure Invariant (state : ClientState) : Prop where
  contents :
    Contents state.stored
      { store := state.store
        queue := state.queue.map QueuedMessage.abstract }
  byAddress : ∀ item enumerator,
    .plain (.beginEnumerate item enumerator) ∉ state.queue
  answering : ∃ done waiting, Answering state done waiting

section Steps

variable {state next : ClientState}
variable {event : Event}
variable {done waiting : List Call}

/-- The message of a waiting call is queued. -/
theorem Answering.mem_queue
    (answering : Answering state done waiting)
    {call : Call}
    (member : call ∈ waiting) :
    .beginEnumerate call.item call.enumerator ∈ state.queue := by
  have mapped : (call.item, call.enumerator) ∈
      state.queue.filterMap QueuedMessage.begins := by
    rw [answering.queued]
    exact List.mem_map_of_mem member
  obtain ⟨message, queued, begins⟩ := List.mem_filterMap.mp mapped
  cases message with
  | plain request => cases begins
  | beginEnumerate item enumerator =>
      cases begins
      exact queued

/-- A step that keeps callbacks and start indices. -/
theorem Answering.congr
    (answering : Answering state done waiting)
    (calls : next.calls = state.calls)
    (answers : next.answers = state.answers)
    (queued :
      next.queue.filterMap QueuedMessage.begins =
        state.queue.filterMap QueuedMessage.begins)
    (onDoneCb : ∀ item,
      (next.store.itemStore item).enumeratorStatusCb =
        (state.store.itemStore item).enumeratorStatusCb)
    (startIndex : ∀ call ∈ waiting,
      (next.enumerators call.enumerator).startIndex =
        (state.enumerators call.enumerator).startIndex) :
    Answering next done waiting where
  calls := calls.trans answering.calls
  answered := by
    rw [answers]
    exact answering.answered
  queued := queued.trans answering.queued
  waits := by
    intro call member
    refine ⟨?_, ?_⟩
    · rw [onDoneCb]
      exact (answering.waits call member).onDoneCb
    · rw [startIndex call member]
      exact (answering.waits call member).startIndex

/-- An enumerator whose start index stays. -/
theorem startIndex_update
    (enumerators : Nat → Enumerator)
    (address : Nat)
    {enumerator : Enumerator}
    (same :
      enumerator.startIndex = (enumerators address).startIndex)
    (other : Nat) :
    (Function.update enumerators address enumerator other).startIndex =
      (enumerators other).startIndex := by
  by_cases here : other = address
  · rw [here, Function.update_self, same]
  · rw [Function.update_of_ne here]

/-- A call that no other call on its store contradicts. -/
theorem Answering.call
    (answering : Answering state done waiting)
    {item : ItemDef}
    {enumerator : Nat}
    {onDoneCb : EnumeratorCallback}
    (proper :
      Proper state (.beginEnumerate item enumerator onDoneCb))
    (stepped :
      step state (.beginEnumerate item enumerator onDoneCb) = .ok next) :
    Answering next done
      (waiting ++
        [{ item := item
           enumerator := enumerator
           startIndex := (state.enumerators enumerator).startIndex
           onDoneCb := onDoneCb }]) := by
  cases stepped
  refine
    { calls := ?_
      answered := answering.answered
      queued := ?_
      waits := ?_ }
  · simp only [answering.calls, List.append_assoc]
  · simp [answering.queued, QueuedMessage.begins]
  · intro call member
    rcases List.mem_append.mp member with earlier | last
    · have waits := answering.waits call earlier
      refine ⟨?_, waits.startIndex⟩
      by_cases same : call.item = item
      · have queued := answering.mem_queue earlier
        rw [same] at queued
        have agreed := proper.callback item enumerator onDoneCb rfl
          call.enumerator queued
        have slot := waits.onDoneCb
        rw [same] at slot ⊢
        rw [registerCallback, modifyInfo_same, ← agreed, slot]
      · rw [registerCallback, modifyInfo_other _ _ same]
        exact waits.onDoneCb
    · rw [List.mem_singleton.mp last]
      refine ⟨?_, rfl⟩
      rw [registerCallback, modifyInfo_same]

/-- A message that does not begin an enumeration is published. -/
theorem Answering.publish
    (answering : Answering state done waiting)
    {store : ItemStoreState}
    (onDoneCb : ∀ item,
      (store.itemStore item).enumeratorStatusCb =
        (state.store.itemStore item).enumeratorStatusCb)
    (request : Request)
    (stored : ItemDef → List (List Byte)) :
    Answering
      { state with
        store := store
        queue := state.queue ++ [.plain request]
        stored := stored }
      done waiting := by
  refine answering.congr rfl rfl ?_ onDoneCb (fun _ _ => rfl)
  rw [List.filterMap_append]
  exact List.append_nil _

/-- Such a message is dispatched. -/
theorem Answering.dispatchPlain
    (answering : Answering state done waiting)
    {request : Request}
    {rest : List QueuedMessage}
    (first : state.queue = .plain request :: rest)
    {handled : Handled}
    (onDoneCb : ∀ item,
      (handled.state.itemStore item).enumeratorStatusCb =
        (state.store.itemStore item).enumeratorStatusCb)
    (stored : ItemDef → List (List Byte)) :
    let seen :=
      EnumerationAnswers.answered state (.plain request) handled
    Answering
      { state with
        store := handled.state
        enumerators := seen.1
        queue := rest
        stored := stored
        answers := state.answers ++ seen.2 }
      done waiting := by
  refine answering.congr rfl (List.append_nil _) ?_ onDoneCb
    (fun _ _ => rfl)
  rw [first]
  rfl

/-- The first of the waiting calls is answered. -/
theorem Answering.dispatchBegin
    (answering : Answering state done waiting)
    {item : ItemDef}
    {enumerator : Nat}
    {rest : List QueuedMessage}
    (first : state.queue = .beginEnumerate item enumerator :: rest)
    (stands :
      StandsAt (keptItems item (state.stored item))
        (state.enumerators enumerator).startIndex
        (beginEnumerate state.store item (state.enumerators enumerator))) :
    ∃ call later, waiting = call :: later ∧
      Answering (enumerated state item enumerator rest)
        (done ++ [call]) later := by
  have queued := answering.queued
  rw [first] at queued
  cases waiting with
  | nil => cases queued
  | cons call later =>
      obtain ⟨same, others⟩ := List.cons.inj queued
      obtain ⟨sameItem, sameEnumerator⟩ := Prod.mk.inj same
      have waits := answering.waits call (List.mem_cons_self ..)
      have callback (other : ItemDef) :
          ((enumerated state item enumerator rest).store.itemStore
              other).enumeratorStatusCb =
            (state.store.itemStore other).enumeratorStatusCb :=
        beginEnumerate_enumeratorStatusCb _ _ _ other
      have startIndex :
          (state.enumerators enumerator).startIndex = call.startIndex := by
        rw [sameEnumerator]
        exact waits.startIndex
      refine ⟨call, later, rfl, ?_⟩
      refine
        { calls := ?_
          answered := ?_
          queued := others
          waits := ?_ }
      · rw [List.append_assoc]
        exact answering.calls
      · refine List.rel_append answering.answered (.cons ?_ .nil)
        refine
          { item := sameItem
            enumerator := sameEnumerator
            onDoneCb := ?_
            positioned := ?_ }
        · refine (callback item).trans ?_
          rw [sameItem]
          exact waits.onDoneCb
        · rw [← startIndex]
          exact stands
      · intro other member
        have otherWaits :=
          answering.waits other (List.mem_cons_of_mem _ member)
        refine ⟨?_, ?_⟩
        · rw [callback]
          exact otherWaits.onDoneCb
        · rw [enumerated, startIndex_update _ _
            (beginEnumerate_enumerator_startIndex _ _ _)]
          exact otherWaits.startIndex

/-- What an enumerator contains does not matter to the deletes. -/
theorem contents_read
    {stored : ItemDef → List (List Byte)}
    {store : ItemStoreState}
    {message : QueuedMessage}
    {rest : List Request}
    (contents :
      Contents stored { store := store, queue := message.abstract :: rest })
    (enumerators : Nat → Enumerator) :
    Contents stored
      { store := store, queue := message.read enumerators :: rest } := by
  cases message with
  | plain request => exact contents
  | beginEnumerate item enumerator => exact contents.readEnumerator _

/-- A step in which a message other than a request to enumerate is sent. -/
theorem Invariant.publish
    (invariant : Invariant state)
    {store : ItemStoreState}
    {stored : ItemDef → List (List Byte)}
    {request : Request}
    (contents :
      Contents stored
        { store := store
          queue :=
            state.queue.map QueuedMessage.abstract ++ [request] })
    (noEnumeration :
      ∀ item enumerator, request ≠ .beginEnumerate item enumerator)
    (onDoneCb : ∀ item,
      (store.itemStore item).enumeratorStatusCb =
        (state.store.itemStore item).enumeratorStatusCb) :
    Invariant
      { state with
        store := store
        queue := state.queue ++ [.plain request]
        stored := stored } where
  contents := by
    rw [List.map_append]
    exact contents
  byAddress := by
    intro item enumerator member
    simp only [List.mem_append, List.mem_singleton,
      QueuedMessage.plain.injEq] at member
    rcases member with earlier | last
    · exact invariant.byAddress item enumerator earlier
    · exact noEnumeration item enumerator last.symm
  answering := by
    obtain ⟨done, waiting, answering⟩ := invariant.answering
    exact ⟨done, waiting, answering.publish onDoneCb request stored⟩

/-- A step that leaves the queue alone. -/
theorem Invariant.keepQueue
    (invariant : Invariant state)
    {store : ItemStoreState}
    {enumerators : Nat → Enumerator}
    (contents :
      Contents state.stored
        { store := store
          queue := state.queue.map QueuedMessage.abstract })
    (onDoneCb : ∀ item,
      (store.itemStore item).enumeratorStatusCb =
        (state.store.itemStore item).enumeratorStatusCb)
    (startIndex : ∀ item enumerator,
      .beginEnumerate item enumerator ∈ state.queue →
      (enumerators enumerator).startIndex =
        (state.enumerators enumerator).startIndex) :
    Invariant { state with store := store, enumerators := enumerators } where
  contents := contents
  byAddress := invariant.byAddress
  answering := by
    obtain ⟨done, waiting, answering⟩ := invariant.answering
    refine ⟨done, waiting, answering.congr rfl rfl rfl onDoneCb ?_⟩
    intro call member
    exact startIndex call.item call.enumerator (answering.mem_queue member)

/-- The message of a delete is not read as anything else. -/
theorem mem_map_abstract_erase
    {queue : List QueuedMessage}
    {parameters : EraseParameters}
    (member : .erase parameters ∈ queue.map QueuedMessage.abstract) :
    .plain (.erase parameters) ∈ queue := by
  obtain ⟨message, queued, same⟩ := List.mem_map.mp member
  cases message with
  | plain request =>
      rw [← show request = .erase parameters from same]
      exact queued
  | beginEnumerate => cases same

/-- What a message changes of the items, when it is read as it is. -/
theorem Invariant.contentsDispatched
    (invariant : Invariant state)
    (proper : Proper state .dispatch)
    {message : QueuedMessage}
    {rest : List QueuedMessage}
    (first : state.queue = message :: rest)
    {handled : Handled}
    (result :
      listener state.store (message.read state.enumerators) =
        .ok handled) :
    Contents
      (storedAfter state.store state.stored
        (message.read state.enumerators))
      { store := handled.state
        queue := rest.map QueuedMessage.abstract } := by
  have contents := invariant.contents
  rw [first, List.map_cons] at contents
  have read := contents_read contents state.enumerators
  refine read.dispatch ?_ rfl result ?_
  · intro item later queue erasing
    cases message with
    | plain request =>
        obtain ⟨rfl, _⟩ := List.cons.inj queue
        exact proper.reminders rfl item rest first erasing
    | beginEnumerate => cases (List.cons.inj queue).1
  · intro item pending
    refine read.toDeletesSound.pending_addsNothing ?_ rfl pending
    intro data adds listens storeIdle member
    cases message with
    | plain request =>
        cases adds
        exact proper.adds rfl item data rest first listens storeIdle
          (mem_map_abstract_erase member)
    | beginEnumerate => cases adds

/-- The dispatch of the first message. -/
theorem Invariant.dispatch
    (invariant : Invariant state)
    (proper : Proper state .dispatch)
    {message : QueuedMessage}
    {rest : List QueuedMessage}
    (first : state.queue = message :: rest)
    {handled : Handled}
    (result :
      listener state.store (message.read state.enumerators) =
        .ok handled) :
    let seen := answered state message handled
    Invariant
      { state with
        store := handled.state
        enumerators := seen.1
        queue := rest
        stored :=
          storedAfter state.store state.stored
            (message.read state.enumerators)
        answers := state.answers ++ seen.2 } := by
  intro seen
  have contents := invariant.contents
  rw [first, List.map_cons] at contents
  have read := (contents_read contents state.enumerators).queueSound
  have dispatched := read.sound.dispatched (read.admissible rfl) result
  have byAddress : ∀ item enumerator,
      .plain (.beginEnumerate item enumerator) ∉ rest := by
    intro item enumerator member
    apply invariant.byAddress item enumerator
    rw [first]
    exact List.mem_cons_of_mem _ member
  refine ⟨invariant.contentsDispatched proper first result, byAddress, ?_⟩
  obtain ⟨done, waiting, answering⟩ := invariant.answering
  cases message with
  | plain request =>
      have callbacks (item : ItemDef) :=
        (read.sound.keepsClients dispatched item).1
      exact ⟨done, waiting, answering.dispatchPlain first callbacks _⟩
  | beginEnumerate item enumerator =>
      obtain ⟨listens, idle⟩ := proper.ready rfl item enumerator rest first
      have notDeleted :
          .erase (eraseOf item) ∉
            QueuedMessage.abstract (.beginEnumerate item enumerator) ::
              rest.map QueuedMessage.abstract := by
        intro member
        rcases List.mem_cons.mp member with now | later
        · cases now
        · exact proper.notDeleted rfl item enumerator rest first
            (mem_map_abstract_erase later)
      have stands := contents.standsAt listens notDeleted
        (proper.honoured rfl item enumerator rest first)
      rw [← beginEnumerate_startIndex] at stands
      cases dispatched with
      | enumerated _ _ rest storeIdle =>
          obtain ⟨call, later, _, answered⟩ :=
            answering.dispatchBegin first stands
          exact ⟨done ++ [call], later, answered⟩
      | ignored busy _ =>
          rcases busy with erasing | enumerating
          · rw [listens] at erasing
            cases erasing
          · rw [QueuedMessage.read, Request.item, idle] at enumerating
            cases enumerating

/-- Every step under the condition keeps the invariant. -/
theorem Invariant.step
    (invariant : Invariant state)
    (stepped : step state event = .ok next)
    (proper : Proper state event) :
    Invariant next := by
  have contents := invariant.contents
  have sound := contents.queueSound
  cases event with
  | addItem item data =>
      cases stepped
      refine invariant.publish
        (contents.publish (.addItem item data.val) trivial
          (by rintro ⟨⟩) (by rintro _ ⟨⟩) ?_)
        (by rintro _ _ ⟨⟩) (fun _ => rfl)
      rintro _ _ ⟨⟩
      exact data.property
  | deleteAllItems item =>
      have deleted := deleteAllItems_eq (sound.sound.placed item).static
      simp only [EnumerationAnswers.step, deleted, bind, Except.bind]
        at stepped
      cases stepped
      refine invariant.publish (contents.deleteAllItems item)
        (by rintro _ _ ⟨⟩) ?_
      intro other
      by_cases same : other = item
      · rw [same, countersCleared, modifyInfo_same]
      · rw [countersCleared, modifyInfo_other _ _ same]
  | setStartIndex enumerator startIndex =>
      cases stepped
      refine invariant.keepQueue contents (fun _ => rfl) ?_
      intro item other queued
      by_cases same : other = enumerator
      · rw [same] at queued ⊢
        rw [Function.update_self]
        exact (proper.startIndex enumerator startIndex rfl item queued).symm
      · rw [Function.update_of_ne same]
  | beginEnumerate item enumerator onDoneCb =>
      obtain ⟨done, waiting, answering⟩ := invariant.answering
      have called := answering.call proper stepped
      cases stepped
      have same := @sameContent_modifyInfo state.store item
        (fun info => { info with enumeratorStatusCb := onDoneCb })
        fun _ => ⟨_, _, _, rfl⟩
      refine ⟨?_, ?_, _, _, called⟩
      · rw [List.map_append]
        exact (contents.sameContent same).publish _ trivial
          (by rintro ⟨⟩) (by rintro _ ⟨⟩) (by rintro _ _ ⟨⟩)
      · intro other address member
        simp only [List.mem_append, List.mem_singleton, reduceCtorEq,
          or_false] at member
        exact invariant.byAddress other address member
  | endEnumerate item enumerator =>
      cases stepped
      have same := @sameContent_modifyInfo state.store item
        (fun info => { info with currentState := .idle })
        fun _ => ⟨_, _, _, rfl⟩
      refine invariant.keepQueue (contents.sameContent same) ?_ ?_
      · intro other
        rw [endEnumerate]
        by_cases same : other = item
        · rw [same, modifyInfo_same]
        · rw [modifyInfo_other _ _ same]
      · intro _ other _
        have kept :
            (endEnumerate state.store item
              (state.enumerators enumerator)).2.startIndex =
              (state.enumerators enumerator).startIndex :=
          rfl
        exact startIndex_update _ _ kept other
  | getNext enumerator =>
      cases stepped
      have same := sameContent_getNext state.store
        (state.enumerators enumerator)
      refine invariant.keepQueue (contents.sameContent same) ?_ ?_
      · intro item
        exact getNext_enumeratorStatusCb _ _ item
      · intro _ other _
        exact startIndex_update _ _ (getNext_startIndex _ _) other
  | dispatch =>
      cases queue : state.queue with
      | nil =>
          simp only [EnumerationAnswers.step, queue] at stepped
          cases stepped
          exact invariant
      | cons message rest =>
          simp only [EnumerationAnswers.step, queue] at stepped
          obtain ⟨handled, result, done⟩ := bind_eq_ok stepped
          cases done
          exact invariant.dispatch proper queue result
  | endOfPage =>
      simp only [EnumerationAnswers.step] at stepped
      split at stepped
      · cases stepped
        exact invariant
      · rename_i pending
        have ended := contents.endOfPage pending
        cases stepped
        cases published : (endOfPage state.store).2 with
        | true =>
            rw [published] at ended
            exact invariant.publish ended (by rintro _ _ ⟨⟩)
              (fun _ => rfl)
        | false =>
            rw [published] at ended
            exact invariant.keepQueue ended (fun _ => rfl)
              (fun _ _ _ => rfl)

/-- The items of a booted item store. -/
theorem BootedWith.contents
    {stored : ItemDef → List (List Byte)}
    {store : ItemStoreState}
    (booted : BootedWith stored store) :
    Contents stored { store := store, queue := [] } := by
  have starts : queueSystem.start { store := store, queue := [] } := by
    refine ⟨?_, rfl⟩
    intro item
    obtain ⟨log, _, regular, tracks⟩ := booted.tracks item
    exact ⟨⟨log, 0, Nat.zero_le _, regular, tracks⟩, booted.idle item⟩
  refine
    { deletesSound_start starts with
      deleted := ?_
      described := ?_ }
  · intro item pending
    obtain ⟨_, _, _, tracks⟩ := booted.tracks item
    exact (not_pending_of_atRest rfl ⟨tracks.listenerIdle, tracks.idle⟩
      tracks.noReminder pending).elim
  · intro item
    obtain ⟨log, items, regular, tracks⟩ := booted.tracks item
    have atRest : AtRest store := ⟨tracks.listenerIdle, tracks.idle⟩
    exact .inr (.holds ⟨items, .inr (.inl rfl)⟩
      (tracks.holds regular (Nat.zero_le _))
      (fun page _ => atRest.notCondemned page))

/-- The invariant holds in every run under the condition. -/
theorem invariant_run
    {events : List Event}
    (run : Run (clientSystem.restrict Proper) events state) :
    Invariant state := by
  refine run.invariant ?_ ?_
  · rintro state ⟨booted, queue, calls, answers⟩
    refine ⟨?_, ?_, [], [], ?_⟩
    · rw [queue]
      exact booted.contents
    · rw [queue]
      nofun
    · refine ⟨calls, ?_, ?_, nofun⟩
      · rw [answers]
        exact .nil
      · rw [queue]
        rfl
  · intro state event next invariant moved
    exact invariant.step moved.1 moved.2

end Steps

/--
When the queue is empty, the calls and the invocations of callbacks agree one
by one.
-/
theorem requests_answered
    {events : List Event}
    {state : ClientState}
    (run : Run (clientSystem.restrict Proper) events state)
    (processed : state.queue = []) :
    List.Forall₂ Answers state.calls state.answers := by
  obtain ⟨done, waiting, answering⟩ := (invariant_run run).answering
  have queued := answering.queued
  rw [processed] at queued
  have all : waiting = [] := List.map_eq_nil_iff.mp queued.symm
  rw [answering.calls, all, List.append_nil]
  exact answering.answered

/-- The clients after a boot. -/
def started (store : ItemStoreState) : ClientState where
  store := store
  enumerators := fun _ => closedEnumerator
  queue := []
  stored := fun _ => []
  calls := []
  answers := []

/-- Booting over erased flash. -/
theorem start_erasedFlash :
    ∃ store,
      Run clientSystem [] (started store) ∧
        Run (clientSystem.restrict Proper) [] (started store) ∧
        ∀ item, Tracks item StoreLog.empty 0 store ∧
          (store.itemStore item).currentState = .idle := by
  obtain ⟨store, _, each⟩ := init_empty
  have booted : BootedWith (fun _ => []) store := by
    refine ⟨?_, fun item => (each item).2⟩
    intro item
    exact ⟨StoreLog.empty, rfl, StoreLog.regular_empty _, (each item).1⟩
  exact ⟨store, .start ⟨booted, rfl, rfl, rfl⟩,
    .start ⟨booted, rfl, rfl, rfl⟩, each⟩

/-- An idle item store enumerates. -/
theorem step_dispatch_begin
    {state : ClientState}
    {item : ItemDef}
    {enumerator : Nat}
    {rest : List QueuedMessage}
    (first : state.queue = .beginEnumerate item enumerator :: rest)
    (listenerIdle : state.store.listenerState = .idle)
    (storeIdle : (state.store.itemStore item).currentState = .idle) :
    step state .dispatch =
      .ok (enumerated state item enumerator rest) := by
  have handled :
      listener state.store
          (.beginEnumerate item (state.enumerators enumerator)) =
        idleState state.store
          (.beginEnumerate item (state.enumerators enumerator)) := by
    rw [listener, listenerIdle]
    simp only [listenerIdleState, Request.item, storeIdle]
  simp only [step, first, QueuedMessage.read, handled]
  rfl

/-- A store that is enumerated drops the request. -/
theorem step_dispatch_dropped
    {state : ClientState}
    {item : ItemDef}
    {enumerator : Nat}
    {rest : List QueuedMessage}
    (first : state.queue = .beginEnumerate item enumerator :: rest)
    (listenerIdle : state.store.listenerState = .idle)
    (busy :
      (state.store.itemStore item).currentState = .enumerating) :
    step state .dispatch = .ok { state with queue := rest } := by
  have handled :
      listener state.store
          (.beginEnumerate item (state.enumerators enumerator)) =
        .ok
          { state := state.store
            consumed := false
            enumeration := none } := by
    rw [listener, listenerIdle]
    simp only [listenerIdleState, Request.item, busy]
    rfl
  simp only [step, first, QueuedMessage.read, handled]
  simp only [answered, storedAfter, bind, Except.bind, List.append_nil]

/-- An idle item store executes an add. -/
theorem step_dispatch_added
    {state : ClientState}
    {item : ItemDef}
    {data : List Byte}
    {rest : List QueuedMessage}
    (first : state.queue = .plain (.addItem item data) :: rest)
    (listenerIdle : state.store.listenerState = .idle)
    (storeIdle : (state.store.itemStore item).currentState = .idle)
    {after : ItemStoreState}
    (added : addItem state.store item data = .ok (after, true)) :
    step state .dispatch =
      .ok
        { state with
          store := after
          queue := rest
          stored :=
            Function.update state.stored item
              (state.stored item ++ [data]) } := by
  have handled :
      listener state.store (.addItem item data) =
        idleState state.store (.addItem item data) := by
    rw [listener, listenerIdle]
    simp only [listenerIdleState, Request.item, storeIdle]
  simp only [step, first, QueuedMessage.read, handled, idleState, added,
    storedAfter, listenerIdle, storeIdle, and_self, if_true, answered, bind,
    Except.bind, List.append_nil]

/-- A call that concerns neither a start index nor a callback. -/
theorem proper_call
    {state : ClientState}
    {event : Event}
    (noDispatch : event ≠ .dispatch)
    (callback : ∀ item enumerator onDoneCb,
      event = .beginEnumerate item enumerator onDoneCb →
      ∀ other, .beginEnumerate item other ∈ state.queue →
        (state.store.itemStore item).enumeratorStatusCb = onDoneCb)
    (startIndex : ∀ enumerator startIndex,
      event ≠ .setStartIndex enumerator startIndex ∨ state.queue = []) :
    Proper state event where
  callback := callback
  startIndex := by
    intro enumerator start sets item queued
    rcases startIndex enumerator start with other | empty
    · exact (other sets).elim
    · rw [empty] at queued
      cases queued
  ready := fun dispatches => (noDispatch dispatches).elim
  notDeleted := fun dispatches => (noDispatch dispatches).elim
  honoured := fun dispatches => (noDispatch dispatches).elim
  adds := fun dispatches => (noDispatch dispatches).elim
  reminders := fun dispatches => (noDispatch dispatches).elim

/-- The dispatch of a message while no delete is queued. -/
theorem proper_dispatch
    {state : ClientState}
    (noDelete : ∀ parameters, .plain (.erase parameters) ∉ state.queue)
    (begins : ∀ item enumerator rest,
      state.queue = .beginEnumerate item enumerator :: rest →
      (state.store.listenerState = .idle ∧
          (state.store.itemStore item).currentState = .idle) ∧
        HonouredAt item (state.store.itemStore item)
          (keptItems item (state.stored item))
          (state.enumerators enumerator).startIndex) :
    Proper state .dispatch := by
  have noDeleteBehind {message : QueuedMessage} {rest : List QueuedMessage}
      (first : state.queue = message :: rest)
      (parameters : EraseParameters) :
      .plain (.erase parameters) ∉ rest := by
    intro member
    apply noDelete parameters
    rw [first]
    exact List.mem_cons_of_mem _ member
  exact
    { callback := by rintro _ _ _ ⟨⟩
      startIndex := by rintro _ _ ⟨⟩
      ready := fun _ item enumerator rest first =>
        (begins item enumerator rest first).1
      notDeleted := fun _ item enumerator rest first =>
        noDeleteBehind first _
      honoured := fun _ item enumerator rest first =>
        (begins item enumerator rest first).2
      adds := fun _ item data rest first _ _ => noDeleteBehind first _
      reminders := by
        intro _ item rest first _
        refine (noDelete (eraseOf item) ?_).elim
        rw [first]
        exact List.mem_cons_self .. }

/-- An add without other messages is called and dispatched. -/
theorem run_added
    {events : List Event}
    {state : ClientState}
    (run : Run (clientSystem.restrict Proper) events state)
    (queue : state.queue = [])
    {item : ItemDef}
    (data : ItemBytes item)
    (listenerIdle : state.store.listenerState = .idle)
    (storeIdle : (state.store.itemStore item).currentState = .idle)
    {after : ItemStoreState}
    (added : addItem state.store item data.val = .ok (after, true)) :
    Run (clientSystem.restrict Proper)
      (events ++ [.addItem item data] ++ [.dispatch])
      { state with
        store := after
        queue := []
        stored :=
          Function.update state.stored item
            (state.stored item ++ [data.val]) } := by
  have called := run.step (.addItem item data)
    ⟨rfl, proper_call (by rintro ⟨⟩) (by rintro _ _ _ ⟨⟩)
      fun _ _ => .inl (by rintro ⟨⟩)⟩
  rw [queue, List.nil_append] at called
  have executed := @step_dispatch_added
    { state with queue := [.plain (.addItem item data.val)] }
    item data.val [] rfl listenerIdle storeIdle after added
  refine called.step .dispatch ⟨executed, proper_dispatch ?_ ?_⟩
  · intro parameters member
    cases List.mem_singleton.mp member
  · intro _ _ _ first
    cases first

/-- A sample other than `someItem`. -/
def otherSample : ItemBytes .measurementSample :=
  ⟨List.replicate 8 2, rfl⟩

/-- The samples that the next runs store. -/
def twoSamples : List (List Byte) :=
  [(someItem .measurementSample).val, otherSample.val]

/-- Two start indices that a store with two samples honours. -/
theorem honouredAt_twoSamples
    (info : ItemStoreInfo)
    {startIndex : Int}
    (start : startIndex = 0 ∨ startIndex = 1) :
    HonouredAt .measurementSample info
      (keptItems .measurementSample twoSamples) startIndex := by
  have kept : keptItems .measurementSample twoSamples = twoSamples := by
    decide
  have capacity : (geometry .measurementSample).capacity = 510 := by
    decide
  rw [kept, HonouredAt, capacity]
  rcases start with rfl | rfl
  all_goals simp [twoSamples, firstWanted]

/-- A boot over erased flash with two samples that are added. -/
theorem run_twoSamples :
    ∃ events store,
      Run (clientSystem.restrict Proper) events
          { started store with
            stored :=
              Function.update (fun _ => []) .measurementSample
                twoSamples } ∧
        store.listenerState = .idle ∧
        (store.itemStore .measurementSample).currentState = .idle := by
  obtain ⟨store, _, start, each⟩ := start_erasedFlash
  obtain ⟨tracks, storeIdle⟩ := each .measurementSample
  have holds := tracks.holds (StoreLog.regular_empty _) (Nat.zero_le _)
  obtain ⟨middle, _, stale, added, extended, atRest, one⟩ :=
    addItem_empty holds ⟨tracks.listenerIdle, tracks.idle⟩
      tracks.noReminder (someItem .measurementSample).property
  have middleIdle := extended.currentState.trans storeIdle
  have once := run_added start rfl (someItem .measurementSample)
    tracks.listenerIdle storeIdle added
  obtain ⟨after, _, _, addedAgain, extendedAgain, atRestAgain, _⟩ :=
    one.addItem_room atRest
      (by rw [extended.eraseReminder]; exact tracks.noReminder)
      otherSample.property (by decide)
  have twice := run_added once rfl otherSample atRest.listenerIdle
    middleIdle addedAgain
  refine ⟨[.addItem .measurementSample (someItem .measurementSample),
    .dispatch, .addItem .measurementSample otherSample, .dispatch],
    after, ?_, atRestAgain.listenerIdle,
    extendedAgain.currentState.trans middleIdle⟩
  have stored :
      Function.update
          (Function.update (fun _ => []) ItemDef.measurementSample
            ([] ++ [(someItem .measurementSample).val]))
          .measurementSample
          (Function.update (fun _ => []) ItemDef.measurementSample
            ([] ++ [(someItem .measurementSample).val])
            .measurementSample ++ [otherSample.val]) =
        Function.update (fun _ => []) .measurementSample twoSamples := by
    rw [Function.update_idem, Function.update_self]
    rfl
  rw [← stored]
  exact twice

/-- Both samples, and then the newest one, are asked for. -/
def countingTwice (store : ItemStoreState) : ClientState where
  store :=
    registerCallback
      (registerCallback store .measurementSample .countSamples)
      .measurementSample .countSamples
  enumerators :=
    Function.update (fun _ => closedEnumerator) 1
      { closedEnumerator with startIndex := 1 }
  queue :=
    [.beginEnumerate .measurementSample 0,
      .beginEnumerate .measurementSample 1]
  stored := Function.update (fun _ => []) .measurementSample twoSamples
  calls :=
    [{ item := .measurementSample
       enumerator := 0
       startIndex := 0
       onDoneCb := .countSamples },
      { item := .measurementSample
        enumerator := 1
        startIndex := 1
        onDoneCb := .countSamples }]
  answers := []

/-- Two requests with the same callback wait at once. -/
theorem run_countingTwice :
    ∃ events store,
      Run (clientSystem.restrict Proper) events (countingTwice store) ∧
        store.listenerState = .idle ∧
        (store.itemStore .measurementSample).currentState = .idle := by
  obtain ⟨events, store, run, idle⟩ := run_twoSamples
  have set := run.step (.setStartIndex 1 1)
    ⟨rfl, proper_call (by rintro ⟨⟩) (by rintro _ _ _ ⟨⟩)
      fun _ _ => .inr rfl⟩
  have first := set.step (.beginEnumerate .measurementSample 0 .countSamples)
    ⟨rfl, proper_call (by rintro ⟨⟩) (fun _ _ _ _ _ queued => by cases queued)
      fun _ _ => .inl (by rintro ⟨⟩)⟩
  refine ⟨_, store, first.step (.beginEnumerate .measurementSample 1
    .countSamples) ⟨rfl, proper_call (by rintro ⟨⟩) ?_ ?_⟩, idle⟩
  · rintro _ _ _ ⟨⟩ _ _
    change ((registerCallback store .measurementSample
      .countSamples).itemStore .measurementSample).enumeratorStatusCb = _
    rw [registerCallback, modifyInfo_same]
  · exact fun _ _ => .inl (by rintro ⟨⟩)

/--
The first request counts both samples and ends its enumeration; the second one,
which has waited meanwhile, finds the newest sample.
-/
theorem requests_answered_twoSamples :
    ∃ events state,
      Run (clientSystem.restrict Proper) events state ∧
        state.stored .measurementSample = twoSamples ∧
        state.calls.map (·.startIndex) = [0, 1] ∧
        List.Forall₂ Answers state.calls state.answers := by
  obtain ⟨events, store, run, listens, storeIdle⟩ := run_countingTwice
  have idle : ((countingTwice store).store.itemStore
      .measurementSample).currentState = .idle := by
    rw [countingTwice, registerCallback, registerCallback, modifyInfo_same,
      modifyInfo_same]
    exact storeIdle
  have noDelete : ∀ parameters,
      .plain (.erase parameters) ∉ (countingTwice store).queue := by
    intro parameters member
    simp [countingTwice] at member
  have once := run.step .dispatch
    ⟨step_dispatch_begin rfl listens idle, proper_dispatch noDelete (by
      intro _ _ _ queue
      cases queue
      exact ⟨⟨listens, idle⟩, honouredAt_twoSamples _ (.inl rfl)⟩)⟩
  have ended := once.step (.endEnumerate .measurementSample 0)
    ⟨rfl, proper_call (by rintro ⟨⟩) (by rintro _ _ _ ⟨⟩)
      fun _ _ => .inl (by rintro ⟨⟩)⟩
  have same := sameContent_beginEnumerate (countingTwice store).store
    .measurementSample closedEnumerator
  have listensAgain := same.listenerState.trans listens
  have idleAgain : ((endEnumerate
      (enumerated (countingTwice store) .measurementSample 0
        [.beginEnumerate .measurementSample 1]).store .measurementSample
      closedEnumerator).1.itemStore .measurementSample).currentState =
        .idle := by
    rw [endEnumerate, modifyInfo_same]
  have noDeleteAgain : ∀ parameters,
      .plain (.erase parameters) ∉
        [QueuedMessage.beginEnumerate .measurementSample 1] := by
    intro parameters member
    cases List.mem_singleton.mp member
  have twice := ended.step .dispatch
    ⟨step_dispatch_begin rfl listensAgain idleAgain,
      proper_dispatch noDeleteAgain (by
        intro _ _ _ queue
        cases queue
        exact ⟨⟨listensAgain, idleAgain⟩,
          honouredAt_twoSamples _ (.inr rfl)⟩)⟩
  exact ⟨_, _, twice, rfl, rfl, requests_answered twice rfl⟩

/-- `GET_AVAILABLE_SAMPLES` right after a boot. -/
def counting (store : ItemStoreState) : ClientState where
  store := registerCallback store .measurementSample .countSamples
  enumerators := fun _ => closedEnumerator
  queue := [.beginEnumerate .measurementSample 0]
  stored := fun _ => []
  calls :=
    [{ item := .measurementSample
       enumerator := 0
       startIndex := 0
       onDoneCb := .countSamples }]
  answers := []

/-- `SET_REQUESTED_SAMPLES` while the first request still waits. -/
def overlapping (store : ItemStoreState) : ClientState where
  store :=
    registerCallback (counting store).store .measurementSample
      .beginReadSamples
  enumerators := fun _ => closedEnumerator
  queue :=
    [.beginEnumerate .measurementSample 0,
      .beginEnumerate .measurementSample 0]
  stored := fun _ => []
  calls :=
    (counting store).calls ++
      [{ item := .measurementSample
         enumerator := 0
         startIndex := 0
         onDoneCb := .beginReadSamples }]
  answers := []

/--
A second call replaces the callback of the first one before the message of the
first one is dispatched.
-/
theorem requests_answered_not_overlapping :
    ¬ ∀ events state, Run clientSystem events state →
      state.queue = [] → state.store.listenerState = .idle →
      List.Forall₂ Answers state.calls state.answers := by
  intro answers
  obtain ⟨store, start, _, each⟩ := start_erasedFlash
  obtain ⟨tracks, storeIdle⟩ := each .measurementSample
  have counts : Run clientSystem
      [.beginEnumerate .measurementSample 0 .countSamples]
      (counting store) :=
    .step start _ rfl
  have overlaps : Run clientSystem
      [.beginEnumerate .measurementSample 0 .countSamples,
        .beginEnumerate .measurementSample 0 .beginReadSamples]
      (overlapping store) :=
    .step counts _ rfl
  have idle : ((overlapping store).store.itemStore
      .measurementSample).currentState = .idle := by
    rw [overlapping, counting, registerCallback, registerCallback,
      modifyInfo_same, modifyInfo_same]
    exact storeIdle
  have once := overlaps.step .dispatch
    (step_dispatch_begin rfl tracks.listenerIdle idle)
  generalize answersOnce :
    enumerated (overlapping store) .measurementSample 0
      [.beginEnumerate .measurementSample 0] = middle at once
  have same := sameContent_beginEnumerate (overlapping store).store
    .measurementSample closedEnumerator
  have stillIdle : middle.store.listenerState = .idle := by
    rw [← answersOnce]
    exact same.listenerState.trans tracks.listenerIdle
  have queue : middle.queue = [.beginEnumerate .measurementSample 0] := by
    rw [← answersOnce]
    rfl
  -- The first call is answered with the callback of the second one.
  have mixed {more : List Answer}
      (all : List.Forall₂ Answers middle.calls
        (middle.answers ++ more)) : False := by
    rw [← answersOnce] at all
    cases all with
    | cons first _ =>
        have callback := first.onDoneCb
        rw [beginEnumerate_enumeratorStatusCb, overlapping,
          registerCallback, modifyInfo_same] at callback
        cases callback
  cases busy : (middle.store.itemStore .measurementSample).currentState with
  | idle =>
      have twice := once.step .dispatch
        (step_dispatch_begin queue stillIdle busy)
      have finallyIdle := (sameContent_beginEnumerate middle.store
        .measurementSample (middle.enumerators 0)).listenerState
      exact mixed (answers _ _ twice rfl (finallyIdle.trans stillIdle))
  | enumerating =>
      have twice := once.step .dispatch
        (step_dispatch_dropped queue stillIdle busy)
      have all := answers _ _ twice rfl stillIdle
      rw [← List.append_nil middle.answers] at all
      exact mixed all

end DemoBoard.EnumerationAnswers
