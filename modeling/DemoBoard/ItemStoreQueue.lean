import DemoBoard.ItemCounters
import DemoBoard.ItemStoreErase
import DemoBoard.TransitionRuns

namespace DemoBoard.ItemStore

open TransitionRuns ItemCounters

/-!
# The item store behind its queue

Calls of the clients change metadata at once and publish messages; the
messages are dispatched in the order in which they were published; an erase
makes progress at any time.  Nothing is lost in the queue.
-/

/-- The item store and the messages that wait for it. -/
structure QueueState where
  store : ItemStoreState
  queue : List Request

/-- What can happen next. -/
inductive QueueEvent where
  | addItem (item : ItemDef) (data : ItemBytes item)
  | deleteAllItems (item : ItemDef)
  | beginEnumerate
      (item : ItemDef) (enumerator : Enumerator)
      (onDoneCb : EnumeratorCallback)
  | endEnumerate (item : ItemDef) (enumerator : Enumerator)
  | getNext (enumerator : Enumerator)
  /-- The first message of the queue reaches the listener. -/
  | dispatch
  /-- A page of the running erase is erased. -/
  | endOfPage

/-- A step of the item store; nothing happens where an event is impossible. -/
def queueStep (state : QueueState) :
    QueueEvent → Except AssertionFailure QueueState
  | .addItem item data =>
      .ok { state with queue := state.queue ++ [.addItem item data.val] }
  | .deleteAllItems item => do
      let deleted ← deleteAllItems state.store item
      .ok { store := deleted.1, queue := state.queue ++ [.erase deleted.2] }
  | .beginEnumerate item enumerator onDoneCb =>
      .ok
        { store := registerCallback state.store item onDoneCb
          queue := state.queue ++ [.beginEnumerate item enumerator] }
  | .endEnumerate item enumerator =>
      .ok { state with store := (endEnumerate state.store item enumerator).1 }
  | .getNext enumerator =>
      .ok { state with store := (getNext state.store enumerator).1 }
  | .dispatch =>
      match state.queue with
      | [] => .ok state
      | request :: rest => do
          let handled ← listener state.store request
          .ok { store := handled.state, queue := rest }
  | .endOfPage =>
      if state.store.flash.processNextPage = none then
        .ok state
      else
        let ended := endOfPage state.store
        .ok
          { store := ended.1
            queue :=
              if ended.2 then state.queue ++ [.eraseDone] else state.queue }

/-- Both stores are at rest and describe a log, as after a boot. -/
def Booted (store : ItemStoreState) : Prop :=
  ∀ item,
    (∃ log stale,
      stale ≤ (geometry item).capacity ∧
        log.Regular (geometry item) ∧ Tracks item log stale store) ∧
      (store.itemStore item).currentState = .idle

/-- The item store from a boot on. -/
def queueSystem : System QueueState QueueEvent where
  start := fun state => Booted state.store ∧ state.queue = []
  step := fun state event next => queueStep state event = .ok next

/-- A request that a client or the flash driver can publish. -/
def Publishable : Request → Prop
  | .erase parameters => ∃ item, parameters = eraseOf item
  | _ => True

/-- The invariant of the item store and its queue. -/
structure QueueSound (state : QueueState) : Prop where
  sound : Sound state.store (state.queue.count .eraseDone)
  publishable : ∀ request ∈ state.queue, Publishable request

theorem Booted.sound
    {store : ItemStoreState}
    (booted : Booted store) :
    Sound store 0 := by
  obtain ⟨⟨_, _, _, _, tracks⟩, _⟩ := booted .systemConfig
  refine ⟨.idle ⟨tracks.listenerIdle, tracks.idle⟩ tracks.noReminder, ?_, ?_⟩
  · rw [tracks.noReminder]
    intro pending
    cases pending
  · intro item
    obtain ⟨⟨log, stale, stale_le, regular, own⟩, _⟩ := booted item
    exact own.placed regular stale_le

section Steps

variable {state next : QueueState}
variable {event : QueueEvent}
variable {request : Request}
variable {rest : List Request}

/-- The first message of the queue can be dispatched. -/
theorem QueueSound.admissible
    (sound : QueueSound state)
    (first : state.queue = request :: rest) :
    Admissible (state.queue.count .eraseDone) request := by
  have publishable := sound.publishable request
    (by rw [first]; exact List.mem_cons_self ..)
  cases request with
  | addItem item data => exact .addItem item data
  | beginEnumerate item enumerator => exact .beginEnumerate item enumerator
  | erase parameters =>
      obtain ⟨item, rfl⟩ := publishable
      exact .erase item
  | eraseDone =>
      have phase := sound.sound.phase
      rw [first, List.count_cons_self] at phase ⊢
      cases phase' : rest.count Request.eraseDone with
      | zero => exact .eraseDone rfl
      | succ more =>
          rw [phase'] at phase
          cases phase

/-- What is left of the ends of erases in the queue. -/
theorem donesAfter_count
    (sound : QueueSound state)
    (first : state.queue = request :: rest) :
    donesAfter (state.queue.count .eraseDone) request =
      rest.count .eraseDone := by
  have admissible := sound.admissible first
  rw [first] at admissible ⊢
  cases admissible with
  | eraseDone published =>
      rw [List.count_cons_self] at published
      rw [donesAfter]
      omega
  | addItem item data => simp [donesAfter]
  | erase item => simp [donesAfter]
  | beginEnumerate item enumerator => simp [donesAfter]

/-- A published message waits behind the others. -/
theorem QueueSound.publish
    (sound : QueueSound state)
    {store : ItemStoreState}
    (storeSound : Sound store (state.queue.count .eraseDone))
    (publishable : Publishable request)
    (notDone : request ≠ .eraseDone) :
    QueueSound { store := store, queue := state.queue ++ [request] } := by
  refine ⟨?_, ?_⟩
  · simp only [List.count_append, List.count_cons_of_ne notDone,
      List.count_nil, Nat.add_zero]
    exact storeSound
  · intro other member
    rcases List.mem_append.mp member with earlier | last
    · exact sound.publishable other earlier
    · rw [List.mem_singleton.mp last]
      exact publishable

/-- The first message is read with other data than it was published with. -/
theorem QueueSound.readAs
    {store : ItemStoreState}
    {other : Request}
    (sound : QueueSound { store := store, queue := request :: rest })
    (notDone : request ≠ .eraseDone)
    (publishable : Publishable other)
    (otherNotDone : other ≠ .eraseDone) :
    QueueSound { store := store, queue := other :: rest } := by
  refine ⟨?_, ?_⟩
  · have same := sound.sound
    simp only [List.count_cons_of_ne notDone] at same
    simp only [List.count_cons_of_ne otherNotDone]
    exact same
  · intro message member
    rcases List.mem_cons.mp member with rfl | later
    · exact publishable
    · exact sound.publishable message (List.mem_cons_of_mem _ later)

/-- The first message is dispatched. -/
theorem QueueSound.dispatch
    (sound : QueueSound state)
    (first : state.queue = request :: rest)
    {handled : Handled}
    (result : listener state.store request = .ok handled) :
    QueueSound { store := handled.state, queue := rest } := by
  have admissible := sound.admissible first
  have kept := sound.sound.dispatch admissible
    (sound.sound.dispatched admissible result)
  rw [donesAfter_count sound first] at kept
  refine ⟨kept, ?_⟩
  intro other member
  exact sound.publishable other
    (by rw [first]; exact List.mem_cons_of_mem _ member)

/-- A page is erased. -/
theorem QueueSound.endOfPage
    (sound : QueueSound state)
    (pending : state.store.flash.processNextPage ≠ none) :
    QueueSound
      { store := (ItemStore.endOfPage state.store).1
        queue :=
          if (ItemStore.endOfPage state.store).2 then
            state.queue ++ [.eraseDone]
          else
            state.queue } := by
  obtain ⟨none, _, ended⟩ := sound.sound.endOfPage pending
  cases published : (ItemStore.endOfPage state.store).2 with
  | false =>
      rw [published] at ended
      refine ⟨?_, sound.publishable⟩
      simp only [Bool.false_eq_true, if_false, none]
      exact ended
  | true =>
      rw [published] at ended
      refine ⟨?_, ?_⟩
      · simp only [if_true, List.count_append, none]
        exact ended
      · intro other member
        simp only [if_true, List.mem_append, List.mem_singleton] at member
        rcases member with earlier | rfl
        · exact sound.publishable other earlier
        · exact trivial

/-- `ItemStore_DeleteAllItems` publishes its message. -/
theorem QueueSound.deleteAllItems
    (sound : QueueSound state)
    (item : ItemDef) :
    QueueSound
      { store := countersCleared item state.store
        queue := state.queue ++ [.erase (eraseOf item)] } :=
  sound.publish (sound.sound.countersCleared item) ⟨item, rfl⟩ nofun

/-- What a step does. -/
inductive QueueMove (state : QueueState) :
    QueueEvent → QueueState → Prop where
  | addItem (item : ItemDef) (data : ItemBytes item) :
      QueueMove state (.addItem item data)
        { state with queue := state.queue ++ [.addItem item data.val] }
  | deleteAllItems (item : ItemDef) :
      QueueMove state (.deleteAllItems item)
        { store := countersCleared item state.store
          queue := state.queue ++ [.erase (eraseOf item)] }
  | beginEnumerate
      (item : ItemDef) (enumerator : Enumerator)
      (onDoneCb : EnumeratorCallback) :
      QueueMove state (.beginEnumerate item enumerator onDoneCb)
        { store := registerCallback state.store item onDoneCb
          queue := state.queue ++ [.beginEnumerate item enumerator] }
  | endEnumerate (item : ItemDef) (enumerator : Enumerator) :
      QueueMove state (.endEnumerate item enumerator)
        { state with
          store := (ItemStore.endEnumerate state.store item enumerator).1 }
  | getNext (enumerator : Enumerator) :
      QueueMove state (.getNext enumerator)
        { state with store := (ItemStore.getNext state.store enumerator).1 }
  | noMessage (empty : state.queue = []) :
      QueueMove state .dispatch state
  | dispatched
      {request : Request} {rest : List Request} {handled : Handled}
      (first : state.queue = request :: rest)
      (result : listener state.store request = .ok handled) :
      QueueMove state .dispatch { store := handled.state, queue := rest }
  | noPage (none : state.store.flash.processNextPage = none) :
      QueueMove state .endOfPage state
  | pageErased (pending : state.store.flash.processNextPage ≠ none) :
      QueueMove state .endOfPage
        { store := (ItemStore.endOfPage state.store).1
          queue :=
            if (ItemStore.endOfPage state.store).2 then
              state.queue ++ [.eraseDone]
            else
              state.queue }

/-- A step of a sound item store is one of the moves. -/
theorem QueueSound.move
    (sound : QueueSound state)
    (stepped : queueStep state event = .ok next) :
    QueueMove state event next := by
  cases event with
  | addItem item data =>
      cases stepped
      exact .addItem item data
  | deleteAllItems item =>
      have deleted := deleteAllItems_eq (sound.sound.placed item).static
      simp only [queueStep, deleted, bind, Except.bind] at stepped
      cases stepped
      exact .deleteAllItems item
  | beginEnumerate item enumerator onDoneCb =>
      cases stepped
      exact .beginEnumerate item enumerator onDoneCb
  | endEnumerate item enumerator =>
      cases stepped
      exact .endEnumerate item enumerator
  | getNext enumerator =>
      cases stepped
      exact .getNext enumerator
  | dispatch =>
      cases first : state.queue with
      | nil =>
          simp only [queueStep, first] at stepped
          cases stepped
          exact .noMessage first
      | cons request rest =>
          simp only [queueStep, first] at stepped
          obtain ⟨handled, result, done⟩ := bind_eq_ok stepped
          cases done
          exact .dispatched first result
  | endOfPage =>
      simp only [queueStep] at stepped
      split at stepped
      · next none =>
          cases stepped
          exact .noPage none
      · next pending =>
          cases stepped
          exact .pageErased pending

/-- Every step keeps the item store and its queue sound. -/
theorem QueueSound.step
    (sound : QueueSound state)
    (stepped : queueStep state event = .ok next) :
    QueueSound next := by
  cases sound.move stepped with
  | addItem item data => exact sound.publish sound.sound trivial nofun
  | deleteAllItems item => exact sound.deleteAllItems item
  | beginEnumerate item enumerator onDoneCb =>
      have same := @sameContent_modifyInfo state.store item
        (fun info => { info with enumeratorStatusCb := onDoneCb })
        fun _ => ⟨_, _, _, rfl⟩
      exact sound.publish (same.sound sound.sound) trivial nofun
  | endEnumerate item enumerator =>
      have same := @sameContent_modifyInfo state.store item
        (fun info => { info with currentState := .idle })
        fun _ => ⟨_, _, _, rfl⟩
      exact ⟨same.sound sound.sound, sound.publishable⟩
  | getNext enumerator =>
      exact ⟨(sameContent_getNext state.store enumerator).sound sound.sound,
        sound.publishable⟩
  | noMessage empty => exact sound
  | dispatched first result => exact sound.dispatch first result
  | noPage none => exact sound
  | pageErased pending => exact sound.endOfPage pending

/-- The item store and its queue are sound in every run. -/
theorem queueSound_run
    {events : List QueueEvent}
    (run : Run queueSystem events state) :
    QueueSound state := by
  refine run.invariant ?_ ?_
  · intro state starts
    refine ⟨?_, ?_⟩
    · rw [starts.2]
      exact starts.1.sound
    · intro request member
      rw [starts.2] at member
      cases member
  · intro state event next sound stepped
    exact sound.step stepped

end Steps

section Erases

variable {store : ItemStoreState}
variable {queue : List Request}
variable {page remaining : Nat}

/-- The dispatch of a delete by an idle listener. -/
theorem queueStep_erase
    (rest : AtRest store)
    (item : ItemDef) :
    queueStep { store := store, queue := .erase (eraseOf item) :: queue }
        .dispatch =
      .ok
        { store := beginErase (eraseOf item) store.eraseReminder store
          queue := queue } := by
  simp only [queueStep, listener_erase rest]
  rfl

/-- The end of a page that is not the last one. -/
theorem endOfPage_next
    (flash : store.flash.Erasing page (remaining + 2))
    (small : remaining + 2 < 65536)
    (byte : page + 1 < 256) :
    endOfPage store =
      ({ store with
          flash := store.flash.nextRequested page (remaining + 1) },
        false) := by
  rw [endOfPage, flash.endOfOperation_next small byte]
  rfl

/-- The end of the last page. -/
theorem endOfPage_last
    (flash : store.flash.Erasing page 1) :
    endOfPage store =
      ({ store with flash := store.flash.pageErased page }, true) := by
  rw [endOfPage, flash.endOfOperation_last]
  rfl

theorem queueStep_endOfPage_next
    (flash : store.flash.Erasing page (remaining + 2))
    (small : remaining + 2 < 65536)
    (byte : page + 1 < 256) :
    queueStep { store := store, queue := queue } .endOfPage =
      .ok
        { store :=
            { store with
              flash := store.flash.nextRequested page (remaining + 1) }
          queue := queue } := by
  have requested := flash.processNextPage
  have ended := endOfPage_next flash small byte
  simp only [queueStep, requested, reduceCtorEq, if_false, ended]

/-- The end of the last page publishes the end of the erase. -/
theorem queueStep_endOfPage_last
    (flash : store.flash.Erasing page 1) :
    queueStep { store := store, queue := queue } .endOfPage =
      .ok
        { store := { store with flash := store.flash.pageErased page }
          queue := queue ++ [.eraseDone] } := by
  have requested := flash.processNextPage
  have ended := endOfPage_last flash
  simp only [queueStep, requested, reduceCtorEq, if_false, ended]
  rfl

/-- What the end of each page keeps holds until the end of the last one. -/
theorem lastPage_reached
    {reached : ItemStoreState → Prop}
    (keeps : ∀ store next, reached store →
      store.flash.processNextPage ≠ none →
      endOfPage store = (next, false) → reached next)
    (first : reached store)
    (flash : store.flash.Erasing page (remaining + 1))
    (small : remaining + 1 < 65536)
    (byte : page + remaining < 256) :
    ∃ before erased,
      reached before ∧ before.flash.processNextPage ≠ none ∧
        endOfPage before = ({ store with flash := erased }, true) ∧
        erased.pagesToErase = 0 := by
  have pending (store : ItemStoreState) {page remaining : Nat}
      (flash : store.flash.Erasing page remaining) :
      store.flash.processNextPage ≠ none := by
    rw [flash.processNextPage]
    nofun
  induction remaining generalizing store page with
  | zero =>
      exact ⟨store, store.flash.pageErased page, first,
        pending store flash, endOfPage_last flash, rfl⟩
  | succ remaining inductionHypothesis =>
      have next := endOfPage_next flash small (by omega)
      have later := keeps store _ first (pending store flash) next
      have last := inductionHypothesis later flash.nextRequested (by omega)
        (by omega)
      exact last

/-- What the listener does with a request of the queue. -/
theorem listener_of_queueStep
    {request : Request}
    {after : ItemStoreState}
    (executed :
      queueStep { store := store, queue := [request] } .dispatch =
        .ok { store := after, queue := [] }) :
    ∃ handled,
      listener store request = .ok handled ∧ handled.state = after := by
  simp only [queueStep] at executed
  obtain ⟨handled, result, done⟩ := bind_eq_ok executed
  exact ⟨handled, result, congrArg QueueState.store (Except.ok.inj done)⟩

/-- The end of a delete is dispatched, and no reminder waits. -/
theorem queueStep_deleted
    {item : ItemDef}
    (sound : QueueSound { store := store, queue := [.eraseDone] })
    (parameters : store.eraseParameters = eraseOf item)
    (quiet : hasReminder store.eraseReminder = false) :
    queueStep { store := store, queue := [.eraseDone] } .dispatch =
      .ok
        { store :=
            reinitialised item { store with listenerState := .idle }
          queue := [] } := by
  have admissible := sound.admissible rfl
  obtain ⟨handled, result⟩ := sound.sound.listener_ok admissible nofun
  have dispatched := sound.sound.dispatched admissible result
  simp only [queueStep, result]
  cases dispatched with
  | ignored _ addOrEnumerate =>
      rcases addOrEnumerate with ⟨_, _, same⟩ | ⟨_, _, same⟩ <;> cases same
  | restarted other erasing reminder =>
      rw [reminder, hasReminder_eraseOf] at quiet
      cases quiet
  | deleted other erasing _ finished =>
      rw [eraseOf_injective (parameters.symm.trans finished)]
      rfl
  | wrapped other erasing _ keep _ =>
      rw [parameters] at keep
      cases keep

end Erases

end DemoBoard.ItemStore
