import DemoBoard.ItemStoreHolds

namespace DemoBoard.EnumerationSnapshot

open ByteMemory ItemStore TransitionRuns ItemCounters

/-!
# Open enumerations and the messages in between

While a store is enumerated its own state rejects every message, but the
listener handles messages about erases before the state of a store is
consulted.  Apart from these an open enumeration is a snapshot.
-/

/-- The item store and the client with the open enumeration. -/
structure SnapshotState where
  system : QueueState
  enumerator : Enumerator
  /-- What `ItemStore_GetNext` has returned. -/
  delivered : List (Option (List Byte))
  /-- The stores on which `BeginEnumerate` was executed. -/
  begun : List ItemDef

/-- What can happen while the enumeration is open. -/
inductive Event where
  | getNext
  | other (event : ItemStore.QueueEvent)

/-- The stores on which an event begins an enumeration. -/
def begunBy (system : QueueState) : ItemStore.QueueEvent → List ItemDef
  | .dispatch =>
      match system.queue with
      | [] => []
      | request :: _ =>
          match listener system.store request with
          | .error _ => []
          | .ok handled =>
              (handled.enumeration.map StartedEnumeration.item).toList
  | _ => []

/-- A step of the item store and the client. -/
def step (state : SnapshotState) :
    Event → Except AssertionFailure SnapshotState
  | .getNext =>
      let next := getNext state.system.store state.enumerator
      .ok
        { state with
          system := { state.system with store := next.1 }
          enumerator := next.2.1
          delivered := state.delivered ++ [next.2.2] }
  | .other event => do
      let system ← queueStep state.system event
      .ok
        { state with
          system := system
          begun := state.begun ++ begunBy state.system event }

/--
The enumeration stays open.  Reads of other enumerations are left out; they
are no messages.
-/
def StaysOpen (item : ItemDef) : Event → Prop
  | .other (.endEnumerate other _) => other ≠ item
  | .other (.getNext _) => False
  | _ => True

/-- The event dispatches a message or is a part of an erase. -/
def Event.isMessage : Event → Bool
  | .other .dispatch => true
  | .other .endOfPage => true
  | _ => false

/-- The steps from a state on while the enumeration is open. -/
def openSystem (item : ItemDef) (start : SnapshotState) :
    System SnapshotState Event where
  start := fun state => state = start
  step := fun state event next =>
    step state event = .ok next ∧ StaysOpen item event

/-- `BeginEnumerate` has just reported that a store is ready. -/
structure Opened (item : ItemDef) (start : SnapshotState) : Prop where
  reached : ∃ events before enumerator rest handled,
    Run queueSystem events before ∧
      before.queue = .beginEnumerate item enumerator :: rest ∧
      listener before.store (.beginEnumerate item enumerator) =
        .ok handled ∧
      handled.enumeration =
        some
          { item := item
            enumerator := start.enumerator
            ready := true } ∧
      start.system = { store := handled.state, queue := rest }
  delivered : start.delivered = []
  begun : start.begun = []

/-- The open enumeration does not notice what happens around it. -/
structure Stable
    (item : ItemDef) (start : SnapshotState) (events : List Event)
    (state : SnapshotState) : Prop where
  /-- No page of the store is erased or written. -/
  untouched : ∃ effects,
    state.system.store.flash.history =
        start.system.store.flash.history ++ effects ∧
      Elsewhere item effects
  notReopened : item ∉ state.begun
  /-- Without the messages the same items would have been returned. -/
  sameItems : ∃ quiet,
    Run (openSystem item start)
        (events.filter fun event => !event.isMessage) quiet ∧
      quiet.delivered = state.delivered

/-- The next message starts the erase of a store. -/
inductive StartsErase (item : ItemDef) (system : QueueState) : Prop where
  | delete
      (rest : List Request)
      (first : system.queue = .erase (eraseOf item) :: rest)
      (idle : system.store.listenerState = .idle)
  | reminder
      (rest : List Request)
      (first : system.queue = .eraseDone :: rest)
      (reminded : system.store.eraseReminder = eraseOf item)

/-- The condition under which an open enumeration is a snapshot. -/
def Proper
    (item : ItemDef) (state : SnapshotState) (event : Event) : Prop :=
  event = .other .dispatch → ¬ StartsErase item state.system

/-- A run with messages beside the run without them. -/
structure Invariant
    (item : ItemDef) (start state quiet : SnapshotState) : Prop where
  queueSound : QueueSound state.system
  quietSound : QueueSound quiet.system
  enumerating :
    (state.system.store.itemStore item).currentState = .enumerating
  spared : ∀ page, InStore item page → ¬ Condemned state.system.store page
  positioned : Positioned item state.system.store state.enumerator
  sameStore : SameStore item state.system.store quiet.system.store
  enumerator : quiet.enumerator = state.enumerator
  delivered : quiet.delivered = state.delivered
  untouched : ∃ effects,
    state.system.store.flash.history =
        start.system.store.flash.history ++ effects ∧
      Elsewhere item effects
  notReopened : item ∉ state.begun

section Steps

variable {item : ItemDef}
variable {start state quiet next : SnapshotState}
variable {event : Event}

/-- A message or the end of a page. -/
theorem Invariant.message
    (invariant : Invariant item start state quiet)
    {system : QueueState}
    (queueSound : QueueSound system)
    (spares : Spares item state.system.store system.store)
    {begun : List ItemDef}
    (others : item ∉ begun) :
    Invariant item start
      { state with system := system, begun := state.begun ++ begun }
      quiet := by
  have info := spares.sameStore.info
  refine
    { queueSound := queueSound
      quietSound := invariant.quietSound
      enumerating := ?_
      spared := spares.notCondemned
      positioned := ?_
      sameStore := ?_
      enumerator := invariant.enumerator
      delivered := invariant.delivered
      untouched := ?_
      notReopened := ?_ }
  · rw [info]
    exact invariant.enumerating
  · unfold Positioned
    rw [info]
    exact invariant.positioned
  · refine ⟨invariant.sameStore.info.trans info.symm, ?_⟩
    exact invariant.sameStore.memory.trans spares.sameStore.memory.symm
  · obtain ⟨earlier, history, elsewhere⟩ := invariant.untouched
    obtain ⟨later, laterHistory, laterElsewhere⟩ := spares.effects
    refine ⟨earlier ++ later, ?_, ?_⟩
    · rw [laterHistory, history, List.append_assoc]
    · intro effect member
      rcases List.mem_append.mp member with before | after
      · exact elsewhere effect before
      · exact laterElsewhere effect after
  · intro member
    rcases List.mem_append.mp member with earlier | later
    · exact invariant.notReopened earlier
    · exact others later

/-- A call that changes metadata and publishes at most a message. -/
theorem Invariant.call
    (invariant : Invariant item start state quiet)
    (other : ItemDef)
    (change : ItemStoreInfo → ItemStoreInfo)
    (keeps : other = item → ∀ info,
      (change info).currentState = info.currentState ∧
        (change info).enumeratorStatus = info.enumeratorStatus)
    {system quietSystem : QueueState}
    (store : system.store = modifyInfo state.system.store other change)
    (quietStore :
      quietSystem.store = modifyInfo quiet.system.store other change)
    (queueSound : QueueSound system)
    (quietSound : QueueSound quietSystem) :
    Invariant item start
      { state with system := system, begun := state.begun ++ [] }
      { quiet with system := quietSystem, begun := quiet.begun ++ [] } := by
  have kept :
      (system.store.itemStore item).currentState =
          (state.system.store.itemStore item).currentState ∧
        (system.store.itemStore item).enumeratorStatus =
          (state.system.store.itemStore item).enumeratorStatus := by
    rw [store]
    by_cases same : other = item
    · rw [← same, modifyInfo_same]
      exact keeps same _
    · rw [modifyInfo_other _ _ (Ne.symm same)]
      exact ⟨rfl, rfl⟩
  refine
    { queueSound := queueSound
      quietSound := quietSound
      enumerating := kept.1.trans invariant.enumerating
      spared := ?_
      positioned := ?_
      sameStore := ⟨?_, ?_⟩
      enumerator := invariant.enumerator
      delivered := invariant.delivered
      untouched := ?_
      notReopened := ?_ }
  · rw [store]
    exact invariant.spared
  · unfold Positioned
    rw [kept.2]
    exact invariant.positioned
  · rw [store, quietStore]
    by_cases same : other = item
    · rw [← same, modifyInfo_same, modifyInfo_same, same,
        invariant.sameStore.info]
    · rw [modifyInfo_other _ _ (Ne.symm same),
        modifyInfo_other _ _ (Ne.symm same)]
      exact invariant.sameStore.info
  · rw [store, quietStore]
    exact invariant.sameStore.memory
  · rw [store]
    exact invariant.untouched
  · rw [List.append_nil]
    exact invariant.notReopened

/-- `ItemStore_GetNext` returns the same in both runs. -/
theorem Invariant.getNext
    (invariant : Invariant item start state quiet)
    (stepped : step state .getNext = .ok next) :
    ∃ quietNext, step quiet .getNext = .ok quietNext ∧
      Invariant item start next quietNext := by
  cases stepped
  refine ⟨_, rfl, ?_⟩
  have located := (invariant.queueSound.sound.placed item).toLocated
  obtain ⟨same, sameStore⟩ :=
    invariant.sameStore.getNext located invariant.positioned
  obtain ⟨positioned, change, changed⟩ :=
    getNext_positioned located invariant.positioned
  have left := sameContent_getNext state.system.store state.enumerator
  have right := sameContent_getNext quiet.system.store quiet.enumerator
  refine
    { queueSound := ⟨left.sound invariant.queueSound.sound,
        invariant.queueSound.publishable⟩
      quietSound := ⟨right.sound invariant.quietSound.sound,
        invariant.quietSound.publishable⟩
      enumerating := ?_
      spared := ?_
      positioned := positioned
      sameStore := ?_
      enumerator := ?_
      delivered := ?_
      untouched := ?_
      notReopened := invariant.notReopened }
  · rw [changed, modifyStatus, modifyInfo_same]
    exact invariant.enumerating
  · intro page inStore
    rw [left.condemned_iff]
    exact invariant.spared page inStore
  · rw [invariant.enumerator]
    exact sameStore
  · rw [invariant.enumerator, same]
  · rw [invariant.enumerator, same, invariant.delivered]
  · rw [left.flash]
    exact invariant.untouched

/-- The dispatch of a message. -/
theorem Invariant.dispatch
    (invariant : Invariant item start state quiet)
    (proper : Proper item state (.other .dispatch))
    (stepped : step state (.other .dispatch) = .ok next) :
    Invariant item start next quiet := by
  have sound := invariant.queueSound
  obtain ⟨system, moved, done⟩ := bind_eq_ok stepped
  cases done
  cases sound.move moved with
  | noMessage empty =>
      simp only [begunBy, empty]
      exact invariant.message sound
        (spares_of_same rfl rfl rfl invariant.spared) List.not_mem_nil
  | @dispatched request rest handled first result =>
      simp only [begunBy, first, result]
      have dispatched :=
        sound.sound.dispatched (sound.admissible first) result
      have notIdle :
          LeavesAlone item state.system.store request := by
        rintro other _ _ idle rfl
        rw [invariant.enumerating] at idle
        cases idle
      obtain ⟨spares, others⟩ := spares_dispatched sound.sound
        dispatched notIdle invariant.spared
        (by
          rintro idle rfl
          exact proper rfl (.delete rest first idle))
        (by
          rintro rfl reminded
          exact proper rfl (.reminder rest first reminded))
      refine invariant.message (sound.dispatch first result) spares ?_
      intro member
      simp only [Option.mem_toList, Option.map_eq_some_iff] at member
      obtain ⟨started, enumeration, same⟩ := member
      exact others started enumeration same

/-- The end of a page of a running erase. -/
theorem Invariant.endOfPage
    (invariant : Invariant item start state quiet)
    (stepped : step state (.other .endOfPage) = .ok next) :
    Invariant item start next quiet := by
  have sound := invariant.queueSound
  obtain ⟨system, moved, done⟩ := bind_eq_ok stepped
  cases done
  cases sound.move moved with
  | noPage none =>
      exact invariant.message sound
        (spares_of_same rfl rfl rfl invariant.spared) List.not_mem_nil
  | pageErased pending =>
      exact invariant.message (sound.endOfPage pending)
        (spares_endOfPage sound.sound pending invariant.spared)
        List.not_mem_nil

/-- A call of a client is possible in both runs. -/
theorem Invariant.calls
    (invariant : Invariant item start state quiet)
    {event : ItemStore.QueueEvent}
    (stepped : step state (.other event) = .ok next)
    (staysOpen : StaysOpen item (.other event))
    (call : (Event.other event).isMessage = false) :
    ∃ quietNext, step quiet (.other event) = .ok quietNext ∧
      Invariant item start next quietNext := by
  have sound := invariant.queueSound
  have quietSound := invariant.quietSound
  cases event with
  | addItem other data =>
      cases stepped
      exact ⟨_, rfl, invariant.call other id (fun _ _ => ⟨rfl, rfl⟩)
        (modifyInfo_id _ _).symm (modifyInfo_id _ _).symm
        (sound.publish sound.sound trivial nofun)
        (quietSound.publish quietSound.sound trivial nofun)⟩
  | deleteAllItems other =>
      have deleted := deleteAllItems_eq (sound.sound.placed other).static
      have quietly :=
        deleteAllItems_eq (quietSound.sound.placed other).static
      simp only [step, queueStep, deleted, bind, Except.bind] at stepped
      cases stepped
      refine ⟨_, ?_, invariant.call other
        (fun info =>
          { info with nrOfFullPages := 0, currentPageNrOfItems := 0 })
        (fun _ _ => ⟨rfl, rfl⟩) rfl rfl (sound.deleteAllItems other)
        (quietSound.deleteAllItems other)⟩
      simp only [step, queueStep, quietly, bind, Except.bind]
      rfl
  | beginEnumerate other enumerator onDoneCb =>
      have publishes :=
        @QueueSound.step state.system _
          (.beginEnumerate other enumerator onDoneCb) sound rfl
      have quietPublishes :=
        @QueueSound.step quiet.system _
          (.beginEnumerate other enumerator onDoneCb) quietSound rfl
      cases stepped
      exact ⟨_, rfl, invariant.call other
        (fun info => { info with enumeratorStatusCb := onDoneCb })
        (fun _ _ => ⟨rfl, rfl⟩) rfl rfl publishes quietPublishes⟩
  | endEnumerate other enumerator =>
      have ends :=
        @QueueSound.step state.system _ (.endEnumerate other enumerator)
          sound rfl
      have quietEnds :=
        @QueueSound.step quiet.system _ (.endEnumerate other enumerator)
          quietSound rfl
      cases stepped
      exact ⟨_, rfl, invariant.call other
        (fun info => { info with currentState := .idle })
        (fun same => (staysOpen same).elim) rfl rfl ends quietEnds⟩
  | getNext enumerator => exact staysOpen.elim
  | dispatch => cases call
  | endOfPage => cases call

end Steps

/-- `BeginEnumerate` has reported ready, and nothing has happened since. -/
theorem Opened.invariant
    {item : ItemDef}
    {start : SnapshotState}
    (opened : Opened item start) :
    Invariant item start start start := by
  obtain ⟨events, before, enumerator, rest, handled, run, queue, result,
    enumeration, system⟩ := opened.reached
  have sound := queueSound_run run
  have later := sound.dispatch queue result
  have dispatched :=
    sound.sound.dispatched (sound.admissible queue) result
  rw [← system] at later
  cases dispatched with
  | ignored busy addOrEnumerate => cases enumeration
  | enumerated _ _ atRest storeIdle =>
      have started := Option.some.inj enumeration
      simp only [StartedEnumeration.mk.injEq, true_and] at started
      obtain ⟨same, ready⟩ := started
      have placed := sound.sound.placed item
      have content :=
        sameContent_beginEnumerate before.store item enumerator
      refine
        { queueSound := later
          quietSound := later
          enumerating := ?_
          spared := ?_
          positioned := ?_
          sameStore := .refl item _
          enumerator := rfl
          delivered := rfl
          untouched := ⟨[], (List.append_nil _).symm, nofun⟩
          notReopened := ?_ }
      · rw [system]
        obtain ⟨searched, _, closed | opens⟩ :=
          beginEnumerate_changesStatus before.store item enumerator
        · rw [ready] at closed
          cases closed.1
        · rw [opens.2, modifyInfo_same]
      · intro page _
        rw [system, content.condemned_iff]
        exact atRest.notCondemned page
      · rw [system, ← same]
        exact beginEnumerate_positioned placed enumerator
      · rw [opened.begun]
        nofun

/-- A run without the messages goes along with a run. -/
def Accompanied
    (item : ItemDef) (start : SnapshotState) (events : List Event)
    (state : SnapshotState) : Prop :=
  ∃ quiet,
    Run (openSystem item start)
        (events.filter fun event => !event.isMessage) quiet ∧
      Invariant item start state quiet

section Runs

variable {item : ItemDef}
variable {start state next : SnapshotState}
variable {events : List Event}
variable {event : Event}

theorem accompanied_message
    {quiet : SnapshotState}
    (quietRun :
      Run (openSystem item start)
        (events.filter fun event => !event.isMessage) quiet)
    (later : Invariant item start next quiet)
    (message : event.isMessage = true) :
    Accompanied item start (events ++ [event]) next := by
  refine ⟨quiet, ?_, later⟩
  rw [List.filter_append, List.filter_cons_of_neg (by simp [message]),
    List.filter_nil, List.append_nil]
  exact quietRun

theorem accompanied_call
    {quiet : SnapshotState}
    (quietRun :
      Run (openSystem item start)
        (events.filter fun event => !event.isMessage) quiet)
    (staysOpen : StaysOpen item event)
    (both : ∃ quietNext,
      step quiet event = .ok quietNext ∧
        Invariant item start next quietNext)
    (call : event.isMessage = false) :
    Accompanied item start (events ++ [event]) next := by
  obtain ⟨quietNext, quietStep, later⟩ := both
  refine ⟨quietNext, ?_, later⟩
  rw [List.filter_append, List.filter_cons_of_pos (by simp [call]),
    List.filter_nil]
  exact .step quietRun event ⟨quietStep, staysOpen⟩

theorem accompanied_run
    (opened : Opened item start)
    (run : Run ((openSystem item start).restrict (Proper item)) events
      state) :
    Accompanied item start events state := by
  refine @Run.history _ _ _ (Accompanied item start) ?_ ?_ _ _ run
  · rintro state rfl
    exact ⟨state, .start rfl, opened.invariant⟩
  · rintro labels state event next ⟨quiet, quietRun, invariant⟩
      ⟨⟨stepped, staysOpen⟩, proper⟩
    cases event with
    | getNext =>
        exact accompanied_call quietRun staysOpen (invariant.getNext stepped)
          rfl
    | other event =>
        cases message : (Event.other event).isMessage with
        | false =>
            exact accompanied_call quietRun staysOpen
              (invariant.calls stepped staysOpen message) message
        | true =>
            refine accompanied_message quietRun ?_ message
            cases event with
            | dispatch => exact invariant.dispatch proper stepped
            | endOfPage => exact invariant.endOfPage stepped
            | _ => cases message

end Runs

/--
While no erase of the enumerated store is started, its enumeration is a stable
snapshot.
-/
theorem enumeration_stable
    {item : ItemDef}
    {start state : SnapshotState}
    (opened : Opened item start)
    {events : List Event}
    (run : Run ((openSystem item start).restrict (Proper item)) events
      state) :
    Stable item start events state := by
  obtain ⟨quiet, quietRun, invariant⟩ := accompanied_run opened run
  exact
    { untouched := invariant.untouched
      notReopened := invariant.notReopened
      sameItems := ⟨quiet, quietRun, invariant.delivered⟩ }

/-- A started enumeration of a store with one item. -/
theorem opened_firstItem
    (item : ItemDef)
    (data : ItemBytes item) :
    ∃ start, Opened item start ∧ AtRest start.system.store ∧
      start.system.queue = [] := by
  obtain ⟨store, _, booted, atRest, quiet, empty⟩ := holds_erasedFlash
  obtain ⟨after, effects, stale, added, extended, rest, holds⟩ :=
    addItem_empty (empty item) atRest quiet data.property
  have listens := atRest.listenerIdle
  have start : Run queueSystem [] { store := store, queue := [] } :=
    .start ⟨booted, rfl⟩
  have published : Run queueSystem [.addItem item data]
      { store := store, queue := [.addItem item data.val] } :=
    .step start (.addItem item data) rfl
  have executed := published.step .dispatch
    (queueStep_added listens (booted item).2 added [])
  have requested := executed.step
    (.beginEnumerate item closedEnumerator .countSamples) rfl
  have tracks := (holds.tracks rest
    (by rw [extended.eraseReminder]; exact quiet)).registerCallback
      .countSamples
  have storeIdle : ((registerCallback after item .countSamples).itemStore
      item).currentState = .idle := by
    rw [registerCallback, modifyInfo_same]
    exact extended.currentState.trans (booted item).2
  have handled := (listener_idle tracks.listenerIdle storeIdle).2
    closedEnumerator
  obtain ⟨page, slot, next, enumerator, begun, _⟩ :=
    beginEnumerate_ready tracks holds.regular.spacious holds.stale_le 0
      rfl
      (.inl (by
        simp [StoreLog.retained, SegmentedLog.retained, StoreLog.writeSlot,
          StoreLog.openPage, StoreLog.empty, itemsToSkip]))
  rw [idleState, show closedEnumerator = enumeratorFrom 0 from rfl, begun]
    at handled
  have same := sameContent_beginEnumerate
    (registerCallback after item .countSamples) item (enumeratorFrom 0)
  rw [begun] at same
  refine ⟨
    { system := { store := next, queue := [] }
      enumerator := enumerator
      delivered := []
      begun := [] },
    ⟨⟨_, _, _, _, _, requested, rfl, handled, rfl, rfl⟩, rfl, rfl⟩,
    ⟨same.listenerState.trans rest.listenerIdle, ?_⟩, rfl⟩
  rw [same.flash]
  exact rest.flashIdle

/-- An add and a read after a message of another client. -/
theorem enumeration_stable_add :
    ∃ start state,
      Opened .measurementSample start ∧
        Stable .measurementSample start
          [.other (.addItem .measurementSample
              (someItem .measurementSample)),
            .other .dispatch, .getNext]
          state := by
  obtain ⟨start, opened, rest, empty⟩ :=
    opened_firstItem .measurementSample (someItem .measurementSample)
  have ignored := (listener_enumerating rest.listenerIdle
    opened.invariant.enumerating).1 (someItem .measurementSample).val
  have starts : Run
      ((openSystem .measurementSample start).restrict
        (Proper .measurementSample)) [] start :=
    .start rfl
  have published := starts.step
    (.other (.addItem .measurementSample (someItem .measurementSample)))
    ⟨⟨rfl, trivial⟩, by rintro ⟨⟩⟩
  have dispatched := published.step (.other .dispatch)
    ⟨⟨by simp only [step, queueStep, empty, List.nil_append, ignored]; rfl,
      trivial⟩, ?_⟩
  · exact ⟨start, _, opened, enumeration_stable opened
      (dispatched.step .getNext ⟨⟨rfl, trivial⟩, by rintro ⟨⟩⟩)⟩
  · rintro _ (⟨others, first, _⟩ | ⟨others, first, _⟩)
    · simp [empty] at first
    · simp [empty] at first

/-- A delete that is dispatched while its store is enumerated. -/
theorem enumeration_not_stable_delete :
    ∃ start state,
      Opened .measurementSample start ∧
        Run (openSystem .measurementSample start)
          [.other (.deleteAllItems .measurementSample),
            .other .dispatch, .other .endOfPage]
          state ∧
        ¬ Stable .measurementSample start
          [.other (.deleteAllItems .measurementSample),
            .other .dispatch, .other .endOfPage]
          state := by
  obtain ⟨start, opened, rest, empty⟩ :=
    opened_firstItem .measurementSample (someItem .measurementSample)
  rcases start with ⟨⟨store, queue⟩, enumerator, delivered, begun⟩
  cases empty
  have placed := opened.invariant.queueSound.sound.placed .measurementSample
  have deletes : queueStep { store := store, queue := [] }
      (.deleteAllItems .measurementSample) =
        .ok
          { store := countersCleared .measurementSample store
            queue := [.erase (eraseOf .measurementSample)] } := by
    simp only [queueStep, deleteAllItems_eq placed.static]
    rfl
  have starts := @queueStep_erase (countersCleared .measurementSample store)
    [] ⟨rest.listenerIdle, rest.flashIdle⟩ .measurementSample
  have flash := rest.flashIdle.eraseRequested
    (eraseOf .measurementSample).pageNumber 32
  have erases := @queueStep_endOfPage_next
    (beginErase (eraseOf .measurementSample)
      (countersCleared .measurementSample store).eraseReminder
      (countersCleared .measurementSample store)) []
    (eraseOf .measurementSample).pageNumber 30 flash (by decide) (by decide)
  have opens : Run (openSystem .measurementSample
      ⟨⟨store, []⟩, enumerator, delivered, begun⟩) []
      ⟨⟨store, []⟩, enumerator, delivered, begun⟩ :=
    .start rfl
  have deleted := opens.step (.other (.deleteAllItems .measurementSample))
    ⟨by simp only [step, deletes]; rfl, trivial⟩
  have started := deleted.step (.other .dispatch)
    ⟨by simp only [step, starts]; rfl, trivial⟩
  have erased := started.step (.other .endOfPage)
    ⟨by simp only [step]; rw [erases]; rfl, trivial⟩
  refine ⟨_, _, opened, erased, ?_⟩
  intro stable
  -- The first page of the store is erased.
  obtain ⟨effects, history, elsewhere⟩ := stable.untouched
  have erasedPage :
      [.erasePage (eraseOf .measurementSample).pageNumber] = effects :=
    List.append_cancel_left history
  obtain ⟨other, different, inside⟩ := elsewhere
    (.erasePage (eraseOf .measurementSample).pageNumber)
    (by rw [← erasedPage]; exact List.mem_singleton_self _)
  exact different (inStore_unique inside ⟨by decide, by decide⟩)

end DemoBoard.EnumerationSnapshot
