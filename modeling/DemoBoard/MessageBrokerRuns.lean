import DemoBoard.MessageBroker

namespace DemoBoard.MessageBroker

open IntrusiveList

/-!
# Delivery by the message broker

Whatever preempts what, messages are dispatched in the order in which they were
enqueued, every interested listener gets every dispatched message once, and a
message that is left in the queue has a pending task or an execution that will
still request one.
-/

/-- The handler calls that dispatching a message to some listeners makes. -/
def passes
    (broker : MessageBroker) (listeners : List Nat) (message : Message) :
    List (Message × Nat) :=
  (listeners.filter (receives broker message)).map fun id => (message, id)

/-- The list of listeners. -/
def Registered (broker : MessageBroker) (listeners : List Nat) : Prop :=
  Threaded broker.listeners.next .head (broker.listeners.next .head)
    (listeners.map .listener)

/-- The iterator stands before these listeners. -/
structure Before
    (list : LinkedList) (iterator : LinkedListIterator)
    (listeners : List Nat) : Prop where
  threaded :
    Threaded list.next .head (list.next iterator.node)
      (listeners.map .listener)
  hasMore_eq : iterator.hasMoreElements = decide (listeners ≠ [])

/-- What a publishing execution has learnt about the queue still holds. -/
def Publishing.Sound (queue : CyclicBuffer Message) : Publishing → Prop
  | .testing _ (.loadedIn indexIn) =>
      indexIn ≠ queue.indexOut → queue.contents ≠ []
  | .testing _ (.loadedOut indexOut) => indexOut = queue.indexOut
  | .enqueueing _ false => queue.contents ≠ []
  | _ => True

/-- A publishing execution is going to request the task. -/
def Publishing.Requests : Publishing → Prop
  | .enqueueing _ scheduleNeeded => scheduleNeeded = true
  | .requesting scheduleNeeded => scheduleNeeded = true
  | _ => False

/-- What `MessageBroker_Run` has learnt about the queue still holds. -/
def Running.Sound (queue : CyclicBuffer Message) : Running → Prop
  | .testing (.loadedOut indexOut) => indexOut = queue.indexOut
  | _ => True

/-- `MessageBroker_Run` is going to request the task for a filled queue. -/
def Running.Requests (queue : CyclicBuffer Message) : Running → Prop
  | .testing (.loadedIn indexIn) => indexIn ≠ queue.indexOut
  | .requesting notEmpty => notEmpty = true
  | _ => True

/-- The handler calls made so far. -/
def Passed
    (listeners : List Nat) (state : BrokerState) : Option Running → Prop
  | some (.dispatching message iterator) =>
      ∃ rest,
        rest <:+ listeners ∧
        Before state.broker.listeners iterator rest ∧
        state.passed ++ passes state.broker rest message =
          state.dispatched.flatMap (passes state.broker listeners)
  | _ =>
      state.passed =
        state.dispatched.flatMap (passes state.broker listeners)

/-- What holds between any two steps. -/
structure Invariant (listeners : List Nat) (state : BrokerState) :
    Prop where
  registered : Registered state.broker listeners
  order :
    state.enqueued =
      state.dispatched ++ state.broker.messageQueue.contents
  passed : Passed listeners state state.running
  publishing_sound : ∀ publishing ∈ state.publishing,
    publishing.Sound state.broker.messageQueue
  running_sound : ∀ running ∈ state.running,
    running.Sound state.broker.messageQueue
  wake : state.broker.messageQueue.contents ≠ [] →
    state.taskPending = true ∨
      (∃ publishing ∈ state.publishing, publishing.Requests) ∨
      ∃ running ∈ state.running,
        running.Requests state.broker.messageQueue

section Listeners

variable {list : LinkedList}
variable {listeners : List Nat}

/-- `LinkedList_IteratorInit` stands before all listeners. -/
theorem before_iteratorInit
    (registered :
      Threaded list.next .head (list.next .head)
        (listeners.map .listener)) :
    Before list list.iteratorInit listeners where
  threaded := registered
  hasMore_eq := by
    have none := registered.eq_nil_iff
    rw [List.map_eq_nil_iff] at none
    rw [LinkedList.iteratorInit]
    exact decide_eq_decide.mpr (not_congr none.symm)

/-- `LinkedList_Iterate` moves to the next listener. -/
theorem Before.iterate
    {iterator : LinkedListIterator}
    (before : Before list iterator listeners)
    (more : iterator.hasMoreElements = true) :
    ∃ id rest,
      listeners = id :: rest ∧
      (list.iterate iterator).node = .listener id ∧
      Before list (list.iterate iterator) rest := by
  have some := before.hasMore_eq
  rw [more, eq_comm, decide_eq_true_eq] at some
  obtain ⟨id, rest, rfl⟩ := List.exists_cons_of_ne_nil some
  have threaded := before.threaded
  rw [List.map_cons] at threaded
  have node : list.next iterator.node = .listener id :=
    threaded.head_of_cons.symm
  have behind := threaded.tail
  refine ⟨id, rest, rfl, node, ?_⟩
  constructor
  · rw [LinkedList.iterate, node]
    exact behind
  · have none := behind.eq_nil_iff
    rw [List.map_eq_nil_iff] at none
    rw [LinkedList.iterate, node]
    exact decide_eq_decide.mpr (not_congr none.symm)

end Listeners

section Queue

variable {queue : CyclicBuffer Message}

/-- Enqueuing leaves no empty queue behind. -/
theorem contents_enqueue_ne_nil
    (queue : CyclicBuffer Message)
    (message : Message) :
    (queue.enqueue message).1.contents ≠ [] := by
  cases full : queue.isFull with
  | false =>
      rw [(queue.contents_enqueue full message).2]
      simp
  | true =>
      have count := queue.isFull_iff.mp full
      have capacityGt := queue.capacity_gt
      rw [queue.enqueue_full full]
      intro none
      rw [none, List.length_nil] at count
      omega

theorem Publishing.Sound.enqueue
    {publishing : Publishing}
    (sound : publishing.Sound queue)
    (message : Message) :
    publishing.Sound (queue.enqueue message).1 := by
  have filled := contents_enqueue_ne_nil queue message
  cases publishing with
  | testing _ test =>
      cases test with
      | start => trivial
      | loadedIn indexIn => exact fun _ => filled
      | loadedOut indexOut =>
          exact sound.trans (queue.indexOut_enqueue message).symm
  | enqueueing _ scheduleNeeded =>
      cases scheduleNeeded with
      | true => trivial
      | false => exact filled
  | requesting _ => trivial

theorem Running.Sound.enqueue
    {running : Running}
    (sound : running.Sound queue)
    (message : Message) :
    running.Sound (queue.enqueue message).1 := by
  cases running with
  | testing test =>
      cases test with
      | loadedOut indexOut =>
          exact sound.trans (queue.indexOut_enqueue message).symm
      | _ => trivial
  | _ => trivial

theorem Running.Requests.enqueue
    {running : Running}
    (requests : running.Requests queue)
    (message : Message) :
    running.Requests (queue.enqueue message).1 := by
  cases running with
  | testing test =>
      cases test with
      | loadedIn indexIn =>
          intro same
          exact requests (same.trans (queue.indexOut_enqueue message))
      | _ => trivial
  | requesting _ => exact requests
  | _ => trivial

/-- What the two loads of a publishing execution tell. -/
theorem Publishing.sound_load
    {message : Message}
    {test : EmptyTest}
    (sound : (Publishing.testing message test).Sound queue)
    (inFirst : Bool) :
    (∃ next,
      test.load queue inFirst = .inl next ∧
        (Publishing.testing message next).Sound queue) ∨
      ∃ isEmpty,
        test.load queue inFirst = .inr isEmpty ∧
          (Publishing.enqueueing message isEmpty).Sound queue := by
  cases test with
  | start =>
      left
      cases inFirst with
      | true => exact ⟨_, rfl, queue.indexIn_ne_iff.mp⟩
      | false => exact ⟨_, rfl, rfl⟩
  | loadedIn indexIn =>
      right
      refine ⟨_, rfl, ?_⟩
      by_cases same : indexIn = queue.indexOut
      · simp [same, Publishing.Sound]
      · simpa [same, Publishing.Sound] using sound same
  | loadedOut indexOut =>
      right
      refine ⟨_, rfl, ?_⟩
      by_cases same : queue.indexIn = indexOut
      · simp [same, Publishing.Sound]
      · rw [decide_eq_false same]
        rw [show indexOut = queue.indexOut from sound] at same
        exact queue.indexIn_ne_iff.mp same

end Queue

section Steps

variable {listeners : List Nat}
variable {state : BrokerState}

/-- A publishing execution that does not change the queue. -/
theorem Invariant.withPublishing
    (invariant : Invariant listeners state)
    {publishing : List Publishing}
    {taskPending : Bool}
    (sound : ∀ execution ∈ publishing,
      execution.Sound state.broker.messageQueue)
    (wake : state.taskPending = true ∨
        (∃ execution ∈ state.publishing, execution.Requests) →
      taskPending = true ∨
        ∃ execution ∈ publishing, execution.Requests) :
    Invariant listeners
      { state with publishing := publishing, taskPending := taskPending }
    where
  registered := invariant.registered
  order := invariant.order
  passed := invariant.passed
  publishing_sound := sound
  running_sound := invariant.running_sound
  wake := by
    intro filled
    rcases invariant.wake filled with pending | requested | running
    · rcases wake (Or.inl pending) with pending | requested
      · exact Or.inl pending
      · exact Or.inr (Or.inl requested)
    · rcases wake (Or.inr requested) with pending | requested
      · exact Or.inl pending
      · exact Or.inr (Or.inl requested)
    · exact Or.inr (Or.inr running)

/-- A request other than the one of the innermost execution. -/
theorem requests_rest
    {innermost : Publishing}
    {rest : List Publishing}
    (shape : state.publishing = innermost :: rest)
    (silent : ¬ innermost.Requests)
    (requested :
      ∃ execution ∈ state.publishing, execution.Requests) :
    ∃ execution ∈ rest, execution.Requests := by
  obtain ⟨execution, member, requests⟩ := requested
  rw [shape] at member
  rcases List.mem_cons.mp member with rfl | inside
  · exact absurd requests silent
  · exact ⟨execution, inside, requests⟩

/-- `CyclicBuffer_Enqueue` -/
theorem Invariant.enqueue
    (invariant : Invariant listeners state)
    {message : Message}
    {scheduleNeeded : Bool}
    {rest : List Publishing}
    (shape :
      state.publishing = .enqueueing message scheduleNeeded :: rest)
    (inFirst : Bool) :
    Invariant listeners
      (advancePublish state rest inFirst
        (.enqueueing message scheduleNeeded)) where
  registered := invariant.registered
  order := by
    have order := invariant.order
    simp only [advancePublish]
    cases full : state.broker.messageQueue.isFull with
    | true =>
        rw [state.broker.messageQueue.enqueue_full full]
        exact order
    | false =>
        obtain ⟨accepted, contents⟩ :=
          state.broker.messageQueue.contents_enqueue full message
        rw [accepted, contents, if_pos rfl, order, List.append_assoc]
  passed := invariant.passed
  publishing_sound := by
    intro execution member
    rcases List.mem_cons.mp member with rfl | inside
    · trivial
    · exact (invariant.publishing_sound execution
        (by rw [shape]; exact List.mem_cons_of_mem _ inside)).enqueue
          message
  running_sound := fun running member =>
    (invariant.running_sound running member).enqueue message
  wake := by
    intro _
    cases scheduleNeeded with
    | true =>
        exact Or.inr (Or.inl ⟨.requesting true, List.mem_cons_self ..,
          rfl⟩)
    | false =>
        -- the queue was not empty before this message either
        have filled := invariant.publishing_sound
          (.enqueueing message false)
          (by rw [shape]; exact List.mem_cons_self ..)
        rcases invariant.wake filled with
          pending | requested | ⟨running, member, requests⟩
        · exact Or.inl pending
        · obtain ⟨execution, inside, requests⟩ :=
            requests_rest shape (by simp [Publishing.Requests]) requested
          exact Or.inr (Or.inl ⟨execution,
            List.mem_cons_of_mem _ inside, requests⟩)
        · exact Or.inr (Or.inr ⟨running, member,
            requests.enqueue message⟩)

/-- A step of the innermost publishing execution. -/
theorem Invariant.advancePublish
    (invariant : Invariant listeners state)
    {innermost : Publishing}
    {rest : List Publishing}
    (shape : state.publishing = innermost :: rest)
    (inFirst : Bool) :
    Invariant listeners
      (MessageBroker.advancePublish state rest inFirst innermost) := by
  have innermostSound := invariant.publishing_sound innermost
    (by rw [shape]; exact List.mem_cons_self ..)
  have restSound : ∀ execution ∈ rest,
      execution.Sound state.broker.messageQueue := fun execution member =>
    invariant.publishing_sound execution
      (by rw [shape]; exact List.mem_cons_of_mem _ member)
  cases innermost with
  | enqueueing message scheduleNeeded =>
      exact invariant.enqueue shape inFirst
  | testing message test =>
      have others := requests_rest shape (by simp [Publishing.Requests])
      rcases Publishing.sound_load innermostSound inFirst with
        ⟨next, loaded, sound⟩ | ⟨isEmpty, loaded, sound⟩
      · simp only [MessageBroker.advancePublish, loaded]
        apply invariant.withPublishing
        · exact List.forall_mem_cons.mpr ⟨sound, restSound⟩
        · rintro (pending | requested)
          · exact Or.inl pending
          · obtain ⟨execution, inside, requests⟩ := others requested
            exact Or.inr ⟨execution, List.mem_cons_of_mem _ inside,
              requests⟩
      · simp only [MessageBroker.advancePublish, loaded]
        apply invariant.withPublishing
        · exact List.forall_mem_cons.mpr ⟨sound, restSound⟩
        · rintro (pending | requested)
          · exact Or.inl pending
          · obtain ⟨execution, inside, requests⟩ := others requested
            exact Or.inr ⟨execution, List.mem_cons_of_mem _ inside,
              requests⟩
  | requesting scheduleNeeded =>
      apply invariant.withPublishing restSound
      rintro (pending | ⟨execution, member, requests⟩)
      · exact Or.inl (by rw [pending]; rfl)
      · rw [shape] at member
        rcases List.mem_cons.mp member with rfl | inside
        · rw [Publishing.Requests] at requests
          exact Or.inl (by rw [requests, Bool.or_true])
        · exact Or.inr ⟨execution, inside, requests⟩

/-- Nothing is published, so that only the task bit and `Run` remain. -/
theorem Invariant.wake_running
    (invariant : Invariant listeners state)
    (none : state.publishing = [])
    {running : Running}
    (runs : state.running = some running)
    (filled : state.broker.messageQueue.contents ≠ []) :
    state.taskPending = true ∨
      running.Requests state.broker.messageQueue := by
  rcases invariant.wake filled with
    pending | ⟨execution, member, _⟩ | ⟨other, member, requests⟩
  · exact Or.inl pending
  · rw [none] at member
    cases member
  · rw [runs, Option.mem_some] at member
    subst member
    exact Or.inr requests

/-- A step of `MessageBroker_Run` that calls no handler. -/
theorem Invariant.withRunning
    (invariant : Invariant listeners state)
    (none : state.publishing = [])
    {running : Option Running}
    {taskPending : Bool}
    (passed : Passed listeners state running)
    (sound : ∀ execution ∈ running,
      execution.Sound state.broker.messageQueue)
    (wake : state.broker.messageQueue.contents ≠ [] →
      taskPending = true ∨
        ∃ execution ∈ running,
          execution.Requests state.broker.messageQueue) :
    Invariant listeners
      { state with running := running, taskPending := taskPending } where
  registered := invariant.registered
  order := invariant.order
  passed := passed
  publishing_sound := by
    intro execution member
    rw [none] at member
    cases member
  running_sound := sound
  wake := by
    intro filled
    rcases wake filled with pending | requests
    · exact Or.inl pending
    · exact Or.inr (Or.inr requests)

/-- `CyclicBuffer_Dequeue` in `MessageBroker_Run`. -/
theorem Invariant.dequeue
    (invariant : Invariant listeners state)
    (none : state.publishing = [])
    (runs : state.running = some .dequeueing)
    (inFirst : Bool) :
    Invariant listeners (advanceRun state inFirst .dequeueing) := by
  have passed := invariant.passed
  rw [runs] at passed
  cases contents : state.broker.messageQueue.contents with
  | nil =>
      rw [advanceRun,
        state.broker.messageQueue.dequeue_empty contents]
      apply invariant.withRunning none
      · exact passed
      · rintro execution ⟨⟩
        trivial
      · exact fun filled => absurd contents filled
  | cons message rest =>
      obtain ⟨taken, remaining⟩ :=
        state.broker.messageQueue.contents_dequeue contents
      simp only [advanceRun, taken]
      refine
        { registered := invariant.registered
          order := ?_
          passed := ⟨listeners, List.suffix_refl listeners,
            before_iteratorInit invariant.registered, ?_⟩
          publishing_sound := ?_
          running_sound := by rintro execution ⟨⟩; trivial
          wake := fun _ => Or.inr (Or.inr ⟨_, rfl, trivial⟩) }
      · rw [remaining, invariant.order, contents]
        simp
      · have all : state.passed ++ passes state.broker listeners message =
            (state.dispatched ++ [message]).flatMap
              (passes state.broker listeners) := by
          rw [List.flatMap_append, List.flatMap_singleton]
          exact congrArg (· ++ _) passed
        exact all
      · intro execution member
        rw [none] at member
        cases member

/-- The next listener, or the end of the list. -/
theorem Invariant.dispatch
    (invariant : Invariant listeners state)
    (none : state.publishing = [])
    {message : Message}
    {iterator : LinkedListIterator}
    (runs : state.running = some (.dispatching message iterator))
    (inFirst : Bool) :
    Invariant listeners
      (advanceRun state inFirst (.dispatching message iterator)) := by
  have passed := invariant.passed
  rw [runs] at passed
  obtain ⟨remaining, suffix, before, passed⟩ := passed
  cases more : iterator.hasMoreElements with
  | false =>
      have atEnd := before.hasMore_eq
      rw [more, eq_comm, decide_eq_false_iff_not, not_not] at atEnd
      subst atEnd
      simp only [advanceRun, more, Bool.false_eq_true, if_false]
      apply invariant.withRunning none
      · simpa [Passed, passes] using passed
      · rintro execution ⟨⟩
        trivial
      · exact fun _ => Or.inr ⟨_, rfl, trivial⟩
  | true =>
      obtain ⟨id, rest, rfl, node, behind⟩ := before.iterate more
      simp only [advanceRun, more, if_true, node]
      refine
        { registered := invariant.registered
          order := invariant.order
          passed :=
            ⟨rest, (List.suffix_cons id rest).trans suffix, behind, ?_⟩
          publishing_sound := ?_
          running_sound := by rintro execution ⟨⟩; trivial
          wake := fun _ => Or.inr (Or.inr ⟨_, rfl, trivial⟩) }
      · rw [← passed]
        cases interested : receives state.broker message id <;>
          simp [passes, interested]
      · intro execution member
        rw [none] at member
        cases member

/-- A load of the last emptiness test. -/
theorem Invariant.test
    (invariant : Invariant listeners state)
    (none : state.publishing = [])
    {test : EmptyTest}
    (runs : state.running = some (.testing test))
    (inFirst : Bool) :
    Invariant listeners (advanceRun state inFirst (.testing test)) := by
  have passed := invariant.passed
  rw [runs] at passed
  have sound := invariant.running_sound _ runs
  have wake := invariant.wake_running none runs
  have queue := state.broker.messageQueue.indexIn_ne_iff
  cases test with
  | start =>
      cases inFirst with
      | true =>
          apply invariant.withRunning none
          · exact passed
          · rintro execution ⟨⟩
            trivial
          · exact fun filled => Or.inr ⟨_, rfl, queue.mpr filled⟩
      | false =>
          apply invariant.withRunning none
          · exact passed
          · rintro execution ⟨⟩
            rfl
          · exact fun _ => Or.inr ⟨_, rfl, trivial⟩
  | loadedIn indexIn =>
      apply invariant.withRunning none
      · exact passed
      · rintro execution ⟨⟩
        trivial
      · intro filled
        rcases wake filled with pending | requests
        · exact Or.inl pending
        · exact Or.inr ⟨_, rfl, by
            simpa [Running.Requests] using requests⟩
  | loadedOut indexOut =>
      apply invariant.withRunning none
      · exact passed
      · rintro execution ⟨⟩
        trivial
      · intro filled
        rw [Running.Sound] at sound
        exact Or.inr ⟨_, rfl, by
          simpa [Running.Requests, sound] using queue.mpr filled⟩

/-- A step of `MessageBroker_Run`. -/
theorem Invariant.advanceRun
    (invariant : Invariant listeners state)
    (none : state.publishing = [])
    {running : Running}
    (runs : state.running = some running)
    (inFirst : Bool) :
    Invariant listeners
      (MessageBroker.advanceRun state inFirst running) := by
  cases running with
  | dequeueing => exact invariant.dequeue none runs inFirst
  | dispatching message iterator =>
      exact invariant.dispatch none runs inFirst
  | testing test => exact invariant.test none runs inFirst
  | requesting notEmpty =>
      have passed := invariant.passed
      rw [runs] at passed
      apply invariant.withRunning none
      · exact passed
      · rintro execution ⟨⟩
      · intro filled
        rcases invariant.wake_running none runs filled with
          pending | requests
        · exact Or.inl (by rw [pending]; rfl)
        · rw [Running.Requests] at requests
          exact Or.inl (by rw [requests, Bool.or_true])

theorem Invariant.step
    (invariant : Invariant listeners state)
    {event : Event}
    {next : BrokerState}
    (stepped : MessageBroker.step state event = some next) :
    Invariant listeners next := by
  cases event with
  | publish message =>
      cases stepped
      apply invariant.withPublishing
      · exact List.forall_mem_cons.mpr
          ⟨trivial, invariant.publishing_sound⟩
      · rintro (pending | ⟨execution, member, requests⟩)
        · exact Or.inl pending
        · exact Or.inr ⟨execution, List.mem_cons_of_mem _ member,
            requests⟩
  | run =>
      rw [MessageBroker.step] at stepped
      split at stepped
      · next idle =>
          obtain ⟨none, notRunning, _⟩ := idle
          cases stepped
          have passed := invariant.passed
          rw [notRunning] at passed
          apply invariant.withRunning none
          · exact passed
          · rintro execution ⟨⟩
            trivial
          · exact fun _ => Or.inr ⟨_, rfl, trivial⟩
      · cases stepped
  | advance inFirst =>
      rw [MessageBroker.step] at stepped
      split at stepped
      · next innermost rest shape =>
          cases stepped
          exact invariant.advancePublish shape inFirst
      · next running none runs =>
          cases stepped
          exact invariant.advanceRun none runs inFirst
      · cases stepped

end Steps

/-- The states that the system reaches with a broker. -/
inductive Reachable (broker : MessageBroker) : BrokerState → Prop
  | start : Reachable broker (quiet broker)
  | step
      {state next : BrokerState}
      {event : Event}
      (reachable : Reachable broker state)
      (stepped : step state event = some next) :
      Reachable broker next

/-- `MessageBroker_Run` is calling the handlers of a message. -/
def Dispatching : Option Running → Prop
  | some (.dispatching _ _) => True
  | _ => False

/-- Delivery to some listeners, and no stranded message. -/
structure Delivers (listeners : List Nat) (state : BrokerState) :
    Prop where
  /-- Messages are dispatched in the order of their enqueuing. -/
  order :
    state.enqueued =
      state.dispatched ++ state.broker.messageQueue.contents
  /-- Every interested listener got every dispatched message once. -/
  passed : ¬ Dispatching state.running →
    state.passed =
      state.dispatched.flatMap (passes state.broker listeners)
  /-- During a dispatch, only calls for its message are missing. -/
  passing : ∀ message iterator,
    state.running = some (.dispatching message iterator) →
      ∃ rest,
        rest <:+ listeners ∧
        state.passed ++ passes state.broker rest message =
          state.dispatched.flatMap (passes state.broker listeners)
  /-- A message that is left in the queue has a pending task. -/
  awake :
    state.broker.messageQueue.contents ≠ [] →
      state.publishing = [] → state.running = none →
        state.taskPending = true

theorem Invariant.delivers
    {listeners : List Nat}
    {state : BrokerState}
    (invariant : Invariant listeners state) :
    Delivers listeners state where
  order := invariant.order
  passed := by
    intro notDispatching
    have passed := invariant.passed
    cases runs : state.running with
    | none =>
        rw [runs] at passed
        exact passed
    | some running =>
        rw [runs] at passed notDispatching
        cases running with
        | dispatching message iterator =>
            exact absurd trivial notDispatching
        | _ => exact passed
  passing := by
    intro message iterator runs
    have passed := invariant.passed
    rw [runs] at passed
    obtain ⟨rest, suffix, _, passed⟩ := passed
    exact ⟨rest, suffix, passed⟩
  awake := by
    intro filled none notRunning
    rcases invariant.wake filled with
      pending | ⟨execution, member, _⟩ | ⟨running, member, _⟩
    · exact pending
    · rw [none] at member
      cases member
    · rw [notRunning] at member
      cases member

theorem Registered.nodup
    {broker : MessageBroker}
    {listeners : List Nat}
    (registered : Registered broker listeners) :
    listeners.Nodup :=
  registered.ids_nodup.of_map _

theorem Reachable.invariant
    {broker : MessageBroker}
    {listeners : List Nat}
    {state : BrokerState}
    (registered : Registered broker listeners)
    (empty : broker.messageQueue.contents = [])
    (reachable : Reachable broker state) :
    Invariant listeners state := by
  induction reachable with
  | start =>
      exact
        { registered := registered
          order := by simp [quiet, empty]
          passed := rfl
          publishing_sound := by simp [quiet]
          running_sound := by simp [quiet]
          wake := fun filled => absurd empty filled }
  | step _ stepped inductionHypothesis =>
      exact inductionHypothesis.step stepped

/-- A sequence of events. -/
theorem Reachable.events
    {broker : MessageBroker}
    {state next : BrokerState}
    (reachable : Reachable broker state)
    {events : List Event}
    (ran : events.foldlM MessageBroker.step state = some next) :
    Reachable broker next := by
  induction events generalizing state with
  | nil =>
      cases ran
      exact reachable
  | cons event rest inductionHypothesis =>
      rw [List.foldlM_cons, Option.bind_eq_bind,
        Option.bind_eq_some_iff] at ran
      obtain ⟨middle, stepped, others⟩ := ran
      exact inductionHypothesis (reachable.step stepped) others

end DemoBoard.MessageBroker
