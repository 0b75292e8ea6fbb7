import DemoBoard.EventMailboxMoves

namespace DemoBoard

/-!
# Guards of the event mailbox

What holds at each step of the interrupt handler and the tasks.  The flag of a
channel says which processor may change the queue that both of them use.
-/

/-- The steps of `HW_IPCC_MM_FreeBufHandler`. -/
def InterruptStep.Releases {Buffer : Type} : InterruptStep Buffer → Prop
  | .freeBufCb => True
  | .sendFreeBuf => True
  | .insertFree _ => True
  | .setFlag => True
  | _ => False

namespace EventMailbox

variable {Buffer : Type}

/-- The channel for free buffers is clear and its interrupt disabled. -/
def Releasing (state : EventMailbox Buffer) : Prop :=
  state.releaseOccupied = false ∧ state.releaseEnabled = false

/-- What holds while the interrupt handler is at a step. -/
def HandlerGuard (state : EventMailbox Buffer) :
    InterruptStep Buffer → Prop
  | .rxEvtNot channel => (state.line channel).occupied = true
  | .evtReceived channel _ => (state.line channel).occupied = true
  | .notify channel => (state.line channel).occupied = true
  | .clearFlag channel =>
      (state.line channel).occupied = true ∧
        (state.line channel).evtQueue = []
  | .freeBufCb => state.Releasing ∧ state.freeBufCb = true
  | .sendFreeBuf => state.Releasing
  | .insertFree _ => state.Releasing
  | .setFlag => state.Releasing ∧ state.localFreeBufQueue = []

/-- What holds while a task is at a step. -/
def TaskGuard (state : EventMailbox Buffer) (channel : EventChannel) :
    EventTaskStep Buffer → Prop
  | .removeHead => (state.line channel).asynchEventQueue ≠ []
  | .enableTransmit => state.freeBufCb = true
  | .sendFreeBuf =>
      state.releaseOccupied = true →
        state.localFreeBufQueue = [] ∧ state.releaseEnabled = false
  | .removeLocal =>
      state.Releasing ∧ state.localFreeBufQueue ≠ [] ∧
        ∀ step, state.interrupt = some step → ¬step.Releases
  | .insertFree _ =>
      state.Releasing ∧
        ∀ step, state.interrupt = some step → ¬step.Releases
  | .setFlag =>
      state.localFreeBufQueue = [] ∧ state.releaseEnabled = false
  | _ => True

/-- What the steps of the interrupt handler and the tasks rely on. -/
structure Guarded (state : EventMailbox Buffer) : Prop where
  once : state.started.Nodup
  resting : state.running = none → state.waiting = []
  handler : ∀ step, state.interrupt = some step → HandlerGuard state step
  task : ∀ channel step, state.running = some (channel, step) →
    TaskGuard state channel step
  callback : state.releaseEnabled = true → state.freeBufCb = true

/-- Freeing buffers is left to a task that has begun with it. -/
theorem TaskGuard.framed
    {state next : EventMailbox Buffer}
    {channel : EventChannel}
    {step : EventTaskStep Buffer}
    (held : TaskGuard state channel step)
    (queue : (state.line channel).asynchEventQueue ≠ [] →
      (next.line channel).asynchEventQueue ≠ [])
    (callback : state.freeBufCb = true → next.freeBufCb = true)
    (release : next.releaseOccupied = state.releaseOccupied ∧
      next.releaseEnabled = state.releaseEnabled ∧
      next.localFreeBufQueue = state.localFreeBufQueue)
    (calm : ∀ step, next.interrupt = some step → ¬step.Releases) :
    TaskGuard next channel step := by
  obtain ⟨occupied, enabled, buffers⟩ := release
  cases step with
  | removeHead => exact queue held
  | enableTransmit => exact callback held
  | sendFreeBuf =>
      simp only [TaskGuard] at held ⊢
      rw [occupied, enabled, buffers]
      exact held
  | removeLocal =>
      simp only [TaskGuard, Releasing] at held ⊢
      rw [occupied, enabled, buffers]
      exact ⟨held.1, held.2.1, calm⟩
  | insertFree buffer =>
      simp only [TaskGuard, Releasing] at held ⊢
      rw [occupied, enabled]
      exact ⟨held.1, calm⟩
  | setFlag =>
      simp only [TaskGuard] at held ⊢
      rw [enabled, buffers]
      exact held
  | _ => trivial

/-- A task goes on after the interrupt handler freed buffers. -/
theorem TaskGuard.released
    {state next : EventMailbox Buffer}
    {channel : EventChannel}
    {step : EventTaskStep Buffer}
    {released : InterruptStep Buffer}
    (held : TaskGuard state channel step)
    (runs : state.interrupt = some released)
    (releases : released.Releases)
    (line : next.line = state.line)
    (callback : next.freeBufCb = state.freeBufCb)
    (disabled : next.releaseEnabled = false)
    (emptied : state.localFreeBufQueue = [] → next.localFreeBufQueue = [])
    (done : next.releaseOccupied = true → next.localFreeBufQueue = []) :
    TaskGuard next channel step := by
  cases step with
  | removeHead =>
      simp only [TaskGuard] at held ⊢
      rw [line]
      exact held
  | enableTransmit => exact callback.trans held
  | sendFreeBuf => exact fun occupied => ⟨done occupied, disabled⟩
  | removeLocal => exact absurd releases (held.2.2 released runs)
  | insertFree buffer => exact absurd releases (held.2 released runs)
  | setFlag => exact ⟨emptied held.1, disabled⟩
  | _ => trivial

/-- A task that is not done with freeing is not interrupted by it. -/
theorem Guarded.framed
    {state next : EventMailbox Buffer}
    (guarded : Guarded state)
    (tasks : next.running = state.running ∧ next.waiting = state.waiting)
    (handler : ∀ step, next.interrupt = some step → HandlerGuard next step)
    (queue : ∀ channel, (state.line channel).asynchEventQueue ≠ [] →
      (next.line channel).asynchEventQueue ≠ [])
    (callback : next.freeBufCb = state.freeBufCb)
    (release : next.releaseOccupied = state.releaseOccupied ∧
      next.releaseEnabled = state.releaseEnabled ∧
      next.localFreeBufQueue = state.localFreeBufQueue)
    (calm : ∀ step, next.interrupt = some step → ¬step.Releases) :
    Guarded next := by
  obtain ⟨running, waiting⟩ := tasks
  refine ⟨?_, ?_, handler, ?_, ?_⟩
  · rw [started, running, waiting]
    exact guarded.once
  · rw [running, waiting]
    exact guarded.resting
  · intro channel step works
    have held := guarded.task channel step (running ▸ works)
    exact held.framed (queue channel) callback.trans release calm
  · rw [release.2.1, callback]
    exact guarded.callback

theorem Guarded.handlerMoves
    {state next : EventMailbox Buffer}
    {step : InterruptStep Buffer}
    (guarded : Guarded state)
    (runs : state.interrupt = some step)
    (moves : HandlerMoves state step next) :
    Guarded next := by
  have before := guarded.handler step runs
  cases moves with
  | drained empty =>
      refine guarded.framed ⟨rfl, rfl⟩ ?_ (fun _ => id) rfl ⟨rfl, rfl, rfl⟩ ?_
      · rintro _ ⟨⟩
        exact ⟨before, empty⟩
      · rintro _ ⟨⟩ ⟨⟩
  | take queued =>
      refine guarded.framed ⟨rfl, rfl⟩ ?_ ?_ rfl ⟨rfl, rfl, rfl⟩ ?_
      · rintro _ ⟨⟩
        simpa [HandlerGuard] using before
      · intro other
        exact (setLine_same (·.asynchEventQueue ≠ []) (by rfl) other).mpr
      · rintro _ ⟨⟩ ⟨⟩
  | receive =>
      refine guarded.framed ⟨rfl, rfl⟩ ?_ ?_ rfl ⟨rfl, rfl, rfl⟩ ?_
      · rintro _ ⟨⟩
        simpa [HandlerGuard] using before
      · intro other
        simp only [setLine_line]
        split
        · simp
        · exact id
      · rintro _ ⟨⟩ ⟨⟩
  | receiveCommand =>
      refine guarded.framed ⟨rfl, rfl⟩ ?_ (fun _ => id) rfl ⟨rfl, rfl, rfl⟩ ?_
      · rintro _ ⟨⟩
        exact before
      · rintro _ ⟨⟩ ⟨⟩
  | notify =>
      refine guarded.framed ⟨rfl, rfl⟩ ?_ ?_ rfl ⟨rfl, rfl, rfl⟩ ?_
      · rintro _ ⟨⟩
        simpa [HandlerGuard] using before
      · intro other
        exact (setLine_same (·.asynchEventQueue ≠ []) (by rfl) other).mpr
      · rintro _ ⟨⟩ ⟨⟩
  | clearFlag =>
      refine guarded.framed ⟨rfl, rfl⟩ ?_ ?_ rfl ⟨rfl, rfl, rfl⟩ ?_
      · rintro _ ⟨⟩
      · intro other
        exact (setLine_same (·.asynchEventQueue ≠ []) (by rfl) other).mpr
      · rintro _ ⟨⟩
  | freeBufCb set =>
      refine ⟨guarded.once, guarded.resting, ?_, ?_, guarded.callback⟩
      · rintro _ ⟨⟩
        exact before.1
      · intro channel step works
        refine (guarded.task channel step works).released runs trivial rfl rfl
          before.1.2 id fun occupied => ?_
        rw [before.1.1] at occupied
        cases occupied
  | sent empty =>
      refine ⟨guarded.once, guarded.resting, ?_, ?_, guarded.callback⟩
      · rintro _ ⟨⟩
        exact ⟨before, empty⟩
      · intro channel step works
        exact (guarded.task channel step works).released runs trivial rfl rfl
          before.2 id fun _ => empty
  | send queued =>
      refine ⟨guarded.once, guarded.resting, ?_, ?_, guarded.callback⟩
      · rintro _ ⟨⟩
        exact before
      · intro channel step works
        refine (guarded.task channel step works).released runs trivial rfl rfl
          before.2 (fun empty => ?_) fun occupied => ?_
        · rw [queued] at empty
          cases empty
        · rw [before.1] at occupied
          cases occupied
  | insertFree =>
      refine ⟨guarded.once, guarded.resting, ?_, ?_, guarded.callback⟩
      · rintro _ ⟨⟩
        exact before
      · intro channel step works
        refine (guarded.task channel step works).released runs trivial rfl rfl
          before.2 id fun occupied => ?_
        rw [before.1] at occupied
        cases occupied
  | setFlag =>
      refine ⟨guarded.once, guarded.resting, ?_, ?_, guarded.callback⟩
      · rintro _ ⟨⟩
      · intro channel step works
        exact (guarded.task channel step works).released runs trivial rfl rfl
          before.1.2 id fun _ => before.2

theorem eventReady_iff (line : EventLine Buffer) :
    eventReady line = true ↔
      line.asynchEventQueue ≠ [] ∧ line.userEventFlow = true := by
  simp [eventReady]

/-- A task ends, and the one below it is still in its call. -/
theorem Guarded.finish
    {state : EventMailbox Buffer}
    {channel : EventChannel}
    {step : EventTaskStep Buffer}
    (guarded : Guarded state)
    (runs : state.running = some (channel, step)) :
    Guarded state.finish := by
  have once := guarded.once
  rw [started, runs] at once
  cases below : state.waiting with
  | nil =>
      simp only [EventMailbox.finish, below]
      refine ⟨?_, fun _ => rfl, guarded.handler, ?_, guarded.callback⟩
      · simp [started]
      · rintro _ _ ⟨⟩
  | cons task rest =>
      rw [below] at once
      simp only [EventMailbox.finish, below]
      refine ⟨(List.nodup_append.mp once).2.1, ?_, guarded.handler, ?_,
        guarded.callback⟩
      · rintro ⟨⟩
      · rintro _ _ ⟨⟩
        trivial

/-- A task goes on to its next step. -/
theorem Guarded.advance
    {state next : EventMailbox Buffer}
    {channel : EventChannel}
    {step later : EventTaskStep Buffer}
    (guarded : Guarded state)
    (runs : state.running = some (channel, step))
    (running : next.running = some (channel, later))
    (waiting : next.waiting = state.waiting)
    (idle : next.interrupt = none)
    (held : TaskGuard next channel later)
    (callback : next.releaseEnabled = true → next.freeBufCb = true) :
    Guarded next := by
  refine ⟨?_, ?_, ?_, ?_, callback⟩
  · have once := guarded.once
    rw [started, runs] at once
    rw [started, running, waiting]
    exact once
  · rw [running]
    rintro ⟨⟩
  · rw [idle]
    rintro _ ⟨⟩
  · rw [running]
    rintro _ _ ⟨⟩
    exact held

/-- No interrupt is pending where the flag of the free channel is clear. -/
theorem disabled_of_prompt
    {state : EventMailbox Buffer}
    (prompt : state.pending = false)
    (clear : state.releaseOccupied = false) :
    state.releaseEnabled = false := by
  simp only [pending, clear, Bool.or_eq_false_iff] at prompt
  simpa using prompt.2

theorem Guarded.taskMoves
    {state next : EventMailbox Buffer}
    {channel : EventChannel}
    {step : EventTaskStep Buffer}
    (guarded : Guarded state)
    (idle : state.interrupt = none)
    (runs : state.running = some (channel, step))
    (prompt : step = .isActiveFlag ∨ state.pending = false)
    (moves : TaskMoves state channel step next) :
    Guarded next := by
  have held := guarded.task channel step runs
  have calm : ∀ step, state.interrupt = some step → ¬step.Releases := by
    rw [idle]
    rintro _ ⟨⟩
  cases moves with
  | ready ready =>
      exact guarded.advance runs rfl rfl idle
        ((eventReady_iff _).mp ready).1 guarded.callback
  | idle =>
      exact guarded.advance runs rfl rfl idle trivial guarded.callback
  | removeHead queued =>
      exact guarded.advance runs rfl rfl idle trivial guarded.callback
  | evtDone =>
      exact guarded.advance runs rfl rfl idle trivial guarded.callback
  | active active =>
      exact guarded.advance runs rfl rfl idle trivial guarded.callback
  | inactive inactive =>
      refine guarded.advance runs rfl rfl idle (fun active => ?_)
        guarded.callback
      rw [inactive] at active
      cases active
  | setFreeBufCb =>
      exact guarded.advance runs rfl rfl idle rfl fun _ => rfl
  | enableTransmit =>
      exact guarded.advance runs rfl rfl idle trivial fun _ => held
  | sent empty =>
      refine guarded.advance runs rfl rfl idle ⟨empty, ?_⟩ guarded.callback
      by_cases occupied : state.releaseOccupied = true
      · exact (held occupied).2
      · rw [Bool.not_eq_true] at occupied
        exact disabled_of_prompt (prompt.resolve_left (by simp)) occupied
  | send filled =>
      have clear : state.releaseOccupied = false := by
        by_contra occupied
        exact filled (held (by simpa using occupied)).1
      refine guarded.advance runs rfl rfl idle ⟨⟨clear, ?_⟩, filled, calm⟩
        guarded.callback
      exact disabled_of_prompt (prompt.resolve_left (by simp)) clear
  | removeLocal queued =>
      exact guarded.advance runs rfl rfl idle ⟨held.1, calm⟩
        guarded.callback
  | insertFree =>
      refine guarded.advance runs rfl rfl idle (fun occupied => ?_)
        guarded.callback
      have clear : state.releaseOccupied = false := held.1.1
      rw [clear] at occupied
      cases occupied
  | setFlag =>
      exact guarded.advance runs rfl rfl idle trivial guarded.callback
  | putBack =>
      exact guarded.advance runs rfl rfl idle trivial guarded.callback
  | again ready =>
      refine Guarded.finish ?_ runs
      refine guarded.framed ⟨rfl, rfl⟩ ?_ ?_ rfl ⟨rfl, rfl, rfl⟩ calm
      · intro step works
        exact absurd (idle.symm.trans works) (by simp)
      · intro other
        exact (setLine_same (·.asynchEventQueue ≠ []) (by rfl) other).mpr
  | done => exact guarded.finish runs

/-- The guard of the interrupt handler is about occupied channels. -/
theorem HandlerGuard.framed
    {state next : EventMailbox Buffer}
    {step : InterruptStep Buffer}
    (held : HandlerGuard state step)
    (lines : ∀ channel, (state.line channel).occupied = true →
      (next.line channel).occupied = true ∧
        (next.line channel).evtQueue = (state.line channel).evtQueue)
    (callback : next.freeBufCb = state.freeBufCb)
    (release : next.releaseOccupied = state.releaseOccupied ∧
      next.releaseEnabled = state.releaseEnabled ∧
      next.localFreeBufQueue = state.localFreeBufQueue) :
    HandlerGuard next step := by
  obtain ⟨occupied, enabled, buffers⟩ := release
  have releasing : state.Releasing → next.Releasing := by
    rw [Releasing, Releasing, occupied, enabled]
    exact id
  cases step with
  | rxEvtNot channel => exact (lines channel held).1
  | evtReceived channel packet => exact (lines channel held).1
  | notify channel => exact (lines channel held).1
  | clearFlag channel =>
      obtain ⟨same, queue⟩ := lines channel held.1
      exact ⟨same, queue.trans held.2⟩
  | freeBufCb => exact ⟨releasing held.1, callback.trans held.2⟩
  | sendFreeBuf => exact releasing held
  | insertFree buffer => exact releasing held
  | setFlag => exact ⟨releasing held.1, buffers.trans held.2⟩

/-- A channel that is clear is no channel that is occupied. -/
theorem setLine_occupied
    {state : EventMailbox Buffer}
    {channel other : EventChannel}
    (clear : (state.line channel).occupied = false)
    (occupied : (state.line other).occupied = true)
    (line : EventLine Buffer) :
    (state.setLine channel line).line other = state.line other := by
  rw [setLine_line, if_neg]
  rintro rfl
  rw [clear] at occupied
  cases occupied

/-- The other processor may change a channel that is clear. -/
theorem Guarded.setLine
    {state : EventMailbox Buffer}
    {channel : EventChannel}
    {line : EventLine Buffer}
    (guarded : Guarded state)
    (clear : (state.line channel).occupied = false)
    (queue :
      line.asynchEventQueue = (state.line channel).asynchEventQueue)
    (pool : List Buffer) :
    Guarded { state.setLine channel line with pool := pool } := by
  refine ⟨guarded.once, guarded.resting, ?_, ?_, guarded.callback⟩
  · intro step works
    refine (guarded.handler step works).framed ?_ rfl ⟨rfl, rfl, rfl⟩
    intro other occupied
    rw [setLine_occupied clear occupied]
    exact ⟨occupied, rfl⟩
  · intro other step works
    have held := guarded.task other step works
    have same := setLine_same (·.asynchEventQueue) queue other
    cases step with
    | removeHead =>
        simp only [TaskGuard] at held ⊢
        rw [same]
        exact held
    | _ => exact held

/-- The other processor gives the channel for free buffers back. -/
theorem Guarded.release
    {state : EventMailbox Buffer}
    (guarded : Guarded state)
    (occupied : state.releaseOccupied = true) :
    Guarded { state with releaseOccupied := false } := by
  have busy : ¬state.Releasing := by
    rintro ⟨clear, _⟩
    rw [occupied] at clear
    cases clear
  refine ⟨guarded.once, guarded.resting, ?_, ?_, guarded.callback⟩
  · intro step works
    have held := guarded.handler step works
    cases step with
    | freeBufCb => exact absurd held.1 busy
    | sendFreeBuf => exact absurd held busy
    | insertFree buffer => exact absurd held busy
    | setFlag => exact absurd held.1 busy
    | _ => exact held
  · intro channel step works
    have held := guarded.task channel step works
    cases step with
    | sendFreeBuf => rintro ⟨⟩
    | removeLocal => exact absurd held.1 busy
    | insertFree buffer => exact absurd held.1 busy
    | _ => exact held

/-- The handler for free buffers starts. -/
theorem Guarded.txHandler
    {state : EventMailbox Buffer}
    (guarded : Guarded state)
    (enabled : state.releaseEnabled = true)
    (clear : state.releaseOccupied = false) :
    Guarded
      { state with
        releaseEnabled := false
        interrupt := some .freeBufCb } := by
  refine ⟨guarded.once, guarded.resting, ?_, ?_, ?_⟩
  · rintro _ ⟨⟩
    exact ⟨⟨clear, rfl⟩, guarded.callback enabled⟩
  · intro channel step works
    have held := guarded.task channel step works
    cases step with
    | sendFreeBuf => exact fun occupied => ⟨(held occupied).1, rfl⟩
    | removeLocal =>
        rw [held.1.2] at enabled
        cases enabled
    | insertFree buffer =>
        rw [held.1.2] at enabled
        cases enabled
    | setFlag => exact ⟨held.1, rfl⟩
    | _ => exact held
  · rintro ⟨⟩

theorem Guarded.step
    {state next : EventMailbox Buffer}
    {event : Event}
    (guarded : Guarded state)
    (moves : Moves state event next) :
    Guarded next := by
  cases moves with
  | post clear taken => exact guarded.setLine clear (by rfl) _
  | postCommand clear => exact guarded.setLine clear (by rfl) state.pool
  | announce clear => exact guarded.setLine clear (by rfl) state.pool
  | collect occupied filled =>
      exact ⟨guarded.once, guarded.resting, guarded.handler, guarded.task,
        guarded.callback⟩
  | release occupied empty => exact guarded.release occupied
  | rxHandler idle occupied =>
      refine guarded.framed ⟨rfl, rfl⟩ ?_ (fun _ => id) rfl ⟨rfl, rfl, rfl⟩ ?_
      · rintro _ ⟨⟩
        exact occupied
      · rintro _ ⟨⟩ ⟨⟩
  | txHandler idle enabled clear => exact guarded.txHandler enabled clear
  | handler runs moves => exact guarded.handlerMoves runs moves
  | start idle fresh alone =>
      refine ⟨?_, ?_, ?_, ?_, guarded.callback⟩
      · simp [started, EventMailbox.setLine, guarded.resting alone]
      · rintro ⟨⟩
      · intro step works
        exact absurd (idle.symm.trans works) (by simp)
      · rintro _ _ ⟨⟩
        trivial
  | startNested idle fresh waits =>
      refine ⟨?_, ?_, ?_, ?_, guarded.callback⟩
      · have once := guarded.once
        rw [started, waits] at fresh once
        exact List.nodup_cons.mpr ⟨fresh, once⟩
      · rintro ⟨⟩
      · intro step works
        exact absurd (idle.symm.trans works) (by simp)
      · rintro _ _ ⟨⟩
        trivial
  | task idle runs prompt moves =>
      exact guarded.taskMoves idle runs prompt moves
  | accept idle runs =>
      exact guarded.advance runs rfl rfl idle trivial guarded.callback
  | refuse idle runs =>
      exact guarded.advance runs rfl rfl idle trivial guarded.callback
  | takeCommandEvents =>
      exact ⟨guarded.once, guarded.resting, guarded.handler, guarded.task,
        guarded.callback⟩

theorem Guarded.init (pool : List Buffer) : Guarded (init pool) := by
  refine ⟨List.nodup_nil, fun _ => rfl, ?_, ?_, ?_⟩
  · rintro _ ⟨⟩
  · rintro _ _ ⟨⟩
  · rintro ⟨⟩

/-- The steps of the other processor. -/
def Event.byOther : Event → Bool
  | .post _ _ => true
  | .postCommand => true
  | .announce _ => true
  | .collect => true
  | .release => true
  | _ => false

/-- The flag of the free channel says which processor has `FreeBufQueue`. -/
theorem Moves.freeBufQueue
    {state next : EventMailbox Buffer}
    {event : Event}
    (guarded : Guarded state)
    (moves : Moves state event next)
    (changed : next.freeBufQueue ≠ state.freeBufQueue) :
    event.byOther = state.releaseOccupied := by
  cases moves with
  | collect occupied filled => exact occupied.symm
  | handler runs moves =>
      have held := guarded.handler _ runs
      cases moves with
      | insertFree => exact held.1.symm
      | _ => exact absurd rfl changed
  | task idle runs prompt moves =>
      have held := guarded.task _ _ runs
      cases moves with
      | insertFree => exact held.1.1.symm
      | again ready =>
          refine absurd ?_ changed
          unfold finish
          split <;> rfl
      | done ready =>
          refine absurd ?_ changed
          unfold finish
          split <;> rfl
      | _ => exact absurd rfl changed
  | _ => exact absurd rfl changed

/-- The flag of a channel says which processor has its event queue. -/
theorem Moves.evtQueue
    {state next : EventMailbox Buffer}
    {event : Event}
    {channel : EventChannel}
    (guarded : Guarded state)
    (moves : Moves state event next)
    (changed :
      (next.line channel).evtQueue ≠ (state.line channel).evtQueue) :
    event.byOther = !(state.line channel).occupied := by
  cases moves with
  | @post other index buffer clear taken =>
      by_cases same : channel = other
      · rw [same, clear]
        rfl
      · simp [setLine_line, same] at changed
  | postCommand clear =>
      by_cases same : channel = .ble
      · rw [same, clear]
        rfl
      · simp [setLine_line, same] at changed
  | handler runs moves =>
      have held := guarded.handler _ runs
      cases moves with
      | @take other packet rest queued =>
          by_cases same : channel = other
          · have occupied : (state.line other).occupied = true := held
            rw [same, occupied]
            rfl
          · simp [setLine_line, same] at changed
      | receive =>
          exact absurd (setLine_same (·.evtQueue) (by rfl) channel) changed
      | notify =>
          exact absurd (setLine_same (·.evtQueue) (by rfl) channel) changed
      | clearFlag =>
          exact absurd (setLine_same (·.evtQueue) (by rfl) channel) changed
      | _ => exact absurd rfl changed
  | task idle runs prompt moves =>
      cases moves with
      | removeHead queued =>
          exact absurd (setLine_same (·.evtQueue) (by rfl) channel) changed
      | putBack =>
          exact absurd (setLine_same (·.evtQueue) (by rfl) channel) changed
      | again ready =>
          rw [finish_line] at changed
          exact absurd (setLine_same (·.evtQueue) (by rfl) channel) changed
      | done ready =>
          rw [finish_line] at changed
          exact absurd rfl changed
      | _ => exact absurd rfl changed
  | announce clear =>
      exact absurd (setLine_same (·.evtQueue) (by rfl) channel) changed
  | start idle fresh alone =>
      exact absurd (setLine_same (·.evtQueue) (by rfl) channel) changed
  | startNested idle fresh waits =>
      exact absurd (setLine_same (·.evtQueue) (by rfl) channel) changed
  | accept idle runs =>
      exact absurd (setLine_same (·.evtQueue) (by rfl) channel) changed
  | refuse idle runs =>
      exact absurd (setLine_same (·.evtQueue) (by rfl) channel) changed
  | _ => exact absurd rfl changed

/-- The interrupt handler does not call an unset callback. -/
theorem Guarded.handler_goesOn
    {state : EventMailbox Buffer}
    {step : InterruptStep Buffer}
    (guarded : Guarded state)
    (runs : state.interrupt = some step) :
    (state.step .handler).isSome := by
  have held := guarded.handler step runs
  simp only [EventMailbox.step, runs, Option.bind_some]
  cases step with
  | rxEvtNot channel =>
      simp only [stepHandler]
      split <;> rfl
  | evtReceived channel packet => cases packet <;> rfl
  | freeBufCb =>
      simp only [stepHandler, held.2]
      rfl
  | sendFreeBuf =>
      simp only [stepHandler]
      split <;> rfl
  | _ => rfl

theorem step_task
    {state : EventMailbox Buffer}
    {channel : EventChannel}
    {step : EventTaskStep Buffer}
    (idle : state.interrupt = none)
    (prompt : state.pending = false)
    (runs : state.running = some (channel, step)) :
    state.step .task = state.stepTask channel step := by
  cases step <;> simp [EventMailbox.step, idle, prompt, runs]

/-- A task takes no buffer from an empty queue. -/
theorem Guarded.task_goesOn
    {state : EventMailbox Buffer}
    {channel : EventChannel}
    {step : EventTaskStep Buffer}
    (guarded : Guarded state)
    (idle : state.interrupt = none)
    (prompt : state.pending = false)
    (runs : state.running = some (channel, step))
    (inside : ∀ buffer, step ≠ .userEvtRx buffer) :
    (state.step .task).isSome := by
  have held := guarded.task channel step runs
  rw [step_task idle prompt runs]
  cases step with
  | removeHead =>
      obtain ⟨buffer, rest, queued⟩ := List.exists_cons_of_ne_nil held
      simp only [stepTask, queued]
      rfl
  | removeLocal =>
      obtain ⟨buffer, rest, queued⟩ := List.exists_cons_of_ne_nil held.2.1
      simp only [stepTask, queued]
      rfl
  | userEvtRx buffer => exact absurd rfl (inside buffer)
  | checkQueue =>
      simp only [stepTask]
      split <;> rfl
  | isActiveFlag =>
      simp only [stepTask]
      split <;> rfl
  | sendFreeBuf =>
      simp only [stepTask]
      split <;> rfl
  | checkAgain =>
      simp only [stepTask]
      split <;> rfl
  | _ => rfl

end EventMailbox

end DemoBoard
