import DemoBoard.EventMailboxGuards
import Mathlib.Data.List.Perm.Basic

namespace DemoBoard

open TransitionRuns

/-!
# Runs of the event mailbox

However the two processors, the interrupts and the nested tasks interleave,
every buffer of the pool is at one place, the events of a channel are handled
in order, each of them once, and nothing is left behind.
-/

/-- The steps before the local queue was found empty. -/
def InterruptStep.Sends {Buffer : Type} : InterruptStep Buffer → Prop
  | .freeBufCb => True
  | .sendFreeBuf => True
  | .insertFree _ => True
  | _ => False

/-- The steps from the release of a buffer on until it is taken care of. -/
def EventTaskStep.Sends {Buffer : Type} : EventTaskStep Buffer → Prop
  | .isActiveFlag => True
  | .setFreeBufCb => True
  | .enableTransmit => True
  | .sendFreeBuf => True
  | .removeLocal => True
  | .insertFree _ => True
  | _ => False

/-- The steps of `SendFreeBuf` until the flag is set. -/
def EventTaskStep.Announces {Buffer : Type} : EventTaskStep Buffer → Prop
  | .sendFreeBuf => True
  | .removeLocal => True
  | .insertFree _ => True
  | .setFlag => True
  | _ => False

/-- The buffer that the interrupt handler has in its hand. -/
def InterruptStep.buffers {Buffer : Type} :
    InterruptStep Buffer → List Buffer
  | .evtReceived _ packet => packet.buffer?.toList
  | .insertFree buffer => [buffer]
  | _ => []

/-- The buffer that a task has in its hand. -/
def EventTaskStep.buffers {Buffer : Type} :
    EventTaskStep Buffer → List Buffer
  | .userEvtRx buffer => [buffer]
  | .evtDone buffer => [buffer]
  | .insertFree buffer => [buffer]
  | .putBack buffer => [buffer]
  | _ => []

/-- The event of a channel on its way between two queues. -/
def InterruptStep.undelivered {Buffer : Type} (channel : EventChannel) :
    InterruptStep Buffer → List Buffer
  | .evtReceived other packet =>
      if other = channel then packet.buffer?.toList else []
  | _ => []

/-- The event that the user did not accept yet. -/
def EventTaskStep.undelivered {Buffer : Type} :
    EventTaskStep Buffer → List Buffer
  | .userEvtRx buffer => [buffer]
  | .putBack buffer => [buffer]
  | _ => []

/-- The buffers in the queues of a channel. -/
def EventLine.buffers {Buffer : Type} (line : EventLine Buffer) :
    List Buffer :=
  line.asynchEventQueue ++ line.evtQueue.filterMap EventPacket.buffer?

namespace EventMailbox

variable {Buffer : Type}

/-- The buffers of the pool that are at some place. -/
def buffers (state : EventMailbox Buffer) : List Buffer :=
  state.pool ++ (state.line .system).buffers ++
    (state.line .ble).buffers ++
    state.interrupt.elim [] InterruptStep.buffers ++
    state.running.elim [] (fun task => task.2.buffers) ++
    state.waiting.map Prod.snd ++ state.localFreeBufQueue ++
    state.freeBufQueue

section Buffers

variable [DecidableEq Buffer]

/-- How often a buffer is in the queues of the channels. -/
def lineCount (line : EventChannel → EventLine Buffer) (buffer : Buffer) :
    Nat :=
  (line .system).buffers.count buffer + (line .ble).buffers.count buffer

/-- How often a buffer is at some place. -/
theorem count_buffers (state : EventMailbox Buffer) (buffer : Buffer) :
    state.buffers.count buffer =
      state.pool.count buffer + lineCount state.line buffer +
        (state.interrupt.elim [] InterruptStep.buffers).count buffer +
        (state.running.elim [] fun task => task.2.buffers).count buffer +
        (state.waiting.map Prod.snd).count buffer +
        state.localFreeBufQueue.count buffer +
        state.freeBufQueue.count buffer := by
  simp only [buffers, lineCount, List.count_append]
  omega

/-- A channel changes by the difference between its old and new queues. -/
theorem lineCount_setLine
    (state : EventMailbox Buffer)
    (channel : EventChannel)
    (line : EventLine Buffer)
    (buffer : Buffer) :
    lineCount (state.setLine channel line).line buffer +
        ((state.line channel).asynchEventQueue.count buffer +
          ((state.line channel).evtQueue.filterMap
            EventPacket.buffer?).count buffer) =
      lineCount state.line buffer +
        (line.asynchEventQueue.count buffer +
          (line.evtQueue.filterMap EventPacket.buffer?).count buffer) := by
  rw [← List.count_append, ← List.count_append]
  change _ + (state.line channel).buffers.count buffer =
    _ + line.buffers.count buffer
  cases channel
  · simp only [lineCount, setLine_line, if_true, reduceCtorEq, if_false]
    omega
  · simp only [lineCount, setLine_line, if_true, reduceCtorEq, if_false]
    omega

theorem HandlerMoves.buffers
    {state next : EventMailbox Buffer}
    {step : InterruptStep Buffer}
    (runs : state.interrupt = some step)
    (moves : HandlerMoves state step next) :
    next.buffers.Perm state.buffers := by
  rw [List.perm_iff_count]
  intro buffer
  rw [count_buffers, count_buffers, runs]
  cases moves with
  | drained empty => rfl
  | @take channel packet rest queued =>
      have changed := lineCount_setLine state channel
        { state.line channel with evtQueue := rest } buffer
      rw [queued] at changed
      cases packet with
      | asynch taken =>
          simp [InterruptStep.buffers, EventPacket.buffer?,
            List.count_cons] at changed ⊢
          omega
      | command =>
          simp [InterruptStep.buffers, EventPacket.buffer?,
            List.filterMap_cons] at changed ⊢
          omega
  | @receive channel received =>
      have changed := lineCount_setLine state channel
        { state.line channel with
          asynchEventQueue :=
            (state.line channel).asynchEventQueue ++ [received] } buffer
      simp [InterruptStep.buffers, EventPacket.buffer?,
        List.count_append] at changed ⊢
      omega
  | receiveCommand => rfl
  | @notify channel =>
      have changed := lineCount_setLine state channel
        { state.line channel with taskSet := true } buffer
      simp [InterruptStep.buffers] at changed ⊢
      omega
  | @clearFlag channel =>
      have changed := lineCount_setLine state channel
        { state.line channel with occupied := false } buffer
      simp [InterruptStep.buffers] at changed ⊢
      omega
  | freeBufCb set => rfl
  | sent empty => rfl
  | send queued =>
      simp [InterruptStep.buffers, queued, List.count_cons]
      omega
  | insertFree =>
      simp [InterruptStep.buffers, List.count_append]
      omega
  | setFlag => rfl

/-- The task that ends has no buffer. -/
theorem finish_buffers
    {state : EventMailbox Buffer}
    {channel : EventChannel}
    (runs : state.running = some (channel, .checkAgain)) :
    state.finish.buffers.Perm state.buffers := by
  rw [List.perm_iff_count]
  intro buffer
  rw [count_buffers, count_buffers, runs]
  cases below : state.waiting with
  | nil => simp [finish, below, EventTaskStep.buffers]
  | cons task rest =>
      simp [finish, below, EventTaskStep.buffers, List.count_cons]
      omega

theorem TaskMoves.buffers
    {state next : EventMailbox Buffer}
    {channel : EventChannel}
    {step : EventTaskStep Buffer}
    (runs : state.running = some (channel, step))
    (moves : TaskMoves state channel step next) :
    next.buffers.Perm state.buffers := by
  rw [List.perm_iff_count]
  intro buffer
  cases moves with
  | @removeHead taken rest queued =>
      have changed := lineCount_setLine state channel
        { state.line channel with asynchEventQueue := rest } buffer
      rw [count_buffers, count_buffers, runs]
      simp [EventTaskStep.buffers, queued, List.count_cons] at changed ⊢
      omega
  | evtDone =>
      rw [count_buffers, count_buffers, runs]
      simp [EventTaskStep.buffers, List.count_append]
      omega
  | removeLocal queued =>
      rw [count_buffers, count_buffers, runs]
      simp [EventTaskStep.buffers, queued, List.count_cons]
      omega
  | insertFree =>
      rw [count_buffers, count_buffers, runs]
      simp [EventTaskStep.buffers, List.count_append]
      omega
  | @putBack returned =>
      have changed := lineCount_setLine state channel
        { state.line channel with
          asynchEventQueue :=
            returned :: (state.line channel).asynchEventQueue } buffer
      rw [count_buffers, count_buffers, runs]
      simp [EventTaskStep.buffers, List.count_cons] at changed ⊢
      omega
  | again ready =>
      have changed := lineCount_setLine state channel
        { state.line channel with taskSet := true } buffer
      rw [(finish_buffers (by exact runs)).count_eq, count_buffers,
        count_buffers]
      simp at changed ⊢
      omega
  | done idle => rw [(finish_buffers runs).count_eq]
  | _ =>
      rw [count_buffers, count_buffers, runs]
      simp [EventTaskStep.buffers]

theorem Moves.buffers
    {state next : EventMailbox Buffer}
    {event : Event}
    (moves : Moves state event next) :
    next.buffers.Perm state.buffers := by
  rw [List.perm_iff_count]
  intro buffer
  cases moves with
  | @post channel index posted clear taken =>
      obtain ⟨inside, same⟩ := List.getElem?_eq_some_iff.mp taken
      have pool :=
        (List.getElem_cons_eraseIdx_perm inside).count_eq buffer
      have changed := lineCount_setLine state channel
        { state.line channel with
          evtQueue := (state.line channel).evtQueue ++ [.asynch posted]
          sent := (state.line channel).sent ++ [posted] } buffer
      rw [count_buffers, count_buffers]
      simp [EventPacket.buffer?, List.count_append, same,
        List.count_cons] at changed pool ⊢
      omega
  | postCommand clear =>
      have changed := lineCount_setLine state .ble
        { state.line .ble with
          evtQueue := (state.line .ble).evtQueue ++ [.command] } buffer
      rw [count_buffers, count_buffers]
      simp [EventPacket.buffer?, List.filterMap_cons] at changed ⊢
      omega
  | @announce channel clear =>
      have changed := lineCount_setLine state channel
        { state.line channel with
          occupied := true
          announced := (state.line channel).sent } buffer
      rw [count_buffers, count_buffers]
      simp at changed ⊢
      omega
  | collect occupied filled =>
      rw [count_buffers, count_buffers]
      simp [filled, List.count_cons, List.count_append]
      omega
  | release occupied empty => rfl
  | rxHandler idle occupied =>
      rw [count_buffers, count_buffers]
      simp [idle, InterruptStep.buffers]
  | txHandler idle enabled clear =>
      rw [count_buffers, count_buffers]
      simp [idle, InterruptStep.buffers]
  | handler runs moves => exact (moves.buffers runs).count_eq buffer
  | @start channel idle fresh alone =>
      have changed := lineCount_setLine state channel
        { state.line channel with taskSet := false } buffer
      rw [count_buffers, count_buffers]
      simp [alone, EventTaskStep.buffers] at changed ⊢
      omega
  | @startNested channel below held idle fresh waits =>
      have changed := lineCount_setLine state channel
        { state.line channel with taskSet := false } buffer
      rw [count_buffers, count_buffers]
      simp [waits, EventTaskStep.buffers, List.count_cons] at changed ⊢
      omega
  | task idle runs prompt moves => exact (moves.buffers runs).count_eq buffer
  | @accept channel accepted idle runs =>
      have changed := lineCount_setLine state channel
        { state.line channel with
          userEventFlow := true
          received := (state.line channel).received ++ [accepted] } buffer
      rw [count_buffers, count_buffers]
      simp [runs, EventTaskStep.buffers] at changed ⊢
      omega
  | @refuse channel refused idle runs =>
      have changed := lineCount_setLine state channel
        { state.line channel with userEventFlow := false } buffer
      rw [count_buffers, count_buffers]
      simp [runs, EventTaskStep.buffers] at changed ⊢
      omega
  | takeCommandEvents => rfl

end Buffers

/-- The events of a channel that its task has in its hand. -/
def inHand (state : EventMailbox Buffer) (channel : EventChannel) :
    List Buffer :=
  state.running.elim [] (fun task =>
      if task.1 = channel then task.2.undelivered else []) ++
    (state.waiting.filter fun task => task.1 = channel).map Prod.snd

/-- The events of a channel that left the shared queue, in order. -/
def left (state : EventMailbox Buffer) (channel : EventChannel) :
    List Buffer :=
  (state.line channel).received ++ state.inHand channel ++
    (state.line channel).asynchEventQueue ++
    state.interrupt.elim [] (InterruptStep.undelivered channel)

/-- The events of a channel are at their places in the order of sending. -/
structure Ordered (state : EventMailbox Buffer) (channel : EventChannel) :
    Prop where
  sent : (state.line channel).sent =
    state.left channel ++
      (state.line channel).evtQueue.filterMap EventPacket.buffer?
  announced : (state.line channel).announced =
    if (state.line channel).occupied then
      (state.line channel).sent
    else
      state.left channel

theorem Ordered.framed
    {state next : EventMailbox Buffer}
    {channel : EventChannel}
    (ordered : Ordered state channel)
    (line : next.line channel = state.line channel)
    (left : next.left channel = state.left channel) :
    Ordered next channel := by
  constructor
  · rw [line, left]
    exact ordered.sent
  · rw [line, left]
    exact ordered.announced

/-- The interrupt handler keeps the order of the events. -/
theorem HandlerMoves.ordered
    {state next : EventMailbox Buffer}
    {step : InterruptStep Buffer}
    {channel : EventChannel}
    (ordered : Ordered state channel)
    (held : HandlerGuard state step)
    (runs : state.interrupt = some step)
    (moves : HandlerMoves state step next) :
    Ordered next channel := by
  obtain ⟨sent, announced⟩ := id ordered
  rw [left, runs] at sent announced
  cases moves with
  | drained empty => exact ⟨sent, announced⟩
  | @take changed packet rest queued =>
      by_cases same : changed = channel
      · subst same
        have occupied : (state.line changed).occupied = true := held
        rw [queued] at sent
        constructor
        · cases packet <;>
            simpa [left, inHand, InterruptStep.undelivered,
              EventPacket.buffer?, List.filterMap_cons] using sent
        · simpa [occupied] using announced
      · refine ordered.framed (by simp [setLine_line, Ne.symm same]) ?_
        simp [left, inHand, setLine_line, runs, same, Ne.symm same,
          InterruptStep.undelivered]
  | @receive changed received =>
      by_cases same : changed = channel
      · subst same
        have occupied : (state.line changed).occupied = true := held
        constructor
        · simpa [left, inHand, InterruptStep.undelivered,
            EventPacket.buffer?] using sent
        · simpa [occupied] using announced
      · refine ordered.framed (by simp [setLine_line, Ne.symm same]) ?_
        simp [left, inHand, setLine_line, runs, same, Ne.symm same,
          InterruptStep.undelivered]
  | receiveCommand =>
      refine ordered.framed rfl ?_
      simp [left, inHand, runs, InterruptStep.undelivered,
        EventPacket.buffer?]
  | @notify changed =>
      by_cases same : changed = channel
      · subst same
        constructor
        · simpa [left, inHand, InterruptStep.undelivered] using sent
        · simpa [left, inHand, InterruptStep.undelivered] using announced
      · refine ordered.framed (by simp [setLine_line, Ne.symm same]) ?_
        simp [left, inHand, setLine_line, runs, Ne.symm same,
          InterruptStep.undelivered]
  | @clearFlag changed =>
      by_cases same : changed = channel
      · subst same
        obtain ⟨occupied, empty⟩ := held
        rw [empty] at sent
        rw [if_pos occupied, sent] at announced
        constructor
        · simpa [left, inHand, InterruptStep.undelivered, empty] using sent
        · simpa [left, inHand, InterruptStep.undelivered] using announced
      · refine ordered.framed (by simp [setLine_line, Ne.symm same]) ?_
        simp [left, inHand, setLine_line, runs, Ne.symm same,
          InterruptStep.undelivered]
  | freeBufCb set => exact ⟨sent, announced⟩
  | sent empty => exact ⟨sent, announced⟩
  | send queued => exact ⟨sent, announced⟩
  | insertFree => exact ⟨sent, announced⟩
  | setFlag => exact ⟨sent, announced⟩

/-- The channel of a task has no event in a task below. -/
theorem filter_waiting
    {state : EventMailbox Buffer}
    {channel : EventChannel}
    {step : EventTaskStep Buffer}
    (once : state.started.Nodup)
    (runs : state.running = some (channel, step)) :
    state.waiting.filter (fun task => task.1 = channel) = [] := by
  rw [started, runs] at once
  rw [List.filter_eq_nil_iff]
  intro task waits same
  have fresh := (List.nodup_cons.mp once).1
  exact fresh (List.mem_map.mpr ⟨task, waits, by simpa using same⟩)

/-- A task that ends goes back to the event of the task below. -/
theorem finish_left
    {state : EventMailbox Buffer}
    {channel : EventChannel}
    (runs : state.running = some (channel, .checkAgain))
    (other : EventChannel) :
    state.finish.left other = state.left other := by
  cases below : state.waiting with
  | nil =>
      simp [finish, left, inHand, below, runs, EventTaskStep.undelivered]
  | cons task rest =>
      by_cases same : task.1 = other
      · simp [finish, left, inHand, below, runs, same,
          EventTaskStep.undelivered]
      · simp [finish, left, inHand, below, runs, same,
          EventTaskStep.undelivered]

/-- A task keeps the order of the events. -/
theorem TaskMoves.ordered
    {state next : EventMailbox Buffer}
    {changed channel : EventChannel}
    {step : EventTaskStep Buffer}
    (ordered : Ordered state channel)
    (once : state.started.Nodup)
    (runs : state.running = some (changed, step))
    (moves : TaskMoves state changed step next) :
    Ordered next channel := by
  have alone := filter_waiting once runs
  cases moves with
  | @removeHead buffer rest queued =>
      by_cases same : changed = channel
      · subst same
        obtain ⟨sent, announced⟩ := ordered
        constructor
        · simpa [left, inHand, runs, alone, queued,
            EventTaskStep.undelivered] using sent
        · simpa [left, inHand, runs, alone, queued,
            EventTaskStep.undelivered] using announced
      · refine ordered.framed (by simp [setLine_line, Ne.symm same]) ?_
        simp [left, inHand, setLine_line, runs, same, Ne.symm same]
  | @putBack buffer =>
      by_cases same : changed = channel
      · subst same
        obtain ⟨sent, announced⟩ := ordered
        constructor
        · simpa [left, inHand, runs, alone,
            EventTaskStep.undelivered] using sent
        · simpa [left, inHand, runs, alone,
            EventTaskStep.undelivered] using announced
      · refine ordered.framed (by simp [setLine_line, Ne.symm same]) ?_
        simp [left, inHand, setLine_line, runs, same, Ne.symm same]
  | again ready =>
      have kept : Ordered
          (state.setLine changed
            { state.line changed with taskSet := true }) channel := by
        by_cases same : changed = channel
        · subst same
          obtain ⟨sent, announced⟩ := ordered
          constructor
          · simpa [left, inHand] using sent
          · simpa [left, inHand] using announced
        · refine ordered.framed (by simp [setLine_line, Ne.symm same]) ?_
          simp [left, inHand, setLine_line, Ne.symm same]
      exact kept.framed (by rw [finish_line])
        (finish_left (by exact runs) channel)
  | done idle =>
      exact ordered.framed (by rw [finish_line]) (finish_left runs channel)
  | _ =>
      refine ordered.framed rfl ?_
      simp [left, inHand, runs, EventTaskStep.undelivered]

/-- Every step keeps the order of the events. -/
theorem Moves.ordered
    {state next : EventMailbox Buffer}
    {event : Event}
    {channel : EventChannel}
    (ordered : Ordered state channel)
    (guarded : Guarded state)
    (moves : Moves state event next) :
    Ordered next channel := by
  cases moves with
  | @post changed index buffer clear taken =>
      by_cases same : changed = channel
      · subst same
        obtain ⟨sent, announced⟩ := ordered
        constructor
        · have longer := congrArg (· ++ [buffer]) sent
          simpa [left, inHand, EventPacket.buffer?] using longer
        · simpa [left, inHand, clear] using announced
      · refine ordered.framed (by simp [setLine_line, Ne.symm same]) ?_
        simp [left, inHand, setLine_line, Ne.symm same]
  | postCommand clear =>
      by_cases same : .ble = channel
      · subst same
        obtain ⟨sent, announced⟩ := ordered
        constructor
        · simpa [left, inHand, EventPacket.buffer?,
            List.filterMap_cons] using sent
        · simpa [left, inHand, clear] using announced
      · refine ordered.framed (by simp [setLine_line, Ne.symm same]) ?_
        simp [left, inHand, setLine_line, Ne.symm same]
  | @announce changed clear =>
      by_cases same : changed = channel
      · subst same
        constructor
        · simpa [left, inHand] using ordered.sent
        · simp
      · refine ordered.framed (by simp [setLine_line, Ne.symm same]) ?_
        simp [left, inHand, setLine_line, Ne.symm same]
  | collect occupied filled => exact ⟨ordered.sent, ordered.announced⟩
  | release occupied empty => exact ⟨ordered.sent, ordered.announced⟩
  | rxHandler idle occupied =>
      refine ordered.framed rfl ?_
      simp [left, inHand, idle, InterruptStep.undelivered]
  | txHandler idle enabled clear =>
      refine ordered.framed rfl ?_
      simp [left, inHand, idle, InterruptStep.undelivered]
  | handler runs moves =>
      exact moves.ordered ordered (guarded.handler _ runs) runs
  | @start changed idle fresh alone =>
      by_cases same : changed = channel
      · subst same
        obtain ⟨sent, announced⟩ := ordered
        constructor
        · simpa [left, inHand, alone, EventTaskStep.undelivered] using sent
        · simpa [left, inHand, alone,
            EventTaskStep.undelivered] using announced
      · refine ordered.framed (by simp [setLine_line, Ne.symm same]) ?_
        simp [left, inHand, setLine_line, alone, Ne.symm same,
          EventTaskStep.undelivered]
  | @startNested changed below buffer idle fresh waits =>
      by_cases same : changed = channel
      · subst same
        obtain ⟨sent, announced⟩ := ordered
        have other : below ≠ changed := by
          rintro rfl
          exact fresh (by simp [started, waits])
        constructor
        · simpa [left, inHand, waits, other,
            EventTaskStep.undelivered] using sent
        · simpa [left, inHand, waits, other,
            EventTaskStep.undelivered] using announced
      · refine ordered.framed (by simp [setLine_line, Ne.symm same]) ?_
        by_cases held : below = channel
        · simp [left, inHand, setLine_line, waits, held, Ne.symm same,
            EventTaskStep.undelivered]
        · simp [left, inHand, setLine_line, waits, held, Ne.symm same,
            EventTaskStep.undelivered]
  | task idle runs prompt moves =>
      exact moves.ordered ordered guarded.once runs
  | @accept changed buffer idle runs =>
      have alone := filter_waiting guarded.once runs
      by_cases same : changed = channel
      · subst same
        obtain ⟨sent, announced⟩ := ordered
        constructor
        · simpa [left, inHand, runs, alone,
            EventTaskStep.undelivered] using sent
        · simpa [left, inHand, runs, alone,
            EventTaskStep.undelivered] using announced
      · refine ordered.framed (by simp [setLine_line, Ne.symm same]) ?_
        simp [left, inHand, setLine_line, runs, same, Ne.symm same]
  | @refuse changed buffer idle runs =>
      by_cases same : changed = channel
      · subst same
        obtain ⟨sent, announced⟩ := ordered
        constructor
        · simpa [left, inHand, runs,
            EventTaskStep.undelivered] using sent
        · simpa [left, inHand, runs,
            EventTaskStep.undelivered] using announced
      · refine ordered.framed (by simp [setLine_line, Ne.symm same]) ?_
        simp [left, inHand, setLine_line, runs, same, Ne.symm same]
  | takeCommandEvents => exact ⟨ordered.sent, ordered.announced⟩

/-- Some step of the interrupt handler or a task will send the buffers. -/
def Sending (state : EventMailbox Buffer) : Prop :=
  (∃ step, state.interrupt = some step ∧ step.Sends) ∨
    ∃ task, state.running = some task ∧ task.2.Sends

/-- Some step of the interrupt handler or a task will set the flag. -/
def Announcing (state : EventMailbox Buffer) : Prop :=
  (∃ step, state.interrupt = some step ∧ step.Releases) ∨
    ∃ task, state.running = some task ∧ task.2.Announces

/-- Nothing is left in a queue that nobody will look at. -/
structure Attended (state : EventMailbox Buffer) : Prop where
  buffers : state.localFreeBufQueue ≠ [] →
    state.releaseEnabled = true ∨ state.Sending
  free : state.freeBufQueue ≠ [] →
    state.releaseOccupied = true ∨ state.Announcing
  queue : ∀ channel, (state.line channel).asynchEventQueue ≠ [] →
    (state.line channel).userEventFlow = false ∨
      (state.line channel).taskSet = true ∨
      channel ∈ state.started ∨
      state.interrupt = some (.notify channel)

theorem releases_of_sends
    {step : InterruptStep Buffer}
    (sends : step.Sends) :
    step.Releases := by
  cases step with
  | freeBufCb => trivial
  | sendFreeBuf => trivial
  | insertFree buffer => trivial
  | _ => exact sends.elim

/-- Receiving events has nothing to do with free buffers. -/
theorem Attended.receiving
    {state next : EventMailbox Buffer}
    (attended : Attended state)
    (other : ∀ step, state.interrupt = some step → ¬step.Releases)
    (release : next.releaseOccupied = state.releaseOccupied ∧
      next.releaseEnabled = state.releaseEnabled)
    (kept : next.localFreeBufQueue = state.localFreeBufQueue ∧
      next.freeBufQueue = state.freeBufQueue)
    (running : next.running = state.running)
    (queue : ∀ channel, (next.line channel).asynchEventQueue ≠ [] →
      (next.line channel).userEventFlow = false ∨
        (next.line channel).taskSet = true ∨
        channel ∈ next.started ∨
        next.interrupt = some (.notify channel)) :
    Attended next := by
  refine ⟨?_, ?_, queue⟩
  · rw [kept.1, release.2]
    intro filled
    refine (attended.buffers filled).imp_right ?_
    rintro (⟨step, works, sends⟩ | task)
    · exact absurd (releases_of_sends sends) (other step works)
    · rw [Sending, running]
      exact .inr task
  · rw [kept.2, release.1]
    intro filled
    refine (attended.free filled).imp_right ?_
    rintro (⟨step, works, releases⟩ | task)
    · exact absurd releases (other step works)
    · rw [Announcing, running]
      exact .inr task

/-- What the interrupt handler does about free buffers. -/
theorem Attended.releasing
    {state next : EventMailbox Buffer}
    {step : InterruptStep Buffer}
    (attended : Attended state)
    (runs : state.interrupt = some step)
    (releases : step.Releases)
    (line : next.line = state.line)
    (tasks : next.running = state.running ∧ next.waiting = state.waiting)
    (buffers : next.localFreeBufQueue ≠ [] →
      ∃ step, next.interrupt = some step ∧ step.Sends)
    (free : next.freeBufQueue ≠ [] → next.releaseOccupied = true ∨
      ∃ step, next.interrupt = some step ∧ step.Releases) :
    Attended next := by
  refine ⟨fun filled => .inr (.inl (buffers filled)),
    fun filled => (free filled).imp_right .inl, ?_⟩
  intro channel filled
  rw [line] at filled ⊢
  rw [started, tasks.1, tasks.2]
  rcases attended.queue channel filled with stopped | set | works | notify
  · exact .inl stopped
  · exact .inr (.inl set)
  · exact .inr (.inr (.inl works))
  · rw [runs] at notify
    cases notify
    exact releases.elim

theorem HandlerMoves.attended
    {state next : EventMailbox Buffer}
    {step : InterruptStep Buffer}
    (attended : Attended state)
    (held : HandlerGuard state step)
    (runs : state.interrupt = some step)
    (moves : HandlerMoves state step next) :
    Attended next := by
  have other (quiet : ¬step.Releases) :
      ∀ step, state.interrupt = some step → ¬step.Releases := by
    intro later works
    rw [runs] at works
    cases works
    exact quiet
  cases moves with
  | drained empty =>
      refine attended.receiving (other id) ⟨rfl, rfl⟩ ⟨rfl, rfl⟩ rfl ?_
      intro channel filled
      have attends := attended.queue channel filled
      rw [runs] at attends
      simpa [started] using attends
  | take queued =>
      refine attended.receiving (other id) ⟨rfl, rfl⟩ ⟨rfl, rfl⟩ rfl ?_
      intro channel filled
      have attends := attended.queue channel
      rw [runs] at attends
      simp only [setLine_line] at filled ⊢
      split at filled
      · rename_i same
        simpa [started, same] using attends (by rw [same]; exact filled)
      · rename_i same
        simpa [started, same] using attends filled
  | @receive changed buffer =>
      refine attended.receiving (other id) ⟨rfl, rfl⟩ ⟨rfl, rfl⟩ rfl ?_
      intro channel filled
      by_cases same : channel = changed
      · exact .inr (.inr (.inr (by rw [same])))
      · have attends := attended.queue channel
        rw [runs] at attends
        simp only [setLine_line, if_neg same] at filled ⊢
        simpa [started, Ne.symm same] using attends filled
  | receiveCommand =>
      refine attended.receiving (other id) ⟨rfl, rfl⟩ ⟨rfl, rfl⟩ rfl ?_
      intro channel filled
      have attends := attended.queue channel filled
      rw [runs] at attends
      simpa [started] using attends
  | @notify changed =>
      refine attended.receiving (other id) ⟨rfl, rfl⟩ ⟨rfl, rfl⟩ rfl ?_
      intro channel filled
      by_cases same : channel = changed
      · exact .inr (.inl (by simp [same]))
      · have attends := attended.queue channel
        rw [runs] at attends
        simp only [setLine_line, if_neg same] at filled ⊢
        simpa [started, Ne.symm same] using attends filled
  | clearFlag =>
      refine attended.receiving (other id) ⟨rfl, rfl⟩ ⟨rfl, rfl⟩ rfl ?_
      intro channel filled
      have attends := attended.queue channel
      rw [runs] at attends
      simp only [setLine_line] at filled ⊢
      split at filled
      · rename_i same
        simpa [started, same] using attends (by rw [same]; exact filled)
      · rename_i same
        simpa [started, same] using attends filled
  | freeBufCb set =>
      exact attended.releasing runs trivial rfl ⟨rfl, rfl⟩
        (fun _ => ⟨_, rfl, trivial⟩) fun _ => .inr ⟨_, rfl, trivial⟩
  | sent empty =>
      exact attended.releasing runs trivial rfl ⟨rfl, rfl⟩
        (fun filled => absurd empty filled)
        fun _ => .inr ⟨_, rfl, trivial⟩
  | send queued =>
      exact attended.releasing runs trivial rfl ⟨rfl, rfl⟩
        (fun _ => ⟨_, rfl, trivial⟩) fun _ => .inr ⟨_, rfl, trivial⟩
  | insertFree =>
      exact attended.releasing runs trivial rfl ⟨rfl, rfl⟩
        (fun _ => ⟨_, rfl, trivial⟩) fun _ => .inr ⟨_, rfl, trivial⟩
  | setFlag =>
      exact attended.releasing runs trivial rfl ⟨rfl, rfl⟩
        (fun filled => absurd held.2 filled) fun _ => .inl rfl

/-- Without an interrupt the running task is the one that sends. -/
theorem Attended.task
    {state : EventMailbox Buffer}
    {channel : EventChannel}
    {step : EventTaskStep Buffer}
    (attended : Attended state)
    (idle : state.interrupt = none)
    (runs : state.running = some (channel, step)) :
    (state.localFreeBufQueue ≠ [] →
        state.releaseEnabled = true ∨ step.Sends) ∧
      (state.freeBufQueue ≠ [] →
        state.releaseOccupied = true ∨ step.Announces) := by
  constructor
  · intro filled
    refine (attended.buffers filled).imp_right ?_
    rintro (⟨handler, works, _⟩ | ⟨task, works, sends⟩)
    · rw [idle] at works
      cases works
    · rw [runs] at works
      cases works
      exact sends
  · intro filled
    refine (attended.free filled).imp_right ?_
    rintro (⟨handler, works, _⟩ | ⟨task, works, announces⟩)
    · rw [idle] at works
      cases works
    · rw [runs] at works
      cases works
      exact announces

/-- A task goes on to its next step. -/
theorem Attended.advance
    {state next : EventMailbox Buffer}
    {channel : EventChannel}
    {step later : EventTaskStep Buffer}
    (attended : Attended state)
    (runs : state.running = some (channel, step))
    (running : next.running = some (channel, later))
    (kept : next.waiting = state.waiting ∧
      next.interrupt = state.interrupt)
    (lines : ∀ other, other ≠ channel →
      next.line other = state.line other)
    (buffers : next.localFreeBufQueue ≠ [] →
      next.releaseEnabled = true ∨ later.Sends)
    (free : next.freeBufQueue ≠ [] →
      next.releaseOccupied = true ∨ later.Announces) :
    Attended next := by
  refine ⟨fun filled => (buffers filled).imp_right fun sends =>
      .inr ⟨_, running, sends⟩,
    fun filled => (free filled).imp_right fun announces =>
      .inr ⟨_, running, announces⟩, ?_⟩
  intro other filled
  by_cases same : other = channel
  · refine .inr (.inr (.inl ?_))
    rw [started, running, same]
    exact List.mem_cons_self
  · rw [lines other same] at filled ⊢
    have attends := attended.queue other filled
    rw [started, runs] at attends
    rw [started, running, kept.1, kept.2]
    exact attends

/-- A task ends, and its queue is looked at again where that is needed. -/
theorem Attended.finish
    {state : EventMailbox Buffer}
    {channel : EventChannel}
    (attended : Attended state)
    (idle : state.interrupt = none)
    (runs : state.running = some (channel, .checkAgain))
    (settled : (state.line channel).asynchEventQueue ≠ [] →
      (state.line channel).userEventFlow = false ∨
        (state.line channel).taskSet = true) :
    Attended state.finish := by
  obtain ⟨buffers, free⟩ := attended.task idle runs
  have queue : ∀ other, (state.line other).asynchEventQueue ≠ [] →
      (state.line other).userEventFlow = false ∨
        (state.line other).taskSet = true ∨
        other ∈ state.waiting.map Prod.fst := by
    intro other filled
    have attends := attended.queue other filled
    simp only [started, runs, idle, Option.toList, List.map_cons,
      List.map_nil, List.cons_append, List.nil_append, List.mem_cons,
      reduceCtorEq, or_false] at attends
    rcases attends with stopped | set | rfl | waits
    · exact .inl stopped
    · exact .inr (.inl set)
    · exact (settled filled).imp_right .inl
    · exact .inr (.inr waits)
  cases below : state.waiting with
  | nil =>
      rw [below] at queue
      simp only [EventMailbox.finish, below]
      refine ⟨fun filled => (buffers filled).imp_right False.elim,
        fun filled => (free filled).imp_right False.elim, ?_⟩
      intro other filled
      simpa [started, idle] using queue other filled
  | cons task rest =>
      rw [below] at queue
      simp only [EventMailbox.finish, below]
      refine ⟨fun filled => (buffers filled).imp_right False.elim,
        fun filled => (free filled).imp_right False.elim, ?_⟩
      intro other filled
      rcases queue other filled with stopped | set | waits
      · exact .inl stopped
      · exact .inr (.inl set)
      · exact .inr (.inr (.inl waits))

/-- A task takes care of what it leaves behind. -/
theorem TaskMoves.attended
    {state next : EventMailbox Buffer}
    {channel : EventChannel}
    {step : EventTaskStep Buffer}
    (attended : Attended state)
    (held : TaskGuard state channel step)
    (idle : state.interrupt = none)
    (runs : state.running = some (channel, step))
    (moves : TaskMoves state channel step next) :
    Attended next := by
  obtain ⟨buffers, free⟩ := attended.task idle runs
  have other {line : EventLine Buffer} (other : EventChannel)
      (changed : other ≠ channel) :
      (state.setLine channel line).line other = state.line other := by
    rw [setLine_line, if_neg changed]
  cases moves with
  | ready ready =>
      exact attended.advance runs rfl ⟨rfl, rfl⟩ (fun _ _ => rfl)
        buffers free
  | idle =>
      exact attended.advance runs rfl ⟨rfl, rfl⟩ (fun _ _ => rfl)
        buffers free
  | removeHead queued =>
      exact attended.advance runs rfl ⟨rfl, rfl⟩ other buffers free
  | evtDone =>
      exact attended.advance runs rfl ⟨rfl, rfl⟩ (fun _ _ => rfl)
        (fun _ => .inr trivial) free
  | active active =>
      exact attended.advance runs rfl ⟨rfl, rfl⟩ (fun _ _ => rfl)
        (fun _ => .inr trivial) free
  | inactive inactive =>
      exact attended.advance runs rfl ⟨rfl, rfl⟩ (fun _ _ => rfl)
        (fun _ => .inr trivial) fun _ => .inr trivial
  | setFreeBufCb =>
      exact attended.advance runs rfl ⟨rfl, rfl⟩ (fun _ _ => rfl)
        (fun _ => .inr trivial) free
  | enableTransmit =>
      exact attended.advance runs rfl ⟨rfl, rfl⟩ (fun _ _ => rfl)
        (fun _ => .inl rfl) free
  | sent empty =>
      exact attended.advance runs rfl ⟨rfl, rfl⟩ (fun _ _ => rfl)
        (fun filled => absurd empty filled) fun _ => .inr trivial
  | send filled =>
      exact attended.advance runs rfl ⟨rfl, rfl⟩ (fun _ _ => rfl)
        (fun _ => .inr trivial) fun _ => .inr trivial
  | removeLocal queued =>
      exact attended.advance runs rfl ⟨rfl, rfl⟩ (fun _ _ => rfl)
        (fun _ => .inr trivial) fun _ => .inr trivial
  | insertFree =>
      exact attended.advance runs rfl ⟨rfl, rfl⟩ (fun _ _ => rfl)
        (fun _ => .inr trivial) fun _ => .inr trivial
  | setFlag =>
      exact attended.advance runs rfl ⟨rfl, rfl⟩ (fun _ _ => rfl)
        (fun filled => absurd held.1 filled) fun _ => .inl rfl
  | putBack =>
      exact attended.advance runs rfl ⟨rfl, rfl⟩ other buffers free
  | again ready =>
      have kept : Attended
          (state.setLine channel
            { state.line channel with taskSet := true }) :=
        attended.advance runs runs ⟨rfl, rfl⟩ other buffers free
      exact kept.finish idle runs fun _ => .inr (by simp)
  | done ready =>
      refine attended.finish idle runs fun filled => .inl ?_
      simpa [eventReady, filled] using ready

/-- A task starts where no other one is at the free buffers. -/
theorem Attended.begin
    {state next : EventMailbox Buffer}
    {channel : EventChannel}
    (attended : Attended state)
    (idle : state.interrupt = none)
    (rests : ∀ task, state.running = some task →
      ¬task.2.Sends ∧ ¬task.2.Announces)
    (release : next.releaseOccupied = state.releaseOccupied ∧
      next.releaseEnabled = state.releaseEnabled)
    (kept : next.localFreeBufQueue = state.localFreeBufQueue ∧
      next.freeBufQueue = state.freeBufQueue)
    (started : next.started = channel :: state.started)
    (lines : ∀ other, other ≠ channel →
      next.line other = state.line other) :
    Attended next := by
  refine ⟨?_, ?_, ?_⟩
  · rw [kept.1, release.2]
    intro filled
    refine (attended.buffers filled).imp_right ?_
    rintro (⟨handler, works, _⟩ | ⟨task, works, sends⟩)
    · rw [idle] at works
      cases works
    · exact absurd sends (rests task works).1
  · rw [kept.2, release.1]
    intro filled
    refine (attended.free filled).imp_right ?_
    rintro (⟨handler, works, _⟩ | ⟨task, works, announces⟩)
    · rw [idle] at works
      cases works
    · exact absurd announces (rests task works).2
  · intro other filled
    by_cases same : other = channel
    · refine .inr (.inr (.inl ?_))
      rw [started, same]
      exact List.mem_cons_self
    · rw [lines other same] at filled ⊢
      have attends := attended.queue other filled
      rw [idle] at attends
      rw [started, List.mem_cons]
      rcases attends with stopped | set | works | notify
      · exact .inl stopped
      · exact .inr (.inl set)
      · exact .inr (.inr (.inl (.inr works)))
      · cases notify

/-- Every step leaves nothing behind. -/
theorem Moves.attended
    {state next : EventMailbox Buffer}
    {event : Event}
    (attended : Attended state)
    (guarded : Guarded state)
    (moves : Moves state event next) :
    Attended next := by
  have quiet (idle : state.interrupt = none) :
      ∀ step, state.interrupt = some step → ¬step.Releases := by
    intro step works
    rw [idle] at works
    cases works
  have other {channel : EventChannel} {line : EventLine Buffer}
      (other : EventChannel)
      (changed : other ≠ channel) :
      (state.setLine channel line).line other = state.line other := by
    rw [setLine_line, if_neg changed]
  cases moves with
  | post clear taken =>
      refine ⟨attended.buffers, attended.free, fun other => ?_⟩
      exact (setLine_same (fun line => line.asynchEventQueue ≠ [] →
        line.userEventFlow = false ∨ line.taskSet = true ∨ _) (by rfl)
        other).mpr (attended.queue other)
  | postCommand clear =>
      refine ⟨attended.buffers, attended.free, fun other => ?_⟩
      exact (setLine_same (fun line => line.asynchEventQueue ≠ [] →
        line.userEventFlow = false ∨ line.taskSet = true ∨ _) (by rfl)
        other).mpr (attended.queue other)
  | announce clear =>
      refine ⟨attended.buffers, attended.free, fun other => ?_⟩
      exact (setLine_same (fun line => line.asynchEventQueue ≠ [] →
        line.userEventFlow = false ∨ line.taskSet = true ∨ _) (by rfl)
        other).mpr (attended.queue other)
  | collect occupied filled =>
      exact ⟨attended.buffers, fun _ => .inl occupied, attended.queue⟩
  | release occupied empty =>
      exact ⟨attended.buffers, fun filled => absurd empty filled,
        attended.queue⟩
  | rxHandler idle occupied =>
      refine attended.receiving (quiet idle) ⟨rfl, rfl⟩ ⟨rfl, rfl⟩ rfl ?_
      intro channel filled
      have attends := attended.queue channel filled
      rw [idle] at attends
      simpa [started] using attends
  | txHandler idle enabled clear =>
      refine ⟨fun _ => .inr (.inl ⟨_, rfl, trivial⟩),
        fun _ => .inr (.inl ⟨_, rfl, trivial⟩), fun channel filled => ?_⟩
      have attends := attended.queue channel filled
      rw [idle] at attends
      simpa [started] using attends
  | handler runs moves =>
      exact moves.attended attended (guarded.handler _ runs) runs
  | start idle fresh alone =>
      refine attended.begin idle ?_ ⟨rfl, rfl⟩ ⟨rfl, rfl⟩ ?_ other
      · intro task works
        rw [alone] at works
        cases works
      · simp [started, alone]
  | startNested idle fresh waits =>
      refine attended.begin idle ?_ ⟨rfl, rfl⟩ ⟨rfl, rfl⟩ ?_ other
      · intro task works
        rw [waits] at works
        cases works
        exact ⟨id, id⟩
      · simp [started, waits]
  | task idle runs prompt moves =>
      exact moves.attended attended (guarded.task _ _ runs) idle runs
  | accept idle runs =>
      obtain ⟨buffers, free⟩ := attended.task idle runs
      exact attended.advance runs rfl ⟨rfl, rfl⟩ other buffers free
  | refuse idle runs =>
      obtain ⟨buffers, free⟩ := attended.task idle runs
      exact attended.advance runs rfl ⟨rfl, rfl⟩ other buffers free
  | takeCommandEvents =>
      exact ⟨attended.buffers, attended.free, attended.queue⟩

theorem Attended.init (pool : List Buffer) : Attended (init pool) := by
  refine ⟨fun filled => absurd rfl filled, fun filled => absurd rfl filled,
    fun channel filled => absurd rfl filled⟩

theorem Ordered.init (pool : List Buffer) (channel : EventChannel) :
    Ordered (init pool) channel :=
  ⟨rfl, rfl⟩

/-- What holds in every state of a run. -/
structure Sound (pool : List Buffer) (state : EventMailbox Buffer) :
    Prop where
  guarded : Guarded state
  attended : Attended state
  ordered : ∀ channel, Ordered state channel
  conserved : state.buffers.Perm pool

theorem Sound.step
    {pool : List Buffer}
    {state next : EventMailbox Buffer}
    {event : Event}
    (sound : Sound pool state)
    (stepped : state.step event = some next) :
    Sound pool next := by
  classical
  have moves := step_moves stepped
  exact
    { guarded := sound.guarded.step moves
      attended := moves.attended sound.attended sound.guarded
      ordered := fun channel =>
        moves.ordered (sound.ordered channel) sound.guarded
      conserved := moves.buffers.trans sound.conserved }

theorem sound_of_run
    {pool : List Buffer}
    {events : List Event}
    {state : EventMailbox Buffer}
    (run : Run (system pool) events state) :
    Sound pool state := by
  refine run.invariant ?_ ?_
  · rintro first rfl
    exact
      { guarded := .init pool
        attended := .init pool
        ordered := .init pool
        conserved := by simp [buffers, init, initialLine, EventLine.buffers] }
  · intro state event next sound stepped
    exact sound.step stepped

/--
In every run each buffer of the pool is at one place.  A shared queue is only
changed by the processor that the flag of its channel gives it to, and neither
the interrupt handler nor a task runs into an empty queue or an unset callback.
-/
theorem buffers_owned
    {pool : List Buffer}
    {events : List Event}
    {state : EventMailbox Buffer}
    (run : Run (system pool) events state) :
    state.buffers.Perm pool ∧
      (∀ event next, state.step event = some next →
        (next.freeBufQueue ≠ state.freeBufQueue →
          event.byOther = state.releaseOccupied) ∧
        ∀ channel,
          (next.line channel).evtQueue ≠ (state.line channel).evtQueue →
            event.byOther = !(state.line channel).occupied) ∧
      (state.interrupt.isSome → (state.step .handler).isSome) ∧
      ∀ channel step, state.running = some (channel, step) →
        state.interrupt = none → state.pending = false →
          (∀ buffer, step ≠ .userEvtRx buffer) →
            (state.step .task).isSome := by
  have sound := sound_of_run run
  refine ⟨sound.conserved, fun event next stepped => ?_, fun busy => ?_,
    fun channel step runs idle prompt inside => ?_⟩
  · have moves := step_moves stepped
    exact ⟨moves.freeBufQueue sound.guarded,
      fun channel => moves.evtQueue sound.guarded⟩
  · obtain ⟨step, runs⟩ := Option.isSome_iff_exists.mp busy
    exact sound.guarded.handler_goesOn runs
  · exact sound.guarded.task_goesOn idle prompt runs inside

/-- Two events; the second buffer is released while the channel is in use. -/
def twoEvents : List Event :=
  [.post .ble 0, .post .ble 0, .announce .ble, .rxHandler] ++
    List.replicate 8 .handler ++
    [.start .ble, .task, .task, .userEvtRx true] ++
    List.replicate 8 .task ++
    [.start .ble, .task, .task, .userEvtRx true] ++
    List.replicate 5 .task

/-- The other processor takes both buffers back, one after the other. -/
def twoReturned : List Event :=
  twoEvents ++ [.collect, .release, .txHandler] ++
    List.replicate 5 .handler ++ [.collect, .release]

theorem twoReturned_result :
    (twoReturned.foldlM step (init [0, 1])).map (fun state =>
        (state.pool, (state.line .ble).received)) =
      some ([0, 1], [0, 1]) := by
  decide +kernel

theorem buffers_owned_returned :
    ∃ state, twoReturned.foldlM step (init [0, 1]) = some state ∧
      state.pool = [0, 1] ∧ state.buffers.Perm [0, 1] := by
  obtain ⟨state, ran, result⟩ :=
    Option.map_eq_some_iff.mp twoReturned_result
  have run : Run (system [0, 1]) twoReturned state :=
    Run.ofSteps twoReturned (.start rfl) ran
  exact ⟨state, ran, congrArg Prod.fst result, (buffers_owned run).1⟩

/-- No interrupt is pending, and no task runs or is to be started. -/
structure Quiet (state : EventMailbox Buffer) : Prop where
  interrupt : state.interrupt = none
  running : state.running = none
  prompt : state.pending = false
  unset : ∀ channel, (state.line channel).taskSet = false

theorem Quiet.clear
    {state : EventMailbox Buffer}
    (quiet : Quiet state)
    (channel : EventChannel) :
    (state.line channel).occupied = false := by
  have prompt := quiet.prompt
  simp only [pending, Bool.or_eq_false_iff] at prompt
  cases channel
  · exact prompt.1.1
  · exact prompt.1.2

/-- Without a task the events are accepted or still in their queue. -/
theorem Sound.received
    {pool : List Buffer}
    {state : EventMailbox Buffer}
    (sound : Sound pool state)
    (quiet : Quiet state)
    (channel : EventChannel) :
    (state.line channel).announced =
      (state.line channel).received ++
        (state.line channel).asynchEventQueue := by
  have announced := (sound.ordered channel).announced
  rw [quiet.clear channel] at announced
  have waiting := sound.guarded.resting quiet.running
  simpa [left, inHand, quiet.running, quiet.interrupt, waiting]
    using announced

/--
In every run the events of a channel are accepted in the order in which they
were sent, none of them twice and none left out.  When nothing is left to do
on this side, every announced event is accepted unless the user stopped the
flow, and the other processor was told to take the buffers back.
-/
theorem events_handled
    {pool : List Buffer}
    {events : List Event}
    {state : EventMailbox Buffer}
    (run : Run (system pool) events state) :
    (∀ channel, (state.line channel).sent =
        state.left channel ++
          (state.line channel).evtQueue.filterMap EventPacket.buffer? ∧
      (state.line channel).received <+: (state.line channel).sent) ∧
      (Quiet state →
        (∀ channel, (state.line channel).userEventFlow = true →
          (state.line channel).received = (state.line channel).announced) ∧
        (state.localFreeBufQueue ≠ [] →
          state.releaseEnabled = true ∧ state.releaseOccupied = true) ∧
        (state.freeBufQueue ≠ [] → state.releaseOccupied = true)) := by
  have sound := sound_of_run run
  refine ⟨fun channel => ?_, fun quiet => ⟨fun channel flow => ?_, ?_, ?_⟩⟩
  · have sent := (sound.ordered channel).sent
    refine ⟨sent, ?_⟩
    rw [sent, left, List.append_assoc, List.append_assoc,
      List.append_assoc]
    exact List.prefix_append _ _
  · have waiting := sound.guarded.resting quiet.running
    have empty : (state.line channel).asynchEventQueue = [] := by
      by_contra filled
      have attends := sound.attended.queue channel filled
      simp [flow, quiet.unset channel, started, quiet.running, waiting,
        quiet.interrupt] at attends
    rw [sound.received quiet channel, empty, List.append_nil]
  · intro filled
    have attends := sound.attended.buffers filled
    simp only [Sending, quiet.interrupt, quiet.running, reduceCtorEq,
      false_and, exists_false, or_false] at attends
    refine ⟨attends, ?_⟩
    by_contra clear
    rw [Bool.not_eq_true] at clear
    rw [disabled_of_prompt quiet.prompt clear] at attends
    cases attends
  · intro filled
    have attends := sound.attended.free filled
    simpa [Announcing, quiet.interrupt, quiet.running] using attends

theorem twoEvents_result :
    (twoEvents.foldlM step (init [0, 1])).map (fun state =>
        (state.interrupt.isNone && state.running.isNone && !state.pending &&
            !(state.line .system).taskSet && !(state.line .ble).taskSet,
          (state.line .ble).userEventFlow,
          (state.line .ble).announced, state.localFreeBufQueue)) =
      some (true, true, [0, 1], [1]) := by
  decide +kernel

theorem events_handled_two :
    ∃ state, twoEvents.foldlM step (init [0, 1]) = some state ∧
      (state.line .ble).received = [0, 1] ∧
      state.releaseOccupied = true := by
  obtain ⟨state, ran, result⟩ := Option.map_eq_some_iff.mp twoEvents_result
  have run : Run (system [0, 1]) twoEvents state :=
    Run.ofSteps twoEvents (.start rfl) ran
  simp only [Prod.mk.injEq, Bool.and_eq_true, Option.isNone_iff_eq_none,
    Bool.not_eq_true'] at result
  obtain ⟨⟨⟨⟨⟨idle, rests⟩, prompt⟩, system⟩, ble⟩, flow, announced,
    buffers⟩ := result
  have quiet : Quiet state := by
    refine ⟨idle, rests, prompt, fun channel => ?_⟩
    cases channel
    · exact system
    · exact ble
  obtain ⟨received, waits, _⟩ := (events_handled run).2 quiet
  refine ⟨state, ran, (received .ble flow).trans announced, ?_⟩
  exact (waits (by rw [buffers]; simp)).2

end EventMailbox

end DemoBoard
