import DemoBoard.EventMailbox

namespace DemoBoard

namespace EventMailbox

/-!
# Steps of the event mailbox

What a step of the interrupt handler, of a task or of the other processor can
do, case by case.
-/

variable {Buffer : Type}

@[simp] theorem setLine_self
    (state : EventMailbox Buffer)
    (channel : EventChannel)
    (line : EventLine Buffer) :
    (state.setLine channel line).line channel = line :=
  Function.update_self ..

@[simp] theorem setLine_pool
    (state : EventMailbox Buffer)
    (channel : EventChannel)
    (line : EventLine Buffer) :
    (state.setLine channel line).pool = state.pool :=
  rfl

@[simp] theorem setLine_interrupt
    (state : EventMailbox Buffer)
    (channel : EventChannel)
    (line : EventLine Buffer) :
    (state.setLine channel line).interrupt = state.interrupt :=
  rfl

@[simp] theorem setLine_running
    (state : EventMailbox Buffer)
    (channel : EventChannel)
    (line : EventLine Buffer) :
    (state.setLine channel line).running = state.running :=
  rfl

@[simp] theorem setLine_waiting
    (state : EventMailbox Buffer)
    (channel : EventChannel)
    (line : EventLine Buffer) :
    (state.setLine channel line).waiting = state.waiting :=
  rfl

@[simp] theorem setLine_localFreeBufQueue
    (state : EventMailbox Buffer)
    (channel : EventChannel)
    (line : EventLine Buffer) :
    (state.setLine channel line).localFreeBufQueue =
      state.localFreeBufQueue :=
  rfl

@[simp] theorem setLine_freeBufQueue
    (state : EventMailbox Buffer)
    (channel : EventChannel)
    (line : EventLine Buffer) :
    (state.setLine channel line).freeBufQueue = state.freeBufQueue :=
  rfl

theorem setLine_line
    (state : EventMailbox Buffer)
    (channel other : EventChannel)
    (line : EventLine Buffer) :
    (state.setLine channel line).line other =
      if other = channel then line else state.line other :=
  Function.update_apply ..

/-- What a change of a channel leaves alone is the same in every channel. -/
theorem setLine_same
    {α : Type}
    {state : EventMailbox Buffer}
    {channel : EventChannel}
    {line : EventLine Buffer}
    (read : EventLine Buffer → α)
    (same : read line = read (state.line channel))
    (other : EventChannel) :
    read ((state.setLine channel line).line other) =
      read (state.line other) := by
  rw [setLine_line]
  split
  · rename_i changed
    rw [changed]
    exact same
  · rfl

/-- What a step of the interrupt handler can do. -/
inductive HandlerMoves (state : EventMailbox Buffer) :
    InterruptStep Buffer → EventMailbox Buffer → Prop where
  | drained
      {channel : EventChannel}
      (empty : (state.line channel).evtQueue = []) :
      HandlerMoves state (.rxEvtNot channel)
        { state with interrupt := some (.clearFlag channel) }
  | take
      {channel : EventChannel}
      {packet : EventPacket Buffer}
      {rest : List (EventPacket Buffer)}
      (queued : (state.line channel).evtQueue = packet :: rest) :
      HandlerMoves state (.rxEvtNot channel)
        { state.setLine channel
            { state.line channel with evtQueue := rest } with
          interrupt := some (.evtReceived channel packet) }
  | receive
      {channel : EventChannel}
      {buffer : Buffer} :
      HandlerMoves state (.evtReceived channel (.asynch buffer))
        { state.setLine channel
            { state.line channel with
              asynchEventQueue :=
                (state.line channel).asynchEventQueue ++ [buffer] } with
          interrupt := some (.notify channel) }
  | receiveCommand
      {channel : EventChannel} :
      HandlerMoves state (.evtReceived channel .command)
        { state with
          commandEvents := state.commandEvents + 1
          interrupt := some (.rxEvtNot channel) }
  | notify
      {channel : EventChannel} :
      HandlerMoves state (.notify channel)
        { state.setLine channel
            { state.line channel with taskSet := true } with
          interrupt := some (.rxEvtNot channel) }
  | clearFlag
      {channel : EventChannel} :
      HandlerMoves state (.clearFlag channel)
        { state.setLine channel
            { state.line channel with occupied := false } with
          interrupt := none }
  | freeBufCb
      (set : state.freeBufCb = true) :
      HandlerMoves state .freeBufCb
        { state with interrupt := some .sendFreeBuf }
  | sent
      (empty : state.localFreeBufQueue = []) :
      HandlerMoves state .sendFreeBuf
        { state with interrupt := some .setFlag }
  | send
      {buffer : Buffer}
      {rest : List Buffer}
      (queued : state.localFreeBufQueue = buffer :: rest) :
      HandlerMoves state .sendFreeBuf
        { state with
          localFreeBufQueue := rest
          interrupt := some (.insertFree buffer) }
  | insertFree
      {buffer : Buffer} :
      HandlerMoves state (.insertFree buffer)
        { state with
          freeBufQueue := state.freeBufQueue ++ [buffer]
          interrupt := some .sendFreeBuf }
  | setFlag :
      HandlerMoves state .setFlag
        { state with releaseOccupied := true, interrupt := none }

theorem stepHandler_moves
    {state next : EventMailbox Buffer}
    {step : InterruptStep Buffer}
    (moves : state.stepHandler step = some next) :
    HandlerMoves state step next := by
  cases step with
  | rxEvtNot channel =>
      simp only [stepHandler] at moves
      split at moves
      · cases moves
        exact .drained (by assumption)
      · cases moves
        exact .take (by assumption)
  | evtReceived channel packet =>
      cases packet with
      | asynch buffer =>
          cases moves
          exact .receive
      | command =>
          cases moves
          exact .receiveCommand
  | notify channel =>
      cases moves
      exact .notify
  | clearFlag channel =>
      cases moves
      exact .clearFlag
  | freeBufCb =>
      obtain ⟨set, same⟩ := Option.ite_none_right_eq_some.mp moves
      cases same
      exact .freeBufCb set
  | sendFreeBuf =>
      simp only [stepHandler] at moves
      split at moves
      · cases moves
        exact .sent (by assumption)
      · cases moves
        exact .send (by assumption)
  | insertFree buffer =>
      cases moves
      exact .insertFree
  | setFlag =>
      cases moves
      exact .setFlag

/-- What a step of a task can do. -/
inductive TaskMoves
    (state : EventMailbox Buffer) (channel : EventChannel) :
    EventTaskStep Buffer → EventMailbox Buffer → Prop where
  | ready
      (ready : eventReady (state.line channel) = true) :
      TaskMoves state channel .checkQueue
        { state with running := some (channel, .removeHead) }
  | idle
      (idle : eventReady (state.line channel) = false) :
      TaskMoves state channel .checkQueue
        { state with running := some (channel, .checkAgain) }
  | removeHead
      {buffer : Buffer}
      {rest : List Buffer}
      (queued : (state.line channel).asynchEventQueue = buffer :: rest) :
      TaskMoves state channel .removeHead
        { state.setLine channel
            { state.line channel with asynchEventQueue := rest } with
          running := some (channel, .userEvtRx buffer) }
  | evtDone
      {buffer : Buffer} :
      TaskMoves state channel (.evtDone buffer)
        { state with
          localFreeBufQueue := state.localFreeBufQueue ++ [buffer]
          running := some (channel, .isActiveFlag) }
  | active
      (active : state.releaseOccupied = true) :
      TaskMoves state channel .isActiveFlag
        { state with running := some (channel, .setFreeBufCb) }
  | inactive
      (inactive : state.releaseOccupied = false) :
      TaskMoves state channel .isActiveFlag
        { state with running := some (channel, .sendFreeBuf) }
  | setFreeBufCb :
      TaskMoves state channel .setFreeBufCb
        { state with
          freeBufCb := true
          running := some (channel, .enableTransmit) }
  | enableTransmit :
      TaskMoves state channel .enableTransmit
        { state with
          releaseEnabled := true
          running := some (channel, .checkAgain) }
  | sent
      (empty : state.localFreeBufQueue = []) :
      TaskMoves state channel .sendFreeBuf
        { state with running := some (channel, .setFlag) }
  | send
      (filled : state.localFreeBufQueue ≠ []) :
      TaskMoves state channel .sendFreeBuf
        { state with running := some (channel, .removeLocal) }
  | removeLocal
      {buffer : Buffer}
      {rest : List Buffer}
      (queued : state.localFreeBufQueue = buffer :: rest) :
      TaskMoves state channel .removeLocal
        { state with
          localFreeBufQueue := rest
          running := some (channel, .insertFree buffer) }
  | insertFree
      {buffer : Buffer} :
      TaskMoves state channel (.insertFree buffer)
        { state with
          freeBufQueue := state.freeBufQueue ++ [buffer]
          running := some (channel, .sendFreeBuf) }
  | setFlag :
      TaskMoves state channel .setFlag
        { state with
          releaseOccupied := true
          running := some (channel, .checkAgain) }
  | putBack
      {buffer : Buffer} :
      TaskMoves state channel (.putBack buffer)
        { state.setLine channel
            { state.line channel with
              asynchEventQueue :=
                buffer :: (state.line channel).asynchEventQueue } with
          running := some (channel, .checkAgain) }
  | again
      (ready : eventReady (state.line channel) = true) :
      TaskMoves state channel .checkAgain
        (state.setLine channel
          { state.line channel with taskSet := true }).finish
  | done
      (idle : eventReady (state.line channel) = false) :
      TaskMoves state channel .checkAgain state.finish

theorem stepTask_moves
    {state next : EventMailbox Buffer}
    {channel : EventChannel}
    {step : EventTaskStep Buffer}
    (moves : state.stepTask channel step = some next) :
    TaskMoves state channel step next := by
  cases step with
  | checkQueue =>
      simp only [stepTask] at moves
      split at moves
      · cases moves
        exact .ready (by assumption)
      · cases moves
        exact .idle (by simp_all)
  | removeHead =>
      simp only [stepTask] at moves
      split at moves
      · cases moves
      · cases moves
        exact .removeHead (by assumption)
  | userEvtRx buffer => cases moves
  | evtDone buffer =>
      cases moves
      exact .evtDone
  | isActiveFlag =>
      simp only [stepTask] at moves
      split at moves
      · cases moves
        exact .active (by assumption)
      · cases moves
        exact .inactive (by simp_all)
  | setFreeBufCb =>
      cases moves
      exact .setFreeBufCb
  | enableTransmit =>
      cases moves
      exact .enableTransmit
  | sendFreeBuf =>
      simp only [stepTask] at moves
      split at moves
      · cases moves
        exact .sent (by assumption)
      · cases moves
        exact .send (by simp_all)
  | removeLocal =>
      simp only [stepTask] at moves
      split at moves
      · cases moves
      · cases moves
        exact .removeLocal (by assumption)
  | insertFree buffer =>
      cases moves
      exact .insertFree
  | setFlag =>
      cases moves
      exact .setFlag
  | putBack buffer =>
      cases moves
      exact .putBack
  | checkAgain =>
      simp only [stepTask] at moves
      split at moves
      · cases moves
        exact .again (by assumption)
      · cases moves
        exact .done (by simp_all)

/-- What an event can do. -/
inductive Moves (state : EventMailbox Buffer) :
    Event → EventMailbox Buffer → Prop where
  | post
      {channel : EventChannel}
      {index : Nat}
      {buffer : Buffer}
      (clear : (state.line channel).occupied = false)
      (taken : state.pool[index]? = some buffer) :
      Moves state (.post channel index)
        { state.setLine channel
            { state.line channel with
              evtQueue := (state.line channel).evtQueue ++ [.asynch buffer]
              sent := (state.line channel).sent ++ [buffer] } with
          pool := state.pool.eraseIdx index }
  | postCommand
      (clear : (state.line .ble).occupied = false) :
      Moves state .postCommand
        (state.setLine .ble
          { state.line .ble with
            evtQueue := (state.line .ble).evtQueue ++ [.command] })
  | announce
      {channel : EventChannel}
      (clear : (state.line channel).occupied = false) :
      Moves state (.announce channel)
        (state.setLine channel
          { state.line channel with
            occupied := true
            announced := (state.line channel).sent })
  | collect
      {buffer : Buffer}
      {rest : List Buffer}
      (occupied : state.releaseOccupied = true)
      (filled : state.freeBufQueue = buffer :: rest) :
      Moves state .collect
        { state with
          freeBufQueue := rest
          pool := state.pool ++ [buffer] }
  | release
      (occupied : state.releaseOccupied = true)
      (empty : state.freeBufQueue = []) :
      Moves state .release { state with releaseOccupied := false }
  | rxHandler
      {channel : EventChannel}
      (idle : state.interrupt = none)
      (occupied : (state.line channel).occupied = true) :
      Moves state .rxHandler
        { state with interrupt := some (.rxEvtNot channel) }
  | txHandler
      (idle : state.interrupt = none)
      (enabled : state.releaseEnabled = true)
      (clear : state.releaseOccupied = false) :
      Moves state .txHandler
        { state with
          releaseEnabled := false
          interrupt := some .freeBufCb }
  | handler
      {step : InterruptStep Buffer}
      {next : EventMailbox Buffer}
      (runs : state.interrupt = some step)
      (moves : HandlerMoves state step next) :
      Moves state .handler next
  | start
      {channel : EventChannel}
      (idle : state.interrupt = none)
      (fresh : channel ∉ state.started)
      (alone : state.running = none) :
      Moves state (.start channel)
        { state.setLine channel
            { state.line channel with taskSet := false } with
          running := some (channel, .checkQueue) }
  | startNested
      {channel below : EventChannel}
      {buffer : Buffer}
      (idle : state.interrupt = none)
      (fresh : channel ∉ state.started)
      (waits : state.running = some (below, .userEvtRx buffer)) :
      Moves state (.start channel)
        { state.setLine channel
            { state.line channel with taskSet := false } with
          running := some (channel, .checkQueue)
          waiting := (below, buffer) :: state.waiting }
  | task
      {channel : EventChannel}
      {step : EventTaskStep Buffer}
      {next : EventMailbox Buffer}
      (idle : state.interrupt = none)
      (runs : state.running = some (channel, step))
      (prompt : step = .isActiveFlag ∨ state.pending = false)
      (moves : TaskMoves state channel step next) :
      Moves state .task next
  | accept
      {channel : EventChannel}
      {buffer : Buffer}
      (idle : state.interrupt = none)
      (runs : state.running = some (channel, .userEvtRx buffer)) :
      Moves state (.userEvtRx true)
        { state.setLine channel
            { state.line channel with
              userEventFlow := true
              received := (state.line channel).received ++ [buffer] } with
          running := some (channel, .evtDone buffer) }
  | refuse
      {channel : EventChannel}
      {buffer : Buffer}
      (idle : state.interrupt = none)
      (runs : state.running = some (channel, .userEvtRx buffer)) :
      Moves state (.userEvtRx false)
        { state.setLine channel
            { state.line channel with userEventFlow := false } with
          running := some (channel, .putBack buffer) }
  | takeCommandEvents :
      Moves state .takeCommandEvents { state with commandEvents := 0 }

theorem start_moves
    {state next : EventMailbox Buffer}
    {channel : EventChannel}
    (idle : state.interrupt = none)
    (moves : state.start channel = some next) :
    Moves state (.start channel) next := by
  simp only [start] at moves
  split at moves
  · rename_i allowed
    split at moves
    · cases moves
      exact .start idle allowed.2 (by assumption)
    · cases moves
      exact .startNested idle allowed.2 (by assumption)
    · cases moves
  · cases moves

theorem task_moves
    {state next : EventMailbox Buffer}
    (moves : state.step .task = some next) :
    Moves state .task next := by
  simp only [step] at moves
  split at moves
  · cases moves
  · obtain ⟨idle, moved⟩ := Option.ite_none_right_eq_some.mp moves
    exact .task (by simpa using idle) (by assumption) (.inl rfl)
      (stepTask_moves moved)
  · obtain ⟨⟨idle, prompt⟩, moved⟩ :=
      Option.ite_none_right_eq_some.mp moves
    exact .task (by simpa using idle) (by assumption)
      (.inr (by simpa using prompt)) (stepTask_moves moved)

theorem step_moves
    {state next : EventMailbox Buffer}
    {event : Event}
    (moves : state.step event = some next) :
    Moves state event next := by
  cases event with
  | post channel index =>
      obtain ⟨clear, moved⟩ := Option.ite_none_left_eq_some.mp moves
      obtain ⟨buffer, taken, rfl⟩ := Option.map_eq_some_iff.mp moved
      exact .post (by simpa using clear) taken
  | postCommand =>
      obtain ⟨clear, moved⟩ := Option.ite_none_left_eq_some.mp moves
      cases moved
      exact .postCommand (by simpa using clear)
  | announce channel =>
      obtain ⟨clear, moved⟩ := Option.ite_none_left_eq_some.mp moves
      cases moved
      exact .announce (by simpa using clear)
  | collect =>
      simp only [step] at moves
      split at moves
      · cases moves
        exact .collect (by assumption) (by assumption)
      · cases moves
  | release =>
      simp only [step] at moves
      split at moves
      · cases moves
        exact .release (by assumption) (by assumption)
      · cases moves
  | rxHandler =>
      obtain ⟨idle, moved⟩ := Option.ite_none_left_eq_some.mp moves
      have free : state.interrupt = none := by simpa using idle
      split at moved
      · cases moved
        exact .rxHandler free (by assumption)
      · obtain ⟨occupied, same⟩ := Option.ite_none_right_eq_some.mp moved
        cases same
        exact .rxHandler free occupied
  | txHandler =>
      obtain ⟨⟨idle, enabled, clear⟩, moved⟩ :=
        Option.ite_none_right_eq_some.mp moves
      cases moved
      exact .txHandler (by simpa using idle) enabled (by simpa using clear)
  | handler =>
      obtain ⟨step, runs, moved⟩ := Option.bind_eq_some_iff.mp moves
      exact .handler runs (stepHandler_moves moved)
  | start channel =>
      obtain ⟨idle, moved⟩ := Option.ite_none_right_eq_some.mp moves
      exact start_moves (by simpa using idle) moved
  | task => exact task_moves moves
  | userEvtRx flow =>
      simp only [step] at moves
      split at moves
      · split at moves
        · rename_i accepted
          cases moves
          cases accepted
          exact .accept (by assumption) (by assumption)
        · rename_i refused
          cases moves
          rw [Bool.not_eq_true] at refused
          cases refused
          exact .refuse (by assumption) (by assumption)
      · cases moves
  | takeCommandEvents =>
      cases moves
      exact .takeCommandEvents

theorem finish_line (state : EventMailbox Buffer) :
    state.finish.line = state.line := by
  unfold finish
  split <;> rfl

end EventMailbox

end DemoBoard
