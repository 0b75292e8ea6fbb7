import Mathlib.Logic.Basic

namespace DemoBoard

/-!
# User button

Model of the monitoring of `user_button/Button.c`.  The exit signal of the
button starts a session and a repeated timer that samples the button; the
session ends when the timer is stopped and the exit signal is registered
again, which is `monitoring`.
-/

namespace Button

/-- `BUTTON_UNSTABLE_THRESHOLD_TM` -/
def unstableThreshold : UInt16 := 100

/-- `BUTTON_PRESSED_THRESHOLD_CNT` -/
def pressedThreshold : UInt16 := 3

/-- `BUTTON_LONG_PRESSED_THRESHOLD_CNT` -/
def longPressedThreshold : UInt16 := 1000

/-- `BUTTON_RELEASE_THRESHOLD_CNT` -/
def releaseThreshold : UInt16 := 3

/-- `BUTTON_PRESS_DONE_THRESHOLD_CNT` -/
def pressDoneThreshold : UInt16 := 50

/-- `STICKY_BUTTON_THRESHOLD_TM` -/
def stickyButtonThreshold : UInt16 := 5000

/-- The values of `monitoringStateHandler`. -/
inductive Handler where
  | debouncing
  | buttonPressed
  | buttonReleased
  | releaseLongPressed
  deriving Repr, DecidableEq

/-- The events with a handler of their own. -/
inductive Event where
  | longPress
  | press
  | doubleClick
  deriving Repr, DecidableEq

/-- `gButtonState`, the session and the invoked event handlers. -/
structure State where
  buttonLowInRow : UInt16
  buttonUpInRow : UInt16
  monitoringTime : UInt16
  monitoringStateHandler : Handler
  /-- The handlers of `Button_Init` that are not null. -/
  registered : Event → Bool
  monitoring : Bool
  invoked : List Event

namespace State

/-- Call the handler of an event unless it is null. -/
def invoke (state : State) (event : Event) : State :=
  if state.registered event then
    { state with invoked := state.invoked ++ [event] }
  else
    state

/-- `StopMonitoringAndSignal` -/
def stopMonitoringAndSignal
    (state : State) (handler : Option Event) : State :=
  let state := { state with monitoring := false }
  match handler with
  | none => state
  | some event => state.invoke event

/-- The counting in all handlers but `Debouncing`. -/
def countSample (state : State) (buttonPressed : Bool) : State :=
  if buttonPressed then
    { state with buttonLowInRow := state.buttonLowInRow + 1 }
  else
    { state with buttonUpInRow := state.buttonUpInRow + 1 }

/-- The counting in `Debouncing`. -/
def countInRow (state : State) (buttonPressed : Bool) : State :=
  if buttonPressed then
    { state with
      buttonLowInRow := state.buttonLowInRow + 1
      buttonUpInRow := 0 }
  else
    { state with
      buttonLowInRow := 0
      buttonUpInRow := state.buttonUpInRow + 1 }

/-- `Debouncing` -/
def debouncing (state : State) (buttonPressed : Bool) : State :=
  let state := state.countInRow buttonPressed
  if state.buttonLowInRow > pressedThreshold then
    { state with monitoringStateHandler := .buttonPressed }
  else if state.monitoringTime > unstableThreshold then
    state.stopMonitoringAndSignal none
  else
    state

/-- `ButtonPressed` -/
def buttonPressed (state : State) (buttonPressed : Bool) : State :=
  let state := state.countSample buttonPressed
  if state.buttonLowInRow > longPressedThreshold then
    { state.invoke .longPress with
      monitoringStateHandler := .releaseLongPressed }
  else if state.buttonUpInRow > releaseThreshold then
    { state with
      buttonLowInRow := 0
      buttonUpInRow := 0
      monitoringStateHandler := .buttonReleased }
  else
    state

/-- `ButtonReleased` -/
def buttonReleased (state : State) (buttonPressed : Bool) : State :=
  let state := state.countSample buttonPressed
  if state.buttonUpInRow > pressDoneThreshold then
    if state.buttonLowInRow = 0 then
      state.stopMonitoringAndSignal (some .press)
    else
      state.stopMonitoringAndSignal (some .doubleClick)
  else
    state

/-- `ReleaseLongPressed` -/
def releaseLongPressed (state : State) (buttonPressed : Bool) : State :=
  let state := state.countSample buttonPressed
  if state.buttonUpInRow > releaseThreshold ∨
      state.monitoringTime > stickyButtonThreshold then
    state.stopMonitoringAndSignal none
  else
    state

/-- Call the current `monitoringStateHandler`. -/
def handle (state : State) (buttonPressed : Bool) : State :=
  match state.monitoringStateHandler with
  | .debouncing => state.debouncing buttonPressed
  | .buttonPressed => state.buttonPressed buttonPressed
  | .buttonReleased => state.buttonReleased buttonPressed
  | .releaseLongPressed => state.releaseLongPressed buttonPressed

/-- The reset at the start of `HandleButtonIdle`. -/
def startMonitoring (state : State) : State :=
  { state with
    buttonLowInRow := 0
    buttonUpInRow := 0
    monitoringTime := 0
    monitoringStateHandler := .debouncing
    monitoring := true }

/-- `HandleButtonIdle`, with the level of the button -/
def handleButtonIdle (state : State) (buttonPressed : Bool) : State :=
  state.startMonitoring.handle buttonPressed

/-- The overall observation time of `HandleButtonActive`. -/
def countTime (state : State) : State :=
  { state with monitoringTime := state.monitoringTime + 1 }

/-- `HandleButtonActive`, with the level of the button -/
def handleButtonActive (state : State) (buttonPressed : Bool) : State :=
  state.countTime.handle buttonPressed

/-- A tick of the timer, which is stopped outside of a session. -/
def tick (state : State) (buttonPressed : Bool) : State :=
  if state.monitoring then
    state.handleButtonActive buttonPressed
  else
    state

/-- A session over the sampled levels, `true` for a pressed button. -/
def session (state : State) (levels : Nat → Bool) : Nat → State
  | 0 => state.handleButtonIdle (levels 0)
  | time + 1 => (state.session levels time).tick (levels (time + 1))

end State

end Button

end DemoBoard
