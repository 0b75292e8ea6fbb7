import DemoBoard.Presentation

namespace DemoBoard

/-!
# Confirmation of a pairing

What a confirmation by the user says about the messages the presentation
controller has received.  In the pairing state the controller does not handle
BLE events: a request or a disconnect that arrives there leaves the displayed
code as it is.
-/

namespace Presentation

/--
The controller receives messages one after the other, each in a state where
`proper` allows it.  The first state may be any but the pairing state.
-/
inductive Run (proper : Controller → Message → Prop) :
    List Message → Controller → Prop where
  | start
      {controller : Controller}
      (notPairing : controller.handler ≠ .appPairing) :
      Run proper [] controller
  | receive
      {history : List Message}
      {controller : Controller}
      (run : Run proper history controller)
      (message : Message)
      (properMessage : proper controller message) :
      Run proper (history ++ [message])
        (Presentation.receive controller message).controller

/-- The latest request was for `code`, and no disconnect came after it. -/
def Requested (history : List Message) (code : UInt32) : Prop :=
  ∃ earlier request later,
    history = earlier ++ request :: later ∧
      isAskUserAcceptPairing request ∧
      request.parameter2 = code ∧
      ∀ message ∈ later,
        ¬isAskUserAcceptPairing message ∧ ¬isDisconnect message

/--
In the pairing state no disconnect and no request for another code is
received.
-/
def Undisturbed (controller : Controller) (message : Message) : Prop :=
  controller.handler = .appPairing →
    ¬isDisconnect message ∧
      (isAskUserAcceptPairing message →
        message.parameter2 = controller.pairingCode)

instance (controller : Controller) (message : Message) :
    Decidable (Undisturbed controller message) := by
  unfold Undisturbed
  infer_instance

/-- A request is the latest one when it arrives. -/
theorem Requested.of_request
    {message : Message}
    (history : List Message)
    (asked : isAskUserAcceptPairing message) :
    Requested (history ++ [message]) message.parameter2 :=
  ⟨history, message, [], rfl, asked, rfl, by simp⟩

/-- A message that is no request and no disconnect changes nothing. -/
theorem Requested.append
    {history : List Message}
    {code : UInt32}
    {message : Message}
    (requested : Requested history code)
    (notAsked : ¬isAskUserAcceptPairing message)
    (notDisconnect : ¬isDisconnect message) :
    Requested (history ++ [message]) code := by
  rcases requested with
    ⟨earlier, request, later, rfl, asked, ofCode, quiet⟩
  refine ⟨earlier, request, later ++ [message], by simp, asked, ofCode, ?_⟩
  intro other member
  rcases List.mem_append.mp member with old | new
  · exact quiet other old
  · rw [List.mem_singleton.mp new]
    exact ⟨notAsked, notDisconnect⟩

/-- The code is open after a message just if the message left it open. -/
theorem Requested.of_append
    {history : List Message}
    {code : UInt32}
    {message : Message}
    (requested : Requested (history ++ [message]) code) :
    isAskUserAcceptPairing message ∧ message.parameter2 = code ∨
      ¬isAskUserAcceptPairing message ∧ ¬isDisconnect message := by
  rcases requested with
    ⟨earlier, request, later, split, asked, ofCode, quiet⟩
  rcases later.eq_nil_or_concat with rfl | ⟨front, last, rfl⟩
  · have isLast : message = request := by
      have := congrArg List.getLast? split
      simpa using this
    exact .inl ⟨isLast ▸ asked, isLast ▸ ofCode⟩
  · have isLast : message = last := by
      rw [List.concat_eq_append, ← List.cons_append,
        ← List.append_assoc] at split
      exact List.singleton_inj.mp (List.append_inj' split rfl).2
    exact .inr (quiet message (by simp [isLast]))

/-- In the pairing state the displayed code is the requested one. -/
def CodeShown (history : List Message) (controller : Controller) : Prop :=
  controller.handler = .appPairing →
    Requested history controller.pairingCode

/-- An undisturbed step keeps the displayed code up to date. -/
theorem CodeShown.receive
    {history : List Message}
    {controller : Controller}
    {message : Message}
    (shown : CodeShown history controller)
    (undisturbed : Undisturbed controller message) :
    CodeShown (history ++ [message])
      (Presentation.receive controller message).controller := by
  intro inPairing
  rcases receive_pairing inPairing with
    ⟨wasPairing, sameCode⟩ | ⟨asked, newCode⟩
  · rw [sameCode]
    obtain ⟨notDisconnect, ofSameCode⟩ := undisturbed wasPairing
    by_cases asked : isAskUserAcceptPairing message
    · rw [← ofSameCode asked]
      exact .of_request history asked
    · exact (shown wasPairing).append asked notDisconnect
  · rw [newCode]
    exact .of_request history asked

theorem Run.codeShown
    {history : List Message}
    {controller : Controller}
    (run : Run Undisturbed history controller) :
    CodeShown history controller := by
  induction run with
  | start notPairing =>
      exact fun inPairing => absurd inPairing notPairing
  | receive run message undisturbed shown =>
      exact shown.receive undisturbed

/--
In every run in which the pairing state is undisturbed, a confirmation is
published only while the displayed code is the one of the latest request, and
no disconnect was received since.
-/
theorem confirms_requested_code
    {history : List Message}
    {controller : Controller}
    {message : Message}
    (run : Run Undisturbed history controller)
    (accepted : userAcceptedPairing ∈ (receive controller message).published) :
    Requested history controller.pairingCode :=
  run.codeShown (receive_userAcceptedPairing accepted).1

/-- A disconnect or another request leaves a code that is not requested. -/
theorem disturbed_notRequested
    {history : List Message}
    {controller : Controller}
    {message : Message}
    (disturbed : ¬Undisturbed controller message) :
    ¬Requested (history ++ [message]) controller.pairingCode := by
  intro requested
  apply disturbed
  intro _
  rcases requested.of_append with ⟨asked, ofCode⟩ | ⟨notAsked, connected⟩
  · refine ⟨?_, fun _ => ofCode⟩
    simp only [isAskUserAcceptPairing, decide_eq_true_eq] at asked
    simp [isDisconnect, asked.2, BleInterface.askUserAcceptPairing,
      BleInterface.disconnect]
  · exact ⟨connected, fun asked => absurd asked notAsked⟩

/-- The pairing state does not handle BLE events. -/
theorem receive_bleEvent
    {controller : Controller}
    {message : Message}
    (inPairing : controller.handler = .appPairing)
    (ofBle : message.category = Category.bleEvent) :
    receive controller message =
      { controller := controller, published := [], handled := false } := by
  have notSensor : isSensorData message = false := by
    simp [isSensorData, ofBle, Category.bleEvent, Category.sensorValue]
  have notTime : isTimeElapsed message = false := by
    simp [isTimeElapsed, ofBle, Category.bleEvent, Category.timeInformation]
  have notButton : isButtonEvent message = false := by
    simp [isButtonEvent, ofBle, Category.bleEvent, Category.buttonEvent]
  simp [receive, inPairing, appPairingState, notSensor, notTime, notButton,
    handleStateOrBattery, handleSystemStateChange, evalBatteryEvent, ofBle,
    Category.bleEvent, Category.systemStateChange, Category.batteryEvent]

/--
After a message that disturbs the pairing state, a button press confirms a
code that is not requested.
-/
theorem disturbed_confirms
    {history : List Message}
    {controller : Controller}
    {message button : Message}
    (disturbed : ¬Undisturbed controller message)
    (isButton : isButtonEvent button) :
    userAcceptedPairing ∈
        (receive (receive controller message).controller button).published ∧
      ¬Requested (history ++ [message])
        (receive controller message).controller.pairingCode := by
  have inPairing : controller.handler = .appPairing := by
    by_contra notPairing
    exact disturbed fun isPairing => absurd isPairing notPairing
  have ofBle : message.category = Category.bleEvent := by
    by_contra notBle
    apply disturbed
    simp [Undisturbed, isDisconnect, isAskUserAcceptPairing, notBle]
  rw [receive_bleEvent inPairing ofBle]
  exact ⟨receive_button inPairing isButton, disturbed_notRequested disturbed⟩

/-- A request for `code`. -/
def askMessage (code : UInt32) : Message where
  id := BleInterface.askUserAcceptPairing
  parameter1 := 0
  category := Category.bleEvent
  parameter2 := code

/-- The message of `SVCCTL_App_Notification` on a disconnect. -/
def disconnectMessage : Message where
  id := BleInterface.disconnect
  parameter1 := 0
  category := Category.bleEvent
  parameter2 := 0

/-- A short press of the button. -/
def pressMessage : Message where
  id := ButtonEvent.shortPress
  parameter1 := 0
  category := Category.buttonEvent
  parameter2 := 0

/-- The controller in normal operation. -/
def normalOperation : Controller :=
  { Controller.static with handler := .appNormalOperation }

/-- A request, and the press that confirms it. -/
theorem confirms_requested_code_one :
    Requested [askMessage 123456]
      (receive normalOperation (askMessage 123456)).controller.pairingCode :=
  @confirms_requested_code [askMessage 123456]
    (receive normalOperation (askMessage 123456)).controller pressMessage
    (.receive (.start (by decide)) (askMessage 123456) (by decide))
    (by decide)

/--
The first central disconnects while its code is shown, and the second asks
with another code: the press confirms with the first code on display.
-/
theorem confirms_requested_code_disturbed :
    ¬∀ (history : List Message) (controller : Controller)
        (message : Message),
      Run (fun _ _ => True) history controller →
        userAcceptedPairing ∈ (receive controller message).published →
          Requested history controller.pairingCode := by
  intro confirms
  have start : Run (fun _ _ => True) [] normalOperation :=
    .start (by decide)
  have first := start.receive (askMessage 123456) trivial
  have second := first.receive disconnectMessage trivial
  have third := second.receive (askMessage 654321) trivial
  have requested := confirms _ _ pressMessage third (by decide)
  rcases requested.of_append with ⟨_, ofCode⟩ | ⟨notAsked, _⟩
  · exact absurd ofCode (by decide)
  · exact absurd (by decide) notAsked

end Presentation

end DemoBoard
