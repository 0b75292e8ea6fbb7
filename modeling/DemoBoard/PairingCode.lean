import DemoBoard.ByteMemory
import DemoBoard.Presentation
import Mathlib.Tactic.IntervalCases

namespace DemoBoard

open ByteMemory

/-!
# The pairing code from the BLE event to the screen

`SVCCTL_App_Notification` takes the code out of an event with a copy that stops
at the byte 4; the presentation controller draws the six decimal digits of what
it is sent.
-/

/-- `memccpy`: a copy of `count` bytes that ends behind the byte `stop`. -/
def memccpy : List Byte → List Byte → Byte → Nat → List Byte
  | _ :: destination, byte :: source, stop, count + 1 =>
      byte ::
        if byte = stop then
          destination
        else
          memccpy destination source stop count
  | destination, _, _, _ => destination

/-- The data of `ACI_GAP_NUMERIC_COMPARISON_VALUE`. -/
def numericComparisonData (connectionHandle : UInt16) (value : Nat) :
    List Byte :=
  leBytes 2 connectionHandle.toNat ++ leBytes 4 value

/-- The message for the event in `SVCCTL_App_Notification`. -/
def numericComparisonMessage (data : List Byte) : Message :=
  -- read the received pairing code
  let pairingCode := leValue (memccpy (leBytes 4 0) (data.drop 2) 4 4)
  { id := BleInterface.askUserAcceptPairing
    parameter1 := 0
    category := Category.bleEvent
    parameter2 := UInt32.ofNat pairingCode }

/-- `SCREEN_BLANK` -/
def screenBlank : UInt8 := 0x00

/-- `gScreen_Digit` -/
def screenDigit : List UInt8 :=
  [0xEE, 0x44, 0xDA, 0xD6, 0x74, 0xB6, 0xBE, 0xC4, 0xFE, 0xF6, 0xFC, 0x3E,
    0xAA, 0x5E, 0xBA, 0xB8]

/-- `Screen_DigitToBitmap` -/
def digitToBitmap (digit : Nat) : UInt8 :=
  screenDigit.getD (digit % 16) screenBlank

/-- What the display shows; the symbols are numbered from 1 to 8. -/
structure Screen where
  symbol : Nat → UInt8
  celsius1 : Bool
  celsius2 : Bool
  fahrenheit1 : Bool
  fahrenheit2 : Bool
  rh : Bool

/-- `Screen_DisplaySymbol1` to `Screen_DisplaySymbol8` -/
def Screen.displaySymbol
    (screen : Screen) (position : Nat) (bitmap : UInt8) : Screen :=
  { screen with symbol := Function.update screen.symbol position bitmap }

/-- The loop of `DisplayPairingScreen`. -/
def Screen.displayDigits : Screen → List Nat → Nat → Screen
  | screen, [], _ => screen
  | screen, position :: passKey, absValue =>
      (screen.displaySymbol position
        (digitToBitmap (absValue % 10))).displayDigits passKey
          (absValue / 10)

/-- `DisplayPairingScreen` -/
def displayPairingScreen
    (controller : Presentation.Controller) (screen : Screen) : Screen :=
  let units :=
    { screen with
      celsius1 := false
      celsius2 := false
      fahrenheit1 := false
      fahrenheit2 := false
      rh := false }
  -- turn off unused digits
  let blank :=
    (units.displaySymbol 1 screenBlank).displaySymbol 5 screenBlank
  blank.displayDigits [8, 7, 6, 4, 3, 2] controller.pairingCode.toNat

/-- The code reaches the message, the controller and the screen. -/
structure Shows
    (code : Nat) (message : Message) (controller : Presentation.Controller)
    (screen : Screen) : Prop where
  carried : message.parameter2.toNat = code
  stored : controller.pairingCode.toNat = code
  symbol2 : screen.symbol 2 = digitToBitmap (code / 100000 % 10)
  symbol3 : screen.symbol 3 = digitToBitmap (code / 10000 % 10)
  symbol4 : screen.symbol 4 = digitToBitmap (code / 1000 % 10)
  symbol6 : screen.symbol 6 = digitToBitmap (code / 100 % 10)
  symbol7 : screen.symbol 7 = digitToBitmap (code / 10 % 10)
  symbol8 : screen.symbol 8 = digitToBitmap (code % 10)

/-- A copy has the length of its destination. -/
theorem length_memccpy
    (destination source : List Byte)
    (stop : Byte)
    (count : Nat) :
    (memccpy destination source stop count).length =
      destination.length := by
  induction count generalizing destination source with
  | zero => simp [memccpy]
  | succ count inductionHypothesis =>
      cases destination with
      | nil => simp [memccpy]
      | cons first rest =>
          cases source with
          | nil => simp [memccpy]
          | cons byte source =>
              rw [memccpy]
              split
              · rfl
              · simp [inductionHypothesis]

/-- No byte of a code is 4 below a byte that is not 0. -/
def Survives (width code : Nat) : Prop :=
  ∀ place < width, code / 256 ^ place % 256 = 4 →
    code < 256 ^ (place + 1)

/-- A number survives if its lowest byte does not stop the copy. -/
theorem survives_succ_iff
    (width code : Nat) :
    Survives (width + 1) code ↔
      (code % 256 = 4 → code / 256 = 0) ∧ Survives width (code / 256) := by
  constructor
  · intro survives
    refine ⟨?_, ?_⟩
    · intro stops
      have small := survives 0 (Nat.succ_pos width) (by simpa using stops)
      omega
    · intro place inside stops
      have small := survives (place + 1) (Nat.succ_lt_succ inside)
        (by rw [Nat.pow_succ', ← Nat.div_div_eq_div_mul]; exact stops)
      rw [Nat.pow_succ] at small
      exact Nat.div_lt_of_lt_mul (by rw [Nat.mul_comm]; exact small)
  · rintro ⟨lowest, survives⟩ place inside stops
    cases place with
    | zero =>
        have nothing := lowest (by simpa using stops)
        omega
    | succ place =>
        rw [Nat.pow_succ', ← Nat.div_div_eq_div_mul] at stops
        have small := survives place (Nat.lt_of_succ_lt_succ inside) stops
        rw [Nat.pow_succ]
        omega

/-- The number 0 has no byte that stops the copy. -/
theorem survives_zero (width : Nat) : Survives width 0 := by
  intro place _ stops
  simp at stops

/-- The bytes of 0 store 0. -/
theorem leValue_zero (width : Nat) : leValue (leBytes width 0) = 0 := by
  rw [leValue_leBytes, Nat.zero_mod]

/-- The copy of a number is complete exactly if the number survives. -/
theorem leValue_memccpy_iff
    {width code : Nat}
    (small : code < 256 ^ width) :
    leValue (memccpy (leBytes width 0) (leBytes width code) 4 width) =
        code ↔
      Survives width code := by
  induction width generalizing code with
  | zero =>
      simp only [Nat.pow_zero, Nat.lt_one_iff] at small
      simp [small, leBytes, memccpy, leValue, Survives]
  | succ width inductionHypothesis =>
      rw [Nat.pow_succ] at small
      have higher := @inductionHypothesis (code / 256) (by omega)
      have lowest : (UInt8.ofNat code).toNat = code % 256 :=
        UInt8.toNat_ofNat'
      rw [survives_succ_iff, ← higher, leBytes, leBytes, memccpy, leValue,
        lowest]
      by_cases stops : UInt8.ofNat code = 4
      · have four : code % 256 = 4 := by
          rw [← lowest, stops]
          rfl
        rw [if_pos stops, Nat.zero_div, leValue_zero]
        constructor
        · intro complete
          have nothing : code / 256 = 0 := by omega
          exact ⟨fun _ => nothing,
            higher.mpr (by rw [nothing]; exact survives_zero width)⟩
        · rintro ⟨nothing, _⟩
          have none := nothing four
          omega
      · have notFour : code % 256 ≠ 4 := by
          rw [← lowest]
          exact fun same => stops (UInt8.toNat_inj.mp same)
        rw [if_neg stops, Nat.zero_div]
        generalize leValue _ = copied
        constructor
        · intro complete
          exact ⟨fun four => (notFour four).elim, by omega⟩
        · rintro ⟨_, complete⟩
          omega

section Codes

variable {code : Nat}
variable {connectionHandle : UInt16}
variable {controller : Presentation.Controller}

/-- The message carries the code of the event exactly if it survives. -/
theorem numericComparisonMessage_iff
    (small : code ≤ 999999) :
    (numericComparisonMessage
        (numericComparisonData connectionHandle code)).parameter2.toNat =
        code ↔
      Survives 4 code := by
  have bytes : (numericComparisonData connectionHandle code).drop 2 =
      leBytes 4 code := by
    rw [numericComparisonData, List.drop_left' (length_leBytes 2 _)]
  rw [← leValue_memccpy_iff (show code < 256 ^ 4 by omega),
    numericComparisonMessage, bytes]
  have bound := leValue_lt
    (memccpy (leBytes 4 0) (leBytes 4 code) 4 4)
  rw [length_memccpy, length_leBytes] at bound
  rw [UInt32.toNat_ofNat',
    Nat.mod_eq_of_lt (Nat.lt_of_lt_of_le bound (by norm_num))]

/-- The controller stores the code of the message. -/
theorem pairingCode_receive
    (normal : controller.handler = .appNormalOperation)
    (data : List Byte) :
    (Presentation.receive controller
        (numericComparisonMessage data)).controller.pairingCode =
      (numericComparisonMessage data).parameter2 := by
  rw [Presentation.receive, normal]
  rfl

/-- The screen shows the digits of the stored code. -/
theorem displayPairingScreen_symbols
    (controller : Presentation.Controller)
    (screen : Screen) :
    let shown := (displayPairingScreen controller screen).symbol
    let code := controller.pairingCode.toNat
    shown 2 = digitToBitmap (code / 100000 % 10) ∧
      shown 3 = digitToBitmap (code / 10000 % 10) ∧
      shown 4 = digitToBitmap (code / 1000 % 10) ∧
      shown 6 = digitToBitmap (code / 100 % 10) ∧
      shown 7 = digitToBitmap (code / 10 % 10) ∧
      shown 8 = digitToBitmap (code % 10) := by
  simp [displayPairingScreen, Screen.displayDigits, Screen.displaySymbol,
    Nat.div_div_eq_div_mul]

end Codes

/--
The code of an event reaches the message, the controller and the screen exactly
if no byte 4 stands below a byte that is not 0.
-/
theorem pairing_code_shown_iff
    {code : Nat}
    (small : code ≤ 999999)
    (connectionHandle : UInt16)
    {controller : Presentation.Controller}
    (normal : controller.handler = .appNormalOperation)
    (screen : Screen) :
    let message := numericComparisonMessage
      (numericComparisonData connectionHandle code)
    let received := (Presentation.receive controller message).controller
    Shows code message received (displayPairingScreen received screen) ↔
      Survives 4 code := by
  intro message received
  have stores : received.pairingCode = message.parameter2 :=
    pairingCode_receive normal _
  have carries : message.parameter2.toNat = code ↔ Survives 4 code :=
    numericComparisonMessage_iff small
  obtain ⟨symbol2, symbol3, symbol4, symbol6, symbol7, symbol8⟩ :=
    displayPairingScreen_symbols received screen
  constructor
  · intro shows
    exact carries.mp shows.carried
  · intro survives
    have carried := carries.mpr survives
    have stored : received.pairingCode.toNat = code := by
      rw [stores, carried]
    rw [stored] at symbol2 symbol3 symbol4 symbol6 symbol7 symbol8
    exact
      { carried := carried
        stored := stored
        symbol2 := symbol2
        symbol3 := symbol3
        symbol4 := symbol4
        symbol6 := symbol6
        symbol7 := symbol7
        symbol8 := symbol8 }

/-- The display before anything is shown. -/
def blankScreen : Screen where
  symbol := fun _ => screenBlank
  celsius1 := false
  celsius2 := false
  fahrenheit1 := false
  fahrenheit2 := false
  rh := false

/-- The controller in normal operation. -/
def normalController : Presentation.Controller :=
  { Presentation.Controller.static with handler := .appNormalOperation }

/-- The code 123456 has no byte 4. -/
theorem pairing_code_shown_123456 :
    let message := numericComparisonMessage (numericComparisonData 1 123456)
    let received := (Presentation.receive normalController message).controller
    Shows 123456 message received
      (displayPairingScreen received blankScreen) := by
  refine (@pairing_code_shown_iff 123456 (by decide) 1 normalController rfl
    blankScreen).mpr ?_
  intro place inside stops
  interval_cases place <;> simp at stops

/-- The code 065540 ends with the byte 4, and the rest of it is lost. -/
theorem pairing_code_not_shown_065540 :
    let message := numericComparisonMessage (numericComparisonData 1 65540)
    let received := (Presentation.receive normalController message).controller
    ¬ Shows 65540 message received
      (displayPairingScreen received blankScreen) := by
  intro message received shows
  have carried := shows.carried
  revert carried
  decide

end DemoBoard
