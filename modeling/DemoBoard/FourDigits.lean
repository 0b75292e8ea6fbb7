import DemoBoard.ScreenRows
import Mathlib.Data.List.Induction
import Mathlib.Data.Nat.Notation

namespace DemoBoard

/-!
# Four digits after each other

What one call of `Screen_DisplayFourDigits` leaves on a row, and what a
sequence of calls does.  Digits are always replaced.  The sign indicator is
written for a leading digit only, and a shorter value keeps the indicator of
the last value that had one.
-/

namespace ScreenRow

/-- The calls of `Screen_DisplayFourDigits` for some values. -/
def displayAll (row : ScreenRow) (values : List Int) (lcd : Lcd) : Lcd :=
  values.foldl
    (fun lcd value => displayFourDigits value row.symbols row.sign lcd) lcd

theorem displayAll_append
    (row : ScreenRow)
    (values : List Int)
    (value : Int)
    (lcd : Lcd) :
    row.displayAll (values ++ [value]) lcd =
      displayFourDigits value row.symbols row.sign
        (row.displayAll values lcd) := by
  rw [displayAll, List.foldl_append]
  rfl

/-- A value is wide enough for a digit in the leading position. -/
def isWide (value : Int) : Bool := 1000 ≤ value.natAbs

/-- What a reader of the row expects to see for a value. -/
structure Displays
    (row : ScreenRow) (value : Int) (lcd : Lcd) : Prop where
  lower :
    ∀ position : Fin 4, position < 3 →
      row.Shows position
        (digitBitmap (value.natAbs / 10 ^ position.val % 10)) lcd
  leading :
    if isWide value then
      row.Shows 3 (digitBitmap (value.natAbs / 1000)) lcd
    else
      row.Shows 3 blankBitmap lcd ∨ row.Shows 3 minusBitmap lcd
  negative :
    value < 0 →
      (row.SignOn lcd ∧ ¬ row.Shows 3 minusBitmap lcd) ∨
        (¬ row.SignOn lcd ∧ row.Shows 3 minusBitmap lcd)
  notNegative :
    0 ≤ value → ¬ row.SignOn lcd ∧ ¬ row.Shows 3 minusBitmap lcd

/-- What a call leaves behind. -/
structure Displayed
    (row : ScreenRow) (value : Int) (before after : Lcd) : Prop where
  lower :
    ∀ position : Fin 4, position < 3 →
      row.Shows position
        (digitBitmap (value.natAbs / 10 ^ position.val % 10)) after
  wide :
    isWide value = true →
      row.Shows 3 (digitBitmap (value.natAbs / 1000)) after ∧
        (row.SignOn after ↔ value < 0)
  short :
    isWide value = false →
      row.Shows 3 (if value < 0 then minusBitmap else blankBitmap) after ∧
        (row.SignOn after ↔ row.SignOn before)

section Call

variable (row : ScreenRow)

/-- The loop over the lower digits. -/
theorem displayLowerDigits_spec
    (absValue : Nat)
    (lcd : Lcd) :
    (displayLowerDigits row.symbols absValue lcd).1 =
        absValue / 10 / 10 / 10 ∧
      (∀ position : Fin 4, position < 3 →
        row.Shows position
          (digitBitmap (absValue / 10 ^ position.val % 10))
          (displayLowerDigits row.symbols absValue lcd).2) ∧
      (row.SignOn (displayLowerDigits row.symbols absValue lcd).2 ↔
        row.SignOn lcd) := by
  simp only [displayLowerDigits, List.foldl_cons, List.foldl_nil]
  refine ⟨trivial, ?_, ?_⟩
  · intro position lower
    match position, lower with
    | 0, _ =>
        rw [show absValue / 10 ^ (0 : Fin 4).val = absValue from
          Nat.div_one absValue]
        exact ((row.shows_symbols 0 _ lcd).symbols (by decide) _).symbols
          (by decide) _
    | 1, _ =>
        rw [show absValue / 10 ^ (1 : Fin 4).val = absValue / 10 from rfl]
        exact (row.shows_symbols 1 _ _).symbols (by decide) _
    | 2, _ =>
        rw [show absValue / 10 ^ (2 : Fin 4).val = absValue / 10 / 10 from
          (Nat.div_div_eq_div_mul absValue 10 10).symm]
        exact row.shows_symbols 2 _ _
  · rw [signOn_symbols, signOn_symbols, signOn_symbols]

/-- One call of `Screen_DisplayFourDigits`. -/
theorem displayFourDigits_displayed
    {value : Int}
    (fits : value.natAbs ≤ 9999)
    (lcd : Lcd) :
    Displayed row value lcd
      (displayFourDigits value row.symbols row.sign lcd) := by
  obtain ⟨rest, lower, sign⟩ :=
    row.displayLowerDigits_spec value.natAbs lcd
  have upper : ∀ position : Fin 4, position < 3 → position ≠ 3 :=
    fun position below same => by rw [same] at below; omega
  unfold displayFourDigits
  dsimp only
  rw [rest]
  by_cases short : value.natAbs / 10 / 10 / 10 % 10 = 0
  · have narrow : isWide value = false := by
      simp only [isWide, decide_eq_false_iff_not]
      omega
    rw [if_pos short]
    split
    · next negative =>
        refine ⟨?_, fun wide => absurd (narrow.symm.trans wide) nofun, ?_⟩
        · intro position below
          exact ((lower position below).symbols (upper position below)
            _).symbols (upper position below) _
        · intro _
          rw [if_pos negative]
          exact ⟨row.shows_symbols 3 _ _, by
            rw [signOn_symbols, signOn_symbols, sign]⟩
    · next notNegative =>
        refine ⟨?_, fun wide => absurd (narrow.symm.trans wide) nofun, ?_⟩
        · intro position below
          exact (lower position below).symbols (upper position below) _
        · intro _
          rw [if_neg notNegative]
          exact ⟨row.shows_symbols 3 _ _, by rw [signOn_symbols, sign]⟩
  · have wide : isWide value = true := by
      simp only [isWide, decide_eq_true_eq]
      omega
    have digit :
        value.natAbs / 10 / 10 / 10 % 10 = value.natAbs / 1000 := by
      omega
    rw [if_neg short, digit]
    refine ⟨?_, ?_, fun narrow => absurd (wide.symm.trans narrow) nofun⟩
    · intro position below
      exact ((lower position below).symbols (upper position below) _).sign _
    · intro _
      exact ⟨(row.shows_symbols 3 _ _).sign _, by
        rw [signOn_sign, decide_eq_true_eq]⟩

/-- A leading digit is not a minus symbol. -/
theorem not_shows_minus_of_digit
    {row : ScreenRow}
    {lcd : Lcd}
    {digit : Nat}
    (positive : 0 < digit)
    (decimal : digit < 10)
    (shows : row.Shows 3 (digitBitmap digit) lcd) :
    ¬ row.Shows 3 minusBitmap lcd := by
  intro minus
  have differ :
      ∀ digit : Fin 10, 0 < digit.val →
        ∃ bit : Fin 8, bit ≠ 0 ∧
          (digitBitmap digit).getLsbD bit ≠ minusBitmap.getLsbD bit := by
    decide
  obtain ⟨bit, notLowest, different⟩ := differ ⟨digit, decimal⟩ positive
  exact different (shows.unique minus notLowest)

/-- A blank is not a minus symbol. -/
theorem not_shows_minus_of_blank
    {row : ScreenRow}
    {lcd : Lcd}
    (shows : row.Shows 3 blankBitmap lcd) :
    ¬ row.Shows 3 minusBitmap lcd := by
  intro minus
  have same := @Shows.unique lcd row 3 _ _ shows minus 4 (by decide)
  revert same
  decide

/-- A call shows its value unless an old sign indicator stays. -/
theorem Displayed.displays_iff
    {row : ScreenRow}
    {value : Int}
    {before after : Lcd}
    (displayed : Displayed row value before after)
    (fits : value.natAbs ≤ 9999) :
    Displays row value after ↔
      isWide value = true ∨ ¬ row.SignOn before := by
  cases size : isWide value with
  | true =>
      refine ⟨fun _ => Or.inl rfl, fun _ => ?_⟩
      obtain ⟨digit, sign⟩ := displayed.wide size
      have noMinus : ¬ row.Shows 3 minusBitmap after := by
        simp only [isWide, decide_eq_true_eq] at size
        exact not_shows_minus_of_digit (by omega) (by omega) digit
      refine ⟨displayed.lower, ?_, ?_, ?_⟩
      · rw [if_pos size]
        exact digit
      · exact fun negative => Or.inl ⟨sign.mpr negative, noMinus⟩
      · exact fun notNegative =>
          ⟨fun on => absurd (sign.mp on) (by omega), noMinus⟩
  | false =>
      obtain ⟨leading, sign⟩ := displayed.short size
      have blankOrMinus :
          row.Shows 3 blankBitmap after ∨
            row.Shows 3 minusBitmap after := by
        split at leading
        · exact Or.inr leading
        · exact Or.inl leading
      rw [← sign]
      constructor
      · intro displays
        refine Or.inr fun on => ?_
        by_cases negative : value < 0
        · rw [if_pos negative] at leading
          rcases displays.negative negative with mark | mark
          · exact mark.2 leading
          · exact mark.1 on
        · exact (displays.notNegative (by omega)).1 on
      · rintro (wide | off)
        · cases wide
        · refine ⟨displayed.lower, ?_, ?_, ?_⟩
          · rw [if_neg (by rw [size]; nofun)]
            exact blankOrMinus
          · intro negative
            rw [if_pos negative] at leading
            exact Or.inr ⟨off, leading⟩
          · intro notNegative
            rw [if_neg (by omega)] at leading
            exact ⟨off, not_shows_minus_of_blank leading⟩

end Call

/--
The sign indicator is on after some values: the last one of them that had a
leading digit is negative, or there was none and it was on before.
-/
def MinusLeft (row : ScreenRow) (lcd : Lcd) (values : List Int) : Prop :=
  match values.reverse.find? isWide with
  | some value => value < 0
  | none => row.SignOn lcd

/-- The sign indicator after a run. -/
theorem signOn_displayAll
    (row : ScreenRow)
    {values : List Int}
    (fit : ∀ value ∈ values, value.natAbs ≤ 9999)
    (lcd : Lcd) :
    row.SignOn (row.displayAll values lcd) ↔
      row.MinusLeft lcd values := by
  induction values using List.reverseRecOn with
  | nil => exact Iff.rfl
  | append_singleton values value inductionHypothesis =>
      have before := inductionHypothesis fun other member =>
        fit other (List.mem_append_left _ member)
      have displayed :=
        row.displayFourDigits_displayed
          (fit value (List.mem_append_right _ (List.mem_singleton_self _)))
          (row.displayAll values lcd)
      rw [displayAll_append, MinusLeft, List.reverse_append,
        List.reverse_singleton, List.singleton_append, List.find?_cons]
      cases size : isWide value with
      | true => exact (displayed.wide size).2
      | false => exact (displayed.short size).2.trans before

/-- The last of some values is shown unless an old sign indicator stays. -/
theorem displayAll_displays
    (row : ScreenRow)
    (lcd : Lcd)
    {shown : List Int}
    {value : Int}
    (fit : ∀ other ∈ shown ++ [value], other.natAbs ≤ 9999) :
    Displays row value (row.displayAll (shown ++ [value]) lcd) ↔
      1000 ≤ value.natAbs ∨ ¬ row.MinusLeft lcd shown := by
  have fits :=
    fit value (List.mem_append_right _ (List.mem_singleton_self _))
  have before :=
    row.signOn_displayAll
      (fun other member => fit other (List.mem_append_left _ member)) lcd
  have displayed :=
    row.displayFourDigits_displayed fits (row.displayAll shown lcd)
  rw [← before, displayAll_append]
  have call := displayed.displays_iff fits
  simpa only [isWide, decide_eq_true_eq] using call

/-- 12.34 after -0.05 on a cleared screen. -/
theorem displayAll_displays_positive :
    Displays .top 1234 (displayAll .top [-5, 1234] fun _ => 0) :=
  (@displayAll_displays .top (fun _ => 0) [-5] 1234 (by decide)).mpr
    (Or.inl (by decide))

/-- 0.05 after -12.34 on a cleared screen keeps the minus sign. -/
theorem displayAll_staleMinus :
    SignOn .top (displayAll .top [-1234, 5] fun _ => 0) ∧
      ¬ Displays .top 5 (displayAll .top [-1234, 5] fun _ => 0) := by
  have on : minusTop.lit (displayAll .top [-1234, 5] fun _ => 0) = true := by
    decide +kernel
  exact ⟨on, fun displays => (displays.notNegative (by decide)).1 on⟩

end ScreenRow

end DemoBoard
