import Mathlib.Data.List.Basic

/-!
# The calendar

The proleptic Gregorian calendar from year 1 on, by the number of a day: the
first of January of year 1 has the ordinal 1.

`ofOrdinal` computes a date from its ordinal by cycles of 400, 100, 4 and 1
years.  `ofOrdinal_valid` says that it is a date of the calendar, and
`ordinal_ofOrdinal` that it has that ordinal.
-/

namespace Base

namespace Calendar

/-- A day. -/
structure Date where
  year : Nat
  month : Nat
  day : Nat
deriving DecidableEq

/-- Whether a year is a leap year. -/
def isLeap (year : Nat) : Bool := year % 4 = 0 && (year % 100 ≠ 0 || year % 400 = 0)

/-- The days before a year. -/
def daysBeforeYear (year : Nat) : Nat :=
  let z := year - 1
  z * 365 + z / 4 - z / 100 + z / 400

/-- The days before a month. -/
def daysBeforeMonth (leap : Bool) (month : Nat) : Nat :=
  [0, 0, 31, 59, 90, 120, 151, 181, 212, 243, 273, 304, 334].getD month 0 +
    if month > 2 ∧ leap = true then 1 else 0

/-- The days of a month. -/
def daysInMonth (leap : Bool) (month : Nat) : Nat :=
  if month = 2 ∧ leap = true then 29
  else [0, 31, 28, 31, 30, 31, 30, 31, 31, 30, 31, 30, 31].getD month 0

/-- The dates there are, of years with four digits. -/
structure Date.Valid (d : Date) : Prop where
  year_pos : 1 ≤ d.year
  year_le : d.year ≤ 9999
  month_pos : 1 ≤ d.month
  month_le : d.month ≤ 12
  day_pos : 1 ≤ d.day
  day_le : d.day ≤ daysInMonth (isLeap d.year) d.month

instance (d : Date) : Decidable d.Valid :=
  decidable_of_iff (1 ≤ d.year ∧ d.year ≤ 9999 ∧ 1 ≤ d.month ∧ d.month ≤ 12 ∧ 1 ≤ d.day ∧
      d.day ≤ daysInMonth (isLeap d.year) d.month)
    ⟨fun ⟨h₁, h₂, h₃, h₄, h₅, h₆⟩ => ⟨h₁, h₂, h₃, h₄, h₅, h₆⟩,
      fun ⟨h₁, h₂, h₃, h₄, h₅, h₆⟩ => ⟨h₁, h₂, h₃, h₄, h₅, h₆⟩⟩

/-- The number of a day. -/
def Date.ordinal (d : Date) : Nat :=
  daysBeforeYear d.year + daysBeforeMonth (isLeap d.year) d.month + d.day

/-! ## From a number to a day -/

/-- The month of a day of a year, counted from 0.  The estimate is right or one too high. -/
def monthOf (leap : Bool) (n : Nat) : Nat :=
  let month := (n + 50) / 32
  if n < daysBeforeMonth leap month then month - 1 else month

/-- The day with a number. -/
def ofOrdinal (ordinal : Nat) : Date :=
  let n := ordinal - 1
  let n400 := n / 146097
  let n := n % 146097
  let n100 := n / 36524
  let n := n % 36524
  let n4 := n / 1461
  let n := n % 1461
  let n1 := n / 365
  let n := n % 365
  let year := n400 * 400 + n100 * 100 + n4 * 4 + n1 + 1
  if n1 = 4 ∨ n100 = 4 then ⟨year - 1, 12, 31⟩
  else
    let leap : Bool := n1 = 3 && (n4 ≠ 24 || n100 = 3)
    ⟨year, monthOf leap n, n - daysBeforeMonth leap (monthOf leap n) + 1⟩

/-- The last ordinal of a year with four digits. -/
def maxOrdinal : Nat := 3652059

/-- A day of a year is in its month. -/
theorem monthOf_spec (leap : Bool) {n : Nat} (h : n < 365) :
    1 ≤ monthOf leap n ∧ monthOf leap n ≤ 12 ∧ daysBeforeMonth leap (monthOf leap n) ≤ n ∧
      n - daysBeforeMonth leap (monthOf leap n) < daysInMonth leap (monthOf leap n) := by
  have hall : ∀ leap : Bool, ∀ n : Fin 365, 1 ≤ monthOf leap n ∧ monthOf leap n ≤ 12 ∧
      daysBeforeMonth leap (monthOf leap n) ≤ n ∧
      n - daysBeforeMonth leap (monthOf leap n) < daysInMonth leap (monthOf leap n) := by
    decide +kernel
  exact hall leap ⟨n, h⟩

/-- The cycles of an ordinal: years since year 1, and days of the last. -/
structure Cycles (n : Nat) where
  n400 : Nat
  n100 : Nat
  n4 : Nat
  n1 : Nat
  rest : Nat
  sum : n = n400 * 146097 + n100 * 36524 + n4 * 1461 + n1 * 365 + rest
  n100_lt : n100 < 4
  n4_lt : n4 < 25
  n1_lt : n1 < 4
  rest_lt : rest < 365

variable {n : Nat} (c : Cycles n)

/-- The year of some cycles. -/
def Cycles.year : Nat := c.n400 * 400 + c.n100 * 100 + c.n4 * 4 + c.n1 + 1

theorem Cycles.daysBeforeYear_eq : daysBeforeYear c.year + c.rest = n := by
  obtain ⟨n400, n100, n4, n1, rest, hsum, h100, h4, h1, hrest⟩ := c
  show daysBeforeYear (n400 * 400 + n100 * 100 + n4 * 4 + n1 + 1) + rest = n
  unfold daysBeforeYear
  rw [Nat.add_sub_cancel]
  have hfour : (n400 * 400 + n100 * 100 + n4 * 4 + n1) / 4 = n400 * 100 + n100 * 25 + n4 := by
    omega
  have hhundred : (n400 * 400 + n100 * 100 + n4 * 4 + n1) / 100 = n400 * 4 + n100 := by omega
  have hcycle : (n400 * 400 + n100 * 100 + n4 * 4 + n1) / 400 = n400 := by omega
  dsimp only
  rw [hfour, hhundred, hcycle]
  omega

theorem Cycles.isLeap_year : isLeap c.year = (c.n1 = 3 && (c.n4 ≠ 24 || c.n100 = 3) : Bool) := by
  obtain ⟨n400, n100, n4, n1, rest, hsum, h100, h4, h1, hrest⟩ := c
  show isLeap (n400 * 400 + n100 * 100 + n4 * 4 + n1 + 1) = _
  unfold isLeap
  rw [Bool.eq_iff_iff]
  simp only [Bool.and_eq_true, Bool.or_eq_true, decide_eq_true_eq]
  omega

/-- The date of an ordinal in the middle of its cycles. -/
theorem Cycles.date_spec (hn : n < maxOrdinal) :
    let date : Date := ⟨c.year, monthOf (isLeap c.year) c.rest,
      c.rest - daysBeforeMonth (isLeap c.year) (monthOf (isLeap c.year) c.rest) + 1⟩
    date.Valid ∧ date.ordinal = n + 1 := by
  obtain ⟨hpos, hle, hbefore, hwithin⟩ := monthOf_spec (isLeap c.year) c.rest_lt
  have hdays := c.daysBeforeYear_eq
  have hyear : c.year ≤ 9999 := by
    have hsum := c.sum
    have h100 := c.n100_lt
    have h4 := c.n4_lt
    have h1 := c.n1_lt
    unfold maxOrdinal at hn
    unfold Cycles.year
    omega
  have hyear_pos : 1 ≤ c.year := Nat.le_add_left 1 _
  refine ⟨⟨hyear_pos, hyear, hpos, hle, Nat.le_add_left 1 _, hwithin⟩, ?_⟩
  show daysBeforeYear c.year + daysBeforeMonth (isLeap c.year) (monthOf (isLeap c.year) c.rest) +
    (c.rest - daysBeforeMonth (isLeap c.year) (monthOf (isLeap c.year) c.rest) + 1) = n + 1
  omega

/-- The days before a year whose predecessor ends a cycle of four years. -/
theorem daysBeforeYear_cycles (n400 n100 n4 : Nat) (h100 : n100 < 4) (h4 : n4 < 25) :
    daysBeforeYear (n400 * 400 + n100 * 100 + n4 * 4 + 4) + 365 =
      n400 * 146097 + n100 * 36524 + n4 * 1461 + 1460 := by
  have hpred : n400 * 400 + n100 * 100 + n4 * 4 + 4 - 1 =
      n400 * 400 + n100 * 100 + n4 * 4 + 3 := rfl
  have hfour : (n400 * 400 + n100 * 100 + n4 * 4 + 3) / 4 = n400 * 100 + n100 * 25 + n4 := by
    omega
  have hhundred : (n400 * 400 + n100 * 100 + n4 * 4 + 3) / 100 = n400 * 4 + n100 := by omega
  have hcycle : (n400 * 400 + n100 * 100 + n4 * 4 + 3) / 400 = n400 := by omega
  unfold daysBeforeYear
  dsimp only
  rw [hpred, hfour, hhundred, hcycle]
  omega

/-- The last day of a leap year. -/
theorem lastDay_spec {year : Nat} (hpos : 1 ≤ year) (hle : year ≤ 9999)
    (hleap : isLeap year = true) (hdays : daysBeforeYear year + 365 = n) :
    (Date.mk year 12 31).Valid ∧ (Date.mk year 12 31).ordinal = n + 1 := by
  refine ⟨⟨hpos, hle, Nat.le_add_left 1 11, Nat.le_refl 12, Nat.le_add_left 1 30, ?_⟩, ?_⟩
  · show 31 ≤ daysInMonth (isLeap year) 12
    rw [hleap]
    decide
  · show daysBeforeYear year + daysBeforeMonth (isLeap year) 12 + 31 = n + 1
    rw [hleap]
    have hmonth : daysBeforeMonth true 12 = 335 := by decide
    omega

/-- The day with a number is a day of the calendar and has that number. -/
theorem ofOrdinal_spec {ordinal : Nat} (hpos : 1 ≤ ordinal) (hle : ordinal ≤ maxOrdinal) :
    (ofOrdinal ordinal).Valid ∧ (ofOrdinal ordinal).ordinal = ordinal := by
  obtain ⟨n, rfl⟩ : ∃ n, ordinal = n + 1 := ⟨ordinal - 1, by omega⟩
  have hn : n < maxOrdinal := by omega
  unfold ofOrdinal
  rw [Nat.add_sub_cancel]
  dsimp only
  split
  case isTrue hlast =>
    refine lastDay_spec ?_ ?_ ?_ ?_
    · omega
    · unfold maxOrdinal at hn
      omega
    · unfold isLeap
      simp only [Bool.and_eq_true, Bool.or_eq_true, decide_eq_true_eq]
      omega
    · rcases hlast with hfourth | hcentury
      · have hdays := daysBeforeYear_cycles (n / 146097)
          (n % 146097 / 36524) (n % 146097 % 36524 / 1461) (by omega) (by omega)
        rw [hfourth, Nat.add_sub_cancel, hdays]
        omega
      · -- the last day of 400 years
        have hdays := daysBeforeYear_cycles (n / 146097) 3 24 (by omega) (by omega)
        have hyear : n / 146097 * 400 + n % 146097 / 36524 * 100 +
            n % 146097 % 36524 / 1461 * 4 + n % 146097 % 36524 % 1461 / 365 + 1 - 1 =
              n / 146097 * 400 + 3 * 100 + 24 * 4 + 4 := by
          omega
        rw [hyear, hdays]
        omega
  case isFalse hmiddle =>
    rw [not_or] at hmiddle
    let c : Cycles n := {
      n400 := n / 146097
      n100 := n % 146097 / 36524
      n4 := n % 146097 % 36524 / 1461
      n1 := n % 146097 % 36524 % 1461 / 365
      rest := n % 146097 % 36524 % 1461 % 365
      sum := by omega
      n100_lt := by omega
      n4_lt := by omega
      n1_lt := by omega
      rest_lt := by omega }
    have hspec := c.date_spec hn
    rw [c.isLeap_year] at hspec
    exact hspec

end Calendar

end Base
