import Mathlib.Data.List.TakeWhile
import Mathlib.Tactic.Ring
import AgentPact.Base.Calendar

/-!
# Dates and times as text

ISO 8601 as `datetime.isoformat` writes it and `datetime.fromisoformat` reads it.
A text is a list of code points, and an instant is its number of microseconds
since the beginning of year 1.

The reader takes all the formats: dates with and without dashes, by month and day
or by week, any character between date and time, times of any precision, and
offsets of any precision below a day.  `fromisoformat_isoformat` says that it
reads back what is written of an instant in UTC.
-/

namespace Base

namespace IsoFormat

open Calendar

/-! ## Digits -/

/-- The last digits of a number. -/
def digits : Nat → Nat → List Nat
  | 0, _ => []
  | k + 1, n => (48 + n / 10 ^ k % 10) :: digits k n

/-- Whether a character is a digit. -/
def isDigit (c : Nat) : Bool := 48 ≤ c && c ≤ 57

/-- Read so many digits, after a number read so far. -/
def parseDigits (acc : Nat) : Nat → List Nat → Option (Nat × List Nat)
  | 0, text => some (acc, text)
  | _ + 1, [] => none
  | k + 1, c :: text => if isDigit c then parseDigits (acc * 10 + (c - 48)) k text else none

@[simp] theorem length_digits (k n : Nat) : (digits k n).length = k := by
  induction k with
  | zero => rfl
  | succ k ih => rw [digits, List.length_cons, ih]

theorem isDigit_of_mem_digits {k n c : Nat} (h : c ∈ digits k n) : isDigit c = true := by
  induction k with
  | zero => cases h
  | succ k ih =>
      rcases List.mem_cons.mp h with rfl | hmem
      · simp only [isDigit, Bool.and_eq_true, decide_eq_true_eq]
        omega
      · exact ih hmem

theorem parseDigits_append (acc k n : Nat) (rest : List Nat) :
    parseDigits acc k (digits k n ++ rest) = some (acc * 10 ^ k + n % 10 ^ k, rest) := by
  induction k generalizing acc with
  | zero => simp [digits, parseDigits, Nat.mod_one]
  | succ k ih =>
      have hdigit : isDigit (48 + n / 10 ^ k % 10) = true :=
        isDigit_of_mem_digits (k := k + 1) (List.mem_cons_self ..)
      rw [digits, List.cons_append, parseDigits, if_pos hdigit, ih, Nat.add_sub_cancel_left,
        Nat.mod_pow_succ, pow_succ]
      refine congrArg some (congrArg (·, rest) ?_)
      ring

/-- Digits that are written are read back. -/
theorem parseDigits_digits {k n : Nat} (h : n < 10 ^ k) (rest : List Nat) :
    parseDigits 0 k (digits k n ++ rest) = some (n, rest) := by
  rw [parseDigits_append, Nat.mod_eq_of_lt h, Nat.zero_mul, Nat.zero_add]

/-! ## Times -/

/-- A time of the day, or an offset. -/
structure Clock where
  hour : Nat
  minute : Nat
  second : Nat
  microsecond : Nat
deriving DecidableEq

/-- The times of a day. -/
structure Clock.Valid (c : Clock) : Prop where
  hour : c.hour < 24
  minute : c.minute < 60
  second : c.second < 60
  microsecond : c.microsecond < 1000000

instance (c : Clock) : Decidable c.Valid :=
  decidable_of_iff (c.hour < 24 ∧ c.minute < 60 ∧ c.second < 60 ∧ c.microsecond < 1000000)
    ⟨fun ⟨h₁, h₂, h₃, h₄⟩ => ⟨h₁, h₂, h₃, h₄⟩, fun ⟨h₁, h₂, h₃, h₄⟩ => ⟨h₁, h₂, h₃, h₄⟩⟩

/-- The microseconds of a time. -/
def Clock.micros (c : Clock) : Nat :=
  ((c.hour * 60 + c.minute) * 60 + c.second) * 1000000 + c.microsecond

/-- The microseconds of a day. -/
def dayMicros : Nat := 86400000000

/-- The time of a day after some microseconds. -/
def clockOf (n : Nat) : Clock :=
  ⟨n / 3600000000, n / 60000000 % 60, n / 1000000 % 60, n % 1000000⟩

theorem clockOf_spec {n : Nat} (h : n < dayMicros) :
    (clockOf n).Valid ∧ (clockOf n).micros = n := by
  unfold dayMicros at h
  refine ⟨⟨?_, ?_, ?_, ?_⟩, ?_⟩
  · show n / 3600000000 < 24
    omega
  · show n / 60000000 % 60 < 60
    omega
  · show n / 1000000 % 60 < 60
    omega
  · show n % 1000000 < 1000000
    omega
  · show ((n / 3600000000 * 60 + n / 60000000 % 60) * 60 + n / 1000000 % 60) * 1000000 +
      n % 1000000 = n
    omega

/-- `:`. -/
def colon : Nat := 58

/-- `-`. -/
def dash : Nat := 45

/-- The fraction of a second, of which the first six digits count. -/
def parseFraction (text : List Nat) : Option Nat :=
  if text = [] ∨ text.all isDigit = false then none
  else (parseDigits 0 (min 6 text.length) text).map fun r => r.1 * 10 ^ (6 - min 6 text.length)

/-- `_parse_hh_mm_ss_ff`. -/
def parseClock (text : List Nat) : Option Clock := do
  let (hour, text) ← parseDigits 0 2 text
  match text with
  | [] => some ⟨hour, 0, 0, 0⟩
  | c :: rest =>
      let separated := c = colon
      let (minute, text) ← parseDigits 0 2 (if separated then rest else c :: rest)
      match text with
      | [] => some ⟨hour, minute, 0, 0⟩
      | c :: rest =>
          if separated ∧ c ≠ colon then none
          else
            let (second, text) ← parseDigits 0 2 (if separated then rest else c :: rest)
            match text with
            | [] => some ⟨hour, minute, second, 0⟩
            | point :: fraction =>
                if point = 46 ∨ point = 44 then
                  (parseFraction fraction).map (⟨hour, minute, second, ·⟩)
                else none

/-- Whether a character begins an offset: `+`, `-` or `Z`. -/
def isZone (c : Nat) : Bool := c = 43 || c = dash || c = 90

/-- An offset, which is below a day. -/
def parseZone : List Nat → Option Int
  | [] => none
  | sign :: text =>
      if sign = 90 then if text = [] then some 0 else none
      else if text.length ∈ [0, 1, 3] then none
      else do
        let offset ← parseClock text
        if offset.micros < dayMicros then
          some (if sign = dash then -(offset.micros : Int) else offset.micros)
        else none

/-- `_parse_isoformat_time`. -/
def parseTime (text : List Nat) : Option (Clock × Option Int) := do
  let clock ← parseClock (text.takeWhile fun c => !isZone c)
  match text.dropWhile fun c => !isZone c with
  | [] => some (clock, none)
  | zone => (parseZone zone).map fun offset => (clock, some offset)

/-! ## Dates -/

/-- The ordinal of the Monday of the first week of a year. -/
def firstMonday (year : Nat) : Nat :=
  let first := daysBeforeYear year + 1
  let weekday := (first + 6) % 7
  if weekday > 3 then first - weekday + 7 else first - weekday

/-- Whether a year has a week 53. -/
def hasLongYear (year : Nat) : Bool :=
  let weekday := (daysBeforeYear year + 1) % 7
  weekday = 4 || weekday = 3 && isLeap year

/-- `_isoweek_to_gregorian`. -/
def ofWeek (year week day : Nat) : Option Date :=
  if 1 ≤ year ∧ year ≤ 9999 ∧ 1 ≤ week ∧ (week ≤ 52 ∨ week = 53 ∧ hasLongYear year = true) ∧
      1 ≤ day ∧ day ≤ 7 then
    some (ofOrdinal (firstMonday year + (week - 1) * 7 + (day - 1)))
  else none

/-- Skip a dash where the date has dashes. -/
def skipDash (dashes : Bool) : List Nat → Option (List Nat)
  | [] => if dashes then none else some []
  | c :: text => if dashes then if c = dash then some text else none else some (c :: text)

/-- `_parse_isoformat_date`. -/
def parseDate (text : List Nat) : Option Date := do
  let (year, text) ← parseDigits 0 4 text
  let dashes : Bool := text.head? = some dash
  let text := if dashes then text.tail else text
  if text.head? = some 87 then
    let (week, text) ← parseDigits 0 2 text.tail
    if text = [] then ofWeek year week 1
    else
      let (day, text) ← parseDigits 0 1 (← skipDash dashes text)
      if text = [] then ofWeek year week day else none
  else
    let (month, text) ← parseDigits 0 2 text
    let (day, text) ← parseDigits 0 2 (← skipDash dashes text)
    if text = [] then some ⟨year, month, day⟩ else none

/-- `_find_isoformat_datetime_separator`: where the date ends. -/
def separatorAt (text : List Nat) : Option Nat :=
  if text.length = 7 then some 7
  else if text.getD 4 0 = dash then
    if text.getD 5 0 = 87 then
      if 8 < text.length ∧ text.getD 8 0 = dash then
        if text.length = 9 then none
        else if 10 < text.length ∧ isDigit (text.getD 10 0) = true then some 8
        else some 10
      else some 8
    else some 10
  else if text.getD 4 0 = 87 then
    let position := 7 + ((text.drop 7).takeWhile isDigit).length
    if position < 9 then some position
    else if position % 2 = 0 then some 7
    else some 8
  else some 8

/-! ## Instants -/

/-- The microseconds of a date and a time. -/
def micros (date : Date) (clock : Clock) : Nat := (date.ordinal - 1) * dayMicros + clock.micros

/-- What follows the date: nothing, or a time. -/
def parseRest (text : List Nat) : Option (Clock × Option Int) :=
  if text = [] then some (⟨0, 0, 0, 0⟩, none) else parseTime text

/-- `datetime.fromisoformat`: the microseconds of the local time, and the offset if there is one. -/
def fromisoformat (text : List Nat) : Option (Nat × Option Int) :=
  if text.length < 7 then none
  else do
    let position ← separatorAt text
    let date ← parseDate (text.take position)
    let (clock, offset) ← parseRest (text.drop (position + 1))
    if date.Valid ∧ clock.Valid then some (micros date clock, offset) else none

/-- The date of an instant. -/
def dateOf (t : Nat) : Date := ofOrdinal (t / dayMicros + 1)

/-- The text of a date. -/
def dateText (d : Date) : List Nat :=
  digits 4 d.year ++ (dash :: (digits 2 d.month ++ (dash :: digits 2 d.day)))

/-- The text of a time. -/
def clockText (c : Clock) : List Nat :=
  digits 2 c.hour ++ (colon :: (digits 2 c.minute ++ (colon :: (digits 2 c.second ++
    (46 :: digits 6 c.microsecond)))))

/-- `+00:00`. -/
def utcText : List Nat := [43, 48, 48, 58, 48, 48]

/-- `isoformat(timespec="microseconds")` of an instant in UTC. -/
def isoformat (t : Nat) : List Nat :=
  dateText (dateOf t) ++ (84 :: (clockText (clockOf (t % dayMicros)) ++ utcText))

/-- The last microsecond of year 9999. -/
def maxMicros : Nat := 315537897599999999

/-! ## What is written is read back -/

variable {date : Date} {clock : Clock} {t : Nat}

theorem length_dateText (d : Date) : (dateText d).length = 10 := by
  simp [dateText]

theorem length_clockText (c : Clock) : (clockText c).length = 15 := by
  simp [clockText]

/-- The last microsecond is on the last day. -/
theorem ordinal_le (h : t ≤ maxMicros) : t / dayMicros + 1 ≤ maxOrdinal := by
  unfold maxMicros at h
  unfold dayMicros maxOrdinal
  omega

theorem mod_dayMicros_lt (t : Nat) : t % dayMicros < dayMicros := Nat.mod_lt _ (by decide)

theorem dateOf_valid (h : t ≤ maxMicros) : (dateOf t).Valid :=
  (ofOrdinal_spec (Nat.le_add_left 1 _) (ordinal_le h)).1

/-- An instant is its date and its time. -/
theorem micros_dateOf_clockOf (h : t ≤ maxMicros) :
    micros (dateOf t) (clockOf (t % dayMicros)) = t := by
  have hordinal : (dateOf t).ordinal = t / dayMicros + 1 :=
    (ofOrdinal_spec (Nat.le_add_left 1 _) (ordinal_le h)).2
  have hclock := (clockOf_spec (mod_dayMicros_lt t)).2
  rw [micros, hordinal, hclock, Nat.add_sub_cancel, Nat.mul_comm, Nat.div_add_mod]

theorem daysInMonth_le (leap : Bool) {month : Nat} (h : month ≤ 12) :
    daysInMonth leap month ≤ 31 := by
  have hall : ∀ leap : Bool, ∀ month : Fin 13, daysInMonth leap month ≤ 31 := by decide
  exact hall leap ⟨month, Nat.lt_succ_of_le h⟩

theorem parseDate_dateText (h : date.Valid) : parseDate (dateText date) = some date := by
  have hyear : date.year < 10 ^ 4 := Nat.lt_succ_of_le h.year_le
  have hmonth : date.month < 10 ^ 2 := by
    have := h.month_le
    omega
  have hday : date.day < 10 ^ 2 := by
    have := h.day_le
    have := daysInMonth_le (isLeap date.year) h.month_le
    omega
  have hnotWeek : (digits 2 date.month ++ (dash :: digits 2 date.day)).head? ≠ some 87 := by
    simp only [digits, List.cons_append, List.head?_cons, ne_eq, Option.some.injEq]
    omega
  have hlast : parseDigits 0 2 (digits 2 date.day) = some (date.day, []) := by
    have := parseDigits_digits hday []
    rwa [List.append_nil] at this
  unfold parseDate dateText
  rw [parseDigits_digits hyear]
  simp only [Option.bind_eq_bind, Option.bind_some, List.head?_cons, decide_true, if_true,
    List.tail_cons]
  rw [if_neg hnotWeek, parseDigits_digits hmonth]
  simp only [Option.bind_some, skipDash, if_true, hlast]

theorem parseFraction_digits {n : Nat} (h : n < 10 ^ 6) :
    parseFraction (digits 6 n) = some n := by
  have hdigits : ¬ (digits 6 n = [] ∨ (digits 6 n).all isDigit = false) := by
    rw [not_or]
    constructor
    · simp [digits]
    · rw [Bool.not_eq_false, List.all_eq_true]
      intro c hc
      exact isDigit_of_mem_digits hc
  have hread : parseDigits 0 6 (digits 6 n) = some (n, []) := by
    have := parseDigits_digits h []
    rwa [List.append_nil] at this
  unfold parseFraction
  rw [if_neg hdigits, length_digits, Nat.min_self, hread]
  simp

theorem parseClock_clockText (h : clock.Valid) : parseClock (clockText clock) = some clock := by
  have hhour : clock.hour < 10 ^ 2 := by
    have := h.hour
    omega
  have hminute : clock.minute < 10 ^ 2 := by
    have := h.minute
    omega
  have hsecond : clock.second < 10 ^ 2 := by
    have := h.second
    omega
  unfold parseClock clockText
  rw [parseDigits_digits hhour]
  simp only [Option.bind_eq_bind, Option.bind_some, if_true]
  rw [parseDigits_digits hminute]
  simp only [Option.bind_some, ne_eq, not_true_eq_false, and_false, if_false]
  rw [parseDigits_digits hsecond]
  simp only [Option.bind_some, true_or, if_true, parseFraction_digits h.microsecond,
    Option.map_some]

/-- No character of a time begins an offset. -/
theorem isZone_of_mem_clockText {c : Nat} (hc : c ∈ clockText clock) : isZone c = false := by
  have hdigit : ∀ {k n}, c ∈ digits k n → isZone c = false := by
    intro k n hmem
    have := isDigit_of_mem_digits hmem
    simp only [isDigit, Bool.and_eq_true, decide_eq_true_eq] at this
    unfold isZone dash
    simp only [Bool.or_eq_false_iff, decide_eq_false_iff_not]
    omega
  simp only [clockText, List.mem_append, List.mem_cons] at hc
  rcases hc with h | rfl | h | rfl | h | rfl | h
  · exact hdigit h
  · rfl
  · exact hdigit h
  · rfl
  · exact hdigit h
  · rfl
  · exact hdigit h

theorem parseTime_clockText (h : clock.Valid) :
    parseTime (clockText clock ++ utcText) = some (clock, some 0) := by
  have hkeep : ∀ c ∈ clockText clock, (!isZone c) = true := by
    intro c hc
    rw [isZone_of_mem_clockText hc, Bool.not_false]
  have htake : (clockText clock ++ utcText).takeWhile (fun c => !isZone c) = clockText clock := by
    rw [List.takeWhile_append_of_pos hkeep]
    simp [utcText, isZone]
  have hdrop : (clockText clock ++ utcText).dropWhile (fun c => !isZone c) = utcText := by
    rw [List.dropWhile_append_of_pos hkeep]
    rfl
  unfold parseTime
  rw [htake, hdrop, parseClock_clockText h]
  rfl

/-- The date ends before the character in between. -/
theorem separatorAt_isoformat (t : Nat) : separatorAt (isoformat t) = some 10 := by
  have hlength : (isoformat t).length = 32 := by
    simp [isoformat, length_dateText, length_clockText, utcText]
  have hdash : (isoformat t).getD 4 0 = dash := by
    simp [isoformat, dateText, digits]
  have hnotWeek : (isoformat t).getD 5 0 ≠ 87 := by
    simp only [isoformat, dateText, digits, List.cons_append, List.getD_cons_succ,
      List.getD_cons_zero, List.nil_append]
    omega
  unfold separatorAt
  rw [if_neg (by omega), if_pos hdash, if_neg hnotWeek]

/-- What is written of an instant is read back. -/
theorem fromisoformat_isoformat (h : t ≤ maxMicros) :
    fromisoformat (isoformat t) = some (t, some 0) := by
  have hlength : ¬ (isoformat t).length < 7 := by
    simp [isoformat, length_dateText, length_clockText, utcText]
  have hdate : (isoformat t).take 10 = dateText (dateOf t) := by
    rw [isoformat, ← length_dateText (dateOf t), List.take_left]
  have hrest : (isoformat t).drop (10 + 1) = clockText (clockOf (t % dayMicros)) ++ utcText := by
    rw [isoformat, ← length_dateText (dateOf t), List.drop_append]
    simp
  have hnonempty : clockText (clockOf (t % dayMicros)) ++ utcText ≠ [] := by
    simp [clockText]
  have hclock := (clockOf_spec (mod_dayMicros_lt t)).1
  unfold fromisoformat
  rw [if_neg hlength, separatorAt_isoformat]
  simp only [Option.bind_eq_bind, Option.bind_some]
  rw [hdate, hrest, parseDate_dateText (dateOf_valid h)]
  simp only [Option.bind_some]
  rw [parseRest, if_neg hnonempty, parseTime_clockText hclock]
  simp only [Option.bind_some]
  rw [if_pos ⟨dateOf_valid h, hclock⟩, micros_dateOf_clockOf h]

/-- What is written is ASCII. -/
theorem isoformat_lt (t : Nat) : ∀ c ∈ isoformat t, c < 128 := by
  have hdigits : ∀ {k n c}, c ∈ digits k n → c < 128 := by
    intro k n c hc
    have := isDigit_of_mem_digits hc
    simp only [isDigit, Bool.and_eq_true, decide_eq_true_eq] at this
    omega
  intro c hc
  simp only [isoformat, dateText, clockText, List.mem_append, List.mem_cons] at hc
  rcases hc with (h | rfl | h | rfl | h) | rfl | (h | rfl | h | rfl | h | rfl | h) | h
  · exact hdigits h
  · decide
  · exact hdigits h
  · decide
  · exact hdigits h
  · decide
  · exact hdigits h
  · decide
  · exact hdigits h
  · decide
  · exact hdigits h
  · decide
  · exact hdigits h
  · have hall : ∀ c ∈ utcText, c < 128 := by decide
    exact hall c h

end IsoFormat

end Base
