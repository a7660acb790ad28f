import CsiOperator.Time.Calendar

/-! The date of a day is one that the calendar has, and it is that day. -/

namespace CsiOperator.Time

/-- The days of four centuries without the leap days, as nearly as their number tells. -/
def smoothed (day : Int) : Int :=
  day - day / 1460 + day / 36524 - day / 146096

/-- The first day of a year of four centuries; a year begins in March. -/
def firstDay (year : Int) : Int :=
  365 * year + year / 4 - year / 100 + year / 400

/-- A year has 365 days, and one more when it ends in a leap year. -/
theorem firstDay_succ (year : Int) :
    firstDay (year + 1) = firstDay year + if isLeapYear (year + 1) then 366 else 365 := by
  -- Only whole divisions by 4, 100 and 400 occur, which linear arithmetic knows.
  simp only [firstDay, isLeapYear, Bool.and_eq_true, beq_iff_eq, Bool.or_eq_true, bne_iff_ne]
  omega

/-- Years follow one another. -/
theorem firstDay_mono {a b : Int} (le : a ≤ b) : firstDay a ≤ firstDay b := by
  -- Only whole divisions occur, which linear arithmetic knows.
  unfold firstDay
  omega

/-- Leap years come again after four centuries. -/
theorem isLeapYear_era (year era : Int) : isLeapYear (year + era * 400) = isLeapYear year := by
  -- Each of the three cycles divides four centuries.
  have four : (year + era * 400) % 4 = year % 4 := by omega
  have hundred : (year + era * 400) % 100 = year % 100 := by omega
  have fourHundred : (year + era * 400) % 400 = year % 400 := by omega
  rw [isLeapYear, isLeapYear, four, hundred, fourHundred]

/-- Later days are not counted for less. -/
theorem smoothed_mono {a b : Int} (low : 0 ≤ a) (le : a ≤ b) (high : b ≤ 146096) :
    smoothed a ≤ smoothed b := by
  -- Each day adds one, and the corrections take off one at most, so the count never falls.
  unfold smoothed
  -- On the last day of all, two of the corrections take effect at once.
  rcases Int.lt_or_eq_of_le high with before | rfl
  · omega
  · omega

/-- A year begins when as many times 365 days are counted, and not before. -/
theorem smoothed_firstDay : ∀ year : Nat, year < 400 →
    365 * (year : Int) ≤ smoothed (firstDay year) ∧
      (0 < year → smoothed (firstDay year - 1) < 365 * (year : Int)) := by
  decide +kernel

/-- A day lies in the year that is found for it. -/
theorem year_of_day {day : Int} (low : 0 ≤ day) (high : day ≤ 146096) :
    let year := smoothed day / 365
    0 ≤ year ∧ year < 400 ∧ firstDay year ≤ day ∧ day < firstDay (year + 1) := by
  -- The year is a quotient, so its product with 365 is close to the smoothed day.
  intro year
  have found : 365 * year ≤ smoothed day ∧ smoothed day < 365 * (year + 1) := by omega
  have bounds : 0 ≤ year ∧ year < 400 := by
    simp only [year, smoothed]
    omega
  generalize year = year at *
  obtain ⟨k, rfl⟩ := Int.eq_ofNat_of_zero_le bounds.1
  refine ⟨bounds.1, bounds.2, ?_, ?_⟩
  -- If the year began after the day, the day would have been counted for less than the year has.
  · apply Int.not_lt.mp
    intro before
    have positive : 0 < k := by
      rcases Nat.eq_zero_or_pos k with rfl | positive
      · exact absurd (Int.lt_of_le_of_lt low before) (by decide)
      · exact positive
    have counted := (smoothed_firstDay k (by omega)).2 positive
    have later := smoothed_mono low (b := firstDay k - 1) (by omega) (by unfold firstDay; omega)
    omega
  -- If the next year began by the day, the day would have been counted for as much as that year.
  · apply Int.not_le.mp
    intro after
    have next : k + 1 < 400 := by
      have : firstDay ((k : Int) + 1) ≤ 146096 := by omega
      unfold firstDay at this
      omega
    have counted := (smoothed_firstDay (k + 1) next).1
    have later := smoothed_mono (a := firstDay ((k : Int) + 1)) (by unfold firstDay; omega) after high
    push_cast at counted
    omega

/-- The month of a day of a year that begins in March, and the day of the month. -/
theorem month_of_day : ∀ day : Nat, day < 366 →
    let month : Int := (5 * (day : Int) + 2) / 153
    let dayOfMonth : Int := (day : Int) - (153 * month + 2) / 5 + 1
    0 ≤ month ∧ month < 12 ∧ 1 ≤ dayOfMonth ∧
      (month = 11 → dayOfMonth ≤ 29 ∧ (dayOfMonth = 29 → day = 365)) ∧
      (month = 1 ∨ month = 3 ∨ month = 6 ∨ month = 8 → dayOfMonth ≤ 30) ∧ dayOfMonth ≤ 31 := by
  decide +kernel

/-- A day of the calendar, counted in years that begin in March. -/
structure Reckoned (n : Int) where
  /-- Which four centuries it is in. -/
  era : Int
  /-- The year of them. -/
  year : Int
  /-- The month of the year. -/
  month : Int
  /-- The day of the month. -/
  day : Int
  /-- There are four hundred years. -/
  years : 0 ≤ year ∧ year < 400
  /-- There are twelve months. -/
  months : 0 ≤ month ∧ month < 12
  /-- The first day of a month is 1. -/
  first : 1 ≤ day
  /-- Months end after 31 days. -/
  long : day ≤ 31
  /-- Four of them end after 30 days. -/
  short : month = 1 ∨ month = 3 ∨ month = 6 ∨ month = 8 → day ≤ 30
  /-- The last one ends after 29 days, or earlier unless it is followed by a leap year's March. -/
  shortest : month = 11 → day ≤ 29 ∧ (day = 29 → isLeapYear (year + 1) = true)
  /-- The days up to it. -/
  days : n + 719468 = era * 146097 + firstDay year + (153 * month + 2) / 5 + day - 1
  /-- The date. -/
  date : Date.ofDays n =
    ⟨if month < 10 then year + era * 400 else year + era * 400 + 1,
      (if month < 10 then month + 3 else month - 9).toNat, day.toNat⟩

/-- Every day can be counted so. -/
theorem reckoned (n : Int) : Nonempty (Reckoned n) := by
  -- The numbers on the way are named, so that arithmetic does not meet divisions in divisions.
  obtain ⟨era, isEra⟩ : ∃ era, (n + 719468) / 146097 = era := ⟨_, rfl⟩
  obtain ⟨dayOfEra, isDayOfEra⟩ : ∃ day, (n + 719468) % 146097 = day := ⟨_, rfl⟩
  obtain ⟨year, isYear⟩ : ∃ year, smoothed dayOfEra / 365 = year := ⟨_, rfl⟩
  obtain ⟨years, years', began, ends⟩ := year_of_day (by omega : 0 ≤ dayOfEra) (by omega)
  rw [isYear] at years years' began ends
  -- A year has the days that there are from its first day to that of the next one.
  have length := firstDay_succ year
  -- The days of the year are counted from its own first day.
  obtain ⟨k, isDay⟩ := Int.eq_ofNat_of_zero_le (a := dayOfEra - firstDay year) (by omega)
  have dayOfYear : dayOfEra - (365 * year + year / 4 - year / 100) = k := by
    unfold firstDay at isDay
    omega
  have inYear : k < 366 := by
    split at length <;> omega
  -- Only a leap year has a last day that is the 366th.
  have leap : k = 365 → isLeapYear (year + 1) = true := by
    intro last
    cases isLeap : isLeapYear (year + 1) with
    | true => rfl
    | false =>
      rw [isLeap, if_neg (by simp)] at length
      omega
  obtain ⟨months, months', first, shortest, short, long⟩ := month_of_day k inYear
  -- Now the arithmetic of the calendar is the one that has been taken apart above.
  unfold smoothed at isYear
  have date := Date.ofDays.eq_1 n
  simp only [isEra, isDayOfEra, isYear, dayOfYear] at date
  generalize (5 * (k : Int) + 2) / 153 = month at *
  refine ⟨{
    era, year, month, day := (k : Int) - (153 * month + 2) / 5 + 1
    years := ⟨years, years'⟩, months := ⟨months, months'⟩, first, long, short
    shortest last := ⟨(shortest last).1, fun final => leap ((shortest last).2 final)⟩
    days := by omega, date := ?_ }⟩
  rw [date]
  by_cases early : month < 10
  · have late : ¬ month + 3 ≤ 2 := by omega
    simp only [early, late, if_true, if_false]
  · have late : month - 9 ≤ 2 := by omega
    simp only [early, late, if_true, if_false]

namespace Reckoned

variable {n : Int} (r : Reckoned n)

/-- The year of the date. -/
theorem dateYear : (Date.ofDays n).year =
    if r.month < 10 then r.year + r.era * 400 else r.year + r.era * 400 + 1 := by
  rw [r.date]

/-- The month of the date. -/
theorem dateMonth : ((Date.ofDays n).month : Int) =
    if r.month < 10 then r.month + 3 else r.month - 9 := by
  -- The number of months decides which of the two ways the month is found.
  have months := r.months
  rw [r.date]
  split <;> dsimp only <;> omega

/-- The day of the date. -/
theorem dateDay : ((Date.ofDays n).day : Int) = r.day := by
  -- The day is what is left of the year behind its first month.
  have first := r.first
  rw [r.date]
  dsimp only
  omega

end Reckoned

/-- The date of a day is that day. -/
theorem toDays_ofDays (n : Int) : (Date.ofDays n).toDays = n := by
  -- What is found on the way satisfies linear equations, from which the day follows.
  obtain ⟨r⟩ := reckoned n
  have years := r.years
  have months := r.months
  have days := r.days
  have dateYear := r.dateYear
  have dateMonth := r.dateMonth
  -- January and February are the months at the end of a year that begins in March.
  have early : (Date.ofDays n).month ≤ 2 ↔ ¬ r.month < 10 := by
    split at dateMonth <;> omega
  have year : (if (Date.ofDays n).month ≤ 2 then (Date.ofDays n).year - 1
      else (Date.ofDays n).year) = r.year + r.era * 400 := by
    rw [dateYear]
    split <;> split <;> omega
  have month : (if (Date.ofDays n).month ≤ 2 then ((Date.ofDays n).month : Int) + 9
      else ((Date.ofDays n).month : Int) - 3) = r.month := by
    rw [dateMonth]
    split <;> split <;> omega
  simp only [Date.toDays, year, month, r.dateDay]
  unfold firstDay at days
  omega

/-- No month has more than 31 days. -/
theorem monthLength_le (year : Int) (month : Nat) : monthLength year month ≤ 31 := by
  -- Only February has to ask for the year.
  unfold monthLength
  split
  · split <;> decide
  all_goals decide

/-- The date of a day is one that the calendar has. -/
theorem exists_ofDays (n : Int) : (Date.ofDays n).exists = true := by
  -- The month and its length are bounded by what has been found on the way.
  obtain ⟨r⟩ := reckoned n
  have years := r.years
  have months := r.months
  have first := r.first
  have long := r.long
  have short := r.short
  have shortest := r.shortest
  have dateYear := r.dateYear
  have dateMonth := r.dateMonth
  have dateDay := r.dateDay
  have length : (Date.ofDays n).day ≤ monthLength (Date.ofDays n).year (Date.ofDays n).month := by
    unfold monthLength
    -- February is the month that ends the year of March, and its length depends on the year after.
    split
    · have last : r.month = 11 := by split at dateMonth <;> omega
      have year : (Date.ofDays n).year = r.year + 1 + r.era * 400 := by
        rw [dateYear, last]
        omega
      rw [year, isLeapYear_era]
      have := shortest last
      -- In a leap year the bound is the one for the last month; in a common year its 29th is
      -- excluded.
      split
      · omega
      · rename_i common
        have : r.day ≠ 29 := fun final => common ((shortest last).2 final)
        omega
    all_goals split at dateMonth <;> omega
  simp only [Date.exists, Bool.and_eq_true, decide_eq_true_eq]
  split at dateMonth <;> omega

/-- The dates of days in a range of years have years in that range. -/
theorem year_ofDays {n : Int} (after : Date.toDays ⟨-262143, 1, 1⟩ ≤ n)
    (before : n < Date.toDays ⟨262143, 1, 1⟩) :
    -262143 ≤ (Date.ofDays n).year ∧ (Date.ofDays n).year ≤ 262142 := by
  -- The numbers on the way are linear in the day, so the bounds carry over to the year.
  obtain ⟨r⟩ := reckoned n
  have years := r.years
  have months := r.months
  have first := r.first
  have long := r.long
  have days := r.days
  have dateYear := r.dateYear
  have low : Date.toDays ⟨-262143, 1, 1⟩ = -96465292 := by decide
  have high : Date.toDays ⟨262143, 1, 1⟩ = 95026237 := by decide
  -- Only in the first and the last four centuries does it depend on the year.
  have bounds : 0 ≤ firstDay r.year ∧ firstDay r.year ≤ 146096 := by
    unfold firstDay
    omega
  have earliest : r.year ≤ 256 → firstDay r.year ≤ 93502 := firstDay_mono
  have earlier : r.year ≤ 255 → firstDay r.year ≤ 93136 := firstDay_mono
  have latest : 142 ≤ r.year → 51864 ≤ firstDay r.year := firstDay_mono
  have later : 143 ≤ r.year → 52229 ≤ firstDay r.year := firstDay_mono
  have first' : r.era ≤ -657 ∨ r.era = -656 ∨ -655 ≤ r.era := by omega
  have last : r.era ≤ 654 ∨ r.era = 655 ∨ 656 ≤ r.era := by omega
  constructor
  · rcases first' with era | era | era <;> split at dateYear <;> omega
  · rcases last with era | era | era <;> split at dateYear <;> omega

end CsiOperator.Time
