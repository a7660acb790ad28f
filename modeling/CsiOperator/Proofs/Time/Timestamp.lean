import CsiOperator.Proofs.Text.Numeral
import CsiOperator.Proofs.Time.Calendar
import CsiOperator.Time.Timestamp
import Mathlib.Data.Option.Basic

/-! An instant is read again from the text that is written for it. -/

namespace CsiOperator.Time.Timestamp

open Text (decimal digitChar isDigit ofDigits padded)

/-- An instant that can be told. -/
structure Valid (t : Timestamp) : Prop where
  /-- It lies in a year that can be represented. -/
  seconds : minSeconds ≤ t.seconds ∧ t.seconds ≤ maxSeconds
  /-- A leap second is the last one of its minute. -/
  nanos : t.nanos < 1000000000 ∨ t.nanos < 2000000000 ∧ t.seconds % 60 = 59

/-- No blanks stand before a digit. -/
theorem dropBlanks_digit {d : Nat} (small : d < 10) (rest : List Char) :
    dropBlanks (digitChar d :: rest) = digitChar d :: rest := by
  -- There are ten digits, none of which is a blank.
  have each : ∀ d < 10, Text.isBlank (digitChar d) = false := by decide
  rw [dropBlanks, List.dropWhile_cons, each d small, if_neg (by simp)]

/-- Written digits have the value that they denote. -/
theorem valueOf_map {ds : List Nat} (small : ∀ d ∈ ds, d < 10) :
    valueOf (ds.map digitChar) = ofDigits 10 ds :=
  Text.foldl_map_digitChar small 0

/-- As many digits as are asked for are read, whatever follows them. -/
theorem number_map {ds : List Nat} (small : ∀ d ∈ ds, d < 10) (nonempty : ds ≠ [])
    (rest : List Char) :
    number ds.length (ds.map digitChar ++ rest) = some (ofDigits 10 ds, rest) := by
  -- A number has a first digit, which keeps the reader from failing at once.
  obtain ⟨d, more, rfl⟩ := List.exists_cons_of_ne_nil nonempty
  -- The digits that are asked for are all there, so none of those that follow are counted.
  have all : ((d :: more).map digitChar).takeWhile isDigit = (d :: more).map digitChar := by
    simpa using Text.takeWhile_digits (Text.all_isDigit_map small)
      (by simp : ∀ c ∈ ([] : List Char).head?, isDigit c = false)
  have taken : (((d :: more).map digitChar) ++ rest).take (d :: more).length =
      (d :: more).map digitChar := List.take_left' (by simp)
  have dropped : (((d :: more).map digitChar) ++ rest).drop ((d :: more).map digitChar).length =
      rest := List.drop_left
  rw [number, List.map_cons, List.cons_append, dropBlanks_digit (small d List.mem_cons_self),
    ← List.cons_append, ← List.map_cons, taken, all, valueOf_map small, dropped]
  rfl

/-- A number below a hundred is read from its two digits. -/
theorem number_two {n : Nat} (bounded : n < 100) (rest : List Char) :
    number 2 ((padded 2 (decimal n)).toList ++ rest) = some (n, rest) := by
  -- The written digits are those of the padded text, whatever the number is.
  obtain ⟨ds, nonempty, small, denotes, length, chars⟩ :=
    Text.padded_digits (by decide : 2 ≤ 10) 2 n
  -- Padding makes a number below a hundred two digits long.
  have two : ds.length = 2 := length (by omega) (by omega)
  have read := number_map small nonempty rest
  rwa [two, denotes, ← chars] at read

/-- A mark is read when it comes next. -/
theorem mark_self {c : Char} (visible : Text.isBlank c = false) (rest : List Char) :
    mark c (c :: rest) = some rest := by
  simp [mark, dropBlanks, visible]

/-- A year is read up to the mark after it. -/
theorem readYear_yearText (year : Int) (rest : List Char) :
    readYear ((yearText year).toList ++ '-' :: rest) = some (year, '-' :: rest) := by
  -- The written digits are those of the padded text, whatever the year is.
  obtain ⟨ds, nonempty, small, denotes, length, chars⟩ :=
    Text.padded_digits (by decide : 2 ≤ 10) 4 year.natAbs
  -- The mark behind the year is no digit, so that the digits of the year end before it.
  have stops : ∀ c ∈ ('-' :: rest).head?, isDigit c = false := by
    rintro c ⟨⟩
    decide
  have signed (sign : Int) : readYear.signedYear sign (ds.map digitChar ++ '-' :: rest) =
      some (sign * year.natAbs, '-' :: rest) := by
    rw [readYear.signedYear, Text.takeWhile_digits (Text.all_isDigit_map small) stops,
      valueOf_map small, denotes]
    simp [nonempty]
  have digits : (padded 4 (decimal year.natAbs)).toList = ds.map digitChar := chars
  by_cases inside : 0 ≤ year ∧ year ≤ 9999
  · -- Four digits need no sign.
    have four : ds.length = 4 := length (by omega) (by omega)
    have isYear : (year.natAbs : Int) = year := by omega
    have text : (yearText year).toList = ds.map digitChar := by simp [yearText, inside, digits]
    have read := number_map small nonempty ('-' :: rest)
    obtain ⟨d, more, rfl⟩ := List.exists_cons_of_ne_nil nonempty
    have first := small d List.mem_cons_self
    have unsigned : ∀ d < 10, digitChar d ≠ '-' ∧ digitChar d ≠ '+' := by decide
    rw [four, denotes] at read
    rw [text, readYear, List.map_cons, List.cons_append, dropBlanks_digit first]
    rw [List.map_cons, List.cons_append] at read
    simp [unsigned d first, read, isYear]
  -- Any other year is written with its sign, and read with as many digits as there are.
  by_cases before : year < 0
  · have text : (yearText year).toList = '-' :: ds.map digitChar := by
      simp [yearText, inside, before, digits]
    have isYear : -1 * (year.natAbs : Int) = year := by omega
    rw [text, ← isYear]
    exact signed (-1)
  · have text : (yearText year).toList = '+' :: ds.map digitChar := by
      simp [yearText, inside, before, digits]
    have isYear : 1 * (year.natAbs : Int) = year := by omega
    rw [text]
    conv => rhs; rw [← isYear]
    exact signed 1

/-- As many digits of a fraction as are written are read. -/
theorem readFraction_point {nanos width n : Nat} (positive : 0 < width) (short : width ≤ 9)
    (bounded : n < 10 ^ width) (same : n * 10 ^ (9 - width) = nanos) (rest : List Char) :
    readFraction (("." ++ padded width (decimal n)).toList ++ 'Z' :: rest) =
      some (nanos, 'Z' :: rest) := by
  -- The written digits are those of the padded text, and the missing ones are made up for by the
  -- power.
  obtain ⟨ds, nonempty, small, denotes, length, chars⟩ :=
    Text.padded_digits (by decide : 2 ≤ 10) width n
  have stops : ∀ c ∈ ('Z' :: rest).head?, isDigit c = false := by
    rintro c ⟨⟩
    decide
  have length := length positive bounded
  -- No more than nine digits are written, so none of them is cut off.
  have all : (ds.map digitChar).take 9 = ds.map digitChar :=
    List.take_of_length_le (by simp; omega)
  have text : ("." ++ padded width (decimal n)).toList = '.' :: ds.map digitChar := by
    rw [String.toList_append, show (padded width (decimal n)).toList = ds.map digitChar from chars]
    rfl
  rw [text, List.cons_append, readFraction,
    Text.takeWhile_digits (Text.all_isDigit_map small) stops, all, valueOf_map small, denotes]
  simp [nonempty, length, same]

/-- A fraction is read up to the end. -/
theorem readFraction_fractionText {nanos : Nat} (bounded : nanos < 1000000000) (rest : List Char) :
    readFraction ((fractionText nanos).toList ++ 'Z' :: rest) = some (nanos, 'Z' :: rest) := by
  -- The text has none, three, six or nine digits, whichever is the least that tells the fraction.
  unfold fractionText
  split
  · rename_i zero
    obtain rfl : nanos = 0 := by simpa using zero
    rfl
  · -- The digits that are left out are zeros.
    split
    · rename_i _ thousands
      simp only [beq_iff_eq] at thousands
      exact readFraction_point (by omega) (by omega) (by omega) (by omega) rest
    · split
      · rename_i _ _ thousands
        simp only [beq_iff_eq] at thousands
        exact readFraction_point (by omega) (by omega) (by omega) (by omega) rest
      · exact readFraction_point (by omega) (by omega) (by omega) (by omega) rest

/-- The instant of a date and a clock is read from their text. -/
theorem ofText?_clock {date : Date} (isDate : date.exists = true)
    (years : -262143 ≤ date.year ∧ date.year ≤ 262142) (hour minute second nanos : Nat)
    (hours : hour ≤ 23) (minutes : minute ≤ 59) (seconds : second ≤ 60)
    (bounded : nanos < 1000000000) (clock : Nat)
    (counted : clock = hour * 3600 + minute * 60 + (if second == 60 then 59 else second))
    (told : minSeconds ≤ date.toDays * 86400 + clock ∧ date.toDays * 86400 + clock ≤ maxSeconds) :
    let two (n : Nat) : String := padded 2 (decimal n)
    ofText? (yearText date.year ++ "-" ++ two date.month ++ "-" ++ two date.day ++ "T" ++
        two hour ++ ":" ++ two minute ++ ":" ++ two second ++ fractionText nanos ++ "Z") =
      some ⟨date.toDays * 86400 + clock,
        if second == 60 then nanos + 1000000000 else nanos⟩ := by
  -- The text is parted where its marks stand, and each part is read by its own lemma.
  intro two
  have text : (yearText date.year ++ "-" ++ two date.month ++ "-" ++ two date.day ++ "T" ++
      two hour ++ ":" ++ two minute ++ ":" ++ two second ++ fractionText nanos ++ "Z").toList =
    (yearText date.year).toList ++ '-' :: ((two date.month).toList ++ '-' ::
      ((two date.day).toList ++ 'T' :: ((two hour).toList ++ ':' :: ((two minute).toList ++ ':' ::
        ((two second).toList ++ ((fractionText nanos).toList ++ ['Z'])))))) := by
    simp
  -- Months and days have two digits, since no month is longer than 31 days.
  have months : date.month < 100 ∧ date.day < 100 := by
    have long := monthLength_le date.year date.month
    simp only [Date.exists, Bool.and_eq_true, decide_eq_true_eq] at isDate
    omega
  have zone : readOffset (dropBlanks ['Z']) = some (0, []) := rfl
  have clocked : (date.exists && hour ≤ 23 && minute ≤ 59 && second ≤ 60) = true := by
    simp [isDate, hours, minutes, seconds]
  -- The parts are read one after another, each of them up to the mark that follows it.
  rw [ofText?, text]
  refine Option.bind_eq_some_iff.mpr ⟨_, readYear_yearText .., ?_⟩
  refine Option.bind_eq_some_iff.mpr ⟨_, mark_self (by decide) _, ?_⟩
  refine Option.bind_eq_some_iff.mpr ⟨_, number_two months.1 _, ?_⟩
  refine Option.bind_eq_some_iff.mpr ⟨_, mark_self (by decide) _, ?_⟩
  refine Option.bind_eq_some_iff.mpr ⟨_, number_two months.2 _, ?_⟩
  refine Option.bind_eq_some_iff.mpr ⟨_, rfl, ?_⟩
  refine Option.bind_eq_some_iff.mpr ⟨_, number_two (by omega) _, ?_⟩
  refine Option.bind_eq_some_iff.mpr ⟨_, mark_self (by decide) _, ?_⟩
  refine Option.bind_eq_some_iff.mpr ⟨_, number_two (by omega) _, ?_⟩
  refine Option.bind_eq_some_iff.mpr ⟨_, mark_self (by decide) _, ?_⟩
  refine Option.bind_eq_some_iff.mpr ⟨_, number_two (by omega) _, ?_⟩
  refine Option.bind_eq_some_iff.mpr ⟨_, readFraction_fractionText bounded _, ?_⟩
  refine Option.bind_eq_some_iff.mpr ⟨_, zone, ?_⟩
  refine Option.bind_eq_some_iff.mpr ⟨(), rfl, ?_⟩
  refine Option.bind_eq_some_iff.mpr ⟨(), if_pos clocked, ?_⟩
  refine Option.bind_eq_some_iff.mpr ⟨(), if_pos (by simpa using years), ?_⟩
  simp only [← counted, Int.sub_zero]
  refine Option.bind_eq_some_iff.mpr ⟨(), if_pos (by simpa using told), rfl⟩

/-- An instant is read again from its text. -/
theorem ofText?_text {t : Timestamp} (valid : t.Valid) : ofText? t.text = some t := by
  -- The seconds are parted into a day and a clock, and the calendar gives the day back.
  obtain ⟨seconds, nanos⟩ := t
  obtain ⟨range, fraction⟩ := valid
  dsimp only at range fraction
  have isDay := toDays_ofDays (seconds / 86400)
  have isDate := exists_ofDays (seconds / 86400)
  have inRange := year_ofDays (n := seconds / 86400)
    (by unfold minSeconds at range; omega) (by unfold maxSeconds at range; omega)
  obtain ⟨clock, isClock⟩ := Int.eq_ofNat_of_zero_le (a := seconds % 86400) (by omega)
  have total : Date.toDays (Date.ofDays (seconds / 86400)) * 86400 + clock = seconds := by omega
  have natural : (seconds % 86400).toNat = clock := by omega
  by_cases leap : 1000000000 ≤ nanos
  · -- The leap second is told as the sixtieth one of its minute.
    have last : clock % 60 = 59 := by omega
    have whole : nanos - 1000000000 + 1000000000 = nanos := by omega
    have read := ofText?_clock isDate inRange (clock / 3600) (clock / 60 % 60) 60
      (nanos - 1000000000) (by omega) (by omega) (by omega) (by omega) clock (by simp; omega)
      (by omega)
    simp only [BEq.rfl, if_true, total, whole] at read
    simp only [text, natural, leap, last, if_true]
    exact read
  -- Any other second is told as it is.
  · have common : (clock % 60 == 60) = false := beq_eq_false_iff_ne.mpr (by omega)
    have read := ofText?_clock isDate inRange (clock / 3600) (clock / 60 % 60) (clock % 60) nanos
      (by omega) (by omega) (by omega) (by omega) clock
      (by rw [common, if_neg (by simp)]; omega) (by omega)
    simp only [common, Bool.false_eq_true, if_false, total] at read
    simp only [text, natural, leap, if_false, Nat.add_zero]
    exact read

/-- Digits have a value below the power of ten that they have no place for. -/
theorem valueOf_lt {ds : List Char} (digits : ∀ c ∈ ds, isDigit c = true) :
    valueOf ds < 10 ^ ds.length := by
  -- General over what has been read before: each digit multiplies it by ten and adds less than ten.
  have general : ∀ start : Nat, ds.foldl (fun n c => n * 10 + (c.toNat - 48)) start <
      (start + 1) * 10 ^ ds.length := by
    induction ds with
    | nil => simp
    | cons c rest ih =>
      obtain ⟨first, others⟩ := List.forall_mem_cons.mp digits
      intro start
      have small : c.toNat - 48 ≤ 9 := by
        simp only [isDigit, Bool.and_eq_true, decide_eq_true_eq] at first
        omega
      calc _ < (start * 10 + (c.toNat - 48) + 1) * 10 ^ rest.length := ih others _
        _ ≤ ((start + 1) * 10) * 10 ^ rest.length := Nat.mul_le_mul_right _ (by omega)
        _ = _ := by rw [List.length_cons, Nat.pow_succ', Nat.mul_assoc]
  simpa [valueOf] using general 0

/-- A fraction is less than a second. -/
theorem readFraction_lt {cs rest : List Char} {n : Nat} (reads : readFraction cs = some (n, rest)) :
    n < 1000000000 := by
  -- A fraction is absent, or it is made of nine digits at most.
  unfold readFraction at reads
  split at reads
  · rename_i later
    dsimp only at reads
    split at reads
    · cases reads
    · obtain ⟨rfl, -⟩ := Prod.mk.inj (Option.some.inj reads)
      generalize taken : later.takeWhile isDigit = ds
      have digits : ∀ c ∈ ds.take 9, isDigit c = true := by
        intro c member
        have member := List.mem_of_mem_take member
        rw [← taken] at member
        exact List.all_eq_true.mp List.all_takeWhile c member
      -- The digits that count and the zeros after them are nine together.
      have places : (ds.take 9).length + (9 - ds.length) = 9 := by
        rw [List.length_take]
        omega
      calc _ < 10 ^ (ds.take 9).length * 10 ^ (9 - ds.length) :=
            Nat.mul_lt_mul_of_pos_right (valueOf_lt digits) (Nat.pow_pos (by omega))
        _ = 10 ^ 9 := by rw [← Nat.pow_add, places]
  · obtain ⟨rfl, -⟩ := Prod.mk.inj (Option.some.inj reads)
    omega

/-- An offset is a number of whole minutes. -/
theorem readOffset_minutes {cs rest : List Char} {offset : Int}
    (reads : readOffset cs = some (offset, rest)) : offset % 60 = 0 := by
  -- Hours and minutes are both whole minutes, whatever the sign.
  have whole {sign : Int} {cs : List Char}
      (reads : readOffset.hoursMinutes sign cs = some (offset, rest)) : offset % 60 = 0 := by
    unfold readOffset.hoursMinutes at reads
    split at reads
    · split at reads
      · split at reads
        · dsimp only at reads
          split at reads
          · obtain ⟨rfl, -⟩ := Prod.mk.inj (Option.some.inj reads)
            rw [show ∀ h m : Nat, ((h * 3600 + m * 60 : Nat) : Int) = 60 * (h * 60 + m) by omega,
              Int.mul_left_comm]
            exact Int.mul_emod_right 60 _
          · cases reads
        · cases reads
      · cases reads
    · cases reads
  -- No offset at all is zero.
  have none {later : List Char} (reads : some ((0 : Int), later) = some (offset, rest)) :
      offset % 60 = 0 := by
    obtain ⟨rfl, -⟩ := Prod.mk.inj (Option.some.inj reads)
    rfl
  unfold readOffset at reads
  split at reads
  · exact none reads
  · exact none reads
  · exact whole reads
  · exact whole reads
  · exact whole reads
  · split at reads
    · exact none reads
    · cases reads
  · cases reads

/-- Only instants that can be told are read. -/
theorem valid_of_ofText? {s : String} {t : Timestamp} (reads : ofText? s = some t) : t.Valid := by
  -- Every part is guarded, so the guards of a reading that succeeds are at hand.
  have guarded {p : Prop} [Decidable p] {u : Unit} (passes : (guard p : Option Unit) = some u) :
      p := by
    by_cases holds : p
    · exact holds
    · have failed : (guard p : Option Unit) = none := if_neg holds
      rw [failed] at passes
      cases passes
  unfold ofText? at reads
  obtain ⟨⟨year, _⟩, -, reads⟩ := Option.bind_eq_some_iff.mp reads
  obtain ⟨_, -, reads⟩ := Option.bind_eq_some_iff.mp reads
  obtain ⟨⟨month, _⟩, -, reads⟩ := Option.bind_eq_some_iff.mp reads
  obtain ⟨_, -, reads⟩ := Option.bind_eq_some_iff.mp reads
  obtain ⟨⟨day, _⟩, -, reads⟩ := Option.bind_eq_some_iff.mp reads
  dsimp only at reads
  -- Any of three characters may stand between the date and the clock.
  split at reads
  case h_4 => cases reads
  all_goals
    obtain ⟨_, -, reads⟩ := Option.bind_eq_some_iff.mp reads
    obtain ⟨⟨hour, _⟩, -, reads⟩ := Option.bind_eq_some_iff.mp reads
    obtain ⟨_, -, reads⟩ := Option.bind_eq_some_iff.mp reads
    obtain ⟨⟨minute, _⟩, -, reads⟩ := Option.bind_eq_some_iff.mp reads
    obtain ⟨_, -, reads⟩ := Option.bind_eq_some_iff.mp reads
    obtain ⟨⟨second, _⟩, -, reads⟩ := Option.bind_eq_some_iff.mp reads
    obtain ⟨⟨fraction, _⟩, readsFraction, reads⟩ := Option.bind_eq_some_iff.mp reads
    obtain ⟨⟨offset, _⟩, readsOffset, reads⟩ := Option.bind_eq_some_iff.mp reads
    obtain ⟨_, -, reads⟩ := Option.bind_eq_some_iff.mp reads
    obtain ⟨_, clock, reads⟩ := Option.bind_eq_some_iff.mp reads
    obtain ⟨_, -, reads⟩ := Option.bind_eq_some_iff.mp reads
    obtain ⟨_, told, reads⟩ := Option.bind_eq_some_iff.mp reads
    obtain rfl := Option.some.inj reads
    have told := guarded told
    have clock := guarded clock
    simp only [Bool.and_eq_true, decide_eq_true_eq] at told clock
    refine ⟨told, ?_⟩
    have short := readFraction_lt readsFraction
    have minutes := readOffset_minutes readsOffset
    by_cases leap : second = 60
    · simp only [leap, BEq.rfl, if_true]
      omega
    · simp only [beq_eq_false_iff_ne.mpr leap, Bool.false_eq_true, if_false]
      exact .inl short

end CsiOperator.Time.Timestamp
