import CsiOperator.Json.Printer
import CsiOperator.Json.Tree
import CsiOperator.Proofs.Decimal.Shortest
import CsiOperator.Proofs.Text.Numeral

/-! Numbers are read up to their ends from the text that is written for them. -/

namespace CsiOperator.Json

open Decimal (Binary64)
open Text (digitChar isDigit)

/-- Digits, and at least one of them. -/
structure Digits (cs : List Char) : Prop where
  /-- There is a digit. -/
  nonempty : cs ≠ []
  /-- There is nothing else. -/
  digits : ∀ c ∈ cs, isDigit c = true

/-- The natural numbers are written in digits. -/
theorem Digits.decimal (n : Nat) : Digits (Text.decimal n).toList := by
  -- The first digit is at hand from the numeral, so there is one.
  obtain ⟨c, cs, front, -⟩ := Text.decimal_head n
  exact ⟨by simp [front], Text.isDigit_of_mem_decimal⟩

/-- Zero is a digit. -/
theorem Digits.zero : Digits ['0'] :=
  ⟨List.cons_ne_nil _ _, List.all_eq_true.mp rfl⟩

/-- Digits begin with a digit. -/
theorem Digits.cons {cs : List Char} (digits : Digits cs) :
    ∃ c more, cs = c :: more ∧ isDigit c = true := by
  -- A text that is not empty has a first character, which is a digit like all others.
  obtain ⟨c, more, rfl⟩ := List.exists_cons_of_ne_nil digits.nonempty
  exact ⟨c, more, rfl, digits.digits c List.mem_cons_self⟩

/-- A number without its sign, as it is written. -/
structure Numeral where
  /-- The digits before the point. -/
  whole : List Char
  /-- The digits after the point, if there is one. -/
  fraction : Option (List Char)
  /-- The digits of the exponent, if there is one, and whether it is negative. -/
  exponent : Option (Bool × List Char)
  /-- There are digits before the point. -/
  wholeDigits : Digits whole
  /-- They do not begin with a zero, unless that is all. -/
  noLeadingZero : whole.head? = some '0' → whole.length = 1
  /-- There are digits after the point. -/
  fractionDigits : ∀ ds ∈ fraction, Digits ds
  /-- There are digits in the exponent. -/
  exponentDigits : ∀ power ∈ exponent, Digits power.2

namespace Numeral

/-- The fraction as it is written. -/
def fractionChars (n : Numeral) : List Char :=
  match n.fraction with
  | none => []
  | some ds => '.' :: ds

/-- The exponent as it is written. -/
def exponentChars (n : Numeral) : List Char :=
  match n.exponent with
  | none => []
  | some (down, ds) => 'e' :: (if down then '-' :: ds else ds)

/-- The characters of the number. -/
def chars (n : Numeral) : List Char :=
  n.whole ++ (n.fractionChars ++ n.exponentChars)

/-- What may follow a number in a list or an object, or at the end. -/
def Closes (rest : List Char) : Prop :=
  ∀ c ∈ rest.head?, c = ',' ∨ c = ']' ∨ c = '\x7d'

/-- Nothing need follow a number. -/
theorem Closes.nil : Closes [] := by
  simp [Closes]

/-- Nothing that may follow a number is a digit or belongs to the number otherwise. -/
theorem Closes.foreign {rest : List Char} (closes : Closes rest) :
    ∀ c ∈ rest.head?, isDigit c = false ∧ c ≠ '.' ∧ c ≠ 'e' ∧ c ≠ 'E' := by
  -- Only a comma or a closing bracket may follow, and none of them goes on with a number.
  intro c first
  rcases closes c first with rfl | rfl | rfl <;> decide

/-- An exponent is read up to its end. -/
theorem exponentPart_chars (n : Numeral) {rest : List Char} (closes : Closes rest) :
    exponentPart (n.exponentChars ++ rest) = some (n.exponent, rest) := by
  -- Whatever follows the number is no digit, so that its digits end with it.
  have stops : ∀ c ∈ rest.head?, isDigit c = false := fun c first => (closes.foreign c first).1
  cases shape : n.exponent with
  | none =>
    rw [exponentChars, shape, List.nil_append]
    cases rest with
    | nil => rfl
    | cons c rest =>
      obtain ⟨-, -, lower, upper⟩ := closes.foreign c rfl
      simp [exponentPart, lower, upper]
  | some power =>
    obtain ⟨down, ds⟩ := power
    have digits : Digits ds := n.exponentDigits (down, ds) shape
    have taken := Text.takeWhile_digits digits.digits stops
    have dropped := Text.dropWhile_digits digits.digits stops
    rw [exponentChars, shape]
    cases down with
    | true =>
      simp [exponentPart, taken, dropped, digits.nonempty]
    | false =>
      -- The first digit is no sign.
      obtain ⟨c, more, rfl, isDigit⟩ := digits.cons
      have noMinus : c ≠ '-' := by rintro rfl; simp [Text.isDigit] at isDigit
      have noPlus : c ≠ '+' := by rintro rfl; simp [Text.isDigit] at isDigit
      rw [List.cons_append] at taken dropped
      simp [exponentPart, noMinus, noPlus, taken, dropped]

/-- A fraction is read up to its end. -/
theorem fractionPart_chars (n : Numeral) {rest : List Char} (closes : Closes rest) :
    fractionPart (n.fractionChars ++ (n.exponentChars ++ rest)) =
      some (n.fraction, n.exponentChars ++ rest) := by
  -- An exponent begins with its letter, and what closes a number begins with its own mark.
  have next : ∀ c ∈ (n.exponentChars ++ rest).head?, isDigit c = false ∧ c ≠ '.' := by
    unfold exponentChars
    split
    · exact fun c first => ⟨(closes.foreign c first).1, (closes.foreign c first).2.1⟩
    · rintro c ⟨⟩
      decide
  generalize n.exponentChars ++ rest = later at next
  cases shape : n.fraction with
  | none =>
    rw [fractionChars, shape, List.nil_append]
    cases later with
    | nil => rfl
    | cons c later => simp [fractionPart, (next c rfl).2]
  | some ds =>
    have digits : Digits ds := n.fractionDigits ds shape
    have stops : ∀ c ∈ later.head?, isDigit c = false := fun c first => (next c first).1
    rw [fractionChars, shape]
    simp [fractionPart, Text.takeWhile_digits digits.digits stops,
      Text.dropWhile_digits digits.digits stops, digits.nonempty]

/-- A number without its sign is read up to its end. -/
theorem unsigned_chars (n : Numeral) (negative : Bool) {rest : List Char} (closes : Closes rest) :
    unsigned negative (n.chars ++ rest) =
      some (numberOf negative n.whole n.fraction n.exponent, rest) := by
  -- Behind the whole digits stands a point, an exponent or what closes the number.
  have stops : ∀ c ∈ (n.fractionChars ++ (n.exponentChars ++ rest)).head?, isDigit c = false := by
    unfold fractionChars exponentChars
    split
    · split
      · exact fun c first => (closes.foreign c first).1
      · rintro c ⟨⟩
        decide
    · rintro c ⟨⟩
      decide
  -- There is a digit, and no zero stands in front of others.
  have grammatical : (n.whole.isEmpty || (n.whole.head? == some '0' && n.whole.length > 1)) =
      false := by
    have nonempty := n.wholeDigits.nonempty
    have alone := n.noLeadingZero
    by_cases zero : n.whole.head? = some '0'
    · simp [nonempty, alone zero]
    · simp [nonempty, beq_eq_false_iff_ne.mpr zero]
  simp only [unsigned, chars, List.append_assoc, Text.takeWhile_digits n.wholeDigits.digits stops,
    Text.dropWhile_digits n.wholeDigits.digits stops, grammatical, n.fractionPart_chars closes]
  simp [n.exponentPart_chars closes]

/-- Only zero itself is written with a zero in front. -/
theorem decimal_noLeadingZero (n : Nat) (zero : (Text.decimal n).toList.head? = some '0') :
    (Text.decimal n).toList.length = 1 := by
  -- Zero is written as one digit, and any other number begins with a digit that is not zero.
  rcases Nat.eq_zero_or_pos n with rfl | positive
  · simp [Text.decimal, Text.digits_of_lt (by decide : 0 < 10)]
  · obtain ⟨c, cs, front, nonzero⟩ := Text.decimal_head n
    rw [front] at zero
    exact absurd (Option.some.inj zero) (nonzero (by omega))

/-- A natural number in digits. -/
def natural (n : Nat) : Numeral where
  -- There is neither a point nor an exponent, so nothing is to be shown of them.
  whole := (Text.decimal n).toList
  fraction := none
  exponent := none
  wholeDigits := .decimal n
  noLeadingZero := decimal_noLeadingZero n
  fractionDigits := by simp
  exponentDigits := by simp

/-- Zero with a fraction. -/
def belowOne (ds : List Char) (digits : Digits ds) : Numeral where
  -- The zero in front of the point is the only one that may lead.
  whole := ['0']
  fraction := some ds
  exponent := none
  wholeDigits := .zero
  noLeadingZero := by simp
  fractionDigits := by simpa using digits
  exponentDigits := by simp

/-- A number that begins with another digit than zero. -/
def leading (c : Char) (cs : List Char) (digits : Digits (c :: cs)) (nonzero : c ≠ '0')
    (fraction : Option (List Char)) (fractionDigits : ∀ ds ∈ fraction, Digits ds)
    (exponent : Option Int) : Numeral where
  -- The first digit is not zero, so no zero leads.
  whole := c :: cs
  fraction := fraction
  exponent := exponent.map fun power => (power < 0, (Text.decimal power.natAbs).toList)
  wholeDigits := digits
  noLeadingZero zero := absurd (Option.some.inj zero) nonzero
  fractionDigits := fractionDigits
  exponentDigits := by
    intro power member
    obtain ⟨n, -, rfl⟩ := Option.map_eq_some_iff.mp member
    exact .decimal _

/-- An exponent is written as an integer. -/
theorem exponentChars_leading {c : Char} {cs : List Char} {digits : Digits (c :: cs)}
    {nonzero : c ≠ '0'} {fraction : Option (List Char)}
    {fractionDigits : ∀ ds ∈ fraction, Digits ds} (power : Int) :
    (leading c cs digits nonzero fraction fractionDigits (some power)).exponentChars =
      'e' :: (Text.signed power).toList := by
  -- Both readings of the sign are evaluated: the exponent's own and that of an integer.
  by_cases down : power < 0
  · simp [exponentChars, leading, Text.signed, down]
  · simp [exponentChars, leading, Text.signed, down]

/-- A number is read from its sign and its parts. -/
theorem scalar_chars (n : Numeral) (negative : Bool) {rest : List Char} (closes : Closes rest) :
    scalar ((if negative then ['-'] else []) ++ n.chars ++ rest) =
      some (.number (numberOf negative n.whole n.fraction n.exponent), rest) := by
  -- Behind its sign a number is read by its parts, and without a sign its first digit shows that it
  -- is one.
  have read := n.unsigned_chars negative closes
  cases negative with
  | true => simp [scalar, read]
  | false =>
    obtain ⟨c, more, front, digit⟩ := n.wholeDigits.cons
    obtain ⟨later, chars⟩ : ∃ later, n.chars ++ rest = c :: later := by simp [chars, front]
    rw [chars] at read
    rw [if_neg (by simp), List.nil_append, chars, scalar]
    · rw [if_pos digit, read]
      rfl
    -- A digit is neither a sign nor the beginning of a word or a string.
    all_goals
      rintro rfl
      simp [isDigit] at digit

end Numeral

/-- Digits with a power of ten have parts, wherever the point is put. -/
theorem placed_numeral {c : Char} {cs : List Char} (digits : Digits (c :: cs)) (nonzero : c ≠ '0')
    (exponent : Int) :
    let ds := c :: cs
    let point : Int := ds.length + exponent
    ∃ n : Numeral, n.chars =
      if 0 ≤ exponent && point ≤ 16 then ds ++ List.replicate exponent.natAbs '0' ++ ['.', '0']
      else if 0 < point && point ≤ 16 then ds.take point.natAbs ++ '.' :: ds.drop point.natAbs
      else if -5 < point && point ≤ 0 then '0' :: '.' :: List.replicate point.natAbs '0' ++ ds
      else
        let tail := if ds.length == 1 then [] else '.' :: ds.drop 1
        ds.take 1 ++ tail ++ 'e' :: (Text.signed (point - 1)).toList := by
  -- The point falls behind the digits, among them, before them or far away.
  intro ds point
  -- Whatever is put together from these digits and zeros consists of digits.
  have some {part : List Char} (listed : ∀ d ∈ part, d = '0' ∨ d ∈ ds) (nonempty : part ≠ []) :
      Digits part := by
    refine ⟨nonempty, fun d member => ?_⟩
    rcases listed d member with rfl | listed
    · decide
    · exact digits.digits d listed
  -- The point stands behind all digits, among them, before them, or is told by an exponent.
  split
  · refine ⟨.leading c (cs ++ List.replicate exponent.natAbs '0') (some ?_ (by simp)) nonzero
      (.some ['0']) (by simpa using Digits.zero) none, ?_⟩
    · intro d member
      simp only [List.mem_cons, List.mem_append, List.mem_replicate] at member
      grind
    · simp [Numeral.chars, Numeral.leading, Numeral.fractionChars, Numeral.exponentChars, ds]
  split
  · rename_i large inside
    simp only [Bool.and_eq_true, decide_eq_true_eq, not_and] at large inside
    have short : point.natAbs < ds.length := by omega
    obtain ⟨k, isSucc⟩ : ∃ k, point.natAbs = k + 1 := ⟨point.natAbs - 1, by omega⟩
    refine ⟨.leading c (cs.take k) (some ?_ (by simp)) nonzero (.some (ds.drop point.natAbs)) ?_ none, ?_⟩
    · exact fun d member => .inr (List.mem_of_mem_take (i := k + 1) member)
    · rintro _ ⟨⟩
      exact some (fun d member => .inr (List.mem_of_mem_drop member)) (by simpa using short)
    · simp [Numeral.chars, Numeral.leading, Numeral.fractionChars, Numeral.exponentChars, ds, isSucc]
  split
  · refine ⟨.belowOne (List.replicate point.natAbs '0' ++ ds) (some ?_ (by simp [ds])), ?_⟩
    · intro d member
      simp only [List.mem_append, List.mem_replicate] at member
      grind
    · simp [Numeral.chars, Numeral.belowOne, Numeral.fractionChars, Numeral.exponentChars]
  · refine ⟨.leading c [] (some (by simp [ds]) (by simp)) nonzero (if cs = [] then none else Option.some cs) ?_ (.some (point - 1)), ?_⟩
    · intro part member
      split at member
      · cases member
      · obtain rfl : cs = part := by simpa using member
        exact some (fun d listed => .inr (by simp [ds, listed])) ‹_›
    · rw [Numeral.chars, Numeral.exponentChars_leading]
      simp only [Numeral.leading, Numeral.fractionChars, ds]
      by_cases single : cs = []
      · simp [single]
      · simp [single]

/-- A double has a sign and parts. -/
theorem real_numeral (x : Binary64) :
    ∃ n : Numeral, x.text.toList = (if x.negative then ['-'] else []) ++ n.chars := by
  -- The sign is written in front of either form, so only the text behind it is to be parted.
  have signed (n : Numeral) (text : String) (same : n.chars = text.toList) :
      ((if x.negative then "-" else "") ++ text).toList =
        (if x.negative then ['-'] else []) ++ n.chars := by
    rw [String.toList_append, same]
    split <;> rfl
  by_cases zero : x.significand = 0
  · refine ⟨.belowOne ['0'] .zero, ?_⟩
    simp only [Binary64.text, zero, BEq.rfl, if_true]
    exact signed _ "0.0" rfl
  -- Any other double begins with a digit that is not zero, wherever its point is put.
  obtain ⟨c, cs, front, nonzero⟩ := Text.decimal_head (Decimal.shortest x).digits
  have nonzero : c ≠ '0' := nonzero (Decimal.shortest_digits zero)
  have digits : Digits (c :: cs) := front ▸ Digits.decimal _
  obtain ⟨n, chars⟩ := placed_numeral digits nonzero (Decimal.shortest x).exponent
  refine ⟨n, ?_⟩
  simp only [Binary64.text, beq_eq_false_iff_ne.mpr zero, Bool.false_eq_true, if_false, front]
  refine signed n _ ?_
  rw [chars, String.toList_ofList]

/-- An integer has a sign and parts. -/
theorem signed_chars (n : Int) : (Text.signed n).toList =
    (if (decide (n < 0)) then ['-'] else []) ++ (Numeral.natural n.natAbs).chars := by
  -- The numeral is that of the absolute value; the sign is settled by the two cases.
  by_cases negative : n < 0
  · simp [Text.signed, negative, Numeral.chars, Numeral.natural, Numeral.fractionChars,
      Numeral.exponentChars]
  · simp [Text.signed, negative, Numeral.chars, Numeral.natural, Numeral.fractionChars,
      Numeral.exponentChars]

/-- Every number is written as a sign, if any, and parts. -/
theorem text_numeral (n : Number) : ∃ (negative : Bool) (m : Numeral),
    n.text.toList = (if negative then ['-'] else []) ++ m.chars := by
  -- An integer and a double bring their own parts.
  cases n with
  | integer n => exact ⟨n < 0, .natural n.natAbs, signed_chars n⟩
  | real x => exact ⟨x.negative, real_numeral x⟩

/-- What the text of a number is read as; nothing if that is out of range. -/
def reread (n : Number) : Option Number :=
  -- What follows the number is not looked at, since nothing does.
  match scalar n.text.toList with
  | some (.number m, _) => m
  | _ => none

/-- A number is read up to its end, whatever it is read as. -/
theorem scalar_text (n : Number) {rest : List Char} (closes : Numeral.Closes rest) :
    scalar (n.text.toList ++ rest) = some (.number (reread n), rest) := by
  -- The number closes at the end of its own text as it does in front of anything else.
  obtain ⟨negative, m, chars⟩ := text_numeral n
  have alone := m.scalar_chars negative .nil
  rw [List.append_nil] at alone
  rw [reread, chars, m.scalar_chars negative closes, alone]

/-- Digits never make less of what has been read before them. -/
theorem le_foldl_digits (ds : List Nat) (start : Nat) :
    start ≤ ds.foldl (fun n d => 10 * n + d) start := by
  -- By induction on the digits, each of which multiplies by ten and adds.
  induction ds generalizing start with
  | nil => exact Nat.le_refl _
  | cons d rest ih => exact Nat.le_trans (by omega) (ih (10 * start + d))

/-- Digits that fit are all read. -/
theorem significand_digits {ds : List Nat} (small : ∀ d ∈ ds, d < 10) {start : Nat}
    (fits : ds.foldl (fun n d => 10 * n + d) start < Decimal.wordBound 64) :
    significand start (ds.map digitChar) = (ds.foldl (fun n d => 10 * n + d) start, 0) := by
  -- By induction on the digits, with what has been read so far left open.
  induction ds generalizing start with
  | nil => rfl
  -- The rest only grows, so each digit leaves a number that still fits.
  | cons d rest ih =>
    obtain ⟨first, others⟩ := List.forall_mem_cons.mp small
    rw [List.foldl_cons] at fits ⊢
    have next : Decimal.fitsUnsigned 64 (10 * start + d) = true :=
      decide_eq_true (Nat.lt_of_le_of_lt (le_foldl_digits rest _) fits)
    rw [List.map_cons, significand]
    simp only [Text.digitChar_sub first, Nat.mul_comm start 10, next, if_true]
    exact ih others fits

/-- The integers that a number of JSON may be. -/
def Held (n : Int) : Prop :=
  -(Decimal.wordBound 63 : Int) ≤ n ∧ n < Decimal.wordBound 64

/-- An integer is read as itself. -/
theorem reread_integer {n : Int} (held : Held n) : reread (.integer n) = some (.integer n) := by
  -- The text is scanned as one numeral without a fraction or an exponent, which then has to fit.
  have alone := (Numeral.natural n.natAbs).scalar_chars (n < 0) .nil
  rw [List.append_nil] at alone
  obtain ⟨low, high⟩ := held
  have bound : Decimal.wordBound 63 < Decimal.wordBound 64 := by decide
  have fits : n.natAbs < Decimal.wordBound 64 := by omega
  -- All digits are read, and they denote the number without its sign.
  have read : significand 0 (Text.decimal n.natAbs).toList = (n.natAbs, 0) := by
    have denotes := Text.ofDigits_digits (by decide : 2 ≤ 10) n.natAbs
    rw [Text.ofDigits] at denotes
    rw [Text.decimal, String.toList_ofList, significand_digits, denotes]
    · exact fun d member => Text.lt_of_mem_digits (by omega) member
    · rwa [denotes]
  rw [reread, Number.text, signed_chars, alone]
  simp only [Numeral.natural, numberOf, read]
  by_cases negative : n < 0
  · have same : -(n.natAbs : Int) = n := by omega
    have fitsSigned : Decimal.fitsSigned 64 n = true := by
      simp only [Decimal.fitsSigned, Nat.reduceSub, Bool.and_eq_true, decide_eq_true_eq]
      omega
    have nonzero : n.natAbs ≠ 0 := by omega
    simp only [negative, decide_true, same, fitsSigned, beq_iff_eq, nonzero, BEq.rfl, Bool.not_true,
      Bool.or_false, Bool.false_eq_true, if_true, if_false]
  · have same : (n.natAbs : Int) = n := by omega
    simp only [negative, decide_false, same, BEq.rfl, Bool.not_false, if_true]

end CsiOperator.Json
