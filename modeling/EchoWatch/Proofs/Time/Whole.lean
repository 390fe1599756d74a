import EchoWatch.Proofs.Time.Reading
/-!
# Durations of whole seconds

Parts that are whole numbers of hours, minutes and seconds are counted in doubles. Up to `2 ^ 53`
seconds a double counts exactly, and there is no duration of more than that. So what is read is the
exact sum, or nothing, whatever the sizes of the numbers and the order of the parts (`parse_whole`).
The range is not symmetric: its lower end is a whole number of days, its upper end is one day more
and excluded.
-/

namespace EchoWatch.Duration

open Binary64 (Counts Huge one)

/-! ## Parts

A part of whole seconds is counted in doubles as soon as its number is, since its unit is a whole
number of seconds. -/

/-- The units that are whole seconds. -/
inductive LongUnit where
  | second | minute | hour

namespace LongUnit

def unit : LongUnit → TimeUnit
  | second => .second
  | minute => .minute
  | hour => .hour

def letter : LongUnit → Char
  | second => 's'
  | minute => 'm'
  | hour => 'h'

def seconds : LongUnit → Nat
  | second => 1
  | minute => 60
  | hour => 3600

theorem seconds_pos (u : LongUnit) : 0 < u.seconds := by
  cases u <;> decide

theorem mem_spellings (u : LongUnit) : ([u.letter], u.unit) ∈ spellings := by
  cases u <;> decide

theorem seconds_unit (u : LongUnit) : u.unit.seconds = .finite false (u.seconds * one) := by
  cases u <;> simp only [unit, seconds, seconds_second, seconds_minute, seconds_hour]

end LongUnit

/-- A whole number of any size in a unit of whole seconds. -/
structure WholePart where
  digits : List Char
  unit : LongUnit
  ne_nil : digits ≠ []
  isDigit : ∀ c ∈ digits, Text.isDigit c

namespace WholePart

variable (p : WholePart)

def lexeme : Lexeme :=
  ⟨p.digits, [p.unit.letter], p.unit.unit⟩

def number : Nat :=
  Text.ofDigitValues 10 (p.digits.filterMap Text.digitValue?)

def seconds : Nat :=
  p.number * p.unit.seconds

theorem isPart_lexeme : p.lexeme.IsPart :=
  ⟨.whole p.ne_nil p.isDigit, p.unit.mem_spellings⟩

/-- **Its seconds are counted.** The digits are, and a product with the unit is. -/
theorem counts_seconds : Counts p.lexeme.part.seconds p.seconds := by
  have hplaces : p.lexeme.part.places = 0 := by
    unfold Lexeme.part
    dsimp only
    rw [lexeme, afterDigits_of_all p.isDigit]
    rfl
  have hnumber := Binary64.counts_ofDecimal p.number p.lexeme.part.digits.length
  have hproduct := hnumber.mul p.unit.seconds_pos
  rw [← p.unit.seconds_unit] at hproduct
  rw [Part.seconds, hplaces]
  exact hproduct

end WholePart

/-- How parts are written one after the other. -/
def wholeText (ps : List WholePart) : List Char :=
  (ps.map WholePart.lexeme).flatMap Lexeme.text

/-- The exact sum of parts. -/
def wholeSeconds (ps : List WholePart) : Nat :=
  (ps.map WholePart.seconds).sum

/-- What is written is made of these parts. -/
theorem spells_wholeText (ps : List WholePart) :
    Spells (ps.map WholePart.lexeme) (wholeText ps) := by
  refine ⟨?_, rfl⟩
  exact List.forall_mem_map.mpr fun p _ => p.isPart_lexeme

/-- **So are the seconds of all parts together.** Induction on the parts, with any count to begin
with. -/
theorem counts_total (ps : List WholePart) :
    Counts (total ((ps.map WholePart.lexeme).map Lexeme.part)) (wholeSeconds ps) := by
  -- whatever has been counted before, each part adds to both sums
  have hsum : ∀ x n, Counts x n →
      Counts (((ps.map WholePart.lexeme).map Lexeme.part).foldl (fun sum p => sum + p.seconds) x)
        (n + wholeSeconds ps) := by
    induction ps with
    | nil => exact fun x n hx => hx
    | cons p ps ih =>
      intro x n hx
      have h := ih _ _ (hx.add p.counts_seconds)
      rw [Nat.add_assoc] at h
      exact h
  have h := hsum _ 0 Binary64.counts_zero
  rw [Nat.zero_add] at h
  exact h

/-! ## Counted seconds

What is counted exactly converts exactly. What has gone beyond is more than `2 ^ 53` seconds, and
these are far out of the range, so that the error of the count does not matter. -/

/-- Whole seconds are whole microseconds. -/
theorem roundedMicros_natCast (n : Nat) : roundedMicros (n * one) = n * 1000000 := by
  have hround : Binary64.roundUnits 0 1 = 0 := Binary64.roundUnits_of_lt (by decide)
  have hdivEven := Binary64.divEven_mul 0 Binary64.one_pos
  rw [Nat.zero_mul] at hdivEven
  unfold roundedMicros
  rw [Nat.mul_div_cancel n Binary64.one_pos, Nat.mul_mod_left, Nat.zero_mul, hround, hdivEven,
    Nat.add_zero]

/-- An exact count is converted to exactly so many microseconds. -/
theorem ofSeconds_of_exact (negative : Bool) {x : Binary64} {n : Nat} (hx : Counts x n)
    (hn : n ≤ 2 ^ 53) :
    ofSeconds (signed negative x) = ofMicros (Binary64.signedUnits negative (n * 1000000)) := by
  cases hx with
  | beyond hlt => omega
  | exact => rw [signed_finite, ofSeconds_finite, roundedMicros_natCast]

/-- What is huge is out of range, with either sign. -/
theorem not_fits_of_huge (negative : Bool) {x : Binary64} (hx : Huge x) :
    ¬ Fits (signed negative x) := by
  cases hx with
  | infinite =>
    rw [signed_infinite]
    rintro ⟨q, hq, -⟩
    cases hq
  | @finite u _ hle =>
    have hone := Binary64.one_pos
    rw [signed_finite]
    cases negative with
    | false =>
      rw [fits_positive_iff]
      omega
    | true =>
      rw [fits_negative_iff]
      omega

/-- Beyond `2 ^ 53` seconds the conversion fails, whatever was lost of the count. -/
theorem exists_error_of_counts (negative : Bool) {x : Binary64} {n : Nat} (hx : Counts x n)
    (hn : 2 ^ 53 < n) : ∃ cause, ofSeconds (signed negative x) = .error cause := by
  cases hx with
  | exact hle => omega
  | beyond _ hhuge =>
    -- what is not counted exactly is not in the range any more
    have hno := not_fits_of_huge negative hhuge
    rw [← exists_ofSeconds_iff hhuge.isLength negative] at hno
    cases hseconds : ofSeconds (signed negative x) with
    | ok us => exact absurd ⟨us, hseconds⟩ hno
    | error cause => exact ⟨cause, rfl⟩

/-- A count of seconds is converted, or is out of range, as the exact number of seconds is. With a
plus sign and with a minus sign the last number that fits is another one. -/
theorem ofSeconds_counts {x : Binary64} {n : Nat} (hx : Counts x n) :
    (n < 86400000000000 → ofSeconds (signed false x) = .ok (n * 1000000)) ∧
    (86400000000000 ≤ n → ∃ cause, ofSeconds (signed false x) = .error cause) ∧
    (n ≤ 86399999913600 → ofSeconds (signed true x) = .ok (-(n * 1000000))) ∧
    (86399999913600 < n → ∃ cause, ofSeconds (signed true x) = .error cause) := by
  have hpositive : Binary64.signedUnits false (n * 1000000) = n * 1000000 := by
    simp [Binary64.signedUnits]
  have hnegative : Binary64.signedUnits true (n * 1000000) = -(n * 1000000) := by
    simp [Binary64.signedUnits]
  refine ⟨fun hn => ?_, fun hn => ?_, fun hn => ?_, fun hn => ?_⟩
  · rw [ofSeconds_of_exact false hx (by omega), hpositive]
    refine ofMicros_of_bounds ?_ ?_ <;> unfold maxDays dayMicros <;> omega
  · -- too many seconds, counted exactly or not
    rcases Nat.lt_or_ge (2 ^ 53) n with hbeyond | hexact
    · exact exists_error_of_counts false hx hbeyond
    · rw [ofSeconds_of_exact false hx hexact, hpositive]
      refine exists_error_of_bounds (.inr ?_)
      unfold maxDays dayMicros
      omega
  · rw [ofSeconds_of_exact true hx (by omega), hnegative]
    refine ofMicros_of_bounds ?_ ?_ <;> unfold maxDays dayMicros <;> omega
  · -- the same below zero
    rcases Nat.lt_or_ge (2 ^ 53) n with hbeyond | hexact
    · exact exists_error_of_counts true hx hbeyond
    · rw [ofSeconds_of_exact true hx hexact, hnegative]
      refine exists_error_of_bounds (.inl ?_)
      unfold maxDays dayMicros
      omega

/-! ## Reading whole seconds -/

/-- Whole hours, minutes and seconds are read as exactly what they are together, and not at all if
that is out of the range. -/
theorem parse_whole (ps : List WholePart) (hne : ps ≠ []) :
    (∀ sign, sign = [] ∨ sign = ['+'] →
      (wholeSeconds ps < 86400000000000 →
        parse (String.ofList (sign ++ wholeText ps)) = .ok (wholeSeconds ps * 1000000)) ∧
      (86400000000000 ≤ wholeSeconds ps →
        ∃ cause, parse (String.ofList (sign ++ wholeText ps)) = .error (.overflow cause))) ∧
    (wholeSeconds ps ≤ 86399999913600 →
      parse (String.ofList ('-' :: wholeText ps)) = .ok (-(wholeSeconds ps * 1000000))) ∧
    (86399999913600 < wholeSeconds ps →
      ∃ cause, parse (String.ofList ('-' :: wholeText ps)) = .error (.overflow cause)) := by
  obtain ⟨hin, hout, hnegativeIn, hnegativeOut⟩ := ofSeconds_counts (counts_total ps)
  obtain ⟨hunsigned, hplus, hminus⟩ :=
    parse_of_written (spells_wholeText ps) (mt List.map_eq_nil_iff.mp hne)
  unfold worth at hunsigned hplus hminus
  -- a plus sign and none are the same, and all that is left is to convert the sum of the parts
  have hread : ∀ sign, sign = [] ∨ sign = ['+'] →
      parse (String.ofList (sign ++ wholeText ps)) =
        (ofSeconds (signed false (total ((ps.map WholePart.lexeme).map Lexeme.part)))).mapError
          .overflow := by
    rintro sign (rfl | rfl)
    · exact hunsigned
    · exact hplus
  refine ⟨fun sign hsign => ⟨fun hn => ?_, fun hn => ?_⟩, fun hn => ?_, fun hn => ?_⟩
  · rw [hread sign hsign, hin hn]
    rfl
  · obtain ⟨cause, hcause⟩ := hout hn
    refine ⟨cause, ?_⟩
    rw [hread sign hsign, hcause]
    rfl
  · rw [hminus, hnegativeIn hn]
    rfl
  · obtain ⟨cause, hcause⟩ := hnegativeOut hn
    refine ⟨cause, ?_⟩
    rw [hminus, hcause]
    rfl

/-- The shortest duration that cannot be: a thousand million days. -/
def tooManyHours : WholePart :=
  ⟨['2', '4', '0', '0', '0', '0', '0', '0', '0', '0', '0'], .hour, by decide,
    List.all_eq_true.mp (by decide)⟩

/-- A thousand million days in hours are the first that do not fit. -/
theorem parse_whole_of_too_many_hours :
    [tooManyHours] ≠ [] ∧ ∃ cause, parse "24000000000h" = .error (.overflow cause) := by
  have hne : [tooManyHours] ≠ [] := List.cons_ne_nil _ _
  have hlimit : 86400000000000 ≤ wholeSeconds [tooManyHours] := by decide
  have hread := ((parse_whole [tooManyHours] hne).1 [] (.inl rfl)).2 hlimit
  exact ⟨hne, hread⟩

end EchoWatch.Duration
