import EchoWatch.Proofs.Number.Rounding
import EchoWatch.Proofs.Numeral
import EchoWatch.Proofs.Time.Scan
import EchoWatch.Yaml.Number
/-!
# From texts to seconds

The number of a part is written with digits of any script. Every such text is a number for the
general reader of numbers as well (`decimal_number`), so that no part fails to convert.

What a part is worth, and so what a sequence of parts is worth in the end, may be zero or infinite,
but is always a length (`isLength_total`): an infinite number is never multiplied by zero.
-/

namespace EchoWatch

/-! ## Digits of every script

The digits of a script are ten consecutive characters from its zero on. What is to be known of all
digits is therefore decided on the list of zeros. -/

namespace Text

/-- A digit belongs to a script, and is less than ten places behind its zero. -/
theorem exists_zero_of_isDigit {c : Char} (h : isDigit c) :
    ∃ z ∈ zeros, z ≤ c.toNat ∧ c.toNat < z + 10 := by
  obtain ⟨d, hd⟩ := Option.isSome_iff_exists.mp h
  unfold digitValue? at hd
  split at hd
  · split at hd
    next hascii =>
      refine ⟨0x30, List.mem_cons_self, hascii.1, ?_⟩
      have hnine : ('9' : Char).toNat = 57 := rfl
      omega
    next => cases hd
  · obtain ⟨z, hz, -⟩ := Option.map_eq_some_iff.mp hd
    have hbounds := List.find?_some hz
    simp only [Bool.and_eq_true, decide_eq_true_eq] at hbounds
    exact ⟨z, List.mem_of_find?_eq_some hz, hbounds.1, hbounds.2⟩

/-- No digit is a blank: no blank stands among the ten characters from a zero on. -/
theorem isBlank_of_isDigit {c : Char} (h : isDigit c) : isBlank c = false := by
  -- both lists are short enough to compare all pairs
  have hapart : ∀ z ∈ zeros, ∀ b ∈ blanks, b < z ∨ z + 10 ≤ b := by decide +kernel
  obtain ⟨z, hz, hlow, hhigh⟩ := exists_zero_of_isDigit h
  rw [isBlank, List.contains_eq_mem, decide_eq_false_iff_not]
  intro hblank
  have := hapart z hz c.toNat hblank
  omega

/-- Digits have no case. -/
theorem toLower_of_isDigit {c : Char} (h : isDigit c) : c.toLower = c := by
  -- no digit is among the capital letters of ASCII
  have hapart : ∀ z ∈ zeros, z + 10 ≤ 65 ∨ 90 < z := by decide +kernel
  obtain ⟨z, hz, hlow, hhigh⟩ := exists_zero_of_isDigit h
  have := hapart z hz
  unfold Char.toLower
  rw [dif_neg]
  rintro ⟨hA, hZ⟩
  have hA' : 65 ≤ c.toNat := hA
  have hZ' : c.toNat ≤ 90 := hZ
  omega

/-- A digit in ASCII; other characters stay as they are. -/
def ascii (c : Char) : Char :=
  (digitValue? c).elim c Numeral.digit

/-- A digit is turned into one of ASCII. -/
theorem isAsciiDigit_ascii {c : Char} (h : isDigit c) : isAsciiDigit (ascii c) := by
  obtain ⟨d, hd⟩ := Option.isSome_iff_exists.mp h
  rw [ascii, hd]
  exact Numeral.isAsciiDigit_digit (digitValue?_lt hd)

theorem asciiDigit_ascii {c : Char} (h : isDigit c) :
    digitValue? c = some (asciiDigit (ascii c)) := by
  obtain ⟨d, hd⟩ := Option.isSome_iff_exists.mp h
  have hascii := Numeral.asciiDigit_digit (digitValue?_lt hd)
  rw [ascii, hd, Option.elim_some, hascii]

theorem filterMap_digitValue? {ds : List Char} (hds : ∀ c ∈ ds, isDigit c) :
    ds.filterMap digitValue? = (ds.map ascii).map asciiDigit := by
  rw [List.map_map, ← List.filterMap_eq_map]
  exact List.filterMap_congr fun c hc => asciiDigit_ascii (hds c hc)

end Text

namespace Duration

open Text (isDigit isAsciiDigit ascii)

/-! ## Numbers

The general reader first drops blanks and changes capital letters, then looks for a sign and for the
words it knows. None of this concerns a number, so only digits and a point are left for it to
read. -/

/-- Nothing in a number is a blank. -/
theorem isBlank_of_isNumeral {c : Char} (h : isNumeral c) : Text.isBlank c = false := by
  rw [isNumeral, Bool.or_eq_true, beq_iff_eq] at h
  rcases h with h | rfl
  · exact Text.isBlank_of_isDigit h
  · decide

/-- Nothing in a number has a case. -/
theorem toLower_of_isNumeral {c : Char} (h : isNumeral c) : c.toLower = c := by
  rw [isNumeral, Bool.or_eq_true, beq_iff_eq] at h
  rcases h with h | rfl
  · exact Text.toLower_of_isDigit h
  · decide

/-- What the general reader prepares of a number is the number, with digits of ASCII. -/
theorem plain_of_isNumeral {n : List Char} (hn : ∀ c ∈ n, isNumeral c) :
    Yaml.Number.plain (n.map Char.toLower) = n.map ascii := by
  have hlower : n.map Char.toLower = n :=
    (List.map_congr_left fun c hc => toLower_of_isNumeral (hn c hc)).trans (List.map_id n)
  have htrim : Text.trim n = n := by
    refine Text.trim_eq_self n (fun c hc => ?_) (fun c hc => ?_)
    · exact isBlank_of_isNumeral (hn c (List.mem_of_mem_head? hc))
    · exact isBlank_of_isNumeral (hn c (List.mem_reverse.mp (List.mem_of_mem_head? hc)))
  rw [Yaml.Number.plain, hlower, htrim]
  rfl

/-- The number that digits spell, when some of them stand after a point. -/
def spelled (digits : List Char) (places : Nat) : Binary64 :=
  .ofDecimal false (Text.ofDigitValues 10 (digits.map Text.asciiDigit)) digits.length (-places)

theorem isAsciiDigit_point : isAsciiDigit '.' = false := by
  decide

section Unsigned

open Yaml.Number

variable {ws fs : List Char}

/-- A number has no sign of its own. -/
theorem splitSign_of_numeral {cs : List Char} (hcs : ∀ c ∈ cs, isAsciiDigit c ∨ c = '.') :
    Yaml.Number.splitSign cs = (false, cs) := by
  unfold Yaml.Number.splitSign
  split
  · -- a sign would be a digit or a point
    exact absurd (hcs '-' List.mem_cons_self) (by decide)
  · exact absurd (hcs '+' List.mem_cons_self) (by decide)
  · rfl

/-- A number is none of the words that stand for infinities and not-a-numbers. -/
theorem not_word {cs : List Char} (hcs : ∀ c ∈ cs, isAsciiDigit c ∨ c = '.') :
    ["inf", "infinity"].contains (String.ofList cs) = false ∧ cs ≠ "nan".toList := by
  -- every such word has this letter
  have hn : ¬ 'n' ∈ cs := fun hmem => absurd (hcs 'n' hmem) (by decide)
  constructor
  · rw [List.contains_eq_mem, decide_eq_false_iff_not]
    intro hmem
    have hword : String.ofList cs = "inf" ∨ String.ofList cs = "infinity" := by simpa using hmem
    have hcs' : cs = (String.ofList cs).toList := String.toList_ofList.symm
    rcases hword with hword | hword <;> rw [hword] at hcs' <;> exact hn (hcs' ▸ by decide)
  · rintro rfl
    exact hn (by decide)

/-- The general reader reads digits. -/
theorem unsigned?_whole (hws : ∀ c ∈ ws, isAsciiDigit c) (hne : ws ≠ []) :
    unsigned? false ws = some (spelled ws 0) := by
  obtain ⟨hinf, hnan⟩ := not_word fun c hc => .inl (hws c hc)
  have htake := List.takeWhile_eq_self_iff.mpr hws
  have hdrop := List.dropWhile_eq_nil_iff.mpr hws
  unfold unsigned?
  rw [hinf, if_neg Bool.false_ne_true, if_neg hnan]
  simp [htake, hdrop, hne, exponent?, spelled]

theorem unsigned?_pointed (hws : ∀ c ∈ ws, isAsciiDigit c) (hfs : ∀ c ∈ fs, isAsciiDigit c)
    (hne : ws ++ fs ≠ []) :
    unsigned? false (ws ++ '.' :: fs) = some (spelled (ws ++ fs) fs.length) := by
  have hpoint : ∀ c, ('.' :: fs).head? = some c → isAsciiDigit c = false := by
    rintro c hc
    obtain rfl : '.' = c := Option.some.inj hc
    exact isAsciiDigit_point
  have hnumeral : ∀ c ∈ ws ++ '.' :: fs, isAsciiDigit c ∨ c = '.' := by
    intro c hc
    rcases List.mem_append.mp hc with hc | hc
    · exact .inl (hws c hc)
    · rcases List.mem_cons.mp hc with rfl | hc
      · exact .inr rfl
      · exact .inl (hfs c hc)
  -- digits and points are no words, and the point ends the first run of digits
  obtain ⟨hinf, hnan⟩ := not_word hnumeral
  have htake := List.takeWhile_eq_self_iff.mpr hfs
  have hdrop := List.dropWhile_eq_nil_iff.mpr hfs
  have hwhole := takeWhile_append_of_stop hws hpoint
  have hrest := dropWhile_append_of_stop hws hpoint
  unfold unsigned?
  rw [hinf, if_neg Bool.false_ne_true, if_neg hnan]
  simp only [hwhole, hrest, List.head?_cons, List.drop_one, List.tail_cons, if_true, htake, hdrop,
    if_neg hne, exponent?, Option.map_some, spelled, Int.zero_sub]

end Unsigned

/-- The number of any part is read, with as many places behind the point as the part has there. By
cases on how the number is written. -/
theorem IsNumber.exists_ascii {n : List Char} (hn : IsNumber n) :
    ∃ digits, Yaml.Number.unsigned? false (n.map ascii) =
        some (spelled digits (afterDigits n).tail.length) ∧
      digits.map Text.asciiDigit = n.filterMap Text.digitValue? := by
  have hpoint : ascii '.' = '.' := by decide
  have hno : Text.digitValue? '.' = none := by decide
  have hascii {ds : List Char} (hds : ∀ c ∈ ds, isDigit c) : ∀ c ∈ ds.map ascii, isAsciiDigit c :=
    List.forall_mem_map.mpr fun c hc => Text.isAsciiDigit_ascii (hds c hc)
  cases hn with
  -- digits alone
  | whole hne hds =>
    refine ⟨n.map ascii, ?_, (Text.filterMap_digitValue? hds).symm⟩
    rw [afterDigits_of_all hds]
    exact unsigned?_whole (hascii hds) (mt List.map_eq_nil_iff.mp hne)
  -- digits, a point and digits: the point drops out of the values
  | @pointed ds fs hne hds hfs =>
    refine ⟨ds.map ascii ++ fs.map ascii, ?_, ?_⟩
    · have hne' : ds.map ascii ++ fs.map ascii ≠ [] := by
        intro hnil
        exact hne (List.map_eq_nil_iff.mp (List.append_eq_nil_iff.mp hnil).1)
      have h := unsigned?_pointed (hascii hds) (hascii hfs) hne'
      rw [List.length_map] at h
      rw [afterDigits_append hds head?_point, List.map_append, List.map_cons, hpoint]
      exact h
    · rw [List.filterMap_append, List.filterMap_cons_none hno, Text.filterMap_digitValue? hds,
        Text.filterMap_digitValue? hfs, List.map_append]
  -- nothing in front of the point
  | @fraction fs hne hfs =>
    refine ⟨fs.map ascii, ?_, ?_⟩
    · have hne' : fs.map ascii ≠ [] := mt List.map_eq_nil_iff.mp hne
      have h := unsigned?_pointed (List.forall_mem_nil _) (hascii hfs) hne'
      rw [List.length_map] at h
      rw [afterDigits_point, List.map_cons, hpoint]
      exact h
    · rw [List.filterMap_cons_none hno, Text.filterMap_digitValue? hfs]

/-- In ASCII a number has digits and points only. -/
theorem numeral_of_mem_map_ascii {n : List Char} (hn : ∀ c ∈ n, isNumeral c) :
    ∀ c ∈ n.map ascii, isAsciiDigit c ∨ c = '.' := by
  refine List.forall_mem_map.mpr fun c hc => ?_
  have hnumeral := hn c hc
  rw [isNumeral, Bool.or_eq_true, beq_iff_eq] at hnumeral
  rcases hnumeral with hdigit | rfl
  · exact .inl (Text.isAsciiDigit_ascii hdigit)
  · exact .inr (by decide)

/-- **Every number of a part converts**, to what its digits and places spell. -/
theorem decimal_number {n : List Char} (hn : IsNumber n) :
    Yaml.Number.decimal n = .ok (.ofDecimal false
      (Text.ofDigitValues 10 (n.filterMap Text.digitValue?)) (n.filterMap Text.digitValue?).length
      (-(afterDigits n).tail.length)) := by
  obtain ⟨digits, hread, hdigits⟩ := hn.exists_ascii
  have hsign := splitSign_of_numeral (numeral_of_mem_map_ascii hn.isNumeral)
  unfold Yaml.Number.decimal
  rw [plain_of_isNumeral hn.isNumeral, hsign]
  dsimp only
  rw [hread, ← hdigits, spelled, List.length_map]

theorem Lexeme.IsPart.exists_decimal {l : Lexeme} (hl : l.IsPart) :
    ∃ x, Yaml.Number.decimal l.number = .ok x ∧ l.part.seconds = x * l.unit.seconds :=
  ⟨_, decimal_number hl.1, rfl⟩

/-! ## Sums

The sum of the parts starts at zero and grows by products of a number with a positive unit. So it
never leaves the lengths, and the conversion to a duration need not deal with not-a-numbers. -/

/-- The double nearest to a fraction of one is positive and finite, for denominators up to `2 ^
53`. -/
theorem exists_nearest_one {den : Nat} (hden : 0 < den) (hle : den ≤ 2 ^ 53) :
    ∃ v, 0 < v ∧ Binary64.nearest false (1 * Binary64.one) den = .finite false v := by
  obtain ⟨e, he, hone, hoverflow⟩ := Binary64.exists_one_eq
  -- one has far more than fifty-three bits of units, so that the quotient is not zero
  have hlow : 2 ^ 0 ≤ Binary64.one / den := by
    rw [Nat.le_div_iff_mul_le hden, pow_zero, Nat.one_mul, hone]
    exact hle.trans (Nat.pow_le_pow_right (by decide) he)
  have hhigh : Binary64.one / den < 2 ^ (e + 1) := by
    refine (Nat.div_le_self _ _).trans_lt ?_
    rw [hone]
    exact Nat.pow_lt_pow_right (by decide) (by omega)
  have hpos := Binary64.two_pow_le_roundUnits hlow
  have hlt : Binary64.roundUnits Binary64.one den < Binary64.overflow := by
    refine (Binary64.roundUnits_le_two_pow hhigh).trans_lt ?_
    rw [hoverflow]
    exact Nat.pow_lt_pow_right (by decide) (by omega)
  refine ⟨Binary64.roundUnits Binary64.one den, by omega, ?_⟩
  rw [Nat.one_mul, Binary64.nearest, if_pos hlt]

/-- One second, in units. -/
theorem seconds_second : TimeUnit.second.seconds = .finite false (1 * Binary64.one) := by
  have h := @Binary64.ofInt_natCast 1 (by decide)
  rw [Nat.cast_one] at h
  rw [TimeUnit.seconds, h]

theorem seconds_minute : TimeUnit.minute.seconds = .finite false (60 * Binary64.one) := by
  have h := @Binary64.ofInt_natCast 60 (by decide)
  rw [Nat.cast_ofNat] at h
  rw [TimeUnit.seconds, h]

theorem seconds_hour : TimeUnit.hour.seconds = .finite false (3600 * Binary64.one) := by
  have h := @Binary64.ofInt_natCast 3600 (by decide)
  rw [Nat.cast_ofNat] at h
  rw [TimeUnit.seconds, h]

/-- The powers of ten below one that units are written with are such fractions. -/
theorem exists_ofDecimal_one {places : Nat} (hpos : 0 < places) (hle : 10 ^ places ≤ 2 ^ 53)
    (hfew : places ≤ 400) :
    ∃ v, 0 < v ∧ Binary64.ofDecimal false 1 1 (-places) = .finite false v := by
  obtain ⟨v, hv, hnearest⟩ := exists_nearest_one (Nat.pow_pos (by decide)) hle
  refine ⟨v, hv, ?_⟩
  unfold Binary64.ofDecimal
  rw [if_neg (by decide), if_neg (by omega), if_neg (by omega), if_neg (by omega), neg_neg,
    Int.toNat_natCast]
  exact hnearest

/-- The seconds of every unit are positive and finite. -/
theorem exists_seconds (u : TimeUnit) : ∃ v, 0 < v ∧ u.seconds = .finite false v := by
  cases u with
  | nanosecond => exact @exists_ofDecimal_one 9 (by decide) (by decide) (by decide)
  | microsecond => exact @exists_ofDecimal_one 6 (by decide) (by decide) (by decide)
  | millisecond => exact @exists_ofDecimal_one 3 (by decide) (by decide) (by decide)
  | second => exact ⟨_, Nat.mul_pos (by decide) Binary64.one_pos, seconds_second⟩
  | minute => exact ⟨_, Nat.mul_pos (by decide) Binary64.one_pos, seconds_minute⟩
  | hour => exact ⟨_, Nat.mul_pos (by decide) Binary64.one_pos, seconds_hour⟩

/-- A part lasts for some length, whatever its number. -/
theorem isLength_seconds (p : Part) : Binary64.IsLength p.seconds := by
  obtain ⟨v, hv, hunit⟩ := exists_seconds p.unit
  rw [Part.seconds, hunit]
  exact (Binary64.isLength_ofDecimal _ _ _).mul_finite hv

/-- **So do parts together.** -/
theorem isLength_total (ps : List Part) : Binary64.IsLength (total ps) := by
  -- the sum begins with zero, and a length is added to it each time
  have hsum : ∀ x, Binary64.IsLength x →
      Binary64.IsLength (ps.foldl (fun sum p => sum + p.seconds) x) := by
    induction ps with
    | nil => exact fun x hx => hx
    | cons p ps ih => exact fun x hx => ih _ (hx.add (isLength_seconds p))
  exact hsum _ Binary64.isLength_zero

end Duration
end EchoWatch
