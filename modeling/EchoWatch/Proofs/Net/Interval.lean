import EchoWatch.Net.Range
import EchoWatch.Proofs.Net.Quad
import Mathlib.Algebra.Group.Nat.Defs
/-!
# Ranges as intervals

Membership in a range is tested by clearing bits. Here it is a statement about numbers: the range
of a given length around a written address is the interval that starts at the address with its free
bits cleared and is as long as the free bits allow.

* **`contains_iff`**: the test is membership in that interval, for each family and length.
* **`parse_eq_ok_iff`**: a text is read as a range just when it is an address, a slash and a length,
  and the range is then the one around that address.
* **`contains_iff_of_parse`**: both together, from the text to the interval.
-/

namespace EchoWatch.Net.Range

/-! ## Cleared bits

Shifting a number to the right and back clears its low bits. In arithmetic this is a division with
the remainder left out. -/

/-- Clearing the low bits of a number finds the start of the block that it lies in. -/
theorem shift_eq_iff {v net k : Nat} (h : net % 2 ^ k = 0) :
    v >>> k <<< k = net ↔ net ≤ v ∧ v < net + 2 ^ k := by
  obtain ⟨q, rfl⟩ := Nat.dvd_of_mod_eq_zero h
  have hpos : 0 < 2 ^ k := Nat.two_pow_pos k
  -- both sides are multiples of the block size: it is left to compare the quotients
  rw [Nat.shiftRight_eq_div_pow, Nat.shiftLeft_eq, Nat.mul_comm (v / 2 ^ k),
    Nat.mul_right_inj (by omega), Nat.div_eq_iff hpos]
  constructor
  · rintro ⟨hlo, hhi⟩
    exact ⟨by rw [Nat.mul_comm]; exact hlo, by rw [Nat.mul_comm]; omega⟩
  · rintro ⟨hlo, hhi⟩
    rw [Nat.mul_comm] at hlo hhi
    exact ⟨hlo, by omega⟩

/-- A value with its low bits cleared. -/
def cleared (value bits : Nat) : Nat :=
  value - value % 2 ^ bits

theorem cleared_eq_div_mul (value bits : Nat) :
    cleared value bits = value / 2 ^ bits * 2 ^ bits := by
  have h := Nat.div_add_mod' value (2 ^ bits)
  unfold cleared
  omega

/-! ## The interval of a range

Every range covers one interval of the addresses of its family. An interval is easier to reason
about than bits are: two ranges are compared by their ends. -/

/-- The bits of an address that a length leaves free. -/
def freeBits (a : Address) (length : Nat) : Nat :=
  a.family.width - length

/-- What lies in the range of the given length around a written address: the addresses of its
family, from the one with the free bits cleared on, as many as the free bits can count. -/
structure Covers (written : Address) (length : Nat) (a : Address) : Prop where
  family_eq : a.family = written.family
  le_value : cleared written.value (freeBits written length) ≤ a.value
  value_lt : a.value < cleared written.value (freeBits written length) +
    2 ^ freeBits written length

/-- **Membership is an interval.** The test clears the free bits of the address and compares with
the base, whose own free bits are clear. -/
theorem contains_iff {r : Range} {a : Address} :
    r.contains a = true ↔ a.family = r.base.family ∧ r.base.value ≤ a.value ∧
      a.value < r.base.value + 2 ^ freeBits r.base r.length := by
  have haligned : r.base.value % 2 ^ freeBits r.base r.length = 0 := r.aligned
  simp only [contains, Bool.and_eq_true, decide_eq_true_eq]
  rw [← shift_eq_iff haligned]
  rfl

theorem contains_base (r : Range) : r.contains r.base = true :=
  contains_iff.mpr ⟨rfl, Nat.le_refl _, Nat.lt_add_of_pos_right (Nat.two_pow_pos _)⟩

/-! ### The range around an address -/

section Around

variable {a : Address} {length : Nat} {h : length ≤ a.family.width}

@[simp] theorem around_family : (around a length h).base.family = a.family := by
  unfold around
  dsimp only
  split <;> rfl

@[simp] theorem around_length : (around a length h).length = length := by
  unfold around
  dsimp only
  split <;> rfl

@[simp] theorem around_value :
    (around a length h).base.value = cleared a.value (freeBits a length) := by
  unfold around
  dsimp only
  split
  · next haligned =>
    have hmod : a.value % 2 ^ freeBits a length = 0 := haligned
    rw [cleared, hmod, Nat.sub_zero]
  · exact (cleared_eq_div_mul _ _).symm

/-- The range around a written address contains what the address and the length cover. -/
theorem contains_around_iff {b : Address} :
    (around a length h).contains b = true ↔ Covers a length b := by
  have hbits :
      freeBits (around a length h).base (around a length h).length = freeBits a length := by
    simp [freeBits]
  rw [contains_iff, hbits, around_family, around_value]
  exact ⟨fun ⟨hfam, hlo, hhi⟩ => ⟨hfam, hlo, hhi⟩, fun ⟨hfam, hlo, hhi⟩ => ⟨hfam, hlo, hhi⟩⟩

end Around

/-! ## The text of a range

A text is taken apart at its slash. The parts on both sides are read independently, except that the
family of the address decides which lengths there are. -/

/-- The text of a range says which address is written in it and which length: an address, a slash
and a length, with white space around them. -/
def Written (text : String) (written : Address) (length : Nat) : Prop :=
  ∃ body tail, Text.trim text.toList = body ++ '/' :: tail ∧
    Address.read? body = some written ∧ readLength? written.family tail = some length

/-- No address is read from a text with a slash in it. -/
theorem slash_not_mem_of_read? {cs : List Char} {a : Address} (h : Address.read? cs = some a) :
    '/' ∉ cs := by
  unfold Address.read? at h
  split at h
  · cases h
  · assumption

/-- A mask gives a length of at most 32 bits. -/
theorem maskLength?_le {n length : Nat} (h : maskLength? n = some length) : length ≤ 32 := by
  have hmem := List.mem_of_find?_eq_some h
  rw [List.mem_range] at hmem
  omega

/-- A length in digits is at most as long as an address. -/
theorem decimalLength?_spec {width : Nat} {cs : List Char} {length : Nat}
    (h : decimalLength? width cs = some length) : '/' ∉ cs ∧ length ≤ width := by
  unfold decimalLength? at h
  split at h
  · next hcs =>
    dsimp only at h
    split at h
    · next hle =>
      obtain rfl := Option.some.inj h
      exact ⟨Text.not_mem_of_all_isAsciiDigit hcs.2.1 (by decide), hle⟩
    · cases h
  · cases h

/-- A length that is written as a mask is read through a quad, which holds no slash. -/
theorem ofMask?_spec {cs : List Char} {length : Nat} (h : ofMask? cs = some length) :
    '/' ∉ cs ∧ length ≤ 32 := by
  unfold ofMask? at h
  split at h
  · cases h
  · next n hquad =>
    refine ⟨Quad.not_mem_of_read? hquad (by decide) (by decide), ?_⟩
    -- a quad is tried as a mask of ones first, then as a mask of zeros
    cases hmask : maskLength? n with
    | some k =>
      rw [hmask] at h
      obtain rfl : k = length := Option.some.inj h
      exact maskLength?_le hmask
    | none =>
      rw [hmask] at h
      exact maskLength?_le h

/-- A length that is read holds no slash and is not longer than an address. -/
theorem readLength?_spec {family : Family} {cs : List Char} {length : Nat}
    (h : readLength? family cs = some length) : '/' ∉ cs ∧ length ≤ family.width := by
  unfold readLength? at h
  -- digits come first, and only the lengths of the short family can be masks
  cases hdec : decimalLength? family.width cs with
  | some n =>
    rw [hdec] at h
    obtain rfl : n = length := Option.some.inj h
    exact decimalLength?_spec hdec
  | none =>
    rw [hdec] at h
    cases family with
    | v4 => exact ofMask?_spec h
    | v6 => cases h

/-- What is left after the blanks at the ends are dropped was there before. -/
theorem mem_of_mem_trim {c : Char} {cs : List Char} (h : c ∈ Text.trim cs) : c ∈ cs := by
  unfold Text.trim at h
  have hback := (List.dropWhile_sublist _).mem (List.mem_reverse.mp h)
  exact (List.dropWhile_sublist _).mem (List.mem_reverse.mp hback)

/-- The slash is found by splitting, because neither part can hold another one. -/
theorem read?_eq_some_iff {cs : List Char} {r : Range} :
    read? cs = some r ↔ ∃ body tail a length, ∃ h : length ≤ a.family.width,
      cs = body ++ '/' :: tail ∧ Address.read? body = some a ∧
        readLength? a.family tail = some length ∧ r = around a length h := by
  constructor
  · intro hread
    unfold read? at hread
    split at hread
    · -- one slash, and the address and the length are read from its two sides
      next body tail hsplit =>
      obtain ⟨hcs, -, -⟩ := (Text.split_eq_pair_iff '/').mp hsplit
      cases ha : Address.read? body with
      | none => rw [ha] at hread; cases hread
      | some a =>
        cases hl : readLength? a.family tail with
        | none => simp only [ha, hl] at hread; cases hread
        | some length =>
          have hle := (readLength?_spec hl).2
          simp only [ha, hl, hle, dite_true] at hread
          exact ⟨body, tail, a, length, hle, hcs, ha, hl, (Option.some.inj hread).symm⟩
    · cases hread
  · rintro ⟨body, tail, a, length, hle, hcs, ha, hl, rfl⟩
    have hsplit := (Text.split_eq_pair_iff '/').mpr
      ⟨hcs, slash_not_mem_of_read? ha, (readLength?_spec hl).1⟩
    unfold read?
    rw [hsplit]
    simp only [ha, hl, hle, dite_true]

/-- **Reading.** A text is a range just when an address and a length are written in it, and then it
is the range around that address. -/
theorem parse_eq_ok_iff {text : String} {r : Range} :
    parse text = .ok r ↔ ∃ written length, ∃ h : length ≤ written.family.width,
      Written text written length ∧ r = around written length h := by
  constructor
  · intro hparse
    unfold parse at hparse
    split at hparse
    · cases hparse
    · dsimp only at hparse
      split at hparse
      · next r' hread =>
        obtain rfl : r' = r := Except.ok.inj hparse
        obtain ⟨body, tail, a, length, hle, hcs, ha, hl, hr⟩ := read?_eq_some_iff.mp hread
        exact ⟨a, length, hle, ⟨body, tail, hcs, ha, hl⟩, hr⟩
      · cases hparse
  · rintro ⟨a, length, hle, ⟨body, tail, hcs, ha, hl⟩, rfl⟩
    have hread : read? (Text.trim text.toList) = some (around a length hle) :=
      read?_eq_some_iff.mpr ⟨body, tail, a, length, hle, hcs, ha, hl, rfl⟩
    -- a text without a slash is refused before it is read
    have hslash : '/' ∈ text.toList := mem_of_mem_trim (by rw [hcs]; simp)
    unfold parse
    rw [if_neg (not_not_intro hslash)]
    simp only [hread]

/-- **From the text to the interval.** -/
theorem contains_iff_of_parse {text : String} {r : Range} (h : parse text = .ok r) {a : Address} :
    r.contains a = true ↔ ∃ written length, Written text written length ∧
      Covers written length a := by
  constructor
  · intro hin
    obtain ⟨written, length, hle, hwritten, rfl⟩ := parse_eq_ok_iff.mp h
    exact ⟨written, length, hwritten, contains_around_iff.mp hin⟩
  · rintro ⟨written, length, hwritten, hcovers⟩
    have hle : length ≤ written.family.width := by
      obtain ⟨_, _, _, _, hl⟩ := hwritten
      exact (readLength?_spec hl).2
    -- the range was read from the same text, so it is the one around this address
    have hsame : parse text = .ok (around written length hle) :=
      parse_eq_ok_iff.mpr ⟨written, length, hle, hwritten, rfl⟩
    rw [h] at hsame
    rw [Except.ok.inj hsame]
    exact contains_around_iff.mpr hcovers

end EchoWatch.Net.Range
