import EchoWatch.Number.Numeral
import EchoWatch.Text.Blank
import EchoWatch.Text.Digit
import EchoWatch.Text.Half
import Mathlib.Algebra.Group.Nat.Defs
import Mathlib.Logic.Function.Basic
/-!
# Numerals read back

The decimal numeral of a number reads back as that number (`ofDigitValues_ofNat`), so that
different numbers have different numerals. The same holds for integers, because a minus sign is no
digit (`ofInt_injective`). A numeral has no more digits than its number needs
(`length_ofNat_le`), and the first of them is zero for zero alone (`head?_ofNat`).
-/

namespace EchoWatch

/-- A text of digits holds nothing else. -/
theorem Text.not_mem_of_all_isAsciiDigit {cs : List Char} (h : cs.all isAsciiDigit = true)
    {c : Char} (hc : isAsciiDigit c = false) : c ∉ cs := by
  intro hmem
  have hdigit := List.all_eq_true.mp h c hmem
  rw [hc] at hdigit
  cases hdigit

namespace Numeral

/-! ## Digits -/

theorem toNat_digit {d : Nat} (h : d < 10) : (digit d).toNat = 48 + d := by
  have hvalid : Nat.isValidChar (48 + d) := Or.inl (by omega)
  exact Text.toNat_ofNat hvalid

/-- A digit has its value when it is read. -/
theorem asciiDigit_digit {d : Nat} (h : d < 10) : Text.asciiDigit (digit d) = d := by
  unfold Text.asciiDigit
  rw [toNat_digit h, show ('0' : Char).toNat = 48 from rfl]
  omega

theorem isAsciiDigit_digit {d : Nat} (h : d < 10) : Text.isAsciiDigit (digit d) = true := by
  have hd := toNat_digit h
  simp only [Text.isAsciiDigit, Bool.and_eq_true, decide_eq_true_eq, Char.le_def,
    UInt32.le_iff_toNat_le]
  change 48 ≤ (digit d).toNat ∧ (digit d).toNat ≤ 57
  omega

/-! ## Natural numbers -/

/-- A numeral is made of digits. -/
theorem all_isAsciiDigit_ofNat (n : Nat) : (ofNat n).all Text.isAsciiDigit = true := by
  induction n using Nat.strongRecOn with
  | ind n ih =>
    rw [ofNat]
    split
    · next h => simp [isAsciiDigit_digit h]
    · next h =>
      rw [List.all_append, ih (n / 10) (by omega)]
      simp [isAsciiDigit_digit (Nat.mod_lt n (by omega : 0 < 10))]

/-- A numeral reads back as its number. Induction on the number without its last digit. -/
theorem ofDigitValues_ofNat (n : Nat) :
    Text.ofDigitValues 10 ((ofNat n).map Text.asciiDigit) = n := by
  induction n using Nat.strongRecOn with
  | ind n ih =>
    rw [ofNat]
    split
    · next h => simp [Text.ofDigitValues, asciiDigit_digit h]
    · next h =>
      have hlast := asciiDigit_digit (Nat.mod_lt n (by omega : 0 < 10))
      have hfront := ih (n / 10) (by omega)
      unfold Text.ofDigitValues at hfront ⊢
      rw [List.map_append, List.foldl_append, hfront]
      simp only [List.map_cons, List.map_nil, List.foldl_cons, List.foldl_nil, hlast]
      omega

theorem ofNat_injective : Function.Injective ofNat := by
  intro m n h
  rw [← ofDigitValues_ofNat m, h, ofDigitValues_ofNat]

theorem not_mem_ofNat {c : Char} (hc : Text.isAsciiDigit c = false) (n : Nat) : c ∉ ofNat n :=
  Text.not_mem_of_all_isAsciiDigit (all_isAsciiDigit_ofNat n) hc

/-- No blank is a digit: all of them lie below the digits or above. -/
theorem isBlank_of_mem_ofNat {c : Char} {n : Nat} (h : c ∈ ofNat n) : Text.isBlank c = false := by
  have hapart : ∀ b ∈ Text.blanks, b < '0'.toNat ∨ '9'.toNat < b := by decide
  have hdigit := List.all_eq_true.mp (all_isAsciiDigit_ofNat n) c h
  simp only [Text.isAsciiDigit, Bool.and_eq_true, decide_eq_true_eq, Char.le_def,
    UInt32.le_iff_toNat_le] at hdigit
  rw [Text.isBlank, List.contains_eq_mem, decide_eq_false_iff_not]
  intro hblank
  have := hapart c.toNat hblank
  change '0'.toNat ≤ c.toNat ∧ c.toNat ≤ '9'.toNat at hdigit
  omega

/-- A number below a power of ten has no more digits than the power says. -/
theorem length_ofNat_le {n k : Nat} (hk : 0 < k) (h : n < 10 ^ k) : (ofNat n).length ≤ k := by
  induction k generalizing n with
  | zero => omega
  | succ k ih =>
    rw [ofNat]
    split
    · simp
    · next hn =>
      have hk' : 0 < k := by
        apply Nat.pos_of_ne_zero
        rintro rfl
        omega
      -- the digits in front of the last one are those of `n / 10`
      have hfront := ih hk' (show n / 10 < 10 ^ k by rw [Nat.pow_succ] at h; omega)
      simp only [List.length_append, List.length_singleton]
      omega

/-- A numeral other than that of zero has no leading zero. Its first digit is that of the front. -/
theorem head?_ofNat {n : Nat} (h : 0 < n) : (ofNat n).head? ≠ some '0' := by
  induction n using Nat.strongRecOn with
  | ind n ih =>
    rw [ofNat]
    split
    · next hn =>
      have hdigit := toNat_digit hn
      simp only [List.head?_cons, ne_eq, Option.some.injEq]
      intro hzero
      rw [hzero, show ('0' : Char).toNat = 48 from rfl] at hdigit
      omega
    · next hn =>
      have hne := ofNat_ne_nil (n / 10)
      rw [List.head?_append, Option.or_of_isSome (by simpa using hne)]
      exact ih (n / 10) (by omega) (by omega)

/-! ## Integers

The minus sign tells the numerals of negative numbers from the others. Among themselves both kinds
differ as the natural numbers do. -/

/-- Different integers have different numerals. -/
theorem ofInt_injective : Function.Injective ofInt := by
  intro a b h
  cases a with
  | ofNat m =>
    cases b with
    | ofNat n => exact congrArg Int.ofNat (ofNat_injective h)
    | negSucc n =>
      -- with different signs, one numeral would hold the minus sign as a digit
      have hmem : '-' ∈ ofNat m := by
        rw [show ofNat m = '-' :: ofNat (n + 1) from h]
        exact List.mem_cons_self
      exact absurd hmem (not_mem_ofNat (by decide) m)
  | negSucc m =>
    cases b with
    | ofNat n =>
      have hmem : '-' ∈ ofNat n := by
        rw [show ofNat n = '-' :: ofNat (m + 1) from h.symm]
        exact List.mem_cons_self
      exact absurd hmem (not_mem_ofNat (by decide) n)
    | negSucc n =>
      have htail : ofNat (m + 1) = ofNat (n + 1) := List.tail_eq_of_cons_eq h
      have hsucc := ofNat_injective htail
      rw [Int.negSucc.injEq]
      omega

end Numeral
end EchoWatch
