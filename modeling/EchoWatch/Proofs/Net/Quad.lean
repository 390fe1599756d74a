import EchoWatch.Net.Quad
import EchoWatch.Proofs.Numeral
/-!
# Dotted quads read back

A dotted quad holds digits and points only, and the one that is written for a 32-bit value reads
back as that value (`read?_write`).
-/

namespace EchoWatch.Net.Quad

/-! ## What a quad is made of -/

/-- An octet consists of digits. -/
theorem not_mem_of_octet? {cs : List Char} {n : Fin 256} (h : octet? cs = some n) {c : Char}
    (hc : Text.isAsciiDigit c = false) : c ∉ cs := by
  unfold octet? at h
  split at h
  · next hcs => exact Text.not_mem_of_all_isAsciiDigit hcs.2.1 hc
  · cases h

/-- A quad consists of digits and points. -/
theorem not_mem_of_read? {cs : List Char} {n : Fin (Nat.pow 2 32)} (h : read? cs = some n)
    {c : Char} (hc : Text.isAsciiDigit c = false) (hpoint : c ≠ '.') : c ∉ cs := by
  intro hmem
  obtain ⟨piece, hpiece, hin⟩ := Text.exists_mem_split_of_mem '.' hmem hpoint
  have hoctet : octet? piece ∈ (Text.split '.' cs).map octet? := List.mem_map_of_mem hpiece
  unfold read? at h
  split at h
  · next a b c d hall =>
    -- the character lies in one of the four pieces, and each of them is an octet
    rw [hall] at hoctet
    have hsome : ∃ k, octet? piece = some k := by
      simp only [List.mem_cons, List.not_mem_nil, or_false] at hoctet
      rcases hoctet with hk | hk | hk | hk <;> exact ⟨_, hk⟩
    obtain ⟨k, hk⟩ := hsome
    exact not_mem_of_octet? hk hc hin
  · cases h

/-! ## Reading what was written -/

/-- The numeral of a number below 256 is an octet: it has at most three digits, and no zero in front
of others. -/
theorem octet?_ofNat {n : Nat} (h : n < 256) : octet? (Numeral.ofNat n) = some ⟨n, h⟩ := by
  have hlength : (Numeral.ofNat n).length ≤ 3 :=
    Numeral.length_ofNat_le (by decide) (show n < 1000 by omega)
  have hlead : Numeral.ofNat n = ['0'] ∨ (Numeral.ofNat n).head? ≠ some '0' := by
    rcases Nat.eq_zero_or_pos n with rfl | hpos
    · left
      rw [Numeral.ofNat]
      rfl
    · exact .inr (Numeral.head?_ofNat hpos)
  have hvalue := Numeral.ofDigitValues_ofNat n
  unfold octet?
  rw [if_pos ⟨Numeral.ofNat_ne_nil n, Numeral.all_isAsciiDigit_ofNat n, hlength, hlead⟩]
  simp only [hvalue, h, dite_true]

/-- The points of a quad are those between its numbers. -/
theorem split_write (n : Nat) : Text.split '.' (write n) =
    [n / 16777216, n / 65536, n / 256, n].map fun k => Numeral.ofNat (k % 256) := by
  apply Text.split_join '.' (by simp)
  intro p hp
  obtain ⟨k, -, rfl⟩ := List.mem_map.mp hp
  exact Numeral.not_mem_ofNat (by decide) _

/-- The numbers of a quad are the digits of its value to the base 256. -/
theorem read?_write {n : Nat} (h : n < Nat.pow 2 32) : read? (write n) = some ⟨n, h⟩ := by
  have hoctet : ∀ k : Nat, octet? (Numeral.ofNat (k % 256)) =
      some ⟨k % 256, Nat.mod_lt k (by decide)⟩ := fun k => octet?_ofNat _
  rw [Nat.pow_eq] at h
  unfold read?
  rw [split_write]
  simp only [List.map_cons, List.map_nil, hoctet, Option.some.injEq, Fin.mk.injEq, ofOctets]
  omega

/-- A quad begins with a digit, hence not with a blank. -/
theorem head?_write (n : Nat) :
    ∃ c, (write n).head? = some c ∧ Text.isBlank c = false := by
  cases hfirst : Numeral.ofNat (n / 16777216 % 256) with
  | nil => exact absurd hfirst (Numeral.ofNat_ne_nil _)
  | cons c r =>
    refine ⟨c, ?_, Numeral.isBlank_of_mem_ofNat (n := n / 16777216 % 256) ?_⟩
    · simp [write, Text.join, hfirst]
    · rw [hfirst]
      exact List.mem_cons_self

end EchoWatch.Net.Quad
