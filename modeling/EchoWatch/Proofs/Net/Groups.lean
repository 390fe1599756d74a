import EchoWatch.Net.Groups
import EchoWatch.Text.Blank
import Mathlib.Algebra.Group.Nat.Defs
import Mathlib.Data.List.Basic
/-!
# Groups read back

The text of a 128-bit value names its eight groups from left to right, except that one run of zero
groups may be left out for a double colon. Reading fills in as many zeros as are missing, and these
are the ones that were left out.

* **`cutDouble?_joined_append`**: groups with colons between them hold no double colon, and make
  none with what follows them.
* **`read?_spelled`**, **`read?_double`**: groups are read with a double colon and without.
* **`eq_of_longestRun`**: the run that is left out consists of zeros.
* **`readValue?_write`**: the text of a value reads back as that value.
-/

namespace EchoWatch.Net.Groups

/-! ## One group

A group is written without leading zeros, so its numeral has at most the four digits that a group
may have when it is read. -/

/-- A digit that is written has its value when it is read. There are sixteen cases. -/
theorem hexValue?_hexDigit {d : Nat} (h : d < 16) :
    Text.hexValue? (Text.hexDigit d) = some d := by
  have hall : ∀ d : Fin 16, Text.hexValue? (Text.hexDigit d) = some d.val := by decide
  exact hall ⟨d, h⟩

/-- A numeral is made of digits. Induction along the recursion of `hexNumeral`. -/
theorem exists_hexDigit_of_mem {c : Char} {n : Nat} (h : c ∈ hexNumeral n) :
    ∃ d < 16, c = Text.hexDigit d := by
  induction n using Nat.strongRecOn with
  | ind n ih =>
    rw [hexNumeral] at h
    split at h
    · next hn => exact ⟨n, hn, List.mem_singleton.mp h⟩
    · next hn =>
      rcases List.mem_append.mp h with hfront | hlast
      · exact ih (n / 16) (by omega) hfront
      · exact ⟨n % 16, Nat.mod_lt n (by decide), List.mem_singleton.mp hlast⟩

/-- What stands between groups, or behind them, is no digit of them. -/
theorem not_mem_hexNumeral {c : Char} (hc : Text.hexValue? c = none) (n : Nat) :
    c ∉ hexNumeral n := by
  intro h
  obtain ⟨d, hd, rfl⟩ := exists_hexDigit_of_mem h
  rw [hexValue?_hexDigit hd] at hc
  cases hc

theorem hexNumeral_ne_nil (n : Nat) : hexNumeral n ≠ [] := by
  rw [hexNumeral]
  split <;> simp

/-- A number below a power of sixteen has no more digits than the power says. -/
theorem length_hexNumeral_le {n k : Nat} (hk : 0 < k) (h : n < 16 ^ k) :
    (hexNumeral n).length ≤ k := by
  induction k generalizing n with
  | zero => omega
  | succ k ih =>
    rw [hexNumeral]
    split
    · simp
    · next hn =>
      have hk' : 0 < k := by
        apply Nat.pos_of_ne_zero
        rintro rfl
        omega
      -- the digits in front of the last one are those of `n / 16`
      have hfront := ih hk' (show n / 16 < 16 ^ k by rw [Nat.pow_succ] at h; omega)
      simp only [List.length_append, List.length_singleton]
      omega

/-- Read digit by digit, a numeral has the value of its number. -/
theorem mapM_hexNumeral (n : Nat) :
    ∃ ds, (hexNumeral n).mapM Text.hexValue? = some ds ∧ Text.ofDigitValues 16 ds = n := by
  induction n using Nat.strongRecOn with
  | ind n ih =>
    rw [hexNumeral]
    split
    · next hn =>
      refine ⟨[n], ?_, ?_⟩
      · simp [hexValue?_hexDigit hn]
      · simp [Text.ofDigitValues]
    · next hn =>
      obtain ⟨ds, hds, hvalue⟩ := ih (n / 16) (by omega)
      -- the last digit is added to the value of the others
      refine ⟨ds ++ [n % 16], ?_, ?_⟩
      · simp [hds, hexValue?_hexDigit (Nat.mod_lt n (by decide : 0 < 16))]
      · rw [Text.ofDigitValues] at hvalue ⊢
        rw [List.foldl_append, hvalue]
        show 16 * (n / 16) + n % 16 = n
        omega

/-- A group is read from its numeral. -/
theorem group?_hexNumeral (g : Fin 65536) : group? (hexNumeral g) = some g := by
  have hlength : (hexNumeral g).length ≤ 4 :=
    length_hexNumeral_le (by decide) (show g.val < 65536 from g.isLt)
  obtain ⟨ds, hds, hvalue⟩ := mapM_hexNumeral g
  unfold group?
  rw [if_pos ⟨hexNumeral_ne_nil g, hlength⟩]
  simp only [hds, hvalue, g.isLt, dite_true]

/-! ## Groups with colons between them

A double colon is looked for before anything is split. So it matters where colons stand: each one is
between two numerals, and numerals are not empty. -/

def numerals (gs : List (Fin 65536)) : List (List Char) :=
  gs.map fun g => hexNumeral g.val

/-- The text of some groups, all of them written out. -/
def spelled (gs : List (Fin 65536)) : List Char :=
  joined (gs.map Fin.val)

theorem joined_cons (g h : Nat) (gs : List Nat) :
    joined (g :: h :: gs) = hexNumeral g ++ ':' :: joined (h :: gs) := by
  simp [joined, Text.join]

/-- Joined groups begin with a digit. -/
theorem head?_joined {gs : List Nat} (h : gs ≠ []) :
    ∃ d < 16, (joined gs).head? = some (Text.hexDigit d) := by
  cases gs with
  | nil => exact absurd rfl h
  | cons g gs =>
    cases hfirst : hexNumeral g with
    | nil => exact absurd hfirst (hexNumeral_ne_nil g)
    | cons c r =>
      obtain ⟨d, hd, rfl⟩ := exists_hexDigit_of_mem (n := g)
        (by rw [hfirst]; exact List.mem_cons_self)
      refine ⟨d, hd, ?_⟩
      cases gs with
      | nil => simp [joined, Text.join, hfirst]
      | cons h gs => simp [joined_cons, hfirst]

/-- Joined groups hold digits and colons only. -/
theorem not_mem_joined {c : Char} (hc : Text.hexValue? c = none) (hcolon : c ≠ ':')
    (gs : List Nat) : c ∉ joined gs := by
  cases gs with
  | nil => exact List.not_mem_nil
  | cons g gs =>
    intro hmem
    -- the character would be in one of the numerals
    obtain ⟨piece, hpiece, hin⟩ := Text.exists_mem_split_of_mem ':' hmem hcolon
    have hsplit : Text.split ':' (joined (g :: gs)) = (g :: gs).map hexNumeral := by
      apply Text.split_join ':' (by simp)
      intro p hp
      obtain ⟨k, -, rfl⟩ := List.mem_map.mp hp
      exact not_mem_hexNumeral (by decide) k
    rw [hsplit] at hpiece
    obtain ⟨k, -, rfl⟩ := List.mem_map.mp hpiece
    exact not_mem_hexNumeral hc k hin

/-- At the colons, joined groups fall apart into their numerals again. -/
theorem split_spelled {gs : List (Fin 65536)} (h : gs ≠ []) :
    Text.split ':' (spelled gs) = numerals gs := by
  have hpieces : spelled gs = Text.join [':'] (numerals gs) := by
    rw [spelled, joined, List.map_map]
    rfl
  rw [hpieces]
  apply Text.split_join ':' (by simpa [numerals] using h)
  intro p hp
  obtain ⟨g, -, rfl⟩ := List.mem_map.mp hp
  exact not_mem_hexNumeral (by decide) _

theorem spelled_ne_nil {gs : List (Fin 65536)} (h : gs ≠ []) : spelled gs ≠ [] := by
  have hvalues : gs.map Fin.val ≠ [] := by simpa using h
  obtain ⟨d, -, hd⟩ := head?_joined hvalues
  intro hnil
  rw [spelled] at hnil
  rw [hnil] at hd
  cases hd

/-- The numerals of some groups are read as these groups. -/
theorem ofPieces?_numerals (gs : List (Fin 65536)) : ofPieces? (numerals gs) = some gs := by
  induction gs with
  | nil => rfl
  | cons g gs ih =>
    cases gs with
    | nil =>
      -- the last piece might be a quad, but a numeral holds no point
      have hpoint : '.' ∉ hexNumeral g := not_mem_hexNumeral (by decide) _
      simp [numerals, ofPieces?, hpoint, group?_hexNumeral]
    | cons h gs =>
      show ofPieces? (hexNumeral g :: numerals (h :: gs)) = some (g :: h :: gs)
      rw [ofPieces?, group?_hexNumeral, ih]
      exact fun hnil => List.cons_ne_nil _ _ hnil

theorem mapM_numerals (gs : List (Fin 65536)) : (numerals gs).mapM group? = some gs := by
  unfold numerals
  induction gs with
  | nil => rfl
  | cons g gs ih => simp [group?_hexNumeral, ih]

/-- The groups in front of a double colon are read as they are written, also if there are none. -/
theorem leading?_spelled (gs : List (Fin 65536)) : leading? (spelled gs) = some gs := by
  unfold leading?
  cases gs with
  | nil => rfl
  | cons g gs =>
    rw [if_neg (spelled_ne_nil (List.cons_ne_nil g gs)), split_spelled (List.cons_ne_nil g gs),
      mapM_numerals]

theorem trailing?_spelled (gs : List (Fin 65536)) : trailing? (spelled gs) = some gs := by
  unfold trailing?
  cases gs with
  | nil => rfl
  | cons g gs =>
    rw [if_neg (spelled_ne_nil (List.cons_ne_nil g gs)), split_spelled (List.cons_ne_nil g gs),
      ofPieces?_numerals]

/-! ## The double colon -/

theorem cutDouble?_append {piece : List Char} (h : ':' ∉ piece) (r : List Char) :
    cutDouble? (piece ++ r) = (cutDouble? r).map fun p => (piece ++ p.1, p.2) := by
  induction piece with
  | nil => simp
  | cons c piece ih =>
    rw [List.mem_cons, not_or] at h
    have hc : c ≠ ':' := fun hc => h.1 hc.symm
    simp [cutDouble?, hc, ih h.2, Function.comp_def]

/-- A single colon in front of something else is passed over. -/
theorem cutDouble?_colon {c : Char} (hc : c ≠ ':') (r : List Char) :
    cutDouble? (':' :: c :: r) = (cutDouble? (c :: r)).map fun p => (':' :: p.1, p.2) := by
  simp [cutDouble?, hc]

/-- Induction on the groups: a numeral is passed over, then the colon behind it, because the next
numeral starts with a digit. -/
theorem cutDouble?_joined_append (gs : List Nat) (r : List Char) :
    cutDouble? (joined gs ++ r) = (cutDouble? r).map fun p => (joined gs ++ p.1, p.2) := by
  induction gs with
  | nil => simp [joined, Text.join]
  | cons g gs ih =>
    cases gs with
    | nil =>
      rw [show joined [g] = hexNumeral g from rfl]
      exact cutDouble?_append (not_mem_hexNumeral (by decide) g) r
    | cons h gs =>
      obtain ⟨d, hd, hfirst⟩ := head?_joined (List.cons_ne_nil h gs)
      obtain ⟨rest, hrest⟩ := List.head?_eq_some_iff.mp hfirst
      -- the next numeral begins with a digit, so its colon is a single one
      have hcolon : Text.hexDigit d ≠ ':' := by
        intro hcolon
        have hvalue := hexValue?_hexDigit hd
        rw [hcolon, show Text.hexValue? ':' = none by decide] at hvalue
        cases hvalue
      rw [joined_cons, List.append_assoc, cutDouble?_append (not_mem_hexNumeral (by decide) g)]
      rw [List.cons_append, hrest, List.cons_append, cutDouble?_colon hcolon, ← List.cons_append,
        ← hrest, ih]
      simp [Function.comp_def]

/-- Groups that are all written out are read again: they hold no double colon. -/
theorem read?_spelled {gs : List (Fin 65536)} (h : gs ≠ []) : read? (spelled gs) = some gs := by
  have hcut : cutDouble? (spelled gs) = none := by
    have hjoined := cutDouble?_joined_append (gs.map Fin.val) []
    rwa [List.append_nil] at hjoined
  unfold read?
  rw [hcut]
  dsimp only
  rw [split_spelled h, ofPieces?_numerals]

/-- Groups on both sides of a double colon, with room for more between them. -/
theorem read?_double {before after : List (Fin 65536)}
    (h : 0 < 8 - (before.length + after.length)) :
    read? (spelled before ++ ':' :: ':' :: spelled after) =
      some (before ++ List.replicate (8 - (before.length + after.length)) 0 ++ after) := by
  have hcut : cutDouble? (spelled before ++ ':' :: ':' :: spelled after) =
      some (spelled before, spelled after) := by
    rw [spelled, cutDouble?_joined_append, show cutDouble? (':' :: ':' :: spelled after) =
      some ([], spelled after) from rfl, Option.map_some, List.append_nil]
  unfold read?
  rw [hcut]
  dsimp only
  rw [leading?_spelled, trailing?_spelled]
  dsimp only
  rw [if_pos (by omega)]

/-! ## The run that is left out

Only two things about the search matter for reading back: the run that it finds consists of zeros,
and it lies within the groups. That there is no longer one does not matter. -/

/-- What begins with some zeros begins with a list of them. -/
theorem take_eq_replicate {gs : List Nat} {k : Nat} (h : k ≤ leadingZeros gs) :
    gs.take k = List.replicate k 0 := by
  induction gs generalizing k with
  | nil =>
    obtain rfl : k = 0 := Nat.le_zero.mp h
    rfl
  | cons g gs ih =>
    cases k with
    | zero => rfl
    | succ k =>
      rw [leadingZeros, List.takeWhile_cons] at h
      split at h
      · next hg =>
        rw [List.take_succ_cons, List.replicate_succ, ih (Nat.le_of_succ_le_succ h),
          beq_iff_eq.mp hg]
      · exact absurd h (by simp)

/-- Each run that the search passes over is one of zeros, and so is the one it ends with. -/
theorem longestRun_le (gs : List Nat) :
    (longestRun gs).2 ≤ leadingZeros (gs.drop (longestRun gs).1) := by
  -- no induction: the invariant holds of the pair that the search starts with and of each it takes
  refine List.foldlRecOn
    (motive := fun best : Nat × Nat => best.2 ≤ leadingZeros (gs.drop best.1)) _ _ ?_ ?_
  · exact Nat.zero_le _
  · intro best hbest i _
    split
    · exact Nat.le_refl _
    · exact hbest

/-- The run that is left out lies within the groups. -/
theorem longestRun_le_length (gs : List Nat) :
    (longestRun gs).2 ≤ gs.length - (longestRun gs).1 := by
  calc (longestRun gs).2
      ≤ leadingZeros (gs.drop (longestRun gs).1) := longestRun_le gs
    _ ≤ (gs.drop (longestRun gs).1).length := (List.takeWhile_sublist _).length_le
    _ = gs.length - (longestRun gs).1 := List.length_drop

/-- **The run that is left out consists of zeros**: with as many zeros in its place the list is the
same. -/
theorem eq_of_longestRun (gs : List Nat) :
    gs.take (longestRun gs).1 ++ List.replicate (longestRun gs).2 0
      ++ gs.drop ((longestRun gs).1 + (longestRun gs).2) = gs := by
  rw [← take_eq_replicate (longestRun_le gs), List.append_assoc, ← List.drop_drop,
    List.take_append_drop, List.take_append_drop]

/-! ## Values -/

/-- The eight groups of a value. -/
def groupsOf (n : Nat) : List (Fin 65536) :=
  (List.range 8).map fun i => ⟨n / Nat.pow 65536 (7 - i) % 65536, Nat.mod_lt _ (by decide)⟩

theorem map_groupsOf (n : Nat) : (groupsOf n).map Fin.val = ofValue n := by
  rw [groupsOf, List.map_map]
  rfl

/-- The value of eight groups is put together from them. -/
theorem value_groupsOf {n : Nat} (h : n < 2 ^ 128) : value (groupsOf n) = n := by
  simp only [value, groupsOf, List.range_succ, List.range_zero, List.map_nil, List.map_cons,
    List.nil_append, List.cons_append, List.foldl_cons, List.foldl_nil, Nat.pow_eq]
  omega

/-- The groups of a value, with the longest run of zeros cut out and put back. -/
theorem groupsOf_eq (n : Nat) :
    (groupsOf n).take (longestRun (ofValue n)).1 ++ List.replicate (longestRun (ofValue n)).2 0
      ++ (groupsOf n).drop ((longestRun (ofValue n)).1 + (longestRun (ofValue n)).2) =
        groupsOf n := by
  apply List.map_injective_iff.mpr fun a b h => Fin.ext h
  rw [List.map_append, List.map_append, List.map_take, List.map_drop, List.map_replicate,
    map_groupsOf]
  exact eq_of_longestRun (ofValue n)

/-- **The text of a value is read as its groups**, whether a run of zeros was left out or not. -/
theorem read?_write (n : Nat) : read? (write n) = some (groupsOf n) := by
  have hlength : (groupsOf n).length = 8 := by simp [groupsOf]
  have hshort := longestRun_le_length (ofValue n)
  rw [show (ofValue n).length = 8 by simp [ofValue]] at hshort
  unfold write
  dsimp only
  split
  · next hrun =>
    -- no run is worth a double colon
    rw [← map_groupsOf]
    exact read?_spelled (List.ne_nil_of_length_pos (by omega))
  · next hrun =>
    -- the groups before the run and those behind it are read, and the zeros in between filled in
    let start := (longestRun (ofValue n)).1
    let stop := start + (longestRun (ofValue n)).2
    have hbefore : joined ((ofValue n).take start) = spelled ((groupsOf n).take start) := by
      rw [spelled, List.map_take, map_groupsOf]
    have hafter : joined ((ofValue n).drop stop) = spelled ((groupsOf n).drop stop) := by
      rw [spelled, List.map_drop, map_groupsOf]
    have hmissing : 8 - (((groupsOf n).take start).length + ((groupsOf n).drop stop).length) =
        (longestRun (ofValue n)).2 := by
      rw [List.length_take, List.length_drop, hlength]
      omega
    rw [hbefore, hafter, read?_double (by omega), hmissing]
    exact congrArg some (groupsOf_eq n)

theorem readValue?_write {n : Nat} (h : n < Nat.pow 2 128) :
    readValue? (write n) = some ⟨n, h⟩ := by
  have hlength : (groupsOf n).length = 8 := by simp [groupsOf]
  unfold readValue?
  simp only [read?_write, hlength, dite_true, value_groupsOf h]

/-! ## What the text is made of

Addresses stand beside slashes, per cent signs and blanks, and must not be mistaken for quads. -/

theorem not_mem_write {c : Char} (hc : Text.hexValue? c = none) (hcolon : c ≠ ':') (n : Nat) :
    c ∉ write n := by
  unfold write
  dsimp only
  split
  · exact not_mem_joined hc hcolon _
  · simp only [List.mem_append, List.mem_cons, not_or]
    exact ⟨not_mem_joined hc hcolon _, hcolon, hcolon, not_mem_joined hc hcolon _⟩

/-- There is a colon in the text of every value, so no such text is a quad. -/
theorem colon_mem_write (n : Nat) : ':' ∈ write n := by
  unfold write
  dsimp only
  split
  · rw [show ofValue n = n / Nat.pow 65536 7 % 65536 :: n / Nat.pow 65536 6 % 65536 ::
      (ofValue n).drop 2 from rfl, joined_cons]
    simp
  · simp

theorem isBlank_hexDigit {d : Nat} (h : d < 16) : Text.isBlank (Text.hexDigit d) = false := by
  have hall : ∀ d : Fin 16, Text.isBlank (Text.hexDigit d) = false := by decide
  exact hall ⟨d, h⟩

theorem head?_write (n : Nat) : ∃ c, (write n).head? = some c ∧ Text.isBlank c = false := by
  unfold write
  dsimp only
  split
  · have hgroups : ofValue n ≠ [] := by simp [ofValue]
    obtain ⟨d, hd, hfirst⟩ := head?_joined hgroups
    exact ⟨_, hfirst, isBlank_hexDigit hd⟩
  · by_cases hstart : (ofValue n).take (longestRun (ofValue n)).1 = []
    · rw [hstart]
      exact ⟨':', rfl, by decide⟩
    · obtain ⟨d, hd, hfirst⟩ := head?_joined hstart
      refine ⟨_, ?_, isBlank_hexDigit hd⟩
      rw [List.head?_append, hfirst]
      rfl

end EchoWatch.Net.Groups
