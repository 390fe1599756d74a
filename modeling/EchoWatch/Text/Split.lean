/-!
# Splitting and joining

`split` cuts a text at every occurrence of a separator and keeps the empty pieces; `join` puts the
pieces back together. `split_join` and `join_split` say that the two undo one another on pieces
that do not hold the separator. `cut?` cuts at the first occurrence only.
-/

namespace EchoWatch.Text

/-- The pieces of a text between the occurrences of a separator; there is always at least one. -/
def split (sep : Char) : List Char → List (List Char)
  | [] => [[]]
  | c :: r =>
    if c = sep then [] :: split sep r
    else
      match split sep r with
      | [] => [[c]]
      | piece :: pieces => (c :: piece) :: pieces

/-- Pieces with a separator between any two of them. -/
def join (sep : List Char) : List (List Char) → List Char
  | [] => []
  | [piece] => piece
  | piece :: next :: pieces => piece ++ sep ++ join sep (next :: pieces)

/-- What stands before the first occurrence of a separator, and what stands after it. -/
def cut? (sep : Char) (cs : List Char) : Option (List Char × List Char) :=
  match cs.dropWhile (· ≠ sep) with
  | [] => none
  | _ :: r => some (cs.takeWhile (· ≠ sep), r)

theorem split_ne_nil (sep : Char) (cs : List Char) : split sep cs ≠ [] := by
  cases cs with
  | nil => simp [split]
  | cons c r =>
    unfold split
    split
    · simp
    · split <;> simp

theorem split_append_sep (sep : Char) (piece r : List Char) (h : sep ∉ piece) :
    split sep (piece ++ sep :: r) = piece :: split sep r := by
  induction piece with
  | nil => simp [split]
  | cons c p ih =>
    simp only [List.mem_cons, not_or] at h
    rw [List.cons_append, split, if_neg (fun e => h.1 e.symm), ih h.2]

theorem split_of_not_mem (sep : Char) (piece : List Char) (h : sep ∉ piece) :
    split sep piece = [piece] := by
  induction piece with
  | nil => rfl
  | cons c p ih =>
    simp only [List.mem_cons, not_or] at h
    rw [split, if_neg (fun e => h.1 e.symm), ih h.2]

/-- A text is what its pieces are joined to. -/
theorem join_split (sep : Char) (cs : List Char) : join [sep] (split sep cs) = cs := by
  induction cs with
  | nil => rfl
  | cons c r ih =>
    unfold split
    cases h : split sep r with
    | nil => exact absurd h (split_ne_nil sep r)
    | cons piece pieces =>
      rw [h] at ih
      split
      · next hc => rw [join, ih, hc]; rfl
      · cases pieces with
        | nil => rw [join] at ih ⊢; rw [ih]
        | cons next pieces => rw [join] at ih ⊢; rw [← ih]; rfl

/-- What stands in a piece stands in the text that it is joined to. -/
theorem mem_join_of_mem (sep : List Char) {c : Char} {piece : List Char}
    {pieces : List (List Char)} (hpiece : piece ∈ pieces) (hc : c ∈ piece) :
    c ∈ join sep pieces := by
  induction pieces with
  | nil => exact absurd hpiece List.not_mem_nil
  | cons p ps ih =>
    cases ps with
    | nil =>
      obtain rfl := List.mem_singleton.1 hpiece
      exact hc
    | cons q qs =>
      rw [join]
      rcases List.mem_cons.1 hpiece with rfl | hlater
      · exact List.mem_append_left _ (List.mem_append_left _ hc)
      · exact List.mem_append_right _ (ih hlater)

/-- What stands in a text other than the separator stands in one of its pieces. -/
theorem exists_mem_split_of_mem (sep : Char) {c : Char} {cs : List Char} (h : c ∈ cs)
    (hc : c ≠ sep) : ∃ piece ∈ split sep cs, c ∈ piece := by
  induction cs with
  | nil => exact absurd h List.not_mem_nil
  | cons d r ih =>
    unfold split
    cases hs : split sep r with
    | nil => exact absurd hs (split_ne_nil sep r)
    | cons first pieces =>
      rw [hs] at ih
      rcases List.mem_cons.1 h with rfl | hr
      · rw [if_neg hc]
        exact ⟨c :: first, by simp, by simp⟩
      · obtain ⟨piece, hp, hmem⟩ := ih hr
        split
        · exact ⟨piece, List.mem_cons_of_mem _ hp, hmem⟩
        · rcases List.mem_cons.1 hp with rfl | hp
          · exact ⟨d :: piece, by simp, List.mem_cons_of_mem _ hmem⟩
          · exact ⟨piece, List.mem_cons_of_mem _ hp, hmem⟩

theorem not_mem_of_mem_split (sep : Char) {cs piece : List Char} (h : piece ∈ split sep cs) :
    sep ∉ piece := by
  induction cs generalizing piece with
  | nil => simp_all [split]
  | cons c r ih =>
    unfold split at h
    cases hs : split sep r with
    | nil => exact absurd hs (split_ne_nil sep r)
    | cons first pieces =>
      rw [hs] at h ih
      split at h
      · rcases List.mem_cons.1 h with rfl | h
        · exact List.not_mem_nil
        · exact ih h
      · next hc =>
        rcases List.mem_cons.1 h with rfl | h
        · intro hmem
          rcases List.mem_cons.1 hmem with rfl | hmem
          · exact hc rfl
          · exact ih List.mem_cons_self hmem
        · exact ih (List.mem_cons_of_mem _ h)

/-- A text has two pieces just when the separator stands in it once. -/
theorem split_eq_pair_iff (sep : Char) {cs a b : List Char} :
    split sep cs = [a, b] ↔ cs = a ++ sep :: b ∧ sep ∉ a ∧ sep ∉ b := by
  constructor
  · intro h
    have hjoin := join_split sep cs
    rw [h] at hjoin
    have hpieces : ∀ p ∈ [a, b], sep ∉ p := fun p hp => not_mem_of_mem_split sep (h ▸ hp)
    exact ⟨by rw [← hjoin]; simp [join], hpieces a (by simp), hpieces b (by simp)⟩
  · rintro ⟨rfl, ha, hb⟩
    rw [split_append_sep sep a b ha, split_of_not_mem sep b hb]

/-- Joined pieces come apart again where they were joined. -/
theorem split_join (sep : Char) {pieces : List (List Char)} (hne : pieces ≠ [])
    (h : ∀ p ∈ pieces, sep ∉ p) : split sep (join [sep] pieces) = pieces := by
  induction pieces with
  | nil => exact absurd rfl hne
  | cons p ps ih =>
    cases ps with
    | nil => exact split_of_not_mem sep p (h p (by simp))
    | cons q qs =>
      have hq : ∀ x ∈ q :: qs, sep ∉ x := fun x hx => h x (by simp [hx])
      simp only [join, List.append_assoc, List.singleton_append]
      rw [split_append_sep sep p _ (h p (by simp)), ih (by simp) hq]

/-! ### One cut -/

theorem cut?_cons (sep c : Char) (r : List Char) :
    cut? sep (c :: r) =
      if c = sep then some ([], r) else (cut? sep r).map fun p => (c :: p.1, p.2) := by
  unfold cut?
  by_cases hc : c = sep
  · simp [hc]
  · simp only [List.dropWhile_cons, List.takeWhile_cons, ne_eq, hc, not_false_eq_true,
      decide_true, if_true, if_false]
    cases r.dropWhile fun d => decide (d ≠ sep) <;> rfl

theorem cut?_eq_some_iff (sep : Char) {cs a b : List Char} :
    cut? sep cs = some (a, b) ↔ cs = a ++ sep :: b ∧ sep ∉ a := by
  induction cs generalizing a b with
  | nil => simp [cut?]
  | cons c r ih =>
    rw [cut?_cons]
    by_cases hc : c = sep
    · rw [if_pos hc]
      cases a with
      | nil => simp [hc]
      | cons d a =>
        constructor
        · intro h
          cases h
        · rintro ⟨hcs, hsep⟩
          obtain ⟨rfl, -⟩ := List.cons.inj hcs
          exact absurd (hc ▸ List.mem_cons_self) hsep
    · rw [if_neg hc]
      cases a with
      | nil => simp [hc]
      | cons d a =>
        simp only [Option.map_eq_some_iff, Prod.exists, Prod.mk.injEq, List.cons.injEq, ih,
          List.cons_append, List.mem_cons, not_or]
        constructor
        · rintro ⟨a', b', ⟨rfl, hsep⟩, ⟨rfl, rfl⟩, rfl⟩
          exact ⟨⟨rfl, rfl⟩, fun h => hc h.symm, hsep⟩
        · rintro ⟨⟨rfl, rfl⟩, -, hsep⟩
          exact ⟨a, b, ⟨rfl, hsep⟩, ⟨rfl, rfl⟩, rfl⟩

theorem cut?_of_not_mem (sep : Char) {cs : List Char} (h : sep ∉ cs) : cut? sep cs = none := by
  cases hcut : cut? sep cs with
  | none => rfl
  | some p =>
    obtain ⟨rfl, -⟩ := (cut?_eq_some_iff sep).mp hcut
    exact absurd (by simp) h

end EchoWatch.Text
