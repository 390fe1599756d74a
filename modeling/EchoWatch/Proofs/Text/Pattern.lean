import Mathlib.Data.List.Basic
/-!
# Patterns

A pattern matches the beginning of a text, often in several ways. It is given here by all of them,
in the order in which a matcher that goes back on its choices tries them: repetitions take as much
as they can at first, what is optional is taken at first, and of two alternatives the left one comes
first. Which way is taken in the end depends on what has to follow.

Which texts a pattern matches (`Recognizes`) does not depend on the order. So a question about the
match that is found can be split: first which matches there are, and then which is the first.
-/

namespace EchoWatch.Text

/-- The ways to match the beginning of a text: what is matched, and the rest of the text. -/
abbrev Pattern := List Char → List (List Char × List Char)

namespace Pattern

def empty : Pattern :=
  fun cs => [([], cs)]

def char (p : Char → Bool) : Pattern
  | c :: r => if p c then [([c], r)] else []
  | [] => []

def many (p : Char → Bool) : Pattern
  | c :: r => (if p c then (many p r).map fun m => (c :: m.1, m.2) else []) ++ [([], c :: r)]
  | [] => [([], [])]

def word (w : List Char) : Pattern :=
  fun cs => if w <+: cs then [(w, cs.drop w.length)] else []

def followedBy (a b : Pattern) : Pattern :=
  fun cs => (a cs).flatMap fun m => (b m.2).map fun n => (m.1 ++ n.1, n.2)

def orElse (a b : Pattern) : Pattern :=
  fun cs => a cs ++ b cs

/-- At least once. -/
def oneOrMore (p : Char → Bool) : Pattern :=
  followedBy (char p) (many p)

def optional (a : Pattern) : Pattern :=
  orElse a empty

/-! ## What is matched -/

/-- A pattern matches the texts of a language and no others, whatever comes after them. -/
def Recognizes (a : Pattern) (L : List Char → Prop) : Prop :=
  ∀ cs x r, (x, r) ∈ a cs ↔ cs = x ++ r ∧ L x

variable {a b : Pattern} {L M : List Char → Prop}

theorem Recognizes.congr (h : a.Recognizes L) (hiff : ∀ x, L x ↔ M x) : a.Recognizes M := by
  intro cs x r
  rw [h cs x r, hiff]

/-- The empty pattern matches the empty text. -/
theorem recognizes_empty : empty.Recognizes (· = []) := by
  intro cs x r
  unfold empty
  rw [List.mem_singleton, Prod.mk.injEq]
  constructor
  · rintro ⟨rfl, rfl⟩
    exact ⟨rfl, rfl⟩
  · rintro ⟨rfl, rfl⟩
    exact ⟨rfl, rfl⟩

/-- A single character is matched if it has the property. -/
theorem recognizes_char (p : Char → Bool) : (char p).Recognizes fun x => ∃ c, p c ∧ x = [c] := by
  intro cs x r
  dsimp only
  cases cs with
  | nil =>
    refine iff_of_false List.not_mem_nil ?_
    -- there is no first character to match
    rintro ⟨happend, c, -, rfl⟩
    cases happend
  | cons d cs =>
    rw [char]
    split
    next hd =>
      rw [List.mem_singleton, Prod.mk.injEq]
      constructor
      · rintro ⟨rfl, rfl⟩
        exact ⟨rfl, d, hd, rfl⟩
      · rintro ⟨happend, c, -, rfl⟩
        cases happend
        exact ⟨rfl, rfl⟩
    next hd =>
      refine iff_of_false List.not_mem_nil ?_
      rintro ⟨happend, c, hc, rfl⟩
      cases happend
      exact hd hc

/-- A repetition matches every run of such characters, not only the longest one. Induction on the
text: either nothing more is matched, or its first character and then a run behind it. -/
theorem recognizes_many (p : Char → Bool) : (many p).Recognizes fun x => ∀ c ∈ x, p c := by
  intro cs
  induction cs with
  | nil =>
    intro x r
    dsimp only
    rw [many, List.mem_singleton, Prod.mk.injEq]
    constructor
    · rintro ⟨rfl, rfl⟩
      exact ⟨rfl, by simp⟩
    · rintro ⟨happend, -⟩
      exact List.nil_eq_append_iff.mp happend
  | cons d cs ih =>
    intro x r
    dsimp only at ih ⊢
    rw [many, List.mem_append, List.mem_singleton, Prod.mk.injEq]
    cases x with
    | nil =>
      have hmore : ([], r) ∉ (if p d then (many p cs).map fun m => (d :: m.1, m.2) else []) := by
        split <;> simp
      rw [or_iff_right hmore]
      constructor
      · rintro ⟨-, rfl⟩
        exact ⟨rfl, by simp⟩
      · rintro ⟨rfl, -⟩
        exact ⟨rfl, rfl⟩
    | cons c x =>
      -- the first character is matched, and the rest is as before
      have hmore : (c :: x, r) ∈ (if p d then (many p cs).map fun m => (d :: m.1, m.2) else []) ↔
          p d ∧ c = d ∧ (x, r) ∈ many p cs := by
        split
        next hd =>
          simp only [List.mem_map, Prod.mk.injEq, List.cons.injEq, hd, true_and]
          constructor
          · rintro ⟨m, hm, ⟨rfl, rfl⟩, rfl⟩
            exact ⟨rfl, hm⟩
          · rintro ⟨rfl, hm⟩
            exact ⟨(x, r), hm, ⟨rfl, rfl⟩, rfl⟩
        next hd => simp [hd]
      rw [hmore, ih x r, List.cons_append, List.cons.injEq, List.forall_mem_cons]
      constructor
      · rintro (⟨hd, rfl, rfl, hx⟩ | ⟨hnil, -⟩)
        · exact ⟨⟨rfl, rfl⟩, hd, hx⟩
        · cases hnil
      · rintro ⟨⟨rfl, rfl⟩, hd, hx⟩
        exact .inl ⟨hd, rfl, rfl, hx⟩

/-- A word matches itself. -/
theorem recognizes_word (w : List Char) : (word w).Recognizes (· = w) := by
  intro cs x r
  unfold word
  split
  next hprefix =>
    obtain ⟨s, rfl⟩ := hprefix
    rw [List.mem_singleton, Prod.mk.injEq, List.drop_left]
    constructor
    · rintro ⟨rfl, rfl⟩
      exact ⟨rfl, rfl⟩
    · rintro ⟨happend, rfl⟩
      exact ⟨rfl, (List.append_cancel_left happend).symm⟩
  next hprefix =>
    simp only [List.not_mem_nil, false_iff]
    rintro ⟨rfl, rfl⟩
    exact hprefix (List.prefix_append x r)

/-- One pattern behind another matches what the first matches with what the second matches behind
it. -/
theorem Recognizes.followedBy (ha : a.Recognizes L) (hb : b.Recognizes M) :
    (followedBy a b).Recognizes fun x => ∃ y z, x = y ++ z ∧ L y ∧ M z := by
  intro cs x r
  unfold Pattern.followedBy
  simp only [List.mem_flatMap, List.mem_map, Prod.mk.injEq]
  constructor
  · rintro ⟨⟨y, mid⟩, hy, ⟨z, rest⟩, hz, rfl, rfl⟩
    -- the rest that the first leaves is the text of the second
    obtain ⟨rfl, hL⟩ := (ha _ _ _).mp hy
    obtain ⟨rfl, hM⟩ := (hb _ _ _).mp hz
    exact ⟨(List.append_assoc _ _ _).symm, y, z, rfl, hL, hM⟩
  · rintro ⟨rfl, y, z, rfl, hL, hM⟩
    rw [List.append_assoc]
    exact ⟨(y, z ++ r), (ha _ _ _).mpr ⟨rfl, hL⟩, (z, r), (hb _ _ _).mpr ⟨rfl, hM⟩, rfl, rfl⟩

/-- Two alternatives match what one of them does. -/
theorem Recognizes.orElse (ha : a.Recognizes L) (hb : b.Recognizes M) :
    (orElse a b).Recognizes fun x => L x ∨ M x := by
  intro cs x r
  unfold Pattern.orElse
  rw [List.mem_append, ha cs x r, hb cs x r, and_or_left]

/-- A repetition that may not be empty. -/
theorem recognizes_oneOrMore (p : Char → Bool) :
    (oneOrMore p).Recognizes fun x => x ≠ [] ∧ ∀ c ∈ x, p c := by
  refine ((recognizes_char p).followedBy (recognizes_many p)).congr fun x => ?_
  constructor
  · rintro ⟨_, z, rfl, ⟨c, hc, rfl⟩, hz⟩
    exact ⟨by simp, by simpa [hc] using hz⟩
  · rintro ⟨hne, hx⟩
    obtain ⟨c, z, rfl⟩ := List.exists_cons_of_ne_nil hne
    rw [List.forall_mem_cons] at hx
    exact ⟨[c], z, rfl, ⟨c, hx.1, rfl⟩, hx.2⟩

theorem Recognizes.optional (ha : a.Recognizes L) :
    (optional a).Recognizes fun x => L x ∨ x = [] :=
  ha.orElse recognizes_empty

end Pattern

/-! ## The first match -/

/-- If only one choice leads any further, it is the one that is made. -/
theorem head?_flatMap_of_unique {α β : Type} {xs : List α} {f : α → List β} {x : α} (hx : x ∈ xs)
    (hunique : ∀ y ∈ xs, f y ≠ [] → y = x) : (xs.flatMap f).head? = (f x).head? := by
  induction xs with
  | nil => cases hx
  | cons y ys ih =>
    rw [List.flatMap_cons]
    by_cases hy : f y = []
    · rw [hy, List.nil_append]
      rcases List.mem_cons.mp hx with rfl | hmem
      · -- nothing comes of the one choice, so nothing comes of any
        have hnone : ys.flatMap f = [] := by
          refine List.flatMap_eq_nil_iff.mpr fun z hz => ?_
          by_contra hne
          obtain rfl := hunique z (List.mem_cons_of_mem _ hz) hne
          exact hne hy
        rw [hnone, hy]
      · exact ih hmem fun z hz => hunique z (List.mem_cons_of_mem _ hz)
    · -- this is the choice, and it does lead further
      obtain rfl := hunique y List.mem_cons_self hy
      rw [List.head?_append_of_ne_nil _ hy]

end EchoWatch.Text
