import EchoWatch.Proofs.Time.Grammar
import Mathlib.Data.List.TakeWhile
/-!
# Scanning durations

The loop of the reader takes the first match of the pattern from the text and goes on with the rest.
What it has taken after some steps, and what is left then, is the relation `Scans`. Each step makes
the text shorter, so there is a last one (`exists_scans`), and since the match is determined, every
other run is a beginning of that longest one (`Scans.isPrefix`).

* **`scans_nil_iff`**: nothing is left just when the text is made of the parts that were taken.
* **`parts?_eq_some_iff`**: the same for the reader of all parts.
-/

namespace EchoWatch.Duration

open Text (isDigit)

/-! ## The loop

A step of the loop has no choice, so two runs over one text differ only in how far they have come.
The loop comes to its end because parts are not empty. -/

/-- Some steps of the loop over a text: the parts that are taken, and what is left. -/
inductive Scans : (cs : List Char) → (taken : List Lexeme) → (left : List Char) → Prop where
  | here (cs : List Char) : Scans cs [] cs
  | next {cs rest left : List Char} {l : Lexeme} {ls : List Lexeme}
      (hfirst : first? cs = some (l, rest)) (hrest : Scans rest ls left) : Scans cs (l :: ls) left

theorem isPart_of_first? {cs r : List Char} {l : Lexeme} (h : first? cs = some (l, r)) :
    l.IsPart ∧ cs = l.text ++ r :=
  mem_partMatches.mp (List.mem_of_head? h)

/-- A part takes something of the text away, so that the loop ends. -/
theorem length_text_pos {l : Lexeme} (hl : l.IsPart) : 0 < l.text.length := by
  have hnumber := List.length_pos_iff.mpr hl.1.ne_nil
  rw [Lexeme.text, List.length_append]
  omega

/-- What was taken and what is left make up the text. -/
theorem Scans.eq_append {cs left : List Char} {ls : List Lexeme} (h : Scans cs ls left) :
    (∀ l ∈ ls, l.IsPart) ∧ cs = ls.flatMap Lexeme.text ++ left := by
  induction h with
  | here cs => exact ⟨fun l hl => absurd hl List.not_mem_nil, rfl⟩
  | next hfirst _ ih =>
    obtain ⟨hl, rfl⟩ := isPart_of_first? hfirst
    obtain ⟨hls, rfl⟩ := ih
    refine ⟨List.forall_mem_cons.mpr ⟨hl, hls⟩, ?_⟩
    rw [List.flatMap_cons, List.append_assoc]

/-- There are no more parts than characters, which bounds the number of steps. -/
theorem Scans.length_le {cs left : List Char} {ls : List Lexeme} (h : Scans cs ls left) :
    ls.length ≤ cs.length := by
  induction h with
  | here cs => exact Nat.zero_le _
  | next hfirst _ ih =>
    obtain ⟨hl, rfl⟩ := isPart_of_first? hfirst
    have hpos := length_text_pos hl
    rw [List.length_cons, List.length_append]
    omega

/-- The loop comes to an end: after some steps nothing is found any more. -/
theorem exists_scans (cs : List Char) : ∃ ls left, Scans cs ls left ∧ first? left = none := by
  -- induction on the length of the text, of which each step takes something away
  induction hlength : cs.length using Nat.strongRecOn generalizing cs with
  | ind n ih =>
    subst hlength
    cases hfirst : first? cs with
    | none => exact ⟨[], cs, .here cs, hfirst⟩
    | some m =>
      obtain ⟨l, rest⟩ := m
      have hshorter : rest.length < cs.length := by
        obtain ⟨hl, rfl⟩ := isPart_of_first? hfirst
        have hpos := length_text_pos hl
        rw [List.length_append]
        omega
      obtain ⟨ls, left, hscans, hend⟩ := ih rest.length hshorter rest rfl
      exact ⟨l :: ls, left, .next hfirst hscans, hend⟩

/-- A run that cannot go on is the longest one. Induction on this run, whose steps the other one
shares. -/
theorem Scans.isPrefix {cs left left' : List Char} {ls ls' : List Lexeme} (h : Scans cs ls left)
    (hend : first? left = none) (h' : Scans cs ls' left') : ls' <+: ls := by
  induction h generalizing ls' with
  | here cs =>
    cases h' with
    | here => exact List.prefix_refl []
    | next hfirst _ => cases hend.symm.trans hfirst
  | next hfirst _ ih =>
    cases h' with
    | here => exact List.nil_prefix
    | next hfirst' hrest' =>
      cases hfirst.symm.trans hfirst'
      exact (List.prefix_cons_inj _).mpr (ih hend hrest')

theorem first?_nil : first? [] = none := by
  refine first?_eq_none fun n r happend hn => ?_
  exact absurd (List.nil_eq_append_iff.mp happend).1 hn.ne_nil

/-- Parts are taken one by one from a text that is made of them. -/
theorem Spells.scans {cs : List Char} {ls : List Lexeme} (h : Spells ls cs) : Scans cs ls [] := by
  obtain ⟨hls, rfl⟩ := h
  induction ls with
  | nil => exact .here []
  | cons l ls ih =>
    rw [List.forall_mem_cons] at hls
    rw [List.flatMap_cons]
    exact .next (first?_text_append hls.1 (starts_flatMap hls.2)) (ih hls.2)

/-- **Nothing is left** just when the text is made of the parts that were taken. -/
theorem scans_nil_iff {cs : List Char} {ls : List Lexeme} : Scans cs ls [] ↔ Spells ls cs := by
  constructor
  · intro h
    obtain ⟨hls, happend⟩ := h.eq_append
    rw [List.append_nil] at happend
    exact ⟨hls, happend⟩
  · exact Spells.scans

/-! ## One part

The reader of a part takes digits, a point and digits without any going back. That it finds what the
pattern finds first is shown from both sides: `readNumber_append` for texts that begin with a
number, and `exists_of_readNumber` for what was read. -/

theorem isDigit_of_mem_leadingDigits {cs : List Char} : ∀ c ∈ leadingDigits cs, isDigit c :=
  fun _ hc => List.mem_takeWhile_imp hc

theorem leadingDigits_append_afterDigits (cs : List Char) :
    leadingDigits cs ++ afterDigits cs = cs :=
  List.takeWhile_append_dropWhile

/-- Where no number goes on, no digits do. -/
theorem Stops.isDigit {r : List Char} (hr : Stops r) :
    ∀ c, r.head? = some c → isDigit c = false := by
  intro c hc
  have hnumeral := hr c hc
  rw [isNumeral, Bool.or_eq_false_iff] at hnumeral
  exact hnumeral.1

theorem leadingDigits_append {ds r : List Char} (hds : ∀ c ∈ ds, isDigit c)
    (hr : ∀ c, r.head? = some c → isDigit c = false) : leadingDigits (ds ++ r) = ds :=
  takeWhile_append_of_stop hds hr

theorem afterDigits_append {ds r : List Char} (hds : ∀ c ∈ ds, isDigit c)
    (hr : ∀ c, r.head? = some c → isDigit c = false) : afterDigits (ds ++ r) = r :=
  dropWhile_append_of_stop hds hr

theorem head?_point {r : List Char} : ∀ c, ('.' :: r).head? = some c → isDigit c = false := by
  rintro c hc
  obtain rfl : '.' = c := Option.some.inj hc
  exact isDigit_point

theorem afterDigits_of_all {ds : List Char} (hds : ∀ c ∈ ds, isDigit c) : afterDigits ds = [] :=
  List.dropWhile_eq_nil_iff.mpr hds

theorem afterDigits_point (r : List Char) : afterDigits ('.' :: r) = '.' :: r :=
  afterDigits_append (List.forall_mem_nil _) head?_point

/-- A complete number is read as it stands: the digits on both sides of the point, how many there
are behind it, and the rest. By cases on how the number is written. -/
theorem readNumber_append {n r : List Char} (hn : IsNumber n) (hr : Stops r) :
    ∃ whole fraction, readNumber (n ++ r) = some (whole, fraction, r) ∧
      (whole ++ fraction).filterMap Text.digitValue? = n.filterMap Text.digitValue? ∧
      fraction.length = (afterDigits n).tail.length := by
  have hpoint : Text.digitValue? '.' = none := by decide
  cases hn with
  -- digits alone: what follows is no point, so the number ends here
  | whole hne hds =>
    refine ⟨n, [], ?_, by rw [List.append_nil], by rw [afterDigits_of_all hds]; rfl⟩
    unfold readNumber
    rw [afterDigits_append hds hr.isDigit, leadingDigits_append hds hr.isDigit]
    split
    next r' =>
      exact absurd (hr '.' rfl) (by decide)
    next => rw [if_neg hne]
  -- digits on both sides of a point
  | @pointed ds fs hne hds hfs =>
    refine ⟨ds, fs, ?_, ?_, by rw [afterDigits_append hds head?_point]; rfl⟩
    · unfold readNumber
      rw [List.append_assoc, List.cons_append, afterDigits_append hds head?_point,
        leadingDigits_append hds head?_point]
      show (if _ then none else _) = _
      rw [leadingDigits_append hfs hr.isDigit, afterDigits_append hfs hr.isDigit,
        if_neg fun h => hne h.1]
    · rw [List.filterMap_append, List.filterMap_append, List.filterMap_cons_none hpoint]
  -- a point in front: there are no digits to take before it
  | @fraction fs hne hfs =>
    have hleading (r : List Char) : leadingDigits ('.' :: r) = [] :=
      leadingDigits_append (List.forall_mem_nil _) head?_point
    refine ⟨[], fs, ?_, ?_, by rw [afterDigits_point]; rfl⟩
    · unfold readNumber
      rw [List.cons_append, afterDigits_point, hleading]
      show (if _ then none else _) = _
      rw [leadingDigits_append hfs hr.isDigit, afterDigits_append hfs hr.isDigit,
        if_neg fun h => hne h.2]
    · rw [List.nil_append, List.filterMap_cons_none hpoint]

/-- What is read of a number is one, with the rest of the text behind it. -/
theorem exists_of_readNumber {cs whole fraction r : List Char}
    (h : readNumber cs = some (whole, fraction, r)) : ∃ n, cs = n ++ r ∧ IsNumber n := by
  have hcs := leadingDigits_append_afterDigits cs
  unfold readNumber at h
  split at h
  next r' hafter =>
    have hr' := leadingDigits_append_afterDigits r'
    rw [hafter] at hcs
    split at h
    · cases h
    next hdigits =>
      simp only [Option.some.injEq, Prod.mk.injEq] at h
      obtain ⟨-, -, rfl⟩ := h
      -- the point may be the first character
      by_cases hwhole : leadingDigits cs = []
      · refine ⟨'.' :: leadingDigits r', ?_, ?_⟩
        · rw [List.cons_append, hr', ← hcs, hwhole]
          rfl
        · exact .fraction (fun hnil => hdigits ⟨hwhole, hnil⟩) isDigit_of_mem_leadingDigits
      · refine ⟨leadingDigits cs ++ '.' :: leadingDigits r', ?_, ?_⟩
        · rw [List.append_assoc, List.cons_append, hr', hcs]
        · exact .pointed hwhole isDigit_of_mem_leadingDigits isDigit_of_mem_leadingDigits
  next r' =>
    split at h
    · cases h
    next hwhole =>
      simp only [Option.some.injEq, Prod.mk.injEq] at h
      obtain ⟨-, -, rfl⟩ := h
      exact ⟨leadingDigits cs, hcs.symm, .whole hwhole isDigit_of_mem_leadingDigits⟩

/-- The reader of units finds the unit that is tried first and matches. By cases on the beginning of
the text, as the reader goes. -/
theorem readUnit_eq (r : List Char) :
    readUnit r = (unitMatches r).head?.map fun u => (u.1.2, u.2) := by
  have hno : ∀ w : List Char, (∀ r', ¬ r = w ++ r') → Text.Pattern.word w r = [] := by
    intro w hw
    rw [Text.Pattern.word, if_neg]
    rintro ⟨r', hr'⟩
    exact hw r' hr'.symm
  unfold readUnit
  split
  case h_7 r' hsecond =>
    -- minutes: the only other unit that begins so is excluded by what follows
    have hprefix : ¬ ['s'] <+: r' := by
      rintro ⟨r'', rfl⟩
      exact hsecond r'' rfl
    simp [unitMatches, spellings, Text.Pattern.word, List.cons_prefix_cons, hprefix]
  case h_9 =>
    simp_all [unitMatches, spellings]
  all_goals simp [unitMatches, spellings, Text.Pattern.word, List.cons_prefix_cons]

/-- Behind its number, a part is read as its unit is. -/
theorem readPart_of_readNumber {cs whole fraction r : List Char}
    (h : readNumber cs = some (whole, fraction, r)) :
    readPart cs = (readUnit r).map fun u =>
      (⟨(whole ++ fraction).filterMap Text.digitValue?, fraction.length, u.1⟩, u.2) := by
  cases hunit : readUnit r <;> simp only [readPart, h, hunit, Option.map_none, Option.map_some]

/-- **The reader of a part finds what the pattern finds first**, and nothing where the pattern finds
nothing. -/
theorem readPart_eq (cs : List Char) :
    readPart cs = (first? cs).map fun m => (m.1.part, m.2) := by
  -- does the text begin with a complete number?
  by_cases hnumber : ∃ n r, cs = n ++ r ∧ IsNumber n ∧ Stops r
  · obtain ⟨n, r, rfl, hn, hr⟩ := hnumber
    obtain ⟨whole, fraction, hread, hdigits, hplaces⟩ := readNumber_append hn hr
    rw [first?_append hn hr, readPart_of_readNumber hread, readUnit_eq, hdigits, hplaces,
      Option.map_map, Option.map_map]
    rfl
  · rw [first?_eq_none fun n r happend hn hr => hnumber ⟨n, r, happend, hn, hr⟩]
    cases hread : readNumber cs with
    | none => rw [readPart, hread, Option.map_none]
    | some m =>
      obtain ⟨whole, fraction, r⟩ := m
      obtain ⟨n, happend, hn⟩ := exists_of_readNumber hread
      -- if a unit followed, the number would end here
      have hunit : unitMatches r = [] := by
        by_contra hne
        exact hnumber ⟨n, r, happend, hn, stops_of_unitMatches hne⟩
      rw [readPart_of_readNumber hread, readUnit_eq, hunit]
      rfl

/-! ## All parts

The reader of all parts is the loop, provided that in the end nothing is left. -/

theorem parts?_nil : parts? [] = some [] := by
  rw [parts?]

/-- One step of the reader of all parts, in terms of the pattern. -/
theorem parts?_of_ne_nil {cs : List Char} (hne : cs ≠ []) :
    parts? cs = (first? cs).bind fun m => (parts? m.2).map (m.1.part :: ·) := by
  obtain ⟨c, r, rfl⟩ := List.exists_cons_of_ne_nil hne
  rw [parts?]
  split
  next hread =>
    rw [readPart_eq, Option.map_eq_none_iff] at hread
    rw [hread]
    rfl
  next p rest hread =>
    rw [readPart_eq, Option.map_eq_some_iff] at hread
    obtain ⟨m, hfirst, hm⟩ := hread
    obtain ⟨rfl, rfl⟩ := Prod.mk.inj hm
    rw [hfirst]
    rfl

/-- Steps of the loop are steps of the reader. -/
theorem parts?_of_scans {cs left : List Char} {ls : List Lexeme} (h : Scans cs ls left) :
    parts? cs = (parts? left).map (ls.map Lexeme.part ++ ·) := by
  induction h with
  | here cs => simp
  | @next cs rest left l ls hfirst _ ih =>
    have hne : cs ≠ [] := by
      rintro rfl
      cases first?_nil.symm.trans hfirst
    rw [parts?_of_ne_nil hne, hfirst]
    show (parts? rest).map _ = _
    rw [ih, Option.map_map]
    rfl

/-- **The parts that are read** are those that the text is made of. -/
theorem parts?_eq_some_iff {cs : List Char} {ps : List Part} :
    parts? cs = some ps ↔ ∃ ls, Spells ls cs ∧ ps = ls.map Lexeme.part := by
  constructor
  · intro h
    obtain ⟨ls, left, hscans, hend⟩ := exists_scans cs
    rw [parts?_of_scans hscans] at h
    by_cases hleft : left = []
    · subst hleft
      rw [parts?_nil] at h
      obtain rfl := Option.some.inj h
      exact ⟨ls, scans_nil_iff.mp hscans, List.append_nil _⟩
    · -- something is left, and the reader fails on it
      rw [parts?_of_ne_nil hleft, hend] at h
      cases h
  · rintro ⟨ls, hspells, rfl⟩
    rw [parts?_of_scans hspells.scans, parts?_nil]
    exact congrArg some (List.append_nil _)

/-- The reader fails just at the texts that are not made of parts. -/
theorem parts?_eq_none_iff {cs : List Char} : parts? cs = none ↔ ¬ ∃ ls, Spells ls cs := by
  rw [Option.eq_none_iff_forall_ne_some]
  constructor
  · rintro h ⟨ls, hls⟩
    exact h _ (parts?_eq_some_iff.mpr ⟨ls, hls, rfl⟩)
  · intro h ps hps
    obtain ⟨ls, hls, -⟩ := parts?_eq_some_iff.mp hps
    exact h ⟨ls, hls⟩

/-! ## The whole loop

All that is known about the end of the loop, in one place. -/

/-- The loop over a text has come to its end: what it has taken, and what is left then. -/
structure Exhausts (cs : List Char) (ls : List Lexeme) (left : List Char) : Prop where
  scans : Scans cs ls left
  stuck : first? left = none
  length_le : ls.length ≤ cs.length
  longest : ∀ ls' left', Scans cs ls' left' → ls' <+: ls
  spells_iff : ∀ ls', Spells ls' cs ↔ left = [] ∧ ls' = ls
  parts?_eq : parts? cs = if left = [] then some (ls.map Lexeme.part) else none

/-- Every text can be scanned to its end, and the end says whether it is made of parts. -/
theorem exists_exhausts (cs : List Char) : ∃ ls left, Exhausts cs ls left := by
  obtain ⟨ls, left, hscans, hstuck⟩ := exists_scans cs
  have hspells : ∀ ls', Spells ls' cs ↔ left = [] ∧ ls' = ls := by
    intro ls'
    constructor
    · intro hls'
      -- both runs have come to their ends, so each one is a beginning of the other
      have hle := hscans.isPrefix hstuck hls'.scans
      have hge := hls'.scans.isPrefix first?_nil hscans
      obtain rfl := hle.eq_of_length (Nat.le_antisymm hle.length_le hge.length_le)
      have happend := hscans.eq_append.2.symm.trans hls'.scans.eq_append.2
      exact ⟨List.append_cancel_left happend, rfl⟩
    · rintro ⟨rfl, rfl⟩
      exact scans_nil_iff.mp hscans
  refine ⟨ls, left, hscans, hstuck, hscans.length_le, fun _ _ h => hscans.isPrefix hstuck h,
    hspells, ?_⟩
  split
  next hleft => exact parts?_eq_some_iff.mpr ⟨ls, (hspells ls).mpr ⟨hleft, rfl⟩, rfl⟩
  next hleft =>
    rw [parts?_eq_none_iff]
    rintro ⟨ls', hls'⟩
    exact hleft ((hspells ls').mp hls').1

end EchoWatch.Duration
