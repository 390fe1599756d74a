import EchoWatch.Proofs.Text.Pattern
import EchoWatch.Time.Duration
/-!
# The grammar of durations

A duration is a sequence of parts, and a part is a number with its unit. Numbers are made of digits
and points, and units of neither, so a sequence of parts is a text whose runs of the one kind and of
the other alternate. That fixes where each part ends, and with it the whole decomposition
(`spells_unique`).

The reader goes through the text from left to right and always takes the first match of a pattern
that allows a number to be cut short and a unit to be taken for another one. It does not matter:
there is only one number after which a unit can follow (`first?_append`), and of two units that
match, the longer one is tried first.

* **`Spells`**: the parts that a text is made of.
* **`first?_text_append`**: what the pattern finds first is the part with which a text begins.
-/

namespace EchoWatch.Duration

open Text (isDigit)

/-! ## Parts -/

/-- Digits, perhaps with a point and further digits, or a point with digits after it. -/
inductive IsNumber : List Char → Prop where
  | whole {ds : List Char} (hne : ds ≠ []) (hds : ∀ c ∈ ds, isDigit c) : IsNumber ds
  | pointed {ds fs : List Char} (hne : ds ≠ []) (hds : ∀ c ∈ ds, isDigit c)
      (hfs : ∀ c ∈ fs, isDigit c) : IsNumber (ds ++ '.' :: fs)
  | fraction {fs : List Char} (hne : fs ≠ []) (hfs : ∀ c ∈ fs, isDigit c) : IsNumber ('.' :: fs)

/-- The units and how they are written, in the order in which they are tried. -/
def spellings : List (List Char × TimeUnit) :=
  [(['n', 's'], .nanosecond), (['u', 's'], .microsecond), (['\u00b5', 's'], .microsecond),
    (['\u03bc', 's'], .microsecond), (['m', 's'], .millisecond), (['s'], .second),
    (['m'], .minute), (['h'], .hour)]

/-- A part as it is written. -/
structure Lexeme where
  number : List Char
  spelling : List Char
  unit : TimeUnit
  deriving DecidableEq

namespace Lexeme

def text (l : Lexeme) : List Char :=
  l.number ++ l.spelling

def IsPart (l : Lexeme) : Prop :=
  IsNumber l.number ∧ (l.spelling, l.unit) ∈ spellings

/-- What is read of it. -/
def part (l : Lexeme) : Part :=
  ⟨l.number.filterMap Text.digitValue?, (afterDigits l.number).tail.length, l.unit⟩

end Lexeme

/-- A text is made of parts, one after the other. -/
def Spells (ls : List Lexeme) (cs : List Char) : Prop :=
  (∀ l ∈ ls, l.IsPart) ∧ cs = ls.flatMap Lexeme.text

/-! ## Runs

Of an appended text, the first part is read off again if its elements have a property that the
beginning of the second part lacks. -/

section Runs

variable {α : Type} {p : α → Bool} {x r : List α}

/-- What is taken from an appended text ends where the second part begins. -/
theorem takeWhile_append_of_stop (hx : ∀ a ∈ x, p a) (hr : ∀ a, r.head? = some a → p a = false) :
    (x ++ r).takeWhile p = x := by
  have hstop : r.takeWhile p = [] := by
    cases r with
    | nil => rfl
    | cons a r => simp [hr a rfl]
  rw [List.takeWhile_append_of_pos hx, hstop, List.append_nil]

/-- What is left of an appended text is its second part. -/
theorem dropWhile_append_of_stop (hx : ∀ a ∈ x, p a) (hr : ∀ a, r.head? = some a → p a = false) :
    (x ++ r).dropWhile p = r := by
  have hstop : r.dropWhile p = r := by
    cases r with
    | nil => rfl
    | cons a r => simp [hr a rfl]
  rw [List.dropWhile_append_of_pos hx, hstop]

/-- Two ways to cut a text at the end of a run are the same. -/
theorem append_inj_of_stop {y s : List α} (happend : x ++ r = y ++ s) (hx : ∀ a ∈ x, p a)
    (hr : ∀ a, r.head? = some a → p a = false) (hy : ∀ a ∈ y, p a)
    (hs : ∀ a, s.head? = some a → p a = false) : x = y ∧ r = s := by
  constructor
  · rw [← takeWhile_append_of_stop hx hr, happend, takeWhile_append_of_stop hy hs]
  · rw [← dropWhile_append_of_stop hx hr, happend, dropWhile_append_of_stop hy hs]

end Runs

/-! ## Numbers and units

No character is both in a number and in a unit. So the text behind a number that is followed by a
unit `Stops`, and the text behind a part `Starts`, whether or not it is the last one. -/

/-- The characters that numbers are made of. -/
def isNumeral (c : Char) : Bool :=
  isDigit c || c == '.'

theorem isDigit_point : isDigit '.' = false := by
  decide

theorem isNumeral_of_isDigit {c : Char} (h : isDigit c) : isNumeral c := by
  rw [isNumeral, h, Bool.true_or]

/-- A number has digits and at most a point. By cases on how it is written. -/
theorem IsNumber.isNumeral {n : List Char} (h : IsNumber n) : ∀ c ∈ n, isNumeral c := by
  have hpoint : Duration.isNumeral '.' := by decide
  cases h with
  | whole _ hds => exact fun c hc => isNumeral_of_isDigit (hds c hc)
  -- digits, the point, digits again
  | pointed _ hds hfs =>
    intro c hc
    rcases List.mem_append.mp hc with hc | hc
    · exact isNumeral_of_isDigit (hds c hc)
    · rcases List.mem_cons.mp hc with rfl | hc
      · exact hpoint
      · exact isNumeral_of_isDigit (hfs c hc)
  | fraction _ hfs =>
    intro c hc
    rcases List.mem_cons.mp hc with rfl | hc
    · exact hpoint
    · exact isNumeral_of_isDigit (hfs c hc)

theorem IsNumber.ne_nil {n : List Char} (h : IsNumber n) : n ≠ [] := by
  cases h <;> simp_all

theorem spelling_ne_nil {s : List Char × TimeUnit} (hs : s ∈ spellings) : s.1 ≠ [] := by
  revert s
  decide

/-- No unit has a digit or a point in it. The spellings are looked through one by one. -/
theorem isNumeral_spelling {s : List Char × TimeUnit} (hs : s ∈ spellings) :
    ∀ c ∈ s.1, isNumeral c = false := by
  have hall : (spellings.all fun s => s.1.all fun c => !isNumeral c) = true := by decide +kernel
  intro c hc
  have hspelling := List.all_eq_true.mp hall s hs
  have hletter := List.all_eq_true.mp hspelling c hc
  rwa [Bool.not_eq_true'] at hletter

/-- A spelling stands for one unit only, although some units have several spellings. -/
theorem eq_of_spelling_eq {s t : List Char × TimeUnit} (hs : s ∈ spellings) (ht : t ∈ spellings)
    (h : s.1 = t.1) : s = t := by
  have hkeys : ∀ s ∈ spellings, ∀ t ∈ spellings, s.1 = t.1 → s = t := by decide
  exact hkeys s hs t ht h

/-- A text in which no number goes on. -/
def Stops (r : List Char) : Prop :=
  ∀ c, r.head? = some c → isNumeral c = false

/-- A text in which no unit goes on. -/
def Starts (r : List Char) : Prop :=
  ∀ c, r.head? = some c → isNumeral c = true

/-- A unit ends the number in front of it. -/
theorem stops_spelling_append {s : List Char × TimeUnit} (hs : s ∈ spellings) (r : List Char) :
    Stops (s.1 ++ r) := by
  intro c hc
  obtain ⟨d, w, hw⟩ := List.exists_cons_of_ne_nil (spelling_ne_nil hs)
  rw [hw] at hc
  obtain rfl : d = c := Option.some.inj hc
  exact isNumeral_spelling hs d (by rw [hw]; exact List.mem_cons_self)

/-- Parts begin with a number, and no parts with nothing: so a unit in front of them is complete. -/
theorem starts_flatMap {ls : List Lexeme} (hls : ∀ l ∈ ls, l.IsPart) :
    Starts (ls.flatMap Lexeme.text) := by
  intro c hc
  cases ls with
  | nil => cases hc
  | cons l ls =>
    have hnumber := (hls l List.mem_cons_self).1
    obtain ⟨d, w, hw⟩ := List.exists_cons_of_ne_nil hnumber.ne_nil
    rw [List.flatMap_cons, Lexeme.text, hw] at hc
    obtain rfl : d = c := Option.some.inj hc
    exact hnumber.isNumeral d (by rw [hw]; exact List.mem_cons_self)

/-! ## One decomposition

A text is cut where characters of the one kind meet characters of the other. Numbers and units are
the pieces, hence there is no choice. -/

theorem number_unique {n n' r r' : List Char} (happend : n ++ r = n' ++ r') (hn : IsNumber n)
    (hr : Stops r) (hn' : IsNumber n') (hr' : Stops r') : n = n' ∧ r = r' :=
  append_inj_of_stop happend hn.isNumeral hr hn'.isNumeral hr'

/-- A unit that cannot be continued is determined by the text. -/
theorem spelling_unique {s s' : List Char × TimeUnit} {r r' : List Char}
    (happend : s.1 ++ r = s'.1 ++ r') (hs : s ∈ spellings) (hr : Starts r) (hs' : s' ∈ spellings)
    (hr' : Starts r') : s = s' ∧ r = r' := by
  -- units are the runs of the characters that no number has
  have hletters : ∀ t ∈ spellings, ∀ c ∈ t.1, (!isNumeral c) = true := by
    intro t ht c hc
    rw [isNumeral_spelling ht c hc]
    rfl
  have hstop : ∀ u, Starts u → ∀ c, u.head? = some c → (!isNumeral c) = false := by
    intro u hu c hc
    rw [hu c hc]
    rfl
  obtain ⟨hspelling, hrest⟩ :=
    append_inj_of_stop happend (hletters s hs) (hstop r hr) (hletters s' hs') (hstop r' hr')
  exact ⟨eq_of_spelling_eq hs hs' hspelling, hrest⟩

/-- The first part of a text is determined, as far as what follows it begins like a part. First its
number is read off, up to where the unit begins, then its unit. -/
theorem lexeme_unique {l l' : Lexeme} {r r' : List Char} (happend : l.text ++ r = l'.text ++ r')
    (hl : l.IsPart) (hr : Starts r) (hl' : l'.IsPart) (hr' : Starts r') : l = l' ∧ r = r' := by
  unfold Lexeme.text at happend
  rw [List.append_assoc, List.append_assoc] at happend
  -- the number ends where the unit begins, and the unit where the next part does
  obtain ⟨hnumber, hrest⟩ := number_unique happend hl.1 (stops_spelling_append hl.2 r) hl'.1
    (stops_spelling_append hl'.2 r')
  obtain ⟨hspelling, hrest'⟩ := spelling_unique hrest hl.2 hr hl'.2 hr'
  obtain ⟨n, w, u⟩ := l
  obtain ⟨n', w', u'⟩ := l'
  cases hnumber
  cases hspelling
  exact ⟨rfl, hrest'⟩

/-- **A text is made of parts in one way only.** Induction on the parts: the first one is
determined, and with it the text that the others are made of. -/
theorem spells_unique {ls ls' : List Lexeme} {cs : List Char} (h : Spells ls cs)
    (h' : Spells ls' cs) : ls = ls' := by
  have htext : ∀ l : Lexeme, l.IsPart → l.text ≠ [] := by
    intro l hl hnil
    exact hl.1.ne_nil (List.append_eq_nil_iff.mp hnil).1
  -- the parts of the second decomposition vary with those of the first one
  induction ls generalizing ls' cs with
  | nil =>
    obtain ⟨-, rfl⟩ := h
    obtain ⟨hls', hcs⟩ := h'
    cases ls' with
    | nil => rfl
    | cons l' ls' =>
      rw [List.flatMap_nil, List.flatMap_cons] at hcs
      exact absurd (List.append_eq_nil_iff.mp hcs.symm).1 (htext l' (hls' l' List.mem_cons_self))
  | cons l ls ih =>
    obtain ⟨hls, rfl⟩ := h
    obtain ⟨hls', hcs⟩ := h'
    rw [List.forall_mem_cons] at hls
    cases ls' with
    | nil =>
      rw [List.flatMap_nil, List.flatMap_cons] at hcs
      exact absurd (List.append_eq_nil_iff.mp hcs).1 (htext l hls.1)
    | cons l' ls' =>
      rw [List.forall_mem_cons] at hls'
      rw [List.flatMap_cons, List.flatMap_cons] at hcs
      obtain ⟨rfl, hrest⟩ :=
        lexeme_unique hcs hls.1 (starts_flatMap hls.2) hls'.1 (starts_flatMap hls'.2)
      rw [ih ⟨hls.2, rfl⟩ ⟨hls'.2, hrest⟩]

/-! ## The pattern of a part

A match is found by trying numbers from the longest one on, and units in the order of `spellings`.
Of the whole list only the first match counts. -/

open Text in
/-- Digits that a point and further digits may follow, or else a point and digits. -/
def numberPattern : Pattern :=
  Pattern.orElse
    (Pattern.followedBy (Pattern.oneOrMore isDigit)
      (Pattern.optional (Pattern.followedBy (Pattern.char (· == '.')) (Pattern.many isDigit))))
    (Pattern.followedBy (Pattern.char (· == '.')) (Pattern.oneOrMore isDigit))

/-- The units that match the beginning of a text, in the order in which they are tried. -/
def unitMatches (cs : List Char) : List ((List Char × TimeUnit) × List Char) :=
  spellings.flatMap fun s => (Text.Pattern.word s.1 cs).map fun m => (s, m.2)

/-- The ways to match a part, in the order in which they are tried. -/
def partMatches (cs : List Char) : List (Lexeme × List Char) :=
  (numberPattern cs).flatMap fun m =>
    (unitMatches m.2).map fun u => (⟨m.1, u.1.1, u.1.2⟩, u.2)

/-- The match that is found. -/
def first? (cs : List Char) : Option (Lexeme × List Char) :=
  (partMatches cs).head?

/-- The pattern of numbers matches numbers and nothing else. -/
theorem recognizes_numberPattern : numberPattern.Recognizes IsNumber := by
  have hpoint := Text.Pattern.recognizes_char (· == '.')
  have hmany := Text.Pattern.recognizes_many isDigit
  have hsome := Text.Pattern.recognizes_oneOrMore isDigit
  refine ((hsome.followedBy (hpoint.followedBy hmany).optional).orElse
    (hpoint.followedBy hsome)).congr fun x => ?_
  simp only [beq_iff_eq]
  constructor
  · -- with a point behind the digits, without one, and with the point in front
    rintro (⟨ds, _, rfl, ⟨hne, hds⟩, ⟨_, fs, rfl, ⟨_, rfl, rfl⟩, hfs⟩ | rfl⟩ |
      ⟨_, fs, rfl, ⟨_, rfl, rfl⟩, hne, hfs⟩)
    · exact .pointed hne hds hfs
    · rw [List.append_nil]
      exact .whole hne hds
    · exact .fraction hne hfs
  · intro hx
    cases hx with
    | whole hne hds => exact .inl ⟨x, [], (List.append_nil x).symm, ⟨hne, hds⟩, .inr rfl⟩
    | @pointed ds fs hne hds hfs =>
      exact .inl ⟨ds, _, rfl, ⟨hne, hds⟩, .inl ⟨['.'], fs, rfl, ⟨'.', rfl, rfl⟩, hfs⟩⟩
    | @fraction fs hne hfs => exact .inr ⟨['.'], fs, rfl, ⟨'.', rfl, rfl⟩, hne, hfs⟩

/-- The matches of units, apart from their order. -/
theorem mem_unitMatches {s : List Char × TimeUnit} {cs r : List Char} :
    (s, r) ∈ unitMatches cs ↔ s ∈ spellings ∧ cs = s.1 ++ r := by
  unfold unitMatches
  simp only [List.mem_flatMap, List.mem_map, Prod.mk.injEq]
  constructor
  · rintro ⟨t, ht, ⟨w, r'⟩, hmatch, rfl, rfl⟩
    obtain ⟨rfl, rfl⟩ := (Text.Pattern.recognizes_word t.1 cs w r').mp hmatch
    exact ⟨ht, rfl⟩
  · rintro ⟨hs, rfl⟩
    exact ⟨s, hs, (s.1, r), (Text.Pattern.recognizes_word s.1 _ _ _).mpr ⟨rfl, rfl⟩, rfl, rfl⟩

/-- The matches of parts, apart from their order: each way to begin the text with a part is
there. -/
theorem mem_partMatches {l : Lexeme} {cs r : List Char} :
    (l, r) ∈ partMatches cs ↔ l.IsPart ∧ cs = l.text ++ r := by
  unfold partMatches Lexeme.text Lexeme.IsPart
  simp only [List.mem_flatMap, List.mem_map, Prod.mk.injEq]
  constructor
  · rintro ⟨⟨n, mid⟩, hnumber, ⟨⟨w, u⟩, r'⟩, hunit, rfl, rfl⟩
    obtain ⟨rfl, hn⟩ := (recognizes_numberPattern _ _ _).mp hnumber
    obtain ⟨hs, rfl⟩ := mem_unitMatches.mp hunit
    exact ⟨⟨hn, hs⟩, (List.append_assoc _ _ _).symm⟩
  · rintro ⟨⟨hn, hs⟩, rfl⟩
    rw [List.append_assoc]
    exact ⟨(l.number, l.spelling ++ r), (recognizes_numberPattern _ _ _).mpr ⟨rfl, hn⟩,
      ((l.spelling, l.unit), r), mem_unitMatches.mpr ⟨hs, rfl⟩, rfl, rfl⟩

/-- Where a unit matches, no number goes on. -/
theorem stops_of_unitMatches {r : List Char} (h : unitMatches r ≠ []) : Stops r := by
  obtain ⟨⟨s, r'⟩, hmem⟩ := List.exists_mem_of_ne_nil _ h
  obtain ⟨hs, rfl⟩ := mem_unitMatches.mp hmem
  exact stops_spelling_append hs r'

/-- What is found in a text that begins with a complete number has this number, and the first unit
that matches behind it. -/
theorem first?_append {n r : List Char} (hn : IsNumber n) (hr : Stops r) :
    first? (n ++ r) = (unitMatches r).head?.map fun u => (⟨n, u.1.1, u.1.2⟩, u.2) := by
  have hmem : (n, r) ∈ numberPattern (n ++ r) := (recognizes_numberPattern _ _ _).mpr ⟨rfl, hn⟩
  unfold first? partMatches
  rw [Text.head?_flatMap_of_unique hmem, List.head?_map]
  -- the pattern may give up digits of the number, but no unit follows then
  rintro ⟨n', r'⟩ hmem' hne
  obtain ⟨happend, hn'⟩ := (recognizes_numberPattern _ _ _).mp hmem'
  have hr' : Stops r' := stops_of_unitMatches fun hnil => hne (by rw [hnil]; rfl)
  obtain ⟨rfl, rfl⟩ := number_unique happend hn hr hn' hr'
  rfl

/-- Nothing is found where no beginning of the text is a number with something else behind it. -/
theorem first?_eq_none {cs : List Char} (h : ∀ n r, cs = n ++ r → IsNumber n → ¬ Stops r) :
    first? cs = none := by
  unfold first?
  rw [List.head?_eq_none_iff, List.eq_nil_iff_forall_not_mem]
  rintro ⟨l, r⟩ hmem
  obtain ⟨⟨hn, hs⟩, rfl⟩ := mem_partMatches.mp hmem
  refine h l.number (l.spelling ++ r) ?_ hn (stops_spelling_append hs r)
  rw [Lexeme.text, List.append_assoc]

/-- A unit that is complete is found itself, although the units are tried in a fixed order and one
of them is the beginning of another. -/
theorem head?_unitMatches_append {s : List Char × TimeUnit} (hs : s ∈ spellings) {r : List Char}
    (hr : Starts r) : (unitMatches (s.1 ++ r)).head? = some (s, r) := by
  -- after minutes nothing follows that would make them milliseconds, which are tried first
  have hminute : ¬ ['s'] <+: r := by
    rintro ⟨w, rfl⟩
    exact absurd (hr 's' rfl) (by decide)
  -- no other unit begins like another one
  unfold spellings at hs
  simp only [List.mem_cons, List.not_mem_nil, or_false] at hs
  rcases hs with rfl | rfl | rfl | rfl | rfl | rfl | rfl | rfl <;>
    simp [unitMatches, spellings, Text.Pattern.word, List.cons_prefix_cons, hminute]

/-- **What is found first** in a text that begins with a part is this part. -/
theorem first?_text_append {l : Lexeme} (hl : l.IsPart) {r : List Char} (hr : Starts r) :
    first? (l.text ++ r) = some (l, r) := by
  rw [Lexeme.text, List.append_assoc, first?_append hl.1 (stops_spelling_append hl.2 r),
    head?_unitMatches_append hl.2 hr]
  rfl

end EchoWatch.Duration
