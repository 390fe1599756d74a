import EchoWatch.Proofs.Time.Conversion
import EchoWatch.Proofs.Time.Range
/-!
# Reading durations

A text is a duration just when it is made of parts behind its sign, or is a zero there
(`parse_grammar`). What it is worth then is the sum of its parts in double precision. The reader
fails on it in one way only, when that sum is out of the range of durations.
-/

namespace EchoWatch.Duration

/-- The sign of a text, without the white space around the text. -/
def isNegative (s : String) : Bool :=
  (splitSign (Text.trim s.toList)).1

/-- What stands behind the sign of a text, without the white space around the text. -/
def body (s : String) : List Char :=
  (splitSign (Text.trim s.toList)).2

/-- What parts are worth behind a sign: their sum in double precision. -/
def worth (negative : Bool) (ls : List Lexeme) : Binary64 :=
  signed negative (total (ls.map Lexeme.part))

/-! ## The ways to be read

The reader looks for four things in turn: nothing but blanks, a bare zero, parts, and anything else.
One lemma says what comes out in each case. -/

variable {s : String} {ls : List Lexeme}

theorem body_of_blank (h : Text.trim s.toList = []) : body s = [] := by
  rw [body, h]
  rfl

/-- A blank text is refused as empty. -/
theorem parse_of_blank (h : Text.trim s.toList = []) : parse s = .error .empty := by
  unfold parse
  rw [h]
  rfl

/-- A bare zero is a duration, although it has no unit. -/
theorem parse_of_zero (h : body s = ['0']) : parse s = .ok 0 := by
  have hblank : Text.trim s.toList ≠ [] := by
    intro hblank
    cases (body_of_blank hblank).symm.trans h
  unfold body at h
  unfold parse
  simp only [hblank, h, if_false, if_true]

/-- Parts are summed up and converted, and only the conversion may fail. -/
theorem parse_of_parts {ps : List Part} (hblank : Text.trim s.toList ≠ []) (hzero : body s ≠ ['0'])
    (hparts : parts? (body s) = some ps) (hne : ps ≠ []) :
    parse s = (ofSeconds (signed (isNegative s) (total ps))).mapError .overflow := by
  obtain ⟨p, ps, rfl⟩ := List.exists_cons_of_ne_nil hne
  unfold body at hzero hparts
  unfold parse
  simp only [hblank, hzero, hparts, if_false]
  rfl

/-- What is no parts, or none of them, is refused with its text. -/
theorem parse_of_no_parts (hblank : Text.trim s.toList ≠ []) (hzero : body s ≠ ['0'])
    (hparts : ∀ ps, parts? (body s) = some ps → ps = []) : parse s = .error (.malformed s) := by
  unfold body at hzero hparts
  unfold parse
  simp only [hblank, hzero, if_false]
  split
  · rfl
  · rfl
  next hsome hps =>
    cases hparts _ hps
    exact absurd rfl hsome

/-- A bare zero is no part. -/
theorem not_spells_zero : ¬ Spells ls ['0'] := by
  rintro ⟨hls, hcs⟩
  have hletters : ∀ t ∈ spellings, 0 < t.1.length := by decide
  cases ls with
  | nil => cases hcs
  | cons l ls =>
    rw [List.forall_mem_cons] at hls
    -- a part has at least a digit and a letter
    have hnumber := List.length_pos_iff.mpr hls.1.1.ne_nil
    have hunit : 0 < l.spelling.length := hletters _ hls.1.2
    have hlength := congrArg List.length hcs
    simp only [List.flatMap_cons, Lexeme.text, List.length_append, List.length_cons,
      List.length_nil] at hlength
    omega

/-- Some parts are some text. -/
theorem ne_nil_of_spells {cs : List Char} (h : Spells ls cs) (hne : ls ≠ []) : cs ≠ [] := by
  rintro rfl
  have hnil : Spells [] [] := ⟨List.forall_mem_nil _, rfl⟩
  exact hne (spells_unique h hnil)

/-- **Parts are read as what they are worth.** Neither of the other ways can come in between. -/
theorem parse_of_spells (h : Spells ls (body s)) (hne : ls ≠ []) :
    parse s = (ofSeconds (worth (isNegative s) ls)).mapError .overflow := by
  have hblank : Text.trim s.toList ≠ [] :=
    fun hblank => ne_nil_of_spells h hne (body_of_blank hblank)
  have hzero : body s ≠ ['0'] := fun hzero => not_spells_zero (hzero ▸ h)
  exact parse_of_parts hblank hzero (parts?_eq_some_iff.mpr ⟨ls, h, rfl⟩)
    (mt List.map_eq_nil_iff.mp hne)

/-! ## Written with a sign

Conversely, a text that is put together from parts is read as these parts. There is nothing to be
trimmed from it, and its first character is no sign. -/

/-- There are no blanks in parts, neither in a number nor in a unit. -/
theorem not_blank_of_spells {cs : List Char} (h : Spells ls cs) :
    ∀ c ∈ cs, Text.isBlank c = false := by
  have hletters : (spellings.all fun t => t.1.all fun c => !Text.isBlank c) = true := by
    decide +kernel
  obtain ⟨hls, rfl⟩ := h
  intro c hc
  obtain ⟨l, hl, hc⟩ := List.mem_flatMap.mp hc
  obtain ⟨hnumber, hunit⟩ := hls l hl
  rcases List.mem_append.mp hc with hc | hc
  · exact isBlank_of_isNumeral (hnumber.isNumeral c hc)
  · have hspelling := List.all_eq_true.mp hletters _ hunit
    have hletter := List.all_eq_true.mp hspelling c hc
    rwa [Bool.not_eq_true'] at hletter

/-- Parts have no sign in front of them. -/
theorem splitSign_of_spells {cs : List Char} (h : Spells ls cs) : splitSign cs = (false, cs) := by
  have hstarts : Starts cs := by
    obtain ⟨hls, rfl⟩ := h
    exact starts_flatMap hls
  unfold splitSign
  split
  · exact absurd (hstarts '-' rfl) (by decide)
  · exact absurd (hstarts '+' rfl) (by decide)
  · rfl

/-- A text without blanks is read by its sign and the parts behind it. -/
theorem parse_of_splitSign {text cs : List Char} {negative : Bool}
    (hblank : ∀ c ∈ text, Text.isBlank c = false) (hsplit : splitSign text = (negative, cs))
    (h : Spells ls cs) (hne : ls ≠ []) :
    parse (String.ofList text) = (ofSeconds (worth negative ls)).mapError .overflow := by
  have htrim : Text.trim (String.ofList text).toList = text := by
    rw [String.toList_ofList]
    refine Text.trim_eq_self text (fun c hc => hblank c (List.mem_of_mem_head? hc)) fun c hc => ?_
    exact hblank c (List.mem_reverse.mp (List.mem_of_mem_head? hc))
  have hbody : body (String.ofList text) = cs := by
    rw [body, htrim, hsplit]
  have hnegative : isNegative (String.ofList text) = negative := by
    rw [isNegative, htrim, hsplit]
  rw [← hbody] at h
  rw [parse_of_spells h hne, hnegative]

/-- Parts are read as written: without a sign, with a plus and with a minus. -/
theorem parse_of_written {cs : List Char} (h : Spells ls cs) (hne : ls ≠ []) :
    parse (String.ofList cs) = (ofSeconds (worth false ls)).mapError .overflow ∧
    parse (String.ofList ('+' :: cs)) = (ofSeconds (worth false ls)).mapError .overflow ∧
    parse (String.ofList ('-' :: cs)) = (ofSeconds (worth true ls)).mapError .overflow := by
  have hblank := not_blank_of_spells h
  have hsigned : ∀ sign, Text.isBlank sign = false → ∀ c ∈ sign :: cs, Text.isBlank c = false :=
    fun sign hsign => List.forall_mem_cons.mpr ⟨hsign, hblank⟩
  exact ⟨parse_of_splitSign hblank (splitSign_of_spells h) h hne,
    parse_of_splitSign (hsigned '+' (by decide)) rfl h hne,
    parse_of_splitSign (hsigned '-' (by decide)) rfl h hne⟩

/-! ## Every text

The four ways exclude one another and there is no fifth. What follows about all texts is by cases on
`Outcome`. -/

/-- What becomes of a text. -/
inductive Outcome (s : String) : Except ParseError Micros → Prop where
  | blank (hblank : Text.trim s.toList = []) : Outcome s (.error .empty)
  | zero (hzero : body s = ['0']) : Outcome s (.ok 0)
  | parts {ls : List Lexeme} (hne : ls ≠ []) (hls : Spells ls (body s)) :
    Outcome s ((ofSeconds (worth (isNegative s) ls)).mapError .overflow)
  | other (hblank : Text.trim s.toList ≠ []) (hzero : body s ≠ ['0'])
    (hno : ¬ ∃ ls, ls ≠ [] ∧ Spells ls (body s)) : Outcome s (.error (.malformed s))

/-- **Every text is read in one of the four ways.** The tests are made in the order of the
reader. -/
theorem outcome_parse (s : String) : Outcome s (parse s) := by
  -- in the order in which the text is looked at
  by_cases hblank : Text.trim s.toList = []
  · rw [parse_of_blank hblank]
    exact .blank hblank
  by_cases hzero : body s = ['0']
  · rw [parse_of_zero hzero]
    exact .zero hzero
  by_cases hparts : ∃ ls, ls ≠ [] ∧ Spells ls (body s)
  · obtain ⟨ls, hne, hls⟩ := hparts
    rw [parse_of_spells hls hne]
    exact .parts hne hls
  · have hread : ∀ ps, parts? (body s) = some ps → ps = [] := by
      intro ps hps
      obtain ⟨ls, hls, rfl⟩ := parts?_eq_some_iff.mp hps
      by_contra hne
      exact hparts ⟨ls, mt List.map_eq_nil_iff.mpr hne, hls⟩
    rw [parse_of_no_parts hblank hzero hread]
    exact .other hblank hzero hparts

/-! ## Refusals and overflows

Of the two kinds of failure, a refusal depends on the grammar alone and an overflow on the value
alone. -/

/-- What is refused is what the grammar has not. -/
theorem refused_iff :
    parse s = .error .empty ∨ parse s = .error (.malformed s) ↔
      Text.trim s.toList = [] ∨ body s ≠ ['0'] ∧ ¬ ∃ ls, ls ≠ [] ∧ Spells ls (body s) := by
  have houtcome := outcome_parse s
  generalize parse s = result at houtcome ⊢
  cases houtcome with
  | blank hblank => exact iff_of_true (.inl rfl) (.inl hblank)
  -- the two refusals are the two halves of the condition
  | other _ hzero hno => exact iff_of_true (.inr rfl) (.inr ⟨hzero, hno⟩)
  -- a zero and parts are neither refused nor outside of the grammar
  | zero hzero =>
    refine iff_of_false (by simp) ?_
    rintro (hblank | ⟨hne, -⟩)
    · cases (body_of_blank hblank).symm.trans hzero
    · exact hne hzero
  | @parts ls hne hls =>
    refine iff_of_false ?_ ?_
    · cases ofSeconds (worth (isNegative s) ls) <;> simp [Except.mapError]
    · rintro (hblank | ⟨-, hno⟩)
      · exact ne_nil_of_spells hls hne (body_of_blank hblank)
      · exact hno ⟨ls, hne, hls⟩

/-- The conversion of parts fails just when their worth is out of range. -/
theorem overflows_iff_not_fits (negative : Bool) (ls : List Lexeme) :
    (∃ cause, ofSeconds (worth negative ls) = .error cause) ↔ ¬ Fits (worth negative ls) := by
  rw [worth, ← exists_ofSeconds_iff (isLength_total _) negative]
  cases ofSeconds (signed negative (total (ls.map Lexeme.part))) <;> simp

/-- An overflow tells that there are parts, and that they are worth too much. -/
theorem overflow_iff :
    (∃ cause, parse s = .error (.overflow cause)) ↔
      ∃ ls, ls ≠ [] ∧ Spells ls (body s) ∧ ¬ Fits (worth (isNegative s) ls) := by
  constructor
  · rintro ⟨cause, hcause⟩
    have houtcome := outcome_parse s
    rw [hcause] at houtcome
    -- only parts can lead to an overflow
    generalize hresult : Except.error (ParseError.overflow cause) = result at houtcome
    cases houtcome with
    | blank => cases hresult
    | zero => cases hresult
    | other => cases hresult
    | @parts ls hne hls =>
      refine ⟨ls, hne, hls, (overflows_iff_not_fits _ _).mp ⟨cause, ?_⟩⟩
      cases hseconds : ofSeconds (worth (isNegative s) ls) with
      | ok us =>
        rw [hseconds] at hresult
        cases hresult
      | error cause' =>
        rw [hseconds] at hresult
        cases hresult
        rfl
  · rintro ⟨ls, hne, hls, hfits⟩
    obtain ⟨cause, hcause⟩ := (overflows_iff_not_fits _ _).mpr hfits
    refine ⟨cause, ?_⟩
    rw [parse_of_spells hls hne, hcause]
    rfl

/-! ## The grammar -/

/-- There is no other outcome than refusal, value and overflow. -/
theorem parse_cases (s : String) :
    parse s = .error .empty ∨ parse s = .error (.malformed s) ∨ (∃ us, parse s = .ok us) ∨
      ∃ cause, parse s = .error (.overflow cause) := by
  have houtcome := outcome_parse s
  generalize parse s = result at houtcome ⊢
  cases houtcome with
  | blank => exact .inl rfl
  | other => exact .inr (.inl rfl)
  | zero => exact .inr (.inr (.inl ⟨0, rfl⟩))
  | @parts ls =>
    cases ofSeconds (worth (isNegative s) ls) with
    | ok us => exact .inr (.inr (.inl ⟨us, rfl⟩))
    | error cause => exact .inr (.inr (.inr ⟨cause, rfl⟩))

/-- The texts that are refused are those that are not in the grammar. The others are read as what
they are worth, which is a number in any case, unless that is out of the range of durations. The
parts are determined by the text. The loop finds them although it always takes the first match, and
ends on every text, and each number that it takes is one for the general reader of numbers too. -/
theorem parse_grammar (s : String) :
    (parse s = .error .empty ∨ parse s = .error (.malformed s) ↔
      Text.trim s.toList = [] ∨ body s ≠ ['0'] ∧ ¬ ∃ ls, ls ≠ [] ∧ Spells ls (body s)) ∧
    (parse s = .error .empty ∨ parse s = .error (.malformed s) ∨ (∃ us, parse s = .ok us) ∨
      ∃ cause, parse s = .error (.overflow cause)) ∧
    ((∃ cause, parse s = .error (.overflow cause)) ↔
      ∃ ls, ls ≠ [] ∧ Spells ls (body s) ∧ ¬ Fits (worth (isNegative s) ls)) ∧
    (∀ ls, Spells ls (body s) → ls ≠ [] →
      parse s = (ofSeconds (worth (isNegative s) ls)).mapError .overflow) ∧
    (∀ ls : List Lexeme, Binary64.IsLength (total (ls.map Lexeme.part))) ∧
    (∀ ls ls', Spells ls (body s) → Spells ls' (body s) → ls = ls') ∧
    (∀ cs, readPart cs = (first? cs).map fun m => (m.1.part, m.2)) ∧
    (∃ ls left, Exhausts (body s) ls left) ∧
    ∀ ls left, Scans (body s) ls left → ∀ l ∈ ls, ∃ x, Yaml.Number.decimal l.number = .ok x ∧
      l.part.seconds = x * l.unit.seconds := by
  refine ⟨refused_iff, parse_cases s, overflow_iff, fun _ => parse_of_spells,
    fun _ => isLength_total _, fun _ _ => spells_unique, readPart_eq, exists_exhausts (body s), ?_⟩
  intro ls left hscans l hl
  exact (hscans.eq_append.1 l hl).exists_decimal

end EchoWatch.Duration
