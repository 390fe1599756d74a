import EchoWatch.Directory
/-!
# Paths and files

A path is an origin and a list of steps. Writing them down and reading them again gives the same
ones, so that a path without idle steps leads where it led before they were taken out. When a path
is made absolute its steps up are taken back too, and what is left are the steps to one file.

* **`steps_written`**, **`origin_written`**: what is read from a path that was written.
* **`place_tidy`**: a tidy path leads to the same place.
* **`ends_place_absolute`**: what an absolute path without steps up leads to.
* **`bytesIn_put`**, **`bytesIn_append`**: what writing does to one file and to all others.
-/

namespace EchoWatch
namespace Directory

/-- Steps that lead somewhere, each of them one step only. -/
def Proper (ss : List (List Char)) : Prop :=
  ∀ s ∈ ss, '/' ∉ s ∧ s ≠ [] ∧ s ≠ ['.']

/-- What steps can start from. -/
inductive IsOrigin : List Char → Prop where
  | here : IsOrigin []
  | root : IsOrigin ['/']
  | kept : IsOrigin ['/', '/']

/-- The steps of a path are proper: pieces without slashes that are neither empty nor a dot. -/
theorem proper_steps (path : String) : Proper (steps path) := by
  intro s hs
  obtain ⟨hmem, hstep⟩ := List.mem_filter.mp hs
  exact ⟨Text.not_mem_of_mem_split '/' hmem, of_decide_eq_true hstep⟩

/-- There are three origins. More than two slashes count as one. -/
theorem isOrigin_origin (path : String) : IsOrigin (origin path) := by
  unfold origin
  split
  · exact .here
  · exact .kept
  · exact .root

/-! ## Steps

Splitting at the slashes also gives empty pieces, for two slashes in a row or one in front, and
single dots. Both are left out, so that proper steps are found again whatever stands in front of
them. -/

/-- The steps among the pieces of a text. -/
def stepsOf (cs : List Char) : List (List Char) :=
  (Text.split '/' cs).filter fun s => s ≠ [] ∧ s ≠ ['.']

theorem steps_ofList (cs : List Char) : steps (String.ofList cs) = stepsOf cs := by
  rw [steps, String.toList_ofList, stepsOf]

/-- A slash in front adds no step. -/
theorem stepsOf_slash (cs : List Char) : stepsOf ('/' :: cs) = stepsOf cs := by
  unfold stepsOf
  rw [← List.nil_append ('/' :: cs), Text.split_append_sep '/' [] cs List.not_mem_nil]
  exact List.filter_cons_of_neg (by decide)

/-- Joined and split again, proper steps are the same. -/
theorem stepsOf_join {ss : List (List Char)} (h : Proper ss) :
    stepsOf (Text.join ['/'] ss) = ss := by
  unfold stepsOf
  cases ss with
  | nil => rfl
  | cons s rest =>
    rw [Text.split_join '/' (List.cons_ne_nil s rest) fun p hp => (h p hp).1]
    exact List.filter_eq_self.mpr fun p hp => decide_eq_true (h p hp).2

/-- **The steps of a written path** are those it was written with. -/
theorem steps_written {o : List Char} {ss : List (List Char)} (ho : IsOrigin o) (h : Proper ss) :
    steps (written o ss) = ss := by
  unfold written
  split
  next hempty =>
    rw [hempty.2]
    rfl
  · rw [steps_ofList]
    cases ho with
    | here => exact stepsOf_join h
    | root => exact (stepsOf_slash _).trans (stepsOf_join h)
    | kept => exact (stepsOf_slash _).trans ((stepsOf_slash _).trans (stepsOf_join h))

/-! ## Origins

A path can begin with no slash, one or two. Written behind an origin, the steps do not add to its
slashes, because none of them is empty. -/

/-- Joined steps begin with no slash. -/
theorem takeWhile_join {ss : List (List Char)} (h : Proper ss) :
    (Text.join ['/'] ss).takeWhile (· = '/') = [] := by
  cases ss with
  | nil => rfl
  | cons s rest =>
    -- the first step is not empty, and its first character is no slash
    obtain ⟨hslash, hne, -⟩ := h s List.mem_cons_self
    cases s with
    | nil => exact absurd rfl hne
    | cons c cs =>
      have hc : c ≠ '/' := fun heq => hslash (heq ▸ List.mem_cons_self)
      have hjoin : ∃ r, Text.join ['/'] ((c :: cs) :: rest) = c :: r := by
        cases rest with
        | nil => exact ⟨cs, rfl⟩
        | cons next later => exact ⟨_, rfl⟩
      obtain ⟨r, hr⟩ := hjoin
      rw [hr, List.takeWhile_cons_of_neg (by simpa using hc)]

/-- **The origin of a written path** is the one it was written with. -/
theorem origin_written {o : List Char} {ss : List (List Char)} (ho : IsOrigin o) (h : Proper ss) :
    origin (written o ss) = o := by
  unfold written
  split
  next hempty =>
    rw [hempty.1]
    rfl
  · have hslashes : ∀ c ∈ o, decide (c = '/') = true := by
      cases ho <;> simp
    unfold origin
    rw [String.toList_ofList, List.takeWhile_append_of_pos hslashes, takeWhile_join h,
      List.append_nil]
    cases ho <;> rfl

/-! ## Tidy paths

A tidy path has the origin and the steps of the path, which is all that is looked at when it is
followed. It can be shorter, hence what is too long is measured on the tidy form. -/

theorem steps_tidy (path : String) : steps (tidy path) = steps path :=
  steps_written (isOrigin_origin path) (proper_steps path)

theorem origin_tidy (path : String) : origin (tidy path) = origin path :=
  origin_written (isOrigin_origin path) (proper_steps path)

/-- Tidying twice is tidying once. -/
theorem tidy_tidy (path : String) : tidy (tidy path) = tidy path := by
  have hagain : tidy (tidy path) = written (origin (tidy path)) (steps (tidy path)) := rfl
  rw [hagain, steps_tidy, origin_tidy]
  rfl

/-- A character that is neither a slash nor a dot is in a path just when it is in one of its
steps. -/
theorem mem_path_iff {path : String} {c : Char} (hslash : c ≠ '/') (hdot : c ≠ '.') :
    c ∈ path.toList ↔ ∃ s ∈ steps path, c ∈ s := by
  constructor
  · intro hc
    obtain ⟨piece, hpiece, hmem⟩ := Text.exists_mem_split_of_mem '/' hc hslash
    refine ⟨piece, List.mem_filter.mpr ⟨hpiece, decide_eq_true ⟨?_, ?_⟩⟩, hmem⟩
    · rintro rfl
      cases hmem
    · rintro rfl
      exact hdot (List.mem_singleton.mp hmem)
  · rintro ⟨s, hs, hmem⟩
    have hc := Text.mem_join_of_mem ['/'] (List.mem_filter.mp hs).1 hmem
    rwa [Text.join_split] at hc

theorem mem_tidy_iff {path : String} {c : Char} (hslash : c ≠ '/') (hdot : c ≠ '.') :
    c ∈ (tidy path).toList ↔ c ∈ path.toList := by
  rw [mem_path_iff hslash hdot, mem_path_iff hslash hdot, steps_tidy]

theorem start_tidy (d : Directory) (path : String) : d.start (tidy path) = d.start path := by
  rw [start, start, origin_tidy]

/-- What is wrong with a path is as wrong with its tidy form. -/
theorem pathTrouble?_tidy (path : String) : pathTrouble? (tidy path) = pathTrouble? path := by
  have hany (p : Char → Bool) (hslash : p '/' = false) (hdot : p '.' = false) :
      (tidy path).toList.any p = path.toList.any p := by
    rw [Bool.eq_iff_iff, List.any_eq_true, List.any_eq_true]
    refine exists_congr fun c => and_congr_left fun hc => mem_tidy_iff ?_ ?_
    · rintro rfl
      rw [hslash] at hc
      cases hc
    · rintro rfl
      rw [hdot] at hc
      cases hc
  have hzero : (tidy path).toList.contains '\x00' = path.toList.contains '\x00' := by
    rw [Bool.eq_iff_iff, List.contains_iff_mem, List.contains_iff_mem]
    exact mem_tidy_iff (by decide) (by decide)
  unfold pathTrouble?
  rw [hany isUnencodable (by decide) (by decide), hzero, tidy_tidy]

/-- **A tidy path leads where the path led.** -/
theorem place_tidy (d : Directory) (path : String) : d.place (tidy path) = d.place path := by
  unfold place
  rw [pathTrouble?_tidy, start_tidy, steps_tidy]

/-! ## Absolute paths

An absolute path is made by taking steps up back, so that all of its steps lead down. Following it
therefore leads to the file whose name it is, if it leads to a file at all. -/

/-- Steps of which none leads up. -/
def Down (ss : List (List Char)) : Prop :=
  ∀ s ∈ ss, s ≠ ['.', '.']

/-- What is left of some steps leads down, and nothing else is in it. -/
theorem mem_collapse {here ss : List (List Char)} {s : List Char} (h : s ∈ collapse here ss) :
    s ∈ here ∨ s ∈ ss ∧ s ≠ ['.', '.'] := by
  unfold collapse at h
  -- the invariant is about the steps that are left so far
  refine List.foldlRecOn ss _ (motive := fun done =>
    ∀ s ∈ done, s ∈ here ∨ s ∈ ss ∧ s ≠ ['.', '.']) (fun _ h => .inl h) ?_ s h
  intro done ih s hs t ht
  split at ht
  · exact ih t (List.dropLast_subset done ht)
  next hdown =>
    rcases List.mem_append.mp ht with ht | ht
    · exact ih t ht
    · obtain rfl := List.mem_singleton.mp ht
      exact .inr ⟨hs, hdown⟩

theorem mem_homeSteps {d : Directory} {s : List Char} (h : s ∈ d.homeSteps) :
    s ∈ steps d.home ∧ s ≠ ['.', '.'] :=
  (mem_collapse h).resolve_left List.not_mem_nil

/-- The steps of an absolute path are proper. -/
theorem proper_direct (d : Directory) (path : String) : Proper (d.direct path) := by
  intro s hs
  rcases mem_collapse hs with hs | ⟨hs, -⟩
  · unfold start at hs
    split at hs
    · exact proper_steps d.home s (mem_homeSteps hs).1
    · cases hs
  · exact proper_steps path s hs

/-- None of them leads up: it has been taken back. -/
theorem down_direct (d : Directory) (path : String) : Down (d.direct path) := by
  intro s hs
  rcases mem_collapse hs with hs | ⟨-, hs⟩
  · unfold start at hs
    split at hs
    · exact (mem_homeSteps hs).2
    · cases hs
  · exact hs

/-- Two slashes in front are kept, for any others there is one. -/
theorem isOrigin_absolute (path : String) :
    IsOrigin (if origin path = ['/', '/'] then ['/', '/'] else ['/']) := by
  split
  · exact .kept
  · exact .root

theorem steps_absolute (d : Directory) (path : String) :
    steps (d.absolute path) = d.direct path :=
  steps_written (isOrigin_absolute path) (d.proper_direct path)

/-- An absolute path begins at the root. -/
theorem start_absolute (d : Directory) (path : String) : d.start (d.absolute path) = [] := by
  have horigin : origin (d.absolute path) ≠ [] := by
    rw [absolute, origin_written (isOrigin_absolute path) (d.proper_direct path)]
    split <;> exact List.cons_ne_nil _ _
  rw [start, if_neg horigin]

/-- What can stand at the end of a path to a name. -/
inductive Place.Ends (d : Directory) (name : String) : Place → Prop where
  | file {content : Content} (h : d.content? name = some content) : Ends d name (.file name content)
  | vacant (h : d.content? name = none) : Ends d name (.vacant name)
  | directory : Ends d name .directory
  | blocked (trouble : Trouble) : Ends d name (.blocked trouble)

/-- Steps that lead down end at the name that they make up, if they end anywhere. Induction on the
steps, with the directory that has been reached so far. -/
theorem ends_follow {d : Directory} {here rest : List (List Char)} (hdown : Down rest) :
    (d.follow here rest).Ends d (nameOf (here ++ rest)) := by
  induction rest generalizing here with
  | nil => exact .directory
  | cons s rest ih =>
    have hs : s ≠ ['.', '.'] := hdown s List.mem_cons_self
    have hrest := @ih (here ++ [s]) fun t ht => hdown t (List.mem_cons_of_mem s ht)
    rw [List.append_assoc, List.singleton_append] at hrest
    unfold follow
    rw [if_neg hs]
    split
    · exact .blocked _
    · dsimp only
      cases hcontent : d.content? (nameOf (here ++ [s])) with
      | some content =>
        -- a file can only be the end
        dsimp only
        split
        next hlast =>
          obtain rfl := List.isEmpty_iff.mp hlast
          exact .file hcontent
        · exact .blocked _
      | none =>
        dsimp only
        split
        · exact hrest
        · split
          next hlast =>
            obtain rfl := List.isEmpty_iff.mp hlast
            exact .vacant hcontent
          · exact .blocked _

/-- Where an absolute path ends is known by its steps. -/
theorem ends_place_absolute (d : Directory) (path : String) :
    (d.place (d.absolute path)).Ends d (nameOf (d.direct path)) := by
  unfold place
  rw [start_absolute, steps_absolute]
  split
  · exact .blocked _
  · exact @ends_follow d [] _ (d.down_direct path)

/-! ## Files

A file is put under its name. That one has new contents afterwards and all others have theirs,
whether the name was known before (`find?_replace`) or not (`find?_add`). -/

/-- The bytes in a file; a file that is not there has none. -/
def bytesIn (d : Directory) (name : String) : List UInt8 :=
  ((d.content? name).map Content.bytes).getD []

/-- In a list where a file gets another content, the other files are found as before. -/
theorem find?_replace {files : List (String × Content)} {name : String}
    (hany : (files.any fun f => f.1 = name) = true) (content : Content) (n : String) :
    ((files.map fun f => if f.1 = name then (name, content) else f).find? fun f => f.1 = n).map
        Prod.snd =
      if name = n then some content else (files.find? fun f => f.1 = n).map Prod.snd := by
  -- the names stay, so that the file of a name stays at its place
  have hsame : ((fun f : String × Content => decide (f.1 = n)) ∘
      fun f => if f.1 = name then (name, content) else f) = fun f => decide (f.1 = n) := by
    funext f
    rw [Function.comp_apply]
    split
    next h => rw [h]
    · rfl
  rw [List.find?_map, hsame, Option.map_map]
  cases hfind : files.find? fun f => f.1 = n with
  | none =>
    have hne : name ≠ n := by
      rintro rfl
      obtain ⟨f, hf, hname⟩ := List.any_eq_true.mp hany
      exact List.find?_eq_none.mp hfind f hf hname
    rw [if_neg hne]
    rfl
  | some f =>
    have hf : f.1 = n := by simpa using List.find?_some hfind
    simp only [Option.map_some, Function.comp_apply, hf, eq_comm (a := name)]
    split <;> rfl

/-- In a list with one more file at its end, the other files are found as before. -/
theorem find?_add {files : List (String × Content)} {name : String}
    (hnone : ¬ (files.any fun f => f.1 = name) = true) (content : Content) (n : String) :
    ((files ++ [(name, content)]).find? fun f => f.1 = n).map Prod.snd =
      if name = n then some content else (files.find? fun f => f.1 = n).map Prod.snd := by
  rw [List.find?_append]
  by_cases h : name = n
  · have hfind : files.find? (fun f => f.1 = n) = none := by
      -- the name is a new one, so that the search comes to the end
      refine List.find?_eq_none.mpr fun f hf hname => hnone ?_
      exact List.any_eq_true.mpr ⟨f, hf, by rw [h]; exact hname⟩
    rw [hfind, if_pos h, Option.none_or, List.find?_cons_of_pos (by simpa using h)]
    rfl
  · rw [if_neg h, List.find?_cons_of_neg (by simpa using h), List.find?_nil, Option.or_none]

/-- What a file holds after one was put. -/
theorem content?_put (d : Directory) (name : String) (content : Content) {n : String}
    (hn : n ≠ nullDevice) :
    (d.put name content).content? n = if name = n then some content else d.content? n := by
  unfold put content?
  rw [if_neg hn, if_neg hn]
  split
  -- what is put into the null device changes no other file
  next hnull => rw [if_neg fun h => hn (h.symm.trans hnull)]
  · split
    next hany => exact find?_replace hany content n
    next hnone => exact find?_add hnone content n

/-- Files come and go in the same working directory. -/
theorem home_put (d : Directory) (name : String) (content : Content) :
    (d.put name content).home = d.home := by
  unfold put
  split
  · rfl
  · split <;> rfl

theorem bytesIn_nullDevice (d : Directory) : d.bytesIn nullDevice = [] := by
  rw [bytesIn, content?, if_pos rfl]
  rfl

theorem bytesIn_put (d : Directory) (name : String) (content : Content) (n : String) :
    (d.put name content).bytesIn n =
      if name = n ∧ n ≠ nullDevice then content.bytes else d.bytesIn n := by
  by_cases hn : n = nullDevice
  · rw [hn, bytesIn_nullDevice, bytesIn_nullDevice, if_neg fun h => h.2 rfl]
  · unfold bytesIn
    rw [content?_put d name content hn]
    simp only [ne_eq, hn, not_false_eq_true, and_true]
    split <;> rfl

/-- Appending is to put the file there with the text behind what was in it. -/
theorem exists_append_eq_put (d : Directory) (name text : String) :
    ∃ content, d.append name text = d.put name content ∧
      content.bytes = d.bytesIn name ++ (Content.text text).bytes := by
  unfold append bytesIn
  split
  next s h => exact ⟨_, rfl, by simp [h, Content.bytes]⟩
  next bytes h => exact ⟨_, rfl, by simp [h, Content.bytes]⟩
  next h => exact ⟨_, rfl, by simp [h, Content.bytes]⟩

/-- **Appending adds to one file**: its bytes stay in front, and all other files as they are. -/
theorem bytesIn_append (d : Directory) (name text : String) {n : String} (hn : n ≠ nullDevice) :
    (d.append name text).bytesIn n =
      d.bytesIn n ++ if name = n then (Content.text text).bytes else [] := by
  obtain ⟨content, happend, hbytes⟩ := d.exists_append_eq_put name text
  rw [happend, bytesIn_put, hbytes]
  simp only [hn, ne_eq, not_false_eq_true, and_true]
  split
  next h => rw [h]
  · exact (List.append_nil _).symm

theorem home_append (d : Directory) (name text : String) : (d.append name text).home = d.home := by
  obtain ⟨content, happend, -⟩ := d.exists_append_eq_put name text
  rw [happend, home_put]

end Directory
end EchoWatch
