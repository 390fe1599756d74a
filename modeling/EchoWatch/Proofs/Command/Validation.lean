import EchoWatch.Proofs.Command.Failure
import EchoWatch.Proofs.Directory
import EchoWatch.Proofs.Watch.Build
/-!
# What a validated configuration is good for

A configuration is validated by reading it and by making its peers. The service does the same
before it starts, and then looks up the notifier, which the validation does not. So the two agree on
every file whose notifier there is, and of the others the validation accepts what the service
refuses.

The validation reports what it accepted, and the output may refuse the report. What is accepted is
then still seen from the end of the program: nothing else ends so.

* **`Settings.load_tidy`**: a tidy path names the same configuration.
* **`Tool.endsWith_validate_iff`**: what is valid.
* **`Service.exists_build_iff`**: what the service can start from.
* **`Tool.validates_iff_starts`**: the two compared.
-/

namespace EchoWatch

/-! ## Tidy paths -/

namespace Settings

variable {read : Yaml.Loader}

/-- A tidy path leads to the same file. -/
theorem readFile_tidy {d : Directory} {path : String} {bytes : List UInt8} :
    readFile d (Directory.tidy path) = .ok bytes ↔ readFile d path = .ok bytes := by
  unfold readFile
  rw [Directory.place_tidy]
  cases d.place path with
  | blocked trouble => cases trouble <;> simp
  | file _ _ | directory | vacant _ => simp

/-- A configuration is in a file, and nowhere else. -/
theorem exists_file_of_load {d : Directory} {path : String} {s : Settings}
    (h : load read d path = .ok s) : ∃ name content, d.place path = .file name content := by
  obtain ⟨bytes, hread, -⟩ := load_eq_ok_iff.mp h
  unfold readFile at hread
  split at hread
  next name content hplace => exact ⟨name, content, hplace⟩
  all_goals cases hread

/-- A tidy path names the same configuration, if there is one. -/
theorem load_tidy {d : Directory} {path : String} {s : Settings} :
    load read d (Directory.tidy path) = .ok s ↔ load read d path = .ok s := by
  simp only [load_eq_ok_iff, readFile_tidy, ofBytes_eq_ok_iff]

end Settings

/-! ## Starting -/

theorem Catalog.isSome_get?_iff {α : Type} (c : Catalog α) (name : String) :
    (c.get? name).isSome = true ↔ name ∈ c.names := by
  simp [Catalog.get?, Catalog.names, List.mem_mergeSort]

/-- There is a carrier for every type that is known. -/
theorem Monitor.exists_carrierOf_iff {s : Settings} {agent : String} {t : Transport} :
    (∃ c, Monitor.carrierOf s agent t = .ok c) ↔
      s.notifier.type ∈ Catalog.builtIn.names := by
  rw [← Catalog.isSome_get?_iff]
  unfold Monitor.carrierOf
  cases Catalog.builtIn.get? s.notifier.type <;> simp

/-- The roster decides whether there is a board; how much it tells makes no difference. -/
theorem Board.exists_ofSettings_iff {s : Settings} {verbose : Bool} :
    (∃ b, Board.ofSettings s verbose = .ok b) ↔ ∃ r, Roster.ofSettings s = .ok r := by
  constructor
  · rintro ⟨b, hb⟩
    exact ⟨b.roster, (Board.ofSettings_eq_ok_iff.mp hb).1⟩
  · rintro ⟨r, hr⟩
    exact ⟨⟨r, s.timeout, verbose⟩, Board.ofSettings_eq_ok_iff.mpr ⟨hr, rfl, rfl⟩⟩

namespace Service

variable {read : Yaml.Loader} {d : Directory} {path address agent : String} {verbose : Bool}
  {t : Transport}

/-- What is built from a configuration once it is loaded. -/
theorem build_of_load {s : Settings} (h : Settings.load read d path = .ok s) :
    build read d path address verbose agent t =
      (Monitor.build s address verbose (Monitor.carrierOf s agent t)).mapError .monitor := by
  unfold build
  rw [h]

/-- What the service can start from: a configuration with peers, and with a notifier that there
is. -/
theorem exists_build_iff (haddress : address ≠ "") :
    (∃ m, build read d path address verbose agent t = .ok m) ↔
      ∃ s, Settings.load read d path = .ok s ∧ (∃ r, Roster.ofSettings s = .ok r) ∧
        s.notifier.type ∈ Catalog.builtIn.names := by
  cases hload : Settings.load read d path with
  | error e =>
    have hbuild : build read d path address verbose agent t = .error (.load e) := by
      unfold build
      rw [hload]
    simp [hbuild]
  | ok s =>
    have hok : ∀ m, build read d path address verbose agent t = .ok m ↔
        Monitor.build s address verbose (Monitor.carrierOf s agent t) = .ok m := by
      intro m
      rw [build_of_load hload]
      cases Monitor.build s address verbose (Monitor.carrierOf s agent t) <;>
        simp [Except.mapError]
    simp only [hok, Monitor.build_eq_ok_iff, Except.ok.injEq, exists_eq_left']
    rw [← @Board.exists_ofSettings_iff s verbose, ← @Monitor.exists_carrierOf_iff s agent t]
    constructor
    · rintro ⟨m, -, board, c, hboard, hcarrier, -⟩
      exact ⟨⟨board, hboard⟩, c, hcarrier⟩
    · rintro ⟨⟨board, hboard⟩, c, hcarrier⟩
      exact ⟨_, haddress, board, c, hboard, hcarrier, rfl⟩

/-- Without a notifier everything else may be in order, and the service still does not start. -/
theorem build_of_unknown_notifier (haddress : address ≠ "") {s : Settings}
    (hload : Settings.load read d path = .ok s) {r : Roster}
    (hroster : Roster.ofSettings s = .ok r) (htype : s.notifier.type ∉ Catalog.builtIn.names) :
    build read d path address verbose agent t =
      .error (.monitor (.unknownNotifier s.notifier.type)) := by
  obtain ⟨board, hboard⟩ := (@Board.exists_ofSettings_iff s verbose).mpr ⟨r, hroster⟩
  -- the type is looked up last, when all else was found in order
  have hcarrier : Monitor.carrierOf s agent t = .error (.unknownNotifier s.notifier.type) := by
    unfold Monitor.carrierOf
    cases hget : Catalog.builtIn.get? s.notifier.type with
    | none => rfl
    | some kind =>
      have hsome : (Catalog.builtIn.get? s.notifier.type).isSome = true := by
        rw [hget]
        rfl
      exact absurd ((Catalog.isSome_get?_iff _ _).mp hsome) htype
  rw [build_of_load hload, Monitor.build, if_neg haddress, hboard, hcarrier]
  rfl

end Service

/-! ## Printing -/

namespace Command.Deed

/-- The end of a program whose output refused a text. -/
def Refused (w : Surroundings) (d : Deed) : Prop :=
  ∃ text message, w.refuses? text = some message ∧ d.exit = .escaped (.unprintable text message)

/-- The end of a program with a status, unless its output refused a text. -/
def EndsWith (w : Surroundings) (d : Deed) (code : Nat) : Prop :=
  d.exit = .code code ∨ d.Refused w

variable {w : Surroundings}

/-- A line is printed before the rest is done, or it is refused and nothing more is done. -/
theorem saying_cases (w : Surroundings) (line : String) (rest : Deed) :
    ((saying w line rest).exit = rest.exit ∧ (saying w line rest).posts = rest.posts) ∨
      ((saying w line rest).Refused w ∧ (saying w line rest).posts = []) := by
  unfold saying printing
  split
  next => exact .inl ⟨rfl, rfl⟩
  next message hrefuses => exact .inr ⟨⟨_, message, hrefuses, rfl⟩, rfl⟩

theorem refused_congr {d d' : Deed} (h : d'.exit = d.exit) : d'.Refused w ↔ d.Refused w := by
  simp only [Refused, h]

theorem endsWith_ends (code : Nat) (events : List Event) :
    (Deed.ends code events).EndsWith w code :=
  .inl rfl

/-- Nothing but a refusal changes the end of a program that prints. -/
theorem EndsWith.saying {rest : Deed} {code : Nat} (h : rest.EndsWith w code) (line : String) :
    (Deed.saying w line rest).EndsWith w code := by
  rcases saying_cases w line rest with ⟨hexit, -⟩ | ⟨hrefused, -⟩
  · exact h.imp hexit.trans (refused_congr hexit).mpr
  · exact .inr hrefused

/-- Lines before the end leave the status as it is, if none of them is refused. -/
theorem EndsWith.telling {rest : Deed} {code : Nat} (h : rest.EndsWith w code)
    (lines : List String) : (Deed.telling w (lines.map .ok) rest).EndsWith w code := by
  induction lines with
  | nil => exact h
  | cons line lines ih => exact ih.saying line

end Command.Deed

/-! ## Validating -/

/-- The status that a program ends with, if it ends with one. -/
def Command.Exit.status? : Command.Exit → Option Nat
  | .code n => some n
  | .returned | .escaped _ => none

theorem Command.Exit.status?_eq_some_iff {exit : Command.Exit} {n : Nat} :
    exit.status? = some n ↔ exit = .code n := by
  cases exit <;> simp [status?]

namespace Command.Tool

variable {w : Surroundings} {path : String}

/-- A configuration and its board are read, or neither. -/
theorem readAll_eq_ok_iff {s : Settings} {b : Board} :
    readAll w path = .ok (s, b) ↔
      Settings.load w.read w.files path = .ok s ∧ Board.ofSettings s false = .ok b := by
  unfold readAll
  cases hload : Settings.load w.read w.files path with
  | error e => simp
  | ok s' =>
    constructor
    · intro h
      dsimp only at h
      split at h
      · cases h
      -- the configuration was loaded and the board was made, or there is an error
      next b' hboard =>
        cases h
        exact ⟨rfl, hboard⟩
    · rintro ⟨hs, hb⟩
      cases hs
      simp only [hb]

/-- A status other than one is that of the command, once everything was read. -/
theorem endsWith_withPeers_iff {report : String → String} {run : Settings → Board → Deed}
    {code : Nat} (hcode : code ≠ 1) :
    (withPeers w path report run).EndsWith w code ↔
      ∃ s b, readAll w path = .ok (s, b) ∧ (run s b).EndsWith w code := by
  unfold withPeers
  rcases readAll w path with e | ⟨s, b⟩
  · simp [Deed.EndsWith, Deed.Refused, Deed.ends, hcode.symm]
  · simp

/-- The validation accepts a file just when it gives a configuration and peers. -/
theorem endsWith_validate_iff :
    (validate w path).EndsWith w 0 ↔
      ∃ s, Settings.load w.read w.files path = .ok s ∧ ∃ r, Roster.ofSettings s = .ok r := by
  have hread :
      (∃ s, Settings.load w.read w.files path = .ok s ∧ ∃ r, Roster.ofSettings s = .ok r) ↔
        ∃ s b, readAll w path = .ok (s, b) := by
    simp only [readAll_eq_ok_iff, exists_and_left, Board.exists_ofSettings_iff]
  -- without a file there is nothing that could be read
  have hfile : (∃ s b, readAll w path = .ok (s, b)) →
      ∃ name content, w.files.place path = .file name content := by
    rintro ⟨s, b, h⟩
    exact Settings.exists_file_of_load (readAll_eq_ok_iff.mp h).1
  -- the report of what was accepted is printed, or refused
  have htold (lines : List String) : (Deed.telling w (lines.map .ok) (.ends 0 [])).EndsWith w 0 :=
    (Deed.endsWith_ends 0 []).telling lines
  rw [hread]
  unfold validate withFile
  split
  · rw [endsWith_withPeers_iff (by decide)]
    exact exists₂_congr fun s b => and_iff_left (htold [_, _, _, _, _])
  · rw [endsWith_withPeers_iff (by decide)]
    exact exists₂_congr fun s b => and_iff_left (htold [_, _, _, _, _])
  all_goals
    next hplace =>
    refine iff_of_false (by simp [Deed.EndsWith, Deed.Refused, Deed.ends, Deed.escapes]) fun h => ?_
    obtain ⟨name, content, hfile⟩ := hfile h
    cases hplace.symm.trans hfile

/-- The program carries out what it is ordered to do. -/
theorem deed_run {args : List String} {o : Order} {level : String} (horder : order args = .ok o)
    (hlevel : o.level = some level) : (run w args).deed = perform w o := by
  unfold run
  simp only [horder, hlevel]
  rfl

/-- The program validates the tidy path. -/
theorem exit_run_validate {args : List String} {o : Order} {level : String}
    (horder : order args = .ok o) (htask : o.task = .validate) (hconfig : o.config = some path)
    (hlevel : o.level = some level) :
    (run w args).deed.exit = (validate w (Directory.tidy path)).exit := by
  rw [deed_run horder hlevel]
  unfold perform
  simp only [htask, hconfig, Option.map_some]

/-- **Validating and starting agree, but for the notifier.** A file is validated, and a service is
to be started from it that listens to some address. The service can be built just when the
validation accepts the file and the configuration asks for a notifier that there is. If the
validation accepts a file all the same, then this is the only thing that is missing, and the service
says so. A file that is accepted ends the program with status 0, unless the output refuses a text of
the report. -/
theorem validates_iff_starts {args : List String} {o : Order} {level : String}
    (horder : order args = .ok o) (htask : o.task = .validate) (hconfig : o.config = some path)
    (hlevel : o.level = some level) {address : String} (haddress : address ≠ "") (verbose : Bool)
    (agent : String) (t : Transport) :
    let exit := (run w args).deed.exit
    let refused := ∃ text message, w.refuses? text = some message ∧
      exit = .escaped (.unprintable text message)
    let valid := exit = .code 0 ∨ refused
    let built := Service.build w.read w.files path address verbose agent t
    ((∃ m, built = .ok m) ↔ valid ∧ ∃ s, Settings.load w.read w.files path = .ok s ∧
      s.notifier.type ∈ Catalog.builtIn.names) ∧
    (valid → (∃ m, built = .ok m) ∨ ∃ s, Settings.load w.read w.files path = .ok s ∧
      s.notifier.type ∉ Catalog.builtIn.names ∧
      built = .error (.monitor (.unknownNotifier s.notifier.type))) := by
  intro exit refused valid built
  -- a configuration is valid if it loads and makes a roster: the type is never looked up
  have hvalid : valid ↔
      ∃ s, Settings.load w.read w.files path = .ok s ∧ ∃ r, Roster.ofSettings s = .ok r := by
    have hexit : exit = (validate w (Directory.tidy path)).exit :=
      exit_run_validate horder htask hconfig hlevel
    have hends : valid ↔ (validate w (Directory.tidy path)).EndsWith w 0 := by
      simp only [valid, refused, hexit, Deed.EndsWith, Deed.Refused]
    simp only [hends, endsWith_validate_iff, Settings.load_tidy]
  have hbuilt : (∃ m, built = .ok m) ↔ ∃ s, Settings.load w.read w.files path = .ok s ∧
      (∃ r, Roster.ofSettings s = .ok r) ∧ s.notifier.type ∈ Catalog.builtIn.names :=
    Service.exists_build_iff haddress
  constructor
  · rw [hbuilt, hvalid]
    constructor
    · rintro ⟨s, hload, hroster, htype⟩
      exact ⟨⟨s, hload, hroster⟩, s, hload, htype⟩
    · rintro ⟨⟨s, hload, hroster⟩, s', hload', htype⟩
      obtain rfl : s = s' := Except.ok.inj (hload.symm.trans hload')
      exact ⟨s, hload, hroster, htype⟩
  · rw [hvalid]
    rintro ⟨s, hload, r, hroster⟩
    by_cases htype : s.notifier.type ∈ Catalog.builtIn.names
    · exact .inl (hbuilt.mpr ⟨s, hload, ⟨r, hroster⟩, htype⟩)
    · exact .inr ⟨s, hload, htype,
        Service.build_of_unknown_notifier haddress hload hroster htype⟩

/-- A configuration with one peer that asks for a type of notifier. -/
def askingFor (type : String) : String :=
  "monitor_cycle: 9s\npeer_timeout: 9s\nnotifier:\n  type: " ++ type
    ++ "\npeers:\n- name: A\n  network: 10.0.0.0/8\n"

/-- The commands that validate the file of `Surroundings.idle`. -/
def validating : List String :=
  ["-c", "c.yaml", "config", "validate"]

theorem order_validating :
    order validating = .ok ⟨some "c.yaml", some "WARNING", .validate⟩ :=
  rfl

/-- A client that has never been asked, and that answers every request with success. -/
def willing : Transport :=
  .fresh fun _ _ => .status 200

/-- A configuration that names a known type is valid, and the program starts with it. -/
theorem starts_of_slack :
    let w : Surroundings := .idle (askingFor "slack")
    ∃ m, Service.build w.read w.files "c.yaml" "0.0.0.0" false "" willing = .ok m := by
  intro w
  -- the program is run, and what it says about the file is then used
  have hexit : (run w validating).deed.exit = .code 0 := by
    have hstatus : (run w validating).deed.exit.status? = some 0 := by decide +kernel
    exact Exit.status?_eq_some_iff.mp hstatus
  have hknown : (Settings.load w.read w.files "c.yaml").toOption.any
      (fun s => (Catalog.builtIn.get? s.notifier.type).isSome) = true := by decide +kernel
  cases hload : Settings.load w.read w.files "c.yaml" with
  | error e =>
    rw [hload] at hknown
    cases hknown
  | ok s =>
    rw [hload] at hknown
    have htype : s.notifier.type ∈ Catalog.builtIn.names := (Catalog.isSome_get?_iff _ _).mp hknown
    have hstarts := (@validates_iff_starts w "c.yaml" validating _ "WARNING" order_validating rfl
      rfl rfl "0.0.0.0" (by decide) false "" willing).1
    exact hstarts.mpr ⟨.inl hexit, s, hload, htype⟩

/-- A notifier that there is not passes the validation, and the service does not start. -/
theorem valid_without_starting :
    ¬ ∀ (w : Surroundings) (args : List String) (o : Order) (path level address agent : String)
        (verbose : Bool) (t : Transport), order args = .ok o → o.task = .validate →
      o.config = some path → o.level = some level → address ≠ "" →
      ((run w args).deed.exit = .code 0 ↔
        ∃ m, Service.build w.read w.files path address verbose agent t = .ok m) := by
  intro hagree
  let w : Surroundings := .idle (askingFor "pager")
  have hexit : (run w validating).deed.exit.status? = some 0 := by decide +kernel
  -- the same file is valid and makes no monitor
  have hbuilt : (Service.build w.read w.files "c.yaml" "0.0.0.0" false "" willing).toOption.isSome =
      false := by decide +kernel
  obtain ⟨m, hm⟩ := (hagree w validating _ "c.yaml" "WARNING" "0.0.0.0" "" false willing
    order_validating rfl rfl rfl (by decide)).mp (Exit.status?_eq_some_iff.mp hexit)
  rw [hm] at hbuilt
  cases hbuilt

end Command.Tool
end EchoWatch
