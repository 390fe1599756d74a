import EchoWatch.Command.Run
/-!
# When the service cannot be started

A service needs a monitor, and a configuration file may not give one. What is wrong is then reported
in one line of the journal, which no set-up hides, and the program ends. But it is prepared for
families of errors and not for all: of the files that it can open, those from whose text no document
can be read, and those with a duration that cannot be counted, make it fail without a word.

* **`Unforeseen`**: the files that the program is not prepared for.
* **`prepared_contains_iff`**: they are the only ones.
* **`run_failure`**: how the program ends when there is no monitor.
-/

namespace EchoWatch

/-! ## The journal -/

namespace Journal

/-- What is installed shows on the stream and has the threshold that was asked for. -/
theorem install_ok {o : Options} {stream : String} {d files : Directory} {shown threshold : Nat}
    {installed : Installed} {journal : Journal}
    (h : setup.install d o stream shown threshold = (.ok installed, journal, files)) :
    journal.console = some stream ∧ journal.threshold = threshold := by
  unfold setup.install at h
  dsimp only at h
  split at h
  · cases h
    exact ⟨rfl, rfl⟩
  · cases h
    exact ⟨rfl, rfl⟩
  · split at h
    · cases h
      exact ⟨rfl, rfl⟩
    · cases h

/-- The name of a level stands for none above the highest. -/
theorem severity_le_of_ofName {name : String} {n : Nat}
    (h : Threshold.ofName name = .severity n) : n ≤ Level.critical.severity := by
  unfold Threshold.ofName at h
  split at h <;> cases h <;> decide

/-- Every set-up gives a console, and lets critical entries through. -/
theorem setup_ok {j journal : Journal} {d files : Directory} {o : Options} {stream : String}
    {installed : Installed} (h : j.setup d o stream = (.ok installed, journal, files)) :
    journal.console = some stream ∧ journal.admits .critical = true := by
  -- a threshold that can be asked for is never above the highest level
  have hset : journal.console = some stream ∧ journal.threshold ≤ Level.critical.severity := by
    unfold setup at h
    split at h
    · cases h
    · cases h
    · obtain ⟨hconsole, hthreshold⟩ := install_ok h
      rw [hthreshold]
      exact ⟨hconsole, by decide⟩
    next n hname =>
      obtain ⟨hconsole, hthreshold⟩ := install_ok h
      rw [hthreshold]
      exact ⟨hconsole, severity_le_of_ofName hname⟩
  exact ⟨hset.1, decide_eq_true hset.2⟩

end Journal

/-! ## What can be loaded -/

namespace Settings

variable {read : Yaml.Loader}

/-- A configuration comes from a document that is a mapping and valid. -/
theorem ofBytes_eq_ok_iff {path : String} {bytes : List UInt8} {s : Settings} :
    ofBytes read path bytes = .ok s ↔
      ∃ entries, read bytes = .ok (.map entries) ∧ ofValue (.map entries) = .valid s := by
  unfold ofBytes
  split
  next cause hread => simp [hread]
  next entries hread =>
    rw [hread]
    cases hchecked : ofValue (.map entries) <;> simp [hchecked]
  next v hmapping hread =>
    rw [hread]
    simpa using fun entries hentries => absurd hentries (hmapping entries)

/-- A configuration that is loaded comes from the bytes of its file. -/
theorem load_eq_ok_iff {d : Directory} {path : String} {s : Settings} :
    load read d path = .ok s ↔
      ∃ bytes, readFile d path = .ok bytes ∧ ofBytes read path bytes = .ok s := by
  unfold load
  cases readFile d path <;> simp

end Settings

namespace Command

/-! ## What becomes visible -/

/-- Whether the standard output takes a text. -/
def Surroundings.shows (w : Surroundings) (text : String) : Bool :=
  (w.refuses? text).isNone

/-- The program ends, has put some lines into its journal, which the output shows as far as it can,
and has done nothing else that is visible. -/
structure Ended.Quiet (w : Surroundings) (ended : Ended) (exit : Exit) (lines : List String) :
    Prop where
  exit : ended.deed.exit = exit
  stdout : ended.transcript.stdout = String.join (lines.filter w.shows)
  lost : ended.transcript.lost = lines.filter fun line => !w.shows line
  stderr : ended.transcript.stderr = ""
  others : ended.transcript.others = []
  posts : ended.deed.posts = []
  handlesSignals : ended.deed.handlesSignals = false
  opened : ended.deed.opened = []
  closes : ended.deed.closes = 0

theorem quiet_escapes (w : Surroundings) (journal : Journal) (files : Directory) (e : Escape) :
    ((Deed.escapes e).shown w journal files).Quiet w (.escaped e) [] :=
  ⟨rfl, rfl, rfl, rfl, rfl, rfl, rfl, rfl, rfl⟩

/-- An entry of the main thread, on a journal that has a console and admits it, is one line; the
line is shown or lost. -/
theorem ofEvents_log {w : Surroundings} {journal : Journal} {files : Directory} {e : Entry}
    {stream : String} (hconsole : journal.console = some stream)
    (hadmits : journal.admits e.level = true) (hthread : e.thread = .main) :
    let line := Journal.line w.journalTime e ++ "\n"
    Transcript.ofEvents w.refuses? journal w.journalTime files [.log e] =
      { stdout := String.join ([line].filter w.shows), stderr := "", others := []
        lost := [line].filter fun line => !w.shows line
        files := (journal.write files w.journalTime e).2 } := by
  intro line
  -- the entry passes, and the line goes to the stream unless that refuses it
  have hwrite : (journal.write files w.journalTime e).1 = some line := by
    rw [Journal.write, if_pos hadmits, Journal.display, hconsole]
  have hevents : Transcript.ofEvents w.refuses? journal w.journalTime files [.log e] =
      Transcript.receive w.refuses? journal e.thread line
        { Transcript.start files with files := (journal.write files w.journalTime e).2 } := by
    show Transcript.add w.refuses? journal w.journalTime (.start files) (.log e) = _
    simp only [Transcript.add, Transcript.start, hwrite]
  rw [hevents, Transcript.receive, hconsole, hthread]
  cases hrefuses : w.refuses? line <;>
    simp [Surroundings.shows, hrefuses, Transcript.start, String.join]

/-- A program that ends after one entry of its main thread, if the journal admits it. -/
theorem quiet_ends_log {w : Surroundings} {journal : Journal} {files : Directory} {e : Entry}
    {stream : String} (hconsole : journal.console = some stream)
    (hadmits : journal.admits e.level = true) (hthread : e.thread = .main) (code : Nat) :
    ((Deed.ends code [.log e]).shown w journal files).Quiet w (.code code)
      [Journal.line w.journalTime e ++ "\n"] := by
  have hevents := @ofEvents_log w journal files e stream hconsole hadmits hthread
  exact ⟨rfl, congrArg Transcript.stdout hevents, congrArg Transcript.lost hevents,
    congrArg Transcript.stderr hevents, congrArg Transcript.others hevents, rfl, rfl, rfl, rfl⟩

/-- Surroundings in which there is one configuration file, and in which nothing happens. Every
request is answered with success, and every text is shown. -/
def Surroundings.idle (content : String) : Surroundings :=
  { files := ⟨"/watch", [], [("/watch/c.yaml", .text content)]⟩, read := Yaml.read
    now := ⟨Moment.epochWall, some .utc⟩
    journalTime := ⟨Moment.epochWall, some .utc⟩, client := .scripted [], agent := ""
    interface := "", refusal := none, script := ⟨[], .terminate⟩, refuses? := fun _ => none }

/-! ## Files that nobody is prepared for -/

namespace Daemon

/-- The bytes of a file for which the program is not prepared: a text from which no document can be
read, or a mapping with a duration that cannot be counted. -/
inductive Unforeseen (read : Yaml.Loader) (bytes : List UInt8) : Prop where
  | document {cause : Yaml.Error} (hread : read bytes = .error cause)
      (hcause : Service.documentFamily cause ≠ .value)
  | duration {entries : List (Value × Value)} {cause : Duration.Overflow}
      (hread : read bytes = .ok (.map entries))
      (hchecked : Settings.ofValue (.map entries) = .aborted cause)

variable {read : Yaml.Loader}

/-- Of a mapping, only a check that is given up is unforeseen. -/
theorem unforeseen_iff_of_mapping {bytes : List UInt8} {entries : List (Value × Value)}
    (hread : read bytes = .ok (.map entries)) :
    Unforeseen read bytes ↔ ∃ cause, Settings.ofValue (.map entries) = .aborted cause := by
  constructor
  · rintro (⟨hread', -⟩ | ⟨hread', hchecked⟩)
    · cases hread.symm.trans hread'
    · cases hread.symm.trans hread'
      exact ⟨_, hchecked⟩
  · rintro ⟨cause, hchecked⟩
    exact .duration hread hchecked

/-- A file that makes a configuration is foreseen. -/
theorem not_unforeseen_of_ok {path : String} {bytes : List UInt8} {s : Settings}
    (h : Settings.ofBytes read path bytes = .ok s) : ¬ Unforeseen read bytes := by
  obtain ⟨entries, hread, hchecked⟩ := Settings.ofBytes_eq_ok_iff.mp h
  rw [unforeseen_iff_of_mapping hread]
  rintro ⟨cause, haborted⟩
  cases hchecked.symm.trans haborted

/-- Bytes that hold no configuration are unforeseen just when the error is in none of the families
that the program is prepared for. -/
theorem prepared_contains_iff_of_ofBytes {path : String} {bytes : List UInt8}
    {e : Settings.LoadError} (h : Settings.ofBytes read path bytes = .error e) :
    prepared.contains (Service.loadFamily e) = true ↔ ¬ Unforeseen read bytes := by
  unfold Settings.ofBytes at h
  split at h
  next cause hread =>
    cases h
    -- no document: prepared for, if the reader says that the text is wrong in its value
    have hfamily : prepared.contains (Service.documentFamily cause) = true ↔
        Service.documentFamily cause = .value := by
      cases cause <;> simp [prepared, Service.documentFamily]
    rw [Service.loadFamily, hfamily]
    constructor
    · rintro hvalue (⟨hread', hcause⟩ | ⟨hread', -⟩)
      · cases hread.symm.trans hread'
        exact hcause hvalue
      · cases hread.symm.trans hread'
    · intro hforeseen
      by_cases hcause : Service.documentFamily cause = .value
      · exact hcause
      · exact absurd (.document hread hcause) hforeseen
  next entries hread =>
    rw [unforeseen_iff_of_mapping hread]
    split at h
    · cases h
    next faults hchecked =>
      cases h
      simp [hchecked, prepared, Service.loadFamily]
    next cause hchecked =>
      cases h
      simp [hchecked, prepared, Service.loadFamily]
  next v hmapping hread =>
    cases h
    refine iff_of_true rfl ?_
    rintro (⟨hread', -⟩ | ⟨hread', -⟩)
    · cases hread.symm.trans hread'
    · cases hread.symm.trans hread'
      exact hmapping _ rfl

/-- The only errors for which the program is not prepared come from files of a certain content. -/
theorem prepared_contains_iff {files : Directory} {config address : String} {verbose : Bool}
    {agent : String} {t : Transport} {e : Service.BuildError}
    (h : Service.build read files config address verbose agent t = .error e) :
    prepared.contains e.family = true ↔
      ¬ ∃ bytes, Settings.readFile files config = .ok bytes ∧ Unforeseen read bytes := by
  unfold Service.build Settings.load at h
  -- an error before or after the document is always prepared for
  cases hfile : Settings.readFile files config with
  | error cause =>
    rw [hfile] at h
    cases h
    refine iff_of_true ?_ (by simp)
    unfold Settings.readFile at hfile
    split at hfile <;> cases hfile <;> rfl
  | ok bytes =>
    rw [hfile] at h
    simp only [Except.ok.injEq, exists_eq_left']
    cases hload : Settings.ofBytes read config bytes with
    | error cause =>
      simp only [hload] at h
      cases h
      exact prepared_contains_iff_of_ofBytes hload
    | ok s =>
      simp only [hload] at h
      refine iff_of_true ?_ (not_unforeseen_of_ok hload)
      cases hbuild : Monitor.build s address verbose (Monitor.carrierOf s agent t) with
      | ok m =>
        rw [hbuild] at h
        cases h
      | error cause =>
        rw [hbuild] at h
        cases h
        cases cause <;> rfl

/-! ## The end of the program -/

/-- An error that the program is prepared for is logged, and the status is one. -/
theorem perform_of_prepared {w : Surroundings} {o : Order} {config : String}
    {e : Service.BuildError}
    (hbuild : Service.build w.read w.files config o.listen o.verbose w.agent w.transport = .error e)
    (hprepared : prepared.contains e.family = true) :
    perform w o config = .ends 1 [.log (buildFailure config e)] := by
  unfold perform
  simp only [hbuild, hprepared]

/-- Any other error comes from the configuration, and escapes. -/
theorem perform_of_unprepared {w : Surroundings} {o : Order} {config : String}
    {e : Service.BuildError}
    (hbuild : Service.build w.read w.files config o.listen o.verbose w.agent w.transport = .error e)
    (hprepared : prepared.contains e.family = false) :
    ∃ cause, e = .load cause ∧ perform w o config = .escapes (.load cause) := by
  cases e with
  | load cause =>
    refine ⟨cause, rfl, ?_⟩
    unfold perform
    simp only [hbuild, hprepared]
  | monitor cause =>
    -- there is no such error that the program is not prepared for
    cases cause <;> cases hprepared

/-- An order is carried out with the journal that was set up for it. -/
theorem run_of_order {w : Surroundings} {args : List String} {o : Order} {config level : String}
    {installed : Journal.Installed} {journal : Journal} {files : Directory}
    (horder : order args = .ok o) (hconfig : o.config = some config) (hlevel : o.level = some level)
    (hsetup : Journal.initial.setup w.files { level, file := o.logFile } "stdout" =
      (.ok installed, journal, files)) :
    run w args = (perform { w with files } o config).shown w journal files := by
  unfold run
  simp only [horder, hlevel, hsetup, hconfig]

/-- **What the program does when there is no monitor.** It has been told a configuration file, and
its journal is set up; whatever the file holds and whatever address it is to listen to, if no
monitor can be built, then either the file is one that the program is prepared for, and it logs one
critical line that says why and ends with status 1, or the file holds something unforeseen, and the
error comes out of the program, which has logged nothing. In both cases nothing else is to be seen
of it. The line is printed, unless the output refuses it. -/
theorem run_failure {w : Surroundings} {args : List String} {o : Order} {config level : String}
    {installed : Journal.Installed} {journal : Journal} {files : Directory}
    {e : Service.BuildError} (horder : order args = .ok o) (hconfig : o.config = some config)
    (hlevel : o.level = some level)
    (hsetup : Journal.initial.setup w.files { level, file := o.logFile } "stdout" =
      (.ok installed, journal, files))
    (hbuild : Service.build w.read files config o.listen o.verbose w.agent w.transport =
      .error e) :
    let unforeseen := ∃ bytes, Settings.readFile files config = .ok bytes ∧
      Unforeseen w.read bytes
    (¬ unforeseen → (run w args).Quiet w (.code 1)
      [Journal.line w.journalTime (buildFailure config e) ++ "\n"]) ∧
    (unforeseen → ∃ cause, e = .load cause ∧
      (run w args).Quiet w (.escaped (.load cause)) []) := by
  intro unforeseen
  -- either the error is caught and logged, or it passes all that is set up to catch it
  have hiff : prepared.contains e.family = true ↔ ¬ unforeseen := prepared_contains_iff hbuild
  rw [run_of_order horder hconfig hlevel hsetup]
  constructor
  · intro hforeseen
    rw [perform_of_prepared (w := { w with files }) hbuild (hiff.mpr hforeseen)]
    obtain ⟨hconsole, hadmits⟩ := Journal.setup_ok hsetup
    exact quiet_ends_log (w := w) hconsole hadmits rfl 1
  · intro hunforeseen
    have hprepared : prepared.contains e.family = false := by
      rw [← Bool.not_eq_true, hiff]
      exact not_not_intro hunforeseen
    obtain ⟨cause, rfl, hperform⟩ :=
      perform_of_unprepared (w := { w with files }) hbuild hprepared
    rw [hperform]
    exact ⟨cause, rfl, quiet_escapes w journal files (.load cause)⟩

/-- A file that is not there is reported. -/
theorem run_failure_of_missing_file :
    (run (.idle "") ["--config", "none.yaml"]).Quiet (.idle "") (.code 1)
      ["1970-01-01 00:00:00 [CRITICAL] woodwatch.daemon: Error loading config none.yaml: "
        ++ "Configuration file not found: none.yaml\n"] := by
  let o : Order := ⟨some "none.yaml", defaultAddress, false, some "INFO", none⟩
  have horder : order ["--config", "none.yaml"] = .ok o := rfl
  have hsetup : Journal.initial.setup (Surroundings.idle "").files { level := "INFO" } "stdout" =
      (.ok ⟨20, false⟩, ⟨20, some "stdout", none⟩, (Surroundings.idle "").files) := rfl
  have hmissing : Settings.readFile (Surroundings.idle "").files "none.yaml" =
      .error (.notFound "none.yaml") := rfl
  have hquiet := (run_failure (o := o) horder rfl rfl hsetup rfl).1 (by
    rintro ⟨bytes, hread, -⟩
    cases hmissing.symm.trans hread)
  have hline : Journal.line (Surroundings.idle "").journalTime
      (buildFailure "none.yaml" (.load (.notFound "none.yaml"))) ++ "\n" =
        "1970-01-01 00:00:00 [CRITICAL] woodwatch.daemon: Error loading config none.yaml: "
          ++ "Configuration file not found: none.yaml\n" := by
    decide +kernel
  rwa [hline] at hquiet

/-- A file that ends where it should go on is not reported. -/
theorem truncated_file_escapes :
    ¬ ∀ (w : Surroundings) (args : List String) (o : Order) (config level : String)
        (installed : Journal.Installed) (journal : Journal) (files : Directory)
        (e : Service.BuildError), order args = .ok o → o.config = some config →
      o.level = some level →
      Journal.initial.setup w.files { level, file := o.logFile } "stdout" =
        (.ok installed, journal, files) →
      Service.build w.read files config o.listen o.verbose w.agent w.transport = .error e →
      (run w args).deed.exit = .code 1 := by
  intro hreported
  have hexit := hreported (.idle "[") ["--config", "c.yaml"] _ "c.yaml" "INFO" _ _ _
    (.load (.unreadable .malformed)) rfl rfl rfl rfl rfl
  have hescapes : (run (.idle "[") ["--config", "c.yaml"]).deed.exit =
      .escaped (.load (.unreadable .malformed)) := rfl
  cases hescapes.symm.trans hexit

end Daemon
end Command
end EchoWatch
