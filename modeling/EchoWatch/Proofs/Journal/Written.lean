import EchoWatch.Journal.Archive
import EchoWatch.Proofs.Directory
import Mathlib.Data.List.Basic
import Mathlib.Data.List.Induction
/-!
# Every entry is written once

A journal can be set up again and again, and what one set-up installs the next one takes away. So
an entry has one place to go to: the console and the file of the set-up in force, which is the last
one before it. Before the first one there is only the stream of the last resort.

* **`written`**: the texts that belong to a stream or to a file, read off the calls alone.
* **`LeftBy`**: a journal is known from its last set-up.
* **`Archive.writes_each_entry_once`**: the streams and the files of an archive after any calls.
-/

namespace EchoWatch
namespace Journal

/-! ## Names -/

/-- A set-up that may be in force, with its stream, or none. -/
abbrev Setting := Option (Options × String)

/-- The level that a set-up names, in any case. -/
def Options.level? (o : Options) : Option Level :=
  Level.ofName? (String.ofList (o.level.toList.flatMap capitals))

/-- The name of the file of a set-up: its path is taken from the working directory of the files, and
without steps up. An empty path is none. -/
def Options.path? (o : Options) (files : Directory) : Option String :=
  (o.file.filter (· ≠ "")).map fun path => Directory.nameOf (files.direct path)

namespace Setting

/-- Whether entries of a level are written. Without a set-up warnings are, and what is worse. -/
def passes (setting : Setting) (level : Level) : Bool :=
  let least := match setting with
    | some (o, _) => o.level?
    | none => some .warning
  least.any fun least => least.severity ≤ level.severity

/-- What an entry looks like on the console. -/
def display (setting : Setting) (time : Moment) (e : Entry) : String :=
  match setting with
  | some _ => line time e ++ "\n"
  | none => e.message ++ "\n"

/-- The stream on which entries are shown. -/
def stream : Setting → String
  | some (_, stream) => stream
  | none => lastResort

/-- The name of the file that entries are written to, if there is one. -/
def file? (files : Directory) (setting : Setting) : Option String :=
  setting.bind fun (o, _) => o.path? files

end Setting

namespace Call

def setup? : Call → Setting
  | .setup o stream => some (o, stream)
  | .log .. => none

/-- The entry that is logged, and when, if the template fits its arguments. -/
def record? : Call → Option (Moment × Entry)
  | .setup .. => none
  | .log time level name template args =>
    (Template.message template args).toOption.map fun message =>
      (time, { level, source := sourceName name, message })

/-- A set-up names a level and never lets its file roll over; the template of an entry fits its
arguments, and the line that comes of it is text. -/
def WellFormed : Call → Prop
  | .setup o _ => o.level?.isSome = true ∧ o.maxBytes = 0
  | .log time level name template args =>
    ∃ message, Template.message template args = .ok message ∧
      Text.hasHalf (line time { level, source := sourceName name, message } ++ "\n") = false

/-- A call whose message can be made has its record. -/
theorem record?_of_message {template message : String} {args : List Value}
    (h : Template.message template args = .ok message) (time : Moment) (level : Level)
    (name : String) : (Call.log time level name template args).record? =
      some (time, { level, source := sourceName name, message }) := by
  rw [record?, h]
  rfl

end Call

/-- The set-up in force after some calls. -/
def latest (calls : List Call) : Setting :=
  (calls.filterMap Call.setup?).getLast?

/-- The text that a call writes after others, if the set-up in force then is one of those that
`dest` is about. -/
def text? (dest : Setting → Bool) (earlier : List Call) (c : Call) : Option String :=
  let setting := latest earlier
  c.record?.bind fun (time, e) =>
    if dest setting && setting.passes e.level then some (setting.display time e) else none

/-- The texts that belong where `dest` says: every entry goes by the last set-up before it. -/
def written (dest : Setting → Bool) (calls : List Call) : List String :=
  (List.range calls.length).filterMap fun i => calls[i]?.bind (text? dest (calls.take i))

theorem text?_setup (dest : Setting → Bool) (earlier : List Call) (o : Options) (stream : String) :
    text? dest earlier (.setup o stream) = none :=
  rfl

/-- A record is written where the set-up in force puts it, if its level passes. -/
theorem text?_of_record {c : Call} {time : Moment} {e : Entry} (h : c.record? = some (time, e))
    (dest : Setting → Bool) (earlier : List Call) : text? dest earlier c =
      if dest (latest earlier) && (latest earlier).passes e.level then
        some ((latest earlier).display time e)
      else none := by
  rw [text?, h]
  rfl

/-- A set-up is in force from then on. -/
theorem latest_snoc_setup (calls : List Call) (o : Options) (stream : String) :
    latest (calls ++ [.setup o stream]) = some (o, stream) := by
  rw [latest, List.filterMap_append]
  exact List.getLast?_concat

/-- Other calls leave the set-up in force. -/
theorem latest_snoc_log {c : Call} (h : c.setup? = none) (calls : List Call) :
    latest (calls ++ [c]) = latest calls := by
  rw [latest, List.filterMap_append, List.filterMap_cons_none h, List.filterMap_nil,
    List.append_nil]
  rfl

/-- What belongs somewhere grows at its end, by what the last call writes. -/
theorem written_snoc (dest : Setting → Bool) (calls : List Call) (c : Call) :
    written dest (calls ++ [c]) = written dest calls ++ (text? dest calls c).toList := by
  have hsame : (List.range calls.length).filterMap (fun i =>
      (calls ++ [c])[i]?.bind (text? dest ((calls ++ [c]).take i))) = written dest calls := by
    refine List.filterMap_congr fun i hi => ?_
    have hlt := List.mem_range.mp hi
    rw [List.getElem?_append_left hlt, List.take_append_of_le_length (Nat.le_of_lt hlt)]
  rw [written, List.length_append, List.length_singleton, List.range_succ, List.filterMap_append,
    hsame]
  congr 1
  cases htext : text? dest calls c <;> simp [htext]

/-! ## The set-up in force -/

/-- The name of a level is read as its severity. -/
theorem Threshold.ofName_of_level {o : Options} {level : Level} (h : o.level? = some level) :
    Threshold.ofName o.level = .severity level.severity := by
  unfold Options.level? Level.ofName? at h
  unfold Threshold.ofName
  split at h <;> cases h <;> simp_all [Level.severity]

/-- What a journal is like when a set-up is in force, or none yet. -/
structure LeftBy (files : Directory) (setting : Setting) (j : Journal) : Prop where
  admits : ∀ level, j.admits level = setting.passes level
  display : ∀ time e, j.display time e = setting.display time e
  stream : j.console.getD lastResort = setting.stream
  /-- Its file is the one of the set-up, by its name. -/
  file : j.file.map JournalFile.name = setting.file? files
  /-- Its file does not roll over. -/
  maxBytes : ∀ f ∈ j.file, f.maxBytes = 0

/-- The file of a set-up is known from the working directory alone. -/
theorem Options.path?_congr (o : Options) {files files' : Directory}
    (hhome : files.home = files'.home) : o.path? files = o.path? files' := by
  have hdirect : files.direct = files'.direct := by
    funext path
    simp only [Directory.direct, Directory.start, Directory.homeSteps, hhome]
  rw [Options.path?, hdirect]
  rfl

/-- Opening a file gives the journal the file at the end of its path, and leaves the bytes in all
files alone. -/
theorem openFile_eq_ok {d d' : Directory} {path : String} {maxBytes backups : Int} {f : JournalFile}
    (h : openFile d path maxBytes backups = .ok (f, d')) :
    f.name = Directory.nameOf (d.direct path) ∧ f.maxBytes = maxBytes ∧ d'.home = d.home ∧
      ∀ n, d'.bytesIn n = d.bytesIn n := by
  unfold openFile at h
  dsimp only at h
  have hends := d.ends_place_absolute path
  cases hplace : d.place (d.absolute path) with
  | directory | blocked _ =>
    rw [hplace] at h
    cases h
  | file name content =>
    rw [hplace] at h hends
    cases hends
    cases h
    exact ⟨rfl, rfl, rfl, fun _ => rfl⟩
  | vacant name =>
    rw [hplace] at h hends
    cases hends with
    | vacant hnone =>
      cases h
      refine ⟨rfl, rfl, d.home_put _ _, fun n => ?_⟩
      -- a file that is made holds as little as one that is not there
      have hempty : d.bytesIn (Directory.nameOf (d.direct path)) = [] := by
        rw [Directory.bytesIn, hnone]
        rfl
      rw [Directory.bytesIn_put]
      split
      next hsame =>
        rw [← hsame.1, hempty]
        rfl
      · rfl

/-- A set-up that succeeds is in force after it. -/
theorem setup_eq_ok {j j' : Journal} {d d' : Directory} {o : Options} {stream : String}
    {shown : Installed} (hlevel : o.level?.isSome = true) (hmax : o.maxBytes = 0)
    (h : j.setup d o stream = (.ok shown, j', d')) :
    j'.LeftBy d (some (o, stream)) ∧ d'.home = d.home ∧ ∀ n, d'.bytesIn n = d.bytesIn n := by
  obtain ⟨level, hlevel⟩ := Option.isSome_iff_exists.mp hlevel
  -- what passes is up to the level alone, whether there is a file or not
  have hadmits : ∀ (file : Option JournalFile) (other : Level),
      Journal.admits ⟨level.severity, some stream, file⟩ other =
        Setting.passes (some (o, stream)) other := by
    intro file other
    rw [admits, Setting.passes, hlevel]
    rfl
  have hbare (hpath : o.path? d = none) :
      LeftBy d (some (o, stream)) ⟨level.severity, some stream, none⟩ :=
    ⟨hadmits none, fun _ _ => rfl, rfl, hpath.symm, nofun⟩
  unfold setup setup.install at h
  rw [Threshold.ofName_of_level hlevel] at h
  dsimp only at h
  split at h
  next hfile =>
    cases h
    exact ⟨hbare (by rw [Options.path?, hfile]; rfl), rfl, fun _ => rfl⟩
  next hfile =>
    cases h
    exact ⟨hbare (by rw [Options.path?, hfile]; rfl), rfl, fun _ => rfl⟩
  -- with a file, which is opened and must not be cut
  next path hne hfile =>
    split at h
    next f d₁ hopen =>
      cases h
      obtain ⟨hname, hbytes, hhome, hsame⟩ := openFile_eq_ok hopen
      have hkept : decide (path ≠ "") = true := decide_eq_true hne
      have hpath : o.path? d = some f.name := by
        rw [Options.path?, hfile, Option.filter_some, if_pos hkept, hname]
        rfl
      refine ⟨⟨hadmits (some f), fun _ _ => rfl, rfl, hpath.symm, ?_⟩, hhome, hsame⟩
      rintro _ ⟨⟩
      exact hbytes.trans hmax
    · cases h

/-! ## Entries -/

/-- A message that can be put together is written, whether or not the journal looked at it. -/
theorem log_eq_ok {template message : String} {args : List Value}
    (h : Template.message template args = .ok message) (j : Journal) (d : Directory) (time : Moment)
    (level : Level) (source : String) :
    j.log d time level source template args = .ok (j.write d time { level, source, message }) := by
  unfold log
  cases hadmits : j.admits level with
  | true =>
    rw [if_pos rfl, h]
    rfl
  | false => simp [write, hadmits]

/-- A file that never rolls over only grows. -/
theorem write_of_unbounded {f : JournalFile} (hmax : f.maxBytes = 0) (d : Directory) {text : String}
    (htext : Text.hasHalf text = false) : f.write d text = d.append f.name text := by
  have hfull : f.isFull d text = false := by simp [JournalFile.isFull, hmax]
  simp [JournalFile.write, hfull, htext]

/-- An entry goes to the console and to the file of the set-up in force, if its level lets it pass;
what a file gets is what is shown. -/
theorem LeftBy.write {files : Directory} {setting : Setting} {j : Journal}
    (h : j.LeftBy files setting) (d : Directory) {time : Moment} {e : Entry}
    (htext : Text.hasHalf (line time e ++ "\n") = false) :
    let text := setting.display time e
    let written := j.write d time e
    written.1 = (if setting.passes e.level then some text else none) ∧
      written.2.home = d.home ∧
      ∀ n ≠ Directory.nullDevice, written.2.bytesIn n =
        d.bytesIn n ++ if setting.file? files = some n ∧ setting.passes e.level = true then
          (Content.text text).bytes else [] := by
  intro text written
  have hadmits := h.admits e.level
  cases hpasses : setting.passes e.level with
  | false => simp [written, Journal.write, hadmits, hpasses]
  | true =>
    rw [hpasses] at hadmits
    have hfile := h.file
    cases hj : j.file with
    | none =>
      rw [hj] at hfile
      have hwritten : written = (some text, d) := by
        simp only [written, Journal.write, hadmits, if_true, hj, h.display, text]
      rw [hwritten, ← hfile]
      exact ⟨rfl, rfl, fun n _ => by simp⟩
    | some f =>
      rw [hj] at hfile
      have hmax : f.maxBytes = 0 := h.maxBytes f (hj ▸ rfl)
      -- only a set-up gives a file, and then the console shows whole lines
      have hline : text = line time e ++ "\n" := by
        cases setting with
        | none => cases hfile
        | some latest => rfl
      have hwritten : written = (some text, d.append f.name text) := by
        simp only [written, Journal.write, hadmits, if_true, hj, h.display, text]
        rw [← hline, write_of_unbounded hmax d (hline ▸ htext)]
      rw [hwritten, ← hfile]
      refine ⟨rfl, d.home_append _ _, fun n hn => ?_⟩
      rw [Directory.bytesIn_append _ _ _ hn]
      simp

end Journal

/-! ## Archives -/

namespace Archive

open Journal

theorem after_snoc (a : Archive) (calls : List Call) (c : Call) :
    a.after (calls ++ [c]) = ((a.after calls).call c).2 := by
  simp [after]

/-- The texts for a stream among those that some calls write. -/
def onStream (s : String) (setting : Setting) : Bool :=
  setting.stream = s

/-- The texts for a file among those that some calls write. -/
def inFile (files : Directory) (n : String) (setting : Setting) : Bool :=
  setting.file? files = some n

/-- What an archive has written after some calls, beside what was there before. -/
structure Faithful (streams : String → String) (files : Directory) (calls : List Call)
    (a : Archive) : Prop where
  journal : a.journal.LeftBy files (latest calls)
  home : a.files.home = files.home
  streams : ∀ s, a.streams s = streams s ++ String.join (written (onStream s) calls)
  files : ∀ n ≠ Directory.nullDevice, a.files.bytesIn n = files.bytesIn n ++
    (written (inFile files n) calls).flatMap fun l => (Content.text l).bytes

variable {streams : String → String} {files : Directory} {calls : List Call} {a : Archive}

/-- An entry is written to one stream and one file at most, and its call comes back. -/
theorem call_log (h : a.journal.LeftBy files (latest calls)) {time : Moment} {level : Level}
    {name template : String} {args : List Value}
    (hformed : (Call.log time level name template args).WellFormed) :
    let c : Call := .log time level name template args
    (a.call c).1 = .logged ∧ (a.call c).2.journal = a.journal ∧
      (a.call c).2.files.home = a.files.home ∧
      (∀ s, (a.call c).2.streams s =
        a.streams s ++ String.join (text? (onStream s) calls c).toList) ∧
      ∀ n ≠ Directory.nullDevice, (a.call c).2.files.bytesIn n = a.files.bytesIn n ++
        (text? (inFile files n) calls c).toList.flatMap fun l => (Content.text l).bytes := by
  intro c
  obtain ⟨message, hmessage, htext⟩ := hformed
  have hrecord := Call.record?_of_message hmessage time level name
  have hlog := log_eq_ok hmessage a.journal a.files time level (sourceName name)
  obtain ⟨hshown, hhome, hfiles⟩ := h.write a.files htext
  simp only [c, call, hlog, text?_of_record hrecord]
  refine ⟨trivial, trivial, hhome, fun s => ?_, fun n hn => ?_⟩
  · rw [shown, hshown, h.stream]
    -- the stream that is set up gets the line, and all others get nothing
    by_cases hstream : s = (latest calls).stream
    · cases (latest calls).passes level <;> simp [onStream, hstream]
    · have helse : onStream s (latest calls) = false := decide_eq_false (Ne.symm hstream)
      simp [helse, hstream]
  · rw [hfiles n hn]
    by_cases hfile : (latest calls).file? files = some n <;> cases (latest calls).passes level <;>
      simp [inFile, hfile]

/-- One call. -/
theorem Faithful.call (h : a.Faithful streams files calls) {c : Call} (hformed : c.WellFormed)
    (hsetup : ∀ e, (a.call c).1 ≠ .refused e) :
    (a.call c).2.Faithful streams files (calls ++ [c]) := by
  cases c with
  | setup o stream =>
    rcases hresult : a.journal.setup a.files o stream with ⟨e | shown, j, d⟩
    · refine absurd ?_ (hsetup e)
      simp only [Archive.call, hresult]
    · obtain ⟨hleft, hhome, hfiles⟩ := setup_eq_ok hformed.1 hformed.2 hresult
      simp only [Archive.call, hresult]
      refine ⟨?_, hhome.trans h.home, fun s => ?_, fun n hn => ?_⟩
      · -- the files have changed since the beginning, but not the working directory
        rw [latest_snoc_setup]
        exact { hleft with file := hleft.file.trans (o.path?_congr h.home) }
      · rw [written_snoc, text?_setup, Option.toList_none, List.append_nil]
        exact h.streams s
      · rw [written_snoc, text?_setup, Option.toList_none, List.append_nil]
        exact (hfiles n).trans (h.files n hn)
  | log time level name template args =>
    obtain ⟨-, hjournal, hhome, hstreams, hfiles⟩ := call_log h.journal hformed
    refine ⟨?_, hhome.trans h.home, fun s => ?_, fun n hn => ?_⟩
    · rw [latest_snoc_log rfl, hjournal]
      exact h.journal
    · rw [written_snoc, String.join_append, hstreams, h.streams, String.append_assoc]
    · rw [written_snoc, List.flatMap_append, hfiles n hn, h.files n hn, List.append_assoc]

end Archive
end EchoWatch
