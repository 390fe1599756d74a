import EchoWatch.Proofs.Settings.Acceptance
import EchoWatch.Service
/-!
# Configurations from files

A file that holds a document gives a configuration that is sound, or it is rejected with a message
that says so, with one exception: a document with a duration that is out of range is not rejected,
and the error that comes out is of another family (`load_of_document`).
-/

namespace EchoWatch.Settings

/-- An error that says that the content of a file is not valid. -/
structure Rejects (e : LoadError) : Prop where
  family : Service.loadFamily e = .value
  message : "Configuration validation error".toList <+: e.message.toList

/-- A document that is no mapping is rejected with its path. -/
theorem rejects_notMapping (path : String) : Rejects (.notMapping path) where
  family := rfl
  message := by
    have hmessage : (LoadError.notMapping path).message =
        "Configuration validation error: expected a mapping in " ++ path := rfl
    rw [hmessage, String.toList_append]
    exact List.IsPrefix.trans (by decide) (List.prefix_append _ _)

/-- Faults are rejected with their number. -/
theorem rejects_faulty (faults : List Fault) : Rejects (.faulty faults) where
  family := rfl
  message := by
    have hmessage : (LoadError.faulty faults).message =
        "Configuration validation error: " ++ faultCount faults := rfl
    rw [hmessage, String.toList_append]
    exact List.IsPrefix.trans (by decide) (List.prefix_append _ _)

variable {read : Yaml.Loader}

/-- A file that is found is loaded from its bytes. -/
theorem load_of_place {d : Directory} {path name : String} {content : Content}
    (hfile : d.place path = .file name content) :
    load read d path = ofBytes read path content.bytes := by
  unfold load readFile
  rw [hfile]

/-- A mapping is accepted, rejected or ends with an overflow, as the check of the configuration is.
Which of the first two it is does not matter here. -/
theorem ofBytes_of_mapping {path : String} {bytes : List UInt8} {entries : List (Value × Value)}
    (hread : read bytes = .ok (.map entries)) :
    (¬ Uncountable (.map entries) → (∃ s, ofBytes read path bytes = .ok s ∧ Sound s) ∨
      ∃ e, ofBytes read path bytes = .error e ∧ Rejects e) ∧
    (Uncountable (.map entries) →
      ∃ cause, ofBytes read path bytes = .error (.overflow cause)) := by
  have hmeets := meets_ofValue (.map entries)
  unfold ofBytes
  rw [hread, ← hmeets.aborts]
  dsimp only
  cases hchecked : ofValue (.map entries) with
  | valid s =>
    have hsound := hmeets.valid s hchecked
    exact ⟨fun _ => .inl ⟨s, rfl, hsound⟩, fun ⟨_, h⟩ => nomatch h⟩
  | invalid faults =>
    exact ⟨fun _ => .inr ⟨_, rfl, rejects_faulty faults⟩, fun ⟨_, h⟩ => nomatch h⟩
  | aborted cause => exact ⟨fun h => absurd ⟨cause, rfl⟩ h, fun _ => ⟨cause, rfl⟩⟩

/-- Anything but a mapping is rejected, before any field is looked for. -/
theorem ofBytes_of_not_mapping (path : String) {bytes : List UInt8} {v : Value}
    (hread : read bytes = .ok v) (hmapping : ∀ entries, v ≠ .map entries) :
    ofBytes read path bytes = .error (.notMapping path) := by
  unfold ofBytes
  rw [hread]
  cases v with
  | map entries => exact absurd rfl (hmapping entries)
  | _ => rfl

/-- **What comes of a file that holds a document**, whatever finds the document in it. If none of
its durations is out of range, it gives a configuration with a positive cycle and no negative
timeout or threshold, or it is rejected as invalid. If one is, then the error is that of the
duration. -/
theorem load_of_document {d : Directory} {path name : String} {content : Content} {v : Value}
    (hfile : d.place path = .file name content) (hread : read content.bytes = .ok v) :
    (¬ Uncountable v → (∃ s, load read d path = .ok s ∧ Sound s) ∨
      ∃ e, load read d path = .error e ∧ Rejects e) ∧
    (Uncountable v → ∃ cause, load read d path = .error (.overflow cause)) := by
  rw [load_of_place hfile]
  -- only a mapping can have a field that is out of range
  by_cases hmapping : ∃ entries, v = .map entries
  · obtain ⟨entries, rfl⟩ := hmapping
    exact ofBytes_of_mapping hread
  · have hreject := ofBytes_of_not_mapping path hread
      fun entries hentries => hmapping ⟨entries, hentries⟩
    refine ⟨fun _ => .inr ⟨_, hreject, rejects_notMapping path⟩, ?_⟩
    rintro ⟨entries, hentries, -⟩
    exact absurd ⟨entries, hentries⟩ hmapping

/-- The family of the error with which loading fails, if it does. -/
def failure? (loaded : Except LoadError Settings) : Option Service.Family :=
  ((loaded.map fun _ => none).tryCatch fun e => .ok (some (Service.loadFamily e))).toOption.join

theorem failure?_error (e : LoadError) : failure? (.error e) = some (Service.loadFamily e) :=
  rfl

/-- A configuration file that names a monitor cycle. -/
def withCycle (cycle : String) : Content :=
  .text ("monitor_cycle: " ++ cycle ++ "\npeer_timeout: 8s\n")

/-- A working directory with one file. -/
def withFile (content : Content) : Directory :=
  ⟨"/watch", [], [("/watch/c.yaml", content)]⟩

/-- A cycle of four seconds is accepted. That the document can be read is decided on its bytes. -/
theorem load_of_short_cycle :
    ∃ s, load Yaml.read (withFile (withCycle "4s")) "c.yaml" = .ok s ∧ Sound s := by
  let d := withFile (withCycle "4s")
  have hfile : d.place "c.yaml" = .file "/watch/c.yaml" (withCycle "4s") := by decide +kernel
  have hok : failure? (load Yaml.read d "c.yaml") = none := by decide +kernel
  have hdocument : (Yaml.read (withCycle "4s").bytes).toOption.isSome = true := by decide +kernel
  cases hread : Yaml.read (withCycle "4s").bytes with
  | error cause =>
    rw [hread] at hdocument
    cases hdocument
  | ok v =>
    -- the file loads, so that its durations are in range and it is not rejected
    obtain ⟨hcountable, huncountable⟩ := load_of_document hfile hread
    by_cases hv : Uncountable v
    · obtain ⟨cause, hcause⟩ := huncountable hv
      rw [hcause] at hok
      cases hok
    · rcases hcountable hv with hsound | ⟨e, he, -⟩
      · exact hsound
      · rw [he] at hok
        cases hok

/-- A cycle of a thousand million days does not make a file invalid. -/
theorem long_cycle_not_rejected :
    ¬ ∀ (d : Directory) (path name : String) (content : Content) (v : Value),
      d.place path = .file name content → Yaml.read content.bytes = .ok v →
      (∃ s, load Yaml.read d path = .ok s ∧ Sound s) ∨
        ∃ e, load Yaml.read d path = .error e ∧ Rejects e := by
  intro hvalid
  let d := withFile (withCycle "24000000000h")
  have hfile : d.place "c.yaml" = .file "/watch/c.yaml" (withCycle "24000000000h") := by
    decide +kernel
  have hrange : failure? (load Yaml.read d "c.yaml") = some .range := by decide +kernel
  -- what the document is does not matter, as long as there is one
  have hdocument : (Yaml.read (withCycle "24000000000h").bytes).toOption.isSome = true := by
    decide +kernel
  cases hread : Yaml.read (withCycle "24000000000h").bytes with
  | error cause =>
    rw [hread] at hdocument
    cases hdocument
  | ok v =>
    rcases hvalid d "c.yaml" "/watch/c.yaml" _ v hfile hread with ⟨s, hs, -⟩ | ⟨e, he, hrejects⟩
    · rw [hs] at hrange
      cases hrange
    · rw [he, failure?_error, hrejects.family] at hrange
      cases hrange

end EchoWatch.Settings
