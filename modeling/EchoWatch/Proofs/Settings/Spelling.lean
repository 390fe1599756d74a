import EchoWatch.Settings.Basic
import Mathlib.Data.List.Forall2
import Mathlib.Data.List.Nodup
import Mathlib.Data.List.Pairwise
/-!
# The spelling of keys

Each field of a configuration has a key with two spellings. A document may be respelled: at the top,
in each entry of the list of peers and in the notifier, the keys of fields are spelled one way or
the other, each on its own. What is not the key of a field stays as it is, and so do the options of
the notifier.

* **`Key.find?_respelled`**: under either spelling the same content is found.
* **`alike_ofValue`**: a document that is respelled gives the same configuration, or the same faults
  but for the spelling of the keys on the way to them.
-/

namespace EchoWatch.Settings

variable {α β : Type}

/-! ## Spellings

A key is found under either spelling, and the capital one wins where both are given. So a respelling
changes nothing as long as no spelling stands for two keys and no key is given twice. -/

namespace Key

def names (k : Key) : List String :=
  [k.snake, k.pascal]

/-- Whether an entry gives the field, in one spelling or the other. -/
def isGivenBy (k : Key) (entry : Value × Value) : Bool :=
  entry.1.isText k.pascal || entry.1.isText k.snake

def ofPeer : List Key :=
  [name, network, upThreshold, downThreshold, webhook]

def ofNotifier : List Key :=
  [type, options]

def ofSettings : List Key :=
  [upThreshold, downThreshold, monitorCycle, peerTimeout, webhook, notifier, peers]

/-- The keys of one mapping: no spelling stands for two of them. -/
structure Scheme (keys : List Key) : Prop where
  unambiguous : (keys.flatMap names).Nodup
  fields : ∀ k ∈ keys, k ∈ ofSettings ++ ofNotifier ++ ofPeer

theorem scheme_ofPeer : Scheme ofPeer where
  unambiguous := by decide
  fields _ hk := List.mem_append_right _ hk

theorem scheme_ofNotifier : Scheme ofNotifier where
  unambiguous := by decide
  fields _ hk := List.mem_append_left _ (List.mem_append_right _ hk)

theorem scheme_ofSettings : Scheme ofSettings where
  unambiguous := by decide
  fields _ hk := List.mem_append_left _ (List.mem_append_left _ hk)

variable {k : Key} {s : String} {v : Value} {entry : Value × Value} {entries : List (Value × Value)}

theorem isGivenBy_text : k.isGivenBy (.text s, v) = true ↔ s ∈ k.names := by
  simp [isGivenBy, Value.isText, names, or_comm]

/-- A spelling stands for one key of a scheme. -/
theorem Scheme.eq_of_mem_names {keys : List Key} {k' : Key} (h : Scheme keys) (hk : k ∈ keys)
    (hk' : k' ∈ keys) (hs : s ∈ k.names) (hs' : s ∈ k'.names) : k = k' := by
  by_contra hne
  -- no text is twice among the spellings, so those of two keys are disjoint
  have hsymm : Std.Symm (Function.onFun List.Disjoint names) := ⟨fun _ _ => List.disjoint_symm⟩
  have hdisjoint : List.Disjoint k.names k'.names :=
    (List.nodup_flatMap.mp h.unambiguous).2.forall hk hk' hne
  exact hdisjoint hs hs'

/-- An entry that does not give the field is passed over. -/
theorem find?_cons_of_not_given (h : k.isGivenBy entry = false) :
    k.find? (entry :: entries) = k.find? entries := by
  obtain ⟨hpascal, hsnake⟩ := Bool.or_eq_false_iff.mp h
  simp only [find?, Value.lookup?, List.find?_cons, hpascal, hsnake]

/-- A field that no entry gives is not found. -/
theorem find?_of_none_given (h : ∀ entry ∈ entries, k.isGivenBy entry = false) :
    k.find? entries = none := by
  induction entries with
  | nil => rfl
  | cons entry entries ih =>
    rw [List.forall_mem_cons] at h
    rw [find?_cons_of_not_given h.1, ih h.2]

/-- A field is found in the entry that gives it, under the spelling that it has there, if no other
entry gives it. By cases on the spelling, as the lookup tries the capital one first. -/
theorem find?_cons_of_given (hs : s ∈ k.names)
    (h : ∀ entry ∈ entries, k.isGivenBy entry = false) :
    k.find? ((.text s, v) :: entries) = some (s, v) := by
  have hrest := find?_of_none_given h
  by_cases hpascal : s = k.pascal
  · simp [find?, Value.lookup?, Value.isText, hpascal]
  · have hsnake : s = k.snake := by simpa [names, hpascal] using hs
    -- the other spelling is looked for first, and is not there
    have hnone : Value.lookup? k.pascal entries = none := by
      unfold find? at hrest
      split at hrest
      · cases hrest
      · assumption
    have hskip : Value.lookup? k.pascal ((.text s, v) :: entries) = none := by
      rw [← hnone]
      simp [Value.lookup?, Value.isText, hpascal]
    unfold find?
    rw [hskip]
    simp [Value.lookup?, Value.isText, hsnake]

end Key

/-! ## Documents

A respelling goes through three levels: the fields of the configuration, and within them those of
the peers and of the notifier. One relation on mappings serves them all, with a relation on the
contents of the fields as a parameter. -/

/-- An entry and the same entry respelled. The contents of a field may be respelled in turn. -/
inductive RespelledEntry (keys : List Key) (content : Key → Value → Value → Prop) :
    Value × Value → Value × Value → Prop
  | field {k : Key} {s t : String} {v w : Value} (hk : k ∈ keys) (hs : s ∈ k.names)
      (ht : t ∈ k.names) (h : content k v w) : RespelledEntry keys content (.text s, v) (.text t, w)
  | other {entry : Value × Value} (h : ∀ k ∈ keys, k.isGivenBy entry = false) :
      RespelledEntry keys content entry entry

/-- The entries of a mapping, respelled so that no field is given in both spellings: a mapping has
no key twice. -/
structure RespelledFields (keys : List Key) (content : Key → Value → Value → Prop)
    (entries others : List (Value × Value)) : Prop where
  entries : List.Forall₂ (RespelledEntry keys content) entries others
  once : ∀ k ∈ keys, others.countP k.isGivenBy ≤ 1

/-- A mapping may be respelled, and any value may be left as it is. -/
inductive Respelled (keys : List Key) (content : Key → Value → Value → Prop) : Value → Value → Prop
  | fields {entries others : List (Value × Value)}
      (h : RespelledFields keys content entries others) :
      Respelled keys content (.map entries) (.map others)
  | same (v : Value) : Respelled keys content v v

def RespelledPeer : Value → Value → Prop :=
  Respelled Key.ofPeer fun _ => Eq

/-- The options of a notifier are its own affair. -/
def RespelledNotifier : Value → Value → Prop :=
  Respelled Key.ofNotifier fun _ => Eq

inductive RespelledPeers : Value → Value → Prop
  | list {items others : List Value} (h : List.Forall₂ RespelledPeer items others) :
      RespelledPeers (.list items) (.list others)
  | same (v : Value) : RespelledPeers v v

structure RespelledContent (k : Key) (v w : Value) : Prop where
  peers : k = .peers → RespelledPeers v w
  notifier : k = .notifier → RespelledNotifier v w
  plain : k ≠ .peers → k ≠ .notifier → v = w

/-- A document and the same document with some of the keys of its fields in the other spelling. -/
def RespelledSettings : Value → Value → Prop :=
  Respelled Key.ofSettings RespelledContent

section Lookup

variable {keys : List Key} {content : Key → Value → Value → Prop} {k : Key}
  {entries others : List (Value × Value)}

/-- A respelled entry gives the same field. -/
theorem RespelledEntry.isGivenBy_eq {entry other : Value × Value}
    (h : RespelledEntry keys content entry other) (hkeys : Key.Scheme keys) (hk : k ∈ keys) :
    k.isGivenBy entry = k.isGivenBy other := by
  cases h with
  | other h => rfl
  | @field k' s t v w hk' hs ht h =>
    rw [Bool.eq_iff_iff, Key.isGivenBy_text, Key.isGivenBy_text]
    constructor
    · intro hs'
      rwa [hkeys.eq_of_mem_names hk hk' hs' hs]
    · intro ht'
      rwa [hkeys.eq_of_mem_names hk hk' ht' ht]

/-- If no respelled entry gives the field, no original one does. -/
theorem none_given_of_respelled (h : List.Forall₂ (RespelledEntry keys content) entries others)
    (hkeys : Key.Scheme keys) (hk : k ∈ keys)
    (hothers : ∀ other ∈ others, k.isGivenBy other = false) :
    ∀ entry ∈ entries, k.isGivenBy entry = false := by
  induction h with
  | nil => exact List.forall_mem_nil _
  | cons hentry _ ih =>
    rw [List.forall_mem_cons] at hothers ⊢
    exact ⟨(hentry.isGivenBy_eq hkeys hk).trans hothers.1, ih hothers.2⟩

/-- Two findings of one field: the spellings are its own and the contents correspond. -/
structure SameField (content : Key → Value → Value → Prop) (k : Key) (a b : String × Value) :
    Prop where
  left : a.1 ∈ k.names
  right : b.1 ∈ k.names
  content : content k a.2 b.2

/-- Under either spelling the same content is found. -/
theorem Key.find?_respelled (h : List.Forall₂ (RespelledEntry keys content) entries others)
    (hkeys : Key.Scheme keys) (hk : k ∈ keys) (honce : others.countP k.isGivenBy ≤ 1) :
    Option.Rel (SameField content k) (k.find? entries) (k.find? others) := by
  induction h with
  | nil => exact .none
  | @cons entry other entries others hentry hrest ih =>
    -- either the field is given here, and then nowhere else, or it is looked for in the rest
    by_cases hgiven : k.isGivenBy other = true
    · rw [List.countP_cons_of_pos hgiven] at honce
      have hothers : ∀ other ∈ others, k.isGivenBy other = false := by
        simpa using List.countP_eq_zero.mp (Nat.le_zero.mp (Nat.le_of_succ_le_succ honce))
      have hentries := none_given_of_respelled hrest hkeys hk hothers
      cases hentry with
      | other h => simp [h k hk] at hgiven
      | @field k' s t v w hk' hs ht h =>
        obtain rfl : k = k' := hkeys.eq_of_mem_names hk hk' (isGivenBy_text.mp hgiven) ht
        rw [find?_cons_of_given hs hentries, find?_cons_of_given ht hothers]
        exact .some ⟨hs, ht, h⟩
    · rw [List.countP_cons_of_neg hgiven] at honce
      rw [Bool.not_eq_true] at hgiven
      rw [find?_cons_of_not_given hgiven,
        find?_cons_of_not_given ((hentry.isGivenBy_eq hkeys hk).trans hgiven)]
      exact ih honce

end Lookup

/-! ## Faults

A fault in a field that is given names it as it was spelled, one that is missing by its capital
spelling. So faults of two documents are compared up to spellings, and checks up to such faults. -/

/-- Steps on the way to a fault that differ at most in the spelling of the key of a field. -/
inductive Locator.Alike : Locator → Locator → Prop
  | same (step : Locator) : Alike step step
  | spelling {k : Key} {s t : String} (hk : k ∈ Key.ofSettings ++ Key.ofNotifier ++ Key.ofPeer)
      (hs : s ∈ k.names) (ht : t ∈ k.names) : Alike (.key s) (.key t)

structure Fault.Alike (f g : Fault) : Prop where
  cause : f.cause = g.cause
  location : List.Forall₂ Locator.Alike f.location g.location

theorem Fault.Alike.refl (f : Fault) : f.Alike f where
  cause := rfl
  location := List.forall₂_same.mpr fun step _ => .same step

/-- Faults stay alike under steps that are alike. -/
theorem Fault.Alike.under {f g : Fault} {a b : Locator} (h : f.Alike g) (hstep : a.Alike b) :
    (f.under a).Alike (g.under b) where
  cause := h.cause
  location := .cons hstep h.location

namespace Check

/-- Checks with one outcome: the same value, the same faults in the same order but for spellings
on the way to them, or the same abort. -/
inductive Alike : Check α → Check α → Prop
  | valid (a : α) : Alike (.valid a) (.valid a)
  | invalid {faults others : List Fault} (h : List.Forall₂ Fault.Alike faults others) :
      Alike (.invalid faults) (.invalid others)
  | aborted (cause : Duration.Overflow) : Alike (.aborted cause) (.aborted cause)

variable {c d : Check α}

/-- A check is like itself. -/
theorem Alike.refl (c : Check α) : c.Alike c := by
  cases c with
  | valid a => exact .valid a
  | invalid faults => exact .invalid (List.forall₂_same.mpr fun f _ => .refl f)
  | aborted cause => exact .aborted cause

/-- Checks stay alike under functions of what they accept. -/
theorem Alike.map (h : c.Alike d) (f : α → β) : (c.map f).Alike (d.map f) := by
  cases h with
  | valid a => exact .valid (f a)
  | invalid h => exact .invalid h
  | aborted cause => exact .aborted cause

/-- Checks stay alike at places that are alike. -/
theorem Alike.located {a b : Locator} (h : c.Alike d) (hstep : a.Alike b) :
    (c.located a).Alike (d.located b) := by
  cases h with
  | valid a => exact .valid a
  | invalid h =>
    apply Alike.invalid
    rw [List.forall₂_map_left_iff, List.forall₂_map_right_iff]
    exact h.imp fun _ _ hfault => hfault.under hstep
  | aborted cause => exact .aborted cause

/-- Two pairs of checks. Their faults are collected in the same order. -/
theorem Alike.both {c' d' : Check β} (h : c.Alike d) (h' : c'.Alike d') :
    (both c c').Alike (both d d') := by
  cases h with
  -- an abort of the first one ends both
  | aborted cause => exact .aborted cause
  | valid a =>
    cases h' with
    | valid b => exact .valid (a, b)
    | invalid h' => exact .invalid h'
    | aborted cause => exact .aborted cause
  | invalid h =>
    cases h' with
    | valid b => exact .invalid h
    | invalid h' => exact .invalid (List.rel_append h h')
    | aborted cause => exact .aborted cause

/-- Lists of checks, by induction from their ends. -/
theorem Alike.all {cs ds : List (Check α)} (h : List.Forall₂ Alike cs ds) :
    (all cs).Alike (all ds) := by
  induction h with
  | nil => exact .valid []
  | cons hhead _ ih => exact (hhead.both ih).map _

end Check

open Check

/-! ## Readers

The readers of a field look it up, and what they make of its contents does not depend on the
spelling. -/

/-- A required field, in one equation for both cases. -/
theorem required_eq_elim (k : Key) (read : Value → Check α) (entries : List (Value × Value)) :
    required k read entries =
      (k.find? entries).elim ((Check.fault .missing).located (.key k.pascal)) fun found =>
        (read found.2).located (.key found.1) := by
  unfold required
  cases k.find? entries <;> rfl

theorem optional_eq_elim (k : Key) (read : Value → Check α) (default : α)
    (entries : List (Value × Value)) :
    optional k read default entries =
      (k.find? entries).elim (.valid default) fun found =>
        (read found.2).located (.key found.1) := by
  unfold optional
  cases k.find? entries <;> rfl

namespace RespelledFields

variable {keys : List Key} {content : Key → Value → Value → Prop} {k : Key}
  {entries others : List (Value × Value)} {read : Value → Check α}

/-- A field that is read under either spelling, with what stands for it where it is not given. -/
theorem alike_found (h : RespelledFields keys content entries others) (hkeys : Key.Scheme keys)
    (hk : k ∈ keys) (hread : ∀ v w, content k v w → (read v).Alike (read w)) (absent : Check α) :
    ((k.find? entries).elim absent fun found => (read found.2).located (.key found.1)).Alike
      ((k.find? others).elim absent fun found => (read found.2).located (.key found.1)) := by
  have hfind := Key.find?_respelled h.entries hkeys hk (h.once k hk)
  revert hfind
  generalize k.find? entries = left
  generalize k.find? others = right
  intro hfind
  cases hfind with
  | none => exact .refl absent
  | some hsame =>
    exact (hread _ _ hsame.content).located
      (.spelling (hkeys.fields k hk) hsame.left hsame.right)

/-- A required field is read alike, and missed alike. -/
theorem alike_required (h : RespelledFields keys content entries others)
    (hkeys : Key.Scheme keys) (hk : k ∈ keys)
    (hread : ∀ v w, content k v w → (read v).Alike (read w)) :
    (required k read entries).Alike (required k read others) := by
  rw [required_eq_elim, required_eq_elim]
  exact h.alike_found hkeys hk hread _

/-- An optional field is read alike, and has its default in both. -/
theorem alike_optional (h : RespelledFields keys content entries others)
    (hkeys : Key.Scheme keys) (hk : k ∈ keys) (default : α)
    (hread : ∀ v w, content k v w → (read v).Alike (read w)) :
    (optional k read default entries).Alike (optional k read default others) := by
  rw [optional_eq_elim, optional_eq_elim]
  exact h.alike_found hkeys hk hread _

end RespelledFields

/-- A model is read alike if its fields are. -/
theorem alike_asModel {keys : List Key} {content : Key → Value → Value → Prop} {model : String}
    {read : List (Value × Value) → Check α} {v w : Value} (h : Respelled keys content v w)
    (hread : ∀ entries others, RespelledFields keys content entries others →
      (read entries).Alike (read others)) :
    (asModel model read v).Alike (asModel model read w) := by
  cases h with
  | fields h => exact hread _ _ h
  | same v => exact .refl _

/-- Contents that are not respelled are read alike. -/
theorem alike_of_eq (read : Value → Check α) (v w : Value) (h : v = w) :
    (read v).Alike (read w) := by
  rw [h]
  exact .refl _

/-! ## Models

From the fields to the models, and from these to the whole configuration. -/

/-- **Peers**, whose fields are all plain. -/
theorem alike_asPeer {v w : Value} (h : RespelledPeer v w) : (asPeer v).Alike (asPeer w) := by
  refine alike_asModel h fun entries others h => ?_
  have htext (k : Key) (hk : k ∈ Key.ofPeer) :=
    h.alike_required Key.scheme_ofPeer hk (alike_of_eq asNonemptyText)
  have hcount (k : Key) (hk : k ∈ Key.ofPeer) :=
    h.alike_optional Key.scheme_ofPeer hk 0 (alike_of_eq asCount)
  have hwebhook := h.alike_optional Key.scheme_ofPeer (k := .webhook) (by decide) ""
    (alike_of_eq asText)
  have hnames := (htext .name (by decide)).both (htext .network (by decide))
  have hcounts := (hnames.both (hcount .upThreshold (by decide))).both
    (hcount .downThreshold (by decide))
  exact (hcounts.both hwebhook).map _

/-- The items of a list keep their places. -/
theorem alike_items {items others : List Value} (h : List.Forall₂ RespelledPeer items others)
    (start : Nat) :
    List.Forall₂ Check.Alike
      ((items.zipIdx start).map fun (item, i) => (asPeer item).located (.index i))
      ((others.zipIdx start).map fun (item, i) => (asPeer item).located (.index i)) := by
  induction h generalizing start with
  | nil => exact .nil
  | cons hitem _ ih =>
    exact .cons ((alike_asPeer hitem).located (.same (.index start))) (ih (start + 1))

/-- Lists of peers. Any other value was left as it is. -/
theorem alike_asPeers {v w : Value} (h : RespelledPeers v w) : (asPeers v).Alike (asPeers w) := by
  cases h with
  | list h => exact .all (alike_items h 0)
  | same v => exact .refl _

/-- **Notifiers**: the spelling of the field of their options is free, what the options hold is
not. -/
theorem alike_asNotifier {v w : Value} (h : RespelledNotifier v w) :
    (asNotifier v).Alike (asNotifier w) := by
  refine alike_asModel h fun entries others h => ?_
  have htype := h.alike_optional Key.scheme_ofNotifier (k := .type) (by decide) "webhook"
    (alike_of_eq asText)
  have hoptions := h.alike_optional Key.scheme_ofNotifier (k := .options) (by decide) []
    (alike_of_eq asOptions)
  exact (htype.both hoptions).map _

/-! ## Options

Nothing that is said above touches the options of a notifier. What a configuration has of them is
what stands in the document, entry by entry. -/

namespace Check

variable {c : Check α} {d : Check β}

theorem map_eq_valid_iff {f : α → β} {b : β} :
    c.map f = .valid b ↔ ∃ a, c = .valid a ∧ f a = b := by
  cases c <;> simp [map]

/-- What is accepted of two checks. -/
theorem both_eq_valid_iff {p : α × β} :
    both c d = .valid p ↔ c = .valid p.1 ∧ d = .valid p.2 := by
  obtain ⟨a, b⟩ := p
  cases c <;> cases d <;> simp [both]

theorem located_eq_valid_iff {step : Locator} {a : α} :
    c.located step = .valid a ↔ c = .valid a := by
  cases c <;> simp [located]

/-- What is accepted of a list of checks. Induction on the list. -/
theorem all_eq_valid_iff {cs : List (Check α)} {as : List α} :
    all cs = .valid as ↔ List.Forall₂ (fun c a => c = .valid a) cs as := by
  induction cs generalizing as with
  | nil => simp [all, eq_comm]
  | cons c cs ih =>
    rw [all, map_eq_valid_iff, List.forall₂_cons_left_iff]
    constructor
    · -- the head and the rest are accepted apart
      rintro ⟨⟨a, rest⟩, hboth, rfl⟩
      obtain ⟨hc, hcs⟩ := both_eq_valid_iff.mp hboth
      exact ⟨a, rest, hc, ih.mp hcs, rfl⟩
    · rintro ⟨a, rest, hc, hcs, rfl⟩
      exact ⟨(a, rest), both_eq_valid_iff.mpr ⟨hc, ih.mpr hcs⟩, rfl⟩

end Check

/-- The contents of the options among the fields of a notifier, if there are any. -/
def contentsIn (fields : List (Value × Value)) : List (Value × Value) :=
  match Key.options.find? fields with
  | some (_, .map contents) => contents
  | _ => []

/-- The contents that a document gives as the options of its notifier, if it gives any. -/
def rawOptions : Value → List (Value × Value)
  | .map entries =>
    match Key.notifier.find? entries with
    | some (_, .map fields) => contentsIn fields
    | _ => []
  | _ => []

/-- An option as it is given: its key is the text of the given key, and its value is the given
one. -/
def TakenAsGiven (raw : Value × Value) (option : String × Value) : Prop :=
  asText raw.1 = .valid option.1 ∧ raw.2 = option.2

/-- An option that is accepted is taken as given. -/
theorem takenAsGiven_of_asOption {raw : Value × Value} {option : String × Value}
    (h : asOption raw = .valid option) : TakenAsGiven raw option := by
  unfold asOption at h
  split at h
  next key hkey =>
    cases h
    exact ⟨located_eq_valid_iff.mp hkey, rfl⟩
  next hkey => exact absurd h (by simp [located])
  next => cases h

theorem takenAsGiven_of_asOptions {v : Value} {options : List (String × Value)}
    (h : asOptions v = .valid options) :
    ∃ contents, v = .map contents ∧ List.Forall₂ TakenAsGiven contents options := by
  unfold asOptions at h
  split at h
  next contents =>
    rw [all_eq_valid_iff, List.forall₂_map_left_iff] at h
    exact ⟨contents, rfl, h.imp fun _ _ => takenAsGiven_of_asOption⟩
  next => cases h

/-- A field that is not given has its default; one that is given is read. -/
theorem optional_eq_valid {k : Key} {read : Value → Check α} {default a : α}
    {entries : List (Value × Value)} (h : optional k read default entries = .valid a) :
    (k.find? entries = none ∧ a = default) ∨
      ∃ name v, k.find? entries = some (name, v) ∧ read v = .valid a := by
  unfold optional at h
  split at h
  next name v hfind => exact .inr ⟨name, v, hfind, located_eq_valid_iff.mp h⟩
  next hfind =>
    cases h
    exact .inl ⟨hfind, rfl⟩

/-- A notifier that is accepted has the options of its entries, and none where no options are
given. -/
theorem takenAsGiven_of_asNotifier {v : Value} {n : NotifierSettings}
    (h : asNotifier v = .valid n) :
    ∃ fields, v = .map fields ∧ List.Forall₂ TakenAsGiven (contentsIn fields) n.options := by
  unfold asNotifier asModel at h
  split at h
  next fields =>
    refine ⟨fields, rfl, ?_⟩
    obtain ⟨⟨type, options⟩, hboth, rfl⟩ := map_eq_valid_iff.mp h
    obtain ⟨-, hoptions⟩ := both_eq_valid_iff.mp hboth
    rcases optional_eq_valid hoptions with ⟨hfind, hnone⟩ | ⟨name, raw, hfind, hread⟩
    · obtain rfl : options = [] := hnone
      rw [contentsIn, hfind]
      exact .nil
    · obtain ⟨contents, rfl, htaken⟩ := takenAsGiven_of_asOptions hread
      rw [contentsIn, hfind]
      exact htaken
  next => cases h

/-- The options of an accepted configuration are those that the document gives. -/
theorem takenAsGiven_of_ofValue {v : Value} {s : Settings} (h : ofValue v = .valid s) :
    List.Forall₂ TakenAsGiven (rawOptions v) s.notifier.options := by
  unfold ofValue asModel at h
  split at h
  next entries =>
    obtain ⟨⟨⟨_, notifier⟩, _⟩, hboth, rfl⟩ := map_eq_valid_iff.mp h
    obtain ⟨hrest, -⟩ := both_eq_valid_iff.mp hboth
    obtain ⟨-, hnotifier⟩ := both_eq_valid_iff.mp hrest
    rcases optional_eq_valid hnotifier with ⟨hfind, hnone⟩ | ⟨name, raw, hfind, hread⟩
    · obtain rfl : notifier = ⟨"webhook", []⟩ := hnone
      simp only [rawOptions, hfind]
      exact .nil
    · obtain ⟨fields, rfl, htaken⟩ := takenAsGiven_of_asNotifier hread
      simp only [rawOptions, hfind]
      exact htaken
  next => cases h

/-- **Both spellings of a key mean the same.** A document and the same document respelled give the
same configuration, or the same faults in the same order, but for spellings in their locations, or
end with the same abort. The options of the notifier in an accepted configuration are those of the
document, with the texts of their keys and with their values as they are. -/
theorem alike_ofValue {v w : Value} (h : RespelledSettings v w) :
    (ofValue v).Alike (ofValue w) ∧
      ∀ s, ofValue v = .valid s → List.Forall₂ TakenAsGiven (rawOptions v) s.notifier.options := by
  refine ⟨alike_asModel h fun entries others h => ?_, fun s => takenAsGiven_of_ofValue⟩
  have hplain {α : Type} (read : Value → Check α) (k : Key) (hpeers : k ≠ .peers)
      (hnotifier : k ≠ .notifier) (v w : Value) (hvw : RespelledContent k v w) :
      (read v).Alike (read w) := alike_of_eq read v w (hvw.plain hpeers hnotifier)
  -- the keys are read in this order, each of them alike under both spellings
  have hcount (k : Key) (hk : k ∈ Key.ofSettings) (hpeers : k ≠ .peers)
      (hnotifier : k ≠ .notifier) :=
    h.alike_optional Key.scheme_ofSettings hk 0 (hplain asCount k hpeers hnotifier)
  have hcycle := h.alike_required Key.scheme_ofSettings (by decide)
    (hplain asCycle .monitorCycle (by decide) (by decide))
  have htimeout := h.alike_required Key.scheme_ofSettings (by decide)
    (hplain asTimeout .peerTimeout (by decide) (by decide))
  have hwebhook := h.alike_optional Key.scheme_ofSettings (by decide) ""
    (hplain asText .webhook (by decide) (by decide))
  have hnotifier := h.alike_optional Key.scheme_ofSettings (k := .notifier) (by decide)
    ⟨"webhook", []⟩ fun v w hvw => alike_asNotifier (hvw.notifier rfl)
  have hpeers := h.alike_optional Key.scheme_ofSettings (k := .peers) (by decide) []
    fun v w hvw => alike_asPeers (hvw.peers rfl)
  have hcounts := (hcount .upThreshold (by decide) (by decide) (by decide)).both
    (hcount .downThreshold (by decide) (by decide) (by decide))
  exact (((((hcounts.both hcycle).both htimeout).both hwebhook).both hnotifier).both hpeers).map _

/-- A peer without a network and options that are no mapping, with the keys spelled crosswise. -/
theorem alike_of_crosswise_keys :
    ofValue (.map [
      (.text "Peers", .list [.map [(.text "name", .text "A"), (.text "Network", .null)]]),
      (.text "notifier", .map [(.text "Config", .list [])])]) =
      .invalid [⟨.missing, [.key "MonitorCycle"]⟩, ⟨.missing, [.key "PeerTimeout"]⟩,
        ⟨.notMapping, [.key "notifier", .key "Config"]⟩,
        ⟨.notText, [.key "Peers", .index 0, .key "Network"]⟩] ∧
    (ofValue (.map [
      (.text "Peers", .list [.map [(.text "name", .text "A"), (.text "Network", .null)]]),
      (.text "notifier", .map [(.text "Config", .list [])])])).Alike
    (ofValue (.map [
      (.text "peers", .list [.map [(.text "Name", .text "A"), (.text "network", .null)]]),
      (.text "Notifier", .map [(.text "config", .list [])])])) := by
  constructor
  · rfl
  · refine (alike_ofValue ?_).1
    -- the respelling is given from the inside to the outside
    have hpeer : RespelledPeer (.map [(.text "name", .text "A"), (.text "Network", .null)])
        (.map [(.text "Name", .text "A"), (.text "network", .null)]) := by
      refine .fields ⟨.cons (.field (k := .name) ?_ ?_ ?_ rfl)
        (.cons (.field (k := .network) ?_ ?_ ?_ rfl) .nil), ?_⟩ <;> decide
    have hnotifier : RespelledNotifier (.map [(.text "Config", .list [])])
        (.map [(.text "config", .list [])]) := by
      refine .fields ⟨.cons (.field (k := .options) ?_ ?_ ?_ rfl) .nil, ?_⟩ <;> decide
    have hpeers : RespelledContent .peers
        (.list [.map [(.text "name", .text "A"), (.text "Network", .null)]])
        (.list [.map [(.text "Name", .text "A"), (.text "network", .null)]]) :=
      ⟨fun _ => .list (.cons hpeer .nil), fun h => absurd h (by decide), fun h => absurd rfl h⟩
    have hcontent : RespelledContent .notifier (.map [(.text "Config", .list [])])
        (.map [(.text "config", .list [])]) :=
      ⟨fun h => absurd h (by decide), fun _ => hnotifier, fun _ h => absurd rfl h⟩
    refine .fields ⟨.cons (.field (k := .peers) ?_ ?_ ?_ hpeers)
      (.cons (.field (k := .notifier) ?_ ?_ ?_ hcontent) .nil), ?_⟩ <;> decide

end EchoWatch.Settings
