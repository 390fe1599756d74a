import EchoWatch.Proofs.Debouncer.Verdict
import EchoWatch.Proofs.Watch.Session
/-!
# What the checks of a run hand over

A check hands over the postings of all peers in one list. This module takes a run apart at its
checks, and each check apart at its peers.

* **`Session.atChecks`**: the sessions that the checks of a run find.
* **`Session.posting?`**: what a check owes for one peer, if it gets past it. That these postings,
  peer by peer, are what the check really hands over is for `Follows.dispatches` to say.
* **`Session.record`**: the postings of one peer, one entry for each check that gets past it.
* **`Session.Follows`**: a session that has come along a course. Every session of a monitor that was
  built from a configuration does (`follows_of_build`).
-/

namespace EchoWatch

/-! ## What is due for one peer -/

namespace Peer

variable (timeout : Micros) (now : Moment) (p : Peer)

/-- The posting that tells what a check does to a peer, whether or not it is due. -/
def told : Posting :=
  ⟨p.webhook,
    .ofTransition p.name p.debouncer.wording (p.checked timeout now).debouncer.wording p.lastSeen
      now⟩

/-- A quiet board tells notable steps. -/
theorem due?_quiet :
    p.due? false timeout now =
      if p.debouncer.notable (recent timeout now p.lastSeen) = true then some (p.told timeout now)
      else none := by
  simp only [due?, Bool.false_eq_true, false_and, or_false]
  rfl

variable {timeout now p}

/-- A notable check moves the peer. -/
theorem checked_ne_of_notable
    (h : p.debouncer.notable (recent timeout now p.lastSeen) = true) :
    (p.checked timeout now).debouncer ≠ p.debouncer := by
  intro heq
  have hmove := p.debouncer.move (recent timeout now p.lastSeen)
  rw [h] at hmove
  exact hmove.ne_of_notable (congrArg Debouncer.phase heq)

variable (timeout now p)

/-- A verbose board tells every step to another state; notable ones are among them. -/
theorem due?_verbose :
    p.due? true timeout now =
      if (p.checked timeout now).debouncer ≠ p.debouncer then some (p.told timeout now)
      else none := by
  have hchange : p.debouncer.notable (recent timeout now p.lastSeen) = true ∨
      (p.checked timeout now).debouncer ≠ p.debouncer ↔
        (p.checked timeout now).debouncer ≠ p.debouncer :=
    or_iff_right_of_imp checked_ne_of_notable
  unfold checked observe at hchange
  simp only [due?, true_and, hchange]
  rfl

/-- Whatever the board, nothing is told but a step to another state. -/
theorem told_of_due {verbose : Bool} {posting : Posting}
    (h : p.due? verbose timeout now = some posting) :
    posting = p.told timeout now ∧ (p.checked timeout now).debouncer ≠ p.debouncer := by
  cases verbose with
  | false =>
    rw [due?_quiet, Option.ite_none_right_eq_some, Option.some.injEq] at h
    exact ⟨h.2.symm, checked_ne_of_notable h.1⟩
  | true =>
    rw [due?_verbose, Option.ite_none_right_eq_some, Option.some.injEq] at h
    exact ⟨h.2.symm, h.1⟩

end Peer

theorem Monitor.BuiltFrom.course_timeout {c : Settings} {verbose : Bool} {m : Monitor}
    (h : m.BuiltFrom c verbose) (start : Moment) : (m.board.course start).timeout = c.timeout :=
  h.timeout

namespace Session

/-! ## The checks of a run -/

/-- The sessions that the checks among some steps find, in order. -/
def atChecks (s : Session) : List Board.Step → List Session
  | [] => []
  | step :: steps =>
    let later := (s.call step.call).2.1.atChecks steps
    if step = .check then s :: later else later

theorem after_append (s : Session) (steps later : List Board.Step) :
    s.after (steps ++ later) = (s.after steps).after later := by
  simp [after]

/-- The checks of a run come in its order. -/
theorem atChecks_append (s : Session) (steps later : List Board.Step) :
    s.atChecks (steps ++ later) = s.atChecks steps ++ (s.after steps).atChecks later := by
  induction steps generalizing s with
  | nil => rfl
  | cons first steps ih =>
    have hafter : (s.call first.call).2.1.after steps = s.after (first :: steps) := rfl
    rw [List.cons_append, atChecks, atChecks, ih, hafter]
    by_cases h : first = .check <;> simp [h]

/-- The last step adds the session before it, if it is a check. -/
theorem atChecks_snoc (s : Session) (steps : List Board.Step) (step : Board.Step) :
    s.atChecks (steps ++ [step]) =
      s.atChecks steps ++ if step = .check then [s.after steps] else [] := by
  rw [atChecks_append]
  rfl

/-- A place in a list with one more entry is an old place or the last one. -/
theorem of_getElem?_snoc {α : Type} {l : List α} {a b : α} {k : Nat}
    (h : (l ++ [a])[k]? = some b) : l[k]? = some b ∨ k = l.length ∧ a = b := by
  by_cases hk : k < l.length
  · rw [List.getElem?_append_left hk] at h
    exact Or.inl h
  · rw [List.getElem?_append_right (by omega), List.getElem?_singleton,
      Option.ite_none_right_eq_some, Option.some.injEq] at h
    exact Or.inr ⟨by omega, h.2⟩

/-- A check finds what the steps before it have led to. -/
theorem exists_past_of_mem {s u : Session} {steps : List Board.Step} (h : u ∈ s.atChecks steps) :
    ∃ past, past ++ [.check] <+: steps ∧ u = s.after past := by
  induction steps using List.reverseRecOn with
  | nil => simp [atChecks] at h
  | append_singleton steps step ih =>
    rw [atChecks_snoc, List.mem_append] at h
    rcases h with hold | hlast
    · obtain ⟨past, hpast, hu⟩ := ih hold
      exact ⟨past, hpast.trans (List.prefix_append _ _), hu⟩
    · split at hlast
      next hstep =>
        obtain rfl := hstep
        exact ⟨steps, List.prefix_refl _, List.mem_singleton.mp hlast⟩
      next => cases hlast

/-! ## Single peers

A check that comes upon an obstacle gets past the peers in front of it and no others. What it owes
for a peer is therefore asked for together with whether it gets past that peer. -/

def peer? (s : Session) (i : Nat) : Option Peer :=
  s.monitor.board.roster.peers[i]?

/-- A check now gets past peer `i`. -/
def Clears (s : Session) (i : Nat) : Prop :=
  i < s.watched.reach

instance (s : Session) (i : Nat) : Decidable (s.Clears i) :=
  inferInstanceAs (Decidable (_ < _))

/-- The posting that a check now owes for peer `i`. -/
def posting? (s : Session) (i : Nat) : Option Posting :=
  if s.Clears i then
    (s.peer? i).bind (Peer.due? s.monitor.board.verbose s.monitor.board.timeout s.now)
  else none

/-- The postings that a check now owes for the peers, in their order. -/
def postings (s : Session) : List Posting :=
  (List.range s.monitor.board.roster.peers.length).filterMap s.posting?

/-- What is due for a peer that a check gets to. -/
theorem posting?_of_clears {s : Session} {i : Nat} (h : s.Clears i) :
    s.posting? i =
      (s.peer? i).bind (Peer.due? s.monitor.board.verbose s.monitor.board.timeout s.now) :=
  if_pos h

/-- Where a check gets past a peer, that peer is no obstacle. -/
theorem Clears.obstacle?_eq_none {s : Session} {i : Nat} {p : Peer} (h : s.Clears i)
    (hp : s.peer? i = some p) : p.obstacle? s.monitor.board.timeout s.now = none :=
  (Pass.lt_length_cleared_iff.mp h).2 i (le_refl i) p hp

/-- Where something is posted, the check got to the peer. -/
theorem clears_of_posting {s : Session} {i : Nat} {posting : Posting}
    (h : s.posting? i = some posting) : s.Clears i := by
  unfold posting? at h
  split at h
  · assumption
  · cases h

/-- Each posting is about some peer. -/
theorem mem_postings {s : Session} {posting : Posting} (h : posting ∈ s.postings) :
    ∃ i, s.posting? i = some posting := by
  obtain ⟨i, -, hi⟩ := List.mem_filterMap.mp h
  exact ⟨i, hi⟩

/-- What is collected from a list is collected place by place. -/
theorem filterMap_eq_filterMap_range {α β : Type} (f : α → Option β) (l : List α) :
    l.filterMap f = (List.range l.length).filterMap fun i => l[i]?.bind f := by
  have hplaces : (List.range l.length).map (fun i => l[i]?) = l.map some := by
    apply List.ext_getElem?
    intro i
    by_cases hi : i < l.length <;> simp [hi]
  have hmap := congrArg (List.filterMap fun a => a.bind f) hplaces
  rw [List.filterMap_map, List.filterMap_map] at hmap
  exact hmap.symm

/-- Peer by peer, a check owes what it owes as a whole. -/
theorem postings_eq_owed (s : Session) : s.postings = s.monitor.board.owed s.now := by
  let board := s.monitor.board
  let cleared := Pass.cleared board.timeout s.now board.roster.peers
  -- the places behind the peers that are cleared yield nothing
  obtain ⟨more, hmore⟩ : ∃ more, board.roster.peers.length = cleared.length + more :=
    ⟨_, (Nat.add_sub_cancel' Pass.length_cleared_le).symm⟩
  have hbehind : ((List.range more).map (cleared.length + ·)).filterMap s.posting? = [] := by
    rw [List.filterMap_eq_nil_iff]
    intro i hi
    obtain ⟨k, -, rfl⟩ := List.mem_map.mp hi
    exact if_neg (Nat.not_lt_of_le (Nat.le_add_right _ _))
  rw [Board.owed, Pass.owed, filterMap_eq_filterMap_range, postings, hmore, List.range_add,
    List.filterMap_append, hbehind, List.append_nil]
  refine List.filterMap_congr fun i hi => ?_
  have hcleared : i < cleared.length := List.mem_range.mp hi
  rw [posting?_of_clears hcleared, Pass.getElem?_cleared hcleared]
  rfl

/-- The sessions that those checks find which get past peer `i`. -/
def checksOf (s : Session) (i : Nat) (steps : List Board.Step) : List Session :=
  (s.atChecks steps).filter fun u => u.Clears i

/-- What the checks that get past peer `i` owe for it, one entry for each of them. -/
def record (s : Session) (i : Nat) (steps : List Board.Step) : List (Option Posting) :=
  (s.checksOf i steps).map fun u => u.posting? i

/-- The last step adds the session before it, if it is a check that gets to the peer. -/
theorem checksOf_snoc (s : Session) (i : Nat) (steps : List Board.Step) (step : Board.Step) :
    s.checksOf i (steps ++ [step]) =
      s.checksOf i steps ++
        if step = .check ∧ (s.after steps).Clears i then [s.after steps] else [] := by
  rw [checksOf, atChecks_snoc, List.filter_append]
  by_cases hstep : step = .check <;> by_cases hclears : (s.after steps).Clears i <;>
    simp [checksOf, hstep, hclears]

/-- The checks of a peer come in the order of the run. -/
theorem checksOf_append (s : Session) (i : Nat) (steps later : List Board.Step) :
    s.checksOf i (steps ++ later) = s.checksOf i steps ++ (s.after steps).checksOf i later := by
  rw [checksOf, atChecks_append, List.filter_append]
  rfl

/-- A check that gets to a peer adds an entry to its record. -/
theorem record_snoc (s : Session) (i : Nat) (steps : List Board.Step) (step : Board.Step) :
    s.record i (steps ++ [step]) =
      s.record i steps ++
        if step = .check ∧ (s.after steps).Clears i then [(s.after steps).posting? i] else [] := by
  rw [record, checksOf_snoc, List.map_append]
  split <;> rfl

/-- Such a check finds what the steps before it have led to. -/
theorem exists_past {s : Session} {i : Nat} {steps : List Board.Step} {k : Nat} {u : Session}
    (h : (s.checksOf i steps)[k]? = some u) :
    ∃ past, past ++ [.check] <+: steps ∧ (s.checksOf i past).length = k ∧ u = s.after past ∧
      u.Clears i := by
  induction steps using List.reverseRecOn with
  | nil => simp [checksOf, atChecks] at h
  | append_singleton steps step ih =>
    -- one of the checks so far, or the last step is the check
    have hcases : (s.checksOf i steps)[k]? = some u ∨
        (step = .check ∧ (s.after steps).Clears i) ∧ k = (s.checksOf i steps).length ∧
          s.after steps = u := by
      rw [checksOf_snoc] at h
      split at h
      next hstep => exact (of_getElem?_snoc h).imp_right fun hlast => ⟨hstep, hlast⟩
      next => exact Or.inl (by simpa using h)
    rcases hcases with hold | ⟨⟨rfl, hclears⟩, rfl, rfl⟩
    · obtain ⟨past, hpast, hlen, hu⟩ := ih hold
      exact ⟨past, hpast.trans (List.prefix_append _ _), hlen, hu⟩
    · exact ⟨steps, List.prefix_refl _, rfl, rfl, hclears⟩

/-! ## Sessions along a course -/

/-- A session that has come along a course of steps, with a clock that shows zones. -/
structure Follows (course : Board.Course) (verbose : Bool) (steps : List Board.Step)
    (s : Session) : Prop where
  watched : s.watched = course.state verbose steps
  running : s.monitor.outbox.Running
  aware : course.Aware steps

namespace Follows

variable {course : Board.Course} {verbose : Bool} {steps : List Board.Step} {s : Session}
  (h : s.Follows course verbose steps)
include h

theorem board_eq : s.monitor.board = (course.state verbose steps).board :=
  congrArg Board.State.board h.watched

theorem now_eq : s.now = course.clock steps :=
  congrArg Board.State.now h.watched

theorem peers_eq : s.monitor.board.roster.peers = course.peersAfter steps :=
  congrArg (fun b => b.roster.peers) h.board_eq

theorem peer?_eq (i : Nat) :
    s.peer? i = (course.roster.peers[i]?).map (course.peerAfter steps i) := by
  rw [peer?, h.peers_eq, Board.Course.getElem?_peersAfter]

theorem posting?_eq (i : Nat) :
    s.posting? i = if s.Clears i then
      (s.peer? i).bind (Peer.due? verbose course.timeout (course.clock steps)) else none := by
  rw [posting?, h.board_eq, h.now_eq]
  rfl

/-- Whatever a check owes, it owes for one of the peers. -/
theorem exists_due {posting : Posting} (hposting : posting ∈ s.postings) :
    ∃ i p, s.peer? i = some p ∧
      p.due? verbose course.timeout (course.clock steps) = some posting := by
  obtain ⟨i, hi⟩ := mem_postings hposting
  have hclears := clears_of_posting hi
  rw [h.posting?_eq, if_pos hclears] at hi
  obtain ⟨p, hp, hdue⟩ := Option.bind_eq_some_iff.mp hi
  exact ⟨i, p, hp, hdue⟩

/-- A check gets past just the peers that it gets past along the course. -/
theorem clears_iff (hfresh : course.Fresh) (i : Nat) : s.Clears i ↔ i < course.reach steps := by
  rw [Clears, h.watched, Board.Course.reach_eq hfresh]
  rfl

/-- **A check hands over what it owes for each peer**, in the order of the peers. -/
theorem dispatches : s.Dispatches s.postings := by
  rw [postings_eq_owed]
  refine dispatches_of_comparable h.running ?_
  rw [h.peers_eq, h.now_eq]
  exact fun p hp => (h.aware.peersAfter p hp).comparable h.aware.clock

end Follows

section Build

variable {c : Settings} {verbose : Bool} {m : Monitor} {start : Moment} {steps : List Board.Step}
  (hbuild : m.BuiltFrom c verbose) (haware : (m.board.course start).Aware steps)
  (steady : Binary64)
include hbuild haware

/-- A monitor that was built from a configuration comes along the course of its board. -/
theorem follows_of_build :
    ((Session.mk m start steady).after steps).Follows (m.board.course start) verbose steps :=
  ⟨watched_after_of_build hbuild start steady steps, running_after hbuild.running steps, haware⟩

/-- The sessions that the checks of a run find have come along the course. -/
theorem follows_atChecks {u : Session} (hu : u ∈ (Session.mk m start steady).atChecks steps) :
    ∃ past, past ++ [.check] <+: steps ∧ u.Follows (m.board.course start) verbose past := by
  obtain ⟨past, hpast, rfl⟩ := exists_past_of_mem hu
  have hbefore : past <+: steps := (List.prefix_append _ _).trans hpast
  exact ⟨past, hpast, follows_of_build hbuild (haware.of_past hbefore) steady⟩

/-- **Every check of a run** hands over what it owes for the peers. -/
theorem dispatches_atChecks :
    ∀ u ∈ (Session.mk m start steady).atChecks steps, u.Dispatches u.postings := by
  intro u hu
  obtain ⟨past, -, hfollows⟩ := follows_atChecks hbuild haware steady hu
  exact hfollows.dispatches

/-- Two runs over the same steps have their checks at the same places, so that they are compared
check by check. -/
theorem map_atChecks_congr {d : Settings} {verbose' : Bool} {n : Monitor}
    (hbuild' : n.BuiltFrom d verbose') (haware' : (n.board.course start).Aware steps)
    (steady' : Binary64) {α : Type} {f g : Session → α}
    (h : ∀ past, past ++ [.check] <+: steps → ∀ u v, u.Follows (m.board.course start) verbose past →
      v.Follows (n.board.course start) verbose' past → g v = f u) :
    ((Session.mk n start steady').atChecks steps).map g =
      ((Session.mk m start steady).atChecks steps).map f := by
  induction steps using List.reverseRecOn with
  | nil => rfl
  | append_singleton steps step ih =>
    have hbefore := ih haware.init haware'.init fun past hpast =>
      h past (hpast.trans (List.prefix_append _ _))
    rw [atChecks_snoc, atChecks_snoc, List.map_append, List.map_append, hbefore]
    by_cases hstep : step = .check
    · -- the last check is the one after all other steps, in both runs
      have hlast := h steps (hstep ▸ List.prefix_refl _) _ _
        (follows_of_build hbuild haware.init steady) (follows_of_build hbuild' haware'.init steady')
      rw [if_pos hstep, if_pos hstep, List.map_singleton, List.map_singleton, hlast]
    · rw [if_neg hstep, if_neg hstep, List.map_nil, List.map_nil]

/-- **The life of one peer.** What holds of an empty record and a peer that starts, and is kept when
a check that gets past the peer adds to the record what it owes, holds after every run. A check that
does not get past the peer leaves both as they are. -/
theorem record_induction {Inv : List (Option Posting) → Debouncer → Prop} {i : Nat} {p : Peer}
    (hp : m.board.roster.peers[i]? = some p) (hstart : Inv [] p.debouncer)
    (hcheck : ∀ record (q : Peer) (now : Moment), Inv record q.debouncer →
      q.Legible c.timeout now →
      Inv (record ++ [q.due? verbose c.timeout now]) (q.checked c.timeout now).debouncer) :
    Inv ((Session.mk m start steady).record i steps)
      ((m.board.course start).peerAfter steps i p).debouncer := by
  induction steps using List.reverseRecOn with
  | nil => exact hstart
  | append_singleton steps step ih =>
    have hbefore := ih haware.init
    have hfollows := follows_of_build hbuild haware.init steady
    -- the record grows just when the course observes the peer
    have hobserves : step = .check ∧ ((Session.mk m start steady).after steps).Clears i ↔
        (m.board.course start).observes i steps step :=
      and_congr_right' (hfollows.clears_iff (Board.fresh_course hbuild start) i)
    have hpeer := hfollows.peer?_eq i
    rw [show (m.board.course start).roster.peers[i]? = some p from hp, Option.map_some] at hpeer
    rw [record_snoc]
    by_cases hmade : step = .check ∧ ((Session.mk m start steady).after steps).Clears i
    · have hlegible := (Peer.obstacle?_eq_none_iff.mp (hmade.2.obstacle?_eq_none hpeer)).2
      have hposting := posting?_of_clears hmade.2
      rw [hfollows.board_eq, hfollows.now_eq] at hlegible hposting
      rw [hpeer, Option.bind_some] at hposting
      obtain ⟨rfl, hreach⟩ := hobserves.mp hmade
      rw [if_pos hmade, hposting, Board.Course.peerAfter_snoc_check, if_pos hreach]
      have htimeout := hbuild.course_timeout start
      simp only [Board.Course.state, htimeout] at hlegible ⊢
      -- a check that got past the peer has left it with a state that has a name
      exact hcheck _ _ _ hbefore hlegible
    · rw [if_neg hmade, List.append_nil,
        Board.Course.debouncer_peerAfter_snoc _ _ _ (mt hobserves.mpr hmade)]
      exact hbefore

end Build

end Session
end EchoWatch
