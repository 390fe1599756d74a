import EchoWatch.Proofs.Watch.Record
/-!
# A peer that falls silent

A peer is up, and no further packet is routed to it. Time goes on, packets for other peers come in,
checks are made. The stamp of the peer stays where it was, so that the checks find it recent up to
one of them and stale from there on; each later one counts a miss, until the quorum is full.

* **`Session.map_finds`**: once stale, always stale, on a clock that is not set back.
* **`Session.phase_of_silent`**: the phase of the peer as a function of the number of checks.
* **`Session.silent_peer_told_once`**: a quiet monitor tells once that the peer went down, at the
  check that makes the quorum full.

The checks that count are those that get past the peer. Where all thresholds can be written these
are all checks (`Session.checksOf_of_writable`).
-/

namespace EchoWatch

open Debouncer (quorum two_le_quorum lapse)

/-! ## One check -/

namespace Phase

variable {D : Nat}

theorem missed_self (hD : 0 < D) : missed D D = .down := by
  rw [missed, if_neg (by omega), if_neg (by omega)]

theorem missed_pred (hD : 2 ≤ D) : missed D (D - 1) = .maybeDown (D - 1 : Nat) := by
  rw [missed, if_neg (by omega), if_pos (by omega)]

end Phase

/-- Between two checks in a row only the one that fills the quorum is notable. -/
theorem Debouncer.notable_lapse {d : Debouncer} {seen : Bool} {D j k : Nat} (hD : 2 ≤ D)
    (hphase : d.phase = .missed D (k - j))
    (hnext : (d.observe seen).phase = .missed D (k + 1 - j)) :
    d.notable seen = true ↔ k + 1 = j + D := by
  rw [(d.move seen).notable_iff, hphase, hnext, Phase.verdict_missed (by omega),
    Phase.verdict_missed (by omega), Ne, decide_eq_decide]
  omega

namespace Peer

/-- The posting that a peer is down after `D` misses in a row. -/
def lost (D : Nat) (now : Moment) (p : Peer) : Posting :=
  ⟨p.webhook, .ofTransition p.name
    (Debouncer.mk (.maybeDown (D - 1 : Nat)) p.debouncer.limits).wording "Down" p.lastSeen now⟩

/-- What a quiet board tells of a peer in a lapse: that it is lost, when the quorum is full. -/
theorem due?_quiet_lapse {p : Peer} {timeout : Micros} {now : Moment} {D j k : Nat} (hD : 2 ≤ D)
    (hphase : p.debouncer.phase = .missed D (k - j))
    (hnext : (p.checked timeout now).debouncer.phase = .missed D (k + 1 - j)) :
    p.due? false timeout now = if k + 1 = j + D then some (p.lost D now) else none := by
  have hnotable := Debouncer.notable_lapse hD hphase hnext
  rw [due?_quiet]
  -- when the quorum is full, the count stood one below it
  by_cases hfull : k + 1 = j + D
  · have hcount : k - j = D - 1 := by omega
    have hlast : k + 1 - j = D := by omega
    rw [hcount, Phase.missed_pred hD] at hphase
    rw [hlast, Phase.missed_self (by omega)] at hnext
    have hdebouncer : p.debouncer = ⟨.maybeDown (D - 1 : Nat), p.debouncer.limits⟩ :=
      congrArg (Debouncer.mk · p.debouncer.limits) hphase
    rw [if_pos (hnotable.mpr hfull), if_pos hfull, told, lost, ← hdebouncer,
      Debouncer.wording_eq_down_iff.mpr hnext]
  · rw [if_neg (mt hnotable.mp hfull), if_neg hfull]

end Peer

/-! ## The silent stretch of a run -/

/-- Peer `i` was last seen at `last` in the steps before, and later ones bring no packet for it. -/
structure Board.Course.Silent (c : Course) (i : Nat) (last : Moment) (before later : List Step) :
    Prop where
  lastSeen : c.lastSeen i before = some last
  silent : ∀ step ∈ later, c.feeds i step = false

namespace Board.Course.Silent

variable {c : Course} {i : Nat} {last : Moment} {before later : List Step}

theorem of_past (h : c.Silent i last before later) {past : List Step} (hpast : past <+: later) :
    c.Silent i last before past :=
  ⟨h.lastSeen, fun step hstep => h.silent step (hpast.subset hstep)⟩

/-- Without packets of its own, a peer keeps its stamp. -/
theorem lastSeen_append (h : c.Silent i last before later) :
    c.lastSeen i (before ++ later) = some last := by
  obtain ⟨hlast, hsilent⟩ := h
  induction later using List.reverseRecOn with
  | nil => rw [List.append_nil, hlast]
  | append_singleton later step ih =>
    rw [← List.append_assoc, lastSeen_snoc, hsilent step (by simp), if_neg Bool.false_ne_true]
    exact ih fun s hs => hsilent s (List.mem_append_left _ hs)

/-- What the loss of a silent peer is told with is settled before the stretch. -/
theorem lost_peerAfter (h : c.Silent i last before later) (D : Nat) (now : Moment) (p : Peer) :
    (c.peerAfter (before ++ later) i p).lost D now = (c.peerAfter before i p).lost D now := by
  have hstamp : (c.peerAfter (before ++ later) i p).lastSeen = (c.peerAfter before i p).lastSeen :=
    h.lastSeen_append.trans h.lastSeen.symm
  have hlimits : (c.peerAfter (before ++ later) i p).debouncer.limits =
      (c.peerAfter before i p).debouncer.limits :=
    (Debouncer.observeAll_limits _ _).trans (Debouncer.observeAll_limits _ _).symm
  rw [Peer.lost, hstamp, hlimits]
  rfl

end Board.Course.Silent

namespace Session

/-- Runs do not change routes. So a peer falls silent along the course of a session once the session
routes no more packets to it. -/
theorem Follows.silent {course : Board.Course} {verbose : Bool} {before later : List Board.Step}
    {s : Session} {i : Nat} {last : Moment} (h : s.Follows course verbose before)
    (hlast : course.lastSeen i before = some last)
    (hroute : ∀ sender, .packet sender ∈ later → s.monitor.board.roster.route sender ≠ .peer i) :
    course.Silent i last before later := by
  refine ⟨hlast, ?_⟩
  intro step hstep
  cases step with
  | clock now | check => rfl
  | packet sender =>
    have hsender := hroute sender hstep
    rw [h.board_eq] at hsender
    exact decide_eq_false ((Board.Course.route_peersAfter sender).symm ▸ hsender)

/-- The session finds a packet of that moment less than `timeout` old. -/
def finds (last : Moment) (timeout : Micros) (u : Session) : Bool :=
  u.now.elapsed last < timeout

/-- Once stale, always stale, on a clock by which the packet only gets older. -/
theorem map_finds {checks : List Session} {last : Moment}
    (hclock : checks.Pairwise fun u v => u.now.elapsed last ≤ v.now.elapsed last)
    (timeout : Micros) :
    checks.map (finds last timeout) = lapse (checks.countP (finds last timeout)) checks.length := by
  apply Debouncer.map_eq_lapse
  refine hclock.imp ?_
  intro u v huv hv
  rw [finds, decide_eq_true_eq] at hv ⊢
  exact lt_of_le_of_lt huv hv

/-- A session at the end of some steps that goes on along the course through later ones. -/
def Keeps (course : Board.Course) (verbose : Bool) (before later : List Board.Step) (s : Session) :
    Prop :=
  ∀ past, past <+: later → (s.after past).Follows course verbose (before ++ past)

theorem Keeps.of_past {course : Board.Course} {verbose : Bool} {before later past : List Board.Step}
    {s : Session} (h : s.Keeps course verbose before later) (hpast : past <+: later) :
    s.Keeps course verbose before past :=
  fun earlier hearlier => h earlier (hearlier.trans hpast)

section Silence

variable {course : Board.Course} {verbose : Bool} {s : Session} {last : Moment}
  {before later : List Board.Step} {i : Nat} {p : Peer}
  (hkeeps : s.Keeps course verbose before later) (hsilent : course.Silent i last before later)
  (hfresh : course.Fresh)
include hkeeps hsilent hfresh

/-- The checks of a silent stretch all look at the stamp that the peer had before it. -/
theorem observations_append :
    course.observations i (before ++ later) =
      course.observations i before ++ (s.checksOf i later).map (finds last course.timeout) := by
  induction later using List.reverseRecOn with
  | nil => simp [checksOf, atChecks]
  | append_singleton later step ih =>
    have hlater : later <+: later ++ [step] := List.prefix_append later [step]
    have hbefore := hsilent.of_past hlater
    have hfollows := hkeeps later hlater
    -- the course observes the peer when a check of the session gets past it
    have hobserves : course.observes i (before ++ later) step ↔
        step = .check ∧ (s.after later).Clears i :=
      and_congr_right' (hfollows.clears_iff hfresh i).symm
    rw [← List.append_assoc, Board.Course.observations_snoc, checksOf_snoc, List.map_append,
      ih (hkeeps.of_past hlater) hbefore, List.append_assoc]
    simp only [hobserves]
    split
    next =>
      rw [Board.Course.observation, hbefore.lastSeen_append, List.map_singleton, finds,
        hfollows.now_eq]
      rfl
    next => rfl

variable (hup : (course.peerAfter before i p).debouncer.phase = .up)
  (hclock : (s.checksOf i later).Pairwise fun u v => u.now.elapsed last ≤ v.now.elapsed last)
include hup hclock

/-- **The phase of a silent peer** that was up: as many misses as there were checks since its stamp
became stale. -/
theorem phase_of_silent {past : List Board.Step} (hpast : past <+: later) :
    (course.peerAfter (before ++ past) i p).debouncer.phase =
      .missed (quorum p.debouncer.limits.down)
        ((s.checksOf i past).length - (s.checksOf i later).countP (finds last course.timeout)) := by
  -- the observations up to here are the first ones of the whole stretch
  have hlapse : (s.checksOf i past).map (finds last course.timeout) =
      lapse ((s.checksOf i later).countP (finds last course.timeout))
        (s.checksOf i past).length := by
    obtain ⟨rest, rfl⟩ := hpast
    have hchecks : s.checksOf i past =
        (s.checksOf i (past ++ rest)).take (s.checksOf i past).length := by
      rw [checksOf_append, List.take_left]
    have hlen : (s.checksOf i past).length ≤ (s.checksOf i (past ++ rest)).length := by
      rw [checksOf_append, List.length_append]
      exact Nat.le_add_right _ _
    conv_lhs => rw [hchecks, List.map_take, map_finds hclock]
    exact Debouncer.take_lapse hlen
  have hobserved := observations_append (hkeeps.of_past hpast) (hsilent.of_past hpast) hfresh
  have hstart : p.debouncer.observeAll (course.observations i before) =
      ⟨.up, p.debouncer.limits⟩ :=
    congrArg₂ Debouncer.mk hup (Debouncer.observeAll_limits _ _)
  rw [Board.Course.peerAfter, hobserved, Debouncer.observeAll_append, hstart, hlapse]
  exact Debouncer.phase_observeAll_lapse _ _ _

/-- The check that comes after `k` others of a silent stretch: what it leaves of the peer, and what
it owes on a quiet board. -/
theorem check_of_silent (hp : course.roster.peers[i]? = some p) {k : Nat} {u : Session}
    (hu : (s.checksOf i later)[k]? = some u) :
    let D := quorum p.debouncer.limits.down
    let j := (s.checksOf i later).countP (finds last course.timeout)
    (∃ r, (u.after [.check]).peer? i = some r ∧ r.debouncer.phase = .missed D (k + 1 - j)) ∧
      (verbose = false → u.posting? i =
        if k + 1 = j + D then some ((course.peerAfter before i p).lost D u.now) else none) := by
  intro D j
  obtain ⟨past, hpast, hlen, rfl, hclears⟩ := exists_past hu
  have hbefore : past <+: later := (List.prefix_append past [.check]).trans hpast
  have hfollows := hkeeps past hbefore
  -- the phase before this check and the one after it are known by the number of checks
  have hphase := phase_of_silent hkeeps hsilent hfresh hup hclock hbefore
  have hnext := phase_of_silent hkeeps hsilent hfresh hup hclock hpast
  rw [hlen] at hphase
  rw [checksOf_snoc, if_pos ⟨rfl, hclears⟩, List.length_append, hlen,
    List.length_singleton] at hnext
  refine ⟨⟨course.peerAfter (before ++ (past ++ [.check])) i p, ?_, hnext⟩, ?_⟩
  · rw [← after_append, (hkeeps _ hpast).peer?_eq, hp, Option.map_some]
  · rintro rfl
    rw [← List.append_assoc, Board.Course.peerAfter_snoc_check,
      if_pos ((hfollows.clears_iff hfresh i).mp hclears)] at hnext
    rw [hfollows.posting?_eq, if_pos hclears, hfollows.peer?_eq, hp, Option.map_some,
      Option.bind_some, Peer.due?_quiet_lapse (two_le_quorum _) hphase hnext, hfollows.now_eq,
      (hsilent.of_past hbefore).lost_peerAfter]

end Silence

section Build

variable {c : Settings} {verbose : Bool} {m : Monitor} {start : Moment}
  {before later : List Board.Step} (hbuild : m.BuiltFrom c verbose)
  (haware : (m.board.course start).Aware (before ++ later)) (steady : Binary64)
include hbuild haware

/-- A monitor that was just built keeps to its course. -/
theorem keeps_of_build :
    ((Session.mk m start steady).after before).Keeps (m.board.course start) verbose before
      later := by
  intro past hpast
  rw [← after_append]
  exact follows_of_build hbuild
    (haware.of_past ((List.prefix_append_right_inj before).mpr hpast)) steady

theorem follows_atChecks_after {u : Session}
    (hu : u ∈ ((Session.mk m start steady).after before).atChecks later) :
    ∃ past, past ++ [.check] <+: before ++ later ∧
      u.Follows (m.board.course start) verbose past := by
  refine follows_atChecks hbuild haware steady ?_
  rw [atChecks_append]
  exact List.mem_append_right _ hu

/-- Where all thresholds can be written, every check gets past every peer. -/
theorem checksOf_of_writable (hc : c.Writable) {i : Nat} (hi : i < c.peers.length) :
    ((Session.mk m start steady).after before).checksOf i later =
      ((Session.mk m start steady).after before).atChecks later := by
  refine List.filter_eq_self.mpr fun u hu => decide_eq_true ?_
  obtain ⟨past, hpast, hfollows⟩ := follows_atChecks_after hbuild haware steady hu
  rw [hfollows.clears_iff (Board.fresh_course hbuild start),
    reach_of_writable hbuild hc hfollows.aware]
  exact hi

end Build

variable {c : Settings} {address : String} {start : Moment} {before later : List Board.Step}

/-- **A silent peer is told of once, and on time.** A quiet monitor is built from any configuration
of peers with valid networks. Some steps leave a peer up that was last seen at `last`; later ones
bring it no packet, and by the clock the last one does not get younger from check to check. Of the
later checks that get past the peer, the first ones find it recent and leave it up; from there on
each of them is a miss, and the miss that makes the quorum full is told. No other check tells
anything of the peer.

Where all thresholds can be written, every check gets past the peer. Elsewhere a peer with such a
threshold may stay up for good: it is an obstacle to the very check that would count its first
miss. -/
theorem silent_peer_told_once (hc : c.Buildable) (haddress : address ≠ "") (carrier : Carrier)
    (steady : Binary64) (hstart : start.Aware) (hbefore : ∀ step ∈ before, step.Aware)
    (hlater : ∀ step ∈ later, step.Aware) :
    ∃ m, Monitor.build c address false (.ok carrier) = .ok m ∧
    let s := (Session.mk m start steady).after before
    (∀ u ∈ s.atChecks later, u.Dispatches u.postings) ∧
    ∀ i e q last, c.peers[i]? = some e → s.peer? i = some q → q.debouncer.phase = .up →
      q.lastSeen = some last →
      (∀ sender, .packet sender ∈ later → s.monitor.board.roster.route sender ≠ .peer i) →
      let checks := s.checksOf i later
      (checks.Pairwise fun u v => u.now.elapsed last ≤ v.now.elapsed last) →
      let D := quorum (Roster.threshold e.downThreshold c.downThreshold)
      let j := checks.countP fun u => u.now.elapsed last < c.timeout
      (c.Writable → checks = s.atChecks later) ∧
      (∀ k u, checks[k]? = some u →
        (∃ r, (u.after [.check]).peer? i = some r ∧ r.debouncer.phase = .missed D (k + 1 - j)) ∧
        u.posting? i = if k + 1 = j + D then some (q.lost D u.now) else none) ∧
      (checks.length < j + D → ∀ u ∈ s.atChecks later, u.posting? i = none) := by
  obtain ⟨m, hbuild, hb⟩ := Monitor.exists_build hc haddress false carrier
  have haware : (m.board.course start).Aware (before ++ later) :=
    ⟨hstart, fun step hstep => (List.mem_append.mp hstep).elim (hbefore step) (hlater step)⟩
  have hdispatches : ∀ u ∈ ((Session.mk m start steady).after before).atChecks later,
      u.Dispatches u.postings := by
    intro u hu
    obtain ⟨past, -, hfollows⟩ := follows_atChecks_after hb haware steady hu
    exact hfollows.dispatches
  refine ⟨m, hbuild, hdispatches, ?_⟩
  have hkeeps := keeps_of_build hb haware steady
  have hall := fun hwritable i =>
    @checksOf_of_writable c false m start before later hb haware steady
    hwritable i
  generalize (Session.mk m start steady).after before = s at hkeeps hall ⊢
  intro i e q last he hq hup hlast hroute checks hclock D j
  have hfresh : (m.board.course start).Fresh := Board.fresh_course hb start
  have hsession : s.Follows (m.board.course start) false (before ++ []) :=
    hkeeps [] List.nil_prefix
  rw [List.append_nil] at hsession
  -- the peer has come along the course of the monitor
  obtain ⟨p, hpe, hp⟩ := hb.exists_peer he
  obtain rfl : (m.board.course start).peerAfter before i p = q := by
    rw [hsession.peer?_eq, show (m.board.course start).roster.peers[i]? = some p from hp] at hq
    exact Option.some.inj hq
  have hsilent : (m.board.course start).Silent i last before later :=
    hsession.silent hlast hroute
  have hD : D = quorum p.debouncer.limits.down := by
    rw [Roster.debouncer_of_peerOf hpe]
    rfl
  have hj : j = checks.countP (finds last (m.board.course start).timeout) := by
    rw [hb.course_timeout]
    rfl
  have hchecks : ∀ k u, checks[k]? = some u →
      (∃ r, (u.after [.check]).peer? i = some r ∧ r.debouncer.phase = .missed D (k + 1 - j)) ∧
      u.posting? i = if k + 1 = j + D then
        some (((m.board.course start).peerAfter before i p).lost D u.now) else none := by
    intro k u hu
    obtain ⟨hphase, hposting⟩ := check_of_silent hkeeps hsilent hfresh hup hclock hp hu
    rw [hD, hj]
    exact ⟨hphase, hposting rfl⟩
  refine ⟨fun hwritable => hall hwritable i (List.getElem?_eq_some_iff.mp he).1, hchecks, ?_⟩
  intro hfew u hu
  by_cases hclears : u.Clears i
  · have hmem : u ∈ s.checksOf i later := List.mem_filter.mpr ⟨hu, decide_eq_true hclears⟩
    obtain ⟨k, hk⟩ := List.getElem?_of_mem hmem
    have hlen : k < checks.length := (List.getElem?_eq_some_iff.mp hk).1
    rw [(hchecks k u hk).2, if_neg (by omega)]
  · exact if_neg hclears

/-- One check in time and three too late: the fourth one tells that the peer is down. Packets from
elsewhere do not help it. -/
theorem silent_peer_told_fourth :
    let c : Settings := ⟨2, 3, "1s", "5s", "", ⟨"slack", []⟩, [⟨"A", "10.0.0.0/24", 0, 0, ""⟩]⟩
    let start : Moment := ⟨0, some .utc⟩
    let before : List Board.Step := [.packet "10.0.0.5", .check, .check]
    let later : List Board.Step := [.clock ⟨4999999, some .utc⟩, .packet "10.0.1.5", .check,
      .clock ⟨5000000, some .utc⟩, .check, .check, .check, .check]
    ∃ m, Monitor.build c "0.0.0.0" false (.ok (.rehearsal [] 0)) = .ok m ∧
      let s := (Session.mk m start (.finite false 0)).after before
      (s.record 0 later).map (Option.map fun posting => posting.notice.newState) =
        [none, none, none, some "Down", none] ∧
      ∃ q, s.peer? 0 = some q ∧
        let recent := (s.atChecks later).countP fun u => u.now.elapsed start < c.timeout
        recent = 1 ∧ ∀ k u, (s.atChecks later)[k]? = some u →
          u.posting? 0 = if k + 1 = recent + 3 then some (q.lost 3 u.now) else none := by
  intro c start before later
  let range : Net.Range := .around (.ofQuad 167772160) 24 (by decide)
  have hc : c.Buildable := .of_singleton range rfl (by decide)
  obtain ⟨m, hbuild, -, hpeers⟩ := @silent_peer_told_once c "0.0.0.0" start before later hc
    (by decide) (.rehearsal [] 0) (.finite false 0) rfl (by decide) (by decide)
  have hm := Monitor.eq_around_of_build hbuild
    [⟨"A", range, none, .start ⟨2, 3⟩, none, .free⟩] rfl
  refine ⟨m, hbuild, ?_⟩
  -- the general statement is used with the session left unevaluated
  generalize hs : (Session.mk m start (.finite false 0)).after before = s at hpeers ⊢
  rw [hm] at hs
  let q : Peer := ⟨"A", range, none, ⟨.up, ⟨2, 3⟩⟩, some start, .free⟩
  have hq : s.peer? 0 = some q := by
    rw [← hs]
    decide +kernel
  have hroute : ∀ sender, .packet sender ∈ later →
      s.monitor.board.roster.route sender ≠ .peer 0 := by
    intro sender hsender
    obtain rfl : sender = "10.0.1.5" := by simpa [later] using hsender
    rw [← hs]
    decide +kernel
  have hclock : (s.checksOf 0 later).Pairwise
      fun u v => u.now.elapsed start ≤ v.now.elapsed start := by
    rw [← hs]
    decide +kernel
  have hrecent : (s.atChecks later).countP (fun u => u.now.elapsed start < c.timeout) = 1 := by
    rw [← hs]
    decide +kernel
  obtain ⟨hall, hchecks, -⟩ := hpeers 0 _ q start rfl hq rfl rfl hroute hclock
  rw [hall (by decide +kernel)] at hchecks
  refine ⟨?_, q, hq, hrecent, fun k u hu => (hchecks k u hu).2⟩
  rw [← hs]
  decide +kernel

/-- A peer whose threshold for down is too long to be written stays up although it is silent: the
check that would count its first miss fails. -/
theorem silent_peer_left_up :
    let c : Settings := ⟨2, Nat.pow 16 3600, "1s", "5s", "", ⟨"slack", []⟩,
      [⟨"A", "10.0.0.0/24", 0, 0, ""⟩]⟩
    let start : Moment := ⟨0, some .utc⟩
    let before : List Board.Step := [.packet "10.0.0.5", .check, .check]
    ∃ m q, Monitor.build c "0.0.0.0" false (.ok (.rehearsal [] 0)) = .ok m ∧
      let s := (Session.mk m start (.finite false 0)).after
        (before ++ [.clock ⟨5000000, some .utc⟩])
      (s.monitor.checkAll s.now).1 = .error (.peer (.illegible .tooLong)) ∧
      (s.after [.check]).peer? 0 = some q ∧ q.debouncer.phase = .up ∧
      (q.checked c.timeout s.now).debouncer.phase = .maybeDown 1 := by
  intro c start before
  let range : Net.Range := .around (.ofQuad 167772160) 24 (by decide)
  -- the peer was confirmed up, which has a name; a first miss would not have one
  let limits : Thresholds := ⟨2, Nat.pow 16 3600⟩
  have hc : c.Buildable := .of_singleton range rfl (by decide)
  obtain ⟨m, hbuild, -⟩ := @Monitor.exists_build _ hc "0.0.0.0" (by decide) false
    (.rehearsal [] 0)
  obtain rfl := Monitor.eq_around_of_build hbuild
    [⟨"A", range, none, .start limits, none, .free⟩] rfl
  refine ⟨_, ⟨"A", range, none, ⟨.up, limits⟩, some start, .free⟩, hbuild, ?_, ?_, rfl, ?_⟩
  · decide +kernel
  · decide +kernel
  · decide +kernel

end Session
end EchoWatch
