import EchoWatch.Proofs.Debouncer.Window
import EchoWatch.Proofs.Delivery.Outbox
import EchoWatch.Proofs.Watch.Product
import EchoWatch.Watch.Session
/-!
# Sessions follow their boards

The calls of a session are steps of its board with a journal and an outbox around them. Neither
reaches back: the board of a session goes where the steps of a run take it (`watched_after`).

What a check shows outwardly are the entries that it writes to the journal, the jobs that it puts
into the queue and its reply. `Session.Dispatches` says what these are for a list of postings.

`after_eq_product` puts this together with the product of the peers, for a monitor that was built
from a configuration.
-/

namespace EchoWatch

/-- The call of a session that makes a step. -/
def Board.Step.call : Step → Session.Call
  | .clock now => .setClock now
  | .packet address => .packet address
  | .check => .checkAll

namespace Session

/-! ## Checks of all peers

What a check shows outwardly is a reply, entries of the journal and jobs in the queue. -/

/-- The board of a session and the clock that it is watched by. -/
def watched (s : Session) : Board.State :=
  ⟨s.monitor.board, s.now⟩

/-- A check of all peers hands some postings over. The journal tells their titles in this order,
and the queue grows by a job for each one that has somewhere to go. The check succeeds if it gets
past all peers; otherwise it came upon a state without a name. -/
structure Dispatches (s : Session) (told : List Posting) : Prop where
  journal : (s.call .checkAll).2.2 =
    told.map fun posting => .info Outbox.source posting.notice.title
  queue : (s.call .checkAll).2.1.monitor.outbox.queue =
    s.monitor.outbox.queue ++ told.filterMap Posting.job?
  reply : (s.call .checkAll).1 =
    if s.watched.reach = s.monitor.board.roster.peers.length then .nothing
    else .error (.check (.peer (.illegible .tooLong)))

variable {s : Session}

/-- A pass over all peers, by what is owed and by what fails. -/
theorem call_checkAll (horderly : s.monitor.outbox.Orderly) :
    s.call .checkAll =
      ((s.monitor.board.failure? s.now).elim .nothing fun e => .error (.check (.peer e)),
        { s with monitor := { s.monitor with
            board := s.monitor.board.afterPass s.now
            outbox := s.monitor.outbox.taking (s.monitor.board.owed s.now) } },
        s.monitor.outbox.announced (s.monitor.board.owed s.now)) := by
  simp only [call, Monitor.checkAll_eq horderly]
  cases s.monitor.board.failure? s.now <;> rfl

/-- Peers that can be compared let a check hand over what it owes. -/
theorem dispatches_of_comparable (hrunning : s.monitor.outbox.Running)
    (hpeers : ∀ p ∈ s.monitor.board.roster.peers, p.Comparable s.now) :
    s.Dispatches (s.monitor.board.owed s.now) := by
  have hcall := call_checkAll hrunning.orderly
  refine ⟨?_, ?_, ?_⟩
  · rw [hcall]
    exact hrunning.announced _
  · rw [hcall]
    exact hrunning.queue_taking _
  · rw [hcall]
    -- a pass gets to the end just when it does not fail
    have hend : s.watched.reach = s.monitor.board.roster.peers.length ↔
        s.monitor.board.failure? s.now = none := Pass.failure?_eq_none_iff.symm
    cases hfailure : s.monitor.board.failure? s.now with
    | none =>
      rw [if_pos (hend.mpr hfailure)]
      rfl
    | some e =>
      rw [if_neg (by rw [hend, hfailure]; exact nofun),
        Pass.eq_illegible_of_failure hpeers hfailure]
      rfl

/-! ## Sessions after steps -/

/-- A session after the calls that make some steps. -/
def after (s : Session) (steps : List Board.Step) : Session :=
  steps.foldl (fun s step => (s.call step.call).2.1) s

theorem after_snoc (s : Session) (steps : List Board.Step) (step : Board.Step) :
    s.after (steps ++ [step]) = ((s.after steps).call step.call).2.1 := by
  simp [after]

/-- Steps do not close the outbox. -/
theorem running_after (h : s.monitor.outbox.Running) (steps : List Board.Step) :
    (s.after steps).monitor.outbox.Running := by
  induction steps using List.reverseRecOn with
  | nil => exact h
  | append_singleton steps step ih =>
    rw [after_snoc]
    cases step with
    | clock now | packet address => exact ih
    | check =>
      rw [Board.Step.call, call_checkAll ih.orderly]
      exact ih.taking _

/-- A call does to the board of a session what the step does to a board. -/
theorem watched_call (h : s.monitor.outbox.Orderly) (step : Board.Step) :
    (s.call step.call).2.1.watched = s.watched.step step := by
  cases step with
  | clock now | packet address => rfl
  | check =>
    rw [Board.Step.call, call_checkAll h]
    rfl

/-- What is watched goes its own way, whatever becomes of the jobs. -/
theorem watched_after (h : s.monitor.outbox.Running) (steps : List Board.Step) :
    (s.after steps).watched = s.watched.after steps := by
  induction steps using List.reverseRecOn with
  | nil => rfl
  | append_singleton steps step ih =>
    rw [after_snoc, watched_call (running_after h steps).orderly, ih, Board.State.after_snoc]

/-! ## Monitors that were built -/

variable {c : Settings} {address : String} {verbose : Bool}
  {carrier : Except Monitor.BuildError Carrier} {m : Monitor} {start : Moment}
  {steps : List Board.Step}

/-- A session whose monitor was just built follows the course. -/
theorem watched_after_of_build (hbuild : m.BuiltFrom c verbose) (start : Moment)
    (steady : Binary64) (steps : List Board.Step) :
    ((Session.mk m start steady).after steps).watched =
      (m.board.course start).state verbose steps := by
  have hcourse := Board.Course.after_eq (Board.fresh_course hbuild start) verbose steps
  rw [watched_after hbuild.running, ← hcourse, ← hbuild.verbose]
  rfl

theorem peers_after_of_build (hbuild : m.BuiltFrom c verbose) (start : Moment)
    (steady : Binary64) (steps : List Board.Step) :
    ((Session.mk m start steady).after steps).monitor.board.roster.peers =
      (m.board.course start).peersAfter steps :=
  congrArg (fun s => s.board.roster.peers) (watched_after_of_build hbuild start steady steps)

/-- Packets go where they went in the beginning. -/
theorem route_after_of_build (hbuild : m.BuiltFrom c verbose) (start : Moment) (steady : Binary64)
    (steps : List Board.Step) (text : String) :
    ((Session.mk m start steady).after steps).monitor.board.roster.route text =
      m.board.roster.route text := by
  have hsame : Roster.route ⟨(m.board.course start).peersAfter steps⟩ text =
      m.board.roster.route text := Board.Course.route_peersAfter text
  rw [← peers_after_of_build hbuild start steady] at hsame
  exact hsame

/-- Where all thresholds can be written, every check gets past all peers. -/
theorem reach_of_writable (hbuild : m.BuiltFrom c verbose) (hc : c.Writable)
    (haware : (m.board.course start).Aware steps) :
    (m.board.course start).reach steps = c.peers.length := by
  rw [Board.Course.reach_eq_length (Board.fresh_course hbuild start) haware (hbuild.writable hc),
    hbuild.peers.length_eq]
  rfl

/-- **A monitor is the product of its peers.** It is built from any configuration of peers with
valid networks, and lives through any steps with a clock that shows zones. Each peer then has the
stamp of the last packet that was routed to it and the debouncer that its own observations lead to
from the start; what it was configured with is unchanged.

A check gets past the first peers whose states have names. It hands over, in the order of these
peers, what each of them owes for itself: the titles come to stand in the journal and the jobs in
the queue. Where all thresholds can be written, every check gets past all peers, so that each peer
is observed by every check. -/
theorem after_eq_product (hc : c.Buildable) (haddress : address ≠ "") (carrier : Carrier)
    (steady : Binary64) (hstart : start.Aware) (hsteps : ∀ step ∈ steps, step.Aware) :
    ∃ m, Monitor.build c address verbose (.ok carrier) = .ok m ∧
    let course := m.board.course start
    let s := (Session.mk m start steady).after steps
    let peers := s.monitor.board.roster.peers
    course.timeout = c.timeout ∧ s.now = course.clock steps ∧ peers.length = c.peers.length ∧
    (∀ i e, c.peers[i]? = some e → ∃ p q, Roster.peerOf c e = .ok p ∧
      m.board.roster.peers[i]? = some p ∧ peers[i]? = some q ∧
      q.lastSeen = course.lastSeen i steps ∧
      q.debouncer = (Debouncer.start ⟨Roster.threshold e.upThreshold c.upThreshold,
        Roster.threshold e.downThreshold c.downThreshold⟩).observeAll
          (course.observations i steps) ∧
      q.name = p.name ∧ q.range = p.range ∧ q.debouncer.limits = p.debouncer.limits ∧
      q.webhook = p.webhook) ∧
    (∀ i, i < course.reach steps ↔
      i < peers.length ∧ ∀ k ≤ i, ∀ p, peers[k]? = some p → p.Legible c.timeout s.now) ∧
    s.Dispatches
      ((peers.take (course.reach steps)).filterMap (Peer.due? verbose c.timeout s.now)) ∧
    (c.Writable → ∀ past, past <+: steps → course.reach past = c.peers.length) := by
  obtain ⟨m, hbuild, hb⟩ := Monitor.exists_build hc haddress verbose carrier
  refine ⟨m, hbuild, ?_⟩
  intro course s peers
  have haware : course.Aware steps := ⟨hstart, hsteps⟩
  -- all that follows is read off the course, peer by peer
  have hwatched : s.watched = course.state verbose steps :=
    watched_after_of_build hb start steady steps
  have hnow : s.now = course.clock steps := congrArg Board.State.now hwatched
  have hpeers : peers = course.peersAfter steps := peers_after_of_build hb start steady steps
  have htimeout : course.timeout = c.timeout := hb.timeout
  have hcomparable : ∀ p ∈ peers, p.Comparable s.now := by
    rw [hpeers, hnow]
    exact fun p hp => (haware.peersAfter p hp).comparable haware.clock
  have hreach : course.reach steps = (Pass.cleared c.timeout s.now peers).length := by
    rw [Board.Course.reach_eq (Board.fresh_course hb start), hpeers, hnow, htimeout]
  refine ⟨htimeout, hnow, ?_, ?_, ?_, ?_, ?_⟩
  · rw [hpeers, Board.Course.length_peersAfter, hb.peers.length_eq]
    rfl
  · intro i e he
    obtain ⟨p, hp, hi⟩ := hb.exists_peer he
    have hq : peers[i]? = some (course.peerAfter steps i p) := by
      rw [hpeers, Board.Course.getElem?_peersAfter, show course.roster.peers[i]? = some p from hi]
      rfl
    have hd := Roster.debouncer_of_peerOf hp
    exact ⟨p, _, hp, hi, hq, rfl, congrArg (Debouncer.observeAll · _) hd, rfl, rfl,
      Debouncer.observeAll_limits _ _, rfl⟩
  · intro i
    rw [hreach, Pass.lt_length_cleared_iff]
    refine and_congr_right fun _ => forall₄_congr fun k hk p hp => ?_
    rw [Peer.obstacle?_eq_none_iff]
    exact and_iff_right (hcomparable p (List.mem_of_getElem? hp))
  · have hdispatches := dispatches_of_comparable (running_after hb.running steps) hcomparable
    have howed : s.monitor.board.owed s.now =
        (peers.take (course.reach steps)).filterMap (Peer.due? verbose c.timeout s.now) := by
      rw [hreach, ← Pass.cleared_eq_take]
      have hverbose : s.monitor.board.verbose = verbose :=
        congrArg (fun s => s.board.verbose) hwatched
      have htimeout' : s.monitor.board.timeout = c.timeout :=
        (congrArg (fun s => s.board.timeout) hwatched).trans htimeout
      rw [Board.owed, Pass.owed, hverbose, htimeout']
    rw [← howed]
    exact hdispatches
  · intro hwritable past hpast
    exact reach_of_writable hb hwritable (haware.of_past hpast)

/-- A packet from the overlap of two ranges counts for the first peer alone, and it is the first
peer of which the second check tells. -/
theorem after_overlap :
    let c : Settings := ⟨2, 2, "1s", "10s", "http://a", ⟨"slack", []⟩,
      [⟨"A", "10.0.0.0/24", 0, 0, ""⟩, ⟨"B", "10.0.0.0/16", 0, 0, ""⟩]⟩
    let start : Moment := ⟨0, some .utc⟩
    let steps : List Board.Step := [.packet "10.0.0.5", .check]
    ∃ m p q told, Monitor.build c "0.0.0.0" false (.ok (.rehearsal [] 0)) = .ok m ∧
      let s := (Session.mk m start (.finite false 0)).after steps
      let peers := s.monitor.board.roster.peers
      peers[0]? = some p ∧ p.lastSeen = some start ∧ p.debouncer.phase = .maybeUp 1 ∧
      peers[1]? = some q ∧ q.lastSeen = none ∧ q.debouncer.phase = .down ∧
      s.Dispatches told ∧ told.map (fun posting => (posting.webhook, posting.notice.title)) =
        [(some "http://a", "Peer A is Up")] := by
  intro c start steps
  let a : Peer :=
    ⟨"A", .around (.ofQuad 167772160) 24 (by decide), some "http://a", .start ⟨2, 2⟩, none, .free⟩
  let b : Peer :=
    ⟨"B", .around (.ofQuad 167772160) 16 (by decide), some "http://a", .start ⟨2, 2⟩, none, .free⟩
  have ha : Net.Range.parse "10.0.0.0/24" = .ok a.range := by decide
  have hb : Net.Range.parse "10.0.0.0/16" = .ok b.range := by decide
  have hc : c.Buildable := .of_ranges (List.cons_ne_nil _ _) (.cons ha (.cons hb .nil))
  obtain ⟨m, hbuild, -, -, -, hpeers, -, htold, -⟩ := @after_eq_product c "0.0.0.0" false start
    steps hc (by decide) (.rehearsal [] 0) (.finite false 0) rfl (by decide)
  -- the monitor is the one around these two peers
  obtain rfl := Monitor.eq_around_of_build hbuild [a, b] rfl
  obtain ⟨-, p, -, -, hp, hpseen, hpdeb, -⟩ := hpeers 0 _ rfl
  obtain ⟨-, q, -, -, hq, hqseen, hqdeb, -⟩ := hpeers 1 _ rfl
  refine ⟨_, p, q, _, hbuild, hp, ?_, ?_, hq, ?_, ?_, htold, ?_⟩
  · rw [hpseen]
    decide
  · rw [hpdeb]
    decide +kernel
  · rw [hqseen]
    decide
  · rw [hqdeb]
    decide +kernel
  · decide +kernel

/-- The sighting of a peer whose threshold for up is too long to be written is not counted: the
check fails, and the peer stays down. -/
theorem sighting_uncounted :
    let c : Settings := ⟨Nat.pow 16 3600, 2, "1s", "10s", "", ⟨"slack", []⟩,
      [⟨"A", "10.0.0.0/24", 0, 0, ""⟩]⟩
    let start : Moment := ⟨0, some .utc⟩
    ∃ m q, Monitor.build c "0.0.0.0" false (.ok (.rehearsal [] 0)) = .ok m ∧
      let s := (Session.mk m start (.finite false 0)).after [.packet "10.0.0.5"]
      (s.monitor.checkAll s.now).1 = .error (.peer (.illegible .tooLong)) ∧
      (s.after [.check]).monitor.board.roster.peers = [q] ∧ q.debouncer.phase = .down ∧
      (q.checked c.timeout s.now).debouncer.phase = .maybeUp 1 := by
  intro c start
  let range : Net.Range := .around (.ofQuad 167772160) 24 (by decide)
  have hc : c.Buildable := .of_singleton range rfl (by decide)
  obtain ⟨m, hbuild, -⟩ := @Monitor.exists_build _ hc "0.0.0.0" (by decide) false
    (.rehearsal [] 0)
  obtain rfl := Monitor.eq_around_of_build hbuild
    [⟨"A", range, none, .start ⟨Nat.pow 16 3600, 2⟩, none, .free⟩] rfl
  -- the state after the sighting would have to show the threshold
  refine ⟨_, ⟨"A", range, none, .start ⟨Nat.pow 16 3600, 2⟩, some start, .free⟩, hbuild, ?_, ?_,
    rfl, ?_⟩
  · decide +kernel
  · decide +kernel
  · decide +kernel

end Session
end EchoWatch
