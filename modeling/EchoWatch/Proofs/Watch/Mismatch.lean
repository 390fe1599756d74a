import EchoWatch.Proofs.Watch.Reach
import EchoWatch.Proofs.Watch.Session
/-!
# A check that fails leaves no trace

A check fails when the last packet of its peer and the clock are not on the same time line: one of
them has a zone and the other has none. The error comes up inside the gate of the peer, and in a
pass it comes up between other peers.

* **`checkAt_of_not_comparable`**, **`checkAt_of_comparable`**, **`packet_of_route`**: what one call
  does to the one peer that it is about, whatever stands around it.
* **`checkAll_of_append`**: a pass over peers of which the first ones are no obstacle, and the next
  one is.
* **`failing_check_traceless`**: hence what is left of a failure, alone and in a pass.
-/

namespace EchoWatch
namespace Session

/-- A session with other peers and another outbox. -/
def having (s : Session) (peers : List Peer) (outbox : Outbox) : Session :=
  { s with
    monitor := { s.monitor with
      board := { s.monitor.board with roster := ⟨peers⟩ }
      outbox := outbox } }

/-- A session at another reading of the clock. -/
def readAt (s : Session) (now : Moment) : Session :=
  { s with now := now }

/-- A check of peer `p` between others, when the clock can be compared with its last packet. The
peer gets its observation, and what is due comes to stand in the journal and in the queue; unless a
state has no name. -/
def checking (s : Session) (before : List Peer) (p : Peer) (after : List Peer) :
    Reply × Session × List Entry :=
  let board := s.monitor.board
  let due := p.due? board.verbose board.timeout s.now
  if p.Legible board.timeout s.now then
    (.notice (due.map Posting.notice),
      s.having (before ++ p.checked board.timeout s.now :: after)
        (s.monitor.outbox.taking due.toList),
      s.monitor.outbox.announced due.toList)
  else (.error (.check (.peer (.illegible .tooLong))), s, [])

variable {s : Session} {before after : List Peer} {p : Peer}

/-! ## One peer among others -/

/-- The place of a peer behind some others. -/
theorem position?_of_peers (hpeers : s.monitor.board.roster.peers = before ++ p :: after) :
    s.position? before.length = some before.length := by
  have hlt : before.length < s.monitor.board.roster.peers.length := by
    rw [hpeers, List.length_append, List.length_cons]
    omega
  have hnonneg : ¬ (before.length : Int) < 0 := by omega
  simp only [position?, if_neg hnonneg]
  rw [if_pos ⟨by omega, by omega⟩, Int.toNat_natCast]

/-- The peer at that place. -/
theorem getElem?_of_peers (hpeers : s.monitor.board.roster.peers = before ++ p :: after) :
    s.monitor.board.roster.peers[before.length]? = some p := by
  rw [hpeers]
  simp

/-- A check with an obstacle is an error, and nothing else. -/
theorem checkAt_of_obstacle (hpeers : s.monitor.board.roster.peers = before ++ p :: after)
    {e : Peer.CheckError} (h : p.obstacle? s.monitor.board.timeout s.now = some e) :
    s.call (.checkAt before.length) = (.error (.check (.peer e)), s, []) := by
  simp only [call, position?_of_peers hpeers, Option.bind_some,
    Monitor.checkAt_of_obstacle (getElem?_of_peers hpeers) h, checkReply]

/-- The check of a peer that cannot be compared fails, and nothing else happens. -/
theorem checkAt_of_not_comparable (hpeers : s.monitor.board.roster.peers = before ++ p :: after)
    (hp : ¬ p.Comparable s.now) :
    s.call (.checkAt before.length) = (.error (.check (.peer .clockMismatch)), s, []) :=
  checkAt_of_obstacle hpeers (Peer.obstacle?_of_not_comparable hp)

/-- The check of any other peer leaves those around it as they are. -/
theorem checkAt_of_comparable (horderly : s.monitor.outbox.Orderly)
    (hpeers : s.monitor.board.roster.peers = before ++ p :: after) (hp : p.Comparable s.now) :
    s.call (.checkAt before.length) = s.checking before p after := by
  unfold checking
  dsimp only
  split
  next hlegible =>
    have hclear := Peer.obstacle?_eq_none_iff.mpr ⟨hp, hlegible⟩
    -- the checked peer takes the place of the other, between its neighbours
    have hset : s.monitor.board.setPeer before.length (p.checked s.monitor.board.timeout s.now) =
        { s.monitor.board with
          roster := ⟨before ++ p.checked s.monitor.board.timeout s.now :: after⟩ } := by
      rw [Board.setPeer, hpeers]
      simp
    simp only [call, position?_of_peers hpeers, Option.bind_some,
      Monitor.checkAt_of_clear horderly (getElem?_of_peers hpeers) hclear, checkReply, hset]
    rfl
  next hlegible =>
    refine checkAt_of_obstacle hpeers ?_
    rw [Peer.obstacle?, if_neg (not_not.mpr hp), if_neg hlegible]

/-- A packet stamps the peer that it is routed to. -/
theorem packet_of_route (hgate : p.gate = .free)
    (hpeers : s.monitor.board.roster.peers = before ++ p :: after) {address : String}
    (hroute : s.monitor.board.roster.route address = .peer before.length) :
    (s.call (.packet address)).2.1 =
      s.having (before ++ { p with lastSeen := some s.now } :: after) s.monitor.outbox := by
  have hmodify : s.monitor.board.roster.modify before.length (fun p => p.markSeen s.now) =
      ⟨before ++ { p with lastSeen := some s.now } :: after⟩ := by
    rw [Roster.modify, hpeers, ← Peer.markSeen_of_free hgate]
    simp [List.modify_eq_set_getElem?]
  simp only [call, packet, Monitor.packet, Board.packet, hroute, hmodify]
  rfl

/-! ## A pass -/

/-- A pass over peers that are no obstacle. -/
theorem checkAll_of_clear (horderly : s.monitor.outbox.Orderly)
    (hpeers : s.monitor.board.roster.peers = before)
    (hbefore : ∀ q ∈ before, q.obstacle? s.monitor.board.timeout s.now = none) :
    let board := s.monitor.board
    let owed := before.filterMap (Peer.due? board.verbose board.timeout s.now)
    s.call .checkAll =
      (.nothing, s.having (before.map (Peer.checked board.timeout s.now))
        (s.monitor.outbox.taking owed), s.monitor.outbox.announced owed) := by
  subst hpeers
  intro board owed
  have hcleared := Pass.cleared_eq_self hbefore
  have hfailure : board.failure? s.now = none := by
    rw [Board.failure?, Pass.failure?_eq_none_iff, hcleared]
  have howed : board.owed s.now = owed := by
    rw [Board.owed, Pass.owed, hcleared]
  -- nobody is left behind an obstacle
  have hleft : Pass.left board.timeout s.now board.roster.peers = [] := by
    have hboth := @Pass.cleared_append_left board.timeout s.now board.roster.peers
    rw [hcleared] at hboth
    exact List.append_cancel_left (hboth.trans (List.append_nil _).symm)
  have hafter : board.afterPass s.now =
      { board with roster := ⟨board.roster.peers.map (Peer.checked board.timeout s.now)⟩ } := by
    rw [Board.afterPass, Pass.after, hcleared, hleft, List.append_nil]
  rw [call_checkAll horderly, show s.monitor.board.failure? s.now = none from hfailure,
    show s.monitor.board.owed s.now = owed from howed,
    show s.monitor.board.afterPass s.now = _ from hafter]
  rfl

/-- A pass over peers of which the first ones are no obstacle, and the next one is. -/
theorem checkAll_of_append (horderly : s.monitor.outbox.Orderly)
    (hpeers : s.monitor.board.roster.peers = before ++ p :: after)
    (hbefore : ∀ q ∈ before, q.obstacle? s.monitor.board.timeout s.now = none)
    {e : Peer.CheckError} (h : p.obstacle? s.monitor.board.timeout s.now = some e) :
    let board := s.monitor.board
    let owed := before.filterMap (Peer.due? board.verbose board.timeout s.now)
    s.call .checkAll =
      (.error (.check (.peer e)),
        s.having (before.map (Peer.checked board.timeout s.now) ++ p :: after)
          (s.monitor.outbox.taking owed),
        s.monitor.outbox.announced owed) := by
  intro board owed
  have hpeers' : board.roster.peers = before ++ p :: after := hpeers
  obtain ⟨hcleared, hleft⟩ :
      Pass.cleared board.timeout s.now (before ++ p :: after) = before ∧
        Pass.left board.timeout s.now (before ++ p :: after) = p :: after :=
    Pass.cleared_append_of_obstacle hbefore h
  -- what is left begins with the obstacle, and this decides the outcome
  have hfailure : board.failure? s.now = some e := by
    rw [Board.failure?, Pass.failure?, hpeers', hleft, List.head?_cons, Option.bind_some, h]
  have howed : board.owed s.now = owed := by
    rw [Board.owed, Pass.owed, hpeers', hcleared]
  have hafter : board.afterPass s.now = { board with
      roster := ⟨before.map (Peer.checked board.timeout s.now) ++ p :: after⟩ } := by
    rw [Board.afterPass, Pass.after, hpeers', hcleared, hleft]
  rw [call_checkAll horderly, show s.monitor.board.failure? s.now = some e from hfailure,
    show s.monitor.board.owed s.now = owed from howed,
    show s.monitor.board.afterPass s.now = _ from hafter]
  rfl

/-! ## The failure -/

section Failure

variable {c : Settings} {address : String} {verbose : Bool}
  {carrier : Except Monitor.BuildError Carrier} {m₀ : Monitor} {last : Moment}

/-- **A failing check leaves no trace.** A monitor has come from its beginning to any state by any
steps, and the clock reads whatever it likes, so that its distance to the last packet of a peer
cannot be computed.

A check of the peer then fails, and that is all: the session is what it was, to the last stamp and
the last job. Nobody is at the gate of the peer. So a packet is noted as ever, at any reading of the
clock, and the check after it goes ahead as for any peer (`checking`); and without a packet a check
goes ahead as soon as the clock is on the time line of the last one.

If the peers in front of it can be compared, and their states have names, a check of all peers is
for them the check that it would be without the others: they get their observations, and what is due
for them comes to stand in the journal and in the queue. The peer and those behind it are as they
were. -/
theorem failing_check_traceless (hbuild : Monitor.build c address verbose carrier = .ok m₀)
    (hreach : m₀.Reaches s.monitor)
    (hpeers : s.monitor.board.roster.peers = before ++ p :: after)
    (hlast : p.lastSeen = some last) (hmixed : s.now.elapsed? last = none) :
    let i := before.length
    let board := s.monitor.board
    let outbox := s.monitor.outbox
    let due := Peer.due? board.verbose board.timeout
    let checked := Peer.checked board.timeout
    s.call (.checkAt i) = (.error (.check (.peer .clockMismatch)), s, []) ∧
    p.gate = .free ∧ (∀ role, p.gate.admits role = true) ∧
    (∀ now, let marked : Peer := { p with lastSeen := some now }
      p.markSeen now = marked ∧
      ∀ text, board.roster.route text = .peer i →
        let s' := ((s.readAt now).call (.packet text)).2.1
        s' = (s.readAt now).having (before ++ marked :: after) outbox ∧
        s'.call (.checkAt i) = s'.checking before marked after) ∧
    (∀ now, (now.elapsed? last).isSome = true →
      (s.readAt now).call (.checkAt i) = (s.readAt now).checking before p after) ∧
    ((∀ q ∈ before, q.Comparable s.now) → (∀ q ∈ before, q.Legible board.timeout s.now) →
      let owed := before.filterMap (due s.now)
      (s.having before outbox).call .checkAll =
        (.nothing, s.having (before.map (checked s.now)) (outbox.taking owed),
          outbox.announced owed) ∧
      s.call .checkAll = (.error (.check (.peer .clockMismatch)),
        s.having (before.map (checked s.now) ++ p :: after) (outbox.taking owed),
        outbox.announced owed)) := by
  intro i board outbox due checked
  have hrest : s.monitor.AtRest := (Monitor.builtFrom_of_build hbuild).atRest.reaches hreach
  have hgate : p.gate = .free :=
    hrest.board p (hpeers ▸ List.mem_append_right before List.mem_cons_self)
  have hp : ¬ p.Comparable s.now := by
    rw [Peer.comparable_iff hlast, hmixed]
    exact Bool.false_ne_true
  refine ⟨checkAt_of_not_comparable hpeers hp, hgate, ?_, ?_, ?_, ?_⟩
  · intro role
    rw [hgate]
    cases role <;> rfl
  · intro now marked
    refine ⟨Peer.markSeen_of_free hgate now, ?_⟩
    intro text hroute s'
    have hs' : s' = (s.readAt now).having (before ++ marked :: after) outbox :=
      packet_of_route (s := s.readAt now) hgate hpeers hroute
    refine ⟨hs', ?_⟩
    -- the packet brings the peer to the time line of the clock
    have hmarked : marked.Comparable now :=
      (Peer.comparable_iff rfl now).mpr now.isSome_elapsed?_self
    rw [hs']
    exact checkAt_of_comparable (s := (s.readAt now).having (before ++ marked :: after) outbox)
      hrest.outbox rfl hmarked
  · intro now hnow
    have hcomparable : p.Comparable now := (Peer.comparable_iff hlast now).mpr hnow
    exact checkAt_of_comparable (s := s.readAt now) hrest.outbox hpeers hcomparable
  · intro hcomparable hlegible owed
    have hbefore : ∀ q ∈ before, q.obstacle? board.timeout s.now = none := fun q hq =>
      Peer.obstacle?_eq_none_iff.mpr ⟨hcomparable q hq, hlegible q hq⟩
    refine ⟨?_, ?_⟩
    · exact checkAll_of_clear (s := s.having before outbox) hrest.outbox rfl hbefore
    · exact checkAll_of_append hrest.outbox hpeers hbefore (Peer.obstacle?_of_not_comparable hp)

/-- Three peers, of which the second one was seen at a clock without a zone, the first one after
that at a clock with one, and the third one never: a pass reports the first peer and stops at the
second. -/
theorem failing_check_second_of_three :
    let c : Settings := ⟨2, 2, "1s", "10s", "https://hooks.test/a", ⟨"slack", []⟩,
      [⟨"A", "10.0.0.0/24", 0, 0, ""⟩, ⟨"B", "10.0.1.0/24", 0, 0, ""⟩,
        ⟨"C", "10.0.2.0/24", 0, 0, ""⟩]⟩
    let bare : Moment := ⟨0, none⟩
    let fixed : Moment := ⟨0, some .utc⟩
    ∃ m₀ a b d, Monitor.build c "0.0.0.0" true (.ok (.rehearsal [] 0)) = .ok m₀ ∧
      let s₁ := ((Session.mk m₀ bare (.finite false 0)).call (.packet "10.0.1.5")).2.1
      let s := ((s₁.readAt fixed).call (.packet "10.0.0.5")).2.1
      m₀.Reaches s.monitor ∧ s.monitor.board.roster.peers = [a, b, d] ∧
      b.lastSeen = some bare ∧ s.now.elapsed? bare = none ∧
      a.Comparable s.now ∧ a.Legible s.monitor.board.timeout s.now ∧
      s.call (.checkAt 1) = (.error (.check (.peer .clockMismatch)), s, []) ∧
      ∃ outbox entries,
        s.call .checkAll = (.error (.check (.peer .clockMismatch)),
          s.having [a.checked s.monitor.board.timeout s.now, b, d] outbox, entries) ∧
        outbox.queue.map Job.target = ["https://hooks.test/a"] ∧
        entries = [.info Outbox.source "Peer A is Maybe Up (1 of 2)"] := by
  intro c bare fixed
  let peer (name : String) (host : Fin (Nat.pow 2 32)) (lastSeen : Option Moment) : Peer :=
    ⟨name, .around (.ofQuad host) 24 (by change 24 ≤ 32; decide), some "https://hooks.test/a",
      .start ⟨2, 2⟩, lastSeen, .free⟩
  let a := peer "A" 167772160
  let b := peer "B" 167772416
  let d := peer "C" 167772672
  let m₀ : Monitor := .around c "0.0.0.0" ⟨⟨[a none, b none, d none]⟩, c.timeout, true⟩
    (.rehearsal [] 0)
  have hbuild : Monitor.build c "0.0.0.0" true (.ok (.rehearsal [] 0)) = .ok m₀ := rfl
  refine ⟨m₀, a (some fixed), b (some bare), d none, hbuild, ?_⟩
  intro s₁ s
  have hreach : m₀.Reaches s.monitor :=
    (reaches_call ⟨m₀, bare, .finite false 0⟩ _).trans (reaches_call (s₁.readAt fixed) _)
  have hpeers : s.monitor.board.roster.peers = [a (some fixed), b (some bare), d none] := by
    decide +kernel
  have hsplit : s.monitor.board.roster.peers =
      [a (some fixed)] ++ b (some bare) :: [d none] := hpeers
  -- peer B fails whatever the others do, and a pass fails at it if it gets there
  obtain ⟨hcheck, -, -, -, -, hpass⟩ := failing_check_traceless hbuild hreach hsplit rfl rfl
  have hcomparable : (a (some fixed)).Comparable s.now := (Peer.comparable_iff rfl s.now).mpr rfl
  have hlegible : (a (some fixed)).Legible s.monitor.board.timeout s.now := by decide +kernel
  obtain ⟨-, hall⟩ := hpass (List.forall_mem_singleton.mpr hcomparable)
    (List.forall_mem_singleton.mpr hlegible)
  refine ⟨hreach, hpeers, rfl, rfl, hcomparable, hlegible, hcheck, _, _, hall, ?_, ?_⟩
  · decide +kernel
  · decide +kernel

/-- The first peer can be compared with the clock and the second one cannot, but the check does not
even get that far: the first peer has a threshold too long to be written, and is not counted. -/
theorem earlier_peer_uncounted :
    let c : Settings := ⟨Nat.pow 16 3600, 2, "1s", "10s", "", ⟨"slack", []⟩,
      [⟨"A", "10.0.0.0/24", 0, 0, ""⟩, ⟨"B", "10.0.1.0/24", 0, 0, ""⟩]⟩
    let bare : Moment := ⟨0, none⟩
    let fixed : Moment := ⟨0, some .utc⟩
    ∃ m₀ a b, Monitor.build c "0.0.0.0" false (.ok (.rehearsal [] 0)) = .ok m₀ ∧
      let s := (Session.mk m₀ bare (.finite false 0)).after
        [.packet "10.0.1.5", .clock fixed, .packet "10.0.0.5"]
      s.monitor.board.roster.peers = [a, b] ∧ a.Comparable s.now ∧ ¬ b.Comparable s.now ∧
      (s.monitor.checkAll s.now).1 = .error (.peer (.illegible .tooLong)) ∧
      (s.after [.check]).monitor.board.roster.peers = [a, b] ∧
      a.debouncer.phase = .down ∧ (a.checked c.timeout s.now).debouncer.phase = .maybeUp 1 := by
  intro c bare fixed
  let first : Net.Range := .around (.ofQuad 167772160) 24 (by decide)
  let second : Net.Range := .around (.ofQuad 167772416) 24 (by decide)
  have hfirst : Net.Range.parse "10.0.0.0/24" = .ok first := by decide
  have hsecond : Net.Range.parse "10.0.1.0/24" = .ok second := by decide
  have hc : c.Buildable := .of_ranges (List.cons_ne_nil _ _) (.cons hfirst (.cons hsecond .nil))
  -- the first peer was seen, and its state after the check cannot be written
  let limits : Thresholds := ⟨Nat.pow 16 3600, 2⟩
  obtain ⟨m₀, hbuild, -⟩ := @Monitor.exists_build _ hc "0.0.0.0" (by decide) false
    (.rehearsal [] 0)
  obtain rfl := Monitor.eq_around_of_build hbuild
    [⟨"A", first, none, .start limits, none, .free⟩,
      ⟨"B", second, none, .start limits, none, .free⟩] rfl
  refine ⟨_, ⟨"A", first, none, .start limits, some fixed, .free⟩,
    ⟨"B", second, none, .start limits, some bare, .free⟩, hbuild, ?_, ?_, ?_, ?_, ?_, rfl, ?_⟩
  · decide +kernel
  · decide +kernel
  · decide +kernel
  · decide +kernel
  · decide +kernel
  · decide +kernel

end Failure

end Session
end EchoWatch
