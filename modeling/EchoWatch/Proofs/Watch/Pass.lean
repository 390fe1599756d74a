import EchoWatch.Proofs.Debouncer.Name
import EchoWatch.Proofs.Delivery.Outbox
import EchoWatch.Watch.Monitor
/-!
# What a pass of checks does

A monitor checks its peers one after the other, and each check may post a notice before the next one
begins. This module says what comes of a whole pass, without following it: the peers in front of the
first one with an obstacle get their observations, what is due for them is posted in their order,
and all other peers are as they were.

An obstacle is a clock that cannot be compared with the last packet, or a state without a name. On a
clock that always shows a zone (`Moment.Aware`) only the second kind is left.

* **`Peer.due?`**: the posting that a check of one peer owes, said in terms of states. It agrees
  with the comparison of names that the check makes (`check_of_clear`).
* **`Pass.cleared`**, **`Pass.owed`**, **`Pass.failure?`**: the peers that a pass gets past, what it
  posts, and how it ends.
* **`Monitor.checkAll_eq`**: a pass over a monitor whose outbox is in order.
-/

namespace EchoWatch

/-! ## Moments with a zone -/

/-- A moment that is fixed in time by its zone. -/
def Moment.Aware (m : Moment) : Prop :=
  m.zone.isSome = true

instance (m : Moment) : Decidable m.Aware :=
  inferInstanceAs (Decidable (m.zone.isSome = true))

/-- The time between two moments that know their zones can be told. -/
theorem Moment.elapsed?_of_aware {later earlier : Moment} (h : later.Aware) (h' : earlier.Aware) :
    later.elapsed? earlier = some (later.elapsed earlier) := by
  have hsame : later.zone.isSome = earlier.zone.isSome := Eq.trans h (Eq.symm h')
  rw [Moment.elapsed?, if_pos hsame]

/-- The time between two moments is what it is, or it cannot be computed at all. -/
theorem Moment.elapsed?_of_isSome {later earlier : Moment}
    (h : (later.elapsed? earlier).isSome = true) :
    later.elapsed? earlier = some (later.elapsed earlier) := by
  unfold Moment.elapsed? at h ⊢
  split
  · rfl
  next hne =>
    rw [if_neg hne] at h
    cases h

theorem Moment.isSome_elapsed?_self (m : Moment) : (m.elapsed? m).isSome = true := by
  rw [Moment.elapsed?, if_pos rfl]
  rfl

namespace Peer

/-- Whether there was a last packet, less than `timeout` before now. -/
def recent (timeout : Micros) (now : Moment) : Option Moment → Bool
  | none => false
  | some last => now.elapsed last < timeout

/-- The last packet of a peer, if there was one, is fixed in time. -/
def Aware (p : Peer) : Prop :=
  ∀ last ∈ p.lastSeen, last.Aware

/-- The last packet of a peer, if there was one, can be compared with a moment. -/
def Comparable (p : Peer) (now : Moment) : Prop :=
  ∀ last ∈ p.lastSeen, (now.elapsed? last).isSome = true

instance (p : Peer) (now : Moment) : Decidable (p.Comparable now) :=
  inferInstanceAs (Decidable (∀ last ∈ p.lastSeen, (now.elapsed? last).isSome = true))

/-- A peer that was seen at such a moment can be compared at any other. -/
theorem Aware.comparable {p : Peer} {now : Moment} (hp : p.Aware) (hnow : now.Aware) :
    p.Comparable now := by
  intro last hlast
  rw [Moment.elapsed?_of_aware hnow (hp last hlast)]
  rfl

/-- A peer that was seen can be compared if the time since then can be told. -/
theorem comparable_iff {p : Peer} {last : Moment} (hlast : p.lastSeen = some last) (now : Moment) :
    p.Comparable now ↔ (now.elapsed? last).isSome = true := by
  constructor
  · exact fun h => h last (Option.mem_def.mpr hlast)
  · intro h stamp hstamp
    obtain rfl : last = stamp := Option.some.inj (hlast.symm.trans hstamp)
    exact h

/-! ## One peer

The observation that a check makes, what it makes of the peer, and what it owes are each a function
of the peer and the clock. Whether the check gets that far is said apart from them. -/

/-- A peer after a check. -/
def checked (timeout : Micros) (now : Moment) (p : Peer) : Peer :=
  p.observe (recent timeout now p.lastSeen)

/-- What a check of a peer owes: a posting if the step was notable or, on a verbose board, if it
led to another state. -/
def due? (verbose : Bool) (timeout : Micros) (now : Moment) (p : Peer) : Option Posting :=
  let seen := recent timeout now p.lastSeen
  let next := p.debouncer.observe seen
  if p.debouncer.notable seen = true ∨ verbose = true ∧ next ≠ p.debouncer then
    some ⟨p.webhook, .ofTransition p.name p.debouncer.wording next.wording p.lastSeen now⟩
  else none

/-- The state of a peer and the one that a check would lead to have names. -/
def Legible (timeout : Micros) (now : Moment) (p : Peer) : Prop :=
  p.debouncer.legible = true ∧ (p.checked timeout now).debouncer.legible = true

instance (timeout : Micros) (now : Moment) (p : Peer) : Decidable (p.Legible timeout now) :=
  inferInstanceAs (Decidable (_ ∧ _))

/-- What keeps a check of a peer from being made. -/
def obstacle? (timeout : Micros) (now : Moment) (p : Peer) : Option CheckError :=
  if ¬ p.Comparable now then some .clockMismatch
  else if p.Legible timeout now then none
  else some (.illegible .tooLong)

section Check

variable {p : Peer} {timeout : Micros} {now : Moment}

/-- A check gets past a peer if it can be compared and both its states can be written. -/
theorem obstacle?_eq_none_iff :
    p.obstacle? timeout now = none ↔ p.Comparable now ∧ p.Legible timeout now := by
  unfold obstacle?
  split
  next h => exact iff_of_false nofun fun hboth => h hboth.1
  next h =>
    rw [not_not] at h
    split
    next hlegible => exact iff_of_true rfl ⟨h, hlegible⟩
    next hlegible => exact iff_of_false nofun fun hboth => hlegible hboth.2

/-- An obstacle to a peer that can be compared is a state without a name. -/
theorem eq_illegible_of_obstacle {e : CheckError} (h : p.Comparable now)
    (he : p.obstacle? timeout now = some e) : e = .illegible .tooLong := by
  rw [obstacle?, if_neg (not_not.mpr h)] at he
  split at he
  · cases he
  · exact (Option.some.inj he).symm

theorem obstacle?_of_not_comparable (h : ¬ p.Comparable now) :
    p.obstacle? timeout now = some .clockMismatch :=
  if_pos h

/-- Whether a peer was seen within its timeout, if this can be told. -/
theorem seenWithin_of_comparable (h : p.Comparable now) (timeout : Micros) :
    p.seenWithin now timeout = (.ok (recent timeout now p.lastSeen, p.lastSeen), p) := by
  refine Prod.ext ?_ (seenWithin_snd p now timeout)
  show p.observation now timeout = _
  unfold observation
  cases hlast : p.lastSeen with
  | none => rfl
  | some last =>
    have helapsed := Moment.elapsed?_of_isSome (h last (Option.mem_def.mpr hlast))
    simp only [helapsed, recent]

/-- If it cannot, nothing else is told. -/
theorem seenWithin_of_not_comparable (h : ¬ p.Comparable now) (timeout : Micros) :
    p.seenWithin now timeout = (.error .clockMismatch, p) := by
  refine Prod.ext ?_ (seenWithin_snd p now timeout)
  simp only [Comparable, not_forall, Bool.not_eq_true, Option.isSome_eq_false_iff] at h
  obtain ⟨last, hlast, helapsed⟩ := h
  simp only [seenWithin, observation, Option.mem_def.mp hlast,
    Option.isNone_iff_eq_none.mp helapsed]

/-- A check with an obstacle comes to nothing. -/
theorem check_of_obstacle (verbose : Bool) {e : CheckError}
    (h : p.obstacle? timeout now = some e) :
    p.check verbose timeout now = (.error e, p) := by
  by_cases hcomparable : p.Comparable now
  · -- one of the two names is missing, and the error is the same whichever it is
    obtain rfl := eq_illegible_of_obstacle hcomparable h
    have hillegible : ¬ p.Legible timeout now := by
      intro hlegible
      rw [obstacle?_eq_none_iff.mpr ⟨hcomparable, hlegible⟩] at h
      cases h
    unfold check
    rw [seenWithin_of_comparable hcomparable]
    unfold Legible checked observe at hillegible
    simp only [Debouncer.name]
    cases hbefore : p.debouncer.legible <;>
      cases hafter : (p.debouncer.observe (recent timeout now p.lastSeen)).legible
    case true.true => exact absurd ⟨hbefore, hafter⟩ hillegible
    all_goals rfl
  · rw [obstacle?_of_not_comparable hcomparable] at h
    obtain rfl := Option.some.inj h
    rw [check, seenWithin_of_not_comparable hcomparable]

/-- **One check.** Names are compared, but it is states that differ. -/
theorem check_of_clear (verbose : Bool) (h : p.obstacle? timeout now = none) :
    p.check verbose timeout now =
      (.ok ⟨(p.due? verbose timeout now).map Posting.notice, recent timeout now p.lastSeen⟩,
        p) := by
  obtain ⟨hcomparable, hbefore, hafter⟩ := obstacle?_eq_none_iff.mp h
  have hwording : ∀ b, p.debouncer.wording ≠ (p.debouncer.observe b).wording ↔
      p.debouncer.observe b ≠ p.debouncer := by
    intro b
    have hlimits : p.debouncer.limits = (p.debouncer.observe b).limits := rfl
    rw [Ne, Ne, Debouncer.wording_eq_iff hlimits, eq_comm]
  unfold check due?
  rw [seenWithin_of_comparable hcomparable]
  unfold checked observe at hafter
  simp only [Debouncer.name_of_legible hbefore, Debouncer.name_of_legible hafter,
    Bool.or_eq_true, Bool.and_eq_true, decide_eq_true_eq, hwording]
  split <;> rfl

end Check

/-- What is due goes to the webhook of its peer. -/
theorem webhook_of_due {verbose : Bool} {timeout : Micros} {now : Moment} {p : Peer}
    {posting : Posting} (h : p.due? verbose timeout now = some posting) :
    posting.webhook = p.webhook := by
  unfold due? at h
  dsimp only at h
  split at h
  · rw [← Option.some.inj h]
  · cases h

end Peer

/-! ## All peers

A pass is taken apart at the first peer with an obstacle. -/

namespace Pass

section Lists

variable (verbose : Bool) (timeout : Micros) (now : Moment) (peers : List Peer)

/-- The peers that a pass gets past. -/
def cleared : List Peer :=
  peers.takeWhile fun p => (p.obstacle? timeout now).isNone

/-- The first peer with an obstacle, and all behind it. -/
def left : List Peer :=
  peers.dropWhile fun p => (p.obstacle? timeout now).isNone

/-- The peers after a pass. -/
def after : List Peer :=
  (cleared timeout now peers).map (Peer.checked timeout now) ++ left timeout now peers

/-- What a pass posts, in the order of the peers. -/
def owed : List Posting :=
  (cleared timeout now peers).filterMap (Peer.due? verbose timeout now)

/-- The obstacle that ends a pass. -/
def failure? : Option Peer.CheckError :=
  (left timeout now peers).head?.bind (Peer.obstacle? timeout now)

end Lists

section Cons

variable {verbose : Bool} {timeout : Micros} {now : Moment} {p : Peer} {rest : List Peer}

section Clear

variable (h : p.obstacle? timeout now = none)
include h

theorem cleared_cons : cleared timeout now (p :: rest) = p :: cleared timeout now rest := by
  simp [cleared, h]

theorem left_cons : left timeout now (p :: rest) = left timeout now rest := by
  simp [left, h]

theorem after_cons :
    after timeout now (p :: rest) = p.checked timeout now :: after timeout now rest := by
  simp [after, cleared_cons h, left_cons h]

theorem owed_cons :
    owed verbose timeout now (p :: rest) =
      (p.due? verbose timeout now).toList ++ owed verbose timeout now rest := by
  unfold owed
  rw [cleared_cons h]
  cases hdue : p.due? verbose timeout now <;> simp [hdue]

theorem failure?_cons : failure? timeout now (p :: rest) = failure? timeout now rest := by
  rw [failure?, left_cons h, failure?]

end Clear

section Obstacle

variable {e : Peer.CheckError} (h : p.obstacle? timeout now = some e)
include h

theorem cleared_of_obstacle : cleared timeout now (p :: rest) = [] := by
  simp [cleared, h]

theorem left_of_obstacle : left timeout now (p :: rest) = p :: rest := by
  simp [left, h]

theorem after_of_obstacle : after timeout now (p :: rest) = p :: rest := by
  simp [after, cleared_of_obstacle h, left_of_obstacle h]

theorem owed_of_obstacle : owed verbose timeout now (p :: rest) = [] := by
  rw [owed, cleared_of_obstacle h, List.filterMap_nil]

theorem failure?_of_obstacle : failure? timeout now (p :: rest) = some e := by
  rw [failure?, left_of_obstacle h, List.head?_cons, Option.bind_some, h]

end Obstacle

end Cons

variable {timeout : Micros} {now : Moment} {peers : List Peer}

theorem cleared_append_left : cleared timeout now peers ++ left timeout now peers = peers :=
  List.takeWhile_append_dropWhile

theorem length_cleared_le : (cleared timeout now peers).length ≤ peers.length :=
  (List.takeWhile_prefix _).length_le

/-- The peers that are got past stand where they stood. -/
theorem getElem?_cleared {i : Nat} (h : i < (cleared timeout now peers).length) :
    (cleared timeout now peers)[i]? = peers[i]? := by
  conv_rhs => rw [← @cleared_append_left timeout now peers]
  rw [List.getElem?_append_left h]

theorem cleared_eq_take :
    cleared timeout now peers = peers.take (cleared timeout now peers).length :=
  List.prefix_iff_eq_take.mp (List.takeWhile_prefix _)

/-- A pass gets past a peer just when neither it nor any peer in front of it has an obstacle. -/
theorem lt_length_cleared_iff {i : Nat} :
    i < (cleared timeout now peers).length ↔
      i < peers.length ∧
        ∀ k ≤ i, ∀ p, peers[k]? = some p → p.obstacle? timeout now = none := by
  induction peers generalizing i with
  | nil => simp [cleared]
  | cons p rest ih =>
    cases h : p.obstacle? timeout now with
    | some e =>
      rw [cleared_of_obstacle h]
      refine iff_of_false (by simp) fun hall => ?_
      rw [hall.2 0 (Nat.zero_le i) p rfl] at h
      cases h
    | none =>
      rw [cleared_cons h, List.length_cons, List.length_cons]
      cases i with
      | zero =>
        refine iff_of_true (by omega) ⟨by omega, fun k hk q hq => ?_⟩
        obtain rfl : k = 0 := by omega
        obtain rfl : p = q := Option.some.inj hq
        exact h
      | succ i =>
        rw [Nat.add_lt_add_iff_right, Nat.add_lt_add_iff_right, ih]
        refine and_congr_right fun _ => ⟨fun hall k hk q hq => ?_, fun hall k hk q hq => ?_⟩
        · -- the first peer has no obstacle, and the others stand one place further
          cases k with
          | zero =>
            obtain rfl : p = q := Option.some.inj hq
            exact h
          | succ k => exact hall k (by omega) q hq
        · exact hall (k + 1) (by omega) q hq

/-- Place by place, a pass checks the peers that it gets past and no others. -/
theorem getElem?_after (i : Nat) :
    (after timeout now peers)[i]? = (peers[i]?).map fun p =>
      if i < (cleared timeout now peers).length then p.checked timeout now else p := by
  have hlen : ((cleared timeout now peers).map (Peer.checked timeout now)).length =
      (cleared timeout now peers).length := List.length_map _
  unfold after
  by_cases hi : i < (cleared timeout now peers).length
  · rw [List.getElem?_append_left (hlen ▸ hi), List.getElem?_map, getElem?_cleared hi]
    simp [hi]
  · have hsplit :
        peers[i]? = (left timeout now peers)[i - (cleared timeout now peers).length]? := by
      conv_lhs => rw [← @cleared_append_left timeout now peers]
      rw [List.getElem?_append_right (by omega)]
    rw [List.getElem?_append_right (by omega), hlen, hsplit]
    simp [hi]

/-- Where no peer has an obstacle, the pass gets to its end. -/
theorem cleared_eq_self (h : ∀ p ∈ peers, p.obstacle? timeout now = none) :
    cleared timeout now peers = peers := by
  unfold cleared
  rw [List.takeWhile_eq_self_iff]
  intro p hp
  rw [h p hp]
  rfl

/-- A pass gets past the peers in front of the first obstacle. -/
theorem cleared_append_of_obstacle {before rest : List Peer} {p : Peer} {e : Peer.CheckError}
    (hbefore : ∀ q ∈ before, q.obstacle? timeout now = none)
    (h : p.obstacle? timeout now = some e) :
    cleared timeout now (before ++ p :: rest) = before ∧
      left timeout now (before ++ p :: rest) = p :: rest := by
  induction before with
  | nil => exact ⟨cleared_of_obstacle h, left_of_obstacle h⟩
  | cons q before ih =>
    have hq := hbefore q List.mem_cons_self
    obtain ⟨hcleared, hleft⟩ := ih fun r hr => hbefore r (List.mem_cons_of_mem q hr)
    exact ⟨by rw [List.cons_append, cleared_cons hq, hcleared],
      by rw [List.cons_append, left_cons hq, hleft]⟩

/-- A pass fails just when it does not get past all peers. -/
theorem failure?_eq_none_iff :
    failure? timeout now peers = none ↔ (cleared timeout now peers).length = peers.length := by
  induction peers with
  | nil => exact iff_of_true rfl rfl
  | cons p rest ih =>
    cases h : p.obstacle? timeout now with
    | none =>
      rw [failure?_cons h, cleared_cons h, ih, List.length_cons, List.length_cons,
        Nat.add_right_cancel_iff]
    | some e =>
      rw [failure?_of_obstacle h, cleared_of_obstacle h]
      exact iff_of_false nofun (by simp)

/-- Among peers that can be compared, it is a state without a name that ends a pass. -/
theorem eq_illegible_of_failure {e : Peer.CheckError} (hpeers : ∀ p ∈ peers, p.Comparable now)
    (h : failure? timeout now peers = some e) : e = .illegible .tooLong := by
  obtain ⟨p, hp, he⟩ := Option.bind_eq_some_iff.mp h
  have hmem : p ∈ peers := (List.dropWhile_suffix _).subset (List.mem_of_mem_head? hp)
  exact Peer.eq_illegible_of_obstacle (hpeers p hmem) he

end Pass

/-! ## Monitors

The monitor goes from peer to peer and posts in between. As long as its outbox is in order, that
makes no difference to the peers, and the postings come to stand in the queue one after the other.
-/

/-- A board after a pass. -/
def Board.afterPass (b : Board) (now : Moment) : Board :=
  { b with roster := ⟨Pass.after b.timeout now b.roster.peers⟩ }

/-- What a pass over a board posts. -/
def Board.owed (b : Board) (now : Moment) : List Posting :=
  Pass.owed b.verbose b.timeout now b.roster.peers

/-- How a pass over a board ends. -/
def Board.failure? (b : Board) (now : Moment) : Option Peer.CheckError :=
  Pass.failure? b.timeout now b.roster.peers

/-- A peer that takes its own place leaves the board as it is. -/
theorem Board.setPeer_self {b : Board} {i : Nat} {p : Peer} (h : b.roster.peers[i]? = some p) :
    b.setPeer i p = b := by
  obtain ⟨hi, rfl⟩ := List.getElem?_eq_some_iff.mp h
  rw [setPeer, List.set_getElem_self]

namespace Monitor

variable {m : Monitor} {now : Moment} {i : Nat} {p : Peer}

/-- The check of an obstacle fails and leaves the monitor as it is. -/
theorem checkAt_of_obstacle (hp : m.board.roster.peers[i]? = some p) {e : Peer.CheckError}
    (h : p.obstacle? m.board.timeout now = some e) :
    m.checkAt now i = some (.error (.peer e), m, []) := by
  rw [checkAt, hp, Option.map_some, Peer.check_of_obstacle _ h]
  simp only [Board.setPeer_self hp]

/-- Any other check leaves the peer checked, and hands what is due over to the outbox. An orderly
outbox does not refuse it. -/
theorem checkAt_of_clear (horderly : m.outbox.Orderly) (hp : m.board.roster.peers[i]? = some p)
    (h : p.obstacle? m.board.timeout now = none) :
    let due := p.due? m.board.verbose m.board.timeout now
    m.checkAt now i = some (.ok (due.map Posting.notice),
      { m with
        board := m.board.setPeer i (p.checked m.board.timeout now)
        outbox := m.outbox.taking due.toList },
      m.outbox.announced due.toList) := by
  intro due
  rw [checkAt, hp, Option.map_some, Peer.check_of_clear _ h]
  -- if nothing is due, the outbox stays as it is
  cases hdue : p.due? m.board.verbose m.board.timeout now with
  | none =>
    simp only [due, hdue, Option.map_none, Option.toList_none, Outbox.taking_nil,
      Outbox.announced_nil]
    rfl
  | some posting =>
    have hpost := horderly.post posting
    rw [Peer.webhook_of_due hdue] at hpost
    simp only [due, hdue, Option.map_some, Option.toList_some, hpost]
    rfl

theorem checkAt_eq_none_iff : m.checkAt now i = none ↔ m.board.roster.peers.length ≤ i := by
  rw [checkAt, Option.map_eq_none_iff, List.getElem?_eq_none_iff]

/-- A check leaves as many peers as there were. -/
theorem length_of_checkAt {checked : Except CheckError (Option Notice) × Monitor × List Entry}
    (h : m.checkAt now i = some checked) :
    checked.2.1.board.roster.peers.length = m.board.roster.peers.length := by
  obtain ⟨p, -, rfl⟩ := Option.map_eq_some_iff.mp h
  rcases p.check m.board.verbose m.board.timeout now with ⟨e | ⟨_ | n, seen⟩, p'⟩
  · exact List.length_set
  · exact List.length_set
  · dsimp only
    rcases m.outbox.post p'.webhook n with ⟨e | outbox, entries⟩ <;> exact List.length_set

/-- The checks of the peers from some place on. Induction on these peers; the ones in front of them
have been checked, and nothing looks at them again. -/
theorem checkEach_eq (horderly : m.outbox.Orderly) (now : Moment) {front rest : List Peer}
    (hpeers : m.board.roster.peers = front ++ rest) :
    let owed := Pass.owed m.board.verbose m.board.timeout now rest
    m.checkEach now (List.range' front.length rest.length) =
      ((Pass.failure? m.board.timeout now rest).elim (.ok ()) fun e => .error (.peer e),
        { m with
          board := { m.board with roster := ⟨front ++ Pass.after m.board.timeout now rest⟩ }
          outbox := m.outbox.taking owed },
        m.outbox.announced owed) := by
  induction rest generalizing m front with
  | nil =>
    have hboard : m.board = { m.board with roster := ⟨front ++ []⟩ } := by rw [← hpeers]
    intro owed
    have howed : owed = [] := rfl
    rw [howed, Outbox.taking_nil, Outbox.announced_nil]
    exact congrArg (fun board => (_, { m with board := board }, _)) hboard
  | cons p rest ih =>
    have hp : m.board.roster.peers[front.length]? = some p := by simp [hpeers]
    intro owed
    rw [List.length_cons, List.range'_succ, checkEach]
    cases h : p.obstacle? m.board.timeout now with
    | some e =>
      have howed : owed = [] := Pass.owed_of_obstacle h
      have hboard : m.board = { m.board with roster := ⟨front ++ p :: rest⟩ } := by rw [← hpeers]
      rw [checkAt_of_obstacle hp h, howed, Pass.failure?_of_obstacle h, Pass.after_of_obstacle h,
        Outbox.taking_nil, Outbox.announced_nil]
      exact congrArg (fun board => (_, { m with board := board }, _)) hboard
    | none =>
      -- the monitor after this check, with one more peer in front
      let due := p.due? m.board.verbose m.board.timeout now
      let next : Monitor :=
        { m with
          board := m.board.setPeer front.length (p.checked m.board.timeout now)
          outbox := m.outbox.taking due.toList }
      have hnext :
          next.board.roster.peers = (front ++ [p.checked m.board.timeout now]) ++ rest := by
        simp [next, Board.setPeer, hpeers]
      have hlater := ih (show next.outbox.Orderly from horderly.taking _) hnext
      have howed : owed = due.toList ++ Pass.owed m.board.verbose m.board.timeout now rest :=
        Pass.owed_cons h
      rw [List.length_append, List.length_singleton] at hlater
      rw [checkAt_of_clear horderly hp h]
      simp only
      rw [hlater, Pass.failure?_cons h, Pass.after_cons h, howed, Outbox.taking_append,
        Outbox.announced_append, List.append_assoc]
      rfl

/-- **A pass.** The peers in front of the first obstacle get their observations, what is due for
them is handed to the outbox in their order, and the obstacle, if there is one, is the result. -/
theorem checkAll_eq (horderly : m.outbox.Orderly) (now : Moment) :
    m.checkAll now =
      ((m.board.failure? now).elim (.ok ()) fun e => .error (.peer e),
        { m with
          board := m.board.afterPass now
          outbox := m.outbox.taking (m.board.owed now) },
        m.outbox.announced (m.board.owed now)) := by
  have heach := checkEach_eq horderly now (List.nil_append m.board.roster.peers).symm
  rw [checkAll, List.range_eq_range']
  exact heach

end Monitor
end EchoWatch
