import EchoWatch.Proofs.Peer.Routing
import EchoWatch.Proofs.Watch.Pass
import Mathlib.Data.List.Induction
/-!
# What a run shows each peer

A run at a board mixes readings of the clock, packets for any peer and checks of all peers. A
`Course` keeps how the run began and says, for one peer at a time and straight from the steps, what
the run has shown that peer: the stamps of its own packets and the observations made of it.

A check that comes upon an obstacle ends there, and shows nothing to the peers behind. How far each
check gets is the one thing about a peer that hangs on the others; `Course.reach` is that number.

* **`Course.lastSeen`**: the reading of the clock at the last packet that was routed to the peer.
* **`Course.observations`**: for every check that got past the peer, whether it had been seen
  recently enough.
* **`Course.peerAfter`**: the peer with that stamp and with the debouncer that these observations
  lead to. That a board has just these peers after a run is for `Course.after_eq` to say.

The proofs go along the run from its end: each history grows by what the last step adds.
-/

namespace EchoWatch
namespace Board

/-! ## Steps -/

/-- A step of a run at a board: the clock is set, a packet arrives, or all peers are checked. -/
inductive Step where
  | clock (now : Moment)
  | packet (address : String)
  | check
  deriving DecidableEq, Repr

/-- A board and the clock it is watched by. -/
structure State where
  board : Board
  now : Moment
  deriving DecidableEq, Repr

namespace State

def step (s : State) : Step → State
  | .clock now => { s with now := now }
  | .packet address => { s with board := s.board.packet s.now address }
  | .check => { s with board := s.board.afterPass s.now }

/-- A state after some steps. -/
def after (s : State) (steps : List Step) : State :=
  steps.foldl step s

theorem after_snoc (s : State) (steps : List Step) (step : Step) :
    s.after (steps ++ [step]) = (s.after steps).step step := by
  simp [after]

/-- How many peers a check gets past. -/
def reach (s : State) : Nat :=
  (Pass.cleared s.board.timeout s.now s.board.roster.peers).length

end State

/-! ## Histories -/

/-- The reading that a step gives the clock. -/
def Step.reading? : Step → Option Moment
  | .clock now => some now
  | _ => none

/-- A step that does not set the clock to a moment without a zone. -/
def Step.Aware (step : Step) : Prop :=
  ∀ now ∈ step.reading?, now.Aware

instance (step : Step) : Decidable step.Aware :=
  inferInstanceAs (Decidable (∀ now ∈ step.reading?, now.Aware))

/-- The steps of a run, each with the steps before it. -/
def withPast (past : List Step) : List Step → List (List Step × Step)
  | [] => []
  | step :: steps => (past, step) :: withPast (past ++ [step]) steps

/-- The last step has all others behind it. -/
theorem withPast_snoc (past steps : List Step) (step : Step) :
    withPast past (steps ++ [step]) = withPast past steps ++ [(past ++ steps, step)] := by
  induction steps generalizing past with
  | nil => simp [withPast]
  | cons first steps ih => simp [withPast, ih]

/-- How a run begins: where its packets go, how recent is recent, and what the clock shows. -/
structure Course where
  roster : Roster
  timeout : Micros
  opening : Moment

namespace Course

/-- What the clock shows after some steps: the reading it was last set to. -/
def clock (c : Course) (steps : List Step) : Moment :=
  (steps.filterMap Step.reading?).getLast?.getD c.opening

/-- Whether a step is a packet for peer `i`. -/
def feeds (c : Course) (i : Nat) : Step → Bool
  | .packet address => c.roster.route address = .peer i
  | _ => false

/-- The readings of the clock at the packets for peer `i`. -/
def stamps (c : Course) (i : Nat) (steps : List Step) : List Moment :=
  ((withPast [] steps).filter fun q => c.feeds i q.2).map fun q => c.clock q.1

/-- The reading of the clock at the last packet for peer `i`. -/
def lastSeen (c : Course) (i : Nat) (steps : List Step) : Option Moment :=
  (c.stamps i steps).getLast?

/-- What a check after some steps would observe of peer `i`. -/
def observation (c : Course) (i : Nat) (steps : List Step) : Bool :=
  Peer.recent c.timeout (c.clock steps) (c.lastSeen i steps)

/-- How many peers a check after some steps gets past. What is told does not matter for that. -/
def reach (c : Course) (steps : List Step) : Nat :=
  ((State.mk ⟨c.roster, c.timeout, false⟩ c.opening).after steps).reach

/-- The last step is a check that gets past peer `i`. -/
def observes (c : Course) (i : Nat) (past : List Step) (step : Step) : Prop :=
  step = .check ∧ i < c.reach past

instance (c : Course) (i : Nat) (past : List Step) (step : Step) :
    Decidable (c.observes i past step) :=
  inferInstanceAs (Decidable (_ ∧ _))

/-- What the checks that got past peer `i` have observed of it. -/
def observations (c : Course) (i : Nat) (steps : List Step) : List Bool :=
  ((withPast [] steps).filter fun q => c.observes i q.1 q.2).map fun q => c.observation i q.1

/-- What a run makes of peer `i`: only the stamp and the debouncer are its own to change. -/
def peerAfter (c : Course) (steps : List Step) (i : Nat) (p : Peer) : Peer :=
  { p with
    lastSeen := c.lastSeen i steps
    debouncer := p.debouncer.observeAll (c.observations i steps) }

/-- What a run makes of the peers, each by itself. -/
def peersAfter (c : Course) (steps : List Step) : List Peer :=
  c.roster.peers.mapIdx (c.peerAfter steps)

@[simp] theorem length_peersAfter (c : Course) (steps : List Step) :
    (c.peersAfter steps).length = c.roster.peers.length :=
  List.length_mapIdx

/-! ### One more step -/

section Snoc

variable (c : Course) (i : Nat) (steps : List Step)

@[simp] theorem clock_snoc_clock (now : Moment) : c.clock (steps ++ [.clock now]) = now := by
  simp [clock, Step.reading?]

@[simp] theorem clock_snoc_packet (address : String) :
    c.clock (steps ++ [.packet address]) = c.clock steps := by
  simp [clock, Step.reading?]

@[simp] theorem clock_snoc_check : c.clock (steps ++ [.check]) = c.clock steps := by
  simp [clock, Step.reading?]

@[simp] theorem lastSeen_nil : c.lastSeen i [] = none := rfl

/-- A peer was last seen at the last packet that feeds it. -/
theorem lastSeen_snoc (step : Step) :
    c.lastSeen i (steps ++ [step]) =
      if c.feeds i step then some (c.clock steps) else c.lastSeen i steps := by
  unfold lastSeen stamps
  rw [withPast_snoc, List.filter_append, List.map_append]
  by_cases h : c.feeds i step <;> simp [h]

@[simp] theorem observations_nil : c.observations i [] = [] := rfl

/-- A check that gets to a peer adds an observation of it. -/
theorem observations_snoc (step : Step) :
    c.observations i (steps ++ [step]) =
      c.observations i steps ++
        if c.observes i steps step then [c.observation i steps] else [] := by
  unfold observations
  rw [withPast_snoc, List.filter_append, List.map_append]
  by_cases h : c.observes i steps step <;> simp [h]

theorem not_observes {step : Step} (h : step ≠ .check) : ¬ c.observes i steps step :=
  fun hobserves => h hobserves.1

/-- The clock changes no peer. -/
theorem peerAfter_snoc_clock (now : Moment) (p : Peer) :
    c.peerAfter (steps ++ [.clock now]) i p = c.peerAfter steps i p := by
  have hno : ¬ c.observes i steps (.clock now) := c.not_observes i steps nofun
  simp [peerAfter, lastSeen_snoc, observations_snoc, feeds, hno]

/-- A packet stamps the peer that it is routed to. -/
theorem peerAfter_snoc_packet (address : String) (p : Peer) :
    c.peerAfter (steps ++ [.packet address]) i p =
      if c.roster.route address = .peer i then
        { c.peerAfter steps i p with lastSeen := some (c.clock steps) }
      else c.peerAfter steps i p := by
  have hno : ¬ c.observes i steps (.packet address) := c.not_observes i steps nofun
  simp only [peerAfter, lastSeen_snoc, observations_snoc, feeds, if_neg hno, List.append_nil]
  by_cases h : c.roster.route address = .peer i <;> simp [h]

/-- A check feeds every peer that it gets past what it observes of it. -/
theorem peerAfter_snoc_check (p : Peer) :
    c.peerAfter (steps ++ [.check]) i p =
      if i < c.reach steps then (c.peerAfter steps i p).checked c.timeout (c.clock steps)
      else c.peerAfter steps i p := by
  by_cases h : i < c.reach steps
  · have hobserves : c.observes i steps .check := ⟨rfl, h⟩
    simp [peerAfter, lastSeen_snoc, observations_snoc, feeds, Peer.checked, Peer.observe,
      Debouncer.observeAll_snoc, observation, h, hobserves]
  · have hno : ¬ c.observes i steps .check := fun hobserves => h hobserves.2
    simp [peerAfter, lastSeen_snoc, observations_snoc, feeds, h, hno]

/-- Nothing but a check that gets past a peer changes its debouncer. -/
theorem debouncer_peerAfter_snoc {step : Step} (h : ¬ c.observes i steps step) (p : Peer) :
    (c.peerAfter (steps ++ [step]) i p).debouncer = (c.peerAfter steps i p).debouncer := by
  simp [peerAfter, observations_snoc, h]

end Snoc

/-! ### Two courses

What a check would observe of a peer hangs on the opening of its course, the timeout and the packets
for this peer. -/

section Congr

variable {c d : Course} {i k : Nat}

/-- The clock is the same in both. -/
theorem clock_congr (hopening : d.opening = c.opening) (steps : List Step) :
    d.clock steps = c.clock steps := by
  unfold clock
  rw [hopening]

/-- Peers that are fed alike were last seen at the same time. -/
theorem lastSeen_congr (hopening : d.opening = c.opening)
    (hfeeds : ∀ step, d.feeds k step = c.feeds i step) (steps : List Step) :
    d.lastSeen k steps = c.lastSeen i steps := by
  unfold lastSeen stamps
  simp only [clock_congr hopening, hfeeds]

theorem observation_congr (htimeout : d.timeout = c.timeout) (hopening : d.opening = c.opening)
    (hfeeds : ∀ step, d.feeds k step = c.feeds i step) (steps : List Step) :
    d.observation k steps = c.observation i steps := by
  unfold observation
  rw [htimeout, clock_congr hopening, lastSeen_congr hopening hfeeds]

/-- Observations that are related check by check are related as lists, if the same checks get past
the two peers. -/
theorem observations_rel {R : Bool → Bool → Prop} {steps : List Step}
    (hobservation : ∀ past, R (d.observation k past) (c.observation i past))
    (hreach : ∀ past, past ++ [.check] <+: steps → (k < d.reach past ↔ i < c.reach past)) :
    List.Forall₂ R (d.observations k steps) (c.observations i steps) := by
  induction steps using List.reverseRecOn with
  | nil => exact .nil
  | append_singleton steps step ih =>
    have hbefore := ih fun past hpast => hreach past (hpast.trans (List.prefix_append _ _))
    -- the last step is a check that gets to both peers, or observes neither
    have hlast : d.observes k steps step ↔ c.observes i steps step := by
      unfold observes
      by_cases hstep : step = .check
      · subst hstep
        rw [hreach steps (List.prefix_refl _)]
      · exact iff_of_false (fun h => hstep h.1) (fun h => hstep h.1)
    rw [observations_snoc, observations_snoc]
    refine List.rel_append hbefore ?_
    by_cases hobserves : c.observes i steps step
    · rw [if_pos (hlast.mpr hobserves), if_pos hobserves]
      exact .cons (hobservation steps) .nil
    · rw [if_neg (mt hlast.mp hobserves), if_neg hobserves]
      exact .nil

/-- Peers that would be observed alike are observed alike, if the same checks get past them. -/
theorem observations_congr {steps : List Step}
    (hobservation : ∀ past, d.observation k past = c.observation i past)
    (hreach : ∀ past, past ++ [.check] <+: steps → (k < d.reach past ↔ i < c.reach past)) :
    d.observations k steps = c.observations i steps := by
  have hrel := observations_rel hobservation hreach
  rwa [List.forall₂_eq_eq_eq] at hrel

end Congr

/-! ### Zones -/

/-- A run whose clock always shows a zone. -/
structure Aware (c : Course) (steps : List Step) : Prop where
  opening : c.opening.Aware
  steps : ∀ step ∈ steps, step.Aware

theorem Aware.of_past {c : Course} {past steps : List Step} (h : c.Aware steps)
    (hpast : past <+: steps) : c.Aware past :=
  ⟨h.opening, fun s hs => h.steps s (hpast.subset hs)⟩

theorem Aware.init {c : Course} {steps : List Step} {step : Step}
    (h : c.Aware (steps ++ [step])) : c.Aware steps :=
  ⟨h.opening, fun s hs => h.steps s (List.mem_append_left _ hs)⟩

theorem Aware.clock {c : Course} {steps : List Step} (h : c.Aware steps) :
    (c.clock steps).Aware := by
  induction steps using List.reverseRecOn with
  | nil => exact h.opening
  | append_singleton steps step ih =>
    cases step with
    | clock now =>
      rw [clock_snoc_clock]
      exact h.steps (.clock now) (by simp) now rfl
    | packet address => rw [clock_snoc_packet]; exact ih h.init
    | check => rw [clock_snoc_check]; exact ih h.init

/-- Stamps are readings of the clock. -/
theorem Aware.lastSeen {c : Course} {steps : List Step} (h : c.Aware steps) (i : Nat) :
    ∀ last ∈ c.lastSeen i steps, last.Aware := by
  induction steps using List.reverseRecOn with
  | nil => simp
  | append_singleton steps step ih =>
    rw [lastSeen_snoc]
    split
    · rintro last ⟨⟩
      exact h.init.clock
    · exact ih h.init

end Course
end Board
end EchoWatch
