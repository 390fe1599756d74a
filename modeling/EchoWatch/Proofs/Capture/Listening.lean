import EchoWatch.Capture.Listener
/-!
# What a listener gives

Between calls a listener is at rest: nobody holds it, and its socket has been closed once if
somebody has closed the listener, and not at all otherwise. A call that finds the listener open
looks at the socket until something happens, and what happens decides both its answer and whether
the listener is open afterwards.

* **`Answers`**: what a call that waits for a packet can come to, one constructor for each way.
* **`look_of_open`**: the looks of a call that holds an open listener.
* **`after_resting`**: all calls, in any order, lead from rest to rest.
* **`answers_until_closed`**: the answer of every call, whatever calls came before it.
-/

namespace EchoWatch

/-! ## Packets -/

theorem Packet.source?_eq_some_iff {p : Packet} {source : String} :
    p.source? = some source ↔
      ∃ outer inner, p = outer ++ .ip source :: inner ∧ ∀ layer ∈ outer, ∀ s, layer ≠ .ip s := by
  unfold Packet.source?
  rw [List.findSome?_eq_some_iff]
  constructor
  · rintro ⟨outer, layer, inner, rfl, hlayer, houter⟩
    -- only a layer of the network has a source, so this is the outermost of them
    have hip : layer = .ip source := by
      cases layer <;> simp_all
    subst hip
    refine ⟨outer, inner, rfl, fun layer hmem s hs => ?_⟩
    have hnone := houter layer hmem
    rw [hs] at hnone
    cases hnone
  · rintro ⟨outer, inner, rfl, houter⟩
    refine ⟨outer, .ip source, inner, rfl, rfl, fun layer hmem => ?_⟩
    cases layer with
    | ip s => exact absurd rfl (houter _ hmem s)
    | icmp _ | other _ => rfl

/-- An echo request has a source. -/
theorem Packet.exists_source_of_isEchoRequest {p : Packet} (h : p.isEchoRequest = true) :
    ∃ source, p.source? = some source := by
  unfold Packet.isEchoRequest at h
  exact Option.isSome_iff_exists.mp (Bool.and_eq_true_iff.mp h).1

/-- The look yields no echo request, and nothing else happens during it. -/
def Sniff.idle : Sniff → Bool
  | .packets ps => ps.all fun p => !p.isEchoRequest
  | .failure _ | .closing => false

namespace Listener

/-! ## Answers

A call looks until something comes of it. Looks of which nothing comes are `idle`, and every answer
has its own reason to end a run of them. -/

/-- Whether somebody closes the listener during one of the looks that a call needs. Nobody does
after an echo request or a failure; when all looks are idle, it is closed for want of others. -/
def closedAmong (offered : List Sniff) : Bool :=
  match offered.find? fun s => !s.idle with
  | none | some .closing => true
  | some _ => false

/-- What a call answers that is offered some looks: `closed` tells whether the listener was closed
before it. -/
inductive Answers : (closed : Bool) → List Sniff → Reception → Prop where
  | late {offered : List Sniff} :
      Answers true offered ⟨.error .closed, offered, 0⟩
  | request {idle rest : List Sniff} {before after : List Packet} {p outer inner : Packet}
      {source : String} (hidle : ∀ s ∈ idle, s.idle = true)
      (hbefore : ∀ q ∈ before, q.isEchoRequest = false) (hp : p.isEchoRequest = true)
      (hsource : p = outer ++ .ip source :: inner)
      (houter : ∀ layer ∈ outer, ∀ s, layer ≠ .ip s) :
      Answers false (idle ++ .packets (before ++ p :: after) :: rest)
        ⟨.ok source, rest, idle.length + 1⟩
  | failure {idle rest : List Sniff} {message : String} (hidle : ∀ s ∈ idle, s.idle = true) :
      Answers false (idle ++ .failure message :: rest)
        ⟨.error (.system message), rest, idle.length + 1⟩
  | closing {idle rest : List Sniff} (hidle : ∀ s ∈ idle, s.idle = true) :
      Answers false (idle ++ .closing :: rest) ⟨.error .closed, rest, idle.length + 1⟩
  | exhausted {idle : List Sniff} (hidle : ∀ s ∈ idle, s.idle = true) :
      Answers false idle ⟨.error .closed, [], idle.length + 1⟩

/-- An idle look in front costs one look more. -/
theorem Answers.cons {s : Sniff} (hs : s.idle = true) {offered : List Sniff} {r : Reception}
    (h : Answers false offered r) :
    Answers false (s :: offered) { r with looks := r.looks + 1 } := by
  have hcons : ∀ {idle : List Sniff}, (∀ t ∈ idle, t.idle = true) →
      ∀ t ∈ s :: idle, t.idle = true :=
    fun hidle => List.forall_mem_cons.mpr ⟨hs, hidle⟩
  cases h with
  | request hidle hbefore hp hsource houter =>
    exact .request (hcons hidle) hbefore hp hsource houter
  | failure hidle => exact .failure (hcons hidle)
  | closing hidle => exact .closing (hcons hidle)
  | exhausted hidle => exact .exhausted (hcons hidle)

/-- Idle looks do not decide how a call ends. -/
theorem find?_idle_append {idle : List Sniff} (hidle : ∀ s ∈ idle, s.idle = true)
    (rest : List Sniff) :
    (idle ++ rest).find? (fun s => !s.idle) = rest.find? fun s => !s.idle := by
  have hnone : idle.find? (fun s => !s.idle) = none := by
    rw [List.find?_eq_none]
    intro s hs
    rw [hidle s hs]
    decide
  rw [List.find?_append, hnone, Option.none_or]

/-- A look that yields an echo request is not idle. -/
theorem idle_eq_false_of_request {before after : List Packet} {p : Packet}
    (hp : p.isEchoRequest = true) : Sniff.idle (.packets (before ++ p :: after)) = false := by
  rw [Sniff.idle, List.all_eq_false]
  exact ⟨p, List.mem_append_right before List.mem_cons_self, by rw [hp]; decide⟩

/-- A call is told that the listener is closed just when it was closed before or is closed while
the call looks. -/
theorem Answers.closed_iff {closed : Bool} {offered : List Sniff} {r : Reception}
    (h : Answers closed offered r) :
    r.result = .error .closed ↔ (closed || closedAmong offered) = true := by
  cases h with
  | late => simp
  | request hidle hbefore hp hsource houter =>
    rw [closedAmong, find?_idle_append hidle, List.find?_cons, idle_eq_false_of_request hp]
    simp
  | failure hidle =>
    rw [closedAmong, find?_idle_append hidle]
    simp [Sniff.idle]
  | closing hidle =>
    rw [closedAmong, find?_idle_append hidle]
    simp [Sniff.idle]
  | exhausted hidle =>
    have hnone := find?_idle_append hidle []
    rw [List.append_nil] at hnone
    rw [closedAmong, hnone]
    simp

/-! ## Looking

The recursion is over the looks that are offered. The marks of the listener change at the last look
only, when it is closed. -/

/-- A listener that is held is only marked: whoever holds it will close the socket. -/
theorem close_of_held {l : Listener} (h : l.held = true) :
    l.close = ({ l with closed := true }, []) := by
  unfold close
  exact if_pos h

/-- Nothing is looked for on a closed listener. -/
theorem look_of_closed {l : Listener} (h : l.closed = true) (offered : List Sniff) :
    l.look offered = (⟨.error .closed, offered, 0⟩, l, []) := by
  unfold look
  exact if_pos h

/-- The looks of a call that holds an open listener. They leave the socket alone, and the mark of
the end is all that can have changed. -/
theorem look_of_open {l : Listener} (hopen : l.closed = false) (hheld : l.held = true)
    (offered : List Sniff) :
    Answers false offered (l.look offered).1 ∧
      (l.look offered).2 = ({ l with closed := closedAmong offered }, []) := by
  have hstill : { l with closed := false } = l := by rw [← hopen]
  have hopen' : ¬ l.closed = true := by rw [hopen]; decide
  induction offered with
  | nil =>
    unfold look
    rw [if_neg hopen', close_of_held hheld]
    exact ⟨@Answers.exhausted [] nofun, rfl⟩
  | cons s rest ih =>
    unfold look
    rw [if_neg hopen']
    cases s with
    | packets ps =>
      -- either this look yields an echo request, or it is idle
      cases hfind : ps.find? Packet.isEchoRequest with
      | some p =>
        obtain ⟨hp, before, after, rfl, hbefore⟩ := List.find?_eq_some_iff_append.mp hfind
        obtain ⟨source, hsource⟩ := Packet.exists_source_of_isEchoRequest hp
        obtain ⟨outer, inner, hlayers, houter⟩ := Packet.source?_eq_some_iff.mp hsource
        have hothers : ∀ q ∈ before, q.isEchoRequest = false := fun q hq => by
          simpa using hbefore q hq
        have hamong : closedAmong (.packets (before ++ p :: after) :: rest) = false := by
          rw [closedAmong, List.find?_cons, idle_eq_false_of_request hp]
          rfl
        simp only [hfind, hsource, Option.getD_some, hamong, hstill]
        have hanswers : Answers false (.packets (before ++ p :: after) :: rest)
            ⟨.ok source, rest, 1⟩ :=
          @Answers.request [] rest before after p outer inner source nofun hothers hp hlayers houter
        exact ⟨hanswers, trivial⟩
      | none =>
        -- nothing was yielded, and the call looks again
        have hidle : Sniff.idle (.packets ps) = true := by
          rw [Sniff.idle, List.all_eq_true]
          intro p hp
          have hno := List.find?_eq_none.mp hfind p hp
          rw [Bool.not_eq_true] at hno
          rw [hno]
          rfl
        have hamong : closedAmong (.packets ps :: rest) = closedAmong rest := by
          rw [closedAmong, List.find?_cons, hidle]
          rfl
        obtain ⟨hanswers, hrest⟩ := ih
        simp only [hfind, hrest, hamong]
        exact ⟨hanswers.cons hidle, trivial⟩
    | failure message =>
      have hamong : closedAmong (.failure message :: rest) = false := rfl
      rw [hamong, hstill]
      exact ⟨@Answers.failure [] rest message nofun, rfl⟩
    | closing =>
      have hclosed := look_of_closed (l := { l with closed := true }) rfl rest
      simp only [close_of_held hheld, hclosed]
      exact ⟨@Answers.closing [] rest nofun, rfl⟩

/-! ## Calls

Between two calls a listener has one mark that says anything: whether it was closed. All others
follow from it, which is what `resting` says. -/

/-- A listener between two calls. -/
def resting (address : String) (closed : Bool) : Listener :=
  ⟨address, closed, false, closed, closed.toNat⟩

theorem close_resting (address : String) (closed : Bool) :
    (resting address closed).close.1 = resting address true := by
  cases closed <;> rfl

/-- A call on a closed listener does not look. -/
theorem receive_of_closed (address : String) (offered : List Sniff) :
    (resting address true).receive offered =
      (⟨.error .closed, offered, 0⟩, resting address true, []) := by
  unfold receive
  rw [look_of_closed rfl]
  rfl

/-- A call on an open listener holds it while it looks. When it lets go, it closes the socket if the
listener was closed in the meantime. -/
theorem receive_of_open (address : String) (offered : List Sniff) :
    Answers false offered ((resting address false).receive offered).1 ∧
      ((resting address false).receive offered).2.1 = resting address (closedAmong offered) := by
  -- the call holds the listener while it looks
  let waiting : Listener := { resting address false with held := true }
  obtain ⟨hanswers, hlast⟩ := look_of_open (l := waiting) rfl rfl offered
  unfold receive
  generalize waiting.look offered = looked at hanswers hlast
  obtain ⟨r, l, entries⟩ := looked
  obtain ⟨rfl, rfl⟩ := Prod.mk.inj hlast
  refine ⟨?_, ?_⟩
  all_goals cases closedAmong offered
  · exact hanswers
  · exact hanswers
  · rfl
  · rfl

theorem receive_resting (address : String) (closed : Bool) (offered : List Sniff) :
    Answers closed offered ((resting address closed).receive offered).1 ∧
      ((resting address closed).receive offered).2.1 =
        resting address (closed || closedAmong offered) := by
  cases closed with
  | false => exact receive_of_open address offered
  | true =>
    rw [receive_of_closed]
    exact ⟨.late, rfl⟩

/-- A call from outside. -/
inductive Call where
  | receive (offered : List Sniff)
  | close
  deriving DecidableEq, Repr

def call (l : Listener) : Call → Listener
  | .receive offered => (l.receive offered).2.1
  | .close => l.close.1

/-- The listener after some calls. -/
def after (l : Listener) (calls : List Call) : Listener :=
  calls.foldl call l

/-- Whether the listener is closed by a call, or during it, if it was not closed before. -/
def Call.closes : Call → Bool
  | .receive offered => closedAmong offered
  | .close => true

/-- After a call the listener rests again, closed if it was closed before or by the call. -/
theorem call_resting (address : String) (closed : Bool) (c : Call) :
    (resting address closed).call c = resting address (closed || c.closes) := by
  cases c with
  | receive offered => exact (receive_resting address closed offered).2
  | close =>
    rw [Call.closes, Bool.or_true]
    exact close_resting address closed

/-- **A listener between calls** is closed if one of them closed it. Induction on the calls. -/
theorem after_resting (address : String) (closed : Bool) (calls : List Call) :
    (resting address closed).after calls = resting address (closed || calls.any Call.closes) := by
  induction calls generalizing closed with
  | nil =>
    rw [List.any_nil, Bool.or_false]
    rfl
  | cons c rest ih =>
    have hstep : (resting address closed).after (c :: rest) =
        ((resting address closed).call c).after rest := rfl
    rw [hstep, call_resting, ih, List.any_cons, Bool.or_assoc]

/-- **A listener gives echo requests until it is closed, and closes its socket once.** Whatever
calls came before, a call that waits for a packet answers as it should: it gives the source of the
first echo request that is offered, or lets a failure of the system out as it is, each after as many
looks as are needed to get there; it is told that the listener is closed just when somebody has
closed it, before the call or during one of its looks, and in the first case it does not look at
all. Between calls nobody holds the listener, and the socket has been closed once if the listener
was ever closed, and otherwise never. -/
theorem answers_until_closed (address : String) (calls : List Call) (offered : List Sniff) :
    let l := (opened address).after calls
    let closed := calls.any Call.closes
    let r := (l.receive offered).1
    Answers closed offered r ∧
      (r.result = .error .closed ↔ (closed || closedAmong offered) = true) ∧
      l.held = false ∧ l.closed = closed ∧ l.socketCloses = if closed then 1 else 0 := by
  intro l closed r
  -- all that came before is summed up in one mark
  have hl : l = resting address closed := by
    have hafter := after_resting address false calls
    rwa [Bool.false_or] at hafter
  have hanswers : Answers closed offered r := by
    have hreceive := (receive_resting address closed offered).1
    rwa [← hl] at hreceive
  refine ⟨hanswers, hanswers.closed_iff, ?_⟩
  rw [hl]
  refine ⟨rfl, rfl, ?_⟩
  cases closed <;> rfl

/-- A failure leaves the listener open, the call after it gives a source, and the socket is closed
by the call during which the listener is closed. -/
example :
    let request : Packet := [.other "Ether", .ip "10.0.0.2", .icmp 8]
    let l := (opened "0.0.0.0").after [.receive [.packets [], .failure "Network is down"]]
    let (r, l₁, _) := l.receive [.packets [[.ip "10.0.0.9"]], .packets [request], .closing]
    let (r₂, l₂, _) := l₁.receive [.closing, .packets [request]]
    l.socketCloses = 0 ∧ r.looks = 2 ∧ r.left = [.closing] ∧ l₁.socketCloses = 0 ∧
      r₂.looks = 1 ∧ l₂.socketCloses = 1 ∧ l₂.close.1.socketCloses = 1 := by
  decide

/-! ## Sources

The sources that come out of a listener can also be read off what was offered, without any calls. A
run of calls gives the same. -/

/-- Of some packets the first echo request is found. -/
theorem find?_of_request {before after : List Packet} {p : Packet}
    (hbefore : ∀ q ∈ before, q.isEchoRequest = false) (hp : p.isEchoRequest = true) :
    (before ++ p :: after).find? Packet.isEchoRequest = some p := by
  rw [List.find?_eq_some_iff_append]
  refine ⟨hp, before, after, rfl, fun q hq => ?_⟩
  rw [hbefore q hq]
  rfl

/-- Idle looks yield no sources. -/
theorem sources_idle_append {idle : List Sniff} (hidle : ∀ s ∈ idle, s.idle = true)
    (rest : List Sniff) : sources (idle ++ rest) = sources rest := by
  induction idle with
  | nil => rfl
  | cons s idle ih =>
    obtain ⟨hs, hlater⟩ := List.forall_mem_cons.mp hidle
    rw [List.cons_append, ← ih hlater]
    cases s with
    | packets ps =>
      have hnone : ps.find? Packet.isEchoRequest = none := by
        rw [List.find?_eq_none]
        intro p hp
        simpa using List.all_eq_true.mp hs p hp
      simp only [sources, hnone]
    | failure _ | closing => cases hs

/-- The sources that a listener gives one after the other are the answers of its calls: a source
comes before those of the calls that follow, and a failure ends them. -/
theorem sources_of_answers {offered : List Sniff} {r : Reception} (h : Answers false offered r) :
    sources offered =
      match r.result with
      | .ok source => (source :: (sources r.left).1, (sources r.left).2)
      | .error f => ([], if offered.all Sniff.idle then none else some f) := by
  cases h with
  | @request idle rest before after p outer inner source hidle hbefore hp hsource houter =>
    -- the call has stopped at the first echo request, and so does the list of sources
    have hfirst : p.source? = some source :=
      Packet.source?_eq_some_iff.mpr ⟨outer, inner, hsource, houter⟩
    rw [sources_idle_append hidle]
    simp only [sources, find?_of_request hbefore hp, hfirst, Option.getD_some]
  | failure hidle =>
    rw [sources_idle_append hidle]
    simp [sources, Sniff.idle]
  | closing hidle =>
    rw [sources_idle_append hidle]
    simp [sources, Sniff.idle]
  | exhausted hidle =>
    have hall : offered.all Sniff.idle = true := List.all_eq_true.mpr hidle
    have hnothing := sources_idle_append hidle []
    rw [List.append_nil] at hnothing
    rw [hnothing, hall]
    rfl

end Listener
end EchoWatch
