import EchoWatch.Proofs.Delivery.Outbox
import EchoWatch.Watch.Monitor
/-!
# The calls of a monitor, case by case

What `start`, `close`, `stop` and `teardown` do is decided by a few marks of a monitor: whether it
was asked to listen, whether it was asked to stop, whether it has a source and whether its end is
made. Each equation here is one of these cases.

Packets and checks leave these marks alone: after any number of them, the monitor just goes on
(`leadsOn_goesOn`).
-/

namespace EchoWatch
namespace Monitor

variable {m : Monitor}

/-! ## The end

The end is made once. Whoever closes a monitor that is listening makes it, and so does whoever stops
it; without a source there is nothing to close, and stopping only leaves a mark. -/

/-- A monitor whose end is made. -/
def torn (m : Monitor) : Monitor :=
  { m with
    tornDown := true
    stopping := true
    source := m.source.map (· + 1)
    outbox := m.outbox.close }

theorem teardown_of_tornDown (h : m.tornDown = true) : m.teardown = (m, []) :=
  if_pos h

theorem teardown_of_standing (h : m.tornDown = false) :
    m.teardown = (m.torn, if m.listening then [stoppingEntry.on .check] else []) :=
  if_neg (by rw [h]; decide)

theorem close_of_listening (h : m.listening = true) : m.close = some m.teardown :=
  if_pos h

theorem close_of_deaf (h : m.listening = false) : m.close = none :=
  if_neg (by rw [h]; decide)

theorem stop_of_listening (h : m.listening = true) :
    m.stop = Monitor.teardown { m with stopping := true } :=
  if_pos h

theorem stop_of_deaf (h : m.listening = false) : m.stop = ({ m with stopping := true }, []) :=
  if_neg (show ¬ m.listening = true by rw [h]; decide)

/-- After the end there is nothing left to do but to leave the mark. -/
theorem stop_of_tornDown (h : m.tornDown = true) : m.stop = ({ m with stopping := true }, []) := by
  cases hlistening : m.listening with
  | false => exact stop_of_deaf hlistening
  | true =>
    rw [stop_of_listening hlistening, teardown_of_tornDown]
    exact h

/-- To stop a monitor whose source is open is to close it. -/
theorem stop_of_standing (hlistening : m.listening = true) (h : m.tornDown = false) :
    m.stop = m.teardown := by
  rw [stop_of_listening hlistening, teardown_of_standing h, teardown_of_standing]
  · rfl
  · exact h

section Start

variable (refusal : Option Trouble)

theorem start_of_called (h : m.listenCalled = true) :
    m.start refusal = (.alreadyListening, m, []) :=
  if_pos h

/-- A monitor that was stopped before it listens gives up at once. -/
theorem start_of_stopping (hcalled : m.listenCalled = false) (hstopping : m.stopping = true) :
    let address := m.address
    m.start refusal = (.stoppedBefore, Monitor.giveUp { m with listenCalled := true },
      [.info Board.source s!"Stopped before listening on {address}"]) :=
  (if_neg (by rw [hcalled]; decide)).trans (if_pos hstopping)

theorem start_refused (hcalled : m.listenCalled = false) (hstopping : m.stopping = false)
    (e : Trouble) :
    m.start (some e) = (.refused e, Monitor.giveUp { m with listenCalled := true }, []) :=
  (if_neg (by rw [hcalled]; decide)).trans
    (if_neg (show ¬ m.stopping = true by rw [hstopping]; decide))

/-- Any other one is listening from then on. -/
theorem start_opened (hcalled : m.listenCalled = false) (hstopping : m.stopping = false) :
    let address := m.address
    m.start none = (.opened, { m with listenCalled := true, source := some 0 },
      [.info Board.source s!"Listening for ICMP echo requests on {address}"]) :=
  (if_neg (by rw [hcalled]; decide)).trans
    (if_neg (show ¬ m.stopping = true by rw [hstopping]; decide))

end Start

/-! ## Checks

A pass and a single check have the same effect on the marks of a monitor, which is none. So has
every packet. -/

/-- The monitor goes on with another board and another outbox, which is open or closed as before and
got nothing if it was closed. -/
structure GoesOn (m m' : Monitor) : Prop where
  eq : m' = { m with board := m'.board, outbox := m'.outbox }
  closed : m'.outbox.closed = m.outbox.closed
  shut : m'.outbox.shut = m.outbox.shut
  outbox_eq : m.outbox.closed = true → m'.outbox = m.outbox

namespace GoesOn

variable {m₁ m₂ m₃ : Monitor}

theorem withBoard (m : Monitor) (board : Board) : m.GoesOn { m with board := board } :=
  ⟨rfl, rfl, rfl, fun _ => rfl⟩

theorem refl (m : Monitor) : m.GoesOn m :=
  withBoard m m.board

theorem trans (h : m₁.GoesOn m₂) (h' : m₂.GoesOn m₃) : m₁.GoesOn m₃ where
  eq := by
    rw [h'.eq, h.eq]
  closed := h'.closed.trans h.closed
  shut := h'.shut.trans h.shut
  outbox_eq hclosed := (h'.outbox_eq (h.closed.trans hclosed)).trans (h.outbox_eq hclosed)

/-- The marks of a monitor that goes on are the same. -/
theorem marks (h : m₁.GoesOn m₂) : m₂.listenCalled = m₁.listenCalled ∧
    m₂.stopping = m₁.stopping ∧ m₂.tornDown = m₁.tornDown ∧ m₂.source = m₁.source := by
  rw [h.eq]
  exact ⟨rfl, rfl, rfl, rfl⟩

end GoesOn

/-- A check leads on. -/
theorem goesOn_checkAt {m : Monitor} {now : Moment} {i : Nat}
    {checked : Except CheckError (Option Notice) × Monitor × List Entry}
    (h : m.checkAt now i = some checked) : m.GoesOn checked.2.1 := by
  obtain ⟨p, -, rfl⟩ := Option.map_eq_some_iff.mp h
  rcases p.check m.board.verbose m.board.timeout now with ⟨e | ⟨_ | n, seen⟩, p'⟩
  · exact .withBoard m _
  · exact .withBoard m _
  · -- only a notice comes to the outbox, which may refuse it
    dsimp only
    rcases hpost : m.outbox.post p'.webhook n with ⟨e | outbox, entries⟩
    · exact .withBoard m _
    · have hposted : (m.outbox.post p'.webhook n).1 = .ok outbox := congrArg Prod.fst hpost
      obtain ⟨hclosed, hshut⟩ := Outbox.marks_of_post hposted
      refine ⟨rfl, hclosed, hshut, fun h => ?_⟩
      exact Except.ok.inj (hposted.symm.trans (Outbox.post_of_closed h _ _))

/-- A relation that leads from a monitor on along packets and checks, as many as there are. -/
structure LeadsOn (R : Monitor → Monitor → Prop) : Prop where
  refl : ∀ m, R m m
  trans : ∀ {m₁ m₂ m₃}, R m₁ m₂ → R m₂ m₃ → R m₁ m₃
  packet : ∀ (m : Monitor) (now : Moment) (address : String), R m (m.packet now address).2.1
  checkAt : ∀ {m : Monitor} {now : Moment} {i : Nat}
    {checked : Except CheckError (Option Notice) × Monitor × List Entry},
    m.checkAt now i = some checked → R m checked.2.1

/-- A pass consists of checks, up to the one that fails. -/
theorem LeadsOn.checkEach {R : Monitor → Monitor → Prop} (h : LeadsOn R) (m : Monitor)
    (now : Moment) (places : List Nat) : R m (m.checkEach now places).2.1 := by
  induction places generalizing m with
  | nil => exact h.refl _
  | cons i rest ih =>
    rw [Monitor.checkEach]
    rcases hcheck : m.checkAt now i with _ | ⟨e | notice, m', entries⟩
    · exact ih m
    · exact h.checkAt hcheck
    · exact h.trans (h.checkAt hcheck) (ih m')

theorem LeadsOn.checkAll {R : Monitor → Monitor → Prop} (h : LeadsOn R) (m : Monitor)
    (now : Moment) : R m (m.checkAll now).2.1 :=
  h.checkEach m now _

/-- **Packets and checks just go on.** -/
theorem leadsOn_goesOn : LeadsOn GoesOn where
  refl := .refl
  trans := .trans
  packet _ _ _ := .withBoard _ _
  checkAt := goesOn_checkAt

end Monitor
end EchoWatch
