import EchoWatch.Delivery.Outbox
/-!
# Accepting notices

An outbox is `Orderly` when its queue is not shut before it has stopped accepting. Closing goes in
this order, so that every outbox in use is orderly, and an orderly one never refuses a notice: it
takes the notice into its queue (`Orderly.accept_eq`) or, once closed, lets it drop.

* **`Outbox.taking`**, **`Outbox.announced`**: what any number of postings leave in the queue and in
  the journal.
* **`Orderly.post`**: posting does that, one notice at a time.
-/

namespace EchoWatch

/-- A notice together with the webhook of the peer that it is about. -/
structure Posting where
  webhook : Option String
  notice : Notice
  deriving DecidableEq, Repr

/-- What a posting gives the worker to do. Without a webhook that is nothing. -/
def Posting.job? (p : Posting) : Option Job :=
  p.webhook.map fun target => ⟨target, p.notice⟩

namespace Outbox

/-- An outbox whose queue is not shut before it has stopped accepting. -/
def Orderly (o : Outbox) : Prop :=
  o.shut = true → o.closed = true

/-- An outbox that nobody has begun to close. -/
structure Running (o : Outbox) : Prop where
  closed : o.closed = false
  shut : o.shut = false

theorem Running.orderly {o : Outbox} (h : o.Running) : o.Orderly :=
  fun hshut => absurd (h.shut.symm.trans hshut) (by decide)

/-- An orderly outbox accepts a job until it is closed, and has no third answer. -/
theorem Orderly.accept_eq {o : Outbox} (h : o.Orderly) (job : Job) :
    o.accept job =
      .ok (if o.closed then none else some { o with queue := o.queue ++ [job] }) := by
  unfold accept submit
  cases hclosed : o.closed with
  | true => rfl
  | false =>
    have hshut : ¬ o.shut = true := fun hs => absurd (h hs) (by rw [hclosed]; decide)
    rw [if_neg hshut]
    rfl

/-! ## Postings

What an outbox makes of many postings is said here without posting them one by one: which jobs stand
in its queue afterwards, and what the journal says. -/

/-- The outbox with the jobs of some postings in its queue, unless it accepts no more. -/
def taking (o : Outbox) (postings : List Posting) : Outbox :=
  { o with queue := o.queue ++ if o.closed then [] else postings.filterMap Posting.job? }

/-- What the journal says about some postings: the title of each one, and that it was dropped if it
had somewhere to go but came too late. -/
def announced (o : Outbox) (postings : List Posting) : List Entry :=
  postings.flatMap fun p =>
    announcement p.notice :: if o.closed && p.webhook.isSome then [dropped p.notice] else []

@[simp] theorem taking_nil (o : Outbox) : o.taking [] = o := by
  simp [taking]

@[simp] theorem closed_taking (o : Outbox) (postings : List Posting) :
    (o.taking postings).closed = o.closed := rfl

@[simp] theorem announced_nil (o : Outbox) : o.announced [] = [] := rfl

theorem taking_append (o : Outbox) (postings later : List Posting) :
    o.taking (postings ++ later) = (o.taking postings).taking later := by
  cases hclosed : o.closed <;> simp [taking, hclosed]

/-- What is announced hangs on the outbox by whether it is closed, and postings do not close it. -/
theorem announced_append (o : Outbox) (postings later : List Posting) :
    o.announced (postings ++ later) =
      o.announced postings ++ (o.taking postings).announced later := by
  simp [announced]

/-- An outbox that is running drops nothing. -/
theorem Running.announced {o : Outbox} (h : o.Running) (postings : List Posting) :
    o.announced postings = postings.map fun p => .info source p.notice.title := by
  rw [List.map_eq_flatMap]
  simp [Outbox.announced, announcement, h.closed]

/-- **A running outbox queues all jobs** that it is handed, behind those it has. -/
theorem Running.queue_taking {o : Outbox} (h : o.Running) (postings : List Posting) :
    (o.taking postings).queue = o.queue ++ postings.filterMap Posting.job? := by
  simp [taking, h.closed]

theorem Running.taking {o : Outbox} (h : o.Running) (postings : List Posting) :
    (o.taking postings).Running :=
  ⟨h.closed, h.shut⟩

theorem Orderly.taking {o : Outbox} (h : o.Orderly) (postings : List Posting) :
    (o.taking postings).Orderly :=
  h

/-- **An orderly outbox refuses nothing.** It announces the notice and takes it, or lets it drop. -/
theorem Orderly.post {o : Outbox} (h : o.Orderly) (p : Posting) :
    o.post p.webhook p.notice = (.ok (o.taking [p]), o.announced [p]) := by
  obtain ⟨webhook, n⟩ := p
  obtain ⟨carrier, queue, closed, shut⟩ := o
  cases webhook with
  | none => cases closed <;> simp [Outbox.post, Outbox.taking, announced, Posting.job?]
  | some target =>
    have haccept := h.accept_eq ⟨target, n⟩
    cases closed <;> simp [Outbox.post, haccept, Outbox.taking, announced, Posting.job?]

/-! ## Closed outboxes -/

/-- A closed outbox takes nothing. -/
theorem post_of_closed {o : Outbox} (h : o.closed = true) (webhook : Option String) (n : Notice) :
    (o.post webhook n).1 = .ok o := by
  cases webhook with
  | none => rfl
  | some target =>
    have haccept : o.accept ⟨target, n⟩ = .ok none := if_pos h
    simp only [Outbox.post, haccept]

/-- Posting does not close an outbox. -/
theorem marks_of_post {o o' : Outbox} {webhook : Option String} {n : Notice}
    (h : (o.post webhook n).1 = .ok o') : o'.closed = o.closed ∧ o'.shut = o.shut := by
  cases webhook with
  | none =>
    obtain rfl : o = o' := Except.ok.inj h
    exact ⟨rfl, rfl⟩
  | some target =>
    -- only a job that is accepted changes the outbox, and only its queue
    simp only [Outbox.post, accept, submit] at h
    cases hclosed : o.closed with
    | true =>
      rw [hclosed, if_pos rfl] at h
      obtain rfl : o = o' := Except.ok.inj h
      exact ⟨hclosed, rfl⟩
    | false =>
      cases hshut : o.shut with
      | true =>
        rw [hclosed, hshut] at h
        cases h
      | false =>
        rw [hclosed, hshut] at h
        obtain rfl := Except.ok.inj h
        exact ⟨rfl, rfl⟩

end Outbox
end EchoWatch
