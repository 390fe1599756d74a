import EchoWatch.Delivery.Carrier
import Mathlib.Data.List.Basic
/-!
# What a carrier asks for

A carrier asks its client for at most one request a notice, and which one it is depends on the
channel and on the notice alone: neither on what the client was asked before nor on what it answers.
The answer only decides how the delivery ends.

* **`Carrier.calls_post`**: what is asked for.
* **`Carrier.outcome_post_eq_delivered_iff`**: when a delivery is made.
-/

namespace EchoWatch

/-! ## Answers -/

namespace Carrier

/-! ## Requests -/

/-- The only request that can be made for a notice over a channel: there is none if the notice is
not in order, or if there are no headers or no body. -/
def requestOver (c : Channel) (agent : String) (n : Notice) (target : String) : List Post :=
  match n.flaw?, c.headers agent, c.body? n with
  | none, .ok headers, some body => [⟨target, body, headers, c.timeout⟩]
  | _, _, _ => []

variable {c : Channel} {agent : String} {n : Notice} {target : String}

/-- Whatever the client answered before, and whatever it answers, it is asked for this. -/
theorem calls_post (t : Transport) :
    (post c agent t n target).2.calls = t.calls ++ requestOver c agent n target := by
  unfold post requestOver
  cases n.flaw? with
  | some flaw => exact (List.append_nil _).symm
  | none =>
    cases c.headers agent with
    | error v => exact (List.append_nil _).symm
    | ok headers =>
      cases c.body? n with
      | none => exact (List.append_nil _).symm
      | some body => rfl

/-- What a carrier asks its client to post for a notice, apart from all that it asked before. -/
def requests (carrier : Carrier) (n : Notice) (target : String) : List Post :=
  (carrier.carry n target).2.calls.drop carrier.calls.length

/-- A channel asks for what is posted over it. -/
theorem requests_channel (c : Channel) (agent : String) (t : Transport) :
    (channel c agent t).requests = requestOver c agent := by
  funext n target
  show ((post c agent t n target).2.calls).drop t.calls.length = _
  rw [calls_post, List.drop_left]

/-- A rehearsal asks for nothing. -/
theorem requests_rehearsal (outcomes : List Outcome) (turn : Nat) :
    (rehearsal outcomes turn).requests = fun _ _ => [] := by
  funext n target
  simp only [requests, carry]
  split <;> rfl

/-- One delivery does not show in the requests of another. -/
theorem requests_carry (carrier : Carrier) (n : Notice) (target : String) :
    (carrier.carry n target).2.requests = carrier.requests := by
  cases carrier with
  | channel c agent t => exact (requests_channel c agent _).trans (requests_channel c agent t).symm
  | rehearsal outcomes turn =>
    simp only [carry]
    split
    · exact (requests_rehearsal outcomes _).trans (requests_rehearsal outcomes turn).symm
    · rfl

end Carrier
end EchoWatch
