import EchoWatch.Proofs.Peer.Routing
import Mathlib.Logic.Equiv.Defs
/-!
# Who holds an address

A route leads to the least place whose range holds the address. So a list of peers may be changed
without harm to the routes as long as the least holders stay the same peers.

* **`Shadowed.isLeast_former`**: a peer whose addresses are all held before it is never the least
  holder. Without it every other peer is the least holder of the same addresses.
* **`Apart.isLeast_reordered`**: where no address has two holders, the order plays no part.
-/

namespace EchoWatch.Roster

/-- The places of the peers whose ranges hold an address. -/
def holders (r : Roster) (a : Net.Address) : Set Nat :=
  {i | ∃ p, r.peers[i]? = some p ∧ p.range.contains a = true}

/-- A holder is one of the peers. -/
theorem lt_length_of_mem_holders {r : Roster} {a : Net.Address} {i : Nat} (h : i ∈ r.holders a) :
    i < r.peers.length := by
  obtain ⟨p, hp, -⟩ := h
  exact (List.getElem?_eq_some_iff.mp hp).1

/-- Which peer it is that stands at a place is all that matters for its being a holder. -/
theorem mem_holders_congr {r s : Roster} {i k : Nat} (h : s.peers[k]? = r.peers[i]?)
    (a : Net.Address) : k ∈ s.holders a ↔ i ∈ r.holders a := by
  simp only [holders, Set.mem_ofPred_eq, h]

/-- A route leads to the least holder. -/
theorem route_eq_peer_iff_isLeast {r : Roster} {address : String} {i : Nat} :
    r.route address = .peer i ↔
      ∃ a, Net.Address.read? address.toList = some a ∧ IsLeast (r.holders a) i := by
  rw [route_eq_peer_iff]
  simp only [indexOf?_eq_some_iff]
  rfl

/-- Two places with the same addresses to be the least holder of get the same packets. -/
theorem route_eq_peer_congr {r s : Roster} {i k : Nat}
    (h : ∀ a, IsLeast (r.holders a) i ↔ IsLeast (s.holders a) k) (address : String) :
    r.route address = .peer i ↔ s.route address = .peer k := by
  simp only [route_eq_peer_iff_isLeast, h]

/-- A route leads nowhere if nobody holds the address. -/
theorem route_eq_unmatched_iff_holders {r : Roster} {address : String} :
    r.route address = .unmatched ↔
      ∃ a, Net.Address.read? address.toList = some a ∧ ∀ i, i ∉ r.holders a := by
  rw [route_eq_unmatched_iff]
  simp only [indexOf?_eq_none_iff]
  constructor
  · rintro ⟨a, ha, hno⟩
    exact ⟨a, ha, fun i ⟨p, hp, hin⟩ => hno i p hp hin⟩
  · rintro ⟨a, ha, hno⟩
    exact ⟨a, ha, fun i p hp hin => hno i ⟨p, hp, hin⟩⟩

/-! ## A peer less

The places behind the peer that is taken out move up by one. `former` says where a place was before,
and it keeps the order of places. -/

/-- The place that place `k` was before entry `j` was taken out of a list. -/
def former (j k : Nat) : Nat :=
  if k < j then k else k + 1

theorem former_le_former_iff {j k l : Nat} : former j k ≤ former j l ↔ k ≤ l := by
  unfold former
  split <;> split <;> omega

/-- Every place but the one taken out is the former place of a peer that is left. -/
theorem exists_former {i j : Nat} (h : i ≠ j) : ∃ k, former j k = i := by
  by_cases hij : i < j
  · exact ⟨i, by rw [former, if_pos hij]⟩
  · refine ⟨i - 1, ?_⟩
    rw [former, if_neg (by omega)]
    omega

/-- What stands at a place stood at its former place. -/
theorem getElem?_eraseIdx_eq_former {α : Type} (l : List α) (j k : Nat) :
    (l.eraseIdx j)[k]? = l[former j k]? := by
  rw [List.getElem?_eraseIdx, former]
  split <;> rfl

/-- Each address that peer `j` holds is held by a peer before it as well. -/
def Shadowed (r : Roster) (j : Nat) : Prop :=
  ∀ a, j ∈ r.holders a → ∃ i < j, i ∈ r.holders a

namespace Shadowed

variable {r s : Roster} {j k : Nat} (h : r.Shadowed j)
include h

/-- A shadowed peer is never the least holder. -/
theorem not_isLeast (a : Net.Address) : ¬ IsLeast (r.holders a) j := by
  rintro ⟨hj, hleast⟩
  obtain ⟨i, hi, hin⟩ := h a hj
  have hle : j ≤ i := hleast hin
  omega

theorem route_ne (address : String) : r.route address ≠ .peer j := by
  intro hroute
  obtain ⟨a, -, hleast⟩ := route_eq_peer_iff_isLeast.mp hroute
  exact h.not_isLeast a hleast

/-- **Without a shadowed peer** the others are the least holders of what they were before. -/
theorem isLeast_former (hs : s.peers = r.peers.eraseIdx j) (a : Net.Address) :
    IsLeast (r.holders a) (former j k) ↔ IsLeast (s.holders a) k := by
  -- the holders that are left are the former ones except `j`
  have hmem : ∀ l, l ∈ s.holders a ↔ former j l ∈ r.holders a := by
    intro l
    apply mem_holders_congr
    rw [hs, getElem?_eraseIdx_eq_former]
  constructor
  · rintro ⟨hin, hleast⟩
    refine ⟨(hmem k).mpr hin, fun l hl => ?_⟩
    exact former_le_former_iff.mp (hleast ((hmem l).mp hl))
  · rintro ⟨hin, hleast⟩
    have hall : ∀ l, former j l ∈ r.holders a → former j k ≤ former j l := by
      intro l hl
      exact former_le_former_iff.mpr (hleast ((hmem l).mpr hl))
    refine ⟨(hmem k).mp hin, fun i hi => ?_⟩
    by_cases hij : i = j
    · -- what peer `j` holds is held before it, by a peer that is still there
      subst hij
      obtain ⟨i', hi', hin'⟩ := h a hi
      obtain ⟨l, rfl⟩ := exists_former (Nat.ne_of_lt hi')
      exact (hall l hin').trans hi'.le
    · obtain ⟨l, rfl⟩ := exists_former hij
      exact hall l hi

end Shadowed

/-! ## Another order

A permutation keeps neither the order of places nor which one is the least. It does no harm where
there is only one holder to choose from. -/

/-- No address has two holders. -/
def Apart (r : Roster) : Prop :=
  ∀ a, (r.holders a).Subsingleton

section Reordered

variable {r s : Roster} {n : Nat} {σ : Equiv.Perm (Fin n)}
  (hr : r.peers.length = n) (hs : s.peers.length = n)
  (hσ : ∀ k : Fin n, s.peers[(k : Nat)]? = r.peers[(σ k : Nat)]?)

/-- A single holder is the least one. -/
theorem Apart.isLeast_iff (h : r.Apart) {a : Net.Address} {i : Nat} :
    IsLeast (r.holders a) i ↔ i ∈ r.holders a := by
  refine ⟨fun hleast => hleast.1, fun hin => ⟨hin, fun k hk => ?_⟩⟩
  exact (h a hin hk).le

include hs hσ

/-- No address has two holders in the other order. -/
theorem Apart.reordered (h : r.Apart) : s.Apart := by
  intro a i hi k hk
  have hin : i < n := hs ▸ lt_length_of_mem_holders hi
  have hkn : k < n := hs ▸ lt_length_of_mem_holders hk
  have hi' := (mem_holders_congr (hσ ⟨i, hin⟩) a).mp hi
  have hk' := (mem_holders_congr (hσ ⟨k, hkn⟩) a).mp hk
  -- both places come from the one place that held the address before
  have hsame : σ ⟨i, hin⟩ = σ ⟨k, hkn⟩ := Fin.ext (h a hi' hk')
  exact congrArg Fin.val (σ.injective hsame)

/-- **In another order** a peer is the least holder of the same addresses. -/
theorem Apart.isLeast_reordered (h : r.Apart) (k : Fin n) (a : Net.Address) :
    IsLeast (r.holders a) (σ k) ↔ IsLeast (s.holders a) k := by
  rw [h.isLeast_iff, (h.reordered hs hσ).isLeast_iff, mem_holders_congr (hσ k)]

include hr

/-- An address that nobody holds is held by nobody in the other order. -/
theorem route_eq_unmatched_reordered (address : String) :
    s.route address = .unmatched ↔ r.route address = .unmatched := by
  have hnone : ∀ a, (∀ k, k ∉ s.holders a) ↔ ∀ i, i ∉ r.holders a := by
    intro a
    constructor
    · intro hno i hi
      have hin : i < n := hr ▸ lt_length_of_mem_holders hi
      refine hno (σ.symm ⟨i, hin⟩) ((mem_holders_congr (hσ _) a).mpr ?_)
      rwa [Equiv.apply_symm_apply]
    · intro hno k hk
      have hkn : k < n := hs ▸ lt_length_of_mem_holders hk
      exact hno (σ ⟨k, hkn⟩) ((mem_holders_congr (hσ ⟨k, hkn⟩) a).mp hk)
  simp only [route_eq_unmatched_iff_holders, hnone]

end Reordered

end EchoWatch.Roster
