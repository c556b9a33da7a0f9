import Mathlib.Data.Multiset.Count
import Mathlib.Order.Lattice

/-!
# Preemption by the most urgent job

Jobs with priorities, the smaller the more urgent, wait for servers. A job that arrives is checked once
against the servers and may evict the least urgent job that is served; an evicted job waits again without
a check. The balance: for every job that is served and stays, as many servers are free or are being vacated
by a job that is no more urgent as there are more urgent jobs in need of one. What the board does keeps it
as long as each check vacates a server of its own and nothing is served past a more urgent job.
-/

namespace PlugAndPlay.Library.Preemption

/-- A server is free, is being left by a job, serves a job, or is kept for a job that will be back. -/
inductive Server (α : Type*)
  | free
  | leaving (job : α)
  | staying (job : α)
  | reserved
deriving DecidableEq

/-- The jobs that wait, those that were evicted and do not wait again yet, those that wait without their
check, those whose server is reserved, and the one that was chosen for a free server. -/
@[ext] structure Board (α : Type*) where
  waiting : Multiset α
  evicted : Multiset α
  unchecked : Multiset α
  kept : Multiset α
  chosen : Option α
  servers : List (Server α)

variable {α : Type*} [LinearOrder α]

/-- A server that a job more urgent than `q` will get. -/
def Server.offers (q : α) : Server α → Bool
  | .free => true
  | .leaving job => q ≤ job
  | .staying _ | .reserved => false

/-- The jobs more urgent than `q`. -/
def demand (jobs : Multiset α) (q : α) : ℕ := jobs.countP (· < q)

namespace Board

variable {b : Board α} {p q : α} {jobs : Multiset α} {i : ℕ} {s : Server α}

/-- A job that more urgent jobs must not be kept waiting for. -/
def Held (b : Board α) (q : α) : Prop := .staying q ∈ b.servers ∨ b.chosen = some q

def supply (b : Board α) (q : α) : ℕ :=
  b.servers.countP (Server.offers q) + b.kept.countP (q ≤ ·) + demand b.unchecked q

def Balanced (b : Board α) : Prop :=
  ∀ q, b.Held q → demand b.waiting q + demand b.evicted q + b.chosen.toList.length ≤ b.supply q

theorem demand_cons (p : α) (jobs : Multiset α) (q : α) :
    demand (p ::ₘ jobs) q = demand jobs q + if p < q then 1 else 0 :=
  Multiset.countP_cons _ _ _

theorem demand_eq_zero (h : ∀ r ∈ jobs, q ≤ r) : demand jobs q = 0 := by
  apply Multiset.countP_eq_zero.mpr
  exact fun r hr ↦ not_lt_of_ge (h r hr)

theorem countP_offers_set (h : b.servers[i]? = some s) (s' : Server α) (q : α) :
    (b.servers.set i s').countP (Server.offers q) + (if s.offers q then 1 else 0) =
      b.servers.countP (Server.offers q) + if s'.offers q then 1 else 0 := by
  obtain ⟨hlt, hs⟩ := List.getElem?_eq_some_iff.mp h
  have hpos : (if s.offers q then 1 else 0) ≤ b.servers.countP (Server.offers q) := by
    split
    · rename_i hoffers
      exact List.countP_pos_iff.mpr ⟨s, List.mem_of_getElem? h, hoffers⟩
    · exact Nat.zero_le _
  have hset := List.countP_set (p := Server.offers q) (a := s') hlt
  rw [hs] at hset
  omega

omit [LinearOrder α] in
/-- A job held after a server changed was held before, or is the new one. -/
theorem held_set {chosen : Option α} (h : Held { b with servers := b.servers.set i s, chosen := chosen } q) :
    .staying q ∈ b.servers ∨ s = .staying q ∨ chosen = some q := by
  obtain hservers | hchosen := h
  · obtain hmem | hnew := List.mem_or_eq_of_mem_set hservers
    · exact .inl hmem
    · exact .inr (.inl hnew.symm)
  · exact .inr (.inr hchosen)

/-! ## What keeps the balance -/

/-- A job arrives and is not checked yet. -/
theorem Balanced.arrive (h : b.Balanced) (p : α) :
    Balanced { b with waiting := p ::ₘ b.waiting, unchecked := p ::ₘ b.unchecked } := by
  intro q hq
  have hbefore := h q hq
  simp only [supply, demand_cons] at hbefore ⊢
  omega

/-- The check of a job that is not more urgent than any job held. -/
theorem Balanced.check (h : b.Balanced) (hb : b.unchecked = p ::ₘ jobs) (hp : ∀ q, b.Held q → q ≤ p) :
    Balanced { b with unchecked := jobs } := by
  intro q hq
  have hbefore := h q hq
  have hno : ¬ p < q := not_lt_of_ge (hp q hq)
  simp only [supply, hb, demand_cons, if_neg hno] at hbefore ⊢
  exact hbefore

/-- The check of a job that evicts the least urgent of all jobs held. -/
theorem Balanced.evict {v : α} (h : b.Balanced) (hb : b.unchecked = p ::ₘ jobs)
    (hi : b.servers[i]? = some (.staying v)) (hv : ∀ q, .staying q ∈ b.servers → q ≤ v)
    (hchosen : ∀ q, b.chosen = some q → q ≤ p) :
    Balanced { b with unchecked := jobs, servers := b.servers.set i (.leaving v) } := by
  intro q hq
  obtain hmem | hnew | hq := held_set (b := { b with unchecked := jobs }) hq
  · have hbefore := h q (.inl hmem)
    have hset := countP_offers_set hi (.leaving v) q
    simp only [Server.offers, decide_eq_true (hv q hmem), if_true, Bool.false_eq_true, if_false] at hset
    simp only [supply, hb, demand_cons] at hbefore ⊢
    split at hbefore <;> omega
  · cases hnew
  · have hbefore := h q (.inr hq)
    have hset := countP_offers_set hi (.leaving v) q
    have hno : ¬ p < q := not_lt_of_ge (hchosen q hq)
    simp only [Server.offers, Bool.false_eq_true, if_false] at hset
    simp only [supply, hb, demand_cons, if_neg hno] at hbefore ⊢
    omega

/-- A server that its job leaves on its own account, or leaves already. -/
theorem Balanced.leave (h : b.Balanced) (hi : b.servers[i]? = some s) (hs : s = .staying p ∨ s = .leaving p) :
    Balanced { b with servers := b.servers.set i (.leaving p) } := by
  intro q hq
  have hheld : b.Held q := by
    obtain hmem | hnew | hchosen := held_set hq
    · exact .inl hmem
    · cases hnew
    · exact .inr hchosen
  have hbefore := h q hheld
  have hset := countP_offers_set hi (.leaving p) q
  have hmore : (if s.offers q then 1 else 0) ≤ if Server.offers q (.leaving p) then 1 else 0 := by
    obtain rfl | rfl := hs
    · exact Nat.zero_le _
    · exact Nat.le_refl _
  simp only [supply] at hbefore ⊢
  omega

/-- The most urgent job is chosen for a free server. -/
theorem Balanced.choose (h : b.Balanced) (hb : b.waiting = p ::ₘ jobs) (hnone : b.chosen = none)
    (hfree : .free ∈ b.servers) (hjobs : ∀ r ∈ jobs, p ≤ r) (hevicted : ∀ r ∈ b.evicted, p ≤ r) :
    Balanced { b with waiting := jobs, chosen := some p } := by
  intro q hq
  by_cases hpq : p < q
  · have hheld : b.Held q := by
      obtain hmem | hchosen := hq
      · exact .inl hmem
      · exact absurd (Option.some.inj hchosen) (ne_of_lt hpq)
    have hbefore := h q hheld
    simp only [supply, hb, hnone, demand_cons, if_pos hpq, Option.toList_none, List.length_nil] at hbefore
    simp only [supply, Option.toList_some, List.length_singleton]
    omega
  · -- Nobody else in need is more urgent than `q`, and one server is free.
    have hqp := le_of_not_gt hpq
    have hoffer : 0 < b.servers.countP (Server.offers q) := List.countP_pos_iff.mpr ⟨.free, hfree, rfl⟩
    simp only [supply, demand_eq_zero fun r hr ↦ le_trans hqp (hjobs r hr),
      demand_eq_zero fun r hr ↦ le_trans hqp (hevicted r hr), Option.toList_some, List.length_singleton]
    omega

/-- The chosen job gets a free server. -/
theorem Balanced.place (h : b.Balanced) (hchosen : b.chosen = some p) (hi : b.servers[i]? = some .free)
    (hs : s = .staying p ∨ s = .leaving p) :
    Balanced { b with chosen := none, servers := b.servers.set i s } := by
  intro q hq
  have hheld : b.Held q := by
    obtain hmem | hnew | hno := held_set hq
    · exact .inl hmem
    · obtain rfl | rfl := hs
      · cases hnew
        exact .inr hchosen
      · cases hnew
    · cases hno
  have hbefore := h q hheld
  have hset := countP_offers_set hi s q
  simp only [Server.offers, if_true] at hset
  simp only [supply, hchosen, Option.toList_some, List.length_singleton] at hbefore
  simp only [supply, Option.toList_none, List.length_nil]
  omega

/-- A job that leaves gives its server back. When it was evicted it has to wait again. -/
theorem Balanced.vacate (h : b.Balanced) (hi : b.servers[i]? = some (.leaving p))
    (hjobs : jobs = b.evicted ∨ jobs = p ::ₘ b.evicted) :
    Balanced { b with evicted := jobs, servers := b.servers.set i .free } := by
  intro q hq
  have hheld : b.Held q := by
    obtain hmem | hnew | hchosen := held_set (b := { b with evicted := jobs }) hq
    · exact .inl hmem
    · cases hnew
    · exact .inr hchosen
  have hbefore := h q hheld
  have hset := countP_offers_set hi .free q
  have hdemand : demand jobs q ≤ demand b.evicted q + if p < q then 1 else 0 := by
    obtain rfl | rfl := hjobs
    · exact Nat.le_add_right _ _
    · exact (demand_cons p b.evicted q).le
  simp only [Server.offers, decide_eq_true_eq, if_true] at hset
  simp only [supply] at hbefore ⊢
  by_cases hqp : q ≤ p
  · rw [if_neg (not_lt_of_ge hqp)] at hdemand
    rw [if_pos hqp] at hset
    omega
  · rw [if_neg hqp] at hset
    split at hdemand <;> omega

/-- A job that leaves and keeps its server reserved. -/
theorem Balanced.reserve (h : b.Balanced) (hi : b.servers[i]? = some (.leaving p)) :
    Balanced { b with kept := p ::ₘ b.kept, servers := b.servers.set i .reserved } := by
  intro q hq
  have hheld : b.Held q := by
    obtain hmem | hnew | hchosen := held_set (b := { b with kept := p ::ₘ b.kept }) hq
    · exact .inl hmem
    · cases hnew
    · exact .inr hchosen
  have hbefore := h q hheld
  have hset := countP_offers_set hi .reserved q
  simp only [Server.offers, decide_eq_true_eq, Bool.false_eq_true, if_false] at hset
  simp only [supply, Multiset.countP_cons] at hbefore ⊢
  omega

/-- The job is back on the server that was reserved for it, past no more urgent job. -/
theorem Balanced.back (h : b.Balanced) (hi : b.servers[i]? = some .reserved) (hb : b.kept = p ::ₘ jobs)
    (hwaiting : ∀ r ∈ b.waiting, p ≤ r) (hevicted : ∀ r ∈ b.evicted, p ≤ r)
    (hfree : b.chosen.isSome → .free ∈ b.servers) (hs : s = .staying p ∨ s = .leaving p) :
    Balanced { b with kept := jobs, servers := b.servers.set i s } := by
  intro q hq
  have hset := countP_offers_set hi s q
  simp only [Server.offers, Bool.false_eq_true, if_false] at hset
  by_cases hqp : q ≤ p
  · have hchosen : b.chosen.toList.length ≤ b.servers.countP (Server.offers q) := by
      cases hsome : b.chosen with
      | none => exact Nat.zero_le _
      | some r => exact List.countP_pos_iff.mpr ⟨.free, hfree (by rw [hsome]; rfl), rfl⟩
    simp only [supply, demand_eq_zero fun r hr ↦ le_trans hqp (hwaiting r hr),
      demand_eq_zero fun r hr ↦ le_trans hqp (hevicted r hr)]
    omega
  · have hheld : b.Held q := by
      obtain hmem | hnew | hchosen := held_set (b := { b with kept := jobs }) hq
      · exact .inl hmem
      · obtain rfl | rfl := hs
        · cases hnew
          exact absurd (le_refl _) hqp
        · cases hnew
      · exact .inr hchosen
    have hbefore := h q hheld
    simp only [supply, hb, Multiset.countP_cons, if_neg hqp] at hbefore ⊢
    omega

/-- The job for which a server was reserved does not come back. -/
theorem Balanced.release (h : b.Balanced) (hi : b.servers[i]? = some .reserved) (hb : b.kept = p ::ₘ jobs) :
    Balanced { b with kept := jobs, servers := b.servers.set i .free } := by
  intro q hq
  have hheld : b.Held q := by
    obtain hmem | hnew | hchosen := held_set (b := { b with kept := jobs }) hq
    · exact .inl hmem
    · cases hnew
    · exact .inr hchosen
  have hbefore := h q hheld
  have hset := countP_offers_set hi .free q
  simp only [Server.offers, if_true, Bool.false_eq_true, if_false] at hset
  simp only [supply, hb, Multiset.countP_cons] at hbefore ⊢
  split at hbefore <;> omega

/-- An evicted job waits again. -/
theorem Balanced.requeue (h : b.Balanced) (hb : b.evicted = p ::ₘ jobs) :
    Balanced { b with evicted := jobs, waiting := p ::ₘ b.waiting } := by
  intro q hq
  have hbefore := h q hq
  simp only [hb, demand_cons] at hbefore
  simp only [supply, demand_cons] at hbefore ⊢
  omega

/-- With nothing under way, no job waits that is more urgent than one that is served. -/
theorem Balanced.settled (h : b.Balanced) (hservers : ∀ job, .leaving job ∉ b.servers) (hkept : b.kept = 0)
    (hunchecked : b.unchecked = 0) (hidle : .free ∈ b.servers → b.waiting = 0) (hp : p ∈ b.waiting)
    (hq : .staying q ∈ b.servers) : q ≤ p := by
  by_contra hlt
  have hbefore := h q (.inl hq)
  have hdemand : 0 < demand b.waiting q := Multiset.countP_pos.mpr ⟨p, hp, lt_of_not_ge hlt⟩
  have hnone : b.servers.countP (Server.offers q) = 0 := by
    apply List.countP_eq_zero.mpr
    intro s hs hoffers
    cases s with
    | free =>
      rw [hidle hs] at hp
      exact Multiset.notMem_zero p hp
    | leaving job => exact hservers job hs
    | staying job => cases hoffers
    | reserved => cases hoffers
  simp only [supply, hnone, hkept, hunchecked, demand, Multiset.countP_zero] at hbefore hdemand
  omega

end Board

end PlugAndPlay.Library.Preemption
