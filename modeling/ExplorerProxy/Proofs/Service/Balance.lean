import ExplorerProxy.Proofs.Service.Ledger
import Mathlib.Algebra.BigOperators.Ring.List
import Mathlib.Algebra.Order.BigOperators.Group.List

/-!
# The statistics balance

What the statistics of a cache report agrees, in every state and for every order of the
steps, with what requests have done: each lookup is a hit or a miss, a hit is a request
that needed no call, calls are paid for by misses, and every key that was stored anew is
held or has been evicted.
-/

namespace ExplorerProxy

set_option autoImplicit false

namespace Traffic

/-- A request of a kind, for a known network, that has looked into the cache. -/
def hasLooked (k : Kind) (e : Flight × List Deed) : Bool :=
  e.1.request.kind = k && (Network.ofTag? e.1.request.network).isSome && e.2.any Deed.isLook

/-- Such a request that has its answer and made no call for it. -/
def wasSpared (k : Kind) (e : Flight × List Deed) : Bool :=
  hasLooked k e && e.1.phase.answer?.isSome && callsIn e.2 == 0

/-- The statistics of the cache of a kind balance with what requests have done, at a
service that was `s` when it was fresh. -/
structure Balanced (s : Service) (k : Kind) (t : Traffic) : Prop where
  /-- Hits and misses are the requests that have looked into the cache. -/
  lookups : (t.session.service.cache k).stats.hits.toNat +
    (t.session.service.cache k).stats.misses.toNat = t.ledger.countP (hasLooked k)
  /-- Hits are those of them that were answered without a call. -/
  spared : (t.session.service.cache k).stats.hits.toNat = t.ledger.countP (wasSpared k)
  calls : (t.session.past.countP fun c => c.kind = k) ≤
    max 1 s.policy.maxAttempts.toNat * (t.session.service.cache k).stats.misses.toNat
  /-- The entries are the keys that are held. -/
  entries : ∃ keys : List Subject, keys.Nodup ∧
    (∀ x, x ∈ keys ↔ ((t.session.service.cache k).value? x).isSome) ∧
    (t.session.service.cache k).stats.entries.toNat = keys.length
  room : (t.session.service.cache k).stats.entries.toNat ≤ (s.cache k).capacity
  /-- What was stored under a key that was not held is held or has been evicted. -/
  stored : (s.cache k).capacity ≠ 0 →
    (t.session.service.cache k).stats.entries.toNat +
      (t.session.service.cache k).stats.evictions.toNat = t.history.tally k Deed.isNew
  paid : t.history.tally k Deed.isNew ≤ (t.session.service.cache k).stats.misses.toNat
  bare : (s.cache k).capacity = 0 →
    (t.session.service.cache k).stats.entries.toNat = 0 ∧
      (t.session.service.cache k).stats.evictions.toNat = 0

end Traffic

section Entry

variable {f : Flight} {ds : List Deed}

theorem any_isLook_iff (ds : List Deed) :
    ds.any Deed.isLook = true ↔ 0 < ds.countP Deed.isHit + ds.countP Deed.isMiss := by
  rw [← Deed.countP_isLook, List.countP_pos_iff, List.any_eq_true]

theorem Flight.Orderly.known (h : f.Orderly ds) (hlook : ds.any Deed.isLook = true) :
    (Network.ofTag? f.request.network).isSome = true := by
  obtain ⟨d, hd, hlook⟩ := List.any_eq_true.mp hlook
  have hown := h.own d hd
  cases d with
  | looked k x found =>
    obtain ⟨_, hn, _⟩ := hown
    rw [hn]
    rfl
  | _ => cases hlook

theorem Flight.Orderly.hasLooked_eq (h : f.Orderly ds) (k : Kind) :
    Traffic.hasLooked k (f, ds) = (decide (f.request.kind = k) && ds.any Deed.isLook) := by
  unfold Traffic.hasLooked
  cases hlook : ds.any Deed.isLook with
  | false => rw [Bool.and_false, Bool.and_false]
  | true => rw [h.known hlook, Bool.and_true, Bool.and_true]

theorem Flight.Orderly.countP_isLook (h : f.Orderly ds) :
    ds.countP Deed.isLook = if ds.any Deed.isLook then 1 else 0 := by
  have hiff := any_isLook_iff ds
  rw [Deed.countP_isLook]
  rcases h.did_cases with ⟨hdid, _⟩ | ⟨hdid, _⟩ | ⟨_, _, hdid⟩
  · rw [hdid.hits, hdid.misses] at hiff ⊢
    rw [if_neg (mt hiff.mp (Nat.lt_irrefl 0))]
  · rw [hdid.hits, hdid.misses] at hiff ⊢
    rw [if_pos (hiff.mpr Nat.one_pos)]
  · rw [hdid.hits, hdid.misses] at hiff ⊢
    rw [if_pos (hiff.mpr Nat.one_pos)]

theorem Flight.Orderly.countP_isStore_le (h : f.Orderly ds) :
    ds.countP Deed.isStore ≤ ds.countP Deed.isLook := by
  rw [Deed.countP_isLook]
  rcases h.did_cases with ⟨hdid, _⟩ | ⟨hdid, _⟩ | ⟨stores, hstores, hdid⟩
  · rw [hdid.stores]
    exact Nat.zero_le _
  · rw [hdid.stores]
    exact Nat.zero_le _
  · rw [hdid.stores, hdid.misses]
    omega

theorem Flight.Orderly.countP_isHit (h : f.Orderly ds) {limit : Nat} (hb : f.InBudget limit ds) :
    ds.countP Deed.isHit =
      if ds.any Deed.isLook && f.phase.answer?.isSome && callsIn ds == 0 then 1 else 0 := by
  have hiff := any_isLook_iff ds
  rcases h.did_cases with ⟨hdid, _⟩ | ⟨hdid, hcalls, hanswer⟩ | ⟨_, _, hdid⟩
  · rw [hdid.hits, hdid.misses] at hiff
    rw [hdid.hits, if_neg]
    intro hall
    rw [Bool.and_assoc, Bool.and_eq_true] at hall
    exact Nat.lt_irrefl 0 (hiff.mp hall.1)
  · rw [hdid.hits, hdid.misses] at hiff
    rw [hdid.hits, hcalls, hanswer, hiff.mpr Nat.one_pos]
    rfl
  · rw [hdid.hits, if_neg]
    intro hall
    simp only [Bool.and_eq_true, beq_iff_eq] at hall
    have hpos := hb.callsIn_pos hall.1.2 (hdid.misses ▸ Nat.one_pos)
    omega

/-- A miss pays for the calls that follow it, and for a store. -/
theorem Flight.Orderly.paid (h : f.Orderly ds) {limit : Nat} (hb : f.InBudget limit ds) :
    callsIn ds ≤ limit * ds.countP Deed.isMiss ∧
      ds.countP Deed.isNew ≤ 1 * ds.countP Deed.isMiss := by
  have hle := hb.callsIn_le
  have hnew : ds.countP Deed.isNew ≤ ds.countP Deed.isStore := by
    apply List.countP_mono_left
    intro d _ hd
    cases d <;> first | rfl | cases hd
  rcases h.did_cases with ⟨hdid, hcalls⟩ | ⟨hdid, hcalls, _⟩ | ⟨stores, hstores, hdid⟩
  · rw [hdid.stores] at hnew
    omega
  · rw [hdid.stores] at hnew
    omega
  · rw [hdid.stores] at hnew
    rw [hdid.misses]
    omega

end Entry

namespace Traffic

theorem countP_calls (h : History) (k : Kind) :
    (h.calls.countP fun c => c.kind = k) = h.tally k Deed.isCall := by
  rw [History.calls, List.countP_filterMap]
  apply List.countP_congr
  rintro ⟨i, d⟩ _
  cases d with
  | called j x past => exact (Bool.and_true _).symm ▸ Iff.rfl
  | _ => simp [Deed.call?, Deed.isCall]

variable [Timer] {source : Source} {policy : RetryPolicy} {holdersCapacity abiCapacity : Nat}
  {t : Traffic}

theorem Reachable.tally_le (h : Reachable source policy holdersCapacity abiCapacity t)
    (k : Kind) {p q : Deed → Bool} {c : Nat}
    (hpq : ∀ (f : Flight) (ds : List Deed), f.Orderly ds → f.InBudget policy.limit.toNat ds →
      ds.countP p ≤ c * ds.countP q) :
    t.history.tally k p ≤ c * t.history.tally k q := by
  rw [h.tally_eq_sum, h.tally_eq_sum]
  refine le_of_le_of_eq (List.sum_le_sum ?_) (List.sum_map_mul_left _ _ _)
  rintro ⟨f, ds⟩ he
  obtain ⟨i, hf, rfl⟩ := mem_ledger.mp he
  by_cases hk : f.request.kind = k
  · simp only [if_pos hk]
    exact hpq f _ (h.orderly hf) (h.inBudget hf)
  · simp only [if_neg hk]
    exact Nat.zero_le _

theorem Reachable.tally_isLook (h : Reachable source policy holdersCapacity abiCapacity t)
    (k : Kind) : t.history.tally k Deed.isLook = t.ledger.countP (hasLooked k) := by
  apply h.tally_eq_countP
  rintro ⟨f, ds⟩ he
  obtain ⟨i, hf, rfl⟩ := mem_ledger.mp he
  rw [(h.orderly hf).countP_isLook, (h.orderly hf).hasLooked_eq]
  by_cases hk : f.request.kind = k <;> simp [hk]

/-- A request looks once and stores once at most, so that it uses a cache at most twice. -/
theorem Reachable.uses_le (h : Reachable source policy holdersCapacity abiCapacity t) (k : Kind) :
    t.history.uses k ≤ 2 * t.flights.length := by
  have hlook : t.history.tally k Deed.isLook ≤ t.flights.length := by
    rw [h.tally_isLook, ← t.map_fst_ledger, List.length_map]
    exact List.countP_le_length
  have huse : t.history.uses k ≤ 2 * t.history.tally k Deed.isLook := by
    apply h.tally_le
    intro f ds ho _
    have hstore := ho.countP_isStore_le
    rw [Deed.countP_isUse]
    omega
  omega

theorem Reachable.balanced (h : Reachable source policy holdersCapacity abiCapacity t) {k : Kind}
    (hu : t.history.uses k ≤ Cache.lastStamp) :
    t.Balanced (.fresh policy holdersCapacity abiCapacity) k := by
  have ha := h.accounts hu
  have hreported := ha.reported hu
  have hin := ha.tracks.inStep
  obtain ⟨-, hcapacity, hhits, hmisses, hheld, hbare⟩ := ha
  rw [← h.replays.service] at hreported hin hcapacity hhits hmisses hheld hbare
  have hsize := hin.held_eq.trans_le (hin.size_le.trans_eq hcapacity)
  have hhit : ∀ e ∈ t.ledger, (if e.1.request.kind = k then e.2.countP Deed.isHit else 0) =
      if wasSpared k e then 1 else 0 := by
    rintro ⟨f, ds⟩ he
    obtain ⟨i, hf, rfl⟩ := mem_ledger.mp he
    rw [(h.orderly hf).countP_isHit (h.inBudget hf), wasSpared, (h.orderly hf).hasLooked_eq]
    by_cases hk : f.request.kind = k <;> simp [hk]
  refine ⟨?_, ?_, ?_, ?_, ?_, ?_, ?_, ?_⟩
  · rw [hreported.hits, hreported.misses, hhits, hmisses, ← History.tally_isLook]
    exact h.tally_isLook k
  · rw [hreported.hits, hhits]
    exact h.tally_eq_countP k _ _ hhit
  · have hcalls := h.tally_le k fun f ds ho hb => (ho.paid hb).1
    rw [hreported.misses, hmisses, h.replays.past, countP_calls, ← RetryPolicy.limit_toNat]
    exact hcalls
  · refine ⟨(t.session.service.cache k).keysByUse, hin.nodup_keysByUse, hin.mem_keysByUse, ?_⟩
    rw [hreported.entries, hin.length_keysByUse, hin.held_eq]
  · rw [hreported.entries]
    exact hsize
  · rw [hreported.entries, hreported.evictions]
    exact hheld
  · have hpaid := h.tally_le k fun f ds ho hb => (ho.paid hb).2
    rw [hreported.misses, hmisses]
    omega
  · intro hcap
    rw [hreported.entries, hreported.evictions]
    exact ⟨Nat.le_zero.mp (hcap ▸ hsize), hbare hcap⟩

end Traffic

open Traffic in
/-- In every state, and for every order of the steps of any number of requests, the
statistics of each kind balance with what the requests have done, as long as the cache has
stamps. From one state to a later one no hit, miss or eviction is taken back. -/
theorem statistics_balance [Timer] {source : Source} {policy : RetryPolicy}
    {holdersCapacity abiCapacity : Nat} {t t' : Traffic}
    (h : Reachable source policy holdersCapacity abiCapacity t)
    (hsteps : Relation.ReflTransGen (Step source) t t') (k : Kind)
    (hu : t'.history.uses k ≤ Cache.lastStamp) :
    let fresh := Service.fresh policy holdersCapacity abiCapacity
    let stats := (t.session.service.cache k).stats
    let stats' := (t'.session.service.cache k).stats
    t.Balanced fresh k ∧ t'.Balanced fresh k ∧
      stats.hits ≤ stats'.hits ∧ stats.misses ≤ stats'.misses ∧
      stats.evictions ≤ stats'.evictions := by
  intro fresh stats stats'
  have h' : Reachable source policy holdersCapacity abiCapacity t' := h.trans hsteps
  obtain ⟨ds, hds⟩ := history_eq_of_steps hsteps
  have hle : t.history.uses k ≤ t'.history.uses k := by
    rw [hds, History.uses, History.uses, History.tally_append]
    exact Nat.le_add_left _ _
  have hut := hle.trans hu
  have hreported := (h.accounts hut).reported hut
  have hreported' := (h'.accounts hu).reported hu
  have hcounts := History.countsLe_after_append fresh k ds t.history
  rw [← h.replays.service] at hreported
  rw [← h'.replays.service] at hreported'
  rw [← hds, ← h.replays.service, ← h'.replays.service] at hcounts
  refine ⟨h.balanced hut, h'.balanced hu, ?_, ?_, ?_⟩
  · rw [UInt64.le_iff_toNat_le, hreported.hits, hreported'.hits]
    exact hcounts.hits
  · rw [UInt64.le_iff_toNat_le, hreported.misses, hreported'.misses]
    exact hcounts.misses
  · rw [UInt64.le_iff_toNat_le, hreported.evictions, hreported'.evictions]
    exact hcounts.evictions

theorem statistics_balance_of_again :
    ∃ (_ : Timer) (source : Source) (t t' : Traffic), t.Reachable source .never 1 0 ∧
      Relation.ReflTransGen (Traffic.Step source) t t' ∧
      t'.history.uses .holders ≤ Cache.lastStamp ∧
      t'.ledger.countP (Traffic.hasLooked .holders) = 2 ∧
      t'.ledger.countP (Traffic.wasSpared .holders) = 1 ∧
      t'.Balanced (.fresh .never 1 0) .holders := by
  let timer := Timer.millis
  let source := Source.fixed ["0x2"] .null
  let r : Request := ⟨.holders, "eth", "0x1"⟩
  have h₁ : Traffic.Reachable source .never 1 0 ((Traffic.start .never 1 0).arrive r) :=
    .single (.arrive r)
  have h₂ := h₁.tail (.move 0 (.start 0 r) rfl rfl)
  have hlooked : ((Traffic.start .never 1 0).arrive r).move source 0 (.start 0 r) = _ :=
    Traffic.move_of_missing rfl rfl (by exact Cache.value?_empty _ _)
  rw [hlooked] at h₂
  have h₃ := h₂.tail (.move 0 _ rfl rfl)
  have h₄ := h₃.tail (.move 0 _ rfl rfl)
  have h₅ := h₄.tail (.move 0 _ rfl rfl)
  have hcap : (((Service.fresh .never 1 0).begin .holders "eth" "0x1").2.cache .holders).capacity ≠
      0 := by
    rw [Service.capacity_begin]
    exact Nat.one_ne_zero
  have h₆ := h₅.tail (.arrive r)
  have h₇ := h₆.tail (.move 1 (.start 0 r) rfl rfl)
  -- the second request finds what the first one has stored
  rw [Traffic.move_of_held (n := .eth) rfl rfl
    (Service.value?_store_self _ .holders ⟨.eth, "0x1"⟩ ["0x2"] hcap)] at h₇
  have hbalance := statistics_balance .refl h₇ .holders (by decide)
  exact ⟨timer, source, _, _, .refl, h₇, by decide, by decide, by decide, hbalance.2.1⟩

end ExplorerProxy
