import ExplorerProxy.Proofs.Service.Balance
import ExplorerProxy.Proofs.Service.OneByOne
import ExplorerProxy.Proofs.Service.Separate

/-!
# Requests that commute

Requests that are all different, at a source that answers each of them in a sequence of
its own, find nothing in the caches and store each value once. So what the caches come to
follows from what the requests come to, but for the order of the uses.
-/

namespace ExplorerProxy

set_option autoImplicit false

theorem Visit.success?_eq_some {k : Kind} {x : Visit} {p : Subject × k.Value}
    (h : x.success? k = some p) : x.request.kind = k ∧ x.request.About p.1 := by
  obtain ⟨r, answer, calls⟩ := x
  simp only [Visit.success?] at h
  split at h
  · rename_i n v hn hv
    split at h
    · rename_i hk
      obtain rfl := Option.some.inj h
      exact ⟨hk, hn, rfl⟩
    · cases h
  · cases h

theorem Request.request_alone (policy : RetryPolicy) (seqs : OutcomeSeqs) (r : Request) :
    (r.alone policy seqs).request = r := by
  cases hn : Network.ofTag? r.network with
  | none => rw [alone_of_unknown policy seqs hn]
  | some n => rw [alone_of_known policy seqs hn]

theorem nodup_successes (policy : RetryPolicy) (seqs : OutcomeSeqs) (k : Kind)
    {requests : List Request} (hd : requests.Nodup) :
    ((successes k (requests.map (Request.alone policy seqs))).map Prod.fst).Nodup := by
  rw [successes, List.filterMap_map, List.map_filterMap]
  refine hd.filterMap ?_
  intro r r' x hr hr'
  obtain ⟨p, hp, rfl⟩ := Option.map_eq_some_iff.mp hr
  obtain ⟨p', hp', hsame⟩ := Option.map_eq_some_iff.mp hr'
  obtain ⟨hk, hx⟩ := Visit.success?_eq_some hp
  obtain ⟨hk', hx'⟩ := Visit.success?_eq_some hp'
  rw [Request.request_alone] at hk hx hk' hx'
  rw [hsame] at hx'
  exact Request.eq_of_about (hk.trans hk'.symm) hx hx'

theorem Flight.RunsAs.any_isLook {policy : RetryPolicy} {seqs : OutcomeSeqs} {f : Flight}
    {ds : List Deed} (h : f.RunsAs policy seqs ds) (ho : f.Orderly ds)
    (hanswer : f.phase.answer?.isSome = true)
    (hn : (Network.ofTag? f.request.network).isSome = true) : ds.any Deed.isLook = true := by
  obtain ⟨n, hn⟩ := Option.isSome_iff_exists.mp hn
  have hcalls : callsIn ds ≠ 0 := by
    obtain ⟨request, phase, reply?, due⟩ := f
    cases phase with
    | answered a =>
      simp only [RunsAs, hn] at h
      obtain ⟨m, _, _, hcalls⟩ := h
      omega
    | _ => cases hanswer
  rw [any_isLook_iff]
  rcases ho.did_cases with ⟨_, hzero⟩ | ⟨_, hzero, _⟩ | ⟨_, _, hdid⟩
  · exact absurd hzero hcalls
  · exact absurd hzero hcalls
  · rw [hdid.misses]
    exact Nat.succ_pos _

namespace Traffic

variable [Timer] {source : Source} {policy : RetryPolicy} {holdersCapacity abiCapacity : Nat}
  {seqs : OutcomeSeqs} {t : Traffic}

/-- All requests that have come are different, and all have their answers. -/
structure Settled (t : Traffic) : Prop where
  distinct : t.Distinct
  done : t.Done

section Settled

variable (hs : source.Separate seqs)
  (h : Reachable source policy holdersCapacity abiCapacity t) (ht : t.Settled) (k : Kind)
include hs h ht

theorem Reachable.visits_eq_of_settled :
    t.visits = (t.flights.map Flight.request).map (Request.alone policy seqs) :=
  h.visits_eq hs ht.distinct ht.done

theorem Reachable.nodup_given : ((t.history.given k).map Prod.fst).Nodup := by
  have hperm := (h.perm_given k).map Prod.fst
  rw [h.visits_eq_of_settled hs ht] at hperm
  exact hperm.nodup_iff.mpr (nodup_successes policy seqs k ht.distinct)

theorem Reachable.countP_hasLooked : t.ledger.countP (hasLooked k) =
    (t.flights.map Flight.request).countP
      fun r => r.kind = k && (Network.ofTag? r.network).isSome := by
  rw [← t.map_fst_ledger, List.map_map, List.countP_map]
  apply List.countP_congr
  rintro ⟨f, ds⟩ he
  obtain ⟨i, hf, rfl⟩ := mem_ledger.mp he
  have hruns := h.runsAs hs ht.distinct hf
  have hlook := hruns.any_isLook (h.orderly hf) (ht.done f (List.mem_of_getElem? hf))
  simp only [hasLooked, Function.comp_apply, Bool.and_eq_true]
  exact ⟨And.left, fun hk => ⟨hk, hlook hk.2⟩⟩

theorem Reachable.counts_of_settled (hu : t.history.uses k ≤ Cache.lastStamp) :
    let c := t.session.service.cache k
    let capacity := ((Service.fresh policy holdersCapacity abiCapacity).cache k).capacity
    c.hits = 0 ∧
      c.misses = (t.flights.map Flight.request).countP
        (fun r => r.kind = k && (Network.ofTag? r.network).isSome) ∧
      c.held = min capacity (successes k t.visits).length ∧
      c.evictions = (if capacity = 0 then 0 else
        (successes k t.visits).length - min capacity (successes k t.visits).length) ∧
      c.capacity = capacity := by
  intro c capacity
  have ha := h.accounts hu
  have hd := h.nodup_given hs ht k
  obtain ⟨hhit, hnew⟩ := h.replays.told.tally_of_nodup
    (History.accounts_fresh policy holdersCapacity abiCapacity k) hu hd
  have hsize := ha.tracks.size_eq hd
  have hheld := ha.tracks.inStep.held_eq
  obtain ⟨-, hcapacity, hhits, hmisses, hstored, hbare⟩ := ha
  rw [← h.replays.service] at hsize hheld hcapacity hhits hmisses hstored hbare
  have hlooks := t.history.tally_isLook k
  rw [h.tally_isLook, h.countP_hasLooked hs ht, hhit, Nat.zero_add] at hlooks
  rw [hcapacity, (h.perm_given k).length_eq] at hsize
  rw [(h.perm_given k).length_eq] at hnew
  refine ⟨hhits.trans hhit, hmisses.trans hlooks.symm, hheld.trans hsize, ?_, hcapacity⟩
  split
  · exact hbare ‹_›
  · have hsum := hstored ‹_›
    rw [hnew, hheld, hsize] at hsum
    exact Nat.eq_sub_of_add_eq' hsum

theorem Reachable.value?_of_settled (hu : t.history.uses k ≤ Cache.lastStamp)
    (hroom : (successes k t.visits).length ≤
      ((Service.fresh policy holdersCapacity abiCapacity).cache k).capacity)
    (x : Subject) (v : k.Value) :
    (t.session.service.cache k).value? x = some v ↔ (x, v) ∈ successes k t.visits := by
  have ha := h.accounts hu
  have hgiven := h.perm_given k
  rw [← hgiven.mem_iff, h.replays.service]
  apply ha.tracks.value?_eq_some_iff_mem (h.nodup_given hs ht k)
  rwa [hgiven.length_eq, ha.capacity]

end Settled

/-- Two ways to settle the same requests lead to the same visits and the same counts in
both caches, and to the same values where there is room for all of them. -/
theorem Reachable.agree {t' : Traffic} (hs : source.Separate seqs)
    (h : Reachable source policy holdersCapacity abiCapacity t) (ht : t.Settled)
    (h' : Reachable source policy holdersCapacity abiCapacity t') (ht' : t'.Settled)
    (hperm : (t'.flights.map Flight.request).Perm (t.flights.map Flight.request))
    (hlength : t.flights.length < Nat.pow 2 63) :
    t'.visits.Perm t.visits ∧
      ∀ k, (t'.session.service.cache k).stats = (t.session.service.cache k).stats ∧
        ((successes k t.visits).length ≤
            ((Service.fresh policy holdersCapacity abiCapacity).cache k).capacity →
          ∀ x, (t'.session.service.cache k).value? x = (t.session.service.cache k).value? x) := by
  have hvisits : t'.visits.Perm t.visits := by
    rw [h.visits_eq_of_settled hs ht, h'.visits_eq_of_settled hs ht']
    exact hperm.map _
  have hlength' : t'.flights.length = t.flights.length := by
    simpa only [List.length_map] using hperm.length_eq
  have hlast : Cache.lastStamp = 2 * Nat.pow 2 63 - 1 := rfl
  refine ⟨hvisits, fun k => ?_⟩
  have hsuccesses : (successes k t'.visits).Perm (successes k t.visits) :=
    hvisits.filterMap _
  have hu : t.history.uses k ≤ Cache.lastStamp := (h.uses_le k).trans (by omega)
  have hu' : t'.history.uses k ≤ Cache.lastStamp := (h'.uses_le k).trans (by omega)
  obtain ⟨hhits, hmisses, hheld, hevictions, hcapacity⟩ := h.counts_of_settled hs ht k hu
  obtain ⟨hhits', hmisses', hheld', hevictions', hcapacity'⟩ := h'.counts_of_settled hs ht' k hu'
  rw [hperm.countP_eq] at hmisses'
  rw [hsuccesses.length_eq] at hheld' hevictions'
  refine ⟨?_, fun hroom x => ?_⟩
  · simp only [Cache.stats, hhits, hmisses, hheld, hevictions, hcapacity, hhits', hmisses', hheld',
      hevictions', hcapacity']
  · have hroom' := hsuccesses.length_eq.trans_le hroom
    apply Option.ext
    intro v
    rw [h.value?_of_settled hs ht k hu hroom, h'.value?_of_settled hs ht' k hu' hroom',
      hsuccesses.mem_iff]

end Traffic

open Traffic in
/-- Different requests at a source that is separate for each of them, and a state in which
all have their answers, reached by any order of their steps. If they come one after
another, in any order, each has the same answer after the same calls; the statistics of
both caches are the same; and so are all keys and values of a cache that has room for the
successes of its kind. -/
theorem separate_requests_commute [Timer] {source : Source} {seqs : OutcomeSeqs}
    (hs : source.Separate seqs) {policy : RetryPolicy} {holdersCapacity abiCapacity : Nat}
    {t : Traffic} (h : Reachable source policy holdersCapacity abiCapacity t)
    (hdistinct : t.Distinct) (hdone : t.Done) (hlength : t.flights.length < Nat.pow 2 63)
    {requests : List Request} (hperm : requests.Perm (t.flights.map Flight.request)) :
    let fresh := Service.fresh policy holdersCapacity abiCapacity
    let row := (Session.start fresh).visits source requests
    row.1.Perm t.visits ∧
      ∀ k, (row.2.service.cache k).stats = (t.session.service.cache k).stats ∧
        ((successes k row.1).length ≤ (fresh.cache k).capacity →
          ∀ x, (row.2.service.cache k).value? x = (t.session.service.cache k).value? x) := by
  intro fresh row
  obtain ⟨t', h', hsession, hrequests, hdone', hvisits⟩ :=
    exists_reachable_visits source policy holdersCapacity abiCapacity requests
  have hperm' : (t'.flights.map Flight.request).Perm (t.flights.map Flight.request) := by
    rw [hrequests]
    exact requests.reverse_perm.trans hperm
  have hdistinct' : t'.Distinct := hperm'.nodup_iff.mpr hdistinct
  obtain ⟨hsame, hcaches⟩ := h.agree hs ⟨hdistinct, hdone⟩ h' ⟨hdistinct', hdone'⟩ hperm' hlength
  have hrow : row.1.Perm t.visits := by
    rw [hvisits] at hsame
    exact row.1.reverse_perm.symm.trans hsame
  rw [hsession] at hcaches
  refine ⟨hrow, fun k => ⟨(hcaches k).1, fun hroom => (hcaches k).2 ?_⟩⟩
  exact (hrow.filterMap _).length_eq.symm.trans_le hroom

theorem separate_requests_commute_of_turns :
    ∃ (_ : Timer) (source : Source) (seqs : OutcomeSeqs) (t : Traffic) (r r' : Request),
      source.Separate seqs ∧ t.Reachable source .never 1 1 ∧ t.Distinct ∧ t.Done ∧
      t.flights.length < Nat.pow 2 63 ∧ [r', r].Perm (t.flights.map Flight.request) ∧
      ((Session.start (.fresh .never 1 1)).visits source [r', r]).1.Perm t.visits := by
  let timer := Timer.millis
  let source := Source.fixed ["0x2"] .null
  let seqs : OutcomeSeqs := fun k x _ => (source [] k x).outcome
  let r : Request := ⟨.holders, "eth", "0x1"⟩
  let r' : Request := ⟨.abi, "eth", "0x1"⟩
  have hs : source.Separate seqs := fun past k x => by cases k <;> rfl
  have h₁ : Traffic.Reachable source .never 1 1
      (((Traffic.start .never 1 1).arrive r).arrive r') :=
    (Relation.ReflTransGen.single (.arrive r)).tail (.arrive r')
  have h₂ := h₁.tail (.move 0 (.start 0 r) rfl rfl)
  have hfirst : (((Traffic.start .never 1 1).arrive r).arrive r').move source 0 (.start 0 r) = _ :=
    Traffic.move_of_missing rfl rfl (by exact Cache.value?_empty _ _)
  rw [hfirst] at h₂
  have h₃ := h₂.tail (.move 1 (.start 0 r') rfl rfl)
  rw [Traffic.move_of_missing (n := .eth) rfl rfl
    (by exact (Service.value?_begin _ _ _ _ _ _).trans (Cache.value?_empty _ _))] at h₃
  -- each makes its call, hears its outcome and stores it, in turn with the other
  have h₄ := ((h₃.tail (.move 0 _ rfl rfl)).tail (.move 1 _ rfl rfl)).tail (.move 0 _ rfl rfl)
  have h₅ := ((h₄.tail (.move 1 _ rfl rfl)).tail (.move 0 _ rfl rfl)).tail (.move 1 _ rfl rfl)
  have hdistinct : [r, r'].Nodup := by decide
  have hswap : [r', r].Perm [r, r'] := List.Perm.swap r r' []
  have hcommute := separate_requests_commute hs h₅ hdistinct (by decide) (by decide) hswap
  exact ⟨timer, source, seqs, _, r, r', hs, h₅, hdistinct, by decide, by decide, hswap, hcommute.1⟩

end ExplorerProxy
