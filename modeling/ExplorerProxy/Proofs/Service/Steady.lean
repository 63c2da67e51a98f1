import ExplorerProxy.Proofs.Retry.Attempts
import ExplorerProxy.Proofs.Service.Lookups
import ExplorerProxy.Proofs.Service.Provenance

/-!
# Steady sources

The outcome of a call to a steady source depends on the kind and the subject of the
call alone; how long a call takes may vary. The caches of a service at a steady source
hold nothing but what the source would say again, so that the answer to a lookup does
not depend on them.
-/

namespace ExplorerProxy

set_option autoImplicit false

abbrev Outcomes : Type := (k : Kind) → Subject → Except FetchError k.Value

def Source.Steady (source : Source) (outcomes : Outcomes) : Prop :=
  ∀ past k subject, (source past k subject).outcome = outcomes k subject

/-- The steady source that answers at once. -/
def Source.ofOutcomes (outcomes : Outcomes) : Source := fun _ k subject =>
  ⟨outcomes k subject, .ofMillis 0, []⟩

theorem Source.steady_ofOutcomes (outcomes : Outcomes) : (ofOutcomes outcomes).Steady outcomes :=
  fun _ _ _ => rfl

/-- The answer to a lookup by a service that keeps nothing and tries nothing again. -/
def Outcomes.answer (outcomes : Outcomes) (k : Kind) (network address : String) :
    Except FetchError k.Value :=
  match Network.ofTag? network with
  | none => .error (.unsupportedNetwork network)
  | some n => outcomes k ⟨n, address⟩

section Answer

variable (outcomes : Outcomes) (k : Kind) {network : String} (address : String)

theorem Outcomes.answer_of_unknown (h : Network.ofTag? network = none) :
    outcomes.answer k network address = .error (.unsupportedNetwork network) := by
  simp only [answer, h]

theorem Outcomes.answer_of_known {n : Network} (h : Network.ofTag? network = some n) :
    outcomes.answer k network address = outcomes k ⟨n, address⟩ := by
  simp only [answer, h]

end Answer

/-- All that is held is what the outcomes say. -/
def Service.Faithful (s : Service) (outcomes : Outcomes) : Prop :=
  ∀ k subject v, (s.cache k).value? subject = some v → outcomes k subject = .ok v

namespace Service

variable {s : Service} {outcomes : Outcomes}

theorem faithful_fresh (policy : RetryPolicy) (holdersCapacity abiCapacity : Nat) :
    (fresh policy holdersCapacity abiCapacity).Faithful outcomes := by
  intro k subject v hv
  cases k <;> exact absurd hv (by simp [fresh, cache])

theorem Faithful.get (h : s.Faithful outcomes) (k : Kind) (x : Subject) :
    (s.withCache k ((s.cache k).get x).2).Faithful outcomes := by
  intro j subject v hv
  apply h j subject v
  refine Eq.trans ?_ hv
  refine cache_withCache s k j _
    (fun i c => (s.cache i).value? subject = c.value? subject) ?_ fun _ => rfl
  exact (Cache.value?_get _ _ _).symm

theorem Faithful.store (h : s.Faithful outcomes) {k : Kind} {x : Subject} {v : k.Value}
    (hv : outcomes k x = .ok v) : (s.store k x v).Faithful outcomes := by
  intro j subject w hw
  by_cases hcap : (s.cache k).capacity = 0
  · rw [store_of_capacity_zero _ _ _ _ hcap] at hw
    exact h j subject w hw
  · by_cases hsame : j = k ∧ subject = x
    · obtain ⟨rfl, rfl⟩ := hsame
      rw [value?_store_self _ _ _ _ hcap] at hw
      rw [hv, Option.some.inj hw]
    · exact h j subject w (value?_of_store _ _ _ _ hsame hw)

theorem Faithful.conclude (h : s.Faithful outcomes) (k : Kind) (x : Subject) :
    (s.conclude k x (outcomes k x)).Faithful outcomes := by
  cases hv : outcomes k x with
  | error e => exact h
  | ok v => exact h.store hv

end Service

namespace Session

variable {source : Source} {outcomes : Outcomes} {w : Session}

theorem faithful_start (policy : RetryPolicy) (holdersCapacity abiCapacity : Nat) :
    (start (.fresh policy holdersCapacity abiCapacity)).service.Faithful outcomes :=
  Service.faithful_fresh policy holdersCapacity abiCapacity

theorem attempts_of_steady (hs : source.Steady outcomes) (w : Session) (k : Kind)
    (subject : Subject) : (w.attempts source k subject).result = outcomes k subject := by
  obtain ⟨last, _, hresult, _⟩ := w.service.policy.run_spec FetchError.isTransient
    fun i => (w.reply source k subject i).outcome
  exact hresult.trans (hs _ k subject)

theorem lookup_of_steady [Timer] (hs : source.Steady outcomes) (hw : w.service.Faithful outcomes)
    (k : Kind) (network address : String) :
    (w.lookup source k network address).answer = outcomes.answer k network address ∧
      (w.lookup source k network address).session.service.Faithful outcomes := by
  cases hn : Network.ofTag? network with
  | none =>
    obtain ⟨hanswer, _, hsession⟩ := lookup_of_unknown source w k hn
    rw [hanswer, hsession, outcomes.answer_of_unknown k address hn]
    exact ⟨rfl, hw⟩
  | some n =>
    rw [outcomes.answer_of_known k address hn]
    cases hv : (w.service.cache k).value? ⟨n, address⟩ with
    | some v =>
      obtain ⟨hanswer, _, hsession⟩ := lookup_of_held source w k hn hv
      rw [hanswer, hsession, hw k _ v hv]
      exact ⟨rfl, hw.get k _⟩
    | none =>
      obtain ⟨hanswer, _, hsession⟩ := lookup_of_missing source w k hn hv
      rw [hanswer, hsession, attempts_of_steady hs]
      exact ⟨rfl, (hw.get k _).conclude k _⟩

end Session

theorem History.Sound.outcome_eq {source : Source} {h : History} (hs : h.Sound source) {i : Nat}
    {k : Kind} {subject : Subject} {outcome : Except FetchError k.Value}
    (hheard : (i, .heard k subject outcome) ∈ h) :
    ∃ past, (source past k subject).outcome = outcome := by
  obtain ⟨later, earlier, rfl⟩ := List.append_of_mem hheard
  obtain ⟨past, _, hpast⟩ := hs.split
  exact ⟨past, hpast⟩

theorem LatestStored.outcome_eq {source : Source} {h : History} {k : Kind} {subject : Subject}
    {v : k.Value} (hv : LatestStored source h k subject v) :
    ∃ past, (source past k subject).outcome = .ok v := by
  obtain ⟨_, _, _, _, _, _, _, past, _, hpast⟩ := hv
  exact ⟨past, hpast⟩

/-- Whatever the order of the steps, a request at a steady source is answered as it would
be without caches. -/
theorem Traffic.Consistent.answer_eq {source : Source} {outcomes : Outcomes} {t : Traffic}
    (h : Consistent source t) (hs : source.Steady outcomes) {i : Nat} {f : Flight}
    (hf : t.flights[i]? = some f) {a : Except FetchError f.request.kind.Value}
    (hp : f.phase = .answered a) :
    a = outcomes.answer f.request.kind f.request.network f.request.address := by
  have hsound := h.flights i f hf
  simp only [Flight.Sound, hp] at hsound
  obtain ⟨later, earlier, hsplit⟩ := List.append_of_mem hsound
  have hjustified := h.history
  rw [hsplit] at hjustified
  replace hjustified := hjustified.split
  rcases a with e | v
  · rcases hjustified with ⟨hn, rfl⟩ | ⟨subject, ⟨hn, haddress⟩, hheard⟩
    · rw [outcomes.answer_of_unknown _ _ hn]
    · have hmem : (i, .heard f.request.kind subject (.error e)) ∈ t.history := by
        rw [hsplit]
        exact List.mem_append_right _ (List.mem_cons_of_mem _ hheard)
      obtain ⟨past, hpast⟩ := h.history.outcome_eq hmem
      rw [outcomes.answer_of_known _ _ hn, haddress, ← hs past, hpast]
  · obtain ⟨subject, ⟨hn, haddress⟩, hlatest⟩ := hjustified
    obtain ⟨past, hpast⟩ := hlatest.outcome_eq
    rw [outcomes.answer_of_known _ _ hn, haddress, ← hs past, hpast]

end ExplorerProxy
