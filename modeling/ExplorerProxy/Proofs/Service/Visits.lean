import ExplorerProxy.Proofs.Cache.Latest
import ExplorerProxy.Proofs.Service.Lookups
import ExplorerProxy.Service.Flight

/-!
# Requests one after another

Each request is answered before the next one comes. Whether one is answered without a
call can be told from the answers given so far: its subject must have had a success,
and fewer other subjects than there is room for may have had one since. Failures and
requests of the other kind do not matter.
-/

namespace ExplorerProxy

set_option autoImplicit false

structure Visit where
  request : Request
  answer : Except FetchError request.kind.Value
  calls : List Call

/-- The subject and the value of a visit of a kind that was a success. -/
def Visit.success? (k : Kind) (x : Visit) : Option (Subject × k.Value) :=
  match Network.ofTag? x.request.network, x.answer with
  | some n, .ok v => if h : x.request.kind = k then some (⟨n, x.request.address⟩, h ▸ v) else none
  | _, _ => none

/-- The successes of a kind, in the order of the visits. -/
def successes (k : Kind) (visits : List Visit) : List (Subject × k.Value) :=
  visits.filterMap (Visit.success? k)

section Success

variable {r : Request} {answer : Except FetchError r.kind.Value} {calls : List Call}

theorem Visit.success?_of_ne {k : Kind} (h : r.kind ≠ k) :
    Visit.success? k ⟨r, answer, calls⟩ = none := by
  simp only [Visit.success?, dif_neg h]
  split <;> rfl

theorem Visit.success?_of_unknown (k : Kind) (h : Network.ofTag? r.network = none) :
    Visit.success? k ⟨r, answer, calls⟩ = none := by
  simp only [Visit.success?, h]

theorem Visit.success?_of_error (k : Kind) {e : FetchError} (h : answer = .error e) :
    Visit.success? k ⟨r, answer, calls⟩ = none := by
  subst h
  simp only [Visit.success?]
  split <;> first | rfl | contradiction

theorem Visit.success?_of_ok {n : Network} (h : Network.ofTag? r.network = some n)
    {v : r.kind.Value} (hv : answer = .ok v) :
    Visit.success? r.kind ⟨r, answer, calls⟩ = some (⟨n, r.address⟩, v) := by
  subst hv
  simp only [Visit.success?, h, dif_pos]

end Success

theorem successes_cons (k : Kind) (x : Visit) (visits : List Visit) :
    successes k (x :: visits) = (x.success? k).toList ++ successes k visits := by
  rw [successes, List.filterMap_cons]
  cases x.success? k <;> rfl

namespace Session

variable [Timer]

def visit (source : Source) (w : Session) (r : Request) :
    Outcome (Except FetchError r.kind.Value) :=
  w.lookup source r.kind r.network r.address

def visits (source : Source) (w : Session) : List Request → List Visit × Session
  | [] => ([], w)
  | r :: earlier =>
    let before := visits source w earlier
    let one := before.2.visit source r
    (⟨r, one.answer, one.calls⟩ :: before.1, one.session)

variable {w : Session}

/-- A request that is a success gives its subject a value, and no other does anything
that the latest values tell. -/
theorem tracks_visit (source : Source) {k : Kind} {h : List (Subject × k.Value)} {n : Nat}
    (hw : (w.service.cache k).Tracks h n) (hn : n + 1 < Cache.lastStamp) (r : Request) :
    ((w.visit source r).session.service.cache k).Tracks
      ((Visit.success? k ⟨r, (w.visit source r).answer, (w.visit source r).calls⟩).toList ++ h)
      (n + 2) := by
  unfold visit
  by_cases hk : r.kind = k
  · subst hk
    have hlt : n < Cache.lastStamp := by omega
    cases htag : Network.ofTag? r.network with
    | none =>
      rw [Visit.success?_of_unknown _ htag, (lookup_of_unknown source w _ htag).2.2]
      exact hw.mono (by omega)
    | some net =>
      cases hv : (w.service.cache r.kind).value? ⟨net, r.address⟩ with
      | some v =>
        obtain ⟨hanswer, _, hsession⟩ := lookup_of_held source w r.kind htag hv
        rw [Visit.success?_of_ok htag hanswer, hsession, Service.cache_withCache_self]
        exact (hw.get_of_some hlt hv).mono (by omega)
      | none =>
        obtain ⟨hanswer, _, hsession⟩ := lookup_of_missing source w r.kind htag hv
        have hget := hw.get_of_none hlt hv
        cases hrun : (w.attempts source r.kind ⟨net, r.address⟩).result with
        | error e =>
          rw [hrun] at hanswer hsession
          rw [Visit.success?_of_error _ hanswer, hsession]
          refine Cache.Tracks.mono ?_ (Nat.le_succ (n + 1))
          rwa [Service.conclude, Service.cache_withCache_self]
        | ok v =>
          rw [hrun] at hanswer hsession
          rw [Visit.success?_of_ok htag hanswer, hsession, Service.conclude, Service.store,
            Service.cache_withCache_self, Service.cache_withCache_self]
          exact hget.insert hn ⟨net, r.address⟩ v
  · rw [Visit.success?_of_ne hk, lookup_cache_of_ne source w r.kind (Ne.symm hk)]
    exact hw.mono (by omega)

theorem tracks_visits (source : Source) {k : Kind} (hw : (w.service.cache k).Tracks [] 0)
    (requests : List Request) (hn : requests.length < Nat.pow 2 63) :
    ((w.visits source requests).2.service.cache k).Tracks
      (successes k (w.visits source requests).1) (2 * requests.length) := by
  induction requests with
  | nil => exact hw
  | cons r earlier ih =>
    rw [List.length_cons] at hn ⊢
    have hlast : Cache.lastStamp = 2 * Nat.pow 2 63 - 1 := rfl
    rw [visits, successes_cons]
    exact tracks_visit source (ih (by omega)) (by omega) r

theorem capacity_visits (source : Source) (w : Session) (requests : List Request) (k : Kind) :
    ((w.visits source requests).2.service.cache k).capacity = (w.service.cache k).capacity := by
  induction requests with
  | nil => rfl
  | cons r earlier ih => exact (capacity_lookup source _ r.kind _ _ k).trans ih

end Session

/-- A request is answered without a call if and only if its subject had a success of its
kind and, since the latest one, fewer distinct other subjects had one than the cache of
the kind has room for. The answer is then the value of that latest success. -/
theorem visit_calls_eq_nil_iff [Timer] (source : Source) (policy : RetryPolicy)
    (holdersCapacity abiCapacity : Nat) (earlier : List Request) (r : Request) {n : Network}
    (hn : Network.ofTag? r.network = some n) (hlen : earlier.length + 1 < Nat.pow 2 63) :
    let fresh := Service.fresh policy holdersCapacity abiCapacity
    let before := (Session.start fresh).visits source earlier
    let given := successes r.kind before.1
    let capacity := (fresh.cache r.kind).capacity
    ((before.2.visit source r).calls = [] ↔
        ∃ v, GivenWithin capacity given ⟨n, r.address⟩ v) ∧
      ∀ v, GivenWithin capacity given ⟨n, r.address⟩ v →
        (before.2.visit source r).answer = .ok v := by
  intro fresh before given capacity
  have hempty : (fresh.cache r.kind).Tracks [] 0 := by
    cases r.kind <;> exact Cache.tracks_empty _
  have htracks : (before.2.service.cache r.kind).Tracks given (2 * earlier.length) :=
    Session.tracks_visits source hempty earlier (by omega)
  have hcap : (before.2.service.cache r.kind).capacity = capacity :=
    Session.capacity_visits source _ earlier r.kind
  have hvalue : ∀ v, (before.2.service.cache r.kind).value? ⟨n, r.address⟩ = some v ↔
      GivenWithin capacity given ⟨n, r.address⟩ v := by
    intro v
    rw [← hcap]
    exact htracks.value?_eq_some _ v
  refine ⟨⟨?_, ?_⟩, ?_⟩
  · intro hcalls
    cases hv : (before.2.service.cache r.kind).value? ⟨n, r.address⟩ with
    | some v => exact ⟨v, (hvalue v).mp hv⟩
    | none => exact absurd hcalls (Session.lookup_of_missing_calls_ne_nil source _ _ hn hv)
  · rintro ⟨v, hv⟩
    exact (Session.lookup_of_held source _ _ hn ((hvalue v).mpr hv)).2.1
  · intro v hv
    exact (Session.lookup_of_held source _ _ hn ((hvalue v).mpr hv)).1

theorem visit_calls_eq_nil_of_again :
    let _ : Timer := .millis
    let source := Source.fixed ["0x2"] .null
    let r : Request := ⟨.holders, "eth", "0x1"⟩
    let before := (Session.start (.fresh .never 1 0)).visits source [r]
    Network.ofTag? r.network = some .eth ∧ [r].length + 1 < Nat.pow 2 63 ∧
      (before.2.visit source r).calls = [] ∧ (before.2.visit source r).answer = .ok ["0x2"] := by
  intro timer source r before
  have hn : Network.ofTag? r.network = some .eth := rfl
  have hlen : [r].length + 1 < Nat.pow 2 63 := by decide
  have hv : ((Session.start (.fresh .never 1 0)).service.cache .holders).value? ⟨.eth, "0x1"⟩ =
      none := Cache.value?_empty _ _
  have hfirst := (Session.lookup_of_missing source _ .holders hn hv).1
  have hgiven : GivenWithin 1 (successes .holders before.1) ⟨.eth, "0x1"⟩ ["0x2"] := by
    refine ⟨[], [], ?_, List.not_mem_nil, Nat.one_pos⟩
    refine (successes_cons _ _ _).trans ?_
    exact congrArg (fun x => x.toList ++ successes .holders []) (Visit.success?_of_ok hn hfirst)
  have hagain := visit_calls_eq_nil_iff source .never 1 0 [r] r hn hlen
  exact ⟨hn, hlen, hagain.1.mpr ⟨_, hgiven⟩, hagain.2 _ hgiven⟩

end ExplorerProxy
