import ExplorerProxy.Proofs.Api.Exchange
import ExplorerProxy.Proofs.Service.Lookups

/-!
# The kinds do not interfere

At a source whose answers to the calls of a kind depend on no calls of the other, the
lookups of a kind see nothing of all other requests: what comes to a client, the calls
made for it and the statistics of the kind are those of a service that got the requests
for the kind alone.
-/

namespace ExplorerProxy

set_option autoImplicit false

def callsOf (k : Kind) (past : List Call) : List Call := past.filter fun c => c.kind = k

/-- What a call comes to depends on the earlier calls of its own kind only. -/
def Source.KindsApart (source : Source) : Prop :=
  ∀ past past' k subject, callsOf k past = callsOf k past' →
    (source past k subject).outcome = (source past' k subject).outcome

theorem callsOf_replicate_append (k : Kind) (n : Nat) (c : Call) (past : List Call) :
    callsOf k (List.replicate n c ++ past) =
      (if c.kind = k then List.replicate n c else []) ++ callsOf k past := by
  rw [callsOf, List.filter_append, List.filter_replicate]
  simp only [decide_eq_true_eq]
  rfl

/-- Two sessions are the same for all that lookups of a kind can see. -/
structure Session.Agree (k : Kind) (w w' : Session) : Prop where
  policy : w.service.policy = w'.service.policy
  cache : w.service.cache k = w'.service.cache k
  past : callsOf k w.past = callsOf k w'.past

namespace Session

variable {source : Source} {k : Kind} {w w' w'' : Session}

theorem Agree.refl (w : Session) : Agree k w w := ⟨rfl, rfl, rfl⟩

theorem Agree.symm (h : Agree k w w') : Agree k w' w := ⟨h.policy.symm, h.cache.symm, h.past.symm⟩

theorem Agree.trans (h : Agree k w w') (h' : Agree k w' w'') : Agree k w w'' :=
  ⟨h.policy.trans h'.policy, h.cache.trans h'.cache, h.past.trans h'.past⟩

theorem Agree.attempts_eq (hs : source.KindsApart) (h : Agree k w w') (subject : Subject) :
    w.attempts source k subject = w'.attempts source k subject := by
  rw [attempts, attempts, h.policy]
  congr 1
  funext i
  apply hs
  rw [callsOf_replicate_append, callsOf_replicate_append, h.past]

variable [Timer]

theorem policy_lookup (source : Source) (w : Session) (j : Kind) (network address : String) :
    (w.lookup source j network address).session.service.policy = w.service.policy := by
  cases hn : Network.ofTag? network with
  | none => rw [(lookup_of_unknown source w j hn).2.2]
  | some n =>
    cases hv : (w.service.cache j).value? ⟨n, address⟩ with
    | some v =>
      rw [(lookup_of_held source w j hn hv).2.2]
      exact Service.policy_withCache _ _ _
    | none =>
      rw [(lookup_of_missing source w j hn hv).2.2, Service.conclude.eq_def]
      split
      · exact (Service.policy_withCache _ _ _).trans (Service.policy_withCache _ _ _)
      · exact Service.policy_withCache _ _ _

theorem agree_lookup_of_ne (source : Source) (w : Session) {j : Kind} (hj : j ≠ k)
    (network address : String) : Agree k w (w.lookup source j network address).session where
  policy := (policy_lookup source w j network address).symm
  cache := (lookup_cache_of_ne source w j hj.symm network address).symm
  past := by
    cases hn : Network.ofTag? network with
    | none => rw [(lookup_of_unknown source w j hn).2.2]
    | some n =>
      cases hv : (w.service.cache j).value? ⟨n, address⟩ with
      | some v => rw [(lookup_of_held source w j hn hv).2.2]
      | none =>
        rw [(lookup_of_missing source w j hn hv).2.2, callsOf_replicate_append, if_neg hj]
        rfl

section Apart

variable (hs : source.KindsApart) (h : Agree k w w')
include hs h

theorem Agree.lookup (network address : String) :
    (w.lookup source k network address).answer = (w'.lookup source k network address).answer ∧
      (w.lookup source k network address).calls = (w'.lookup source k network address).calls ∧
      Agree k (w.lookup source k network address).session
        (w'.lookup source k network address).session := by
  cases hn : Network.ofTag? network with
  | none =>
    obtain ⟨hanswer, hcalls, hsession⟩ := lookup_of_unknown source w k hn
    obtain ⟨hanswer', hcalls', hsession'⟩ := lookup_of_unknown source w' k hn
    rw [hsession, hsession']
    exact ⟨hanswer.trans hanswer'.symm, hcalls.trans hcalls'.symm, h⟩
  | some n =>
    cases hv : (w.service.cache k).value? ⟨n, address⟩ with
    | some v =>
      have hv' := h.cache ▸ hv
      obtain ⟨hanswer, hcalls, hsession⟩ := lookup_of_held source w k hn hv
      obtain ⟨hanswer', hcalls', hsession'⟩ := lookup_of_held source w' k hn hv'
      refine ⟨hanswer.trans hanswer'.symm, hcalls.trans hcalls'.symm, ?_⟩
      rw [hsession, hsession']
      refine ⟨?_, ?_, h.past⟩
      · rw [Service.policy_withCache, Service.policy_withCache, h.policy]
      · rw [Service.cache_withCache_self, Service.cache_withCache_self, h.cache]
    | none =>
      have hv' := h.cache ▸ hv
      obtain ⟨hanswer, hcalls, hsession⟩ := lookup_of_missing source w k hn hv
      obtain ⟨hanswer', hcalls', hsession'⟩ := lookup_of_missing source w' k hn hv'
      have hattempts := h.attempts_eq hs ⟨n, address⟩
      refine ⟨?_, ?_, ?_, ?_, ?_⟩
      · rw [hanswer, hanswer', hattempts]
      · rw [hcalls, hcalls', hattempts]
      · rw [policy_lookup, policy_lookup, h.policy]
      · rw [hsession, hsession', hattempts, Service.conclude.eq_def, Service.conclude.eq_def]
        split
        · simp only [Service.store, Service.cache_withCache_self, h.cache]
        · rw [Service.cache_withCache_self, Service.cache_withCache_self, h.cache]
      · rw [hsession, hsession', hattempts, callsOf_replicate_append, callsOf_replicate_append,
          h.past]

end Apart

end Session

/-- The statistics of one of the caches. -/
def ServiceStats.half (s : ServiceStats) : Kind → CacheStats
  | .holders => s.holders
  | .abi => s.abi

theorem Service.half_stats (s : Service) (k : Kind) : s.stats.half k = (s.cache k).stats := by
  cases k <;> rfl

namespace Api

structure Served where
  method : String
  target : String
  response : Response
  calls : List Call

/-- A target asks for a lookup of a kind on a network that is known. -/
def AsksFor (k : Kind) (target : String) : Bool :=
  match (Route.ofPath? (pathOf target.toList)).bind Route.request? with
  | some r => r.kind = k && (Network.ofTag? r.network).isSome
  | none => false

theorem asksFor_of_lookup {method target : String} {r : Request}
    (h : lookupOf? method target = some r) (k : Kind) :
    AsksFor k target = (decide (r.kind = k) && (Network.ofTag? r.network).isSome) := by
  unfold lookupOf? at h
  split at h
  · rw [AsksFor, h]
  · cases h

section Serving

variable [Timer]

/-- Requests that come one after another, with the responses and the calls made for them. -/
def serve (source : Source) (w : Session) : List (String × String) → List Served × Session
  | [] => ([], w)
  | (method, target) :: more =>
    let one := handle source w method target
    let rest := serve source one.session more
    (⟨method, target, one.answer, one.calls⟩ :: rest.1, rest.2)

section Handle

variable {source : Source} {k : Kind} {w w' : Session} {target : String}

theorem calls_handle_of_lookup (source : Source) (w : Session) {method : String} {r : Request}
    (h : lookupOf? method target = some r) :
    (handle source w method target).calls = (w.lookup source r.kind r.network r.address).calls := by
  unfold lookupOf? at h
  split at h
  · rename_i hmethod
    obtain ⟨route, hroute, hrequest⟩ := Option.bind_eq_some_iff.mp h
    cases route with
    | health => cases hrequest
    | stats => cases hrequest
    | lookup j network address =>
      simp only [Route.request?] at hrequest
      split at hrequest
      · cases hrequest
      · rename_i hdecode
        obtain rfl := Option.some.inj hrequest
        rcases hmethod with rfl | rfl
        · simp only [handle, hroute, if_true, handleRoute, handleLookup, hdecode]
        · simp only [handle, hroute, if_true, handleRoute, handleLookup, hdecode]
          rfl
  · cases h

theorem calls_handle_of_no_lookup (source : Source) (w : Session) {method : String}
    (h : lookupOf? method target = none) : (handle source w method target).calls = [] := by
  cases hroute : Route.ofPath? (pathOf target.toList) with
  | none => simp only [handle, hroute]
  | some route =>
    have hcalls : method = "GET" ∨ method = "HEAD" → (handleRoute source w route).calls = [] := by
      intro hmethod
      rw [lookupOf?, if_pos hmethod, hroute, Option.bind_some] at h
      cases route with
      | health => rfl
      | stats => rfl
      | lookup j network address =>
        simp only [Route.request?] at h
        split at h
        · rename_i hdecode
          simp only [handleRoute, handleLookup, hdecode]
        · cases h
    simp only [handle, hroute]
    split
    · exact hcalls (Or.inl ‹_›)
    · split
      · exact hcalls (Or.inr ‹_›)
      · rfl

theorem agree_handle_of_not_asksFor (source : Source) (w : Session) (method : String)
    (h : AsksFor k target = false) : Session.Agree k w (handle source w method target).session := by
  cases hlookup : lookupOf? method target with
  | none =>
    rw [(handle_of_no_lookup source w hlookup).1]
    exact .refl w
  | some r =>
    rw [(handle_of_lookup source w hlookup).2]
    by_cases hk : r.kind = k
    · have hunknown : Network.ofTag? r.network = none := by
        simpa [asksFor_of_lookup hlookup, hk] using h
      rw [(Session.lookup_of_unknown source w r.kind hunknown).2.2]
      exact .refl w
    · exact Session.agree_lookup_of_ne source w hk r.network r.address

theorem handle_of_asksFor (hs : source.KindsApart) (h : Session.Agree k w w') (method : String)
    (hasks : AsksFor k target = true) :
    (handle source w method target).answer = (handle source w' method target).answer ∧
      (handle source w method target).calls = (handle source w' method target).calls ∧
      Session.Agree k (handle source w method target).session
        (handle source w' method target).session := by
  cases hlookup : lookupOf? method target with
  | none =>
    -- the method is not one that looks anything up
    have hstats : ¬ AsksForStats method target := by
      rintro ⟨_, hroute⟩
      rw [AsksFor, hroute] at hasks
      cases hasks
    obtain ⟨hsession, hsame⟩ := handle_of_no_lookup source w hlookup
    rw [hsession, (handle_of_no_lookup source w' hlookup).1, calls_handle_of_no_lookup _ _ hlookup,
      calls_handle_of_no_lookup _ _ hlookup]
    exact ⟨(hsame hstats source w').symm, rfl, h⟩
  | some r =>
    obtain ⟨rfl, _⟩ : r.kind = k ∧ (Network.ofTag? r.network).isSome = true := by
      simpa [asksFor_of_lookup hlookup] using hasks
    obtain ⟨hanswer, hsession⟩ := handle_of_lookup source w hlookup
    obtain ⟨hanswer', hsession'⟩ := handle_of_lookup source w' hlookup
    obtain ⟨hsame, hcalls, hagree⟩ := h.lookup hs r.network r.address
    rw [hanswer, hanswer', hsession, hsession', calls_handle_of_lookup source w hlookup,
      calls_handle_of_lookup source w' hlookup]
    exact ⟨congrArg _ (congrArg _ hsame), hcalls, hagree⟩

end Handle

theorem serve_of_agree {source : Source} (hs : source.KindsApart) {k : Kind} {w w' : Session}
    (h : Session.Agree k w w') (requests : List (String × String)) :
    (serve source w requests).1.filter (fun x => AsksFor k x.target) =
        (serve source w' (requests.filter fun q => AsksFor k q.2)).1 ∧
      Session.Agree k (serve source w requests).2
        (serve source w' (requests.filter fun q => AsksFor k q.2)).2 := by
  induction requests generalizing w w' with
  | nil => exact ⟨rfl, h⟩
  | cons request more ih =>
    obtain ⟨method, target⟩ := request
    cases hasks : AsksFor k target with
    | false =>
      have hagree := agree_handle_of_not_asksFor source w method hasks
      obtain ⟨hserved, hend⟩ := ih (hagree.symm.trans h)
      rw [List.filter_cons_of_neg (by simp [hasks])]
      refine ⟨?_, hend⟩
      rw [serve, List.filter_cons_of_neg (by simp [hasks])]
      exact hserved
    | true =>
      obtain ⟨hanswer, hcalls, hagree⟩ := handle_of_asksFor hs h method hasks
      obtain ⟨hserved, hend⟩ := ih hagree
      rw [List.filter_cons_of_pos (by simp [hasks])]
      refine ⟨?_, hend⟩
      rw [serve, List.filter_cons_of_pos (by simp [hasks]), hserved, hanswer, hcalls]
      rfl

/-- Without all requests but those for lookups of a kind on known networks, each of these
gets the same response after the same calls, and the statistics of the kind are the
same in the end. -/
theorem serve_filter_asksFor {source : Source} (hs : source.KindsApart) (w : Session) (k : Kind)
    (requests : List (String × String)) :
    let all := serve source w requests
    let own := serve source w (requests.filter fun q => AsksFor k q.2)
    all.1.filter (fun x => AsksFor k x.target) = own.1 ∧
      all.2.service.stats.half k = own.2.service.stats.half k := by
  obtain ⟨hserved, hend⟩ := serve_of_agree hs (.refl w) requests
  refine ⟨hserved, ?_⟩
  rw [Service.half_stats, Service.half_stats, hend.cache]

end Serving

/-- Requests of all sorts, at a source that counts the calls of each kind. -/
theorem serve_filter_asksFor_of_mixed :
    let _ : Timer := .millis
    let source : Source := fun past k _ =>
      match k with
      | .holders => ⟨.ok (List.replicate (callsOf .holders past).length "0x2"), .ofMillis 0, []⟩
      | .abi => ⟨if callsOf .abi past = [] then .error .noClient else .ok .null, .ofMillis 0, []⟩
    let w := Session.start (.fresh .never 1 1)
    let requests := [("GET", "/abi/eth/0x1"), ("GET", "/holders/eth/0x1"), ("GET", "/stats"),
      ("GET", "/holders/none/0x1"), ("GET", "/holders/bsc/%ff"), ("GET", "/holders/bsc/0x1")]
    let own := [("GET", "/holders/eth/0x1"), ("GET", "/holders/bsc/0x1")]
    source.KindsApart ∧
      (serve source w requests).1.filter (fun x => AsksFor .holders x.target) =
        (serve source w own).1 ∧
      (serve source w requests).2.service.stats.half .holders =
        (serve source w own).2.service.stats.half .holders := by
  intro timer source w requests own
  have hs : source.KindsApart := by
    intro past past' k subject h
    cases k with
    | holders => simp only [source, h]
    | abi => simp only [source, h]
  have hown : (requests.filter fun q => AsksFor .holders q.2) = own := by decide +kernel
  have hmain := serve_filter_asksFor hs w .holders requests
  rw [hown] at hmain
  exact ⟨hs, hmain⟩

end Api

end ExplorerProxy
