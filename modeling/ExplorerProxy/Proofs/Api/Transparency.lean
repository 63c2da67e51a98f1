import ExplorerProxy.Proofs.Api.Exchange
import ExplorerProxy.Proofs.Service.Steady
import Mathlib.Control.Monad.Basic

/-!
# Caches do not show

At a steady source the caches change how often the source is asked, and nothing else
that a client can see: but for the statistics, each response is the one that a proxy
would give that keeps nothing. This is so for requests one after another and for
requests side by side.
-/

namespace ExplorerProxy

set_option autoImplicit false

theorem Flight.request_move [Timer] (source : Source) (w : Session) (f : Flight) :
    (f.move source w).answer.request = f.request := by
  obtain ⟨request, phase, reply?, due⟩ := f
  cases phase with
  | calling subject attempt => cases reply? <;> rfl
  | _ => rfl

namespace Traffic

variable [Timer] {source : Source} {t t' : Traffic}

theorem Step.request_eq (h : Step source t t') {i : Nat} {f : Flight}
    (hf : t.flights[i]? = some f) : ∃ f', t'.flights[i]? = some f' ∧ f'.request = f.request := by
  have hlt : i < t.flights.length := (List.getElem?_eq_some_iff.mp hf).1
  -- a step of request number `j` puts something in its place
  have hset : ∀ (j : Nat) (g g' : Flight), t.flights[j]? = some g → g'.request = g.request →
      ∃ f', (t.flights.set j g')[i]? = some f' ∧ f'.request = f.request := by
    intro j g g' hg hrequest
    by_cases hij : j = i
    · subst hij
      obtain rfl := Option.some.inj (hf.symm.trans hg)
      exact ⟨g', List.getElem?_set_self hlt, hrequest⟩
    · exact ⟨f, (List.getElem?_set_ne hij).trans hf, rfl⟩
  cases h with
  | arrive r => exact ⟨f, (List.getElem?_append_left hlt).trans hf, rfl⟩
  | move j g hg _ => exact hset j g _ hg (g.request_move source t.session)
  | drop j g hg _ => exact hset j g _ hg rfl
  | wait now _ => exact ⟨f, hf, rfl⟩

end Traffic

namespace Api

section Responses

variable [Timer]

/-- The response of a proxy that keeps nothing and tries nothing again. -/
def plainResponse (outcomes : Outcomes) (method target : String) : Response :=
  (handle (.ofOutcomes outcomes) (.start (.fresh .never 0 0)) method target).answer

section Steady

variable {source : Source} {outcomes : Outcomes}

theorem plainResponse_of_lookup {method target : String} {r : Request}
    (h : lookupOf? method target = some r) :
    plainResponse outcomes method target =
      sent method (lookupResponse r.kind (outcomes.answer r.kind r.network r.address)) := by
  have hanswer := (Session.lookup_of_steady (Source.steady_ofOutcomes outcomes)
    (Session.faithful_start .never 0 0) r.kind r.network r.address).1
  rw [plainResponse, (handle_of_lookup _ _ h).1, hanswer]

theorem handle_of_steady (hs : source.Steady outcomes) {w : Session}
    (hw : w.service.Faithful outcomes) (method target : String) :
    (¬ AsksForStats method target →
      (handle source w method target).answer = plainResponse outcomes method target) ∧
      (handle source w method target).session.service.Faithful outcomes := by
  cases h : lookupOf? method target with
  | none =>
    obtain ⟨hsession, hsame⟩ := handle_of_no_lookup source w h
    rw [hsession]
    exact ⟨fun hstats => (hsame hstats _ _).symm, hw⟩
  | some r =>
    obtain ⟨hanswer, hsession⟩ := handle_of_lookup source w h
    obtain ⟨hplain, hfaithful⟩ := Session.lookup_of_steady hs hw r.kind r.network r.address
    rw [hanswer, hsession, hplain, plainResponse_of_lookup h]
    exact ⟨fun _ => rfl, hfaithful⟩

theorem responses_of_steady (hs : source.Steady outcomes) {w : Session}
    (hw : w.service.Faithful outcomes) (requests : List (String × String)) (i : Nat)
    {method target : String} (hi : requests[i]? = some (method, target))
    (hstats : ¬ AsksForStats method target) :
    (responses source w requests)[i]? = some (plainResponse outcomes method target) := by
  induction requests generalizing w i with
  | nil => cases hi
  | cons request more ih =>
    obtain ⟨hanswer, hfaithful⟩ := handle_of_steady hs hw request.1 request.2
    cases i with
    | zero =>
      obtain rfl := Option.some.inj hi
      exact congrArg some (hanswer hstats)
    | succ i => exact ih hfaithful i hi

end Steady

namespace Exchange

variable {source : Source} {x : Exchange}

/-- A client was answered at once without a lookup, or waits for the one that its
request leads to. -/
def Placed (source : Source) (x : Exchange) (c : Client) : Prop :=
  match c.place with
  | .answered r => lookupOf? c.method c.target = none ∧
      ∃ w, r = (handle source w c.method c.target).answer
  | .waiting i => ∃ f, x.traffic.flights[i]? = some f ∧
      lookupOf? c.method c.target = some f.request

theorem Placed.step {t : Traffic} (h : Traffic.Step source x.traffic t) {c : Client}
    (hc : x.Placed source c) (clients : List Client) : Placed source ⟨t, clients⟩ c := by
  unfold Placed at hc ⊢
  split
  · rename_i hplace
    rwa [hplace] at hc
  · rename_i i hplace
    rw [hplace] at hc
    obtain ⟨f, hf, hlookup⟩ := hc
    obtain ⟨f', hf', hrequest⟩ := h.request_eq hf
    exact ⟨f', hf', hrequest ▸ hlookup⟩

theorem placed_ask {x : Exchange} (h : ∀ c ∈ x.clients, x.Placed source c)
    (method target : String) :
    ∀ c ∈ (x.ask source method target).clients, (x.ask source method target).Placed source c := by
  intro c hc
  unfold ask at hc ⊢
  split at hc
  · rename_i r hlookup
    rcases List.mem_append.mp hc with hc | hc
    · exact (h c hc).step (.arrive r) _
    · obtain rfl := List.mem_singleton.mp hc
      exact ⟨_, List.getElem?_concat_length, hlookup⟩
  · rename_i hlookup
    rcases List.mem_append.mp hc with hc | hc
    · exact h c hc
    · obtain rfl := List.mem_singleton.mp hc
      exact ⟨hlookup, _, rfl⟩

section Reach

variable {policy : RetryPolicy} {holdersCapacity abiCapacity : Nat}
variable (h : Reachable source policy holdersCapacity abiCapacity x)
include h

theorem Reachable.traffic :
    Traffic.Reachable source policy holdersCapacity abiCapacity x.traffic := by
  induction h with
  | refl => exact .refl
  | @tail y _ _ hstep ih =>
    cases hstep with
    | traffic ht => exact ih.tail ht
    | ask method target =>
      unfold ask
      split
      · exact ih.tail (.arrive _)
      · exact ih

theorem Reachable.placed : ∀ c ∈ x.clients, x.Placed source c := by
  induction h with
  | refl =>
    intro c hc
    cases hc
  | tail _ hstep ih =>
    cases hstep with
    | ask method target => exact placed_ask ih method target
    | traffic ht => exact fun c hc => (ih c hc).step ht _

theorem Reachable.response_of_steady {outcomes : Outcomes} (hs : source.Steady outcomes)
    {c : Client} (hc : c ∈ x.clients) (hstats : ¬ AsksForStats c.method c.target) {r : Response}
    (hr : x.response? c = some r) : r = plainResponse outcomes c.method c.target := by
  have hplaced := h.placed c hc
  have hconsistent := h.traffic.consistent
  unfold Placed at hplaced
  unfold response? at hr
  split at hr
  · rename_i hplace
    rw [hplace] at hplaced
    obtain ⟨hlookup, w, rfl⟩ := hplaced
    obtain rfl := Option.some.inj hr
    exact ((handle_of_no_lookup source w hlookup).2 hstats _ _).symm
  · rename_i i hplace
    rw [hplace] at hplaced
    obtain ⟨f, hf, hlookup⟩ := hplaced
    simp only [hf] at hr
    obtain ⟨a, ha, rfl⟩ := Option.map_eq_some_iff.mp hr
    rw [plainResponse_of_lookup hlookup]
    cases hp : f.phase with
    | answered b =>
      rw [hp] at ha
      obtain rfl := Option.some.inj ha
      rw [hconsistent.answer_eq hs hf hp]
    | _ =>
      rw [hp] at ha
      cases ha

end Reach

end Exchange

/-- At a steady source, the capacities of the caches do not show: but for requests for
the statistics, each of any requests one after another gets the same response with both
pairs of capacities, and so does each client that gets one, in any two runs of requests
side by side. -/
theorem responses_eq_of_steady {source : Source} {outcomes : Outcomes}
    (hs : source.Steady outcomes) (policy : RetryPolicy) (holders₁ abi₁ holders₂ abi₂ : Nat) :
    (∀ (requests : List (String × String)) (i : Nat) (method target : String),
      requests[i]? = some (method, target) → ¬ AsksForStats method target →
      ∃ r, (responses source (.start (.fresh policy holders₁ abi₁)) requests)[i]? = some r ∧
        (responses source (.start (.fresh policy holders₂ abi₂)) requests)[i]? = some r) ∧
    (∀ x₁ x₂ : Exchange, x₁.Reachable source policy holders₁ abi₁ →
      x₂.Reachable source policy holders₂ abi₂ →
      ∀ c₁ ∈ x₁.clients, ∀ c₂ ∈ x₂.clients, c₁.method = c₂.method → c₁.target = c₂.target →
        ¬ AsksForStats c₁.method c₁.target →
        ∀ r₁ r₂, x₁.response? c₁ = some r₁ → x₂.response? c₂ = some r₂ → r₁ = r₂) := by
  constructor
  · intro requests i method target hi hstats
    refine ⟨plainResponse outcomes method target, ?_, ?_⟩
    · exact responses_of_steady hs (Session.faithful_start _ _ _) requests i hi hstats
    · exact responses_of_steady hs (Session.faithful_start _ _ _) requests i hi hstats
  · intro x₁ x₂ h₁ h₂ c₁ hc₁ c₂ hc₂ hmethod htarget hstats r₁ r₂ hr₁ hr₂
    rw [h₁.response_of_steady hs hc₁ hstats hr₁]
    rw [hmethod, htarget] at hstats ⊢
    exact (h₂.response_of_steady hs hc₂ hstats hr₂).symm

end Responses

theorem responses_eq_of_steady_of_again :
    let _ : Timer := .millis
    let outcomes : Outcomes := fun
      | .holders, _ => .ok ["0x2"]
      | .abi, _ => .error .noClient
    let source := Source.ofOutcomes outcomes
    let requests := [("GET", "/holders/eth/0x1"), ("GET", "/holders/eth/0x1")]
    source.Steady outcomes ∧
      (∃ r, (responses source (.start (.fresh .never 1 0)) requests)[1]? = some r ∧
        (responses source (.start (.fresh .never 0 0)) requests)[1]? = some r) ∧
      ∃ x₁ x₂ : Exchange, x₁.Reachable source .never 1 0 ∧ x₂.Reachable source .never 0 0 ∧
        ∃ c₁ ∈ x₁.clients, ∃ c₂ ∈ x₂.clients, ∃ r,
          x₁.response? c₁ = some r ∧ x₂.response? c₂ = some r := by
  intro timer outcomes source requests
  have hs : source.Steady outcomes := Source.steady_ofOutcomes outcomes
  have hroute : Route.ofPath? (pathOf "/abi/eth/0x1".toList) = some (.lookup .abi "eth" "0x1") := by
    decide
  have hdecode : decodeSegments "eth" "0x1" = .ok ("eth", "0x1") := by decide +kernel
  have hlookup : lookupOf? "GET" "/abi/eth/0x1" = some ⟨.abi, "eth", "0x1"⟩ := by
    simp only [lookupOf?, hroute, Option.bind_some, Route.request?, hdecode, true_or, if_true]
  have hrun : ∀ holders abi, ∃ x : Exchange, x.Reachable source .never holders abi ∧
      ∃ r, x.clients = [⟨"GET", "/abi/eth/0x1", .waiting 0⟩] ∧
        x.response? ⟨"GET", "/abi/eth/0x1", .waiting 0⟩ = some r := by
    intro holders abi
    have h₁ : Exchange.Reachable source .never holders abi _ :=
      .single (.ask "GET" "/abi/eth/0x1")
    rw [Exchange.ask, hlookup] at h₁
    have hlooked : ((Traffic.start .never holders abi).arrive ⟨.abi, "eth", "0x1"⟩).move source 0
        (.start 0 ⟨.abi, "eth", "0x1"⟩) = _ :=
      Traffic.move_of_missing rfl rfl (by exact Cache.value?_empty _ _)
    have h₂ := h₁.tail (.traffic (.move 0 (.start 0 ⟨.abi, "eth", "0x1"⟩) rfl rfl))
    simp only [Exchange.start, hlooked] at h₂
    have h₃ := h₂.tail (.traffic (.move 0 _ rfl rfl))
    have h₄ := h₃.tail (.traffic (.move 0 _ rfl rfl))
    exact ⟨_, h₄, _, rfl, rfl⟩
  obtain ⟨hrow, hside⟩ := responses_eq_of_steady hs .never 1 0 0 0
  obtain ⟨x₁, h₁, r₁, hc₁, hr₁⟩ := hrun 1 0
  obtain ⟨x₂, h₂, r₂, hc₂, hr₂⟩ := hrun 0 0
  have hmem₁ := hc₁ ▸ List.mem_singleton_self _
  have hmem₂ := hc₂ ▸ List.mem_singleton_self _
  obtain rfl := hside x₁ x₂ h₁ h₂ _ hmem₁ _ hmem₂ rfl rfl (by decide) r₁ r₂ hr₁ hr₂
  exact ⟨hs, hrow requests 1 "GET" "/holders/eth/0x1" rfl (by decide), x₁, x₂, h₁, h₂, _, hmem₁, _,
    hmem₂, r₁, hr₁, hr₂⟩

end Api

end ExplorerProxy
