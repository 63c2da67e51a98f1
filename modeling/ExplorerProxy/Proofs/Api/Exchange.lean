import ExplorerProxy.Api.Handler
import ExplorerProxy.Proofs.Service.Traffic

/-!
# Clients at the proxy

A request of a client is answered at once, or leads to a lookup and is answered with
what that comes to. Only for a lookup the service is needed; the statistics are the one
answer that shows the caches.

Clients may come at any time, and their lookups go on side by side as the service lets
them: in every order of their steps, with waits and with clients that go away.
-/

namespace ExplorerProxy.Api

set_option autoImplicit false

/-- The lookup that a route stands for, if its segments can be decoded. -/
def Route.request? : Route → Option Request
  | .lookup k network address =>
    match decodeSegments network address with
    | .error _ => none
    | .ok (network, address) => some ⟨k, network, address⟩
  | _ => none

def lookupOf? (method target : String) : Option Request :=
  if method = "GET" ∨ method = "HEAD" then
    (Route.ofPath? (pathOf target.toList)).bind Route.request?
  else none

def AsksForStats (method target : String) : Prop :=
  method = "GET" ∧ Route.ofPath? (pathOf target.toList) = some .stats

instance (method target : String) : Decidable (AsksForStats method target) :=
  inferInstanceAs (Decidable (_ ∧ _))

/-- A response as it is sent: without its body, if only the head was asked for. -/
def sent (method : String) (r : Response) : Response :=
  if method = "HEAD" then { r with body := "" } else r

variable [Timer]

section Handle

variable (source : Source) (w : Session) {method target : String}

theorem handleRoute_of_request {route : Route} {r : Request} (h : route.request? = some r) :
    (handleRoute source w route).answer =
        lookupResponse r.kind (w.lookup source r.kind r.network r.address).answer ∧
      (handleRoute source w route).session =
        (w.lookup source r.kind r.network r.address).session := by
  cases route with
  | health => cases h
  | stats => cases h
  | lookup k network address =>
    simp only [Route.request?] at h
    split at h
    · cases h
    · rename_i hdecode
      obtain rfl := Option.some.inj h
      simp only [handleRoute, handleLookup, hdecode]
      exact ⟨trivial, trivial⟩

/-- Without a lookup, nothing is done to the session, and nothing in it is looked at but
for the statistics. -/
theorem handleRoute_of_no_request {route : Route} (h : route.request? = none) :
    (handleRoute source w route).session = w ∧
      (route ≠ .stats → ∀ (source' : Source) (w' : Session),
        (handleRoute source' w' route).answer = (handleRoute source w route).answer) := by
  cases route with
  | health => exact ⟨rfl, fun _ _ _ => rfl⟩
  | stats => exact ⟨rfl, fun hne => absurd rfl hne⟩
  | lookup k network address =>
    simp only [Route.request?] at h
    split at h
    · rename_i hdecode
      simp only [handleRoute, handleLookup, hdecode]
      exact ⟨trivial, fun _ _ _ => trivial⟩
    · cases h

theorem handle_of_route {route : Route} (h : Route.ofPath? (pathOf target.toList) = some route)
    (hmethod : method = "GET" ∨ method = "HEAD") :
    (handle source w method target).answer = sent method (handleRoute source w route).answer ∧
      (handle source w method target).session = (handleRoute source w route).session := by
  simp only [handle, h, sent]
  rcases hmethod with rfl | rfl
  · exact ⟨rfl, rfl⟩
  · exact ⟨rfl, rfl⟩

theorem handle_of_lookup {r : Request} (h : lookupOf? method target = some r) :
    (handle source w method target).answer =
        sent method (lookupResponse r.kind (w.lookup source r.kind r.network r.address).answer) ∧
      (handle source w method target).session =
        (w.lookup source r.kind r.network r.address).session := by
  unfold lookupOf? at h
  split at h
  · rename_i hmethod
    obtain ⟨route, hroute, hrequest⟩ := Option.bind_eq_some_iff.mp h
    obtain ⟨hanswer, hsession⟩ := handle_of_route source w hroute hmethod
    obtain ⟨hanswer', hsession'⟩ := handleRoute_of_request source w hrequest
    exact ⟨hanswer.trans (congrArg (sent method) hanswer'), hsession.trans hsession'⟩
  · cases h

theorem handle_of_no_lookup (h : lookupOf? method target = none) :
    (handle source w method target).session = w ∧
      (¬ AsksForStats method target → ∀ (source' : Source) (w' : Session),
        (handle source' w' method target).answer = (handle source w method target).answer) := by
  cases hroute : Route.ofPath? (pathOf target.toList) with
  | none =>
    simp only [handle, hroute]
    exact ⟨trivial, fun _ _ _ => trivial⟩
  | some route =>
    by_cases hmethod : method = "GET" ∨ method = "HEAD"
    · simp only [lookupOf?, if_pos hmethod, hroute, Option.bind_some] at h
      obtain ⟨hanswer, hsession⟩ := handle_of_route source w hroute hmethod
      obtain ⟨hidle, hsame⟩ := handleRoute_of_no_request source w h
      refine ⟨hsession.trans hidle, fun hstats source' w' => ?_⟩
      rw [hanswer, (handle_of_route source' w' hroute hmethod).1]
      by_cases hroute' : route = .stats
      · -- of the statistics only the head can have been asked for
        subst hroute'
        have hhead : method = "HEAD" := hmethod.resolve_left fun hget => hstats ⟨hget, hroute⟩
        simp only [sent, hhead, if_true, handleRoute, Response.json]
      · rw [hsame hroute' source' w']
    · obtain ⟨hget, hhead⟩ := not_or.mp hmethod
      simp only [handle, hroute, if_neg hget, if_neg hhead]
      exact ⟨trivial, fun _ _ _ => trivial⟩

end Handle

def responses (source : Source) (w : Session) : List (String × String) → List Response
  | [] => []
  | (method, target) :: more =>
    let one := handle source w method target
    one.answer :: responses source one.session more

inductive Place where
  | answered (r : Response)
  /-- The client waits for the lookup of this number. -/
  | waiting (i : Nat)

structure Client where
  method : String
  target : String
  place : Place

/-- A service with all clients that have come, and the lookups made for them. -/
structure Exchange where
  traffic : Traffic
  clients : List Client

namespace Exchange

def start (policy : RetryPolicy) (holdersCapacity abiCapacity : Nat) : Exchange :=
  ⟨.start policy holdersCapacity abiCapacity, []⟩

def ask (source : Source) (x : Exchange) (method target : String) : Exchange :=
  match lookupOf? method target with
  | some r =>
    ⟨x.traffic.arrive r, x.clients ++ [⟨method, target, .waiting x.traffic.flights.length⟩]⟩
  | none =>
    ⟨x.traffic, x.clients ++
      [⟨method, target, .answered (handle source x.traffic.session method target).answer⟩]⟩

def response? (x : Exchange) (c : Client) : Option Response :=
  match c.place with
  | .answered r => some r
  | .waiting i =>
    match x.traffic.flights[i]? with
    | none => none
    | some f => f.phase.answer?.map fun a => sent c.method (lookupResponse f.request.kind a)

inductive Step (source : Source) (x : Exchange) : Exchange → Prop where
  | ask (method target : String) : Step source x (x.ask source method target)
  | traffic {t : Traffic} (h : Traffic.Step source x.traffic t) :
      Step source x { x with traffic := t }

def Reachable (source : Source) (policy : RetryPolicy) (holdersCapacity abiCapacity : Nat) :
    Exchange → Prop :=
  Relation.ReflTransGen (Step source) (start policy holdersCapacity abiCapacity)

end Exchange

end ExplorerProxy.Api
