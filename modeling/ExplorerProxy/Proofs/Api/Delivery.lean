import ExplorerProxy.Api.Handler
import ExplorerProxy.Proofs.Explorer.Outcomes
import ExplorerProxy.Proofs.Retry.Loop
import ExplorerProxy.Proofs.Service.Lookups
import Mathlib.Control.Monad.Basic

/-!
# From a page to a response

What a client gets whose lookup is in no cache. The page is fetched until a fetch ends
with a page or no attempts are left, and the end of the last fetch decides the response.
-/

namespace ExplorerProxy.Api

set_option autoImplicit false

open Explorer

def errorResponse (status : Nat) (code message : String) : Response :=
  .json status (Wire.write (⟨code, message⟩ : ErrorBody))

/-- The response that the end of a fetch leads to. -/
def pageResponse (k : Kind) (s : Subject) (page : String) : PageOutcome → Response
  | .timeout => errorResponse 504 "UPSTREAM_TIMEOUT" s!"Request to {page} failed"
  | .broken => errorResponse 502 "UPSTREAM_UNAVAILABLE" s!"Request to {page} failed"
  | .answer status body =>
    if 200 ≤ status ∧ status < 300 then
      match k with
      | .holders => .json 200 (Json.array ((Page.holders body s.address).map .string)).write
      | .abi =>
        match Page.abiBlock? body with
        | none => .json 200 (Json.array []).write
        | some block =>
          match Json.read block with
          | .ok v => .json 200 v.write
          | .error _ => errorResponse 502 "MALFORMED_ABI" s!"Malformed ABI for {s.address}"
    else
      errorResponse 502 "UPSTREAM_UNAVAILABLE"
        s!"Explorer returned HTTP {Http.statusText status} for {page}"

theorem lookupResponse_reading (k : Kind) (s : Subject) (page : String) (o : PageOutcome) :
    lookupResponse k (reading k s page o) = pageResponse k s page o := by
  cases o with
  | timeout => rfl
  | broken => rfl
  | answer status body =>
    by_cases hs : 200 ≤ status ∧ status < 300
    · simp only [reading, pageResponse, if_pos (Http.isSuccess_iff.mpr hs), if_pos hs]
      cases k with
      | holders => rfl
      | abi =>
        simp only [extract, Page.abi]
        cases Page.abiBlock? body with
        | none => rfl
        | some block =>
          cases hread : Json.read block with
          | ok v => simp only [hread]; rfl
          | error cause => simp only [hread]; rfl
    · simp only [reading, pageResponse, if_neg (mt Http.isSuccess_iff.mp hs), if_neg hs]
      rfl

section Attempts

variable [InternationalNames] (t : Endpoints) (web : Web) (w : Session) (k : Kind) (s : Subject)

theorem outcome_reply (i : Nat) :
    (w.reply (source t web) k s i).outcome = lookup t (web (w.past.length + i)) k s := by
  have hlen : (List.replicate i (⟨k, s⟩ : Call) ++ w.past).length = w.past.length + i := by
    rw [List.length_append, List.length_replicate, Nat.add_comm]
  simp only [Session.reply, source, hlen]

theorem ends_attempts [Timer] (now : Nat) :
    (w.attempts (source t web) k s).ends
        (Timer.clock fun i => (w.reply (source t web) k s i).takes) now =
      now + ((w.attempts (source t web) k s).waits.map Timer.lasts).sum := by
  have hzero : ((List.range (w.attempts (source t web) k s).calls).map
      (Timer.clock fun i => (w.reply (source t web) k s i).takes).call).sum = 0 := by
    apply List.sum_eq_zero
    intro lasting hlasting
    obtain ⟨i, _, rfl⟩ := List.mem_map.mp hlasting
    exact Timer.lasts_zero
  rw [RetryRun.ends_eq, hzero, Nat.add_zero]
  rfl

theorem attempts_of_invalid {cause : UrlError} (h : Url.parse (page t k s) = .error cause) :
    (w.attempts (source t web) k s).result = .error (.invalidUrl (page t k s) cause) ∧
      (w.attempts (source t web) k s).calls = 1 ∧ (w.attempts (source t web) k s).waits = [] := by
  have hcall : ∀ i, (w.reply (source t web) k s i).outcome =
      .error (.invalidUrl (page t k s) cause) := by
    intro i
    rw [outcome_reply, lookup_of_invalid _ h]
  obtain ⟨last, hends, hresult, hcalls, hwaits⟩ := w.service.policy.run_spec FetchError.isTransient
    fun i => (w.reply (source t web) k s i).outcome
  have hlast : last = 0 := by
    rcases Nat.eq_zero_or_pos last with hzero | hpos
    · exact hzero
    · refine absurd ?_ (hends.before 0 hpos)
      rw [hcall]
      rfl
  subst hlast
  exact ⟨hresult.trans (hcall 0), hcalls, hwaits⟩

/-- The attempts end with the first page, or with the last fetch that is allowed. -/
theorem attempts_of_parsed {url : Url} (h : Url.parse (page t k s) = .ok url) :
    let o (i : Nat) := outcome (web (w.past.length + i)) (page t k s) url
    ∃ last < max 1 w.service.policy.maxAttempts.toNat,
      (∀ i < last, ¬ (o i).IsPage) ∧
      ((o last).IsPage ∨ last + 1 = max 1 w.service.policy.maxAttempts.toNat) ∧
      (w.attempts (source t web) k s).result = reading k s (page t k s) (o last) ∧
      (w.attempts (source t web) k s).calls = last + 1 ∧
      (w.attempts (source t web) k s).waits = w.service.policy.backoffs last := by
  intro o
  have hcall : ∀ i, (w.reply (source t web) k s i).outcome = reading k s (page t k s) (o i) := by
    intro i
    rw [outcome_reply, lookup_of_parsed _ h]
  have hfinal : ∀ i, IsFinal FetchError.isTransient (w.reply (source t web) k s i).outcome ↔
      (o i).IsPage := by
    intro i
    rw [hcall]
    exact isFinal_reading k s (page t k s) (o i)
  obtain ⟨last, hends, hresult, hcalls, hwaits⟩ := w.service.policy.run_spec FetchError.isTransient
    fun i => (w.reply (source t web) k s i).outcome
  rw [← RetryPolicy.limit_toNat]
  refine ⟨last, hends.lt, ?_, ?_, hresult.trans (hcall last), hcalls, hwaits⟩
  · intro i hi
    rw [← hfinal]
    exact hends.before i hi
  · rw [← hfinal]
    exact hends.final

end Attempts

theorem handle_get_lookup [Timer] (source : Source) (w : Session) {target network address : String}
    {k : Kind} {segment₁ segment₂ : String}
    (hroute : Route.ofPath? (pathOf target.toList) = some (.lookup k segment₁ segment₂))
    (hdecode : decodeSegments segment₁ segment₂ = .ok (network, address)) :
    (handle source w "GET" target).answer =
        lookupResponse k (w.lookup source k network address).answer ∧
      (handle source w "GET" target).calls = (w.lookup source k network address).calls ∧
      (handle source w "GET" target).session = (w.lookup source k network address).session := by
  simp only [handle, hroute, if_true, handleRoute, handleLookup, hdecode]
  exact ⟨trivial, trivial, trivial⟩

end ExplorerProxy.Api
