import ExplorerProxy.Explorer.Fetch
import ExplorerProxy.Proofs.Retry.Attempts

/-!
# What a lookup makes of a page

The end of its fetch decides a lookup at the explorer. Only a complete page with a
success status ends the attempts; what is found on it, or that its interface cannot be
read, is not asked for again.
-/

namespace ExplorerProxy.Explorer

set_option autoImplicit false

/-- A fetch ended with a complete page and a success status. -/
def PageOutcome.IsPage : PageOutcome → Prop
  | .answer status _ => 200 ≤ status ∧ status < 300
  | _ => False

instance : DecidablePred PageOutcome.IsPage
  | .answer status _ => inferInstanceAs (Decidable (200 ≤ status ∧ status < 300))
  | .timeout => isFalse id
  | .broken => isFalse id

/-- How a fetch ends; only web pages are asked for. -/
def outcome (fetch : PageRequest → PageOutcome) (page : String) (url : Url) : PageOutcome :=
  if url.isWebPage then fetch (pageRequest page url) else .broken

def reading (k : Kind) (s : Subject) (page : String) : PageOutcome → Except FetchError k.Value
  | .timeout => .error (.request page .timeout)
  | .broken => .error (.request page .connection)
  | .answer status body =>
    if Http.isSuccess status then extract k body s else .error (.status page status)

def requests [InternationalNames] (t : Endpoints) (c : Call) : List PageRequest :=
  match Url.parse (page t c.kind c.subject) with
  | .error _ => []
  | .ok url => if url.isWebPage then [pageRequest (page t c.kind c.subject) url] else []

section Lookup

variable [InternationalNames] {t : Endpoints} {k : Kind} {s : Subject}

theorem fetchPage_congr {fetch fetch' : PageRequest → PageOutcome}
    (h : ∀ q ∈ requests t ⟨k, s⟩, fetch' q = fetch q) :
    fetchPage fetch' (page t k s) = fetchPage fetch (page t k s) := by
  unfold fetchPage
  unfold requests at h
  cases hurl : Url.parse (page t k s) with
  | error cause => rfl
  | ok url =>
    cases hweb : url.isWebPage with
    | false => simp only [hweb, Bool.false_eq_true, if_false]
    | true =>
      have hsame : fetch' (pageRequest (page t k s) url) =
          fetch (pageRequest (page t k s) url) := by
        apply h
        simp only [hurl, hweb, if_true]
        exact List.mem_cons_self
      simp only [hsame]

/-- A call looks at the web by the requests that it sends only. -/
theorem source_congr {web web' : Web} {past : List Call}
    (h : ∀ q ∈ requests t ⟨k, s⟩, web' past.length q = web past.length q) :
    source t web' past k s = source t web past k s := by
  simp only [source, lookup, lookupEvents, fetchPage_congr h]

theorem lookup_of_invalid (fetch : PageRequest → PageOutcome) {cause : UrlError}
    (h : Url.parse (page t k s) = .error cause) :
    lookup t fetch k s = .error (.invalidUrl (page t k s) cause) := by
  simp only [lookup, fetchPage, h]

theorem lookup_of_parsed (fetch : PageRequest → PageOutcome) {url : Url}
    (h : Url.parse (page t k s) = .ok url) :
    lookup t fetch k s = reading k s (page t k s) (outcome fetch (page t k s) url) := by
  simp only [lookup, fetchPage, h]
  unfold outcome
  generalize (if url.isWebPage then fetch (pageRequest (page t k s) url) else .broken) = o
  cases o with
  | timeout => rfl
  | broken => rfl
  | answer status body =>
    cases hs : Http.isSuccess status <;> simp [reading, hs]

end Lookup

theorem extract_error {k : Kind} {body : String} {s : Subject} {e : FetchError}
    (h : extract k body s = .error e) : ∃ cause, e = .malformedAbi s.address cause := by
  cases k with
  | holders => cases h
  | abi =>
    change Page.abi body s.address = .error e at h
    unfold Page.abi at h
    split at h
    · cases h
    · split at h
      · cases h
      · cases h
        exact ⟨_, rfl⟩

theorem isFinal_reading (k : Kind) (s : Subject) (page : String) (o : PageOutcome) :
    IsFinal FetchError.isTransient (reading k s page o) ↔ o.IsPage := by
  cases o with
  | timeout => simp [reading, IsFinal, FetchError.isTransient, PageOutcome.IsPage]
  | broken => simp [reading, IsFinal, FetchError.isTransient, PageOutcome.IsPage]
  | answer status body =>
    by_cases hs : Http.isSuccess status = true
    · refine ⟨fun _ => Http.isSuccess_iff.mp hs, fun _ => ?_⟩
      rw [reading, if_pos hs]
      cases he : extract k body s with
      | ok v => trivial
      | error e =>
        obtain ⟨cause, rfl⟩ := extract_error he
        rfl
    · have hno : ¬ (PageOutcome.answer status body).IsPage := mt Http.isSuccess_iff.mpr hs
      simp only [reading, if_neg hs, iff_false_right hno, IsFinal, FetchError.isTransient,
        Bool.true_eq_false, not_false_eq_true]

end ExplorerProxy.Explorer
