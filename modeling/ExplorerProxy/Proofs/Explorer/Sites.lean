import ExplorerProxy.Api.Response
import ExplorerProxy.Config
import ExplorerProxy.Proofs.Explorer.Authorities
import ExplorerProxy.Proofs.Explorer.Outcomes
import ExplorerProxy.Proofs.Url.Continuation
import Mathlib.Control.Monad.Basic

/-!
# Where the pages of a site are

What a table of sites keeps of the texts that it was given, and what follows for the
pages. A page on the web is where the given text says, whatever the address is that is
looked up. That the given text can be read is checked, but what is kept of it is read
only with a path behind it; that it can then be read is a matter of the site alone.
-/

namespace ExplorerProxy

set_option autoImplicit false

namespace Endpoints

/-- The site that was given for a network last, as it was given, or the built-in one. -/
def submitted (os : List (Network × String)) (n : Network) : String :=
  os.foldl (fun site o => if o.1 = n then o.2 else site) n.defaultBase

section Tables

variable [InternationalNames]

def overrideAll (os : List (Network × String)) : Except ConfigError Endpoints :=
  os.foldlM (fun t o => t.override o.1 o.2) builtIn

/-- What a table keeps for a network is a text that could be read, less its slashes. -/
structure Keeps (t : Endpoints) (n : Network) (site : String) : Prop where
  base_eq : t.base n = trimSlashes site
  accepted : (Url.parse site).isOk = true

theorem keeps_builtIn (n : Network) : builtIn.Keeps n n.defaultBase := by
  refine ⟨?_, ?_⟩
  · cases n <;> decide
  · have hread : (@Url.parse .plainOnly n.defaultBase).isOk = true := by
      cases n <;> decide +kernel
    cases hurl : @Url.parse .plainOnly n.defaultBase with
    | error cause =>
      rw [hurl] at hread
      cases hread
    | ok u =>
      rw [Url.parse_of_plainOnly hurl]
      rfl

theorem override_eq_ok {t t' : Endpoints} {n : Network} {url : String}
    (h : t.override n url = .ok t') :
    (Url.parse url).isOk = true ∧ t' = t.set n (trimSlashes url) := by
  unfold override at h
  cases hurl : Url.parse url with
  | error cause =>
    rw [hurl] at h
    cases h
  | ok u =>
    rw [hurl] at h
    cases h
    exact ⟨rfl, rfl⟩

theorem override_of_accepted (t : Endpoints) (n : Network) {url : String}
    (h : (Url.parse url).isOk = true) : t.override n url = .ok (t.set n (trimSlashes url)) := by
  unfold override
  cases hurl : Url.parse url with
  | error cause =>
    rw [hurl] at h
    cases h
  | ok u => rfl

theorem Keeps.override {t t' : Endpoints} {m n : Network} {url site : String}
    (ht : t.Keeps n site) (h : t.override m url = .ok t') :
    t'.Keeps n (if m = n then url else site) := by
  obtain ⟨haccepted, rfl⟩ := override_eq_ok h
  by_cases hmn : m = n
  · subst hmn
    rw [if_pos rfl]
    exact ⟨by simp [base, Endpoints.set], haccepted⟩
  · rw [if_neg hmn]
    refine ⟨?_, ht.accepted⟩
    rw [← ht.base_eq]
    simp [base, Endpoints.set, Ne.symm hmn]

theorem keeps_of_foldlM {α : Type} (step : Endpoints → α → Except ConfigError Endpoints)
    (site : String → α → String) {n : Network}
    (hstep : ∀ t t' a s, Keeps t n s → step t a = .ok t' → Keeps t' n (site s a))
    (l : List α) {t t' : Endpoints} {s : String} (ht : t.Keeps n s) (h : l.foldlM step t = .ok t') :
    t'.Keeps n (l.foldl site s) := by
  induction l generalizing t s with
  | nil =>
    cases h
    exact ht
  | cons a l ih =>
    rw [List.foldlM_cons] at h
    cases ha : step t a with
    | error e =>
      rw [ha] at h
      cases h
    | ok t₁ =>
      rw [ha] at h
      exact ih (hstep t t₁ a s ht ha) h

theorem keeps_of_overrideAll {os : List (Network × String)} {t : Endpoints}
    (h : overrideAll os = .ok t) (n : Network) : t.Keeps n (submitted os n) := by
  refine keeps_of_foldlM _ (fun site o => if o.1 = n then o.2 else site) ?_ os (keeps_builtIn n) h
  exact fun _ _ _ _ ht hstep => ht.override hstep

end Tables

end Endpoints

namespace Config

def siteOf (vars : Variables) (n : Network) : String :=
  (vars (endpointKey n)).getD n.defaultBase

theorem exists_of_bind_eq_ok {ε α β : Type} {x : Except ε α} {f : α → Except ε β} {b : β}
    (h : x >>= f = .ok b) : ∃ a, x = .ok a ∧ f a = .ok b := by
  cases x with
  | error e => cases h
  | ok a => exact ⟨a, rfl, h⟩

section Tables

variable [InternationalNames]

theorem keeps_of_endpointFrom {vars : Variables} {t t' : Endpoints} {m n : Network} {site : String}
    (ht : t.Keeps n site) (h : endpointFrom vars t m = .ok t') :
    t'.Keeps n (if m = n then (vars (endpointKey m)).getD site else site) := by
  unfold endpointFrom at h
  cases hvar : vars (endpointKey m) with
  | none =>
    rw [hvar] at h
    cases h
    simpa using ht
  | some url =>
    rw [hvar] at h
    exact ht.override h

theorem endpoints_of_ofVariables {vars : Variables} {c : Config} (h : ofVariables vars = .ok c) :
    Network.all.foldlM (endpointFrom vars) Endpoints.builtIn = .ok c.endpoints := by
  -- the six settings before the sites
  obtain ⟨_, _, h⟩ := exists_of_bind_eq_ok h
  obtain ⟨_, _, h⟩ := exists_of_bind_eq_ok h
  obtain ⟨_, _, h⟩ := exists_of_bind_eq_ok h
  obtain ⟨_, _, h⟩ := exists_of_bind_eq_ok h
  obtain ⟨_, _, h⟩ := exists_of_bind_eq_ok h
  obtain ⟨_, _, h⟩ := exists_of_bind_eq_ok h
  cases ht : Network.all.foldlM (endpointFrom vars) Endpoints.builtIn with
  | error e =>
    rw [ht] at h
    cases h
  | ok t =>
    rw [ht] at h
    cases h
    rfl

theorem keeps_of_ofVariables {vars : Variables} {c : Config} (h : ofVariables vars = .ok c)
    (n : Network) : c.endpoints.Keeps n (siteOf vars n) := by
  have hkeeps := Endpoints.keeps_of_foldlM (endpointFrom vars)
    (fun site m => if m = n then (vars (endpointKey m)).getD site else site)
    (fun _ _ _ _ ht hstep => keeps_of_endpointFrom ht hstep) Network.all
    (Endpoints.keeps_builtIn n) (endpoints_of_ofVariables h)
  cases n <;> exact hkeeps

end Tables

end Config

namespace Explorer

theorem toList_page (t : Endpoints) (k : Kind) (s : Subject) :
    ∃ more, Url.IsPath more ∧ (page t k s).toList = (t.base s.network).toList ++ '/' :: more := by
  cases k with
  | holders =>
    have hpath : "/token/generic-tokenholders2?a=".toList =
        '/' :: ("token".toList ++ '/' :: "generic-tokenholders2?a=".toList) := by decide
    refine ⟨"token".toList ++ '/' :: ("generic-tokenholders2?a=".toList ++ s.address.toList),
      ⟨_, _, Or.inl rfl, rfl⟩, ?_⟩
    change (t.base s.network ++ "/token/generic-tokenholders2?a=" ++ s.address).toList = _
    rw [String.toList_append, String.toList_append, hpath, List.append_assoc]
    rfl
  | abi =>
    have hpath : "/address/".toList = '/' :: ("address".toList ++ ['/']) := by decide
    refine ⟨"address".toList ++ '/' :: s.address.toList, ⟨_, _, Or.inr rfl, rfl⟩, ?_⟩
    change (t.base s.network ++ "/address/" ++ s.address).toList = _
    rw [String.toList_append, String.toList_append, hpath, List.append_assoc]
    rfl

theorem invalidUrl_of_statusCode {e : FetchError}
    (h : (Api.Failure.lookup e).statusCode = (400, "INVALID_REQUEST")) :
    ∃ page cause, e = .invalidUrl page cause := by
  cases e with
  | invalidUrl page cause => exact ⟨page, cause, rfl⟩
  | request url fault => cases fault <;> simp [Api.Failure.statusCode] at h
  | _ => simp [Api.Failure.statusCode] at h

theorem reading_ne_invalidUrl (k : Kind) (s : Subject) (page url : String) (cause : UrlError)
    (o : PageOutcome) : reading k s page o ≠ .error (.invalidUrl url cause) := by
  intro h
  cases o with
  | timeout => cases h
  | broken => cases h
  | answer status body =>
    rw [reading] at h
    split at h
    · obtain ⟨_, hmalformed⟩ := extract_error h
      cases hmalformed
    · cases h

section Sites

variable [InternationalNames]

section Kept

variable {t : Endpoints} {n : Network} {site : String} (h : t.Keeps n site)
include h

theorem page_of_keeps [LawfulInternationalNames] (k : Kind) (address : String) {u : Url}
    (hu : Url.parse (page t k ⟨n, address⟩) = .ok u) (hweb : u.isWebPage = true) :
    Url.parse site = .ok u ∧ ∃ host, u.host = some host ∧
      (pageRequest (page t k ⟨n, address⟩) u).headers =
        ("authority", host.text) :: fixedHeaders := by
  have hfamily : Url.family u.scheme = .web := by
    simp only [Url.isWebPage, Bool.or_eq_true, beq_iff_eq] at hweb
    rcases hweb with hhttp | hhttps
    · rw [hhttp]
      rfl
    · rw [hhttps]
      rfl
  obtain ⟨more, _, hpage⟩ := toList_page t k ⟨n, address⟩
  rw [h.base_eq] at hpage
  obtain ⟨hsite, hostText, host, hread, hhost⟩ :=
    Url.parse_site_of_page h.accepted hpage hu hfamily
  refine ⟨hsite, host, hhost, ?_⟩
  have hfits := Host.fitsHeader_text hread
  have hall : host.text.toList.all inHeader = true := List.all_eq_true.mpr hfits
  simp only [pageRequest, Url.hostText, hhost, Option.map_some, headers, if_pos hall]

end Kept

theorem refused_iff (t : Endpoints) (fetch : PageRequest → PageOutcome) (k : Kind) (s : Subject) :
    (∃ e, lookup t fetch k s = .error e ∧
      (Api.Failure.lookup e).statusCode = (400, "INVALID_REQUEST")) ↔
      (Url.parse (page t k s)).isOk = false := by
  cases hurl : Url.parse (page t k s) with
  | error cause => exact ⟨fun _ => rfl, fun _ => ⟨_, lookup_of_invalid fetch hurl, rfl⟩⟩
  | ok url =>
    refine ⟨?_, fun h => by cases h⟩
    rintro ⟨e, he, hcode⟩
    obtain ⟨address, cause, rfl⟩ := invalidUrl_of_statusCode hcode
    rw [lookup_of_parsed fetch hurl] at he
    exact absurd he (reading_ne_invalidUrl _ _ _ _ _ _)

/-- Whether the pages of a network can be read, and whether clients are told that their
requests are invalid, is decided by the site alone: by what is kept of it, with a slash
behind it. That can be read if the site as it was given ends in a character above the
space that is no at sign. -/
structure SiteDecides (t : Endpoints) (n : Network) (site : String) : Prop where
  pages : ∀ k address, (Url.parse (page t k ⟨n, address⟩)).isOk =
    (Url.parse (trimSlashes site ++ "/")).isOk
  refused : ∀ fetch k address, (∃ e, lookup t fetch k ⟨n, address⟩ = .error e ∧
    (Api.Failure.lookup e).statusCode = (400, "INVALID_REQUEST")) ↔
      (Url.parse (trimSlashes site ++ "/")).isOk = false
  plain : ∀ c, site.toList.getLast? = some c → Url.isMargin c = false → c ≠ '@' →
    (Url.parse (trimSlashes site ++ "/")).isOk = true

theorem siteDecides_of_keeps {t : Endpoints} {n : Network} {site : String} (h : t.Keeps n site) :
    SiteDecides t n site := by
  have hpages : ∀ k address, (Url.parse (page t k ⟨n, address⟩)).isOk =
      (Url.parse (trimSlashes site ++ "/")).isOk := by
    intro k address
    obtain ⟨more, hpath, hpage⟩ := toList_page t k ⟨n, address⟩
    rw [h.base_eq] at hpage
    exact Url.isOk_parse_page h.accepted hpage hpath
  refine ⟨hpages, ?_, fun c hlast hc hat => Url.isOk_parse_slash h.accepted hlast hc hat⟩
  intro fetch k address
  rw [refused_iff, hpages]

end Sites

end Explorer

/-- Tables that are built by overrides or read from variables, with the sites as given. -/
inductive Endpoints.Accepted [InternationalNames] : Endpoints → (Network → String) → Prop where
  | ofOverrides {os : List (Network × String)} {t : Endpoints} (h : overrideAll os = .ok t) :
      Accepted t (submitted os)
  | ofVariables {vars : Config.Variables} {c : Config} (h : Config.ofVariables vars = .ok c) :
      Accepted c.endpoints (Config.siteOf vars)

theorem Endpoints.Accepted.keeps [InternationalNames] {t : Endpoints}
    {sites : Network → String} (h : t.Accepted sites) (n : Network) : t.Keeps n (sites n) := by
  cases h with
  | ofOverrides h => exact keeps_of_overrideAll h n
  | ofVariables h => exact Config.keeps_of_ofVariables h n

open Explorer in
/-- In an accepted table, the pages of a network can be read for all addresses or for none,
as its site decides. -/
theorem siteDecides_of_accepted [InternationalNames] {t : Endpoints} {sites : Network → String}
    (h : t.Accepted sites) (n : Network) : SiteDecides t n (sites n) :=
  siteDecides_of_keeps (h.keeps n)

def Config.onlySite (n : Network) (site : String) : Config.Variables := fun key =>
  if key = Config.endpointKey n then some site else none

theorem siteDecides_of_accepted_of_slash :
    let _ : InternationalNames := .plainOnly
    ∃ c, Config.ofVariables (Config.onlySite .eth "http://e.test/") = .ok c ∧
      ∀ k address, (Url.parse (Explorer.page c.endpoints k ⟨.eth, address⟩)).isOk = true := by
  intro names
  have hok : (Config.ofVariables (Config.onlySite .eth "http://e.test/")).isOk = true := by
    decide +kernel
  cases hc : Config.ofVariables (Config.onlySite .eth "http://e.test/") with
  | error e =>
    rw [hc] at hok
    cases hok
  | ok c =>
    have hdecides := siteDecides_of_accepted (.ofVariables hc) .eth
    refine ⟨c, rfl, fun k address => ?_⟩
    rw [hdecides.pages]
    exact hdecides.plain '/' (by decide) (by decide) (by decide)

/-- A site with a space at its end is accepted, but none of its pages can be read: the
space is passed over when the site is read, and not when a path stands behind it. -/
theorem exists_accepted_without_pages :
    let _ : InternationalNames := .plainOnly
    ∃ c, Config.ofVariables (Config.onlySite .eth "http://e.test ") = .ok c ∧
      ∀ k address, (Url.parse (Explorer.page c.endpoints k ⟨.eth, address⟩)).isOk = false ∧
        ∀ fetch, ∃ e, Explorer.lookup c.endpoints fetch k ⟨.eth, address⟩ = .error e ∧
          (Api.Failure.lookup e).statusCode = (400, "INVALID_REQUEST") := by
  intro names
  have hok : (Config.ofVariables (Config.onlySite .eth "http://e.test ")).isOk = true := by
    decide +kernel
  have hbad : (Url.parse (trimSlashes "http://e.test " ++ "/")).isOk = false := by decide +kernel
  cases hc : Config.ofVariables (Config.onlySite .eth "http://e.test ") with
  | error e =>
    rw [hc] at hok
    cases hok
  | ok c =>
    have hdecides := Explorer.siteDecides_of_keeps (Config.keeps_of_ofVariables hc .eth)
    have hsite : Config.siteOf (Config.onlySite .eth "http://e.test ") .eth = "http://e.test " :=
      rfl
    rw [hsite] at hdecides
    refine ⟨c, rfl, fun k address => ⟨?_, fun fetch => ?_⟩⟩
    · rw [hdecides.pages, hbad]
    · exact (hdecides.refused fetch k address).mpr hbad

open Explorer in
/-- A page on the web that an accepted table leads to is at the scheme, the host and the
port of the site as it was given, whatever the address is that is looked up, and is asked
for with that host as its authority. -/
theorem page_of_accepted [InternationalNames] [LawfulInternationalNames] {t : Endpoints}
    {sites : Network → String} (h : t.Accepted sites) (k : Kind) (s : Subject) {u : Url}
    (hu : Url.parse (page t k s) = .ok u) (hweb : u.isWebPage = true) :
    Url.parse (sites s.network) = .ok u ∧ ∃ host, u.host = some host ∧
      (pageRequest (page t k s) u).headers = ("authority", host.text) :: fixedHeaders :=
  page_of_keeps (h.keeps s.network) k s.address hu hweb

abbrev InternationalNames.only (name ascii : String) : InternationalNames :=
  ⟨fun bytes => if bytes = Text.utf8Bytes name then some ascii.toList else none⟩

theorem lawful_only {name ascii : String}
    (hallowed : ascii.toList.any Host.forbiddenInDomain = false)
    (hname : ∀ b ∈ Text.utf8Bytes name, ¬ b ≤ 0x20) :
    @LawfulInternationalNames (.only name ascii) := by
  refine @LawfulInternationalNames.mk (.only name ascii) ?_ ?_
  · intro bytes result h
    change (if bytes = Text.utf8Bytes name then some ascii.toList else none) = some result at h
    split at h
    · cases h
      exact hallowed
    · cases h
  · intro bytes b hb hlow
    refine if_neg ?_
    rintro rfl
    exact hname b hb hlow

theorem page_of_accepted_of_delimiters :
    ∃ (_ : InternationalNames) (_ : LawfulInternationalNames) (t : Endpoints)
      (sites : Network → String) (u : Url), t.Accepted sites ∧
      sites .eth = "http://name@b\u00fccher.test:8080//" ∧
      Url.parse (Explorer.page t .abi ⟨.eth, "@other.test:1/..\\?#%2f"⟩) = .ok u ∧
      u = ⟨"http", some (.domain "xn--bcher-kva.test"), some 8080⟩ ∧
      Url.parse (sites .eth) = .ok u := by
  let names := InternationalNames.only "b\u00fccher.test" "xn--bcher-kva.test"
  let site := "http://name@b\u00fccher.test:8080//"
  have hlawful : LawfulInternationalNames := lawful_only (by decide) (by decide +kernel)
  have hok : (Url.parse site).isOk = true := by decide +kernel
  have haccepted : Endpoints.overrideAll [(.eth, site)] =
      .ok (Endpoints.builtIn.set .eth (trimSlashes site)) := by
    rw [Endpoints.overrideAll, List.foldlM_cons, Endpoints.override_of_accepted _ _ hok]
    rfl
  have hpage : Url.parse (Explorer.page (Endpoints.builtIn.set .eth (trimSlashes site)) .abi
      ⟨.eth, "@other.test:1/..\\?#%2f"⟩) =
        .ok ⟨"http", some (.domain "xn--bcher-kva.test"), some 8080⟩ := by
    decide +kernel
  obtain ⟨hsite, _⟩ := page_of_accepted (.ofOverrides haccepted) .abi _ hpage rfl
  exact ⟨names, hlawful, _, _, _, .ofOverrides haccepted, rfl, hpage, rfl, hsite⟩

end ExplorerProxy
