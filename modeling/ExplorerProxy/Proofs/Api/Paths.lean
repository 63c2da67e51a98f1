import ExplorerProxy.Proofs.Api.Delivery
import ExplorerProxy.Proofs.Api.Separation
import ExplorerProxy.Proofs.Service.Visits
import ExplorerProxy.Proofs.Text.Percent
import ExplorerProxy.Proofs.Wire.RoundTrip

/-!
# Paths of lookups

The path of a lookup is split at its slashes, and only then its segments are decoded.
What follows depends on the two decoded texts alone, so that all spellings of a pair do
the same. A path with a segment that is no text is refused before anything is done.
-/

namespace ExplorerProxy.Api

set_option autoImplicit false

def lookupPath (k : Kind) (segment₁ segment₂ : String) : List Char :=
  ['/'].intercalate [[], k.name.toList, segment₁.toList, segment₂.toList]

theorem lookupPath_eq (k : Kind) (segment₁ segment₂ : String) :
    lookupPath k segment₁ segment₂ =
      '/' :: (k.name.toList ++ '/' :: (segment₁.toList ++ '/' :: segment₂.toList)) := by
  simp [lookupPath]

/-- The target of a request has the path of a lookup, with these segments as they stand. -/
structure AsksAt (target : String) (k : Kind) (segment₁ segment₂ : String) : Prop where
  path : pathOf target.toList = lookupPath k segment₁ segment₂
  unbroken₁ : '/' ∉ segment₁.toList
  unbroken₂ : '/' ∉ segment₂.toList
  nonempty : segment₂ ≠ ""

theorem pathOf_append {path query : List Char} (hpath : ∀ c ∈ path, c ≠ '?' ∧ c ≠ '#')
    (hquery : ∀ c ∈ query.head?, c = '?' ∨ c = '#') :
    pathOf ('/' :: path ++ query) = '/' :: path := by
  have hkept : ∀ c ∈ '/' :: path, (c != '?' && c != '#') = true := by
    intro c hc
    rcases List.mem_cons.mp hc with rfl | hc
    · rfl
    · simp only [Bool.and_eq_true, bne_iff_ne]
      exact hpath c hc
  have hstop : ∀ c ∈ query.head?, (c != '?' && c != '#') = false := by
    intro c hc
    rcases hquery c hc with rfl | rfl <;> rfl
  rw [pathOf, takeWhile_append_of_head hkept hstop]
  rfl

theorem pathOf_lookupPath (k : Kind) {segment₁ segment₂ : String} {query : List Char}
    (h : ∀ c ∈ ['?', '#'], c ∉ segment₁.toList ∧ c ∉ segment₂.toList)
    (hquery : ∀ c ∈ query.head?, c = '?' ∨ c = '#') :
    pathOf (lookupPath k segment₁ segment₂ ++ query) = lookupPath k segment₁ segment₂ := by
  have hname : ∀ c ∈ ['?', '#'], c ∉ k.name.toList := by
    intro c hc
    simp only [List.mem_cons, List.not_mem_nil, or_false] at hc
    rcases hc with rfl | rfl <;> cases k <;> decide
  rw [lookupPath_eq]
  refine pathOf_append (fun c hc => ?_) hquery
  have hparts : ∀ d ∈ ['?', '#'], c ≠ d := by
    rintro d hd rfl
    simp only [List.mem_append, List.mem_cons] at hc
    rcases hc with hc | rfl | hc | rfl | hc
    · exact hname c hd hc
    · exact absurd hd (by decide)
    · exact (h c hd).1 hc
    · exact absurd hd (by decide)
    · exact (h c hd).2 hc
  exact ⟨hparts '?' (by decide), hparts '#' (by decide)⟩

theorem ofPath?_lookupPath (k : Kind) {segment₁ segment₂ : String} (h₁ : '/' ∉ segment₁.toList)
    (h₂ : '/' ∉ segment₂.toList) (hne : segment₂ ≠ "") :
    Route.ofPath? (lookupPath k segment₁ segment₂) = some (.lookup k segment₁ segment₂) := by
  have hsplit : (lookupPath k segment₁ segment₂).splitOn '/' =
      [[], k.name.toList, segment₁.toList, segment₂.toList] := by
    refine List.splitOn_intercalate '/' ?_ (List.cons_ne_nil _ _)
    have hname : '/' ∉ k.name.toList := by cases k <;> decide
    simp [hname, h₁, h₂]
  have hempty : segment₂.isEmpty = false := by
    rw [Bool.eq_false_iff]
    exact fun h => hne (String.isEmpty_iff.mp h)
  rw [Route.ofPath?, hsplit]
  simp only [List.map_cons, List.map_nil, String.ofList_toList]
  cases k <;> simp [Kind.name, hempty]

theorem AsksAt.route {target : String} {k : Kind} {segment₁ segment₂ : String}
    (h : AsksAt target k segment₁ segment₂) :
    Route.ofPath? (pathOf target.toList) = some (.lookup k segment₁ segment₂) := by
  rw [h.path]
  exact ofPath?_lookupPath k h.unbroken₁ h.unbroken₂ h.nonempty

/-- The target is a spelling of a lookup: its segments are decoded to these texts. -/
def Spells (target : String) (k : Kind) (network address : String) : Prop :=
  ∃ segment₁ segment₂, AsksAt target k segment₁ segment₂ ∧
    Text.percentDecode? segment₁ = some network ∧ Text.percentDecode? segment₂ = some address

theorem decodeSegments_of_decoded {segment₁ segment₂ network address : String}
    (h₁ : Text.percentDecode? segment₁ = some network)
    (h₂ : Text.percentDecode? segment₂ = some address) :
    decodeSegments segment₁ segment₂ = .ok (network, address) := by
  rw [decodeSegments, h₁]
  simp only [h₂]

def refusedSegment (segment₁ : String) : String :=
  if Text.percentDecode? segment₁ = none then "network" else "token_address"

theorem decodeSegments_of_undecodable {segment₁ segment₂ : String}
    (h : Text.percentDecode? segment₁ = none ∨ Text.percentDecode? segment₂ = none) :
    decodeSegments segment₁ segment₂ = .error (refusedSegment segment₁) := by
  rw [decodeSegments, refusedSegment]
  cases h₁ : Text.percentDecode? segment₁ with
  | none => rfl
  | some network =>
    rw [h₁] at h
    simp only [h.resolve_left (Option.some_ne_none network)]
    rfl

theorem percentDecode?_append_slash {slash front back a b : String}
    (hslash : slash ∈ ["%2F", "%2f"]) (hfront : Text.percentDecode? front = some a)
    (hback : Text.percentDecode? back = some b) :
    Text.percentDecode? (front ++ slash ++ back) = some (a ++ "/" ++ b) := by
  have hmark : Text.utf8Bytes "/" = [0x2f] := by decide +kernel
  simp only [List.mem_cons, List.not_mem_nil, or_false] at hslash
  rcases hslash with rfl | rfl
  · have hbytes : Text.utf8Bytes "%2F" = [0x25, 0x32, 0x46] := by decide +kernel
    exact Text.percentDecode?_append_escape hbytes (by decide) hmark hfront hback
  · have hbytes : Text.utf8Bytes "%2f" = [0x25, 0x32, 0x66] := by decide +kernel
    exact Text.percentDecode?_append_escape hbytes (by decide) hmark hfront hback

/-- A client that escapes the bytes of a class can put any text in a segment: the slash and
the marks that end a path do not stand as themselves. -/
structure EscapesSegments (escape : UInt8 → Bool) : Prop where
  decodable : Text.Escapes escape
  apart : ∀ b, escape b = false → ∀ c ∈ ['/', '?', '#'], Char.ofNat b.toNat ≠ c

example : EscapesSegments fun _ => true := ⟨nofun, nofun⟩

section Encoded

variable {escape : UInt8 → Bool}

def encodedSegment (escape : UInt8 → Bool) (s : String) : String :=
  String.ofList (Text.percentEncode escape (Text.utf8Bytes s))

theorem EscapesSegments.notMem (h : EscapesSegments escape) {c : Char} (hc : c ∈ ['/', '?', '#'])
    (s : String) : c ∉ (encodedSegment escape s).toList := by
  rw [encodedSegment, String.toList_ofList]
  refine Text.notMem_percentEncode ?_ (fun b hb => h.apart b hb c hc) _
  simp only [List.mem_cons, List.not_mem_nil, or_false] at hc
  rcases hc with rfl | rfl | rfl <;> exact ⟨by decide, by decide⟩

/-- Every pair of texts is asked for by a path, whatever slashes there are in them. -/
theorem spells_encoded (h : EscapesSegments escape) (k : Kind) (network : String)
    {address : String} (hne : address ≠ "") {query : List Char}
    (hquery : ∀ c ∈ query.head?, c = '?' ∨ c = '#') :
    Spells (String.ofList (lookupPath k (encodedSegment escape network)
      (encodedSegment escape address) ++ query)) k network address := by
  have hdecode : ∀ s, Text.percentDecode? (encodedSegment escape s) = some s := fun s =>
    Text.percentDecode?_percentEncode h.decodable s
  refine ⟨_, _, ⟨?_, h.notMem (by decide) _, h.notMem (by decide) _, ?_⟩, hdecode network,
    hdecode address⟩
  · rw [String.toList_ofList]
    refine pathOf_lookupPath k (fun c hc => ?_) hquery
    have hmem : c ∈ ['/', '?', '#'] := List.mem_cons_of_mem _ hc
    exact ⟨h.notMem hmem _, h.notMem hmem _⟩
  · intro hempty
    have hnil : Text.percentDecode? "" = some "" := by decide +kernel
    exact hne (Option.some.inj ((hdecode address).symm.trans (hempty ▸ hnil)))

end Encoded

theorem AsksAt.spells {target : String} {k : Kind} {segment₁ segment₂ network address : String}
    (h : AsksAt target k segment₁ segment₂) (h₁ : Text.percentDecode? segment₁ = some network)
    (h₂ : Text.percentDecode? segment₂ = some address) : Spells target k network address :=
  ⟨segment₁, segment₂, h, h₁, h₂⟩

/-- The response gives a value as its JSON text: the addresses of holders as an array of
texts, an interface as it is. -/
def Delivers (r : Response) : (k : Kind) → k.Value → Prop
  | .holders, holders =>
    r = ⟨200, some "application/json", none, (Json.array (holders.map .string)).write⟩
  | .abi, abi => r = ⟨200, some "application/json", none, abi.write⟩

/-- The response tells of a failure: a JSON object with its code and a text. -/
structure Reports (r : Response) (f : Failure) (text : String) : Prop where
  status : r.status = f.statusCode.1
  contentType : r.contentType = some "application/json"
  allow : r.allow = none
  body : r.body = (Json.object [("code", .string f.statusCode.2), ("message", .string text)]).write
  read : Wire.read ErrorBody r.body = .ok ⟨f.statusCode.2, text⟩

theorem reports_response (f : Failure) : Reports f.response f f.message :=
  ⟨rfl, rfl, rfl, rfl, Wire.read_write f.body⟩

def Tells (r : Response) (k : Kind) : Except FetchError k.Value → Prop
  | .ok v => Delivers r k v
  | .error e => Reports r (.lookup e) e.message

theorem tells_lookupResponse (k : Kind) (answer : Except FetchError k.Value) :
    Tells (lookupResponse k answer) k answer := by
  cases answer with
  | ok v => cases k <;> rfl
  | error e => exact reports_response _

section Handle

variable [Timer] (source : Source) (w : Session) {target target' : String} {k : Kind}
  {segment₁ segment₂ network address : String}

theorem handle_of_undecodable (h : AsksAt target k segment₁ segment₂)
    (hbad : Text.percentDecode? segment₁ = none ∨ Text.percentDecode? segment₂ = none) :
    handle source w "GET" target =
      ⟨(undecodable (refusedSegment segment₁)).response, [], [], w⟩ := by
  simp only [handle, h.route, if_true, handleRoute, handleLookup,
    decodeSegments_of_undecodable hbad]
  rfl

theorem handle_eq_of_spells (h : Spells target k network address)
    (h' : Spells target' k network address) :
    handle source w "GET" target' = handle source w "GET" target := by
  obtain ⟨segment₁, segment₂, hpath, h₁, h₂⟩ := h
  obtain ⟨segment₁', segment₂', hpath', h₁', h₂'⟩ := h'
  simp only [handle, hpath.route, hpath'.route, if_true, handleRoute, handleLookup,
    decodeSegments_of_decoded h₁ h₂, decodeSegments_of_decoded h₁' h₂']

theorem handle_of_spells (h : Spells target k network address) :
    (handle source w "GET" target).answer =
        lookupResponse k (w.lookup source k network address).answer ∧
      (handle source w "GET" target).calls = (w.lookup source k network address).calls ∧
      (handle source w "GET" target).session = (w.lookup source k network address).session := by
  obtain ⟨segment₁, segment₂, hpath, h₁, h₂⟩ := h
  exact handle_get_lookup source w hpath.route (decodeSegments_of_decoded h₁ h₂)

theorem handle_again (h' : Spells target' k network address) {v : k.Value}
    (hv : (w.lookup source k network address).answer = .ok v)
    (hcap : (w.service.cache k).capacity ≠ 0) (source' : Source) :
    let again := handle source' (w.lookup source k network address).session "GET" target'
    again.answer = lookupResponse k (.ok v) ∧ again.calls = [] := by
  intro again
  obtain ⟨n, hn, hheld⟩ := Session.value?_of_lookup_ok source w k hv hcap
  obtain ⟨hanswer, hcalls, _⟩ :=
    handle_of_spells source' (w.lookup source k network address).session h'
  obtain ⟨hanswer', hcalls', _⟩ := Session.lookup_of_held source' _ k hn hheld
  exact ⟨hanswer.trans (congrArg _ hanswer'), hcalls.trans hcalls'⟩

end Handle

theorem AsksAt.lookupOf?_eq {target : String} {k : Kind} {segment₁ segment₂ : String}
    (h : AsksAt target k segment₁ segment₂) :
    (∃ network address, Spells target k network address ∧
      lookupOf? "GET" target = some ⟨k, network, address⟩) ∨
    ((Text.percentDecode? segment₁ = none ∨ Text.percentDecode? segment₂ = none) ∧
      lookupOf? "GET" target = none) := by
  have hlookup : lookupOf? "GET" target = (Route.lookup k segment₁ segment₂).request? := by
    rw [lookupOf?, if_pos (Or.inl rfl), h.route]
    rfl
  rw [hlookup, Route.request?]
  cases h₁ : Text.percentDecode? segment₁ with
  | none =>
    rw [decodeSegments_of_undecodable (Or.inl h₁)]
    exact .inr ⟨.inl rfl, rfl⟩
  | some network =>
    cases h₂ : Text.percentDecode? segment₂ with
    | none =>
      rw [decodeSegments_of_undecodable (Or.inr h₂)]
      exact .inr ⟨.inr rfl, rfl⟩
    | some address =>
      rw [decodeSegments_of_decoded h₁ h₂]
      exact .inl ⟨network, address, h.spells h₁ h₂, rfl⟩

/-- Lookups that come one after another, with what each comes to and its calls. -/
def lookups [Timer] (source : Source) (w : Session) : List Request → List Visit × Session
  | [] => ([], w)
  | r :: more =>
    let one := w.visit source r
    let rest := lookups source one.session more
    (⟨r, one.answer, one.calls⟩ :: rest.1, rest.2)

structure Shows (x : Served) (visit : Visit) : Prop where
  request : lookupOf? x.method x.target = some visit.request
  tells : Tells x.response visit.request.kind visit.answer
  calls : x.calls = visit.calls

/-- Paths of lookups are served as the lookups of their texts are, one after another, as
if those that cannot be decoded had not come. -/
theorem serve_shows_lookups [Timer] (source : Source) (w : Session) {targets : List String}
    (h : ∀ t ∈ targets, ∃ k segment₁ segment₂, AsksAt t k segment₁ segment₂) :
    let served := serve source w (targets.map fun t => ("GET", t))
    let plain := lookups source w (targets.filterMap (lookupOf? "GET"))
    List.Forall₂ Shows (served.1.filter fun x => (lookupOf? x.method x.target).isSome) plain.1 ∧
      served.2 = plain.2 := by
  intro served plain
  induction targets generalizing w with
  | nil => exact ⟨.nil, rfl⟩
  | cons target more ih =>
    have hmore : ∀ t ∈ more, ∃ k segment₁ segment₂, AsksAt t k segment₁ segment₂ :=
      fun t ht => h t (List.mem_cons_of_mem _ ht)
    obtain ⟨k, segment₁, segment₂, hpath⟩ := h target List.mem_cons_self
    rcases hpath.lookupOf?_eq with ⟨network, address, hspells, hlookup⟩ | ⟨hbad, hlookup⟩
    · obtain ⟨hanswer, hcalls, hsession⟩ := handle_of_spells source w hspells
      obtain ⟨hrest, hend⟩ := ih (w.lookup source k network address).session hmore
      simp only [served, plain, List.map_cons, serve, List.filterMap_cons, hlookup, lookups,
        hsession]
      rw [List.filter_cons_of_pos (by rw [hlookup]; rfl)]
      refine ⟨.cons ⟨hlookup, ?_, hcalls⟩ hrest, hend⟩
      rw [hanswer]
      exact tells_lookupResponse k _
    · obtain ⟨hrest, hend⟩ := ih w hmore
      have hidle := handle_of_undecodable source w hpath hbad
      simp only [served, plain, List.map_cons, serve, List.filterMap_cons, hlookup, hidle]
      rw [List.filter_cons_of_neg (by rw [hlookup]; exact Bool.false_ne_true)]
      exact ⟨hrest, hend⟩

/-- A request at the path of a lookup. If both segments are texts once they are decoded, it
is told what the lookup of these texts comes to, a value by its JSON text, leads to the same
calls and leaves the same behind; for another spelling of them all is the same, and after a
success the value is at hand. An escaped slash is decoded within its segment. If a segment
is no text, the request is refused, and nothing is done. All failures are told as objects
with their own texts. -/
theorem get_at_lookup_path [Timer] (source : Source) (w : Session) {target : String} {k : Kind}
    {segment₁ segment₂ : String} (h : AsksAt target k segment₁ segment₂) :
    let response := handle source w "GET" target
    (∀ network address, Text.percentDecode? segment₁ = some network →
      Text.percentDecode? segment₂ = some address →
      let found := w.lookup source k network address
      (∀ v, found.answer = .ok v → Delivers response.answer k v) ∧
      (∀ e, found.answer = .error e → Reports response.answer (.lookup e) e.message) ∧
      (response.answer = lookupResponse k found.answer ∧ response.calls = found.calls ∧
        response.session = found.session) ∧
      ∀ target', Spells target' k network address →
        handle source w "GET" target' = response ∧
        ∀ v, found.answer = .ok v → (w.service.cache k).capacity ≠ 0 → ∀ source' : Source,
          let again := handle source' response.session "GET" target'
          again.answer = response.answer ∧ again.calls = []) ∧
    (∀ slash ∈ ["%2F", "%2f"], ∀ segment ∈ [segment₁, segment₂], ∀ front back a b,
      segment = front ++ slash ++ back → Text.percentDecode? front = some a →
      Text.percentDecode? back = some b →
      Text.percentDecode? segment = some (a ++ "/" ++ b)) ∧
    (Text.percentDecode? segment₁ = none ∨ Text.percentDecode? segment₂ = none →
      let message := s!"Invalid URL: Invalid UTF-8 in `{refusedSegment segment₁}`"
      response.answer = errorResponse 400 "INVALID_REQUEST" message ∧
      Reports response.answer (.badRequest message) message ∧ response.calls = [] ∧
      response.session = w) ∧
    (∀ targets : List String,
      (∀ t ∈ targets, ∃ k segment₁ segment₂, AsksAt t k segment₁ segment₂) →
      let served := serve source w (targets.map fun t => ("GET", t))
      let plain := lookups source w (targets.filterMap (lookupOf? "GET"))
      List.Forall₂ Shows (served.1.filter fun x => (lookupOf? x.method x.target).isSome) plain.1 ∧
        served.2 = plain.2) := by
  intro response
  refine ⟨?_, ?_, ?_, ?_⟩
  · intro network address h₁ h₂ found
    have hspells := h.spells h₁ h₂
    obtain ⟨hanswer, hcalls, hsession⟩ := handle_of_spells source w hspells
    have htells : Tells response.answer k found.answer := hanswer ▸ tells_lookupResponse k _
    refine ⟨?_, ?_, ⟨hanswer, hcalls, hsession⟩, ?_⟩
    · intro v hv
      rwa [hv] at htells
    · intro e he
      rwa [he] at htells
    · intro target' hspells'
      refine ⟨handle_eq_of_spells source w hspells hspells', ?_⟩
      intro v hv hcap source' again
      obtain ⟨hagain, hidle⟩ := handle_again source w hspells' hv hcap source'
      rw [← hsession] at hagain hidle
      exact ⟨hagain.trans ((congrArg (lookupResponse k) hv).symm.trans hanswer.symm), hidle⟩
  · rintro slash hslash segment - front back a b rfl hfront hback
    exact percentDecode?_append_slash hslash hfront hback
  · intro hbad message
    have hrefused : response = _ := handle_of_undecodable source w h hbad
    rw [hrefused]
    exact ⟨rfl, reports_response _, rfl, rfl⟩
  · intro targets htargets
    exact serve_shows_lookups source w htargets

theorem get_at_lookup_path_of_spellings :
    let _ : Timer := .millis
    let source := Source.fixed ["0x2", "0x3"] (.array [.object [("name", .string "f")]])
    let w := Session.start (.fresh .standard 1 1)
    let first := handle source w "GET" "/holders/e%74h/a%2Fb?all"
    let second := handle source first.session "GET" "/holders/eth/a%2fb"
    let third := handle source w "GET" "/abi/eth/0x1"
    first.answer = .json 200 "[\"0x2\",\"0x3\"]" ∧
      first.calls = [⟨.holders, ⟨.eth, "a/b"⟩⟩] ∧
      second.answer = first.answer ∧ second.calls = [] ∧
      third.answer = .json 200 "[\x7b\"name\":\"f\"\x7d]" ∧
      third.calls = [⟨.abi, ⟨.eth, "0x1"⟩⟩] := by
  intro timer source w first second third
  have hpath : AsksAt "/holders/e%74h/a%2Fb?all" .holders "e%74h" "a%2Fb" :=
    ⟨by decide, by decide, by decide, by decide⟩
  have hpath' : AsksAt "/holders/eth/a%2fb" .holders "eth" "a%2fb" :=
    ⟨by decide, by decide, by decide, by decide⟩
  have hpath'' : AsksAt "/abi/eth/0x1" .abi "eth" "0x1" :=
    ⟨by decide, by decide, by decide, by decide⟩
  have hnetwork : Text.percentDecode? "e%74h" = some "eth" := by decide +kernel
  have heth : Text.percentDecode? "eth" = some "eth" := by decide +kernel
  have ha : Text.percentDecode? "a" = some "a" := by decide +kernel
  have hb : Text.percentDecode? "b" = some "b" := by decide +kernel
  have haddress' : Text.percentDecode? "a%2fb" = some "a/b" := by decide +kernel
  have haddress'' : Text.percentDecode? "0x1" = some "0x1" := by decide +kernel
  have htag : Network.ofTag? "eth" = some .eth := rfl
  have hmissing : ∀ k s, (w.service.cache k).value? s = none := by
    intro k s
    cases k <;> exact Cache.value?_empty _ s
  -- the holders, by both spellings
  obtain ⟨hserved, hslash, _⟩ := get_at_lookup_path source w hpath
  have haddress := hslash "%2F" (by decide) "a%2Fb" (by decide) "a" "b" "a" "b" (by decide) ha hb
  obtain ⟨hok, _, ⟨_, hcalls, _⟩, hspelling⟩ := hserved "eth" ("a" ++ "/" ++ "b") hnetwork haddress
  obtain ⟨hfound, hasked, _⟩ :=
    Session.lookup_of_missing source w .holders htag (hmissing .holders ⟨.eth, "a/b"⟩)
  obtain ⟨_, hagain⟩ := hspelling "/holders/eth/a%2fb" (hpath'.spells heth haddress')
  obtain ⟨hsame, hidle⟩ := hagain ["0x2", "0x3"] (hfound.trans rfl) (by decide) source
  have hfirst := hok ["0x2", "0x3"] (hfound.trans rfl)
  -- the interface
  obtain ⟨hserved', _⟩ := get_at_lookup_path source w hpath''
  obtain ⟨hok', _, ⟨_, hcalls', _⟩, _⟩ := hserved' "eth" "0x1" heth haddress''
  obtain ⟨hfound', hasked', _⟩ :=
    Session.lookup_of_missing source w .abi htag (hmissing .abi ⟨.eth, "0x1"⟩)
  have hthird := hok' (.array [.object [("name", .string "f")]]) (hfound'.trans rfl)
  refine ⟨hfirst.trans (by decide +kernel), hcalls.trans (hasked.trans rfl), hsame, hidle,
    hthird.trans (by decide +kernel), hcalls'.trans (hasked'.trans rfl)⟩

end ExplorerProxy.Api
