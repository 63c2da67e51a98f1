import ExplorerProxy.Proofs.Cache.AsList
import ExplorerProxy.Proofs.Service.Budget
import ExplorerProxy.Proofs.Service.Provenance

/-!
# Failures leave no trace

A request that ends with an error, or whose client goes away before it has its answer,
has changed nothing but that its lookup was counted as a miss. So the next request for
the same subject does not see it, and has all attempts for itself.
-/

namespace ExplorerProxy

set_option autoImplicit false

namespace Cache

variable {κ ν : Type} [BEq κ] [Hashable κ] {c d : Cache κ ν}

/-- Between two states of a cache nothing has changed but, perhaps, the count of misses
and the stamp of the next use. -/
structure Undisturbed (c d : Cache κ ν) : Prop where
  capacity : d.capacity = c.capacity
  entries : d.entries = c.entries
  recency : d.recency = c.recency
  hits : d.hits = c.hits
  evictions : d.evictions = c.evictions
  held : d.held = c.held

theorem Undisturbed.refl (c : Cache κ ν) : c.Undisturbed c := ⟨rfl, rfl, rfl, rfl, rfl, rfl⟩

theorem Undisturbed.value?_eq (h : c.Undisturbed d) (k : κ) : d.value? k = c.value? k := by
  rw [value?, value?, h.entries]

theorem Undisturbed.keysByUse_eq (h : c.Undisturbed d) : d.keysByUse = c.keysByUse := by
  rw [keysByUse, keysByUse, h.recency]

theorem Undisturbed.victim_eq (h : c.Undisturbed d) :
    d.evict?.map Prod.fst = c.evict?.map Prod.fst := by
  simp only [evict?, h.recency, Option.map_map]
  rfl

theorem Undisturbed.asList_eq (h : c.Undisturbed d) :
    d.asList = { c.asList with misses := d.misses } := by
  have hvalue : d.value? = c.value? := funext h.value?_eq
  simp only [asList, items, hvalue, h.keysByUse_eq, h.capacity, h.hits, h.evictions]

theorem undisturbed_get {k : κ} (h : c.value? k = none) :
    c.Undisturbed (c.get k).2 ∧ (c.get k).2.misses = c.misses + 1 := by
  have hentry : c.entries[k]? = none := by simpa [value?] using h
  rw [get_of_none hentry]
  exact ⟨⟨rfl, rfl, rfl, rfl, rfl, rfl⟩, rfl⟩

end Cache

/-- A lookup of some kind has been missed, and nothing else has changed. -/
structure Service.Missed (k : Kind) (s s' : Service) : Prop where
  policy : s'.policy = s.policy
  others : ∀ j, j ≠ k → s'.cache j = s.cache j
  undisturbed : (s.cache k).Undisturbed (s'.cache k)
  misses : (s'.cache k).misses = (s.cache k).misses + 1

theorem Service.Missed.undisturbed_all {k : Kind} {s s' : Service} (h : Missed k s s') (j : Kind) :
    (s.cache j).Undisturbed (s'.cache j) := by
  by_cases hj : j = k
  · subst hj
    exact h.undisturbed
  · rw [h.others j hj]
    exact .refl _

theorem Service.missed_get {s : Service} {k : Kind} {x : Subject}
    (h : (s.cache k).value? x = none) :
    Missed k s (s.withCache k ((s.cache k).get x).2) := by
  obtain ⟨hundisturbed, hmisses⟩ := Cache.undisturbed_get h
  refine ⟨policy_withCache _ _ _, fun j hj => cache_withCache_of_ne s hj _, ?_, ?_⟩
  · rwa [cache_withCache_self]
  · rwa [cache_withCache_self]

def Unchanged (own : OwnSteps) : Prop := ∀ p ∈ own, p.2 = p.1

/-- The first step was a lookup that missed, and the others have changed nothing. -/
def OneMiss (k : Kind) (own : OwnSteps) : Prop :=
  ∃ later first, own = later ++ [first] ∧ Unchanged later ∧ first.1.Missed k first.2

theorem Unchanged.cons {own : OwnSteps} (h : Unchanged own) (s : Service) :
    Unchanged ((s, s) :: own) := by
  intro p hp
  rcases List.mem_cons.mp hp with rfl | hp
  · rfl
  · exact h p hp

theorem OneMiss.cons {k : Kind} {own : OwnSteps} (h : OneMiss k own) (s : Service) :
    OneMiss k ((s, s) :: own) := by
  obtain ⟨later, first, rfl, hlater, hfirst⟩ := h
  exact ⟨(s, s) :: later, first, rfl, hlater.cons s, hfirst⟩

def Deed.isLook : Deed → Bool
  | .looked _ _ _ => true
  | _ => false

def Deed.isStore : Deed → Bool
  | .stored _ _ _ _ => true
  | _ => false

namespace Flight

/-- The request has no value as its answer: it is on its way, has failed, or was dropped. -/
def Unserved (f : Flight) : Prop := ∀ v, f.phase ≠ .answered (.ok v)

theorem unserved_of_isOver {f : Flight} (h : f.phase.isOver = false) : f.Unserved := by
  intro v hv
  rw [hv] at h
  cases h

theorem unserved_of_error {f : Flight} {e : FetchError} (h : f.phase = .answered (.error e)) :
    f.Unserved := by
  intro v hv
  cases h.symm.trans hv

/-- What a request leaves behind that stores nothing. -/
structure Traceless (f : Flight) (ds : List Deed) (own : OwnSteps) : Prop where
  stored : ∀ d ∈ ds, d.isStore = false
  known : (∃ d ∈ ds, d.isLook = true) → Network.ofTag? f.request.network ≠ none
  looked : (∃ d ∈ ds, d.isLook = true) → OneMiss f.request.kind own
  unlooked : (∀ d ∈ ds, d.isLook = false) → Unchanged own

theorem Traceless.unchanged {f : Flight} {ds : List Deed} {own : OwnSteps}
    (h : f.Traceless ds own) (hnone : ¬ ∃ d ∈ ds, d.isLook = true) : Unchanged own := by
  apply h.unlooked
  intro d hd
  exact Bool.eq_false_iff.mpr fun hlook => hnone ⟨d, hd, hlook⟩

theorem Traceless.undisturbed {f : Flight} {ds : List Deed} {own : OwnSteps}
    (h : f.Traceless ds own) {p : Service × Service} (hp : p ∈ own) (k : Kind) :
    (p.1.cache k).Undisturbed (p.2.cache k) := by
  by_cases hlook : ∃ d ∈ ds, d.isLook = true
  · obtain ⟨later, first, rfl, hlater, hfirst⟩ := h.looked hlook
    rcases List.mem_append.mp hp with hp | hp
    · rw [hlater p hp]
      exact .refl _
    · obtain rfl := List.mem_singleton.mp hp
      exact hfirst.undisturbed_all k
  · rw [h.unchanged hlook p hp]
    exact .refl _

theorem traceless_nil (f : Flight) : f.Traceless [] [] where
  stored := fun _ hd => absurd hd List.not_mem_nil
  known := fun ⟨_, hd, _⟩ => absurd hd List.not_mem_nil
  looked := fun ⟨_, hd, _⟩ => absurd hd List.not_mem_nil
  unlooked := fun _ _ hp => absurd hp List.not_mem_nil

theorem Traceless.quiet {f g : Flight} {ds : List Deed} {own : OwnSteps}
    (h : f.Traceless ds own) (hrequest : g.request = f.request) {new : List Deed}
    (hnew : new.any (fun d => d.isStore || d.isLook) = false) {s : Service} :
    g.Traceless (new ++ ds) ((s, s) :: own) := by
  have hnew : ∀ d ∈ new, d.isStore = false ∧ d.isLook = false := by simpa using hnew
  have hlooks : (∃ d ∈ new ++ ds, d.isLook = true) → ∃ d ∈ ds, d.isLook = true := by
    rintro ⟨d, hd, hlook⟩
    rcases List.mem_append.mp hd with hd | hd
    · rw [(hnew d hd).2] at hlook
      cases hlook
    · exact ⟨d, hd, hlook⟩
  refine ⟨?_, ?_, ?_, ?_⟩
  · intro d hd
    rcases List.mem_append.mp hd with hd | hd
    · exact (hnew d hd).1
    · exact h.stored d hd
  · exact fun hlook => hrequest ▸ h.known (hlooks hlook)
  · exact fun hlook => hrequest ▸ (h.looked (hlooks hlook)).cons s
  · exact fun hnone => (h.unlooked fun d hd => hnone d (List.mem_append_right _ hd)).cons s

/-- A request that has just come has done nothing; one that has no value as its answer
leaves nothing behind but a miss. -/
def Clean (f : Flight) (ds : List Deed) (own : OwnSteps) : Prop :=
  (f.phase = .arrived → ds = [] ∧ own = []) ∧ (f.Unserved → f.Traceless ds own)

theorem clean_start (now : Nat) (r : Request) : (start now r).Clean [] [] :=
  ⟨fun _ => ⟨rfl, rfl⟩, fun _ => traceless_nil _⟩

section Moves

variable {source : Source} {w : Session} {f g : Flight} {new ds : List Deed} {s : Service}
  {own : OwnSteps}

theorem Moved.phase_ne_arrived (h : f.Moved source w g new s) : g.phase ≠ .arrived := by
  cases h with
  | called hp hr reply due =>
    intro hg
    cases hp.symm.trans hg
  | _ =>
    intro hg
    cases hg

theorem Clean.moved (h : f.Clean ds own) (hm : f.Moved source w g new s) :
    g.Clean (new ++ ds) ((w.service, s) :: own) := by
  refine ⟨fun hg => absurd hg hm.phase_ne_arrived, fun hu => ?_⟩
  -- a request that could take a step had no answer before it
  have hfrom : ∀ {p}, f.phase = p → p.isOver = false → f.Traceless ds own := by
    rintro p rfl hover
    exact h.2 (unserved_of_isOver hover)
  cases hm with
  | unknown hp hn => exact (hfrom hp rfl).quiet (by rfl) (by rfl)
  | held hp hn hv => exact absurd rfl (hu _)
  | missing hp hn hv =>
    obtain ⟨rfl, rfl⟩ := h.1 hp
    refine ⟨?_, ?_, ?_, ?_⟩
    · simp [Deed.isStore]
    · intro _ hnone
      cases hn.symm.trans hnone
    · exact fun _ => ⟨[], _, rfl, fun _ hp => absurd hp List.not_mem_nil, Service.missed_get hv⟩
    · intro hnone
      cases hnone _ List.mem_cons_self
  | called hp => exact (hfrom hp rfl).quiet (by rfl) (by rfl)
  | found hp => exact (hfrom hp rfl).quiet (by rfl) (by rfl)
  | again hp => exact (hfrom hp rfl).quiet (by rfl) (by rfl)
  | failed hp => exact (hfrom hp rfl).quiet (by rfl) (by rfl)
  | rested hp => exact (hfrom hp rfl).quiet (by rfl) (by rfl)
  | stored hp added => exact absurd rfl (hu _)

theorem Clean.drop (h : f.Clean ds own) (hover : f.phase.isOver = false) (s : Service) :
    f.drop.Clean ds ((s, s) :: own) := by
  have hquiet : f.drop.Traceless ([] ++ ds) ((s, s) :: own) :=
    (h.2 (unserved_of_isOver hover)).quiet (by rfl) (by rfl)
  refine ⟨fun hg => ?_, fun _ => hquiet⟩
  obtain ⟨request, phase, reply?, due⟩ := f
  cases phase <;> cases hg

end Moves

end Flight

namespace Traffic

/-- Nobody but request number `i` has stored anything under a subject. -/
def NobodyElseStored (t : Traffic) (i : Nat) (k : Kind) (subject : Subject) : Prop :=
  ∀ j v new, j ≠ i → (j, .stored k subject v new) ∉ t.history

theorem nobodyElseStored_of_all {t : Traffic} {i : Nat} {k : Kind} {subject : Subject}
    (h : t.history.all (·.1 == i) = true) : t.NobodyElseStored i k subject := by
  intro j v new hj hmem
  exact hj (eq_of_beq (List.all_eq_true.mp h _ hmem))

variable [Timer] {source : Source} {policy : RetryPolicy} {holdersCapacity abiCapacity i : Nat}
  {own : OwnSteps} {t : Traffic} {f : Flight}

theorem Watched.clean (h : Watched source policy holdersCapacity abiCapacity i own t)
    (hf : t.flights[i]? = some f) : f.Clean (t.history.record i) own := by
  refine (h.invariant Flight.Clean ?_ ?_ ?_).2 f hf
  · exact Flight.clean_start
  · exact fun w f g new ds s own _ hm hclean => hclean.moved hm
  · exact fun s f ds own hover hclean => hclean.drop hover s

theorem Watched.value?_eq_none (h : Watched source policy holdersCapacity abiCapacity i own t)
    (hf : t.flights[i]? = some f) (hu : f.Unserved) {k : Kind} {subject : Subject}
    (hnobody : t.NobodyElseStored i k subject) :
    (t.session.service.cache k).value? subject = none := by
  rw [Option.eq_none_iff_forall_ne_some]
  intro v hv
  obtain ⟨later, j, new, earlier, hhistory, _, _⟩ := h.reachable.consistent.held k subject v hv
  have hmem : (j, .stored k subject v new) ∈ t.history := by
    rw [hhistory]
    exact List.mem_append_right later List.mem_cons_self
  by_cases hj : j = i
  · subst hj
    cases ((h.clean hf).2 hu).stored _ ((t.history.mem_record).mpr hmem)
  · exact hnobody j v new hj hmem

theorem Step.history_eq {t t' : Traffic} (h : Step source t t') :
    ∃ ds, t'.history = ds ++ t.history := by
  cases h with
  | move i f hf hover => exact ⟨_, rfl⟩
  | _ => exact ⟨[], rfl⟩

theorem history_eq_of_steps {t t' : Traffic}
    (h : Relation.ReflTransGen (Step source) t t') : ∃ ds, t'.history = ds ++ t.history := by
  induction h with
  | refl => exact ⟨[], rfl⟩
  | tail _ hstep ih =>
    obtain ⟨ds, hds⟩ := ih
    obtain ⟨more, hmore⟩ := hstep.history_eq
    exact ⟨more ++ ds, by rw [hmore, hds, List.append_assoc]⟩

theorem calls_of_missed (h : Reachable source policy holdersCapacity abiCapacity t) {j : Nat}
    {k : Kind} {subject : Subject} (hlooked : (j, .looked k subject none) ∈ t.history)
    {t' : Traffic} (hsteps : Relation.ReflTransGen (Step source) t t') {g : Flight}
    (hg : t'.flights[j]? = some g) {a : Except FetchError g.request.kind.Value}
    (ha : g.phase = .answered a) :
    1 ≤ callsIn (t'.history.record j) ∧
      callsIn (t'.history.record j) ≤ policy.limit.toNat ∧
      ∀ e, a = .error e → e.isTransient = true →
        callsIn (t'.history.record j) = policy.limit.toNat := by
  obtain ⟨own, hwatched⟩ := Reachable.watched (h.trans hsteps) j
  have hbudget := hwatched.inBudget hg
  simp only [Flight.InBudget, ha] at hbudget
  obtain ⟨hle, hpos, hall⟩ := hbudget
  obtain ⟨ds, hds⟩ := history_eq_of_steps hsteps
  refine ⟨hpos ⟨k, subject, ?_⟩, hle, hall⟩
  rw [History.mem_record, hds]
  exact List.mem_append_right ds hlooked

def Looked (t : Traffic) (i : Nat) : Prop := ∃ d ∈ t.history.record i, d.isLook = true

/-- A request that has not looked yet starts from its first attempt, if nobody but a
request without a value can have stored something for its subject. -/
theorem Watched.move_of_nobodyElseStored
    (h : Watched source policy holdersCapacity abiCapacity i own t) (hf : t.flights[i]? = some f)
    (hu : f.Unserved) {j : Nat} {g : Flight} (hg : t.flights[j]? = some g)
    (hp : g.phase = .arrived) {subject : Subject} (habout : g.request.About subject)
    (hnobody : t.NobodyElseStored i g.request.kind subject) :
    (t.move source j g).flights[j]? = some (g.goTo (.calling subject 1) t.session.now) ∧
      (j, .looked g.request.kind subject none) ∈ (t.move source j g).history := by
  obtain ⟨n, address⟩ := subject
  obtain ⟨hn, rfl⟩ := habout
  rw [move_of_missing hp hn (h.value?_eq_none hf hu hnobody)]
  exact ⟨List.getElem?_set_self (List.getElem?_eq_some_iff.mp hg).1, List.mem_cons_self⟩

end Traffic

open Traffic in
/-- In every state, a request without a value as its answer has changed nothing by its own
steps, but for one miss of its kind if it looked into a cache, and nothing at all if its
network is unknown. The key that a cache would drop next and all that it holds, in the order
of use, stay the same, and it has stored nothing. A later request for the same subject, for
which nobody else has stored anything, starts from its first attempt, and is not answered
before it has made a call, nor with a failure that might pass before it has made all the
calls that the policy allows. -/
theorem unserved_leaves_no_trace [Timer] {source : Source} {policy : RetryPolicy}
    {holdersCapacity abiCapacity i : Nat} {own : OwnSteps} {t : Traffic}
    (h : Watched source policy holdersCapacity abiCapacity i own t) {f : Flight}
    (hf : t.flights[i]? = some f) (hu : f.Unserved) :
    (t.Looked i → OneMiss f.request.kind own) ∧
    (¬ t.Looked i → Unchanged own) ∧
    (Network.ofTag? f.request.network = none → Unchanged own) ∧
    (∀ p ∈ own, ∀ k,
      (p.2.cache k).evict?.map Prod.fst = (p.1.cache k).evict?.map Prod.fst ∧
      (p.2.cache k).asList = { (p.1.cache k).asList with misses := (p.2.cache k).misses }) ∧
    (∀ d ∈ t.history.record i, d.isStore = false) ∧
    ∀ (j : Nat) (g : Flight) (subject : Subject), t.flights[j]? = some g → g.phase = .arrived →
      g.request.kind = f.request.kind → f.request.About subject → g.request.About subject →
      t.NobodyElseStored i f.request.kind subject →
      (t.move source j g).flights[j]? = some (g.goTo (.calling subject 1) t.session.now) ∧
        ∀ (t' : Traffic) (g' : Flight) a,
          Relation.ReflTransGen (Step source) (t.move source j g) t' →
          t'.flights[j]? = some g' → g'.phase = .answered a →
          1 ≤ callsIn (t'.history.record j) ∧
            callsIn (t'.history.record j) ≤ policy.limit.toNat ∧
            ∀ e, a = .error e → e.isTransient = true →
              callsIn (t'.history.record j) = policy.limit.toNat := by
  have hclean := (h.clean hf).2 hu
  refine ⟨hclean.looked, hclean.unchanged, ?_, ?_, hclean.stored, ?_⟩
  · exact fun hn => hclean.unchanged fun hlook => hclean.known hlook hn
  · intro p hp k
    have hsame := hclean.undisturbed hp k
    exact ⟨hsame.victim_eq, hsame.asList_eq⟩
  · intro j g subject hg hp hkind _ habout hnobody
    obtain ⟨hflight, hlooked⟩ := h.move_of_nobodyElseStored hf hu hg hp habout (hkind ▸ hnobody)
    have hreach := h.reachable.tail (.move j g hg (by rw [hp]; rfl))
    exact ⟨hflight, fun t' g' a hsteps hg' ha => calls_of_missed hreach hlooked hsteps hg' ha⟩

theorem unserved_leaves_no_trace_of_failed :
    ∃ (_ : Timer) (source : Source) (own : OwnSteps) (t : Traffic) (f g : Flight),
      Traffic.Watched source .never 1 1 0 own t ∧
      t.flights[0]? = some f ∧ f.Unserved ∧ f.phase.isOver = true ∧ OneMiss f.request.kind own ∧
      t.flights[1]? = some g ∧
      (t.move source 1 g).flights[1]? =
        some (g.goTo (.calling ⟨.eth, "0x1"⟩ 1) t.session.now) := by
  let timer := Timer.millis
  let source : Source := fun _ _ _ => ⟨.error .noClient, .ofMillis 0, []⟩
  let r : Request := ⟨.abi, "eth", "0x1"⟩
  have h₁ : Traffic.Watched source .never 1 1 0 []
      (((Traffic.start .never 1 1).arrive r).arrive r) := .arrive r (.arrive r .start)
  have h₂ := h₁.own (.move (.start 0 r) rfl rfl)
  have hlooked : (((Traffic.start .never 1 1).arrive r).arrive r).move source 0 (.start 0 r) = _ :=
    Traffic.move_of_missing rfl rfl (by exact Cache.value?_empty _ _)
  rw [hlooked] at h₂
  have h₃ := h₂.own (.move _ rfl rfl)
  have h₄ := h₃.own (.move _ rfl rfl)
  have hunserved := Flight.unserved_of_error (f := ⟨r, .answered (.error .noClient), none, 0⟩) rfl
  obtain ⟨hmiss, _, _, _, _, hlater⟩ := unserved_leaves_no_trace h₄ rfl hunserved
  obtain ⟨hflight, _⟩ := hlater 1 (.start 0 r) ⟨.eth, "0x1"⟩ rfl rfl rfl ⟨rfl, rfl⟩ ⟨rfl, rfl⟩
    (Traffic.nobodyElseStored_of_all rfl)
  exact ⟨timer, source, _, _, _, _, h₄, rfl, hunserved, rfl, hmiss (List.any_eq_true.mp rfl), rfl,
    hflight⟩

end ExplorerProxy
