import ExplorerProxy.Proofs.Service.Steps
import ExplorerProxy.Proofs.Service.Traffic

/-!
# Where values come from

Whatever the order of the steps of any number of requests, a value that is held or
given as an answer was returned by a call to the source for exactly that subject and
kind, and is the latest one stored under it. Errors come from a call of the request
itself, never from a cache. The number of stamps drawn does not matter for this.
-/

namespace ExplorerProxy

set_option autoImplicit false

def Deed.Stores (k : Kind) (subject : Subject) (d : Deed) : Prop :=
  ∃ v new, d = .stored k subject v new

theorem Deed.stores_stored {j k : Kind} {x subject : Subject} {v : k.Value} {new : Bool} :
    (Deed.stored k subject v new).Stores j x ↔ j = k ∧ x = subject := by
  constructor
  · rintro ⟨w, new', h⟩
    cases h
    exact ⟨rfl, rfl⟩
  · rintro ⟨rfl, rfl⟩
    exact ⟨v, new, rfl⟩

/-- A call for a subject gave a value. -/
def Returned (source : Source) (h : History) (k : Kind) (subject : Subject) (v : k.Value) : Prop :=
  ∃ i past, (i, .called k subject past) ∈ h ∧ (source past k subject).outcome = .ok v

/-- The latest value stored for a subject is `v`, and a call before that gave it. -/
def LatestStored (source : Source) (h : History) (k : Kind) (subject : Subject) (v : k.Value) :
    Prop :=
  ∃ later i new earlier, h = later ++ (i, .stored k subject v new) :: earlier ∧
    (∀ d ∈ later, ¬ d.2.Stores k subject) ∧ Returned source earlier k subject v

def Request.About (r : Request) (subject : Subject) : Prop :=
  Network.ofTag? r.network = some subject.network ∧ r.address = subject.address

/-- What must have happened before request number `i` could do a deed. -/
def Deed.JustifiedBy (source : Source) (earlier : History) (i : Nat) : Deed → Prop
  | .looked k subject (some v) => LatestStored source earlier k subject v
  | .looked _ _ none => True
  | .called _ _ _ => True
  | .heard k subject outcome =>
    ∃ past, (i, .called k subject past) ∈ earlier ∧ (source past k subject).outcome = outcome
  | .stored k subject v _ => (i, .heard k subject (.ok v)) ∈ earlier
  | .answered r (.ok v) => ∃ subject, r.About subject ∧ LatestStored source earlier r.kind subject v
  | .answered r (.error e) =>
    Network.ofTag? r.network = none ∧ e = .unsupportedNetwork r.network ∨
      ∃ subject, r.About subject ∧ (i, .heard r.kind subject (.error e)) ∈ earlier

/-- A history in which each deed is justified by those before it. -/
def History.Sound (source : Source) : History → Prop
  | [] => True
  | (i, d) :: earlier => d.JustifiedBy source earlier i ∧ Sound source earlier

theorem History.Sound.split {source : Source} {later earlier : History} {i : Nat} {d : Deed}
    (h : History.Sound source (later ++ (i, d) :: earlier)) : d.JustifiedBy source earlier i := by
  induction later with
  | nil => exact h.1
  | cons x later ih => exact ih h.2

theorem History.Sound.returned {source : Source} {h : History} (hs : h.Sound source) {i : Nat}
    {k : Kind} {subject : Subject} {v : k.Value} (hv : (i, .heard k subject (.ok v)) ∈ h) :
    Returned source h k subject v := by
  obtain ⟨later, earlier, rfl⟩ := List.append_of_mem hv
  obtain ⟨past, hcalled, hpast⟩ := hs.split
  refine ⟨i, past, ?_, hpast⟩
  exact List.mem_append_right later (List.mem_cons_of_mem _ hcalled)

section Latest

variable {source : Source} {h : History} {k : Kind} {subject : Subject} {v : k.Value}

theorem LatestStored.cons (hv : LatestStored source h k subject v) {d : Nat × Deed}
    (hd : ¬ d.2.Stores k subject) : LatestStored source (d :: h) k subject v := by
  obtain ⟨later, i, new, earlier, rfl, hlater, hreturned⟩ := hv
  refine ⟨d :: later, i, new, earlier, rfl, ?_, hreturned⟩
  intro x hx
  rcases List.mem_cons.mp hx with rfl | hx
  · exact hd
  · exact hlater x hx

theorem LatestStored.append (hv : LatestStored source h k subject v) (ds : History)
    (hd : ∀ d ∈ ds, ¬ d.2.Stores k subject) : LatestStored source (ds ++ h) k subject v := by
  induction ds with
  | nil => exact hv
  | cons d ds ih =>
    refine (ih fun x hx => hd x (List.mem_cons_of_mem d hx)).cons ?_
    exact hd d List.mem_cons_self

theorem latestStored_stored {i : Nat} (new : Bool) (hv : Returned source h k subject v) :
    LatestStored source ((i, .stored k subject v new) :: h) k subject v :=
  ⟨[], i, new, h, rfl, fun _ hx => absurd hx List.not_mem_nil, hv⟩

end Latest

namespace Flight

/-- What the phase of request number `i` says about its past. -/
def Sound (source : Source) (h : History) (i : Nat) (f : Flight) : Prop :=
  match f.phase with
  | .arrived => True
  | .calling subject _ => f.request.About subject ∧ ∀ reply, f.reply? = some reply →
      ∃ past, (i, .called f.request.kind subject past) ∈ h ∧
        source past f.request.kind subject = reply
  | .resting subject _ _ => f.request.About subject
  | .storing subject v =>
    f.request.About subject ∧ (i, .heard f.request.kind subject (.ok v)) ∈ h
  | .answered a => (i, .answered f.request a) ∈ h
  | .dropped => True

theorem Sound.append {source : Source} {h : History} {i : Nat} {f : Flight}
    (hf : f.Sound source h i) (ds : History) : f.Sound source (ds ++ h) i := by
  obtain ⟨request, phase, reply?, due⟩ := f
  cases phase with
  | arrived => trivial
  | calling subject attempt =>
    refine ⟨hf.1, fun reply hr => ?_⟩
    obtain ⟨past, hmem, heq⟩ := hf.2 reply hr
    exact ⟨past, List.mem_append_right _ hmem, heq⟩
  | resting subject attempt wait => exact hf
  | storing subject v => exact ⟨hf.1, List.mem_append_right _ hf.2⟩
  | answered a => exact List.mem_append_right _ hf
  | dropped => trivial

end Flight

namespace Traffic

/-- What holds in every state that traffic can come to. -/
structure Consistent (source : Source) (t : Traffic) : Prop where
  /-- A cache without room holds nothing. -/
  empty : ∀ k subject, (t.session.service.cache k).capacity = 0 →
    (t.session.service.cache k).value? subject = none
  held : ∀ k subject v, (t.session.service.cache k).value? subject = some v →
    LatestStored source t.history k subject v
  flights : ∀ (i : Nat) (f : Flight), t.flights[i]? = some f → f.Sound source t.history i
  history : t.history.Sound source

variable {source : Source} {t : Traffic}

theorem consistent_start (policy : RetryPolicy) (holdersCapacity abiCapacity : Nat) :
    Consistent source (start policy holdersCapacity abiCapacity) where
  empty := by
    intro k subject _
    cases k <;> exact Cache.value?_empty _ subject
  held := by
    intro k subject v hv
    cases k <;> exact absurd hv (by simp [start, Session.start, Service.fresh, Service.cache])
  flights := by simp [start]
  history := trivial

theorem Consistent.arrive (h : Consistent source t) (r : Request) :
    Consistent source (t.arrive r) where
  empty := h.empty
  held := h.held
  flights := by
    intro i f hf
    rcases Nat.lt_or_ge i t.flights.length with hi | hi
    · rw [Traffic.arrive, List.getElem?_append_left hi] at hf
      exact h.flights i f hf
    · rw [Traffic.arrive, List.getElem?_append_right hi] at hf
      have hmem := List.mem_of_getElem? hf
      obtain rfl := List.mem_singleton.mp hmem
      trivial
  history := h.history

theorem Consistent.flights_set (h : Consistent source t) {i : Nat} {g : Flight} (ds : History)
    (hg : g.Sound source (ds ++ t.history) i) (j : Nat) (f : Flight)
    (hf : (t.flights.set i g)[j]? = some f) : f.Sound source (ds ++ t.history) j := by
  rw [List.getElem?_set] at hf
  split at hf
  · split at hf
    · subst_vars
      obtain rfl := Option.some.inj hf
      exact hg
    · simp at hf
  · exact (h.flights j f hf).append ds

theorem Consistent.drop (h : Consistent source t) (i : Nat) {f : Flight}
    (hf : f.phase.isOver = false) : Consistent source (t.drop i f) where
  empty := h.empty
  held := h.held
  flights := by
    refine h.flights_set [] ?_
    obtain ⟨request, phase, reply?, due⟩ := f
    cases phase <;> trivial
  history := h.history

theorem Consistent.wait (h : Consistent source t) (now : Nat) : Consistent source (t.wait now) :=
  ⟨h.empty, h.held, h.flights, h.history⟩

theorem Consistent.quiet (h : Consistent source t) (ds : History) {w : Session} {i : Nat}
    {g : Flight}
    (hcap : ∀ k, (w.service.cache k).capacity = (t.session.service.cache k).capacity)
    (hval : ∀ k x, (w.service.cache k).value? x = (t.session.service.cache k).value? x)
    (hds : ∀ k x, ∀ d ∈ ds, ¬ d.2.Stores k x) (hg : g.Sound source (ds ++ t.history) i)
    (hsound : History.Sound source (ds ++ t.history)) :
    Consistent source ⟨w, t.flights.set i g, ds ++ t.history⟩ where
  empty := by
    intro k x hc
    rw [hval]
    exact h.empty k x ((hcap k).symm.trans hc)
  held := by
    intro k x v hv
    rw [hval] at hv
    exact (h.held k x v hv).append ds (hds k x)
  flights := h.flights_set ds hg
  history := hsound

section Store

variable {k : Kind} {subject : Subject} {v : k.Value}

theorem Consistent.empty_store (h : Consistent source t) (j : Kind) (x : Subject)
    (hc : ((t.session.service.store k subject v).cache j).capacity = 0) :
    ((t.session.service.store k subject v).cache j).value? x = none := by
  rw [Service.capacity_store] at hc
  by_cases hne : j = k ∧ x = subject
  · -- a cache without room does not even take the new value
    obtain ⟨rfl, rfl⟩ := hne
    rw [Service.store_of_capacity_zero _ _ _ _ hc]
    exact h.empty _ _ hc
  · rw [Option.eq_none_iff_forall_ne_some]
    intro w hw
    have hold := Service.value?_of_store _ _ _ _ hne hw
    rw [h.empty j x hc] at hold
    cases hold

theorem Consistent.held_store (h : Consistent source t) (hv : Returned source t.history k subject v)
    (i : Nat) (new : Bool) (j : Kind) (x : Subject) (w : j.Value)
    (hw : ((t.session.service.store k subject v).cache j).value? x = some w) :
    LatestStored source ((i, .stored k subject v new) :: t.history) j x w := by
  by_cases hne : j = k ∧ x = subject
  · obtain ⟨rfl, rfl⟩ := hne
    have hc : (t.session.service.cache j).capacity ≠ 0 := by
      intro hc
      rw [Service.store_of_capacity_zero _ _ _ _ hc, h.empty _ _ hc] at hw
      cases hw
    rw [Service.value?_store_self _ _ _ _ hc] at hw
    obtain rfl := Option.some.inj hw
    exact latestStored_stored new hv
  · -- what is held under another key was held before, and nothing is stored there
    apply (h.held j x w (Service.value?_of_store _ _ _ _ hne hw)).cons
    intro hstores
    exact hne (Deed.stores_stored.mp hstores)

end Store

variable [Timer]

theorem Consistent.move_arrived (h : Consistent source t) {i : Nat} {f : Flight}
    (hp : f.phase = .arrived) : Consistent source (t.move source i f) := by
  obtain hn | ⟨n, hn⟩ : Network.ofTag? f.request.network = none ∨
      ∃ n, Network.ofTag? f.request.network = some n := by
    cases Network.ofTag? f.request.network <;> simp
  · rw [move_of_unknown hp hn]
    refine h.quiet [_] (fun _ => rfl) (fun _ _ => rfl) ?_ ?_ ?_
    · simp [Deed.Stores]
    · exact List.mem_cons_self
    · exact ⟨Or.inl ⟨hn, rfl⟩, h.history⟩
  · have hcap := Service.capacity_begin t.session.service f.request.kind f.request.network
      f.request.address
    have hval := Service.value?_begin t.session.service f.request.kind f.request.network
      f.request.address
    cases hv : (t.session.service.cache f.request.kind).value? ⟨n, f.request.address⟩ with
    | none =>
      rw [move_of_missing hp hn hv]
      refine h.quiet [_] hcap hval ?_ ?_ ?_
      · simp [Deed.Stores]
      · exact ⟨⟨hn, rfl⟩, fun reply hr => by cases hr⟩
      · exact ⟨trivial, h.history⟩
    | some v =>
      have hlatest := h.held _ _ v hv
      rw [move_of_held hp hn hv]
      refine h.quiet [_, _] hcap hval ?_ ?_ ?_
      · simp [Deed.Stores]
      · exact List.mem_cons_self
      · refine ⟨⟨_, ⟨hn, rfl⟩, hlatest.cons ?_⟩, hlatest, h.history⟩
        simp [Deed.Stores]

theorem Consistent.move_calling (h : Consistent source t) {i : Nat} {f : Flight}
    (hf : t.flights[i]? = some f) {subject : Subject} {attempt : UInt32}
    (hp : f.phase = .calling subject attempt) (hr : f.reply? = none) :
    Consistent source (t.move source i f) := by
  have hsound := h.flights i f hf
  simp only [Flight.Sound, hp] at hsound
  rw [move_of_calling hp hr]
  refine h.quiet [_] (fun _ => rfl) (fun _ _ => rfl) ?_ ?_ ?_
  · simp [Deed.Stores]
  · simp only [Flight.Sound, hp]
    refine ⟨hsound.1, ?_⟩
    rintro reply ⟨rfl⟩
    exact ⟨_, List.mem_cons_self, rfl⟩
  · exact ⟨trivial, h.history⟩

theorem Consistent.move_heard (h : Consistent source t) {i : Nat} {f : Flight}
    (hf : t.flights[i]? = some f) {subject : Subject} {attempt : UInt32}
    (hp : f.phase = .calling subject attempt) {reply : Reply f.request.kind.Value}
    (hr : f.reply? = some reply) : Consistent source (t.move source i f) := by
  have hsound := h.flights i f hf
  simp only [Flight.Sound, hp] at hsound
  obtain ⟨habout, hreply⟩ := hsound
  obtain ⟨past, hcalled, hpast⟩ := hreply reply hr
  have hheard : History.Sound source ((i, .heard f.request.kind subject reply.outcome) ::
      t.history) := ⟨⟨past, hcalled, by rw [hpast]⟩, h.history⟩
  obtain ⟨due, hmove⟩ := move_of_heard hp hr
  rw [hmove]
  rcases Phase.afterCall_cases t.session.service.policy subject attempt reply.outcome with
    ⟨v, hv, hphase⟩ | ⟨e, wait, he, hphase⟩ | ⟨e, he, hphase⟩
  · rw [hphase]
    refine h.quiet [_] (fun _ => rfl) (fun _ _ => rfl) ?_ ⟨habout, ?_⟩ hheard
    · simp [Deed.Stores]
    · rw [hv]
      exact List.mem_cons_self
  · rw [hphase]
    refine h.quiet [_] (fun _ => rfl) (fun _ _ => rfl) ?_ habout hheard
    simp [Deed.Stores]
  · rw [hphase]
    refine h.quiet [_, _] (fun _ => rfl) (fun _ _ => rfl) ?_ ?_
      ⟨Or.inr ⟨subject, habout, ?_⟩, hheard⟩
    · simp [Deed.Stores]
    · exact List.mem_cons_self
    · rw [he]
      exact List.mem_cons_self

theorem Consistent.move_resting (h : Consistent source t) {i : Nat} {f : Flight}
    (hf : t.flights[i]? = some f) {subject : Subject} {attempt : UInt32} {wait : Duration}
    (hp : f.phase = .resting subject attempt wait) : Consistent source (t.move source i f) := by
  have hsound := h.flights i f hf
  simp only [Flight.Sound, hp] at hsound
  rw [move_of_resting hp]
  refine h.quiet [] (fun _ => rfl) (fun _ _ => rfl) ?_ ?_ h.history
  · intro _ _ _ hd
    cases hd
  · exact ⟨hsound, fun reply hr => by cases hr⟩

theorem Consistent.move_storing (h : Consistent source t) {i : Nat} {f : Flight}
    (hf : t.flights[i]? = some f) {subject : Subject} {v : f.request.kind.Value}
    (hp : f.phase = .storing subject v) : Consistent source (t.move source i f) := by
  have hsound := h.flights i f hf
  simp only [Flight.Sound, hp] at hsound
  obtain ⟨habout, hheard⟩ := hsound
  have hreturned := h.history.returned hheard
  rw [move_of_storing hp]
  refine ⟨h.empty_store, ?_, ?_, ?_⟩
  · intro j x w hw
    apply (h.held_store hreturned i _ j x w hw).cons
    simp [Deed.Stores]
  · refine h.flights_set [_, _] ?_
    exact List.mem_cons_self
  · exact ⟨⟨subject, habout, latestStored_stored _ hreturned⟩, hheard, h.history⟩

theorem Consistent.move (h : Consistent source t) {i : Nat} {f : Flight}
    (hf : t.flights[i]? = some f) (hover : f.phase.isOver = false) :
    Consistent source (t.move source i f) := by
  cases hp : f.phase with
  | arrived => exact h.move_arrived hp
  | calling subject attempt =>
    cases hr : f.reply? with
    | none => exact h.move_calling hf hp hr
    | some reply => exact h.move_heard hf hp hr
  | resting subject attempt wait => exact h.move_resting hf hp
  | storing subject v => exact h.move_storing hf hp
  | answered a =>
    rw [hp] at hover
    cases hover
  | dropped =>
    rw [hp] at hover
    cases hover

theorem Step.consistent {t' : Traffic} (hstep : Step source t t') (h : Consistent source t) :
    Consistent source t' := by
  cases hstep with
  | arrive r => exact h.arrive r
  | move i f hf hover => exact h.move hf hover
  | drop i f hf hover => exact h.drop i hover
  | wait now hnow => exact h.wait now

theorem Reachable.consistent {policy : RetryPolicy} {holdersCapacity abiCapacity : Nat}
    (h : Reachable source policy holdersCapacity abiCapacity t) : Consistent source t := by
  induction h with
  | refl => exact consistent_start policy holdersCapacity abiCapacity
  | tail _ hstep ih => exact hstep.consistent ih

end Traffic

/-- In every state, a value that is held is the latest one stored under its subject and
was given by a call for it; all that requests found, stored and gave as answers is
justified by what was done before; and the answer of a request is in the history. -/
theorem values_come_from_calls [Timer] {source : Source} {policy : RetryPolicy}
    {holdersCapacity abiCapacity : Nat} {t : Traffic}
    (h : Traffic.Reachable source policy holdersCapacity abiCapacity t) :
    (∀ k subject v, (t.session.service.cache k).value? subject = some v →
      LatestStored source t.history k subject v) ∧
    (∀ later i d earlier, t.history = later ++ (i, d) :: earlier →
      d.JustifiedBy source earlier i) ∧
    (∀ (i : Nat) (f : Flight) a, t.flights[i]? = some f → f.phase = .answered a →
      (i, .answered f.request a) ∈ t.history) := by
  have hc := h.consistent
  refine ⟨hc.held, ?_, ?_⟩
  · intro later i d earlier heq
    have hs := hc.history
    rw [heq] at hs
    exact hs.split
  · intro i f a hf hp
    have hs := hc.flights i f hf
    simpa only [Flight.Sound, hp] using hs

theorem values_come_from_calls_of_one :
    ∃ (_ : Timer) (source : Source) (t : Traffic), t.Reachable source .never 1 0 ∧
      (t.session.service.cache .holders).value? ⟨.eth, "0x1"⟩ = some ["0x2"] ∧
      LatestStored source t.history .holders ⟨.eth, "0x1"⟩ ["0x2"] := by
  let timer := Timer.millis
  let source := Source.fixed ["0x2"] .null
  let r : Request := ⟨.holders, "eth", "0x1"⟩
  have h₁ : Traffic.Reachable source .never 1 0 ((Traffic.start .never 1 0).arrive r) :=
    .single (.arrive r)
  have h₂ := h₁.tail (.move 0 (.start 0 r) rfl rfl)
  have hlooked : ((Traffic.start .never 1 0).arrive r).move source 0 (.start 0 r) = _ :=
    Traffic.move_of_missing rfl rfl (by exact Cache.value?_empty _ _)
  rw [hlooked] at h₂
  have h₃ := h₂.tail (.move 0 _ rfl rfl)
  have h₄ := h₃.tail (.move 0 _ rfl rfl)
  have h₅ := h₄.tail (.move 0 _ rfl rfl)
  have hcap : (((Service.fresh .never 1 0).begin .holders "eth" "0x1").2.cache .holders).capacity ≠
      0 := by
    rw [Service.capacity_begin]
    exact Nat.one_ne_zero
  refine ⟨timer, source, _, h₅, ?_, (values_come_from_calls h₅).1 _ _ _ ?_⟩
  · exact Service.value?_store_self _ .holders _ _ hcap
  · exact Service.value?_store_self _ .holders _ _ hcap

end ExplorerProxy
