import ExplorerProxy.Proofs.Service.Accounts
import Mathlib.Algebra.Order.Ring.Nat

/-!
# The ledger of requests

Each request with its own deeds. The entries of this ledger share out all deeds of the
history, so that what is counted over the history can be counted request by request; and
what a request can have done follows from the phase that it is in.
-/

namespace ExplorerProxy

set_option autoImplicit false

namespace History

theorem record_cons (h : History) (i j : Nat) (d : Deed) :
    record ((i, d) :: h) j = if i = j then d :: h.record j else h.record j := by
  by_cases hij : i = j
  · rw [if_pos hij]
    exact List.filterMap_cons_some (if_pos hij)
  · rw [if_neg hij]
    exact List.filterMap_cons_none (if_neg hij)

theorem perm_flatMap_cons (g : Nat → List Deed) (d : Deed) {i : Nat} {l : List Nat}
    (hl : l.Nodup) (hi : i ∈ l) :
    (l.flatMap fun j => if i = j then d :: g j else g j).Perm (d :: l.flatMap g) := by
  induction l with
  | nil => cases hi
  | cons j l ih =>
    obtain ⟨hj, hl⟩ := List.nodup_cons.mp hl
    rw [List.flatMap_cons, List.flatMap_cons]
    by_cases hij : i = j
    · subst hij
      have hrest : (l.flatMap fun j => if i = j then d :: g j else g j) = l.flatMap g := by
        apply List.flatMap_congr
        intro x hx
        rw [if_neg]
        rintro rfl
        exact hj hx
      rw [if_pos rfl, hrest]
      exact List.Perm.refl _
    · have hmem : i ∈ l := (List.mem_cons.mp hi).resolve_left hij
      rw [if_neg hij]
      exact ((ih hl hmem).append_left (g j)).trans List.perm_middle

theorem perm_flatMap_record (h : History) {n : Nat} (hn : ∀ d ∈ h, d.1 < n) :
    (h.map Prod.snd).Perm ((List.range n).flatMap h.record) := by
  induction h with
  | nil =>
    have hnil : (List.range n).flatMap (record []) = [] :=
      List.flatMap_eq_nil_iff.mpr fun _ _ => rfl
    rw [hnil]
    exact List.Perm.refl _
  | cons d h ih =>
    obtain ⟨i, d⟩ := d
    have hi : i ∈ List.range n := List.mem_range.mpr (hn _ List.mem_cons_self)
    have hrest := ih fun x hx => hn x (List.mem_cons_of_mem _ hx)
    have hrecord : record ((i, d) :: h) = fun j => if i = j then d :: record h j else record h j :=
      funext fun j => record_cons h i j d
    rw [hrecord]
    exact (hrest.cons d).trans (perm_flatMap_cons (record h) d List.nodup_range hi).symm

end History

/-- Each request with its own deeds, the latest first. -/
def Traffic.ledger (t : Traffic) : List (Flight × List Deed) :=
  t.flights.zipIdx.map fun p => (p.1, t.history.record p.2)

theorem Traffic.mem_ledger {t : Traffic} {f : Flight} {ds : List Deed} :
    (f, ds) ∈ t.ledger ↔ ∃ i : Nat, t.flights[i]? = some f ∧ t.history.record i = ds := by
  simp only [ledger, List.mem_map, Prod.exists, Prod.mk.injEq, List.mem_zipIdx_iff_getElem?]
  constructor
  · rintro ⟨g, i, hg, rfl, hds⟩
    exact ⟨i, hg, hds⟩
  · rintro ⟨i, hf, hds⟩
    exact ⟨f, i, hf, rfl, hds⟩

theorem Traffic.map_fst_ledger (t : Traffic) : t.ledger.map Prod.fst = t.flights := by
  rw [ledger, List.map_map]
  exact List.zipIdx_map_fst 0 t.flights

/-- A deed is one that a request can do: of its kind and about its address. -/
def Deed.Of (r : Request) : Deed → Prop
  | .looked k x _ => k = r.kind ∧ r.About x
  | .called k x _ => k = r.kind ∧ r.About x
  | .heard k x _ => k = r.kind ∧ r.About x
  | .stored k x _ _ => k = r.kind ∧ r.About x
  | .answered r' _ => r' = r

theorem Deed.Of.kind_eq {r : Request} {d : Deed} (h : d.Of r) : d.kind = r.kind := by
  cases d with
  | answered r' a => exact congrArg Request.kind h
  | _ => exact h.1

/-- How many hits, misses and stores there are among some deeds. -/
structure Did (ds : List Deed) (hits misses stores : Nat) : Prop where
  hits : ds.countP Deed.isHit = hits
  misses : ds.countP Deed.isMiss = misses
  stores : ds.countP Deed.isStore = stores

theorem did_nil : Did [] 0 0 0 := ⟨rfl, rfl, rfl⟩

theorem Did.cons {ds : List Deed} {hits misses stores : Nat} (h : Did ds hits misses stores)
    (d : Deed) : Did (d :: ds) (hits + if d.isHit then 1 else 0)
      (misses + if d.isMiss then 1 else 0) (stores + if d.isStore then 1 else 0) := by
  refine ⟨?_, ?_, ?_⟩
  · rw [List.countP_cons, h.hits]
  · rw [List.countP_cons, h.misses]
  · rw [List.countP_cons, h.stores]

def Phase.subject? {α : Type} : Phase α → Option Subject
  | .calling subject _ => some subject
  | .resting subject _ _ => some subject
  | .storing subject _ => some subject
  | _ => none

namespace Flight

/-- What a request has done, for each phase that it can be in. -/
def Course (f : Flight) (ds : List Deed) : Prop :=
  match f.phase with
  | .arrived => ds = []
  | .answered a =>
    Did ds 0 0 0 ∧ callsIn ds = 0 ∨ Did ds 1 0 0 ∧ callsIn ds = 0 ∨
      Did ds 0 1 (if a.isOk then 1 else 0)
  | .dropped => Did ds 0 0 0 ∧ callsIn ds = 0 ∨ Did ds 0 1 0
  | _ => Did ds 0 1 0

/-- A request keeps to its kind and address and to its course. -/
structure Orderly (f : Flight) (ds : List Deed) : Prop where
  own : ∀ d ∈ ds, d.Of f.request
  subject : ∀ x, f.phase.subject? = some x → f.request.About x
  course : f.Course ds

variable {source : Source} {w : Session} {f g : Flight} {new ds : List Deed} {s : Service}

theorem orderly_start (now : Nat) (r : Request) : (start now r).Orderly [] where
  own := fun _ hd => absurd hd List.not_mem_nil
  subject := by
    intro x hx
    cases hx
  course := rfl

theorem Orderly.did (h : f.Orderly ds) {x : Subject} (hx : f.phase.subject? = some x) :
    Did ds 0 1 0 := by
  have hcourse := h.course
  obtain ⟨request, phase, reply?, due⟩ := f
  cases phase <;> first | exact hcourse | cases hx

theorem Orderly.step (h : f.Orderly ds) (hrequest : g.request = f.request)
    (hnew : ∀ d ∈ new, d.Of f.request)
    (hsubject : ∀ x, g.phase.subject? = some x → f.request.About x)
    (hcourse : g.Course (new ++ ds)) : g.Orderly (new ++ ds) where
  own := by
    rw [hrequest]
    intro d hd
    rcases List.mem_append.mp hd with hd | hd
    · exact hnew d hd
    · exact h.own d hd
  subject := by
    intro x hx
    rw [hrequest]
    exact hsubject x hx
  course := hcourse

theorem Orderly.onward (h : f.Orderly ds) {x : Subject} (hx : f.phase.subject? = some x)
    (hrequest : g.request = f.request) (hnew : f.request.About x → ∀ d ∈ new, d.Of f.request)
    (hsubject : g.phase.subject? = some x ∨ g.phase.subject? = none)
    (hcourse : Did ds 0 1 0 → g.Course (new ++ ds)) : g.Orderly (new ++ ds) := by
  have habout := h.subject x hx
  refine h.step hrequest (hnew habout) ?_ (hcourse (h.did hx))
  intro y hy
  rcases hsubject with hsame | hnone
  · obtain rfl := Option.some.inj (hsame.symm.trans hy)
    exact habout
  · cases hnone.symm.trans hy

theorem Orderly.moved (h : f.Orderly ds) (hm : f.Moved source w g new s) :
    g.Orderly (new ++ ds) := by
  have hnil : f.phase = .arrived → ds = [] := by
    intro hp
    have hcourse := h.course
    simpa only [Course, hp] using hcourse
  cases hm with
  | unknown hp hn =>
    obtain rfl := hnil hp
    refine h.step rfl ?_ ?_ ?_
    · simp [Deed.Of]
    · intro x hx
      cases hx
    · exact Or.inl ⟨did_nil.cons _, rfl⟩
  | held hp hn hv =>
    obtain rfl := hnil hp
    refine h.step rfl ?_ ?_ ?_
    · simp [Deed.Of, Request.About, hn]
    · intro x hx
      cases hx
    · exact Or.inr (Or.inl ⟨(did_nil.cons _).cons _, rfl⟩)
  | missing hp hn hv =>
    obtain rfl := hnil hp
    refine h.step rfl ?_ ?_ ?_
    · simp [Deed.Of, Request.About, hn]
    · rintro x ⟨rfl⟩
      exact ⟨hn, rfl⟩
    · exact did_nil.cons _
  | @called subject _ hp hr reply due =>
    have hx : f.phase.subject? = some subject := by rw [hp]; rfl
    refine h.onward hx rfl (by simp [Deed.Of]) (Or.inl hx) fun hdid => ?_
    simp only [Course, hp]
    exact hdid.cons _
  | @found subject _ hp =>
    have hx : f.phase.subject? = some subject := by rw [hp]; rfl
    exact h.onward hx rfl (by simp [Deed.Of]) (Or.inl rfl) fun hdid => hdid.cons _
  | @again subject _ hp =>
    have hx : f.phase.subject? = some subject := by rw [hp]; rfl
    exact h.onward hx rfl (by simp [Deed.Of]) (Or.inl rfl) fun hdid => hdid.cons _
  | @failed subject _ hp =>
    have hx : f.phase.subject? = some subject := by rw [hp]; rfl
    refine h.onward hx rfl (by simp [Deed.Of]) (Or.inr rfl) fun hdid => ?_
    exact Or.inr (Or.inr ((hdid.cons _).cons _))
  | @rested subject _ _ hp =>
    have hx : f.phase.subject? = some subject := by rw [hp]; rfl
    exact h.onward hx rfl (by simp) (Or.inl rfl) id
  | @stored subject _ hp added =>
    have hx : f.phase.subject? = some subject := by rw [hp]; rfl
    refine h.onward hx rfl (by simp [Deed.Of]) (Or.inr rfl) fun hdid => ?_
    exact Or.inr (Or.inr ((hdid.cons _).cons _))

theorem Orderly.drop (h : f.Orderly ds) (hover : f.phase.isOver = false) :
    f.drop.Orderly ds := by
  have hcourse := h.course
  refine ⟨h.own, ?_, ?_⟩
  · intro x hx
    obtain ⟨request, phase, reply?, due⟩ := f
    cases phase <;> cases hx
  · obtain ⟨request, phase, reply?, due⟩ := f
    cases phase with
    | arrived =>
      obtain rfl : ds = [] := hcourse
      exact Or.inl ⟨did_nil, rfl⟩
    | answered a => cases hover
    | dropped => cases hover
    | _ => exact Or.inr hcourse

theorem Orderly.did_cases (h : f.Orderly ds) :
    (Did ds 0 0 0 ∧ callsIn ds = 0) ∨
      (Did ds 1 0 0 ∧ callsIn ds = 0 ∧ f.phase.answer?.isSome = true) ∨
      ∃ stores ≤ 1, Did ds 0 1 stores := by
  have hcourse := h.course
  obtain ⟨request, phase, reply?, due⟩ := f
  cases phase with
  | arrived =>
    obtain rfl : ds = [] := hcourse
    exact Or.inl ⟨did_nil, rfl⟩
  | answered a =>
    rcases hcourse with hidle | ⟨hdid, hcalls⟩ | hdid
    · exact Or.inl hidle
    · exact Or.inr (Or.inl ⟨hdid, hcalls, rfl⟩)
    · exact Or.inr (Or.inr ⟨_, by split <;> omega, hdid⟩)
  | dropped =>
    rcases hcourse with hidle | hdid
    · exact Or.inl hidle
    · exact Or.inr (Or.inr ⟨0, Nat.zero_le 1, hdid⟩)
  | _ => exact Or.inr (Or.inr ⟨0, Nat.zero_le 1, hcourse⟩)

theorem InBudget.callsIn_le {limit : Nat} (h : f.InBudget limit ds) : callsIn ds ≤ limit := by
  obtain ⟨request, phase, reply?, due⟩ := f
  cases phase with
  | answered a => exact h.1
  | dropped => exact h
  | _ => exact h.drop rfl

theorem InBudget.callsIn_pos {limit : Nat} (h : f.InBudget limit ds)
    (hanswer : f.phase.answer?.isSome = true) (hmiss : 0 < ds.countP Deed.isMiss) :
    1 ≤ callsIn ds := by
  obtain ⟨request, phase, reply?, due⟩ := f
  cases phase with
  | answered a =>
    obtain ⟨d, hd, hmiss⟩ := List.countP_pos_iff.mp hmiss
    apply h.2.1
    cases d with
    | looked k x found =>
      cases found with
      | none => exact ⟨k, x, hd⟩
      | some v => cases hmiss
    | _ => cases hmiss
  | _ => cases hanswer

end Flight

namespace Traffic

variable [Timer] {source : Source} {policy : RetryPolicy} {holdersCapacity abiCapacity : Nat}
  {t : Traffic}

theorem Reachable.orderly (h : Reachable source policy holdersCapacity abiCapacity t) {i : Nat}
    {f : Flight} (hf : t.flights[i]? = some f) : f.Orderly (t.history.record i) := by
  obtain ⟨own, hw⟩ := h.watched i
  refine (hw.invariant (fun f ds _ => f.Orderly ds) ?_ ?_ ?_).2 f hf
  · exact Flight.orderly_start
  · exact fun w f g new ds s own _ hm ho => ho.moved hm
  · exact fun _ f _ _ hover ho => ho.drop hover

theorem Reachable.inBudget (h : Reachable source policy holdersCapacity abiCapacity t) {i : Nat}
    {f : Flight} (hf : t.flights[i]? = some f) :
    f.InBudget policy.limit.toNat (t.history.record i) := by
  obtain ⟨own, hw⟩ := h.watched i
  exact hw.inBudget hf

theorem Reachable.index_lt (h : Reachable source policy holdersCapacity abiCapacity t)
    {d : Nat × Deed} (hd : d ∈ t.history) : d.1 < t.flights.length := by
  by_contra hge
  obtain ⟨own, hw⟩ := h.watched d.1
  obtain ⟨hrecord, _⟩ := (hw.invariant (fun _ _ _ => True) (fun _ _ => trivial)
    (fun _ _ _ _ _ _ _ _ _ _ => trivial) (fun _ _ _ _ _ _ => trivial)).1
    (List.getElem?_eq_none (Nat.not_lt.mp hge))
  have hmem := (t.history.mem_record (i := d.1) (d := d.2)).mpr hd
  rw [hrecord] at hmem
  cases hmem

theorem Reachable.perm_ledger (h : Reachable source policy holdersCapacity abiCapacity t) :
    (t.history.map Prod.snd).Perm (t.ledger.flatMap Prod.snd) := by
  have hledger : t.ledger.flatMap Prod.snd =
      (List.range t.flights.length).flatMap t.history.record := by
    rw [ledger, List.flatMap_map, List.range_eq_range', ← List.zipIdx_map_snd 0 t.flights,
      List.flatMap_map]
  rw [hledger]
  exact t.history.perm_flatMap_record fun d hd => h.index_lt hd

theorem Reachable.tally_eq_sum (h : Reachable source policy holdersCapacity abiCapacity t)
    (k : Kind) (p : Deed → Bool) :
    t.history.tally k p =
      (t.ledger.map fun e => if e.1.request.kind = k then e.2.countP p else 0).sum := by
  have hmap : t.history.tally k p =
      (t.history.map Prod.snd).countP fun d => d.kind = k && p d := by
    rw [List.countP_map]
    rfl
  rw [hmap, h.perm_ledger.countP_eq, List.countP_flatMap]
  congr 1
  apply List.map_congr_left
  rintro ⟨f, ds⟩ he
  obtain ⟨i, hf, rfl⟩ := mem_ledger.mp he
  have hown := (h.orderly hf).own
  by_cases hk : f.request.kind = k
  · simp only [Function.comp_apply, if_pos hk]
    apply List.countP_congr
    intro d hd
    simp only [(hown d hd).kind_eq, hk, decide_true, Bool.true_and]
  · simp only [Function.comp_apply, if_neg hk]
    apply List.countP_eq_zero.mpr
    intro d hd
    simp only [(hown d hd).kind_eq, hk, decide_false, Bool.false_and, Bool.false_eq_true,
      not_false_eq_true]

/-- A sort of deeds that a request does at most once counts the requests that did it. -/
theorem Reachable.tally_eq_countP (h : Reachable source policy holdersCapacity abiCapacity t)
    (k : Kind) (p : Deed → Bool) (q : Flight × List Deed → Bool)
    (hpq : ∀ e ∈ t.ledger,
      (if e.1.request.kind = k then e.2.countP p else 0) = if q e then 1 else 0) :
    t.history.tally k p = t.ledger.countP q := by
  have hsum : ∀ l : List (Flight × List Deed), (l.map fun e => if q e then 1 else 0).sum =
      l.countP q := by
    intro l
    induction l with
    | nil => rfl
    | cons e l ih => rw [List.map_cons, List.sum_cons, ih, List.countP_cons, Nat.add_comm]
  rw [h.tally_eq_sum, ← hsum, List.map_congr_left hpq]

theorem Reachable.accounts (h : Reachable source policy holdersCapacity abiCapacity t) {k : Kind}
    (hu : t.history.uses k ≤ Cache.lastStamp) :
    t.history.Accounts (.fresh policy holdersCapacity abiCapacity) k :=
  h.replays.told.accounts (History.accounts_fresh policy holdersCapacity abiCapacity k) hu

end Traffic

end ExplorerProxy
