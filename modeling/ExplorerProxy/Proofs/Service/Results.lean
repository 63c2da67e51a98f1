import ExplorerProxy.Proofs.Service.Ledger
import ExplorerProxy.Proofs.Service.Visits

/-!
# What requests come to

A request that has its answer is a visit, with the calls that were made for it, whatever
other requests did meanwhile. The values that were found or stored in a cache are those of
the visits that were a success.
-/

namespace ExplorerProxy

set_option autoImplicit false

/-- The visit of a request that has its answer. -/
def Flight.visit? (f : Flight) (ds : List Deed) : Option Visit :=
  f.phase.answer?.map fun a => ⟨f.request, a, ds.filterMap Deed.call?⟩

def Traffic.visits (t : Traffic) : List Visit := t.ledger.filterMap fun e => e.1.visit? e.2

def Traffic.Done (t : Traffic) : Prop := ∀ f ∈ t.flights, f.phase.answer?.isSome = true

instance (t : Traffic) : Decidable t.Done :=
  inferInstanceAs (Decidable (∀ f ∈ t.flights, f.phase.answer?.isSome = true))

theorem Deed.isSome_call? (d : Deed) : d.call?.isSome = d.isCall := by
  cases d <;> rfl

theorem length_filterMap_call? (ds : List Deed) :
    (ds.filterMap Deed.call?).length = callsIn ds := by
  rw [List.length_filterMap_eq_countP, callsIn]
  simp only [Deed.isSome_call?]

theorem Flight.filterMap_call?_heard [Timer] (source : Source) (w : Session) (r : Request)
    (subject : Subject) (attempt : UInt32) (reply : Reply r.kind.Value) (due : Nat) :
    (newDeeds source w ⟨r, .calling subject attempt, some reply, due⟩).filterMap Deed.call? =
      [] := by
  let f : Flight := ⟨r, .calling subject attempt, some reply, due⟩
  have hdeeds : f.newDeeds source w =
      (f.move source w).answer.lastWord ++ [.heard r.kind subject reply.outcome] := rfl
  have hlast : (f.move source w).answer.lastWord.filterMap Deed.call? = [] := by
    rw [lastWord]
    cases (f.move source w).answer.phase.answer? <;> rfl
  rw [hdeeds, List.filterMap_append, hlast]
  rfl

namespace Flight

/-- A request has given values to a cache by being a success, and in no other way. -/
def Gives (f : Flight) (ds : List Deed) : Prop :=
  ∀ k, ds.filterMap (Deed.gives? k) = ((f.visit? ds).bind (Visit.success? k)).toList

variable {source : Source} {w : Session} {f g : Flight} {new ds : List Deed} {s : Service}

theorem gives_iff_of_unserved (h : f.Unserved) :
    f.Gives ds ↔ ∀ k, ds.filterMap (Deed.gives? k) = [] := by
  have hnone : ∀ k, (f.visit? ds).bind (Visit.success? k) = none := by
    intro k
    obtain ⟨request, phase, reply?, due⟩ := f
    cases phase with
    | answered a =>
      rcases a with e | v
      · exact Visit.success?_of_error k rfl
      · exact absurd rfl (h v)
    | _ => rfl
  simp only [Gives, hnone, Option.toList_none]

theorem gives_of_served {v : f.request.kind.Value} (hp : f.phase = .answered (.ok v)) {x : Subject}
    (habout : f.request.About x) {d : Deed}
    (hd : ∀ k, d.gives? k = if h : f.request.kind = k then some (x, h ▸ v) else none)
    (hnil : ∀ k, ds.filterMap (Deed.gives? k) = []) :
    f.Gives (.answered f.request (.ok v) :: d :: ds) := by
  intro k
  have hvisit : f.visit? (.answered f.request (.ok v) :: d :: ds) =
      some ⟨f.request, .ok v, (.answered f.request (.ok v) :: d :: ds).filterMap Deed.call?⟩ := by
    rw [visit?, hp]
    rfl
  have hanswered : (Deed.answered f.request (.ok v)).gives? k = none := rfl
  rw [List.filterMap_cons_none hanswered, List.filterMap_cons, hnil, hd, hvisit, Option.bind_some]
  obtain ⟨n, address⟩ := x
  obtain ⟨hn, rfl⟩ := habout
  by_cases hk : f.request.kind = k
  · subst hk
    rw [Visit.success?_of_ok hn rfl]
    simp
  · rw [Visit.success?_of_ne hk, dif_neg hk]
    rfl

theorem Gives.moved (h : f.Gives ds) (ho : f.Orderly ds) (hm : f.Moved source w g new s) :
    g.Gives (new ++ ds) := by
  -- a request that could take a step had no answer before it
  have hnil : ∀ {p}, f.phase = p → p.isOver = false → ∀ k, ds.filterMap (Deed.gives? k) = [] := by
    rintro p rfl hover
    exact (gives_iff_of_unserved (unserved_of_isOver hover)).mp h
  cases hm with
  | unknown hp hn => exact (gives_iff_of_unserved (unserved_of_error rfl)).mpr (hnil hp rfl)
  | held hp hn hv => exact gives_of_served rfl ⟨hn, rfl⟩ (fun k => rfl) (hnil hp rfl)
  | missing hp hn hv => exact (gives_iff_of_unserved (unserved_of_isOver rfl)).mpr (hnil hp rfl)
  | called hp hr reply due =>
    have hunserved := unserved_of_isOver (f := { f with reply? := some reply, due }) (hp ▸ rfl)
    exact (gives_iff_of_unserved hunserved).mpr (hnil hp rfl)
  | found hp => exact (gives_iff_of_unserved (unserved_of_isOver rfl)).mpr (hnil hp rfl)
  | again hp => exact (gives_iff_of_unserved (unserved_of_isOver rfl)).mpr (hnil hp rfl)
  | failed hp => exact (gives_iff_of_unserved (unserved_of_error rfl)).mpr (hnil hp rfl)
  | rested hp => exact (gives_iff_of_unserved (unserved_of_isOver rfl)).mpr (hnil hp rfl)
  | @stored subject v hp added =>
    have habout := ho.subject subject (by rw [hp]; rfl)
    exact gives_of_served (f := f.goTo (.answered (.ok v)) w.now) rfl habout
      (d := .stored f.request.kind subject v added) (fun k => rfl) (hnil hp rfl)

theorem Gives.drop (h : f.Gives ds) (hover : f.phase.isOver = false) : f.drop.Gives ds := by
  have hnil := (gives_iff_of_unserved (unserved_of_isOver hover)).mp h
  refine (gives_iff_of_unserved ?_).mpr hnil
  intro v hv
  obtain ⟨request, phase, reply?, due⟩ := f
  cases phase with
  | answered a => cases hover
  | dropped => cases hover
  | _ => cases hv

end Flight

namespace Traffic

variable [Timer] {source : Source} {policy : RetryPolicy} {holdersCapacity abiCapacity : Nat}
  {t : Traffic}

theorem Reachable.gives (h : Reachable source policy holdersCapacity abiCapacity t) {i : Nat}
    {f : Flight} (hf : t.flights[i]? = some f) : f.Gives (t.history.record i) := by
  obtain ⟨own, hw⟩ := h.watched i
  refine ((hw.invariant (fun f ds _ => f.Orderly ds ∧ f.Gives ds) ?_ ?_ ?_).2 f hf).2
  · exact fun now r => ⟨Flight.orderly_start now r, fun k => rfl⟩
  · exact fun w f g new ds s own _ hm ⟨ho, hg⟩ => ⟨ho.moved hm, hg.moved ho hm⟩
  · exact fun _ f _ _ hover ⟨ho, hg⟩ => ⟨ho.drop hover, hg.drop hover⟩

/-- The values found or stored in a cache are those of the successes of its kind. -/
theorem Reachable.perm_given (h : Reachable source policy holdersCapacity abiCapacity t)
    (k : Kind) : (t.history.given k).Perm (successes k t.visits) := by
  have hmap : t.history.given k = (t.history.map Prod.snd).filterMap (Deed.gives? k) := by
    rw [List.filterMap_map]
    rfl
  have hsuccesses : successes k t.visits =
      t.ledger.flatMap fun e => e.2.filterMap (Deed.gives? k) := by
    rw [successes, visits, List.filterMap_filterMap, List.filterMap_eq_flatMap_toList]
    apply List.flatMap_congr
    rintro ⟨f, ds⟩ he
    obtain ⟨i, hf, rfl⟩ := mem_ledger.mp he
    exact (h.gives hf k).symm
  rw [hmap, hsuccesses, ← List.filterMap_flatMap]
  exact h.perm_ledger.filterMap _

end Traffic

end ExplorerProxy
