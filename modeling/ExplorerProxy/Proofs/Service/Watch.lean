import ExplorerProxy.Proofs.Service.Moves

/-!
# A request among others

One request is watched while any number of others take their steps. Kept are its own
deeds and, for each of its own steps, the service before and after. What its own steps
keep true of the request and these two records is true in every state.
-/

namespace ExplorerProxy

set_option autoImplicit false

def History.record (h : History) (i : Nat) : List Deed :=
  h.filterMap fun d => if d.1 = i then some d.2 else none

section Record

variable (h : History)

theorem History.record_of_self (ds : List Deed) (i : Nat) :
    History.record (ds.map (fun d => (i, d)) ++ h) i = ds ++ h.record i := by
  induction ds with
  | nil => rfl
  | cons d ds ih =>
    rw [List.map_cons, List.cons_append, record, List.filterMap_cons]
    simp only [if_true]
    rw [List.cons_append, ← ih]
    rfl

theorem History.record_of_other (ds : List Deed) {i j : Nat} (hij : j ≠ i) :
    History.record (ds.map (fun d => (j, d)) ++ h) i = h.record i := by
  induction ds with
  | nil => rfl
  | cons d ds ih =>
    rw [List.map_cons, List.cons_append, record, List.filterMap_cons]
    simp only [if_neg hij]
    exact ih

theorem History.mem_record {i : Nat} {d : Deed} : d ∈ h.record i ↔ (i, d) ∈ h := by
  simp only [record, List.mem_filterMap, Prod.exists]
  constructor
  · rintro ⟨j, d', hmem, heq⟩
    split at heq
    · rename_i hj
      obtain rfl := Option.some.inj heq
      exact hj ▸ hmem
    · cases heq
  · intro hmem
    exact ⟨i, d, hmem, if_pos rfl⟩

end Record

/-- The service before and after each of the own steps of a request, the latest first. -/
abbrev OwnSteps : Type := List (Service × Service)

namespace Traffic

variable [Timer]

/-- A step of request number `i`, or its end because the client goes away. -/
inductive StepOf (source : Source) (i : Nat) (t : Traffic) : Traffic → Prop where
  | move (f : Flight) (hf : t.flights[i]? = some f) (h : f.phase.isOver = false) :
      StepOf source i t (t.move source i f)
  | drop (f : Flight) (hf : t.flights[i]? = some f) (h : f.phase.isOver = false) :
      StepOf source i t (t.drop i f)

/-- A run that leads to a state, with the own steps of request number `i` on the way. -/
inductive Watched (source : Source) (policy : RetryPolicy) (holdersCapacity abiCapacity i : Nat) :
    OwnSteps → Traffic → Prop where
  | start : Watched source policy holdersCapacity abiCapacity i []
      (start policy holdersCapacity abiCapacity)
  | arrive {own : OwnSteps} {t : Traffic} (r : Request)
      (h : Watched source policy holdersCapacity abiCapacity i own t) :
      Watched source policy holdersCapacity abiCapacity i own (t.arrive r)
  | wait {own : OwnSteps} {t : Traffic} (now : Nat) (hnow : t.session.now ≤ now)
      (h : Watched source policy holdersCapacity abiCapacity i own t) :
      Watched source policy holdersCapacity abiCapacity i own (t.wait now)
  | other {own : OwnSteps} {t t' : Traffic} {j : Nat} (hj : j ≠ i) (hs : StepOf source j t t')
      (h : Watched source policy holdersCapacity abiCapacity i own t) :
      Watched source policy holdersCapacity abiCapacity i own t'
  | own {own : OwnSteps} {t t' : Traffic} (hs : StepOf source i t t')
      (h : Watched source policy holdersCapacity abiCapacity i own t) :
      Watched source policy holdersCapacity abiCapacity i
        ((t.session.service, t'.session.service) :: own) t'

variable {source : Source} {policy : RetryPolicy} {holdersCapacity abiCapacity i : Nat}

theorem Reachable.watched {t : Traffic}
    (h : Reachable source policy holdersCapacity abiCapacity t) (i : Nat) :
    ∃ own, Watched source policy holdersCapacity abiCapacity i own t := by
  induction h with
  | refl => exact ⟨[], .start⟩
  | @tail u _ _ hstep ih =>
    obtain ⟨own, hown⟩ := ih
    have hof : ∀ j u', StepOf source j u u' →
        ∃ own, Watched source policy holdersCapacity abiCapacity i own u' := by
      intro j u' hs
      by_cases hj : j = i
      · subst hj
        exact ⟨_, .own hs hown⟩
      · exact ⟨own, .other hj hs hown⟩
    cases hstep with
    | arrive r => exact ⟨own, .arrive r hown⟩
    | wait now hnow => exact ⟨own, .wait now hnow hown⟩
    | move j f hf hover => exact hof j _ (.move f hf hover)
    | drop j f hf hover => exact hof j _ (.drop f hf hover)

theorem StepOf.step {t t' : Traffic} (h : StepOf source i t t') : Step source t t' := by
  cases h with
  | move f hf hover => exact .move i f hf hover
  | drop f hf hover => exact .drop i f hf hover

theorem Watched.reachable {own : OwnSteps} {t : Traffic}
    (h : Watched source policy holdersCapacity abiCapacity i own t) :
    Reachable source policy holdersCapacity abiCapacity t := by
  induction h with
  | start => exact .refl
  | arrive r _ ih => exact ih.tail (.arrive r)
  | wait now hnow _ ih => exact ih.tail (.wait now hnow)
  | other _ hs _ ih => exact ih.tail hs.step
  | own hs _ ih => exact ih.tail hs.step

theorem record_move (t : Traffic) (i : Nat) (f : Flight) :
    (t.move source i f).history.record i = f.newDeeds source t.session ++ t.history.record i :=
  History.record_of_self _ _ _

theorem StepOf.of_other {t t' : Traffic} {j : Nat} (h : StepOf source j t t') (hj : j ≠ i) :
    t'.flights[i]? = t.flights[i]? ∧ t'.history.record i = t.history.record i := by
  cases h with
  | move f => exact ⟨List.getElem?_set_ne hj, History.record_of_other _ _ hj⟩
  | drop f => exact ⟨List.getElem?_set_ne hj, rfl⟩

theorem StepOf.policy_eq {t t' : Traffic} {j : Nat} (h : StepOf source j t t') :
    t'.session.service.policy = t.session.service.policy := by
  cases h with
  | move f _ hover => exact (f.moved source t.session hover).policy_eq
  | drop f => rfl

theorem Watched.policy_eq {own : OwnSteps} {t : Traffic}
    (h : Watched source policy holdersCapacity abiCapacity i own t) :
    t.session.service.policy = policy := by
  induction h with
  | start => rfl
  | arrive _ _ ih => exact ih
  | wait _ _ _ ih => exact ih
  | other _ hs _ ih => exact hs.policy_eq.trans ih
  | own hs _ ih => exact hs.policy_eq.trans ih

/-- What is true of a request that has just come, and is kept by its own steps, is true of
it in every state. Before it comes it has done nothing. -/
theorem Watched.invariant (P : Flight → List Deed → OwnSteps → Prop)
    (hstart : ∀ now r, P (.start now r) [] [])
    (hmove : ∀ (w : Session) (f g : Flight) (new ds : List Deed) (s : Service) (own : OwnSteps),
      w.service.policy = policy → f.Moved source w g new s → P f ds own →
      P g (new ++ ds) ((w.service, s) :: own))
    (hdrop : ∀ (s : Service) (f : Flight) (ds : List Deed) (own : OwnSteps),
      f.phase.isOver = false → P f ds own → P f.drop ds ((s, s) :: own))
    {own : OwnSteps} {t : Traffic}
    (h : Watched source policy holdersCapacity abiCapacity i own t) :
    (t.flights[i]? = none → t.history.record i = [] ∧ own = []) ∧
      ∀ f, t.flights[i]? = some f → P f (t.history.record i) own := by
  induction h with
  | start =>
    refine ⟨fun _ => ⟨rfl, rfl⟩, fun f hf => ?_⟩
    cases hf
  | @arrive own t r _ ih =>
    obtain ⟨hnone, hsome⟩ := ih
    rcases Nat.lt_trichotomy i t.flights.length with hlt | heq | hgt
    · have hsame : (t.arrive r).flights[i]? = t.flights[i]? := List.getElem?_append_left hlt
      rw [hsame]
      exact ⟨hnone, hsome⟩
    · -- the request that is watched has come
      obtain ⟨hrecord, rfl⟩ := hnone (List.getElem?_eq_none (Nat.le_of_eq heq.symm))
      have hnew : (t.arrive r).flights[i]? = some (.start t.session.now r) := by
        rw [heq]
        exact List.getElem?_concat_length
      rw [hnew]
      refine ⟨fun hno => absurd hno (Option.some_ne_none _), ?_⟩
      rintro f ⟨rfl⟩
      exact hrecord ▸ hstart _ r
    · have hlen : (t.arrive r).flights.length = t.flights.length + 1 := by simp [Traffic.arrive]
      have hnew : (t.arrive r).flights[i]? = none := List.getElem?_eq_none (by omega)
      rw [hnew]
      refine ⟨fun _ => hnone (List.getElem?_eq_none (by omega)), fun f hf => ?_⟩
      cases hf
  | wait now hnow _ ih => exact ih
  | other hj hs _ ih =>
    obtain ⟨hflight, hrecord⟩ := hs.of_other hj
    rw [hflight, hrecord]
    exact ih
  | own hs hw ih =>
    cases hs with
    | move f hf hover =>
      have hlt := (List.getElem?_eq_some_iff.mp hf).1
      have hP := hmove _ f _ _ _ _ _ hw.policy_eq (f.moved source _ hover) (ih.2 f hf)
      rw [record_move]
      simp only [Traffic.move, List.getElem?_set_self hlt]
      refine ⟨fun hno => absurd hno (Option.some_ne_none _), ?_⟩
      rintro g ⟨rfl⟩
      exact hP
    | drop f hf hover =>
      have hlt := (List.getElem?_eq_some_iff.mp hf).1
      simp only [Traffic.drop, List.getElem?_set_self hlt]
      refine ⟨fun hno => absurd hno (Option.some_ne_none _), ?_⟩
      rintro g ⟨rfl⟩
      exact hdrop _ f _ _ hover (ih.2 f hf)

end Traffic

end ExplorerProxy
