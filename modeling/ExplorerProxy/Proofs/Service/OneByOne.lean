import ExplorerProxy.Proofs.Service.Results

/-!
# One request after another

Requests that are answered one after another are one of the schedules that requests can
have: each comes when the one before it has its answer, and takes all its steps at once.
-/

namespace ExplorerProxy

set_option autoImplicit false

namespace Traffic

open Relation

/-- A state with one request more, its deeds so far, and another session. -/
def joined (t : Traffic) (w : Session) (f : Flight) (ds : List Deed) : Traffic :=
  ⟨w, t.flights ++ [f], ds.map (fun d => (t.flights.length, d)) ++ t.history⟩

theorem ledger_joined {t : Traffic} (ht : ∀ d ∈ t.history, d.1 < t.flights.length) (w : Session)
    (f : Flight) (ds : List Deed) : (t.joined w f ds).ledger = t.ledger ++ [(f, ds)] := by
  have hnone : t.history.record t.flights.length = [] := by
    rw [History.record, List.filterMap_eq_nil_iff]
    intro d hd
    exact if_neg (Nat.ne_of_lt (ht d hd))
  have hlast : (t.joined w f ds).history.record t.flights.length = ds := by
    refine (History.record_of_self t.history ds t.flights.length).trans ?_
    rw [hnone, List.append_nil]
  have hothers : ∀ p ∈ t.flights.zipIdx, (p.1, (t.joined w f ds).history.record p.2) =
      (p.1, t.history.record p.2) := by
    intro p hp
    have hlt := (List.mem_zipIdx' hp).1
    rw [joined, History.record_of_other _ _ (Nat.ne_of_gt hlt)]
  rw [ledger, joined, List.zipIdx_append, List.map_append]
  refine congrArg₂ (· ++ ·) (List.map_congr_left hothers) ?_
  rw [Nat.zero_add]
  exact congrArg (fun x => [(f, x)]) hlast

variable [Timer] (source : Source)

theorem joined_move (t : Traffic) (w : Session) {f : Flight} (ds : List Deed)
    (hover : f.phase.isOver = false) :
    Step source (t.joined w f ds)
      (t.joined (f.move source w).session (f.move source w).answer
        (f.newDeeds source w ++ ds)) := by
  have hf : (t.joined w f ds).flights[t.flights.length]? = some f := List.getElem?_concat_length
  have hmoved : (t.joined w f ds).move source t.flights.length f =
      t.joined (f.move source w).session (f.move source w).answer (f.newDeeds source w ++ ds) := by
    simp only [Traffic.move, joined, Flight.newDeeds, List.map_append, List.append_assoc]
    rw [List.set_append_right _ _ (Nat.le_refl _), Nat.sub_self, List.set_cons_zero]
  exact hmoved ▸ Step.move t.flights.length f hf hover

section Call

variable (t : Traffic) (w : Session) (r : Request) (subject : Subject) (due : Nat)
  (ds : List Deed)

theorem joined_call (attempt : UInt32) :
    ∃ due' new, new.filterMap Deed.call? = [⟨r.kind, subject⟩] ∧
      ReflTransGen (Step source) (t.joined w ⟨r, .calling subject attempt, none, due⟩ ds)
        (t.joined { w with past := ⟨r.kind, subject⟩ :: w.past }
          ⟨r, .afterCall w.service.policy subject attempt (source w.past r.kind subject).outcome,
            none, due'⟩ (new ++ ds)) := by
  let called : Flight := ⟨r, .calling subject attempt, some (source w.past r.kind subject),
    w.now + Timer.lasts (source w.past r.kind subject).takes⟩
  let w' : Session := { w with past := ⟨r.kind, subject⟩ :: w.past }
  have h₁ := t.joined_move source w (f := ⟨r, .calling subject attempt, none, due⟩) ds rfl
  have h₂ := t.joined_move source w' (f := called)
    (.called r.kind subject w.past :: ds) rfl
  refine ⟨(called.move source w').answer.due,
    called.newDeeds source w' ++ [.called r.kind subject w.past], ?_, ?_⟩
  · rw [List.filterMap_append, Flight.filterMap_call?_heard]
    rfl
  · rw [List.append_assoc]
    exact (ReflTransGen.single h₁).tail h₂

theorem joined_store (v : r.kind.Value) :
    ∃ due' new, new.filterMap Deed.call? = [] ∧
      Step source (t.joined w ⟨r, .storing subject v, none, due⟩ ds)
        (t.joined { w with service := w.service.store r.kind subject v }
          ⟨r, .answered (.ok v), none, due'⟩ (new ++ ds)) :=
  ⟨w.now,
    [.answered r (.ok v), .stored r.kind subject v (!(w.service.cache r.kind).contains subject)],
    rfl, t.joined_move source w ds rfl⟩

theorem joined_settle (attempt : UInt32) {o : Except FetchError r.kind.Value}
    (ho : (source w.past r.kind subject).outcome = o)
    (hlast : ∀ e, o = .error e →
      Phase.afterCall w.service.policy subject attempt o = .answered (.error e)) :
    ∃ due' new, new.filterMap Deed.call? = [⟨r.kind, subject⟩] ∧
      ReflTransGen (Step source) (t.joined w ⟨r, .calling subject attempt, none, due⟩ ds)
        (t.joined ⟨w.service.conclude r.kind subject o, w.now, ⟨r.kind, subject⟩ :: w.past⟩
          ⟨r, .answered o, none, due'⟩ (new ++ ds)) := by
  obtain ⟨due₁, new₁, hnew₁, hcall⟩ := t.joined_call source w r subject due ds attempt
  rw [ho] at hcall
  cases o with
  | error e =>
    rw [hlast e rfl] at hcall
    exact ⟨due₁, new₁, hnew₁, hcall⟩
  | ok v =>
    obtain ⟨due₂, new₂, hnew₂, hstore⟩ := t.joined_store source
      { w with past := ⟨r.kind, subject⟩ :: w.past } r subject due₁ (new₁ ++ ds) v
    refine ⟨due₂, new₂ ++ new₁, ?_, ?_⟩
    · rw [List.filterMap_append, hnew₁, hnew₂, List.nil_append]
    · rw [List.append_assoc]
      exact hcall.tail hstore

/-- From attempt number `attempt` on, a request that no other comes between makes the calls
of a run and ends as the run does. -/
theorem joined_runFrom (s : Service) (now : Nat) (past : List Call) (left n : Nat)
    (attempt : UInt32) (hn : attempt.toNat = n + 1)
    (hleft : attempt.toNat + left = s.policy.limit.toNat) :
    let c : Call := ⟨r.kind, subject⟩
    let run := s.policy.runFrom FetchError.isTransient
      (fun i => (source (List.replicate i c ++ past) r.kind subject).outcome) left attempt
    ∃ due' new, new.filterMap Deed.call? = List.replicate run.calls c ∧
      ReflTransGen (Step source)
        (t.joined ⟨s, now, List.replicate n c ++ past⟩ ⟨r, .calling subject attempt, none, due⟩ ds)
        (t.joined ⟨s.conclude r.kind subject run.result, now,
            List.replicate (n + run.calls) c ++ past⟩
          ⟨r, .answered run.result, none, due'⟩ (new ++ ds)) := by
  intro c
  induction left generalizing n attempt due ds with
  | zero =>
    intro run
    have hindex : attempt.toNat - 1 = n := by omega
    have hrun : run = ⟨[], (source (List.replicate n c ++ past) r.kind subject).outcome⟩ := by
      simp only [run, RetryPolicy.runFrom, hindex]
    rw [hrun]
    refine t.joined_settle source ⟨s, now, _⟩ r subject due ds attempt rfl ?_
    intro e he
    rw [he]
    rcases Phase.afterCall_error (α := r.kind.Value) s.policy subject attempt e with
      ⟨hlt, _⟩ | ⟨_, hphase⟩
    · have := UInt32.lt_iff_toNat_lt.mp hlt
      omega
    · exact hphase
  | succ left ih =>
    intro run
    have hindex : attempt.toNat - 1 = n := by omega
    cases ho : (source (List.replicate n c ++ past) r.kind subject).outcome with
    | ok v =>
      have hrun : run = ⟨[], .ok v⟩ := by
        simp only [run, RetryPolicy.runFrom, hindex, ho]
      rw [hrun]
      exact t.joined_settle source ⟨s, now, _⟩ r subject due ds attempt ho fun e he => by cases he
    | error e =>
      cases hverdict : s.policy.afterFailure attempt e.isTransient with
      | again wait =>
        have hlt : attempt < s.policy.limit := UInt32.lt_iff_toNat_lt.mpr (by omega)
        have hnext := toNat_attempt_succ hlt
        have hrun : run = (s.policy.runFrom FetchError.isTransient
            (fun i => (source (List.replicate i c ++ past) r.kind subject).outcome) left
            (attempt + 1)).after e wait := by
          simp only [run, RetryPolicy.runFrom, hindex, ho, hverdict]
        obtain ⟨due₁, new₁, hnew₁, hcall⟩ := t.joined_call source
          ⟨s, now, List.replicate n c ++ past⟩ r subject due ds attempt
        have hphase : Phase.afterCall s.policy subject attempt
            (source (List.replicate n c ++ past) r.kind subject).outcome =
              .resting subject (attempt + 1) wait := by
          simp only [ho, Phase.afterCall, hverdict]
        rw [hphase] at hcall
        have hrested := t.joined_move source
          ⟨s, now, List.replicate (n + 1) c ++ past⟩
          (f := ⟨r, .resting subject (attempt + 1) wait, none, due₁⟩) (new₁ ++ ds) rfl
        obtain ⟨due₂, new₂, hnew₂, hrest⟩ := ih now (new₁ ++ ds) (n + 1) (attempt + 1) (by omega)
          (by omega)
        refine ⟨due₂, new₂ ++ new₁, ?_, ?_⟩
        · rw [List.filterMap_append, hnew₁, hnew₂, hrun]
          exact (List.replicate_succ' ..).symm
        · have hcount : n + run.calls = n + 1 + (s.policy.runFrom FetchError.isTransient
              (fun i => (source (List.replicate i c ++ past) r.kind subject).outcome) left
              (attempt + 1)).calls := by
            rw [hrun]
            simp only [RetryRun.calls, RetryRun.after, List.length_cons]
            omega
          rw [List.append_assoc, hcount, hrun]
          exact (hcall.tail hrested).trans hrest
      | permanent | exhausted =>
        have hrun : run = ⟨[], .error e⟩ := by
          simp only [run, RetryPolicy.runFrom, hindex, ho, hverdict]
        rw [hrun]
        refine t.joined_settle source ⟨s, now, _⟩ r subject due ds attempt ho ?_
        rintro _ ⟨rfl⟩
        simp only [Phase.afterCall, hverdict]

end Call

section Visit

variable (t : Traffic) (r : Request)

theorem joined_visit :
    let one := t.session.visit source r
    ∃ due ds, ds.filterMap Deed.call? = one.calls ∧
      ReflTransGen (Step source) t
        (t.joined one.session ⟨r, .answered one.answer, none, due⟩ ds) := by
  intro one
  have harrive : ReflTransGen (Step source) t (t.joined t.session (.start t.session.now r) []) :=
    .single (.arrive r)
  have hbegin := harrive.tail (t.joined_move source t.session
    (f := .start t.session.now r) [] rfl)
  have hone : one = t.session.lookup source r.kind r.network r.address := rfl
  cases hn : Network.ofTag? r.network with
  | none =>
    obtain ⟨hanswer, hcalls, hsession⟩ :=
      t.session.lookup_of_unknown source r.kind hn
    refine ⟨t.session.now, [.answered r (.error (.unsupportedNetwork r.network))], ?_, ?_⟩
    · rw [hone, hcalls]
      rfl
    · rw [hone, hanswer, hsession]
      simp only [Flight.move, Flight.newDeeds, Flight.deeds, Flight.start, hn,
        Service.begin_of_unknown _ _ hn] at hbegin
      exact hbegin
  | some n =>
    cases hv : (t.session.service.cache r.kind).value? ⟨n, r.address⟩ with
    | some v =>
      obtain ⟨hanswer, hcalls, hsession⟩ := t.session.lookup_of_held source r.kind hn hv
      refine ⟨t.session.now, [.answered r (.ok v), .looked r.kind ⟨n, r.address⟩ (some v)], ?_, ?_⟩
      · rw [hone, hcalls]
        rfl
      · rw [hone, hanswer, hsession]
        simp only [Flight.move, Flight.newDeeds, Flight.deeds, Flight.start, hn,
          Service.begin_of_held _ _ hn hv, Cache.get_fst, hv] at hbegin
        exact hbegin
    | none =>
      obtain ⟨hanswer, hcalls, hsession⟩ := t.session.lookup_of_missing source r.kind hn hv
      let s := t.session.service.withCache r.kind
        ((t.session.service.cache r.kind).get ⟨n, r.address⟩).2
      have hpolicy : s.policy = t.session.service.policy := Service.policy_withCache _ _ _
      have hleft : (1 : UInt32).toNat + (s.policy.limit.toNat - 1) = s.policy.limit.toNat := by
        rw [s.policy.limit_toNat]
        exact Nat.add_sub_cancel' (Nat.le_max_left ..)
      obtain ⟨due, new, hnew, hrun⟩ := t.joined_runFrom source r ⟨n, r.address⟩
        t.session.now [.looked r.kind ⟨n, r.address⟩ none] s t.session.now t.session.past
        (s.policy.limit.toNat - 1) 0 1 rfl hleft
      rw [hpolicy] at hnew hrun
      simp only [Flight.move, Flight.newDeeds, Flight.deeds, Flight.start, hn,
        Service.begin_of_missing _ _ hn hv, Cache.get_fst, hv] at hbegin
      -- the steps take no time of their own, so that it passes at the end
      have htime : t.session.now ≤ one.session.now := by
        rw [hone, hsession]
        exact RetryRun.le_ends ..
      have hwait := (hbegin.trans hrun).tail (.wait one.session.now htime)
      refine ⟨due, new ++ [.looked r.kind ⟨n, r.address⟩ none], ?_, ?_⟩
      · rw [List.filterMap_append, hnew, hone, hcalls]
        exact List.append_nil _
      · rw [hone, hsession, Nat.zero_add] at hwait
        rw [hone, hanswer, hsession]
        exact hwait

end Visit

/-- Requests one after another are a way of traffic to a state with the same session, in
which all are answered, as in their visits. -/
theorem exists_reachable_visits (policy : RetryPolicy) (holdersCapacity abiCapacity : Nat)
    (requests : List Request) :
    let row := (Session.start (.fresh policy holdersCapacity abiCapacity)).visits source requests
    ∃ t, Reachable source policy holdersCapacity abiCapacity t ∧ t.session = row.2 ∧
      t.flights.map Flight.request = requests.reverse ∧
      t.Done ∧ t.visits = row.1.reverse := by
  intro row
  induction requests with
  | nil =>
    exact ⟨start policy holdersCapacity abiCapacity, .refl, rfl, rfl, List.forall_mem_nil _, rfl⟩
  | cons r earlier ih =>
    obtain ⟨t, ht, hsession, hrequests, hdone, hvisits⟩ := ih
    obtain ⟨due, ds, hcalls, hsteps⟩ := t.joined_visit source r
    rw [hsession] at hcalls hsteps
    refine ⟨_, ht.trans hsteps, rfl, ?_, ?_, ?_⟩
    · rw [joined, List.map_append, hrequests, List.reverse_cons]
      rfl
    · intro f hf
      rcases List.mem_append.mp hf with hf | hf
      · exact hdone f hf
      · rw [List.mem_singleton.mp hf]
        rfl
    · rw [visits, ledger_joined fun d hd => ht.index_lt hd, List.filterMap_append, ← visits,
        hvisits]
      simp only [row, Session.visits, List.reverse_cons]
      rw [← hcalls]
      rfl

end Traffic

end ExplorerProxy
