import ExplorerProxy.Proofs.Service.Results

/-!
# Requests that have nothing to do with each other

At a source that answers the calls for each kind and subject in a sequence of their own,
requests that are all different do not notice each other: whatever the order of their
steps, each comes to what it would come to alone.
-/

namespace ExplorerProxy

set_option autoImplicit false

/-- The outcomes of successive calls for each kind and subject, counted from zero. -/
abbrev OutcomeSeqs : Type := (k : Kind) → Subject → Nat → Except FetchError k.Value

/-- What a call comes to depends on how many calls for its kind and subject there were
before, and on nothing else. -/
def Source.Separate (source : Source) (seqs : OutcomeSeqs) : Prop :=
  ∀ past k subject, (source past k subject).outcome = seqs k subject (past.count ⟨k, subject⟩)

/-- What a request comes to when it is alone. -/
def Request.alone (policy : RetryPolicy) (seqs : OutcomeSeqs) (r : Request) : Visit :=
  match Network.ofTag? r.network with
  | none => ⟨r, .error (.unsupportedNetwork r.network), []⟩
  | some n =>
    let run := policy.run FetchError.isTransient (seqs r.kind ⟨n, r.address⟩)
    ⟨r, run.result, List.replicate run.calls ⟨r.kind, ⟨n, r.address⟩⟩⟩

section Alone

variable (policy : RetryPolicy) (seqs : OutcomeSeqs) {r : Request}

theorem Request.alone_of_unknown (h : Network.ofTag? r.network = none) :
    r.alone policy seqs = ⟨r, .error (.unsupportedNetwork r.network), []⟩ := by
  simp only [alone, h]

theorem Request.alone_of_known {n : Network} (h : Network.ofTag? r.network = some n) :
    r.alone policy seqs =
      ⟨r, (policy.run FetchError.isTransient (seqs r.kind ⟨n, r.address⟩)).result,
        List.replicate (policy.run FetchError.isTransient (seqs r.kind ⟨n, r.address⟩)).calls
          ⟨r.kind, ⟨n, r.address⟩⟩⟩ := by
  simp only [alone, h]

end Alone

theorem Phase.afterCall_error_iff {α : Type} (p : RetryPolicy) (subject : Subject)
    (attempt : UInt32) (e : FetchError) :
    (e.isTransient = true ∧ attempt < p.limit ∧
        ∃ wait, afterCall p subject attempt (.error e : Except FetchError α) =
          .resting subject (attempt + 1) wait) ∨
      ((e.isTransient = false ∨ p.limit ≤ attempt) ∧
        afterCall p subject attempt (.error e : Except FetchError α) = .answered (.error e)) := by
  cases ht : e.isTransient with
  | false =>
    refine Or.inr ⟨Or.inl rfl, ?_⟩
    simp only [afterCall, RetryPolicy.afterFailure, ht, Bool.not_false, if_true]
  | true =>
    by_cases hlimit : p.limit ≤ attempt
    · refine Or.inr ⟨Or.inr hlimit, ?_⟩
      simp only [afterCall, RetryPolicy.afterFailure, ht, Bool.not_true, Bool.false_eq_true,
        if_false, if_pos hlimit]
    · refine Or.inl ⟨rfl, Std.not_le.mp hlimit, p.backoff (attempt - 1), ?_⟩
      simp only [afterCall, RetryPolicy.afterFailure, ht, Bool.not_true, Bool.false_eq_true,
        if_false, if_neg hlimit]

theorem callsIn_append (new ds : List Deed) : callsIn (new ++ ds) = callsIn new + callsIn ds :=
  List.countP_append

namespace Flight

/-- A request keeps to the outcomes that are its own: those before its attempt were not
final, the reply to its call is the next one, and its answer is the one that ends a run. -/
def RunsAs (policy : RetryPolicy) (seqs : OutcomeSeqs) (f : Flight) (ds : List Deed) : Prop :=
  match f.phase with
  | .calling subject attempt =>
    (∀ i < attempt.toNat - 1, ¬ IsFinal FetchError.isTransient (seqs f.request.kind subject i)) ∧
      ∀ reply, f.reply? = some reply →
        reply.outcome = seqs f.request.kind subject (attempt.toNat - 1)
  | .resting subject attempt _ =>
    ∀ i < attempt.toNat - 1, ¬ IsFinal FetchError.isTransient (seqs f.request.kind subject i)
  | .storing subject v =>
    ∃ m, policy.EndsWith FetchError.isTransient (seqs f.request.kind subject) m ∧
      seqs f.request.kind subject m = .ok v ∧ callsIn ds = m + 1
  | .answered a =>
    match Network.ofTag? f.request.network with
    | none => a = .error (.unsupportedNetwork f.request.network) ∧ callsIn ds = 0
    | some n =>
      ∃ m, policy.EndsWith FetchError.isTransient (seqs f.request.kind ⟨n, f.request.address⟩) m ∧
        a = seqs f.request.kind ⟨n, f.request.address⟩ m ∧ callsIn ds = m + 1
  | _ => True

variable {policy : RetryPolicy} {seqs : OutcomeSeqs} {f : Flight} {ds : List Deed}

theorem runsAs_answered {a : Except FetchError f.request.kind.Value} (hp : f.phase = .answered a)
    {x : Subject} (habout : f.request.About x) {m : Nat}
    (hm : policy.EndsWith FetchError.isTransient (seqs f.request.kind x) m)
    (ha : a = seqs f.request.kind x m) (hcalls : callsIn ds = m + 1) : f.RunsAs policy seqs ds := by
  obtain ⟨n, address⟩ := x
  obtain ⟨hn, rfl⟩ := habout
  simp only [RunsAs, hp, hn]
  exact ⟨m, hm, ha, hcalls⟩

variable [Timer] {source : Source} {w : Session}

theorem RunsAs.move_arrived (hp : f.phase = .arrived) (ho : f.Orderly ds)
    (hmiss : ∀ n, Network.ofTag? f.request.network = some n →
      (w.service.cache f.request.kind).value? ⟨n, f.request.address⟩ = none) :
    (f.move source w).answer.RunsAs policy seqs (f.newDeeds source w ++ ds) := by
  have hcourse := ho.course
  obtain ⟨request, phase, reply?, due⟩ := f
  dsimp only at hp hmiss
  subst hp
  obtain rfl : ds = [] := hcourse
  cases hn : Network.ofTag? request.network with
  | none =>
    simp only [newDeeds, Flight.move, deeds, hn, Service.begin_of_unknown _ _ hn, RunsAs, goTo,
      Phase.ofOpening]
    exact ⟨trivial, rfl⟩
  | some n =>
    simp only [Flight.move, Service.begin_of_missing _ _ hn (hmiss n hn), RunsAs, goTo,
      Phase.ofOpening]
    refine ⟨?_, ?_⟩
    · intro i hi
      exact absurd hi (Nat.not_lt_zero i)
    · intro reply hreply
      cases hreply

theorem RunsAs.move_calling {subject : Subject} {attempt : UInt32}
    (hp : f.phase = .calling subject attempt) (hr : f.reply? = none)
    (h : f.RunsAs policy seqs ds) (hb : f.InBudget policy.limit.toNat ds)
    (hcall : (source w.past f.request.kind subject).outcome =
      seqs f.request.kind subject (callsIn ds)) :
    (f.move source w).answer.RunsAs policy seqs (f.newDeeds source w ++ ds) := by
  obtain ⟨request, phase, reply?, due⟩ := f
  dsimp only at hp hr hcall
  subst hp hr
  obtain ⟨_, _, hcalls⟩ := hb
  refine ⟨h.1, ?_⟩
  rintro reply ⟨rfl⟩
  rw [hcall, ← hcalls]
  rfl

theorem RunsAs.move_heard {subject : Subject} {attempt : UInt32}
    (hp : f.phase = .calling subject attempt) {reply : Reply f.request.kind.Value}
    (hr : f.reply? = some reply) (h : f.RunsAs policy seqs ds)
    (hb : f.InBudget policy.limit.toNat ds) (habout : f.request.About subject)
    (hpolicy : w.service.policy = policy) :
    (f.move source w).answer.RunsAs policy seqs (f.newDeeds source w ++ ds) := by
  subst hpolicy
  obtain ⟨hcalls, hpos, hle⟩ := hb.calls_of_reply hp hr
  obtain ⟨request, phase, reply?, due⟩ := f
  dsimp only at hp reply hr habout
  subst hp hr
  obtain ⟨hbefore, hreply⟩ := h
  have ho := hreply reply rfl
  obtain ⟨due', hmove⟩ : ∃ due', (Flight.move source w
      ⟨request, .calling subject attempt, some reply, due⟩).answer =
        ⟨request, .afterCall w.service.policy subject attempt reply.outcome, none, due'⟩ := ⟨_, rfl⟩
  have hnew : callsIn (newDeeds source w ⟨request, .calling subject attempt, some reply, due⟩ ++
      ds) = attempt.toNat - 1 + 1 := by
    rw [callsIn_append, ← length_filterMap_call?, filterMap_call?_heard, hcalls, List.length_nil]
    omega
  rw [hmove]
  cases hout : reply.outcome with
  | ok v =>
    rw [hout] at ho
    have hfinal :
        IsFinal FetchError.isTransient (seqs request.kind subject (attempt.toNat - 1)) := by
      rw [← ho]
      trivial
    exact ⟨attempt.toNat - 1, ⟨by omega, hbefore, Or.inl hfinal⟩, ho.symm, hnew⟩
  | error e =>
    rw [hout] at ho
    rcases Phase.afterCall_error_iff (α := request.kind.Value) w.service.policy subject attempt e
      with ⟨htransient, hlt, wait, hphase⟩ | ⟨hstop, hphase⟩
    · rw [hphase]
      intro i hi
      rw [toNat_attempt_succ hlt] at hi
      rcases Nat.lt_or_ge i (attempt.toNat - 1) with hi' | hi'
      · exact hbefore i hi'
      · -- the outcome just heard may pass
        obtain rfl : i = attempt.toNat - 1 := by omega
        rw [← ho, IsFinal, htransient]
        intro hfinal
        cases hfinal
    · rw [hphase]
      refine runsAs_answered rfl habout ⟨by omega, hbefore, ?_⟩ ho hnew
      rcases hstop with hpermanent | hlimit
      · refine Or.inl ?_
        rw [← ho]
        exact hpermanent
      · have := UInt32.le_iff_toNat_le.mp hlimit
        exact Or.inr (by omega)

theorem RunsAs.move_storing {subject : Subject} {v : f.request.kind.Value}
    (hp : f.phase = .storing subject v) (h : f.RunsAs policy seqs ds)
    (habout : f.request.About subject) :
    (f.move source w).answer.RunsAs policy seqs (f.newDeeds source w ++ ds) := by
  obtain ⟨request, phase, reply?, due⟩ := f
  dsimp only at v hp habout
  subst hp
  obtain ⟨m, hm, hv, hcalls⟩ := h
  exact runsAs_answered rfl habout hm hv.symm hcalls

theorem RunsAs.move (h : f.RunsAs policy seqs ds) (ho : f.Orderly ds)
    (hb : f.InBudget policy.limit.toNat ds) (hpolicy : w.service.policy = policy)
    (hmiss : f.phase = .arrived → ∀ n, Network.ofTag? f.request.network = some n →
      (w.service.cache f.request.kind).value? ⟨n, f.request.address⟩ = none)
    (hcall : ∀ x, f.request.About x → (source w.past f.request.kind x).outcome =
      seqs f.request.kind x (callsIn ds))
    (hover : f.phase.isOver = false) :
    (f.move source w).answer.RunsAs policy seqs (f.newDeeds source w ++ ds) := by
  cases hp : f.phase with
  | arrived => exact move_arrived hp ho (hmiss hp)
  | calling subject attempt =>
    have habout := ho.subject subject (by rw [hp]; rfl)
    cases hr : f.reply? with
    | none => exact h.move_calling hp hr hb (hcall subject habout)
    | some reply => exact h.move_heard hp hr hb habout hpolicy
  | resting subject attempt wait =>
    obtain ⟨request, phase, reply?, due⟩ := f
    dsimp only at hp
    subst hp
    refine ⟨h, ?_⟩
    intro reply hreply
    cases hreply
  | storing subject v => exact h.move_storing hp (ho.subject subject (by rw [hp]; rfl))
  | answered a =>
    rw [hp] at hover
    cases hover
  | dropped =>
    rw [hp] at hover
    cases hover

end Flight

theorem Request.eq_of_about {r r' : Request} {x : Subject} (hkind : r.kind = r'.kind)
    (h : r.About x) (h' : r'.About x) : r = r' := by
  obtain ⟨kind, network, address⟩ := r
  obtain ⟨kind', network', address'⟩ := r'
  obtain ⟨hn, haddress⟩ := h
  obtain ⟨hn', haddress'⟩ := h'
  obtain rfl : kind = kind' := hkind
  obtain rfl : address = address' := haddress.trans haddress'.symm
  obtain rfl : network = network' := (Network.eq_tag hn).trans (Network.eq_tag hn').symm
  rfl

theorem Request.About.subject_eq {r : Request} {x y : Subject} (hx : r.About x) (hy : r.About y) :
    x = y := by
  obtain ⟨n, address⟩ := x
  obtain ⟨m, address'⟩ := y
  obtain ⟨hn, rfl⟩ := hx
  obtain ⟨hm, rfl⟩ := hy
  obtain rfl := Option.some.inj (hn.symm.trans hm)
  rfl

theorem Flight.Moved.request_eq {source : Source} {w : Session} {f g : Flight} {new : List Deed}
    {s : Service} (h : f.Moved source w g new s) : g.request = f.request := by
  cases h <;> rfl

theorem Deed.Of.request_eq {r r' : Request} {d : Deed} (h : d.Of r) (h' : d.Of r') : r = r' := by
  cases d with
  | answered r'' a => exact (h : r'' = r).symm.trans h'
  | _ => exact Request.eq_of_about (h.1.symm.trans h'.1) h.2 h'.2

theorem Deed.isCall_of_call? {d : Deed} {c : Call} (h : d.call? = some c) : d.isCall = true := by
  rw [← Deed.isSome_call?, h]
  rfl

theorem Deed.Of.call?_eq {r : Request} {d : Deed} (h : d.Of r) {x : Subject} (hx : r.About x)
    (hcall : d.isCall = true) : d.call? = some ⟨r.kind, x⟩ := by
  cases d with
  | called k y past =>
    obtain ⟨rfl, hy⟩ := h
    rw [hx.subject_eq hy]
    rfl
  | _ => cases hcall

theorem History.count_calls (h : History) {c : Call} {i : Nat}
    (hsole : ∀ d ∈ h, d.2.call? = some c → d.1 = i)
    (hown : ∀ d ∈ h.record i, d.isCall = true → d.call? = some c) :
    h.calls.count c = callsIn (h.record i) := by
  induction h with
  | nil => rfl
  | cons d h ih =>
    obtain ⟨j, d⟩ := d
    have hrecord := record_cons h j i d
    have hrest := ih (fun x hx => hsole x (List.mem_cons_of_mem _ hx)) fun x hx => hown x (by
      rw [hrecord]
      split
      · exact List.mem_cons_of_mem d hx
      · exact hx)
    rw [calls_cons, List.count_append, hrest, hrecord]
    by_cases hc : d.call? = some c
    · have hcall := Deed.isCall_of_call? hc
      obtain rfl : j = i := hsole _ List.mem_cons_self hc
      rw [if_pos rfl, callsIn_cons, hc, hcall, Option.toList_some, List.count_singleton_self,
        if_pos rfl, Nat.add_comm]
    · have hzero : List.count c d.call?.toList = 0 := by
        rw [List.count_eq_zero]
        intro hmem
        exact hc (Option.mem_toList.mp hmem)
      rw [hzero, Nat.zero_add]
      by_cases hij : j = i
      · rw [if_pos hij] at hrecord ⊢
        have hcall : ¬ d.isCall = true := by
          intro hcall
          exact hc (hown d (hrecord ▸ List.mem_cons_self) hcall)
        rw [callsIn_cons, if_neg hcall, Nat.add_zero]
      · rw [if_neg hij]

namespace Traffic

def Distinct (t : Traffic) : Prop := (t.flights.map Flight.request).Nodup

variable {source : Source} {policy : RetryPolicy} {holdersCapacity abiCapacity : Nat}
  {seqs : OutcomeSeqs} {t : Traffic} {i : Nat} {f : Flight}

theorem Distinct.index_eq (hd : t.Distinct) (hf : t.flights[i]? = some f) {j : Nat} {g : Flight}
    (hg : t.flights[j]? = some g) (hr : g.request = f.request) : j = i := by
  have hlt : j < (t.flights.map Flight.request).length := by
    rw [List.length_map]
    exact (List.getElem?_eq_some_iff.mp hg).1
  apply (List.getElem?_inj hlt hd).mp
  rw [List.getElem?_map, List.getElem?_map, hf, hg, Option.map_some, Option.map_some, hr]

theorem map_request_set {flights : List Flight} (hf : flights[i]? = some f) {g : Flight}
    (hr : g.request = f.request) :
    (flights.set i g).map Flight.request = flights.map Flight.request := by
  apply List.ext_getElem?
  intro j
  rw [List.getElem?_map, List.getElem?_map, List.getElem?_set]
  split
  · subst_vars
    rw [if_pos (List.getElem?_eq_some_iff.mp hf).1, hf, Option.map_some, Option.map_some, hr]
  · rfl

variable [Timer]

theorem Step.requests_eq {t' : Traffic} (h : Step source t t') :
    ∃ more, t'.flights.map Flight.request = t.flights.map Flight.request ++ more := by
  cases h with
  | arrive r => exact ⟨[r], List.map_append⟩
  | wait now hnow => exact ⟨[], (List.append_nil _).symm⟩
  | move i f hf hover =>
    have hrequest := (f.moved source t.session hover).request_eq
    exact ⟨[], (map_request_set hf hrequest).trans (List.append_nil _).symm⟩
  | drop i f hf hover =>
    exact ⟨[], (map_request_set hf (g := f.drop) rfl).trans (List.append_nil _).symm⟩

theorem Step.distinct {t' : Traffic} (h : Step source t t') (hd : t'.Distinct) : t.Distinct := by
  obtain ⟨more, hmore⟩ := h.requests_eq
  rw [Distinct, hmore] at hd
  exact (List.nodup_append.mp hd).1

/-- What a request can do no other one does, if all are different. -/
theorem Reachable.index_eq_of_of (h : Reachable source policy holdersCapacity abiCapacity t)
    (hd : t.Distinct) (hf : t.flights[i]? = some f) {d : Nat × Deed} (hmem : d ∈ t.history)
    (hof : d.2.Of f.request) : d.1 = i := by
  have hlt := h.index_lt hmem
  have hg : t.flights[d.1]? = some t.flights[d.1] := List.getElem?_eq_getElem hlt
  have hown := (h.orderly hg).own d.2 ((t.history.mem_record).mpr hmem)
  exact hd.index_eq hf hg (hown.request_eq hof)

theorem Reachable.value?_eq_none (h : Reachable source policy holdersCapacity abiCapacity t)
    (hd : t.Distinct) (hf : t.flights[i]? = some f) (hu : f.Unserved) {x : Subject}
    (habout : f.request.About x) : (t.session.service.cache f.request.kind).value? x = none := by
  obtain ⟨own, hw⟩ := h.watched i
  refine hw.value?_eq_none hf hu ?_
  intro j v new hj hmem
  exact hj (h.index_eq_of_of hd hf hmem ⟨rfl, habout⟩)

theorem Reachable.count_past (h : Reachable source policy holdersCapacity abiCapacity t)
    (hd : t.Distinct) (hf : t.flights[i]? = some f) {x : Subject} (habout : f.request.About x) :
    t.session.past.count ⟨f.request.kind, x⟩ = callsIn (t.history.record i) := by
  rw [h.replays.past]
  apply History.count_calls
  · rintro ⟨j, d⟩ hmem hc
    refine h.index_eq_of_of hd hf hmem ?_
    cases d with
    | called k y past =>
      cases hc
      exact ⟨rfl, habout⟩
    | _ => cases hc
  · intro d hmem hcall
    exact ((h.orderly hf).own d hmem).call?_eq habout hcall

theorem Reachable.runsAs (hs : source.Separate seqs)
    (h : Reachable source policy holdersCapacity abiCapacity t) (hd : t.Distinct)
    (hf : t.flights[i]? = some f) : f.RunsAs policy seqs (t.history.record i) := by
  induction h generalizing i f with
  | refl => cases hf
  | @tail u t hu hstep ih =>
    have hreach : Reachable source policy holdersCapacity abiCapacity u := hu
    have hdu := hstep.distinct hd
    cases hstep with
    | wait now hnow => exact ih hdu hf
    | arrive r =>
      rcases Nat.lt_or_ge i u.flights.length with hi | hi
      · rw [arrive, List.getElem?_append_left hi] at hf
        exact ih hdu hf
      · rw [arrive, List.getElem?_append_right hi] at hf
        obtain rfl := List.mem_singleton.mp (List.mem_of_getElem? hf)
        trivial
    | move j g hg hover =>
      by_cases hj : j = i
      · subst hj
        obtain ⟨own, hw⟩ := hreach.watched j
        rw [Traffic.move, List.getElem?_set_self (List.getElem?_eq_some_iff.mp hg).1] at hf
        obtain rfl := Option.some.inj hf
        rw [record_move]
        refine (ih hdu hg).move (hreach.orderly hg) (hreach.inBudget hg) hw.policy_eq ?_ ?_ hover
        · intro _ n hn
          exact hreach.value?_eq_none hdu hg (Flight.unserved_of_isOver hover) ⟨hn, rfl⟩
        · intro x hx
          rw [hs, hreach.count_past hdu hg hx]
      · have hof : StepOf source j u _ := .move g hg hover
        obtain ⟨hflight, hrecord⟩ := hof.of_other hj
        rw [hflight] at hf
        rw [hrecord]
        exact ih hdu hf
    | drop j g hg hover =>
      by_cases hj : j = i
      · subst hj
        rw [Traffic.drop, List.getElem?_set_self (List.getElem?_eq_some_iff.mp hg).1] at hf
        obtain rfl := Option.some.inj hf
        obtain ⟨request, phase, reply?, due⟩ := g
        cases phase <;> trivial
      · have hof : StepOf source j u _ := .drop g hg hover
        obtain ⟨hflight, hrecord⟩ := hof.of_other hj
        rw [hflight] at hf
        rw [hrecord]
        exact ih hdu hf

/-- The visit of a request among others that are all different is the one that it would
be alone. -/
theorem Reachable.visit?_eq (hs : source.Separate seqs)
    (h : Reachable source policy holdersCapacity abiCapacity t) (hd : t.Distinct)
    (hf : t.flights[i]? = some f) (hdone : f.phase.answer?.isSome = true) :
    f.visit? (t.history.record i) = some (f.request.alone policy seqs) := by
  have hruns := h.runsAs hs hd hf
  have hown := (h.orderly hf).own
  have hlength := length_filterMap_call? (t.history.record i)
  obtain ⟨r, phase, reply?, due⟩ := f
  cases phase with
  | answered a =>
    simp only [Flight.RunsAs] at hruns
    simp only [Flight.visit?, Phase.answer?, Option.map_some]
    cases hn : Network.ofTag? r.network with
    | none =>
      rw [hn] at hruns
      obtain ⟨ha, hcalls⟩ := hruns
      rw [hcalls, List.length_eq_zero_iff] at hlength
      rw [ha, hlength, Request.alone_of_unknown policy seqs hn]
    | some n =>
      rw [hn] at hruns
      obtain ⟨m, hm, ha, hcalls⟩ := hruns
      obtain ⟨k, hk, hresult, hcount, _⟩ := policy.run_spec FetchError.isTransient
        (seqs r.kind ⟨n, r.address⟩)
      obtain rfl := hm.unique _ _ _ hk
      have hsame : (t.history.record i).filterMap Deed.call? =
          List.replicate (m + 1) ⟨r.kind, ⟨n, r.address⟩⟩ := by
        rw [List.eq_replicate_iff]
        refine ⟨hlength.trans hcalls, ?_⟩
        intro c hc
        obtain ⟨d, hmem, hcall⟩ := List.mem_filterMap.mp hc
        have habout : r.About ⟨n, r.address⟩ := ⟨hn, rfl⟩
        have heq := (hown d hmem).call?_eq habout (Deed.isCall_of_call? hcall)
        exact Option.some.inj (hcall.symm.trans heq)
      rw [hsame, ha, Request.alone_of_known policy seqs hn, hresult, hcount]
  | _ => cases hdone

theorem Reachable.visits_eq (hs : source.Separate seqs)
    (h : Reachable source policy holdersCapacity abiCapacity t) (hd : t.Distinct) (hdone : t.Done) :
    t.visits = (t.flights.map Flight.request).map (Request.alone policy seqs) := by
  have hentries : t.visits = t.ledger.filterMap fun e => some (e.1.request.alone policy seqs) := by
    apply List.filterMap_congr
    rintro ⟨f, ds⟩ he
    obtain ⟨i, hf, rfl⟩ := mem_ledger.mp he
    exact h.visit?_eq hs hd hf (hdone f (List.mem_of_getElem? hf))
  rw [hentries, ← t.map_fst_ledger, List.map_map, List.map_map]
  exact congrFun List.filterMap_eq_map t.ledger

end Traffic

end ExplorerProxy
