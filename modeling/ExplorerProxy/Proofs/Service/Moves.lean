import ExplorerProxy.Proofs.Service.Traffic

/-!
# The steps of one request

What a step of a request can do, once for all: where the request goes, what it does that
concerns others, and what becomes of the service. A property of a request, its deeds and
its own steps that each of its steps keeps holds in every state, however the steps of
others lie between.
-/

namespace ExplorerProxy

set_option autoImplicit false

/-- Another attempt follows a failure only if there are attempts left, and none follows
only if there are none or it would be in vain. -/
theorem Phase.afterCall_error {α : Type} (p : RetryPolicy) (subject : Subject) (attempt : UInt32)
    (e : FetchError) :
    (attempt < p.limit ∧
        ∃ wait, afterCall p subject attempt (.error e : Except FetchError α) =
          .resting subject (attempt + 1) wait) ∨
      ((e.isTransient = true → p.limit ≤ attempt) ∧
        afterCall p subject attempt (.error e : Except FetchError α) = .answered (.error e)) := by
  cases ht : e.isTransient with
  | false =>
    refine Or.inr ⟨nofun, ?_⟩
    simp only [afterCall, RetryPolicy.afterFailure, ht, Bool.not_false, if_true]
  | true =>
    by_cases hlimit : p.limit ≤ attempt
    · refine Or.inr ⟨fun _ => hlimit, ?_⟩
      simp only [afterCall, RetryPolicy.afterFailure, ht, Bool.not_true, Bool.false_eq_true,
        if_false, if_pos hlimit]
    · refine Or.inl ⟨Std.not_le.mp hlimit, p.backoff (attempt - 1), ?_⟩
      simp only [afterCall, RetryPolicy.afterFailure, ht, Bool.not_true, Bool.false_eq_true,
        if_false, if_neg hlimit]

namespace Flight

/-- All steps of a request, with its new deeds, the latest first, and the service after. -/
inductive Moved (source : Source) (w : Session) (f : Flight) :
    Flight → List Deed → Service → Prop where
  | unknown (hp : f.phase = .arrived) (hn : Network.ofTag? f.request.network = none) :
      Moved source w f (f.goTo (.answered (.error (.unsupportedNetwork f.request.network))) w.now)
        [.answered f.request (.error (.unsupportedNetwork f.request.network))] w.service
  | held (hp : f.phase = .arrived) {n : Network} (hn : Network.ofTag? f.request.network = some n)
      {v : f.request.kind.Value}
      (hv : (w.service.cache f.request.kind).value? ⟨n, f.request.address⟩ = some v) :
      Moved source w f (f.goTo (.answered (.ok v)) w.now)
        [.answered f.request (.ok v), .looked f.request.kind ⟨n, f.request.address⟩ (some v)]
        (w.service.withCache f.request.kind
          ((w.service.cache f.request.kind).get ⟨n, f.request.address⟩).2)
  | missing (hp : f.phase = .arrived) {n : Network}
      (hn : Network.ofTag? f.request.network = some n)
      (hv : (w.service.cache f.request.kind).value? ⟨n, f.request.address⟩ = none) :
      Moved source w f (f.goTo (.calling ⟨n, f.request.address⟩ 1) w.now)
        [.looked f.request.kind ⟨n, f.request.address⟩ none]
        (w.service.withCache f.request.kind
          ((w.service.cache f.request.kind).get ⟨n, f.request.address⟩).2)
  | called {subject : Subject} {attempt : UInt32} (hp : f.phase = .calling subject attempt)
      (hr : f.reply? = none) (reply : Reply f.request.kind.Value) (due : Nat) :
      Moved source w f { f with reply? := some reply, due }
        [.called f.request.kind subject w.past] w.service
  | found {subject : Subject} {attempt : UInt32} (hp : f.phase = .calling subject attempt)
      {reply : Reply f.request.kind.Value} (hr : f.reply? = some reply) {v : f.request.kind.Value}
      (hv : reply.outcome = .ok v) (due : Nat) :
      Moved source w f (f.goTo (.storing subject v) due) [.heard f.request.kind subject (.ok v)]
        w.service
  | again {subject : Subject} {attempt : UInt32} (hp : f.phase = .calling subject attempt)
      {reply : Reply f.request.kind.Value} (hr : f.reply? = some reply) {e : FetchError}
      (he : reply.outcome = .error e) (hlt : attempt < w.service.policy.limit) (wait : Duration)
      (due : Nat) :
      Moved source w f (f.goTo (.resting subject (attempt + 1) wait) due)
        [.heard f.request.kind subject (.error e)] w.service
  | failed {subject : Subject} {attempt : UInt32} (hp : f.phase = .calling subject attempt)
      {reply : Reply f.request.kind.Value} (hr : f.reply? = some reply) {e : FetchError}
      (he : reply.outcome = .error e)
      (hlast : e.isTransient = true → w.service.policy.limit ≤ attempt) (due : Nat) :
      Moved source w f (f.goTo (.answered (.error e)) due)
        [.answered f.request (.error e), .heard f.request.kind subject (.error e)] w.service
  | rested {subject : Subject} {attempt : UInt32} {wait : Duration}
      (hp : f.phase = .resting subject attempt wait) :
      Moved source w f (f.goTo (.calling subject attempt) w.now) [] w.service
  | stored {subject : Subject} {v : f.request.kind.Value} (hp : f.phase = .storing subject v)
      (new : Bool) :
      Moved source w f (f.goTo (.answered (.ok v)) w.now)
        [.answered f.request (.ok v), .stored f.request.kind subject v new]
        (w.service.store f.request.kind subject v)

theorem Moved.policy_eq {source : Source} {w : Session} {f g : Flight} {new : List Deed}
    {s : Service} (h : Moved source w f g new s) : s.policy = w.service.policy := by
  cases h with
  | held => exact Service.policy_withCache _ _ _
  | missing => exact Service.policy_withCache _ _ _
  | stored => exact Service.policy_withCache _ _ _
  | _ => rfl

variable [Timer]

def newDeeds (source : Source) (w : Session) (f : Flight) : List Deed :=
  (f.move source w).answer.lastWord ++ f.deeds w

section Steps

variable (source : Source) (w : Session) {f : Flight}

theorem moved_of_arrived (hp : f.phase = .arrived) :
    Moved source w f (f.move source w).answer (f.newDeeds source w)
      (f.move source w).session.service := by
  cases hn : Network.ofTag? f.request.network with
  | none =>
    have hmoved : Moved source w f _ _ _ := .unknown hp hn
    simp only [newDeeds, move, deeds, hp, hn, Service.begin_of_unknown _ _ hn]
    exact hmoved
  | some n =>
    cases hv : (w.service.cache f.request.kind).value? ⟨n, f.request.address⟩ with
    | some v =>
      have hmoved : Moved source w f _ _ _ := .held hp hn hv
      simp only [newDeeds, move, deeds, hp, hn, Service.begin_of_held _ _ hn hv, Cache.get_fst, hv]
      exact hmoved
    | none =>
      have hmoved : Moved source w f _ _ _ := .missing hp hn hv
      simp only [newDeeds, move, deeds, hp, hn, Service.begin_of_missing _ _ hn hv, Cache.get_fst,
        hv]
      exact hmoved

theorem moved_of_heard {subject : Subject} {attempt : UInt32}
    (hp : f.phase = .calling subject attempt) {reply : Reply f.request.kind.Value}
    (hr : f.reply? = some reply) :
    Moved source w f (f.move source w).answer (f.newDeeds source w)
      (f.move source w).session.service := by
  cases ho : reply.outcome with
  | ok v =>
    simp only [newDeeds, move, deeds, hp, hr, ho, Phase.afterCall]
    exact .found hp hr ho _
  | error e =>
    have hcases := Phase.afterCall_error (α := f.request.kind.Value) w.service.policy subject
      attempt e
    rcases hcases with ⟨hlt, wait, hphase⟩ | ⟨hlast, hphase⟩
    · simp only [newDeeds, move, deeds, hp, hr, ho, hphase]
      exact .again hp hr ho hlt wait _
    · simp only [newDeeds, move, deeds, hp, hr, ho, hphase]
      exact .failed hp hr ho hlast _

theorem moved (h : f.phase.isOver = false) :
    Moved source w f (f.move source w).answer (f.newDeeds source w)
      (f.move source w).session.service := by
  cases hp : f.phase with
  | arrived => exact moved_of_arrived source w hp
  | calling subject attempt =>
    cases hr : f.reply? with
    | some reply => exact moved_of_heard source w hp hr
    | none =>
      simp only [newDeeds, move, deeds, hp, hr]
      have hmoved : Moved source w f _ _ _ := .called hp hr
        (source w.past f.request.kind subject)
        (w.now + Timer.lasts (source w.past f.request.kind subject).takes)
      simpa only [lastWord, hp, Phase.answer?, Option.map_none, Option.toList_none,
        List.nil_append] using hmoved
  | resting subject attempt wait =>
    simp only [newDeeds, move, deeds, hp]
    exact .rested hp
  | storing subject v =>
    simp only [newDeeds, move, deeds, hp]
    exact .stored hp _
  | answered a =>
    rw [hp] at h
    cases h
  | dropped =>
    rw [hp] at h
    cases h

end Steps

end Flight

end ExplorerProxy
