import ExplorerProxy.Proofs.Service.Steps
import ExplorerProxy.Service.Flight
import Mathlib.Logic.Relation

/-!
# Traffic

Any number of requests at one service, in every order of their steps. A request can
arrive, take its next step, or be dropped at any moment, and time can pass. Nothing is
said about which request goes on first or how long a call takes, so every schedule is
among these. What requests have done is kept as a history, the latest first; no step
looks at it.

Reading the name of a network looks at nothing that is shared, and is part of the step
that looks into the cache.
-/

namespace ExplorerProxy

set_option autoImplicit false

/-- What a request does that concerns others. -/
inductive Deed where
  | looked (k : Kind) (subject : Subject) (found : Option k.Value)
  | called (k : Kind) (subject : Subject) (past : List Call)
  | heard (k : Kind) (subject : Subject) (outcome : Except FetchError k.Value)
  /-- It stored a value; `new` says that the key was not held. -/
  | stored (k : Kind) (subject : Subject) (value : k.Value) (new : Bool)
  | answered (request : Request) (answer : Except FetchError request.kind.Value)

/-- The deeds so far, each with the number of the request, the latest first. -/
abbrev History : Type := List (Nat × Deed)

namespace Flight

def deeds (w : Session) (f : Flight) : List Deed :=
  let k := f.request.kind
  match f.phase with
  | .arrived =>
    match Network.ofTag? f.request.network with
    | none => []
    | some n =>
      [.looked k ⟨n, f.request.address⟩ ((w.service.cache k).get ⟨n, f.request.address⟩).1]
  | .calling subject _ =>
    match f.reply? with
    | none => [.called k subject w.past]
    | some reply => [.heard k subject reply.outcome]
  | .storing subject value =>
    [.stored k subject value (!(w.service.cache k).contains subject)]
  | _ => []

def lastWord (f : Flight) : List Deed := (f.phase.answer?.map (.answered f.request)).toList

def drop (f : Flight) : Flight := { f with phase := f.phase.drop }

end Flight

/-- A service with all requests that have arrived. -/
structure Traffic where
  session : Session
  flights : List Flight
  history : History

theorem Phase.afterCall_cases {α : Type} (p : RetryPolicy) (subject : Subject) (attempt : UInt32)
    (outcome : Except FetchError α) :
    (∃ v, outcome = .ok v ∧ afterCall p subject attempt outcome = .storing subject v) ∨
      (∃ e wait, outcome = .error e ∧
        afterCall p subject attempt outcome = .resting subject (attempt + 1) wait) ∨
      ∃ e, outcome = .error e ∧ afterCall p subject attempt outcome = .answered (.error e) := by
  rcases outcome with e | v
  · refine Or.inr ?_
    cases h : p.afterFailure attempt e.isTransient with
    | again wait => exact Or.inl ⟨e, wait, rfl, by simp only [afterCall, h]⟩
    | permanent => exact Or.inr ⟨e, rfl, by simp only [afterCall, h]⟩
    | exhausted => exact Or.inr ⟨e, rfl, by simp only [afterCall, h]⟩
  · exact Or.inl ⟨v, rfl, rfl⟩

namespace Traffic

variable [Timer]

def start (policy : RetryPolicy) (holdersCapacity abiCapacity : Nat) : Traffic :=
  ⟨.start (.fresh policy holdersCapacity abiCapacity), [], []⟩

def arrive (t : Traffic) (r : Request) : Traffic :=
  { t with flights := t.flights ++ [.start t.session.now r] }

/-- Request number `i`, which is `f`, takes its next step. -/
def move (source : Source) (t : Traffic) (i : Nat) (f : Flight) : Traffic :=
  let moved := f.move source t.session
  { session := moved.session
    flights := t.flights.set i moved.answer
    history := (moved.answer.lastWord ++ f.deeds t.session).map (fun d => (i, d)) ++ t.history }

def drop (t : Traffic) (i : Nat) (f : Flight) : Traffic :=
  { t with flights := t.flights.set i f.drop }

def wait (t : Traffic) (now : Nat) : Traffic := { t with session := { t.session with now } }

/-- One step of any request, in any order. -/
inductive Step (source : Source) (t : Traffic) : Traffic → Prop where
  | arrive (r : Request) : Step source t (t.arrive r)
  | move (i : Nat) (f : Flight) (hf : t.flights[i]? = some f) (h : f.phase.isOver = false) :
      Step source t (t.move source i f)
  | drop (i : Nat) (f : Flight) (hf : t.flights[i]? = some f) (h : f.phase.isOver = false) :
      Step source t (t.drop i f)
  | wait (now : Nat) (h : t.session.now ≤ now) : Step source t (t.wait now)

/-- What a service can come to, with a source that answers as it likes. -/
def Reachable (source : Source) (policy : RetryPolicy) (holdersCapacity abiCapacity : Nat) :
    Traffic → Prop :=
  Relation.ReflTransGen (Step source) (start policy holdersCapacity abiCapacity)

section Moves

variable {source : Source} {t : Traffic} {i : Nat} {f : Flight}

theorem move_of_unknown (hp : f.phase = .arrived)
    (hn : Network.ofTag? f.request.network = none) :
    t.move source i f = { t with
      flights := t.flights.set i
        (f.goTo (.answered (.error (.unsupportedNetwork f.request.network))) t.session.now)
      history := (i, .answered f.request (.error (.unsupportedNetwork f.request.network))) ::
        t.history } := by
  simp only [move, Flight.move, Flight.deeds, hp, hn, Service.begin_of_unknown _ _ hn]
  rfl

theorem move_of_held (hp : f.phase = .arrived) {n : Network}
    (hn : Network.ofTag? f.request.network = some n) {v : f.request.kind.Value}
    (hv : (t.session.service.cache f.request.kind).value? ⟨n, f.request.address⟩ = some v) :
    t.move source i f =
      { session := { t.session with
          service := (t.session.service.begin f.request.kind f.request.network
            f.request.address).2 }
        flights := t.flights.set i (f.goTo (.answered (.ok v)) t.session.now)
        history := (i, .answered f.request (.ok v)) ::
          (i, .looked f.request.kind ⟨n, f.request.address⟩ (some v)) :: t.history } := by
  simp only [move, Flight.move, Flight.deeds, hp, hn, Service.begin_of_held _ _ hn hv,
    Cache.get_fst, hv]
  rfl

theorem move_of_missing (hp : f.phase = .arrived) {n : Network}
    (hn : Network.ofTag? f.request.network = some n)
    (hv : (t.session.service.cache f.request.kind).value? ⟨n, f.request.address⟩ = none) :
    t.move source i f =
      { session := { t.session with
          service := (t.session.service.begin f.request.kind f.request.network
            f.request.address).2 }
        flights := t.flights.set i (f.goTo (.calling ⟨n, f.request.address⟩ 1) t.session.now)
        history := (i, .looked f.request.kind ⟨n, f.request.address⟩ none) :: t.history } := by
  simp only [move, Flight.move, Flight.deeds, hp, hn, Service.begin_of_missing _ _ hn hv,
    Cache.get_fst, hv]
  rfl

theorem move_of_calling {subject : Subject} {attempt : UInt32}
    (hp : f.phase = .calling subject attempt) (hr : f.reply? = none) :
    t.move source i f =
      { session := { t.session with past := ⟨f.request.kind, subject⟩ :: t.session.past }
        flights := t.flights.set i { f with
          reply? := some (source t.session.past f.request.kind subject)
          due := t.session.now + Timer.lasts (source t.session.past f.request.kind subject).takes }
        history := (i, .called f.request.kind subject t.session.past) :: t.history } := by
  obtain ⟨request, phase, reply?, due⟩ := f
  dsimp only at hp hr
  subst hp hr
  rfl

theorem move_of_heard {subject : Subject} {attempt : UInt32}
    (hp : f.phase = .calling subject attempt) {reply : Reply f.request.kind.Value}
    (hr : f.reply? = some reply) :
    ∃ due, t.move source i f =
      let g := f.goTo (.afterCall t.session.service.policy subject attempt reply.outcome) due
      { t with
        flights := t.flights.set i g
        history := g.lastWord.map (fun d => (i, d)) ++
          (i, .heard f.request.kind subject reply.outcome) :: t.history } := by
  obtain ⟨request, phase, reply?, due⟩ := f
  dsimp only at reply hp hr
  subst hp hr
  let f : Flight := ⟨request, .calling subject attempt, some reply, due⟩
  refine ⟨(f.move source t.session).answer.due, ?_⟩
  simp only [move, Flight.move, Flight.deeds, List.map_append, List.append_assoc]
  rfl

theorem move_of_resting {subject : Subject} {attempt : UInt32} {wait : Duration}
    (hp : f.phase = .resting subject attempt wait) :
    t.move source i f = { t with
      flights := t.flights.set i (f.goTo (.calling subject attempt) t.session.now) } := by
  simp only [move, Flight.move, Flight.deeds, hp]
  rfl

theorem move_of_storing {subject : Subject} {v : f.request.kind.Value}
    (hp : f.phase = .storing subject v) :
    t.move source i f =
      { session := { t.session with
          service := t.session.service.store f.request.kind subject v }
        flights := t.flights.set i (f.goTo (.answered (.ok v)) t.session.now)
        history := (i, .answered f.request (.ok v)) ::
          (i, .stored f.request.kind subject v
            (!(t.session.service.cache f.request.kind).contains subject)) :: t.history } := by
  simp only [move, Flight.move, Flight.deeds, hp]
  rfl

end Moves

end Traffic

end ExplorerProxy
