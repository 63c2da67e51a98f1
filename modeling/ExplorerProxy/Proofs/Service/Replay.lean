import ExplorerProxy.Proofs.Service.Traffic

/-!
# What the history tells

The deeds of all requests, one after another, lead from the first service to the service
at hand. A lookup and a store each do to their cache what they always do, and nothing
else touches one. So what is in the caches can be told from the history, whoever did it.
-/

namespace ExplorerProxy

set_option autoImplicit false

namespace Deed

/-- What a deed does to the service. -/
def perform (s : Service) : Deed → Service
  | .looked k x _ => s.withCache k ((s.cache k).get x).2
  | .stored k x v _ => s.store k x v
  | _ => s

def call? : Deed → Option Call
  | .called k x _ => some ⟨k, x⟩
  | _ => none

/-- What a deed says of the service and of the calls before it is so. -/
def TrueOf (s : Service) (past : List Call) : Deed → Prop
  | .looked k x found => found = (s.cache k).value? x
  | .called _ _ earlier => earlier = past
  | .stored k x _ new => new = !(s.cache k).contains x
  | _ => True

end Deed

namespace History

def after (s : Service) : History → Service
  | [] => s
  | (_, d) :: h => d.perform (after s h)

def calls (h : History) : List Call := h.filterMap fun d => d.2.call?

/-- Each deed tells the truth about what was before it. -/
def Told (s : Service) : History → Prop
  | [] => True
  | (_, d) :: h => d.TrueOf (after s h) (calls h) ∧ Told s h

theorem calls_cons (d : Nat × Deed) (h : History) :
    calls (d :: h) = d.2.call?.toList ++ calls h := by
  rw [calls, List.filterMap_cons]
  cases d.2.call? <;> rfl

end History

namespace Traffic

/-- The history leads from a service to the one at hand, and tells the truth. -/
structure Replays (s : Service) (t : Traffic) : Prop where
  service : t.session.service = t.history.after s
  past : t.session.past = t.history.calls
  told : t.history.Told s

variable {source : Source} {s : Service} {t : Traffic} {i : Nat} {f : Flight}

theorem Replays.deed (h : t.Replays s) (i : Nat) (flights : List Flight) {d : Deed} {w : Session}
    (hd : d.TrueOf t.session.service t.session.past)
    (hservice : w.service = d.perform t.session.service)
    (hpast : w.past = d.call?.toList ++ t.session.past) :
    Replays s ⟨w, flights, (i, d) :: t.history⟩ where
  service := by
    rw [hservice, h.service]
    rfl
  past := by
    rw [hpast, h.past, History.calls_cons]
  told := by
    refine ⟨?_, h.told⟩
    rw [← h.service, ← h.past]
    exact hd

theorem Replays.idle (h : t.Replays s) (flights : List Flight) : Replays s { t with flights } :=
  ⟨h.service, h.past, h.told⟩

variable [Timer]

theorem Replays.move_arrived (h : t.Replays s) (hp : f.phase = .arrived) :
    (t.move source i f).Replays s := by
  cases hn : Network.ofTag? f.request.network with
  | none =>
    rw [move_of_unknown hp hn]
    exact h.deed i _ trivial rfl rfl
  | some n =>
    cases hv : (t.session.service.cache f.request.kind).value? ⟨n, f.request.address⟩ with
    | none =>
      rw [move_of_missing hp hn hv]
      refine h.deed i _ hv.symm ?_ rfl
      rw [Service.begin_of_missing _ _ hn hv]
      rfl
    | some v =>
      have hlooked := h.deed i t.flights
        (d := .looked f.request.kind ⟨n, f.request.address⟩ (some v))
        (w := { t.session with
          service := (t.session.service.begin f.request.kind f.request.network
            f.request.address).2 }) hv.symm (by rw [Service.begin_of_held _ _ hn hv]; rfl) rfl
      rw [move_of_held hp hn hv]
      exact hlooked.deed i _ trivial rfl rfl

theorem Replays.move_calling (h : t.Replays s) {subject : Subject} {attempt : UInt32}
    (hp : f.phase = .calling subject attempt) : (t.move source i f).Replays s := by
  cases hr : f.reply? with
  | none =>
    rw [move_of_calling hp hr]
    exact h.deed i _ rfl rfl rfl
  | some reply =>
    obtain ⟨due, hmove⟩ := move_of_heard hp hr
    rw [hmove]
    have hheard := h.deed i t.flights (d := .heard f.request.kind subject reply.outcome)
      (w := t.session) trivial rfl rfl
    rcases Phase.afterCall_cases t.session.service.policy subject attempt reply.outcome with
      ⟨v, _, hphase⟩ | ⟨e, wait, _, hphase⟩ | ⟨e, _, hphase⟩
    · rw [hphase]
      exact hheard.idle _
    · rw [hphase]
      exact hheard.idle _
    · rw [hphase]
      exact hheard.deed i _ trivial rfl rfl

theorem Replays.move (h : t.Replays s) (hover : f.phase.isOver = false) :
    (t.move source i f).Replays s := by
  cases hp : f.phase with
  | arrived => exact h.move_arrived hp
  | calling subject attempt => exact h.move_calling hp
  | resting subject attempt wait =>
    rw [move_of_resting hp]
    exact h.idle _
  | storing subject v =>
    have hstored := h.deed i t.flights
      (d := .stored f.request.kind subject v
        (!(t.session.service.cache f.request.kind).contains subject))
      (w := { t.session with service := t.session.service.store f.request.kind subject v })
      rfl rfl rfl
    rw [move_of_storing hp]
    exact hstored.deed i _ trivial rfl rfl
  | answered a =>
    rw [hp] at hover
    cases hover
  | dropped =>
    rw [hp] at hover
    cases hover

theorem Step.replays {t' : Traffic} (hstep : Step source t t') (h : t.Replays s) :
    t'.Replays s := by
  cases hstep with
  | arrive r => exact h.idle _
  | move i f hf hover => exact h.move hover
  | drop i f hf hover => exact h.idle _
  | wait now hnow => exact ⟨h.service, h.past, h.told⟩

theorem Reachable.replays {policy : RetryPolicy} {holdersCapacity abiCapacity : Nat}
    (h : Reachable source policy holdersCapacity abiCapacity t) :
    t.Replays (.fresh policy holdersCapacity abiCapacity) := by
  induction h with
  | refl => exact ⟨rfl, rfl, trivial⟩
  | tail _ hstep ih => exact hstep.replays ih

end Traffic

end ExplorerProxy
