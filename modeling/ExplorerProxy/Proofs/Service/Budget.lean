import ExplorerProxy.Proofs.Retry.Attempts
import ExplorerProxy.Proofs.Service.Watch

/-!
# The attempts of a request

How many calls a request has made, in each phase and whatever other requests do
meanwhile: the number of its attempt while it is on its way, and never more than its
policy allows.
-/

namespace ExplorerProxy

set_option autoImplicit false

def Deed.isCall : Deed → Bool
  | .called _ _ _ => true
  | _ => false

def callsIn (ds : List Deed) : Nat := ds.countP Deed.isCall

@[simp] theorem callsIn_cons (d : Deed) (ds : List Deed) :
    callsIn (d :: ds) = callsIn ds + if d.isCall then 1 else 0 :=
  List.countP_cons

namespace Flight

/-- How many calls a request has made, for each phase that it can be in. -/
def InBudget (limit : Nat) (f : Flight) (ds : List Deed) : Prop :=
  match f.phase with
  | .arrived => ds = []
  | .calling _ attempt => 1 ≤ attempt.toNat ∧ attempt.toNat ≤ limit ∧
      callsIn ds + (if f.reply?.isSome then 0 else 1) = attempt.toNat
  | .resting _ attempt _ => attempt.toNat ≤ limit ∧ callsIn ds + 1 = attempt.toNat
  | .storing _ _ => 1 ≤ callsIn ds ∧ callsIn ds ≤ limit
  | .answered a => callsIn ds ≤ limit ∧
      ((∃ k subject, .looked k subject none ∈ ds) → 1 ≤ callsIn ds) ∧
      ∀ e, a = .error e → e.isTransient = true → callsIn ds = limit
  | .dropped => callsIn ds ≤ limit

theorem inBudget_start (limit now : Nat) (r : Request) : (start now r).InBudget limit [] := rfl

variable {source : Source} {w : Session} {f g : Flight} {new ds : List Deed} {s : Service}

theorem InBudget.calls_of_reply {limit : Nat} (h : f.InBudget limit ds) {subject : Subject}
    {attempt : UInt32} (hp : f.phase = .calling subject attempt)
    {reply : Reply f.request.kind.Value} (hr : f.reply? = some reply) :
    callsIn ds = attempt.toNat ∧ 1 ≤ attempt.toNat ∧ attempt.toNat ≤ limit := by
  simp only [InBudget, hp, hr] at h
  exact ⟨h.2.2, h.1, h.2.1⟩

theorem InBudget.moved (h : f.InBudget w.service.policy.limit.toNat ds)
    (hm : f.Moved source w g new s) : g.InBudget w.service.policy.limit.toNat (new ++ ds) := by
  cases hm with
  | unknown hp hn =>
    simp only [InBudget, hp] at h
    subst h
    refine ⟨Nat.zero_le _, ?_, ?_⟩
    · rintro ⟨k, subject, hlooked⟩
      simp at hlooked
    · rintro e ⟨rfl⟩ htransient
      cases htransient
  | held hp hn hv =>
    simp only [InBudget, hp] at h
    subst h
    refine ⟨Nat.zero_le _, ?_, ?_⟩
    · rintro ⟨k, subject, hlooked⟩
      simp only [List.append_nil, List.mem_cons, List.not_mem_nil, or_false] at hlooked
      rcases hlooked with hlooked | hlooked
      · cases hlooked
      · injection hlooked with hkind _ hfound
        subst hkind
        cases hfound
    · intro e he
      cases he
  | missing hp hn hv =>
    simp only [InBudget, hp] at h
    subst h
    have hpos : 1 ≤ w.service.policy.limit.toNat := by
      rw [RetryPolicy.limit_toNat]
      omega
    exact ⟨Nat.le_refl 1, hpos, rfl⟩
  | called hp hr reply due =>
    simp only [InBudget, hp, hr] at h
    simp only [InBudget, hp, List.cons_append, List.nil_append, callsIn_cons, Deed.isCall]
    exact h
  | found hp hr hv due =>
    obtain ⟨hcalls, hpos, hle⟩ := h.calls_of_reply hp hr
    exact ⟨hcalls ▸ hpos, hcalls ▸ hle⟩
  | again hp hr he hlt wait due =>
    obtain ⟨hcalls, hpos, hle⟩ := h.calls_of_reply hp hr
    have hnext := toNat_attempt_succ hlt
    have hlt' := UInt32.lt_iff_toNat_lt.mp hlt
    refine ⟨?_, ?_⟩
    · omega
    · exact hnext ▸ congrArg (· + 1) hcalls
  | failed hp hr he hlast due =>
    obtain ⟨hcalls, hpos, hle⟩ := h.calls_of_reply hp hr
    refine ⟨hcalls ▸ hle, fun _ => hcalls ▸ hpos, ?_⟩
    rintro e' ⟨rfl⟩ htransient
    have hlimit := UInt32.le_iff_toNat_le.mp (hlast htransient)
    exact hcalls.trans (Nat.le_antisymm hle hlimit)
  | rested hp =>
    simp only [InBudget, hp] at h
    obtain ⟨hle, hcalls⟩ := h
    exact ⟨hcalls ▸ Nat.le_add_left 1 _, hle, hcalls⟩
  | stored hp added =>
    simp only [InBudget, hp] at h
    obtain ⟨hpos, hle⟩ := h
    refine ⟨hle, fun _ => hpos, ?_⟩
    intro e he
    cases he

theorem InBudget.drop {limit : Nat} (hover : f.phase.isOver = false) (h : f.InBudget limit ds) :
    f.drop.InBudget limit ds := by
  obtain ⟨request, phase, reply?, due⟩ := f
  cases phase with
  | arrived =>
    obtain rfl : ds = [] := h
    exact Nat.zero_le limit
  | calling subject attempt =>
    obtain ⟨_, hle, hcalls⟩ := h
    exact Nat.le_trans (hcalls ▸ Nat.le_add_right _ _) hle
  | resting subject attempt wait =>
    obtain ⟨hle, hcalls⟩ := h
    exact Nat.le_trans (hcalls ▸ Nat.le_add_right _ _) hle
  | storing subject v => exact h.2
  | answered a => cases hover
  | dropped => cases hover

end Flight

/-- Each request keeps to the attempts that its policy allows. -/
theorem Traffic.Watched.inBudget [Timer] {source : Source} {policy : RetryPolicy}
    {holdersCapacity abiCapacity i : Nat} {own : OwnSteps} {t : Traffic}
    (h : Watched source policy holdersCapacity abiCapacity i own t) {f : Flight}
    (hf : t.flights[i]? = some f) : f.InBudget policy.limit.toNat (t.history.record i) := by
  refine (h.invariant (fun f ds _ => f.InBudget policy.limit.toNat ds) ?_ ?_ ?_).2 f hf
  · exact fun now r => Flight.inBudget_start _ now r
  · rintro w f g new ds s own rfl hm hin
    exact hin.moved hm
  · exact fun _ f _ _ hover hin => hin.drop hover

end ExplorerProxy
