import ExplorerProxy.Proofs.Retry.Attempts
import Mathlib.Algebra.BigOperators.Group.List.Basic
import Mathlib.Algebra.GroupWithZero.Nat
import Mathlib.Logic.Relation
import Mathlib.Order.Bounds.Defs

/-!
# The loop behind a run

A run of attempts as a loop whose rounds nothing but its own counter bounds. A round makes
a call, and waits after a failure that another attempt is to follow. The counter keeps
within its 32 bits, and from wherever it is the loop comes to the same end, which is the
run. Its calls start when the calls and the waits before them are over, by any clock.
-/

namespace ExplorerProxy

set_option autoImplicit false

/-- A loop in front of a call. -/
structure Loop (ε : Type) where
  attempt : UInt32
  /-- The failures so far, each with the wait after it. -/
  earlier : List (ε × Duration)
  /-- When the calls so far started. -/
  starts : List Nat
  now : Nat

structure LoopEnd (ε α : Type) where
  run : RetryRun ε α
  starts : List Nat
  now : Nat

namespace Loop

variable {ε α : Type}

def start (now : Nat) : Loop ε := ⟨1, [], [], now⟩

def ended (l : Loop ε) (outcome : Except ε α) (lasts : Nat) : LoopEnd ε α :=
  ⟨⟨l.earlier, outcome⟩, l.starts ++ [l.now], l.now + lasts⟩

def again (l : Loop ε) (clock : Clock) (failure : ε) (wait : Duration) : Loop ε :=
  ⟨l.attempt + 1, l.earlier ++ [(failure, wait)], l.starts ++ [l.now],
    l.now + clock.call l.earlier.length + clock.wait wait⟩

section
variable (p : RetryPolicy) (transient : ε → Bool) (call : Nat → Except ε α) (clock : Clock)

def round (l : Loop ε) : Loop ε ⊕ LoopEnd ε α :=
  match call l.earlier.length with
  | .ok v => .inr (l.ended (.ok v) (clock.call l.earlier.length))
  | .error e =>
    match p.afterFailure l.attempt (transient e) with
    | .again wait => .inl (l.again clock e wait)
    | _ => .inr (l.ended (.error e) (clock.call l.earlier.length))

def GoesOn (l l' : Loop ε) : Prop := l.round p transient call clock = .inl l'

abbrev Reaches : Loop ε → Loop ε → Prop :=
  Relation.ReflTransGen (GoesOn p transient call clock)

def EndsAs (l : Loop ε) (e : LoopEnd ε α) : Prop := l.round p transient call clock = .inr e

end

end Loop

/-- When call number `i` of a run starts: after the calls and the waits before it. -/
def RetryPolicy.startOf (p : RetryPolicy) (clock : Clock) (now i : Nat) : Nat :=
  now + ((List.range i).map clock.call).sum + ((p.backoffs i).map clock.wait).sum

namespace RetryPolicy

variable {ε α : Type} (p : RetryPolicy) (transient : ε → Bool) (call : Nat → Except ε α)
  (clock : Clock)

theorem backoffs_succ (k : Nat) : p.backoffs (k + 1) = p.backoffs k ++ [p.backoff (.ofNat k)] := by
  rw [backoffs, List.range_succ, List.map_append]
  rfl

theorem startOf_succ (now k : Nat) : p.startOf clock now (k + 1) =
    p.startOf clock now k + clock.call k + clock.wait (p.backoff (.ofNat k)) := by
  simp only [startOf, backoffs_succ, List.range_succ, List.map_append, List.sum_append,
    List.map_cons, List.map_nil, List.sum_cons, List.sum_nil]
  omega

theorem take_backoffs {j k : Nat} (h : j ≤ k) : (p.backoffs k).take j = p.backoffs j := by
  rw [backoffs, ← List.map_take, List.take_range, Nat.min_eq_left h]
  rfl

def endOf (now : Nat) : LoopEnd ε α :=
  let r := p.run transient call
  ⟨r, (List.range r.calls).map (p.startOf clock now),
    p.startOf clock now (r.calls - 1) + clock.call (r.calls - 1)⟩

end RetryPolicy

def RetryRun.behind {ε α : Type} (earlier : List (ε × Duration)) (r : RetryRun ε α) :
    RetryRun ε α :=
  { r with earlier := earlier ++ r.earlier }

namespace Loop

variable {ε α : Type} (p : RetryPolicy) (transient : ε → Bool) (call : Nat → Except ε α)
  (clock : Clock) (now : Nat)

/-- A loop that has made `k` calls and is to make another. What is left of it completes the
run. -/
structure After (k : Nat) (l : Loop ε) : Prop where
  lt : k < p.limit.toNat
  length : l.earlier.length = k
  attempt : l.attempt.toNat = k + 1
  starts : l.starts = (List.range k).map (p.startOf clock now)
  now : l.now = p.startOf clock now k
  run : p.run transient call =
    (p.runFrom transient call (p.limit.toNat - 1 - k) l.attempt).behind l.earlier

theorem after_start : After p transient call clock now 0 (start now) := by
  have hlimit := p.limit_toNat
  exact ⟨by omega, rfl, rfl, rfl, rfl, rfl⟩

variable {p transient call clock now} {k : Nat} {l : Loop ε}

theorem After.index (h : After p transient call clock now k l) : l.attempt.toNat - 1 = k := by
  rw [h.attempt, Nat.add_sub_cancel]

theorem After.wait_eq (h : After p transient call clock now k l) :
    p.backoff (l.attempt - 1) = p.backoff (.ofNat k) := by
  have hpos : 1 ≤ l.attempt.toNat := by
    rw [h.attempt]
    exact Nat.le_add_left 1 k
  rw [attempt_sub_one hpos, h.index]

theorem After.toNat_succ (h : After p transient call clock now k l) (hk : k + 1 < p.limit.toNat) :
    (l.attempt + 1).toNat = k + 2 := by
  have hlt : l.attempt < p.limit := by
    rw [UInt32.lt_iff_toNat_lt, h.attempt]
    exact hk
  rw [toNat_attempt_succ hlt, h.attempt]

theorem endsAs_of_final (h : IsFinal transient (call l.earlier.length)) :
    l.EndsAs p transient call clock
      (l.ended (call l.earlier.length) (clock.call l.earlier.length)) := by
  rw [EndsAs, round]
  cases hc : call l.earlier.length with
  | ok v => rfl
  | error e =>
    rw [hc] at h
    have ht : transient e = false := h
    simp only [ht, p.afterFailure_permanent]

theorem endsAs_of_limit (h : p.limit.toNat ≤ l.attempt.toNat) :
    l.EndsAs p transient call clock
      (l.ended (call l.earlier.length) (clock.call l.earlier.length)) := by
  by_cases hfinal : IsFinal transient (call l.earlier.length)
  · exact endsAs_of_final hfinal
  · obtain ⟨e, hc, ht⟩ := exists_of_not_isFinal hfinal
    rw [EndsAs, round, hc]
    simp only [ht, p.afterFailure_exhausted h]

theorem goesOn_of_failed {e : ε} (hc : call l.earlier.length = .error e) (ht : transient e = true)
    (hlt : l.attempt.toNat < p.limit.toNat) :
    l.GoesOn p transient call clock (l.again clock e (p.backoff (l.attempt - 1))) := by
  rw [GoesOn, round, hc]
  simp only [ht, p.afterFailure_again hlt]

/-- The run is over when the next outcome is final or the last that is allowed. -/
theorem After.run_eq (h : After p transient call clock now k l)
    (hlast : IsFinal transient (call k) ∨ k + 1 = p.limit.toNat) :
    p.run transient call = ⟨l.earlier, call k⟩ := by
  have hrest : p.runFrom transient call (p.limit.toNat - 1 - k) l.attempt = ⟨[], call k⟩ := by
    rcases hlast with hfinal | hlimit
    · rw [← h.index] at hfinal
      rw [RetryPolicy.runFrom_of_final hfinal, h.index]
    · have hnone : p.limit.toNat - 1 - k = 0 := by omega
      rw [hnone, RetryPolicy.runFrom, h.index]
  rw [h.run, hrest, RetryRun.behind, List.append_nil]

theorem After.again {e : ε} (h : After p transient call clock now k l) (hc : call k = .error e)
    (ht : transient e = true) (hlt : k + 1 < p.limit.toNat) :
    After p transient call clock now (k + 1) (l.again clock e (p.backoff (l.attempt - 1))) := by
  refine ⟨hlt, ?_, h.toNat_succ hlt, ?_, ?_, ?_⟩
  · rw [Loop.again, List.length_append, h.length]
    rfl
  · rw [Loop.again, h.starts, h.now, List.range_succ, List.map_append]
    rfl
  · rw [Loop.again, h.now, h.length, h.wait_eq, p.startOf_succ]
  · have hleft : p.limit.toNat - 1 - k = p.limit.toNat - 1 - (k + 1) + 1 := by omega
    have hfailed : call (l.attempt.toNat - 1) = .error e := by rw [h.index, hc]
    have hmore : l.attempt.toNat < p.limit.toNat := by rwa [h.attempt]
    rw [h.run, hleft, RetryPolicy.runFrom_of_failed hfailed ht hmore]
    simp only [RetryRun.behind, RetryRun.after, Loop.again, List.append_assoc,
      List.singleton_append]

theorem After.round_cases (h : After p transient call clock now k l) :
    (l.EndsAs p transient call clock (l.ended (call k) (clock.call k)) ∧
      p.run transient call = ⟨l.earlier, call k⟩) ∨
    ∃ l', l.GoesOn p transient call clock l' ∧ k + 1 < p.limit.toNat ∧
      After p transient call clock now (k + 1) l' := by
  have hlt := h.lt
  by_cases hfinal : IsFinal transient (call k)
  · left
    refine ⟨?_, h.run_eq (Or.inl hfinal)⟩
    rw [← h.length] at hfinal ⊢
    exact endsAs_of_final hfinal
  · rcases Nat.lt_or_ge (k + 1) p.limit.toNat with hmore | hlast
    · right
      obtain ⟨e, hc, ht⟩ := exists_of_not_isFinal hfinal
      refine ⟨_, goesOn_of_failed ?_ ht ?_, hmore, h.again hc ht hmore⟩
      · rw [h.length, hc]
      · rwa [h.attempt]
    · left
      refine ⟨?_, h.run_eq (Or.inr (by omega))⟩
      rw [← h.length]
      apply endsAs_of_limit
      rwa [h.attempt]

theorem After.goesOn (h : After p transient call clock now k l) {l' : Loop ε}
    (hl : l.GoesOn p transient call clock l') :
    k + 1 < p.limit.toNat ∧ After p transient call clock now (k + 1) l' := by
  rcases h.round_cases with ⟨hend, _⟩ | ⟨next, hnext, hlt, hafter⟩
  · rw [GoesOn, hend] at hl
    cases hl
  · obtain rfl := Sum.inl.inj (hnext.symm.trans hl)
    exact ⟨hlt, hafter⟩

theorem exists_after (h : Reaches p transient call clock (start now) l) :
    ∃ k, After p transient call clock now k l := by
  induction h with
  | refl => exact ⟨0, after_start p transient call clock now⟩
  | tail _ hl ih =>
    obtain ⟨k, hk⟩ := ih
    exact ⟨k + 1, (hk.goesOn hl).2⟩

theorem After.ended_eq (h : After p transient call clock now k l)
    (hrun : p.run transient call = ⟨l.earlier, call k⟩) :
    l.ended (call k) (clock.call k) = p.endOf transient call clock now := by
  have hcalls : (p.run transient call).calls = k + 1 := by
    rw [hrun, RetryRun.calls, h.length]
  rw [RetryPolicy.endOf, hcalls, hrun, ended, h.starts, h.now, Nat.add_sub_cancel,
    List.range_succ, List.map_append]
  rfl

/-- There are no endless rounds: the calls that are left get fewer. -/
theorem After.exists_end (h : After p transient call clock now k l) :
    ∃ last, Reaches p transient call clock l last ∧
      last.EndsAs p transient call clock (p.endOf transient call clock now) := by
  obtain ⟨left, hleft⟩ : ∃ left, k + left = p.limit.toNat :=
    ⟨_, Nat.add_sub_of_le (Nat.le_of_lt h.lt)⟩
  induction left generalizing k l with
  | zero => exact absurd h.lt (by omega)
  | succ left ih =>
    rcases h.round_cases with ⟨hend, hrun⟩ | ⟨l', hl, _, hafter⟩
    · exact ⟨l, .refl, h.ended_eq hrun ▸ hend⟩
    · obtain ⟨last, hreach, hend⟩ := ih hafter (by omega)
      exact ⟨last, .head hl hreach, hend⟩

end Loop

namespace RetryPolicy

variable {ε α : Type} (p : RetryPolicy) (transient : ε → Bool) (call : Nat → Except ε α)

theorem starts_run (clock : Clock) (now : Nat) :
    (p.run transient call).starts clock now =
      (List.range (p.run transient call).calls).map (p.startOf clock now) := by
  obtain ⟨k, _, _, hcalls, hwaits⟩ := p.run_spec transient call
  rw [RetryRun.starts, RetryRun.schedule_starts, hwaits, hcalls, backoffs, List.length_map,
    List.length_range]
  apply List.map_congr_left
  intro j hj
  have hle : j ≤ k := Nat.le_of_lt_succ (List.mem_range.mp hj)
  have htake := p.take_backoffs hle
  rw [backoffs] at htake
  rw [htake, startOf, clock.span_zero_left]

theorem EndsWith.isLeast {p : RetryPolicy} {transient : ε → Bool} {call : Nat → Except ε α}
    {k : Nat}
    (h : p.EndsWith transient call k) :
    IsLeast {k | 1 ≤ k ∧ (IsFinal transient (call (k - 1)) ∨ k = max 1 p.maxAttempts.toNat)}
      (k + 1) := by
  rw [← p.limit_toNat]
  refine ⟨⟨Nat.le_add_left 1 k, h.final⟩, ?_⟩
  rintro m ⟨hpos, hfinal | hlast⟩
  · have hge : ¬ m - 1 < k := fun hlt => h.before _ hlt hfinal
    omega
  · have hlt := h.lt
    omega

/-- A run makes as many calls as there are up to the first final outcome, or as the policy
allows, has the outcome of the last of them, and waits between them as long as the policy
says. It is what the loop ends with from wherever it has come to, with a counter that neither
passes its 32 bits nor goes below one, and the calls start when what is before them is over. -/
theorem run_of_loop :
    IsLeast {k | 1 ≤ k ∧ (IsFinal transient (call (k - 1)) ∨ k = max 1 p.maxAttempts.toNat)}
      (p.run transient call).calls ∧
    (p.run transient call).result = call ((p.run transient call).calls - 1) ∧
    (p.run transient call).waits =
      (List.range ((p.run transient call).calls - 1)).map (fun i => p.backoff (.ofNat i)) ∧
    (∀ (clock : Clock) (now : Nat) (l : Loop ε),
      Loop.Reaches p transient call clock (.start now) l →
        l.attempt.toNat = l.earlier.length + 1 ∧
        (∀ l', l.GoesOn p transient call clock l' → l.attempt.toNat + 1 < UInt32.size) ∧
        ∃ last, Loop.Reaches p transient call clock l last ∧
          last.EndsAs p transient call clock (p.endOf transient call clock now)) ∧
    ∀ (clock : Clock) (now : Nat), (p.run transient call).starts clock now =
      (List.range (p.run transient call).calls).map (p.startOf clock now) := by
  obtain ⟨k, hk, hresult, hcalls, hwaits⟩ := p.run_spec transient call
  have hprev : (p.run transient call).calls - 1 = k := by rw [hcalls, Nat.add_sub_cancel]
  refine ⟨hcalls ▸ hk.isLeast, hprev ▸ hresult, hprev ▸ hwaits, ?_, p.starts_run transient call⟩
  intro clock now l hl
  obtain ⟨j, hj⟩ := Loop.exists_after hl
  refine ⟨by rw [hj.attempt, hj.length], ?_, hj.exists_end⟩
  intro l' hl'
  have hlt := (hj.goesOn hl').1
  have hsize := p.limit.toNat_lt_size
  rw [hj.attempt]
  omega

def twoFailures (i : Nat) : Except Unit Nat := if i < 2 then .error () else .ok i

theorem run_of_loop_of_two_failures :
    (standard.run (fun _ => true) twoFailures).result = .ok 2 ∧
      (standard.run (fun _ => true) twoFailures).waits = [.ofMillis 500, .ofMillis 1000] ∧
      (standard.run (fun _ => true) twoFailures).starts ⟨fun _ => 10, Duration.wholeMillis⟩ 7 =
        [7, 517, 1527] ∧
      ∃ last, Loop.Reaches standard (fun _ => true) twoFailures ⟨fun i => i, Duration.wholeMillis⟩
          (.start 7) last ∧
        last.EndsAs standard (fun _ => true) twoFailures ⟨fun i => i, Duration.wholeMillis⟩
          ⟨⟨[((), .ofMillis 500), ((), .ofMillis 1000)], .ok 2⟩, [7, 507, 1508], 1510⟩ := by
  have hcalls : (standard.run (fun _ => true) twoFailures).calls = 3 := by decide
  obtain ⟨_, hresult, hwaits, hloop, hstarts⟩ :=
    run_of_loop standard (fun _ => true) twoFailures
  rw [hcalls] at hresult hwaits
  have hgo : (Loop.start 7).GoesOn standard (fun _ => true) twoFailures
      ⟨fun i => i, Duration.wholeMillis⟩ ⟨2, [((), .ofMillis 500)], [7], 507⟩ := rfl
  obtain ⟨_, _, last, hreach, hend⟩ := hloop ⟨fun i => i, Duration.wholeMillis⟩ 7 _ (.single hgo)
  refine ⟨hresult, hwaits, ?_, last, .head hgo hreach, hend⟩
  rw [hstarts, hcalls]
  decide

end RetryPolicy

end ExplorerProxy
