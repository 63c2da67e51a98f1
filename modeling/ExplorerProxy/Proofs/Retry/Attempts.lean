import ExplorerProxy.Retry.Run
import Mathlib.Algebra.GroupWithZero.Nat

/-!
# The attempts of a run

A run ends with the first outcome after which no other attempt is made. Its calls, its
waits and its end follow from the number of that outcome alone.
-/

namespace ExplorerProxy

set_option autoImplicit false

/-- No other attempt follows an outcome. -/
def IsFinal {ε α : Type} (transient : ε → Bool) : Except ε α → Prop
  | .ok _ => True
  | .error e => transient e = false

theorem exists_of_not_isFinal {ε α : Type} {transient : ε → Bool} {outcome : Except ε α}
    (h : ¬ IsFinal transient outcome) : ∃ e, outcome = .error e ∧ transient e = true := by
  cases outcome with
  | ok v => exact absurd trivial h
  | error e => exact ⟨e, rfl, eq_true_of_ne_false h⟩

theorem toNat_attempt_succ {attempt limit : UInt32} (h : attempt < limit) :
    (attempt + 1).toNat = attempt.toNat + 1 := by
  have hlt := UInt32.lt_iff_toNat_lt.mp h
  have hbound := limit.toNat_lt
  rw [UInt32.toNat_add]
  exact Nat.mod_eq_of_lt (by change attempt.toNat + 1 < _; omega)

theorem attempt_sub_one {attempt : UInt32} (h : 1 ≤ attempt.toNat) :
    attempt - 1 = .ofNat (attempt.toNat - 1) := by
  have hle : 1 ≤ attempt := UInt32.le_iff_toNat_le.mpr h
  have hone : (1 : UInt32).toNat = 1 := rfl
  have hbound := attempt.toNat_lt
  have hlt : attempt.toNat - 1 < 2 ^ 32 := by omega
  apply UInt32.toNat_inj.mp
  rw [UInt32.toNat_sub_of_le attempt 1 hle, hone, UInt32.toNat_ofNat_of_lt' hlt]

namespace RetryPolicy

variable {ε α : Type} (p : RetryPolicy) (transient : ε → Bool) (call : Nat → Except ε α)

/-- A run ends with outcome number `k`, counted from zero: the outcomes before it are not
final, and it is, or no attempts are left. -/
structure EndsWith (k : Nat) : Prop where
  lt : k < p.limit.toNat
  before : ∀ i < k, ¬ IsFinal transient (call i)
  final : IsFinal transient (call k) ∨ k + 1 = p.limit.toNat

def backoffs (k : Nat) : List Duration := (List.range k).map fun i => p.backoff (.ofNat i)

theorem limit_toNat : p.limit.toNat = max 1 p.maxAttempts.toNat := by
  have hle : p.maxAttempts ≤ 1 ↔ p.maxAttempts.toNat ≤ 1 := UInt32.le_iff_toNat_le
  have hone : (1 : UInt32).toNat = 1 := rfl
  change (if p.maxAttempts ≤ 1 then 1 else p.maxAttempts).toNat = _
  by_cases h : p.maxAttempts ≤ 1
  · rw [if_pos h]
    have := hle.mp h
    omega
  · rw [if_neg h]
    have := mt hle.mpr h
    omega

theorem EndsWith.unique {k j : Nat} (hk : p.EndsWith transient call k)
    (hj : p.EndsWith transient call j) : k = j := by
  rcases Nat.lt_trichotomy k j with h | h | h
  · rcases hk.final with hfinal | hlast
    · exact absurd hfinal (hj.before k h)
    · have := hj.lt
      omega
  · exact h
  · rcases hj.final with hfinal | hlast
    · exact absurd hfinal (hk.before j h)
    · have := hk.lt
      omega

theorem afterFailure_permanent (attempt : UInt32) : p.afterFailure attempt false = .permanent :=
  rfl

theorem afterFailure_again {attempt : UInt32} (h : attempt.toNat < p.limit.toNat) :
    p.afterFailure attempt true = .again (p.backoff (attempt - 1)) := by
  have hlt : ¬ p.limit ≤ attempt := by
    rw [UInt32.le_iff_toNat_le]
    omega
  simp only [afterFailure, Bool.not_true, Bool.false_eq_true, if_false, if_neg hlt]

theorem afterFailure_exhausted {attempt : UInt32} (h : p.limit.toNat ≤ attempt.toNat) :
    p.afterFailure attempt true = .exhausted := by
  have hle : p.limit ≤ attempt := UInt32.le_iff_toNat_le.mpr h
  simp only [afterFailure, Bool.not_true, Bool.false_eq_true, if_false, if_pos hle]

section
variable {p transient call} {attempt : UInt32}

theorem runFrom_of_final (h : IsFinal transient (call (attempt.toNat - 1))) (left : Nat) :
    p.runFrom transient call left attempt = ⟨[], call (attempt.toNat - 1)⟩ := by
  cases left with
  | zero => rw [runFrom]
  | succ left =>
    cases hc : call (attempt.toNat - 1) with
    | ok v => simp only [runFrom, hc]
    | error e =>
      rw [hc] at h
      have ht : transient e = false := h
      simp only [runFrom, hc, ht, afterFailure_permanent]

theorem runFrom_of_failed {e : ε} (hc : call (attempt.toNat - 1) = .error e)
    (ht : transient e = true) (hlt : attempt.toNat < p.limit.toNat) (left : Nat) :
    p.runFrom transient call (left + 1) attempt =
      (p.runFrom transient call left (attempt + 1)).after e (p.backoff (attempt - 1)) := by
  simp only [runFrom, hc, ht, p.afterFailure_again hlt]

end

/-- From attempt number `attempt` on, when `left` more are allowed after it. -/
theorem runFrom_spec (left : Nat) (attempt : UInt32) (hpos : 1 ≤ attempt.toNat)
    (hleft : attempt.toNat + left = p.limit.toNat) :
    ∃ k ≤ left, (∀ i < k, ¬ IsFinal transient (call (attempt.toNat - 1 + i))) ∧
      (IsFinal transient (call (attempt.toNat - 1 + k)) ∨ k = left) ∧
      (p.runFrom transient call left attempt).result = call (attempt.toNat - 1 + k) ∧
      (p.runFrom transient call left attempt).waits =
        (List.range k).map fun i => p.backoff (.ofNat (attempt.toNat - 1 + i)) := by
  induction left generalizing attempt with
  | zero =>
    refine ⟨0, Nat.le_refl 0, ?_, Or.inr rfl, rfl, rfl⟩
    intro i hi
    omega
  | succ left ih =>
    by_cases hfinal : IsFinal transient (call (attempt.toNat - 1))
    · refine ⟨0, Nat.zero_le _, ?_, Or.inl hfinal, ?_, ?_⟩
      · intro i hi
        omega
      · rw [runFrom_of_final hfinal, Nat.add_zero]
      · rw [runFrom_of_final hfinal]
        rfl
    · obtain ⟨e, hc, ht⟩ := exists_of_not_isFinal hfinal
      have hlt : attempt < p.limit := UInt32.lt_iff_toNat_lt.mpr (by omega)
      have hnext := toNat_attempt_succ hlt
      obtain ⟨k, hk, hbefore, hlast, hresult, hwaits⟩ := ih (attempt + 1) (by omega) (by omega)
      have hshift : ∀ i, (attempt + 1).toNat - 1 + i = attempt.toNat - 1 + (i + 1) := by
        intro i
        omega
      simp only [hshift] at hbefore hlast hresult hwaits
      have hrun := runFrom_of_failed (p := p) hc ht (by omega) left
      refine ⟨k + 1, by omega, ?_, ?_, ?_, ?_⟩
      · intro i hi
        cases i with
        | zero => exact hfinal
        | succ i => exact hbefore i (by omega)
      · rcases hlast with hlast | hnone
        · exact Or.inl hlast
        · exact Or.inr (by omega)
      · rw [hrun]
        exact hresult
      · have hcons : (p.runFrom transient call (left + 1) attempt).waits =
            p.backoff (attempt - 1) :: (p.runFrom transient call left (attempt + 1)).waits := by
          rw [hrun]
          rfl
        rw [hcons, hwaits, List.range_succ_eq_map, List.map_cons, List.map_map,
          attempt_sub_one hpos]
        rfl

theorem run_spec : ∃ k, p.EndsWith transient call k ∧
    (p.run transient call).result = call k ∧ (p.run transient call).calls = k + 1 ∧
    (p.run transient call).waits = p.backoffs k := by
  have hlimit := p.limit_toNat
  have hone : (1 : UInt32).toNat = 1 := rfl
  obtain ⟨k, hk, hbefore, hfinal, hresult, hwaits⟩ := p.runFrom_spec transient call
    (p.limit.toNat - 1) 1 (Nat.le_refl 1) (by omega)
  simp only [hone, Nat.sub_self, Nat.zero_add] at hbefore hfinal hresult hwaits
  refine ⟨k, ⟨by omega, hbefore, ?_⟩, hresult, ?_, hwaits⟩
  · rcases hfinal with hfinal | hlast
    · exact Or.inl hfinal
    · exact Or.inr (by omega)
  · have hlen := congrArg List.length hwaits
    rw [RetryRun.waits, List.length_map, List.length_map, List.length_range] at hlen
    rw [RetryRun.calls, run, hlen]

end RetryPolicy

/-- How long `n` calls last, from call number `i` on. -/
def Clock.span (clock : Clock) (i n : Nat) : Nat :=
  ((List.range n).map fun j => clock.call (i + j)).sum

theorem Clock.span_zero_left (clock : Clock) (n : Nat) :
    clock.span 0 n = ((List.range n).map clock.call).sum := by
  simp only [span, Nat.zero_add]

theorem Clock.span_succ (clock : Clock) (i n : Nat) :
    clock.span i (n + 1) = clock.call i + clock.span (i + 1) n := by
  have hshift : (fun j => clock.call (i + j)) ∘ Nat.succ = fun j => clock.call (i + 1 + j) := by
    funext j
    rw [Function.comp_apply, Nat.add_assoc, Nat.add_comm 1 j]
  rw [span, List.range_succ_eq_map, List.map_cons, List.map_map, hshift, List.sum_cons,
    Nat.add_zero]
  rfl

namespace RetryRun

variable {ε α : Type}

theorem schedule_starts (clock : Clock) (waits : List Duration) (i now : Nat) :
    (schedule clock waits i now).1 = (List.range (waits.length + 1)).map fun j =>
      now + clock.span i j + ((waits.take j).map clock.wait).sum := by
  induction waits generalizing i now with
  | nil => rfl
  | cons wait waits ih =>
    rw [schedule, List.length_cons, List.range_succ_eq_map, List.map_cons, List.map_map]
    simp only [ih]
    apply congrArg (List.cons now)
    apply List.map_congr_left
    intro j _
    rw [Function.comp_apply, Nat.succ_eq_add_one, clock.span_succ, List.take_succ_cons,
      List.map_cons, List.sum_cons]
    omega

theorem schedule_end (clock : Clock) (waits : List Duration) (i now : Nat) :
    (schedule clock waits i now).2 =
      now + clock.span i (waits.length + 1) + (waits.map clock.wait).sum := by
  induction waits generalizing i now with
  | nil => rfl
  | cons wait waits ih =>
    rw [schedule, List.length_cons, clock.span_succ, List.map_cons, List.sum_cons]
    simp only [ih]
    omega

theorem ends_eq (r : RetryRun ε α) (clock : Clock) (now : Nat) :
    r.ends clock now =
      now + ((List.range r.calls).map clock.call).sum + (r.waits.map clock.wait).sum := by
  have hlen : r.waits.length + 1 = r.calls := by rw [waits, List.length_map, calls]
  rw [ends, schedule_end, hlen, clock.span_zero_left]

theorem le_ends (r : RetryRun ε α) (clock : Clock) (now : Nat) : now ≤ r.ends clock now := by
  rw [ends_eq, Nat.add_assoc]
  exact Nat.le_add_right _ _

end RetryRun

end ExplorerProxy
