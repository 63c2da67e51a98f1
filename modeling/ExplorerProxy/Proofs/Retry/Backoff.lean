import ExplorerProxy.Retry.Policy
import Mathlib.Algebra.Group.Nat.Defs

/-!
# The growth of waits

The waits of a policy in plain numbers: the base delay in whole milliseconds, doubled with
every retry and cut at the longest delay, of which the low 64 bits are kept. If the longest
delay fits in 64 bits, no limit of a machine word shows in any of them. They grow up to the
longest delay if that fits in 64 bits and the base delay has at least one millisecond, and
otherwise they do not.
-/

namespace ExplorerProxy

set_option autoImplicit false

namespace Duration

theorem wholeMillis_lt (d : Duration) : d.wholeMillis < UInt64.size * 1000 := by
  have := d.nanos_lt
  rw [wholeMillis]
  omega

theorem wholeMillis_mul_le (d : Duration) : d.wholeMillis * 1000000 ≤ d.nanos :=
  Nat.div_mul_le_self _ _

end Duration

namespace RetryPolicy

theorem factor_of_lt {retry : UInt32} (h : retry.toNat < 64) : factor retry = 2 ^ retry.toNat := by
  have hlt : retry < 64 := UInt32.lt_iff_toNat_lt.mpr h
  rw [factor, if_pos hlt]
  rfl

theorem factor_of_le {retry : UInt32} (h : 64 ≤ retry.toNat) : factor retry = UInt64.size - 1 := by
  have hlt : ¬ retry < 64 := fun hlt => Nat.not_lt.mpr h (UInt32.lt_iff_toNat_lt.mp hlt)
  rw [factor, if_neg hlt]

theorem factor_le (retry : UInt32) : factor retry ≤ UInt64.size - 1 := by
  rcases Nat.lt_or_ge retry.toNat 64 with h | h
  · rw [factor_of_lt h]
    have hpow : 2 ^ retry.toNat ≤ 2 ^ 63 := Nat.pow_le_pow_right (by decide) (by omega)
    have : (2 : Nat) ^ 63 ≤ UInt64.size - 1 := by decide
    omega
  · exact Nat.le_of_eq (factor_of_le h)

theorem factor_mono {m n : UInt32} (h : m ≤ n) : factor m ≤ factor n := by
  have hle : m.toNat ≤ n.toNat := UInt32.le_iff_toNat_le.mp h
  rcases Nat.lt_or_ge n.toNat 64 with hn | hn
  · rw [factor_of_lt (Nat.lt_of_le_of_lt hle hn), factor_of_lt hn]
    exact Nat.pow_le_pow_right (by decide) hle
  · rw [factor_of_le hn]
    exact factor_le m

variable (p : RetryPolicy)

/-- The milliseconds of a wait, before they are cut to 64 bits. -/
def grown (retry : UInt32) : Nat :=
  min (p.baseDelay.wholeMillis * factor retry) p.maxDelay.wholeMillis

theorem backoff_eq (retry : UInt32) : p.backoff retry = .ofMillis (.ofNat (p.grown retry)) := by
  have hsmall : UInt64.size * 1000 ≤ Nat.pow 2 128 - 1 := by decide
  have hmax : p.maxDelay.wholeMillis ≤ Nat.pow 2 128 - 1 :=
    Nat.le_trans (Nat.le_of_lt p.maxDelay.wholeMillis_lt) hsmall
  rw [backoff, grown, Nat.min_assoc, Nat.min_eq_right hmax]

theorem nanos_backoff (retry : UInt32) :
    (p.backoff retry).nanos = p.grown retry % UInt64.size * 1000000 := by
  rw [backoff_eq]
  rfl

theorem nanos_backoff_le (retry : UInt32) : (p.backoff retry).nanos ≤ p.maxDelay.nanos := by
  have hmod := Nat.mod_le (p.grown retry) UInt64.size
  have hgrown : p.grown retry ≤ p.maxDelay.wholeMillis := Nat.min_le_right _ _
  rw [nanos_backoff]
  calc p.grown retry % UInt64.size * 1000000
      ≤ p.maxDelay.wholeMillis * 1000000 := Nat.mul_le_mul_right _ (Nat.le_trans hmod hgrown)
    _ ≤ p.maxDelay.nanos := p.maxDelay.wholeMillis_mul_le

theorem grown_mono {m n : UInt32} (h : m ≤ n) : p.grown m ≤ p.grown n := by
  have hmul := Nat.mul_le_mul_left p.baseDelay.wholeMillis (factor_mono h)
  simp only [grown]
  omega

theorem grown_of_le {retry : UInt32} (h : 64 ≤ retry.toNat) (hbase : 1 ≤ p.baseDelay.wholeMillis)
    (hmax : p.maxDelay.wholeMillis < UInt64.size) : p.grown retry = p.maxDelay.wholeMillis := by
  have hmul := Nat.mul_le_mul_right (UInt64.size - 1) hbase
  rw [grown, factor_of_le h]
  omega

/-- The cut at the longest delay absorbs the limit of the factor: where that limit is met, a
base delay of a millisecond has outgrown every longest delay of 64 bits. -/
theorem grown_eq_min (retry : UInt32) (hmax : p.maxDelay.wholeMillis < UInt64.size) :
    p.grown retry = min (p.baseDelay.wholeMillis * 2 ^ retry.toNat) p.maxDelay.wholeMillis := by
  rcases Nat.lt_or_ge retry.toNat 64 with hlt | hge
  · rw [grown, factor_of_lt hlt]
  · rcases Nat.eq_zero_or_pos p.baseDelay.wholeMillis with hbase | hbase
    · rw [grown, hbase, Nat.zero_mul, Nat.zero_mul]
    · have hsize : UInt64.size = 2 ^ 64 := by decide
      have hpow : 2 ^ 64 ≤ 2 ^ retry.toNat := Nat.pow_le_pow_right (by decide) hge
      have hmul := Nat.mul_le_mul hbase hpow
      rw [p.grown_of_le hge hbase hmax, Nat.min_eq_right]
      omega

/-- Under a longest delay below `2 ^ 64` milliseconds, every wait is the base delay doubled
with every retry and cut at the longest delay, in whole milliseconds and in numbers of any
size: none of the limits of machine words is ever seen. -/
theorem nanos_backoff_eq_min (retry : UInt32)
    (hmax : p.maxDelay.nanos < UInt64.size * 1000000) :
    (p.backoff retry).nanos =
      min (p.baseDelay.wholeMillis * 2 ^ retry.toNat) p.maxDelay.wholeMillis * 1000000 := by
  have hwhole : p.maxDelay.wholeMillis < UInt64.size := Nat.div_lt_of_lt_mul (by omega)
  have hfit : p.grown retry < UInt64.size := Nat.lt_of_le_of_lt (Nat.min_le_right _ _) hwhole
  rw [nanos_backoff, Nat.mod_eq_of_lt hfit, p.grown_eq_min retry hwhole]

theorem nanos_backoff_eq_min_of_limits :
    ∃ p : RetryPolicy, p.baseDelay = .longest ∧
      p.maxDelay.nanos = UInt64.size * 1000000 - 1 ∧
      UInt64.size ≤ 2 ^ 100 ∧ 2 ^ 128 ≤ p.baseDelay.wholeMillis * factor 100 ∧
      (p.backoff 100).nanos = (UInt64.size - 1) * 1000000 := by
  let p : RetryPolicy := ⟨3, .longest, ⟨UInt64.size * 1000000 - 1, by decide⟩⟩
  have hmax : p.maxDelay.nanos < UInt64.size * 1000000 := by decide
  refine ⟨p, rfl, rfl, by decide, by decide, ?_⟩
  exact (p.nanos_backoff_eq_min 100 hmax).trans (by decide)

/-- The waits never get shorter, stay within the longest delay, and reach it, in whole
milliseconds. -/
structure BacksOff : Prop where
  mono : ∀ {m n : UInt32}, m ≤ n → (p.backoff m).nanos ≤ (p.backoff n).nanos
  le_max : ∀ n, (p.backoff n).nanos ≤ p.maxDelay.nanos
  reaches : ∃ N : UInt32, ∀ n, N ≤ n → (p.backoff n).nanos = p.maxDelay.wholeMillis * 1000000

theorem BacksOff.whole {p : RetryPolicy} (h : p.BacksOff) :
    p.maxDelay.wholeMillis < UInt64.size ∧
      (1 ≤ p.baseDelay.wholeMillis ∨ p.maxDelay.wholeMillis = 0) := by
  obtain ⟨N, hN⟩ := h.reaches
  have hlast : p.grown N % UInt64.size = p.maxDelay.wholeMillis := by
    have hnanos := hN N (UInt32.le_refl N)
    rw [nanos_backoff] at hnanos
    omega
  have hlt : p.grown N % UInt64.size < UInt64.size := Nat.mod_lt _ (by decide)
  refine ⟨hlast ▸ hlt, ?_⟩
  rcases Nat.eq_zero_or_pos p.baseDelay.wholeMillis with hbase | hbase
  · right
    rw [← hlast, grown, hbase, Nat.zero_mul, Nat.zero_min, Nat.zero_mod]
  · exact Or.inl hbase

theorem backsOff_of_whole (hmax : p.maxDelay.wholeMillis < UInt64.size)
    (hbase : 1 ≤ p.baseDelay.wholeMillis ∨ p.maxDelay.wholeMillis = 0) : p.BacksOff := by
  have hfit : ∀ n, p.grown n % UInt64.size = p.grown n := fun n =>
    Nat.mod_eq_of_lt (Nat.lt_of_le_of_lt (Nat.min_le_right _ _) hmax)
  refine ⟨?_, p.nanos_backoff_le, 64, ?_⟩
  · intro m n h
    rw [nanos_backoff, nanos_backoff, hfit, hfit]
    exact Nat.mul_le_mul_right _ (p.grown_mono h)
  · intro n hn
    have hle : 64 ≤ n.toNat := UInt32.le_iff_toNat_le.mp hn
    rw [nanos_backoff, hfit]
    rcases hbase with hbase | hzero
    · rw [p.grown_of_le hle hbase hmax]
    · rw [grown, hzero, Nat.min_zero]

theorem nanos_backoff_of_small (h : p.baseDelay.wholeMillis = 0) (retry : UInt32) :
    (p.backoff retry).nanos = 0 := by
  rw [nanos_backoff, grown, h, Nat.zero_mul, Nat.zero_min, Nat.zero_mod, Nat.zero_mul]

/-- The waits grow to the longest delay just when its milliseconds fit in 64 bits and the
base delay has a whole millisecond, or the longest delay has none. They never exceed it. -/
theorem backsOff_iff : (∀ n, (p.backoff n).nanos ≤ p.maxDelay.nanos) ∧
    (p.BacksOff ↔ p.maxDelay.wholeMillis < UInt64.size ∧
      (1 ≤ p.baseDelay.wholeMillis ∨ p.maxDelay.wholeMillis = 0)) :=
  ⟨p.nanos_backoff_le, BacksOff.whole, fun h => p.backsOff_of_whole h.1 h.2⟩

/-- With a base delay below a millisecond no wait is made at all. With a longest delay beyond
64 bits the waits get shorter when their low bits run out. -/
theorem exists_not_backsOff :
    (∃ p : RetryPolicy, 0 < p.baseDelay.nanos ∧ 0 < p.maxDelay.wholeMillis ∧ ¬ p.BacksOff ∧
      ∀ n, (p.backoff n).nanos = 0) ∧
    ∃ p : RetryPolicy, 0 < p.baseDelay.nanos ∧ ¬ p.BacksOff ∧
      (p.backoff 61).nanos < (p.backoff 60).nanos := by
  constructor
  · refine ⟨⟨3, .ofNanos 500000, .ofSecs 30⟩, by decide, by decide, ?_, ?_⟩
    · intro h
      exact absurd h.whole.2 (by decide)
    · exact nanos_backoff_of_small _ (by decide)
  · have hless : (backoff ⟨3, .ofSecs 1, .longest⟩ 61).nanos <
        (backoff ⟨3, .ofSecs 1, .longest⟩ 60).nanos := by decide
    refine ⟨⟨3, .ofSecs 1, .longest⟩, by decide, ?_, hless⟩
    intro h
    have hle : (60 : UInt32) ≤ 61 := by decide
    exact absurd (h.mono hle) (Nat.not_le.mpr hless)

end RetryPolicy

end ExplorerProxy
