import ExplorerProxy.Number.Whole

/-!
# What whole numbers look like

A text is read as a number just when it is written as one: decimal digits, with at most a
plus sign before them, whose value is within the limit. That the limit is checked at every
digit makes no difference, as further digits never make a number smaller.
-/

namespace ExplorerProxy.Number

set_option autoImplicit false

/-- A text that is written as a whole number: at least one decimal digit, and nothing else
but a plus sign before the digits. -/
def IsWhole (s : String) (n : Nat) : Prop :=
  ∃ ds, (s.toList = ds ∨ s.toList = '+' :: ds) ∧ ds ≠ [] ∧ (∀ c ∈ ds, c.isDigit = true) ∧
    Nat.ofDigitChars 10 ds 0 = n

theorem digit?_of_isDigit {c : Char} (h : c.isDigit = true) :
    digit? c = some (c.toNat - '0'.toNat) := by
  obtain ⟨hlow, hhigh⟩ := Char.isDigit_iff_toNat.mp h
  exact if_pos ⟨hlow, hhigh⟩

theorem digit?_of_not_isDigit {c : Char} (h : ¬ c.isDigit = true) : digit? c = none := by
  refine if_neg ?_
  rintro ⟨hlow, hhigh⟩
  exact h (Char.isDigit_iff_toNat.mpr ⟨hlow, hhigh⟩)

theorem le_ofDigitChars (acc : Nat) (ds : List Char) : acc ≤ Nat.ofDigitChars 10 ds acc := by
  induction ds generalizing acc with
  | nil => exact Nat.le_refl acc
  | cons d ds ih =>
    rw [Nat.ofDigitChars_cons]
    have hmore := ih (10 * acc + (d.toNat - '0'.toNat))
    omega

theorem wholeFrom_eq_ok {limit acc n : Nat} {cs : List Char} (h : acc ≤ limit) :
    wholeFrom limit acc cs = .ok n ↔
      (∀ c ∈ cs, c.isDigit = true) ∧ Nat.ofDigitChars 10 cs acc = n ∧ n ≤ limit := by
  induction cs generalizing acc with
  | nil =>
    rw [wholeFrom, Except.ok.injEq, Nat.ofDigitChars_nil]
    constructor
    · rintro rfl
      exact ⟨fun c hc => absurd hc List.not_mem_nil, rfl, h⟩
    · exact fun hn => hn.2.1
  | cons c cs ih =>
    rw [wholeFrom, List.forall_mem_cons, Nat.ofDigitChars_cons]
    by_cases hc : c.isDigit = true
    · simp only [digit?_of_isDigit hc, hc, true_and]
      split
      · have hle := le_ofDigitChars (10 * acc + (c.toNat - '0'.toNat)) cs
        constructor
        · intro herror
          cases herror
        · rintro ⟨_, rfl, hlimit⟩
          omega
      · exact ih (Nat.le_of_not_lt ‹_›)
    · rw [digit?_of_not_isDigit hc]
      constructor
      · intro herror
        cases herror
      · exact fun hn => absurd hn.1.1 hc

section Signs

variable {s : String} {cs : List Char} {n : Nat}

theorem isWhole_of_sign (hs : s.toList = '+' :: cs) :
    IsWhole s n ↔ cs ≠ [] ∧ (∀ c ∈ cs, c.isDigit = true) ∧ Nat.ofDigitChars 10 cs 0 = n := by
  constructor
  · rintro ⟨ds, rfl | hds, hne, hdigits, hvalue⟩
    · have hplus := hdigits '+' (hs ▸ List.mem_cons_self)
      cases hplus
    · obtain rfl : cs = ds := List.tail_eq_of_cons_eq (hs.symm.trans hds)
      exact ⟨hne, hdigits, hvalue⟩
  · rintro ⟨hne, hdigits, hvalue⟩
    exact ⟨cs, Or.inr hs, hne, hdigits, hvalue⟩

theorem isWhole_of_no_sign (hs : s.toList = cs) (hplus : ∀ ds, cs ≠ '+' :: ds) :
    IsWhole s n ↔ cs ≠ [] ∧ (∀ c ∈ cs, c.isDigit = true) ∧ Nat.ofDigitChars 10 cs 0 = n := by
  constructor
  · rintro ⟨ds, rfl | hds, hne, hdigits, hvalue⟩
    · obtain rfl := hs
      exact ⟨hne, hdigits, hvalue⟩
    · exact absurd (hs.symm.trans hds) (hplus ds)
  · rintro ⟨hne, hdigits, hvalue⟩
    exact ⟨cs, Or.inl hs, hne, hdigits, hvalue⟩

end Signs

theorem whole?_eq_ok {limit n : Nat} {s : String} :
    whole? limit s = .ok n ↔ IsWhole s n ∧ n ≤ limit := by
  unfold whole?
  split
  case h_1 hs =>
    rw [isWhole_of_no_sign hs (by simp)]
    simp
  case h_2 hs =>
    rw [isWhole_of_sign hs]
    simp
  case h_3 cs hne hs =>
    rw [isWhole_of_sign hs, wholeFrom_eq_ok (Nat.zero_le limit), and_assoc, and_assoc]
    exact (and_iff_right hne).symm
  case h_4 hne _ hplus =>
    rw [isWhole_of_no_sign rfl hplus, wholeFrom_eq_ok (Nat.zero_le limit), and_assoc, and_assoc]
    exact (and_iff_right hne).symm

/-- Words of any width are read alike: those are the numbers up to their limit. -/
theorem map_whole?_eq_ok {α : Type} {limit : Nat} {ofNat : Nat → α} {toNat : α → Nat}
    (hle : ∀ w, toNat w ≤ limit) (hofNat : ∀ w, ofNat (toNat w) = w)
    (htoNat : ∀ n, n ≤ limit → toNat (ofNat n) = n) {s : String} {w : α} :
    (whole? limit s).map ofNat = .ok w ↔ IsWhole s (toNat w) := by
  constructor
  · intro h
    cases hn : whole? limit s with
    | error e =>
      rw [hn] at h
      cases h
    | ok n =>
      obtain ⟨hwhole, hlimit⟩ := whole?_eq_ok.mp hn
      rw [hn] at h
      obtain rfl : ofNat n = w := Except.ok.inj h
      rwa [htoNat n hlimit]
  · intro h
    rw [whole?_eq_ok.mpr ⟨h, hle w⟩]
    exact congrArg Except.ok (hofNat w)

theorem word64?_eq_ok {s : String} {w : UInt64} : word64? s = .ok w ↔ IsWhole s w.toNat := by
  refine map_whole?_eq_ok (fun w => ?_) (fun _ => UInt64.ofNat_toNat) fun n hn => ?_
  · exact Nat.le_sub_one_of_lt w.toNat_lt
  · exact UInt64.toNat_ofNat_of_lt' (Nat.lt_of_le_pred (by decide) hn)

theorem word32?_eq_ok {s : String} {w : UInt32} : word32? s = .ok w ↔ IsWhole s w.toNat := by
  refine map_whole?_eq_ok (fun w => ?_) (fun _ => UInt32.ofNat_toNat) fun n hn => ?_
  · exact Nat.le_sub_one_of_lt w.toNat_lt
  · exact UInt32.toNat_ofNat_of_lt' (Nat.lt_of_le_pred (by decide) hn)

end ExplorerProxy.Number
