import ExplorerProxy.Page.Abi
import Mathlib.Data.List.Infix
import Mathlib.Order.Bounds.Basic
import Mathlib.Order.Nat

/-!
# The first block that is closed

Where the search for an interface ends, said by positions: at the first start of a block
behind which, before any line feed, at least one character and then an end of block follow.
What it finds runs up to the first such end.
-/

namespace ExplorerProxy.Page

set_option autoImplicit false

def StartsAt (page : List Char) (p : Nat) : Prop := blockStart <+: page.drop p

def EndsAt (text : List Char) (n : Nat) : Prop := blockEnd <+: text.drop n

def behind (page : List Char) (p : Nat) : List Char := page.drop (p + blockStart.length)

/-- At least one character, none of them a line feed, and then an end of block. -/
def ClosedOnLine (text : List Char) : Prop := ∃ n, 1 ≤ n ∧ EndsAt text n ∧ '\n' ∉ text.take n

/-- A block that is closed on its line starts at a position. -/
def ClosedAt (page : List Char) (p : Nat) : Prop := StartsAt page p ∧ ClosedOnLine (behind page p)

theorem exists_isLeast {P : Nat → Prop} (h : ∃ n, P n) : ∃ n, IsLeast {n | P n} n := by
  classical
  exact ⟨Nat.find h, Nat.isLeast_find h⟩

theorem isLeast_zero {P : Nat → Prop} (h : P 0) {n : Nat} : IsLeast {n | P n} n ↔ n = 0 := by
  constructor
  · intro hn
    exact Nat.le_zero.mp (hn.2 h)
  · rintro rfl
    exact ⟨h, fun m _ => Nat.zero_le m⟩

theorem isLeast_succ {P : Nat → Prop} (h : ¬ P 0) {n : Nat} :
    IsLeast {n | P n} (n + 1) ↔ IsLeast {n | P (n + 1)} n := by
  constructor
  · intro hn
    refine ⟨hn.1, fun m hm => ?_⟩
    have := hn.2 (show P (m + 1) from hm)
    omega
  · intro hn
    refine ⟨hn.1, fun m hm => ?_⟩
    cases m with
    | zero => exact absurd hm h
    | succ m => exact Nat.succ_le_succ (hn.2 hm)

theorem exists_isLeast_succ {P Q : Nat → Prop} (h : ¬ P 0) :
    (∃ n, IsLeast {n | P n} n ∧ Q n) ↔ ∃ n, IsLeast {n | P (n + 1)} n ∧ Q (n + 1) := by
  constructor
  · rintro ⟨n, hn, hq⟩
    cases n with
    | zero => exact absurd hn.1 h
    | succ n => exact ⟨n, (isLeast_succ h).mp hn, hq⟩
  · rintro ⟨n, hn, hq⟩
    exact ⟨n + 1, (isLeast_succ h).mpr hn, hq⟩

theorem isSome_after?_iff {fixed page : List Char} :
    (after? fixed page).isSome ↔ fixed <+: page := by
  simp only [Option.isSome_iff_exists, after?_eq_some]
  constructor
  · rintro ⟨rest, rfl⟩
    exact List.prefix_append fixed rest
  · rintro ⟨rest, rfl⟩
    exact ⟨rest, rfl⟩

theorem not_endsAt_nil (n : Nat) : ¬ EndsAt [] n := by
  rw [EndsAt, List.drop_nil, List.prefix_nil]
  decide

theorem not_startsAt_nil (p : Nat) : ¬ StartsAt [] p := by
  rw [StartsAt, List.drop_nil, List.prefix_nil]
  decide

theorem untilBlockEnd_eq_some {acc text content : List Char} :
    untilBlockEnd acc text = some content ↔ ∃ n, IsLeast {n | EndsAt text n} n ∧
      '\n' ∉ text.take n ∧ content = acc.reverse ++ text.take n := by
  induction text generalizing acc with
  | nil =>
    simp only [untilBlockEnd, reduceCtorEq, false_iff]
    rintro ⟨n, hn, _⟩
    exact not_endsAt_nil n hn.1
  | cons c text ih =>
    have hhere : (after? blockEnd (c :: text)).isSome ↔ EndsAt (c :: text) 0 := isSome_after?_iff
    rw [untilBlockEnd]
    by_cases hend : EndsAt (c :: text) 0
    · rw [if_pos (hhere.mpr hend)]
      simp [isLeast_zero (P := EndsAt (c :: text)) hend, eq_comm]
    · rw [if_neg (mt hhere.mp hend), exists_isLeast_succ hend]
      by_cases hline : c = '\n'
      · rw [if_pos hline]
        simp [hline]
      · rw [if_neg hline, ih]
        simp [EndsAt, Ne.symm hline]

/-- A block has at least one character, so that an end is looked for behind its first. -/
theorem blockContent?_eq_some {text content : List Char} :
    blockContent? text = some content ↔ ∃ n, IsLeast {n | 1 ≤ n ∧ EndsAt text n} n ∧
      '\n' ∉ text.take n ∧ content = text.take n := by
  have hzero : ¬ (1 ≤ 0 ∧ EndsAt text 0) := fun h => absurd h.1 (by decide)
  rw [exists_isLeast_succ hzero]
  cases text with
  | nil =>
    simp only [blockContent?, reduceCtorEq, false_iff]
    rintro ⟨n, hn, _⟩
    exact not_endsAt_nil (n + 1) hn.1.2
  | cons c text =>
    rw [blockContent?]
    by_cases hline : c = '\n'
    · rw [if_pos hline]
      simp [hline]
    · rw [if_neg hline, untilBlockEnd_eq_some]
      simp [EndsAt, Ne.symm hline]

theorem isSome_blockContent?_iff {text : List Char} :
    (blockContent? text).isSome ↔ ClosedOnLine text := by
  simp only [Option.isSome_iff_exists, blockContent?_eq_some]
  constructor
  · rintro ⟨content, n, hn, hline, _⟩
    exact ⟨n, hn.1.1, hn.1.2, hline⟩
  · rintro ⟨n, hpos, hend, hline⟩
    obtain ⟨m, hm⟩ := exists_isLeast (P := fun n => 1 ≤ n ∧ EndsAt text n) ⟨n, hpos, hend⟩
    have hle : m ≤ n := hm.2 ⟨hpos, hend⟩
    refine ⟨text.take m, m, hm, fun hmem => hline ?_, rfl⟩
    exact (List.take_subset_take_left text hle) hmem

theorem blockHere?_eq_some {page content : List Char} :
    blockHere? page = some content ↔
      StartsAt page 0 ∧ blockContent? (behind page 0) = some content := by
  simp only [blockHere?, Option.bind_eq_some_iff, after?_eq_some]
  constructor
  · rintro ⟨rest, rfl, hcontent⟩
    refine ⟨List.prefix_append _ _, ?_⟩
    rwa [behind, Nat.zero_add, List.drop_left]
  · rintro ⟨⟨rest, hrest⟩, hcontent⟩
    rw [List.drop_zero] at hrest
    subst hrest
    rw [behind, Nat.zero_add, List.drop_left] at hcontent
    exact ⟨rest, rfl, hcontent⟩

theorem isSome_blockHere?_iff {page : List Char} : (blockHere? page).isSome ↔ ClosedAt page 0 := by
  rw [ClosedAt, ← isSome_blockContent?_iff]
  simp only [Option.isSome_iff_exists, blockHere?_eq_some, exists_and_left]

theorem firstBlock?_eq_some {page content : List Char} :
    firstBlock? page = some content ↔ ∃ p, IsLeast {p | ClosedAt page p} p ∧
      blockContent? (behind page p) = some content := by
  induction page with
  | nil =>
    simp only [firstBlock?, reduceCtorEq, false_iff]
    rintro ⟨p, hp, _⟩
    exact not_startsAt_nil p hp.1.1
  | cons c page ih =>
    rw [firstBlock?]
    by_cases hhere : ClosedAt (c :: page) 0
    · obtain ⟨found, hfound⟩ := Option.isSome_iff_exists.mp (isSome_blockHere?_iff.mpr hhere)
      have hcontent := (blockHere?_eq_some.mp hfound).2
      simp only [hfound, isLeast_zero (P := ClosedAt (c :: page)) hhere, exists_eq_left, hcontent]
    · have hnone : blockHere? (c :: page) = none :=
        Option.not_isSome_iff_eq_none.mp (mt isSome_blockHere?_iff.mp hhere)
      simp only [hnone, ih, exists_isLeast_succ (P := ClosedAt (c :: page)) hhere]
      simp [ClosedAt, StartsAt, behind, Nat.add_right_comm _ 1]

theorem firstBlock?_eq_none {page : List Char} :
    firstBlock? page = none ↔ ∀ p, ¬ ClosedAt page p := by
  rw [← Option.not_isSome_iff_eq_none, ← not_exists, not_iff_not, Option.isSome_iff_exists]
  simp only [firstBlock?_eq_some]
  constructor
  · rintro ⟨_, p, hp, _⟩
    exact ⟨p, hp.1⟩
  · intro hclosed
    obtain ⟨p, hp⟩ := exists_isLeast hclosed
    obtain ⟨content, hcontent⟩ :=
      Option.isSome_iff_exists.mp (isSome_blockContent?_iff.mpr hp.1.2)
    exact ⟨content, p, hp, hcontent⟩

/-- The interface that the content of a block stands for. -/
def interface (address : String) (content : List Char) : Except FetchError Json :=
  (Json.read (String.ofList content)).mapError (.malformedAbi address)

theorem abi_of_block {page address : String} {content : List Char}
    (h : abiBlock? page = some (String.ofList content)) :
    abi page address = interface address content := by
  simp only [abi, h, interface]
  cases Json.read (String.ofList content) <;> rfl

theorem abi_of_no_block {page address : String} (h : abiBlock? page = none) :
    abi page address = .ok (.array []) := by
  rw [abi, h]

theorem abiBlock?_eq_some {page block : String} :
    abiBlock? page = some block ↔ ∃ p, IsLeast {p | ClosedAt page.toList p} p ∧
      ∃ n, IsLeast {n | 1 ≤ n ∧ EndsAt (behind page.toList p) n} n ∧
        block = String.ofList ((behind page.toList p).take n) := by
  rw [abiBlock?_eq, Option.map_eq_some_iff]
  constructor
  · rintro ⟨content, hfirst, rfl⟩
    obtain ⟨p, hp, hcontent⟩ := firstBlock?_eq_some.mp hfirst
    obtain ⟨n, hn, _, rfl⟩ := blockContent?_eq_some.mp hcontent
    exact ⟨p, hp, n, hn, rfl⟩
  · rintro ⟨p, hp, n, hn, rfl⟩
    obtain ⟨content, hcontent⟩ :=
      Option.isSome_iff_exists.mp (isSome_blockContent?_iff.mpr hp.1.2)
    refine ⟨content, firstBlock?_eq_some.mpr ⟨p, hp, hcontent⟩, ?_⟩
    obtain ⟨m, hm, _, rfl⟩ := blockContent?_eq_some.mp hcontent
    rw [IsLeast.unique hm hn]

theorem abiBlock?_eq_none {page : String} :
    abiBlock? page = none ↔ ∀ p, ¬ ClosedAt page.toList p := by
  rw [abiBlock?_eq, Option.map_eq_none_iff, firstBlock?_eq_none]

theorem abi_eq_ok {page address : String} {v : Json} : abi page address = .ok v ↔
    (∃ block, abiBlock? page = some block ∧ Json.read block = .ok v) ∨
      abiBlock? page = none ∧ v = .array [] := by
  rw [abi]
  cases hblock : abiBlock? page with
  | none => simp [eq_comm]
  | some block => cases hread : Json.read block <;> simp [hread]

theorem abi_eq_error {page address : String} {e : FetchError} : abi page address = .error e ↔
    ∃ block cause, abiBlock? page = some block ∧ Json.read block = .error cause ∧
      e = .malformedAbi address cause := by
  rw [abi]
  cases hblock : abiBlock? page with
  | none => simp
  | some block => cases hread : Json.read block <;> simp [hread, eq_comm]

/-- The block of a page is the first that is closed on its line, up to the first end behind
its first character; it decides the answer, which is the empty interface without a block. -/
theorem abi_of_first_closed (page address : String) :
    (∀ block, abiBlock? page = some block ↔ ∃ p, IsLeast {p | ClosedAt page.toList p} p ∧
      ∃ n, IsLeast {n | 1 ≤ n ∧ EndsAt (behind page.toList p) n} n ∧
        block = String.ofList ((behind page.toList p).take n)) ∧
    (abiBlock? page = none ↔ ∀ p, ¬ ClosedAt page.toList p) ∧
    (∀ v, abi page address = .ok v ↔
      (∃ block, abiBlock? page = some block ∧ Json.read block = .ok v) ∨
        abiBlock? page = none ∧ v = .array []) ∧
    ∀ e, abi page address = .error e ↔
      ∃ block cause, abiBlock? page = some block ∧ Json.read block = .error cause ∧
        e = .malformedAbi address cause :=
  ⟨fun _ => abiBlock?_eq_some, abiBlock?_eq_none, fun _ => abi_eq_ok, fun _ => abi_eq_error⟩

end ExplorerProxy.Page
