import ExplorerProxy.Json.Number
import ExplorerProxy.Json.Writer
import ExplorerProxy.Proofs.List.Stops
import ExplorerProxy.Proofs.Number.Whole
import Mathlib.Data.List.TakeDrop

/-!
# Strings and whole numbers, written and read

What is written for a string or a whole number of 64 bits is read back. A string goes
character by character: whatever is written for a character leads the reader to this
character and back to where it was. A number ends where its digits end.
-/

namespace ExplorerProxy.Json

set_option autoImplicit false

theorem skipBlanks_cons {c : Char} (h : isBlank c = false) (cs : List Char) :
    skipBlanks (c :: cs) = c :: cs :=
  List.dropWhile_cons_of_neg (by simp [h])

theorem hexDigit?_digitChar {n : Nat} (h : n < 16) :
    Number.hexDigit? (Nat.digitChar n) = some n := by
  have hall : ∀ n, n < 16 → Number.hexDigit? (Nat.digitChar n) = some n := by decide
  exact hall n h

theorem fourBytesLeft_of_four (a b c d : Char) (cs : List Char) :
    fourBytesLeft (a :: b :: c :: d :: cs) = true := by
  have ha := a.utf8Size_pos
  have hb := b.utf8Size_pos
  have hc := c.utf8Size_pos
  have hd := d.utf8Size_pos
  refine decide_eq_true (?_ : 4 ≤ 0 + a.utf8Size + b.utf8Size + c.utf8Size + d.utf8Size)
  omega

section Digits

variable {lead : Option Nat} {value left d : Nat} {c : Char} {acc cs : List Char}

theorem stringFrom_digit (hd : Number.hexDigit? c = some d) (hleft : 1 < left) :
    stringFrom .strict (.digits lead value left) acc (c :: cs) =
      stringFrom .strict (.digits lead (16 * value + d) (left - 1)) acc cs := by
  rw [stringFrom, hd]
  exact if_pos hleft

theorem stringFrom_last_digit {done : Char} (hd : Number.hexDigit? c = some d)
    (hdone : unitDone .strict lead (16 * value + d) = .ok (some done, .outside)) :
    stringFrom .strict (.digits lead value 1) acc (c :: cs) =
      stringFrom .strict .outside (done :: acc) cs := by
  rw [stringFrom, hd]
  simp only [Nat.lt_irrefl, if_false, hdone]
  rfl

end Digits

theorem stringFrom_control {c : Char} (h : c.toNat < 0x20) (acc cs : List Char) :
    stringFrom .strict .outside acc (['\\', 'u', '0', '0'] ++ hexPair c.toNat ++ cs) =
      stringFrom .strict .outside (c :: acc) cs := by
  have hzero : Number.hexDigit? '0' = some 0 := rfl
  have hhigh := hexDigit?_digitChar (n := c.toNat / 16 % 16) (by omega)
  have hlow := hexDigit?_digitChar (n := c.toNat % 16) (by omega)
  have hunit : 16 * (16 * (16 * (16 * 0 + 0) + 0) + c.toNat / 16 % 16) + c.toNat % 16 =
      c.toNat := by omega
  have hdone : unitDone .strict none c.toNat = .ok (some c, .outside) := by
    have hlead : ¬ (0xd800 ≤ c.toNat ∧ c.toNat ≤ 0xdbff) := by omega
    have htrail : ¬ (0xdc00 ≤ c.toNat ∧ c.toNat ≤ 0xdfff) := by omega
    simp only [unitDone, reduceCtorEq, if_false, if_neg hlead, if_neg htrail, Char.ofNat_toNat]
  have hopen : ∀ a b : Char,
      stringFrom .strict .outside acc ('\\' :: 'u' :: '0' :: '0' :: a :: b :: cs) =
        stringFrom .strict (.digits none 0 4) acc ('0' :: '0' :: a :: b :: cs) :=
    fun a b => if_pos (fourBytesLeft_of_four '0' '0' a b cs)
  rw [hexPair, List.append_assoc]
  refine (hopen _ _).trans ?_
  rw [stringFrom_digit hzero (by decide), stringFrom_digit hzero (by decide),
    stringFrom_digit hhigh (by decide), stringFrom_last_digit hlow (hunit.symm ▸ hdone)]

theorem stringFrom_escaped (c : Char) (acc cs : List Char) :
    stringFrom .strict .outside acc (escaped c ++ cs) =
      stringFrom .strict .outside (c :: acc) cs := by
  unfold escaped
  split
  case h_8 hquote hbackslash _ _ _ _ _ =>
    split
    · exact stringFrom_control ‹_› acc cs
    · rename_i hcontrol
      rw [List.singleton_append, stringFrom, if_neg hquote, if_neg hbackslash, if_neg hcontrol]
  all_goals rfl

/-- The characters of a string are read back up to the quote behind them. -/
theorem stringFrom_flatMap_escaped (s acc rest : List Char) :
    stringFrom .strict .outside acc (s.flatMap escaped ++ '"' :: rest) =
      .ok (String.ofList (acc.reverse ++ s), rest) := by
  induction s generalizing acc with
  | nil => rw [List.append_nil]; rfl
  | cons c s ih =>
    rw [List.flatMap_cons, List.append_assoc, stringFrom_escaped, ih, List.reverse_cons,
      List.append_assoc]
    rfl

theorem stringChars_append (s : String) (rest : List Char) :
    stringChars s ++ rest = '"' :: (s.toList.flatMap escaped ++ '"' :: rest) := by
  simp [stringChars]

theorem stringRest_escaped (s : String) (rest : List Char) :
    stringRest .strict (s.toList.flatMap escaped ++ '"' :: rest) = .ok (s, rest) := by
  rw [stringRest, stringFrom_flatMap_escaped, List.reverse_nil, List.nil_append,
    String.ofList_toList]

/-- What can stand behind a part of a record: nothing, a comma or a closing brace. -/
def EndsPart (rest : List Char) : Prop := ∀ c ∈ rest.head?, c = ',' ∨ c = '\x7d'

theorem isDigit_of_isDigit {c : Char} (h : c.isDigit = true) : isDigit c = true := by
  obtain ⟨hlow, hhigh⟩ := Char.isDigit_iff_toNat.mp h
  exact Bool.and_eq_true_iff.mpr ⟨decide_eq_true hlow, decide_eq_true hhigh⟩

theorem digits_append {cs rest : List Char} (hcs : ∀ c ∈ cs, c.isDigit = true)
    (hrest : EndsPart rest) :
    digits (cs ++ rest) = (cs.map fun c => c.toNat - '0'.toNat, rest) := by
  have hdigits : ∀ c ∈ cs, isDigit c = true := fun c hc => isDigit_of_isDigit (hcs c hc)
  have hstop : ∀ c ∈ rest.head?, isDigit c = false := by
    intro c hc
    rcases hrest c hc with rfl | rfl <;> rfl
  simp only [digits, List.span_eq_takeWhile_dropWhile, takeWhile_append_of_head hdigits hstop,
    dropWhile_append_of_head hdigits hstop]

/-- As long as it fits in a word, a significand takes every digit. -/
theorem foldl_addWhole (cs : List Char) (acc : Nat)
    (h : Nat.ofDigitChars 10 cs acc ≤ maxSignificand) :
    (cs.map fun c => c.toNat - '0'.toNat).foldl Scaled.addWhole ⟨acc, 0⟩ =
      ⟨Nat.ofDigitChars 10 cs acc, 0⟩ := by
  induction cs generalizing acc with
  | nil => rw [Nat.ofDigitChars_nil]; rfl
  | cons c cs ih =>
    rw [Nat.ofDigitChars_cons] at h ⊢
    have hle := Number.le_ofDigitChars (10 * acc + (c.toNat - '0'.toNat)) cs
    rw [List.map_cons, List.foldl_cons, Scaled.addWhole, if_pos ⟨rfl, Nat.le_trans hle h⟩]
    exact ih _ h

theorem toDigits_eq_zero_cons {n : Nat} {cs : List Char} (h : Nat.toDigits 10 n = '0' :: cs) :
    cs = [] := by
  induction n using Nat.strongRecOn generalizing cs with
  | ind n ih =>
    rcases Nat.lt_or_ge n 10 with hlt | hge
    · rw [Nat.toDigits_of_lt_base hlt] at h
      exact (List.cons.inj h).2.symm
    · rw [Nat.toDigits_of_base_le (by decide) hge] at h
      cases hq : Nat.toDigits 10 (n / 10) with
      | nil => exact absurd hq Nat.toDigits_ne_nil
      | cons d ds =>
        rw [hq, List.cons_append] at h
        obtain ⟨rfl, rfl⟩ := List.cons.inj h
        have hds := ih (n / 10) (by omega) hq
        have hvalue := Nat.ofDigitChars_ten_toDigits (n := n / 10)
        rw [hq, hds] at hvalue
        have hzero : Nat.ofDigitChars 10 ['0'] 0 = 0 := rfl
        omega

theorem map_toDigits_ne_zero_cons (n d : Nat) (ds : List Nat) :
    (Nat.toDigits 10 n).map (fun c => c.toNat - '0'.toNat) ≠ 0 :: d :: ds := by
  intro h
  obtain ⟨c, cs, hcs, hc, hmore⟩ := List.map_eq_cons_iff.mp h
  have hdigit : c.isDigit = true :=
    Nat.isDigit_of_mem_toDigits (by decide) (by decide) (hcs ▸ List.mem_cons_self)
  obtain ⟨hlow, _⟩ := Char.isDigit_iff_toNat.mp hdigit
  have hzero : c = '0' := Char.toNat_inj.mp (Nat.le_antisymm (Nat.sub_eq_zero_iff_le.mp hc) hlow)
  rw [hzero] at hcs
  rw [toDigits_eq_zero_cons hcs] at hmore
  cases hmore

/-- A number that fits in a word is read back from its digits. -/
theorem number_toDigits {n : Nat} (hn : n ≤ maxSignificand) {rest : List Char}
    (hrest : EndsPart rest) :
    number .strict false (Nat.toDigits 10 n ++ rest) = .ok (.whole (Int.ofNat n), rest) := by
  have hdigits : ∀ c ∈ Nat.toDigits 10 n, c.isDigit = true := fun c hc =>
    Nat.isDigit_of_mem_toDigits (by decide) (by decide) hc
  have hread := digits_append hdigits hrest
  have hvalue := foldl_addWhole (Nat.toDigits 10 n) 0
    (Nat.le_trans (Nat.le_of_eq Nat.ofDigitChars_ten_toDigits) hn)
  rw [Nat.ofDigitChars_ten_toDigits] at hvalue
  simp only [number, hread]
  split
  · rename_i hnil
    exact absurd (List.map_eq_nil_iff.mp (congrArg Prod.fst hnil)) Nat.toDigits_ne_nil
  · rename_i hzero
    exact absurd (congrArg Prod.fst hzero) (map_toDigits_ne_zero_cons n _ _)
  · rename_i ds tail _ _ heq
    obtain ⟨rfl, rfl⟩ := Prod.mk.inj heq
    rw [hvalue]
    split
    · rcases hrest '.' rfl with h | h <;> cases h
    · rcases hrest 'e' rfl with h | h <;> cases h
    · rcases hrest 'E' rfl with h | h <;> cases h
    · rfl

end ExplorerProxy.Json
