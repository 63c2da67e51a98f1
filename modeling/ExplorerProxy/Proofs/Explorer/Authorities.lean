import ExplorerProxy.Explorer.Headers
import ExplorerProxy.Proofs.Url.Hosts

/-!
# Hosts in headers

Whatever host an address on the web has, its text can stand in a header: numbers,
brackets and the letters of domain names can.
-/

namespace ExplorerProxy

set_option autoImplicit false

open Explorer

/-- All characters of a text can stand in a header. -/
def FitsHeader (cs : List Char) : Prop := ∀ c ∈ cs, inHeader c = true

instance (cs : List Char) : Decidable (FitsHeader cs) :=
  decidable_of_iff (cs.all inHeader = true) List.all_eq_true

section Fits

variable {xs ys : List Char}

theorem fitsHeader_append (hx : FitsHeader xs) (hy : FitsHeader ys) : FitsHeader (xs ++ ys) :=
  fun c hc => (List.mem_append.mp hc).elim (hx c) (hy c)

theorem fitsHeader_intercalate (hx : FitsHeader xs) (l : List (List Char))
    (hl : ∀ ys ∈ l, FitsHeader ys) : FitsHeader (xs.intercalate l) := by
  match l with
  | [] => exact fun _ hc => absurd hc List.not_mem_nil
  | [ys] =>
    have hone : xs.intercalate [ys] = ys := by simp [List.intercalate]
    rw [hone]
    exact hl ys List.mem_cons_self
  | ys :: zs :: l =>
    have hmore : xs.intercalate (ys :: zs :: l) = ys ++ (xs ++ xs.intercalate (zs :: l)) := by
      simp [List.intercalate]
    rw [hmore]
    refine fitsHeader_append (hl ys List.mem_cons_self) (fitsHeader_append hx ?_)
    exact fitsHeader_intercalate hx (zs :: l) fun us hus => hl us (List.mem_cons_of_mem _ hus)

theorem inHeader_digitChar (d : Nat) : inHeader (Nat.digitChar d) = true := by
  have hdigit : ∀ d : Fin 16, inHeader (Nat.digitChar d) = true := by decide
  by_cases hd : d < 16
  · exact hdigit ⟨d, hd⟩
  · obtain ⟨k, rfl⟩ := Nat.exists_eq_add_of_le' (Nat.le_of_not_lt hd)
    rfl

theorem fitsHeader_toDigitsCore (base fuel n : Nat) {ds : List Char} (h : FitsHeader ds) :
    FitsHeader (Nat.toDigitsCore base fuel n ds) := by
  have hnext : FitsHeader (Nat.digitChar (n % base) :: ds) := fun c hc =>
    (List.mem_cons.mp hc).elim (fun heq => heq ▸ inHeader_digitChar _) (h c)
  induction fuel generalizing n ds with
  | zero => exact h
  | succ fuel ih =>
    rw [Nat.toDigitsCore]
    split
    · exact hnext
    · exact ih (n / base) hnext fun c hc =>
        (List.mem_cons.mp hc).elim (fun heq => heq ▸ inHeader_digitChar _) (hnext c)

theorem fitsHeader_toDigits (base n : Nat) : FitsHeader (Nat.toDigits base n) :=
  fitsHeader_toDigitsCore base (n + 1) n fun _ hc => absurd hc List.not_mem_nil

theorem fitsHeader_toString (n : UInt8) : FitsHeader (toString n).toList := by
  change FitsHeader (Nat.repr n.toNat).toList
  rw [Nat.toList_repr]
  exact fitsHeader_toDigits 10 n.toNat

end Fits

theorem Ipv4.fitsHeader_text (ip : Ipv4) : FitsHeader ip.text.toList := by
  have hpoint : FitsHeader ".".toList := by decide
  unfold Ipv4.text
  simp only [String.toList_append]
  exact fitsHeader_append (fitsHeader_append (fitsHeader_append (fitsHeader_append
    (fitsHeader_append (fitsHeader_append (fitsHeader_toString _) hpoint) (fitsHeader_toString _))
    hpoint) (fitsHeader_toString _)) hpoint) (fitsHeader_toString _)

theorem Ipv6.fitsHeader_joined (l : List UInt16) : FitsHeader (joined l).toList := by
  rw [joined, String.toList_intercalate]
  apply fitsHeader_intercalate (by decide)
  intro ys hys
  rw [List.map_map] at hys
  obtain ⟨g, _, rfl⟩ := List.mem_map.mp hys
  rw [Function.comp_apply, String.toList_ofList]
  exact fitsHeader_toDigits 16 g.toNat

theorem Ipv6.fitsHeader_text (ip : Ipv6) : FitsHeader ip.text.toList := by
  unfold Ipv6.text
  simp only
  split
  · rw [String.toList_append, String.toList_append]
    exact fitsHeader_append (fitsHeader_append (fitsHeader_joined _) (by decide))
      (fitsHeader_joined _)
  · exact fitsHeader_joined _

namespace Host

theorem inHeader_of_allowed {c : Char} (h : forbiddenInDomain c = false) : inHeader c = true := by
  simp only [forbiddenInDomain, Bool.or_eq_false_iff, decide_eq_false_iff_not, beq_eq_false_iff_ne]
    at h
  obtain ⟨⟨hspace, hdelete⟩, _⟩ := h
  simp only [inHeader, Bool.or_eq_true, Bool.and_eq_true, decide_eq_true_eq, bne_iff_ne]
  exact Or.inr ⟨by omega, hdelete⟩

theorem eq_ipv6_of_parseBracketed {cs : List Char} {host : Host}
    (h : parseBracketed cs = .ok host) : ∃ ip, host = .ipv6 ip := by
  unfold parseBracketed at h
  split at h
  · split at h
    · cases h
      exact ⟨_, rfl⟩
    · cases h
  · cases h

/-- The text of a host that was read can stand in a header. -/
theorem fitsHeader_text [InternationalNames] [LawfulInternationalNames] {cs : List Char}
    {host : Host} (h : parse cs = .ok host) : FitsHeader host.text.toList := by
  rcases parse_eq_ok h with ⟨rest, _, hbracketed⟩ | ⟨name, hname, ⟨ip, rfl⟩ | rfl⟩
  · obtain ⟨ip, rfl⟩ := eq_ipv6_of_parseBracketed hbracketed
    unfold text
    simp only [String.toList_append]
    exact fitsHeader_append (fitsHeader_append (by decide) ip.fitsHeader_text) (by decide)
  · exact ip.fitsHeader_text
  · rw [text, String.toList_ofList]
    intro c hc
    have hallowed := List.any_eq_false.mp (allowed_of_name? hname) c hc
    exact inHeader_of_allowed (Bool.eq_false_iff.mpr hallowed)

end Host

end ExplorerProxy
