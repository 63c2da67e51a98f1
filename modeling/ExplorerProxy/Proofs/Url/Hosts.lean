import ExplorerProxy.Proofs.Text.Percent
import ExplorerProxy.Url.Basic

/-!
# Reading hosts

A host that is read stands in brackets, or is a name in which no character is forbidden.
No character up to the space is accepted in it, as itself or as an escape. This holds
whatever names with other characters than ASCII are read, if they are read by the
standard.
-/

namespace ExplorerProxy

set_option autoImplicit false

/-- What the standard of such names says: no character in the result is forbidden in a
domain name, and a name with a control character or a space is not read. -/
class LawfulInternationalNames [InternationalNames] : Prop where
  allowed : ∀ bytes name, InternationalNames.ascii? bytes = some name →
    name.any Host.forbiddenInDomain = false
  unread : ∀ bytes b, b ∈ bytes → b ≤ 0x20 → InternationalNames.ascii? bytes = none

namespace Host

theorem allowed_of_plainName? {bytes : List UInt8} {name : List Char}
    (h : plainName? bytes = some name) : name.any forbiddenInDomain = false := by
  unfold plainName? at h
  simp only at h
  split at h
  · cases h
  · rename_i hgood
    cases h
    rw [Bool.or_eq_true, not_or] at hgood
    exact Bool.eq_false_iff.mpr hgood.1

theorem forbidden_of_low : ∀ b : UInt8, b ≤ 0x20 →
    forbiddenInDomain (Char.ofNat b.toNat).toLower = true := by
  have hall : ∀ n : Fin 33, forbiddenInDomain (Char.ofNat n).toLower = true := by decide
  exact fun b hb => hall ⟨b.toNat, Nat.lt_succ_of_le (UInt8.le_iff_toNat_le.mp hb)⟩

theorem plainName?_of_low {bytes : List UInt8} {b : UInt8} (hb : b ∈ bytes) (hlow : b ≤ 0x20) :
    plainName? bytes = none := by
  have hforbidden : (bytes.map fun b => (Char.ofNat b.toNat).toLower).any forbiddenInDomain :=
    List.any_eq_true.mpr ⟨_, List.mem_map.mpr ⟨b, hb, rfl⟩, forbidden_of_low b hlow⟩
  simp only [plainName?, hforbidden, Bool.true_or, if_true]

/-- What is read as a host outside brackets: its bytes, with the escapes decoded. -/
def bytesOf (cs : List Char) : List UInt8 := Text.percentDecode (Text.utf8Bytes (String.ofList cs))

section Names

variable [InternationalNames]

theorem allowed_of_name? [LawfulInternationalNames] {bytes : List UInt8} {name : List Char}
    (h : name? bytes = some name) : name.any forbiddenInDomain = false := by
  unfold name? at h
  split at h
  · exact LawfulInternationalNames.allowed _ _ h
  · exact allowed_of_plainName? h

theorem name?_of_low [LawfulInternationalNames] {bytes : List UInt8} {b : UInt8} (hb : b ∈ bytes)
    (hlow : b ≤ 0x20) : name? bytes = none := by
  unfold name?
  split
  · exact LawfulInternationalNames.unread _ b hb hlow
  · exact plainName?_of_low hb hlow

theorem parse_eq_ok {cs : List Char} {host : Host} (h : parse cs = .ok host) :
    (∃ rest, cs = '[' :: rest ∧ parseBracketed rest = .ok host) ∨
      ∃ name, name? (bytesOf cs) = some name ∧
        ((∃ ip, host = .ipv4 ip) ∨ host = .domain (String.ofList name)) := by
  unfold parse at h
  split at h
  · exact Or.inl ⟨_, rfl, h⟩
  · right
    split at h
    · cases h
    rename_i name hname
    refine ⟨name, hname, ?_⟩
    split at h
    · cases h
    split at h
    · cases hip : parseIpv4 name with
      | error e =>
        rw [hip] at h
        cases h
      | ok ip =>
        rw [hip] at h
        cases h
        exact Or.inl ⟨ip, rfl⟩
    · cases h
      exact Or.inr rfl

theorem parse_of_plainOnly {cs : List Char} {host : Host}
    (h : @parse .plainOnly cs = .ok host) : parse cs = .ok host := by
  rcases @parse_eq_ok .plainOnly _ _ h with ⟨rest, rfl, hbracketed⟩ | ⟨name, hname, _⟩
  · exact hbracketed
  · have hplain : (bytesOf cs).any (0x80 ≤ ·) = false := by
      rw [Bool.eq_false_iff]
      intro hother
      unfold name? at hname
      rw [if_pos hother] at hname
      cases hname
    have hsame : name? (bytesOf cs) = @name? .plainOnly (bytesOf cs) := by
      simp only [name?, hplain, Bool.false_eq_true, if_false]
    unfold bytesOf at hsame
    simp only [parse, hsame]
    exact h

end Names

end Host

namespace Url

theorem toNat_le_of_margin {c : Char} (hc : isMargin c = true) : c.toNat ≤ 0x20 :=
  of_decide_eq_true hc

theorem isMargin_ne {c d : Char} (hc : isMargin c = true) (hd : isMargin d = false) : c ≠ d := by
  rintro rfl
  exact Bool.false_ne_true (hd.symm.trans hc)

theorem low_of_margin {c : Char} (hc : isMargin c = true) : c.val.toUInt8 ≤ 0x20 := by
  have hle : c.val.toNat ≤ 0x20 := toNat_le_of_margin hc
  rw [UInt8.le_iff_toNat_le, UInt32.toNat_toUInt8, Nat.mod_eq_of_lt (by omega)]
  exact hle

section Margin

variable {m : List Char} (hne : m ≠ []) (hm : ∀ c ∈ m, isMargin c = true)
include hne hm

theorem parseBracketed_append (cs : List Char) (host : Host) :
    Host.parseBracketed (cs ++ m) ≠ .ok host := by
  have hlast : (cs ++ m).getLast? = some (m.getLast hne) := by
    rw [List.getLast?_append, List.getLast?_eq_some_getLast hne, Option.some_or]
  have hclose : m.getLast hne ≠ ']' := isMargin_ne (hm _ (List.getLast_mem hne)) (by decide)
  unfold Host.parseBracketed
  rw [hlast]
  split
  · rename_i heq
    exact absurd (Option.some.inj heq) hclose
  · nofun

/-- A host is not read with such a character at its end. -/
theorem parse_host_append [InternationalNames] [LawfulInternationalNames] (cs : List Char)
    (host : Host) : Host.parse (cs ++ m) ≠ .ok host := by
  intro h
  have hmargin : isMargin (m.head hne) = true := hm _ (List.head_mem hne)
  rcases Host.parse_eq_ok h with ⟨rest, hopen, hbracketed⟩ | ⟨name, hname, _⟩
  · cases cs with
    | nil =>
      have hhead : m.head hne = '[' := by
        subst hopen
        rfl
      exact isMargin_ne hmargin (by decide) hhead
    | cons c cs =>
      obtain ⟨_, rfl⟩ := List.cons.inj hopen
      exact parseBracketed_append hne hm cs host hbracketed
  · -- its byte is still there when the escapes are decoded
    have hlow := low_of_margin hmargin
    have hsmall : (m.head hne).toNat < 0x80 :=
      Nat.lt_of_le_of_lt (toNat_le_of_margin hmargin) (by decide)
    have hmem := Text.mem_utf8Bytes_of_small (List.mem_append_right cs (List.head_mem hne)) hsmall
    have hdecoded : (m.head hne).val.toUInt8 ∈ Host.bytesOf (cs ++ m) :=
      Text.mem_percentDecodeFrom (Text.isPlain_of_low hlow) [] _ (Or.inr hmem)
    rw [Host.name?_of_low hdecoded hlow] at hname
    cases hname

end Margin

end Url

end ExplorerProxy
