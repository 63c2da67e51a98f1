import ExplorerProxy.Proofs.Url.Hosts
import ExplorerProxy.Proofs.Url.Reading

/-!
# Authorities

The authority of an address ends at the first delimiter, and what is read of it does not
depend on the text after that. In the authority of a web address no character up to the
space is accepted at the end, whether it would stand in a host or in a port.
-/

namespace ExplorerProxy

set_option autoImplicit false

theorem mapM_eq_none {α β : Type} {f : α → Option β} {l : List α} {x : α} (hx : x ∈ l)
    (hf : f x = none) : l.mapM f = none := by
  induction l with
  | nil => cases hx
  | cons y l ih =>
    rw [List.mapM_cons]
    rcases List.mem_cons.mp hx with rfl | hx
    · rw [hf]
      rfl
    · rw [ih hx]
      cases f y <;> rfl

namespace Url

section Authority

variable (scheme : String)

def inAuthority (c : Char) : Bool := !endsAuthority (family scheme) c

def authority (cs : List Char) : List Char := cs.takeWhile (inAuthority scheme)

theorem authority_append_slash (cs more : List Char) :
    authority scheme (cs ++ '/' :: more) = authority scheme cs :=
  takeWhile_append_cons rfl _ _

variable [InternationalNames]

/-- Reads an authority; `more` says that something follows it. -/
def readAuthority (more : Bool) (cs : List Char) : Except UrlError Url :=
  match splitLastAt cs with
  | none => parseHostPort scheme false cs
  | some (user, rest) =>
    if user.isEmpty ∧ rest.isEmpty ∧ more then .error .emptyHost
    else parseHostPort scheme (!user.isEmpty && user != [':']) rest

theorem parseAuthority_eq (cs : List Char) :
    parseAuthority scheme cs =
      readAuthority scheme (decide ((authority scheme cs).length < cs.length))
        (authority scheme cs) := by
  simp only [parseAuthority, readAuthority, decide_eq_true_eq]
  rfl

/-- Nothing after a slash is looked at. -/
theorem parseAuthority_append_slash (cs more : List Char) :
    parseAuthority scheme (cs ++ '/' :: more) =
      readAuthority scheme true (authority scheme cs) := by
  have hle := (List.takeWhile_prefix (l := cs) (inAuthority scheme)).length_le
  have hlt : (authority scheme cs).length < (cs ++ '/' :: more).length := by
    rw [List.length_append, List.length_cons]
    exact Nat.lt_add_right_iff_pos.mpr (Nat.succ_pos _) |>.trans_le' hle
  rw [parseAuthority_eq, authority_append_slash, decide_eq_true hlt]

variable {scheme}

theorem parseHostPort_nil (h : family scheme = .web) (named : Bool) :
    parseHostPort scheme named [] = .error .emptyHost := by
  simp [parseHostPort, splitHost, h]

/-- There is always a host on the web, so that it makes no difference what follows. -/
theorem readAuthority_of_web (h : family scheme = .web) (more : Bool) (cs : List Char) :
    readAuthority scheme more cs = readAuthority scheme false cs := by
  unfold readAuthority
  split
  · rfl
  · rename_i user rest _
    split
    · rename_i hempty
      rw [List.isEmpty_iff.mp hempty.2.1, parseHostPort_nil h]
      simp
    · simp

end Authority

theorem splitLastAt_parts {cs user rest : List Char} (h : splitLastAt cs = some (user, rest)) :
    cs = user ++ '@' :: rest := by
  unfold splitLastAt at h
  split at h
  · rename_i hcontains
    obtain ⟨rfl, rfl⟩ := Prod.mk.inj (Option.some.inj h)
    have hmem : '@' ∈ cs.reverse := List.mem_reverse.mpr (List.contains_iff_mem.mp hcontains)
    cases hdrop : cs.reverse.dropWhile (· != '@') with
    | nil => exact absurd (List.dropWhile_eq_nil_iff.mp hdrop _ hmem) (by decide)
    | cons c tail =>
      have hc : c = '@' := by
        have hstop := List.head?_dropWhile_not (· != '@') cs.reverse
        rw [hdrop] at hstop
        simpa using hstop
      have hback := List.takeWhile_append_dropWhile (p := (· != '@')) (l := cs.reverse)
      rw [hdrop, hc] at hback
      have hcs := congrArg List.reverse hback
      rw [List.reverse_reverse, List.reverse_append, List.reverse_cons, List.append_assoc] at hcs
      exact hcs.symm
  · cases h

def insideAfter (inside : Bool) (c : Char) : Bool :=
  if c == '[' then true else if c == ']' then false else inside

theorem splitHost_cons (inside : Bool) (c : Char) (cs : List Char) :
    splitHost inside (c :: cs) =
      if c == ':' && !inside then ([], c :: cs)
      else (c :: (splitHost (insideAfter inside c) cs).1,
        (splitHost (insideAfter inside c) cs).2) := rfl

theorem splitHost_parts (inside : Bool) (cs : List Char) :
    (splitHost inside cs).1 ++ (splitHost inside cs).2 = cs := by
  induction cs generalizing inside with
  | nil => rfl
  | cons c cs ih =>
    rw [splitHost_cons]
    split
    · rfl
    · exact congrArg (c :: ·) (ih _)

section Reading

variable [InternationalNames]

def readHost (scheme : String) (cs : List Char) : Except UrlError Host :=
  if family scheme = .other then Host.parseOpaque cs else Host.parse cs

/-- What reading host and port comes to: only away from the web there is no host. -/
theorem parseHostPort_eq_ok {scheme : String} {named : Bool} {cs : List Char} {u : Url}
    (h : parseHostPort scheme named cs = .ok u) :
    u.scheme = scheme ∧
      (family scheme ≠ .web ∨
        (∃ host, readHost scheme (splitHost false cs).1 = .ok host ∧ u.host = some host) ∧
          ∀ colon digits, (splitHost false cs).2 = colon :: digits →
            ∃ port, parsePort scheme digits = .ok port) := by
  unfold parseHostPort at h
  generalize splitHost false cs = p at h ⊢
  obtain ⟨hostText, after⟩ := p
  simp only at h
  split at h
  · split at h
    · cases h
    · rename_i hempty
      cases h
      exact ⟨rfl, Or.inl fun hweb => hempty (Or.inl hweb)⟩
  · rw [← apply_ite fun host : Except UrlError Host => host >>= _, ← readHost] at h
    cases hhost : readHost scheme hostText with
    | error e =>
      rw [hhost] at h
      cases h
    | ok host =>
      rw [hhost] at h
      cases after with
      | nil =>
        cases h
        exact ⟨rfl, Or.inr ⟨⟨host, rfl, rfl⟩, fun _ _ hnil => by cases hnil⟩⟩
      | cons colon digits =>
        cases hport : parsePort scheme digits with
        | error e =>
          simp only [hport] at h
          cases h
        | ok port =>
          simp only [hport] at h
          cases h
          refine ⟨rfl, Or.inr ⟨⟨host, rfl, rfl⟩, ?_⟩⟩
          rintro _ _ ⟨rfl, rfl⟩
          exact ⟨port, hport⟩

theorem parseHostPort_eq_ok_of_web {scheme : String} (hweb : family scheme = .web) {named : Bool}
    {cs : List Char} {u : Url} (h : parseHostPort scheme named cs = .ok u) :
    (∃ host, Host.parse (splitHost false cs).1 = .ok host ∧ u.host = some host) ∧
      ∀ colon digits, (splitHost false cs).2 = colon :: digits →
        ∃ port, parsePort scheme digits = .ok port := by
  rcases (parseHostPort_eq_ok h).2 with hnot | ⟨hhost, hport⟩
  · exact absurd hweb hnot
  · rw [readHost, if_neg (by rw [hweb]; decide)] at hhost
    exact ⟨hhost, hport⟩

theorem readAuthority_eq_ok {scheme : String} {more : Bool} {cs : List Char} {u : Url}
    (h : readAuthority scheme more cs = .ok u) :
    u.scheme = scheme ∧
      (family scheme = .web →
        ∃ hostText host, Host.parse hostText = .ok host ∧ u.host = some host) := by
  have hread : ∀ named text, parseHostPort scheme named text = .ok u → u.scheme = scheme ∧
      (family scheme = .web →
        ∃ hostText host, Host.parse hostText = .ok host ∧ u.host = some host) :=
    fun _ _ hok => ⟨(parseHostPort_eq_ok hok).1,
      fun hweb => ⟨_, (parseHostPort_eq_ok_of_web hweb hok).1⟩⟩
  rw [readAuthority] at h
  split at h
  · exact hread _ _ h
  · split at h
    · cases h
    · exact hread _ _ h

theorem parseHostPort_of_plainOnly {scheme : String} {named : Bool} {cs : List Char} {u : Url}
    (h : @parseHostPort .plainOnly scheme named cs = .ok u) :
    parseHostPort scheme named cs = .ok u := by
  unfold parseHostPort at h ⊢
  generalize splitHost false cs = p at h ⊢
  obtain ⟨hostText, after⟩ := p
  simp only at h ⊢
  split at h
  · rename_i hempty
    rwa [if_pos hempty]
  · rename_i hempty
    rw [if_neg hempty]
    split at h
    · rename_i hother
      rwa [if_pos hother]
    · rename_i hother
      rw [if_neg hother]
      cases hhost : @Host.parse .plainOnly hostText with
      | error e =>
        rw [hhost] at h
        cases h
      | ok host =>
        rw [Host.parse_of_plainOnly hhost]
        rwa [hhost] at h

theorem parseAuthority_of_plainOnly {scheme : String} {cs : List Char} {u : Url}
    (h : @parseAuthority .plainOnly scheme cs = .ok u) : parseAuthority scheme cs = .ok u := by
  rw [@parseAuthority_eq scheme .plainOnly] at h
  rw [parseAuthority_eq]
  unfold readAuthority at h ⊢
  split at h
  · exact parseHostPort_of_plainOnly h
  · split at h
    · cases h
    · rename_i hempty
      rw [if_neg hempty]
      exact parseHostPort_of_plainOnly h

end Reading

theorem digit?_of_margin {c : Char} (hc : isMargin c = true) : Number.digit? c = none := by
  have hzero : ¬ '0' ≤ c := by
    intro h
    have hle : ('0' : Char).toNat ≤ c.toNat := h
    exact absurd (Nat.le_trans hle (toNat_le_of_margin hc)) (by decide)
  rw [Number.digit?, if_neg fun h => hzero h.1]

section Margin

variable {m : List Char} (hne : m ≠ []) (hm : ∀ c ∈ m, isMargin c = true)

include hm

theorem splitLastAt_append (cs : List Char) :
    splitLastAt (cs ++ m) = (splitLastAt cs).map fun p => (p.1, p.2 ++ m) := by
  have hat : ∀ c ∈ m, c ≠ '@' := fun c hc => isMargin_ne (hm c hc) (by decide)
  have hpass : ∀ c ∈ m.reverse, (c != '@') = true := fun c hc =>
    bne_iff_ne.mpr (hat c (List.mem_reverse.mp hc))
  have hcontains : (cs ++ m).contains '@' = cs.contains '@' := by
    rw [Bool.eq_iff_iff, List.contains_iff_mem, List.contains_iff_mem, List.mem_append]
    exact or_iff_left fun h => hat _ h rfl
  unfold splitLastAt
  rw [hcontains]
  split
  · simp only [List.reverse_append, List.dropWhile_append_of_pos hpass,
      List.takeWhile_append_of_pos hpass, List.reverse_reverse, Option.map_some]
  · rfl

theorem splitHost_of_margin (inside : Bool) : splitHost inside m = (m, []) := by
  induction m generalizing inside with
  | nil => rfl
  | cons c m ih =>
    have hcolon : (c == ':') = false := beq_eq_false_iff_ne.mpr
      (isMargin_ne (hm c List.mem_cons_self) (by decide))
    rw [splitHost_cons, hcolon, ih fun d hd => hm d (List.mem_cons_of_mem _ hd)]
    rfl

theorem splitHost_append (inside : Bool) (cs : List Char) :
    splitHost inside (cs ++ m) =
      match splitHost inside cs with
      | (host, []) => (host ++ m, [])
      | (host, colon :: digits) => (host, colon :: (digits ++ m)) := by
  induction cs generalizing inside with
  | nil => exact splitHost_of_margin hm inside
  | cons c cs ih =>
    rw [List.cons_append, splitHost_cons, splitHost_cons]
    split
    · rfl
    · rw [ih]
      generalize splitHost _ cs = p
      obtain ⟨host, after⟩ := p
      cases after <;> rfl

include hne

theorem parsePort_append (scheme : String) {digits : List Char} (hd : '\\' ∉ digits) :
    parsePort scheme (digits ++ m) = .error .port := by
  have hbackslash : ∀ c ∈ digits ++ m, (c != '\\') = true := by
    intro c hc
    rw [bne_iff_ne]
    rcases List.mem_append.mp hc with hc | hc
    · exact fun h => hd (h ▸ hc)
    · exact isMargin_ne (hm c hc) (by decide)
  have hmem := List.mem_append_right digits (List.head_mem hne)
  have hnone := mapM_eq_none hmem (digit?_of_margin (hm _ (List.head_mem hne)))
  rw [parsePort, List.takeWhile_eq_self_iff.mpr hbackslash, hnone]

variable [InternationalNames] [LawfulInternationalNames]

theorem parseHostPort_append {scheme : String} (hweb : family scheme = .web) (named : Bool)
    {cs : List Char} (hcs : '\\' ∉ cs) (u : Url) :
    parseHostPort scheme named (cs ++ m) ≠ .ok u := by
  intro h
  obtain ⟨⟨host, hhost, _⟩, hport⟩ := parseHostPort_eq_ok_of_web hweb h
  have hparts := splitHost_parts false cs
  rw [splitHost_append hm] at hhost hport
  generalize splitHost false cs = p at hhost hport hparts
  obtain ⟨hostText, after⟩ := p
  cases after with
  | nil => exact parse_host_append hne hm hostText host hhost
  | cons colon digits =>
    obtain ⟨port, hdigits⟩ := hport _ _ rfl
    have hbackslash : '\\' ∉ digits := fun hmem =>
      hcs (hparts ▸ List.mem_append_right _ (List.mem_cons_of_mem _ hmem))
    rw [parsePort_append hne hm scheme hbackslash] at hdigits
    cases hdigits

theorem readAuthority_append {scheme : String} (hweb : family scheme = .web) (more : Bool)
    {cs : List Char} (hcs : '\\' ∉ cs) (u : Url) : readAuthority scheme more (cs ++ m) ≠ .ok u := by
  rw [readAuthority_of_web hweb, readAuthority, splitLastAt_append hm]
  cases hsplit : splitLastAt cs with
  | none => exact parseHostPort_append hne hm hweb false hcs u
  | some p =>
    obtain ⟨user, rest⟩ := p
    have hrest : '\\' ∉ rest := by
      rw [splitLastAt_parts hsplit] at hcs
      exact fun hmem => hcs (List.mem_append_right _ (List.mem_cons_of_mem _ hmem))
    simp only [Option.map_some, Bool.false_eq_true, and_false, if_false]
    exact parseHostPort_append hne hm hweb _ hrest u

end Margin

end Url

end ExplorerProxy
