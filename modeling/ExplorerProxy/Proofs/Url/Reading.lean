import ExplorerProxy.Proofs.List.Stops
import ExplorerProxy.Url.Basic

/-!
# The beginning of an address

What is read of a text that another one begins with, when a slash follows. Characters
around an address are passed over only where nothing else stands beside them, so that
those at the end of the first text are read once something follows it.
-/

namespace ExplorerProxy

set_option autoImplicit false

namespace Url

/-- What is read of a text when more follows it. -/
def opening (cs : List Char) : List Char := (cs.dropWhile isMargin).filter fun c => !isIgnored c

/-- What is read of a text when it follows another one. -/
def closing (cs : List Char) : List Char := (cs.rdropWhile isMargin).filter fun c => !isIgnored c

theorem significant_eq (cs : List Char) : significant cs = closing (cs.dropWhile isMargin) := rfl

theorem closing_append_cons {c : Char} (hc : isMargin c = false) (hkept : (!isIgnored c) = true)
    (cs more : List Char) :
    closing (cs ++ c :: more) = (cs.filter fun c => !isIgnored c) ++ c :: closing more := by
  rw [closing, rdropWhile_append_cons hc, List.filter_append,
    List.filter_cons_of_pos (p := fun c => !isIgnored c) hkept]
  rfl

theorem significant_append_slash (cs more : List Char) :
    significant (cs ++ '/' :: more) = opening cs ++ '/' :: closing more := by
  rw [significant_eq, dropWhile_append_cons (by decide),
    closing_append_cons (by decide) (by decide)]
  rfl

theorem isMargin_of_isIgnored {c : Char} (h : isIgnored c = true) : isMargin c = true := by
  simp only [isIgnored, Bool.or_eq_true, beq_iff_eq] at h
  rcases h with (rfl | rfl) | rfl <;> decide

theorem significant_of_concat (cs : List Char) {c : Char} (hc : isMargin c = false) :
    (((cs ++ [c]).dropWhile isMargin).rtakeWhile isMargin) = [] ∧
      (significant (cs ++ [c])).getLast? = some c := by
  have hkept : (!isIgnored c) = true := by
    rw [Bool.not_eq_true', Bool.eq_false_iff]
    exact fun h => Bool.false_ne_true (hc.symm.trans (isMargin_of_isIgnored h))
  have hdrop : (cs ++ [c]).dropWhile isMargin = cs.dropWhile isMargin ++ [c] :=
    dropWhile_append_cons hc cs []
  refine ⟨?_, ?_⟩
  · rw [hdrop, List.rtakeWhile_concat_neg _ _ _ (Bool.eq_false_iff.mp hc)]
  · rw [significant_eq, hdrop, closing_append_cons hc hkept]
    exact List.getLast?_concat

theorem closing_slashes (n : Nat) : closing (List.replicate n '/') = List.replicate n '/' := by
  rw [closing, List.rdropWhile_eq_self_iff.mpr]
  · exact List.filter_eq_self.mpr fun c hc => by rw [List.eq_of_mem_replicate hc]; decide
  · intro hne
    rw [List.eq_of_mem_replicate (List.getLast_mem hne)]
    decide

/-- A text with slashes at its end against the text before them: what is read of the one
begins what is read of the other when something follows. Between the two are the
characters that have been passed over at the end; if the last one was not, there are none. -/
theorem significant_append_slashes (cs : List Char) (n : Nat) :
    ∃ s m, significant (cs ++ List.replicate n '/') = s ++ List.replicate n '/' ∧
      opening cs = s ++ m ∧ (∀ c ∈ m, isMargin c = true) ∧
      ∀ c, (cs ++ List.replicate n '/').getLast? = some c → isMargin c = false →
        m = [] ∧ (n = 0 → s.getLast? = some c) := by
  cases n with
  | zero =>
    let back := (cs.dropWhile isMargin).rtakeWhile isMargin
    rw [List.replicate_zero, List.append_nil]
    refine ⟨significant cs, back.filter fun c => !isIgnored c, ?_, ?_, ?_, ?_⟩
    · rw [List.append_nil]
    · rw [significant_eq, closing, ← List.filter_append, List.rdropWhile_append_rtakeWhile]
      rfl
    · intro c hc
      exact List.mem_rtakeWhile_imp (List.mem_filter.mp hc).1
    · intro c hlast hc
      obtain ⟨init, rfl⟩ := List.getLast?_eq_some_iff.mp hlast
      obtain ⟨hback, hsame⟩ := significant_of_concat init hc
      refine ⟨?_, fun _ => hsame⟩
      simp only [back, hback, List.filter_nil]
  | succ n =>
    refine ⟨opening cs, [], ?_, (List.append_nil _).symm, fun c hc => ?_, fun c _ _ => ⟨rfl, ?_⟩⟩
    · rw [List.replicate_succ, significant_append_slash, closing_slashes]
    · cases hc
    · intro hn
      cases hn

section Scheme

variable {cs rest : List Char} {scheme : String}

theorem splitScheme?_eq_some_iff : splitScheme? cs = some (scheme, rest) ↔
    (cs.head?.map isLetter).getD false = true ∧ cs.dropWhile inScheme = ':' :: rest ∧
      scheme = String.ofList ((cs.takeWhile inScheme).map Char.toLower) := by
  unfold splitScheme?
  constructor
  · intro h
    split at h
    · rename_i hletter
      split at h
      · rename_i hdrop
        cases h
        exact ⟨hletter, hdrop, rfl⟩
      · cases h
    · cases h
  · rintro ⟨hletter, hdrop, rfl⟩
    rw [if_pos hletter, hdrop]
    rfl

theorem splitScheme?_append (h : splitScheme? cs = some (scheme, rest)) (more : List Char) :
    splitScheme? (cs ++ more) = some (scheme, rest ++ more) := by
  obtain ⟨hletter, hdrop, rfl⟩ := splitScheme?_eq_some_iff.mp h
  have hmem : ':' ∈ cs := (List.dropWhile_suffix inScheme).subset (hdrop ▸ List.mem_cons_self)
  have hstop : ∃ c ∈ cs, inScheme c = false := ⟨':', hmem, by decide⟩
  refine splitScheme?_eq_some_iff.mpr ⟨?_, ?_, ?_⟩
  · cases cs with
    | nil => cases hmem
    | cons c cs => exact hletter
  · rw [dropWhile_append_of_stop hstop, hdrop, List.cons_append]
  · rw [takeWhile_append_of_stop hstop]

theorem exists_append_of_splitScheme? (h : splitScheme? cs = some (scheme, rest)) :
    ∃ front, cs = front ++ rest := by
  obtain ⟨_, hdrop, _⟩ := splitScheme?_eq_some_iff.mp h
  refine ⟨cs.takeWhile inScheme ++ [':'], ?_⟩
  rw [List.append_assoc, List.singleton_append, ← hdrop, List.takeWhile_append_dropWhile]

theorem splitScheme?_of_append_slashes {n : Nat}
    (h : splitScheme? (cs ++ List.replicate n '/') = some (scheme, rest)) :
    ∃ q, splitScheme? cs = some (scheme, q) ∧ rest = q ++ List.replicate n '/' := by
  obtain ⟨hletter, hdrop, _⟩ := splitScheme?_eq_some_iff.mp h
  rw [List.dropWhile_append] at hdrop
  split at hdrop
  · -- the colon is none of the slashes
    have hcolon : ':' ∈ List.replicate n '/' :=
      (List.dropWhile_suffix inScheme).subset (hdrop ▸ List.mem_cons_self)
    exact absurd (List.eq_of_mem_replicate hcolon) (by decide)
  · rename_i hnonempty
    cases hcs : cs.dropWhile inScheme with
    | nil => exact absurd (by rw [hcs]; rfl) hnonempty
    | cons c q =>
      rw [hcs, List.cons_append] at hdrop
      obtain ⟨rfl, hrest⟩ := List.cons.inj hdrop
      have hletter' : (cs.head?.map isLetter).getD false = true := by
        cases cs with
        | nil => cases hcs
        | cons c cs => exact hletter
      have hsplit := splitScheme?_eq_some_iff.mpr ⟨hletter', hcs, rfl⟩
      obtain ⟨rfl, _⟩ :=
        Prod.mk.inj (Option.some.inj ((splitScheme?_append hsplit _).symm.trans h))
      exact ⟨q, hsplit, hrest.symm⟩

end Scheme

section Scheme

variable [InternationalNames]

/-- Reads an address after its scheme. -/
def afterScheme (scheme : String) (rest : List Char) : Except UrlError Url :=
  match family scheme with
  | .web => parseAuthority scheme (rest.dropWhile (isSlash .web))
  | .file => parseFile rest
  | .other =>
    match rest with
    | '/' :: '/' :: rest => parseAuthority scheme rest
    | _ => .ok ⟨scheme, none, none⟩

theorem parse_eq (s : String) :
    parse s = match splitScheme? (significant s.toList) with
      | none => .error .noScheme
      | some (scheme, rest) => afterScheme scheme rest := rfl

end Scheme

end Url

end ExplorerProxy
