import ExplorerProxy.Page.Holders
import ExplorerProxy.Proofs.List.Stops
import Mathlib.Data.List.Infix

/-!
# Links at all positions

The search for links goes on behind a link that it has found. Nothing is lost by this:
a link has a slash only in its first part, so that no other link can begin inside it,
and the search finds what a test of every position of the page finds.
-/

namespace ExplorerProxy.Page

set_option autoImplicit false

def IsToken (token : List Char) : Prop :=
  token ≠ [] ∧ ∀ c ∈ token, c ∉ ['/', '?', '\'', '"'] ∧ Text.isBlank c = false

instance (token : List Char) : Decidable (IsToken token) := inferInstanceAs (Decidable (_ ∧ _))

/-- An address of forty digits in lower case. -/
def IsHolder (holder : List Char) : Prop :=
  holder.length = 42 ∧ holder.take 2 = ['0', 'x'] ∧ ∀ c ∈ holder.drop 2, isHolderDigit c = true

instance (holder : List Char) : Decidable (IsHolder holder) :=
  inferInstanceAs (Decidable (_ ∧ _ ∧ _))

/-- The holder of a link to a token, if a text begins with such a link. -/
def listed? (token cs : List Char) : Option (List Char) := do
  let rest ← after? ("/token/".toList ++ token ++ "?a=".toList) cs
  let holder := rest.take 42
  if IsHolder holder ∧ (rest.drop 42).head? = some '\'' then some holder else none

theorem listed?_eq_some {token cs holder : List Char} :
    listed? token cs = some holder ↔ IsHolder holder ∧
      ∃ rest, cs = "/token/".toList ++ token ++ "?a=".toList ++ holder ++ '\'' :: rest := by
  simp only [listed?, Option.bind_eq_bind, Option.bind_eq_some_iff, after?_eq_some]
  constructor
  · rintro ⟨rest, rfl, h⟩
    split at h
    · rename_i hlink
      obtain ⟨hholder, hquote⟩ := hlink
      obtain rfl := Option.some.inj h
      obtain ⟨tail, htail⟩ := List.head?_eq_some_iff.mp hquote
      refine ⟨hholder, tail, ?_⟩
      rw [List.append_assoc _ _ ('\'' :: tail), ← htail, List.take_append_drop]
    · cases h
  · rintro ⟨hholder, rest, rfl⟩
    refine ⟨holder ++ '\'' :: rest, List.append_assoc _ _ _, ?_⟩
    have hlen := hholder.1
    rw [List.take_left' hlen, List.drop_left' hlen, if_pos ⟨hholder, rfl⟩]

theorem inToken_iff {c : Char} :
    inToken c = true ↔ c ∉ ['/', '?', '\'', '"'] ∧ Text.isBlank c = false := by
  simp [inToken, and_assoc]

theorem inToken_of_mem {token : List Char} (h : IsToken token) {c : Char} (hc : c ∈ token) :
    inToken c = true :=
  inToken_iff.mpr (h.2 c hc)

theorem isHolder_iff {holder : List Char} :
    IsHolder holder ↔ ∃ digits : List Char, holder = '0' :: 'x' :: digits ∧ digits.length = 40 ∧
      ∀ c ∈ digits, isHolderDigit c = true := by
  constructor
  · rintro ⟨hlen, htake, hdigits⟩
    refine ⟨holder.drop 2, ?_, ?_, hdigits⟩
    · rw [← List.take_append_drop 2 holder, htake]
      rfl
    · rw [List.length_drop, hlen]
  · rintro ⟨digits, rfl, hlen, hdigits⟩
    exact ⟨by simp [hlen], rfl, hdigits⟩

theorem holder?_eq_some {cs holder rest : List Char} :
    holder? cs = some (holder, rest) ↔ IsHolder holder ∧ cs = holder ++ '\'' :: rest := by
  simp only [holder?, Option.bind_eq_bind, Option.bind_eq_some_iff, after?_eq_some, isHolder_iff]
  constructor
  · rintro ⟨digits, rfl, h⟩
    split at h
    · rename_i hdigits
      obtain ⟨tail, hquote, htail⟩ := Option.bind_eq_some_iff.mp h
      obtain ⟨rfl, rfl⟩ := Prod.mk.inj (Option.some.inj htail)
      refine ⟨⟨_, rfl, hdigits.1, List.all_eq_true.mp hdigits.2⟩, ?_⟩
      have hsplit := List.take_append_drop 40 digits
      rw [after?_eq_some.mp hquote] at hsplit
      exact congrArg (fun ds => '0' :: 'x' :: ds) hsplit.symm
    · cases h
  · rintro ⟨⟨digits, rfl, hlen, hdigits⟩, rfl⟩
    refine ⟨digits ++ '\'' :: rest, rfl, ?_⟩
    rw [List.take_left' hlen, List.drop_left' hlen, if_pos ⟨hlen, List.all_eq_true.mpr hdigits⟩]
    rfl

theorem link?_eq_some {cs rest : List Char} {l : HolderLink} :
    link? cs = some (l, rest) ↔ IsToken l.token ∧ IsHolder l.holder ∧
      cs = linkStart ++ (l.token ++ '?' :: 'a' :: '=' :: (l.holder ++ '\'' :: rest)) := by
  simp only [link?, Option.bind_eq_bind, Option.bind_eq_some_iff, after?_eq_some]
  constructor
  · rintro ⟨named, rfl, h⟩
    split at h
    · cases h
    · rename_i hne
      obtain ⟨query, hquery, h⟩ := Option.bind_eq_some_iff.mp h
      obtain ⟨⟨holder, tail⟩, hholder, h⟩ := Option.bind_eq_some_iff.mp h
      obtain ⟨rfl, rfl⟩ := Prod.mk.inj (Option.some.inj h)
      obtain ⟨hdigits, rfl⟩ := holder?_eq_some.mp hholder
      refine ⟨⟨by simpa using hne, fun c hc => ?_⟩, hdigits, ?_⟩
      · exact inToken_iff.mp (List.mem_takeWhile_imp hc)
      · have hsplit := List.takeWhile_append_dropWhile (p := inToken) (l := named)
        rw [after?_eq_some.mp hquery] at hsplit
        exact congrArg (linkStart ++ ·) hsplit.symm
  · rintro ⟨htoken, hholder, rfl⟩
    obtain ⟨token, holder⟩ := l
    have hkept : ∀ c ∈ token, inToken c = true := fun c hc => inToken_of_mem htoken hc
    have hstop : ∀ c ∈ some '?', inToken c = false := by
      rintro c ⟨⟩
      rfl
    have htake : (token ++ '?' :: 'a' :: '=' :: (holder ++ '\'' :: rest)).takeWhile inToken =
        token := by
      exact takeWhile_append_of_head hkept hstop
    have hdrop : (token ++ '?' :: 'a' :: '=' :: (holder ++ '\'' :: rest)).dropWhile inToken =
        '?' :: 'a' :: '=' :: (holder ++ '\'' :: rest) := by
      exact dropWhile_append_of_head hkept hstop
    refine ⟨_, rfl, ?_⟩
    rw [htake, hdrop, if_neg (by simpa using htoken.1)]
    refine Option.bind_eq_some_iff.mpr ⟨_, after?_eq_some.mpr rfl, ?_⟩
    exact Option.bind_eq_some_iff.mpr ⟨_, holder?_eq_some.mpr ⟨hholder, rfl⟩, rfl⟩

/-- What follows the first part of a link, up to its end. -/
def HolderLink.tail (l : HolderLink) : List Char :=
  l.token ++ '?' :: 'a' :: '=' :: (l.holder ++ ['\''])

theorem slash_notMem_tail {l : HolderLink} (ht : IsToken l.token) (hh : IsHolder l.holder) :
    '/' ∉ l.tail := by
  obtain ⟨digits, hdigits, _, hall⟩ := isHolder_iff.mp hh
  have htoken : '/' ∉ l.token := fun hmem => (ht.2 _ hmem).1 (by decide)
  have hholder : '/' ∉ digits := fun hmem => absurd (hall _ hmem) (by decide)
  simp [HolderLink.tail, hdigits, htoken, hholder]

theorem linkStart_append (cs : List Char) :
    linkStart ++ cs = '/' :: ("token".toList ++ '/' :: cs) := by
  have hstart : linkStart = '/' :: ("token".toList ++ ['/']) := by decide
  rw [hstart, List.cons_append, List.append_assoc]
  rfl

theorem token_append_ne {token : List Char} (h : IsToken token) (xs ys : List Char) :
    token ++ '?' :: xs ≠ "token".toList ++ '/' :: ys := by
  have hslash : '/' ∉ token := fun hmem => (h.2 _ hmem).1 (by decide)
  intro heq
  rcases List.append_eq_append_iff.mp heq with ⟨zs, hname, hrest⟩ | ⟨zs, rfl, hrest⟩
  · cases zs with
    | nil => exact absurd (List.cons.inj hrest).1 (by decide)
    | cons z zs =>
      obtain ⟨rfl, _⟩ := List.cons.inj hrest
      have hmem : '?' ∈ "token".toList := by
        rw [hname]
        exact List.mem_append_right _ List.mem_cons_self
      exact absurd hmem (by decide)
  · cases zs with
    | nil => exact absurd (List.cons.inj hrest).1 (by decide)
    | cons z zs =>
      obtain ⟨rfl, _⟩ := List.cons.inj hrest
      exact hslash (List.mem_append_right _ List.mem_cons_self)

/-- Behind its first character, and up to its end, no other link begins in a link. -/
theorem link?_inside {l : HolderLink} (ht : IsToken l.token) (hh : IsHolder l.holder)
    {front back : List Char} (hfront : front ≠ []) (hback : back ≠ [])
    (h : linkStart ++ l.tail = front ++ back) (rest : List Char) :
    link? (back ++ rest) = none := by
  rw [Option.eq_none_iff_forall_ne_some]
  rintro ⟨other, rest'⟩ hlink
  obtain ⟨_, _, hother⟩ := link?_eq_some.mp hlink
  obtain ⟨c, front, rfl⟩ := List.exists_cons_of_ne_nil hfront
  obtain ⟨d, back, rfl⟩ := List.exists_cons_of_ne_nil hback
  rw [linkStart_append] at h hother
  obtain ⟨rfl, hbehind⟩ := List.cons.inj hother
  -- the one slash behind the first character is the end of the first part
  have hname : '/' ∉ "token".toList := by decide
  have hsplit := (List.append_cons_inj_of_notMem hname (slash_notMem_tail ht hh)).mp
    (List.cons.inj h).2
  have hnamed : back ++ rest = l.token ++ '?' :: 'a' :: '=' :: (l.holder ++ '\'' :: rest) := by
    simp [← hsplit.2.2, HolderLink.tail]
  exact token_append_ne ht _ _ (hnamed.symm.trans hbehind)

theorem filterMap_tails_append {β : Type} (f : List Char → Option β) (front rest : List Char)
    (h : ∀ xs ys, front = xs ++ ys → ys ≠ [] → f (ys ++ rest) = none) :
    (front ++ rest).tails.filterMap f = rest.tails.filterMap f := by
  induction front with
  | nil => rfl
  | cons c front ih =>
    have hhere : f ((c :: front) ++ rest) = none := h [] _ rfl (List.cons_ne_nil _ _)
    rw [List.cons_append] at hhere
    rw [List.cons_append, List.tails_cons, List.filterMap_cons_none hhere]
    exact ih fun xs ys heq => h (c :: xs) ys (congrArg (c :: ·) heq)

def linkHere? (cs : List Char) : Option HolderLink := (link? cs).map Prod.fst

theorem filterMap_tails_of_link {page rest : List Char} {l : HolderLink}
    (h : link? page = some (l, rest)) :
    page.tails.filterMap linkHere? = l :: rest.tails.filterMap linkHere? := by
  obtain ⟨ht, hh, hpage⟩ := link?_eq_some.mp h
  have hall : page = (linkStart ++ l.tail) ++ rest := by
    rw [hpage]
    simp [HolderLink.tail]
  have hfirst : linkHere? page = some l := by rw [linkHere?, h]; rfl
  rw [linkStart_append, List.cons_append] at hall
  rw [hall] at hfirst ⊢
  rw [List.tails_cons, List.filterMap_cons_some hfirst]
  congr 1
  apply filterMap_tails_append
  intro xs ys hsplit hys
  have hinside : link? (ys ++ rest) = none := by
    refine link?_inside ht hh (List.cons_ne_nil '/' xs) hys ?_ rest
    rw [linkStart_append, hsplit]
    rfl
  rw [linkHere?, hinside]
  rfl

theorem linksFrom_eq (acc : List HolderLink) (page : List Char) :
    linksFrom acc page = acc.reverse ++ page.tails.filterMap linkHere? := by
  induction acc, page using linksFrom.induct with
  | case1 acc page l rest h hlt ih =>
    rw [linksFrom]
    split
    · rename_i l' rest' h'
      obtain ⟨rfl, rfl⟩ := Prod.mk.inj (Option.some.inj (h.symm.trans h'))
      rw [ih, filterMap_tails_of_link h, List.reverse_cons, List.append_assoc]
      rfl
    · rename_i h'
      cases h.symm.trans h'
  | case2 acc h =>
    have hnone : linkHere? [] = none := rfl
    rw [linksFrom]
    split
    · rename_i h'
      cases h.symm.trans h'
    · rw [List.tails, List.filterMap_cons_none hnone, List.filterMap_nil, List.append_nil]
  | case3 acc c rest h ih =>
    have hnone : linkHere? (c :: rest) = none := by rw [linkHere?, h]; rfl
    rw [linksFrom]
    split
    · rename_i h'
      cases h.symm.trans h'
    · rw [List.tails_cons, List.filterMap_cons_none hnone, ← ih]

theorem links_eq (page : List Char) : links page = page.tails.filterMap linkHere? :=
  linksFrom_eq [] page

theorem pieces_eq (token holder rest : List Char) :
    "/token/".toList ++ token ++ "?a=".toList ++ holder ++ '\'' :: rest =
      linkStart ++ (token ++ '?' :: 'a' :: '=' :: (holder ++ '\'' :: rest)) := by
  have hmark : "?a=".toList = ['?', 'a', '='] := by decide
  rw [hmark, List.append_assoc, List.append_assoc, List.append_assoc]
  rfl

theorem linkHere?_eq_some {cs : List Char} {l : HolderLink} :
    linkHere? cs = some l ↔ IsToken l.token ∧ listed? l.token cs = some l.holder := by
  simp only [linkHere?, Option.map_eq_some_iff, Prod.exists, link?_eq_some, listed?_eq_some,
    pieces_eq]
  constructor
  · rintro ⟨_, rest, ⟨ht, hh, hcs⟩, rfl⟩
    exact ⟨ht, hh, rest, hcs⟩
  · rintro ⟨ht, hh, rest, hcs⟩
    exact ⟨l, rest, ⟨ht, hh, hcs⟩, rfl⟩

theorem filter_linkHere? {token : List Char} (ht : IsToken token) (cs : List Char) :
    ((linkHere? cs).filter (·.token == token)).map HolderLink.holder = listed? token cs := by
  ext holder
  simp only [Option.map_eq_some_iff, Option.filter_eq_some_iff, linkHere?_eq_some, beq_iff_eq]
  constructor
  · rintro ⟨l, ⟨⟨_, hlisted⟩, rfl⟩, rfl⟩
    exact hlisted
  · intro hlisted
    exact ⟨⟨token, holder⟩, ⟨⟨ht, hlisted⟩, rfl⟩, rfl⟩

/-- The holders of a token that a page lists are those that are found by a test of every
position for a link to this token, taken literally; what cannot be a token has none. -/
theorem holders_eq_listed (page token : String) :
    (∀ cs holder, listed? token.toList cs = some holder ↔ IsHolder holder ∧ ∃ rest,
      cs = "/token/".toList ++ token.toList ++ "?a=".toList ++ holder ++ '\'' :: rest) ∧
    holders page token =
      if IsToken token.toList then
        (page.toList.tails.filterMap (listed? token.toList)).map String.ofList
      else [] := by
  refine ⟨fun _ _ => listed?_eq_some, ?_⟩
  split
  · rename_i ht
    have hfound : ((links page.toList).filter (·.token == token.toList)).map HolderLink.holder =
        page.toList.tails.filterMap (listed? token.toList) := by
      simp only [links_eq, List.filter_filterMap, List.map_filterMap, filter_linkHere? ht]
    rw [holders, ← hfound, List.map_map]
    rfl
  · rename_i ht
    have hnone : (links page.toList).filter (·.token == token.toList) = [] := by
      rw [List.filter_eq_nil_iff, links_eq]
      intro l hl heq
      obtain ⟨cs, _, hcs⟩ := List.mem_filterMap.mp hl
      exact ht (eq_of_beq heq ▸ (linkHere?_eq_some.mp hcs).1)
    rw [holders, hnone, List.map_nil]

end ExplorerProxy.Page
