import ExplorerProxy.Page.Scan
import ExplorerProxy.Text.Blank

/-!
# Token holders on a page

A page lists the holders of a token by links of the form
`/token/<token>?a=<holder>'`, in which the holder is an address of forty digits in
lower case. Links are searched from left to right and do not overlap; those of
other tokens are passed over.
-/

namespace ExplorerProxy.Page

set_option autoImplicit false

structure HolderLink where
  token : List Char
  holder : List Char
  deriving DecidableEq, Repr

def inToken (c : Char) : Bool :=
  !(c == '/' || c == '?' || c == '\'' || c == '"' || Text.isBlank c)

def isHolderDigit (c : Char) : Bool := ('0' ≤ c && c ≤ '9') || ('a' ≤ c && c ≤ 'f')

def linkStart : List Char := "/token/".toList

def holder? (cs : List Char) : Option (List Char × List Char) := do
  let digits ← after? ['0', 'x'] cs
  let holder := digits.take 40
  if holder.length = 40 ∧ holder.all isHolderDigit then
    let rest ← after? ['\''] (digits.drop 40)
    return ('0' :: 'x' :: holder, rest)
  else none

def link? (cs : List Char) : Option (HolderLink × List Char) := do
  let named ← after? linkStart cs
  let token := named.takeWhile inToken
  if token.isEmpty then none
  else
    let query ← after? ['?', 'a', '='] (named.dropWhile inToken)
    let (holder, rest) ← holder? query
    return (⟨token, holder⟩, rest)

theorem after?_length {fixed page rest : List Char} (h : after? fixed page = some rest) :
    rest.length + fixed.length = page.length := by
  simp [after?_eq_some.1 h, Nat.add_comm]

theorem holder?_length {cs holder rest : List Char} (h : holder? cs = some (holder, rest)) :
    rest.length < cs.length := by
  simp only [holder?, Option.bind_eq_bind, Option.bind_eq_some_iff] at h
  obtain ⟨digits, hd, h⟩ := h
  have h1 := after?_length hd
  split at h
  · obtain ⟨r, hr, h⟩ := Option.bind_eq_some_iff.1 h
    have h2 := after?_length hr
    simp only [Option.pure_def, Option.some.injEq, Prod.mk.injEq] at h
    obtain ⟨_, rfl⟩ := h
    simp only [List.length_drop, List.length_cons, List.length_nil] at h1 h2
    omega
  · simp at h

theorem link?_length {cs rest : List Char} {l : HolderLink} (h : link? cs = some (l, rest)) :
    rest.length < cs.length := by
  simp only [link?, Option.bind_eq_bind, Option.bind_eq_some_iff] at h
  obtain ⟨named, hn, h⟩ := h
  have h1 := after?_length hn
  split at h
  · simp at h
  · obtain ⟨query, hq, h⟩ := Option.bind_eq_some_iff.1 h
    have h2 := after?_length hq
    obtain ⟨⟨holder, r⟩, hr, h⟩ := Option.bind_eq_some_iff.1 h
    have h3 := holder?_length hr
    have h4 := (List.dropWhile_sublist (l := named) inToken).length_le
    simp only [Option.pure_def, Option.some.injEq, Prod.mk.injEq] at h
    obtain ⟨_, rfl⟩ := h
    omega

/-- The links of a page from left to right; `acc` holds those already found, the
last first. -/
def linksFrom (acc : List HolderLink) (page : List Char) : List HolderLink :=
  match h : link? page with
  | some (l, rest) =>
    have := link?_length h
    linksFrom (l :: acc) rest
  | none =>
    match page with
    | [] => acc.reverse
    | _ :: rest => linksFrom acc rest
termination_by page.length

def links (page : List Char) : List HolderLink := linksFrom [] page

/-- The holders of a token that a page lists, in page order and as often as they
are listed. -/
def holders (page token : String) : List String :=
  ((links page.toList).filter (·.token == token.toList)).map fun l => String.ofList l.holder

end ExplorerProxy.Page
