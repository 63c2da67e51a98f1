import ExplorerProxy.Error
import ExplorerProxy.Json.Reader
import ExplorerProxy.Page.Scan

/-!
# The interface of a contract on a page

A page shows the published interface of a contract, its ABI, in a fixed block. The
block is closed on the line on which it is opened, and holds at least one
character. A page without such a block stands for a contract without published
interface, which is an empty list.

The search passes over what is left of a line on which no block ends;
`abiBlock?_eq` says that it finds the first block all the same.
-/

namespace ExplorerProxy.Page

set_option autoImplicit false

/-- What stands before the interface. -/
def blockStart : List Char :=
  "id='js-copytextarea2' style='height: 200px; max-height: 400px; margin-top: 5px;'>".toList

def blockEnd : List Char := "</pre>".toList

/-- The text up to the end of a block, if the block ends on this line; `acc` holds
the characters so far, the last first. -/
def untilBlockEnd (acc : List Char) : List Char → Option (List Char)
  | [] => none
  | c :: cs =>
    if (after? blockEnd (c :: cs)).isSome then some acc.reverse
    else if c = '\n' then none
    else untilBlockEnd (c :: acc) cs

def blockContent? : List Char → Option (List Char)
  | [] => none
  | c :: cs => if c = '\n' then none else untilBlockEnd [c] cs

def blockHere? (page : List Char) : Option (List Char) :=
  (after? blockStart page).bind blockContent?

def firstBlock? : List Char → Option (List Char)
  | [] => none
  | c :: cs =>
    match blockHere? (c :: cs) with
    | some content => some content
    | none => firstBlock? cs

/-- The content of the first block of a page; `unclosed` when no block ends on what is
left of this line, which is then passed over. -/
def firstBlockFrom? (unclosed : Bool) : List Char → Option (List Char)
  | [] => none
  | c :: cs =>
    if unclosed then firstBlockFrom? (c != '\n') cs
    else
      match after? blockStart (c :: cs) with
      | none => firstBlockFrom? false cs
      | some rest =>
        match blockContent? rest with
        | some content => some content
        | none => firstBlockFrom? true cs

def abiBlock? (page : String) : Option String :=
  (firstBlockFrom? false page.toList).map String.ofList

def abi (page address : String) : Except FetchError Json :=
  match abiBlock? page with
  | none => .ok (.array [])
  | some block =>
    match Json.read block with
    | .ok v => .ok v
    | .error cause => .error (.malformedAbi address cause)

theorem untilBlockEnd_append_eq_none {front : List Char} (h : '\n' ∉ front) {acc rest : List Char}
    (hn : untilBlockEnd acc (front ++ rest) = none) : ∃ acc, untilBlockEnd acc rest = none := by
  induction front generalizing acc with
  | nil => exact ⟨acc, hn⟩
  | cons c front ih =>
    simp only [List.mem_cons, not_or] at h
    rw [List.cons_append, untilBlockEnd] at hn
    split at hn
    · cases hn
    · rw [if_neg (Ne.symm h.1)] at hn
      exact ih h.2 hn

theorem untilBlockEnd_eq_none_iff {acc acc' cs : List Char} :
    untilBlockEnd acc cs = none ↔ untilBlockEnd acc' cs = none := by
  induction cs generalizing acc acc' with
  | nil => simp [untilBlockEnd]
  | cons c cs ih =>
    rw [untilBlockEnd, untilBlockEnd]
    split
    · simp
    · split
      · simp
      · exact ih

theorem blockContent?_eq_none {acc rest : List Char} (h : untilBlockEnd acc rest = none) :
    blockContent? rest = none := by
  cases rest with
  | nil => rfl
  | cons c cs =>
    rw [untilBlockEnd] at h
    rw [blockContent?]
    split at h
    · cases h
    · split
      · rfl
      · rename_i hc
        rw [if_neg hc] at h
        exact untilBlockEnd_eq_none_iff.1 h

/-- If the block that starts here is not closed, then none that starts later on the line is. -/
theorem blockHere?_eq_none {c : Char} {cs rest front back : List Char}
    (hs : after? blockStart (c :: cs) = some rest) (hn : blockContent? rest = none)
    (hc : cs = front ++ back) (hf : '\n' ∉ front) : blockHere? back = none := by
  rw [blockHere?]
  cases hb : after? blockStart back with
  | none => rfl
  | some rest' =>
    rw [after?_eq_some] at hs hb
    rw [hc, hb, ← List.cons_append, ← List.append_assoc] at hs
    have hl : '\n' ∉ blockStart := by decide
    rcases List.append_eq_append_iff.1 hs with ⟨x, hx, _⟩ | ⟨x, hx, hr⟩
    · have := congrArg List.length hx
      simp at this
      omega
    · cases x with
      | nil =>
        have := congrArg List.length hx
        simp at this
        omega
      | cons d x =>
        have hm : '\n' ∉ blockStart ++ d :: x := by
          rw [← hx]
          have hd : c ∈ blockStart := by
            cases hsb : blockStart with
            | nil => exact absurd hsb (by decide)
            | cons e es =>
              rw [hsb, List.cons_append, List.cons_append, List.cons.injEq] at hx
              simp [hx.1]
          simp only [List.cons_append, List.mem_cons, List.mem_append, not_or]
          exact ⟨fun h => hl (h ▸ hd), hf, hl⟩
        simp only [List.mem_append, List.mem_cons, not_or] at hm
        rw [hr, List.cons_append, blockContent?, if_neg (Ne.symm hm.2.1)] at hn
        obtain ⟨_, hn⟩ := untilBlockEnd_append_eq_none hm.2.2 hn
        exact blockContent?_eq_none hn

/-- Passing over unclosed lines loses no block. -/
theorem firstBlockFrom?_eq (unclosed : Bool) (cs : List Char)
    (h : unclosed = true → ∀ front back, cs = front ++ back → '\n' ∉ front →
      blockHere? back = none) :
    firstBlockFrom? unclosed cs = firstBlock? cs := by
  induction cs generalizing unclosed with
  | nil => rfl
  | cons c cs ih =>
    rw [firstBlockFrom?, firstBlock?]
    split
    · rename_i hu
      rw [h hu [] (c :: cs) rfl (by simp)]
      refine ih _ fun hc front back e hf => h hu (c :: front) back (by rw [e]; rfl) ?_
      simp only [bne_iff_ne, ne_eq] at hc
      simp [Ne.symm hc, hf]
    · rw [blockHere?]
      cases hs : after? blockStart (c :: cs) with
      | none => exact ih false (by simp)
      | some rest =>
        cases hn : blockContent? rest with
        | some content => simp [hn]
        | none =>
          simp only [Option.bind_some, hn]
          exact ih true fun _ _ _ e hf => blockHere?_eq_none hs hn e hf

theorem abiBlock?_eq (page : String) :
    abiBlock? page = (firstBlock? page.toList).map String.ofList := by
  rw [abiBlock?, firstBlockFrom?_eq false _ (by simp)]

end ExplorerProxy.Page
