import ExplorerProxy.Proofs.Page.Links

/-!
# Pages made of links

A page that is written as links between fillers is read back as these links. A filler may
hold whatever it likes but the first part of a link, and may end in a piece of it: where a
filler meets the link behind it, the two have one slash in common at most, and the token
of a link that began in the filler would then go on with a slash.
-/

namespace ExplorerProxy.Page

set_option autoImplicit false

structure Row where
  token : String
  holder : String
  isToken : IsToken token.toList
  isHolder : IsHolder holder.toList

/-- A text without the first part of a link. -/
structure Filler where
  text : String
  free : ¬ "/token/".toList <:+: text.toList

def Row.text (r : Row) : String := "/token/" ++ r.token ++ "?a=" ++ r.holder ++ "'"

def Row.link (r : Row) : HolderLink := ⟨r.token.toList, r.holder.toList⟩

def rendered (first : Filler) : List (Row × Filler) → String
  | [] => first.text
  | (row, next) :: rows => first.text ++ row.text ++ rendered next rows

theorem Row.toList_text (r : Row) (rest : List Char) : r.text.toList ++ rest =
    linkStart ++ (r.token.toList ++ '?' :: 'a' :: '=' :: (r.holder.toList ++ '\'' :: rest)) := by
  rw [← pieces_eq]
  simp [Row.text, String.toList_append]

theorem Row.link?_text (r : Row) (rest : List Char) :
    link? (r.text.toList ++ rest) = some (r.link, rest) :=
  link?_eq_some.mpr ⟨r.isToken, r.isHolder, r.toList_text rest⟩

/-- What can stand behind a filler: nothing, or a link. -/
def EndsFiller (rest : List Char) : Prop := rest = [] ∨ ∃ named, rest = linkStart ++ named

/-- No link begins in a filler, not even one that ends behind it. -/
theorem link?_in_filler {filler front back rest : List Char} (hfree : ¬ linkStart <:+: filler)
    (hrest : EndsFiller rest) (h : filler = front ++ back) (hback : back ≠ []) :
    link? (back ++ rest) = none := by
  rw [Option.eq_none_iff_forall_ne_some]
  rintro ⟨l, rest'⟩ hlink
  obtain ⟨ht, _, hpage⟩ := link?_eq_some.mp hlink
  rcases List.append_eq_append_iff.mp hpage with ⟨piece, hstart, hbehind⟩ | ⟨more, rfl, _⟩
  · -- the first part of the link begins at `back` and goes on with `piece` behind the filler
    obtain ⟨c, back, rfl⟩ := List.exists_cons_of_ne_nil hback
    have hne : piece ≠ [] := by
      rintro rfl
      rw [List.append_nil] at hstart
      exact hfree ⟨front, [], by rw [h, hstart, List.append_nil]⟩
    obtain ⟨d, piece, rfl⟩ := List.exists_cons_of_ne_nil hne
    rcases hrest with rfl | ⟨named, rfl⟩
    · cases hbehind
    · rw [linkStart_append, List.cons_append] at hbehind
      obtain ⟨rfl, htoken⟩ := List.cons.inj hbehind
      have hname : '/' ∉ "token".toList := by decide
      have hsplit : "token".toList ++ '/' :: [] = back ++ '/' :: piece :=
        (List.cons.inj hstart).2
      obtain ⟨_, _, rfl⟩ := (List.append_cons_inj_of_notMem hname List.not_mem_nil).mp hsplit
      exact token_append_ne ht _ _ htoken.symm
  · exact hfree ⟨front, more, by rw [h, List.append_assoc]⟩

theorem endsFiller_rendered (row : Row) (rest : List Char) :
    EndsFiller (row.text.toList ++ rest) := Or.inr ⟨_, row.toList_text rest⟩

theorem filterMap_tails_filler (f : Filler) {rest : List Char} (hrest : EndsFiller rest) :
    (f.text.toList ++ rest).tails.filterMap linkHere? = rest.tails.filterMap linkHere? := by
  apply filterMap_tails_append
  intro xs ys hsplit hys
  rw [linkHere?, link?_in_filler f.free hrest hsplit hys]
  rfl

theorem links_rendered (first : Filler) (rows : List (Row × Filler)) :
    links (rendered first rows).toList = (rows.map Prod.fst).map Row.link := by
  rw [links_eq]
  induction rows generalizing first with
  | nil =>
    have hfiller := filterMap_tails_filler first (Or.inl rfl)
    rw [List.append_nil] at hfiller
    exact hfiller
  | cons row rows ih =>
    obtain ⟨row, next⟩ := row
    rw [rendered, String.toList_append, String.toList_append, List.append_assoc,
      filterMap_tails_filler first (endsFiller_rendered row _),
      filterMap_tails_of_link (row.link?_text _), ih next]
    rfl

/-- On a page of rows between fillers, the holders of a token are those of its rows, in
their order and with repetitions, whatever the fillers and the other rows are. -/
theorem holders_rendered (first : Filler) (rows : List (Row × Filler)) (token : String) :
    holders (rendered first rows) token =
      ((rows.map Prod.fst).filter (·.token = token)).map Row.holder := by
  have hholder : (fun l : HolderLink => String.ofList l.holder) ∘ Row.link = Row.holder :=
    funext fun row => String.ofList_toList
  rw [holders, links_rendered, List.filter_map, List.map_map, hholder]
  congr 1
  apply List.filter_congr
  intro row _
  rw [Bool.eq_iff_iff, decide_eq_true_iff, ← String.toList_inj]
  exact beq_iff_eq

/-- A filler that ends in a piece of a link hides no row. -/
example : holders "/token/token/0xa?a=0x0000000000000000000000000000000000000001'/token" "0xa" =
    ["0x0000000000000000000000000000000000000001"] := by decide +kernel

end ExplorerProxy.Page
