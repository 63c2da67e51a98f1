import ExplorerProxy.Proofs.Page.Blocks

/-!
# Published interfaces that are passed over

A page publishes an interface when an end of block follows the start of one. The first
start and the next end behind it enclose what is published. The search reads it if it is
not empty and stands on one line. It passes over a line on which no block is closed, so that
an interface with line breaks is not seen: the page is answered as its next lines are, and a
page with nothing else as one without interface.
-/

namespace ExplorerProxy.Page

set_option autoImplicit false

/-- What a page publishes begins behind the first start of a block, at a position of the
page, and has a length: it goes on to the next end of block. -/
structure Published (page : List Char) (p n : Nat) : Prop where
  start : IsLeast {p | StartsAt page p} p
  stop : IsLeast {n | EndsAt (behind page p) n} n

instance (page : List Char) (p : Nat) : Decidable (StartsAt page p) :=
  inferInstanceAs (Decidable (blockStart <+: page.drop p))

instance (text : List Char) (n : Nat) : Decidable (EndsAt text n) :=
  inferInstanceAs (Decidable (blockEnd <+: text.drop n))

def nextLine (text : List Char) : List Char := (text.dropWhile (· != '\n')).drop 1

theorem exists_published_iff {page : List Char} :
    (∃ p n, Published page p n) ↔ ∃ p n, StartsAt page p ∧ EndsAt (behind page p) n := by
  constructor
  · rintro ⟨p, n, h⟩
    exact ⟨p, n, h.start.1, h.stop.1⟩
  · rintro ⟨q, m, hstart, hend⟩
    obtain ⟨p, hp⟩ := exists_isLeast (P := StartsAt page) ⟨q, hstart⟩
    have hle : p ≤ q := hp.2 hstart
    -- an end behind a later start is behind the first one too
    have hbehind : EndsAt (behind page p) (q - p + m) := by
      have hpos : p + blockStart.length + (q - p + m) = q + blockStart.length + m := by omega
      rw [EndsAt, behind, List.drop_drop, hpos, ← List.drop_drop]
      exact hend
    obtain ⟨n, hn⟩ := exists_isLeast (P := EndsAt (behind page p)) ⟨_, hbehind⟩
    exact ⟨p, n, hp, hn⟩

theorem not_closedAt_of_not_published {page : List Char} (h : ¬ ∃ p n, Published page p n)
    (p : Nat) : ¬ ClosedAt page p := by
  rintro ⟨hstart, n, _, hend, _⟩
  exact h (exists_published_iff.mpr ⟨p, n, hstart, hend⟩)

theorem nextLine_append {front : List Char} (h : '\n' ∉ front) (text : List Char) :
    nextLine (front ++ text) = nextLine text := by
  have hpass : ∀ c ∈ front, (c != '\n') = true := by
    intro c hc
    rw [bne_iff_ne]
    rintro rfl
    exact h hc
  rw [nextLine, List.dropWhile_append_of_pos hpass, nextLine]

theorem firstBlockFrom?_true (text : List Char) :
    firstBlockFrom? true text = firstBlockFrom? false (nextLine text) := by
  induction text with
  | nil => rfl
  | cons c text ih =>
    rw [firstBlockFrom?, if_pos rfl]
    by_cases hline : c = '\n'
    · subst hline
      rfl
    · have hpass : (c != '\n') = true := bne_iff_ne.mpr hline
      have hfront : '\n' ∉ [c] := mt List.mem_singleton.mp (Ne.symm hline)
      rw [hpass, ih, ← nextLine_append hfront text, List.singleton_append]

theorem firstBlockFrom?_of_unclosed {page : List Char} {p : Nat}
    (hp : IsLeast {p | StartsAt page p} p) (hopen : ¬ ClosedOnLine (behind page p)) :
    firstBlockFrom? false page = firstBlockFrom? false (nextLine (behind page p)) := by
  induction page generalizing p with
  | nil => exact absurd hp.1 (not_startsAt_nil p)
  | cons c page ih =>
    rw [firstBlockFrom?, if_neg Bool.false_ne_true]
    by_cases hhere : StartsAt (c :: page) 0
    · obtain rfl := (isLeast_zero (P := StartsAt (c :: page)) hhere).mp hp
      obtain ⟨rest, hrest⟩ := hhere
      rw [List.drop_zero] at hrest
      have hbehind : behind (c :: page) 0 = rest := by
        rw [behind, Nat.zero_add, ← hrest, List.drop_left]
      have hnone : blockContent? rest = none :=
        Option.not_isSome_iff_eq_none.mp (mt isSome_blockContent?_iff.mp (hbehind ▸ hopen))
      have hline : '\n' ∉ blockStart.tail := by decide
      have hpage : page = blockStart.tail ++ rest := congrArg List.tail hrest.symm
      simp only [after?_eq_some.mpr hrest.symm, hnone]
      rw [firstBlockFrom?_true, hbehind, hpage, nextLine_append hline]
    · have hnone : after? blockStart (c :: page) = none :=
        Option.not_isSome_iff_eq_none.mp (mt isSome_after?_iff.mp hhere)
      cases p with
      | zero => exact absurd hp.1 hhere
      | succ p =>
        have hlater : behind (c :: page) (p + 1) = behind page p := by
          rw [behind, Nat.add_right_comm, List.drop_succ_cons, behind]
        simp only [hnone]
        rw [hlater] at hopen ⊢
        exact ih ((isLeast_succ hhere).mp hp) hopen

theorem abi_of_unclosed {page address : String} {p : Nat}
    (hp : IsLeast {p | StartsAt page.toList p} p) (hopen : ¬ ClosedOnLine (behind page.toList p)) :
    abi page address = abi (String.ofList (nextLine (behind page.toList p))) address := by
  have hblock : abiBlock? page = abiBlock? (String.ofList (nextLine (behind page.toList p))) := by
    rw [abiBlock?, abiBlock?, firstBlockFrom?_of_unclosed hp hopen, String.toList_ofList]
  rw [abi, abi, hblock]

section
variable {page : List Char} {p n : Nat} (h : Published page p n)
include h

theorem Published.take_eq_nil_iff : (behind page p).take n = [] ↔ n = 0 := by
  rw [List.take_eq_nil_iff]
  constructor
  · rintro (hzero | hnil)
    · exact hzero
    · exact absurd (hnil ▸ h.stop.1) (not_endsAt_nil n)
  · exact Or.inl

theorem Published.first_closed (hn : n ≠ 0) (hline : '\n' ∉ (behind page p).take n) :
    IsLeast {p | ClosedAt page p} p ∧ IsLeast {n | 1 ≤ n ∧ EndsAt (behind page p) n} n := by
  have hpos : 1 ≤ n := Nat.one_le_iff_ne_zero.mpr hn
  constructor
  · exact ⟨⟨h.start.1, n, hpos, h.stop.1, hline⟩, fun _ hq => h.start.2 hq.1⟩
  · exact ⟨⟨hpos, h.stop.1⟩, fun _ hm => h.stop.2 hm.2⟩

theorem Published.not_closedOnLine (hline : '\n' ∈ (behind page p).take n) :
    ¬ ClosedOnLine (behind page p) := by
  rintro ⟨m, _, hend, hnot⟩
  apply hnot
  exact List.take_subset_take_left _ (h.stop.2 hend) hline

end

/-- No JSON text begins as an end of block does. -/
theorem interface_of_angle (address : String) (cs : List Char) :
    interface address ('<' :: cs) = .error (.malformedAbi address .malformed) := by
  have hread : Json.read (String.ofList ('<' :: cs)) = .error .malformed := by
    rw [Json.read, Json.readWithin, String.toList_ofList]
    rfl
  rw [interface, hread]
  rfl

/-- An empty block runs on to a later end on its line, and what it then holds is no JSON. -/
theorem Published.abi_of_empty {page address : String} {p : Nat}
    (h : Published page.toList p 0) (hclosed : ClosedOnLine (behind page.toList p)) :
    abi page address = .error (.malformedAbi address .malformed) := by
  have hfirst : IsLeast {p | ClosedAt page.toList p} p :=
    ⟨⟨h.start.1, hclosed⟩, fun _ hq => h.start.2 hq.1⟩
  obtain ⟨m, hpos, hend, _⟩ := hclosed
  obtain ⟨n, hn⟩ := exists_isLeast (P := fun n => 1 ≤ n ∧ EndsAt (behind page.toList p) n)
    ⟨m, hpos, hend⟩
  rw [abi_of_block (abiBlock?_eq_some.mpr ⟨p, hfirst, n, hn, rfl⟩)]
  obtain ⟨rest, hrest⟩ := h.stop.1
  rw [List.drop_zero] at hrest
  cases n with
  | zero => exact absurd hn.1.1 (by decide)
  | succ n =>
    rw [← hrest]
    exact interface_of_angle address _

def publishing (content rest : List Char) : String :=
  String.ofList (blockStart ++ (content ++ (blockEnd ++ rest)))

theorem behind_publishing (content rest : List Char) :
    behind (publishing content rest).toList 0 = content ++ (blockEnd ++ rest) := by
  rw [publishing, String.toList_ofList, behind, Nat.zero_add, List.drop_left]

theorem take_publishing (content rest : List Char) :
    (behind (publishing content rest).toList 0).take content.length = content := by
  rw [behind_publishing, List.take_left]

theorem published_publishing (content rest : List Char) (h : '<' ∉ content) :
    Published (publishing content rest).toList 0 content.length := by
  have hstart : StartsAt (publishing content rest).toList 0 := by
    rw [publishing, String.toList_ofList]
    exact List.prefix_append blockStart _
  refine ⟨(isLeast_zero (P := StartsAt _) hstart).mpr rfl, ?_⟩
  rw [behind_publishing]
  constructor
  · change blockEnd <+: _
    rw [List.drop_left]
    exact List.prefix_append blockEnd rest
  · intro m hm
    by_contra hle
    have hlt : m < content.length := Nat.lt_of_not_le hle
    obtain ⟨tail, htail⟩ : EndsAt (content ++ (blockEnd ++ rest)) m := hm
    rw [List.drop_append_of_le_length (Nat.le_of_lt hlt), List.drop_eq_getElem_cons hlt] at htail
    have hangle : '<' = content[m] := (List.cons.inj htail).1
    exact h (hangle ▸ List.getElem_mem hlt)

theorem EndsAt.add_length_le {text : List Char} {n : Nat} (h : EndsAt text n) :
    n + blockEnd.length ≤ text.length := by
  have hlen := h.length_le
  have hpos : 0 < blockEnd.length := by decide
  rw [List.length_drop] at hlen
  omega

theorem not_closedOnLine_publishing : ¬ ClosedOnLine (behind (publishing [] []).toList 0) := by
  rintro ⟨n, hpos, hend, _⟩
  have hlen := hend.add_length_le
  rw [behind_publishing, List.nil_append, List.append_nil] at hlen
  omega

/-- A published interface is read when it is not empty and has no line break. One with a
line break is passed over together with its line, and so is an empty one that no later end
closes on that line; the page is then answered as its next lines are. A page that publishes
nothing has the empty interface. -/
theorem abi_of_published (page address : String) :
    ((∃ p n, Published page.toList p n) ↔
      ∃ p n, StartsAt page.toList p ∧ EndsAt (behind page.toList p) n) ∧
    (∀ p n, Published page.toList p n →
      ((behind page.toList p).take n ≠ [] → '\n' ∉ (behind page.toList p).take n →
        abi page address = interface address ((behind page.toList p).take n)) ∧
      ('\n' ∈ (behind page.toList p).take n →
        abi page address = abi (String.ofList (nextLine (behind page.toList p))) address) ∧
      ((behind page.toList p).take n = [] → ClosedOnLine (behind page.toList p) →
        abi page address = .error (.malformedAbi address .malformed)) ∧
      ((behind page.toList p).take n = [] → ¬ ClosedOnLine (behind page.toList p) →
        abi page address = abi (String.ofList (nextLine (behind page.toList p))) address)) ∧
    ((¬ ∃ p n, Published page.toList p n) → abi page address = .ok (.array [])) := by
  refine ⟨exists_published_iff, ?_, ?_⟩
  · intro p n h
    refine ⟨?_, ?_, ?_, ?_⟩
    · intro hne hline
      obtain ⟨hp, hn⟩ := h.first_closed (mt h.take_eq_nil_iff.mpr hne) hline
      exact abi_of_block (abiBlock?_eq_some.mpr ⟨p, hp, n, hn, rfl⟩)
    · intro hline
      exact abi_of_unclosed h.start (h.not_closedOnLine hline)
    · intro hempty hclosed
      obtain rfl := h.take_eq_nil_iff.mp hempty
      exact h.abi_of_empty hclosed
    · intro _ hopen
      exact abi_of_unclosed h.start hopen
  · intro hnone
    exact abi_of_no_block (abiBlock?_eq_none.mpr (not_closedAt_of_not_published hnone))

theorem abi_of_published_of_lines :
    abi (publishing (['[', '\n'] ++ (blockStart ++ ['[', '3', ']'])) []) "0x1" =
        .ok (.array [.whole 3]) ∧
      abi (publishing [] blockEnd) "0x1" = .error (.malformedAbi "0x1" .malformed) ∧
      abi (publishing [] []) "0x1" = .ok (.array []) := by
  refine ⟨?_, ?_, ?_⟩
  · have hangle : '<' ∉ ['[', '\n'] ++ (blockStart ++ ['[', '3', ']']) := by decide
    have hlines := (abi_of_published _ "0x1").2.1 _ _ (published_publishing _ [] hangle)
    have hline := (abi_of_published _ "0x1").2.1 _ _
      (published_publishing ['[', '3', ']'] [] (by decide))
    rw [take_publishing] at hlines hline
    rw [behind_publishing] at hlines
    exact (hlines.2.1 (by decide)).trans (hline.1 (by decide) (by decide))
  · have hempty := (abi_of_published _ "0x1").2.1 _ _
      (published_publishing [] blockEnd List.not_mem_nil)
    rw [take_publishing, behind_publishing] at hempty
    exact hempty.2.2.1 rfl ⟨6, by decide, by decide, by decide⟩
  · have hempty := (abi_of_published _ "0x1").2.1 _ _ (published_publishing [] [] List.not_mem_nil)
    have hnone : ¬ ∃ p n, Published (String.ofList (nextLine blockEnd)).toList p n := by
      rintro ⟨p, _, h⟩
      exact not_startsAt_nil p h.start.1
    rw [take_publishing] at hempty
    rw [hempty.2.2.2 rfl not_closedOnLine_publishing, behind_publishing]
    exact (abi_of_published _ "0x1").2.2 hnone

/-- An interface with a line break, and an empty one, are answered as if none were published. -/
theorem exists_published_unseen :
    (∃ (page : String) (p n : Nat), Published page.toList p n ∧ ∀ address,
      interface address ((behind page.toList p).take n) =
        .ok (.array [.string "f", .string "g"]) ∧
      abi page address = .ok (.array [])) ∧
    ∃ (page : String) (p n : Nat), Published page.toList p n ∧ ∀ address,
      interface address ((behind page.toList p).take n) = .error (.malformedAbi address .ended) ∧
      abi page address = .ok (.array []) := by
  constructor
  · have hread : Json.read (String.ofList "[\"f\",\n\"g\"]".toList) =
        .ok (.array [.string "f", .string "g"]) := by
      cbv
    have hunread : abiBlock? (String.ofList "\"g\"]</pre>".toList) = none := by
      decide +kernel
    have hbreak : '\n' ∈ "[\"f\",\n\"g\"]".toList := by decide
    have h := published_publishing "[\"f\",\n\"g\"]".toList [] (by decide)
    refine ⟨_, 0, _, h, fun address => ⟨?_, ?_⟩⟩
    · rw [take_publishing, interface, hread]
      rfl
    · have hopen := h.not_closedOnLine (by rwa [take_publishing])
      rw [abi_of_unclosed h.start hopen, behind_publishing]
      exact abi_of_no_block hunread
  · have h := published_publishing [] [] List.not_mem_nil
    refine ⟨publishing [] [], 0, 0, h, fun address => ⟨?_, ?_⟩⟩
    · rw [List.take_zero]
      rfl
    · rw [abi_of_unclosed h.start not_closedOnLine_publishing, behind_publishing]
      exact abi_of_no_block rfl

end ExplorerProxy.Page
