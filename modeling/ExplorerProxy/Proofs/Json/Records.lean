import ExplorerProxy.Json.Shape
import ExplorerProxy.Proofs.Json.Lexemes
import ExplorerProxy.Proofs.List.Keyed

/-!
# Values of a shape, written and read

A value that fits a shape is read back from its text by this shape. In a record each
field is read up to the mark behind it, and the names of the fields tell them apart.
-/

namespace ExplorerProxy.Json

set_option autoImplicit false

/-- The reader gets the value back from its text, whatever part of a record ends there. -/
def ReadsBack (reader : Reader Json) (v : Json) : Prop :=
  ∀ rest, EndsPart rest → reader (v.chars ++ rest) = .ok (v, rest)

theorem endsPart_nil : EndsPart [] := by
  intro c hc
  cases hc

section Strings

variable (s : String) (rest : List Char)

theorem skipBlanks_stringChars :
    skipBlanks (stringChars s ++ rest) = '"' :: (s.toList.flatMap escaped ++ '"' :: rest) := by
  rw [stringChars_append]
  exact skipBlanks_cons rfl _

theorem text_stringChars : text (stringChars s ++ rest) = .ok (s, rest) := by
  rw [text, skipBlanks_stringChars]
  exact stringRest_escaped s rest

theorem key_stringChars : key (stringChars s ++ rest) = .ok (s, rest) := by
  rw [key, skipBlanks_stringChars]
  exact stringRest_escaped s rest

end Strings

theorem readsBack_text (s : String) : ReadsBack (Shape.reader .text) (.string s) := by
  intro rest _
  change (text (stringChars s ++ rest)).map _ = _
  rw [text_stringChars]
  rfl

theorem readsBack_tag {tags : List String} {s : String} (h : s ∈ tags) :
    ReadsBack (Shape.reader (.tag tags)) (.string s) := by
  intro rest _
  change tagged tags (stringChars s ++ rest) = _
  rw [tagged, skipBlanks_stringChars]
  change (oneOf tags ('"' :: (s.toList.flatMap escaped ++ '"' :: rest))).map _ = _
  simp only [← stringChars_append, oneOf, text_stringChars, if_pos h]
  rfl

theorem chars_whole (n : Nat) : (Json.whole (Int.ofNat n)).chars = Nat.toDigits 10 n := by
  rw [chars]
  exact String.toList_ofList

theorem unsigned_of_digit {c : Char} {cs rest : List Char} {n : Int} (hc : c.isDigit = true)
    (h : number .strict false (c :: cs) = .ok (.whole n, rest)) :
    unsigned (c :: cs) = .ok (.whole n, rest) := by
  have hblank : isBlank c = false := by
    obtain ⟨hlow, _⟩ := Char.isDigit_iff_toNat.mp hc
    simp only [isBlank, Bool.or_eq_false_iff, beq_eq_false_iff_ne]
    refine ⟨⟨⟨?_, ?_⟩, ?_⟩, ?_⟩ <;> rintro rfl <;> exact absurd hlow (by decide)
  simp only [unsigned, skipBlanks_cons hblank, isDigit_of_isDigit hc, if_true, h]

theorem readsBack_word (n : UInt64) :
    ReadsBack (Shape.reader .word) (.whole (Int.ofNat n.toNat)) := by
  intro rest hrest
  have hread := number_toDigits (Nat.le_sub_one_of_lt n.toNat_lt) hrest
  rw [chars_whole]
  cases hdigits : Nat.toDigits 10 n.toNat with
  | nil => exact absurd hdigits Nat.toDigits_ne_nil
  | cons c cs =>
    have hc : c.isDigit = true :=
      Nat.isDigit_of_mem_toDigits (by decide) (by decide) (hdigits ▸ List.mem_cons_self)
    rw [hdigits] at hread
    exact unsigned_of_digit hc hread

theorem endsPart_moreMembers (members : List (String × Json)) (rest : List Char) :
    EndsPart (moreMembers members ++ rest) := by
  intro c hc
  cases members with
  | nil => exact .inr (Option.some.inj hc).symm
  | cons m members => exact .inl (Option.some.inj hc).symm

theorem length_le_length_moreMembers (members : List (String × Json)) :
    members.length ≤ (moreMembers members).length := by
  induction members with
  | nil => exact Nat.zero_le _
  | cons m members ih =>
    simp only [moreMembers, List.length_cons, List.length_append]
    omega

/-- The text of a member, with its comma or closing brace behind it. -/
def memberChars (name : String) (v : Json) (rest : List Char) : List Char :=
  stringChars name ++ ':' :: (v.chars ++ rest)

section Members

variable {fields : List (String × Reader Json)} {found : List (String × Json)} {name : String}
  {v : Json} {rest : List Char} (size : Nat)

theorem fieldMember_memberChars {reader : Reader Json} (hfield : fields.lookup name = some reader)
    (hnew : found.lookup name = none) (hreads : ReadsBack reader v) (hrest : EndsPart rest) :
    fieldMember size fields found (memberChars name v rest) = .ok ((name, v) :: found, rest) := by
  have hmark : mark ':' (':' :: (v.chars ++ rest)) = .ok ((), v.chars ++ rest) := rfl
  simp only [fieldMember, memberChars, key_stringChars, bind, Except.bind, hfield, hnew,
    Option.isSome_none, Bool.false_eq_true, if_false, hmark, hreads rest hrest]
  rfl

theorem fieldMembers_last {cs : List Char} {found' : List (String × Json)}
    (h : fieldMember size fields found cs = .ok (found', '\x7d' :: rest)) (n : Nat) :
    fieldMembers size fields (n + 1) found cs = .ok (found', rest) := by
  rw [fieldMembers, h]
  rfl

theorem fieldMembers_next {cs : List Char} {found' : List (String × Json)}
    (h : fieldMember size fields found cs = .ok (found', ',' :: rest)) (n : Nat) :
    fieldMembers size fields (n + 1) found cs = fieldMembers size fields n found' rest := by
  rw [fieldMembers, h]
  rfl

/-- The members of a record are read up to its brace, if their names and those found
before are all different. -/
theorem fieldMembers_memberChars {members : List (String × Json)} {n : Nat}
    (hn : members.length < n)
    (hreads : ∀ m ∈ (name, v) :: members, ∃ reader,
      fields.lookup m.1 = some reader ∧ ReadsBack reader m.2)
    (hnames : ((name :: members.map Prod.fst) ++ found.map Prod.fst).Nodup) :
    fieldMembers size fields n found (memberChars name v (moreMembers members ++ rest)) =
      .ok (members.reverse ++ (name, v) :: found, rest) := by
  induction members generalizing n name v found with
  | nil =>
    obtain ⟨n, rfl⟩ := Nat.exists_eq_succ_of_ne_zero (Nat.ne_zero_of_lt hn)
    obtain ⟨reader, hfield, hback⟩ := hreads _ List.mem_cons_self
    have hnew := lookup_eq_none_of_notMem (List.nodup_cons.mp hnames).1
    exact fieldMembers_last size
      (fieldMember_memberChars size hfield hnew hback (endsPart_moreMembers [] rest)) n
  | cons m members ih =>
    obtain ⟨n, rfl⟩ := Nat.exists_eq_succ_of_ne_zero (Nat.ne_zero_of_lt hn)
    obtain ⟨reader, hfield, hback⟩ := hreads _ List.mem_cons_self
    obtain ⟨hname, hmore⟩ := List.nodup_cons.mp hnames
    have hnew := lookup_eq_none_of_notMem fun hmem => hname (List.mem_append_right _ hmem)
    have hfirst := fieldMember_memberChars size hfield hnew hback
      (endsPart_moreMembers (m :: members) rest)
    have hbound : members.length < n := Nat.lt_of_succ_lt_succ hn
    -- the name just read moves from the members to come to those found
    have hnames' : ((m.1 :: members.map Prod.fst) ++
        ((name, v) :: found).map Prod.fst).Nodup := List.nodup_middle.mpr hnames
    have hnext : moreMembers (m :: members) ++ rest =
        ',' :: memberChars m.1 m.2 (moreMembers members ++ rest) := by
      simp only [moreMembers, memberChars, List.cons_append, List.append_assoc]
    rw [hnext] at hfirst ⊢
    rw [fieldMembers_next size hfirst,
      ih hbound (fun m' hm' => hreads m' (List.mem_cons_of_mem _ hm')) hnames',
      List.reverse_cons, List.append_assoc]
    rfl

end Members

/-- The fields of a record with their readers, against its members with their values. -/
def FieldsReadBack : List (String × Reader Json) → List (String × Json) → Prop :=
  List.Forall₂ fun f m => f.1 = m.1 ∧ ReadsBack f.2 m.2

namespace FieldsReadBack

variable {fields : List (String × Reader Json)} {members : List (String × Json)}

theorem names_eq (h : FieldsReadBack fields members) :
    fields.map Prod.fst = members.map Prod.fst := by
  induction h with
  | nil => rfl
  | cons hf _ ih => rw [List.map_cons, List.map_cons, hf.1, ih]

theorem exists_reader (h : FieldsReadBack fields members) {m : String × Json}
    (hm : m ∈ members) : ∃ reader, (m.1, reader) ∈ fields ∧ ReadsBack reader m.2 := by
  induction h with
  | nil => cases hm
  | @cons f m' fields members hf _ ih =>
    rcases List.mem_cons.mp hm with rfl | hmore
    · exact ⟨f.2, hf.1 ▸ List.mem_cons_self, hf.2⟩
    · obtain ⟨reader, hmem, hback⟩ := ih hmore
      exact ⟨reader, List.mem_cons_of_mem _ hmem, hback⟩

theorem arrangeFields_eq (h : FieldsReadBack fields members) {found : List (String × Json)}
    (hfound : ∀ m ∈ members, found.lookup m.1 = some m.2) :
    arrangeFields found fields = .ok members := by
  induction h with
  | nil => rfl
  | @cons f m fields members hf _ ih =>
    obtain ⟨name, reader⟩ := f
    obtain ⟨rfl, _⟩ := hf
    rw [arrangeFields, hfound m List.mem_cons_self,
      ih fun m' hm' => hfound m' (List.mem_cons_of_mem _ hm')]
    rfl

end FieldsReadBack

theorem record_of_fieldMembers {fields : List (String × Reader Json)} {cs rest : List Char}
    {found members : List (String × Json)}
    (hfound : fieldMembers (('"' :: cs).length + 1) fields (('"' :: cs).length + 1) [] ('"' :: cs) =
      .ok (found, rest))
    (hmembers : arrangeFields found fields = .ok members) :
    record fields ('\x7b' :: '"' :: cs) = .ok (.object members, rest) := by
  have hopen : ∀ c : Char, isBlank c = false → ∀ cs, skipBlanks (c :: cs) = c :: cs :=
    fun c hc cs => skipBlanks_cons hc cs
  simp only [record, hopen '\x7b' rfl, hopen '"' rfl]
  change (fieldMembers _ fields _ [] ('"' :: cs) >>= fun read =>
    arrangeFields read.1 fields >>= fun vs => pure (Json.object vs, read.2)) = _
  simp only [hfound, hmembers, bind, Except.bind]
  rfl

/-- A record is read back as its fields are, if they have different names. -/
theorem readsBack_record {fields : List (String × Reader Json)} {members : List (String × Json)}
    (h : FieldsReadBack fields members) (hnames : (fields.map Prod.fst).Nodup) :
    ReadsBack (record fields) (.object members) := by
  intro rest _
  cases members with
  | nil =>
    cases h
    rfl
  | cons m members =>
    have hmembers : ((m :: members).map Prod.fst).Nodup := h.names_eq ▸ hnames
    have hreads : ∀ m' ∈ m :: members, ∃ reader,
        fields.lookup m'.1 = some reader ∧ ReadsBack reader m'.2 := by
      intro m' hm'
      obtain ⟨reader, hmem, hback⟩ := h.exists_reader hm'
      exact ⟨reader, (lookup_eq_some_iff_mem hnames _ _).mpr hmem, hback⟩
    have harrange : arrangeFields (m :: members).reverse fields = .ok (m :: members) := by
      refine h.arrangeFields_eq fun m' hm' => ?_
      rw [lookup_eq_some_iff_mem (by rwa [List.map_reverse, List.nodup_reverse])]
      exact List.mem_reverse.mpr hm'
    have htext : (Json.object (m :: members)).chars ++ rest =
        '\x7b' :: memberChars m.1 m.2 (moreMembers members ++ rest) := by
      simp only [chars, memberChars, List.cons_append, List.append_assoc]
    have hfound : ∀ size n, members.length < n →
        fieldMembers size fields n [] (memberChars m.1 m.2 (moreMembers members ++ rest)) =
          .ok ((m :: members).reverse, rest) := by
      intro size n hn
      rw [fieldMembers_memberChars size hn hreads (by rwa [List.map_nil, List.append_nil]),
        List.reverse_cons]
    have hlength : members.length <
        (memberChars m.1 m.2 (moreMembers members ++ rest)).length + 1 := by
      have hmore := length_le_length_moreMembers members
      simp only [memberChars, List.length_append, List.length_cons]
      omega
    have hread := hfound ((memberChars m.1 m.2 (moreMembers members ++ rest)).length + 1) _ hlength
    rw [htext]
    rw [memberChars, stringChars_append] at hread ⊢
    exact record_of_fieldMembers hread harrange

mutual

/-- A value that may be written where the shape is read. The members of a record are its
fields in their order, under different names. -/
inductive Shape.Fits : Shape → Json → Prop where
  | text (s : String) : Shape.Fits .text (.string s)
  | word (n : UInt64) : Shape.Fits .word (.whole (Int.ofNat n.toNat))
  | tag {tags : List String} {s : String} (h : s ∈ tags) : Shape.Fits (.tag tags) (.string s)
  | record {fields : List (String × Shape)} {members : List (String × Json)}
      (names : (fields.map Prod.fst).Nodup) (members_fit : Shape.FieldsFit fields members) :
      Shape.Fits (.record fields) (.object members)

inductive Shape.FieldsFit : List (String × Shape) → List (String × Json) → Prop where
  | nil : Shape.FieldsFit [] []
  | cons {name : String} {shape : Shape} {v : Json} {fields : List (String × Shape)}
      {members : List (String × Json)} (first : Shape.Fits shape v)
      (more : Shape.FieldsFit fields members) :
      Shape.FieldsFit ((name, shape) :: fields) ((name, v) :: members)

end

theorem Shape.map_fst_readers (fields : List (String × Shape)) :
    (Shape.readers fields).map Prod.fst = fields.map Prod.fst := by
  induction fields with
  | nil => rfl
  | cons f fields ih => rw [Shape.readers, List.map_cons, List.map_cons, ih]

mutual

/-- What fits a shape is read back by it. -/
theorem Shape.Fits.readsBack : ∀ {shape : Shape} {v : Json}, shape.Fits v →
    ReadsBack shape.reader v
  | _, _, .text s => readsBack_text s
  | _, _, .word n => readsBack_word n
  | _, _, .tag h => readsBack_tag h
  | _, _, .record names members_fit =>
    readsBack_record members_fit.readsBack (by rwa [Shape.map_fst_readers])

theorem Shape.FieldsFit.readsBack : ∀ {fields : List (String × Shape)}
    {members : List (String × Json)}, Shape.FieldsFit fields members →
    FieldsReadBack (Shape.readers fields) members
  | _, _, .nil => .nil
  | _, _, .cons first more => .cons ⟨rfl, first.readsBack⟩ more.readsBack

end

theorem Shape.Fits.read_write {shape : Shape} {v : Json} (h : shape.Fits v) :
    shape.read v.write = .ok v := by
  have hread := h.readsBack [] endsPart_nil
  rw [List.append_nil] at hread
  rw [Shape.read, write, String.toList_ofList, complete, hread]
  rfl

end ExplorerProxy.Json
