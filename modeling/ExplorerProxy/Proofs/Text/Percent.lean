import ExplorerProxy.Text.Percent

/-!
# Decoding percent-encoded text

What decoding does to the bytes of a text, escape by escape. No escape reaches over a
percent sign, so that what stands before one is decoded by itself. A text that was encoded
is decoded as it was.
-/

namespace ExplorerProxy.Text

set_option autoImplicit false

theorem toList_loop (bytes : ByteArray) (i : Nat) (acc : List UInt8) :
    ByteArray.toList.loop bytes i acc = acc.reverse ++ bytes.data.toList.drop i := by
  fun_induction ByteArray.toList.loop bytes i acc with
  | case1 i acc h ih =>
    have hi : i < bytes.data.toList.length := by simpa using h
    rw [ih, List.drop_eq_getElem_cons (l := bytes.data.toList) hi]
    simp [ByteArray.get!, h]
  | case2 i acc h =>
    rw [List.drop_eq_nil_of_le (by simpa using Nat.le_of_not_lt h), List.append_nil]

theorem utf8Bytes_eq (s : String) : utf8Bytes s = s.toByteArray.data.toList := by
  rw [utf8Bytes, String.toUTF8, ByteArray.toList, toList_loop]
  rfl

theorem utf8Bytes_ofList (cs : List Char) :
    utf8Bytes (String.ofList cs) = cs.flatMap String.utf8EncodeChar := by
  rw [utf8Bytes_eq, String.toByteArray_ofList, List.utf8Encode, List.toList_data_toByteArray]

theorem utf8EncodeChar_of_small {c : Char} (hsmall : c.toNat < 0x80) :
    String.utf8EncodeChar c = [c.val.toUInt8] := by
  refine String.utf8EncodeChar_eq_singleton (Char.utf8Size_eq_one_iff.mpr ?_)
  have hval : c.val.toNat < 0x80 := hsmall
  exact UInt32.le_iff_toNat_le.mpr (by change c.val.toNat ≤ 127; omega)

theorem utf8EncodeChar_ofNat {b : UInt8} (hsmall : b < 0x80) :
    String.utf8EncodeChar (Char.ofNat b.toNat) = [b] := by
  have hb : b.toNat < 0x80 := UInt8.lt_iff_toNat_lt.mp hsmall
  have hchar : (Char.ofNat b.toNat).toNat = b.toNat := by
    rw [Char.ofNat, dif_pos (Or.inl (by omega))]
    rfl
  rw [utf8EncodeChar_of_small (by omega)]
  refine congrArg (fun b => [b]) (UInt8.toNat_inj.mp ?_)
  rw [UInt32.toNat_toUInt8]
  change (Char.ofNat b.toNat).toNat % 256 = b.toNat
  omega

theorem mem_utf8Bytes_of_small {cs : List Char} {c : Char} (hc : c ∈ cs) (hsmall : c.toNat < 0x80) :
    c.val.toUInt8 ∈ utf8Bytes (String.ofList cs) := by
  rw [utf8Bytes_ofList, List.mem_flatMap]
  exact ⟨c, hc, by rw [utf8EncodeChar_of_small hsmall]; exact List.mem_singleton_self _⟩

theorem utf8Bytes_append (s t : String) : utf8Bytes (s ++ t) = utf8Bytes s ++ utf8Bytes t := by
  simp only [utf8Bytes_eq, String.toByteArray_append, ByteArray.data_append, Array.toList_append]

theorem ofUtf8?_eq_some_iff {bytes : List UInt8} {s : String} :
    ofUtf8? bytes = some s ↔ bytes = utf8Bytes s := by
  rw [ofUtf8?, String.fromUTF8?]
  constructor
  · intro h
    split at h
    · obtain rfl := Option.some.inj h
      rw [utf8Bytes_eq]
      rfl
    · cases h
  · rintro rfl
    have hbytes : ByteArray.mk (utf8Bytes s).toArray = s.toByteArray := by
      rw [utf8Bytes_eq, Array.toArray_toList]
    rw [dif_pos (hbytes ▸ s.isValidUTF8), Option.some_inj, ← String.toByteArray_inj]
    exact hbytes

/-- A byte that is neither the percent sign nor a digit of base sixteen stays. -/
def IsPlain (b : UInt8) : Prop := b ≠ 0x25 ∧ Number.hexDigit? (Char.ofNat b.toNat) = none

theorem isPlain_of_low {b : UInt8} (hb : b ≤ 0x20) : IsPlain b := by
  have hall : ∀ n : Fin 33, UInt8.ofNat n ≠ 0x25 ∧
      Number.hexDigit? (Char.ofNat (UInt8.ofNat n).toNat) = none := by
    decide
  rw [← UInt8.ofNat_toNat (x := b)]
  exact hall ⟨b.toNat, Nat.lt_succ_of_le (UInt8.le_iff_toNat_le.mp hb)⟩

theorem mem_percentDecodeFrom {b : UInt8} (hb : IsPlain b) (acc bytes : List UInt8)
    (h : b ∈ acc ∨ b ∈ bytes) : b ∈ percentDecodeFrom acc bytes := by
  fun_induction percentDecodeFrom acc bytes with
  | case1 acc high low rest d hd ih =>
    -- the two digits of an escape are not plain
    unfold hexByte? at hd
    apply ih
    rcases h with h | h
    · exact Or.inl (List.mem_cons_of_mem _ h)
    · simp only [List.mem_cons] at h
      rcases h with rfl | rfl | rfl | h
      · exact absurd rfl hb.1
      · simp [hb.2] at hd
      · simp [hb.2] at hd
      · exact Or.inr h
  | case2 acc high low rest hd ih =>
    apply ih
    rcases h with h | h
    · exact Or.inl (List.mem_cons_of_mem _ h)
    · rcases List.mem_cons.mp h with rfl | h
      · exact absurd rfl hb.1
      · exact Or.inr h
  | case3 acc c rest _ ih =>
    apply ih
    rcases h with h | h
    · exact Or.inl (List.mem_cons_of_mem _ h)
    · rcases List.mem_cons.mp h with rfl | h
      · exact Or.inl List.mem_cons_self
      · exact Or.inr h
  | case4 acc =>
    rcases h with h | h
    · exact List.mem_reverse.mpr h
    · cases h

theorem percentDecodeFrom_append (acc front bytes : List UInt8) :
    percentDecodeFrom (acc ++ front) bytes = front.reverse ++ percentDecodeFrom acc bytes := by
  fun_induction percentDecodeFrom acc bytes with
  | case1 acc high low rest d hd ih => rw [percentDecodeFrom, hd]; exact ih
  | case2 acc high low rest hd ih => rw [percentDecodeFrom, hd]; exact ih
  | case3 acc c rest hc ih => rw [percentDecodeFrom]; exact ih; exact hc
  | case4 acc => rw [percentDecodeFrom, List.reverse_append]

theorem percentDecodeFrom_eq (acc bytes : List UInt8) :
    percentDecodeFrom acc bytes = acc.reverse ++ percentDecode bytes :=
  percentDecodeFrom_append [] acc bytes

theorem percentDecode_escape {high low b : UInt8} (h : hexByte? high low = some b)
    (rest : List UInt8) :
    percentDecode (0x25 :: high :: low :: rest) = b :: percentDecode rest := by
  rw [percentDecode, percentDecodeFrom, h]
  exact percentDecodeFrom_eq [b] rest

/-- The bytes begin with a percent sign and two digits of base sixteen. -/
def BeginsWithEscape (bytes : List UInt8) : Prop :=
  ∃ high low rest, bytes = 0x25 :: high :: low :: rest ∧ (hexByte? high low).isSome

theorem percentDecode_cons {b : UInt8} {rest : List UInt8} (h : ¬ BeginsWithEscape (b :: rest)) :
    percentDecode (b :: rest) = b :: percentDecode rest := by
  rw [percentDecode, percentDecodeFrom.eq_def]
  split
  · rename_i high low rest' heq
    have hnone : hexByte? high low = none :=
      Option.not_isSome_iff_eq_none.mp fun hsome => h ⟨high, low, rest', heq, hsome⟩
    obtain ⟨rfl, rfl⟩ := List.cons.inj heq
    rw [hnone]
    exact percentDecodeFrom_eq [0x25] (high :: low :: rest')
  · rename_i heq
    obtain ⟨rfl, rfl⟩ := List.cons.inj heq
    exact percentDecodeFrom_eq [b] rest
  · rename_i heq
    cases heq

theorem hexByte?_percent (b : UInt8) : hexByte? 0x25 b = none ∧ hexByte? b 0x25 = none := by
  have hpercent : Number.hexDigit? (Char.ofNat (0x25 : UInt8).toNat) = none := by decide
  simp only [hexByte?, hpercent]
  exact ⟨trivial, by split <;> simp_all⟩

/-- No escape reaches over a percent sign. -/
theorem beginsWithEscape_of_append {bytes rest : List UInt8} (hne : bytes ≠ [])
    (h : BeginsWithEscape (bytes ++ 0x25 :: rest)) : BeginsWithEscape bytes := by
  obtain ⟨high, low, more, heq, hsome⟩ := h
  match bytes, hne with
  | [b], _ =>
    obtain ⟨_, hmore⟩ := List.cons.inj heq
    rw [← (List.cons.inj hmore).1, (hexByte?_percent low).1] at hsome
    cases hsome
  | [b, c], _ =>
    obtain ⟨_, hmore⟩ := List.cons.inj heq
    rw [← (List.cons.inj (List.cons.inj hmore).2).1, (hexByte?_percent high).2] at hsome
    cases hsome
  | b :: c :: d :: bytes, _ =>
    obtain ⟨hb, hmore⟩ := List.cons.inj heq
    obtain ⟨hc, hmore⟩ := List.cons.inj hmore
    obtain ⟨hd, _⟩ := List.cons.inj hmore
    exact ⟨high, low, bytes, by rw [hb, hc, hd], hsome⟩

/-- A percent sign begins anew: what stands before it is decoded by itself. -/
theorem percentDecode_append_percent (bytes rest : List UInt8) :
    percentDecode (bytes ++ 0x25 :: rest) =
      percentDecode bytes ++ percentDecode (0x25 :: rest) := by
  induction hn : bytes.length using Nat.strongRecOn generalizing bytes with
  | ind n ih =>
    subst hn
    by_cases h : BeginsWithEscape bytes
    · obtain ⟨high, low, more, rfl, hsome⟩ := h
      obtain ⟨b, hb⟩ := Option.isSome_iff_exists.mp hsome
      rw [List.cons_append, List.cons_append, List.cons_append, percentDecode_escape hb,
        percentDecode_escape hb, ih more.length (by simp only [List.length_cons]; omega) more rfl]
      rfl
    · cases bytes with
      | nil => rfl
      | cons b more =>
        have hlonger : ¬ BeginsWithEscape (b :: (more ++ 0x25 :: rest)) := fun hescape =>
          h (beginsWithEscape_of_append (List.cons_ne_nil b more) hescape)
        rw [List.cons_append, percentDecode_cons hlonger, percentDecode_cons h,
          ih more.length (Nat.lt_succ_self _) more rfl]
        rfl

/-- The escape of an ASCII character stands for it, and what is before and after the
escape is decoded by itself. -/
theorem percentDecode?_append_escape {front back a b escape mark : String} {high low d : UInt8}
    (hescape : utf8Bytes escape = [0x25, high, low]) (hd : hexByte? high low = some d)
    (hmark : utf8Bytes mark = [d]) (hfront : percentDecode? front = some a)
    (hback : percentDecode? back = some b) :
    percentDecode? (front ++ escape ++ back) = some (a ++ mark ++ b) := by
  rw [percentDecode?, ofUtf8?_eq_some_iff] at *
  calc percentDecode (utf8Bytes (front ++ escape ++ back))
      = percentDecode (utf8Bytes front ++ 0x25 :: high :: low :: utf8Bytes back) := by
        rw [utf8Bytes_append, utf8Bytes_append, hescape, List.append_assoc]
        rfl
    _ = utf8Bytes a ++ d :: utf8Bytes b := by
        rw [percentDecode_append_percent, percentDecode_escape hd, hfront, hback]
    _ = utf8Bytes (a ++ mark ++ b) := by
        rw [utf8Bytes_append, utf8Bytes_append, hmark, List.append_assoc]
        rfl

/-- A class of bytes whose escapes can be undone: the bytes outside of it, which stand as
themselves, are ASCII and not the percent sign. -/
def Escapes (escape : UInt8 → Bool) : Prop := ∀ b, escape b = false → b < 0x80 ∧ b ≠ 0x25

theorem hexDigit?_toUpper {n : Nat} (h : n < 16) :
    let c := (Nat.digitChar n).toUpper
    String.utf8EncodeChar c = [c.val.toUInt8] ∧
      Number.hexDigit? (Char.ofNat c.val.toUInt8.toNat) = some n := by
  have hall : ∀ n, n < 16 → (Nat.digitChar n).toUpper.toNat < 0x80 ∧
      Number.hexDigit? (Char.ofNat (Nat.digitChar n).toUpper.val.toUInt8.toNat) = some n := by
    decide
  exact ⟨utf8EncodeChar_of_small (hall n h).1, (hall n h).2⟩

theorem percentDecode_percentEscape (b : UInt8) (rest : List UInt8) :
    percentDecode ((percentEscape b).flatMap String.utf8EncodeChar ++ rest) =
      b :: percentDecode rest := by
  have hb := b.toNat_lt
  obtain ⟨hhigh, hhigh'⟩ := hexDigit?_toUpper (n := b.toNat / 16) (by omega)
  obtain ⟨hlow, hlow'⟩ := hexDigit?_toUpper (n := b.toNat % 16) (by omega)
  have hvalue : 16 * (b.toNat / 16) + b.toNat % 16 = b.toNat := by omega
  have hpercent : String.utf8EncodeChar '%' = [0x25] := by decide
  simp only [percentEscape, List.flatMap_cons, List.flatMap_nil, hhigh, hlow, hpercent]
  refine percentDecode_escape ?_ rest
  simp only [hexByte?, hhigh', hlow', hvalue, UInt8.ofNat_toNat]

theorem percentDecode_percentEncode {escape : UInt8 → Bool} (h : Escapes escape)
    (bytes : List UInt8) :
    percentDecode ((percentEncode escape bytes).flatMap String.utf8EncodeChar) = bytes := by
  induction bytes with
  | nil => rfl
  | cons b bytes ih =>
    rw [percentEncode, List.flatMap_cons, List.flatMap_append, ← percentEncode]
    cases hb : escape b with
    | true => rw [if_pos rfl, percentDecode_percentEscape, ih]
    | false =>
      obtain ⟨hsmall, hpercent⟩ := h b hb
      rw [if_neg Bool.false_ne_true, List.flatMap_singleton, utf8EncodeChar_ofNat hsmall,
        List.singleton_append, percentDecode_cons ?_, ih]
      rintro ⟨_, _, _, heq, _⟩
      exact hpercent (List.cons.inj heq).1

theorem percentDecode?_percentEncode {escape : UInt8 → Bool} (h : Escapes escape) (s : String) :
    percentDecode? (String.ofList (percentEncode escape (utf8Bytes s))) = some s := by
  rw [percentDecode?, ofUtf8?_eq_some_iff, utf8Bytes_ofList, percentDecode_percentEncode h]

theorem notMem_percentEncode {escape : UInt8 → Bool} {c : Char}
    (hc : c ≠ '%' ∧ ∀ n, n < 16 → c ≠ (Nat.digitChar n).toUpper)
    (h : ∀ b, escape b = false → Char.ofNat b.toNat ≠ c) (bytes : List UInt8) :
    c ∉ percentEncode escape bytes := by
  intro hmem
  obtain ⟨b, _, hb⟩ := List.mem_flatMap.mp hmem
  have hlt := b.toNat_lt
  cases hescape : escape b with
  | true =>
    rw [hescape, if_pos rfl, percentEscape] at hb
    simp only [List.mem_cons, List.not_mem_nil, or_false] at hb
    rcases hb with hb | hb | hb
    · exact hc.1 hb
    · exact hc.2 (b.toNat / 16) (by omega) hb
    · exact hc.2 (b.toNat % 16) (by omega) hb
  | false =>
    rw [hescape, if_neg Bool.false_ne_true, List.mem_singleton] at hb
    exact h b hescape hb.symm

end ExplorerProxy.Text
