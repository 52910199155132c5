import RowPager.Proofs.ReadBack

/-!
Readers of bytes that may come from anywhere. Such a reader answers, or it finds the bytes
corrupted; it never looks outside the buffer, and two buffers that agree where it looks are the
same to it.
-/

set_option autoImplicit false

namespace RowPager

/-- Two readers give the same answer, of which something is known, or report the same
corruption. A reader that concurs with itself does nothing else than that. -/
inductive Concur {α : Type} (Known : α → Prop) : Except Error α → Except Error α → Prop where
  | ok {a : α} (h : Known a) : Concur Known (.ok a) (.ok a)
  | corrupted (cause : Corruption) :
      Concur Known (.error (.corrupted cause)) (.error (.corrupted cause))

namespace Concur

variable {α β : Type} {Known : α → Prop} {r r' : Except Error α}

theorem bind {Known' : β → Prop} {f f' : α → Except Error β} (h : Concur Known r r')
    (hf : ∀ a, Known a → Concur Known' (f a) (f' a)) : Concur Known' (r >>= f) (r' >>= f') := by
  cases h with
  | ok ha => exact hf _ ha
  | corrupted cause => exact .corrupted cause

theorem mono {Known' : α → Prop} (h : Concur Known r r') (hk : ∀ a, Known a → Known' a) :
    Concur Known' r r' := by
  cases h with
  | ok ha => exact .ok (hk _ ha)
  | corrupted cause => exact .corrupted cause

theorem eq (h : Concur Known r r') : r = r' := by
  cases h with
  | ok ha => rfl
  | corrupted cause => rfl

theorem known (h : Concur Known r r') {a : α} (ha : r = .ok a) : Known a := by
  cases h with
  | ok h => cases ha; exact h
  | corrupted cause => cases ha

theorem outcome (h : Concur Known r r') :
    (∃ a, r = .ok a ∧ Known a) ∨ ∃ cause, r = .error (.corrupted cause) := by
  cases h with
  | ok h => exact .inl ⟨_, rfl, h⟩
  | corrupted cause => exact .inr ⟨cause, rfl⟩

end Concur

namespace Buffer

variable {buffer left right bytes content : ByteArray} {offset length : Nat}

theorem has_self (buffer : ByteArray) : Has buffer 0 buffer :=
  has_iff.mpr ⟨by omega, by simp⟩

theorem has_extract (hin : offset + length ≤ buffer.size) :
    Has buffer offset (buffer.extract offset (offset + length)) := by
  have hsize : (buffer.extract offset (offset + length)).size = length := by
    rw [ByteArray.size_extract]; omega
  rw [has_iff, hsize]
  exact ⟨hin, rfl⟩

theorem Has.inside (h : Has buffer offset bytes) : offset + bytes.size ≤ buffer.size :=
  (has_iff.mp h).1

theorem Has.unique (h : Has buffer offset bytes) (h' : Has buffer offset content)
    (hsize : bytes.size = content.size) : bytes = content := by
  rw [← (has_iff.mp h).2, ← (has_iff.mp h').2, hsize]

theorem Has.eq_of_size (h : Has buffer 0 bytes) (hsize : buffer.size = bytes.size) :
    buffer = bytes :=
  (has_self buffer).unique h hsize

theorem has_append_iff : Has buffer offset (left ++ right) ↔
    Has buffer offset left ∧ Has buffer (offset + left.size) right := by
  simp only [has_iff, ByteArray.size_append]
  constructor
  · rintro ⟨hin, heq⟩
    have hpart := fun i j => congrArg (fun b => ByteArray.extract b i j) heq
    have hleft := hpart 0 left.size
    have hright := hpart left.size (left.size + right.size)
    simp only [ByteArray.extract_extract, ByteArray.extract_append_eq_left rfl] at hleft
    simp only [ByteArray.extract_extract, ByteArray.extract_append_eq_right rfl rfl] at hright
    rw [Nat.add_zero, Nat.min_eq_left (by omega)] at hleft
    rw [Nat.min_self, ← Nat.add_assoc] at hright
    exact ⟨⟨by omega, hleft⟩, by omega, hright⟩
  · rintro ⟨⟨-, hleft⟩, hin, hright⟩
    refine ⟨by omega, ?_⟩
    rw [← Nat.add_assoc, ByteArray.extract_eq_extract_append_extract (offset + left.size) (by omega)
      (by omega), hleft, hright]

theorem decode_wordBytes {n : Nat} (hn : n < 2 ^ 32) :
    LittleEndian.decode (wordBytes n).data.toList = n := by
  simp only [wordBytes, List.toList_data_toByteArray, LittleEndian.decode_encode]
  exact Nat.mod_eq_of_lt hn

theorem wordBytes_inj {m n : Nat} (hm : m < 2 ^ 32) (hn : n < 2 ^ 32)
    (h : wordBytes m = wordBytes n) : m = n := by
  rw [← decode_wordBytes hm, ← decode_wordBytes hn, h]

theorem exists_wordBytes (hsize : bytes.size = 4) :
    ∃ word : UInt32, bytes = wordBytes word.toNat := by
  have hlength : bytes.data.toList.length = 4 := hsize
  refine ⟨.ofNat (LittleEndian.decode bytes.data.toList), ?_⟩
  rw [wordBytes, LittleEndian.encode_word hlength]
  exact ByteArray.ext (by simp)

/-- Both buffers have the same bytes in a range, and the range lies inside both. -/
def Shares (left right : ByteArray) (offset length : Nat) : Prop :=
  ∃ bytes : ByteArray, bytes.size = length ∧ Has left offset bytes ∧ Has right offset bytes

theorem shares_self (hin : offset + length ≤ buffer.size) : Shares buffer buffer offset length :=
  ⟨_, by rw [ByteArray.size_extract]; omega, has_extract hin, has_extract hin⟩

theorem shares_append (left right : ByteArray) : Shares left (left ++ right) 0 left.size :=
  ⟨left, rfl, has_self left, (has_append_iff.mp (has_self (left ++ right))).1⟩

theorem Shares.part (h : Shares left right offset length) {start size : Nat} (hlo : offset ≤ start)
    (hhi : start + size ≤ offset + length) : Shares left right start size := by
  obtain ⟨bytes, hsize, hl, hr⟩ := h
  have hpart : ∀ {buffer : ByteArray}, Has buffer offset bytes →
      Has buffer start (bytes.extract (start - offset) (start - offset + size)) := by
    intro buffer h
    obtain ⟨hin, heq⟩ := has_iff.mp h
    have hextract : bytes.extract (start - offset) (start - offset + size) =
        buffer.extract start (start + size) := by
      rw [← heq, ByteArray.extract_extract, Nat.min_eq_left (by omega), ← Nat.add_assoc,
        Nat.add_sub_cancel' hlo]
    rw [hextract]
    exact has_extract (by omega)
  exact ⟨_, by rw [ByteArray.size_extract]; omega, hpart hl, hpart hr⟩

theorem slice_concur (h : Shares left right offset length) :
    Concur (fun bytes => bytes.size = length ∧ Has right offset bytes) (slice left offset length)
      (slice right offset length) := by
  obtain ⟨bytes, hsize, hl, hr⟩ := h
  rw [slice_of_has hl hsize.symm, slice_of_has hr hsize.symm]
  exact .ok ⟨hsize, hr⟩

theorem word_concur (h : Shares left right offset 4) :
    Concur (fun word => Has right offset (wordBytes word.toNat)) (word left offset)
      (word right offset) := by
  obtain ⟨bytes, hsize, hl, hr⟩ := h
  obtain ⟨word, rfl⟩ := exists_wordBytes hsize
  rw [word_of_has hl, word_of_has hr, UInt32.ofNat_toNat]
  exact .ok hr

end Buffer

end RowPager
