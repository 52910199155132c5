import RowPager.Cell.Slot
import RowPager.Proofs.ReadBack

/-!
Cell slots read back as they were written. Bytes from elsewhere may hold more than a slot says, in
the reserved word and in the data of a null; reading them and writing them again clears it.
-/

set_option autoImplicit false

namespace RowPager.Slot

theorem decode_encode_append (slot : Slot) (rest : List UInt8) :
    decode (slot.encode ++ rest) = .ok slot := by
  have hlen : ¬ (slot.encode ++ rest).length < Layout.cellSize := by simp
  have htag : (slot.encode ++ rest).take 4 = LittleEndian.encode 4 slot.type.tag.toNat := by
    simp [encode, List.append_assoc]
  have hword : UInt32.ofNat (LittleEndian.decode (LittleEndian.encode 4 slot.type.tag.toNat)) =
      slot.type.tag := by
    apply UInt32.toNat_inj.mp
    simp [LittleEndian.decode_encode]
  have hdata : ((slot.encode ++ rest).drop 8).take 8 = slot.data := by
    have hsplit : slot.encode ++ rest =
        (LittleEndian.encode 4 slot.type.tag.toNat ++ LittleEndian.encode 4 0) ++
          (slot.data ++ rest) := by
      simp only [encode, List.append_assoc]
    rw [hsplit, List.drop_left' (by simp), List.take_left' (by simp)]
  unfold decode
  rw [if_neg hlen, htag, hdata]
  simp only [hword, CellType.ofTag?_tag, ofData_data]

@[simp] theorem decode_encode (slot : Slot) : decode slot.encode = .ok slot := by
  simpa using decode_encode_append slot []

theorem encode_size (slot : Slot) : slot.encode.toByteArray.size = 16 := by
  simp

theorem encode_null : (null).encode.toByteArray = Buffer.zeros 16 := by decide

theorem encode_injective {slot slot' : Slot} (h : slot.encode = slot'.encode) : slot = slot' := by
  have hdecode := decode_encode slot
  rw [h, decode_encode] at hdecode
  exact (Except.ok.inj hdecode).symm

def tagOf (bytes : List UInt8) : Nat := LittleEndian.decode (bytes.take 4)

/-- The first sixteen bytes, cleared where they say nothing of a slot: in the reserved word, and in
the data of a null. -/
def canonical (bytes : List UInt8) : List UInt8 :=
  bytes.take 4 ++ List.replicate 4 0 ++
    if tagOf bytes = 0 then List.replicate 8 0 else (bytes.drop 8).take 8

variable {bytes other : List UInt8} {slot : Slot}

theorem tagOf_lt (bytes : List UInt8) : tagOf bytes < 2 ^ 32 := by
  have hlt := LittleEndian.decode_lt (bytes.take 4)
  have hpow := Nat.pow_le_pow_right (show 0 < 256 by decide) (List.length_take_le 4 bytes)
  exact Nat.lt_of_lt_of_le hlt hpow

theorem tagOf_encode (slot : Slot) : tagOf slot.encode = slot.type.tag.toNat := by
  have htake : slot.encode.take 4 = LittleEndian.encode 4 slot.type.tag.toNat := by
    rw [encode, List.append_assoc, List.take_left' (LittleEndian.encode_length ..)]
  rw [tagOf, htake, LittleEndian.decode_encode]
  exact Nat.mod_eq_of_lt (Nat.lt_of_le_of_lt slot.type.tag_le (by decide))

theorem tagOf_canonical (hlength : 4 ≤ bytes.length) : tagOf (canonical bytes) = tagOf bytes := by
  have hlead : (bytes.take 4).length = 4 := by rw [List.length_take]; omega
  rw [tagOf, canonical, List.append_assoc, List.take_left' hlead]
  rfl

theorem decode_cases (bytes : List UInt8) :
    (bytes.length < 16 ∧ decode bytes = .error (.corrupted (.shortSlot bytes.length))) ∨
      (16 ≤ bytes.length ∧ 4 < tagOf bytes ∧
        decode bytes = .error (.corrupted (.unknownTag (.ofNat (tagOf bytes))))) ∨
      ∃ type : CellType, 16 ≤ bytes.length ∧ tagOf bytes = type.tag.toNat ∧
        decode bytes = .ok (ofData type ((bytes.drop 8).take 8)) := by
  by_cases hlength : bytes.length < 16
  · exact .inl ⟨hlength, if_pos hlength⟩
  have hword : (UInt32.ofNat (tagOf bytes)).toNat = tagOf bytes :=
    Buffer.toNat_ofNat (tagOf_lt bytes)
  cases htype : CellType.ofTag? (.ofNat (tagOf bytes)) with
  | none =>
    have hunknown := (CellType.ofTag?_eq_none_iff _).mp htype
    rw [hword] at hunknown
    refine .inr (.inl ⟨by omega, hunknown, ?_⟩)
    rw [tagOf] at htype ⊢
    rw [decode, if_neg hlength]
    simp only [htype]
  | some type =>
    have htag := congrArg UInt32.toNat ((CellType.ofTag?_eq_some_iff _ type).mp htype)
    rw [hword] at htag
    refine .inr (.inr ⟨type, by omega, htag, ?_⟩)
    rw [tagOf] at htype
    rw [decode, if_neg hlength]
    simp only [htype]

theorem decode_fails_iff :
    (∃ e, decode bytes = .error e) ↔ bytes.length < 16 ∨ 4 < tagOf bytes := by
  obtain ⟨hshort, hdecode⟩ | ⟨-, hunknown, hdecode⟩ | ⟨type, hlength, htag, hdecode⟩ :=
    decode_cases bytes
  · exact iff_of_true ⟨_, hdecode⟩ (.inl hshort)
  · exact iff_of_true ⟨_, hdecode⟩ (.inr hunknown)
  · have hle := type.tag_le
    refine iff_of_false ?_ (by omega)
    rintro ⟨e, herror⟩
    cases hdecode.symm.trans herror

theorem encode_eq_canonical (h : decode bytes = .ok slot) : slot.encode = canonical bytes := by
  obtain ⟨-, hdecode⟩ | ⟨-, -, hdecode⟩ | ⟨type, hlength, htag, hdecode⟩ := decode_cases bytes
  · cases hdecode.symm.trans h
  · cases hdecode.symm.trans h
  · cases hdecode.symm.trans h
    have hlead : (bytes.take 4).length = 4 := by rw [List.length_take]; omega
    have hdata : ((bytes.drop 8).take 8).length = 8 := by
      rw [List.length_take, List.length_drop]; omega
    have hword := LittleEndian.encode_decode (bytes.take 4)
    rw [hlead, ← tagOf, htag] at hword
    rw [encode, canonical, type_ofData, hword, data_ofData type hdata, htag]
    simp only [CellType.tag_eq_zero_iff]
    rfl

theorem decode_eq_ok_iff :
    decode bytes = .ok slot ↔ 16 ≤ bytes.length ∧ slot.encode = canonical bytes := by
  constructor
  · intro h
    refine ⟨Nat.le_of_not_lt fun hshort => ?_, encode_eq_canonical h⟩
    obtain ⟨e, herror⟩ := decode_fails_iff.mpr (.inl hshort)
    cases h.symm.trans herror
  · rintro ⟨hlength, hencode⟩
    have htag : tagOf bytes = slot.type.tag.toNat := by
      rw [← tagOf_canonical (by omega), ← hencode, tagOf_encode]
    obtain ⟨hshort, -⟩ | ⟨-, hunknown, -⟩ | ⟨type, -, -, hdecode⟩ := decode_cases bytes
    · omega
    · have hle := slot.type.tag_le
      omega
    · rw [hdecode, encode_injective (hencode.trans (encode_eq_canonical hdecode).symm)]

theorem decode_congr (hlength : other.length = bytes.length) (htag : other.take 4 = bytes.take 4)
    (hdata : other.drop 8 = bytes.drop 8) : decode other = decode bytes := by
  rw [decode, decode, hlength, htag, hdata]

/-- Every slot is read back from its sixteen bytes, whatever follows them. Bytes are refused exactly
if they are too few or have an unknown tag. Else the slot that is read is written as these bytes
again, cleared where they say nothing. The reserved word makes no difference. -/
theorem codec_exact :
    (∀ slot : Slot, slot.encode.length = 16 ∧
      ∀ rest : List UInt8, decode (slot.encode ++ rest) = .ok slot) ∧
    ∀ bytes : List UInt8,
      ((∃ e, decode bytes = .error e) ↔ bytes.length < 16 ∨ 4 < tagOf bytes) ∧
      (∀ slot : Slot,
        decode bytes = .ok slot ↔ 16 ≤ bytes.length ∧ slot.encode = canonical bytes) ∧
      ∀ other : List UInt8, other.length = bytes.length → other.take 4 = bytes.take 4 →
        other.drop 8 = bytes.drop 8 → decode other = decode bytes :=
  ⟨fun slot => ⟨slot.encode_length, decode_encode_append slot⟩, fun _ =>
    ⟨decode_fails_iff, fun _ => decode_eq_ok_iff, fun _ => decode_congr⟩⟩

theorem codec_exact_dirtyNull :
    ∃ bytes other : List UInt8, decode bytes = .ok .null ∧
      Slot.null.encode = canonical bytes ∧ canonical bytes ≠ bytes.take 16 ∧
      other.length = bytes.length ∧ other.take 4 = bytes.take 4 ∧ other.drop 8 = bytes.drop 8 ∧
      other ≠ bytes ∧ decode other = decode bytes := by
  -- A null that comes with a number, and with something in the reserved word.
  let bytes : List UInt8 := [0, 0, 0, 0, 0xDE, 0xAD, 0xBE, 0xEF, 1, 2, 3, 4, 5, 6, 7, 8, 9]
  let other : List UInt8 := [0, 0, 0, 0, 0, 0, 0, 0, 1, 2, 3, 4, 5, 6, 7, 8, 9]
  obtain ⟨-, hread⟩ := codec_exact
  obtain ⟨-, hok, hother⟩ := hread bytes
  have hdecode : decode bytes = .ok .null := rfl
  exact ⟨bytes, other, hdecode, ((hok .null).mp hdecode).2, by decide, rfl, rfl, rfl, by decide,
    hother other rfl rfl rfl⟩

end RowPager.Slot
