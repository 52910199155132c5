import RowPager.Bytes.LittleEndian

/-!
Reading and writing inside a buffer of fixed size. A read that would leave the buffer has no
answer, and a write that would leave it changes nothing, so no access depends on bytes outside.
-/

set_option autoImplicit false

namespace RowPager.Buffer

def zeros (size : Nat) : ByteArray := ⟨Array.replicate size 0⟩

def slice? (buffer : ByteArray) (offset length : Nat) : Option ByteArray :=
  if offset + length ≤ buffer.size then some (buffer.extract offset (offset + length)) else none

def word? (buffer : ByteArray) (offset : Nat) : Option UInt32 :=
  if h : offset + 4 ≤ buffer.size then
    some (UInt32.ofNat (buffer[offset].toNat + 256 * (buffer[offset + 1].toNat +
      256 * (buffer[offset + 2].toNat + 256 * buffer[offset + 3].toNat))))
  else none

def write (buffer : ByteArray) (offset : Nat) (bytes : ByteArray) : ByteArray :=
  if offset + bytes.size ≤ buffer.size then bytes.copySlice 0 buffer offset bytes.size else buffer

def writeWord (buffer : ByteArray) (offset : Nat) (word : UInt32) : ByteArray :=
  write buffer offset (LittleEndian.encode 4 word.toNat).toByteArray

@[simp] theorem zeros_size (size : Nat) : (zeros size).size = size := by
  simp [zeros, ByteArray.size]

theorem write_eq_append (buffer : ByteArray) (offset : Nat) (bytes : ByteArray)
    (hfit : offset + bytes.size ≤ buffer.size) :
    write buffer offset bytes =
      buffer.extract 0 offset ++ bytes ++ buffer.extract (offset + bytes.size) buffer.size := by
  have hs : bytes.data.size = bytes.size := rfl
  have hb : buffer.data.size = buffer.size := rfl
  rw [write, if_pos hfit, ByteArray.copySlice_eq_append, hs, hb, Nat.sub_zero, Nat.min_self,
    Nat.zero_add, ByteArray.extract_zero_size]

@[simp] theorem write_size (buffer : ByteArray) (offset : Nat) (bytes : ByteArray) :
    (write buffer offset bytes).size = buffer.size := by
  by_cases hfit : offset + bytes.size ≤ buffer.size
  · rw [write_eq_append _ _ _ hfit]
    simp only [ByteArray.size_append, ByteArray.size_extract]
    omega
  · rw [write, if_neg hfit]

@[simp] theorem writeWord_size (buffer : ByteArray) (offset : Nat) (word : UInt32) :
    (writeWord buffer offset word).size = buffer.size := write_size ..

/-- Inside the written range stand the new bytes, elsewhere the old ones. -/
theorem write_getElem (buffer : ByteArray) (offset : Nat) (bytes : ByteArray)
    (hfit : offset + bytes.size ≤ buffer.size) (i : Nat)
    (hw : i < (write buffer offset bytes).size) (hi : i < buffer.size) :
    (write buffer offset bytes)[i] =
      if h : offset ≤ i ∧ i < offset + bytes.size then bytes[i - offset] else buffer[i] := by
  have hleft : (buffer.extract 0 offset).size = offset := by
    rw [ByteArray.size_extract]; omega
  have hmid : (buffer.extract 0 offset ++ bytes).size = offset + bytes.size := by
    rw [ByteArray.size_append, hleft]
  simp only [write_eq_append _ _ _ hfit]
  by_cases h₁ : i < offset
  · rw [ByteArray.getElem_append_left (by omega), ByteArray.getElem_append_left (by omega),
      ByteArray.getElem_extract, dif_neg (by omega)]
    simp
  · by_cases h₂ : i < offset + bytes.size
    · rw [ByteArray.getElem_append_left (by omega), ByteArray.getElem_append_right (by omega),
        dif_pos ⟨by omega, h₂⟩]
      simp only [hleft]
    · rw [ByteArray.getElem_append_right (by omega), ByteArray.getElem_extract,
        dif_neg (by omega)]
      simp only [hmid]
      congr 1
      omega

theorem word?_eq (buffer : ByteArray) (offset : Nat) :
    word? buffer offset =
      (slice? buffer offset 4).map fun s => UInt32.ofNat (LittleEndian.decode s.data.toList) := by
  unfold word? slice?
  split
  · next h =>
    rw [ByteArray.extract_add_four h]
    simp [LittleEndian.decode]
  · rfl

end RowPager.Buffer
