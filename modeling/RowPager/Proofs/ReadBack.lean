import Mathlib.Algebra.Group.Nat.Defs
import RowPager.Bytes.Reading

/-!
What a buffer holds after a write: the written bytes where they were written, the old ones
elsewhere.
-/

set_option autoImplicit false

namespace RowPager.Buffer

/-- The bytes stand at `offset`, wholly inside the buffer. -/
def Has (buffer : ByteArray) (offset : Nat) (bytes : ByteArray) : Prop :=
  slice? buffer offset bytes.size = some bytes

theorem has_iff {buffer : ByteArray} {offset : Nat} {bytes : ByteArray} :
    Has buffer offset bytes ↔
      offset + bytes.size ≤ buffer.size ∧
        buffer.extract offset (offset + bytes.size) = bytes := by
  unfold Has slice?
  by_cases h : offset + bytes.size ≤ buffer.size
  · simp [h]
  · simp [h]

theorem slice_of_has {buffer : ByteArray} {offset length : Nat} {bytes : ByteArray}
    (h : Has buffer offset bytes) (hl : length = bytes.size) :
    slice buffer offset length = .ok bytes := by
  subst hl
  rw [slice, show slice? buffer offset bytes.size = some bytes from h]

theorem has_write (buffer : ByteArray) (offset : Nat) (bytes : ByteArray)
    (hfit : offset + bytes.size ≤ buffer.size) :
    Has (write buffer offset bytes) offset bytes := by
  rw [has_iff]
  refine ⟨by simpa using hfit, ?_⟩
  apply ByteArray.ext_getElem
  · rw [ByteArray.size_extract, write_size]; omega
  · intro i hi hb
    rw [ByteArray.getElem_extract,
      write_getElem _ _ _ hfit _ (by rw [write_size]; omega) (by omega), dif_pos (by omega)]
    simp only [Nat.add_sub_cancel_left]

theorem Has.write_apart {buffer : ByteArray} {start : Nat} {old : ByteArray}
    (h : Has buffer start old) (offset : Nat) (bytes : ByteArray)
    (hapart : start + old.size ≤ offset ∨ offset + bytes.size ≤ start) :
    Has (write buffer offset bytes) start old := by
  obtain ⟨hin, hold⟩ := has_iff.mp h
  by_cases hfit : offset + bytes.size ≤ buffer.size
  · rw [has_iff, write_size]
    refine ⟨hin, ?_⟩
    apply ByteArray.ext_getElem
    · rw [ByteArray.size_extract, write_size]; omega
    · intro i hi ho
      have hread : ∀ h : i < (buffer.extract start (start + old.size)).size,
          (buffer.extract start (start + old.size))[i] = old[i] := by
        intro h
        simp only [hold]
      have hb := hread (by rw [hold]; exact ho)
      rw [ByteArray.getElem_extract] at hb
      rw [ByteArray.getElem_extract,
        write_getElem _ _ _ hfit _ (by rw [write_size]; omega) (by omega), dif_neg (by omega)]
      exact hb
  · rw [write, if_neg hfit]
    exact h

theorem has_write_zeros (buffer : ByteArray) (offset size : Nat)
    (hfit : offset + size ≤ buffer.size) {start length : Nat} (hlo : offset ≤ start)
    (hhi : start + length ≤ offset + size) :
    Has (write buffer offset (zeros size)) start (zeros length) := by
  have hz : offset + (zeros size).size ≤ buffer.size := by simpa using hfit
  rw [has_iff, write_size, zeros_size]
  refine ⟨by omega, ?_⟩
  apply ByteArray.ext_getElem
  · rw [ByteArray.size_extract, write_size, zeros_size]; omega
  · intro i hi hl
    rw [zeros_size] at hl
    rw [ByteArray.getElem_extract,
      write_getElem _ _ _ hz _ (by rw [write_size]; omega) (by omega),
      dif_pos (by rw [zeros_size]; omega)]
    simp [zeros, ByteArray.getElem_eq_getElem_data]

def wordBytes (n : Nat) : ByteArray := (LittleEndian.encode 4 n).toByteArray

@[simp] theorem wordBytes_size (n : Nat) : (wordBytes n).size = 4 := by
  simp [wordBytes]

theorem word_of_has {buffer : ByteArray} {offset n : Nat} (h : Has buffer offset (wordBytes n)) :
    word buffer offset = .ok (.ofNat n) := by
  have hs : slice? buffer offset 4 = some (wordBytes n) := by
    simpa [Has] using h
  have hd : UInt32.ofNat (n % 256 ^ 4) = .ofNat n := by
    apply UInt32.toNat_inj.mp
    simp
  have hw : word? buffer offset = some (.ofNat n) := by
    rw [word?_eq, hs]
    simpa [wordBytes, LittleEndian.decode_encode] using hd
  rw [word, hw]

theorem toNat_ofNat {n : Nat} (h : n < 2 ^ 32) : (UInt32.ofNat n).toNat = n :=
  UInt32.toNat_ofNat_of_lt' h

theorem writeWord_eq (buffer : ByteArray) (offset : Nat) {n : Nat} (hn : n < 2 ^ 32) :
    writeWord buffer offset (.ofNat n) = write buffer offset (wordBytes n) := by
  rw [writeWord, wordBytes, toNat_ofNat hn]

end RowPager.Buffer
