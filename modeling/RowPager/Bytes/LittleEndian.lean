/-!
Little-endian numbers of a fixed width, lowest byte first. Reading undoes writing up to the width,
and writing undoes reading for every list of bytes.
-/

set_option autoImplicit false

namespace RowPager.LittleEndian

/-- The lowest `width` bytes of a number. Higher bytes are dropped. -/
def encode : Nat → Nat → List UInt8
  | 0, _ => []
  | width + 1, n => n.toUInt8 :: encode width (n / 256)

def decode : List UInt8 → Nat
  | [] => 0
  | b :: rest => b.toNat + 256 * decode rest

@[simp] theorem encode_length (width n : Nat) : (encode width n).length = width := by
  induction width generalizing n with
  | zero => rfl
  | succ width ih => simp [encode, ih]

theorem decode_encode (width n : Nat) : decode (encode width n) = n % Nat.pow 256 width := by
  induction width generalizing n with
  | zero => simp [encode, decode, Nat.mod_one]
  | succ width ih =>
    have hd : n.toUInt8.toNat = n % 256 := by simp
    have hp : Nat.pow 256 (width + 1) = 256 * Nat.pow 256 width := Nat.mul_comm ..
    rw [encode, decode, ih, hd, hp, Nat.mod_mul]

theorem encode_decode (bytes : List UInt8) : encode bytes.length (decode bytes) = bytes := by
  induction bytes with
  | nil => rfl
  | cons b rest ih =>
    have hb := b.toNat_lt
    have hlow : (b.toNat + 256 * decode rest).toUInt8 = b := by
      apply UInt8.toNat_inj.mp
      simp only [Nat.toUInt8_eq, UInt8.toNat_ofNat']
      omega
    have hhigh : (b.toNat + 256 * decode rest) / 256 = decode rest := by omega
    rw [List.length_cons, decode, encode, hlow, hhigh, ih]

theorem decode_lt (bytes : List UInt8) : decode bytes < Nat.pow 256 bytes.length := by
  have h := decode_encode bytes.length (decode bytes)
  rw [encode_decode] at h
  rw [h]
  exact Nat.mod_lt _ (Nat.pow_pos (by decide))

theorem encode_word {bytes : List UInt8} (hlength : bytes.length = 4) :
    encode 4 (UInt32.ofNat (decode bytes)).toNat = bytes := by
  have hlt := decode_lt bytes
  have hencode := encode_decode bytes
  rw [hlength] at hlt hencode
  rw [UInt32.toNat_ofNat_of_lt' hlt, hencode]

theorem encode_doubleWord {bytes : List UInt8} (hlength : bytes.length = 8) :
    encode 8 (UInt64.ofNat (decode bytes)).toNat = bytes := by
  have hlt := decode_lt bytes
  have hencode := encode_decode bytes
  rw [hlength] at hlt hencode
  rw [UInt64.toNat_ofNat_of_lt' hlt, hencode]

end RowPager.LittleEndian
