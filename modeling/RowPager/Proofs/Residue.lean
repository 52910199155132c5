import RowPager.Bytes.Checksum
import RowPager.Proofs.ReadBack

/-!
The register of the checksum. Shifts are linear in the exclusive or and lose nothing, so that the
register before a byte can be told from the one after it, and up to four bytes from what they make
of a register. Bytes with their checksum behind them always leave the same register.
-/

set_option autoImplicit false

namespace RowPager.Checksum

theorem shiftBit_eq (register : UInt32) :
    shiftBit register =
      (register >>> 1) ^^^ bif register.toNat.testBit 0 then polynomial else 0 := by
  have hand : (register &&& 1).toNat = register.toNat % 2 := by
    rw [UInt32.toNat_and]
    exact Nat.and_one_is_mod register.toNat
  have hodd : register &&& 1 = 1 ↔ register.toNat % 2 = 1 := by
    rw [← hand]
    exact UInt32.toNat_inj.symm
  rw [shiftBit, Nat.testBit_zero]
  by_cases h : register.toNat % 2 = 1
  · rw [if_pos (hodd.mpr h), decide_eq_true h, cond_true]
  · rw [if_neg (mt hodd.mp h), decide_eq_false h, cond_false, UInt32.xor_zero]

theorem shiftBit_xor (left right : UInt32) :
    shiftBit (left ^^^ right) = shiftBit left ^^^ shiftBit right := by
  have hcancel : ∀ a b p : UInt32, (a ^^^ p) ^^^ (b ^^^ p) = a ^^^ b := by
    intro a b p
    rw [UInt32.xor_assoc a, UInt32.xor_comm b p, ← UInt32.xor_assoc p, UInt32.xor_self,
      UInt32.zero_xor]
  rw [shiftBit_eq, shiftBit_eq, shiftBit_eq, UInt32.toNat_xor, Nat.testBit_xor,
    UInt32.shiftRight_xor]
  cases left.toNat.testBit 0 with
  | false =>
    cases right.toNat.testBit 0 with
    | false => simp only [Bool.xor_false, cond_false, UInt32.xor_zero]
    | true => simp only [Bool.false_xor, cond_true, cond_false, UInt32.xor_zero, UInt32.xor_assoc]
  | true =>
    cases right.toNat.testBit 0 with
    | false =>
      simp only [Bool.xor_false, cond_true, cond_false, UInt32.xor_zero]
      ac_rfl
    | true => simp only [Bool.xor_self, cond_true, cond_false, UInt32.xor_zero, hcancel]

theorem shiftBits_xor (count : Nat) (left right : UInt32) :
    shiftBits count (left ^^^ right) = shiftBits count left ^^^ shiftBits count right := by
  induction count generalizing left right with
  | zero => rfl
  | succ count ih => rw [shiftBits, shiftBits, shiftBits, shiftBit_xor, ih]

theorem shiftBits_add (m n : Nat) (register : UInt32) :
    shiftBits (m + n) register = shiftBits n (shiftBits m register) := by
  induction m generalizing register with
  | zero => rw [Nat.zero_add, shiftBits]
  | succ m ih => rw [Nat.succ_add, shiftBits, shiftBits, ih]

theorem shiftRight_one_toNat (register : UInt32) :
    (register >>> 1).toNat = register.toNat / 2 := by
  rw [UInt32.toNat_shiftRight]
  exact Nat.shiftRight_eq_div_pow register.toNat 1

theorem eq_zero_of_shiftBit {register : UInt32} (h : shiftBit register = 0) : register = 0 := by
  -- The polynomial has its highest bit set, so nothing that was shifted can equal it.
  have hlt := register.toNat_lt
  have hshift := shiftRight_one_toNat register
  rw [shiftBit_eq, UInt32.xor_eq_zero_iff] at h
  rw [h, Nat.testBit_zero] at hshift
  apply UInt32.toNat_inj.mp
  show register.toNat = 0
  by_cases hodd : register.toNat % 2 = 1
  · rw [decide_eq_true hodd, cond_true] at hshift
    have hpoly : polynomial.toNat = 0xEDB88320 := rfl
    omega
  · rw [decide_eq_false hodd, cond_false] at hshift
    have hzero : (0 : UInt32).toNat = 0 := rfl
    omega

theorem eq_zero_of_shiftBits {count : Nat} {register : UInt32} (h : shiftBits count register = 0) :
    register = 0 := by
  induction count generalizing register with
  | zero => exact h
  | succ count ih => exact eq_zero_of_shiftBit (ih h)

theorem shiftBits_inj {count : Nat} {left right : UInt32}
    (h : shiftBits count left = shiftBits count right) : left = right := by
  rw [← UInt32.xor_eq_zero_iff, ← shiftBits_xor] at h
  exact UInt32.xor_eq_zero_iff.mp (eq_zero_of_shiftBits h)

theorem shiftBits_ofNat {count n : Nat} (hlt : 2 ^ count * n < 2 ^ 32) :
    shiftBits count (.ofNat (2 ^ count * n)) = .ofNat n := by
  -- As long as only zeros are shifted out, a shift is a division.
  induction count with
  | zero => rw [Nat.pow_zero, Nat.one_mul, shiftBits]
  | succ count ih =>
    have hdouble : 2 ^ (count + 1) * n = 2 * (2 ^ count * n) := by
      rw [Nat.pow_succ, Nat.mul_right_comm, Nat.mul_comm]
    rw [hdouble] at hlt ⊢
    have hnat : (UInt32.ofNat (2 * (2 ^ count * n))).toNat = 2 * (2 ^ count * n) :=
      Buffer.toNat_ofNat hlt
    have hshift : shiftBit (.ofNat (2 * (2 ^ count * n))) = .ofNat (2 ^ count * n) := by
      apply UInt32.toNat_inj.mp
      rw [shiftBit_eq, hnat, Nat.testBit_zero, Nat.mul_mod_right, decide_eq_false (by decide),
        cond_false, UInt32.xor_zero, shiftRight_one_toNat, hnat, Buffer.toNat_ofNat (by omega)]
      omega
    rw [shiftBits, hshift, ih (by omega)]

theorem feed_inj {byte : UInt8} {left right : UInt32} (h : feed left byte = feed right byte) :
    left = right :=
  UInt32.xor_left_inj byte.toUInt32 |>.mp (shiftBits_inj h)

theorem feedAll_inj_register {bytes : List UInt8} {left right : UInt32}
    (h : feedAll left bytes = feedAll right bytes) : left = right := by
  induction bytes generalizing left right with
  | nil => exact h
  | cons byte rest ih => exact feed_inj (ih h)

theorem add_eq_xor {low high : Nat} (hlow : low < 2 ^ 8) :
    low + 256 * high = low ^^^ 2 ^ 8 * high := by
  apply Nat.eq_of_testBit_eq
  intro i
  rw [Nat.add_comm, show 256 * high = 2 ^ 8 * high from rfl, Nat.testBit_two_pow_mul_add _ hlow,
    Nat.testBit_xor, Nat.testBit_two_pow_mul]
  by_cases hi : i < 8
  · rw [if_pos hi, decide_eq_false (Nat.not_le_of_lt hi), Bool.false_and, Bool.xor_false]
  · have hle := Nat.le_of_not_lt hi
    have hzero : low.testBit i = false :=
      Nat.testBit_lt_two_pow (Nat.lt_of_lt_of_le hlow (Nat.pow_le_pow_right (by decide) hle))
    rw [if_neg hi, decide_eq_true hle, Bool.true_and, hzero, Bool.false_xor]

theorem decode_lt_word {bytes : List UInt8} (hlength : bytes.length ≤ 4) :
    LittleEndian.decode bytes < 2 ^ 32 :=
  Nat.lt_of_lt_of_le (LittleEndian.decode_lt bytes) (Nat.pow_le_pow_right (by decide) hlength)

theorem ofNat_decode_cons {byte : UInt8} {rest : List UInt8} (hlength : (byte :: rest).length ≤ 4) :
    UInt32.ofNat (LittleEndian.decode (byte :: rest)) =
      byte.toUInt32 ^^^ .ofNat (2 ^ 8 * LittleEndian.decode rest) := by
  -- The first byte of a word does not meet the others in an addition.
  have hlt : byte.toNat + 256 * LittleEndian.decode rest < 2 ^ 32 := decode_lt_word hlength
  apply UInt32.toNat_inj.mp
  rw [UInt32.toNat_xor, UInt8.toNat_toUInt32, LittleEndian.decode, Buffer.toNat_ofNat hlt,
    Buffer.toNat_ofNat (by omega)]
  exact add_eq_xor byte.toNat_lt

theorem feedAll_eq_shiftBits {bytes : List UInt8} (hlength : bytes.length ≤ 4)
    (register : UInt32) :
    feedAll register bytes =
      shiftBits (8 * bytes.length) (register ^^^ .ofNat (LittleEndian.decode bytes)) := by
  induction bytes generalizing register with
  | nil => exact (UInt32.xor_zero ..).symm
  | cons byte rest ih =>
    have hlt : byte.toNat + 256 * LittleEndian.decode rest < 2 ^ 32 := decode_lt_word hlength
    have hfirst : shiftBits 8 (register ^^^ .ofNat (LittleEndian.decode (byte :: rest))) =
        feed register byte ^^^ .ofNat (LittleEndian.decode rest) := by
      rw [ofNat_decode_cons hlength, ← UInt32.xor_assoc, shiftBits_xor,
        shiftBits_ofNat (by omega)]
      rfl
    rw [List.length_cons, Nat.mul_succ, Nat.add_comm, shiftBits_add, hfirst,
      ← ih (Nat.le_of_succ_le hlength)]
    rfl

theorem feedAll_inj_bytes {register : UInt32} {left right : List UInt8}
    (hlength : left.length = right.length) (hshort : left.length ≤ 4)
    (h : feedAll register left = feedAll register right) : left = right := by
  have hshort' : right.length ≤ 4 := hlength ▸ hshort
  rw [feedAll_eq_shiftBits hshort, feedAll_eq_shiftBits hshort', hlength] at h
  have hdecode := congrArg UInt32.toNat ((UInt32.xor_right_inj register).mp (shiftBits_inj h))
  rw [Buffer.toNat_ofNat (decode_lt_word hshort), Buffer.toNat_ofNat (decode_lt_word hshort')]
    at hdecode
  rw [← LittleEndian.encode_decode left, ← LittleEndian.encode_decode right, hlength, hdecode]

/-- What is left in the register by bytes that have their checksum behind them. -/
def residue : UInt32 := shiftBits 32 (~~~ 0)

theorem feedAll_checksum (register : UInt32) :
    feedAll register (LittleEndian.encode 4 (~~~ register).toNat) = residue := by
  have hlength : (LittleEndian.encode 4 (~~~ register).toNat).length = 4 :=
    LittleEndian.encode_length ..
  rw [feedAll_eq_shiftBits (Nat.le_of_eq hlength), hlength, LittleEndian.decode_encode,
    Nat.mod_eq_of_lt (~~~ register).toNat_lt, UInt32.ofNat_toNat, UInt32.xor_not,
    UInt32.xor_self]
  rfl

end RowPager.Checksum
