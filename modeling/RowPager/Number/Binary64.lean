/-!
64-bit binary floats as their bits. All arithmetic is exact arithmetic on whole numbers, rounded
once: to the nearest value, and a tie to the even one.
-/

set_option autoImplicit false

namespace RowPager

/-- The whole number nearest to a quotient, a tie going to the even one. -/
def roundDiv (num den : Nat) : Nat :=
  let quotient := num / den
  let rest := num % den
  if den < 2 * rest ∨ (2 * rest = den ∧ quotient % 2 = 1) then quotient + 1 else quotient

/-- A float, told apart from others by its bits alone. -/
structure Binary64 where
  bits : UInt64
  deriving DecidableEq

namespace Binary64

def isNegative (x : Binary64) : Bool := Nat.pow 2 63 ≤ x.bits.toNat

def exponentField (x : Binary64) : Nat := x.bits.toNat / Nat.pow 2 52 % Nat.pow 2 11

def fractionField (x : Binary64) : Nat := x.bits.toNat % Nat.pow 2 52

def isNaN (x : Binary64) : Bool := x.exponentField = 2047 && x.fractionField != 0

/-- A finite magnitude is `significand * 2 ^ exponent`. -/
def significand (x : Binary64) : Nat :=
  if x.exponentField = 0 then x.fractionField else Nat.pow 2 52 + x.fractionField

def exponent (x : Binary64) : Int := (max x.exponentField 1 : Nat) - 1075

def scale (n : Nat) (e : Int) : Nat × Nat := (n * Nat.pow 2 e.toNat, Nat.pow 2 (-e).toNat)

def magnitude (x : Binary64) : Nat :=
  let (num, den) := scale x.significand x.exponent
  num / den

/-- The integer part, kept inside the range of 64 bits. A NaN has none and gives zero. -/
def toInt64 (x : Binary64) : Int64 :=
  if x.isNaN then 0
  else if x.isNegative then Int64.ofIntClamp (-x.magnitude)
  else Int64.ofIntClamp x.magnitude

def neg (x : Binary64) : Binary64 := ⟨x.bits ^^^ 0x8000000000000000⟩

/-- The float nearest to a quotient that is zero or lies in the normal range. The exponent leaves
53 bits before the point; a carry out of them moves on into the exponent field. -/
def ofRatio (num den : Nat) : Binary64 :=
  if num = 0 then ⟨0⟩
  else
    let guess : Int := (num.log2 : Int) - den.log2 - 52
    let quotientAt (e : Int) : Nat × Nat := (num * Nat.pow 2 (-e).toNat, den * Nat.pow 2 e.toNat)
    let (n, d) := quotientAt guess
    let e := if n / d < Nat.pow 2 52 then guess - 1 else guess
    let (n, d) := quotientAt e
    ⟨UInt64.ofNat ((e + 1075).toNat * Nat.pow 2 52 + (roundDiv n d - Nat.pow 2 52))⟩

def ofNat (n : Nat) : Binary64 := ofRatio n 1

def ofInt64 (i : Int64) : Binary64 :=
  if i < 0 then (ofNat i.toInt.natAbs).neg else ofNat i.toInt.natAbs

def quotient (num den : Nat) : Binary64 := ofRatio (ofNat num).magnitude (ofNat den).magnitude

def oneDecimal (x : Binary64) : String :=
  let (num, den) := scale (10 * x.significand) x.exponent
  let tenths := roundDiv num den
  s!"{tenths / 10}.{tenths % 10}"

end Binary64

end RowPager
