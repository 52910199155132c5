/-!
Hexadecimal text, with lower-case digits.
-/

set_option autoImplicit false

namespace RowPager.Hex

def shortest (n : Nat) : String := String.ofList (Nat.toDigits 16 n)

def word (w : UInt32) : String :=
  "0x" ++ String.ofList ((Nat.toDigits 16 w.toNat).leftpad 8 '0')

end RowPager.Hex
