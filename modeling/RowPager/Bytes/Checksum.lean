/-!
The 32-bit cyclic redundancy check with the reflected polynomial 0xEDB88320. The register starts
as all ones and is inverted at the end.
-/

set_option autoImplicit false

namespace RowPager.Checksum

def polynomial : UInt32 := 0xEDB88320

def shiftBit (register : UInt32) : UInt32 :=
  if register &&& 1 = 1 then (register >>> 1) ^^^ polynomial else register >>> 1

def shiftBits : Nat → UInt32 → UInt32
  | 0, register => register
  | count + 1, register => shiftBits count (shiftBit register)

def feed (register : UInt32) (byte : UInt8) : UInt32 :=
  shiftBits 8 (register ^^^ byte.toUInt32)

def feedAll (register : UInt32) (bytes : List UInt8) : UInt32 :=
  bytes.foldl feed register

theorem feedAll_append (register : UInt32) (left right : List UInt8) :
    feedAll register (left ++ right) = feedAll (feedAll register left) right :=
  List.foldl_append

def ofBytes (bytes : ByteArray) : UInt32 :=
  ~~~ feedAll 0xFFFFFFFF bytes.data.toList

-- The check value that the standard gives for the nine digits.
example : ofBytes "123456789".toUTF8 = 0xCBF43926 := by
  decide +kernel

end RowPager.Checksum
