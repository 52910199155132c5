import RowPager.Bytes.Buffer
import RowPager.Error

/-!
Reads that report an error when they would leave the buffer.
-/

set_option autoImplicit false

namespace RowPager.Buffer

def slice (buffer : ByteArray) (offset length : Nat) : Except Error ByteArray :=
  match slice? buffer offset length with
  | some bytes => .ok bytes
  | none => .error (.outOfBounds offset length buffer.size)

def word (buffer : ByteArray) (offset : Nat) : Except Error UInt32 :=
  match word? buffer offset with
  | some word => .ok word
  | none => .error (.outOfBounds offset 4 buffer.size)

end RowPager.Buffer
