import RowPager.Error

/-!
Headers in a caller's buffer. The buffer has to be long enough for one.
-/

set_option autoImplicit false

namespace RowPager.Header

def read (buffer : ByteArray) : Except Violation Header :=
  if buffer.size < Layout.headerSize then .error .headerBuffer
  else .ok (decode (buffer.data.toList.take Layout.headerSize))

def write (header : Header) (buffer : ByteArray) : Except Violation ByteArray :=
  if buffer.size < Layout.headerSize then .error .headerBuffer
  else .ok (header.encode.toByteArray ++ buffer.extract Layout.headerSize buffer.size)

end RowPager.Header
