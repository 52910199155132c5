import RowPager.Bytes.Checksum
import RowPager.Window.Basic

/-!
Parcels: the used bytes of a window, for another process. A parcel is the magic, the number of
window bytes, the start position, the window bytes with their header, and a checksum of all that.
A window taken from a parcel is read-only and has no free space.
-/

set_option autoImplicit false

namespace RowPager

namespace Parcel

def magic : List UInt8 := [0x43, 0x57, 0x49, 0x4E]

abbrev leadSize : Nat := 12

abbrev checksumSize : Nat := 4

def body (start : Nat) (image : ByteArray) : ByteArray :=
  (magic ++ LittleEndian.encode 4 image.size ++ LittleEndian.encode 4 start).toByteArray ++ image

def withChecksum (body : ByteArray) : ByteArray :=
  body ++ (LittleEndian.encode 4 (Checksum.ofBytes body).toNat).toByteArray

end Parcel

namespace Window

def image (w : Window) : ByteArray :=
  w.header.encode.toByteArray ++ w.bytes.extract Layout.headerSize w.used

def toParcel (w : Window) : Except Error ByteArray :=
  if UInt32.size ≤ w.startPosition then .error (.invalidConfig (.startPosition w.startPosition))
  else .ok (Parcel.withChecksum (Parcel.body w.startPosition w.image))

def ofImage (name : String) (startPosition : Nat) (image : ByteArray) : Except Error Window := do
  if image.size < Layout.minCapacity then .error (.corrupted (.belowMinimum image.size))
  else
    let header := Header.decode (← Buffer.slice image 0 Layout.headerSize).data.toList
    if header.freeOffset.toNat ≠ image.size ∨ header.firstChunk.toNat ≠ Layout.headerSize then
      .error (.corrupted (.inconsistentHeader header))
    else .ok ⟨name, header, image, true, startPosition, none⟩

/-- Opens a parcel. The checksum is looked at before anything inside the window. -/
def ofParcel (name : String) (parcel : ByteArray) : Except Error Window := do
  if parcel.size < Parcel.leadSize + Parcel.checksumSize then .error (.corrupted .notParcel)
  else if (← Buffer.slice parcel 0 4).data.toList ≠ Parcel.magic then
    .error (.corrupted .notParcel)
  else
    let declared := (← Buffer.word parcel 4).toNat
    let start ← Buffer.word parcel 8
    if parcel.size ≠ Parcel.leadSize + declared + Parcel.checksumSize then
      .error (.corrupted
        (.wrongLength declared (parcel.size - (Parcel.leadSize + Parcel.checksumSize))))
    else
      let stored ← Buffer.word parcel (Parcel.leadSize + declared)
      let computed := Checksum.ofBytes (← Buffer.slice parcel 0 (Parcel.leadSize + declared))
      if stored ≠ computed then .error (.corrupted (.wrongChecksum stored computed))
      else ofImage name start.toNat (← Buffer.slice parcel Parcel.leadSize declared)

end Window

end RowPager
