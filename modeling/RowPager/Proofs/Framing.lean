import RowPager.Proofs.CheckedRead
import RowPager.Window.Parcel

/-!
Parcels as their parts. A parcel opens exactly if it is what is written for the window that comes
of it; any other bytes are found to be corrupted.
-/

set_option autoImplicit false

namespace RowPager

namespace Header

theorem decode_encode (header : Header) : decode header.encode = header := by
  have hword : ∀ word : UInt32,
      UInt32.ofNat (LittleEndian.decode (LittleEndian.encode 4 word.toNat)) = word := by
    intro word
    rw [LittleEndian.decode_encode, Nat.mod_eq_of_lt word.toNat_lt, UInt32.ofNat_toNat]
  simp [decode, encode, List.drop_append, List.drop_of_length_le,
    List.take_of_length_le, hword]

theorem encode_decode {bytes : List UInt8} (hlength : bytes.length = 16) :
    (decode bytes).encode = bytes := by
  have hword : ∀ offset : Nat, offset + 4 ≤ 16 →
      LittleEndian.encode 4
        (UInt32.ofNat (LittleEndian.decode ((bytes.drop offset).take 4))).toNat =
        (bytes.drop offset).take 4 := by
    intro offset hin
    have hsize : ((bytes.drop offset).take 4).length = 4 := by
      rw [List.length_take, List.length_drop]
      omega
    exact LittleEndian.encode_word hsize
  have hparts : bytes = bytes.take 4 ++ (bytes.drop 4).take 4 ++ (bytes.drop 8).take 4 ++
      (bytes.drop 12).take 4 := by
    rw [← List.take_add, ← List.take_add, ← List.take_add, List.take_of_length_le (by omega)]
  have hfirst := hword 0 (by decide)
  rw [List.drop_zero] at hfirst
  conv => rhs; rw [hparts]
  simp only [decode, encode, List.drop_zero, hfirst, hword 4 (by decide), hword 8 (by decide),
    hword 12 (by decide)]

end Header

namespace Parcel

open Buffer

theorem body_eq (start : Nat) (image : ByteArray) :
    body start image =
      magic.toByteArray ++ (wordBytes image.size ++ (wordBytes start ++ image)) := by
  simp [body, wordBytes, List.toByteArray_append, ByteArray.append_assoc]

theorem body_size (start : Nat) (image : ByteArray) :
    (body start image).size = 12 + image.size := by
  simp [body_eq, magic]
  omega

theorem withChecksum_eq (body : ByteArray) :
    withChecksum body = body ++ wordBytes (Checksum.ofBytes body).toNat := rfl

theorem withChecksum_size (body : ByteArray) : (withChecksum body).size = body.size + 4 := by
  simp [withChecksum_eq]

structure HasParts (parcel : ByteArray) (start : Nat) (image : ByteArray) : Prop where
  magic : Has parcel 0 magic.toByteArray
  size : Has parcel 4 (wordBytes image.size)
  start : Has parcel 8 (wordBytes start)
  image : Has parcel 12 image

theorem has_body_iff {parcel : ByteArray} {start : Nat} {image : ByteArray} :
    Has parcel 0 (body start image) ↔ HasParts parcel start image := by
  rw [body_eq, has_append_iff, has_append_iff, has_append_iff]
  simp only [wordBytes_size]
  exact ⟨fun ⟨hmagic, hsize, hstart, himage⟩ => ⟨hmagic, hsize, hstart, himage⟩,
    fun ⟨hmagic, hsize, hstart, himage⟩ => ⟨hmagic, hsize, hstart, himage⟩⟩

theorem HasParts.eq {parcel : ByteArray} {start : Nat} {image : ByteArray}
    (h : HasParts parcel start image) (hsize : parcel.size = (body start image).size + 4)
    (hsum : Has parcel (12 + image.size) (wordBytes (Checksum.ofBytes (body start image)).toNat)) :
    parcel = withChecksum (body start image) := by
  rw [← body_size start image, ← Nat.zero_add (body start image).size] at hsum
  exact (has_append_iff.mpr ⟨has_body_iff.mpr h, hsum⟩).eq_of_size (by simpa using hsize)

end Parcel

namespace Window

open Buffer Parcel

/-- A window as it comes out of a parcel: the buffer is as long as the header in it says. -/
structure IsOpened (w : Window) (name : String) : Prop where
  name : w.name = name
  readOnly : w.readOnly = true
  pending : w.pending = none
  header : Has w.bytes 0 w.header.encode.toByteArray
  minimum : 420 ≤ w.capacity
  used : w.used = w.capacity
  firstChunk : w.header.firstChunk.toNat = 16

variable {name : String} {w : Window}

theorem IsOpened.limit (h : w.IsOpened name) : w.capacity < 2 ^ 32 := by
  rw [← h.used]
  exact w.header.freeOffset.toNat_lt

theorem ofImage_concur (name : String) (start : Nat) (image : ByteArray) :
    Concur (fun w => w.IsOpened name ∧ w.startPosition = start ∧ w.bytes = image)
      (ofImage name start image) (ofImage name start image) := by
  unfold ofImage
  split
  · exact .corrupted _
  next hshort =>
  have hmin : 420 ≤ image.size := Nat.le_of_not_lt hshort
  have hin : 0 + Layout.headerSize ≤ image.size := Nat.le_trans (by decide) hmin
  refine (slice_concur (shares_self hin)).bind fun lead ⟨hsize, hlead⟩ => ?_
  have hencode : (Header.decode lead.data.toList).encode.toByteArray = lead := by
    rw [Header.encode_decode hsize]
    exact ByteArray.ext (by simp)
  simp only
  split
  · exact .corrupted _
  next hheader =>
  rw [← hencode] at hlead
  obtain ⟨hused, hfirst⟩ := not_or.mp hheader
  exact .ok ⟨⟨rfl, rfl, rfl, hlead, hmin, Decidable.not_not.mp hused, Decidable.not_not.mp hfirst⟩,
    rfl, rfl⟩

theorem IsOpened.ofImage_eq (h : w.IsOpened name) :
    ofImage name w.startPosition w.bytes = .ok w := by
  have hmin : ¬ w.bytes.size < Layout.minCapacity := Nat.not_lt.mpr h.minimum
  have hslice := slice_of_has h.header (show Layout.headerSize = _ by simp)
  have hheader : ¬ (w.header.freeOffset.toNat ≠ w.bytes.size ∨
      w.header.firstChunk.toNat ≠ Layout.headerSize) := by
    rintro (hused | hfirst)
    · exact hused h.used
    · exact hfirst h.firstChunk
  rw [ofImage, if_neg hmin, hslice]
  simp only [bind, Except.bind, List.toList_data_toByteArray, Header.decode_encode, if_neg hheader]
  obtain ⟨rfl, hreadOnly, hpending, -⟩ := h
  rw [← hreadOnly, ← hpending]

theorem ofParcel_concur (name : String) (parcel : ByteArray) :
    Concur (fun w => w.IsOpened name ∧ w.startPosition < 2 ^ 32 ∧
        parcel = withChecksum (body w.startPosition w.bytes))
      (ofParcel name parcel) (ofParcel name parcel) := by
  unfold ofParcel
  split
  · exact .corrupted _
  next hshort =>
  have hlong : 16 ≤ parcel.size := Nat.le_of_not_lt hshort
  refine (slice_concur (shares_self (by omega))).bind fun lead ⟨_, hmagic⟩ => ?_
  split
  · exact .corrupted _
  next hequal =>
  refine (word_concur (shares_self (by omega))).bind fun declared hdeclared => ?_
  refine (word_concur (shares_self (by omega))).bind fun start hstart => ?_
  split
  · exact .corrupted _
  next hlength =>
  have hlength : parcel.size = 12 + declared.toNat + 4 := Decidable.not_not.mp hlength
  refine (word_concur (shares_self (Nat.le_of_eq hlength.symm))).bind fun stored hstored => ?_
  refine (slice_concur (shares_self (by omega))).bind fun summed ⟨hsummed, hsum⟩ => ?_
  simp only
  split
  · exact .corrupted _
  next hequal' =>
  refine (slice_concur (shares_self (by omega))).bind fun image ⟨hsize, himage⟩ => ?_
  refine (ofImage_concur name start.toNat image).mono ?_
  rintro w ⟨hopened, hposition, rfl⟩
  have hmagic : Has parcel 0 magic.toByteArray := by
    have hlist : lead.data.toList = magic := Decidable.not_not.mp hequal
    rwa [← hlist, show lead.data.toList.toByteArray = lead from ByteArray.ext (by simp)]
  have hparts : HasParts parcel start.toNat w.bytes := ⟨hmagic, hsize ▸ hdeclared, hstart, himage⟩
  have hbody : summed = body start.toNat w.bytes :=
    hsum.unique (has_body_iff.mpr hparts) (by rw [hsummed, body_size, hsize])
  have hstored' : stored = Checksum.ofBytes (body start.toNat w.bytes) :=
    hbody ▸ Decidable.not_not.mp hequal'
  rw [hposition]
  refine ⟨hopened, start.toNat_lt, hparts.eq ?_ ?_⟩
  · rw [body_size, hsize, hlength]
  · rw [← hstored', hsize]
    exact hstored

theorem IsOpened.ofParcel_eq (h : w.IsOpened name) (hstart : w.startPosition < 2 ^ 32) :
    ofParcel name (withChecksum (body w.startPosition w.bytes)) = .ok w := by
  have hbytes : w.bytes.size < 2 ^ 32 := h.limit
  have hnat : (UInt32.ofNat w.bytes.size).toNat = w.bytes.size := toNat_ofNat hbytes
  have hbody := body_size w.startPosition w.bytes
  have hsize : (withChecksum (body w.startPosition w.bytes)).size = 12 + w.bytes.size + 4 := by
    rw [withChecksum_size, hbody]
  obtain ⟨hfront, hsum⟩ :=
    has_append_iff.mp (has_self (withChecksum (body w.startPosition w.bytes)))
  obtain ⟨hmagic, hlength, hposition, himage⟩ := has_body_iff.mp hfront
  rw [Nat.zero_add, hbody] at hsum
  -- What the reader finds at each of the places where it looks.
  have hslice := slice_of_has hmagic (show 4 = _ by decide)
  have hword := word_of_has hlength
  have hword' := word_of_has hposition
  have hstored := word_of_has hsum
  have hsummed := slice_of_has hfront (show leadSize + w.bytes.size = _ from hbody.symm)
  have hdata := slice_of_has himage (show w.bytes.size = _ from rfl)
  have hlong : ¬ (withChecksum (body w.startPosition w.bytes)).size < leadSize + checksumSize := by
    rw [hsize]
    show ¬ 12 + w.bytes.size + 4 < 12 + 4
    omega
  rw [ofParcel, if_neg hlong]
  simp only [bind, Except.bind, hslice, hword, hword', List.toList_data_toByteArray, ne_eq,
    not_true_eq_false, if_false, hnat, hstored, hsummed, UInt32.ofNat_toNat, hdata, hsize,
    toNat_ofNat hstart]
  exact h.ofImage_eq

/-- A parcel opens as a window exactly if it is the one that is written for that window. -/
theorem ofParcel_eq_ok_iff {parcel : ByteArray} :
    ofParcel name parcel = .ok w ↔ w.IsOpened name ∧ w.startPosition < 2 ^ 32 ∧
      parcel = withChecksum (body w.startPosition w.bytes) := by
  constructor
  · exact (ofParcel_concur name parcel).known
  · rintro ⟨h, hstart, rfl⟩
    exact h.ofParcel_eq hstart

end Window

end RowPager
