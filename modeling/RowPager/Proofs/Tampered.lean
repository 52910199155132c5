import RowPager.Proofs.Residue
import RowPager.Proofs.Restored

/-!
Parcels that were changed on their way. A change of up to four bytes in a row leaves another
residue in the checksum's register, and a parcel that was cut off or went on has another length
than the one it declares.
-/

set_option autoImplicit false

namespace RowPager

namespace Buffer

structure SameOutside (left right : ByteArray) (start : Nat) : Prop where
  size : left.size = right.size
  same : ∀ i : Nat, i < start ∨ start + 4 ≤ i → left[i]? = right[i]?

variable {left right buffer bytes : ByteArray} {start offset : Nat}

theorem SameOutside.split (h : SameOutside left right start) :
    ∃ front back middle middle' : List UInt8,
      left.data.toList = front ++ (middle ++ back) ∧
        right.data.toList = front ++ (middle' ++ back) ∧
        middle.length = middle'.length ∧ middle.length ≤ 4 := by
  have hsame : ∀ i : Nat, i < start ∨ start + 4 ≤ i →
      left.data.toList[i]? = right.data.toList[i]? := by
    intro i hi
    rw [Array.getElem?_toList, Array.getElem?_toList]
    exact h.same i hi
  have hlength : left.data.toList.length = right.data.toList.length := h.size
  have hfront : left.data.toList.take start = right.data.toList.take start := by
    apply List.ext_getElem?
    intro i
    rw [List.getElem?_take, List.getElem?_take]
    split
    · next hi => exact hsame i (.inl hi)
    · rfl
  have hback : (left.data.toList.drop start).drop 4 = (right.data.toList.drop start).drop 4 := by
    apply List.ext_getElem?
    intro i
    rw [List.getElem?_drop, List.getElem?_drop, List.getElem?_drop, List.getElem?_drop]
    exact hsame _ (.inr (by omega))
  refine ⟨left.data.toList.take start, (left.data.toList.drop start).drop 4,
    (left.data.toList.drop start).take 4, (right.data.toList.drop start).take 4, ?_, ?_, ?_, ?_⟩
  · rw [List.take_append_drop, List.take_append_drop]
  · rw [hfront, hback, List.take_append_drop, List.take_append_drop]
  · rw [List.length_take, List.length_take, List.length_drop, List.length_drop, hlength]
  · rw [List.length_take]
    omega

theorem sameOutside_write (hsize : bytes.size ≤ 4) :
    SameOutside (write buffer offset bytes) buffer offset := by
  refine ⟨write_size .., fun i hi => ?_⟩
  by_cases hfit : offset + bytes.size ≤ buffer.size
  · by_cases hlt : i < buffer.size
    · have hwritten : i < (write buffer offset bytes).size := by rwa [write_size]
      rw [getElem?_pos _ i hwritten, getElem?_pos buffer i hlt,
        write_getElem _ _ _ hfit i hwritten hlt, dif_neg (by omega)]
    · have hwritten : ¬ i < (write buffer offset bytes).size := by rwa [write_size]
      rw [getElem?_neg _ i hwritten, getElem?_neg buffer i hlt]
  · rw [write, if_neg hfit]

end Buffer

namespace Parcel

open Buffer

/-- What every parcel that opens has: the length that it declares, and the residue. -/
structure Sealed (parcel : ByteArray) : Prop where
  declared : ∃ size < 2 ^ 32, Has parcel 4 (wordBytes size) ∧ parcel.size = size + 16
  residue : Checksum.feedAll 0xFFFFFFFF parcel.data.toList = Checksum.residue

def Rejected (parcel : ByteArray) : Prop :=
  ∀ name : String, ∃ cause, Window.ofParcel name parcel = .error (.corrupted cause)

variable {parcel other rest : ByteArray} {start : Nat}

theorem withChecksum_residue (body : ByteArray) :
    Checksum.feedAll 0xFFFFFFFF (withChecksum body).data.toList = Checksum.residue := by
  have hlist : (withChecksum body).data.toList =
      body.data.toList ++ LittleEndian.encode 4 (Checksum.ofBytes body).toNat := by
    simp [withChecksum]
  rw [hlist, Checksum.feedAll_append, Checksum.ofBytes, Checksum.feedAll_checksum]

theorem sealed_of_ofParcel {name : String} {w : Window} (h : Window.ofParcel name parcel = .ok w) :
    Sealed parcel := by
  obtain ⟨hopened, -, rfl⟩ := Window.ofParcel_eq_ok_iff.mp h
  have hbody := (has_append_iff.mp (has_self (withChecksum (body w.startPosition w.bytes)))).1
  have hsize : (withChecksum (body w.startPosition w.bytes)).size = w.bytes.size + 16 := by
    rw [withChecksum_size, body_size]
    omega
  exact ⟨⟨w.bytes.size, hopened.limit, (has_body_iff.mp hbody).size, hsize⟩,
    withChecksum_residue _⟩

theorem rejected_of_not_sealed (h : ¬ Sealed parcel) : Rejected parcel := by
  intro name
  obtain ⟨w, hopen, -⟩ | herror := (Window.ofParcel_concur name parcel).outcome
  · exact absurd (sealed_of_ofParcel hopen) h
  · exact herror

theorem Sealed.eq_of_sameOutside (h : Sealed parcel) (h' : Sealed other)
    (hsame : SameOutside other parcel start) : other = parcel := by
  -- Four bytes in a row decide the residue, once all others are known.
  obtain ⟨front, back, middle, middle', hother, hparcel, hlength, hshort⟩ := hsame.split
  have hresidue := h'.residue.trans h.residue.symm
  rw [hother, hparcel, Checksum.feedAll_append, Checksum.feedAll_append, Checksum.feedAll_append,
    Checksum.feedAll_append] at hresidue
  have hmiddle : middle = middle' :=
    Checksum.feedAll_inj_bytes hlength hshort (Checksum.feedAll_inj_register hresidue)
  rw [← hmiddle, ← hother] at hparcel
  exact ByteArray.ext (Array.toList_inj.mp hparcel.symm)

theorem Sealed.append (h : Sealed parcel) (h' : Sealed (parcel ++ rest)) : rest.size = 0 := by
  -- The declared length lies in the first bytes, so no parcel begins another one.
  obtain ⟨size, hlt, hhas, hsize⟩ := h.declared
  obtain ⟨size', hlt', hhas', hsize'⟩ := h'.declared
  obtain ⟨bytes, hbytes, hleft, hright⟩ :=
    (shares_append parcel rest).part (Nat.zero_le 4) (show 4 + 4 ≤ 0 + parcel.size by omega)
  have hword := hhas.unique hleft ((wordBytes_size size).trans hbytes.symm)
  have hword' := hhas'.unique hright ((wordBytes_size size').trans hbytes.symm)
  have hequal : size = size' := wordBytes_inj hlt hlt' (hword.trans hword'.symm)
  rw [ByteArray.size_append] at hsize'
  omega

end Parcel

namespace Window

open Buffer Parcel

/-- A parcel that opens is not taken for any of its own corruptions: neither what is left when its
end is cut off, nor what comes of more bytes at its end, nor what differs from it only within four
bytes in a row will open. -/
theorem ofParcel_detects {name : String} {parcel : ByteArray} {w : Window}
    (h : ofParcel name parcel = .ok w) :
    (∀ {other : ByteArray} {start : Nat}, SameOutside other parcel start → other ≠ parcel →
        Rejected other) ∧
      (∀ {front rest : ByteArray}, front ++ rest = parcel → rest.size ≠ 0 → Rejected front) ∧
      ∀ {rest : ByteArray}, rest.size ≠ 0 → Rejected (parcel ++ rest) := by
  have hsealed := sealed_of_ofParcel h
  refine ⟨fun hsame hne => ?_, fun hparcel hrest => ?_, fun hrest => ?_⟩
  · exact rejected_of_not_sealed fun hother => hne (hsealed.eq_of_sameOutside hother hsame)
  · subst hparcel
    exact rejected_of_not_sealed fun hfront => hrest (hfront.append hsealed)
  · exact rejected_of_not_sealed fun hmore => hrest (hsealed.append hmore)

theorem ofParcel_detects_magic :
    ∃ (parcel : ByteArray) (w : Window), ofParcel "copy" parcel = .ok w ∧
      Rejected (write parcel 0 (zeros 4)) ∧ Rejected (parcel ++ zeros 1) := by
  obtain ⟨w, hreach, -, hstart, -⟩ := exists_text_window
  have hopened := hreach.framed.isOpened "copy"
  have hopen := hopened.ofParcel_eq (show w.startPosition < 2 ^ 32 by omega)
  obtain ⟨hsame, -, hmore⟩ := ofParcel_detects hopen
  have hmagic := (has_body_iff.mp (has_append_iff.mp (has_self (withChecksum
    (body (w.snapshot "copy").startPosition (w.snapshot "copy").bytes)))).1).magic
  refine ⟨_, _, hopen, hsame (sameOutside_write (by decide)) fun heq => ?_, hmore (by decide)⟩
  have hzeros := has_write _ 0 (zeros 4) hmagic.inside
  rw [heq] at hzeros
  exact absurd (hzeros.unique hmagic rfl) (by decide)

end Window

end RowPager
