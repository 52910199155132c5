import RowPager.Proofs.Restored

/-!
Parcels that open. Each of them is the one that is written for its window, so that nothing is lost
and nothing is added when a window goes through parcels again and again.
-/

set_option autoImplicit false

namespace RowPager

/-- What is left of a parcel that is opened under each of some names in turn, and written again from
the window each time. -/
def Parcel.relay (parcel : ByteArray) : List String → Except Error ByteArray
  | [] => .ok parcel
  | name :: names => do
    let w ← Window.ofParcel name parcel
    relay (← w.toParcel) names

namespace Window

open Buffer (Has)

variable {v w : Window} {name : String} {parcel other : ByteArray}

theorem IsOpened.image_eq (h : w.IsOpened name) : w.image = w.bytes := by
  have hmin : 420 ≤ w.bytes.size := h.minimum
  have hsize : w.used = w.bytes.size := h.used
  have hsplit : 16 + (w.used - 16) = w.used := by omega
  have hbehind : Has w.bytes 16 (w.bytes.extract 16 (16 + (w.used - 16))) :=
    Buffer.has_extract (by omega)
  rw [hsplit] at hbehind
  have hlead : 0 + w.header.encode.toByteArray.size = 16 := by simp
  have himage : Has w.bytes 0 w.image :=
    Buffer.has_append_iff.mpr ⟨h.header, by rw [hlead]; exact hbehind⟩
  exact (himage.eq_of_size (h.framed.image_size.trans hsize).symm).symm

theorem IsOpened.toParcel_eq (h : w.IsOpened name) (hstart : w.startPosition < 2 ^ 32) :
    w.toParcel = .ok (Parcel.withChecksum (Parcel.body w.startPosition w.bytes)) := by
  have hfits : ¬ UInt32.size ≤ w.startPosition := Nat.not_le.mpr hstart
  rw [toParcel, if_neg hfits, h.image_eq]

theorem toParcel_of_ofParcel (h : ofParcel name parcel = .ok w) : w.toParcel = .ok parcel := by
  obtain ⟨hopened, hstart, rfl⟩ := ofParcel_eq_ok_iff.mp h
  exact hopened.toParcel_eq hstart

theorem ofParcel_rename (h : ofParcel name parcel = .ok w) (name' : String) :
    ofParcel name' parcel = .ok { w with name := name' } := by
  obtain ⟨hopened, hstart, rfl⟩ := ofParcel_eq_ok_iff.mp h
  have hrenamed : ({ w with name := name' } : Window).IsOpened name' :=
    ⟨rfl, hopened.readOnly, hopened.pending, hopened.header, hopened.minimum, hopened.used,
      hopened.firstChunk⟩
  exact hrenamed.ofParcel_eq hstart

theorem relay_of_ofParcel (h : ofParcel name parcel = .ok w) (names : List String) :
    Parcel.relay parcel names = .ok parcel := by
  induction names with
  | nil => rfl
  | cons name' names ih =>
    have hopen := ofParcel_rename h name'
    rw [Parcel.relay, hopen]
    simp only [bind, Except.bind, toParcel_of_ofParcel hopen, ih]

theorem parcel_inj (h : ofParcel name parcel = .ok w) {name' : String}
    (h' : ofParcel name' other = .ok v) (hbytes : v.bytes = w.bytes)
    (hstart : v.startPosition = w.startPosition) : other = parcel := by
  obtain ⟨-, -, rfl⟩ := ofParcel_eq_ok_iff.mp h
  obtain ⟨-, -, rfl⟩ := ofParcel_eq_ok_iff.mp h'
  rw [hbytes, hstart]

/-- A parcel that opens is the parcel of its window, byte for byte. So parcels that differ open as
windows that differ in their bytes or in their start position, and a parcel stays as it is however
often it is opened and written again. -/
theorem ofParcel_canonical (h : ofParcel name parcel = .ok w) :
    w.toParcel = .ok parcel ∧
      (∀ {other : ByteArray} {name' : String} {v : Window}, ofParcel name' other = .ok v →
        other ≠ parcel → ¬ (v.bytes = w.bytes ∧ v.startPosition = w.startPosition)) ∧
      ∀ names : List String, Parcel.relay parcel names = .ok parcel :=
  ⟨toParcel_of_ofParcel h,
    fun h' hne hsame => hne (parcel_inj h h' hsame.1 hsame.2),
    relay_of_ofParcel h⟩

theorem ofParcel_canonical_moved :
    ∃ (parcel other : ByteArray) (v w : Window), ofParcel "copy" parcel = .ok w ∧
      ofParcel "copy" other = .ok v ∧ other ≠ parcel ∧ w.toParcel = .ok parcel ∧
      ¬ (v.bytes = w.bytes ∧ v.startPosition = w.startPosition) ∧
      Parcel.relay parcel ["first", "second"] = .ok parcel := by
  obtain ⟨w, hreach, -, hstart, -⟩ := exists_text_window
  have hmoved : (w.setStartPosition 1).Reachable := hreach.apply (.setStart 1)
  have hopen := (hreach.framed.isOpened "copy").ofParcel_eq (show w.startPosition < 2 ^ 32 by omega)
  have hopen' := (hmoved.framed.isOpened "copy").ofParcel_eq (show 1 < 2 ^ 32 by decide)
  obtain ⟨hsame, hother, hrelay⟩ := ofParcel_canonical hopen
  have hne : Parcel.withChecksum (Parcel.body ((w.setStartPosition 1).snapshot "copy").startPosition
      ((w.setStartPosition 1).snapshot "copy").bytes) ≠
      Parcel.withChecksum (Parcel.body (w.snapshot "copy").startPosition
        (w.snapshot "copy").bytes) := by
    intro heq
    rw [heq] at hopen'
    have hposition : w.startPosition = 1 :=
      congrArg startPosition (Except.ok.inj (hopen.symm.trans hopen'))
    omega
  exact ⟨_, _, _, _, hopen, hopen', hne, hsame, hother hopen' hne, hrelay ["first", "second"]⟩

end Window

end RowPager
