import RowPager.Proofs.Confined
import RowPager.Proofs.FillFailure

/-!
Windows that have gone through a parcel. Every window there can be has all of its used bytes, so
that a parcel of it opens; and the used bytes are all that its cells need.
-/

set_option autoImplicit false

namespace RowPager.Window

open Buffer (Has Shares)

variable {v w : Window} {name : String}

/-- The header makes sense for the buffer: the used bytes are there, and room for a chunk. -/
structure Framed (w : Window) : Prop where
  minimum : 420 ≤ w.used
  fits : w.used ≤ w.capacity
  firstChunk : w.header.firstChunk.toNat = 16

def snapshot (w : Window) (name : String) : Window :=
  ⟨name, w.header, w.image, true, w.startPosition, none⟩

/-- A read-only copy, without the free space. No cell reads differently. -/
structure Restores (v w : Window) (name : String) : Prop where
  name : v.name = name
  readOnly : v.readOnly = true
  capacity : v.capacity = w.used
  used : v.used = w.used
  startPosition : v.startPosition = w.startPosition
  rows : v.rows = w.rows
  columns : v.columns = w.columns
  get : ∀ (row column : Nat) (getter : Getter), v.get row column getter = w.get row column getter

namespace Framed

theorem image_size (h : w.Framed) : w.image.size = w.used := by
  have hmin := h.minimum
  have hfits : w.used ≤ w.bytes.size := h.fits
  rw [image, ByteArray.size_append, List.size_toByteArray, Header.encode_length,
    ByteArray.size_extract]
  show 16 + (min w.used w.bytes.size - 16) = w.used
  omega

theorem shares (h : w.Framed) : Shares w.image w.bytes 16 (w.used - 16) := by
  have hmin := h.minimum
  have hfits : w.used ≤ w.bytes.size := h.fits
  have hsplit : 16 + (w.used - 16) = w.used := by omega
  have hsize : (w.bytes.extract 16 w.used).size = w.used - 16 := by
    rw [ByteArray.size_extract]
    omega
  have hbehind := (Buffer.has_append_iff.mp (Buffer.has_self w.image)).2
  rw [Nat.zero_add, List.size_toByteArray, Header.encode_length] at hbehind
  refine ⟨w.bytes.extract 16 w.used, hsize, hbehind, ?_⟩
  have hextract : Has w.bytes 16 (w.bytes.extract 16 (16 + (w.used - 16))) :=
    Buffer.has_extract (by omega)
  rwa [hsplit] at hextract

theorem isOpened (h : w.Framed) (name : String) : (w.snapshot name).IsOpened name := by
  have hsize : (w.snapshot name).capacity = w.used := h.image_size
  refine ⟨rfl, rfl, rfl, (Buffer.has_append_iff.mp (Buffer.has_self w.image)).1, ?_, ?_, ?_⟩
  · rw [hsize]
    exact h.minimum
  · rw [hsize]
    rfl
  · exact h.firstChunk

theorem restores (h : w.Framed) (name : String) : (w.snapshot name).Restores w name := by
  have hsame : (w.snapshot name).SameUsed w := ⟨rfl, h.shares⟩
  exact ⟨rfl, rfl, h.image_size, rfl, rfl, rfl, rfl, hsame.get_eq⟩

end Framed

theorem Stores.framed {s : Sheet} (h : w.Stores s) : w.Framed where
  minimum := h.used_eq ▸ h.sound.minimum
  fits := h.used_eq ▸ h.capacity ▸ h.sound.fits
  firstChunk := by rw [h.header]; rfl

theorem IsOpened.framed (h : w.IsOpened name) : w.Framed where
  minimum := h.used ▸ h.minimum
  fits := Nat.le_of_eq h.used
  firstChunk := h.firstChunk

theorem set_readOnly (hw : w.readOnly = true) (row column : Nat) (value : Value) :
    w.set row column value = (.error (.readOnly w.name), w) := by
  have hplan : w.planSlot row column = .error (.readOnly w.name) := by
    rw [planSlot, requireWritable_readOnly hw]
    rfl
  have hslot : ∀ slot, w.setSlot row column slot = (.error (.readOnly w.name), w) :=
    fun slot => commit_of_error hplan _ _
  have hpayload : ∀ slotOf payload,
      w.setPayload row column slotOf payload = (.error (.readOnly w.name), w) := by
    intro slotOf payload
    have hplan' : w.planPayload row column payload.size = .error (.readOnly w.name) := by
      rw [planPayload, hplan]
      rfl
    rw [setPayload, commit_of_error hplan']
  cases value with
  | null => exact hslot _
  | integer v => exact hslot _
  | float v => exact hslot _
  | text v => exact hpayload _ _
  | blob v => exact hpayload _ _

theorem apply_readOnly (hw : w.readOnly = true) {op : Operation}
    (hop : ∀ position, op ≠ .setStart position) : w.apply op = (.error (.readOnly w.name), w) := by
  have hrequire := requireWritable_readOnly hw
  cases op with
  | clear =>
    rw [apply, clear_readOnly hw]
    rfl
  | setColumns count =>
    have hplan : w.planColumns count = .error (.readOnly w.name) := by
      rw [planColumns, hrequire]
      rfl
    rw [apply, setColumns, commit_of_error hplan]
    rfl
  | pushRow =>
    have hplan : w.planRow = .error (.readOnly w.name) := by
      rw [planRow, hrequire]
      rfl
    rw [apply, pushRow, commit_of_error hplan]
    rfl
  | popRow =>
    have hplan : w.planPop = .error (.readOnly w.name) := by
      rw [planPop, hrequire]
      rfl
    rw [apply, popRow, commit_of_error hplan]
    rfl
  | setStart position => exact absurd rfl (hop position)
  | set row column value =>
    rw [apply, set_readOnly hw row column value]
    rfl

theorem Reachable.framed (h : w.Reachable) : w.Framed := by
  -- However a window came about, its used bytes are there: those of a window that can be written
  -- are laid out in order, and those of a parcel stay as they came.
  cases hw : w.readOnly with
  | false =>
    obtain ⟨s, hstores⟩ := h.stores hw
    exact hstores.framed
  | true =>
    induction h with
    | create h => exact (of_create h).2.framed
    | opened h => exact (ofParcel_eq_ok_iff.mp h).1.framed
    | @apply w h op ih =>
      have hw := (w.apply_sameFrame op).readOnly.symm.trans hw
      by_cases hstart : ∃ position, op = .setStart position
      · obtain ⟨position, rfl⟩ := hstart
        obtain ⟨hmin, hfits, hfirst⟩ := ih hw
        exact ⟨hmin, hfits, hfirst⟩
      · rw [apply_readOnly hw fun position heq => hstart ⟨position, heq⟩]
        exact ih hw
    | @filled σ _ w h request c tally ih =>
      have hw := (Fill.run_sameFrame request c w tally).readOnly.symm.trans hw
      by_cases hrange : request.start ≤ request.required
      · rw [Fill.run_readOnly hrange hw]
        exact ih hw
      · rw [Fill.run, if_pos (Nat.lt_of_not_le hrange)]
        exact ih hw

/-- A parcel cannot be made of a window whose start position needs more than a word. Of any other
window it can, and it opens, under any name, as a window that reads the same. -/
theorem Reachable.toParcel_restores (h : w.Reachable) (name : String) :
    (2 ^ 32 ≤ w.startPosition ∧
        w.toParcel = .error (.invalidConfig (.startPosition w.startPosition))) ∨
      w.startPosition < 2 ^ 32 ∧
        ∃ parcel v, w.toParcel = .ok parcel ∧ ofParcel name parcel = .ok v ∧ v.Restores w name := by
  by_cases hstart : 2 ^ 32 ≤ w.startPosition
  · exact .inl ⟨hstart, if_pos hstart⟩
  · have hlt := Nat.lt_of_not_le hstart
    have hopens := (h.framed.isOpened name).ofParcel_eq hlt
    exact .inr ⟨hlt, _, w.snapshot name, if_neg hstart, hopens, h.framed.restores name⟩

theorem toParcel_restores_text :
    ∃ w : Window, w.Reachable ∧ w.readOnly = false ∧
      ∃ parcel v, w.toParcel = .ok parcel ∧ ofParcel "copy" parcel = .ok v ∧
        v.Restores w "copy" ∧ v.get 0 0 .text = .ok (.value (.text "row")) := by
  obtain ⟨w, hreach, hw, hstart, -, htext⟩ := exists_text_window
  obtain ⟨hlarge, -⟩ | ⟨-, parcel, v, hparcel, hopen, hrestores⟩ :=
    Reachable.toParcel_restores hreach "copy"
  · rw [hstart] at hlarge
    exact absurd hlarge (by decide)
  · have hget := (hrestores.get 0 0 .text).trans htext
    exact ⟨w, hreach, hw, parcel, v, hparcel, hopen, hrestores, hget⟩

end RowPager.Window
