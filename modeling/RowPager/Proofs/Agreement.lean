import RowPager.Proofs.Framing
import RowPager.Proofs.Getter

/-!
The seven getters on one cell. Whatever the bytes are, the getters read the slot alike, and what one
of them makes of it follows from what the others do.
-/

set_option autoImplicit false

namespace RowPager

theorem Utf8.decode_eq_error {bytes : ByteArray} (h : ¬ bytes.IsValidUTF8) :
    decode bytes = .error (firstFault bytes) := by
  unfold decode String.fromUTF8?
  simp only [dif_neg h]

def Getter.requested : Getter → Option CellType
  | .integer => some .integer
  | .float => some .float
  | .text => some .text
  | .blob => some .blob
  | .type | .isNull | .value => none

namespace Window

/-- What the getters make of a cell whose slot is of a type. -/
structure Coherent (w : Window) (row column : Nat) (type : CellType) : Prop where
  typeAt : w.typeAt row column = .ok type
  isNullAt : w.isNullAt row column = .ok (type = .null)
  null : type = .null → w.valueAt row column = .ok .null
  /-- The value of any type is that of the getter which is made for the type. -/
  value : ∀ {getter : Getter}, getter.requested = some type →
    w.get row column .value = w.get row column getter
  mismatch : ∀ {getter : Getter} {requested : CellType}, getter.requested = some requested →
    requested ≠ type → getter ≠ .blob ∨ type ≠ .text →
      w.get row column getter = .error (.typeMismatch row column requested type)
  bytes : type = .text → ∃ span, w.slot row column = .ok (.text span) ∧
    w.blobAt row column = w.payload span
  text : type = .text → ∀ text : String,
    w.textAt row column = .ok text ↔ w.blobAt row column = .ok text.toUTF8
  unreadable : type = .text → ∀ e : Error,
    w.blobAt row column = .error e → w.textAt row column = .error e
  notText : type = .text → ∀ bytes : ByteArray, w.blobAt row column = .ok bytes →
    ¬ bytes.IsValidUTF8 → ∃ fault,
      w.textAt row column = .error (.corrupted (.notText row column fault)) ∧
        w.valueAt row column = .error (.corrupted (.notText row column fault))

variable {w : Window} {row column : Nat} {slot : Slot} {span : Span}

theorem get_of_slot (h : w.slot row column = .ok slot) (getter : Getter) :
    w.get row column getter = w.answerOf row column getter slot := by
  rw [get_eq_answerOf, h]
  rfl

theorem answerOf_value (w : Window) (row column : Nat) {getter : Getter} (slot : Slot)
    (h : getter.requested = some slot.type) :
    w.answerOf row column .value slot = w.answerOf row column getter slot := by
  cases slot with
  | null => cases getter <;> cases h
  | integer value => cases getter <;> cases h; rfl
  | float value => cases getter <;> cases h; rfl
  | text span => cases getter <;> cases h; rfl
  | blob span => cases getter <;> cases h; rfl

theorem answerOf_mismatch (w : Window) (row column : Nat) {getter : Getter} {requested : CellType}
    (slot : Slot) (h : getter.requested = some requested) (hne : requested ≠ slot.type)
    (hother : getter ≠ .blob ∨ slot.type ≠ .text) :
    w.answerOf row column getter slot =
      .error (.typeMismatch row column requested slot.type) := by
  cases slot with
  | null => cases getter <;> cases h <;> rfl
  | integer value => cases getter <;> cases h <;> first | rfl | exact absurd rfl hne
  | float value => cases getter <;> cases h <;> first | rfl | exact absurd rfl hne
  | text span =>
    have hblob : getter ≠ .blob := hother.resolve_right fun hne => hne rfl
    cases getter <;> cases h <;> first | rfl | exact absurd rfl hne | exact absurd rfl hblob
  | blob span => cases getter <;> cases h <;> first | rfl | exact absurd rfl hne

theorem blobAt_of_text (h : w.slot row column = .ok (.text span)) :
    w.blobAt row column = w.payload span := by
  rw [blobAt, h]
  rfl

theorem textAt_of_text (h : w.slot row column = .ok (.text span)) :
    w.textAt row column = w.payloadText row column span := by
  rw [textAt, h]
  rfl

theorem valueAt_of_text (h : w.slot row column = .ok (.text span)) :
    w.valueAt row column = (w.payloadText row column span).map .text := by
  rw [valueAt, h]
  simp only [bind, Except.bind]
  cases w.payloadText row column span <;> rfl

theorem payloadText_eq_ok_iff {text : String} :
    w.payloadText row column span = .ok text ↔ w.payload span = .ok text.toUTF8 := by
  rw [payloadText]
  cases hpayload : w.payload span with
  | error e => simp [bind, Except.bind]
  | ok bytes =>
    rw [Except.ok.injEq, ← Utf8.decode_eq_ok_iff]
    simp only [bind, Except.bind]
    cases Utf8.decode bytes with
    | error fault => simp
    | ok text => simp

theorem payloadText_of_not_valid (row column : Nat) {bytes : ByteArray} (hpayload : w.payload span = .ok bytes)
    (hvalid : ¬ bytes.IsValidUTF8) :
    w.payloadText row column span =
      .error (.corrupted (.notText row column (Utf8.firstFault bytes))) := by
  rw [payloadText, hpayload]
  simp only [bind, Except.bind, Utf8.decode_eq_error hvalid]

theorem coherent_of_slot (h : w.slot row column = .ok slot) : w.Coherent row column slot.type where
  typeAt := by
    rw [Window.typeAt, h]
    rfl
  isNullAt := by
    rw [Window.isNullAt, Window.typeAt, h]
    rfl
  null := by
    intro hnull
    cases slot <;> cases hnull
    rw [valueAt, h]
    rfl
  value := by
    intro getter hgetter
    rw [get_of_slot h, get_of_slot h, answerOf_value w row column slot hgetter]
  mismatch := by
    intro getter requested hgetter hne hother
    rw [get_of_slot h, answerOf_mismatch w row column slot hgetter hne hother]
  bytes := by
    intro htext
    cases slot <;> cases htext
    exact ⟨_, h, blobAt_of_text h⟩
  text := by
    intro htext text
    cases slot <;> cases htext
    rw [textAt_of_text h, blobAt_of_text h, payloadText_eq_ok_iff]
  unreadable := by
    intro htext e herror
    cases slot <;> cases htext
    rw [blobAt_of_text h] at herror
    rw [textAt_of_text h, payloadText, herror]
    rfl
  notText := by
    intro htext bytes hbytes hvalid
    cases slot <;> cases htext
    rw [blobAt_of_text h] at hbytes
    have herror := payloadText_of_not_valid row column hbytes hvalid
    rw [textAt_of_text h, valueAt_of_text h, herror]
    exact ⟨_, rfl, rfl⟩

section Opened

open Buffer

theorem first_slot_of_has (hfirst : w.header.firstChunk.toNat = 16) (hrows : 0 < w.rows)
    (hcolumns : 0 < w.columns) (hused : 436 ≤ w.used) (hcells : Has w.bytes 16 (wordBytes 420))
    (hslot : Has w.bytes 420 slot.encode.toByteArray) : w.slot 0 0 = .ok slot := by
  have hchunk : w.chunk 0 = .ok 16 := by
    rw [chunk, hfirst, followLinks, requireUsed_of_le (by decide) (Nat.le_trans (by decide) hused)]
    rfl
  have hcells : w.rowCells 0 = .ok 420 := by
    rw [rowCells, Nat.zero_div, hchunk]
    simp only [bind, Except.bind, Nat.zero_mod, Nat.zero_mul, Nat.add_zero, word_of_has hcells]
    rfl
  have hoffset : w.cellOffset 0 0 = .ok 420 := by
    rw [cellOffset, if_neg (by omega), hcells]
    simp only [bind, Except.bind, Nat.zero_mul, Nat.add_zero]
    rw [requireUsed_of_le (by decide) hused]
    rfl
  exact slot_of_has hoffset hslot

theorem exists_opened_slot (slot : Slot) {rest : ByteArray} (hsize : 436 + rest.size < 2 ^ 32) :
    ∃ w : Window, w.IsOpened "copy" ∧ w.startPosition = 0 ∧ w.slot 0 0 = .ok slot ∧
      w.used = 436 + rest.size ∧ Has w.bytes 436 rest := by
  have hused : (UInt32.ofNat (436 + rest.size)).toNat = 436 + rest.size := toNat_ofNat hsize
  let header : Header := ⟨.ofNat (436 + rest.size), 16, 1, 1⟩
  let bytes := header.encode.toByteArray ++
    (wordBytes 420 ++ (zeros 400 ++ (slot.encode.toByteArray ++ rest)))
  have hbytes : bytes.size = 436 + rest.size := by
    simp [bytes, Layout.headerSize, Layout.cellSize]
    omega
  have hparts := has_self bytes
  simp only [bytes, has_append_iff, Nat.zero_add, List.size_toByteArray, Header.encode_length,
    wordBytes_size, zeros_size, Slot.encode_length] at hparts
  obtain ⟨hheader, hcells, -, hslot, hrest⟩ := hparts
  refine ⟨⟨"copy", header, bytes, true, 0, none⟩, ⟨rfl, rfl, rfl, hheader, ?_, ?_, rfl⟩, rfl,
    ?_, hused, hrest⟩
  · show 420 ≤ bytes.size
    omega
  · exact hused.trans hbytes.symm
  · refine first_slot_of_has rfl (by show 0 < 1; decide) (by show 0 < 1; decide) ?_ hcells hslot
    exact Nat.le_trans (by omega) (Nat.le_of_eq hused.symm)

end Opened

/-- In any window, and at any row and column, all getters fail alike to read the slot, or they agree
on what it holds. A text that cannot be read as one is refused as a text and as a value for the same
reason, though its bytes can be had. -/
theorem getters_coherent (w : Window) (row column : Nat) :
    (∃ e, w.slot row column = .error e ∧ ∀ getter, w.get row column getter = .error e) ∨
      ∃ slot, w.slot row column = .ok slot ∧ w.Coherent row column slot.type := by
  cases hslot : w.slot row column with
  | error e =>
    refine .inl ⟨e, rfl, fun getter => ?_⟩
    rw [get_eq_answerOf, hslot]
    rfl
  | ok slot => exact .inr ⟨slot, rfl, coherent_of_slot hslot⟩

theorem getters_coherent_notText :
    ∃ (parcel : ByteArray) (w : Window), ofParcel "copy" parcel = .ok w ∧
      w.typeAt 0 0 = .ok .text ∧ w.blobAt 0 0 = .ok [0xFF].toByteArray ∧
      ∃ fault, w.textAt 0 0 = .error (.corrupted (.notText 0 0 fault)) ∧
        w.valueAt 0 0 = .error (.corrupted (.notText 0 0 fault)) := by
  obtain ⟨w, hopened, hstart, hslot, hused, hrest⟩ :=
    exists_opened_slot (.text ⟨436, 1⟩) (show 436 + [0xFF].toByteArray.size < 2 ^ 32 by decide)
  have hopen := hopened.ofParcel_eq (show w.startPosition < 2 ^ 32 by omega)
  obtain ⟨e, herror, -⟩ | ⟨slot, hslot', hcoherent⟩ := w.getters_coherent 0 0
  · cases hslot.symm.trans herror
  · cases hslot.symm.trans hslot'
    have hbytes := (blobAt_of_text hslot).trans
      (payload_of_has (by decide) (Nat.le_of_eq hused.symm) rfl hrest)
    exact ⟨_, w, hopen, hcoherent.typeAt, hbytes,
      hcoherent.notText rfl _ hbytes (by decide)⟩

end Window

end RowPager
