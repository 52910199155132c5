import RowPager.Proofs.Placement
import RowPager.Proofs.SlotCodec

/-!
A window stores a sheet when its bytes say all that the sheet says, at the places where the sheet
puts it. Then every reader of the window answers from the sheet.
-/

set_option autoImplicit false

namespace RowPager

inductive Field where
  | link (chunk : Nat)
  | slot (row : Nat)
  | cell (row column : Nat)
  | payload (row column : Nat)
  deriving DecidableEq

def Field.piece : Field → Piece
  | .link chunk => .chunk chunk
  | .slot row => .chunk (row / 100)
  | .cell row _ => .cells row
  | .payload row column => .payload row column

namespace Sheet

open Buffer

/-- The sheet wants these bytes at an offset. The link of the last chunk is zero. -/
inductive Expects (s : Sheet) : Field → Nat → ByteArray → Prop where
  | link {chunk offset : Nat} (h : s.chunks[chunk]? = some offset) :
      Expects s (.link chunk) (offset + 400) (wordBytes (s.chunks[chunk + 1]?.getD 0))
  | slot {row offset : Nat} {r : Row} (h : s.rows[row]? = some r)
      (hc : s.chunks[row / 100]? = some offset) :
      Expects s (.slot row) (offset + row % 100 * 4) (wordBytes r.cells)
  | cell {row column : Nat} {r : Row} (h : s.rows[row]? = some r) (hc : column < s.columns) :
      Expects s (.cell row column) (r.cells + column * 16)
        (r.entry column).slot.encode.toByteArray
  | payload {row column : Nat} {r : Row} {bytes : ByteArray} (h : s.rows[row]? = some r)
      (hc : column < s.columns) (hb : (r.entry column).payload = some bytes) :
      Expects s (.payload row column) (r.entry column).offset bytes

variable {s : Sheet} {f g : Field} {offset start : Nat} {bytes content : ByteArray}

theorem Expects.inPiece (h : s.Expects f offset bytes) :
    ∃ o n, s.Places f.piece o n ∧ o ≤ offset ∧ offset + bytes.size ≤ o + n := by
  cases h with
  | link h => exact ⟨_, _, .chunk h, by omega, Nat.le_of_eq (by rw [wordBytes_size])⟩
  | slot h hc => exact ⟨_, _, .chunk hc, by omega, by rw [wordBytes_size]; omega⟩
  | cell h hc => exact ⟨_, _, .cells h, by omega, by rw [Slot.encode_size]; omega⟩
  | payload h hc hb => exact ⟨_, _, .payload h hc hb, Nat.le_refl _, Nat.le_refl _⟩

theorem Expects.inside (hs : s.Sound) (h : s.Expects f offset bytes) :
    16 ≤ offset ∧ offset + bytes.size ≤ s.free := by
  obtain ⟨o, n, hp, hlo, hhi⟩ := h.inPiece
  obtain ⟨h16, hfree⟩ := hs.inside hp
  omega

/-- Fields of different pieces keep apart as their pieces do, fields of one piece by their index. -/
theorem Expects.apart (hs : s.Sound) (h : s.Expects f offset bytes) (h' : s.Expects g start content)
    (hne : f ≠ g) : offset + bytes.size ≤ start ∨ start + content.size ≤ offset := by
  by_cases hp : f.piece = g.piece
  · cases h with
    | link h =>
      cases h' with
      | link h' => cases hp; exact absurd rfl hne
      | slot h' hc' =>
        cases hp
        cases h.symm.trans hc'
        simp only [wordBytes_size]
        omega
      | cell h' hc' => cases hp
      | payload h' hc' hb' => cases hp
    | slot h hc =>
      cases h' with
      | link h' =>
        cases hp
        cases hc.symm.trans h'
        simp only [wordBytes_size]
        omega
      | @slot row' offset' r' h' hc' =>
        simp only [Field.piece, Piece.chunk.injEq] at hp
        rw [hp] at hc
        cases hc.symm.trans hc'
        simp only [ne_eq, Field.slot.injEq] at hne
        simp only [wordBytes_size]
        omega
      | cell h' hc' => cases hp
      | payload h' hc' hb' => cases hp
    | @cell row column r h hc =>
      cases h' with
      | link h' => cases hp
      | slot h' hc' => cases hp
      | @cell row' column' r' h' hc' =>
        simp only [Field.piece, Piece.cells.injEq] at hp
        subst hp
        cases h.symm.trans h'
        simp only [ne_eq, Field.cell.injEq, true_and] at hne
        simp only [Slot.encode_size]
        omega
      | payload h' hc' hb' => cases hp
    | payload h hc hb =>
      cases h' with
      | link h' => cases hp
      | slot h' hc' => cases hp
      | cell h' hc' => cases hp
      | payload h' hc' hb' => cases hp; exact absurd rfl hne
  · obtain ⟨o, n, hpl, hlo, hhi⟩ := h.inPiece
    obtain ⟨o', n', hpl', hlo', hhi'⟩ := h'.inPiece
    have hapart := hs.apart hpl hpl' hp
    omega

theorem Expects.unique (h : s.Expects f offset bytes) (h' : s.Expects f start content) :
    offset = start ∧ bytes = content := by
  cases h with
  | link h =>
    cases h' with
    | link h' => cases h.symm.trans h'; exact ⟨rfl, rfl⟩
  | slot h hc =>
    cases h' with
    | slot h' hc' => cases h.symm.trans h'; cases hc.symm.trans hc'; exact ⟨rfl, rfl⟩
  | cell h hc =>
    cases h' with
    | cell h' hc' => cases h.symm.trans h'; exact ⟨rfl, rfl⟩
  | payload h hc hb =>
    cases h' with
    | payload h' hc' hb' => cases h.symm.trans h'; cases hb.symm.trans hb'; exact ⟨rfl, rfl⟩

/-- Writing one field as the sheet wants it leaves the fields that are already right. -/
theorem Expects.has_write (hs : s.Sound) (hg : s.Expects g start content) {buffer : ByteArray}
    (hfit : start + content.size ≤ buffer.size) (h : s.Expects f offset bytes)
    (hold : f ≠ g → Has buffer offset bytes) :
    Has (write buffer start content) offset bytes := by
  by_cases heq : f = g
  · subst heq
    obtain ⟨rfl, rfl⟩ := h.unique hg
    exact has_write buffer offset bytes hfit
  · exact (hold heq).write_apart start content (h.apart hs hg heq)

def header (s : Sheet) : Header := ⟨.ofNat s.free, 16, .ofNat s.rows.length, .ofNat s.columns⟩

def pendingLink (s : Sheet) : Option Nat :=
  let last := s.rows.length - 1
  if last % 100 = 0 ∧ 0 < last / 100 then s.chunks[last / 100 - 1]?.map (· + 400) else none

def pendingRow (s : Sheet) : Option PendingRow :=
  s.pending.map fun mark => ⟨.ofNat mark, s.pendingLink.map .ofNat⟩

end Sheet

namespace Window

variable {w : Window}

theorem requireUsed_of_le {offset length : Nat} (hlo : 16 ≤ offset)
    (hhi : offset + length ≤ w.used) : w.requireUsed offset length = .ok () :=
  if_pos ⟨hlo, hhi⟩

theorem slot_of_has {row column offset : Nat} {slot : Slot}
    (hoffset : w.cellOffset row column = .ok offset)
    (h : Buffer.Has w.bytes offset slot.encode.toByteArray) : w.slot row column = .ok slot := by
  have hslice := Buffer.slice_of_has h (show Layout.cellSize = _ by simp)
  rw [Window.slot, hoffset]
  simp only [bind, Except.bind, hslice, List.toList_data_toByteArray, Slot.decode_encode]

theorem payload_of_has {span : Span} {bytes : ByteArray} (hlo : 16 ≤ span.offset.toNat)
    (hhi : span.offset.toNat + span.size.toNat ≤ w.used) (hsize : span.size.toNat = bytes.size)
    (h : Buffer.Has w.bytes span.offset.toNat bytes) : w.payload span = .ok bytes := by
  rw [payload, requireUsed_of_le hlo hhi]
  exact Buffer.slice_of_has h hsize

end Window

structure Window.Stores (w : Window) (s : Sheet) : Prop where
  sound : s.Sound
  capacity : w.capacity = s.capacity
  header : w.header = s.header
  start : w.startPosition = s.start
  pending : w.pending = s.pendingRow
  present : ∀ {f : Field} {offset : Nat} {bytes : ByteArray}, s.Expects f offset bytes →
    Buffer.Has w.bytes offset bytes

namespace Window.Stores

variable {w : Window} {s : Sheet}

theorem rows_eq (h : w.Stores s) : w.rows = s.rows.length := by
  have hlt := h.sound.rows_lt
  rw [rows, h.header]
  exact Buffer.toNat_ofNat (by omega)

theorem columns_eq (h : w.Stores s) : w.columns = s.columns := by
  rw [columns, h.header]
  exact Buffer.toNat_ofNat h.sound.columns_lt

theorem used_eq (h : w.Stores s) : w.used = s.free := by
  rw [used, h.header]
  exact Buffer.toNat_ofNat h.sound.free_lt

theorem free_eq (h : w.Stores s) : w.free = s.capacity - s.free := by
  rw [free, h.capacity, h.used_eq]

theorem requireUsed_eq (h : w.Stores s) {offset length : Nat} (hlo : 16 ≤ offset)
    (hhi : offset + length ≤ s.free) : w.requireUsed offset length = .ok () :=
  requireUsed_of_le hlo (h.used_eq.symm ▸ hhi)

theorem next_eq (h : w.Stores s) {index offset next : Nat} (hc : s.chunks[index]? = some offset)
    (hn : s.chunks[index + 1]? = some next) :
    ∃ link : UInt32, Buffer.word w.bytes (offset + Layout.linkOffset) = .ok link ∧ link ≠ 0 ∧
      link.toNat = next := by
  have hexpects := Sheet.Expects.link hc
  rw [hn, Option.getD_some] at hexpects
  obtain ⟨hlo, hhi⟩ := h.sound.inside (.chunk hn)
  have hbound := h.sound.free_lt
  have hnat : (UInt32.ofNat next).toNat = next := Buffer.toNat_ofNat (by omega)
  refine ⟨.ofNat next, Buffer.word_of_has (h.present hexpects), ?_, hnat⟩
  intro hz
  rw [hz] at hnat
  simp at hnat
  omega

theorem followLinks_eq (h : w.Stores s) (target links index offset : Nat) {goal : Nat}
    (hfrom : s.chunks[index]? = some offset) (hto : s.chunks[index + links]? = some goal) :
    w.followLinks target links offset = .ok goal := by
  induction links generalizing index offset with
  | zero =>
    obtain ⟨hlo, hhi⟩ := h.sound.inside (.chunk hfrom)
    cases hfrom.symm.trans hto
    have hused : w.requireUsed goal Layout.chunkSize = .ok () := h.requireUsed_eq hlo hhi
    rw [followLinks, hused]
    rfl
  | succ links ih =>
    obtain ⟨hlo, hhi⟩ := h.sound.inside (.chunk hfrom)
    have hlt := (List.getElem?_eq_some_iff.mp hto).1
    have hnext := List.getElem?_eq_getElem (show index + 1 < s.chunks.length by omega)
    obtain ⟨link, hword, hne, hnat⟩ := h.next_eq hfrom hnext
    have hrest := ih (index + 1) s.chunks[index + 1] hnext
      (by rw [← hto]; congr 1; omega)
    have hused : w.requireUsed offset Layout.chunkSize = .ok () := h.requireUsed_eq hlo hhi
    rw [followLinks, hused]
    simp only [bind, Except.bind, hword, if_neg hne, hnat, hrest]

theorem chunk_eq (h : w.Stores s) {index offset : Nat} (hc : s.chunks[index]? = some offset) :
    w.chunk index = .ok offset := by
  have hfirst : w.header.firstChunk.toNat = 16 := by rw [h.header]; rfl
  rw [chunk, hfirst]
  exact h.followLinks_eq index index 0 16 h.sound.first (by rw [Nat.zero_add]; exact hc)

theorem rowCells_eq (h : w.Stores s) {row : Nat} {r : Sheet.Row} (hr : s.rows[row]? = some r) :
    w.rowCells row = .ok r.cells := by
  obtain ⟨offset, hc⟩ := h.sound.chunk_of_row (List.getElem?_eq_some_iff.mp hr).1
  have hin := (h.sound.inside (.cells hr)).2
  have hbound := h.sound.free_lt
  have hnat : (UInt32.ofNat r.cells).toNat = r.cells := Buffer.toNat_ofNat (by omega)
  have hword : Buffer.word w.bytes (offset + row % Layout.chunkRows * Layout.rowSlotSize) =
      .ok (.ofNat r.cells) := Buffer.word_of_has (h.present (.slot hr hc))
  rw [rowCells, h.chunk_eq hc]
  simp only [bind, Except.bind, pure, Except.pure, hword, hnat]

theorem cellOffset_eq (h : w.Stores s) {row column : Nat} {r : Sheet.Row}
    (hr : s.rows[row]? = some r) (hc : column < s.columns) :
    w.cellOffset row column = .ok (r.cells + column * 16) := by
  have hrow := (List.getElem?_eq_some_iff.mp hr).1
  obtain ⟨hlo, hhi⟩ := (Sheet.Expects.cell hr hc).inside h.sound
  rw [Slot.encode_size] at hhi
  have hok := h.requireUsed_eq hlo hhi
  rw [cellOffset, h.rows_eq, h.columns_eq, if_neg (by omega), h.rowCells_eq hr]
  simp only [bind, Except.bind, pure, Except.pure, hok]

theorem cellOffset_error (h : w.Stores s) {row column : Nat}
    (hout : s.rows.length ≤ row ∨ s.columns ≤ column) :
    w.cellOffset row column =
      .error (.indexOutOfRange row column s.rows.length s.columns) := by
  rw [cellOffset, h.rows_eq, h.columns_eq, if_pos hout]

theorem slot_eq (h : w.Stores s) {row column : Nat} {r : Sheet.Row} (hr : s.rows[row]? = some r)
    (hc : column < s.columns) : w.slot row column = .ok (r.entry column).slot :=
  slot_of_has (h.cellOffset_eq hr hc) (h.present (.cell hr hc))

theorem payload_eq (h : w.Stores s) {row column : Nat} {r : Sheet.Row} {bytes : ByteArray}
    (hr : s.rows[row]? = some r) (hc : column < s.columns)
    (hb : (r.entry column).payload = some bytes) :
    w.payload ⟨.ofNat (r.entry column).offset, .ofNat bytes.size⟩ = .ok bytes := by
  have hexpects := Sheet.Expects.payload hr hc hb
  obtain ⟨hlo, hhi⟩ := hexpects.inside h.sound
  have hbound := h.sound.free_lt
  have hoffset : (UInt32.ofNat (r.entry column).offset).toNat = (r.entry column).offset :=
    Buffer.toNat_ofNat (by omega)
  have hsize : (UInt32.ofNat bytes.size).toNat = bytes.size := Buffer.toNat_ofNat (by omega)
  refine payload_of_has ?_ ?_ hsize ?_
  · rwa [hoffset]
  · rwa [hoffset, hsize, h.used_eq]
  · rw [hoffset]
    exact h.present hexpects

end Window.Stores

end RowPager
