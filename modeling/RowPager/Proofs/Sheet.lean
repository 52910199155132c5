import RowPager.Header
import RowPager.Proofs.Operation
import RowPager.Proofs.ReadBack
import RowPager.Proofs.RowPlace

/-!
Sheets: what a window stands for. A sheet has the values of the cells and says where each part of
the window lies, but has no bytes. Its operations give the answers that a writable window gives.
-/

set_option autoImplicit false

namespace RowPager

def Value.isInline : Value → Bool
  | .text _ | .blob _ => false
  | _ => true

/-- A value in its cell. The offset is that of its payload, if it has one. -/
structure Entry where
  value : Value
  offset : Nat

namespace Entry

def blank : Entry := ⟨.null, 0⟩

def slot : Entry → Slot
  | ⟨.null, _⟩ => .null
  | ⟨.integer v, _⟩ => .integer v
  | ⟨.float v, _⟩ => .float v
  | ⟨.text v, offset⟩ => .text ⟨.ofNat offset, .ofNat v.toUTF8.size⟩
  | ⟨.blob v, offset⟩ => .blob ⟨.ofNat offset, .ofNat v.size⟩

def payload : Entry → Option ByteArray
  | ⟨.text v, _⟩ => some v.toUTF8
  | ⟨.blob v, _⟩ => some v
  | _ => none

theorem payload_size {value : Value} {offset : Nat} {bytes : ByteArray}
    (h : payload ⟨value, offset⟩ = some bytes) :
    bytes.size = value.payloadSize ∧ value.isInline = false := by
  cases value with
  | text v => cases h; exact ⟨rfl, rfl⟩
  | blob v => cases h; exact ⟨rfl, rfl⟩
  | null => cases h
  | integer v => cases h
  | float v => cases h

end Entry

structure Sheet.Row where
  /-- Where the cells of the row begin. -/
  cells : Nat
  entry : Nat → Entry

def Sheet.Row.put (row : Sheet.Row) (column : Nat) (entry : Entry) : Sheet.Row :=
  ⟨row.cells, fun c => if c = column then entry else row.entry c⟩

structure Sheet where
  capacity : Nat
  columns : Nat
  free : Nat
  start : Nat
  /-- Where the chunks of row slots lie. -/
  chunks : List Nat
  rows : List Sheet.Row
  /-- The free offset before the newest row, while that row can be taken back. -/
  pending : Option Nat

namespace Sheet

def blank (capacity : Nat) : Sheet :=
  ⟨capacity, 0, 420, 0, [16], [], none⟩

def setStart (s : Sheet) (position : Nat) : Sheet := { s with start := position }

def setColumns (s : Sheet) (count : Nat) : Except Error Unit × Sheet :=
  if 0 < s.rows.length ∧ s.columns ≠ count then
    (.error (.columnCountLocked s.columns count), s)
  else if 2 ^ 32 ≤ count then (.error (.invalidConfig (.columns count)), s)
  else (.ok (), { s with columns := count })

theorem setColumns_cases (s : Sheet) (count : Nat) :
    (∃ e, s.setColumns count = (.error e, s)) ∨
      (s.columns = count ∨ s.rows = []) ∧ count < 2 ^ 32 ∧
        s.setColumns count = (.ok (), { s with columns := count }) := by
  rw [setColumns]
  split
  · exact .inl ⟨_, rfl⟩
  split
  · exact .inl ⟨_, rfl⟩
  · next hfree hlt =>
    refine .inr ⟨?_, Nat.lt_of_not_le hlt, rfl⟩
    by_cases hsame : s.columns = count
    · exact .inl hsame
    · exact .inr (List.eq_nil_of_length_eq_zero (Nat.eq_zero_of_not_pos fun h => hfree ⟨h, hsame⟩))

def rowEnd (s : Sheet) : Nat := Layout.rowEnd s.columns s.rows.length s.free

def withRow (s : Sheet) : Sheet :=
  { s with
    chunks := s.chunks ++ (Layout.newChunk s.rows.length s.free).toList
    rows := s.rows ++ [⟨Layout.cellsStart s.rows.length s.free, fun _ => .blank⟩]
    free := s.rowEnd
    pending := some s.free }

def pushRow (s : Sheet) : Except Error Nat × Sheet :=
  if s.capacity < s.rowEnd then
    (.error (.outOfMemory (s.rowEnd - s.free) (s.capacity - s.free)), s)
  else (.ok s.rows.length, s.withRow)

theorem pushRow_cases (s : Sheet) :
    (∃ e, s.pushRow = (.error e, s)) ∨
      s.rowEnd ≤ s.capacity ∧ s.pushRow = (.ok s.rows.length, s.withRow) := by
  rw [pushRow]
  split
  · exact .inl ⟨_, rfl⟩
  · next hfit => exact .inr ⟨Nat.le_of_not_lt hfit, rfl⟩

def withoutRow (s : Sheet) (mark : Nat) : Sheet :=
  { s with
    chunks := s.chunks.take (Layout.chunkCount (s.rows.length - 1))
    rows := s.rows.dropLast
    free := mark
    pending := none }

def popRow (s : Sheet) : Except Error Unit × Sheet :=
  match s.pending with
  | none => (.error .noRowToFree, s)
  | some mark => (.ok (), s.withoutRow mark)

theorem popRow_cases (s : Sheet) :
    (∃ e, s.popRow = (.error e, s)) ∨
      ∃ mark, s.pending = some mark ∧ s.popRow = (.ok (), s.withoutRow mark) := by
  rw [popRow]
  cases s.pending with
  | none => exact .inl ⟨_, rfl⟩
  | some mark => exact .inr ⟨mark, rfl, rfl⟩

def withValue (s : Sheet) (row column : Nat) (value : Value) : Sheet :=
  { s with
    rows := s.rows.modify row fun r => r.put column ⟨value, s.free⟩
    free := s.free + value.payloadSize
    pending := if value.isInline ∨ row + 1 = s.rows.length then s.pending else none }

def set (s : Sheet) (row column : Nat) (value : Value) : Except Error Unit × Sheet :=
  if s.rows.length ≤ row ∨ s.columns ≤ column then
    (.error (.indexOutOfRange row column s.rows.length s.columns), s)
  else if s.capacity - s.free < value.payloadSize then
    (.error (.outOfMemory value.payloadSize (s.capacity - s.free)), s)
  else (.ok (), s.withValue row column value)

theorem set_cases (s : Sheet) (row column : Nat) (value : Value) :
    (∃ e, s.set row column value = (.error e, s)) ∨
      row < s.rows.length ∧ column < s.columns ∧ value.payloadSize ≤ s.capacity - s.free ∧
        s.set row column value = (.ok (), s.withValue row column value) := by
  rw [set]
  split
  · exact .inl ⟨_, rfl⟩
  split
  · exact .inl ⟨_, rfl⟩
  · next hin hfit => exact .inr ⟨by omega, by omega, Nat.le_of_not_lt hfit, rfl⟩

def apply (s : Sheet) : Operation → Except Error (Option Nat) × Sheet
  | .clear => (.ok none, blank s.capacity)
  | .setColumns count => ((s.setColumns count).1.map fun _ => none, (s.setColumns count).2)
  | .pushRow => (s.pushRow.1.map some, s.pushRow.2)
  | .popRow => (s.popRow.1.map fun _ => none, s.popRow.2)
  | .setStart position => (.ok none, s.setStart position)
  | .set row column value => ((s.set row column value).1.map fun _ => none, (s.set row column value).2)

def after (s : Sheet) (ops : List Operation) : Sheet := ops.foldl (fun s op => (s.apply op).2) s

end Sheet

end RowPager
