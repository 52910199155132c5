import RowPager.Cell.Slot
import RowPager.Window.Rows

/-!
Cells, addressed by row and column. Numbers stand in the cell slot itself; the bytes of texts and
blobs are appended at the free offset and the slot says where.
-/

set_option autoImplicit false

namespace RowPager.Window

def rowCells (w : Window) (row : Nat) : Except Error Nat := do
  let chunk ← w.chunk (row / Layout.chunkRows)
  return (← Buffer.word w.bytes
    (chunk + row % Layout.chunkRows * Layout.rowSlotSize)).toNat

def cellOffset (w : Window) (row column : Nat) : Except Error Nat :=
  if w.rows ≤ row ∨ w.columns ≤ column then
    .error (.indexOutOfRange row column w.rows w.columns)
  else do
    let offset := (← w.rowCells row) + column * Layout.cellSize
    w.requireUsed offset Layout.cellSize
    return offset

def planSlot (w : Window) (row column : Nat) : Except Error Nat := do
  w.requireWritable
  w.cellOffset row column

def writeSlot (slot : Slot) (offset : Nat) : Window → Window
  | ⟨name, header, bytes, readOnly, startPosition, pending⟩ =>
    ⟨name, header, Buffer.write bytes offset slot.encode.toByteArray, readOnly, startPosition,
      pending⟩

def setSlot (w : Window) (row column : Nat) (slot : Slot) : Except Error Unit × Window :=
  commit (w.planSlot row column) (fun _ => ()) (writeSlot slot) w

def planPayload (w : Window) (row column size : Nat) : Except Error Nat := do
  let offset ← w.planSlot row column
  if w.free < size then .error (.outOfMemory size w.free) else .ok offset

/-- Appends bytes at the free offset. If they belong to an older row, the newest one can no longer
be taken back, since that would cut into them. -/
def appendPayload (row : Nat) (payload : ByteArray) : Window → Window
  | ⟨name, header, bytes, readOnly, startPosition, pending⟩ =>
    ⟨name, { header with freeOffset := header.freeOffset + .ofNat payload.size },
      Buffer.write bytes header.freeOffset.toNat payload, readOnly, startPosition,
      if row + 1 = header.rows.toNat then pending else none⟩

def setPayload (w : Window) (row column : Nat) (slotOf : Span → Slot) (payload : ByteArray) :
    Except Error Unit × Window :=
  let span : Span := ⟨w.header.freeOffset, .ofNat payload.size⟩
  commit (w.planPayload row column payload.size) (fun _ => ())
    (fun offset w => writeSlot (slotOf span) offset (appendPayload row payload w)) w

/-- Stores a value. Texts and blobs are stored with their length and may hold any byte. -/
def set (w : Window) (row column : Nat) : Value → Except Error Unit × Window
  | .null => w.setSlot row column .null
  | .integer value => w.setSlot row column (.integer value)
  | .float value => w.setSlot row column (.float value)
  | .text value => w.setPayload row column .text value.toUTF8
  | .blob value => w.setPayload row column .blob value

def slot (w : Window) (row column : Nat) : Except Error Slot := do
  let offset ← w.cellOffset row column
  let bytes ← Buffer.slice w.bytes offset Layout.cellSize
  Slot.decode bytes.data.toList

def payload (w : Window) (span : Span) : Except Error ByteArray := do
  w.requireUsed span.offset.toNat span.size.toNat
  Buffer.slice w.bytes span.offset.toNat span.size.toNat

def payloadText (w : Window) (row column : Nat) (span : Span) : Except Error String := do
  match Utf8.decode (← w.payload span) with
  | .ok text => .ok text
  | .error fault => .error (.corrupted (.notText row column fault))

def typeAt (w : Window) (row column : Nat) : Except Error CellType :=
  return (← w.slot row column).type

def isNullAt (w : Window) (row column : Nat) : Except Error Bool :=
  return (← w.typeAt row column) = .null

def integerAt (w : Window) (row column : Nat) : Except Error Int64 := do
  match ← w.slot row column with
  | .integer value => .ok value
  | other => .error (.typeMismatch row column .integer other.type)

def floatAt (w : Window) (row column : Nat) : Except Error Binary64 := do
  match ← w.slot row column with
  | .float value => .ok value
  | other => .error (.typeMismatch row column .float other.type)

def textAt (w : Window) (row column : Nat) : Except Error String := do
  match ← w.slot row column with
  | .text span => w.payloadText row column span
  | other => .error (.typeMismatch row column .text other.type)

def blobAt (w : Window) (row column : Nat) : Except Error ByteArray := do
  match ← w.slot row column with
  | .blob span | .text span => w.payload span
  | other => .error (.typeMismatch row column .blob other.type)

def valueAt (w : Window) (row column : Nat) : Except Error Value := do
  match ← w.slot row column with
  | .null => .ok .null
  | .integer value => .ok (.integer value)
  | .float value => .ok (.float value)
  | .text span => return .text (← w.payloadText row column span)
  | .blob span => return .blob (← w.payload span)

end RowPager.Window
