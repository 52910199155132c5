import RowPager.Window.Basic

/-!
Rows. The slots of a hundred rows form a chunk, and each chunk links to the next; a row slot says
where the cells of its row begin. The newest row can be taken back while nothing that outlives it
was added after it.
-/

set_option autoImplicit false

namespace RowPager.Window

/-- The chunk reached from the one at `offset` by a number of links. -/
def followLinks (w : Window) (target : Nat) : Nat → Nat → Except Error Nat
  | 0, offset => do
    w.requireUsed offset Layout.chunkSize
    return offset
  | links + 1, offset => do
    w.requireUsed offset Layout.chunkSize
    let next ← Buffer.word w.bytes (offset + Layout.linkOffset)
    if next = 0 then .error (.corrupted (.unlinkedChunk target))
    else followLinks w target links next.toNat

def chunk (w : Window) (index : Nat) : Except Error Nat :=
  w.followLinks index index w.header.firstChunk.toNat

structure RowPlan where
  row : Nat
  /-- The chunk that holds the row's slot. -/
  chunk : Nat
  /-- The link to set when the chunk is a new one. -/
  link : Option Nat
  cells : Nat
  finish : Nat
  deriving DecidableEq

def planChunk (w : Window) : Except Error (Nat × Option Nat × Nat) :=
  if w.rows % Layout.chunkRows = 0 ∧ 0 < w.rows / Layout.chunkRows then do
    let last ← w.chunk (w.rows / Layout.chunkRows - 1)
    let chunk := Layout.alignUp w.used
    return (chunk, some (last + Layout.linkOffset), chunk + Layout.chunkSize)
  else do
    return (← w.chunk (w.rows / Layout.chunkRows), none, w.used)

def planRow (w : Window) : Except Error RowPlan := do
  w.requireWritable
  let (chunk, link, free) ← w.planChunk
  let cells := Layout.alignUp free
  let finish := cells + w.columns * Layout.cellSize
  if w.capacity < finish then .error (.outOfMemory (finish - w.used) w.free)
  else .ok ⟨w.rows, chunk, link, cells, finish⟩

/-- Adds the planned row. Its cells are cleared, which makes them null. -/
def addRow (plan : RowPlan) : Window → Window
  | ⟨name, header, bytes, readOnly, startPosition, _⟩ =>
    let bytes :=
      match plan.link with
      | none => bytes
      | some link =>
        Buffer.writeWord (Buffer.writeWord bytes (plan.chunk + Layout.linkOffset) 0) link
          (.ofNat plan.chunk)
    let bytes := Buffer.write bytes plan.cells (Buffer.zeros (plan.finish - plan.cells))
    let slot := plan.chunk + plan.row % Layout.chunkRows * Layout.rowSlotSize
    ⟨name, { header with rows := header.rows + 1, freeOffset := .ofNat plan.finish },
      Buffer.writeWord bytes slot (.ofNat plan.cells), readOnly, startPosition,
      some ⟨header.freeOffset, plan.link.map UInt32.ofNat⟩⟩

def pushRow (w : Window) : Except Error Nat × Window :=
  commit w.planRow RowPlan.row addRow w

def planPop (w : Window) : Except Error PendingRow := do
  w.requireWritable
  match w.pending with
  | some pending => .ok pending
  | none => .error .noRowToFree

def dropRow (pending : PendingRow) : Window → Window
  | ⟨name, header, bytes, readOnly, startPosition, _⟩ =>
    let bytes :=
      match pending.link with
      | none => bytes
      | some link => Buffer.writeWord bytes link.toNat 0
    ⟨name, { header with rows := header.rows - 1, freeOffset := pending.freeOffset }, bytes,
      readOnly, startPosition, none⟩

def popRow (w : Window) : Except Error Unit × Window :=
  commit w.planPop (fun _ => ()) dropRow w

end RowPager.Window
