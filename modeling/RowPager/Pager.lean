import RowPager.Fill.Basic

/-!
Pagers: random access to the rows of a forward-only cursor, through one window. The first fill
counts all rows and shows how many the window holds; later fills are centred on the row that is
asked for.
-/

set_option autoImplicit false

namespace RowPager

structure Pager (σ : Type) where
  cursor : σ
  window : Window
  tally : Tally
  /-- The number of rows, known after the first fill. -/
  total : Option Nat
  /-- The rows that the first fill held. -/
  heldRows : Nat
  /-- None before the first row, `total` after the last. -/
  position : Option Nat

namespace Pager

variable {σ : Type}

def ofParts (cursor : σ) (window : Window) : Pager σ := ⟨cursor, window, .zero, none, 0, none⟩

def holds (p : Pager σ) (row : Nat) : Bool :=
  p.window.startPosition ≤ row && row < p.window.startPosition + p.window.rows

def windowRow (p : Pager σ) : Except Error Nat :=
  match p.position with
  | none => .error .noCurrentRow
  | some position =>
    if p.holds position then .ok (position - p.window.startPosition) else .error .noCurrentRow

def typeAt (p : Pager σ) (column : Nat) : Except Error CellType := do
  p.window.typeAt (← p.windowRow) column

def isNullAt (p : Pager σ) (column : Nat) : Except Error Bool := do
  p.window.isNullAt (← p.windowRow) column

def integerAt (p : Pager σ) (column : Nat) : Except Error Int64 := do
  p.window.integerAt (← p.windowRow) column

def floatAt (p : Pager σ) (column : Nat) : Except Error Binary64 := do
  p.window.floatAt (← p.windowRow) column

def textAt (p : Pager σ) (column : Nat) : Except Error String := do
  p.window.textAt (← p.windowRow) column

def blobAt (p : Pager σ) (column : Nat) : Except Error ByteArray := do
  p.window.blobAt (← p.windowRow) column

def valueAt (p : Pager σ) (column : Nat) : Except Error Value := do
  p.window.valueAt (← p.windowRow) column

variable [Cursor σ]

def columnCount (p : Pager σ) : Nat := Cursor.columnCount p.cursor

/-- Fills the window so that it holds a row. As long as the rows are not counted, it counts them
and starts at the row itself. -/
def refill (required : Nat) : Pager σ → Except Error Unit × Pager σ
  | ⟨cursor, window, tally, none, heldRows, position⟩ =>
    match Fill.run ⟨Fill.centredStart required 0, required, true⟩ cursor window tally with
    | (.error e, cursor, window, tally) =>
      (.error e, ⟨cursor, window, tally, none, heldRows, position⟩)
    | (.ok report, cursor, window, tally) =>
      let heldRows := window.rows
      (.ok (), ⟨cursor, window, tally, some report.countedRows, heldRows, position⟩)
  | ⟨cursor, window, tally, some total, heldRows, position⟩ =>
    match Fill.run ⟨Fill.centredStart required heldRows, required, false⟩ cursor window tally with
    | (.error e, cursor, window, tally) =>
      (.error e, ⟨cursor, window, tally, some total, heldRows, position⟩)
    | (.ok _, cursor, window, tally) =>
      (.ok (), ⟨cursor, window, tally, some total, heldRows, position⟩)

def count (p : Pager σ) : Except Error Nat × Pager σ :=
  match p.total with
  | some total => (.ok total, p)
  | none =>
    match p.refill 0 with
    | (.error e, p) => (.error e, p)
    | (.ok (), p) => (.ok (p.total.getD 0), p)

/-- Moves to a row, and answers whether there is one. A target past the end leads after the last
row, and a fill that fails leads to before the first. -/
def moveTo (target : Nat) (p : Pager σ) : Except Error Bool × Pager σ :=
  match p.count with
  | (.error e, p) => (.error e, p)
  | (.ok total, p) =>
    if total ≤ target then (.ok false, { p with position := some total })
    else if p.holds target then (.ok true, { p with position := some target })
    else
      match p.refill target with
      | (.error e, p) => (.error e, { p with position := none })
      | (.ok (), p) => (.ok true, { p with position := some target })

def first (p : Pager σ) : Except Error Bool × Pager σ := p.moveTo 0

def next (p : Pager σ) : Except Error Bool × Pager σ :=
  match p.position with
  | none => p.moveTo 0
  | some position => p.moveTo (position + 1)

def previous (p : Pager σ) : Except Error Bool × Pager σ :=
  match p.position with
  | none | some 0 => (.ok false, { p with position := none })
  | some (before + 1) => p.moveTo before

end Pager

end RowPager
