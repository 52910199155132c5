import RowPager.Window.Cells

/-!
Whole rows. A row is appended with all its cells or not at all.
-/

set_option autoImplicit false

namespace RowPager

def Error.isOutOfMemory : Error → Bool
  | .outOfMemory .. => true
  | _ => false

namespace Window

def setCells (cell : Nat → Value) (row : Nat) :
    Nat → Nat → Window → Except Error Unit × Window
  | 0, _, w => (.ok (), w)
  | count + 1, column, w =>
    match w.set row column (cell column) with
    | (.error e, w) => (.error e, w)
    | (.ok (), w) => setCells cell row count (column + 1) w

/-- Appends a row. If a cell does not fit, the row is taken back. -/
def appendRow (cell : Nat → Value) (w : Window) : Except Error Unit × Window :=
  match w.pushRow with
  | (.error e, w) => (.error e, w)
  | (.ok row, w) =>
    match setCells cell row w.columns 0 w with
    | (.ok (), w) => (.ok (), w)
    | (.error e, w) =>
      match w.popRow with
      | (.ok (), w) => (.error e, w)
      | (.error e, w) => (.error e, w)

def prepare (columns : Nat) (w : Window) : Except Error Unit × Window :=
  match w.clear with
  | (.error e, w) => (.error e, w)
  | (.ok (), w) => w.setColumns columns

end Window

end RowPager
