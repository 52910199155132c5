import RowPager.Cursor.Table
import RowPager.Pager
import RowPager.Proofs.Getter
import RowPager.Proofs.RowCost

/-!
The calls on a pager as data, and what they answer when the rows are simply indexed. All that is
left of the window is its capacity: a row that does not fit alone cannot be moved to.
-/

set_option autoImplicit false

namespace RowPager

namespace Pager

inductive Call where
  | count
  | moveTo (target : Nat)
  | first
  | next
  | previous
  | get (getter : Getter) (column : Nat)
  deriving DecidableEq

inductive Reply where
  | count (total : Nat)
  | moved (found : Bool)
  | answer (answer : Answer)
  deriving DecidableEq

def Call.Within (columns : Nat) : Call → Prop
  | .get _ column => column < columns
  | _ => True

section Call

variable {σ : Type}

def get (p : Pager σ) (column : Nat) : Getter → Except Error Answer
  | .type => (p.typeAt column).map .type
  | .isNull => (p.isNullAt column).map .isNull
  | .integer => (p.integerAt column).map fun v => .value (.integer v)
  | .float => (p.floatAt column).map fun v => .value (.float v)
  | .text => (p.textAt column).map fun v => .value (.text v)
  | .blob => (p.blobAt column).map fun v => .value (.blob v)
  | .value => (p.valueAt column).map .value

theorem get_eq (p : Pager σ) (column : Nat) (getter : Getter) :
    p.get column getter = p.windowRow.bind fun row => p.window.get row column getter := by
  cases hr : p.windowRow with
  | error e =>
    cases getter <;>
      simp only [get, typeAt, isNullAt, integerAt, floatAt, textAt, blobAt, valueAt, hr] <;> rfl
  | ok row =>
    cases getter <;>
      simp only [get, typeAt, isNullAt, integerAt, floatAt, textAt, blobAt, valueAt, hr] <;> rfl

variable [Cursor σ]

def call (p : Pager σ) : Call → Except Error Reply × Pager σ
  | .count => (p.count.1.map .count, p.count.2)
  | .moveTo target => ((p.moveTo target).1.map .moved, (p.moveTo target).2)
  | .first => (p.first.1.map .moved, p.first.2)
  | .next => (p.next.1.map .moved, p.next.2)
  | .previous => (p.previous.1.map .moved, p.previous.2)
  | .get getter column => ((p.get column getter).map .answer, p)

def after (p : Pager σ) (calls : List Call) : Pager σ :=
  calls.foldl (fun p call => (p.call call).2) p

end Call

end Pager

/-- A result set, and the capacity of the window that it is seen through. -/
structure Indexed where
  rows : List (List Value)
  columns : Nat
  capacity : Nat
  deriving DecidableEq

namespace Indexed

def ofTable (c : TableCursor) (w : Window) : Indexed :=
  ⟨c.rows.toList.map Array.toList, c.columns, w.capacity⟩

/-- Whether the window could hold a row and no other. A row that is not there always fits. -/
def fits (t : Indexed) (row : Nat) : Bool :=
  match t.rows[row]? with
  | none => true
  | some cells => Layout.loneSize t.columns cells ≤ t.capacity

def count (t : Indexed) : Except Error Nat :=
  if t.fits 0 then .ok t.rows.length else .error (.rowTooLarge 0 t.capacity)

def moveTo (t : Indexed) (target : Nat) : Except Error Bool × Option Nat :=
  match t.count with
  | .error e => (.error e, none)
  | .ok total =>
    if total ≤ target then (.ok false, some total)
    else if t.fits target then (.ok true, some target)
    else (.error (.rowTooLarge target t.capacity), none)

def next (t : Indexed) : Option Nat → Except Error Bool × Option Nat
  | none => t.moveTo 0
  | some position => t.moveTo (position + 1)

def previous (t : Indexed) : Option Nat → Except Error Bool × Option Nat
  | none | some 0 => (.ok false, none)
  | some (before + 1) => t.moveTo before

/-- A getter answers for the cell of the current row. If the type is wrong, the error counts rows
as the window does, from `top`. -/
def get (t : Indexed) (top column : Nat) (getter : Getter) : Option Nat → Except Error Answer
  | none => .error .noCurrentRow
  | some position =>
    match t.rows[position]?.bind (·[column]?) with
    | none => .error .noCurrentRow
    | some value => value.answer (position - top) column getter

def call (t : Indexed) (top : Nat) (position : Option Nat) :
    Pager.Call → Except Error Pager.Reply × Option Nat
  | .count => (t.count.map .count, position)
  | .moveTo target => ((t.moveTo target).1.map .moved, (t.moveTo target).2)
  | .first => ((t.moveTo 0).1.map .moved, (t.moveTo 0).2)
  | .next => ((t.next position).1.map .moved, (t.next position).2)
  | .previous => ((t.previous position).1.map .moved, (t.previous position).2)
  | .get getter column => ((t.get top column getter position).map .answer, position)

def after (t : Indexed) (position : Option Nat) (calls : List Pager.Call) : Option Nat :=
  calls.foldl (fun position call => (t.call 0 position call).2) position

theorem call_position (t : Indexed) (top top' : Nat) (position : Option Nat) (call : Pager.Call) :
    (t.call top position call).2 = (t.call top' position call).2 := by
  cases call <;> rfl

end Indexed

end RowPager
