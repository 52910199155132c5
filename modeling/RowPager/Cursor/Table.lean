import RowPager.Cursor.Basic

/-!
Cursors over rows held in memory. A pass delivers each row once, in order; failures can be
arranged for one row and for every reset.
-/

set_option autoImplicit false

namespace RowPager

structure TableCursor where
  columns : Nat
  rows : Array (Array Value)
  /-- The row delivered last in this pass. -/
  position : Option Nat
  /-- Whether this pass has reported its end. -/
  done : Bool
  canceled : Bool
  /-- The row that cannot be delivered, and why. -/
  failAt : Option (Nat × CursorError)
  resetFailure : Option CursorError
  steps : Nat
  resets : Nat

namespace TableCursor

def ofRows (columns : Nat) (rows : Array (Array Value)) : Except Violation TableCursor :=
  if rows.all (·.size = columns) then
    .ok ⟨columns, rows, none, false, false, none, none, 0, 0⟩
  else .error (.rowLength columns)

def failingAt (c : TableCursor) (row : Nat) (e : CursorError) : TableCursor :=
  { c with failAt := some (row, e) }

def failingReset (c : TableCursor) (e : CursorError) : TableCursor :=
  { c with resetFailure := some e }

def size (c : TableCursor) : Nat := c.rows.size

def isEmpty (c : TableCursor) : Bool := c.rows.isEmpty

def cancel (c : TableCursor) : TableCursor := { c with canceled := true }

def resume (c : TableCursor) : TableCursor := { c with canceled := false }

def next (c : TableCursor) : Nat :=
  match c.position with
  | none => 0
  | some position => position + 1

def failureAt (c : TableCursor) (row : Nat) : Option CursorError :=
  c.failAt.bind fun (failing, e) => if failing = row then some e else none

/-- Moves to the next row. Of several reasons to fail a cancellation comes first, then the end of
the pass, then an arranged failure; a step that fails moves nothing. -/
def advance (c : TableCursor) : Except CursorError Step × TableCursor :=
  if c.canceled then (.error .canceled, c)
  else if c.done then (.error (.misuse "step after done without reset"), c)
  else
    match c.failureAt c.next with
    | some e => (.error e, c)
    | none =>
      if c.next < c.rows.size then (.ok .row, { c with position := some c.next })
      else (.ok .done, { c with position := none, done := true })

def step (c : TableCursor) : Except CursorError Step × TableCursor :=
  advance { c with steps := c.steps + 1 }

/-- A value of the current row. Without a row, or beyond its columns, all is null. -/
def cell (c : TableCursor) (column : Nat) : Value :=
  match c.position with
  | none => .null
  | some position => ((c.rows[position]?.bind (·[column]?))).getD .null

def reset (c : TableCursor) : Except CursorError Unit × TableCursor :=
  (match c.resetFailure with
    | some e => .error e
    | none => .ok (),
   { c with position := none, done := false, resets := c.resets + 1 })

def remaining (c : TableCursor) : Nat := c.rows.size - c.next

theorem remaining_advance {c c' : TableCursor} (h : c.advance = (.ok .row, c')) :
    c'.remaining < c.remaining := by
  unfold advance at h
  split at h
  · cases h
  split at h
  · cases h
  split at h
  · cases h
  split at h
  · next hlt =>
    cases h
    simp only [remaining, next] at hlt ⊢
    omega
  · cases h

instance : Cursor TableCursor where
  columnCount := columns
  cell := cell
  step := step
  reset := reset
  remaining := remaining
  remaining_lt {c _} h := remaining_advance (c := { c with steps := c.steps + 1 }) h

end TableCursor

end RowPager
