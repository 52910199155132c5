import RowPager.Bytes.Reading

/-!
Windows: a table of cells in one buffer that never grows. The buffer is filled from the front;
what the free offset has passed is in use. Every operation answers with the window after it, also
when it fails.
-/

set_option autoImplicit false

namespace RowPager

structure PendingRow where
  freeOffset : UInt32
  /-- The link that was set because the row began a chunk. -/
  link : Option UInt32
  deriving DecidableEq

structure Window where
  name : String
  /-- Kept apart from the buffer, whose first sixteen bytes are reserved for its written form. -/
  header : Header
  bytes : ByteArray
  readOnly : Bool
  /-- The cursor row that window row 0 holds. -/
  startPosition : Nat
  pending : Option PendingRow
  deriving DecidableEq

namespace Window

def capacity (w : Window) : Nat := w.bytes.size

def used (w : Window) : Nat := w.header.freeOffset.toNat

def free (w : Window) : Nat := w.capacity - w.used

def rows (w : Window) : Nat := w.header.rows.toNat

def columns (w : Window) : Nat := w.header.columns.toNat

def setStartPosition (w : Window) (position : Nat) : Window :=
  { w with startPosition := position }

/-- Carries out a plan. One that failed leaves the window as it is. -/
def commit {π α : Type} (plan : Except Error π) (answer : π → α) (change : π → Window → Window)
    (w : Window) : Except Error α × Window :=
  match plan with
  | .ok p => (.ok (answer p), change p w)
  | .error e => (.error e, w)

theorem commit_error {π α : Type} {plan : Except Error π} {answer : π → α}
    {change : π → Window → Window} {w : Window} {e : Error}
    (h : (commit plan answer change w).1 = .error e) :
    (commit plan answer change w).2 = w := by
  cases plan with
  | ok p => cases h
  | error e => rfl

def requireWritable (w : Window) : Except Error Unit :=
  if w.readOnly then .error (.readOnly w.name) else .ok ()

def requireUsed (w : Window) (offset length : Nat) : Except Error Unit :=
  if Layout.headerSize ≤ offset ∧ offset + length ≤ w.used then .ok ()
  else .error (.corrupted (.outsideUsed offset length w.used))

/-- Forgets all rows and columns. Of the buffer only the first link has to be cleared, because
row slots are written before they are read. -/
def emptied : Window → Window
  | ⟨name, _, bytes, readOnly, startPosition, _⟩ =>
    ⟨name, .fresh, Buffer.writeWord bytes (Layout.headerSize + Layout.linkOffset) 0, readOnly,
      startPosition, none⟩

def create (name : String) (capacity : Nat) : Except Error Window :=
  if capacity < Layout.minCapacity then
    .error (.capacityTooSmall capacity Layout.minCapacity)
  else if Layout.maxCapacity < capacity then .error (.invalidConfig (.capacity capacity))
  else .ok (emptied ⟨name, .zero, Buffer.zeros capacity, false, 0, none⟩)

def clear (w : Window) : Except Error Unit × Window :=
  commit w.requireWritable id (fun _ w => w.emptied.setStartPosition 0) w

def planColumns (w : Window) (columns : Nat) : Except Error UInt32 := do
  w.requireWritable
  if 0 < w.rows ∧ w.columns ≠ columns then .error (.columnCountLocked w.columns columns)
  else if UInt32.size ≤ columns then .error (.invalidConfig (.columns columns))
  else .ok (.ofNat columns)

def setColumns (w : Window) (columns : Nat) : Except Error Unit × Window :=
  commit (w.planColumns columns) (fun _ => ())
    (fun count w => { w with header.columns := count }) w

@[simp] theorem capacity_emptied (w : Window) : w.emptied.capacity = w.capacity := by
  simp [emptied, capacity]

end Window

end RowPager
