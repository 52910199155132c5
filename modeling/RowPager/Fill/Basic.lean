import RowPager.Cursor.Basic
import RowPager.Fill.Tally
import RowPager.Window.Append

/-!
Fills: one pass of a cursor, copied into a window until it is full. When a row up to the required
one overflows, the window is emptied and goes on with that row, so that the required row is always
held at the end:

    cursor rows   0 1 2 3 4 5 6 7 8 9        required 7, three rows fit
    at first     [0 1 2]                     3 overflows
    then               [3 4 5]               6 overflows
    then                     [6 7 8]         9 overflows, and the window is full
-/

set_option autoImplicit false

namespace RowPager.Fill

structure Request where
  /-- Rows before this one are passed over. -/
  start : Nat
  /-- The row that the window has to hold at the end, if the cursor has it. -/
  required : Nat
  /-- Whether to run through all rows, also when the window is full. -/
  countAll : Bool
  deriving DecidableEq

structure Report where
  /-- The cursor row in window row 0. -/
  startPosition : Nat
  /-- All rows of the cursor if they were run through, else the rows up to the last one held. -/
  countedRows : Nat
  deriving DecidableEq

/-- A start for a required row when a window is known to hold `capacityRows`: a third of them
comes before it. -/
def centredStart (required capacityRows : Nat) : Nat := required - capacityRows / 3

structure Progress where
  /-- The rows dealt with. -/
  seen : Nat
  /-- The first row that the window may hold. -/
  start : Nat
  accepting : Bool
  deriving DecidableEq

def Progress.report (p : Progress) : Report := ⟨p.start, p.seen⟩

inductive Verdict where
  | next (progress : Progress)
  | stop (progress : Progress)
  | fail (e : Error)
  deriving DecidableEq

/-- Begins the window anew with a row that overflowed. Before the required row, one that does not
fit even alone is skipped. -/
def restart (request : Request) (columns : Nat) (cell : Nat → Value) (row : Nat) (w : Window)
    (tally : Tally) : Verdict × Window × Tally :=
  match w.prepare columns with
  | (.error e, w) => (.fail e, w, tally)
  | (.ok (), w) =>
    let tally := tally.add .overflowRestarts 1
    match w.appendRow cell with
    | (.ok (), w) => (.next ⟨row + 1, row, true⟩, w, tally.add .rowsWritten 1)
    | (.error e, w) =>
      if !e.isOutOfMemory then (.fail e, w, tally)
      else if row = request.required then (.fail (.rowTooLarge row w.capacity), w, tally)
      else (.next ⟨row + 1, row + 1, true⟩, w, tally.add .rowsSkipped 1)

def takeRow (request : Request) (columns : Nat) (cell : Nat → Value) (p : Progress) (w : Window)
    (tally : Tally) : Verdict × Window × Tally :=
  if p.seen < p.start ∨ !p.accepting then (.next { p with seen := p.seen + 1 }, w, tally)
  else
    match w.appendRow cell with
    | (.ok (), w) => (.next { p with seen := p.seen + 1 }, w, tally.add .rowsWritten 1)
    | (.error e, w) =>
      if !e.isOutOfMemory then (.fail e, w, tally)
      else if p.seen ≤ request.required then restart request columns cell p.seen w tally
      else
        let tally := tally.add .truncatedFills 1
        if request.countAll then (.next ⟨p.seen + 1, p.start, false⟩, w, tally)
        else (.stop { p with accepting := false }, w, tally)

variable {σ : Type} [Cursor σ]

def takeRows (request : Request) (p : Progress) (c : σ) (w : Window) (tally : Tally) :
    Except Error Report × σ × Window × Tally :=
  match h : Cursor.step c with
  | (.error e, c) => (.error (.cursor e), c, w, tally)
  | (.ok .done, c) => (.ok p.report, c, w, tally)
  | (.ok .row, c') =>
    have := Cursor.remaining_lt h
    match takeRow request (Cursor.columnCount c') (Cursor.cell c') p w tally with
    | (.next p, w, tally) => takeRows request p c' w tally
    | (.stop p, w, tally) => (.ok p.report, c', w, tally)
    | (.fail e, w, tally) => (.error e, c', w, tally)
termination_by Cursor.remaining c

def pass (request : Request) (c : σ) (w : Window) (tally : Tally) :
    Except Error Report × σ × Window × Tally :=
  match w.prepare (Cursor.columnCount c) with
  | (.error e, w) => (.error e, c, w, tally)
  | (.ok (), w) => takeRows request ⟨0, request.start, true⟩ c w tally

/-- Fills a window. The cursor is reset at the end, whatever came before, and a fill that failed
leaves a writable window empty. -/
def run (request : Request) (c : σ) (w : Window) (tally : Tally) :
    Except Error Report × σ × Window × Tally :=
  if request.required < request.start then
    (.error (.invalidFillRange request.start request.required), c, w, tally)
  else
    let (outcome, c, w, tally) := pass request c w tally
    let (rewound, c) := Cursor.reset c
    match outcome, rewound with
    | .ok report, .ok () =>
      (.ok report, c, w.setStartPosition report.startPosition,
        (tally.add .fills 1).add .rowsCounted (.ofNat report.countedRows))
    | .ok _, .error e => (.error (.cursor e), c, w.clear.2, tally)
    | .error e, _ => (.error e, c, w.clear.2, tally)

end RowPager.Fill
