import RowPager.Number.Binary64

/-!
Counts kept over many fills. They wrap at 64 bits.
-/

set_option autoImplicit false

namespace RowPager

structure Tally where
  fills : UInt64
  rowsWritten : UInt64
  rowsCounted : UInt64
  overflowRestarts : UInt64
  rowsSkipped : UInt64
  truncatedFills : UInt64
  deriving DecidableEq

inductive Counter where
  /-- Fills that succeeded. -/
  | fills
  /-- Rows written into a window, also those that a restart discarded. -/
  | rowsWritten
  /-- Rows seen by fills that succeeded. -/
  | rowsCounted
  /-- Times that a full window was emptied to make room for the required row. -/
  | overflowRestarts
  /-- Rows before the required one that do not fit even alone. -/
  | rowsSkipped
  /-- Fills that stopped taking rows before the cursor ran out. -/
  | truncatedFills
  deriving DecidableEq

namespace Tally

def zero : Tally := ⟨0, 0, 0, 0, 0, 0⟩

def add (tally : Tally) (counter : Counter) (n : UInt64) : Tally :=
  match counter with
  | .fills => { tally with fills := tally.fills + n }
  | .rowsWritten => { tally with rowsWritten := tally.rowsWritten + n }
  | .rowsCounted => { tally with rowsCounted := tally.rowsCounted + n }
  | .overflowRestarts => { tally with overflowRestarts := tally.overflowRestarts + n }
  | .rowsSkipped => { tally with rowsSkipped := tally.rowsSkipped + n }
  | .truncatedFills => { tally with truncatedFills := tally.truncatedFills + n }

def rowsPerFill (tally : Tally) : Binary64 :=
  if tally.fills = 0 then ⟨0⟩
  else .quotient tally.rowsWritten.toNat tally.fills.toNat

def summary (tally : Tally) : String :=
  s!"Fills \x7b fills: {tally.fills}, written: {tally.rowsWritten}, counted: " ++
    s!"{tally.rowsCounted}, restarts: {tally.overflowRestarts}, truncated: " ++
    s!"{tally.truncatedFills}, rows_per_fill: {tally.rowsPerFill.oneDecimal} \x7d"

end Tally

end RowPager
