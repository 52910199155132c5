import RowPager.Error

/-!
Query cursors: forward-only sources of rows, which can be rewound. Between rewinds a cursor can
deliver only so many rows.
-/

set_option autoImplicit false

namespace RowPager

inductive Step where
  | row
  | done
  deriving DecidableEq

/-- A source of rows with states in `σ`. Steps and resets answer with the state after them. It is an
assumption on every source that its passes end: there is a bound on the rows still to come, which
each row lowers. Sources with endless passes are left out. -/
class Cursor (σ : Type) where
  columnCount : σ → Nat
  /-- A cell of the row that the last successful step delivered. -/
  cell : σ → Nat → Value
  step : σ → Except CursorError Step × σ
  /-- Rewinds to before the first row, and reports what went wrong with the query. -/
  reset : σ → Except CursorError Unit × σ
  /-- A bound on the rows still to come before the next reset. -/
  remaining : σ → Nat
  remaining_lt : ∀ {c c' : σ}, step c = (.ok .row, c') → remaining c' < remaining c

end RowPager
