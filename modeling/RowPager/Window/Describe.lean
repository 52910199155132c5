import RowPager.Text.Quoted
import RowPager.Window.Basic

/-!
Windows in words, for logs.
-/

set_option autoImplicit false

namespace RowPager.Window

def summary (w : Window) : String :=
  s!"Window \x7b name: {w.name}, rows: {w.rows}, columns: {w.columns}, used: {w.used}/{w.capacity} \x7d"

def details (w : Window) : String :=
  s!"Window \x7b name: {Quoted.quote w.name}, capacity: {w.capacity}, header: " ++
    s!"{w.header.describe}, read_only: {w.readOnly}, start_position: {w.startPosition} \x7d"

end RowPager.Window
