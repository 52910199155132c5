import RowPager.Window.Basic

/-!
Windows with several owners. Each owner has a handle; the last one can take the window back.
-/

set_option autoImplicit false

namespace RowPager.Window

structure Handle where
  window : Window
  others : Nat

namespace Handle

def ofWindow (window : Window) : Handle := ⟨window, 0⟩

def share (handle : Handle) : Handle := { handle with others := handle.others + 1 }

def read {α : Type} (handle : Handle) (f : Window → α) : α := f handle.window

def write (handle : Handle) (f : Window → Window) : Handle :=
  { handle with window := f handle.window }

/-- Gives up the handle in hand. The last one yields the window, any other leaves the rest. -/
def release (handle : Handle) : Window ⊕ Handle :=
  match handle.others with
  | 0 => .inl handle.window
  | others + 1 => .inr { handle with others := others }

end Handle

end RowPager.Window
