import RowPager.Window.Basic

/-!
Settings from which a window is made.
-/

set_option autoImplicit false

namespace RowPager

structure Settings where
  name : String := "<unnamed>"
  size : Nat := Layout.defaultCapacity
  deriving DecidableEq

def Settings.validate (settings : Settings) : Except Error Unit :=
  if settings.size < Layout.minCapacity then
    .error (.capacityTooSmall settings.size Layout.minCapacity)
  else if Layout.maxCapacity < settings.size then
    .error (.invalidConfig (.windowSize settings.size))
  else .ok ()

def Window.ofSettings (settings : Settings) : Except Error Window := do
  settings.validate
  Window.create settings.name settings.size

end RowPager
