import RowPager.Cursor.Basic

/-!
Cursors with one arranged interruption: in one pass, the step for one row fails instead of
reaching the cursor inside.
-/

set_option autoImplicit false

namespace RowPager

structure Interruption where
  pass : Nat
  row : Nat
  error : CursorError
  deriving DecidableEq

/-- A cursor with its place in the sequence of passes: the resets so far, and the steps that
reached the inner cursor since the last one. -/
structure Interrupted (σ : Type) where
  inner : σ
  interruption : Option Interruption
  pass : Nat
  row : Nat

namespace Interrupted

variable {σ : Type} [Cursor σ]

def ofCursor (inner : σ) (interruption : Option Interruption) : Interrupted σ :=
  ⟨inner, interruption, 0, 0⟩

def mapInner (f : σ → σ) (c : Interrupted σ) : Interrupted σ := { c with inner := f c.inner }

def due (c : Interrupted σ) : Option CursorError :=
  c.interruption.bind fun i => if i.pass = c.pass ∧ i.row = c.row then some i.error else none

def step (c : Interrupted σ) : Except CursorError Step × Interrupted σ :=
  match c.due with
  | some e => (.error e, c)
  | none =>
    let (answer, inner) := Cursor.step c.inner
    (answer, ⟨inner, c.interruption, c.pass, c.row + 1⟩)

def reset (c : Interrupted σ) : Except CursorError Unit × Interrupted σ :=
  let (answer, inner) := Cursor.reset c.inner
  (answer, ⟨inner, c.interruption, c.pass + 1, 0⟩)

instance : Cursor (Interrupted σ) where
  columnCount c := Cursor.columnCount c.inner
  cell c := Cursor.cell c.inner
  step := step
  reset := reset
  remaining c := Cursor.remaining c.inner
  remaining_lt := by
    intro c c' h
    unfold step at h
    split at h
    · cases h
    · have hs := (Prod.mk.inj h)
      obtain ⟨hanswer, hstate⟩ := hs
      rw [← hstate]
      exact Cursor.remaining_lt (Prod.ext hanswer rfl)

end Interrupted

end RowPager
