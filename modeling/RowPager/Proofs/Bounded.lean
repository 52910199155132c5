import Mathlib.Algebra.Group.Nat.Defs
import RowPager.Window.Cells

/-!
The calculations of the window in words of 64 bits. They are written out again here so that one
whose result does not fit into a word, or would be negative, has no outcome at all; and it turns out
that they always have one, which is the same.
-/

set_option autoImplicit false

namespace RowPager

/-- A calculation in words. It has no outcome if a number would not fit. -/
abbrev Bounded (α : Type) : Type := ExceptT Error Option α

namespace Bounded

def fit (n : Nat) : Bounded Nat := ExceptT.lift (if n < 2 ^ 64 then some n else none)

def sub (m n : Nat) : Bounded Nat := ExceptT.lift (if n ≤ m then some (m - n) else none)

def alignUp (offset : Nat) : Bounded Nat := do
  return (← fit (offset + 3)) / 4 * 4

def requireUsed (w : Window) (offset length : Nat) : Bounded Unit := do
  let _ ← fit (offset + length)
  w.requireUsed offset length

def followLinks (w : Window) (target : Nat) : Nat → Nat → Bounded Nat
  | 0, offset => do
    requireUsed w offset Layout.chunkSize
    return offset
  | links + 1, offset => do
    requireUsed w offset Layout.chunkSize
    let next ← Buffer.word w.bytes (← fit (offset + Layout.linkOffset))
    if next = 0 then throw (.corrupted (.unlinkedChunk target))
    else followLinks w target links next.toNat

def chunk (w : Window) (index : Nat) : Bounded Nat :=
  followLinks w index index w.header.firstChunk.toNat

def planChunk (w : Window) : Bounded (Nat × Option Nat × Nat) :=
  if w.rows % Layout.chunkRows = 0 ∧ 0 < w.rows / Layout.chunkRows then do
    let last ← chunk w (← sub (w.rows / Layout.chunkRows) 1)
    let chunk ← alignUp w.used
    return (chunk, some (← fit (last + Layout.linkOffset)), ← fit (chunk + Layout.chunkSize))
  else do
    return (← chunk w (w.rows / Layout.chunkRows), none, w.used)

def planRow (w : Window) : Bounded Window.RowPlan := do
  w.requireWritable
  let (chunk, link, free) ← planChunk w
  let cells ← alignUp free
  let finish ← fit (cells + (← fit (w.columns * Layout.cellSize)))
  if w.capacity < finish then
    throw (.outOfMemory (← sub finish w.used) (← sub w.capacity w.used))
  else do
    let _ ← fit (chunk + w.rows % Layout.chunkRows * Layout.rowSlotSize)
    return ⟨w.rows, chunk, link, cells, finish⟩

def rowCells (w : Window) (row : Nat) : Bounded Nat := do
  let chunk ← chunk w (row / Layout.chunkRows)
  let slot ← fit (chunk + row % Layout.chunkRows * Layout.rowSlotSize)
  return (← Buffer.word w.bytes slot).toNat

def cellOffset (w : Window) (row column : Nat) : Bounded Nat :=
  if w.rows ≤ row ∨ w.columns ≤ column then
    throw (.indexOutOfRange row column w.rows w.columns)
  else do
    let offset ← fit ((← rowCells w row) + (← fit (column * Layout.cellSize)))
    requireUsed w offset Layout.cellSize
    return offset

/-- A calculation stays within words and comes to a result, of which something is known. -/
structure Yields {α : Type} (Known : α → Prop) (x : Bounded α) (r : Except Error α) : Prop where
  run : x.run = some r
  known : ∀ a, r = .ok a → Known a

namespace Yields

variable {α β : Type} {Known : α → Prop} {Known' : β → Prop} {x : Bounded α} {r : Except Error α}

theorem bind {f : α → Bounded β} {g : α → Except Error β} (h : Yields Known x r)
    (hf : ∀ a, Known a → Yields Known' (f a) (g a)) : Yields Known' (x >>= f) (r >>= g) := by
  obtain ⟨hrun, hknown⟩ := h
  cases r with
  | ok a =>
    obtain ⟨hrun', hknown'⟩ := hf a (hknown a rfl)
    refine ⟨?_, hknown'⟩
    rw [ExceptT.run_bind, hrun]
    exact hrun'
  | error e =>
    refine ⟨?_, fun b hb => by cases hb⟩
    rw [ExceptT.run_bind, hrun]
    rfl

theorem pure {a : α} (h : Known a) : Yields Known (Pure.pure a) (.ok a) :=
  ⟨rfl, fun b hb => by cases hb; exact h⟩

theorem throw (e : Error) : Yields Known (MonadExcept.throw e) (.error e) :=
  ⟨rfl, fun b hb => by cases hb⟩

theorem lift (h : ∀ a, r = .ok a → Known a) : Yields Known (liftM r) r :=
  ⟨rfl, h⟩

theorem after {a : α} {f : α → Bounded β} {r : Except Error β}
    (h : x.run = some (.ok a)) (hf : Yields Known' (f a) r) : Yields Known' (x >>= f) r := by
  refine ⟨?_, hf.known⟩
  rw [ExceptT.run_bind, h]
  exact hf.run

end Yields

section Arithmetic

variable {n m offset : Nat}

theorem run_fit (h : n < 2 ^ 64) : (fit n).run = some (.ok n) := by
  rw [fit, if_pos h]
  rfl

theorem run_sub (h : n ≤ m) : (sub m n).run = some (.ok (m - n)) := by
  rw [sub, if_pos h]
  rfl

theorem run_alignUp (h : offset + 3 < 2 ^ 64) :
    (alignUp offset).run = some (.ok (Layout.alignUp offset)) := by
  rw [alignUp, ExceptT.run_bind, run_fit h]
  rfl

end Arithmetic

variable {w : Window} {offset length : Nat}

theorem requireUsed_yields (h : offset + length < 2 ^ 64) :
    Yields (fun _ => True) (requireUsed w offset length) (w.requireUsed offset length) :=
  .after (run_fit h) (.lift fun _ _ => trivial)

theorem followLinks_yields (target links : Nat) (h : offset < 2 ^ 32) :
    Yields (· < 2 ^ 32) (followLinks w target links offset)
      (w.followLinks target links offset) := by
  -- A link is a word of 32 bits, so that what it leads to is far from the end of the numbers.
  induction links generalizing offset with
  | zero =>
    refine (requireUsed_yields ?_).bind fun _ _ => .pure h
    show offset + 404 < 2 ^ 64
    omega
  | succ links ih =>
    have hlink : offset + Layout.linkOffset < 2 ^ 64 := by
      show offset + 400 < 2 ^ 64
      omega
    refine (requireUsed_yields ?_).bind fun _ _ => .after (run_fit hlink) ?_
    · show offset + 404 < 2 ^ 64
      omega
    refine (Yields.lift fun _ _ => trivial).bind fun next (_ : True) => ?_
    split
    · exact .throw _
    · exact ih next.toNat_lt

theorem chunk_yields (index : Nat) : Yields (· < 2 ^ 32) (chunk w index) (w.chunk index) :=
  followLinks_yields index index w.header.firstChunk.toNat_lt

structure ChunkKnown (w : Window) (plan : Nat × Option Nat × Nat) : Prop where
  chunk : plan.1 < 2 ^ 33
  free : plan.2.2 < 2 ^ 33
  used_le : w.used ≤ plan.2.2

theorem planChunk_yields : Yields (ChunkKnown w) (planChunk w) w.planChunk := by
  have hused : w.used < 2 ^ 32 := w.header.freeOffset.toNat_lt
  have hlo := Layout.le_alignUp w.used
  have hhi := Layout.alignUp_lt w.used
  have hfree : Layout.alignUp w.used + Layout.chunkSize < 2 ^ 33 := by
    show Layout.alignUp w.used + 404 < 2 ^ 33
    omega
  rw [planChunk, Window.planChunk]
  split
  · next hnew =>
    refine .after (run_sub hnew.2) ((chunk_yields _).bind fun last hlast => ?_)
    have hlink : last + Layout.linkOffset < 2 ^ 64 := by
      show last + 400 < 2 ^ 64
      omega
    refine .after (run_alignUp (by omega)) (.after (run_fit hlink) (.after (run_fit (by omega)) ?_))
    exact .pure ⟨Nat.lt_trans hhi (by omega), hfree, Nat.le_trans hlo (Nat.le_add_right _ _)⟩
  · refine (chunk_yields _).bind fun chunk hchunk => .pure ⟨?_, ?_, Nat.le_refl _⟩
    · exact Nat.lt_trans hchunk (by decide)
    · exact Nat.lt_trans hused (by decide)

theorem planRow_yields (hfits : w.used ≤ w.capacity) :
    Yields (fun _ => True) (planRow w) w.planRow := by
  -- The cells of a row may take more bytes than 32 bits can count, before they are found not to
  -- fit.
  have hcolumns : w.columns < 2 ^ 32 := w.header.columns.toNat_lt
  have hcells : w.columns * Layout.cellSize < 2 ^ 36 := by
    show w.columns * 16 < 2 ^ 36
    omega
  rw [planRow, Window.planRow]
  refine (Yields.lift fun _ _ => trivial).bind fun _ (_ : True) => ?_
  refine planChunk_yields.bind fun (chunk, link, free) ⟨hchunk, hfree, hused⟩ => ?_
  simp only at hchunk hfree hused ⊢
  have hlo := Layout.le_alignUp free
  have hhi := Layout.alignUp_lt free
  refine .after (run_alignUp (by omega)) (.after (run_fit (by omega)) (.after (run_fit (by omega)) ?_))
  split
  · exact .after (run_sub (by omega)) (.after (run_sub hfits) (.throw _))
  · have hslot : chunk + w.rows % Layout.chunkRows * Layout.rowSlotSize < 2 ^ 64 := by
      show chunk + w.rows % 100 * 4 < 2 ^ 64
      omega
    exact .after (run_fit hslot) (.pure trivial)

theorem rowCells_yields (row : Nat) : Yields (· < 2 ^ 32) (rowCells w row) (w.rowCells row) := by
  refine (chunk_yields _).bind fun chunk hchunk => ?_
  have hslot : chunk + row % Layout.chunkRows * Layout.rowSlotSize < 2 ^ 64 := by
    show chunk + row % 100 * 4 < 2 ^ 64
    omega
  refine .after (run_fit hslot) ((Yields.lift fun _ _ => trivial).bind fun cells (_ : True) => ?_)
  exact .pure cells.toNat_lt

theorem cellOffset_yields (row column : Nat) :
    Yields (fun _ => True) (cellOffset w row column) (w.cellOffset row column) := by
  have hcolumns : w.columns < 2 ^ 32 := w.header.columns.toNat_lt
  rw [cellOffset, Window.cellOffset]
  split
  · exact .throw _
  · next hin =>
    refine (rowCells_yields row).bind fun cells hcells => ?_
    have hcolumn : column * Layout.cellSize < 2 ^ 36 := by
      show column * 16 < 2 ^ 36
      omega
    have hend : cells + column * Layout.cellSize + Layout.cellSize < 2 ^ 64 := by
      show cells + column * Layout.cellSize + 16 < 2 ^ 64
      omega
    refine .after (run_fit (by omega)) (.after (run_fit (by omega)) ?_)
    exact (requireUsed_yields hend).bind fun _ _ => .pure trivial

end Bounded

end RowPager
