import RowPager.Cell.Basic
import RowPager.Layout

/-!
Where the next row goes, as a function of the number of rows and the free offset alone. Sizes
stand as numbers here, since they are calculated with: 100 rows a chunk, 404 bytes for a chunk, 16
for a cell.
-/

set_option autoImplicit false

namespace RowPager.Layout

/-- The chunk that has to be added for a row. The first one is always there. -/
def newChunk (index free : Nat) : Option Nat :=
  if index % 100 = 0 ∧ 0 < index / 100 then some (alignUp free) else none

def cellsStart (index free : Nat) : Nat :=
  match newChunk index free with
  | some chunk => alignUp (chunk + 404)
  | none => alignUp free

def rowEnd (columns index free : Nat) : Nat := cellsStart index free + columns * 16

def chunkCount (rows : Nat) : Nat := max 1 ((rows + 99) / 100)

theorem newChunk_eq_some {index free chunk : Nat} (h : newChunk index free = some chunk) :
    chunk = alignUp free ∧ index % 100 = 0 ∧ 0 < index := by
  unfold newChunk at h
  split at h
  · next hc =>
    cases h
    exact ⟨rfl, hc.1, by have := hc.2; omega⟩
  · cases h

theorem newChunk_eq_none {index free : Nat} (h : newChunk index free = none) :
    index % 100 ≠ 0 ∨ index = 0 := by
  unfold newChunk at h
  split at h
  · cases h
  · next hc =>
    simp only [not_and] at hc
    omega

theorem cellsStart_of_chunk {index free chunk : Nat} (h : newChunk index free = some chunk) :
    cellsStart index free = alignUp (chunk + 404) := by
  rw [cellsStart, h]

theorem cellsStart_of_none {index free : Nat} (h : newChunk index free = none) :
    cellsStart index free = alignUp free := by
  rw [cellsStart, h]

theorem cellsStart_mod (index free : Nat) : cellsStart index free % 4 = 0 := by
  unfold cellsStart
  split <;> exact alignUp_mod _

theorem le_cellsStart (index free : Nat) : free ≤ cellsStart index free := by
  unfold cellsStart
  have hf := le_alignUp free
  split
  · next chunk hc =>
    have hl := le_alignUp (chunk + 404)
    have hu := (newChunk_eq_some hc).1
    omega
  · exact hf

theorem newChunk_bounds {index free chunk : Nat} (h : newChunk index free = some chunk) :
    free ≤ chunk ∧ chunk + 404 ≤ cellsStart index free ∧ chunk % 4 = 0 := by
  have hup := (newChunk_eq_some h).1
  have hlo := le_alignUp free
  have hhi := le_alignUp (chunk + 404)
  rw [cellsStart_of_chunk h]
  exact ⟨by omega, hhi, hup ▸ alignUp_mod free⟩

theorem chunkCount_pos (rows : Nat) : 0 < chunkCount rows := by
  unfold chunkCount; omega

theorem chunkCount_mono {m n : Nat} (h : m ≤ n) : chunkCount m ≤ chunkCount n := by
  unfold chunkCount; omega

theorem chunkCount_succ (index free : Nat) :
    chunkCount (index + 1) = chunkCount index + (newChunk index free).toList.length := by
  unfold chunkCount
  cases h : newChunk index free with
  | none =>
    have hn := newChunk_eq_none h
    simp
    omega
  | some chunk =>
    have hs := newChunk_eq_some h
    simp
    omega

theorem chunk_lt_chunkCount {row rows : Nat} (h : row < rows) : row / 100 < chunkCount rows := by
  unfold chunkCount; omega

theorem rows_le_chunkCount (rows : Nat) : rows ≤ 100 * chunkCount rows := by
  unfold chunkCount; omega

end RowPager.Layout
