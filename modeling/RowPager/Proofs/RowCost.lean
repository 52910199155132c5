import RowPager.Cell.Basic
import RowPager.Proofs.RowPlace

/-!
How many bytes rows take that are appended one after the other to an empty window, and nothing
else is.
-/

set_option autoImplicit false

namespace RowPager

def rowOf (count : Nat) (cell : Nat → Value) : List Value := (List.range count).map cell

namespace Layout

def rowPayload : List Value → Nat
  | [] => 0
  | value :: row => value.payloadSize + rowPayload row

/-- What a window needs to hold a row and no other. -/
def loneSize (columns : Nat) (row : List Value) : Nat :=
  minCapacity + columns * cellSize + rowPayload row

/-- The free offset after some more rows, the first of them with the given index. -/
def usedFrom (columns index free : Nat) : List (List Value) → Nat
  | [] => free
  | row :: rows => usedFrom columns (index + 1) (rowEnd columns index free + rowPayload row) rows

def usedBy (columns : Nat) (rows : List (List Value)) : Nat := usedFrom columns 0 minCapacity rows

theorem le_rowEnd (columns index free : Nat) : free + columns * 16 ≤ rowEnd columns index free := by
  have hcells := le_cellsStart index free
  unfold rowEnd
  omega

theorem usedFrom_append (columns index free : Nat) (rows more : List (List Value)) :
    usedFrom columns index free (rows ++ more) =
      usedFrom columns (index + rows.length) (usedFrom columns index free rows) more := by
  induction rows generalizing index free with
  | nil => rfl
  | cons row rows ih =>
    rw [List.cons_append, usedFrom, ih, usedFrom, List.length_cons]
    congr 1
    omega

theorem le_usedFrom (columns index free : Nat) (rows : List (List Value)) :
    free ≤ usedFrom columns index free rows := by
  induction rows generalizing index free with
  | nil => exact Nat.le_refl free
  | cons row rows ih =>
    have hend := le_rowEnd columns index free
    have hrest := ih (index + 1) (rowEnd columns index free + rowPayload row)
    rw [usedFrom]
    omega

theorem add_le_usedFrom (columns index free : Nat) {rows : List (List Value)} {row : List Value}
    (h : row ∈ rows) :
    free + columns * 16 + rowPayload row ≤ usedFrom columns index free rows := by
  induction rows generalizing index free with
  | nil => cases h
  | cons first rows ih =>
    have hend := le_rowEnd columns index free
    rw [usedFrom]
    cases h with
    | head =>
      have hrest := le_usedFrom columns (index + 1) (rowEnd columns index free + rowPayload row) rows
      omega
    | tail _ h =>
      have hrest := ih (index + 1) (rowEnd columns index free + rowPayload first) h
      omega

theorem usedBy_concat (columns : Nat) (rows : List (List Value)) (row : List Value) :
    usedBy columns (rows ++ [row]) =
      rowEnd columns rows.length (usedBy columns rows) + rowPayload row := by
  rw [usedBy, usedFrom_append, Nat.zero_add]
  rfl

theorem usedBy_concat_eq (columns : Nat) (rows : List (List Value)) (row : List Value) :
    usedBy columns (rows ++ [row]) =
      alignUp (if 0 < rows.length ∧ rows.length % 100 = 0 then alignUp (usedBy columns rows) + 404
        else usedBy columns rows) + 16 * columns + rowPayload row := by
  rw [usedBy_concat, rowEnd]
  cases hchunk : newChunk rows.length (usedBy columns rows) with
  | none =>
    have hinside := newChunk_eq_none hchunk
    rw [cellsStart_of_none hchunk, if_neg (by omega)]
    omega
  | some chunk =>
    obtain ⟨rfl, hfirst, hpos⟩ := newChunk_eq_some hchunk
    rw [cellsStart_of_chunk hchunk, if_pos ⟨hpos, hfirst⟩]
    omega

theorem usedBy_mono (columns : Nat) {rows more : List (List Value)} (h : rows <+: more) :
    usedBy columns rows ≤ usedBy columns more := by
  obtain ⟨rest, rfl⟩ := h
  rw [usedBy, usedBy, usedFrom_append]
  exact le_usedFrom ..

theorem usedBy_concat_mono (columns : Nat) {rows more : List (List Value)} (h : rows <+: more)
    (row : List Value) : usedBy columns (rows ++ [row]) ≤ usedBy columns (more ++ [row]) := by
  -- A row needs as much room after more rows. The first of those has taken the place where it
  -- would have gone, and the chunk that it would have added.
  obtain ⟨rest, rfl⟩ := h
  cases rest with
  | nil => exact Nat.le_of_eq (by rw [List.append_nil])
  | cons first rest =>
    have hplace : rowEnd columns rows.length (usedBy columns rows) ≤
        usedBy columns (rows ++ first :: rest) := by
      have hfirst : rows ++ [first] <+: rows ++ first :: rest := ⟨rest, by simp⟩
      have hmore := usedBy_mono columns hfirst
      rw [usedBy_concat] at hmore
      omega
    have hend := le_rowEnd columns (rows ++ first :: rest).length
      (usedBy columns (rows ++ first :: rest))
    rw [usedBy_concat, usedBy_concat]
    omega

def plainSize (columns count : Nat) : Nat := 420 + 404 * ((count - 1) / 100) + 16 * columns * count

theorem rowEnd_plainSize (columns index : Nat) :
    rowEnd columns index (plainSize columns index) = plainSize columns (index + 1) := by
  -- Nothing is lost to alignment, since all parts are whole words.
  have halign : ∀ words, alignUp (4 * words) = 4 * words := by
    intro words
    unfold alignUp
    omega
  have hsize : plainSize columns index =
      4 * (105 + 101 * ((index - 1) / 100) + 4 * (columns * index)) := by
    rw [plainSize, Nat.mul_assoc]
    omega
  have hnext : plainSize columns (index + 1) =
      4 * (105 + 101 * (index / 100) + 4 * (columns * index + columns)) := by
    rw [plainSize, Nat.mul_assoc, Nat.mul_succ, Nat.add_sub_cancel]
    omega
  rw [rowEnd, hnext, hsize]
  cases hchunk : newChunk index (4 * (105 + 101 * ((index - 1) / 100) + 4 * (columns * index))) with
  | none =>
    have hinside := newChunk_eq_none hchunk
    rw [cellsStart_of_none hchunk, halign]
    omega
  | some chunk =>
    obtain ⟨hstart, hfirst, hpos⟩ := newChunk_eq_some hchunk
    rw [halign] at hstart
    have hcells : chunk + 404 =
        4 * (105 + 101 * ((index - 1) / 100) + 4 * (columns * index) + 101) := by omega
    rw [cellsStart_of_chunk hchunk, hcells, halign]
    omega

theorem usedFrom_plainSize (columns index : Nat) {rows : List (List Value)}
    (hplain : ∀ row ∈ rows, rowPayload row = 0) :
    usedFrom columns index (plainSize columns index) rows =
      plainSize columns (index + rows.length) := by
  induction rows generalizing index with
  | nil => rfl
  | cons row rows ih =>
    have hnone : rowPayload row = 0 := hplain row List.mem_cons_self
    have hrest := ih (index + 1) fun row hrow => hplain row (List.mem_cons_of_mem _ hrow)
    rw [usedFrom, rowEnd_plainSize, hnone, Nat.add_zero (plainSize _ _), hrest, List.length_cons]
    congr 1
    omega

theorem usedBy_plain (columns : Nat) {rows : List (List Value)}
    (hplain : ∀ row ∈ rows, rowPayload row = 0) :
    usedBy columns rows = plainSize columns rows.length := by
  have hfrom := usedFrom_plainSize columns 0 hplain
  rwa [Nat.zero_add] at hfrom

theorem usedFrom_congr (columns index free : Nat) {rows rows' : List (List Value)}
    (h : rows.map rowPayload = rows'.map rowPayload) :
    usedFrom columns index free rows = usedFrom columns index free rows' := by
  induction rows generalizing rows' index free with
  | nil =>
    rw [List.map_nil, eq_comm, List.map_eq_nil_iff] at h
    rw [h]
  | cons row rows ih =>
    cases rows' with
    | nil => cases h
    | cons row' rows' =>
      obtain ⟨hrow, hrows⟩ := List.cons.inj h
      rw [usedFrom, usedFrom, hrow, ih _ _ hrows]

theorem usedBy_singleton (columns : Nat) (row : List Value) :
    usedBy columns [row] = loneSize columns row := rfl

theorem columns_le_loneSize (columns : Nat) (row : List Value) : columns ≤ loneSize columns row := by
  show columns ≤ 420 + columns * 16 + rowPayload row
  omega

theorem loneSize_le_usedBy (columns : Nat) {rows : List (List Value)} {row : List Value}
    (h : row ∈ rows) : loneSize columns row ≤ usedBy columns rows :=
  add_le_usedFrom columns 0 minCapacity h

end Layout

end RowPager
