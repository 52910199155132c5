import RowPager.Proofs.Sheet

/-!
The parts of a sheet keep apart. Each lies between the header and the free offset and no two
overlap, so that a write into one of them cannot change another.
-/

set_option autoImplicit false

namespace RowPager

/-- A part of a window. A payload is named by the cell that it belongs to. -/
inductive Piece where
  | chunk (index : Nat)
  | cells (row : Nat)
  | payload (row column : Nat)
  deriving DecidableEq

namespace Sheet

open Layout

/-- The sheet puts a piece at an offset, with a size. -/
inductive Places (s : Sheet) : Piece → Nat → Nat → Prop where
  | chunk {index offset : Nat} (h : s.chunks[index]? = some offset) :
      Places s (.chunk index) offset 404
  | cells {row : Nat} {r : Row} (h : s.rows[row]? = some r) :
      Places s (.cells row) r.cells (s.columns * 16)
  | payload {row column : Nat} {r : Row} {bytes : ByteArray} (h : s.rows[row]? = some r)
      (hc : column < s.columns) (hb : (r.entry column).payload = some bytes) :
      Places s (.payload row column) (r.entry column).offset bytes.size

structure Sound (s : Sheet) : Prop where
  fits : s.free ≤ s.capacity
  limit : s.capacity < 2 ^ 32
  columns_lt : s.columns < 2 ^ 32
  first : s.chunks[0]? = some 16
  chunk_count : s.chunks.length = chunkCount s.rows.length
  spread : ∀ {index offset : Nat}, s.chunks[index]? = some offset →
    16 + 404 * index ≤ offset
  inside : ∀ {p : Piece} {offset size : Nat}, s.Places p offset size →
    16 ≤ offset ∧ offset + size ≤ s.free
  apart : ∀ {p q : Piece} {o m o' n : Nat}, s.Places p o m → s.Places q o' n → p ≠ q →
    o + m ≤ o' ∨ o' + n ≤ o
  chunk_aligned : ∀ offset ∈ s.chunks, offset % 4 = 0
  cells_aligned : ∀ r ∈ s.rows, r.cells % 4 = 0
  /-- A row can be taken back only while nothing that would stay lies behind the mark. -/
  pending : ∀ mark : Nat, s.pending = some mark → mark ≤ s.free ∧ s.rows ≠ [] ∧
    ∀ {p : Piece} {offset size : Nat}, (s.withoutRow mark).Places p offset size →
      offset + size ≤ mark

variable {s : Sheet} {p : Piece} {offset size : Nat}

theorem getElem?_snoc {α : Type} {l : List α} {a b : α} {i : Nat} (h : (l ++ [a])[i]? = some b) :
    l[i]? = some b ∨ i = l.length ∧ a = b := by
  by_cases hi : i < l.length
  · rw [List.getElem?_append_left hi] at h
    exact .inl h
  · rw [List.getElem?_append_right (by omega), List.getElem?_singleton] at h
    split at h
    · exact .inr ⟨by omega, Option.some.inj h⟩
    · cases h

theorem getElem?_of_dropLast {α : Type} {l : List α} {a : α} {i : Nat}
    (h : l.dropLast[i]? = some a) : l[i]? = some a := by
  rw [List.getElem?_dropLast] at h
  split at h
  · exact h
  · cases h

theorem getElem?_of_take {α : Type} {l : List α} {a : α} {i n : Nat}
    (h : (l.take n)[i]? = some a) : i < n ∧ l[i]? = some a := by
  rw [List.getElem?_take] at h
  split at h
  · next hlt => exact ⟨hlt, h⟩
  · cases h

theorem Places.congr {t : Sheet} (h : t.Places p offset size) (hchunks : t.chunks = s.chunks)
    (hrows : t.rows = s.rows) (hcolumns : t.columns = s.columns) : s.Places p offset size := by
  cases h with
  | chunk h => exact .chunk (hchunks ▸ h)
  | cells h => rw [hcolumns]; exact .cells (hrows ▸ h)
  | payload h hc hb => exact .payload (hrows ▸ h) (hcolumns ▸ hc) hb

theorem Sound.minimum (hs : s.Sound) : 420 ≤ s.free :=
  (hs.inside (.chunk hs.first)).2

theorem Sound.rows_lt (hs : s.Sound) : s.rows.length + 1 < 2 ^ 32 := by
  -- Each chunk takes its bytes, so that the number of rows fits into a word.
  have hpos := chunkCount_pos s.rows.length
  have hlast : s.chunks.length - 1 < s.chunks.length := by
    rw [hs.chunk_count]; omega
  have hchunk := List.getElem?_eq_getElem hlast
  have hspread := hs.spread hchunk
  have hin := (hs.inside (.chunk hchunk)).2
  have hrows := rows_le_chunkCount s.rows.length
  have hfits := hs.fits
  have hlimit := hs.limit
  have hcount := hs.chunk_count
  omega

theorem Sound.free_lt (hs : s.Sound) : s.free < 2 ^ 32 := by
  have hfits := hs.fits
  have hlimit := hs.limit
  omega

theorem Sound.chunk_of_row (hs : s.Sound) {row : Nat} (h : row < s.rows.length) :
    ∃ offset, s.chunks[row / 100]? = some offset := by
  have hlt := chunk_lt_chunkCount h
  rw [← hs.chunk_count] at hlt
  exact ⟨_, List.getElem?_eq_getElem hlt⟩

theorem sound_blank {capacity : Nat} (hmin : 420 ≤ capacity)
    (hmax : capacity < 2 ^ 32) : (blank capacity).Sound := by
  have hp : ∀ {p : Piece} {offset size : Nat}, (blank capacity).Places p offset size →
      p = .chunk 0 ∧ offset = 16 ∧ size = 404 := by
    intro p offset size h
    cases h with
    | @chunk index offset h =>
      cases index with
      | zero => cases h; exact ⟨rfl, rfl, rfl⟩
      | succ index => simp [blank] at h
    | cells h => simp [blank] at h
    | payload h hc hb => simp [blank] at h
  refine ⟨hmin, hmax, by simp [blank], rfl, by simp [blank, chunkCount], ?_, ?_, ?_, by simp [blank],
    by simp [blank], ?_⟩
  · intro index offset h
    obtain ⟨hi, ho, -⟩ := hp (.chunk h)
    cases hi
    omega
  · intro p offset size h
    obtain ⟨-, ho, hn⟩ := hp h
    subst ho hn
    exact ⟨Nat.le_refl _, Nat.le_refl _⟩
  · intro p q o m o' n h h' hne
    exact absurd ((hp h).1.trans (hp h').1.symm) hne
  · intro mark h
    cases h

theorem Sound.setStart (hs : s.Sound) (position : Nat) : (s.setStart position).Sound where
  fits := hs.fits
  limit := hs.limit
  columns_lt := hs.columns_lt
  first := hs.first
  chunk_count := hs.chunk_count
  spread := hs.spread
  inside h := hs.inside (h.congr rfl rfl rfl)
  apart h h' hne := hs.apart (h.congr rfl rfl rfl) (h'.congr rfl rfl rfl) hne
  chunk_aligned := hs.chunk_aligned
  cells_aligned := hs.cells_aligned
  pending mark h :=
    have hp := hs.pending mark h
    ⟨hp.1, hp.2.1, fun h => hp.2.2 (h.congr rfl rfl rfl)⟩

theorem Sound.setColumns (hs : s.Sound) (count : Nat) : (s.setColumns count).2.Sound := by
  obtain ⟨e, heq⟩ | ⟨rfl | hrows, hlt, heq⟩ := s.setColumns_cases count
  · rw [heq]
    exact hs
  · rw [heq]
    exact hs
  rw [heq]
  -- There are no rows that could depend on the columns.
  have hp : ∀ {p : Piece} {offset size : Nat},
      ({ s with columns := count } : Sheet).Places p offset size → s.Places p offset size := by
    intro p offset size h
    cases h with
    | chunk h => exact .chunk h
    | cells h => simp [hrows] at h
    | payload h hc hb => simp [hrows] at h
  exact {
    fits := hs.fits
    limit := hs.limit
    columns_lt := hlt
    first := hs.first
    chunk_count := hs.chunk_count
    spread := hs.spread
    inside := fun h => hs.inside (hp h)
    apart := fun h h' hne => hs.apart (hp h) (hp h') hne
    chunk_aligned := hs.chunk_aligned
    cells_aligned := hs.cells_aligned
    pending := fun mark h => absurd hrows (hs.pending mark h).2.1 }

theorem Places.of_withRow (h : s.withRow.Places p offset size) :
    s.Places p offset size ∨
      (p = .chunk s.chunks.length ∧ newChunk s.rows.length s.free = some offset ∧ size = 404) ∨
      (p = .cells s.rows.length ∧ offset = cellsStart s.rows.length s.free ∧
        size = s.columns * 16) := by
  cases h with
  | chunk h =>
    cases hc : newChunk s.rows.length s.free with
    | none =>
      simp only [withRow, hc, Option.toList_none, List.append_nil] at h
      exact .inl (.chunk h)
    | some chunk =>
      simp only [withRow, hc, Option.toList_some] at h
      obtain hold | ⟨rfl, rfl⟩ := getElem?_snoc h
      · exact .inl (.chunk hold)
      · exact .inr (.inl ⟨rfl, rfl, rfl⟩)
  | cells h =>
    obtain hold | ⟨rfl, rfl⟩ := getElem?_snoc h
    · exact .inl (.cells hold)
    · exact .inr (.inr ⟨rfl, rfl, rfl⟩)
  | payload h hc hb =>
    obtain hold | ⟨rfl, rfl⟩ := getElem?_snoc h
    · exact .inl (.payload hold hc hb)
    · cases hb

theorem withoutRow_withRow (hs : s.Sound) :
    s.withRow.withoutRow s.free = { s with pending := none } := by
  have htake : (s.chunks ++ (newChunk s.rows.length s.free).toList).take
      (chunkCount s.rows.length) = s.chunks := by
    rw [← hs.chunk_count, List.take_left]
  simp only [withoutRow, withRow, List.length_append, List.length_singleton,
    Nat.add_sub_cancel, List.dropLast_concat, htake]

theorem Sound.withRow_apart (hs : s.Sound) {q : Piece} {start length : Nat}
    (h : s.withRow.Places p offset size) (h' : s.withRow.Places q start length) (hne : p ≠ q) :
    offset + size ≤ start ∨ start + length ≤ offset := by
  -- Old pieces end where the used bytes did, and the new chunk lies before the new cells.
  have hcells := le_cellsStart s.rows.length s.free
  obtain hold | ⟨rfl, hc, rfl⟩ | ⟨rfl, rfl, rfl⟩ := h.of_withRow <;>
    obtain hold' | ⟨rfl, hc', rfl⟩ | ⟨rfl, rfl, rfl⟩ := h'.of_withRow
  · exact hs.apart hold hold' hne
  · have hin := (hs.inside hold).2
    have hnew := (newChunk_bounds hc').1
    omega
  · have hin := (hs.inside hold).2
    omega
  · have hin := (hs.inside hold').2
    have hnew := (newChunk_bounds hc).1
    omega
  · exact absurd rfl hne
  · exact .inl (newChunk_bounds hc).2.1
  · have hin := (hs.inside hold').2
    omega
  · exact .inr (newChunk_bounds hc').2.1
  · exact absurd rfl hne

theorem Sound.withRow (hs : s.Sound) (hfit : s.rowEnd ≤ s.capacity) : s.withRow.Sound := by
  have hcells := le_cellsStart s.rows.length s.free
  have hend : s.rowEnd = cellsStart s.rows.length s.free + s.columns * 16 := rfl
  have hmin := hs.minimum
  refine ⟨hfit, hs.limit, hs.columns_lt, ?_, ?_, ?_, ?_, ?_, ?_, ?_, ?_⟩
  · have hlen : 0 < s.chunks.length := by rw [hs.chunk_count]; exact chunkCount_pos _
    rw [← hs.first]
    exact List.getElem?_append_left hlen
  · have hsucc := chunkCount_succ s.rows.length s.free
    simp only [Sheet.withRow, List.length_append, List.length_singleton]
    rw [hsucc, hs.chunk_count]
  · intro index offset h
    obtain hold | ⟨hp, hc, -⟩ | ⟨hp, -⟩ := Places.of_withRow (.chunk h)
    · cases hold with
      | chunk hold => exact hs.spread hold
    · cases hp
      obtain ⟨hlo, -, -⟩ := newChunk_bounds hc
      -- The chunk before the new one bounds it from below.
      have hpos : 0 < s.chunks.length := by rw [hs.chunk_count]; exact chunkCount_pos _
      have hlast := List.getElem?_eq_getElem (show s.chunks.length - 1 < s.chunks.length by omega)
      have hspread := hs.spread hlast
      have hin := (hs.inside (.chunk hlast)).2
      omega
    · cases hp
  · intro p offset size h
    obtain hold | ⟨-, hc, rfl⟩ | ⟨-, rfl, rfl⟩ := h.of_withRow
    · obtain ⟨hlo, hhi⟩ := hs.inside hold
      exact ⟨hlo, by simp only [Sheet.withRow]; omega⟩
    · obtain ⟨hlo, hhi, -⟩ := newChunk_bounds hc
      exact ⟨by omega, by simp only [Sheet.withRow]; omega⟩
    · exact ⟨by omega, by simp only [Sheet.withRow]; omega⟩
  · exact hs.withRow_apart
  · intro offset h
    obtain hold | hnew := List.mem_append.mp h
    · exact hs.chunk_aligned offset hold
    · exact (newChunk_bounds (Option.mem_toList.mp hnew)).2.2
  · intro r h
    obtain hold | hnew := List.mem_append.mp h
    · exact hs.cells_aligned r hold
    · cases List.mem_singleton.mp hnew
      exact cellsStart_mod _ _
  · intro mark h
    cases h
    refine ⟨by simp only [Sheet.withRow]; omega, by simp [Sheet.withRow], ?_⟩
    intro p offset size h
    rw [withoutRow_withRow hs] at h
    exact (hs.inside (h.congr rfl rfl rfl)).2

theorem Places.of_withoutRow {mark : Nat} (h : (s.withoutRow mark).Places p offset size) :
    s.Places p offset size := by
  cases h with
  | chunk h => exact .chunk (getElem?_of_take h).2
  | cells h => exact .cells (getElem?_of_dropLast h)
  | payload h hc hb => exact .payload (getElem?_of_dropLast h) hc hb

theorem Sound.withoutRow (hs : s.Sound) {mark : Nat} (hm : s.pending = some mark) :
    (s.withoutRow mark).Sound := by
  obtain ⟨hle, hne, hmark⟩ := hs.pending mark hm
  have hfits := hs.fits
  have hcount : chunkCount (s.rows.length - 1) ≤ s.chunks.length := by
    rw [hs.chunk_count]
    exact chunkCount_mono (Nat.sub_le _ _)
  refine ⟨by simp only [Sheet.withoutRow]; omega, hs.limit, hs.columns_lt, ?_, ?_, ?_, ?_, ?_, ?_,
    ?_, ?_⟩
  · simp only [Sheet.withoutRow, List.getElem?_take, chunkCount_pos, if_true]
    exact hs.first
  · simp only [Sheet.withoutRow, List.length_take, List.length_dropLast]
    omega
  · intro index offset h
    cases (Places.chunk h).of_withoutRow with
    | chunk hold => exact hs.spread hold
  · intro p offset size h
    exact ⟨(hs.inside h.of_withoutRow).1, hmark h⟩
  · intro p q o m o' n h h' hpq
    exact hs.apart h.of_withoutRow h'.of_withoutRow hpq
  · intro offset h
    exact hs.chunk_aligned offset (List.mem_of_mem_take h)
  · intro r h
    exact hs.cells_aligned r ((List.dropLast_sublist s.rows).subset h)
  · intro mark' h
    cases h

theorem getElem?_put {rows : List Row} {row i column : Nat} {entry : Entry} {r : Row}
    (h : (rows.modify row fun r => r.put column entry)[i]? = some r) :
    ∃ old, rows[i]? = some old ∧ r = if row = i then old.put column entry else old := by
  rw [List.getElem?_modify] at h
  cases ho : rows[i]? with
  | none => simp [ho] at h
  | some old =>
    refine ⟨old, rfl, ?_⟩
    split at h
    · next he => simpa [ho, he] using h.symm
    · next he => simpa [ho, he] using h.symm

theorem Places.of_put {t : Sheet} {row column : Nat} {entry : Entry}
    (h : t.Places p offset size) (hchunks : t.chunks = s.chunks) (hcolumns : t.columns = s.columns)
    (hrows : t.rows = s.rows.modify row fun r => r.put column entry) :
    s.Places p offset size ∨
      (p = .payload row column ∧ row < s.rows.length ∧ column < s.columns ∧ offset = entry.offset ∧
        ∃ bytes, entry.payload = some bytes ∧ bytes.size = size) := by
  cases h with
  | chunk h => exact .inl (.chunk (hchunks ▸ h))
  | @cells i r h =>
    rw [hrows] at h
    obtain ⟨old, ho, rfl⟩ := getElem?_put h
    rw [hcolumns]
    have hcells : (if row = i then old.put column entry else old).cells = old.cells := by
      split <;> rfl
    rw [hcells]
    exact .inl (.cells ho)
  | @payload i c r bytes h hc hb =>
    rw [hrows] at h
    rw [hcolumns] at hc
    obtain ⟨old, ho, rfl⟩ := getElem?_put h
    by_cases hi : row = i
    · subst hi
      rw [if_pos rfl] at hb ⊢
      by_cases hcol : c = column
      · subst hcol
        simp only [Row.put, if_true] at hb ⊢
        have hlt := (List.getElem?_eq_some_iff.mp ho).1
        exact .inr ⟨trivial, hlt, hc, trivial, bytes, hb, rfl⟩
      · simp only [Row.put, if_neg hcol] at hb ⊢
        exact .inl (.payload ho hc hb)
    · simp only [if_neg hi] at hb ⊢
      exact .inl (.payload ho hc hb)

theorem Places.of_withValue {row column : Nat} {value : Value}
    (h : (s.withValue row column value).Places p offset size) :
    s.Places p offset size ∨
      (p = .payload row column ∧ offset = s.free ∧ size = value.payloadSize) := by
  obtain hold | ⟨hp, -, -, ho, bytes, hb, hn⟩ :=
    h.of_put (s := s) rfl rfl rfl
  · exact .inl hold
  · exact .inr ⟨hp, ho, by rw [← hn, (Entry.payload_size hb).1]⟩

theorem dropLast_modify {α : Type} (l : List α) (i : Nat) (f : α → α) :
    (l.modify i f).dropLast = l.dropLast.modify i f := by
  apply List.ext_getElem?
  intro j
  simp only [List.getElem?_dropLast, List.getElem?_modify, List.length_modify]
  split <;> simp

theorem withoutRow_withValue (row column mark : Nat) (value : Value) :
    ((s.withValue row column value).withoutRow mark).chunks = (s.withoutRow mark).chunks ∧
      ((s.withValue row column value).withoutRow mark).rows =
        (s.withoutRow mark).rows.modify row fun r => r.put column ⟨value, s.free⟩ := by
  simp only [withoutRow, withValue, List.length_modify, dropLast_modify, and_self]

theorem Sound.withValue (hs : s.Sound) (row column : Nat) (value : Value)
    (hfit : s.free + value.payloadSize ≤ s.capacity) : (s.withValue row column value).Sound := by
  have hmin := hs.minimum
  refine ⟨hfit, hs.limit, hs.columns_lt, hs.first, ?_, hs.spread, ?_, ?_, hs.chunk_aligned, ?_, ?_⟩
  · simp only [Sheet.withValue, List.length_modify]
    exact hs.chunk_count
  · intro p offset size h
    obtain hold | ⟨-, rfl, rfl⟩ := h.of_withValue
    · obtain ⟨hlo, hhi⟩ := hs.inside hold
      exact ⟨hlo, by simp only [Sheet.withValue]; omega⟩
    · exact ⟨by omega, Nat.le_refl _⟩
  · intro p q o m o' n h h' hne
    obtain hold | ⟨rfl, rfl, rfl⟩ := h.of_withValue <;>
      obtain hold' | ⟨rfl, rfl, rfl⟩ := h'.of_withValue
    · exact hs.apart hold hold' hne
    · exact .inl (hs.inside hold).2
    · exact .inr (hs.inside hold').2
    · exact absurd rfl hne
  · intro r h
    obtain ⟨i, hi⟩ := List.mem_iff_getElem?.mp h
    obtain ⟨old, ho, rfl⟩ := getElem?_put hi
    have hold := hs.cells_aligned old (List.mem_of_getElem? ho)
    split
    · exact hold
    · exact hold
  · intro mark h
    simp only [Sheet.withValue] at h
    split at h
    · next hkeep =>
      obtain ⟨hle, hrows, hmark⟩ := hs.pending mark h
      refine ⟨by simp only [Sheet.withValue]; omega, by simpa [Sheet.withValue] using hrows, ?_⟩
      intro p offset size h
      obtain ⟨hchunks, hmodify⟩ := withoutRow_withValue (s := s) row column mark value
      obtain hold | ⟨-, hrow, -, -, bytes, hb, -⟩ := h.of_put hchunks rfl hmodify
      · exact hmark hold
      -- A payload for a row that would stay ends the pending one.
      · have hinline := (Entry.payload_size hb).2
        simp only [Sheet.withoutRow, List.length_dropLast] at hrow
        simp only [hinline, Bool.false_eq_true, false_or] at hkeep
        omega
    · cases h

theorem Sound.apply (hs : s.Sound) (op : Operation) : (s.apply op).2.Sound := by
  cases op with
  | clear => exact sound_blank (Nat.le_trans hs.minimum hs.fits) hs.limit
  | setColumns count => exact hs.setColumns count
  | pushRow =>
    rw [Sheet.apply]
    obtain ⟨e, heq⟩ | ⟨hfit, heq⟩ := s.pushRow_cases
    · rw [heq]
      exact hs
    · rw [heq]
      exact hs.withRow hfit
  | popRow =>
    rw [Sheet.apply]
    obtain ⟨e, heq⟩ | ⟨mark, hmark, heq⟩ := s.popRow_cases
    · rw [heq]
      exact hs
    · rw [heq]
      exact hs.withoutRow hmark
  | setStart position => exact hs.setStart position
  | set row column value =>
    have hfits := hs.fits
    rw [Sheet.apply]
    obtain ⟨e, heq⟩ | ⟨-, -, hfit, heq⟩ := s.set_cases row column value
    · rw [heq]
      exact hs
    · rw [heq]
      exact hs.withValue row column value (by omega)

end Sheet

end RowPager
