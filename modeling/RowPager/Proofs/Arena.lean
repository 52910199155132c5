import RowPager.Proofs.Reachable

/-!
How the buffer of a window is laid out, read off its bytes alone. Of the parts that the links, the
row slots and the cell slots lead to, no two overlap, and all lie between the header and the free
offset.
-/

set_option autoImplicit false

namespace RowPager

theorem Entry.payload_of_slot {e : Entry} {span : Span}
    (h : e.slot = .text span ∨ e.slot = .blob span) :
    ∃ bytes, e.payload = some bytes ∧ span = ⟨.ofNat e.offset, .ofNat bytes.size⟩ := by
  obtain ⟨value, offset⟩ := e
  cases value with
  | text v =>
    obtain h | h := h
    · cases h; exact ⟨_, rfl, rfl⟩
    · cases h
  | blob v =>
    obtain h | h := h
    · cases h
    · cases h; exact ⟨_, rfl, rfl⟩
  | null => obtain h | h := h <;> cases h
  | integer v => obtain h | h := h <;> cases h
  | float v => obtain h | h := h <;> cases h

theorem Sheet.apply_locked {s : Sheet} (hrows : 0 < s.rows.length) {op : Operation}
    (hclear : op ≠ .clear) (hpop : op = .popRow → s.rows.length ≠ 1) :
    (s.apply op).2.columns = s.columns ∧ 0 < (s.apply op).2.rows.length := by
  cases op with
  | clear => exact absurd rfl hclear
  | setColumns count =>
    rw [apply]
    obtain ⟨e, heq⟩ | ⟨rfl | hnone, -, heq⟩ := s.setColumns_cases count
    · rw [heq]
      exact ⟨rfl, hrows⟩
    · rw [heq]
      exact ⟨rfl, hrows⟩
    · rw [hnone] at hrows
      cases hrows
  | pushRow =>
    rw [apply]
    obtain ⟨e, heq⟩ | ⟨-, heq⟩ := s.pushRow_cases
    · rw [heq]
      exact ⟨rfl, hrows⟩
    · rw [heq]
      exact ⟨rfl, by simp [withRow]⟩
  | popRow =>
    have hmore := hpop rfl
    rw [apply]
    obtain ⟨e, heq⟩ | ⟨mark, -, heq⟩ := s.popRow_cases
    · rw [heq]
      exact ⟨rfl, hrows⟩
    · rw [heq]
      refine ⟨rfl, ?_⟩
      simp only [withoutRow, List.length_dropLast]
      omega
  | setStart position => exact ⟨rfl, hrows⟩
  | set row column value =>
    rw [apply]
    obtain ⟨e, heq⟩ | ⟨-, -, -, heq⟩ := s.set_cases row column value
    · rw [heq]
      exact ⟨rfl, hrows⟩
    · rw [heq]
      refine ⟨rfl, ?_⟩
      simp only [withValue, List.length_modify]
      exact hrows

namespace Window

/-- The chunks that links lead to from an offset on. The link of the last one is zero. -/
inductive Chain (w : Window) : Nat → List Nat → Prop where
  | last {offset : Nat} (h : Buffer.word w.bytes (offset + Layout.linkOffset) = .ok 0) :
      Chain w offset [offset]
  | link {offset : Nat} {next : UInt32} {chunks : List Nat}
      (h : Buffer.word w.bytes (offset + Layout.linkOffset) = .ok next) (hne : next ≠ 0)
      (rest : Chain w next.toNat chunks) : Chain w offset (offset :: chunks)

/-- The bytes put a piece of the window at an offset, with a size. -/
inductive Occupies (w : Window) (chunks : List Nat) : Piece → Nat → Nat → Prop where
  | chunk {index offset : Nat} (h : chunks[index]? = some offset) :
      Occupies w chunks (.chunk index) offset Layout.chunkSize
  | cells {row chunk : Nat} {offset : UInt32} (hrow : row < w.rows)
      (hchunk : chunks[row / Layout.chunkRows]? = some chunk)
      (h : Buffer.word w.bytes (chunk + row % Layout.chunkRows * Layout.rowSlotSize) = .ok offset) :
      Occupies w chunks (.cells row) offset.toNat (w.columns * Layout.cellSize)
  | text {row column : Nat} {span : Span} (h : w.slot row column = .ok (.text span)) :
      Occupies w chunks (.payload row column) span.offset.toNat span.size.toNat
  | blob {row column : Nat} {span : Span} (h : w.slot row column = .ok (.blob span)) :
      Occupies w chunks (.payload row column) span.offset.toNat span.size.toNat

structure LaidOut (w : Window) (chunks : List Nat) : Prop where
  minimum : Layout.minCapacity ≤ w.used
  fits : w.used ≤ w.capacity
  first : w.header.firstChunk = 16
  chain : w.Chain 16 chunks
  chunk_count : chunks.length = max 1 ((w.rows + 99) / 100)
  /-- The getters find the cells of a row through its slot. -/
  cells : ∀ row < w.rows, ∃ offset,
    w.Occupies chunks (.cells row) offset (w.columns * Layout.cellSize) ∧
      ∀ column < w.columns, w.cellOffset row column = .ok (offset + column * Layout.cellSize) ∧
        ∃ slot, w.slot row column = .ok slot
  chunk_aligned : ∀ {index offset size : Nat}, w.Occupies chunks (.chunk index) offset size →
    offset % 4 = 0
  cells_aligned : ∀ {row offset size : Nat}, w.Occupies chunks (.cells row) offset size →
    offset % 4 = 0
  inside : ∀ {p : Piece} {offset size : Nat}, w.Occupies chunks p offset size →
    Layout.headerSize ≤ offset ∧ offset + size ≤ w.used
  apart : ∀ {p q : Piece} {o m o' n : Nat}, w.Occupies chunks p o m → w.Occupies chunks q o' n →
    p ≠ q → o + m ≤ o' ∨ o' + n ≤ o

variable {w : Window} {s : Sheet}

namespace Stores

theorem chain (h : w.Stores s) {index offset : Nat} {rest : List Nat}
    (hdrop : s.chunks.drop index = offset :: rest) : w.Chain offset (offset :: rest) := by
  induction rest generalizing index offset with
  | nil =>
    have hc : s.chunks[index]? = some offset := by rw [← List.head?_drop, hdrop]; rfl
    have hn : s.chunks[index + 1]? = none := by
      rw [← List.head?_drop, ← List.tail_drop, hdrop]
      rfl
    have hexpects := Sheet.Expects.link hc
    rw [hn, Option.getD_none] at hexpects
    exact .last (Buffer.word_of_has (h.present hexpects))
  | cons next rest ih =>
    have hc : s.chunks[index]? = some offset := by rw [← List.head?_drop, hdrop]; rfl
    have htail : s.chunks.drop (index + 1) = next :: rest := by
      rw [← List.tail_drop, hdrop]
      rfl
    have hn : s.chunks[index + 1]? = some next := by rw [← List.head?_drop, htail]; rfl
    obtain ⟨link, hword, hne, rfl⟩ := h.next_eq hc hn
    exact .link hword hne (ih htail)

theorem rowSlot_eq (h : w.Stores s) {row chunk : Nat} {r : Sheet.Row} (hr : s.rows[row]? = some r)
    (hc : s.chunks[row / 100]? = some chunk) :
    ∃ offset : UInt32, offset.toNat = r.cells ∧
      Buffer.word w.bytes (chunk + row % Layout.chunkRows * Layout.rowSlotSize) = .ok offset := by
  have hin := (h.sound.inside (.cells hr)).2
  have hbound := h.sound.free_lt
  exact ⟨.ofNat r.cells, Buffer.toNat_ofNat (by omega),
    Buffer.word_of_has (h.present (.slot hr hc))⟩

theorem places_of_span (h : w.Stores s) {row column : Nat} {slot : Slot} {span : Span}
    (hread : w.slot row column = .ok slot) (hslot : slot = .text span ∨ slot = .blob span) :
    s.Places (.payload row column) span.offset.toNat span.size.toNat := by
  by_cases hout : s.rows.length ≤ row ∨ s.columns ≤ column
  · rw [Window.slot, h.cellOffset_error hout] at hread
    cases hread
  obtain ⟨hrow, hcolumn⟩ := not_or.mp hout
  have hr := List.getElem?_eq_getElem (Nat.lt_of_not_le hrow)
  have hc := Nat.lt_of_not_le hcolumn
  cases hread.symm.trans (h.slot_eq hr hc)
  obtain ⟨bytes, hb, rfl⟩ := Entry.payload_of_slot hslot
  have hplaces := Sheet.Places.payload hr hc hb
  have hin := (h.sound.inside hplaces).2
  have hbound := h.sound.free_lt
  have hoffset : (UInt32.ofNat (s.rows[row].entry column).offset).toNat =
      (s.rows[row].entry column).offset := Buffer.toNat_ofNat (by omega)
  have hsize : (UInt32.ofNat bytes.size).toNat = bytes.size := Buffer.toNat_ofNat (by omega)
  rw [hoffset, hsize]
  exact hplaces

theorem places_of_occupies (h : w.Stores s) {p : Piece} {offset size : Nat}
    (hp : w.Occupies s.chunks p offset size) : s.Places p offset size := by
  cases hp with
  | chunk hc => exact .chunk hc
  | @cells row chunk offset hrow hchunk hword =>
    rw [h.rows_eq] at hrow
    have hr := List.getElem?_eq_getElem hrow
    obtain ⟨offset', hnat, hword'⟩ := h.rowSlot_eq hr hchunk
    cases hword.symm.trans hword'
    rw [hnat, h.columns_eq]
    exact .cells hr
  | text hslot => exact h.places_of_span hslot (.inl rfl)
  | blob hslot => exact h.places_of_span hslot (.inr rfl)

theorem laidOut (h : w.Stores s) : w.LaidOut s.chunks where
  minimum := h.used_eq ▸ h.sound.minimum
  fits := h.used_eq ▸ h.capacity ▸ h.sound.fits
  first := by rw [h.header]; rfl
  chain := by
    have hfirst := h.sound.first
    cases hc : s.chunks with
    | nil => rw [hc] at hfirst; cases hfirst
    | cons first rest =>
      rw [hc] at hfirst
      cases hfirst
      have hall : s.chunks.drop 0 = 16 :: rest := hc
      exact h.chain hall
  chunk_count := h.rows_eq ▸ h.sound.chunk_count
  cells := by
    intro row hrow
    rw [h.rows_eq] at hrow
    have hr := List.getElem?_eq_getElem hrow
    obtain ⟨chunk, hc⟩ := h.sound.chunk_of_row hrow
    obtain ⟨offset, hnat, hword⟩ := h.rowSlot_eq hr hc
    refine ⟨_, .cells (h.rows_eq ▸ hrow) hc hword, fun column hcolumn => ?_⟩
    rw [h.columns_eq] at hcolumn
    rw [hnat]
    exact ⟨h.cellOffset_eq hr hcolumn, _, h.slot_eq hr hcolumn⟩
  chunk_aligned := by
    rintro index offset size (hc | _ | _ | _)
    exact h.sound.chunk_aligned offset (List.mem_of_getElem? hc)
  cells_aligned := by
    intro row offset size hp
    cases h.places_of_occupies hp with
    | cells hr => exact h.sound.cells_aligned _ (List.mem_of_getElem? hr)
  inside hp := by
    rw [h.used_eq]
    exact h.sound.inside (h.places_of_occupies hp)
  apart hp hq hne := h.sound.apart (h.places_of_occupies hp) (h.places_of_occupies hq) hne

end Stores

theorem Stores.apply_locked (h : w.Stores s) (hw : w.readOnly = false) (hrows : 0 < w.rows)
    {op : Operation} (hclear : op ≠ .clear) (hpop : op = .popRow → w.rows ≠ 1) :
    (w.apply op).2.columns = w.columns ∧ 0 < (w.apply op).2.rows := by
  have hafter := (h.apply hw op).2
  rw [hafter.columns_eq, hafter.rows_eq, h.columns_eq]
  rw [h.rows_eq] at hrows hpop
  exact Sheet.apply_locked hrows hclear hpop

/-- Whatever was done to a window that was created, its buffer is laid out in order. Its columns
stay the same as long as it has rows, and it loses those by being cleared or one at a time; a fill
clears it first, if it does anything. -/
theorem Reachable.laidOut_and_locked (h : w.Reachable) (hw : w.readOnly = false) :
    (∃ chunks, w.LaidOut chunks) ∧
      (0 < w.rows → ∀ op : Operation, op ≠ .clear → (op = .popRow → w.rows ≠ 1) →
        (w.apply op).2.columns = w.columns ∧ 0 < (w.apply op).2.rows) ∧
      ∀ {σ : Type} [Cursor σ] (request : Fill.Request) (c : σ) (tally : Tally),
        (Fill.run request c w tally).2.2.1 = w ∨
          ComesFrom (Fill.run request c w tally).2.2.1 (w.apply .clear).2 := by
  obtain ⟨s, hstores⟩ := h.stores hw
  refine ⟨⟨s.chunks, hstores.laidOut⟩, fun hrows op hclear hpop => ?_, ?_⟩
  · exact hstores.apply_locked hw hrows hclear hpop
  · intro σ _ request c tally
    by_cases hrange : request.start ≤ request.required
    · exact .inr (Fill.run_comesFrom request c w tally hrange)
    · rw [Fill.run, if_pos (Nat.lt_of_not_le hrange)]
      exact .inl rfl

theorem laidOut_and_locked_text :
    ∃ v w, create "page" 440 = .ok v ∧
      w = v.after [.setColumns 1, .pushRow, .set 0 0 (.text "row")] ∧ w.rows = 1 ∧
      (∃ chunks, w.LaidOut chunks) ∧ (w.apply (.setColumns 2)).2.columns = w.columns := by
  obtain ⟨v, hcreate, hv, hstores⟩ :=
    create_stores "page" (show Layout.minCapacity ≤ 440 by decide) (by decide)
  have hafter := hstores.after hv [.setColumns 1, .pushRow, .set 0 0 (.text "row")]
  have hreach :=
    (Reachable.create hcreate).after [.setColumns 1, .pushRow, .set 0 0 (.text "row")]
  have hrows := hafter.rows_eq.trans (show _ = 1 by decide)
  obtain ⟨hchunks, hlocked, -⟩ :=
    Reachable.laidOut_and_locked hreach ((v.after_sameFrame _).readOnly.trans hv)
  exact ⟨v, _, hcreate, rfl, hrows, hchunks,
    (hlocked (by omega) (.setColumns 2) (by decide) fun h => by cases h).1⟩

end Window

end RowPager
