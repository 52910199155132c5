import RowPager.Proofs.Stored

/-!
A writable window does what its sheet does: each operation gives the same answer, and afterwards
the window stores the sheet that the operation leads to.
-/

set_option autoImplicit false

namespace RowPager

namespace Window

variable {w : Window}

theorem commit_of_ok {π α : Type} {plan : Except Error π} {p : π} (h : plan = .ok p)
    (answer : π → α) (change : π → Window → Window) :
    commit plan answer change w = (.ok (answer p), change p w) := by
  rw [h, commit]

theorem commit_of_error {π α : Type} {plan : Except Error π} {e : Error} (h : plan = .error e)
    (answer : π → α) (change : π → Window → Window) :
    commit plan answer change w = (.error e, w) := by
  rw [h, commit]

theorem requireWritable_eq (hw : w.readOnly = false) : w.requireWritable = .ok () := by
  simp [requireWritable, hw]

theorem requireWritable_readOnly (hw : w.readOnly = true) :
    w.requireWritable = .error (.readOnly w.name) := by
  simp [requireWritable, hw]

/-- The same answer, and a window that stores the sheet. -/
def Agrees {α : Type} (r : Except Error α × Window) (r' : Except Error α × Sheet) : Prop :=
  r.1 = r'.1 ∧ r.2.Stores r'.2

end Window

namespace Sheet

open Layout Buffer

variable {s : Sheet} {f : Field} {offset : Nat} {bytes : ByteArray}

theorem Expects.congr {t : Sheet} (h : t.Expects f offset bytes) (hchunks : t.chunks = s.chunks)
    (hrows : t.rows = s.rows) (hcolumns : t.columns = s.columns) : s.Expects f offset bytes := by
  cases h with
  | link h => rw [hchunks] at h ⊢; exact .link h
  | slot h hc => exact .slot (hrows ▸ h) (hchunks ▸ hc)
  | cell h hc => exact .cell (hrows ▸ h) (hcolumns ▸ hc)
  | payload h hc hb => exact .payload (hrows ▸ h) (hcolumns ▸ hc) hb

theorem Expects.of_withValue {row column : Nat} {value : Value}
    (h : (s.withValue row column value).Expects f offset bytes) (hcell : f ≠ .cell row column)
    (hpayload : f ≠ .payload row column) : s.Expects f offset bytes := by
  cases h with
  | link h => exact .link h
  | @slot i o r h hc =>
    obtain ⟨old, ho, rfl⟩ := getElem?_put h
    have hcells : (if row = i then old.put column ⟨value, s.free⟩ else old).cells = old.cells := by
      split <;> rfl
    rw [hcells]
    exact .slot ho hc
  | @cell i c r h hc =>
    obtain ⟨old, ho, rfl⟩ := getElem?_put h
    by_cases hi : row = i
    · have hcolumn : c ≠ column := by
        rintro rfl
        exact hcell (by rw [hi])
      simp only [if_pos hi, Row.put, if_neg hcolumn]
      exact .cell ho hc
    · simp only [if_neg hi]
      exact .cell ho hc
  | @payload i c r bytes h hc hb =>
    obtain ⟨old, ho, rfl⟩ := getElem?_put h
    by_cases hi : row = i
    · have hcolumn : c ≠ column := by
        rintro rfl
        exact hpayload (by rw [hi])
      simp only [if_pos hi, Row.put, if_neg hcolumn] at hb ⊢
      exact .payload ho hc hb
    · simp only [if_neg hi] at hb ⊢
      exact .payload ho hc hb

theorem getElem?_withValue {row : Nat} {r : Row} (column : Nat) (value : Value)
    (hr : s.rows[row]? = some r) :
    (s.withValue row column value).rows[row]? = some (r.put column ⟨value, s.free⟩) := by
  simp only [withValue, List.getElem?_modify, if_true, hr]
  rfl

theorem expects_withValue {row column : Nat} {r : Row} (value : Value) (hr : s.rows[row]? = some r)
    (hc : column < s.columns) :
    (s.withValue row column value).Expects (.cell row column) (r.cells + column * 16)
      (Entry.slot ⟨value, s.free⟩).encode.toByteArray := by
  have hexpects := Expects.cell (getElem?_withValue column value hr) hc
  simpa only [Row.put, if_true] using hexpects

theorem expects_withValue_payload {row column : Nat} {value : Value} {r : Row} {bytes : ByteArray}
    (hr : s.rows[row]? = some r) (hc : column < s.columns)
    (hb : Entry.payload ⟨value, s.free⟩ = some bytes) :
    (s.withValue row column value).Expects (.payload row column) s.free bytes := by
  have hentry : (r.put column ⟨value, s.free⟩).entry column = ⟨value, s.free⟩ := if_pos rfl
  have hexpects := Expects.payload (getElem?_withValue column value hr) hc (by rw [hentry]; exact hb)
  rwa [hentry] at hexpects

theorem not_expects_payload {row column : Nat} {value : Value} (hv : value.isInline = true)
    (h : (s.withValue row column value).Expects (.payload row column) offset bytes) : False := by
  cases h with
  | payload h hc hb =>
    obtain ⟨old, ho, rfl⟩ := getElem?_put h
    simp only [if_true, Row.put] at hb
    rw [(Entry.payload_size hb).2] at hv
    cases hv

theorem Sound.pendingLink_cases (hs : s.Sound) (hrows : s.rows ≠ []) :
    (s.pendingLink = none ∧ s.chunks.length = chunkCount (s.rows.length - 1)) ∨
      ∃ index o, s.chunks[index]? = some o ∧ s.pendingLink = some (o + 400) ∧
        chunkCount (s.rows.length - 1) = index + 1 ∧ s.chunks.length = index + 2 := by
  have hpos := List.length_pos_iff.mpr hrows
  have hcount := hs.chunk_count
  unfold pendingLink
  by_cases hnew : (s.rows.length - 1) % 100 = 0 ∧ 0 < (s.rows.length - 1) / 100
  · have hlen : s.chunks.length = (s.rows.length - 1) / 100 - 1 + 2 := by
      rw [hcount]
      unfold chunkCount
      omega
    have hprev : chunkCount (s.rows.length - 1) = (s.rows.length - 1) / 100 - 1 + 1 := by
      unfold chunkCount
      omega
    have hchunk := List.getElem?_eq_getElem
      (show (s.rows.length - 1) / 100 - 1 < s.chunks.length by omega)
    exact .inr ⟨_, _, hchunk, by simp only [if_pos hnew, hchunk, Option.map_some], hprev, hlen⟩
  · refine .inl ⟨if_neg hnew, ?_⟩
    rw [hcount]
    unfold chunkCount
    omega

theorem expects_withoutRow_link {mark index o : Nat} (hchunk : s.chunks[index]? = some o)
    (hcount : chunkCount (s.rows.length - 1) = index + 1) :
    (s.withoutRow mark).Expects (.link index) (o + 400) (wordBytes 0) := by
  have htake : (s.withoutRow mark).chunks[index]? = some o := by
    simp only [withoutRow, hcount, List.getElem?_take, Nat.lt_succ_self, if_true, hchunk]
  have hnext : (s.withoutRow mark).chunks[index + 1]? = none := by
    simp only [withoutRow, hcount, List.getElem?_take, Nat.lt_irrefl, if_false]
  have hexpects := Expects.link htake
  rwa [hnext] at hexpects

theorem Expects.of_withoutRow {mark : Nat} (h : (s.withoutRow mark).Expects f offset bytes) :
    s.Expects f offset bytes ∨
      ∃ index, f = .link index ∧ index + 1 = chunkCount (s.rows.length - 1) ∧
        index + 1 < s.chunks.length := by
  cases h with
  | @link index o h =>
    obtain ⟨hlt, hold⟩ := getElem?_of_take h
    by_cases hlast : index + 1 = chunkCount (s.rows.length - 1) ∧ index + 1 < s.chunks.length
    · exact .inr ⟨index, rfl, hlast⟩
    · have hnext : (s.withoutRow mark).chunks[index + 1]? = s.chunks[index + 1]? := by
        simp only [withoutRow, List.getElem?_take]
        split
        · rfl
        · rw [List.getElem?_eq_none (by omega)]
      rw [hnext]
      exact .inl (.link hold)
  | slot h hc => exact .inl (.slot (getElem?_of_dropLast h) (getElem?_of_take hc).2)
  | cell h hc => exact .inl (.cell (getElem?_of_dropLast h) hc)
  | payload h hc hb => exact .inl (.payload (getElem?_of_dropLast h) hc hb)

theorem Sound.withRow_chunks (hs : s.Sound) {chunk : Nat}
    (hnew : newChunk s.rows.length s.free = some chunk) :
    ∃ index last, s.rows.length / 100 = index + 1 ∧ s.chunks.length = index + 1 ∧
      s.withRow.chunks = s.chunks ++ [chunk] ∧ s.chunks[index]? = some last ∧
      s.withRow.chunks[index]? = some last ∧ s.withRow.chunks[index + 1]? = some chunk := by
  obtain ⟨-, hmod, hpos⟩ := newChunk_eq_some hnew
  obtain ⟨index, hindex⟩ :=
    Nat.exists_eq_add_one_of_ne_zero (show s.rows.length / 100 ≠ 0 by omega)
  have hlen : s.chunks.length = index + 1 := by
    rw [hs.chunk_count, chunkCount]
    omega
  have hchunks : s.withRow.chunks = s.chunks ++ [chunk] := by
    rw [Sheet.withRow, hnew]
    rfl
  have hlast := List.getElem?_eq_getElem (show index < s.chunks.length by omega)
  refine ⟨index, _, hindex, hlen, hchunks, hlast, ?_, ?_⟩
  · rw [hchunks, List.getElem?_append_left (by omega)]
    exact hlast
  · rw [hchunks, ← hlen]
    exact List.getElem?_concat_length

theorem pendingLink_withRow_some {chunk index last : Nat}
    (hnew : newChunk s.rows.length s.free = some chunk) (hindex : s.rows.length / 100 = index + 1)
    (hbefore : s.withRow.chunks[index]? = some last) :
    s.withRow.pendingLink = some (last + 400) := by
  obtain ⟨-, hmod, -⟩ := newChunk_eq_some hnew
  have hrows : s.withRow.rows.length - 1 = s.rows.length := by
    simp [Sheet.withRow]
  rw [pendingLink, hrows, if_pos ⟨hmod, by omega⟩, hindex, Nat.add_sub_cancel, hbefore]
  rfl

theorem Sound.chunk_withRow_none (hs : s.Sound) (hsame : newChunk s.rows.length s.free = none) :
    ∃ chunk, s.chunks[s.rows.length / 100]? = some chunk ∧
      s.withRow.chunks[s.rows.length / 100]? = some chunk := by
  have hchunks : s.withRow.chunks = s.chunks := by
    rw [Sheet.withRow, hsame]
    exact List.append_nil _
  have hwhen := newChunk_eq_none hsame
  have hlt : s.rows.length / 100 < s.chunks.length := by
    rw [hs.chunk_count, chunkCount]
    omega
  have hchunk := List.getElem?_eq_getElem hlt
  rw [hchunks]
  exact ⟨_, hchunk, hchunk⟩

theorem pendingLink_withRow_none (hsame : newChunk s.rows.length s.free = none) :
    s.withRow.pendingLink = none := by
  have hwhen := newChunk_eq_none hsame
  have hrows : s.withRow.rows.length - 1 = s.rows.length := by
    simp [Sheet.withRow]
  rw [pendingLink, hrows]
  exact if_neg (by omega)

theorem Expects.of_newChunk {chunk index : Nat} (hlen : s.chunks.length = index + 1)
    (hchunks : s.withRow.chunks = s.chunks ++ [chunk]) (h : s.withRow.Expects f offset bytes)
    (hold : f ≠ .link index) (hnew : f ≠ .link (index + 1)) {i : Nat} (hf : f = .link i) :
    i + 1 < s.chunks.length := by
  subst hf
  cases h with
  | link h =>
    have hlt := (List.getElem?_eq_some_iff.mp h).1
    rw [hchunks, List.length_append, List.length_singleton] at hlt
    simp only [ne_eq, Field.link.injEq] at hold hnew
    omega

/-- What a new row leaves as it was. The link of the last chunk counts as new if it is set. -/
theorem Expects.of_withRow (hs : s.Sound) (h : s.withRow.Expects f offset bytes)
    (hslot : f ≠ .slot s.rows.length) (hcell : ∀ column, f ≠ .cell s.rows.length column)
    (hlink : ∀ index, f = .link index →
      newChunk s.rows.length s.free = none ∨ index + 1 < s.chunks.length) :
    s.Expects f offset bytes := by
  have hchunks : ∀ {index : Nat}, index < s.chunks.length →
      s.withRow.chunks[index]? = s.chunks[index]? := fun hlt => List.getElem?_append_left hlt
  cases h with
  | @link index o h =>
    obtain hnone | hlt := hlink index rfl
    · have hsame : s.withRow.chunks = s.chunks := by
        simp only [withRow, hnone, Option.toList_none, List.append_nil]
      rw [hsame] at h ⊢
      exact .link h
    · rw [hchunks (by omega)] at h
      rw [hchunks hlt]
      exact .link h
  | @slot row o r h hc =>
    obtain hold | ⟨rfl, -⟩ := getElem?_snoc h
    · have hlt := chunk_lt_chunkCount (List.getElem?_eq_some_iff.mp hold).1
      rw [← hs.chunk_count] at hlt
      exact .slot hold ((hchunks hlt).symm.trans hc)
    · exact absurd rfl hslot
  | @cell row column r h hc =>
    obtain hold | ⟨rfl, -⟩ := getElem?_snoc h
    · exact .cell hold hc
    · exact absurd rfl (hcell column)
  | payload h hc hb =>
    obtain hold | ⟨rfl, rfl⟩ := getElem?_snoc h
    · exact .payload hold hc hb
    · cases hb

theorem rows_withRow (s : Sheet) : s.withRow.rows[s.rows.length]? =
    some ⟨cellsStart s.rows.length s.free, fun _ => .blank⟩ :=
  List.getElem?_concat_length

/-- Clearing the cells of a new row and setting its slot makes the sheet's bytes complete, if the
rest was right before. -/
theorem Expects.has_row (ht : s.withRow.Sound) {buffer : ByteArray} (hsize : buffer.size = s.capacity)
    {chunk : Nat} (hc : s.withRow.chunks[s.rows.length / 100]? = some chunk)
    (h : s.withRow.Expects f offset bytes)
    (hold : f ≠ .slot s.rows.length → (∀ column, f ≠ .cell s.rows.length column) →
      Has buffer offset bytes) :
    Has (write (write buffer (cellsStart s.rows.length s.free) (zeros (s.columns * 16)))
      (chunk + s.rows.length % 100 * 4) (wordBytes (cellsStart s.rows.length s.free)))
      offset bytes := by
  have hslot := Expects.slot (rows_withRow s) hc
  have hcells : s.withRow.Places (.cells s.rows.length) (cellsStart s.rows.length s.free)
    (s.columns * 16) := .cells (rows_withRow s)
  have hslotEnd := Nat.le_trans (hslot.inside ht).2 ht.fits
  have hcellsEnd := Nat.le_trans (ht.inside hcells).2 ht.fits
  have hcapacity : s.withRow.capacity = s.capacity := rfl
  have hcolumns : s.withRow.columns = s.columns := rfl
  refine Expects.has_write ht hslot ?_ h fun hneslot => ?_
  · rw [write_size, hsize]
    exact hslotEnd
  by_cases hpiece : f.piece = .cells s.rows.length
  · cases h with
    | link h => cases hpiece
    | slot h hc => cases hpiece
    | @cell row column r h hc =>
      cases hpiece
      cases h.symm.trans (rows_withRow s)
      rw [show Entry.blank.slot.encode.toByteArray = zeros 16 from Slot.encode_null]
      refine has_write_zeros buffer _ _ ?_ (Nat.le_add_right _ _) ?_
      · rw [hsize]
        exact hcellsEnd
      · show cellsStart s.rows.length s.free + column * 16 + 16 ≤ _
        omega
    | payload h hc hb => cases hpiece
  · have hnecell : ∀ column, f ≠ .cell s.rows.length column := by
      rintro column rfl
      exact hpiece rfl
    obtain ⟨o, n, hp, hlo, hhi⟩ := h.inPiece
    have hapart := ht.apart hp hcells hpiece
    refine (hold hneslot hnecell).write_apart _ _ ?_
    rw [zeros_size]
    omega

end Sheet

namespace Window.Stores

open Buffer

variable {w : Window} {s : Sheet}

theorem clear (hw : w.readOnly = false) (hmin : 420 ≤ w.capacity) (hmax : w.capacity < 2 ^ 32) :
    Agrees w.clear (.ok (), .blank w.capacity) := by
  rw [Window.clear, commit_of_ok (requireWritable_eq hw)]
  refine ⟨rfl, Sheet.sound_blank hmin hmax, ?_, rfl, rfl, rfl, ?_⟩
  · exact capacity_emptied w
  · intro f offset bytes h
    have hlink : (Sheet.blank w.capacity).Expects (.link 0) 416 (wordBytes 0) := .link rfl
    refine Sheet.Expects.has_write (Sheet.sound_blank hmin hmax) hlink ?_ h ?_
    · rw [wordBytes_size]; exact hmin
    · intro hne
      cases h with
      | @link chunk offset h =>
        cases chunk with
        | zero => exact absurd rfl hne
        | succ chunk => simp [Sheet.blank] at h
      | slot h hc => simp [Sheet.blank] at h
      | cell h hc => simp [Sheet.blank] at h
      | payload h hc hb => simp [Sheet.blank] at h

theorem setStart (h : w.Stores s) (position : Nat) :
    (w.setStartPosition position).Stores (s.setStart position) where
  sound := h.sound.setStart position
  capacity := h.capacity
  header := h.header
  start := rfl
  pending := h.pending
  present hs := h.present (hs.congr rfl rfl rfl)

theorem setColumns (h : w.Stores s) (hw : w.readOnly = false) (count : Nat) :
    Agrees (w.setColumns count) (s.setColumns count) := by
  have hsound := h.sound.setColumns count
  have hplan : w.planColumns count =
      if 0 < s.rows.length ∧ s.columns ≠ count then .error (.columnCountLocked s.columns count)
      else if 2 ^ 32 ≤ count then .error (.invalidConfig (.columns count))
      else .ok (.ofNat count) := by
    rw [planColumns, requireWritable_eq hw, h.rows_eq, h.columns_eq]
    rfl
  rw [Sheet.setColumns] at hsound ⊢
  rw [Window.setColumns]
  split at hplan
  · next hlocked =>
    rw [commit_of_error hplan, if_pos hlocked]
    exact ⟨rfl, h⟩
  next hfree =>
  rw [if_neg hfree] at hsound ⊢
  split at hplan
  · next hbig =>
    rw [commit_of_error hplan, if_pos hbig]
    exact ⟨rfl, h⟩
  next hsmall =>
  rw [if_neg hsmall] at hsound ⊢
  rw [commit_of_ok hplan]
  refine ⟨rfl, hsound, h.capacity, ?_, h.start, h.pending, ?_⟩
  · simp only [h.header]
    rfl
  · intro f offset bytes hs
    by_cases hsame : s.columns = count
    · exact h.present (hs.congr rfl rfl hsame.symm)
    have hrows : s.rows = [] := by
      cases hr : s.rows with
      | nil => rfl
      | cons r rest => exact absurd ⟨by simp [hr], hsame⟩ hfree
    cases hs with
    | link hs => exact h.present (.link hs)
    | slot hs hc => simp [hrows] at hs
    | cell hs hc => simp [hrows] at hs
    | payload hs hc hb => simp [hrows] at hs

theorem planSlot_eq (h : w.Stores s) (hw : w.readOnly = false) {row column : Nat}
    {r : Sheet.Row} (hr : s.rows[row]? = some r) (hc : column < s.columns) :
    w.planSlot row column = .ok (r.cells + column * 16) := by
  rw [planSlot, requireWritable_eq hw]
  exact h.cellOffset_eq hr hc

theorem planSlot_error (h : w.Stores s) (hw : w.readOnly = false) {row column : Nat}
    (hout : s.rows.length ≤ row ∨ s.columns ≤ column) :
    w.planSlot row column =
      .error (.indexOutOfRange row column s.rows.length s.columns) := by
  rw [planSlot, requireWritable_eq hw]
  exact h.cellOffset_error hout

theorem planPayload_eq (h : w.Stores s) (hw : w.readOnly = false) {row column : Nat}
    {r : Sheet.Row} (hr : s.rows[row]? = some r) (hc : column < s.columns) (size : Nat) :
    w.planPayload row column size =
      if s.capacity - s.free < size then .error (.outOfMemory size (s.capacity - s.free))
      else .ok (r.cells + column * 16) := by
  rw [planPayload, h.planSlot_eq hw hr hc, h.free_eq]
  rfl

theorem planPayload_error (h : w.Stores s) (hw : w.readOnly = false) {row column size : Nat}
    (hout : s.rows.length ≤ row ∨ s.columns ≤ column) :
    w.planPayload row column size =
      .error (.indexOutOfRange row column s.rows.length s.columns) := by
  rw [planPayload, h.planSlot_error hw hout]
  rfl

theorem setSlot (h : w.Stores s) (hw : w.readOnly = false) (row column : Nat) (value : Value)
    (hv : value.isInline = true) (hsize : value.payloadSize = 0) :
    Agrees (w.setSlot row column (Entry.slot ⟨value, s.free⟩)) (s.set row column value) := by
  by_cases hout : s.rows.length ≤ row ∨ s.columns ≤ column
  · rw [Window.setSlot, commit_of_error (h.planSlot_error hw hout), Sheet.set, if_pos hout]
    exact ⟨rfl, h⟩
  have hin : row < s.rows.length ∧ column < s.columns := by omega
  have hr := List.getElem?_eq_getElem hin.1
  have hfits := h.sound.fits
  have hsound := h.sound.withValue row column value (by omega)
  rw [Window.setSlot, commit_of_ok (h.planSlot_eq hw hr hin.2), Sheet.set, if_neg hout,
    if_neg (by omega)]
  refine ⟨rfl, hsound, ?_, ?_, h.start, ?_, ?_⟩
  · exact (write_size ..).trans h.capacity
  · show w.header = _
    rw [h.header]
    simp only [Sheet.header, Sheet.withValue, List.length_modify, hsize, Nat.add_zero]
  · show w.pending = _
    rw [h.pending]
    simp only [Sheet.pendingRow, Sheet.pendingLink, Sheet.withValue, List.length_modify, hv,
      true_or, if_true]
  · intro f offset bytes hs
    have hexpects := Sheet.expects_withValue value hr hin.2
    have hcell := (hexpects.inside hsound).2
    refine Sheet.Expects.has_write hsound hexpects ?_ hs ?_
    · have hsize : w.bytes.size = s.capacity := h.capacity
      exact Nat.le_trans hcell (by rw [hsize]; exact hsound.fits)
    · intro hne
      refine h.present (hs.of_withValue hne ?_)
      rintro rfl
      exact Sheet.not_expects_payload hv hs

theorem setPayload (h : w.Stores s) (hw : w.readOnly = false) (row column : Nat) (value : Value)
    {bytes : ByteArray} {slotOf : Span → Slot}
    (hb : Entry.payload ⟨value, s.free⟩ = some bytes)
    (hslot : slotOf ⟨.ofNat s.free, .ofNat bytes.size⟩ = Entry.slot ⟨value, s.free⟩) :
    Agrees (w.setPayload row column slotOf bytes) (s.set row column value) := by
  obtain ⟨hsize, hinline⟩ := Entry.payload_size hb
  by_cases hout : s.rows.length ≤ row ∨ s.columns ≤ column
  · rw [Window.setPayload, commit_of_error (h.planPayload_error hw hout), Sheet.set, if_pos hout]
    exact ⟨rfl, h⟩
  have hin : row < s.rows.length ∧ column < s.columns := by omega
  have hr := List.getElem?_eq_getElem hin.1
  have hplan := h.planPayload_eq hw hr hin.2 bytes.size
  split at hplan
  · next hfull =>
    rw [Window.setPayload, commit_of_error hplan, Sheet.set, if_neg hout, ← hsize, if_pos hfull]
    exact ⟨rfl, h⟩
  next hfull =>
  rw [hsize] at hfull
  have hfits := h.sound.fits
  have hsound := h.sound.withValue row column value (by omega)
  have hfree : w.header.freeOffset = .ofNat s.free := by rw [h.header]; rfl
  rw [Window.setPayload, commit_of_ok hplan, Sheet.set, if_neg hout, if_neg hfull]
  refine ⟨rfl, hsound, ?_, ?_, h.start, ?_, ?_⟩
  · exact (write_size ..).trans ((write_size ..).trans h.capacity)
  · show { w.header with freeOffset := w.header.freeOffset + UInt32.ofNat bytes.size } = _
    rw [h.header, hsize]
    simp only [Sheet.header, Sheet.withValue, List.length_modify, UInt32.ofNat_add]
  · show (if row + 1 = w.header.rows.toNat then w.pending else none) = _
    have hrows : w.header.rows.toNat = s.rows.length := h.rows_eq
    rw [hrows, h.pending]
    simp only [Sheet.pendingRow, Sheet.pendingLink, Sheet.withValue, List.length_modify, hinline,
      Bool.false_eq_true, false_or]
    split <;> rfl
  · intro f offset content hs
    have hcell := Sheet.expects_withValue value hr hin.2
    have hpayload := Sheet.expects_withValue_payload hr hin.2 hb
    have hbytes : w.bytes.size = s.capacity := h.capacity
    have hcellEnd := Nat.le_trans (hcell.inside hsound).2 hsound.fits
    have hpayloadEnd := Nat.le_trans (hpayload.inside hsound).2 hsound.fits
    show Has (write (write w.bytes w.header.freeOffset.toNat bytes) _
      (slotOf ⟨w.header.freeOffset, .ofNat bytes.size⟩).encode.toByteArray) offset content
    rw [hfree, toNat_ofNat h.sound.free_lt, hslot]
    refine Sheet.Expects.has_write hsound hcell ?_ hs fun hnecell => ?_
    · rw [write_size, hbytes]
      exact hcellEnd
    · refine Sheet.Expects.has_write hsound hpayload ?_ hs fun hnepayload => ?_
      · rw [hbytes]
        exact hpayloadEnd
      · exact h.present (hs.of_withValue hnecell hnepayload)

theorem set (h : w.Stores s) (hw : w.readOnly = false) (row column : Nat) (value : Value) :
    Agrees (w.set row column value) (s.set row column value) := by
  cases value with
  | null => exact h.setSlot hw row column .null rfl rfl
  | integer v => exact h.setSlot hw row column (.integer v) rfl rfl
  | float v => exact h.setSlot hw row column (.float v) rfl rfl
  | text v => exact h.setPayload hw row column (.text v) rfl rfl
  | blob v => exact h.setPayload hw row column (.blob v) rfl rfl

theorem popRow (h : w.Stores s) (hw : w.readOnly = false) : Agrees w.popRow s.popRow := by
  cases hp : s.pending with
  | none =>
    have hplan : w.planPop = .error .noRowToFree := by
      rw [planPop, requireWritable_eq hw, h.pending, Sheet.pendingRow, hp]
      rfl
    rw [Window.popRow, commit_of_error hplan, Sheet.popRow, hp]
    exact ⟨rfl, h⟩
  | some mark =>
    have hplan : w.planPop = .ok ⟨.ofNat mark, s.pendingLink.map .ofNat⟩ := by
      rw [planPop, requireWritable_eq hw, h.pending, Sheet.pendingRow, hp]
      rfl
    have hsound := h.sound.withoutRow hp
    have hrows := (h.sound.pending mark hp).2.1
    have hpos := List.length_pos_iff.mpr hrows
    have hheader : ∀ bytes : ByteArray, ({ w with
        header := { w.header with rows := w.header.rows - 1, freeOffset := .ofNat mark }
        bytes := bytes, pending := none } : Window).header = (s.withoutRow mark).header := by
      intro bytes
      simp only [h.header, Sheet.header, Sheet.withoutRow, List.length_dropLast]
      rw [UInt32.ofNat_sub hpos]
      rfl
    rw [Window.popRow, commit_of_ok hplan, Sheet.popRow, hp]
    obtain ⟨hlink, hlen⟩ | ⟨index, o, hchunk, hlink, hcount, hlen⟩ :=
      h.sound.pendingLink_cases hrows
    · rw [hlink]
      refine ⟨rfl, hsound, h.capacity, hheader w.bytes, h.start, rfl, ?_⟩
      intro f offset bytes hs
      obtain hold | ⟨index, -, hlast, hlt⟩ := hs.of_withoutRow
      · exact h.present hold
      · omega
    · have hin := (h.sound.inside (.chunk hchunk)).2
      have hbound := h.sound.free_lt
      have hbytes : w.bytes.size = s.capacity := h.capacity
      have hfits := h.sound.fits
      have hexpects : (s.withoutRow mark).Expects (.link index) (o + 400) (wordBytes 0) :=
        Sheet.expects_withoutRow_link hchunk hcount
      rw [hlink]
      refine ⟨rfl, hsound, (writeWord_size ..).trans h.capacity, hheader _, h.start, rfl, ?_⟩
      intro f offset bytes hs
      show Has (writeWord w.bytes (UInt32.ofNat (o + 400)).toNat 0) offset bytes
      rw [toNat_ofNat (by omega)]
      refine Sheet.Expects.has_write hsound hexpects ?_ hs ?_
      · rw [wordBytes_size]
        omega
      · intro hne
        obtain hold | ⟨index', rfl, hlast, -⟩ := hs.of_withoutRow
        · exact h.present hold
        · exact absurd (by rw [show index' = index by omega]) hne

def linkChunk (bytes : ByteArray) (chunk : Nat) : Option Nat → ByteArray
  | none => bytes
  | some link => writeWord (writeWord bytes (chunk + 400) 0) link (.ofNat chunk)

theorem linkChunk_size (bytes : ByteArray) (chunk : Nat) (link : Option Nat) :
    (linkChunk bytes chunk link).size = bytes.size := by
  cases link with
  | none => rfl
  | some link => rw [linkChunk, writeWord_size, writeWord_size]

/-- Adding a row links its chunk, clears its cells and sets its slot, in this order. -/
theorem addRow_eq (h : w.Stores s) {chunk : Nat}
    (hstart : Layout.cellsStart s.rows.length s.free < 2 ^ 32) :
    addRow ⟨s.rows.length, chunk, s.withRow.pendingLink,
        Layout.cellsStart s.rows.length s.free, s.rowEnd⟩ w =
      ⟨w.name, s.withRow.header,
        write (write (linkChunk w.bytes chunk s.withRow.pendingLink)
          (Layout.cellsStart s.rows.length s.free) (zeros (s.columns * 16)))
          (chunk + s.rows.length % 100 * 4) (wordBytes (Layout.cellsStart s.rows.length s.free)),
        w.readOnly, w.startPosition, s.withRow.pendingRow⟩ := by
  have hend : s.rowEnd - Layout.cellsStart s.rows.length s.free = s.columns * 16 := by
    rw [Sheet.rowEnd, Layout.rowEnd, Nat.add_sub_cancel_left]
  have hword := writeWord_eq (write (linkChunk w.bytes chunk s.withRow.pendingLink)
    (Layout.cellsStart s.rows.length s.free) (zeros (s.columns * 16)))
    (chunk + s.rows.length % 100 * 4) hstart
  rw [← hword, ← hend]
  cases w with
  | mk name header bytes readOnly start pending =>
  have hheader : header = s.header := h.header
  subst hheader
  have hfree : (s.header).freeOffset = .ofNat s.free := rfl
  simp only [addRow, Window.mk.injEq, true_and]
  refine ⟨?_, ?_, ?_⟩
  · simp only [Sheet.header, Sheet.withRow, List.length_append, List.length_singleton,
      UInt32.ofNat_add]
    rfl
  · cases s.withRow.pendingLink with
    | none => rfl
    | some link => rfl
  · simp only [Sheet.pendingRow, Sheet.withRow, Option.map_some, hfree]

theorem planChunk_newChunk (h : w.Stores s) {chunk index last : Nat}
    (hnew : Layout.newChunk s.rows.length s.free = some chunk)
    (hindex : s.rows.length / 100 = index + 1) (hlast : s.chunks[index]? = some last) :
    w.planChunk = .ok (chunk, some (last + 400), chunk + 404) := by
  obtain ⟨hchunk, hmod, -⟩ := Layout.newChunk_eq_some hnew
  have hwhen : w.rows % Layout.chunkRows = 0 ∧ 0 < w.rows / Layout.chunkRows := by
    rw [h.rows_eq]
    exact ⟨hmod, by show 0 < s.rows.length / 100; omega⟩
  have hfollow : w.chunk (w.rows / Layout.chunkRows - 1) = .ok last := by
    rw [h.rows_eq, show s.rows.length / Layout.chunkRows = index + 1 from hindex]
    exact h.chunk_eq hlast
  rw [planChunk, if_pos hwhen, hfollow, h.used_eq, hchunk]
  rfl

theorem planChunk_sameChunk (h : w.Stores s) {chunk : Nat}
    (hsame : Layout.newChunk s.rows.length s.free = none)
    (hchunk : s.chunks[s.rows.length / 100]? = some chunk) :
    w.planChunk = .ok (chunk, none, s.free) := by
  have hwhen := Layout.newChunk_eq_none hsame
  have hfollow : w.chunk (w.rows / Layout.chunkRows) = .ok chunk := by
    rw [h.rows_eq]
    exact h.chunk_eq hchunk
  have hnot : ¬ (w.rows % Layout.chunkRows = 0 ∧ 0 < w.rows / Layout.chunkRows) := by
    rw [h.rows_eq]
    show ¬ (s.rows.length % 100 = 0 ∧ 0 < s.rows.length / 100)
    omega
  rw [planChunk, if_neg hnot, hfollow, h.used_eq]
  rfl

theorem planChunk_eq (h : w.Stores s) :
    ∃ chunk base, w.planChunk = .ok (chunk, s.withRow.pendingLink, base) ∧
      Layout.alignUp base = Layout.cellsStart s.rows.length s.free ∧
      s.withRow.chunks[s.rows.length / 100]? = some chunk := by
  cases hnew : Layout.newChunk s.rows.length s.free with
  | none =>
    obtain ⟨chunk, hchunk, hadded⟩ := h.sound.chunk_withRow_none hnew
    rw [Sheet.pendingLink_withRow_none hnew]
    exact ⟨chunk, s.free, h.planChunk_sameChunk hnew hchunk,
      (Layout.cellsStart_of_none hnew).symm, hadded⟩
  | some chunk =>
    obtain ⟨index, last, hindex, -, -, hlast, hbefore, hadded⟩ := h.sound.withRow_chunks hnew
    rw [Sheet.pendingLink_withRow_some hnew hindex hbefore]
    exact ⟨chunk, chunk + 404, h.planChunk_newChunk hnew hindex hlast,
      (Layout.cellsStart_of_chunk hnew).symm, by rw [hindex]; exact hadded⟩

theorem planRow_eq (h : w.Stores s) (hw : w.readOnly = false) :
    ∃ chunk, s.withRow.chunks[s.rows.length / 100]? = some chunk ∧ w.planRow =
      if s.capacity < s.rowEnd then
        .error (.outOfMemory (s.rowEnd - s.free) (s.capacity - s.free))
      else .ok ⟨s.rows.length, chunk, s.withRow.pendingLink,
        Layout.cellsStart s.rows.length s.free, s.rowEnd⟩ := by
  obtain ⟨chunk, base, hchunk, hbase, hslot⟩ := h.planChunk_eq
  refine ⟨chunk, hslot, ?_⟩
  rw [planRow, requireWritable_eq hw, hchunk]
  simp only [bind, Except.bind, hbase, h.columns_eq, h.capacity, h.used_eq, h.free_eq, h.rows_eq]
  rfl

theorem has_linkChunk_new (h : w.Stores s) (ht : s.withRow.Sound) {chunk : Nat} {f : Field}
    {offset : Nat} {bytes : ByteArray} (hnew : Layout.newChunk s.rows.length s.free = some chunk)
    (hs : s.withRow.Expects f offset bytes) (hslot : f ≠ .slot s.rows.length)
    (hcell : ∀ column, f ≠ .cell s.rows.length column) :
    Has (linkChunk w.bytes chunk s.withRow.pendingLink) offset bytes := by
  -- The link that a new chunk is hung on belongs to the chunk before it.
  obtain ⟨index, last, hindex, hlen, hchunks, hlast, hbefore, hadded⟩ :=
    h.sound.withRow_chunks hnew
  have hbytes : w.bytes.size = s.withRow.capacity := h.capacity
  have hfits := ht.fits
  have hbound := ht.free_lt
  have hin := (ht.inside (.chunk hadded)).2
  have hnewLink : s.withRow.Expects (.link (index + 1)) (chunk + 400) (wordBytes 0) := by
    have hnone : s.withRow.chunks[index + 1 + 1]? = none := by
      rw [hchunks, ← hlen]
      exact List.getElem?_eq_none (by simp)
    have hexpects := Sheet.Expects.link hadded
    rwa [hnone] at hexpects
  have holdLink : s.withRow.Expects (.link index) (last + 400) (wordBytes chunk) := by
    have hexpects := Sheet.Expects.link hbefore
    rwa [hadded] at hexpects
  have hlastEnd := (holdLink.inside ht).2
  have hnewEnd := (hnewLink.inside ht).2
  rw [Sheet.pendingLink_withRow_some hnew hindex hbefore, linkChunk,
    writeWord_eq _ _ (show chunk < 2 ^ 32 by omega)]
  -- The new chunk's own link is written first, then the one that leads to it.
  refine Sheet.Expects.has_write ht holdLink ?_ hs fun hneold => ?_
  · rw [writeWord_size, hbytes]
    omega
  refine Sheet.Expects.has_write ht hnewLink ?_ hs fun hnenew => ?_
  · rw [hbytes]
    omega
  refine h.present (hs.of_withRow h.sound hslot hcell ?_)
  exact fun _ hf => .inr (hs.of_newChunk hlen hchunks hneold hnenew hf)

theorem has_linkChunk (h : w.Stores s) (ht : s.withRow.Sound) {chunk : Nat} {f : Field}
    {offset : Nat} {bytes : ByteArray}
    (hchunk : s.withRow.chunks[s.rows.length / 100]? = some chunk)
    (hs : s.withRow.Expects f offset bytes) (hslot : f ≠ .slot s.rows.length)
    (hcell : ∀ column, f ≠ .cell s.rows.length column) :
    Has (linkChunk w.bytes chunk s.withRow.pendingLink) offset bytes := by
  cases hnew : Layout.newChunk s.rows.length s.free with
  | none =>
    rw [Sheet.pendingLink_withRow_none hnew]
    exact h.present (hs.of_withRow h.sound hslot hcell fun index hf => .inl hnew)
  | some fresh =>
    obtain ⟨index, last, hindex, -, -, -, -, hadded⟩ := h.sound.withRow_chunks hnew
    rw [hindex] at hchunk
    cases hchunk.symm.trans hadded
    exact h.has_linkChunk_new ht hnew hs hslot hcell

theorem pushRow (h : w.Stores s) (hw : w.readOnly = false) : Agrees w.pushRow s.pushRow := by
  obtain ⟨chunk, hslot, hplan⟩ := h.planRow_eq hw
  split at hplan
  · next hfull =>
    rw [Window.pushRow, commit_of_error hplan, Sheet.pushRow, if_pos hfull]
    exact ⟨rfl, h⟩
  next hfit =>
  have hsound := h.sound.withRow (by omega)
  have hcells : Layout.cellsStart s.rows.length s.free + s.columns * 16 ≤ s.withRow.free :=
    (hsound.inside (.cells s.rows_withRow)).2
  have hbound := hsound.free_lt
  have hsize : (linkChunk w.bytes chunk s.withRow.pendingLink).size = s.capacity := by
    rw [linkChunk_size]
    exact h.capacity
  have hstart : Layout.cellsStart s.rows.length s.free < 2 ^ 32 := by omega
  rw [Window.pushRow, commit_of_ok hplan, Sheet.pushRow, if_neg hfit, h.addRow_eq hstart]
  refine ⟨rfl, hsound, ?_, rfl, h.start, rfl, ?_⟩
  · exact (write_size ..).trans ((write_size ..).trans hsize)
  · intro f offset bytes hs
    exact Sheet.Expects.has_row hsound hsize hslot hs (h.has_linkChunk hsound hslot hs)

theorem withRow_of_pushRow (h : w.Stores s) (hw : w.readOnly = false) {row : Nat}
    (hpush : w.pushRow.1 = .ok row) : w.pushRow.2.Stores s.withRow := by
  obtain ⟨hanswer, hstores⟩ := h.pushRow hw
  rw [hpush] at hanswer
  obtain ⟨e, heq⟩ | ⟨-, heq⟩ := s.pushRow_cases
  · rw [heq] at hanswer
    cases hanswer
  · rw [heq] at hstores
    exact hstores

theorem withValue_of_set (h : w.Stores s) (hw : w.readOnly = false) {row column : Nat}
    {value : Value} (hset : (w.set row column value).1 = .ok ()) :
    row < s.rows.length ∧ column < s.columns ∧
      (w.set row column value).2.Stores (s.withValue row column value) := by
  obtain ⟨hanswer, hstores⟩ := h.set hw row column value
  rw [hset] at hanswer
  obtain ⟨e, heq⟩ | ⟨hrow, hcolumn, -, heq⟩ := s.set_cases row column value
  · rw [heq] at hanswer
    cases hanswer
  · rw [heq] at hstores
    exact ⟨hrow, hcolumn, hstores⟩

/-- Operations on a window and on its sheet go in step. -/
theorem apply (h : w.Stores s) (hw : w.readOnly = false) (op : Operation) :
    Agrees (w.apply op) (s.apply op) := by
  have hmap : ∀ {α : Type} {r : Except Error α × Window} {r' : Except Error α × Sheet}
      (g : α → Option Nat), Agrees r r' → Agrees (r.1.map g, r.2) (r'.1.map g, r'.2) :=
    fun g ha => ⟨congrArg (Except.map g) ha.1, ha.2⟩
  cases op with
  | clear =>
    have hmin := Nat.le_trans h.sound.minimum h.sound.fits
    rw [← h.capacity] at hmin
    have hclear := Stores.clear hw hmin (h.capacity ▸ h.sound.limit)
    rw [h.capacity] at hclear
    exact hmap _ hclear
  | setColumns count => exact hmap _ (h.setColumns hw count)
  | pushRow => exact hmap _ (h.pushRow hw)
  | popRow => exact hmap _ (h.popRow hw)
  | setStart position => exact ⟨rfl, h.setStart position⟩
  | set row column value => exact hmap _ (h.set hw row column value)

theorem after (h : w.Stores s) (hw : w.readOnly = false) (ops : List Operation) :
    (w.after ops).Stores (s.after ops) := by
  induction ops generalizing w s with
  | nil => exact h
  | cons op ops ih => exact ih (h.apply hw op).2 ((w.apply_sameFrame op).readOnly.trans hw)

end Window.Stores

theorem Window.create_stores (name : String) {capacity : Nat} (hmin : Layout.minCapacity ≤ capacity)
    (hmax : capacity ≤ Layout.maxCapacity) :
    ∃ w, create name capacity = .ok w ∧ w.readOnly = false ∧ w.Stores (.blank capacity) := by
  have hlt : capacity < 2 ^ 32 := Nat.lt_of_le_of_lt hmax (by decide)
  have hsize : (Buffer.zeros capacity).size = capacity := Buffer.zeros_size capacity
  have hmin' : 420 ≤ (Buffer.zeros capacity).size := hsize.symm ▸ hmin
  have hlt' : (Buffer.zeros capacity).size < 2 ^ 32 := hsize.symm ▸ hlt
  have hemptied : (emptied ⟨name, .zero, Buffer.zeros capacity, false, 0, none⟩).Stores
      (.blank (Buffer.zeros capacity).size) :=
    (Stores.clear (w := ⟨name, .zero, Buffer.zeros capacity, false, 0, none⟩) rfl hmin' hlt').2
  refine ⟨emptied ⟨name, .zero, Buffer.zeros capacity, false, 0, none⟩, ?_, rfl, ?_⟩
  · rw [create, if_neg (by omega), if_neg (by omega)]
  · simpa only [hsize] using hemptied

theorem Window.of_create {name : String} {capacity : Nat} {w : Window}
    (h : create name capacity = .ok w) : w.readOnly = false ∧ w.Stores (.blank capacity) := by
  have hcreate := h
  unfold create at h
  split at h
  · cases h
  split at h
  · cases h
  · next hmin hmax =>
    obtain ⟨v, hv, hw, hstores⟩ :=
      create_stores name (Nat.le_of_not_lt hmin) (Nat.le_of_not_lt hmax)
    cases hcreate.symm.trans hv
    exact ⟨hw, hstores⟩

end RowPager
