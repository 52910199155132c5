import RowPager.Proofs.FillBlock

/-!
What can be relied on after a fill: the required row is in the window, or too large for it, and
what is in the window are rows of the cursor as they were delivered.
-/

set_option autoImplicit false

namespace RowPager.Fill

theorem exists_table_and_window :
    ∃ (c : TableCursor) (w : Window),
      TableCursor.ofRows 1 #[#[.integer 7], #[.text "row"]] = .ok c ∧
      Window.create "page" 440 = .ok w ∧ w.readOnly = false ∧ w.capacity = 440 ∧
      c.Fresh ∧ c.columns = 1 ∧ c.lists = [[.integer 7], [.text "row"]] := by
  obtain ⟨w, hcreate, hw, hstores⟩ :=
    Window.create_stores "page" (show Layout.minCapacity ≤ 440 by decide) (by decide)
  obtain ⟨c, hrows⟩ : ∃ c, TableCursor.ofRows 1 #[#[.integer 7], #[.text "row"]] = .ok c := by
    simp [TableCursor.ofRows]
  obtain ⟨hfresh, hcolumns, htable⟩ := TableCursor.ofRows_fresh hrows
  refine ⟨c, w, hrows, hcreate, hw, hstores.capacity, hfresh, hcolumns, ?_⟩
  rw [TableCursor.lists, htable]
  rfl

section Complete

variable {request : Request} {count : Nat} {all : List (List Value)} {report : Report} {w : Window}

theorem Complete.rows_eq (h : Complete request count all report w) :
    ∃ stop, stop ≤ all.length ∧ w.rows = stop - report.startPosition ∧
      (request.required < all.length → request.required < stop) := by
  obtain ⟨stop, hstop, hcarries, hheld, -⟩ := h.held
  exact ⟨stop, hstop, by rw [hcarries.rows_eq, block_length hstop], hheld⟩

theorem Complete.holds_required (h : Complete request count all report w)
    (hlt : request.required < all.length) :
    request.required < report.startPosition + w.rows := by
  obtain ⟨stop, -, hrows, hheld⟩ := h.rows_eq
  have hrequired := hheld hlt
  have hstart := h.le_required
  omega

theorem Complete.get_eq (h : Complete request count all report w) {row : Nat} (hrow : row < w.rows) :
    ∃ cells, all[report.startPosition + row]? = some cells ∧
      ∀ (column : Nat) (value : Value), cells[column]? = some value →
        ∀ getter, w.get row column getter = value.answer row column getter := by
  obtain ⟨stop, hstop, hcarries, -⟩ := h.held
  rw [hcarries.rows_eq, block_length hstop] at hrow
  have hlt : report.startPosition + row < all.length := by omega
  have hcells := List.getElem?_eq_getElem hlt
  refine ⟨_, hcells, fun column value hvalue getter => ?_⟩
  exact hcarries.get_eq ((getElem?_block (by omega)).trans hcells) hvalue getter

theorem Complete.loneSize_le (h : Complete request count all report w) {row : List Value}
    (hrow : all[request.required]? = some row) : Layout.loneSize count row ≤ w.capacity := by
  obtain ⟨stop, -, hcarries, hheld, -⟩ := h.held
  have hrequired := hheld (List.getElem?_eq_some_iff.mp hrow).1
  have hstart := h.le_required
  apply hcarries.loneSize_le
  apply List.mem_of_getElem? (i := request.required - report.startPosition)
  rw [getElem?_block (by omega), Nat.add_sub_cancel' hstart]
  exact hrow

end Complete

variable {σ : Type} [Cursor σ]

/-- A fill fails with the required row if the cursor has that row and an empty window is too small
for it, and succeeds otherwise. After that the window holds the required row, if there is one. -/
theorem run_required {count : Nat} {all : List (List Value)} {c : σ} {w : Window}
    (hc : Cursor.Delivers count c all) (hcount : count < 2 ^ 32) (hreach : w.Reachable)
    (hw : w.readOnly = false) (request : Request) (hrange : request.start ≤ request.required)
    (tally : Tally) :
    ((run request c w tally).1 = .error (.rowTooLarge request.required w.capacity) ↔
        Blocked request count all w.capacity) ∧
      (¬ Blocked request count all w.capacity →
        ∃ report, (run request c w tally).1 = .ok report) ∧
      ∀ (report : Report) (c' : σ) (v : Window) (tally' : Tally),
        run request c w tally = (.ok report, c', v, tally') →
        request.start ≤ report.startPosition ∧ report.startPosition ≤ request.required ∧
          v.startPosition = report.startPosition ∧
          (request.required < all.length →
            request.required < report.startPosition + v.rows) := by
  have hcapacity := (run_sameFrame request c w tally).capacity
  obtain ⟨report, v, tally', hok, hrest, hstart, hcomplete⟩ |
      ⟨hblocked, v, tally', herror, hrest, -⟩ :=
    run_settles request hw hreach.sized hcount hc hrange tally
  · rw [hrest] at hcapacity
    have hfits : ¬ Blocked request count all w.capacity := by
      rintro ⟨row, hrow, hlarge⟩
      have hlone := hcomplete.loneSize_le hrow
      have hcapacity : v.capacity = w.capacity := hcapacity
      omega
    refine ⟨⟨fun h => ?_, fun h => absurd h hfits⟩, fun _ => ⟨report, hok⟩, ?_⟩
    · cases hok.symm.trans h
    · intro report' c' v' tally'' hrun
      rw [hrun] at hok hrest
      cases hok
      cases hrest
      exact ⟨hcomplete.start_le, hcomplete.le_required, hstart, hcomplete.holds_required⟩
  · refine ⟨⟨fun _ => hblocked, fun _ => herror⟩, fun h => absurd hblocked h, ?_⟩
    intro report c' v' tally'' hrun
    rw [hrun] at herror
    cases herror

theorem run_required_restart :
    ∃ (c : TableCursor) (w : Window),
      TableCursor.ofRows 1 #[#[.integer 7], #[.text "row"]] = .ok c ∧
      Window.create "page" 440 = .ok w ∧
      ∃ report c' v tally', run ⟨0, 1, true⟩ c w .zero = (.ok report, c', v, tally') ∧
        1 < report.startPosition + v.rows := by
  obtain ⟨c, w, hrows, hcreate, hw, hcapacity, hfresh, hcolumns, hlists⟩ := exists_table_and_window
  have hdelivers := hfresh.delivers
  rw [hcolumns, hlists] at hdelivers
  obtain ⟨-, hok, hheld⟩ :=
    run_required hdelivers (by decide) (.create hcreate) hw ⟨0, 1, true⟩ (by decide) .zero
  have hfits : ¬ Blocked ⟨0, 1, true⟩ 1 [[.integer 7], [.text "row"]] w.capacity := by
    rintro ⟨row, hrow, hlarge⟩
    cases hrow
    rw [hcapacity] at hlarge
    exact absurd hlarge (by decide)
  obtain ⟨report, hreport⟩ := hok hfits
  cases hrun : run ⟨0, 1, true⟩ c w .zero with
  | mk result rest =>
  obtain ⟨c', v, tally'⟩ := rest
  rw [hrun] at hreport
  cases hreport
  exact ⟨c, w, hrows, hcreate, report, c', v, tally', hrun,
    (hheld report c' v tally' hrun).2.2.2 (by decide)⟩

theorem of_run_ok {request : Request} {c c' : σ} {w v : Window} {tally tally' : Tally}
    {report : Report} (h : run request c w tally = (.ok report, c', v, tally')) :
    request.start ≤ request.required ∧ w.readOnly = false ∧ Cursor.columnCount c < 2 ^ 32 := by
  rw [run] at h
  split at h
  · cases h
  · next hrange =>
    have hprepare : (w.prepare (Cursor.columnCount c)).1 = .ok () := by
      cases hr : w.prepare (Cursor.columnCount c) with
      | mk result u =>
      cases result with
      | ok _ => rfl
      | error e =>
        rw [pass, hr] at h
        cases h
    exact ⟨Nat.le_of_not_lt hrange, Window.of_prepare_ok hprepare⟩

/-- After a fill that succeeded the window has the columns of the table, and its rows are
consecutive rows of the table, each of them complete. -/
theorem run_faithful {c c' : TableCursor} (hc : c.Fresh) {w v : Window} (hreach : w.Reachable)
    {request : Request} {tally tally' : Tally} {report : Report}
    (h : run request c w tally = (.ok report, c', v, tally')) :
    v.columns = c.columns ∧ ∀ row, row < v.rows →
      ∃ cells, c.rows[report.startPosition + row]? = some cells ∧
        ∀ column, column < c.columns → ∃ value, cells[column]? = some value ∧
          v.typeAt row column = .ok value.type ∧ v.valueAt row column = .ok value := by
  obtain ⟨hrange, hw, hcount⟩ := of_run_ok h
  obtain ⟨report', v', tally'', hok, hrest, -, hcomplete⟩ | ⟨-, -, -, herror, -⟩ :=
    run_settles request hw hreach.sized hcount hc.delivers hrange tally
  · rw [h] at hok hrest
    cases hok
    cases hrest
    refine ⟨?_, fun row hrow => ?_⟩
    · obtain ⟨stop, -, hcarries, -⟩ := hcomplete.held
      exact hcarries.columns_eq
    · obtain ⟨list, hlist, hget⟩ := hcomplete.get_eq hrow
      rw [TableCursor.lists, List.getElem?_map, Array.getElem?_toList] at hlist
      obtain ⟨cells, hcells, rfl⟩ := Option.map_eq_some_iff.mp hlist
      refine ⟨cells, hcells, fun column hcolumn => ?_⟩
      have hwidth := hc.width cells (Array.mem_of_getElem? hcells)
      have hvalue := Array.getElem?_eq_getElem (show column < cells.size by omega)
      have hget := hget column _ (Array.getElem?_toList.trans hvalue)
      exact ⟨_, hvalue, Window.typeAt_of_get (hget .type), Window.valueAt_of_get (hget .value)⟩
  · rw [h] at herror
    cases herror

theorem run_faithful_restart :
    ∃ (c c' : TableCursor) (w v : Window) (report : Report) (tally' : Tally), c.Fresh ∧
      w.Reachable ∧ run ⟨0, 1, true⟩ c w .zero = (.ok report, c', v, tally') ∧ 0 < v.rows ∧
      v.columns = c.columns ∧ ∀ row, row < v.rows →
        ∃ cells, c.rows[report.startPosition + row]? = some cells ∧
          ∀ column, column < c.columns → ∃ value, cells[column]? = some value ∧
            v.typeAt row column = .ok value.type ∧ v.valueAt row column = .ok value := by
  obtain ⟨c, w, hrows, hcreate, hw, hcapacity, hfresh, hcolumns, hlists⟩ := exists_table_and_window
  have hreach : w.Reachable := .create hcreate
  have hdelivers := hfresh.delivers
  rw [hcolumns, hlists] at hdelivers
  obtain ⟨report, v, tally', hok, hrest, -, hcomplete⟩ | ⟨⟨row, hrow, hlarge⟩, -⟩ :=
    run_settles ⟨0, 1, true⟩ hw hreach.sized (by decide) hdelivers (by decide) .zero
  · have hrun : run ⟨0, 1, true⟩ c w .zero =
        (.ok report, (run ⟨0, 1, true⟩ c w .zero).2.1, v, tally') :=
      Prod.ext hok (Prod.ext rfl hrest)
    have hheld : 1 < report.startPosition + v.rows := hcomplete.holds_required (by decide)
    have hstart : report.startPosition ≤ 1 := hcomplete.le_required
    exact ⟨c, _, w, v, report, tally', hfresh, hreach, hrun, by omega,
      run_faithful hfresh hreach hrun⟩
  · cases hrow
    rw [hcapacity] at hlarge
    exact absurd hlarge (by decide)

end RowPager.Fill
