import RowPager.Proofs.Refill

/-!
Scrolling through a table: whatever calls come in whatever order, a pager answers as if it indexed
the rows. At a current row the window holds that row.
-/

set_option autoImplicit false

namespace RowPager

namespace Pager

structure Serves (p : Pager TableCursor) (t : Indexed) : Prop where
  fresh : p.cursor.Fresh
  rows : p.cursor.lists = t.rows
  columns : p.cursor.columns = t.columns
  writable : p.window.readOnly = false
  sized : p.window.Sized
  capacity : p.window.capacity = t.capacity

/-- The pager is where indexing is. Before the rows are counted that is nowhere. -/
structure Tracks (p : Pager TableCursor) (t : Indexed) (current : Option Nat) : Prop
    extends p.Serves t where
  position : p.position = current
  counted : (p.total = none ∧ current = none) ∨
    (p.total = some t.rows.length ∧ t.fits 0 = true ∧ p.Shows t ∧
      ∀ row, current = some row → row = t.rows.length ∨ p.holds row = true)

variable {p : Pager TableCursor} {t : Indexed} {current : Option Nat}

theorem Serves.moved (h : p.Serves t) (position : Option Nat) :
    ({ p with position := position } : Pager TableCursor).Serves t :=
  ⟨h.fresh, h.rows, h.columns, h.writable, h.sized, h.capacity⟩

theorem run_cursor_fresh {c : TableCursor} (hc : c.Fresh) {request : Fill.Request}
    (hrange : request.start ≤ request.required) (w : Window) (tally : Tally) :
    (Fill.run request c w tally).2.1.Fresh ∧
      (Fill.run request c w tally).2.1.lists = c.lists ∧
      (Fill.run request c w tally).2.1.columns = c.columns := by
  rw [Fill.run_cursor request c w tally hrange]
  have hkept := Fill.pass_cursor request c w tally
    (fun c' : TableCursor => c'.Ready ∧ c'.columns = c.columns ∧ c'.rows = c.rows)
    (fun c' hc' => ?_) ⟨hc.toReady, rfl, rfl⟩
  · obtain ⟨hready, hcolumns, hrows⟩ := hkept
    exact ⟨hready.reset_fresh, congrArg (fun rows => rows.toList.map Array.toList) hrows, hcolumns⟩
  · obtain ⟨hready, hcolumns, hrows⟩ := hc'
    obtain ⟨hready', hcolumns', hrows'⟩ := hready.step_keeps
    exact ⟨hready', hcolumns'.trans hcolumns, hrows'.trans hrows⟩

theorem Serves.refill (h : p.Serves t) (hcount : t.columns < 2 ^ 32)
    (htotal : ∀ total, p.total = some total → total = t.rows.length) (target : Nat) :
    (∃ p', p.refill target = (.ok (), p') ∧ p'.Serves t ∧ p'.position = p.position ∧
        p'.total = some t.rows.length ∧ p'.Shows t ∧
        (target < t.rows.length → p'.holds target = true)) ∨
      (t.fits target = false ∧
        ∃ p', p.refill target = (.error (.rowTooLarge target t.capacity), p') ∧ p'.Serves t ∧
          p'.position = p.position ∧ p'.total = p.total ∧ p'.window.rows = 0) := by
  have hrange := p.fillRequest_range target
  have hdelivers := h.fresh.delivers
  rw [h.rows, h.columns] at hdelivers
  have hframe := Fill.run_sameFrame (p.fillRequest target) p.cursor p.window p.tally
  have hcursor := run_cursor_fresh h.fresh hrange p.window p.tally
  have hsettles := Fill.run_settles (p.fillRequest target) h.writable h.sized hcount hdelivers
    hrange p.tally
  cases hrun : Fill.run (p.fillRequest target) p.cursor p.window p.tally with
  | mk result rest =>
  obtain ⟨c, w, tally⟩ := rest
  rw [hrun] at hframe hcursor hsettles
  obtain ⟨hfresh, hlists, hcolumns⟩ := hcursor
  have hcapacity : w.capacity = p.window.capacity := hframe.capacity
  have hserves : ∀ {total heldRows position},
      (⟨c, w, tally, total, heldRows, position⟩ : Pager TableCursor).Serves t := fun {_ _ _} =>
    ⟨hfresh, hlists.trans h.rows, hcolumns.trans h.columns, hframe.readOnly.trans h.writable,
      h.sized.of_sameFrame hframe, hcapacity.trans h.capacity⟩
  obtain ⟨report, v, tally', hok, hrest, hstart, hcomplete⟩ |
    ⟨hblocked, v, tally', herror, hrest, hempty⟩ := hsettles
  · cases hok
    cases hrest
    obtain ⟨heldRows, hrefill, hshows, hheld⟩ := refill_of_complete hrun hcomplete hstart htotal
    exact .inl ⟨_, hrefill, hserves, rfl, rfl, hshows, hheld⟩
  · cases herror
    cases hrest
    rw [h.capacity] at hrun hblocked
    refine .inr ⟨Indexed.fits_eq_false hblocked, _, refill_error hrun, hserves, rfl, rfl, ?_⟩
    exact hempty.rows_eq

theorem Tracks.total_eq (h : p.Tracks t current) {total : Nat} (ht : p.total = some total) :
    total = t.rows.length := by
  obtain ⟨hnone, -⟩ | ⟨hsome, -⟩ := h.counted
  · cases ht.symm.trans hnone
  · cases ht.symm.trans hsome
    rfl

theorem Tracks.count (h : p.Tracks t current) (hcount : t.columns < 2 ^ 32) :
    (t.fits 0 = true ∧ ∃ p', p.count = (.ok t.rows.length, p') ∧ p'.Tracks t current ∧
        p'.total = some t.rows.length) ∨
      (t.fits 0 = false ∧ current = none ∧
        ∃ p', p.count = (.error (.rowTooLarge 0 t.capacity), p') ∧ p'.Tracks t none) := by
  have hposition := h.position
  rw [Pager.count]
  cases ht : p.total with
  | some total =>
    have htotal := h.total_eq ht
    subst htotal
    obtain ⟨hnone, -⟩ | ⟨-, hfits, -⟩ := h.counted
    · cases ht.symm.trans hnone
    · exact .inl ⟨hfits, p, rfl, h, ht⟩
  | none =>
    have hnone : current = none := by
      obtain ⟨-, hnone⟩ | ⟨hsome, -⟩ := h.counted
      · exact hnone
      · cases ht.symm.trans hsome
    subst hnone
    obtain ⟨p', hrefill, hserves, hkept, htotal, hshows, hheld⟩ |
      ⟨hlarge, p', hrefill, hserves, hkept, htotal, -⟩ :=
      h.toServes.refill hcount (fun _ => h.total_eq) 0
    · have hfits : t.fits 0 = true := by
        by_cases hempty : t.rows.length = 0
        · exact Indexed.fits_of_le (Nat.le_of_eq hempty)
        · obtain ⟨cells, hcells, hlone, -⟩ := hshows.of_holds (hheld (Nat.pos_of_ne_zero hempty))
          exact Indexed.fits_of_loneSize_le hcells (hserves.capacity ▸ hlone)
      refine .inl ⟨hfits, p', ?_, ?_, htotal⟩
      · simp only [hrefill, htotal]
        rfl
      · exact ⟨hserves, hkept.trans hposition, .inr ⟨htotal, hfits, hshows, fun row hrow => by
          cases hrow⟩⟩
    · refine .inr ⟨hlarge, rfl, p', ?_, ?_⟩
      · simp only [hrefill]
      · exact ⟨hserves, hkept.trans hposition, .inl ⟨htotal.trans ht, rfl⟩⟩

theorem Tracks.moveTo (h : p.Tracks t current) (hcount : t.columns < 2 ^ 32) (target : Nat) :
    (p.moveTo target).1 = (t.moveTo target).1 ∧
      (p.moveTo target).2.Tracks t (t.moveTo target).2 := by
  rw [Pager.moveTo, Indexed.moveTo, Indexed.count]
  obtain ⟨hfirst, p', hp', htracks, htotal⟩ | ⟨hfirst, -, p', hp', htracks⟩ := h.count hcount
  · rw [hp', hfirst]
    simp only [if_true]
    have hshows : p'.Shows t := by
      obtain ⟨hnone, -⟩ | ⟨-, -, hshows, -⟩ := htracks.counted
      · cases htotal.symm.trans hnone
      · exact hshows
    by_cases hend : t.rows.length ≤ target
    · rw [if_pos hend, if_pos hend]
      exact ⟨rfl, htracks.toServes.moved _, rfl, .inr ⟨htotal, hfirst, hshows, fun row hrow => .inl (by
          cases hrow; rfl)⟩⟩
    rw [if_neg hend, if_neg hend]
    cases hheld : p'.holds target with
    | true =>
      obtain ⟨cells, hcells, hlone, -⟩ := hshows.of_holds hheld
      rw [Indexed.fits_of_loneSize_le hcells (htracks.capacity ▸ hlone)]
      exact ⟨rfl, htracks.toServes.moved _, rfl, .inr ⟨htotal, hfirst, hshows, fun row hrow => .inr (by
          cases hrow; exact hheld)⟩⟩
    | false =>
      simp only [Bool.false_eq_true, if_false]
      obtain ⟨p'', hrefill, hserves, hkept, htotal', hshows', hheld'⟩ |
        ⟨hlarge, p'', hrefill, hserves, hkept, htotal', hnone⟩ :=
        htracks.toServes.refill hcount (fun _ => htracks.total_eq) target
      -- The target is in the window after the refill, so that it fits alone.
      · have hheld := hheld' (Nat.lt_of_not_le hend)
        obtain ⟨cells, hcells, hlone, -⟩ := hshows'.of_holds hheld
        rw [hrefill, Indexed.fits_of_loneSize_le hcells (hserves.capacity ▸ hlone)]
        exact ⟨rfl, hserves.moved _, rfl, .inr ⟨htotal', hfirst, hshows',
          fun row hrow => .inr (by cases hrow; exact hheld)⟩⟩
      · rw [hrefill, hlarge]
        exact ⟨rfl, hserves.moved _, rfl, .inr ⟨htotal'.trans htotal, hfirst,
          .inl hnone, fun row hrow => by cases hrow⟩⟩
  · rw [hp', hfirst]
    exact ⟨rfl, htracks⟩

theorem Tracks.next (h : p.Tracks t current) (hcount : t.columns < 2 ^ 32) :
    p.next.1 = (t.next current).1 ∧ p.next.2.Tracks t (t.next current).2 := by
  cases current with
  | none =>
    rw [Pager.next, h.position, Indexed.next]
    exact h.moveTo hcount 0
  | some position =>
    rw [Pager.next, h.position, Indexed.next]
    exact h.moveTo hcount (position + 1)

theorem Tracks.previous (h : p.Tracks t current) (hcount : t.columns < 2 ^ 32) :
    p.previous.1 = (t.previous current).1 ∧ p.previous.2.Tracks t (t.previous current).2 := by
  have hstart : ({ p with position := none } : Pager TableCursor).Tracks t none := by
    refine ⟨h.toServes.moved none, rfl, ?_⟩
    obtain ⟨htotal, -⟩ | ⟨htotal, hfirst, hshows, -⟩ := h.counted
    · exact .inl ⟨htotal, rfl⟩
    · exact .inr ⟨htotal, hfirst, hshows, fun row hrow => by cases hrow⟩
  rw [Pager.previous, h.position]
  match current with
  | none => exact ⟨rfl, hstart⟩
  | some 0 => exact ⟨rfl, hstart⟩
  | some (before + 1) => exact h.moveTo hcount before

theorem Tracks.get_eq (h : p.Tracks t current) {column : Nat} (hcolumn : column < t.columns)
    (getter : Getter) :
    p.get column getter = t.get p.window.startPosition column getter current := by
  rw [Pager.get_eq]
  cases current with
  | none =>
    rw [windowRow, h.position]
    rfl
  | some row =>
    obtain ⟨-, hnone⟩ | ⟨-, -, hshows, hheld⟩ := h.counted
    · cases hnone
    rw [Indexed.get]
    cases hholds : p.holds row with
    | true =>
      obtain ⟨cells, hcells, -, hget⟩ := hshows.of_holds hholds
      have hmem := List.mem_of_getElem? hcells
      rw [← h.rows] at hmem
      have hwidth := (TableCursor.length_of_mem h.fresh.width hmem).trans h.columns
      have hvalue := List.getElem?_eq_getElem (show column < cells.length by omega)
      rw [windowRow_of_holds h.position hholds, hcells]
      simp only [Option.bind_some, hvalue]
      exact hget column _ hvalue getter
    | false =>
      obtain hend | htrue := hheld row rfl
      · rw [windowRow_of_not_holds h.position hholds, hend, List.getElem?_eq_none (Nat.le_refl _)]
        rfl
      · cases hholds.symm.trans htrue

theorem Tracks.call (h : p.Tracks t current) (hcount : t.columns < 2 ^ 32) (call : Call) :
    (call.Within t.columns →
        (p.call call).1 = (t.call p.window.startPosition current call).1) ∧
      (p.call call).2.Tracks t (t.call p.window.startPosition current call).2 := by
  cases call with
  | count =>
    rw [Pager.call, Indexed.call, Indexed.count]
    obtain ⟨hfirst, p', hp', htracks, -⟩ | ⟨hfirst, rfl, p', hp', htracks⟩ := h.count hcount
    · rw [hp', hfirst]
      exact ⟨fun _ => rfl, htracks⟩
    · rw [hp', hfirst]
      exact ⟨fun _ => rfl, htracks⟩
  | moveTo target =>
    obtain ⟨hreply, htracks⟩ := h.moveTo hcount target
    exact ⟨fun _ => congrArg (Except.map Reply.moved) hreply, htracks⟩
  | first =>
    obtain ⟨hreply, htracks⟩ := h.moveTo hcount 0
    exact ⟨fun _ => congrArg (Except.map Reply.moved) hreply, htracks⟩
  | next =>
    obtain ⟨hreply, htracks⟩ := h.next hcount
    exact ⟨fun _ => congrArg (Except.map Reply.moved) hreply, htracks⟩
  | previous =>
    obtain ⟨hreply, htracks⟩ := h.previous hcount
    exact ⟨fun _ => congrArg (Except.map Reply.moved) hreply, htracks⟩
  | get getter column =>
    exact ⟨fun hwithin => congrArg (Except.map Reply.answer) (h.get_eq hwithin getter), h⟩

theorem Tracks.after (h : p.Tracks t current) (hcount : t.columns < 2 ^ 32) (calls : List Call) :
    (p.after calls).Tracks t (t.after current calls) := by
  induction calls generalizing p current with
  | nil => exact h
  | cons call calls ih =>
    have htracks := (h.call hcount call).2
    rw [t.call_position _ 0] at htracks
    exact ih htracks

structure Follows (p : Pager TableCursor) (t : Indexed) (current : Option Nat) : Prop where
  position : p.position = current
  reply : ∀ call : Call, call.Within t.columns →
    (p.call call).1 = (t.call p.window.startPosition current call).1

/-- A pager over a table follows the index into its rows, whatever was called before. -/
theorem ofParts_follows {c : TableCursor} (hc : c.Fresh) (hcount : c.columns < 2 ^ 32) {w : Window}
    (hreach : w.Reachable) (hw : w.readOnly = false) (calls : List Call) :
    ((ofParts c w).after calls).Follows (.ofTable c w)
      ((Indexed.ofTable c w).after none calls) := by
  have hstart : (ofParts c w).Tracks (.ofTable c w) none :=
    ⟨⟨hc, rfl, rfl, hw, hreach.sized, rfl⟩, rfl, .inl ⟨rfl, rfl⟩⟩
  have htracks := hstart.after hcount calls
  exact ⟨htracks.position, fun call hwithin => (htracks.call hcount call).1 hwithin⟩

theorem ofParts_follows_moveTo :
    ∃ (c : TableCursor) (w : Window),
      TableCursor.ofRows 1 #[#[.integer 7], #[.text "row"]] = .ok c ∧
      Window.create "page" 440 = .ok w ∧
      (((ofParts c w).after [.moveTo 1]).call (.get .text 0)).1 =
        .ok (.answer (.value (.text "row"))) := by
  -- The window holds one of the two rows at a time.
  obtain ⟨c, w, hrows, hcreate, hw, hcapacity, hfresh, hcolumns, hlists⟩ :=
    Fill.exists_table_and_window
  refine ⟨c, w, hrows, hcreate, ?_⟩
  have htable : Indexed.ofTable c w = ⟨[[.integer 7], [.text "row"]], 1, 440⟩ := by
    rw [Indexed.ofTable, hcolumns, hcapacity]
    exact congrArg (Indexed.mk · 1 440) hlists
  have hfollows := ofParts_follows hfresh (hcolumns ▸ by decide) (.create hcreate) hw [.moveTo 1]
  rw [htable] at hfollows
  exact hfollows.reply (.get .text 0) (by decide : 0 < 1)

end Pager

end RowPager
