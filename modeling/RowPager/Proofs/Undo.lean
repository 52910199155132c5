import RowPager.Proofs.Arena

/-!
Taking the newest row back. Whether it can be is decided by what was done since the row was added,
and if it can, what is in use afterwards is exactly what was in use before the row, while the rows
that stay read as they do now.
-/

set_option autoImplicit false

namespace RowPager

namespace Sheet

/-- The second sheet is the first with one more row, whatever was put into cells since. -/
structure Above (t s : Sheet) : Prop where
  capacity : s.capacity = t.capacity
  columns : s.columns = t.columns
  chunks : s.chunks = t.withRow.chunks
  length : s.rows.length = t.rows.length + 1
  pending : s.pending = some t.free

variable {t s : Sheet}

theorem above_withRow (t : Sheet) : t.Above t.withRow :=
  ⟨rfl, rfl, rfl, by simp [withRow], rfl⟩

namespace Above

theorem setColumns (h : t.Above s) (count : Nat) : t.Above (s.setColumns count).2 := by
  obtain ⟨e, heq⟩ | ⟨rfl | hrows, -, heq⟩ := s.setColumns_cases count
  · rw [heq]
    exact h
  · rw [heq]
    exact h
  · have hlength := h.length
    rw [hrows] at hlength
    cases hlength

theorem setStart (h : t.Above s) (position : Nat) : t.Above (s.setStart position) :=
  ⟨h.capacity, h.columns, h.chunks, h.length, h.pending⟩

theorem set (h : t.Above s) {row : Nat} {value : Value}
    (hspared : value.isInline = true ∨ row + 1 = s.rows.length) (column : Nat) :
    t.Above (s.set row column value).2 := by
  obtain ⟨e, heq⟩ | ⟨-, -, -, heq⟩ := s.set_cases row column value
  · rw [heq]
    exact h
  · rw [heq]
    refine ⟨h.capacity, h.columns, h.chunks, ?_, ?_⟩
    · simp only [withValue, List.length_modify]
      exact h.length
    · simp only [withValue, hspared, if_true]
      exact h.pending

theorem chunks_withoutRow (h : t.Above s) (ht : t.Sound) :
    (s.withoutRow t.free).chunks = t.chunks := by
  have hback := congrArg Sheet.chunks (withoutRow_withRow ht)
  have hlength : t.withRow.rows.length = s.rows.length := by
    rw [h.length]
    simp [withRow]
  simp only [withoutRow] at hback ⊢
  rw [h.chunks, ← hlength]
  exact hback

end Above

end Sheet

namespace Window

inductive Spares (w : Window) : Operation → Prop where
  | failed {op : Operation} {e : Error} (h : (w.apply op).1 = .error e) : Spares w op
  | setColumns (count : Nat) : Spares w (.setColumns count)
  | setStart (position : Nat) : Spares w (.setStart position)
  | inline {row column : Nat} {value : Value} (h : value.isInline = true) :
      Spares w (.set row column value)
  | newest {row column : Nat} {value : Value} (h : row + 1 = w.rows) :
      Spares w (.set row column value)

/-- Each of some operations, in the state that it is tried in, spares the newest row. -/
def SparedBy (w : Window) : List Operation → Prop
  | [] => True
  | op :: ops => w.Spares op ∧ (w.apply op).2.SparedBy ops

/-- The last row that was added came on top of the second window, and nothing that was done since
stands in the way of taking it back. -/
def Revocable (w₀ : Window) (ops : List Operation) (u : Window) : Prop :=
  ∃ before row since, ops = before ++ .pushRow :: since ∧ u = w₀.after before ∧
    u.pushRow.1 = .ok row ∧ u.pushRow.2.SparedBy since

structure Undone (u w v : Window) : Prop where
  header : v.header = u.header
  /-- From the first chunk on, the links lead through the same chunks, and no others. -/
  chunks : ∃ chunks, (∀ c, u.Chain 16 c ↔ c = chunks) ∧ ∀ c, v.Chain 16 c ↔ c = chunks
  get : ∀ row column, row < v.rows → column < v.columns → ∀ getter : Getter,
    v.get row column getter = w.get row column getter

variable {u v w : Window} {s t r : Sheet} {op : Operation} {ops : List Operation}

theorem after_append (w : Window) (ops later : List Operation) :
    w.after (ops ++ later) = (w.after ops).after later :=
  List.foldl_append ..

theorem Chain.unique {offset : Nat} {chunks others : List Nat} (h : w.Chain offset chunks)
    (h' : w.Chain offset others) : chunks = others := by
  induction h generalizing others with
  | last hword =>
    cases h' with
    | last hword' => rfl
    | link hword' hne rest =>
      cases hword.symm.trans hword'
      exact absurd rfl hne
  | link hword hne rest ih =>
    cases h' with
    | last hword' =>
      cases hword.symm.trans hword'
      exact absurd rfl hne
    | link hword' hne' rest' =>
      cases hword.symm.trans hword'
      rw [ih rest']

theorem Stores.chain_iff (h : w.Stores s) (chunks : List Nat) :
    w.Chain 16 chunks ↔ chunks = s.chunks := by
  constructor
  · exact fun hchain => hchain.unique h.laidOut.chain
  · rintro rfl
    exact h.laidOut.chain

theorem Stores.undone (hu : u.Stores t) (hw : w.Stores s) (hv : v.Stores r)
    (hheader : r.header = t.header) (hchunks : r.chunks = t.chunks)
    (hcolumns : r.columns = s.columns)
    (hrows : ∀ {row : Nat} {cells : Sheet.Row}, r.rows[row]? = some cells →
      s.rows[row]? = some cells) : Undone u w v where
  header := by rw [hv.header, hu.header, hheader]
  chunks := ⟨t.chunks, hu.chain_iff, fun c => by rw [hv.chain_iff, hchunks]⟩
  get row column hrow hcolumn getter := by
    rw [hv.rows_eq] at hrow
    rw [hv.columns_eq] at hcolumn
    have hr := List.getElem?_eq_getElem hrow
    rw [hv.get_eq hr hcolumn getter, hw.get_eq (hrows hr) (hcolumns ▸ hcolumn) getter]

theorem Spares.above (hop : w.Spares op) (hw : w.readOnly = false) (h : w.Stores s)
    (hab : t.Above s) : ∃ s', (w.apply op).2.Stores s' ∧ t.Above s' := by
  have happly := (h.apply hw op).2
  cases hop with
  | failed herror =>
    rw [apply_error herror]
    exact ⟨s, h, hab⟩
  | setColumns count => exact ⟨_, happly, hab.setColumns count⟩
  | setStart position => exact ⟨_, happly, hab.setStart position⟩
  | inline hinline => exact ⟨_, happly, hab.set (.inl hinline) _⟩
  | newest hrow => exact ⟨_, happly, hab.set (.inr (h.rows_eq ▸ hrow)) _⟩

theorem SparedBy.above (hops : w.SparedBy ops) (hw : w.readOnly = false) (h : w.Stores s)
    (hab : t.Above s) : ∃ s', (w.after ops).Stores s' ∧ t.Above s' := by
  induction ops generalizing w s with
  | nil => exact ⟨s, h, hab⟩
  | cons op ops ih =>
    obtain ⟨hop, hrest⟩ := hops
    obtain ⟨s', hstores, habove⟩ := hop.above hw h hab
    exact ih hrest ((w.apply_sameFrame op).readOnly.trans hw) hstores habove

theorem popRow_above (hw : w.readOnly = false) (hu : u.Stores t) (h : w.Stores s)
    (hab : t.Above s) : w.popRow.1 = .ok () ∧ Undone u w w.popRow.2 := by
  obtain ⟨hanswer, hstores⟩ := h.popRow hw
  rw [Sheet.popRow, hab.pending] at hanswer hstores
  refine ⟨hanswer, hu.undone h hstores ?_ (hab.chunks_withoutRow hu.sound) rfl ?_⟩
  · have hlength : s.rows.dropLast.length = t.rows.length := by
      rw [List.length_dropLast, hab.length, Nat.add_sub_cancel]
    simp only [Sheet.header, Sheet.withoutRow, hlength, hab.columns]
  · exact Sheet.getElem?_of_dropLast

theorem setSlot_pending (w : Window) (row column : Nat) (slot : Slot) :
    (w.setSlot row column slot).2.pending = w.pending := by
  rw [setSlot]
  cases w.planSlot row column with
  | ok offset => rfl
  | error e => rfl

theorem of_setPayload_pending {row column : Nat} {slotOf : Span → Slot} {payload : ByteArray}
    (hok : (w.setPayload row column slotOf payload).1 = .ok ())
    (h : (w.setPayload row column slotOf payload).2.pending ≠ none) :
    w.pending ≠ none ∧ row + 1 = w.rows := by
  obtain ⟨offset, hplan⟩ := of_commit_ok hok
  rw [setPayload, commit_of_ok hplan] at h
  have h : (if row + 1 = w.rows then w.pending else none) ≠ none := h
  split at h
  · next hrow => exact ⟨h, hrow⟩
  · exact absurd rfl h

theorem of_set_pending {row column : Nat} {value : Value}
    (hok : (w.set row column value).1 = .ok ())
    (h : (w.set row column value).2.pending ≠ none) :
    w.pending ≠ none ∧ w.Spares (.set row column value) := by
  have hslot : ∀ slot, (w.setSlot row column slot).2.pending ≠ none → w.pending ≠ none :=
    fun slot h => w.setSlot_pending row column slot ▸ h
  cases value with
  | null => exact ⟨hslot _ h, .inline rfl⟩
  | integer v => exact ⟨hslot _ h, .inline rfl⟩
  | float v => exact ⟨hslot _ h, .inline rfl⟩
  | text v =>
    obtain ⟨hpending, hrow⟩ := of_setPayload_pending hok h
    exact ⟨hpending, .newest hrow⟩
  | blob v =>
    obtain ⟨hpending, hrow⟩ := of_setPayload_pending hok h
    exact ⟨hpending, .newest hrow⟩

theorem of_apply_pending (h : (w.apply op).2.pending ≠ none) :
    (op = .pushRow ∧ ∃ row, w.pushRow.1 = .ok row) ∨ w.pending ≠ none ∧ w.Spares op := by
  cases hresult : (w.apply op).1 with
  | error e =>
    rw [apply_error hresult] at h
    exact .inr ⟨h, .failed hresult⟩
  | ok answer =>
  cases op with
  | clear =>
    obtain ⟨_, hok⟩ := of_map_ok hresult
    obtain ⟨_, hplan⟩ := of_commit_ok hok
    rw [apply, clear, commit_of_ok hplan] at h
    exact absurd rfl h
  | setColumns count =>
    obtain ⟨_, hok⟩ := of_map_ok hresult
    obtain ⟨_, hplan⟩ := of_commit_ok hok
    rw [apply, setColumns, commit_of_ok hplan] at h
    exact .inr ⟨h, .setColumns count⟩
  | pushRow => exact .inl ⟨rfl, of_map_ok hresult⟩
  | popRow =>
    obtain ⟨_, hok⟩ := of_map_ok hresult
    obtain ⟨_, hplan⟩ := of_commit_ok hok
    rw [apply, popRow, commit_of_ok hplan] at h
    exact absurd rfl h
  | setStart position => exact .inr ⟨h, .setStart position⟩
  | set row column value =>
    obtain ⟨_, hok⟩ := of_map_ok hresult
    exact .inr (of_set_pending hok h)

theorem of_after_pending (h : (w.after ops).pending ≠ none) :
    (∃ u, Revocable w ops u) ∨ w.pending ≠ none ∧ w.SparedBy ops := by
  induction ops generalizing w with
  | nil => exact .inr ⟨h, trivial⟩
  | cons op ops ih =>
    obtain ⟨u, before, row, since, rfl, rfl, hpush, hsince⟩ | ⟨hpending, hsince⟩ := ih h
    · exact .inl ⟨_, op :: before, row, since, rfl, rfl, hpush, hsince⟩
    obtain ⟨rfl, row, hpush⟩ | ⟨hpending, hop⟩ := of_apply_pending hpending
    · exact .inl ⟨w, [], row, ops, rfl, rfl, hpush, hsince⟩
    · exact .inr ⟨hpending, hop, hsince⟩

theorem Revocable.above (h : Revocable w ops u) (hw : w.readOnly = false) (hstores : w.Stores s) :
    ∃ t s', u.Stores t ∧ (w.after ops).Stores s' ∧ t.Above s' := by
  obtain ⟨before, row, since, rfl, rfl, hpush, hsince⟩ := h
  have hu := (w.after_sameFrame before).readOnly.trans hw
  obtain ⟨t, ht⟩ := hstores.comesFrom hw ⟨before, rfl⟩
  have hrow := ht.withRow_of_pushRow hu hpush
  obtain ⟨s', hs, habove⟩ := hsince.above
    ((w.after before).pushRow_sameFrame.readOnly.trans hu) hrow t.above_withRow
  rw [after_append]
  exact ⟨t, s', ht, hs, habove⟩

theorem popRow_cases (hw : w.readOnly = false) :
    (w.pending = none ∧ w.popRow = (.error .noRowToFree, w)) ∨
      w.pending ≠ none ∧ w.popRow.1 = .ok () := by
  rw [popRow, planPop, requireWritable_eq hw]
  cases w.pending with
  | none => exact .inl ⟨rfl, rfl⟩
  | some pending => exact .inr ⟨Option.some_ne_none pending, rfl⟩

theorem appendRow_undone (h : w.Stores s) (hw : w.readOnly = false) {cell : Nat → Value}
    {e : Error} (herror : (appendRow cell w).1 = .error e) :
    Undone w w (appendRow cell w).2 := by
  obtain ⟨hanswer, hstores⟩ := h.appendRow hw cell
  obtain hsame | hsame := Sheet.appendRow_error h.sound (hanswer.symm.trans herror)
  · rw [hsame] at hstores
    exact h.undone h hstores rfl rfl rfl id
  · rw [hsame] at hstores
    exact h.undone h hstores rfl rfl rfl id

/-- A window that can be written was created, and whatever was done to it since then decides whether
a row can be taken back: a row was added, and since then only what spares the newest row was done.
Taking it back returns to what was in use before it was added, and the cells of the other rows stay
as they are. So does appending a row that does not fit. -/
theorem Reachable.popRow_undoes (h : w.Reachable) (hw : w.readOnly = false) :
    (∃ name capacity w₀ ops, Window.create name capacity = .ok w₀ ∧ w = w₀.after ops) ∧
      (∀ name capacity w₀ ops, Window.create name capacity = .ok w₀ → w = w₀.after ops →
        (w.popRow.1 = .ok () ↔ ∃ u, Revocable w₀ ops u) ∧
        (w.popRow.1 = .ok () ∨ w.popRow = (.error .noRowToFree, w)) ∧
        ∀ u, Revocable w₀ ops u → Undone u w w.popRow.2) ∧
      ∀ cell e, (w.appendRow cell).1 = .error e → Undone w w (w.appendRow cell).2 := by
  refine ⟨?_, fun name capacity w₀ ops hcreate hafter => ?_, fun cell e herror => ?_⟩
  · obtain ⟨name, capacity, w₀, hcreate, ops, hafter⟩ := h.created hw
    exact ⟨name, capacity, w₀, ops, hcreate, hafter⟩
  · obtain ⟨hw₀, hstores⟩ := of_create hcreate
    have hback : ∀ u, Revocable w₀ ops u → w.popRow.1 = .ok () ∧ Undone u w w.popRow.2 := by
      intro u hrevocable
      obtain ⟨t, s, hu, hs, habove⟩ := hrevocable.above hw₀ hstores
      rw [← hafter] at hs
      exact popRow_above hw hu hs habove
    refine ⟨⟨fun hok => ?_, fun ⟨u, hu⟩ => (hback u hu).1⟩, ?_, fun u hu => (hback u hu).2⟩
    · obtain ⟨-, hpop⟩ | ⟨hpending, -⟩ := popRow_cases hw
      · rw [hpop] at hok
        cases hok
      · rw [hafter] at hpending
        obtain hrevocable | ⟨hearlier, -⟩ := of_after_pending hpending
        · exact hrevocable
        · exact absurd hstores.pending hearlier
    · obtain ⟨-, hpop⟩ | ⟨-, hok⟩ := popRow_cases hw
      · exact .inr hpop
      · exact .inl hok
  · obtain ⟨s, hstores⟩ := h.stores hw
    exact appendRow_undone hstores hw herror

theorem popRow_undoes_text :
    ∃ w₀ w : Window, create "page" 440 = .ok w₀ ∧
      w = w₀.after [.setColumns 1, .pushRow, .set 0 0 (.text "row")] ∧ w.used = 439 ∧
      w.popRow.1 = .ok () ∧ w.popRow.2.used = 420 ∧
      Undone (w₀.after [.setColumns 1]) w w.popRow.2 := by
  obtain ⟨w₀, hcreate, hw₀, hstores⟩ :=
    create_stores "page" (show Layout.minCapacity ≤ 440 by decide) (by decide)
  have hcolumns := hstores.after hw₀ [.setColumns 1]
  have hpush := hcolumns.pushRow ((w₀.after_sameFrame [.setColumns 1]).readOnly.trans hw₀)
  have hset := hstores.after hw₀ [.setColumns 1, .pushRow, .set 0 0 (.text "row")]
  have hreach :=
    (Reachable.create hcreate).after [.setColumns 1, .pushRow, .set 0 0 (.text "row")]
  have hrevocable : Revocable w₀ [.setColumns 1, .pushRow, .set 0 0 (.text "row")]
      (w₀.after [.setColumns 1]) :=
    ⟨[.setColumns 1], 0, [.set 0 0 (.text "row")], rfl, rfl, hpush.1,
      .newest (hpush.2.rows_eq.trans (by decide)).symm, trivial⟩
  obtain ⟨-, hundoes, -⟩ :=
    Reachable.popRow_undoes hreach ((w₀.after_sameFrame _).readOnly.trans hw₀)
  obtain ⟨hok, -, hback⟩ := hundoes _ _ w₀ _ hcreate rfl
  have hundone := hback _ hrevocable
  refine ⟨w₀, _, hcreate, rfl, hset.used_eq.trans (by decide), hok.mpr ⟨_, hrevocable⟩, ?_, hundone⟩
  rw [used, hundone.header]
  exact hcolumns.used_eq.trans (by decide)

end Window

end RowPager
