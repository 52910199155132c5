import RowPager.Cursor.Table
import RowPager.Proofs.RowCost

/-!
What a cursor delivers when nothing fails. Of a table all that a step can come to is known, and when
nothing fails it delivers its rows.
-/

set_option autoImplicit false

namespace RowPager

/-- A pass from a state of a cursor on delivers these rows. No step fails, and neither does a reset
after any of them. -/
inductive Cursor.Delivers {σ : Type} [Cursor σ] (count : Nat) : σ → List (List Value) → Prop where
  | done {c c' : σ} (columns : columnCount c = count) (step : Cursor.step c = (.ok .done, c'))
      (reset : (Cursor.reset c').1 = .ok ()) : Delivers count c []
  | row {c c' : σ} {rows : List (List Value)} (columns : columnCount c = count)
      (step : Cursor.step c = (.ok .row, c')) (reset : (Cursor.reset c').1 = .ok ())
      (rest : Delivers count c' rows) : Delivers count c (rowOf count (cell c') :: rows)

namespace Cursor.Delivers

variable {σ : Type} [Cursor σ] {count : Nat} {c c' : σ} {rows : List (List Value)}

theorem columns_eq (h : Delivers count c rows) : columnCount c = count := by
  cases h with
  | done hcolumns hstep hreset => exact hcolumns
  | row hcolumns hstep hreset hrest => exact hcolumns

theorem of_step_row (h : Delivers count c rows) (hstep : step c = (.ok .row, c')) :
    ∃ rest, rows = rowOf count (cell c') :: rest ∧ Delivers count c' rest := by
  cases h with
  | done hcolumns hstep' hreset => cases hstep.symm.trans hstep'
  | row hcolumns hstep' hreset hrest =>
    cases hstep.symm.trans hstep'
    exact ⟨_, rfl, hrest⟩

theorem of_step_done (h : Delivers count c rows) (hstep : step c = (.ok .done, c')) :
    rows = [] := by
  cases h with
  | done hcolumns hstep' hreset => rfl
  | row hcolumns hstep' hreset hrest => cases hstep.symm.trans hstep'

theorem step_ne_error (h : Delivers count c rows) (e : CursorError) :
    step c ≠ (.error e, c') := by
  intro hstep
  cases h with
  | done hcolumns hstep' hreset => cases hstep.symm.trans hstep'
  | row hcolumns hstep' hreset hrest => cases hstep.symm.trans hstep'

theorem reset_of_step (h : Delivers count c rows) {answer : Except CursorError Step}
    (hstep : step c = (answer, c')) : (reset c').1 = .ok () := by
  cases h with
  | done hcolumns hstep' hreset => cases hstep.symm.trans hstep'; exact hreset
  | row hcolumns hstep' hreset hrest => cases hstep.symm.trans hstep'; exact hreset

end Cursor.Delivers

namespace TableCursor

/-- What a cursor is set up with, and keeps over all passes. -/
structure SameTable (c' c : TableCursor) : Prop where
  columns : c'.columns = c.columns
  rows : c'.rows = c.rows
  failAt : c'.failAt = c.failAt
  resetFailure : c'.resetFailure = c.resetFailure

theorem SameTable.trans {c'' c' c : TableCursor} (h : c''.SameTable c') (h' : c'.SameTable c) :
    c''.SameTable c :=
  ⟨h.columns.trans h'.columns, h.rows.trans h'.rows, h.failAt.trans h'.failAt,
    h.resetFailure.trans h'.resetFailure⟩

section Step

variable {c : TableCursor} {e : CursorError}

theorem failureAt_eq_some_iff {row : Nat} :
    c.failureAt row = some e ↔ c.failAt = some (row, e) := by
  rw [failureAt]
  cases c.failAt with
  | none => simp
  | some failure =>
    obtain ⟨failing, cause⟩ := failure
    simp only [Option.bind_some, Option.ite_none_right_eq_some, Option.some.injEq, Prod.mk.injEq]

theorem failureAt_eq_none {row : Nat} (h : ∀ e, c.failAt ≠ some (row, e)) :
    c.failureAt row = none :=
  Option.eq_none_iff_forall_ne_some.mpr fun e he => h e (failureAt_eq_some_iff.mp he)

theorem step_of_canceled (hcanceled : c.canceled = true) :
    c.step = (.error .canceled, { c with steps := c.steps + 1 }) := by
  rw [step, advance]
  exact if_pos hcanceled

theorem step_of_ended (hcanceled : c.canceled = false) (hdone : c.done = true) :
    c.step = (.error (.misuse "step after done without reset"),
      { c with steps := c.steps + 1 }) := by
  rw [step, advance]
  exact (if_neg (by simp [hcanceled])).trans (if_pos hdone)

theorem step_of_running (hcanceled : c.canceled = false) (hdone : c.done = false) :
    c.step =
      match c.failureAt c.next with
      | some e => (.error e, { c with steps := c.steps + 1 })
      | none =>
        if c.next < c.rows.size then
          (.ok .row, { c with steps := c.steps + 1, position := some c.next })
        else (.ok .done, { c with steps := c.steps + 1, position := none, done := true }) := by
  rw [step, advance]
  exact (if_neg (by simp [hcanceled])).trans (if_neg (by simp [hdone]))

theorem step_of_failing (hcanceled : c.canceled = false) (hdone : c.done = false)
    (hfail : c.failAt = some (c.next, e)) :
    c.step = (.error e, { c with steps := c.steps + 1 }) := by
  rw [step_of_running hcanceled hdone, failureAt_eq_some_iff.mpr hfail]

theorem step_of_lt (hcanceled : c.canceled = false) (hdone : c.done = false)
    (hfail : ∀ e, c.failAt ≠ some (c.next, e)) (hlt : c.next < c.rows.size) :
    c.step = (.ok .row, { c with steps := c.steps + 1, position := some c.next }) := by
  rw [step_of_running hcanceled hdone, failureAt_eq_none hfail]
  exact if_pos hlt

theorem step_of_ge (hcanceled : c.canceled = false) (hdone : c.done = false)
    (hfail : ∀ e, c.failAt ≠ some (c.next, e)) (hge : c.rows.size ≤ c.next) :
    c.step = (.ok .done, { c with steps := c.steps + 1, position := none, done := true }) := by
  rw [step_of_running hcanceled hdone, failureAt_eq_none hfail]
  exact if_neg (Nat.not_lt.mpr hge)

/-- All that a step can come to. -/
inductive Steps (c : TableCursor) : Except CursorError Step × TableCursor → Prop where
  | error (e : CursorError) : Steps c (.error e, { c with steps := c.steps + 1 })
  | row (hdone : c.done = false) (hfail : ∀ e, c.failAt ≠ some (c.next, e))
      (hlt : c.next < c.rows.size) :
      Steps c (.ok .row, { c with steps := c.steps + 1, position := some c.next })
  | done (hdone : c.done = false) (hfail : ∀ e, c.failAt ≠ some (c.next, e))
      (hge : c.rows.size ≤ c.next) :
      Steps c (.ok .done, { c with steps := c.steps + 1, position := none, done := true })

theorem steps_step (c : TableCursor) : c.Steps c.step := by
  cases hcanceled : c.canceled with
  | true =>
    rw [step_of_canceled hcanceled]
    exact .error _
  | false =>
  cases hdone : c.done with
  | true =>
    rw [step_of_ended hcanceled hdone]
    exact .error _
  | false =>
  by_cases hfail : ∃ e, c.failAt = some (c.next, e)
  · obtain ⟨e, hfail⟩ := hfail
    rw [step_of_failing hcanceled hdone hfail]
    exact .error e
  have hfail : ∀ e, c.failAt ≠ some (c.next, e) := not_exists.mp hfail
  by_cases hlt : c.next < c.rows.size
  · rw [step_of_lt hcanceled hdone hfail hlt]
    exact .row hdone hfail hlt
  · have hge := Nat.le_of_not_lt hlt
    rw [step_of_ge hcanceled hdone hfail hge]
    exact .done hdone hfail hge

theorem step_sameTable (c : TableCursor) : c.step.2.SameTable c := by
  have hsteps := c.steps_step
  generalize c.step = r at hsteps ⊢
  cases hsteps with
  | error e => exact ⟨rfl, rfl, rfl, rfl⟩
  | row hdone hfail hlt => exact ⟨rfl, rfl, rfl, rfl⟩
  | done hdone hfail hge => exact ⟨rfl, rfl, rfl, rfl⟩

theorem step_canceled (c : TableCursor) : c.step.2.canceled = c.canceled := by
  have hsteps := c.steps_step
  generalize c.step = r at hsteps ⊢
  cases hsteps with
  | error e => rfl
  | row hdone hfail hlt => rfl
  | done hdone hfail hge => rfl

end Step

/-- No failure is arranged, and the rows are as wide as they should be. -/
structure Ready (c : TableCursor) : Prop where
  canceled : c.canceled = false
  failAt : c.failAt = none
  resetFailure : c.resetFailure = none
  width : ∀ row ∈ c.rows, row.size = c.columns

structure Fresh (c : TableCursor) : Prop extends c.Ready where
  position : c.position = none
  done : c.done = false

def lists (c : TableCursor) : List (List Value) := c.rows.toList.map Array.toList

theorem ofRows_fresh {columns : Nat} {rows : Array (Array Value)} {c : TableCursor}
    (h : ofRows columns rows = .ok c) : c.Fresh ∧ c.columns = columns ∧ c.rows = rows := by
  unfold ofRows at h
  split at h
  · next hwidth =>
    cases h
    refine ⟨⟨⟨rfl, rfl, rfl, ?_⟩, rfl, rfl⟩, rfl, rfl⟩
    intro row hrow
    simpa using Array.all_eq_true_iff_forall_mem.mp hwidth row hrow
  · cases h

variable {c : TableCursor}

theorem Ready.step_row (h : c.Ready) (hd : c.done = false) (hn : c.next < c.rows.size) :
    c.step = (.ok .row, { c with steps := c.steps + 1, position := some c.next }) :=
  step_of_lt h.canceled hd (fun e => by simp [h.failAt]) hn

theorem Ready.step_done (h : c.Ready) (hd : c.done = false) (hn : c.rows.size ≤ c.next) :
    c.step = (.ok .done, { c with steps := c.steps + 1, position := none, done := true }) :=
  step_of_ge h.canceled hd (fun e => by simp [h.failAt]) hn

theorem Ready.step_keeps (h : c.Ready) :
    c.step.2.Ready ∧ c.step.2.columns = c.columns ∧ c.step.2.rows = c.rows := by
  have hsame := c.step_sameTable
  refine ⟨⟨c.step_canceled.trans h.canceled, hsame.failAt.trans h.failAt,
    hsame.resetFailure.trans h.resetFailure, ?_⟩, hsame.columns, hsame.rows⟩
  rw [hsame.columns, hsame.rows]
  exact h.width

theorem Ready.reset_ok (h : c.Ready) : c.reset.1 = .ok () := by
  simp [reset, h.resetFailure]

theorem Ready.reset_fresh (h : c.Ready) : c.reset.2.Fresh :=
  ⟨⟨h.canceled, h.failAt, h.resetFailure, h.width⟩, rfl, rfl⟩

theorem rowOf_cell (hwidth : ∀ row ∈ c.rows, row.size = c.columns) {position : Nat}
    (hp : c.position = some position) (hlt : position < c.rows.size) :
    rowOf c.columns c.cell = c.rows[position].toList := by
  have hwidth := hwidth _ (Array.getElem_mem hlt)
  apply List.ext_getElem
  · simp [rowOf, hwidth]
  · intro column hc hc'
    simp only [rowOf, List.getElem_map, List.getElem_range, cell, hp]
    rw [Array.getElem?_eq_getElem hlt]
    simp only [Array.length_toList] at hc'
    simp [hc']

theorem length_lists (c : TableCursor) : c.lists.length = c.rows.size := by
  rw [lists, List.length_map, Array.length_toList]

theorem SameTable.lists_eq {c' : TableCursor} (h : c'.SameTable c) : c'.lists = c.lists := by
  rw [lists, lists, h.rows]

theorem position_of_next {place : Nat} (h : c.next = place) :
    c.position = if place = 0 then none else some (place - 1) := by
  subst h
  rw [next]
  cases c.position with
  | none => rfl
  | some position => simp

theorem getElem?_lists (hwidth : ∀ row ∈ c.rows, row.size = c.columns) {position : Nat}
    (hp : c.position = some position) (hlt : position < c.rows.size) :
    c.lists[position]? = some (rowOf c.columns c.cell) := by
  rw [rowOf_cell hwidth hp hlt, lists, List.getElem?_map, Array.getElem?_toList,
    Array.getElem?_eq_getElem hlt, Option.map_some]

theorem cell_of_position {position column : Nat} {cells : List Value}
    (hp : c.position = some position) (hcells : c.lists[position]? = some cells) :
    c.cell column = cells[column]?.getD .null := by
  rw [lists, List.getElem?_map, Array.getElem?_toList] at hcells
  obtain ⟨row, hrow, rfl⟩ := Option.map_eq_some_iff.mp hcells
  rw [cell, hp]
  simp only [hrow, Option.bind_some, Array.getElem?_toList]

theorem length_of_mem (hwidth : ∀ row ∈ c.rows, row.size = c.columns) {cells : List Value}
    (hcells : cells ∈ c.lists) : cells.length = c.columns := by
  obtain ⟨row, hrow, rfl⟩ := List.mem_map.mp hcells
  exact hwidth row (Array.mem_toList_iff.mp hrow)

theorem Ready.delivers (h : c.Ready) (hd : c.done = false) :
    Cursor.Delivers c.columns c (c.lists.drop c.next) := by
  induction hk : c.rows.size - c.next generalizing c with
  | zero =>
    have hend : c.rows.size ≤ c.next := by omega
    have hstep := h.step_done hd hend
    have hready := h.step_keeps.1
    rw [hstep] at hready
    rw [List.drop_eq_nil_of_le (by simpa [lists] using hend)]
    exact .done rfl hstep hready.reset_ok
  | succ k ih =>
    have hlt : c.next < c.rows.size := by omega
    have hstep := h.step_row hd hlt
    have hready := h.step_keeps.1
    rw [hstep] at hready
    have hlist : c.next < c.lists.length := by simpa [lists] using hlt
    have hrest := ih hready hd (by
      show c.rows.size - (c.next + 1) = k
      omega)
    have hrow := rowOf_cell hready.width rfl hlt
    rw [List.drop_eq_getElem_cons hlist]
    have hhead : c.lists[c.next] = c.rows[c.next].toList := by simp [lists]
    rw [hhead, ← hrow]
    exact .row rfl hstep hready.reset_ok hrest

theorem Fresh.delivers (h : c.Fresh) : Cursor.Delivers c.columns c c.lists := by
  have hall := h.toReady.delivers h.done
  rwa [next, h.position] at hall

end TableCursor

end RowPager
