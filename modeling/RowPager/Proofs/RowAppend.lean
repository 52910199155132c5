import RowPager.Proofs.Getter
import RowPager.Proofs.RowCost
import RowPager.Proofs.Simulation
import RowPager.Window.Append

/-!
Whole rows on a sheet. A row whose cells do not all fit leaves no trace but one: what was the
newest row before can no longer be taken back.
-/

set_option autoImplicit false

namespace RowPager

namespace Sheet

def values (s : Sheet) : List (List Value) :=
  s.rows.map fun r => (List.range s.columns).map fun column => (r.entry column).value

def setCells (cell : Nat → Value) (row : Nat) :
    Nat → Nat → Sheet → Except Error Unit × Sheet
  | 0, _, s => (.ok (), s)
  | count + 1, column, s =>
    match s.set row column (cell column) with
    | (.error e, s) => (.error e, s)
    | (.ok (), s) => setCells cell row count (column + 1) s

def appendRow (cell : Nat → Value) (s : Sheet) : Except Error Unit × Sheet :=
  match s.pushRow with
  | (.error e, s) => (.error e, s)
  | (.ok row, s) =>
    match setCells cell row s.columns 0 s with
    | (.ok (), s) => (.ok (), s)
    | (.error e, s) =>
      match s.popRow with
      | (.ok (), s) => (.error e, s)
      | (.error e, s) => (.error e, s)

structure Rewrites (s t : Sheet) : Prop where
  capacity : t.capacity = s.capacity
  columns : t.columns = s.columns
  start : t.start = s.start
  chunks : t.chunks = s.chunks
  pending : t.pending = s.pending
  length : t.rows.length = s.rows.length
  older : t.rows.dropLast = s.rows.dropLast

theorem Rewrites.refl (s : Sheet) : Rewrites s s := ⟨rfl, rfl, rfl, rfl, rfl, rfl, rfl⟩

theorem Rewrites.trans {s t u : Sheet} (h : Rewrites s t) (h' : Rewrites t u) : Rewrites s u :=
  ⟨h'.capacity.trans h.capacity, h'.columns.trans h.columns, h'.start.trans h.start,
    h'.chunks.trans h.chunks, h'.pending.trans h.pending, h'.length.trans h.length,
    h'.older.trans h.older⟩

theorem Rewrites.withoutRow {s t : Sheet} (h : Rewrites s t) (mark : Nat) :
    t.withoutRow mark = s.withoutRow mark := by
  simp only [Sheet.withoutRow, h.capacity, h.columns, h.start, h.chunks, h.length, h.older]

theorem rewrites_withValue {s : Sheet} {row : Nat} (hrow : row + 1 = s.rows.length) (column : Nat)
    (value : Value) : Rewrites s (s.withValue row column value) := by
  refine ⟨rfl, rfl, rfl, rfl, ?_, ?_, ?_⟩
  · simp only [withValue, hrow, or_true, if_true]
  · simp only [withValue, List.length_modify]
  · have hlast : s.rows.dropLast.length ≤ row := by
      rw [List.length_dropLast]
      omega
    rw [withValue, dropLast_modify, List.modify_eq_self hlast]

section Cells

variable {s : Sheet} {row count column : Nat}

theorem set_eq (hrow : row < s.rows.length) (hc : column < s.columns) (value : Value) :
    s.set row column value =
      if s.capacity - s.free < value.payloadSize then
        (.error (.outOfMemory value.payloadSize (s.capacity - s.free)), s)
      else (.ok (), s.withValue row column value) := by
  rw [set, if_neg (by omega)]

variable (cell : Nat → Value)

theorem setCells_rewrites (hrow : row + 1 = s.rows.length) (hc : column + count ≤ s.columns) :
    Rewrites s (s.setCells cell row count column).2 := by
  induction count generalizing s column with
  | zero => exact .refl s
  | succ count ih =>
    rw [setCells, set_eq (by omega) (by omega)]
    by_cases hfull : s.capacity - s.free < (cell column).payloadSize
    · rw [if_pos hfull]
      exact .refl s
    · rw [if_neg hfull]
      have hw := rewrites_withValue hrow column (cell column)
      have hlength := hw.length
      have hcolumns := hw.columns
      exact hw.trans (ih (by omega) (by omega))

theorem setCells_outcome (hrow : row + 1 = s.rows.length) (hc : column + count ≤ s.columns)
    (hfree : s.free ≤ s.capacity) :
    (s.free + Layout.rowPayload ((List.range' column count).map cell) ≤ s.capacity ∧
        (s.setCells cell row count column).1 = .ok () ∧
        (s.setCells cell row count column).2.free =
          s.free + Layout.rowPayload ((List.range' column count).map cell)) ∨
      (s.capacity < s.free + Layout.rowPayload ((List.range' column count).map cell) ∧
        ∃ e, e.isOutOfMemory = true ∧ (s.setCells cell row count column).1 = .error e) := by
  induction count generalizing s column with
  | zero => exact .inl ⟨hfree, rfl, rfl⟩
  | succ count ih =>
    rw [List.range'_succ, List.map_cons, Layout.rowPayload, setCells,
      set_eq (by omega) (by omega)]
    by_cases hfull : s.capacity - s.free < (cell column).payloadSize
    · rw [if_pos hfull]
      exact .inr ⟨by omega, _, rfl, rfl⟩
    · rw [if_neg hfull]
      have hw := rewrites_withValue hrow column (cell column)
      have hlength := hw.length
      have hcolumns := hw.columns
      have hnew : (s.withValue row column (cell column)).free =
        s.free + (cell column).payloadSize := rfl
      have hcap : (s.withValue row column (cell column)).capacity = s.capacity := rfl
      rw [← hcap, ← Nat.add_assoc, ← hnew]
      exact ih (by omega) (by omega) (by omega)

theorem setCells_entry (hrow : row + 1 = s.rows.length) (hc : column + count ≤ s.columns)
    (hok : (s.setCells cell row count column).1 = .ok ()) {r : Row} (hr : s.rows[row]? = some r) :
    ∃ r', (s.setCells cell row count column).2.rows[row]? = some r' ∧
      ∀ i, (r'.entry i).value =
        if column ≤ i ∧ i < column + count then cell i else (r.entry i).value := by
  induction count generalizing s column r with
  | zero => exact ⟨r, hr, fun i => by rw [if_neg (by omega)]⟩
  | succ count ih =>
    rw [setCells, set_eq (by omega) (by omega)] at hok ⊢
    by_cases hfull : s.capacity - s.free < (cell column).payloadSize
    · rw [if_pos hfull] at hok
      cases hok
    · rw [if_neg hfull] at hok ⊢
      have hw := rewrites_withValue hrow column (cell column)
      have hlength := hw.length
      have hcolumns := hw.columns
      obtain ⟨r', hr', hvalue⟩ := ih (by omega) (by omega) hok
        (getElem?_withValue column (cell column) hr)
      refine ⟨r', hr', fun i => ?_⟩
      rw [hvalue]
      by_cases hi : i = column
      · subst hi
        rw [if_neg (by omega), if_pos (by omega)]
        simp only [Row.put, if_true]
      · simp only [Row.put, if_neg hi]
        by_cases hin : column + 1 ≤ i ∧ i < column + 1 + count
        · rw [if_pos hin, if_pos (by omega)]
        · rw [if_neg hin, if_neg (by omega)]

end Cells

theorem appendRow_full {s : Sheet} (hfull : s.capacity < s.rowEnd) (cell : Nat → Value) :
    s.appendRow cell = (.error (.outOfMemory (s.rowEnd - s.free) (s.capacity - s.free)), s) := by
  rw [appendRow, pushRow, if_pos hfull]

theorem appendRow_complete {s t : Sheet} (hroom : s.rowEnd ≤ s.capacity) {cell : Nat → Value}
    (h : s.withRow.setCells cell s.rows.length s.withRow.columns 0 = (.ok (), t)) :
    s.appendRow cell = (.ok (), t) := by
  rw [appendRow, pushRow, if_neg (by omega)]
  simp only [h]

theorem appendRow_undone {s t : Sheet} (hroom : s.rowEnd ≤ s.capacity) {cell : Nat → Value}
    {e : Error} {mark : Nat}
    (h : s.withRow.setCells cell s.rows.length s.withRow.columns 0 = (.error e, t))
    (hpending : t.pending = some mark) :
    s.appendRow cell = (.error e, t.withoutRow mark) := by
  rw [appendRow, pushRow, if_neg (by omega)]
  simp only [h, popRow, hpending]

/-- A row that cannot be appended leaves the sheet as it was, or only no longer lets the row before
be taken back. -/
theorem appendRow_error {s : Sheet} (hs : s.Sound) {cell : Nat → Value} {e : Error}
    (h : (s.appendRow cell).1 = .error e) :
    (s.appendRow cell).2 = s ∨ (s.appendRow cell).2 = { s with pending := none } := by
  by_cases hfull : s.capacity < s.rowEnd
  · rw [appendRow_full hfull]
    exact .inl rfl
  have hroom := Nat.le_of_not_lt hfull
  have hrow : s.rows.length + 1 = s.withRow.rows.length := by simp [withRow]
  have hwrites := setCells_rewrites cell hrow (Nat.le_of_eq (Nat.zero_add s.withRow.columns))
  cases hcells : s.withRow.setCells cell s.rows.length s.withRow.columns 0 with
  | mk result t =>
  rw [hcells] at hwrites
  cases result with
  | ok _ =>
    rw [appendRow_complete hroom hcells] at h
    cases h
  | error e' =>
    rw [appendRow_undone hroom hcells hwrites.pending, hwrites.withoutRow, withoutRow_withRow hs]
    exact .inr rfl

/-- What is on a sheet to which rows were only ever appended. -/
structure Carries (s : Sheet) (count : Nat) (rows : List (List Value)) : Prop where
  columns : s.columns = count
  values : s.values = rows
  free : s.free = Layout.usedBy count rows

variable {s : Sheet} {count : Nat} {rows : List (List Value)}

theorem Carries.length (h : s.Carries count rows) : rows.length = s.rows.length := by
  rw [← h.values, Sheet.values, List.length_map]

theorem values_concat {t : Sheet} {r : Row} {cell : Nat → Value} (hcolumns : t.columns = s.columns)
    (holder : t.rows.dropLast = s.rows) (hlength : t.rows.length = s.rows.length + 1)
    (hr : t.rows[s.rows.length]? = some r)
    (hvalue : ∀ column, column < s.columns → (r.entry column).value = cell column) :
    t.values = s.values ++ [rowOf s.columns cell] := by
  have hne : t.rows ≠ [] := fun hnil => by rw [hnil] at hlength; cases hlength
  have hlast : t.rows.getLast hne = r := by
    apply Option.some.inj
    rw [← List.getLast?_eq_some_getLast, List.getLast?_eq_getElem?, hlength]
    exact hr
  have hrows : t.rows = s.rows ++ [r] := by
    rw [← List.dropLast_concat_getLast hne, holder, hlast]
  have hrow : (List.range s.columns).map (fun column => (r.entry column).value) =
      rowOf s.columns cell := by
    apply List.map_congr_left
    intro column hc
    exact hvalue column (List.mem_range.mp hc)
  rw [values, hrows, hcolumns, List.map_append, List.map_singleton, hrow]
  rfl

theorem Carries.withoutPending (h : s.Carries count rows) :
    ({ s with pending := none } : Sheet).Carries count rows :=
  ⟨h.columns, h.values, h.free⟩

theorem Carries.appendRow (h : s.Carries count rows) (hs : s.Sound) (cell : Nat → Value) :
    (Layout.usedBy count (rows ++ [rowOf count cell]) ≤ s.capacity ∧
        (s.appendRow cell).1 = .ok () ∧
        (s.appendRow cell).2.Carries count (rows ++ [rowOf count cell])) ∨
      (s.capacity < Layout.usedBy count (rows ++ [rowOf count cell]) ∧
        (∃ e, e.isOutOfMemory = true ∧ (s.appendRow cell).1 = .error e) ∧
        (s.appendRow cell).2.Carries count rows) := by
  obtain ⟨rfl, rfl, hfree⟩ := h
  have hend : s.rowEnd = Layout.rowEnd s.columns s.values.length
      (Layout.usedBy s.columns s.values) := by
    rw [Sheet.rowEnd, hfree, Sheet.values, List.length_map]
  have hcarries : s.Carries s.columns s.values := ⟨rfl, rfl, hfree⟩
  rw [Layout.usedBy_concat, ← hend]
  by_cases hfull : s.capacity < s.rowEnd
  · rw [appendRow_full hfull]
    exact .inr ⟨by omega, ⟨_, rfl, rfl⟩, hcarries⟩
  have hroom := Nat.le_of_not_lt hfull
  have hrow : s.rows.length + 1 = s.withRow.rows.length := by simp [withRow]
  have hc : 0 + s.withRow.columns ≤ s.withRow.columns := Nat.le_of_eq (Nat.zero_add _)
  have hwrites := setCells_rewrites cell hrow hc
  have houtcome := setCells_outcome cell hrow hc hroom
  rw [← List.range_eq_range'] at houtcome
  cases hcells : s.withRow.setCells cell s.rows.length s.withRow.columns 0 with
  | mk result t =>
  rw [hcells] at hwrites houtcome
  obtain ⟨hfits, hok, ht⟩ | ⟨hover, e, he, herror⟩ := houtcome
  · obtain ⟨r, hr, hvalue⟩ :=
      setCells_entry cell hrow hc (by rw [hcells]; exact hok) (rows_withRow s)
    rw [hcells] at hr
    cases hok
    rw [appendRow_complete hroom hcells]
    refine .inl ⟨hfits, rfl, hwrites.columns, ?_, ?_⟩
    · have holder : t.rows.dropLast = s.rows := hwrites.older.trans List.dropLast_concat
      refine values_concat hwrites.columns holder (hwrites.length.trans hrow.symm) hr ?_
      intro column hlt
      have hin : column < 0 + s.withRow.columns := (Nat.zero_add s.columns).symm ▸ hlt
      rw [hvalue, if_pos ⟨Nat.zero_le column, hin⟩]
    · rw [Layout.usedBy_concat, ← hend]
      exact ht
  · cases herror
    rw [appendRow_undone hroom hcells hwrites.pending, hwrites.withoutRow, withoutRow_withRow hs]
    exact .inr ⟨hover, ⟨e, he, rfl⟩, hcarries.withoutPending⟩

end Sheet

namespace Window

theorem setCells_comesFrom (cell : Nat → Value) (row count column : Nat) (w : Window) :
    ComesFrom (setCells cell row count column w).2 w := by
  induction count generalizing w column with
  | zero => exact .refl w
  | succ count ih =>
    have hset : ComesFrom (w.set row column (cell column)).2 w :=
      .apply w (.set row column (cell column))
    rw [setCells]
    rcases hset.outcome with ⟨_, v, hr, hfrom⟩ | ⟨e, v, hr, hfrom⟩
    · rw [hr]
      exact (ih (column + 1) v).trans hfrom
    · rw [hr]
      exact hfrom

theorem appendRow_comesFrom (cell : Nat → Value) (w : Window) :
    ComesFrom (appendRow cell w).2 w := by
  have hpush : ComesFrom w.pushRow.2 w := .apply w .pushRow
  rw [appendRow]
  rcases hpush.outcome with ⟨row, v, hr, hpush⟩ | ⟨e, v, hr, hpush⟩
  · rw [hr]
    rcases (setCells_comesFrom cell row v.columns 0 v).outcome with
      ⟨_, u, hr, hcells⟩ | ⟨e, u, hr, hcells⟩
    · simp only [hr]
      exact hcells.trans hpush
    · have hwritten := hcells.trans hpush
      have hpop : ComesFrom u.popRow.2 u := .apply u .popRow
      rcases hpop.outcome with ⟨_, t, hr', hpop⟩ | ⟨e', t, hr', hpop⟩
      · simp only [hr, hr']
        exact hpop.trans hwritten
      · simp only [hr, hr']
        exact hpop.trans hwritten
  · rw [hr]
    exact hpush

theorem prepare_comesFrom (columns : Nat) (w : Window) :
    ComesFrom (prepare columns w).2 w.clear.2 := by
  rw [prepare]
  cases w.clear with
  | mk result v =>
  cases result with
  | ok _ => exact .apply v (.setColumns columns)
  | error e => exact .refl v

theorem clear_comesFrom (w : Window) : ComesFrom w.clear.2 w := .apply w .clear

theorem appendRow_sameFrame (cell : Nat → Value) (w : Window) :
    SameFrame (appendRow cell w).2 w :=
  (appendRow_comesFrom cell w).sameFrame

theorem prepare_sameFrame (columns : Nat) (w : Window) : SameFrame (prepare columns w).2 w :=
  (prepare_comesFrom columns w).sameFrame.trans w.clear_sameFrame

variable {w : Window} {s : Sheet}

theorem Agrees.outcome {α : Type} {r : Except Error α × Window} {r' : Except Error α × Sheet}
    (h : Agrees r r') :
    (∃ answer v t, r = (.ok answer, v) ∧ r' = (.ok answer, t) ∧ v.Stores t) ∨
      ∃ e v t, r = (.error e, v) ∧ r' = (.error e, t) ∧ v.Stores t := by
  obtain ⟨result, v⟩ := r
  obtain ⟨result', t⟩ := r'
  obtain ⟨hanswer, hstores⟩ := h
  cases hanswer
  cases result with
  | ok answer => exact .inl ⟨answer, v, t, rfl, rfl, hstores⟩
  | error e => exact .inr ⟨e, v, t, rfl, rfl, hstores⟩

theorem Stores.setCells (h : w.Stores s) (hw : w.readOnly = false) (cell : Nat → Value)
    (row count column : Nat) :
    Agrees (Window.setCells cell row count column w) (s.setCells cell row count column) := by
  induction count generalizing w s column with
  | zero => exact ⟨rfl, h⟩
  | succ count ih =>
    have hframe := w.set_sameFrame row column (cell column)
    rw [Window.setCells, Sheet.setCells]
    obtain ⟨_, v, t, hr, hr', hstores⟩ | ⟨e, v, t, hr, hr', hstores⟩ :=
      (h.set hw row column (cell column)).outcome
    · rw [hr] at hframe
      rw [hr, hr']
      exact ih hstores (hframe.readOnly.trans hw) (column + 1)
    · rw [hr, hr']
      exact ⟨rfl, hstores⟩

theorem Stores.appendRow (h : w.Stores s) (hw : w.readOnly = false) (cell : Nat → Value) :
    Agrees (Window.appendRow cell w) (s.appendRow cell) := by
  have hpush := w.pushRow_sameFrame
  rw [Window.appendRow, Sheet.appendRow]
  obtain ⟨row, v, t, hr, hr', hstores⟩ | ⟨e, v, t, hr, hr', hstores⟩ := (h.pushRow hw).outcome
  · rw [hr] at hpush
    rw [hr, hr']
    have hwritable : v.readOnly = false := hpush.readOnly.trans hw
    have hcells := (setCells_comesFrom cell row t.columns 0 v).sameFrame
    simp only [Stores.columns_eq hstores]
    obtain ⟨_, v', t', hr, hr', hstores⟩ | ⟨e, v', t', hr, hr', hstores⟩ :=
      (Stores.setCells hstores hwritable cell row t.columns 0).outcome
    · rw [hr, hr']
      exact ⟨rfl, hstores⟩
    · rw [hr] at hcells
      rw [hr, hr']
      have hwritable' : v'.readOnly = false := hcells.readOnly.trans hwritable
      obtain ⟨_, u, u', hr, hr', hstores⟩ | ⟨e, u, u', hr, hr', hstores⟩ :=
        (Stores.popRow hstores hwritable').outcome
      · simp only [hr, hr']
        exact ⟨rfl, hstores⟩
      · simp only [hr, hr']
        exact ⟨rfl, hstores⟩
  · rw [hr, hr']
    exact ⟨rfl, hstores⟩

end Window

end RowPager
