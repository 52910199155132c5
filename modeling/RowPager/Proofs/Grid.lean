import RowPager.Proofs.Getter
import RowPager.Proofs.Simulation

/-!
A window is a grid of values. What it holds is a matter of the operations that succeeded on it, and
of nothing else: neither of those that failed nor of what the buffer held before.
-/

set_option autoImplicit false

namespace RowPager

/-- The operations that succeeded, the latest one first. -/
abbrev Log := List Operation

namespace Log

def sinceClear (log : Log) : Log := log.takeWhile (· ≠ .clear)

def pushed (log : Log) : Nat := log.sinceClear.count .pushRow

def popped (log : Log) : Nat := log.sinceClear.count .popRow

def rows (log : Log) : Nat := log.pushed - log.popped

def columns : Log → Nat
  | [] | .clear :: _ => 0
  | .setColumns count :: _ => count
  | _ :: earlier => columns earlier

/-- The value that was put last into a cell since its row was appended last. -/
def value (row column : Nat) : Log → Value
  | [] | .clear :: _ => .null
  | .pushRow :: earlier => if rows earlier = row then .null else value row column earlier
  | .set r c v :: earlier => if r = row ∧ c = column then v else value row column earlier
  | _ :: earlier => value row column earlier

end Log

namespace Window

def logFrom (log : Log) (w : Window) : List Operation → Log
  | [] => log
  | op :: ops =>
    match w.apply op with
    | (.ok _, w) => logFrom (op :: log) w ops
    | (.error _, w) => logFrom log w ops

def log (w : Window) (ops : List Operation) : Log := w.logFrom [] ops

/-- The window shows the values that a log of operations leaves, and no others. -/
structure ShowsGrid (w : Window) (log : Log) : Prop where
  rows : w.rows + log.popped = log.pushed
  columns : w.columns = log.columns
  cell : ∀ (row column : Nat) (getter : Getter), row < w.rows → column < w.columns →
    w.get row column getter = (log.value row column).answer row column getter
  outside : ∀ (row column : Nat) (getter : Getter), w.rows ≤ row ∨ w.columns ≤ column →
    w.get row column getter = .error (.indexOutOfRange row column w.rows w.columns)
  intact : ∀ (row column : Nat) (getter : Getter) (cause : Corruption),
    w.get row column getter ≠ .error (.corrupted cause)

end Window

def Sheet.logFrom (log : Log) (s : Sheet) : List Operation → Log
  | [] => log
  | op :: ops =>
    match s.apply op with
    | (.ok _, s) => logFrom (op :: log) s ops
    | (.error _, s) => logFrom log s ops

structure Sheet.Records (s : Sheet) (log : Log) : Prop where
  rows : s.rows.length + log.popped = log.pushed
  columns : s.columns = log.columns
  value : ∀ {row : Nat} {r : Sheet.Row}, s.rows[row]? = some r →
    ∀ column, (r.entry column).value = log.value row column

namespace Sheet.Records

variable {s : Sheet} {log : Log}

theorem blank (capacity : Nat) : (Sheet.blank capacity).Records [] :=
  ⟨rfl, rfl, fun h => by simp [Sheet.blank] at h⟩

theorem clear (capacity : Nat) : (Sheet.blank capacity).Records (.clear :: log) :=
  ⟨by simp [Log.popped, Log.pushed, Log.sinceClear, Sheet.blank], rfl,
    fun h => by simp [Sheet.blank] at h⟩

theorem setColumns (h : s.Records log) (count : Nat) :
    ({ s with columns := count } : Sheet).Records (.setColumns count :: log) :=
  ⟨by simpa [Log.popped, Log.pushed, Log.sinceClear] using h.rows, rfl, h.value⟩

theorem setStart (h : s.Records log) (position : Nat) :
    (s.setStart position).Records (.setStart position :: log) :=
  ⟨by simpa [Log.popped, Log.pushed, Log.sinceClear, Sheet.setStart] using h.rows, h.columns,
    h.value⟩

theorem rows_eq (h : s.Records log) : log.rows = s.rows.length := by
  have hrows := h.rows
  unfold Log.rows
  omega

theorem pushRow (h : s.Records log) : s.withRow.Records (.pushRow :: log) := by
  refine ⟨?_, h.columns, ?_⟩
  · have hrows := h.rows
    simp [Log.popped, Log.pushed, Log.sinceClear, withRow] at hrows ⊢
    omega
  · intro row r hr column
    rw [Log.value, h.rows_eq]
    obtain hold | ⟨rfl, rfl⟩ := getElem?_snoc hr
    · have hlt := (List.getElem?_eq_some_iff.mp hold).1
      rw [if_neg (by omega)]
      exact h.value hold column
    · rw [if_pos rfl]
      rfl

theorem popRow (h : s.Records log) (hs : s.Sound) {mark : Nat} (hp : s.pending = some mark) :
    (s.withoutRow mark).Records (.popRow :: log) := by
  refine ⟨?_, h.columns, ?_⟩
  · have hrows := h.rows
    have hpos := List.length_pos_iff.mpr (hs.pending mark hp).2.1
    simp [Log.popped, Log.pushed, Log.sinceClear, withoutRow] at hrows ⊢
    omega
  · intro row r hr column
    exact h.value (getElem?_of_dropLast hr) column

theorem set (h : s.Records log) (row column : Nat) (value : Value) :
    (s.withValue row column value).Records (.set row column value :: log) := by
  refine ⟨?_, h.columns, ?_⟩
  · simpa [Log.popped, Log.pushed, Log.sinceClear, withValue] using h.rows
  · intro i r hr c
    obtain ⟨old, ho, rfl⟩ := getElem?_put hr
    by_cases hi : row = i
    · subst hi
      simp only [if_true, Row.put, Log.value, true_and]
      by_cases hc : c = column
      · rw [if_pos hc, if_pos hc.symm]
      · rw [if_neg hc, if_neg (Ne.symm hc)]
        exact h.value ho c
    · simp only [Log.value, hi, false_and, if_false]
      exact h.value ho c

theorem apply (h : s.Records log) (hs : s.Sound) (op : Operation) :
    (∃ answer, (s.apply op).1 = .ok answer ∧ (s.apply op).2.Records (op :: log)) ∨
      ∃ e, (s.apply op).1 = .error e ∧ (s.apply op).2 = s := by
  cases op with
  | clear => exact .inl ⟨none, rfl, clear s.capacity⟩
  | setColumns count =>
    rw [Sheet.apply]
    obtain ⟨e, heq⟩ | ⟨-, -, heq⟩ := s.setColumns_cases count
    · rw [heq]
      exact .inr ⟨e, rfl, rfl⟩
    · rw [heq]
      exact .inl ⟨none, rfl, h.setColumns count⟩
  | pushRow =>
    rw [Sheet.apply]
    obtain ⟨e, heq⟩ | ⟨-, heq⟩ := s.pushRow_cases
    · rw [heq]
      exact .inr ⟨e, rfl, rfl⟩
    · rw [heq]
      exact .inl ⟨_, rfl, h.pushRow⟩
  | popRow =>
    rw [Sheet.apply]
    obtain ⟨e, heq⟩ | ⟨mark, hp, heq⟩ := s.popRow_cases
    · rw [heq]
      exact .inr ⟨e, rfl, rfl⟩
    · rw [heq]
      exact .inl ⟨none, rfl, h.popRow hs hp⟩
  | setStart position => exact .inl ⟨none, rfl, h.setStart position⟩
  | set row column value =>
    rw [Sheet.apply]
    obtain ⟨e, heq⟩ | ⟨-, -, -, heq⟩ := s.set_cases row column value
    · rw [heq]
      exact .inr ⟨e, rfl, rfl⟩
    · rw [heq]
      exact .inl ⟨none, rfl, h.set row column value⟩

theorem after (h : s.Records log) (hs : s.Sound) (ops : List Operation) :
    (s.after ops).Records (s.logFrom log ops) := by
  -- The log grows at its head, so that it is what the induction generalizes.
  induction ops generalizing s log with
  | nil => exact h
  | cons op ops ih =>
    have hsound := hs.apply op
    rw [logFrom]
    obtain ⟨answer, hok, hnext⟩ | ⟨e, herror, hsame⟩ := h.apply hs op
    · have hanswer : s.apply op = (.ok answer, (s.apply op).2) := Prod.ext hok rfl
      rw [hanswer]
      exact ih hnext hsound
    · have hanswer : s.apply op = (.error e, s) := Prod.ext herror hsame
      rw [hanswer, Sheet.after, List.foldl_cons, hanswer]
      exact ih h hs

end Sheet.Records

namespace Window

theorem Stores.logFrom_eq {w : Window} {s : Sheet} (h : w.Stores s) (hw : w.readOnly = false)
    (log : Log) (ops : List Operation) : w.logFrom log ops = s.logFrom log ops := by
  induction ops generalizing w s log with
  | nil => rfl
  | cons op ops ih =>
    obtain ⟨hanswer, hstores⟩ := h.apply hw op
    have hwritable := (w.apply_sameFrame op).readOnly.trans hw
    rw [logFrom, Sheet.logFrom]
    revert hanswer hstores hwritable
    obtain ⟨result, v⟩ := w.apply op
    obtain ⟨result', t⟩ := s.apply op
    rintro rfl hstores hwritable
    cases result with
    | ok answer => exact ih hstores hwritable _
    | error e => exact ih hstores hwritable _

theorem Stores.showsGrid {w : Window} {s : Sheet} {log : Log} (h : w.Stores s)
    (hlog : s.Records log) : w.ShowsGrid log := by
  have hrows := h.rows_eq
  have hcolumns := h.columns_eq
  have hcell : ∀ (row column : Nat) (getter : Getter), row < w.rows → column < w.columns →
      w.get row column getter = (log.value row column).answer row column getter := by
    intro row column getter hr hc
    rw [hrows] at hr
    rw [hcolumns] at hc
    have hrow := List.getElem?_eq_getElem hr
    rw [h.get_eq hrow hc, hlog.value hrow]
  have houtside : ∀ (row column : Nat) (getter : Getter), w.rows ≤ row ∨ w.columns ≤ column →
      w.get row column getter = .error (.indexOutOfRange row column w.rows w.columns) := by
    intro row column getter hout
    rw [hrows, hcolumns] at hout ⊢
    exact h.get_error hout getter
  refine ⟨by rw [hrows]; exact hlog.rows, hcolumns.trans hlog.columns, hcell, houtside, ?_⟩
  intro row column getter cause
  by_cases hin : row < w.rows ∧ column < w.columns
  · rw [hcell row column getter hin.1 hin.2]
    exact Value.answer_ne_corrupted row column getter _ cause
  · rw [houtside row column getter (by omega)]
    exact fun heq => by cases heq

/-- Whatever is done to a new window, in any order and with any outcome, it shows the grid of the
operations that succeeded. -/
theorem create_showsGrid (name : String) (capacity : Nat) (hmin : Layout.minCapacity ≤ capacity)
    (hmax : capacity ≤ Layout.maxCapacity) :
    ∃ w, create name capacity = .ok w ∧
      ∀ ops : List Operation, (w.after ops).ShowsGrid (w.log ops) := by
  obtain ⟨w, hcreate, hw, hstores⟩ := create_stores name hmin hmax
  refine ⟨w, hcreate, fun ops => ?_⟩
  have hrecords := (Sheet.Records.blank capacity).after hstores.sound ops
  rw [log, hstores.logFrom_eq hw]
  exact (hstores.after hw ops).showsGrid hrecords

/-- A row is taken back and added again, which leaves nothing of the number that was in it. There is
no room for a second row beside the text. -/
theorem create_showsGrid_text :
    ∃ (w v : Window) (ops more : List Operation), create "grid" 440 = .ok w ∧
      ops = [.setColumns 1, .pushRow, .set 0 0 (.integer 7), .popRow, .pushRow] ∧
      (w.after ops).ShowsGrid (w.log ops) ∧
      (w.after ops).get 0 0 .value = .ok (.value .null) ∧
      more = ops ++ [.set 0 0 (.text "row"), .pushRow, .set 1 0 (.integer 7)] ∧
      w.log more = [.set 0 0 (.text "row"), .pushRow, .popRow, .set 0 0 (.integer 7), .pushRow,
        .setColumns 1] ∧
      v = w.after more ∧ v.ShowsGrid (w.log more) ∧ v.rows = 1 ∧ v.columns = 1 ∧
      v.get 0 0 .text = .ok (.value (.text "row")) ∧
      v.get 1 0 .text = .error (.indexOutOfRange 1 0 1 1) := by
  obtain ⟨w, hcreate, hshows⟩ := create_showsGrid "grid" 440 (by decide) (by decide)
  obtain ⟨hw, hstores⟩ := of_create hcreate
  let ops : List Operation :=
    [.setColumns 1, .pushRow, .set 0 0 (.integer 7), .popRow, .pushRow]
  let more : List Operation := ops ++ [.set 0 0 (.text "row"), .pushRow, .set 1 0 (.integer 7)]
  have hlog : w.log ops =
      [.pushRow, .popRow, .set 0 0 (.integer 7), .pushRow, .setColumns 1] :=
    hstores.logFrom_eq hw [] ops
  have hlogMore : w.log more =
      [.set 0 0 (.text "row"), .pushRow, .popRow, .set 0 0 (.integer 7), .pushRow,
        .setColumns 1] := hstores.logFrom_eq hw [] more
  have hgrid := hshows ops
  have hgridMore := hshows more
  have hrows : (w.after ops).rows = 1 := (hstores.after hw ops).rows_eq
  have hcolumns : (w.after ops).columns = 1 := (hstores.after hw ops).columns_eq
  have hrowsMore : (w.after more).rows = 1 := (hstores.after hw more).rows_eq
  have hcolumnsMore : (w.after more).columns = 1 := (hstores.after hw more).columns_eq
  have hnull := hgrid.cell 0 0 .value (by omega) (by omega)
  have htext := hgridMore.cell 0 0 .text (by omega) (by omega)
  have houtside := hgridMore.outside 1 0 .text (by omega)
  rw [hlog] at hnull
  rw [hlogMore] at htext
  rw [hrowsMore, hcolumnsMore] at houtside
  exact ⟨w, _, ops, more, hcreate, rfl, hgrid, hnull, rfl, hlogMore, rfl, hgridMore, hrowsMore,
    hcolumnsMore, htext, houtside⟩

end Window

end RowPager
