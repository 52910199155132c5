import RowPager.Proofs.Reachable

/-!
Rows appended one after the other to a window that was just emptied for them. Whether a row is taken
is a matter of the bytes that the rows before it use and of its own.
-/

set_option autoImplicit false

namespace RowPager

def cellsOf (row : List Value) (column : Nat) : Value := row.getD column .null

theorem rowOf_cellsOf (row : List Value) : rowOf row.length (cellsOf row) = row := by
  apply List.ext_getElem
  · simp [rowOf]
  · intro column hc hc'
    simp [rowOf, cellsOf, hc']

namespace Window

/-- What becomes of rows, each of which is appended whether or not the ones before it were. -/
def appendAll : List (List Value) → Window → List (Except Error Unit) × Window
  | [], w => ([], w)
  | row :: rows, w =>
    let (answer, w) := w.appendRow (cellsOf row)
    let (answers, w) := appendAll rows w
    (answer :: answers, w)

variable {w : Window} {columns : Nat} {held : List (List Value)}

theorem appendAll_cons (row : List Value) (rows : List (List Value)) (w : Window) :
    appendAll (row :: rows) w =
      ((w.appendRow (cellsOf row)).1 :: (appendAll rows (w.appendRow (cellsOf row)).2).1,
        (appendAll rows (w.appendRow (cellsOf row)).2).2) := rfl

theorem Carries.append_one (h : w.Carries columns held) {row : List Value}
    (hwidth : row.length = columns) :
    (w.appendRow (cellsOf row)).2.capacity = w.capacity ∧
      ((Layout.usedBy columns (held ++ [row]) ≤ w.capacity ∧
          (w.appendRow (cellsOf row)).1 = .ok () ∧
          (w.appendRow (cellsOf row)).2.Carries columns (held ++ [row])) ∨
        (w.capacity < Layout.usedBy columns (held ++ [row]) ∧
          (∃ e, e.isOutOfMemory = true ∧ (w.appendRow (cellsOf row)).1 = .error e) ∧
          (w.appendRow (cellsOf row)).2.Carries columns held)) := by
  have hrow : rowOf columns (cellsOf row) = row := hwidth ▸ rowOf_cellsOf row
  refine ⟨(w.appendRow_sameFrame (cellsOf row)).capacity, ?_⟩
  obtain ⟨hfits, v, hv, hmore⟩ | ⟨hover, e, v, he, hv, hsame⟩ := h.appendRow (cellsOf row)
  · rw [hrow] at hfits hmore
    rw [hv]
    exact .inl ⟨hfits, rfl, hmore⟩
  · rw [hrow] at hover
    rw [hv]
    exact .inr ⟨hover, ⟨e, he, rfl⟩, hsame⟩

theorem Carries.appendAll_fits (h : w.Carries columns held) {rows : List (List Value)}
    (hwidth : ∀ row ∈ rows, row.length = columns)
    (hfits : Layout.usedBy columns (held ++ rows) ≤ w.capacity) :
    (appendAll rows w).1 = List.replicate rows.length (.ok ()) ∧
      (appendAll rows w).2.Carries columns (held ++ rows) := by
  induction rows generalizing w held with
  | nil =>
    rw [List.append_nil]
    exact ⟨rfl, h⟩
  | cons row rows ih =>
    have hconcat : held ++ row :: rows = held ++ [row] ++ rows := by simp
    obtain ⟨hrow, hrows⟩ := List.forall_mem_cons.mp hwidth
    rw [hconcat] at hfits ⊢
    obtain ⟨hcapacity, ⟨-, hok, hmore⟩ | ⟨hover, -⟩⟩ := h.append_one hrow
    · obtain ⟨hall, hcarries⟩ := ih hmore hrows (hcapacity.symm ▸ hfits)
      refine ⟨?_, hcarries⟩
      rw [appendAll_cons, hok, hall]
      rfl
    · have hmono := Layout.usedBy_mono columns (List.prefix_append (held ++ [row]) rows)
      omega

theorem Carries.fits_of_appendAll (h : w.Carries columns held) {rows : List (List Value)}
    (hwidth : ∀ row ∈ rows, row.length = columns)
    (hall : (appendAll rows w).1 = List.replicate rows.length (.ok ())) :
    Layout.usedBy columns (held ++ rows) ≤ w.capacity := by
  induction rows generalizing w held with
  | nil =>
    rw [List.append_nil]
    exact h.usedBy_le
  | cons row rows ih =>
    have hconcat : held ++ row :: rows = held ++ [row] ++ rows := by simp
    obtain ⟨hrow, hrows⟩ := List.forall_mem_cons.mp hwidth
    rw [appendAll_cons, List.length_cons, List.replicate_succ] at hall
    obtain ⟨hfirst, hrest⟩ := List.cons.inj hall
    obtain ⟨hcapacity, ⟨-, -, hmore⟩ | ⟨-, ⟨e, -, herror⟩, -⟩⟩ := h.append_one hrow
    · rw [hconcat, ← hcapacity]
      exact ih hmore hrows hrest
    · cases hfirst.symm.trans herror

theorem Carries.append_keeps (h : w.Carries columns held) {row : List Value}
    (hwidth : row.length = columns) :
    (w.appendRow (cellsOf row)).2.capacity = w.capacity ∧
      ∃ next, held <+: next ∧ (w.appendRow (cellsOf row)).2.Carries columns next := by
  obtain ⟨hcapacity, ⟨-, -, hmore⟩ | ⟨-, -, hsame⟩⟩ := h.append_one hwidth
  · exact ⟨hcapacity, _, List.prefix_append held [row], hmore⟩
  · exact ⟨hcapacity, held, List.prefix_rfl, hsame⟩

theorem Carries.refuses (h : w.Carries columns held) {before : List (List Value)}
    (hbefore : before <+: held) {row : List Value}
    (hover : w.capacity < Layout.usedBy columns (before ++ [row])) {rows : List (List Value)}
    (hwidth : ∀ row ∈ rows, row.length = columns) {place : Nat} (hrow : rows[place]? = some row) :
    ∃ e, e.isOutOfMemory = true ∧ (appendAll rows w).1[place]? = some (.error e) := by
  induction rows generalizing w held place with
  | nil => cases hrow
  | cons first rows ih =>
    obtain ⟨hfirst, hrows⟩ := List.forall_mem_cons.mp hwidth
    cases place with
    | zero =>
      cases hrow
      have hmono := Layout.usedBy_concat_mono columns hbefore row
      obtain ⟨-, ⟨hfits, -⟩ | ⟨-, ⟨e, he, herror⟩, -⟩⟩ := h.append_one hfirst
      · omega
      · exact ⟨e, he, congrArg some herror⟩
    | succ place =>
      obtain ⟨hcapacity, next, hnext, hcarries⟩ := h.append_keeps hfirst
      exact ih hcarries (hbefore.trans hnext) (hcapacity.symm ▸ hover) hrows hrow

/-- A row that was refused once is refused again, whatever became of the rows between. -/
theorem Carries.refuses_again (h : w.Carries columns held) {rows : List (List Value)}
    (hwidth : ∀ row ∈ rows, row.length = columns) {row : List Value} {place later : Nat} {e : Error}
    (hle : place ≤ later) (hrow : rows[place]? = some row) (hlater : rows[later]? = some row)
    (herror : (appendAll rows w).1[place]? = some (.error e)) :
    ∃ e, e.isOutOfMemory = true ∧ (appendAll rows w).1[later]? = some (.error e) := by
  induction rows generalizing w held place later with
  | nil => cases hrow
  | cons first rows ih =>
    have hall := hwidth
    obtain ⟨hfirst, hrows⟩ := List.forall_mem_cons.mp hwidth
    cases place with
    | zero =>
      cases hrow
      have herror : (w.appendRow (cellsOf row)).1 = .error e := Option.some.inj herror
      obtain ⟨-, ⟨-, hok, -⟩ | ⟨hover, -⟩⟩ := h.append_one hfirst
      · cases hok.symm.trans herror
      · exact h.refuses List.prefix_rfl hover hall hlater
    | succ place =>
      obtain ⟨later, rfl⟩ := Nat.exists_eq_add_of_le' (Nat.le_trans (Nat.succ_pos place) hle)
      obtain ⟨-, next, -, hcarries⟩ := h.append_keeps hfirst
      exact ih hcarries hrows (Nat.le_of_succ_le_succ hle) hrow hlater herror

/-- What rows take that are appended to a window which was just emptied for their columns. All are
taken exactly if together they fit, and then they use what they take together. The first row begins
after the first chunk. Each row begins on a word boundary, after a new chunk if a hundred rows come
before it, and takes its cells and the bytes of its texts and blobs. More rows never take less, and a
row that was refused is refused again. -/
theorem Reachable.appendAll_cost {w v : Window} {columns : Nat} (hreach : w.Reachable)
    (hprepare : w.prepare columns = (.ok (), v)) {rows : List (List Value)}
    (hwidth : ∀ row ∈ rows, row.length = columns) :
    ((appendAll rows v).1 = List.replicate rows.length (.ok ()) ↔
        Layout.usedBy columns rows ≤ w.capacity) ∧
      (Layout.usedBy columns rows ≤ w.capacity →
        (appendAll rows v).2.used = Layout.usedBy columns rows) ∧
      Layout.usedBy columns [] = 420 ∧
      (∀ before row, Layout.usedBy columns (before ++ [row]) =
        Layout.alignUp (if 0 < before.length ∧ before.length % 100 = 0 then
            Layout.alignUp (Layout.usedBy columns before) + 404
          else Layout.usedBy columns before) + 16 * columns + Layout.rowPayload row) ∧
      ((∀ row ∈ rows, Layout.rowPayload row = 0) → 1 ≤ rows.length →
        Layout.usedBy columns rows =
          420 + 404 * ((rows.length - 1) / 100) + 16 * columns * rows.length) ∧
      (∀ before row, Layout.usedBy columns before ≤ Layout.usedBy columns (before ++ [row])) ∧
      ∀ (row : List Value) (place later : Nat) (e : Error), place ≤ later →
        rows[place]? = some row → rows[later]? = some row →
        (appendAll rows v).1[place]? = some (.error e) →
        ∃ e : Error, e.isOutOfMemory = true ∧
          (appendAll rows v).1[later]? = some (.error e) := by
  obtain ⟨hw, hcount⟩ := of_prepare_ok (by rw [hprepare])
  have hframe := w.prepare_sameFrame columns
  obtain ⟨v', hv', hempty⟩ := carries_prepare hw hreach.sized.minimum hreach.sized.limit hcount
  cases hprepare.symm.trans hv'
  rw [hprepare] at hframe
  have hcapacity : v.capacity = w.capacity := hframe.capacity
  rw [← hcapacity]
  refine ⟨⟨hempty.fits_of_appendAll hwidth, fun hfits => (hempty.appendAll_fits hwidth hfits).1⟩,
    fun hfits => (hempty.appendAll_fits hwidth hfits).2.used_eq, rfl,
    Layout.usedBy_concat_eq columns, fun hplain _ => Layout.usedBy_plain columns hplain,
    fun before row => Layout.usedBy_mono columns (List.prefix_append before [row]), ?_⟩
  intro row place later e hle hrow hlater herror
  exact hempty.refuses_again hwidth hle hrow hlater herror

theorem appendAll_cost_full :
    ∃ w v, Window.create "page" 440 = .ok w ∧ w.prepare 1 = (.ok (), v) ∧
      (appendAll [[.text "row"]] v).1 = [.ok ()] ∧ (appendAll [[.text "row"]] v).2.used = 439 ∧
      (appendAll [[.text "row"], [.null]] v).1 ≠ [.ok (), .ok ()] := by
  obtain ⟨w, hcreate, hw, hstores⟩ :=
    create_stores "page" (show Layout.minCapacity ≤ 440 by decide) (by decide)
  have hreach : w.Reachable := .create hcreate
  have hcapacity : w.capacity = 440 := hstores.capacity
  obtain ⟨v, hprepare, -⟩ :=
    carries_prepare hw hreach.sized.minimum hreach.sized.limit (show 1 < 2 ^ 32 by decide)
  obtain ⟨hone, hused, -⟩ :=
    hreach.appendAll_cost hprepare (show ∀ row ∈ [[Value.text "row"]], row.length = 1 by decide)
  obtain ⟨htwo, -⟩ :=
    hreach.appendAll_cost hprepare (show ∀ row ∈ [[Value.text "row"], [.null]], row.length = 1
      by decide)
  rw [hcapacity] at hone hused htwo
  refine ⟨w, v, hcreate, hprepare, hone.mpr (by decide), hused (by decide), fun hall => ?_⟩
  exact absurd (htwo.mp hall) (by decide)

end Window

end RowPager
