import RowPager.Proofs.RowAppend

/-!
Windows that were emptied for a number of columns and filled with whole rows since then.
-/

set_option autoImplicit false

namespace RowPager

theorem Sheet.exists_of_values {s : Sheet} {row column : Nat} {cells : List Value} {value : Value}
    (hr : s.values[row]? = some cells) (hc : cells[column]? = some value) :
    ∃ r, s.rows[row]? = some r ∧ column < s.columns ∧ (r.entry column).value = value := by
  rw [values, List.getElem?_map] at hr
  obtain ⟨r, hrow, rfl⟩ := Option.map_eq_some_iff.mp hr
  rw [List.getElem?_map] at hc
  obtain ⟨c, hcolumn, hvalue⟩ := Option.map_eq_some_iff.mp hc
  obtain ⟨hlt, heq⟩ := List.getElem?_eq_some_iff.mp hcolumn
  rw [List.length_range] at hlt
  rw [List.getElem_range] at heq
  exact ⟨r, hrow, hlt, heq ▸ hvalue⟩

namespace Window

structure Carries (w : Window) (count : Nat) (rows : List (List Value)) : Prop where
  writable : w.readOnly = false
  sheet : ∃ s, w.Stores s ∧ s.Carries count rows

variable {w : Window} {count : Nat} {rows : List (List Value)}

namespace Carries

theorem rows_eq (h : w.Carries count rows) : w.rows = rows.length := by
  obtain ⟨s, hstores, hcarries⟩ := h.sheet
  rw [hstores.rows_eq, hcarries.length]

theorem columns_eq (h : w.Carries count rows) : w.columns = count := by
  obtain ⟨s, hstores, hcarries⟩ := h.sheet
  rw [hstores.columns_eq, hcarries.columns]

theorem used_eq (h : w.Carries count rows) : w.used = Layout.usedBy count rows := by
  obtain ⟨s, hstores, hcarries⟩ := h.sheet
  rw [hstores.used_eq, hcarries.free]

theorem usedBy_le (h : w.Carries count rows) : Layout.usedBy count rows ≤ w.capacity := by
  obtain ⟨s, hstores, hcarries⟩ := h.sheet
  rw [hstores.capacity, ← hcarries.free]
  exact hstores.sound.fits

theorem loneSize_le (h : w.Carries count rows) {row : List Value} (hrow : row ∈ rows) :
    Layout.loneSize count row ≤ w.capacity :=
  Nat.le_trans (Layout.loneSize_le_usedBy count hrow) h.usedBy_le

theorem get_eq (h : w.Carries count rows) {row column : Nat} {cells : List Value} {value : Value}
    (hr : rows[row]? = some cells) (hc : cells[column]? = some value) (getter : Getter) :
    w.get row column getter = value.answer row column getter := by
  obtain ⟨s, hstores, hcarries⟩ := h.sheet
  rw [← hcarries.values] at hr
  obtain ⟨r, hrow, hcolumn, rfl⟩ := Sheet.exists_of_values hr hc
  exact hstores.get_eq hrow hcolumn getter

theorem setStart (h : w.Carries count rows) (position : Nat) :
    (w.setStartPosition position).Carries count rows := by
  obtain ⟨s, hstores, hcarries⟩ := h.sheet
  exact ⟨h.writable, s.setStart position, hstores.setStart position,
    hcarries.columns, hcarries.values, hcarries.free⟩

theorem appendRow (h : w.Carries count rows) (cell : Nat → Value) :
    (Layout.usedBy count (rows ++ [rowOf count cell]) ≤ w.capacity ∧
        ∃ v, w.appendRow cell = (.ok (), v) ∧
          v.Carries count (rows ++ [rowOf count cell])) ∨
      (w.capacity < Layout.usedBy count (rows ++ [rowOf count cell]) ∧
        ∃ e v, e.isOutOfMemory = true ∧ w.appendRow cell = (.error e, v) ∧
          v.Carries count rows) := by
  obtain ⟨s, hstores, hcarries⟩ := h.sheet
  have hframe := w.appendRow_sameFrame cell
  have happend := hcarries.appendRow hstores.sound cell
  rw [hstores.capacity]
  obtain ⟨_, v, t, hr, hr', ht⟩ | ⟨e, v, t, hr, hr', ht⟩ :=
    (hstores.appendRow h.writable cell).outcome
  · rw [hr] at hframe
    rw [hr'] at happend
    obtain ⟨hroom, -, hmore⟩ | ⟨-, ⟨e, -, hfail⟩, -⟩ := happend
    · exact .inl ⟨hroom, v, hr, hframe.readOnly.trans h.writable, t, ht, hmore⟩
    · cases hfail
  · rw [hr] at hframe
    rw [hr'] at happend
    obtain ⟨-, hdone, -⟩ | ⟨hover, ⟨e, he, hfail⟩, hsame⟩ := happend
    · cases hdone
    · cases hfail
      exact .inr ⟨hover, e, v, he, hr, hframe.readOnly.trans h.writable, t, ht, hsame⟩

end Carries

theorem carries_clear (hw : w.readOnly = false) (hmin : 420 ≤ w.capacity)
    (hmax : w.capacity < 2 ^ 32) : ∃ v, w.clear = (.ok (), v) ∧ v.Carries 0 [] := by
  have hframe := w.clear_sameFrame
  obtain ⟨hanswer, hstores⟩ := Stores.clear hw hmin hmax
  cases hr : w.clear with
  | mk result v =>
  rw [hr] at hanswer hstores hframe
  cases hanswer
  exact ⟨v, rfl, hframe.readOnly.trans hw, _, hstores, rfl, rfl, rfl⟩

theorem carries_prepare (hw : w.readOnly = false) (hmin : 420 ≤ w.capacity)
    (hmax : w.capacity < 2 ^ 32) (hcount : count < 2 ^ 32) :
    ∃ v, w.prepare count = (.ok (), v) ∧ v.Carries count [] := by
  have hframe := w.clear_sameFrame
  obtain ⟨hanswer, hstores⟩ := Stores.clear hw hmin hmax
  rw [prepare]
  cases hr : w.clear with
  | mk result u =>
  rw [hr] at hanswer hstores hframe
  cases hanswer
  have hwritable : u.readOnly = false := hframe.readOnly.trans hw
  have hframe := u.setColumns_sameFrame count
  obtain ⟨hanswer, hstores⟩ := Stores.setColumns hstores hwritable count
  rw [Sheet.setColumns, if_neg (fun hlocked => Nat.lt_irrefl 0 hlocked.1),
    if_neg (by omega)] at hanswer hstores
  refine ⟨(u.setColumns count).2, Prod.ext hanswer rfl, hframe.readOnly.trans hwritable, _,
    hstores, rfl, rfl, rfl⟩

theorem carries_prepare_wide (hw : w.readOnly = false) (hmin : 420 ≤ w.capacity)
    (hmax : w.capacity < 2 ^ 32) (hcount : 2 ^ 32 ≤ count) :
    ∃ v, w.prepare count = (.error (.invalidConfig (.columns count)), v) ∧ v.Carries 0 [] := by
  obtain ⟨u, hclear, hempty⟩ := carries_clear hw hmin hmax
  have hplan : u.planColumns count = .error (.invalidConfig (.columns count)) := by
    have hrows : ¬ 0 < u.rows := by rw [hempty.rows_eq]; exact Nat.lt_irrefl 0
    rw [planColumns, requireWritable_eq hempty.writable]
    simp only [bind, Except.bind, hrows, false_and, if_false]
    exact if_pos hcount
  refine ⟨u, ?_, hempty⟩
  rw [prepare, hclear]
  exact commit_of_error hplan _ _

theorem of_bind_ok {α β : Type} {x : Except Error α} {f : α → Except Error β} {b : β}
    (h : (x >>= f) = .ok b) : ∃ a, x = .ok a ∧ f a = .ok b := by
  cases x with
  | ok a => exact ⟨a, rfl, h⟩
  | error e => cases h

theorem of_commit_ok {π α : Type} {plan : Except Error π} {answer : π → α}
    {change : π → Window → Window} {a : α} (h : (commit plan answer change w).1 = .ok a) :
    ∃ p, plan = .ok p := by
  cases plan with
  | ok p => exact ⟨p, rfl⟩
  | error e => cases h

theorem of_prepare_ok (h : (w.prepare count).1 = .ok ()) :
    w.readOnly = false ∧ count < 2 ^ 32 := by
  rw [prepare] at h
  cases hr : w.clear with
  | mk result u =>
  rw [hr] at h
  cases result with
  | error e => cases h
  | ok _ =>
    obtain ⟨_, hwritable⟩ : ∃ p, w.requireWritable = .ok p :=
      of_commit_ok (show w.clear.1 = .ok () by rw [hr])
    obtain ⟨_, hplan⟩ : ∃ p, u.planColumns count = .ok p := of_commit_ok h
    refine ⟨?_, ?_⟩
    · unfold requireWritable at hwritable
      split at hwritable
      · cases hwritable
      · next hw => exact Bool.eq_false_iff.mpr hw
    · unfold planColumns at hplan
      obtain ⟨_, -, hplan⟩ := of_bind_ok hplan
      split at hplan
      · cases hplan
      split at hplan
      · cases hplan
      · next hlt => exact Nat.lt_of_not_le hlt

end Window

end RowPager
