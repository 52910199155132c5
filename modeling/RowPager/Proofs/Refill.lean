import RowPager.Proofs.FillGuarantee
import RowPager.Proofs.Indexing

/-!
Pagers over any cursor: what the window says of the current row, and what a refill makes of the
pager.
-/

set_option autoImplicit false

namespace RowPager

namespace Indexed

variable {t : Indexed} {row : Nat}

theorem fits_of_le (h : t.rows.length ≤ row) : t.fits row = true := by
  rw [fits, List.getElem?_eq_none h]

theorem fits_of_loneSize_le {cells : List Value} (hrow : t.rows[row]? = some cells)
    (h : Layout.loneSize t.columns cells ≤ t.capacity) : t.fits row = true := by
  simp only [fits, hrow, h, decide_true]

theorem fits_eq_false {request : Fill.Request}
    (h : Fill.Blocked request t.columns t.rows t.capacity) : t.fits request.required = false := by
  obtain ⟨cells, hrow, hlarge⟩ := h
  simp only [fits, hrow, decide_eq_false_iff_not]
  omega

end Indexed

namespace Pager

variable {σ : Type}

section Holds

variable {p : Pager σ} {row : Nat}

theorem holds_iff : p.holds row = true ↔
    p.window.startPosition ≤ row ∧ row < p.window.startPosition + p.window.rows := by
  simp [holds]

theorem windowRow_of_holds (hposition : p.position = some row) (h : p.holds row = true) :
    p.windowRow = .ok (row - p.window.startPosition) := by
  simp only [windowRow, hposition, h, if_true]

theorem windowRow_of_not_holds (hposition : p.position = some row) (h : p.holds row = false) :
    p.windowRow = .error .noCurrentRow := by
  simp only [windowRow, hposition, h, Bool.false_eq_true, if_false]

end Holds

/-- The window has rows of the result set, or none. -/
def Shows (p : Pager σ) (t : Indexed) : Prop :=
  p.window.rows = 0 ∨ ∃ stop, stop ≤ t.rows.length ∧
    p.window.Carries t.columns (Fill.block t.rows p.window.startPosition stop)

variable {p : Pager σ}

theorem Shows.of_holds {t : Indexed} (h : p.Shows t) {row : Nat} (hrow : p.holds row = true) :
    ∃ cells, t.rows[row]? = some cells ∧ Layout.loneSize t.columns cells ≤ p.window.capacity ∧
      ∀ (column : Nat) (value : Value), cells[column]? = some value → ∀ getter,
        p.window.get (row - p.window.startPosition) column getter =
          value.answer (row - p.window.startPosition) column getter := by
  obtain ⟨hle, hlt⟩ := holds_iff.mp hrow
  obtain hnone | ⟨stop, hstop, hcarries⟩ := h
  · omega
  · rw [hcarries.rows_eq, Fill.block_length hstop] at hlt
    have hcells := List.getElem?_eq_getElem (show row < t.rows.length by omega)
    have hblock : (Fill.block t.rows p.window.startPosition stop)[row - p.window.startPosition]? =
        t.rows[p.window.startPosition + (row - p.window.startPosition)]? :=
      Fill.getElem?_block (by omega)
    rw [Nat.add_sub_cancel' hle, hcells] at hblock
    exact ⟨_, hcells, hcarries.loneSize_le (List.mem_of_getElem? hblock),
      fun column value hvalue getter => hcarries.get_eq hblock hvalue getter⟩

variable [Cursor σ]

def fillRequest (p : Pager σ) (target : Nat) : Fill.Request :=
  ⟨Fill.centredStart target (if p.total.isNone then 0 else p.heldRows), target, p.total.isNone⟩

omit [Cursor σ] in
theorem fillRequest_range (p : Pager σ) (target : Nat) :
    (p.fillRequest target).start ≤ (p.fillRequest target).required :=
  Nat.sub_le target _

/-- The first fill tells how many rows there are and how many the window holds. -/
theorem refill_eq (p : Pager σ) (target : Nat) :
    p.refill target =
      match Fill.run (p.fillRequest target) p.cursor p.window p.tally with
      | (.error e, c, w, tally) => (.error e, ⟨c, w, tally, p.total, p.heldRows, p.position⟩)
      | (.ok report, c, w, tally) =>
        (.ok (), ⟨c, w, tally, some (p.total.getD report.countedRows),
          if p.total.isNone then w.rows else p.heldRows, p.position⟩) := by
  obtain ⟨cursor, window, tally, total, heldRows, position⟩ := p
  cases total with
  | none => rfl
  | some total => rfl

theorem refill_error {target : Nat} {e : Error} {c : σ} {w : Window} {tally : Tally}
    (h : Fill.run (p.fillRequest target) p.cursor p.window p.tally = (.error e, c, w, tally)) :
    p.refill target = (.error e, ⟨c, w, tally, p.total, p.heldRows, p.position⟩) := by
  rw [refill_eq, h]

theorem refill_ok {target : Nat} {report : Fill.Report} {c : σ} {w : Window}
    {tally : Tally}
    (h : Fill.run (p.fillRequest target) p.cursor p.window p.tally = (.ok report, c, w, tally)) :
    ∃ heldRows, p.refill target =
      (.ok (), ⟨c, w, tally, some (p.total.getD report.countedRows), heldRows, p.position⟩) := by
  rw [refill_eq, h]
  exact ⟨_, rfl⟩

theorem refill_cursor (p : Pager σ) (target : Nat) :
    (p.refill target).2.cursor =
      (Fill.run (p.fillRequest target) p.cursor p.window p.tally).2.1 := by
  cases hrun : Fill.run (p.fillRequest target) p.cursor p.window p.tally with
  | mk result rest =>
  obtain ⟨c, w, tally⟩ := rest
  cases result with
  | error e => rw [refill_error hrun]
  | ok report =>
    obtain ⟨heldRows, hrefill⟩ := refill_ok hrun
    rw [hrefill]

theorem refill_of_complete {t : Indexed} {target : Nat} {report : Fill.Report} {c : σ} {w : Window}
    {tally : Tally}
    (h : Fill.run (p.fillRequest target) p.cursor p.window p.tally = (.ok report, c, w, tally))
    (hcomplete : Fill.Complete (p.fillRequest target) t.columns t.rows report w)
    (hstart : w.startPosition = report.startPosition)
    (htotal : ∀ total, p.total = some total → total = t.rows.length) :
    ∃ heldRows, p.refill target =
        (.ok (), ⟨c, w, tally, some t.rows.length, heldRows, p.position⟩) ∧
      Shows (⟨c, w, tally, some t.rows.length, heldRows, p.position⟩ : Pager σ) t ∧
      (target < t.rows.length →
        holds (⟨c, w, tally, some t.rows.length, heldRows, p.position⟩ : Pager σ) target = true) := by
  obtain ⟨heldRows, hrefill⟩ := refill_ok h
  obtain ⟨stop, hstop, hcarries, -, hcounted⟩ := hcomplete.held
  have hcounts : p.total.getD report.countedRows = t.rows.length := by
    cases ht : p.total with
    | none =>
      rw [fillRequest, ht] at hcounted
      exact hcounted
    | some total => exact htotal total ht
  rw [hcounts] at hrefill
  refine ⟨heldRows, hrefill, .inr ⟨stop, hstop, hstart ▸ hcarries⟩, fun hlt => ?_⟩
  exact holds_iff.mpr ⟨hstart ▸ hcomplete.le_required, hstart ▸ hcomplete.holds_required hlt⟩

theorem of_count_error {e : Error} (h : p.count.1 = .error e) :
    p.total = none ∧ (p.refill 0).1 = .error e := by
  rw [count] at h
  cases ht : p.total with
  | some total => rw [ht] at h; cases h
  | none =>
    rw [ht] at h
    refine ⟨rfl, ?_⟩
    cases hr : p.refill 0 with
    | mk result p' =>
    rw [hr] at h
    cases result with
    | error cause => cases h; rfl
    | ok _ => cases h

theorem count_state (p : Pager σ) : p.count.2 = p ∨ p.count.2 = (p.refill 0).2 := by
  rw [count]
  cases p.total with
  | some total => exact .inl rfl
  | none =>
    right
    cases p.refill 0 with
    | mk result p' => cases result <;> rfl

theorem of_moveTo_error {target : Nat} {e : Error} (h : (p.moveTo target).1 = .error e) :
    p.count.1 = .error e ∨ (p.count.2.refill target).1 = .error e := by
  rw [moveTo] at h
  cases hc : p.count with
  | mk result p' =>
  rw [hc] at h
  cases result with
  | error cause => cases h; exact .inl rfl
  | ok total =>
    right
    simp only at h
    split at h
    · cases h
    split at h
    · cases h
    cases hr : p'.refill target with
    | mk result p'' =>
    rw [hr] at h
    cases result with
    | error cause => cases h; rfl
    | ok _ => cases h

end Pager

end RowPager
