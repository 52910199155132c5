import Mathlib.Data.List.Infix
import Mathlib.Data.Nat.Find
import Mathlib.Order.Bounds.Basic
import RowPager.Proofs.FillBlock
import RowPager.Proofs.Indexing

/-!
The blocks that a table divides into when each takes as many rows as a window can hold, up to the
block with a required row. Rows that do not fit alone are left out.
-/

set_option autoImplicit false

namespace RowPager

namespace Indexed

variable (t : Indexed)

def blockSize (start stop : Nat) : Nat := Layout.usedBy t.columns (Fill.block t.rows start stop)

/-- How far the rows from a position on go into a window together. No rows always do. -/
def reach (start : Nat) : Nat :=
  Nat.findGreatest (fun stop => stop ≤ start ∨ t.blockSize start stop ≤ t.capacity) t.rows.length

variable {t} {start stop : Nat}

theorem blockSize_empty (h : stop ≤ start) : t.blockSize start stop = Layout.minCapacity := by
  rw [blockSize, Fill.block_eq_nil h]
  rfl

theorem blockSize_mono {later : Nat} (h : stop ≤ later) :
    t.blockSize start stop ≤ t.blockSize start later :=
  Layout.usedBy_mono t.columns ((List.take_prefix_take_left h).drop start)

theorem blockSize_singleton {row : List Value} (hrow : t.rows[start]? = some row) :
    t.blockSize start (start + 1) = Layout.loneSize t.columns row := by
  rw [blockSize, Fill.block_succ (Nat.le_refl _) hrow, Fill.block_eq_nil (Nat.le_refl _)]
  exact Layout.usedBy_singleton t.columns row

theorem reach_le : t.reach start ≤ t.rows.length := Nat.findGreatest_le _

theorem le_reach (h : start ≤ t.rows.length) : start ≤ t.reach start :=
  Nat.le_findGreatest h (.inl (Nat.le_refl _))

theorem isGreatest_reach (hcapacity : Layout.minCapacity ≤ t.capacity)
    (h : start ≤ t.rows.length) :
    IsGreatest {stop | stop ≤ t.rows.length ∧ t.blockSize start stop ≤ t.capacity}
      (t.reach start) := by
  refine ⟨⟨reach_le, ?_⟩, fun stop hstop => Nat.le_findGreatest hstop.1 (.inr hstop.2)⟩
  obtain hempty | hfits := Nat.findGreatest_spec (P := fun stop =>
    stop ≤ start ∨ t.blockSize start stop ≤ t.capacity) h (.inl (Nat.le_refl start))
  · exact (blockSize_empty hempty).symm ▸ hcapacity
  · exact hfits

theorem capacity_of_fits (hfits : t.blockSize start stop ≤ t.capacity) :
    Layout.minCapacity ≤ t.capacity :=
  Nat.le_trans (Layout.le_usedFrom ..) hfits

theorem reach_eq (hle : start ≤ stop) (hlt : stop < t.rows.length)
    (hfits : t.blockSize start stop ≤ t.capacity)
    (hover : t.capacity < t.blockSize start (stop + 1)) : t.reach start = stop := by
  have hgreatest := isGreatest_reach (capacity_of_fits hfits)
    (Nat.le_trans hle (Nat.le_of_lt hlt))
  refine hgreatest.unique ⟨⟨Nat.le_of_lt hlt, hfits⟩, fun later ⟨_, hroom⟩ => ?_⟩
  apply Nat.le_of_not_lt
  intro hlater
  have hmono : t.blockSize start (stop + 1) ≤ t.blockSize start later := blockSize_mono hlater
  omega

theorem reach_eq_length (hle : start ≤ t.rows.length)
    (hfits : t.blockSize start t.rows.length ≤ t.capacity) : t.reach start = t.rows.length :=
  (isGreatest_reach (capacity_of_fits hfits) hle).unique
    ⟨⟨Nat.le_refl _, hfits⟩, fun _ hstop => hstop.1⟩

theorem lt_reach_of_fits (hlt : start < t.rows.length) (hfits : t.fits start = true) :
    start < t.reach start := by
  have hrow := List.getElem?_eq_getElem hlt
  simp only [fits, hrow, decide_eq_true_eq] at hfits
  rw [← blockSize_singleton hrow] at hfits
  exact Nat.le_findGreatest hlt (.inr hfits)

/-- The block with the required row, or the required row if it does not fit alone. A block that
ends before that row is followed by the one that begins with the row that it had no room for, or
with the next if that row is too large for any. -/
def division (t : Indexed) (required start : Nat) : Except Nat (Nat × Nat) :=
  if hend : t.rows.length ≤ start then .ok (start, start)
  else if t.reach start = t.rows.length ∨ required < t.reach start then .ok (start, t.reach start)
  else if hfits : t.fits (t.reach start) = true then t.division required (t.reach start)
  else if t.reach start = required then .error required
  else t.division required (t.reach start + 1)
termination_by t.rows.length - start
decreasing_by
  · have hlt := Nat.lt_of_not_le hend
    have hle := le_reach (Nat.le_of_lt hlt)
    have hne : t.reach start ≠ start := by
      intro heq
      rw [heq] at hfits
      exact Nat.ne_of_gt (lt_reach_of_fits hlt hfits) heq
    omega
  · have hle := le_reach (Nat.le_of_lt (Nat.lt_of_not_le hend))
    omega

section Division

variable {required : Nat}

theorem division_of_length_le (h : t.rows.length ≤ start) :
    t.division required start = .ok (start, start) := by
  rw [division, dif_pos h]

theorem division_of_reach (h : start < t.rows.length)
    (hlast : t.reach start = t.rows.length ∨ required < t.reach start) :
    t.division required start = .ok (start, t.reach start) := by
  rw [division, dif_neg (Nat.not_le.mpr h), if_pos hlast]

theorem division_of_overflow (h : start < t.rows.length)
    (hreach : t.reach start < t.rows.length) (hearly : t.reach start ≤ required) :
    t.division required start =
      if t.fits (t.reach start) then t.division required (t.reach start)
      else if t.reach start = required then .error required
      else t.division required (t.reach start + 1) := by
  rw [division, dif_neg (Nat.not_le.mpr h), if_neg (by omega)]
  split <;> rfl

end Division

end Indexed

end RowPager
