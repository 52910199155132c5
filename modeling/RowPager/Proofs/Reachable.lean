import RowPager.Proofs.Carried
import RowPager.Proofs.FillLoop
import RowPager.Proofs.Framing

/-!
The windows that there can be.
-/

set_option autoImplicit false

namespace RowPager.Window

inductive Reachable : Window → Prop where
  | create {name : String} {capacity : Nat} {w : Window} (h : create name capacity = .ok w) :
      Reachable w
  | opened {name : String} {parcel : ByteArray} {w : Window} (h : ofParcel name parcel = .ok w) :
      Reachable w
  | apply {w : Window} (h : Reachable w) (op : Operation) : Reachable (w.apply op).2
  | filled {σ : Type} [Cursor σ] {w : Window} (h : Reachable w) (request : Fill.Request) (c : σ)
      (tally : Tally) : Reachable (Fill.run request c w tally).2.2.1

structure Sized (w : Window) : Prop where
  minimum : 420 ≤ w.capacity
  limit : w.capacity < 2 ^ 32

theorem Sized.of_sameFrame {v w : Window} (h : w.Sized) (hframe : SameFrame v w) : v.Sized :=
  ⟨hframe.capacity ▸ h.minimum, hframe.capacity ▸ h.limit⟩

theorem sized_create {name : String} {capacity : Nat} {w : Window}
    (h : create name capacity = .ok w) : w.Sized := by
  obtain ⟨-, hstores⟩ := of_create h
  have hmin := Nat.le_trans hstores.sound.minimum hstores.sound.fits
  have hlimit := hstores.sound.limit
  rw [← hstores.capacity] at hmin hlimit
  exact ⟨hmin, hlimit⟩

theorem IsOpened.sized {name : String} {w : Window} (h : w.IsOpened name) : w.Sized :=
  ⟨h.minimum, h.limit⟩

theorem Reachable.sized {w : Window} (h : w.Reachable) : w.Sized := by
  induction h with
  | create h => exact sized_create h
  | opened h => exact (ofParcel_eq_ok_iff.mp h).1.sized
  | apply _ op ih => exact ih.of_sameFrame (apply_sameFrame _ op)
  | filled _ request c tally ih => exact ih.of_sameFrame (Fill.run_sameFrame request c _ tally)

theorem Stores.comesFrom {v w : Window} {s : Sheet} (h : w.Stores s) (hw : w.readOnly = false)
    (hv : ComesFrom v w) : ∃ t, v.Stores t := by
  obtain ⟨ops, rfl⟩ := hv
  exact ⟨_, h.after hw ops⟩

/-- A window that can be written was created, and then changed by operations. -/
theorem Reachable.created {w : Window} (h : w.Reachable) (hw : w.readOnly = false) :
    ∃ name capacity v, Window.create name capacity = .ok v ∧ ComesFrom w v := by
  induction h with
  | create h => exact ⟨_, _, _, h, .refl _⟩
  | opened h => cases (ofParcel_eq_ok_iff.mp h).1.readOnly.symm.trans hw
  | @apply w h op ih =>
    obtain ⟨name, capacity, v, hcreate, hfrom⟩ := ih ((w.apply_sameFrame op).readOnly.symm.trans hw)
    exact ⟨name, capacity, v, hcreate, (ComesFrom.apply w op).trans hfrom⟩
  | @filled σ _ w h request c tally ih =>
    obtain ⟨name, capacity, v, hcreate, hfrom⟩ :=
      ih ((Fill.run_sameFrame request c w tally).readOnly.symm.trans hw)
    refine ⟨name, capacity, v, hcreate, ?_⟩
    by_cases hrange : request.start ≤ request.required
    · have hrun := Fill.run_comesFrom request c w tally hrange
      exact (hrun.trans (.apply w .clear)).trans hfrom
    · rw [Fill.run, if_pos (Nat.lt_of_not_le hrange)]
      exact hfrom

/-- A window that can be written stores a sheet. One that was opened cannot. -/
theorem Reachable.stores {w : Window} (h : w.Reachable) (hw : w.readOnly = false) :
    ∃ s, w.Stores s := by
  obtain ⟨name, capacity, v, hcreate, hfrom⟩ := h.created hw
  obtain ⟨hv, hstores⟩ := of_create hcreate
  exact hstores.comesFrom hv hfrom

theorem Reachable.after {w : Window} (h : w.Reachable) (ops : List Operation) :
    (w.after ops).Reachable := by
  induction ops generalizing w with
  | nil => exact h
  | cons op ops ih => exact ih (h.apply op)

theorem exists_stores_after {capacity : Nat} (hmin : Layout.minCapacity ≤ capacity)
    (hmax : capacity ≤ Layout.maxCapacity) (ops : List Operation) :
    ∃ w : Window, w.Reachable ∧ w.readOnly = false ∧
      w.Stores ((Sheet.blank capacity).after ops) := by
  obtain ⟨v, hcreate, hv, hstores⟩ := create_stores "page" hmin hmax
  exact ⟨v.after ops, (Reachable.create hcreate).after ops,
    (v.after_sameFrame ops).readOnly.trans hv, hstores.after hv ops⟩

theorem exists_text_window :
    ∃ w : Window, w.Reachable ∧ w.readOnly = false ∧ w.startPosition = 0 ∧ w.capacity = 440 ∧
      w.get 0 0 .text = .ok (.value (.text "row")) := by
  obtain ⟨w, hreach, hw, hstores⟩ :=
    exists_stores_after (show Layout.minCapacity ≤ 440 by decide) (by decide)
      [.setColumns 1, .pushRow, .set 0 0 (.text "row")]
  exact ⟨w, hreach, hw, hstores.start, hstores.capacity,
    hstores.get_eq (show _[0]? = some _ from rfl) (show 0 < _ by decide) .text⟩

end RowPager.Window
