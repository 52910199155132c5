import RowPager.Proofs.Alike

/-!
Cleared windows. By no sequence of calls can a window that was cleared be told from a new one of
its capacity, although its buffer still has the bytes of its earlier rows.
-/

set_option autoImplicit false

namespace RowPager.Window

inductive Call : Type 1 where
  | operate (op : Operation)
  | get (row column : Nat) (getter : Getter)
  | fill {σ : Type} [Cursor σ] (request : Fill.Request) (c : σ) (tally : Tally)

inductive Reply : Type 1 where
  | operated (result : Except Error (Option Nat))
  | got (result : Except Error Answer)
  /-- With the state in which the cursor was left, and the tally. -/
  | filled {σ : Type} (result : Except Error Fill.Report) (c : σ) (tally : Tally)

structure Shown where
  capacity : Nat
  used : Nat
  rows : Nat
  columns : Nat
  startPosition : Nat
  cell : Nat → Nat → Getter → Except Error Answer

def shown (w : Window) : Shown :=
  ⟨w.capacity, w.used, w.rows, w.columns, w.startPosition, w.get⟩

def call (w : Window) : Call → Reply × Window
  | .operate op => (.operated (w.apply op).1, (w.apply op).2)
  | .get row column getter => (.got (w.get row column getter), w)
  | @Call.fill _ _ request c tally =>
    match Fill.run request c w tally with
    | (result, c, w, tally) => (.filled result c tally, w)

def trace (w : Window) : List Call → List (Reply × Shown)
  | [] => []
  | call :: calls => ((w.call call).1, (w.call call).2.shown) :: (w.call call).2.trace calls

structure Indistinguishable (v w : Window) : Prop where
  shown : v.shown = w.shown
  trace : ∀ calls : List Call, v.trace calls = w.trace calls

variable {v w : Window}

theorem Alike.shown_eq (h : v.Alike w) : v.shown = w.shown := by
  have hget : v.get = w.get := by
    funext row column getter
    exact h.get_eq row column getter
  rw [shown, shown, h.capacity_eq, h.used_eq, h.rows_eq, h.columns_eq, h.startPosition_eq, hget]

theorem SameRoom.fill_inStep (h : v.SameRoom w) {σ : Type} [Cursor σ] {request : Fill.Request}
    (hrange : request.start ≤ request.required) (c : σ) (tally : Tally) :
    InStep (v.call (.fill request c tally)) (w.call (.fill request c tally)) := by
  have hrun := Fill.run_sameRun tally Cursor.Bisimilar.refl (rfl : c = c) h hrange
  rw [call, call]
  generalize Fill.run request c v tally = r at hrun ⊢
  generalize Fill.run request c w tally = r' at hrun ⊢
  cases hrun with
  | mk outcome tally hc halike =>
    cases hc
    exact .mk _ halike

theorem call_fill_invalid {σ : Type} [Cursor σ] {request : Fill.Request}
    (hrange : request.required < request.start) (c : σ) (tally : Tally) (w : Window) :
    w.call (.fill request c tally) =
      (.filled (.error (.invalidFillRange request.start request.required)) c tally, w) := by
  rw [call, Fill.run, if_pos hrange]

theorem Alike.call (h : v.Alike w) (call : Call) : InStep (v.call call) (w.call call) := by
  cases call with
  | operate op =>
    have happly := h.apply op
    rw [Window.call, Window.call]
    generalize v.apply op = r at happly ⊢
    generalize w.apply op = r' at happly ⊢
    cases happly with
    | mk reply halike => exact .mk _ halike
  | get row column getter =>
    rw [Window.call, Window.call, h.get_eq row column getter]
    exact .mk _ h
  | fill request c tally =>
    by_cases hrange : request.start ≤ request.required
    · exact h.sameRoom.fill_inStep hrange c tally
    · have hrange := Nat.lt_of_not_le hrange
      rw [call_fill_invalid hrange, call_fill_invalid hrange]
      exact .mk _ h

theorem Alike.trace_eq (h : v.Alike w) (calls : List Call) : v.trace calls = w.trace calls := by
  induction calls generalizing v w with
  | nil => rfl
  | cons call calls ih =>
    have hcall := h.call call
    rw [trace, trace]
    generalize v.call call = r at hcall ⊢
    generalize w.call call = r' at hcall ⊢
    cases hcall with
    | mk reply halike => rw [halike.shown_eq, ih halike]

theorem Alike.indistinguishable (h : v.Alike w) : v.Indistinguishable w :=
  ⟨h.shown_eq, h.trace_eq⟩

/-- A window that was cleared shows the same and replies the same as a new one of its capacity,
whatever is called on both. Not even the clearing is needed for a fill, which begins with it: its
reply does not depend on what the window held. -/
theorem Reachable.clear_indistinguishable (h : w.Reachable) (hw : w.readOnly = false)
    (name : String) :
    ∃ fresh, Window.create name w.capacity = .ok fresh ∧ w.clear.1 = .ok () ∧
      w.clear.2.Indistinguishable fresh ∧
      ∀ {σ : Type} [Cursor σ] (request : Fill.Request) (c : σ) (tally : Tally),
        (w.call (.fill request c tally)).1 = (fresh.call (.fill request c tally)).1 ∧
          (request.start ≤ request.required →
            (w.call (.fill request c tally)).2.Indistinguishable
              (fresh.call (.fill request c tally)).2) := by
  obtain ⟨hmin, hmax⟩ := h.sized
  obtain ⟨fresh, hcreate, hfresh, hstores⟩ :=
    create_stores name (show Layout.minCapacity ≤ w.capacity from hmin) (Nat.le_of_lt_succ hmax)
  obtain ⟨hanswer, hcleared⟩ := Stores.clear hw hmin hmax
  have halike : w.clear.2.Alike fresh :=
    ⟨w.clear_sameFrame.readOnly.trans hw, hfresh, _, hcleared, hstores⟩
  have hroom : w.SameRoom fresh := ⟨hw, hfresh, hstores.capacity.symm, sized_create hcreate⟩
  refine ⟨fresh, hcreate, hanswer, halike.indistinguishable, fun {σ} _ request c tally => ?_⟩
  by_cases hrange : request.start ≤ request.required
  · have hfill := hroom.fill_inStep hrange c tally
    generalize w.call (.fill request c tally) = r at hfill ⊢
    generalize fresh.call (.fill request c tally) = r' at hfill ⊢
    cases hfill with
    | mk reply halike => exact ⟨rfl, fun _ => halike.indistinguishable⟩
  · have hlt := Nat.lt_of_not_le hrange
    rw [call_fill_invalid hlt, call_fill_invalid hlt]
    exact ⟨rfl, fun h => absurd h hrange⟩

theorem clear_indistinguishable_text :
    ∃ w fresh : Window, w.Reachable ∧ w.readOnly = false ∧
      w.get 0 0 .text = .ok (.value (.text "row")) ∧ Window.create "new" 440 = .ok fresh ∧
      w.clear.1 = .ok () ∧ w.clear.2.Indistinguishable fresh := by
  obtain ⟨w, hreach, hw, -, hcapacity, htext⟩ := exists_text_window
  obtain ⟨fresh, hcreate, hclear, hsame, -⟩ := Reachable.clear_indistinguishable hreach hw "new"
  rw [hcapacity] at hcreate
  exact ⟨w, fresh, hreach, hw, htext, hcreate, hclear, hsame⟩

end RowPager.Window
