import RowPager.Proofs.Alike
import RowPager.Proofs.Recovery

/-!
Pagers over the parts of another one. A pager leaves nothing in its cursor or its window by which a
new pager over them could be told from one over a new cursor and a new window, whatever became of
its fills.
-/

set_option autoImplicit false

namespace RowPager

namespace TableCursor

/-- The same state of the same table. How many steps and resets led to it is left open. -/
def Twins (c c' : TableCursor) : Prop :=
  ∃ steps resets, c' = { c with steps := steps, resets := resets }

variable {c c' : TableCursor}

theorem Twins.advance (h : c.Twins c') :
    c.advance.1 = c'.advance.1 ∧ c.advance.2.Twins c'.advance.2 := by
  obtain ⟨steps, resets, rfl⟩ := h
  have hnext : next { c with steps := steps, resets := resets } = c.next := rfl
  have hfailure : failureAt { c with steps := steps, resets := resets } = c.failureAt := rfl
  rw [TableCursor.advance, TableCursor.advance, hnext, hfailure]
  split
  · exact ⟨rfl, steps, resets, rfl⟩
  split
  · exact ⟨rfl, steps, resets, rfl⟩
  split
  · exact ⟨rfl, steps, resets, rfl⟩
  split
  · exact ⟨rfl, steps, resets, rfl⟩
  · exact ⟨rfl, steps, resets, rfl⟩

theorem twins_bisimilar : Cursor.Bisimilar Twins where
  columnCount := by
    rintro c _ ⟨steps, resets, rfl⟩
    rfl
  cell := by
    rintro c _ ⟨steps, resets, rfl⟩
    rfl
  step := by
    rintro c _ ⟨steps, resets, rfl⟩
    exact Twins.advance ⟨steps + 1, resets, rfl⟩
  reset := by
    rintro c _ ⟨steps, resets, rfl⟩
    exact ⟨rfl, steps, resets + 1, rfl⟩

theorem Fresh.twins (h : c.Fresh) (h' : c'.Fresh) (hcolumns : c'.columns = c.columns)
    (hrows : c'.rows = c.rows) : c.Twins c' := by
  refine ⟨c'.steps, c'.resets, ?_⟩
  cases c'
  cases hcolumns
  cases hrows
  cases h'.position
  cases h'.done
  cases h'.canceled
  cases h'.failAt
  cases h'.resetFailure
  rw [h.position, h.done, h.canceled, h.failAt, h.resetFailure]

theorem exists_ofRows (hwidth : ∀ row ∈ c.rows, row.size = c.columns) :
    ∃ fresh, ofRows c.columns c.rows = .ok fresh := by
  have hall : c.rows.all (·.size = c.columns) = true :=
    Array.all_eq_true_iff_forall_mem.mpr fun row hrow => decide_eq_true (hwidth row hrow)
  exact ⟨_, if_pos hall⟩

end TableCursor

namespace Pager

variable {σ σ' : Type} {R : σ → σ' → Prop}

/-- Pagers that have done the same since they were made. Their windows may still hold different
things while nothing was asked of them. -/
structure Beside (R : σ → σ' → Prop) (p : Pager σ) (q : Pager σ') : Prop where
  cursor : R p.cursor q.cursor
  room : p.window.SameRoom q.window
  tally : p.tally = q.tally
  total : p.total = q.total
  heldRows : p.heldRows = q.heldRows
  position : p.position = q.position
  filled : (p.total = none ∧ p.position = none) ∨ p.window.Alike q.window

inductive Paired {α : Type} (R : σ → σ' → Prop) :
    Except Error α × Pager σ → Except Error α × Pager σ' → Prop where
  | mk {p : Pager σ} {q : Pager σ'} (answer : Except Error α) (h : Beside R p q)
      (halike : p.window.Alike q.window) : Paired R (answer, p) (answer, q)

variable {p : Pager σ} {q : Pager σ'}

theorem holds_of_alike (halike : p.window.Alike q.window) (row : Nat) :
    q.holds row = p.holds row := by
  rw [holds, holds, halike.startPosition_eq, halike.rows_eq]

namespace Beside

theorem moved (h : Beside R p q) (halike : p.window.Alike q.window) (position : Option Nat) :
    Beside R { p with position := position } { q with position := position } :=
  ⟨h.cursor, h.room, h.tally, h.total, h.heldRows, rfl, .inr halike⟩

theorem unplaced (h : Beside R p q) :
    Beside R { p with position := none } { q with position := none } := by
  refine ⟨h.cursor, h.room, h.tally, h.total, h.heldRows, rfl, ?_⟩
  obtain ⟨htotal, -⟩ | halike := h.filled
  · exact .inl ⟨htotal, rfl⟩
  · exact .inr halike

theorem get_eq (h : Beside R p q) (column : Nat) (getter : Getter) :
    p.get column getter = q.get column getter := by
  rw [Pager.get_eq, Pager.get_eq, windowRow, windowRow, ← h.position]
  obtain ⟨-, hposition⟩ | halike := h.filled
  · rw [hposition]
    rfl
  · have hholds : q.holds = p.holds := funext (holds_of_alike halike)
    have hget : (fun row => p.window.get row column getter) =
        fun row => q.window.get row column getter := by
      funext row
      exact halike.get_eq row column getter
    rw [hholds, hget, halike.startPosition_eq]

variable [Cursor σ] [Cursor σ'] (hR : Cursor.Bisimilar R)

include hR

theorem refill (h : Beside R p q) (target : Nat) :
    Paired R (p.refill target) (q.refill target) := by
  have hrequest : q.fillRequest target = p.fillRequest target := by
    rw [fillRequest, fillRequest, h.total, h.heldRows]
  have hrun := Fill.run_sameRun p.tally hR h.cursor h.room (p.fillRequest_range target)
  rw [refill_eq, refill_eq, hrequest, ← h.tally]
  generalize Fill.run (p.fillRequest target) p.cursor p.window p.tally = r at hrun ⊢
  generalize Fill.run (p.fillRequest target) q.cursor q.window p.tally = r' at hrun ⊢
  cases hrun with
  | mk outcome tally hc halike =>
  cases outcome with
  | error e =>
    exact .mk _ ⟨hc, halike.sameRoom, rfl, h.total, h.heldRows, h.position, .inr halike⟩ halike
  | ok report =>
    simp only [← h.total, ← h.heldRows, ← halike.rows_eq]
    exact .mk _ ⟨hc, halike.sameRoom, rfl, rfl, rfl, h.position, .inr halike⟩ halike

theorem count (h : Beside R p q) : Paired R p.count q.count := by
  rw [Pager.count, Pager.count, ← h.total]
  cases htotal : p.total with
  | some total =>
    obtain ⟨hnone, -⟩ | halike := h.filled
    · cases htotal.symm.trans hnone
    · exact .mk _ h halike
  | none =>
    have hrefill := h.refill hR 0
    generalize p.refill 0 = r at hrefill ⊢
    generalize q.refill 0 = r' at hrefill ⊢
    cases hrefill with
    | mk answer hbeside halike =>
    cases answer with
    | error e => exact .mk _ hbeside halike
    | ok _ =>
      simp only [hbeside.total]
      exact .mk _ hbeside halike

theorem moveTo (h : Beside R p q) (target : Nat) :
    Paired R (p.moveTo target) (q.moveTo target) := by
  have hcount := h.count hR
  rw [Pager.moveTo, Pager.moveTo]
  generalize p.count = r at hcount ⊢
  generalize q.count = r' at hcount ⊢
  cases hcount with
  | @mk p q answer h halike =>
  cases answer with
  | error e => exact .mk _ h halike
  | ok total =>
    simp only [holds_of_alike halike target]
    split
    · exact .mk _ (h.moved halike _) halike
    split
    · exact .mk _ (h.moved halike _) halike
    · have hrefill := h.refill hR target
      generalize p.refill target = r at hrefill ⊢
      generalize q.refill target = r' at hrefill ⊢
      cases hrefill with
      | mk answer h halike =>
      cases answer with
      | error e => exact .mk _ (h.moved halike _) halike
      | ok _ => exact .mk _ (h.moved halike _) halike

end Beside

theorem Paired.map {α β : Type} {r : Except Error α × Pager σ} {r' : Except Error α × Pager σ'}
    (h : Paired R r r') (f : α → β) : r.1.map f = r'.1.map f ∧ Beside R r.2 r'.2 := by
  cases h with
  | mk answer h halike => exact ⟨rfl, h⟩

theorem beside_ofParts {c : σ} {c' : σ'} {v w : Window} (hc : R c c') (hroom : v.SameRoom w) :
    Beside R (ofParts c v) (ofParts c' w) :=
  ⟨hc, hroom, rfl, rfl, rfl, rfl, .inl ⟨rfl, rfl⟩⟩

section Trace

variable [Cursor σ] [Cursor σ'] (hR : Cursor.Bisimilar R)

def trace (p : Pager σ) : List Call → List (Except Error Reply × Option Nat × Tally)
  | [] => []
  | call :: calls =>
    ((p.call call).1, (p.call call).2.position, (p.call call).2.tally) :: (p.call call).2.trace calls

include hR

theorem Beside.call (h : Beside R p q) (call : Call) :
    (p.call call).1 = (q.call call).1 ∧ Beside R (p.call call).2 (q.call call).2 := by
  cases call with
  | count => exact (h.count hR).map _
  | moveTo target => exact (h.moveTo hR target).map _
  | first => exact (h.moveTo hR 0).map _
  | next =>
    rw [Pager.call, Pager.call, Pager.next, Pager.next, ← h.position]
    cases p.position with
    | none => exact (h.moveTo hR 0).map _
    | some position => exact (h.moveTo hR (position + 1)).map _
  | previous =>
    rw [Pager.call, Pager.call, Pager.previous, Pager.previous, ← h.position]
    cases p.position with
    | none => exact ⟨rfl, h.unplaced⟩
    | some position =>
      cases position with
      | zero => exact ⟨rfl, h.unplaced⟩
      | succ before => exact (h.moveTo hR before).map _
  | get getter column =>
    rw [Pager.call, Pager.call, h.get_eq column getter]
    exact ⟨rfl, h⟩

theorem Beside.trace_eq (h : Beside R p q) (calls : List Call) : p.trace calls = q.trace calls := by
  induction calls generalizing p q with
  | nil => rfl
  | cons call calls ih =>
    obtain ⟨hreply, hbeside⟩ := h.call hR call
    rw [trace, trace, hreply, hbeside.position, hbeside.tally, ih hbeside]

end Trace

/-- However a pager was used over a table, and whenever the table was canceled in between: once that
is lifted, the table is as before its first row, and a new pager over it and the old window does
whatever a pager does over a new table with these rows and a new window of this capacity. -/
theorem rewrapped_as_new {c : TableCursor} (hfresh : c.Fresh) {w : Window} (hreach : w.Reachable)
    (hw : w.readOnly = false) {events : List (Event Bool)} {p : Pager TableCursor}
    (hp : p = (ofParts c w).attendAll TableCursor.setCanceled events)
    (hlifted : p.cursor.canceled = false) (name : String) :
    p.cursor.Fresh ∧ p.cursor.SameTable c ∧
      ∃ c' v, TableCursor.ofRows c.columns c.rows = .ok c' ∧
        Window.create name w.capacity = .ok v ∧
        ∀ calls, (ofParts p.cursor p.window).trace calls = (ofParts c' v).trace calls := by
  have hreplays := TableCursor.replays hfresh.width hfresh.position hfresh.done
  obtain ⟨hguarded, -⟩ :=
    (ofParts_guarded c.lists c.columns hreach hw).attendAll hreplays events
  rw [← hp] at hguarded
  obtain ⟨hrewound, hsame⟩ := hfresh.rewound hguarded.cursor hlifted
  obtain ⟨c', hrows⟩ := TableCursor.exists_ofRows hfresh.width
  obtain ⟨hnew, hcolumns, hlist⟩ := TableCursor.ofRows_fresh hrows
  have htwins := hrewound.twins hnew (hcolumns.trans hsame.columns.symm)
    (hlist.trans hsame.rows.symm)
  obtain ⟨hmin, hmax⟩ := hreach.sized
  obtain ⟨v, hcreate, hv, hstores⟩ :=
    Window.create_stores name (show Layout.minCapacity ≤ w.capacity from hmin)
      (Nat.le_of_lt_succ hmax)
  have hroom : p.window.SameRoom v :=
    ⟨hguarded.writable, hv, hguarded.capacity.trans hstores.capacity.symm,
      Window.sized_create hcreate⟩
  exact ⟨hrewound, hsame, c', v, hrows, hcreate,
    (beside_ofParts htwins hroom).trace_eq TableCursor.twins_bisimilar⟩

/-- The cursor is canceled before the second move, which fails, and the cancellation is lifted after
it. -/
theorem rewrapped_as_new_canceled :
    ∃ (c c' : TableCursor) (w v : Window) (p : Pager TableCursor),
      TableCursor.ofRows 1 #[#[.integer 7], #[.text "row"]] = .ok c ∧
      Window.create "page" 440 = .ok w ∧
      p = (ofParts c w).attendAll TableCursor.setCanceled
        [.call (.moveTo 0), .signal true, .call (.moveTo 1), .signal false] ∧
      p.cursor.Fresh ∧ TableCursor.ofRows c.columns c.rows = .ok c' ∧
      Window.create "new" 440 = .ok v ∧
      ∀ calls, (ofParts p.cursor p.window).trace calls = (ofParts c' v).trace calls := by
  obtain ⟨c, w, hrows, hcreate, hw, hcapacity, hfresh, -⟩ := Fill.exists_table_and_window
  obtain ⟨hrewound, -, c', v, hnew, hcreated, htrace⟩ :=
    rewrapped_as_new hfresh (.create hcreate) hw
      (p := (ofParts c w).attendAll TableCursor.setCanceled
        [.call (.moveTo 0), .signal true, .call (.moveTo 1), .signal false]) rfl rfl "new"
  rw [hcapacity] at hcreated
  exact ⟨c, c', w, v, _, hrows, hcreate, rfl, hrewound, hnew, hcreated, htrace⟩

end Pager

end RowPager
