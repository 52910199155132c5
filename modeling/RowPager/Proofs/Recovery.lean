import RowPager.Proofs.FillFailure
import RowPager.Proofs.Refill
import RowPager.Proofs.Replay

/-!
Scrolling over a cursor that can fail at any time. A fill that fails leaves the window empty and the
pager without a position, so that rows of an unfinished pass are never shown, and the pager goes on
as before when the cursor does.
-/

set_option autoImplicit false

namespace RowPager

open Cursor (Place Replays Calm)

variable {σ κ : Type} [Cursor σ] {signal : κ → σ → σ} {origin : σ}

namespace Pager

inductive Event (κ : Type) where
  | call (call : Call)
  | signal (x : κ)

def attend (signal : κ → σ → σ) (p : Pager σ) : Event κ → Pager σ
  | .call call => (p.call call).2
  | .signal x => { p with cursor := signal x p.cursor }

def attendAll (signal : κ → σ → σ) (p : Pager σ) (events : List (Event κ)) : Pager σ :=
  events.foldl (attend signal) p

structure Attached (signal : κ → σ → σ) (origin : σ) (t : Indexed) (p : Pager σ) : Prop where
  cursor : Place signal origin (some 0) p.cursor
  writable : p.window.readOnly = false
  sized : p.window.Sized
  capacity : p.window.capacity = t.capacity

/-- There is a position only when the rows are counted, and then the window has the current row. -/
structure Guarded (signal : κ → σ → σ) (origin : σ) (t : Indexed) (p : Pager σ) : Prop
    extends p.Attached signal origin t where
  counted : (p.total = none ∧ p.position = none) ∨
    (p.total = some t.rows.length ∧ p.Shows t ∧
      ∀ row, p.position = some row → row = t.rows.length ∨ p.holds row = true)

variable {t : Indexed} {p : Pager σ}

theorem Attached.moved (h : p.Attached signal origin t) (position : Option Nat) :
    ({ p with position := position } : Pager σ).Attached signal origin t :=
  ⟨h.cursor, h.writable, h.sized, h.capacity⟩

theorem Attached.guarded_at (h : p.Attached signal origin t) (htotal : p.total = some t.rows.length)
    (hshows : p.Shows t) {row : Nat} (hrow : row = t.rows.length ∨ p.holds row = true) :
    ({ p with position := some row } : Pager σ).Guarded signal origin t := by
  refine ⟨h.moved _, .inr ⟨htotal, hshows, fun row' heq => ?_⟩⟩
  cases heq
  exact hrow

theorem Attached.refill (h : p.Attached signal origin t)
    (hreplays : Replays signal t.columns t.rows origin)
    (htotal : ∀ total, p.total = some total → total = t.rows.length) (target : Nat) :
    (∃ p', p.refill target = (.ok (), p') ∧ p'.Attached signal origin t ∧
        p'.position = p.position ∧ p'.total = some t.rows.length ∧ p'.Shows t ∧
        (target < t.rows.length → p'.holds target = true)) ∨
      ∃ e p', p.refill target = (.error e, p') ∧ p'.Attached signal origin t ∧
        p'.position = p.position ∧ p'.total = p.total ∧ p'.window.rows = 0 := by
  have hrange := p.fillRequest_range target
  have hframe := Fill.run_sameFrame (p.fillRequest target) p.cursor p.window p.tally
  have hplace := Fill.run_place hrange h.cursor p.window p.tally
  cases hrun : Fill.run (p.fillRequest target) p.cursor p.window p.tally with
  | mk result rest =>
  obtain ⟨c, w, tally⟩ := rest
  rw [hrun] at hframe hplace
  have hattached : ∀ {total heldRows position},
      (⟨c, w, tally, total, heldRows, position⟩ : Pager σ).Attached signal origin t := fun {_ _ _} =>
    ⟨hplace, hframe.readOnly.trans h.writable, h.sized.of_sameFrame hframe,
      hframe.capacity.trans h.capacity⟩
  cases result with
  | error e =>
    have hdiscarded := Fill.run_discarded hrange h.writable (congrArg Prod.fst hrun)
    rw [hrun] at hdiscarded
    exact .inr ⟨e, _, refill_error hrun, hattached, rfl, rfl, hdiscarded.rows⟩
  | ok report =>
    obtain ⟨hcomplete, hstart⟩ := Fill.run_complete hreplays h.cursor h.sized hrun
    obtain ⟨heldRows, hrefill, hshows, hheld⟩ := refill_of_complete hrun hcomplete hstart htotal
    exact .inl ⟨_, hrefill, hattached, rfl, rfl, hshows, hheld⟩

structure Outcome {α : Type} (signal : κ → σ → σ) (origin : σ) (t : Indexed) (p : Pager σ)
    (result : Except Error α × Pager σ) : Prop where
  guarded : result.2.Guarded signal origin t
  total : ∀ n, p.total = some n → result.2.total = some n
  failed : ∀ e, result.1 = .error e → result.2.position = none ∧ result.2.window.rows = 0

theorem Outcome.map {α β : Type} {result : Except Error α × Pager σ}
    (h : Outcome signal origin t p result) (f : α → β) :
    Outcome signal origin t p (result.1.map f, result.2) := by
  refine ⟨h.guarded, h.total, fun e he => ?_⟩
  cases hr : result.1 with
  | ok a => rw [hr] at he; cases he
  | error cause => exact h.failed cause hr

namespace Guarded

theorem total_eq (h : p.Guarded signal origin t) {total : Nat} (ht : p.total = some total) :
    total = t.rows.length := by
  obtain ⟨hnone, -⟩ | ⟨hsome, -⟩ := h.counted
  · cases ht.symm.trans hnone
  · cases ht.symm.trans hsome
    rfl

theorem count (h : p.Guarded signal origin t) (hreplays : Replays signal t.columns t.rows origin) :
    (∃ p', p.count = (.ok t.rows.length, p') ∧ p'.Guarded signal origin t ∧
        p'.total = some t.rows.length ∧ p'.Shows t ∧ p'.position = p.position) ∨
      ∃ e p', p.count = (.error e, p') ∧ p'.Guarded signal origin t ∧ p.total = none ∧
        p'.position = none ∧ p'.window.rows = 0 := by
  rw [Pager.count]
  obtain ⟨htotal, hposition⟩ | ⟨htotal, hshows, hheld⟩ := h.counted
  · rw [htotal]
    obtain ⟨p', hrefill, hattached, hkept, hcount, hshows, -⟩ |
        ⟨e, p', hrefill, hattached, hkept, hcount, hrows⟩ :=
      h.toAttached.refill hreplays (fun _ => h.total_eq) 0
    · refine .inl ⟨p', ?_, ⟨hattached, .inr ⟨hcount, hshows, fun row hrow => ?_⟩⟩, hcount, hshows,
        hkept⟩
      · simp only [hrefill, hcount]
        rfl
      · cases (hkept.trans hposition).symm.trans hrow
    · have hnone := hkept.trans hposition
      refine .inr ⟨e, p', ?_, ⟨hattached, .inl ⟨hcount.trans htotal, hnone⟩⟩, rfl, hnone, hrows⟩
      simp only [hrefill]
  · rw [htotal]
    exact .inl ⟨p, rfl, h, htotal, hshows, rfl⟩

theorem moveTo (h : p.Guarded signal origin t) (hreplays : Replays signal t.columns t.rows origin)
    (target : Nat) :
    (∃ p', p.moveTo target = (.ok (decide (target < t.rows.length)), p') ∧
        p'.Guarded signal origin t ∧ p'.total = some t.rows.length ∧
        p'.position = some (min target t.rows.length)) ∨
      ∃ e p', p.moveTo target = (.error e, p') ∧ p'.Guarded signal origin t ∧
        (p.total ≠ none → p'.total = some t.rows.length) ∧ p'.position = none ∧
        p'.window.rows = 0 := by
  rw [Pager.moveTo]
  obtain ⟨p', hcount, hguarded, htotal, hshows, -⟩ |
      ⟨e, p', hcount, hguarded, hnone, hposition, hrows⟩ := h.count hreplays
  · rw [hcount]
    by_cases hend : t.rows.length ≤ target
    · rw [decide_eq_false (Nat.not_lt.mpr hend), Nat.min_eq_right hend]
      simp only [if_pos hend]
      exact .inl ⟨_, rfl, hguarded.toAttached.guarded_at htotal hshows (.inl rfl), htotal, rfl⟩
    have hlt := Nat.lt_of_not_le hend
    rw [decide_eq_true hlt, Nat.min_eq_left (Nat.le_of_lt hlt)]
    simp only [if_neg hend]
    cases hheld : p'.holds target with
    | true =>
      exact .inl ⟨_, rfl, hguarded.toAttached.guarded_at htotal hshows (.inr hheld), htotal, rfl⟩
    | false =>
      obtain ⟨p'', hrefill, hattached, -, htotal', hshows', hheld'⟩ |
          ⟨e, p'', hrefill, hattached, -, htotal', hrows⟩ :=
        hguarded.toAttached.refill hreplays (fun _ => hguarded.total_eq) target
      · simp only [hrefill, Bool.false_eq_true, if_false]
        exact .inl ⟨_, rfl, hattached.guarded_at htotal' hshows' (.inr (hheld' hlt)), htotal', rfl⟩
      · simp only [hrefill, Bool.false_eq_true, if_false]
        have hcounted := htotal'.trans htotal
        refine .inr ⟨e, _, rfl, ⟨hattached.moved none, .inr ⟨hcounted, .inl hrows,
          fun row heq => ?_⟩⟩, fun _ => hcounted, rfl, hrows⟩
        cases heq
  · rw [hcount]
    exact .inr ⟨e, p', rfl, hguarded, fun hsome => absurd hnone hsome, hposition, hrows⟩

theorem count_outcome (h : p.Guarded signal origin t)
    (hreplays : Replays signal t.columns t.rows origin) : Outcome signal origin t p p.count := by
  obtain ⟨p', hcount, hguarded, htotal, -, -⟩ |
      ⟨e, p', hcount, hguarded, hnone, hposition, hrows⟩ := h.count hreplays
  · rw [hcount]
    refine ⟨hguarded, fun n hn => h.total_eq hn ▸ htotal, fun e he => ?_⟩
    cases he
  · rw [hcount]
    refine ⟨hguarded, fun n hn => ?_, fun _ _ => ⟨hposition, hrows⟩⟩
    cases hnone.symm.trans hn

theorem moveTo_outcome (h : p.Guarded signal origin t)
    (hreplays : Replays signal t.columns t.rows origin) (target : Nat) :
    Outcome signal origin t p (p.moveTo target) := by
  obtain ⟨p', hmove, hguarded, htotal, -⟩ | ⟨e, p', hmove, hguarded, htotal, hposition, hrows⟩ :=
    h.moveTo hreplays target
  · rw [hmove]
    refine ⟨hguarded, fun n hn => h.total_eq hn ▸ htotal, fun e he => ?_⟩
    cases he
  · rw [hmove]
    refine ⟨hguarded, fun n hn => ?_, fun _ _ => ⟨hposition, hrows⟩⟩
    exact h.total_eq hn ▸ htotal (by rw [hn]; exact Option.some_ne_none n)

theorem call_outcome (h : p.Guarded signal origin t)
    (hreplays : Replays signal t.columns t.rows origin) (call : Call) :
    (∃ getter column, call = .get getter column ∧ (p.call call).2 = p) ∨
      Outcome signal origin t p (p.call call) := by
  have hbefore : Outcome (α := Bool) signal origin t p (.ok false, { p with position := none }) := by
    refine ⟨⟨h.toAttached.moved none, ?_⟩, fun n hn => hn, fun e he => by cases he⟩
    obtain ⟨htotal, -⟩ | ⟨htotal, hshows, -⟩ := h.counted
    · exact .inl ⟨htotal, rfl⟩
    · exact .inr ⟨htotal, hshows, fun row heq => by cases heq⟩
  cases call with
  | count => exact .inr ((h.count_outcome hreplays).map _)
  | moveTo target => exact .inr ((h.moveTo_outcome hreplays target).map _)
  | first => exact .inr ((h.moveTo_outcome hreplays 0).map _)
  | next =>
    right
    refine Outcome.map ?_ _
    rw [Pager.next]
    cases p.position with
    | none => exact h.moveTo_outcome hreplays 0
    | some position => exact h.moveTo_outcome hreplays (position + 1)
  | previous =>
    right
    refine Outcome.map ?_ _
    rw [Pager.previous]
    match p.position with
    | none => exact hbefore
    | some 0 => exact hbefore
    | some (before + 1) => exact h.moveTo_outcome hreplays before
  | get getter column => exact .inl ⟨getter, column, rfl, rfl⟩

theorem attend (h : p.Guarded signal origin t)
    (hreplays : Replays signal t.columns t.rows origin) (event : Event κ) :
    (p.attend signal event).Guarded signal origin t ∧
      ∀ n, p.total = some n → (p.attend signal event).total = some n := by
  cases event with
  | call call =>
    obtain ⟨getter, column, -, hsame⟩ | houtcome := h.call_outcome hreplays call
    · rw [Pager.attend, hsame]
      exact ⟨h, fun _ hn => hn⟩
    · exact ⟨houtcome.guarded, houtcome.total⟩
  | signal x =>
    exact ⟨⟨⟨h.cursor.signal x, h.writable, h.sized, h.capacity⟩, h.counted⟩, fun _ hn => hn⟩

theorem attendAll (h : p.Guarded signal origin t)
    (hreplays : Replays signal t.columns t.rows origin) (events : List (Event κ)) :
    (p.attendAll signal events).Guarded signal origin t ∧
      ∀ n, p.total = some n → (p.attendAll signal events).total = some n := by
  induction events generalizing p with
  | nil => exact ⟨h, fun _ hn => hn⟩
  | cons event events ih =>
    obtain ⟨hguarded, htotal⟩ := h.attend hreplays event
    obtain ⟨hrest, hkept⟩ := ih hguarded
    exact ⟨hrest, fun n hn => hkept n (htotal n hn)⟩

theorem current (h : p.Guarded signal origin t)
    (hreplays : Replays signal t.columns t.rows origin) {row : Nat} {cells : List Value}
    (hposition : p.position = some row) (hrow : t.rows[row]? = some cells) :
    p.holds row = true ∧ ∀ column, column < t.columns →
      ∃ value, cells[column]? = some value ∧ p.valueAt column = .ok value := by
  obtain ⟨-, hnone⟩ | ⟨-, hshows, hheld⟩ := h.counted
  · cases hnone.symm.trans hposition
  have hlt := (List.getElem?_eq_some_iff.mp hrow).1
  have hholds := (hheld row hposition).resolve_left (Nat.ne_of_lt hlt)
  refine ⟨hholds, fun column hcolumn => ?_⟩
  obtain ⟨cells', hcells, -, hget⟩ := hshows.of_holds hholds
  cases hrow.symm.trans hcells
  have hwidth := hreplays.width cells (List.mem_of_getElem? hrow)
  have hvalue := List.getElem?_eq_getElem (show column < cells.length by omega)
  refine ⟨_, hvalue, ?_⟩
  rw [valueAt, windowRow_of_holds hposition hholds]
  exact Window.valueAt_of_get (hget column _ hvalue .value)

theorem get_outside (h : p.Guarded signal origin t)
    (hposition : p.position = none ∨ p.position = some t.rows.length) (getter : Getter)
    (column : Nat) : p.get column getter = .error .noCurrentRow := by
  rw [Pager.get_eq]
  obtain hposition | hposition := hposition
  · rw [windowRow, hposition]
    rfl
  · cases hholds : p.holds t.rows.length with
    | false =>
      rw [windowRow_of_not_holds hposition hholds]
      rfl
    | true =>
      obtain ⟨-, hnone⟩ | ⟨-, hshows, -⟩ := h.counted
      · cases hnone.symm.trans hposition
      obtain ⟨cells, hcells, -⟩ := hshows.of_holds hholds
      cases (List.getElem?_eq_none (Nat.le_refl _)).symm.trans hcells

end Guarded

section Calm

variable (hreplays : Replays signal t.columns t.rows origin) (hcalm : Calm p.cursor)

include hcalm

theorem refill_calm (target : Nat) : Calm (p.refill target).2.cursor := by
  rw [refill_cursor]
  exact hcalm.after (Fill.run_place (p.fillRequest_range target) .start p.window p.tally)

include hreplays

theorem refill_ne_error (h : p.Attached signal origin t) (hcount : t.columns < 2 ^ 32)
    {target : Nat} (hfits : t.fits target = true) (e : Error) :
    (p.refill target).1 ≠ .error e := by
  have hrange := p.fillRequest_range target
  obtain ⟨report, v, tally', hok, hrest, -, -⟩ | ⟨hblocked, -⟩ :=
    Fill.run_settles (p.fillRequest target) h.writable h.sized hcount
      (hreplays.delivers h.cursor hcalm) hrange p.tally
  · obtain ⟨heldRows, hrefill⟩ := refill_ok (Prod.ext hok rfl)
    rw [hrefill]
    exact fun heq => by cases heq
  · rw [h.capacity] at hblocked
    cases (Indexed.fits_eq_false hblocked).symm.trans hfits

theorem Guarded.moveTo_ok (h : p.Guarded signal origin t) {row : Nat} {cells : List Value}
    (hrow : t.rows[row]? = some cells) (hlone : Layout.loneSize t.columns cells ≤ t.capacity)
    (hfirst : p.total = none → t.fits 0 = true) :
    ∃ p', p.moveTo row = (.ok true, p') ∧ p'.Guarded signal origin t ∧ p'.position = some row := by
  have hlt := (List.getElem?_eq_some_iff.mp hrow).1
  have hcount : t.columns < 2 ^ 32 := by
    have hlimit := h.sized.limit
    have hcolumns := Layout.columns_le_loneSize t.columns cells
    rw [h.capacity] at hlimit
    omega
  obtain ⟨p', hmove, hguarded, -, hposition⟩ | ⟨e, p', hmove, -⟩ := h.moveTo hreplays row
  · rw [decide_eq_true hlt] at hmove
    rw [Nat.min_eq_left (Nat.le_of_lt hlt)] at hposition
    exact ⟨p', hmove, hguarded, hposition⟩
  · obtain hfails | hfails := of_moveTo_error (congrArg Prod.fst hmove)
    · obtain ⟨htotal, hfails⟩ := of_count_error hfails
      exact absurd hfails (refill_ne_error hreplays hcalm h.toAttached hcount (hfirst htotal) e)
    · have hcalm' : Calm p.count.2.cursor := by
        obtain hsame | hrefilled := p.count_state
        · rw [hsame]
          exact hcalm
        · rw [hrefilled]
          exact refill_calm hcalm 0
      have hattached := (h.count_outcome hreplays).guarded.toAttached
      exact absurd hfails (refill_ne_error hreplays hcalm' hattached hcount
        (Indexed.fits_of_loneSize_le hrow hlone) e)

end Calm

/-- What a pager can be relied on for, however often its cursor has failed. -/
structure Dependable (signal : κ → σ → σ) (t : Indexed) (p : Pager σ) : Prop where
  position : ∀ row, p.position = some row →
    p.total = some t.rows.length ∧ row ≤ t.rows.length
  current : ∀ row cells, p.position = some row → t.rows[row]? = some cells →
    p.holds row = true ∧ ∀ column, column < t.columns →
      ∃ value, cells[column]? = some value ∧ p.valueAt column = .ok value
  outside : p.position = none ∨ p.position = some t.rows.length →
    ∀ getter column, p.get column getter = .error .noCurrentRow
  failed : ∀ call e, (∀ getter column, call ≠ .get getter column) → (p.call call).1 = .error e →
    (p.call call).2.position = none ∧ (p.call call).2.window.rows = 0
  counted : ∀ n, p.total = some n →
    n = t.rows.length ∧ ∀ later, (p.attendAll signal later).total = some n
  recovers : Calm p.cursor → ∀ row cells, t.rows[row]? = some cells →
    Layout.loneSize t.columns cells ≤ t.capacity → (p.total = none → t.fits 0 = true) →
    ∃ p', p.moveTo row = (.ok true, p') ∧ p'.position = some row ∧ ∀ column, column < t.columns →
      ∃ value, cells[column]? = some value ∧ p'.valueAt column = .ok value

theorem Guarded.position_le (h : p.Guarded signal origin t) {row : Nat}
    (hposition : p.position = some row) :
    p.total = some t.rows.length ∧ row ≤ t.rows.length := by
  obtain ⟨-, hnone⟩ | ⟨htotal, hshows, hheld⟩ := h.counted
  · cases hnone.symm.trans hposition
  refine ⟨htotal, ?_⟩
  obtain rfl | hholds := hheld row hposition
  · exact Nat.le_refl _
  · obtain ⟨cells, hcells, -⟩ := hshows.of_holds hholds
    exact Nat.le_of_lt (List.getElem?_eq_some_iff.mp hcells).1

theorem ofParts_guarded (rows : List (List Value)) (count : Nat) {w : Window}
    (hreach : w.Reachable) (hw : w.readOnly = false) :
    (ofParts origin w).Guarded signal origin ⟨rows, count, w.capacity⟩ :=
  ⟨⟨.start, hw, hreach.sized, rfl⟩, .inl ⟨rfl, rfl⟩⟩

/-- Over a cursor that delivers the same rows in every pass, whenever a pass may fail, a pager shows
rows only as they are, and recovers with the cursor. -/
theorem ofParts_dependable {count : Nat} {rows : List (List Value)}
    (hreplays : Replays signal count rows origin) {w : Window} (hreach : w.Reachable)
    (hw : w.readOnly = false) (events : List (Event κ)) :
    ((ofParts origin w).attendAll signal events).Dependable signal ⟨rows, count, w.capacity⟩ := by
  obtain ⟨h, -⟩ := (ofParts_guarded rows count hreach hw).attendAll hreplays events
  refine ⟨fun row => h.position_le, fun row cells => h.current hreplays, h.get_outside,
    fun call e hcall he => ?_, fun n hn => ⟨h.total_eq hn, fun later => ?_⟩, ?_⟩
  · obtain ⟨getter, column, hget, -⟩ | houtcome := h.call_outcome hreplays call
    · exact absurd hget (hcall getter column)
    · exact houtcome.failed e he
  · exact (h.attendAll hreplays later).2 n hn
  · intro hcalm row cells hrow hlone hfirst
    obtain ⟨p', hmove, hguarded, hposition⟩ := h.moveTo_ok hreplays hcalm hrow hlone hfirst
    exact ⟨p', hmove, hposition, (hguarded.current hreplays hposition hrow).2⟩

theorem ofParts_dependable_resumed :
    ∃ (c : TableCursor) (w : Window),
      TableCursor.ofRows 1 #[#[.integer 7], #[.text "row"]] = .ok c ∧
      Window.create "page" 440 = .ok w ∧
      ∃ p p' : Pager TableCursor,
        p = (ofParts c w).attendAll TableCursor.setCanceled
          [.call (.moveTo 0), .signal true, .call (.moveTo 1), .signal false] ∧
        p.moveTo 1 = (.ok true, p') ∧ p'.position = some 1 ∧
        p'.valueAt 0 = .ok (.text "row") := by
  -- The second move comes while the cursor is canceled, and the third one after that.
  obtain ⟨c, w, hrows, hcreate, hw, hcapacity, hfresh, hcolumns, hlists⟩ :=
    Fill.exists_table_and_window
  have hreplays := TableCursor.replays hfresh.width hfresh.position hfresh.done
  obtain ⟨hguarded, -⟩ := (ofParts_guarded c.lists c.columns (.create hcreate) hw).attendAll hreplays
    [.call (.moveTo 0), .signal true, .call (.moveTo 1)]
  have hcalm := hfresh.calm_resume hguarded.cursor
  have hdependable := ofParts_dependable hreplays (.create hcreate) hw
    [.call (.moveTo 0), .signal true, .call (.moveTo 1), .signal false]
  rw [hlists, hcolumns, hcapacity] at hdependable
  obtain ⟨p', hmove, hposition, hget⟩ :=
    hdependable.recovers hcalm 1 [.text "row"] rfl (by decide) fun _ => by decide
  obtain ⟨value, hvalue, hread⟩ := hget 0 (by decide)
  cases hvalue
  exact ⟨c, w, hrows, hcreate, _, p', rfl, hmove, hposition, hread⟩

end Pager

end RowPager
