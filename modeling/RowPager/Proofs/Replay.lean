import RowPager.Proofs.FillGuarantee

/-!
Cursors that deliver the same rows in every pass, and may fail in any. What a pass delivers before it
fails is then a part of the rows, from the first one on.
-/

set_option autoImplicit false

namespace RowPager

namespace Cursor

variable {σ κ : Type} [Cursor σ] {signal : κ → σ → σ} {origin c : σ}

/-- The states of a cursor that begins rewound, with its place: how many rows it has delivered since
it was reset. A step that delivers no row loses the place, a reset begins a new pass even when it
fails, and signals from outside leave the place alone. -/
inductive Place (signal : κ → σ → σ) (origin : σ) : Option Nat → σ → Prop where
  | start : Place signal origin (some 0) origin
  | row {place : Nat} {c c' : σ} (h : Place signal origin (some place) c)
      (hstep : step c = (.ok .row, c')) : Place signal origin (some (place + 1)) c'
  | lost {place : Option Nat} {c : σ} (h : Place signal origin place c) :
      Place signal origin none (step c).2
  | reset {place : Option Nat} {c : σ} (h : Place signal origin place c) :
      Place signal origin (some 0) (Cursor.reset c).2
  | signal {place : Option Nat} {c : σ} (h : Place signal origin place c) (x : κ) :
      Place signal origin place (signal x c)

/-- Each pass delivers these rows in order, or the first of them if it fails. -/
structure Replays (signal : κ → σ → σ) (count : Nat) (rows : List (List Value)) (origin : σ) :
    Prop where
  width : ∀ cells ∈ rows, cells.length = count
  columns : ∀ {place : Option Nat} {c : σ}, Place signal origin place c → columnCount c = count
  row : ∀ {place : Nat} {c c' : σ}, Place signal origin (some place) c →
    step c = (.ok .row, c') → rows[place]? = some (rowOf count (cell c'))
  done : ∀ {place : Nat} {c c' : σ}, Place signal origin (some place) c →
    step c = (.ok .done, c') → place = rows.length

def quiet : Empty → σ → σ := fun x => x.elim

/-- Nothing fails from here on, if nobody interferes and no pass is led beyond its end. -/
structure Calm (c : σ) : Prop where
  step : ∀ {place : Nat} {c' c'' : σ} (e : CursorError), Place quiet c (some place) c' →
    Cursor.step c' ≠ (.error e, c'')
  reset : ∀ {place : Option Nat} {c' : σ}, Place quiet c place c' → (Cursor.reset c').1 = .ok ()

theorem Place.trans {c' : σ} {place : Option Nat} (h : Place signal origin (some 0) c)
    (h' : Place quiet c place c') : Place signal origin place c' := by
  induction h' with
  | start => exact h
  | row _ hstep ih => exact ih.row hstep
  | lost _ ih => exact ih.lost
  | reset _ ih => exact ih.reset
  | signal _ x => exact x.elim

theorem Calm.after {c' : σ} (h : Calm c) (hplace : Place quiet c (some 0) c') : Calm c' :=
  ⟨fun e h' => h.step e (hplace.trans h'), fun h' => h.reset (hplace.trans h')⟩

variable {count : Nat} {rows : List (List Value)}

theorem Replays.supplies (h : Replays signal count rows origin) :
    Fill.Supplies count rows fun (place : Nat) (c : σ) => Place signal origin (some place) c where
  row hplace hstep :=
    have hnext := hplace.row hstep
    ⟨h.columns hnext, h.row hplace hstep, hnext⟩
  done hplace hstep := h.done hplace hstep

theorem Replays.delivers (h : Replays signal count rows origin)
    (hplace : Place signal origin (some 0) c) (hcalm : Calm c) : Delivers count c rows := by
  suffices hfrom : ∀ (place : Nat) (c' : σ), Place quiet c (some place) c' →
      Delivers count c' (rows.drop place) from hfrom 0 c .start
  intro place c' hc'
  induction hn : remaining c' using Nat.strongRecOn generalizing place c' with
  | ind n ih =>
    have hat := hplace.trans hc'
    have hreset := hcalm.reset hc'.lost
    cases hstep : step c' with
    | mk answer c'' =>
    rw [hstep] at hreset
    cases answer with
    | error e => exact absurd hstep (hcalm.step e hc')
    | ok next =>
      cases next with
      | done =>
        have hend := h.done hat hstep
        rw [List.drop_eq_nil_of_le (Nat.le_of_eq hend.symm)]
        exact .done (h.columns hat) hstep hreset
      | row =>
        obtain ⟨hlt, hcells⟩ := List.getElem?_eq_some_iff.mp (h.row hat hstep)
        have hless : remaining c'' < n := hn ▸ remaining_lt hstep
        have hrest := ih _ hless (place + 1) c'' (hc'.row hstep) rfl
        rw [List.drop_eq_getElem_cons hlt, hcells]
        exact .row (h.columns hat) hstep hreset hrest

end Cursor

namespace Fill

open Cursor (Place Replays)

variable {σ κ : Type} [Cursor σ] {signal : κ → σ → σ} {origin c : σ}
  {request : Request} {count : Nat} {rows : List (List Value)} {w v : Window}
  {tally tally' : Tally}

theorem run_place (hrange : request.start ≤ request.required)
    (h : Place signal origin (some 0) c) (w : Window) (tally : Tally) :
    Place signal origin (some 0) (run request c w tally).2.1 := by
  obtain ⟨place, hplace⟩ := pass_cursor request c w tally
    (fun c => ∃ place, Place signal origin place c)
    (fun c ⟨place, hplace⟩ => ⟨none, hplace.lost⟩) ⟨_, h⟩
  rw [run_cursor request c w tally hrange]
  exact hplace.reset

theorem completesRule (request : Request) (hcount : count < 2 ^ 32)
    (h : Replays signal count rows origin) :
    LoopRule request
      (fun p (c : σ) w _ => Place signal origin (some p.seen) c ∧ Underway request count rows p w)
      (fun outcome _ w _ => ∀ report, outcome = .ok report →
        Complete request count rows report w) := by
  refine h.supplies.loopRule ?_ ?_ ?_
  · rintro p c c' w tally e - - - report heq
    cases heq
  · rintro p c c' w tally - hunderway - hend report heq
    cases heq
    exact hunderway.complete hend
  · rintro p c c' w tally - hunderway - hrow
    refine (takeRow_leads hcount hunderway hrow tally).mono (fun _ _ h => h) ?_
    rintro outcome hsettles report rfl
    exact hsettles

/-- A fill that succeeds is complete, even though it might have failed. -/
theorem run_complete (hreplays : Replays signal count rows origin)
    (hplace : Place signal origin (some 0) c) (hsized : w.Sized) {report : Report} {c' : σ}
    (h : run request c w tally = (.ok report, c', v, tally')) :
    Complete request count rows report v ∧ v.startPosition = report.startPosition := by
  obtain ⟨hrange, hw, hcolumns⟩ := of_run_ok h
  have hcount : count < 2 ^ 32 := hreplays.columns hplace ▸ hcolumns
  have hcomplete : ∀ report, (pass request c w tally).1 = .ok report →
      Complete request count rows report (pass request c w tally).2.2.1 := by
    refine (completesRule request hcount hreplays).pass_post hw hsized hcolumns ?_
    intro v hframe hempty
    rw [hreplays.columns hplace] at hempty
    exact ⟨hplace, underway_start (hsized.of_sameFrame hframe) hempty hrange⟩
  obtain ⟨report', hpass, -, hrun⟩ | ⟨e, -, hrun⟩ := run_cases request c w tally hrange
  · rw [h] at hrun
    cases hrun
    exact ⟨(hcomplete report hpass).setStart _, rfl⟩
  · rw [h] at hrun
    cases hrun

end Fill

namespace TableCursor

def setCanceled : Bool → TableCursor → TableCursor
  | true => cancel
  | false => resume

structure Stands (c : TableCursor) (place : Option Nat) (c' : TableCursor) : Prop
    extends c'.SameTable c where
  place : ∀ index, place = some index →
    c'.next = index ∧ c'.done = false ∧ index ≤ c.rows.size

variable {c c' : TableCursor} {place : Option Nat}

theorem of_step_row {c'' : TableCursor} (h : c'.step = (.ok .row, c'')) :
    c'.next < c'.rows.size ∧ c'' = { c' with steps := c'.steps + 1, position := some c'.next } := by
  have hsteps := c'.steps_step
  rw [h] at hsteps
  cases hsteps with
  | row hdone hfail hlt => exact ⟨hlt, rfl⟩

theorem of_step_done {c'' : TableCursor} (h : c'.step = (.ok .done, c'')) :
    c'.rows.size ≤ c'.next := by
  have hsteps := c'.steps_step
  rw [h] at hsteps
  cases hsteps with
  | done hdone hfail hge => exact hge

theorem stands_of_place (hposition : c.position = none) (hdone : c.done = false)
    (h : Cursor.Place setCanceled c place c') : c.Stands place c' := by
  induction h with
  | start =>
    refine ⟨⟨rfl, rfl, rfl, rfl⟩, fun index hi => ?_⟩
    cases hi
    exact ⟨by rw [next, hposition], hdone, Nat.zero_le _⟩
  | @row before c' c'' _ hstep ih =>
    obtain ⟨hlt, rfl⟩ := of_step_row hstep
    obtain ⟨hnext, hdone, -⟩ := ih.place before rfl
    refine ⟨⟨ih.columns, ih.rows, ih.failAt, ih.resetFailure⟩, fun index hi => ?_⟩
    cases hi
    rw [hnext, ih.rows] at hlt
    exact ⟨congrArg (· + 1) hnext, hdone, hlt⟩
  | @lost before c' _ ih =>
    exact ⟨c'.step_sameTable.trans ih.toSameTable, fun index hi => by cases hi⟩
  | reset _ ih =>
    refine ⟨⟨ih.columns, ih.rows, ih.failAt, ih.resetFailure⟩, fun index hi => ?_⟩
    cases hi
    exact ⟨rfl, rfl, Nat.zero_le _⟩
  | signal _ canceled ih =>
    cases canceled with
    | true => exact ⟨⟨ih.columns, ih.rows, ih.failAt, ih.resetFailure⟩, ih.place⟩
    | false => exact ⟨⟨ih.columns, ih.rows, ih.failAt, ih.resetFailure⟩, ih.place⟩

theorem replays (hwidth : ∀ row ∈ c.rows, row.size = c.columns) (hposition : c.position = none)
    (hdone : c.done = false) : Cursor.Replays setCanceled c.columns c.lists c where
  width _ := length_of_mem hwidth
  columns h := (stands_of_place hposition hdone h).columns
  row := by
    intro place c' c'' h hstep
    have hstands := stands_of_place hposition hdone h
    obtain ⟨hlt, rfl⟩ := of_step_row hstep
    obtain ⟨hnext, -, -⟩ := hstands.place place rfl
    have hwidth' : ∀ row ∈ c'.rows, row.size = c'.columns := by
      rw [hstands.rows, hstands.columns]
      exact hwidth
    have hcells := getElem?_lists (c := { c' with steps := c'.steps + 1, position := some c'.next })
      hwidth' rfl hlt
    rw [← hstands.columns, ← hstands.toSameTable.lists_eq, ← hnext]
    exact hcells
  done := by
    intro place c' c'' h hstep
    have hstands := stands_of_place hposition hdone h
    obtain ⟨hnext, -, hle⟩ := hstands.place place rfl
    have hend := of_step_done hstep
    rw [hnext, hstands.rows] at hend
    rw [length_lists]
    omega

theorem Ready.of_place (h : c.Ready) (hplace : Cursor.Place Cursor.quiet c place c') : c'.Ready := by
  induction hplace with
  | start => exact h
  | @row before c' c'' _ hstep ih =>
    have hready := ih.step_keeps.1
    rw [show c'.step = _ from hstep] at hready
    exact hready
  | lost _ ih => exact ih.step_keeps.1
  | reset _ ih => exact ih.reset_fresh.toReady
  | signal _ x => exact x.elim

theorem Fresh.calm (h : c.Fresh) : Cursor.Calm c where
  step := by
    intro place c' c'' e hplace hstep
    have hready := h.toReady.of_place hplace
    obtain ⟨-, hdone, -⟩ := (stands_of_place h.position h.done
      ((Cursor.Place.start).trans hplace)).place place rfl
    have hstep : c'.step = (.error e, c'') := hstep
    by_cases hn : c'.next < c'.rows.size
    · cases hstep.symm.trans (hready.step_row hdone hn)
    · cases hstep.symm.trans (hready.step_done hdone (Nat.le_of_not_lt hn))
  reset hplace := (h.toReady.of_place hplace).reset_ok

theorem Fresh.rewound (h : c.Fresh) (hplace : Cursor.Place setCanceled c (some 0) c')
    (hlifted : c'.canceled = false) : c'.Fresh ∧ c'.SameTable c := by
  have hstands := stands_of_place h.position h.done hplace
  obtain ⟨hnext, hdone, -⟩ := hstands.place 0 rfl
  have hposition : c'.position = none := position_of_next hnext
  refine ⟨⟨⟨hlifted, hstands.failAt.trans h.failAt, hstands.resetFailure.trans h.resetFailure, ?_⟩,
    hposition, hdone⟩, hstands.toSameTable⟩
  rw [hstands.rows, hstands.columns]
  exact h.width

theorem Fresh.calm_resume (h : c.Fresh) (hplace : Cursor.Place setCanceled c (some 0) c') :
    Cursor.Calm c'.resume :=
  (h.rewound (hplace.signal false) rfl).1.calm

end TableCursor

end RowPager
