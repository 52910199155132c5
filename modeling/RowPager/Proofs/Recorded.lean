import RowPager.Proofs.Delivery
import RowPager.Proofs.FillLoop

/-!
Cursors that keep a record of the calls on them. A fill does not notice the record, so that what it
shows is true of the cursor inside.
-/

set_option autoImplicit false

namespace RowPager

inductive CursorCall where
  | step (answer : Except CursorError Step)
  | reset (answer : Except CursorError Unit)

structure Recorded (σ : Type) where
  inner : σ
  calls : List CursorCall

namespace Recorded

variable {σ : Type} [Cursor σ]

def ofCursor (c : σ) : Recorded σ := ⟨c, []⟩

def step (r : Recorded σ) : Except CursorError Step × Recorded σ :=
  ((Cursor.step r.inner).1, ⟨(Cursor.step r.inner).2, r.calls ++ [.step (Cursor.step r.inner).1]⟩)

def reset (r : Recorded σ) : Except CursorError Unit × Recorded σ :=
  ((Cursor.reset r.inner).1,
    ⟨(Cursor.reset r.inner).2, r.calls ++ [.reset (Cursor.reset r.inner).1]⟩)

instance : Cursor (Recorded σ) where
  columnCount r := Cursor.columnCount r.inner
  cell r := Cursor.cell r.inner
  step := step
  reset := reset
  remaining r := Cursor.remaining r.inner
  remaining_lt := by
    intro r r' h
    obtain ⟨hanswer, hstate⟩ := Prod.mk.inj h
    rw [← hstate]
    exact Cursor.remaining_lt (Prod.ext hanswer rfl)

theorem step_eq {c c' : σ} {answer : Except CursorError Step} (h : Cursor.step c = (answer, c'))
    (calls : List CursorCall) :
    Cursor.step (⟨c, calls⟩ : Recorded σ) = (answer, ⟨c', calls ++ [.step answer]⟩) := by
  show ((Cursor.step c).1, (⟨(Cursor.step c).2, calls ++ [.step (Cursor.step c).1]⟩ : Recorded σ)) = _
  rw [h]

theorem of_step {r r' : Recorded σ} {answer : Except CursorError Step}
    (h : Cursor.step r = (answer, r')) :
    Cursor.step r.inner = (answer, r'.inner) ∧ r'.calls = r.calls ++ [.step answer] := by
  obtain ⟨rfl, rfl⟩ := Prod.mk.inj h
  exact ⟨rfl, rfl⟩

theorem delivers {count : Nat} {c : σ} {rows : List (List Value)}
    (h : Cursor.Delivers count c rows) (calls : List CursorCall) :
    Cursor.Delivers count (⟨c, calls⟩ : Recorded σ) rows := by
  induction h generalizing calls with
  | @done c c' columns hstep hreset =>
    have hcolumns : Cursor.columnCount (⟨c, calls⟩ : Recorded σ) = count := columns
    exact .done hcolumns (step_eq hstep calls) hreset
  | @row c c' rows columns hstep hreset hrest ih =>
    have hcolumns : Cursor.columnCount (⟨c, calls⟩ : Recorded σ) = count := columns
    exact .row hcolumns (step_eq hstep calls) hreset (ih _)

end Recorded

namespace Fill

variable {σ : Type} [Cursor σ]

theorem innerRule (request : Request) (result : Except Error Report × σ × Window × Tally) :
    LoopRule request
      (fun p (r : Recorded σ) w tally => takeRows request p r.inner w tally = result)
      (fun outcome r w tally => (outcome, r.inner, w, tally) = result) where
  error h hstep := by
    rwa [takeRows_error (Recorded.of_step hstep).1] at h
  done h hstep := by
    rwa [takeRows_done (Recorded.of_step hstep).1] at h
  row := by
    intro p r r' w tally h hstep
    rw [takeRows_row (Recorded.of_step hstep).1] at h
    change (takeRow request (Cursor.columnCount r'.inner) (Cursor.cell r'.inner) p w tally).1.Leads
      _ _ (takeRow request (Cursor.columnCount r'.inner) (Cursor.cell r'.inner) p w tally).2.1
      (takeRow request (Cursor.columnCount r'.inner) (Cursor.cell r'.inner) p w tally).2.2
    generalize takeRow request (Cursor.columnCount r'.inner) (Cursor.cell r'.inner) p w tally = taken
      at h ⊢
    obtain ⟨verdict, v, tally'⟩ := taken
    cases verdict with
    | next p' => exact h
    | stop p' => exact h
    | fail e => exact h

theorem takeRows_inner (request : Request) (p : Progress) (r : Recorded σ) (w : Window)
    (tally : Tally) :
    takeRows request p r.inner w tally =
      ((takeRows request p r w tally).1, (takeRows request p r w tally).2.1.inner,
        (takeRows request p r w tally).2.2) :=
  ((innerRule request _).takeRows_post rfl).symm

theorem pass_inner (request : Request) (r : Recorded σ) (w : Window) (tally : Tally) :
    pass request r.inner w tally =
      ((pass request r w tally).1, (pass request r w tally).2.1.inner,
        (pass request r w tally).2.2) := by
  have hcolumns : Cursor.columnCount r.inner = Cursor.columnCount r := rfl
  rw [pass, pass, hcolumns]
  cases w.prepare (Cursor.columnCount r) with
  | mk result v =>
  cases result with
  | error e => rfl
  | ok _ => exact takeRows_inner request _ r v tally

theorem run_inner (request : Request) (r : Recorded σ) (w : Window) (tally : Tally) :
    run request r.inner w tally =
      ((run request r w tally).1, (run request r w tally).2.1.inner,
        (run request r w tally).2.2) := by
  by_cases hrange : request.required < request.start
  · rw [run, if_pos hrange, run, if_pos hrange]
  rw [run, if_neg hrange, run, if_neg hrange, pass_inner]
  obtain ⟨outcome, r', v, tally'⟩ := pass request r w tally
  have hreset : Cursor.reset r' = ((Cursor.reset r'.inner).1,
      ⟨(Cursor.reset r'.inner).2, r'.calls ++ [.reset (Cursor.reset r'.inner).1]⟩) := rfl
  simp only [hreset]
  obtain ⟨rewound, c'⟩ := Cursor.reset r'.inner
  cases outcome with
  | error e => rfl
  | ok report =>
    cases rewound with
    | ok _ => rfl
    | error cause => rfl

/-- Each answer but the last is a row, so that nothing is asked of a cursor after the end of its
rows or after an error. -/
def OnePass (answers : List (Except CursorError Step)) : Prop :=
  ∀ answer ∈ answers.dropLast, answer = .ok .row

theorem OnePass.nil : OnePass [] := by
  intro answer h
  cases h

theorem OnePass.rows (n : Nat) (last : Except CursorError Step) :
    OnePass (List.replicate n (.ok .row) ++ [last]) := by
  intro answer h
  rw [List.dropLast_concat] at h
  exact List.eq_of_mem_replicate h

theorem callsRule (request : Request) (calls : List CursorCall) :
    LoopRule request
      (fun p (r : Recorded σ) _ _ => r.calls = calls ++ List.replicate p.seen (.step (.ok .row)))
      (fun outcome r _ _ => ∃ answers, r.calls = calls ++ answers.map .step ∧ OnePass answers ∧
        ∀ report, outcome = .ok report → answers.length = report.countedRows + 1) := by
  have hlast : ∀ {n : Nat} {r r' : Recorded σ} {answer : Except CursorError Step},
      r.calls = calls ++ List.replicate n (.step (.ok .row)) → Cursor.step r = (answer, r') →
      r'.calls = calls ++ (List.replicate n (Except.ok Step.row) ++ [answer]).map .step := by
    intro n r r' answer h hstep
    rw [(Recorded.of_step hstep).2, h, List.map_append, List.map_replicate, List.append_assoc]
    rfl
  refine ⟨fun h hstep => ?_, fun h hstep => ?_, fun {p r r' w tally} h hstep => ?_⟩
  · refine ⟨_, hlast h hstep, .rows _ _, fun report heq => ?_⟩
    cases heq
  · refine ⟨_, hlast h hstep, .rows _ _, fun report heq => ?_⟩
    cases heq
    rw [List.length_append, List.length_replicate]
    rfl
  · have hcalls := hlast h hstep
    have hafter := takeRow_after request (Cursor.columnCount r') (Cursor.cell r') p w tally
    cases hverdict : (takeRow request (Cursor.columnCount r') (Cursor.cell r') p w tally).1 with
    | next p' =>
      rw [hverdict] at hafter
      have hseen : p'.seen = p.seen + 1 := hafter
      show r'.calls = _
      rw [hcalls, hseen, List.replicate_succ', List.map_append, List.map_replicate]
      rfl
    | stop p' =>
      rw [hverdict] at hafter
      refine ⟨_, hcalls, .rows _ _, fun report heq => ?_⟩
      cases heq
      rw [List.length_append, List.length_replicate, ← (hafter : p'.seen = p.seen)]
      rfl
    | fail e =>
      refine ⟨_, hcalls, .rows _ _, fun report heq => ?_⟩
      cases heq

theorem pass_calls (request : Request) (r : Recorded σ) (w : Window) (tally : Tally) :
    ∃ answers, (pass request r w tally).2.1.calls = r.calls ++ answers.map .step ∧
      OnePass answers ∧ ∀ report, (pass request r w tally).1 = .ok report →
        answers.length = report.countedRows + 1 := by
  rw [pass]
  cases w.prepare (Cursor.columnCount r) with
  | mk result v =>
  cases result with
  | error e =>
    refine ⟨[], (List.append_nil _).symm, .nil, fun report h => ?_⟩
    cases h
  | ok _ => exact (callsRule request r.calls).takeRows_post (List.append_nil _).symm

/-- A fill makes one pass over the cursor and then resets it, once. -/
theorem run_calls (request : Request) (hrange : request.start ≤ request.required) (r : Recorded σ)
    (w : Window) (tally : Tally) :
    ∃ answers rewound,
      (run request r w tally).2.1.calls = r.calls ++ answers.map .step ++ [.reset rewound] ∧
      OnePass answers ∧ ∀ report, (run request r w tally).1 = .ok report →
        answers.length = report.countedRows + 1 ∧ rewound = .ok () := by
  obtain ⟨answers, hcalls, hpass, hcount⟩ := pass_calls request r w tally
  have hreset : (Cursor.reset (pass request r w tally).2.1).2.calls =
      (pass request r w tally).2.1.calls ++
        [.reset (Cursor.reset (pass request r w tally).2.1).1] := rfl
  refine ⟨answers, (Cursor.reset (pass request r w tally).2.1).1, ?_, hpass, ?_⟩
  · rw [run_cursor request r w tally hrange, hreset, hcalls]
  · intro report h
    obtain ⟨report', hok, hrewound, hrun⟩ | ⟨e, -, hrun⟩ := run_cases request r w tally hrange
    · rw [hrun] at h
      cases h
      exact ⟨hcount report hok, hrewound⟩
    · rw [hrun] at h
      cases h

end Fill

end RowPager
