import RowPager.Proofs.FillGuarantee
import RowPager.Proofs.Recorded

/-!
The errors that a fill reports, each with the call that calls for it. What the window has to say of
its own operations never comes through, and of two failures the earlier one is reported.
-/

set_option autoImplicit false

namespace RowPager

def Error.ofWindow : Error → Bool
  | .capacityTooSmall .. | .outOfMemory .. | .indexOutOfRange .. | .typeMismatch ..
  | .columnCountLocked .. | .noRowToFree | .readOnly _ | .noCurrentRow | .corrupted _
  | .outOfBounds .. => true
  | .invalidFillRange .. | .rowTooLarge .. | .invalidConfig _ | .cursor _ => false

section Leads

variable {σ : Type} [Cursor σ]

/-- The states of a cursor that so many rows have led to, without a reset. -/
inductive Cursor.Leads (c : σ) : Nat → σ → Prop where
  | start : Leads c 0 c
  | row {count : Nat} {c' c'' : σ} (h : Leads c count c') (hstep : step c' = (.ok .row, c'')) :
      Leads c (count + 1) c''

end Leads

namespace Recorded

theorem step_mem_calls {answers : List (Except CursorError Step)} {answer : Except CursorError Step}
    {rewound : Except CursorError Unit} :
    CursorCall.step answer ∈ answers.map .step ++ [.reset rewound] ↔ answer ∈ answers := by
  simp

theorem reset_mem_calls {answers : List (Except CursorError Step)}
    {answer rewound : Except CursorError Unit} :
    CursorCall.reset answer ∈ answers.map .step ++ [.reset rewound] ↔ answer = rewound := by
  simp

end Recorded

namespace Fill

variable {σ : Type} [Cursor σ]

inductive Refused (request : Request) (c : σ) (w : Window) : Error → Prop where
  | tooWide {count : Nat} {c' : σ} (hleads : Cursor.Leads c count c')
      (hcolumns : 2 ^ 32 ≤ Cursor.columnCount c') :
      Refused request c w (.invalidConfig (.columns (Cursor.columnCount c')))
  | tooLarge {c' : σ} (hleads : Cursor.Leads c (request.required + 1) c')
      (hover : w.capacity <
        Layout.loneSize (Cursor.columnCount c') (rowOf (Cursor.columnCount c') (Cursor.cell c'))) :
      Refused request c w (.rowTooLarge request.required w.capacity)

inductive Reported (request : Request) (c : σ) (w : Window) (calls : List CursorCall) :
    Error → Prop where
  | badRange (hrange : request.required < request.start) :
      Reported request c w calls (.invalidFillRange request.start request.required)
  | refused {e : Error} (h : Refused request c w e) : Reported request c w calls e
  | step {cause : CursorError} (h : .step (.error cause) ∈ calls) :
      Reported request c w calls (.cursor cause)
  | reset {cause : CursorError} (h : .reset (.error cause) ∈ calls) :
      Reported request c w calls (.cursor cause)

def Unfailing (answers : List (Except CursorError Step)) : Prop :=
  ∀ cause : CursorError, .error cause ∉ answers

/-- How a pass ends, with the answers of its steps. If one of them failed, then that is what the
pass fails with. -/
inductive Ends (request : Request) (c : σ) (w : Window) :
    Except Error Report → List (Except CursorError Step) → Prop where
  | finished {report : Report} {answers : List (Except CursorError Step)}
      (hanswers : Unfailing answers) : Ends request c w (.ok report) answers
  | refused {e : Error} {answers : List (Except CursorError Step)} (h : Refused request c w e)
      (hanswers : Unfailing answers) : Ends request c w (.error e) answers
  | failed {cause : CursorError} {answers : List (Except CursorError Step)}
      (hanswers : ∀ cause', .error cause' ∈ answers ↔ cause' = cause) :
      Ends request c w (.error (.cursor cause)) answers

def conclusion : Except Error Report → Except CursorError Unit → Except Error Report
  | .ok report, .ok () => .ok report
  | .ok _, .error cause => .error (.cursor cause)
  | .error e, _ => .error e

variable {request : Request} {c : σ} {w : Window} {tally : Tally} {e : Error}
  {calls : List CursorCall}

theorem Refused.not_ofWindow (h : Refused request c w e) : e.ofWindow = false := by
  cases h with
  | tooWide hleads hcolumns => rfl
  | tooLarge hleads hover => rfl

theorem Reported.not_ofWindow (h : Reported request c w calls e) : e.ofWindow = false := by
  cases h with
  | badRange hrange => rfl
  | refused h => exact h.not_ofWindow
  | step h => rfl
  | reset h => rfl

theorem Reported.of_invalidFillRange {start required : Nat}
    (h : Reported request c w calls (.invalidFillRange start required)) :
    request.required < request.start := by
  cases h with
  | badRange hrange => exact hrange
  | refused h => cases h

theorem Taken.refused {c' : σ} {count : Nat} {held : List (List Value)} {p : Progress}
    {v u : Window} {tally' : Tally}
    (h : Taken request (Cursor.columnCount c') count held (Cursor.cell c') p v tally (.fail e) u
      tally')
    (hleads : Cursor.Leads c (p.seen + 1) c') (hframe : Window.SameFrame v w) :
    Refused request c w e := by
  cases h with
  | restarted hopen hover hearly h =>
    cases h with
    | tooWide hcolumns hv => exact .tooWide hleads hcolumns
    | tooLarge hcolumns hover hrequired hv =>
      rw [hrequired] at hleads
      rw [hrequired, hframe.capacity]
      exact .tooLarge hleads (hframe.capacity ▸ hover)

structure Passing (w : Window) (c : σ) (p : Progress) (r : Recorded σ) (v : Window) : Prop where
  sized : v.Sized
  frame : Window.SameFrame v w
  carries : ∃ count held, v.Carries count held
  leads : Cursor.Leads c p.seen r.inner
  calls : r.calls = (List.replicate p.seen (Except.ok Step.row)).map .step

theorem Passing.calls_step {p : Progress} {r r' : Recorded σ} {v : Window}
    {answer : Except CursorError Step} (h : Passing w c p r v) (hstep : Cursor.step r = (answer, r')) :
    r'.calls = (List.replicate p.seen (Except.ok Step.row) ++ [answer]).map .step := by
  rw [(Recorded.of_step hstep).2, h.calls, List.map_append]
  rfl

theorem error_mem_rows {seen : Nat} {answer : Except CursorError Step} {cause : CursorError} :
    .error cause ∈ List.replicate seen (Except.ok Step.row) ++ [answer] ↔ .error cause = answer := by
  simp [List.mem_replicate]

theorem endsRule (request : Request) (c : σ) (w : Window) :
    LoopRule request (fun p (r : Recorded σ) v _ => Passing w c p r v)
      (fun outcome r _ _ => ∃ answers, r.calls = answers.map .step ∧
        Ends request c w outcome answers) where
  error := by
    rintro p r r' v tally cause h hstep
    refine ⟨_, h.calls_step hstep, .failed fun cause' => ?_⟩
    rw [error_mem_rows, Except.error.injEq]
  done := by
    rintro p r r' v tally h hstep
    refine ⟨_, h.calls_step hstep, .finished fun cause hmem => ?_⟩
    cases error_mem_rows.mp hmem
  row := by
    rintro p r r' v tally h hstep
    have hcalls := h.calls_step hstep
    have hleads := h.leads.row (Recorded.of_step hstep).1
    have hanswers : Unfailing (List.replicate p.seen (Except.ok Step.row) ++ [.ok .row]) := by
      intro cause hmem
      cases error_mem_rows.mp hmem
    obtain ⟨count, held, hcarries⟩ := h.carries
    have htaken := takeRow_taken hcarries h.sized request (Cursor.columnCount r'.inner)
      (Cursor.cell r'.inner) p tally
    have hafter := takeRow_after request (Cursor.columnCount r') (Cursor.cell r') p v tally
    have hframe := (takeRow_comesFrom request (Cursor.columnCount r') (Cursor.cell r') p v
      tally).sameFrame
    cases hverdict : (takeRow request (Cursor.columnCount r') (Cursor.cell r') p v tally).1 with
    | next p' =>
      rw [hverdict] at hafter
      have hseen : p'.seen = p.seen + 1 := hafter
      refine ⟨h.sized.of_sameFrame hframe, hframe.trans h.frame, htaken.carries hcarries, ?_, ?_⟩
      · rw [hseen]
        exact hleads
      · rw [hcalls, hseen, List.replicate_succ']
    | stop p' => exact ⟨_, hcalls, .finished hanswers⟩
    | fail e =>
      rw [show (takeRow request (Cursor.columnCount r'.inner) (Cursor.cell r'.inner) p v tally).1 = _
        from hverdict] at htaken
      exact ⟨_, hcalls, .refused (htaken.refused hleads h.frame) hanswers⟩

theorem pass_ending (hw : w.readOnly = false) (hsized : w.Sized) (request : Request) (c : σ)
    (tally : Tally) :
    ∃ answers, (pass request (Recorded.ofCursor c) w tally).2.1.calls = answers.map .step ∧
      Ends request c w (pass request (Recorded.ofCursor c) w tally).1 answers := by
  by_cases hcolumns : Cursor.columnCount c < 2 ^ 32
  · exact (endsRule request c w).pass_post (c := Recorded.ofCursor c) hw hsized hcolumns
      fun v hframe hempty => ⟨hsized.of_sameFrame hframe, hframe, ⟨_, _, hempty⟩, .start, rfl⟩
  · have hwide := Nat.le_of_not_lt hcolumns
    obtain ⟨v, hprepare, -⟩ := Window.carries_prepare_wide hw hsized.minimum hsized.limit hwide
    rw [pass, show w.prepare (Cursor.columnCount (Recorded.ofCursor c)) = _ from hprepare]
    exact ⟨[], rfl, .refused (.tooWide .start hwide) fun cause hmem => by cases hmem⟩

section Ends

variable {outcome : Except Error Report} {answers : List (Except CursorError Step)}
  {rewound : Except CursorError Unit} {cause : CursorError}

theorem Ends.reported (h : Ends request c w outcome answers)
    (he : conclusion outcome rewound = .error e) :
    Reported request c w (answers.map .step ++ [.reset rewound]) e := by
  cases h with
  | finished hanswers =>
    cases rewound with
    | ok _ => cases he
    | error cause =>
      cases he
      exact .reset (Recorded.reset_mem_calls.mpr rfl)
  | refused h hanswers =>
    cases he
    exact .refused h
  | failed hanswers =>
    cases he
    exact .step (Recorded.step_mem_calls.mpr ((hanswers _).mpr rfl))

theorem Ends.of_step_failed (h : Ends request c w outcome answers) (hmem : .error cause ∈ answers) :
    outcome = .error (.cursor cause) := by
  cases h with
  | finished hanswers => exact absurd hmem (hanswers cause)
  | refused h hanswers => exact absurd hmem (hanswers cause)
  | failed hanswers => rw [(hanswers cause).mp hmem]

theorem Ends.finished_iff (h : Ends request c w outcome answers) :
    (∃ report, outcome = .ok report) ↔
      conclusion outcome (.error cause) = .error (.cursor cause) ∧ Unfailing answers := by
  cases h with
  | @finished report answers hanswers => exact ⟨fun _ => ⟨rfl, hanswers⟩, fun _ => ⟨report, rfl⟩⟩
  | refused h hanswers =>
    constructor
    · rintro ⟨_, hok⟩
      cases hok
    · rintro ⟨heq, -⟩
      cases heq
      cases h
  | failed hanswers =>
    constructor
    · rintro ⟨_, hok⟩
      cases hok
    · rintro ⟨-, hnone⟩
      exact absurd ((hanswers _).mpr rfl) (hnone _)

end Ends

theorem run_conclusion (request : Request) (c : σ) (w : Window) (tally : Tally)
    (hrange : request.start ≤ request.required) :
    (run request c w tally).1 = conclusion (pass request c w tally).1
      (Cursor.reset (pass request c w tally).2.1).1 := by
  obtain ⟨report, hpass, hreset, hrun⟩ | ⟨e, hcause, hrun⟩ := run_cases request c w tally hrange
  · rw [hrun, hpass, hreset]
    rfl
  · obtain hpass | ⟨⟨report, hpass⟩, cause, hreset, rfl⟩ := hcause
    · rw [hrun, hpass]
      rfl
    · rw [hrun, hpass, hreset]
      rfl

theorem run_ending (hw : w.readOnly = false) (hsized : w.Sized)
    (hrange : request.start ≤ request.required) (c : σ) (tally : Tally) :
    ∃ answers rewound,
      (run request (Recorded.ofCursor c) w tally).2.1.calls =
        answers.map .step ++ [.reset rewound] ∧
      Ends request c w (pass request c w tally).1 answers ∧
      (run request (Recorded.ofCursor c) w tally).1 =
        conclusion (pass request c w tally).1 rewound := by
  obtain ⟨answers, hcalls, hends⟩ := pass_ending hw hsized request c tally
  have hinner : (pass request c w tally).1 = (pass request (Recorded.ofCursor c) w tally).1 :=
    congrArg Prod.fst (pass_inner request (Recorded.ofCursor c) w tally)
  rw [hinner]
  refine ⟨answers, _, ?_, hends, run_conclusion request _ w tally hrange⟩
  rw [run_cursor request _ w tally hrange, ← hcalls]
  rfl

/-- An error of a fill is a range that makes no sense, a number of columns beyond 32 bits, the
required row if it does not fit into an empty window, or what the cursor reported, and never what
the window had to say. A step that failed is what the fill reports. A reset that failed is reported
exactly if the pass before it ended well, and no other error gives way to it. -/
theorem run_reports (hreach : w.Reachable) (hw : w.readOnly = false) (request : Request) (c : σ)
    (tally : Tally) {result : Except Error Report} {r : Recorded σ} {v : Window} {tally' : Tally}
    (hrun : run request (Recorded.ofCursor c) w tally = (result, r, v, tally')) :
    run request c w tally = (result, r.inner, v, tally') ∧
      (∀ e, result = .error e → Reported request c w r.calls e ∧ e.ofWindow = false) ∧
      ((∃ start required, result = .error (.invalidFillRange start required)) ↔
        request.required < request.start) ∧
      (∀ cause, .step (.error cause) ∈ r.calls → result = .error (.cursor cause)) ∧
      ∀ cause, .reset (.error cause) ∈ r.calls →
        ((∃ report, (pass request c w tally).1 = .ok report) ↔
          result = .error (.cursor cause) ∧ ∀ cause', .step (.error cause') ∉ r.calls) ∧
        ∀ e, (pass request c w tally).1 = .error e → result = .error e := by
  have hinner := run_inner request (Recorded.ofCursor c) w tally
  rw [hrun] at hinner
  refine ⟨hinner, ?_⟩
  by_cases hrange : request.start ≤ request.required
  · obtain ⟨answers, rewound, hcalls, hends, hresult⟩ := run_ending hw hreach.sized hrange c tally
    rw [hrun] at hcalls hresult
    have hcalls : r.calls = _ := hcalls
    have hresult : result = _ := hresult
    have hreported : ∀ e, result = .error e → Reported request c w r.calls e := by
      intro e he
      rw [hcalls]
      exact hends.reported (hresult.symm.trans he)
    refine ⟨fun e he => ⟨hreported e he, (hreported e he).not_ofWindow⟩,
      ⟨fun ⟨_, _, he⟩ => (hreported _ he).of_invalidFillRange, fun hlt => by omega⟩, ?_, ?_⟩
    · intro cause hmem
      rw [hcalls, Recorded.step_mem_calls] at hmem
      rw [hresult, hends.of_step_failed hmem]
      rfl
    · intro cause hmem
      rw [hcalls, Recorded.reset_mem_calls] at hmem
      rw [hcalls, hresult, ← hmem]
      simp only [Recorded.step_mem_calls]
      refine ⟨hends.finished_iff, fun e he => ?_⟩
      rw [he]
      rfl
  · have hrange := Nat.lt_of_not_le hrange
    rw [run, if_pos hrange] at hrun
    cases hrun
    refine ⟨fun e he => ?_, ⟨fun _ => hrange, fun _ => ⟨_, _, rfl⟩⟩, ?_, ?_⟩
    · cases he
      exact ⟨.badRange hrange, rfl⟩
    · intro cause hmem
      cases hmem
    · intro cause hmem
      cases hmem

theorem run_reports_step :
    ∃ (c : TableCursor) (w : Window),
      TableCursor.ofRows 1 #[#[.integer 7], #[.text "row"]] = .ok c ∧
      Window.create "page" 440 = .ok w ∧
      ∃ r v tally', run ⟨0, 1, true⟩
          (Recorded.ofCursor ((c.failingAt 0 .canceled).failingReset (.misuse "locked"))) w .zero =
          (.error (.cursor .canceled), r, v, tally') ∧
        .reset (.error (.misuse "locked")) ∈ r.calls := by
  obtain ⟨c, w, hrows, hcreate, hw, -, hfresh, hcolumns, -⟩ := exists_table_and_window
  have hreach : w.Reachable := .create hcreate
  have hsized := hreach.sized
  generalize hfailing : (c.failingAt 0 .canceled).failingReset (.misuse "locked") = failing
  have hstep : Cursor.step failing =
      (.error .canceled, ({ failing with steps := failing.steps + 1 } : TableCursor)) := by
    subst hfailing
    show TableCursor.advance _ = _
    simp [TableCursor.advance, TableCursor.failingAt, TableCursor.failingReset,
      TableCursor.failureAt, TableCursor.next, hfresh.canceled, hfresh.done, hfresh.position]
  have hreset : ∀ steps, (Cursor.reset ({ failing with steps := steps } : TableCursor)).1 =
      .error (.misuse "locked") := by
    subst hfailing
    exact fun _ => rfl
  have hnarrow : Cursor.columnCount (Recorded.ofCursor failing) < 2 ^ 32 := by
    subst hfailing
    show c.columns < 2 ^ 32
    omega
  obtain ⟨u, hprepare, -⟩ := Window.carries_prepare hw hsized.minimum hsized.limit hnarrow
  have hpass : pass ⟨0, 1, true⟩ (Recorded.ofCursor failing) w .zero = (.error (.cursor .canceled),
      ⟨{ failing with steps := failing.steps + 1 }, [.step (.error .canceled)]⟩, u, .zero) := by
    rw [pass, hprepare]
    exact takeRows_error (Recorded.step_eq hstep [])
  cases hrun : run ⟨0, 1, true⟩ (Recorded.ofCursor failing) w .zero with
  | mk result rest =>
  obtain ⟨r, v, tally'⟩ := rest
  have hr := run_cursor ⟨0, 1, true⟩ (Recorded.ofCursor failing) w .zero (by decide)
  rw [hrun, hpass] at hr
  have hcalls : r.calls = [.step (.error .canceled), .reset (.error (.misuse "locked"))] := by
    rw [← hreset (failing.steps + 1)]
    exact congrArg Recorded.calls hr
  obtain ⟨-, -, -, hfailed, -⟩ := run_reports hreach hw _ _ _ hrun
  obtain rfl := hfailed .canceled (by simp [hcalls])
  exact ⟨c, w, hrows, hcreate, r, v, tally', hfailing ▸ hrun, by simp [hcalls]⟩

end Fill

end RowPager
