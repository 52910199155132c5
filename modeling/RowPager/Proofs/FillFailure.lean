import RowPager.Proofs.FillGuarantee
import RowPager.Proofs.Recorded

/-!
What can make a fill fail, and what it leaves when it does: a writable window without rows, a
read-only one as it was, and in either case a cursor that has been reset once.
-/

set_option autoImplicit false

namespace RowPager

/-- A window that has lost its rows and columns, and nothing else. -/
structure Window.Discarded (v w : Window) : Prop where
  rows : v.rows = 0
  columns : v.columns = 0
  used : v.used = Layout.minCapacity
  startPosition : v.startPosition = 0
  capacity : v.capacity = w.capacity
  name : v.name = w.name

namespace Window

variable {w : Window}

theorem clear_discarded (hw : w.readOnly = false) : w.clear.2.Discarded w := by
  have hframe := w.clear_sameFrame
  rw [clear, commit_of_ok (requireWritable_eq hw)] at hframe ⊢
  exact ⟨rfl, rfl, rfl, rfl, hframe.capacity, rfl⟩

theorem Discarded.of_sameFrame {u v : Window} (h : Discarded u v) (hframe : SameFrame v w) :
    Discarded u w :=
  ⟨h.rows, h.columns, h.used, h.startPosition, h.capacity.trans hframe.capacity,
    h.name.trans hframe.name⟩

theorem clear_readOnly (hw : w.readOnly = true) : w.clear = (.error (.readOnly w.name), w) :=
  commit_of_error (requireWritable_readOnly hw) _ _

theorem prepare_readOnly (hw : w.readOnly = true) (columns : Nat) :
    w.prepare columns = (.error (.readOnly w.name), w) := by
  rw [prepare, clear_readOnly hw]

end Window

namespace Fill

inductive Fault (request : Request) (w : Window) : Error → Prop where
  | readOnly (hw : w.readOnly = true) : Fault request w (.readOnly w.name)
  | tooWide {columns : Nat} (hcolumns : 2 ^ 32 ≤ columns) :
      Fault request w (.invalidConfig (.columns columns))
  | tooLarge : Fault request w (.rowTooLarge request.required w.capacity)
  | cursor (cause : CursorError) : Fault request w (.cursor cause)

variable {request : Request} {w : Window} {e : Error}

theorem Fault.of_sameFrame {v : Window} (h : Fault request v e) (hframe : Window.SameFrame v w) :
    Fault request w e := by
  cases h with
  | readOnly hv =>
    rw [hframe.name]
    exact .readOnly (hframe.readOnly ▸ hv)
  | tooWide hcolumns => exact .tooWide hcolumns
  | tooLarge =>
    rw [hframe.capacity]
    exact .tooLarge
  | cursor cause => exact .cursor cause

theorem Taken.fault {columns count : Nat} {held : List (List Value)} {cell : Nat → Value}
    {p : Progress} {v : Window} {tally tally' : Tally}
    (h : Taken request columns count held cell p w tally (.fail e) v tally') :
    Fault request w e := by
  cases h with
  | restarted hopen hover hearly h =>
    cases h with
    | tooWide hcolumns hv => exact .tooWide hcolumns
    | tooLarge hcolumns hover hrequired hv =>
      rw [hrequired]
      exact .tooLarge

section Run

variable {σ : Type} [Cursor σ] {c : σ} {tally : Tally}

theorem faultRule (request : Request) (w : Window) :
    LoopRule request
      (fun _ (_ : σ) v _ => v.Sized ∧ Window.SameFrame v w ∧ ∃ count held, v.Carries count held)
      (fun outcome _ _ _ => ∀ e, outcome = .error e → Fault request w e) where
  error _ _ e heq := by
    cases heq
    exact .cursor _
  done _ _ e heq := by cases heq
  row := by
    rintro p c c' v tally ⟨hsized, hsame, count, held, hcarries⟩ -
    have htaken := takeRow_taken hcarries hsized request (Cursor.columnCount c') (Cursor.cell c') p
      tally
    have hframe := (takeRow_comesFrom request (Cursor.columnCount c') (Cursor.cell c') p v
      tally).sameFrame
    cases hverdict : (takeRow request (Cursor.columnCount c') (Cursor.cell c') p v tally).1 with
    | next p' => exact ⟨hsized.of_sameFrame hframe, hframe.trans hsame, htaken.carries hcarries⟩
    | stop p' => exact fun e heq => by cases heq
    | fail cause =>
      rw [hverdict] at htaken
      intro e heq
      cases heq
      exact htaken.fault.of_sameFrame hsame

theorem pass_readOnly (hw : w.readOnly = true) :
    pass request c w tally = (.error (.readOnly w.name), c, w, tally) := by
  rw [pass, Window.prepare_readOnly hw]

theorem pass_fault (hsized : w.Sized) (h : (pass request c w tally).1 = .error e) :
    Fault request w e := by
  cases hw : w.readOnly with
  | true =>
    rw [pass_readOnly hw] at h
    cases h
    exact .readOnly hw
  | false =>
    by_cases hcolumns : Cursor.columnCount c < 2 ^ 32
    · have hpost : ∀ e, (pass request c w tally).1 = .error e → Fault request w e :=
        (faultRule request w).pass_post hw hsized hcolumns fun v hframe hempty =>
          ⟨hsized.of_sameFrame hframe, hframe, _, _, hempty⟩
      exact hpost e h
    · have hwide := Nat.le_of_not_lt hcolumns
      obtain ⟨v, hprepare, -⟩ :=
        Window.carries_prepare_wide hw hsized.minimum hsized.limit hwide
      rw [pass, hprepare] at h
      cases h
      exact .tooWide hwide

theorem run_fault (hsized : w.Sized) (hrange : request.start ≤ request.required)
    (h : (run request c w tally).1 = .error e) : Fault request w e := by
  obtain ⟨report, -, -, hrun⟩ | ⟨e', hcause, hrun⟩ := run_cases request c w tally hrange
  · rw [hrun] at h
    cases h
  · rw [hrun] at h
    cases h
    obtain hpass | ⟨-, cause, -, rfl⟩ := hcause
    · exact pass_fault hsized hpass
    · exact .cursor cause

theorem run_discarded (hrange : request.start ≤ request.required) (hw : w.readOnly = false)
    (h : (run request c w tally).1 = .error e) :
    (run request c w tally).2.2.1.Discarded w := by
  have hframe := pass_sameFrame request c w tally
  obtain ⟨report, -, -, hrun⟩ | ⟨e', -, hrun⟩ := run_cases request c w tally hrange
  · rw [hrun] at h
    cases h
  · rw [hrun]
    exact (Window.clear_discarded (hframe.readOnly.trans hw)).of_sameFrame hframe

theorem run_readOnly (hrange : request.start ≤ request.required) (hw : w.readOnly = true) :
    run request c w tally = (.error (.readOnly w.name), (Cursor.reset c).2, w, tally) := by
  obtain ⟨report, hpass, -, -⟩ | ⟨e, hcause, hrun⟩ := run_cases request c w tally hrange
  · rw [pass_readOnly hw] at hpass
    cases hpass
  · rw [pass_readOnly hw] at hcause hrun
    obtain hpass | ⟨⟨report, hpass⟩, -⟩ := hcause
    · cases hpass
      rw [hrun, Window.clear_readOnly hw]
    · cases hpass

theorem Fault.ne_invalidFillRange (h : Fault request w e) (start required : Nat) :
    e ≠ .invalidFillRange start required := by
  cases h <;> exact fun heq => by cases heq

/-- A range that makes no sense is refused before anything is touched. Any other fill, whether it
succeeds or fails, makes one pass over the cursor and resets it once after that. If it fails, a
writable window is without rows; a read-only window makes it fail, and stays as it was. -/
theorem run_resets_and_discards (hreach : w.Reachable) (request : Request) (c : σ) (tally : Tally)
    {result : Except Error Report} {r : Recorded σ} {v : Window} {tally' : Tally}
    (hrun : run request (Recorded.ofCursor c) w tally = (result, r, v, tally')) :
    run request c w tally = (result, r.inner, v, tally') ∧
      ((∃ start required, result = .error (.invalidFillRange start required)) →
        r = Recorded.ofCursor c ∧ v = w ∧ tally' = tally) ∧
      ((¬ ∃ start required, result = .error (.invalidFillRange start required)) →
        (∃ answers rewound, r.calls = answers.map .step ++ [.reset rewound] ∧ OnePass answers ∧
          (w.readOnly = true → answers = [])) ∧
        (w.readOnly = false → (∃ e, result = .error e) → v.Discarded w) ∧
        (w.readOnly = true → result = .error (.readOnly w.name) ∧ v = w)) := by
  have hinner := run_inner request (Recorded.ofCursor c) w tally
  rw [hrun] at hinner
  refine ⟨hinner, ?_, ?_⟩
  · rintro ⟨start, required, rfl⟩
    by_cases hrange : request.start ≤ request.required
    · have hfault : Fault request w (.invalidFillRange start required) :=
        run_fault hreach.sized hrange (congrArg Prod.fst hrun)
      exact absurd rfl (hfault.ne_invalidFillRange start required)
    · rw [run, if_pos (by omega)] at hrun
      cases hrun
      exact ⟨rfl, rfl, rfl⟩
  · intro hbegun
    have hrange : request.start ≤ request.required := by
      apply Nat.le_of_not_lt
      intro hlt
      rw [run, if_pos hlt] at hrun
      cases hrun
      exact hbegun ⟨_, _, rfl⟩
    refine ⟨?_, ?_, ?_⟩
    · cases hw : w.readOnly with
      | true =>
        rw [run_readOnly hrange hw] at hrun
        cases hrun
        exact ⟨[], _, rfl, .nil, fun _ => rfl⟩
      | false =>
        obtain ⟨answers, rewound, hcalls, hpass, -⟩ :=
          run_calls request hrange (Recorded.ofCursor c) w tally
        rw [hrun] at hcalls
        exact ⟨answers, rewound, hcalls, hpass, fun h => by cases h⟩
    · rintro hw ⟨e, rfl⟩
      have hdiscarded := run_discarded hrange hw (congrArg Prod.fst hrun)
      rw [hrun] at hdiscarded
      exact hdiscarded
    · intro hw
      rw [run_readOnly hrange hw] at hrun
      cases hrun
      exact ⟨rfl, rfl⟩

theorem run_resets_and_discards_late :
    ∃ (c : TableCursor) (w : Window),
      TableCursor.ofRows 1 #[#[.integer 7], #[.text "row"]] = .ok c ∧
      Window.create "page" 440 = .ok w ∧
      ∃ e r v tally', run ⟨0, 1, true⟩ (Recorded.ofCursor (c.failingReset .canceled)) w .zero =
          (.error e, r, v, tally') ∧ v.Discarded w ∧
        ∃ answers rewound, r.calls = answers.map .step ++ [.reset rewound] ∧ OnePass answers := by
  -- All rows are copied, and then the reset fails.
  obtain ⟨c, w, hrows, hcreate, hw, -⟩ := exists_table_and_window
  have hreach : w.Reachable := .create hcreate
  have hrange : (⟨0, 1, true⟩ : Request).start ≤ (⟨0, 1, true⟩ : Request).required := by decide
  have hfails := pass_cursor ⟨0, 1, true⟩ (Recorded.ofCursor (c.failingReset .canceled)) w .zero
    (fun r => r.inner.resetFailure = some .canceled)
    (fun r h => r.inner.step_sameTable.resetFailure.trans h) rfl
  obtain ⟨report, -, hreset, -⟩ | ⟨e, -, hrun⟩ :=
    run_cases ⟨0, 1, true⟩ (Recorded.ofCursor (c.failingReset .canceled)) w .zero hrange
  · have hreset : (TableCursor.reset _).1 = .ok () := hreset
    rw [TableCursor.reset, hfails] at hreset
    cases hreset
  · have hfault := run_fault hreach.sized hrange (congrArg Prod.fst hrun)
    obtain ⟨-, -, hfailed⟩ := run_resets_and_discards hreach _ _ _ hrun
    obtain ⟨⟨answers, rewound, hcalls, hpass, -⟩, hdiscarded, -⟩ := hfailed (by
      rintro ⟨start, required, heq⟩
      cases heq
      exact absurd rfl (hfault.ne_invalidFillRange start required))
    exact ⟨c, w, hrows, hcreate, e, _, _, _, hrun, hdiscarded hw ⟨e, rfl⟩, answers, rewound,
      hcalls, hpass⟩

end Run

end Fill

end RowPager
