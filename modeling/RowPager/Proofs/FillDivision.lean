import RowPager.Proofs.Division
import RowPager.Proofs.FillGuarantee
import RowPager.Proofs.Recorded

/-!
A fill finds the block of the division that the required row is in. Each time a row overflows, the
rows held so far are a block, and the fill goes on where the division does.
-/

set_option autoImplicit false

namespace RowPager.Fill

variable (request : Request) (t : Indexed)

/-- What holds between two rows: from the rows held so far the division leads to the same block as
from the start of the request. -/
structure OnCourse (p : Progress) (w : Window) : Prop where
  sized : w.Sized
  capacity : w.capacity = t.capacity
  held : ∃ stop, w.Carries t.columns (block t.rows p.start stop) ∧
    if p.accepting then
      stop = p.seen ∧
        t.division request.required p.start = t.division request.required request.start
    else
      stop < t.rows.length ∧ request.countAll = true ∧
        t.division request.required request.start = .ok (p.start, stop)

def countedTo (stop : Nat) : Nat :=
  if request.countAll = true ∨ t.rows.length ≤ stop then t.rows.length else stop

def Divides : Except Error Report → Window → Prop
  | .ok report, w => ∃ stop,
      t.division request.required request.start = .ok (report.startPosition, stop) ∧
        w.rows = stop - report.startPosition ∧ report.countedRows = countedTo request t stop
  | .error e, _ => ∃ row,
      t.division request.required request.start = .error row ∧ e = .rowTooLarge row t.capacity

variable {request t}

theorem takeRow_onCourse {cell : Nat → Value} {p : Progress} {w : Window}
    (hcount : t.columns < 2 ^ 32) (h : OnCourse request t p w)
    (hrow : t.rows[p.seen]? = some (rowOf t.columns cell)) (tally : Tally) :
    (takeRow request t.columns cell p w tally).1.Leads
      (fun p w _ => OnCourse request t p w) (fun outcome w _ => Divides request t outcome w)
      (takeRow request t.columns cell p w tally).2.1
      (takeRow request t.columns cell p w tally).2.2 := by
  obtain ⟨hsized, hcapacity, stop, hcarries, hwhen⟩ := h
  obtain ⟨hlt, -⟩ := List.getElem?_eq_some_iff.mp hrow
  have hopen : p.Takes → stop = p.seen ∧
      block t.rows p.start stop ++ [rowOf t.columns cell] = block t.rows p.start (p.seen + 1) ∧
      t.division request.required p.start = t.division request.required request.start := by
    rintro ⟨hle, haccepting⟩
    rw [if_pos haccepting] at hwhen
    exact ⟨hwhen.1, by rw [hwhen.1, block_succ hle hrow], hwhen.2⟩
  have hreach : p.Takes →
      w.capacity < Layout.usedBy t.columns (block t.rows p.start stop ++ [rowOf t.columns cell]) →
      t.reach p.start = p.seen := by
    intro htakes hover
    obtain ⟨rfl, hmore, -⟩ := hopen htakes
    rw [hmore, hcapacity] at hover
    have hfits := hcarries.usedBy_le
    rw [hcapacity] at hfits
    exact Indexed.reach_eq htakes.1 hlt hfits hover
  refine takeRow_cases (motive := fun verdict w tally => verdict.Leads
    (fun p w _ => OnCourse request t p w) (fun outcome w _ => Divides request t outcome w) w tally)
    hcarries hsized request t.columns cell p tally fun verdict v tally' hframe htaken => ?_
  have hafter := hsized.of_sameFrame hframe
  have hsame : v.capacity = t.capacity := hframe.capacity.trans hcapacity
  cases htaken with
  | passed hclosed =>
    refine ⟨hsized, hcapacity, ?_⟩
    cases haccepting : p.accepting with
    | false =>
      rw [haccepting] at hwhen
      exact ⟨stop, hcarries, hwhen⟩
    | true =>
      -- Rows before the start are passed over while the window is empty.
      have hbefore : p.seen < p.start := hclosed.resolve_right (by rw [haccepting]; decide)
      rw [haccepting, if_pos rfl] at hwhen
      rw [hwhen.1, block_eq_nil (Nat.le_of_lt hbefore)] at hcarries
      refine ⟨p.seen + 1, ?_, rfl, hwhen.2⟩
      rw [block_eq_nil hbefore]
      exact hcarries
  | kept htakes hfits hv =>
    obtain ⟨-, hmore, hcourse⟩ := hopen htakes
    rw [hmore] at hv
    exact ⟨hafter, hsame, p.seen + 1, hv, rfl, hcourse⟩
  | restarted htakes hover hearly h =>
    have hend := hreach htakes hover
    have hstart : p.start < t.rows.length := Nat.lt_of_le_of_lt htakes.1 hlt
    have hcourse := Indexed.division_of_overflow hstart (hend.symm ▸ hlt) (hend.symm ▸ hearly)
    rw [hend, (hopen htakes).2.2] at hcourse
    have hfits : t.fits p.seen =
        decide (Layout.loneSize t.columns (rowOf t.columns cell) ≤ t.capacity) := by
      rw [Indexed.fits, hrow]
    cases h with
    | tooWide hcolumns hv => omega
    | alone hcolumns hlone hv =>
      rw [hcapacity] at hlone
      rw [hfits, decide_eq_true hlone, if_pos rfl] at hcourse
      refine ⟨hafter, hsame, p.seen + 1, ?_, rfl, hcourse.symm⟩
      rw [block_succ (Nat.le_refl _) hrow, block_eq_nil (Nat.le_refl _)]
      exact hv
    | tooLarge hcolumns hlarge heq hv =>
      rw [hcapacity] at hlarge
      rw [hfits, decide_eq_false (Nat.not_le.mpr hlarge), if_neg Bool.false_ne_true,
        if_pos heq] at hcourse
      exact ⟨request.required, hcourse, by rw [heq, hcapacity]⟩
    | skipped hcolumns hlarge hne hv =>
      rw [hcapacity] at hlarge
      rw [hfits, decide_eq_false (Nat.not_le.mpr hlarge), if_neg Bool.false_ne_true,
        if_neg hne] at hcourse
      refine ⟨hafter, hsame, p.seen + 1, ?_, rfl, hcourse.symm⟩
      rw [block_eq_nil (Nat.le_refl _)]
      exact hv
  | ignored htakes hover hlate hall hv =>
    have hend := hreach htakes hover
    have hstart : p.start < t.rows.length := Nat.lt_of_le_of_lt htakes.1 hlt
    obtain ⟨rfl, -, hcourse⟩ := hopen htakes
    rw [Indexed.division_of_reach hstart (.inr (hend.symm ▸ hlate)), hend] at hcourse
    exact ⟨hafter, hsame, p.seen, hv, hlt, hall, hcourse.symm⟩
  | full htakes hover hlate hall hv =>
    have hend := hreach htakes hover
    have hstart : p.start < t.rows.length := Nat.lt_of_le_of_lt htakes.1 hlt
    obtain ⟨rfl, -, hcourse⟩ := hopen htakes
    rw [Indexed.division_of_reach hstart (.inr (hend.symm ▸ hlate)), hend] at hcourse
    refine ⟨p.seen, hcourse.symm, ?_, ?_⟩
    · rw [hv.rows_eq, block_length (Nat.le_of_lt hlt)]
      rfl
    · rw [countedTo, hall, if_neg (by simp; omega)]
      rfl

theorem OnCourse.divides {p : Progress} {w : Window} (h : OnCourse request t p w)
    (hend : p.seen = t.rows.length) : Divides request t (.ok p.report) w := by
  obtain ⟨stop, hcarries, hwhen⟩ := h.held
  split at hwhen
  · obtain ⟨rfl, hcourse⟩ := hwhen
    have hrows : w.rows = p.seen - p.start := by
      rw [hcarries.rows_eq, block_length (Nat.le_of_eq hend)]
    by_cases hpast : t.rows.length ≤ p.start
    · rw [Indexed.division_of_length_le hpast] at hcourse
      refine ⟨p.start, hcourse.symm, ?_, ?_⟩
      · show w.rows = p.start - p.start
        omega
      · rw [countedTo, if_pos (.inr hpast)]
        exact hend
    · have hfits := hcarries.usedBy_le
      rw [hend, h.capacity] at hfits
      have hstart := Nat.lt_of_not_le hpast
      have hreach := Indexed.reach_eq_length (Nat.le_of_lt hstart) hfits
      rw [Indexed.division_of_reach hstart (.inl hreach), hreach] at hcourse
      refine ⟨t.rows.length, hcourse.symm, hend ▸ hrows, ?_⟩
      rw [countedTo, if_pos (.inr (Nat.le_refl _))]
      exact hend
  · obtain ⟨hlt, hall, hcourse⟩ := hwhen
    refine ⟨stop, hcourse, ?_, ?_⟩
    · rw [hcarries.rows_eq, block_length (Nat.le_of_lt hlt)]
      rfl
    · rw [countedTo, if_pos (.inl hall)]
      exact hend

section Run

variable {σ : Type} [Cursor σ] {c : σ} {w : Window}

theorem dividesRule (request : Request) (hcount : t.columns < 2 ^ 32) :
    LoopRule request
      (fun p (c : σ) w _ =>
        (p.seen ≤ t.rows.length ∧ Cursor.Delivers t.columns c (t.rows.drop p.seen)) ∧
          OnCourse request t p w)
      (fun outcome _ w _ => Divides request t outcome w) := by
  refine (supplies_of_delivers t.columns t.rows).loopRule ?_ ?_ ?_
  · rintro p c c' w tally e ⟨-, hdelivers⟩ - hstep
    exact absurd hstep (hdelivers.step_ne_error e)
  · rintro p c c' w tally - honcourse - hend
    exact honcourse.divides hend
  · rintro p c c' w tally - honcourse - hrow
    exact takeRow_onCourse hcount honcourse hrow tally

theorem pass_divides (request : Request) (hw : w.readOnly = false) (hsized : w.Sized)
    (hcapacity : w.capacity = t.capacity) (hcount : t.columns < 2 ^ 32)
    (hc : Cursor.Delivers t.columns c t.rows) (tally : Tally) :
    Divides request t (pass request c w tally).1 (pass request c w tally).2.2.1 := by
  refine (dividesRule request hcount).pass_post hw hsized (hc.columns_eq.symm ▸ hcount) ?_
  intro v hframe hempty
  rw [hc.columns_eq] at hempty
  refine ⟨⟨Nat.zero_le _, hc⟩, hsized.of_sameFrame hframe, hframe.capacity.trans hcapacity, 0, ?_,
    rfl, rfl⟩
  rw [block_eq_nil (Nat.zero_le _)]
  exact hempty

theorem run_ends {request : Request} (hrange : request.start ≤ request.required)
    (hw : w.readOnly = false) (hsized : w.Sized) (hcapacity : w.capacity = t.capacity)
    (hcount : t.columns < 2 ^ 32) (hc : Cursor.Delivers t.columns c t.rows) (tally : Tally) :
    Divides request t (run request c w tally).1 (run request c w tally).2.2.1 ∧
      ∀ report, (run request c w tally).1 = .ok report →
        (run request c w tally).2.2.1.startPosition = report.startPosition := by
  have hdivides := pass_divides request hw hsized hcapacity hcount hc tally
  obtain ⟨-, hreset⟩ := pass_settles hw hsized hcount hc hrange tally
  obtain ⟨report, hpass, -, hrun⟩ | ⟨e, hcause, hrun⟩ := run_cases request c w tally hrange
  · rw [hpass] at hdivides
    rw [hrun]
    refine ⟨hdivides, fun report' h => ?_⟩
    cases h
    rfl
  · have hpass : (pass request c w tally).1 = .error e := by
      obtain hpass | ⟨-, cause, hfails, -⟩ := hcause
      · exact hpass
      · cases hreset.symm.trans hfails
    rw [hpass] at hdivides
    rw [hrun]
    refine ⟨hdivides, fun report' h => ?_⟩
    cases h

/-- A fill with a cursor that nothing keeps from delivering its rows. If the division fails at a row,
so does the fill. If not, the window has the block that the division ends with, and the cursor was
asked for the rows that are counted and once more, and was then reset. -/
theorem run_divides {count : Nat} {all : List (List Value)} (hc : Cursor.Delivers count c all)
    (hcount : count < 2 ^ 32) (hreach : w.Reachable) (hw : w.readOnly = false) (request : Request)
    (hrange : request.start ≤ request.required) (tally : Tally) :
    (∀ row, (⟨all, count, w.capacity⟩ : Indexed).division request.required request.start =
        .error row →
      (run request c w tally).1 = .error (.rowTooLarge row w.capacity)) ∧
    ∀ start stop, (⟨all, count, w.capacity⟩ : Indexed).division request.required request.start =
        .ok (start, stop) →
      ∃ counted r v tally',
        run request (Recorded.ofCursor c) w tally = (.ok ⟨start, counted⟩, r, v, tally') ∧
        run request c w tally = (.ok ⟨start, counted⟩, r.inner, v, tally') ∧
        counted = (if request.countAll = true ∨ all.length ≤ stop then all.length else stop) ∧
        v.startPosition = start ∧ v.rows = stop - start ∧
        ∃ answers, r.calls = answers.map .step ++ [.reset (.ok ())] ∧ OnePass answers ∧
          answers.length = counted + 1 := by
  have hinner := run_inner request (Recorded.ofCursor c) w tally
  have hrecorded : Cursor.Delivers count (Recorded.ofCursor c) all := Recorded.delivers hc []
  obtain ⟨hdivides, hstart⟩ := run_ends (t := ⟨all, count, w.capacity⟩) hrange hw hreach.sized rfl
    hcount hrecorded tally
  obtain ⟨answers, rewound, hcalls, hpass, hsteps⟩ :=
    run_calls request hrange (Recorded.ofCursor c) w tally
  generalize run request (Recorded.ofCursor c) w tally = result at *
  obtain ⟨outcome, r, v, tally'⟩ := result
  rw [show run request c w tally = _ from hinner]
  cases outcome with
  | error e =>
    obtain ⟨row, hdivision, rfl⟩ := hdivides
    refine ⟨fun row' h => ?_, fun start stop h => ?_⟩
    · cases hdivision.symm.trans h
      rfl
    · cases hdivision.symm.trans h
  | ok report =>
    obtain ⟨stop, hdivision, hrows, hcounted⟩ := hdivides
    refine ⟨fun row h => ?_, fun start stop' h => ?_⟩
    · cases hdivision.symm.trans h
    · cases hdivision.symm.trans h
      obtain ⟨hlength, rfl⟩ := hsteps report rfl
      exact ⟨report.countedRows, r, v, tally', rfl, rfl, hcounted, hstart report rfl, hrows, answers,
        hcalls, hpass, hlength⟩

theorem run_divides_restart :
    ∃ (c : TableCursor) (w : Window),
      TableCursor.ofRows 1 #[#[.integer 7], #[.text "row"]] = .ok c ∧
      Window.create "page" 440 = .ok w ∧
      ∃ r v tally', ∃ answers : List (Except CursorError Step),
        run ⟨0, 1, true⟩ (Recorded.ofCursor c) w .zero = (.ok ⟨1, 2⟩, r, v, tally') ∧
        v.startPosition = 1 ∧ v.rows = 1 ∧ r.calls = answers.map .step ++ [.reset (.ok ())] ∧
        answers.length = 3 := by
  -- The first of two rows is a block of its own, and the fill ends with the second.
  obtain ⟨c, w, hrows, hcreate, hw, hcapacity, hfresh, hcolumns, hlists⟩ := exists_table_and_window
  have hdelivers := hfresh.delivers
  rw [hcolumns, hlists] at hdelivers
  obtain ⟨-, hblock⟩ :=
    run_divides hdelivers (by decide) (.create hcreate) hw ⟨0, 1, true⟩ (by decide) .zero
  rw [hcapacity] at hblock
  have hfirst : (⟨[[.integer 7], [.text "row"]], 1, 440⟩ : Indexed).reach 0 = 1 :=
    Indexed.reach_eq (by decide) (by decide) (by decide) (by decide)
  have hsecond : (⟨[[.integer 7], [.text "row"]], 1, 440⟩ : Indexed).reach 1 = 2 :=
    Indexed.reach_eq_length (by decide) (by decide)
  have hdivision : (⟨[[.integer 7], [.text "row"]], 1, 440⟩ : Indexed).division 1 0 = .ok (1, 2) := by
    rw [Indexed.division_of_overflow (by decide) (by rw [hfirst]; decide) (by rw [hfirst]), hfirst,
      if_pos (by decide), Indexed.division_of_reach (by decide) (.inl hsecond), hsecond]
  obtain ⟨counted, r, v, tally', hrun, -, rfl, hstart, hheld, answers, hcalls, -, hlength⟩ :=
    hblock 1 2 hdivision
  exact ⟨c, w, hrows, hcreate, r, v, tally', answers, hrun, hstart, hheld, hcalls, hlength⟩

end Run

end RowPager.Fill
