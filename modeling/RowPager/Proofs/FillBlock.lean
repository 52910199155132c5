import RowPager.Proofs.Delivery
import RowPager.Proofs.FillRow

/-!
What a fill leaves in the window: one block of the rows of the cursor, with the required row in it.
At each row the window holds the block from the start up to that row, unless it is full.
-/

set_option autoImplicit false

namespace RowPager.Fill

def block (all : List (List Value)) (start stop : Nat) : List (List Value) :=
  (all.take stop).drop start

section Block

variable {all : List (List Value)} {start stop : Nat}

theorem block_length (h : stop ≤ all.length) : (block all start stop).length = stop - start := by
  simp [block, Nat.min_eq_left h]

theorem block_eq_nil (h : stop ≤ start) : block all start stop = [] := by
  simp [block]
  omega

theorem getElem?_block {index : Nat} (h : start + index < stop) :
    (block all start stop)[index]? = all[start + index]? := by
  rw [block, List.getElem?_drop, List.getElem?_take, if_pos h]

theorem block_succ {row : List Value} (h : start ≤ stop) (hrow : all[stop]? = some row) :
    block all start (stop + 1) = block all start stop ++ [row] := by
  obtain ⟨hlt, rfl⟩ := List.getElem?_eq_some_iff.mp hrow
  rw [block, List.take_succ_eq_append_getElem hlt, List.drop_append_of_le_length]
  · rfl
  · rw [List.length_take]
    omega

end Block

variable (request : Request) (count : Nat) (all : List (List Value))

def Blocked (capacity : Nat) : Prop :=
  ∃ row, all[request.required]? = some row ∧ capacity < Layout.loneSize count row

/-- What holds between two rows of the loop. -/
structure Underway (p : Progress) (w : Window) : Prop where
  sized : w.Sized
  start_le : request.start ≤ p.start
  le_required : p.start ≤ request.required
  held : ∃ stop, stop ≤ p.seen ∧ w.Carries count (block all p.start stop) ∧
    if p.accepting then stop = p.seen else request.required < stop ∧ request.countAll = true

/-- What holds when a fill has succeeded. -/
structure Complete (report : Report) (w : Window) : Prop where
  start_le : request.start ≤ report.startPosition
  le_required : report.startPosition ≤ request.required
  held : ∃ stop, stop ≤ all.length ∧ w.Carries count (block all report.startPosition stop) ∧
    (request.required < all.length → request.required < stop) ∧
    report.countedRows = if request.countAll then all.length else stop

def Settles : Except Error Report → Window → Prop
  | .ok report, w => Complete request count all report w
  | .error e, w => e = .rowTooLarge request.required w.capacity ∧
      Blocked request count all w.capacity

variable {request count all}

/-- Each row keeps the invariant, ends a fill that is complete, or is a required row too large. -/
theorem takeRow_leads {cell : Nat → Value} {p : Progress} {w : Window} (hcount : count < 2 ^ 32)
    (h : Underway request count all p w) (hrow : all[p.seen]? = some (rowOf count cell))
    (tally : Tally) :
    (takeRow request count cell p w tally).1.Leads
      (fun p w _ => Underway request count all p w)
      (fun outcome w _ => Settles request count all outcome w)
      (takeRow request count cell p w tally).2.1 (takeRow request count cell p w tally).2.2 := by
  obtain ⟨hsized, hstart, hrequired, stop, hstop, hcarries, hwhen⟩ := h
  obtain ⟨hlt, -⟩ := List.getElem?_eq_some_iff.mp hrow
  have hopen : p.Takes → stop = p.seen ∧
      block all p.start stop ++ [rowOf count cell] = block all p.start (p.seen + 1) := by
    rintro ⟨hle, haccepting⟩
    rw [if_pos haccepting] at hwhen
    exact ⟨hwhen, by rw [hwhen, block_succ hle hrow]⟩
  refine takeRow_cases (motive := fun verdict w tally => verdict.Leads
    (fun p w _ => Underway request count all p w)
    (fun outcome w _ => Settles request count all outcome w) w tally)
    hcarries hsized request count cell p tally fun verdict v tally' hframe htaken => ?_
  have hafter := hsized.of_sameFrame hframe
  cases htaken with
  | passed hclosed =>
    refine ⟨hsized, hstart, hrequired, ?_⟩
    cases haccepting : p.accepting with
    | false =>
      rw [haccepting] at hwhen
      exact ⟨stop, Nat.le_succ_of_le hstop, hcarries, hwhen⟩
    | true =>
      -- Rows before the start are passed over while the window is empty.
      have hbefore : p.seen < p.start := hclosed.resolve_right (by rw [haccepting]; decide)
      rw [haccepting, if_pos rfl] at hwhen
      rw [hwhen, block_eq_nil (Nat.le_of_lt hbefore)] at hcarries
      refine ⟨p.seen + 1, Nat.le_refl _, ?_, rfl⟩
      rw [block_eq_nil hbefore]
      exact hcarries
  | kept htakes hfits hv =>
    rw [(hopen htakes).2] at hv
    exact ⟨hafter, hstart, hrequired, p.seen + 1, Nat.le_refl _, hv, rfl⟩
  | restarted htakes hover hearly h =>
    have hle := Nat.le_trans hstart htakes.1
    cases h with
    | tooWide hcolumns hv => omega
    | alone hcolumns hfits hv =>
      refine ⟨hafter, hle, hearly, p.seen + 1, Nat.le_refl _, ?_, rfl⟩
      rw [block_succ (Nat.le_refl _) hrow, block_eq_nil (Nat.le_refl _)]
      exact hv
    | tooLarge hcolumns hover heq hv =>
      have hcapacity : v.capacity = w.capacity := hframe.capacity
      rw [heq] at hrow
      refine ⟨?_, _, hrow, hcapacity.symm ▸ hover⟩
      rw [heq, hcapacity]
    | skipped hcolumns hover hne hv =>
      refine ⟨hafter, Nat.le_succ_of_le hle, ?_, p.seen + 1, Nat.le_refl _, ?_, rfl⟩
      · show p.seen + 1 ≤ request.required
        omega
      · rw [block_eq_nil (Nat.le_refl _)]
        exact hv
  | ignored htakes hover hlate hall hv =>
    obtain ⟨rfl, -⟩ := hopen htakes
    exact ⟨hafter, hstart, hrequired, p.seen, Nat.le_succ _, hv, hlate, hall⟩
  | full htakes hover hlate hall hv =>
    obtain ⟨rfl, -⟩ := hopen htakes
    refine ⟨hstart, hrequired, p.seen, Nat.le_of_lt hlt, hv, fun _ => hlate, ?_⟩
    rw [hall]
    rfl

theorem Complete.setStart {report : Report} {w : Window} (h : Complete request count all report w)
    (position : Nat) : Complete request count all report (w.setStartPosition position) := by
  obtain ⟨stop, hstop, hcarries, hheld, hcounted⟩ := h.held
  exact ⟨h.start_le, h.le_required, stop, hstop, hcarries.setStart position, hheld, hcounted⟩

section Pass

variable {σ : Type} [Cursor σ] {c : σ}

theorem underway_start {w : Window} (hsized : w.Sized) (hempty : w.Carries count [])
    (hrange : request.start ≤ request.required) :
    Underway request count all ⟨0, request.start, true⟩ w := by
  refine ⟨hsized, Nat.le_refl _, hrange, 0, Nat.le_refl _, ?_, rfl⟩
  rw [block_eq_nil (Nat.zero_le _)]
  exact hempty

theorem Underway.complete {p : Progress} {w : Window} (h : Underway request count all p w)
    (hend : p.seen = all.length) : Complete request count all p.report w := by
  obtain ⟨stop, hstop, hcarries, hwhen⟩ := h.held
  refine ⟨h.start_le, h.le_required, stop, by omega, hcarries, ?_, ?_⟩
  · intro hlt
    split at hwhen
    · omega
    · exact hwhen.1
  · show p.seen = _
    split at hwhen
    · rw [hwhen, hend, ite_self]
    · rw [if_pos hwhen.2, hend]

theorem supplies_of_delivers (count : Nat) (all : List (List Value)) :
    Supplies count all fun (place : Nat) (c : σ) =>
      place ≤ all.length ∧ Cursor.Delivers count c (all.drop place) where
  row := by
    rintro place c c' ⟨hle, hdelivers⟩ hstep
    obtain ⟨rest, hrest, hdelivers'⟩ := hdelivers.of_step_row hstep
    have hrow : all[place]? = some (rowOf count (Cursor.cell c')) := by
      have hhead := congrArg List.head? hrest
      rwa [List.head?_drop] at hhead
    have htail := congrArg List.tail hrest
    rw [List.tail_drop, List.tail_cons] at htail
    exact ⟨hdelivers'.columns_eq, hrow, (List.getElem?_eq_some_iff.mp hrow).1, htail ▸ hdelivers'⟩
  done := by
    rintro place c c' ⟨hle, hdelivers⟩ hstep
    have hlength := List.drop_eq_nil_iff.mp (hdelivers.of_step_done hstep)
    omega

theorem settlesRule (request : Request) (hcount : count < 2 ^ 32) :
    LoopRule request
      (fun p (c : σ) w _ => (p.seen ≤ all.length ∧ Cursor.Delivers count c (all.drop p.seen)) ∧
        Underway request count all p w)
      (fun outcome c w _ => Settles request count all outcome w ∧
        (Cursor.reset c).1 = .ok ()) := by
  refine (supplies_of_delivers count all).loopRule ?_ ?_ ?_
  · rintro p c c' w tally e ⟨-, hdelivers⟩ - hstep
    exact absurd hstep (hdelivers.step_ne_error e)
  · rintro p c c' w tally ⟨-, hdelivers⟩ hunderway hstep hend
    exact ⟨hunderway.complete hend, hdelivers.reset_of_step hstep⟩
  · rintro p c c' w tally ⟨-, hdelivers⟩ hunderway hstep hrow
    have hreset := hdelivers.reset_of_step hstep
    exact (takeRow_leads hcount hunderway hrow tally).mono (fun _ _ h => h)
      fun _ hsettles => ⟨hsettles, hreset⟩

theorem pass_settles {w : Window} (hw : w.readOnly = false) (hsized : w.Sized)
    (hcount : count < 2 ^ 32) (hc : Cursor.Delivers count c all)
    (hrange : request.start ≤ request.required) (tally : Tally) :
    Settles request count all (pass request c w tally).1 (pass request c w tally).2.2.1 ∧
      (Cursor.reset (pass request c w tally).2.1).1 = .ok () := by
  refine (settlesRule request hcount).pass_post hw hsized (hc.columns_eq.symm ▸ hcount) ?_
  intro v hframe hempty
  rw [hc.columns_eq] at hempty
  exact ⟨⟨Nat.zero_le _, hc⟩, underway_start (hsized.of_sameFrame hframe) hempty hrange⟩

theorem run_settles (request : Request) {w : Window} (hw : w.readOnly = false) (hsized : w.Sized)
    (hcount : count < 2 ^ 32) (hc : Cursor.Delivers count c all)
    (hrange : request.start ≤ request.required) (tally : Tally) :
    (∃ report v tally', (run request c w tally).1 = .ok report ∧
        (run request c w tally).2.2 = (v, tally') ∧ v.startPosition = report.startPosition ∧
        Complete request count all report v) ∨
      (Blocked request count all w.capacity ∧ ∃ v tally',
        (run request c w tally).1 = .error (.rowTooLarge request.required w.capacity) ∧
        (run request c w tally).2.2 = (v, tally') ∧ v.Carries 0 []) := by
  have hframe := pass_sameFrame request c w tally
  obtain ⟨hsettles, hreset⟩ := pass_settles hw hsized hcount hc hrange tally
  obtain ⟨report, hpass, -, hrun⟩ | ⟨e, hcause, hrun⟩ := run_cases request c w tally hrange
  · rw [hpass] at hsettles
    rw [hrun]
    exact .inl ⟨report, _, _, rfl, rfl, rfl, Complete.setStart hsettles report.startPosition⟩
  · have hpass : (pass request c w tally).1 = .error e := by
      obtain hpass | ⟨-, cause, hfails, -⟩ := hcause
      · exact hpass
      · cases hreset.symm.trans hfails
    rw [hpass] at hsettles
    obtain ⟨rfl, hblocked⟩ := hsettles
    rw [hframe.capacity] at hblocked hrun
    have hsized := hsized.of_sameFrame hframe
    obtain ⟨u, hclear, hempty⟩ :=
      Window.carries_clear (hframe.readOnly.trans hw) hsized.minimum hsized.limit
    rw [hclear] at hrun
    rw [hrun]
    exact .inr ⟨hblocked, _, _, rfl, rfl, hempty⟩

end Pass

end RowPager.Fill
