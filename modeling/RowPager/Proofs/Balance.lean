import RowPager.Proofs.FillGuarantee

/-!
What a fill adds to the counts, as numbers that do not wrap. Each row from the start of the request
on, up to the last one dealt with, is counted once, as written or as skipped. A restart discards rows
that have been counted; it does not count them again.
-/

set_option autoImplicit false

namespace RowPager

structure Gains where
  fills : Nat
  written : Nat
  counted : Nat
  restarts : Nat
  skipped : Nat
  truncated : Nat

namespace Gains

def none : Gains := ⟨0, 0, 0, 0, 0, 0⟩

def add (n : Gains) (counter : Counter) (k : Nat) : Gains :=
  match counter with
  | .fills => { n with fills := n.fills + k }
  | .rowsWritten => { n with written := n.written + k }
  | .rowsCounted => { n with counted := n.counted + k }
  | .overflowRestarts => { n with restarts := n.restarts + k }
  | .rowsSkipped => { n with skipped := n.skipped + k }
  | .truncatedFills => { n with truncated := n.truncated + k }

end Gains

namespace Tally

def plus (tally : Tally) (n : Gains) : Tally where
  fills := tally.fills + .ofNat n.fills
  rowsWritten := tally.rowsWritten + .ofNat n.written
  rowsCounted := tally.rowsCounted + .ofNat n.counted
  overflowRestarts := tally.overflowRestarts + .ofNat n.restarts
  rowsSkipped := tally.rowsSkipped + .ofNat n.skipped
  truncatedFills := tally.truncatedFills + .ofNat n.truncated

theorem plus_none (tally : Tally) : tally.plus .none = tally := by
  simp [plus, Gains.none]

theorem add_plus (tally : Tally) (n : Gains) (counter : Counter) (k : Nat) :
    (tally.plus n).add counter (.ofNat k) = tally.plus (n.add counter k) := by
  cases counter <;> simp [plus, add, Gains.add, UInt64.ofNat_add, UInt64.add_assoc]

end Tally

namespace Fill

/-- The gains of a fill that began with this tally and this start, as far as the start that it has
come to decides on them. -/
structure Ledger (before : Tally) (first start : Nat) (tally : Tally) (n : Gains) : Prop where
  tally : tally = before.plus n
  fills : n.fills = 0
  counted : n.counted = 0
  skipped_le : n.skipped ≤ n.restarts
  restarts_le : n.restarts ≤ n.written + n.skipped
  restarted : n.restarts = 0 ↔ start = first

section Ledger

variable {before tally : Tally} {first start : Nat} {n : Gains}

theorem Ledger.none (tally : Tally) (first : Nat) : Ledger tally first first tally .none :=
  ⟨tally.plus_none.symm, rfl, rfl, Nat.le_refl _, Nat.le_refl _, by simp [Gains.none]⟩

theorem Ledger.write (h : Ledger before first start tally n) :
    Ledger before first start (tally.add .rowsWritten 1) (n.add .rowsWritten 1) where
  tally := by
    rw [← Tally.add_plus, ← h.tally]
    rfl
  fills := h.fills
  counted := h.counted
  skipped_le := h.skipped_le
  restarts_le := by
    have hle := h.restarts_le
    show n.restarts ≤ n.written + 1 + n.skipped
    omega
  restarted := h.restarted

theorem Ledger.truncate (h : Ledger before first start tally n) :
    Ledger before first start (tally.add .truncatedFills 1) (n.add .truncatedFills 1) where
  tally := by
    rw [← Tally.add_plus, ← h.tally]
    rfl
  fills := h.fills
  counted := h.counted
  skipped_le := h.skipped_le
  restarts_le := h.restarts_le
  restarted := h.restarted

theorem Ledger.restart {counter : Counter} {start' : Nat} (h : Ledger before first start tally n)
    (hrow : counter = .rowsWritten ∨ counter = .rowsSkipped) (hstart : start' ≠ first) :
    Ledger before first start' ((tally.add .overflowRestarts 1).add counter 1)
      ((n.add .overflowRestarts 1).add counter 1) := by
  have hskipped := h.skipped_le
  have hle := h.restarts_le
  have htally : (tally.add .overflowRestarts 1).add counter 1 =
      before.plus ((n.add .overflowRestarts 1).add counter 1) := by
    rw [← Tally.add_plus, ← Tally.add_plus, ← h.tally]
    rfl
  obtain rfl | rfl := hrow
  · refine ⟨htally, h.fills, h.counted, ?_, ?_, ?_⟩
    · show n.skipped ≤ n.restarts + 1
      omega
    · show n.restarts + 1 ≤ n.written + 1 + n.skipped
      omega
    · show n.restarts + 1 = 0 ↔ start' = first
      omega
  · refine ⟨htally, h.fills, h.counted, ?_, ?_, ?_⟩
    · show n.skipped + 1 ≤ n.restarts + 1
      omega
    · show n.restarts + 1 ≤ n.written + (n.skipped + 1)
      omega
    · show n.restarts + 1 = 0 ↔ start' = first
      omega

end Ledger

variable (request : Request) (all : List (List Value)) (before : Tally)

structure Balanced (p : Progress) (w : Window) (tally : Tally) (n : Gains) : Prop
    extends Ledger before request.start p.start tally n where
  begun : p.start = request.start ∨ p.start ≤ p.seen
  rows : if p.accepting then
      n.written + n.skipped = p.seen - request.start ∧ n.truncated = 0
    else request.start + (n.written + n.skipped) = p.start + w.rows ∧
      p.start + w.rows < all.length ∧ n.truncated = 1

structure Settled (report : Report) (w : Window) (tally : Tally) (n : Gains) : Prop
    extends Ledger before request.start report.startPosition tally n where
  rows : request.start + (n.written + n.skipped) = report.startPosition + w.rows
  truncated : n.truncated = if report.startPosition + w.rows < all.length then 1 else 0

variable {request all before} {count : Nat}

theorem takeRow_balanced {cell : Nat → Value} {p : Progress} {w : Window} {tally : Tally} {n : Gains}
    (hunderway : Underway request count all p w) (h : Balanced request all before p w tally n)
    (hrow : all[p.seen]? = some (rowOf count cell)) :
    (takeRow request count cell p w tally).1.Leads
      (fun p w tally => ∃ n, Balanced request all before p w tally n)
      (fun outcome w tally => ∀ report, outcome = .ok report →
        ∃ n, Settled request all before report w tally n)
      (takeRow request count cell p w tally).2.1 (takeRow request count cell p w tally).2.2 := by
  obtain ⟨hsized, hstart, -, stop, hstop, hcarries, hwhen⟩ := hunderway
  obtain ⟨hledger, hbegun, hrows⟩ := h
  obtain ⟨hlt, -⟩ := List.getElem?_eq_some_iff.mp hrow
  have hopen : p.Takes → stop = p.seen ∧ n.written + n.skipped = p.seen - request.start ∧
      n.truncated = 0 := by
    rintro ⟨-, haccepting⟩
    rw [if_pos haccepting] at hwhen hrows
    exact ⟨hwhen, hrows⟩
  refine takeRow_cases (motive := fun verdict w tally => verdict.Leads
    (fun p w tally => ∃ n, Balanced request all before p w tally n)
    (fun outcome w tally => ∀ report, outcome = .ok report →
      ∃ n, Settled request all before report w tally n) w tally)
    hcarries hsized request count cell p tally fun verdict v tally' hframe htaken => ?_
  cases htaken with
  | passed hclosed =>
    refine ⟨n, hledger, hbegun.imp_right Nat.le_succ_of_le, ?_⟩
    cases haccepting : p.accepting with
    | false =>
      rw [haccepting] at hrows
      exact hrows
    | true =>
      -- Only rows before the start of the request are passed over.
      have hbefore : p.seen < p.start := hclosed.resolve_right (by rw [haccepting]; decide)
      rw [haccepting, if_pos rfl] at hrows
      have hsum : n.written + n.skipped = p.seen + 1 - request.start := by omega
      exact ⟨hsum, hrows.2⟩
  | kept htakes hfits hv =>
    obtain ⟨-, hsum, htruncated⟩ := hopen htakes
    have hle := htakes.1
    refine ⟨_, hledger.write, hbegun.imp_right Nat.le_succ_of_le, ?_, htruncated⟩
    show n.written + 1 + n.skipped = p.seen + 1 - request.start
    omega
  | restarted htakes hover hearly h =>
    obtain ⟨rfl, hsum, htruncated⟩ := hopen htakes
    have hle := htakes.1
    cases h with
    | tooWide hcolumns hv =>
      intro report heq
      cases heq
    | alone hcolumns hfits hv =>
      -- The first row of the request restarts nothing if it fits alone.
      have hne : p.seen ≠ request.start := by
        intro heq
        rw [block_eq_nil (by omega), List.nil_append, Layout.usedBy_singleton] at hover
        omega
      refine ⟨_, hledger.restart (.inl rfl) hne, .inr (Nat.le_succ _), ?_, htruncated⟩
      show n.written + 1 + n.skipped = p.seen + 1 - request.start
      omega
    | tooLarge hcolumns hover heq hv =>
      intro report heq
      cases heq
    | skipped hcolumns hover hne hv =>
      have hne : p.seen + 1 ≠ request.start := by omega
      refine ⟨_, hledger.restart (.inr rfl) hne, .inr (Nat.le_refl _), ?_, htruncated⟩
      show n.written + (n.skipped + 1) = p.seen + 1 - request.start
      omega
  | ignored htakes hover hlate hall hv =>
    obtain ⟨rfl, hsum, htruncated⟩ := hopen htakes
    have hle := htakes.1
    have hheld : v.rows = p.seen - p.start := by
      rw [hv.rows_eq, block_length (Nat.le_of_lt hlt)]
    refine ⟨_, hledger.truncate, hbegun.imp_right Nat.le_succ_of_le, ?_, ?_, ?_⟩
    · show request.start + (n.written + n.skipped) = p.start + v.rows
      omega
    · show p.start + v.rows < all.length
      omega
    · show n.truncated + 1 = 1
      omega
  | full htakes hover hlate hall hv =>
    obtain ⟨rfl, hsum, htruncated⟩ := hopen htakes
    have hle := htakes.1
    have hheld : v.rows = p.seen - p.start := by
      rw [hv.rows_eq, block_length (Nat.le_of_lt hlt)]
    rintro report heq
    cases heq
    refine ⟨_, hledger.truncate, ?_, ?_⟩
    · show request.start + (n.written + n.skipped) = p.start + v.rows
      omega
    · have hmore : p.start + v.rows < all.length := by omega
      show n.truncated + 1 = if p.start + v.rows < all.length then 1 else 0
      rw [if_pos hmore, htruncated]

theorem Balanced.settled {p : Progress} {w : Window} {tally : Tally} {n : Gains}
    (h : Balanced request all before p w tally n) (hunderway : Underway request count all p w)
    (hend : p.seen = all.length) : Settled request all before p.report w tally n := by
  obtain ⟨-, hstart, -, stop, hstop, hcarries, hwhen⟩ := hunderway
  have hheld : w.rows = stop - p.start := by rw [hcarries.rows_eq, block_length (by omega)]
  have hbegun := h.begun
  have hrows := h.rows
  refine ⟨h.toLedger, ?_, ?_⟩
  · show request.start + (n.written + n.skipped) = p.start + w.rows
    split at hrows
    · next haccepting =>
      rw [if_pos haccepting] at hwhen
      omega
    · exact hrows.1
  · show n.truncated = if p.start + w.rows < all.length then 1 else 0
    split at hrows
    · next haccepting =>
      rw [if_pos haccepting] at hwhen
      rw [if_neg (by omega)]
      exact hrows.2
    · rw [if_pos hrows.2.1, hrows.2.2]

section Any

def Counts (before : Tally) (limit : Nat) (tally : Tally) : Prop :=
  ∃ n : Gains, tally = before.plus n ∧ n.fills = 0 ∧ n.counted = 0 ∧ n.truncated ≤ limit

variable {before tally : Tally}

theorem Counts.none (tally : Tally) : Counts tally 0 tally :=
  ⟨.none, tally.plus_none.symm, rfl, rfl, Nat.le_refl _⟩

theorem Counts.add {limit : Nat} {counter : Counter} (h : Counts before limit tally)
    (hcounter : counter = .rowsWritten ∨ counter = .overflowRestarts ∨ counter = .rowsSkipped) :
    Counts before limit (tally.add counter 1) := by
  obtain ⟨n, rfl, hfills, hcounted, hle⟩ := h
  refine ⟨n.add counter 1, before.add_plus n counter 1, ?_⟩
  obtain rfl | rfl | rfl := hcounter
  · exact ⟨hfills, hcounted, hle⟩
  · exact ⟨hfills, hcounted, hle⟩
  · exact ⟨hfills, hcounted, hle⟩

theorem Counts.truncate (h : Counts before 0 tally) :
    Counts before 1 (tally.add .truncatedFills 1) := by
  obtain ⟨n, rfl, hfills, hcounted, hle⟩ := h
  exact ⟨n.add .truncatedFills 1, before.add_plus n .truncatedFills 1, hfills, hcounted,
    Nat.succ_le_succ hle⟩

theorem Counts.mono {limit limit' : Nat} (h : Counts before limit tally) (hle : limit ≤ limit') :
    Counts before limit' tally := by
  obtain ⟨n, htally, hfills, hcounted, htruncated⟩ := h
  exact ⟨n, htally, hfills, hcounted, Nat.le_trans htruncated hle⟩

theorem restart_counts (h : Counts before 0 tally) (request : Request) (columns : Nat)
    (cell : Nat → Value) (row : Nat) (w : Window) :
    (restart request columns cell row w tally).1.Leads
      (fun p _ tally => Counts before (if p.accepting then 0 else 1) tally)
      (fun _ _ tally => Counts before 1 tally)
      (restart request columns cell row w tally).2.1
      (restart request columns cell row w tally).2.2 := by
  -- A fill is truncated when it stops taking rows, and does not take any after that.
  have hrestarted := h.add (.inr (.inl rfl))
  rw [restart]
  split
  · exact h.mono (Nat.zero_le _)
  dsimp only
  split
  · exact hrestarted.add (.inl rfl)
  split
  · exact hrestarted.mono (Nat.zero_le _)
  split
  · exact hrestarted.mono (Nat.zero_le _)
  · exact hrestarted.add (.inr (.inr rfl))

theorem takeRow_counts {p : Progress} (h : Counts before (if p.accepting then 0 else 1) tally)
    (request : Request) (columns : Nat) (cell : Nat → Value) (w : Window) :
    (takeRow request columns cell p w tally).1.Leads
      (fun p _ tally => Counts before (if p.accepting then 0 else 1) tally)
      (fun _ _ tally => Counts before 1 tally)
      (takeRow request columns cell p w tally).2.1
      (takeRow request columns cell p w tally).2.2 := by
  rw [takeRow]
  split
  · exact h
  next hopen =>
  have haccepting : p.accepting = true := by
    simp only [Bool.not_eq_true', not_or, Bool.not_eq_false] at hopen
    exact hopen.2
  have hnone := h
  rw [if_pos haccepting] at hnone
  split
  · exact h.add (.inl rfl)
  dsimp only
  split
  · exact hnone.mono (Nat.zero_le _)
  split
  · exact restart_counts hnone request columns cell p.seen _
  split
  · exact hnone.truncate
  · exact hnone.truncate

theorem countsRule {σ : Type} [Cursor σ] (request : Request) (before : Tally) :
    LoopRule request
      (fun p (_ : σ) _ tally => Counts before (if p.accepting then 0 else 1) tally)
      (fun _ _ _ tally => Counts before 1 tally) where
  error h _ := h.mono (by split <;> decide)
  done h _ := h.mono (by split <;> decide)
  row h _ := takeRow_counts h request _ _ _

theorem pass_counts {σ : Type} [Cursor σ] (request : Request) (c : σ) (w : Window) (tally : Tally) :
    Counts tally 1 (pass request c w tally).2.2.2 := by
  rw [pass]
  split
  · exact (Counts.none tally).mono (Nat.zero_le _)
  · exact (countsRule request tally).takeRows_post (Counts.none tally)

end Any

section Run

variable {σ : Type} [Cursor σ]

theorem balancedRule (request : Request) (before : Tally) (hcount : count < 2 ^ 32) :
    LoopRule request
      (fun p (c : σ) w tally =>
        (p.seen ≤ all.length ∧ Cursor.Delivers count c (all.drop p.seen)) ∧
          Underway request count all p w ∧ ∃ n, Balanced request all before p w tally n)
      (fun outcome _ w tally => ∀ report, outcome = .ok report →
        ∃ n, Settled request all before report w tally n) := by
  refine (supplies_of_delivers count all).loopRule ?_ ?_ ?_
  · rintro p c c' w tally e - - - report heq
    cases heq
  · rintro p c c' w tally - ⟨hunderway, n, hbalanced⟩ - hend report heq
    cases heq
    exact ⟨n, hbalanced.settled hunderway hend⟩
  · rintro p c c' w tally - ⟨hunderway, n, hbalanced⟩ - hrow
    exact ((takeRow_leads hcount hunderway hrow tally).and
      (takeRow_balanced hunderway hbalanced hrow)).mono (fun _ _ h => h) fun _ h => h.2

theorem pass_settled {c : σ} {w : Window} (hw : w.readOnly = false) (hsized : w.Sized)
    (hcount : count < 2 ^ 32) (hc : Cursor.Delivers count c all)
    (hrange : request.start ≤ request.required) (tally : Tally) :
    ∀ report, (pass request c w tally).1 = .ok report →
      ∃ n, Settled request all tally report (pass request c w tally).2.2.1
        (pass request c w tally).2.2.2 n := by
  refine (balancedRule request tally hcount).pass_post hw hsized (hc.columns_eq.symm ▸ hcount) ?_
  intro v hframe hempty
  rw [hc.columns_eq] at hempty
  exact ⟨⟨Nat.zero_le _, hc⟩, underway_start (hsized.of_sameFrame hframe) hempty hrange, .none,
    .none tally request.start, .inl rfl, (Nat.zero_sub _).symm, rfl⟩

/-- What a fill counts. If it succeeds, with a cursor that nothing keeps from delivering its rows,
then each row from the start of the request up to the last one in the window has been written or
skipped, however often the window was emptied for another. If it fails, neither the fill nor the
rows that it has seen are counted. -/
theorem run_balance {w : Window} (hreach : w.Reachable) (request : Request) (c : σ) (tally : Tally)
    {outcome : Except Error Report} {c' : σ} {v : Window} {tally' : Tally}
    (hrun : run request c w tally = (outcome, c', v, tally')) :
    (∀ report count all, outcome = .ok report → Cursor.Delivers count c all →
      ∃ n : Gains, tally' = tally.plus n ∧ n.fills = 1 ∧ n.counted = report.countedRows ∧
        request.start + (n.written + n.skipped) = report.startPosition + v.rows ∧
        n.truncated = (if report.startPosition + v.rows < all.length then 1 else 0) ∧
        n.skipped ≤ n.restarts ∧ n.restarts ≤ n.written + n.skipped ∧
        (n.restarts = 0 ↔ report.startPosition = request.start)) ∧
      ∀ e, outcome = .error e →
        ∃ n : Gains, tally' = tally.plus n ∧ n.fills = 0 ∧ n.counted = 0 ∧ n.truncated ≤ 1 := by
  constructor
  · rintro report count all rfl hc
    obtain ⟨hrange, hw, hcount⟩ := of_run_ok hrun
    rw [hc.columns_eq] at hcount
    obtain ⟨report', hpass, -, hrun'⟩ | ⟨e, -, hrun'⟩ := run_cases request c w tally hrange
    · obtain ⟨n, hsettled⟩ := pass_settled hw hreach.sized hcount hc hrange tally report' hpass
      cases hrun.symm.trans hrun'
      refine ⟨(n.add .fills 1).add .rowsCounted report.countedRows, ?_, ?_, ?_, hsettled.rows,
        hsettled.truncated, hsettled.skipped_le, hsettled.restarts_le, hsettled.restarted⟩
      · rw [hsettled.tally, ← Tally.add_plus, ← Tally.add_plus]
        rfl
      · show n.fills + 1 = 1
        rw [hsettled.fills]
      · show n.counted + report.countedRows = report.countedRows
        rw [hsettled.counted, Nat.zero_add]
    · cases hrun.symm.trans hrun'
  · rintro e rfl
    by_cases hrange : request.start ≤ request.required
    · obtain ⟨report, -, -, hrun'⟩ | ⟨e', -, hrun'⟩ := run_cases request c w tally hrange
      · cases hrun.symm.trans hrun'
      · cases hrun.symm.trans hrun'
        exact pass_counts request c w tally
    · rw [run, if_pos (Nat.lt_of_not_le hrange)] at hrun
      cases hrun
      exact (Counts.none tally).mono (Nat.zero_le 1)

theorem run_balance_restart :
    ∃ (c : TableCursor) (w : Window),
      TableCursor.ofRows 1 #[#[.integer 7], #[.text "row"]] = .ok c ∧
      Window.create "page" 440 = .ok w ∧
      ∃ report c' v tally', run ⟨0, 1, true⟩ c w .zero = (.ok report, c', v, tally') ∧
        ∃ n : Gains, tally' = Tally.zero.plus n ∧ n.fills = 1 ∧ n.written + n.skipped = 2 ∧
          n.truncated = 0 ∧ 0 < n.restarts := by
  -- Both rows are written, the first of them for nothing.
  obtain ⟨c, w, hrows, hcreate, hw, hcapacity, hfresh, hcolumns, hlists⟩ := exists_table_and_window
  have hreach : w.Reachable := .create hcreate
  have hdelivers := hfresh.delivers
  rw [hcolumns, hlists] at hdelivers
  obtain ⟨report, v, tally', hok, hrest, -, hcomplete⟩ | ⟨⟨row, hrow, hlarge⟩, -⟩ :=
    run_settles ⟨0, 1, true⟩ hw hreach.sized (by decide) hdelivers (by decide) .zero
  · have hrun : run ⟨0, 1, true⟩ c w .zero =
        (.ok report, (run ⟨0, 1, true⟩ c w .zero).2.1, v, tally') :=
      Prod.ext hok (Prod.ext rfl hrest)
    have hframe := run_sameFrame ⟨0, 1, true⟩ c w .zero
    rw [hrun] at hframe
    obtain ⟨stop, hstop, hcarries, hlater, -⟩ := hcomplete.held
    have hstop : stop ≤ 2 := hstop
    have hlater : 1 < stop := hlater (by decide)
    obtain rfl : stop = 2 := by omega
    have hheld := hcarries.rows_eq
    rw [block_length hstop] at hheld
    have hstart : report.startPosition ≤ 1 := hcomplete.le_required
    have hmoved : report.startPosition ≠ 0 := by
      intro hzero
      have hfits := hcarries.usedBy_le
      rw [hzero, show v.capacity = 440 from hframe.capacity.trans hcapacity] at hfits
      exact absurd hfits (by decide)
    obtain ⟨n, htally, hfills, -, hsum, htruncated, -, -, hrestarts⟩ :=
      (run_balance hreach _ _ _ hrun).1 report 1 _ rfl hdelivers
    have hsum : 0 + (n.written + n.skipped) = report.startPosition + v.rows := hsum
    refine ⟨c, w, hrows, hcreate, report, _, v, tally', hrun, n, htally, hfills, by omega, ?_,
      Nat.pos_of_ne_zero fun hnone => hmoved (hrestarts.mp hnone)⟩
    rw [htruncated, if_neg (by show ¬ _ < 2; omega)]
  · cases hrow
    rw [hcapacity] at hlarge
    exact absurd hlarge (by decide)

end Run

end Fill

end RowPager
