import RowPager.Proofs.Balance
import RowPager.Proofs.FillDivision
import RowPager.Proofs.Scroll

/-!
Rows that all take the same room. A window holds as many of them wherever it begins, so that what the
first fill held tells what every later one will: no row before the target is taken for nothing, and
the target is in the window with a third of its rows before it.
-/

set_option autoImplicit false

namespace RowPager

namespace Indexed

def Even (t : Indexed) (payload : Nat) : Prop := ∀ row ∈ t.rows, Layout.rowPayload row = payload

variable {t : Indexed} {payload start stop : Nat}

theorem Even.payloads (h : t.Even payload) (hstop : stop ≤ t.rows.length) :
    (Fill.block t.rows start stop).map Layout.rowPayload = List.replicate (stop - start) payload := by
  rw [List.eq_replicate_iff, List.length_map, Fill.block_length hstop]
  refine ⟨rfl, fun size hsize => ?_⟩
  obtain ⟨row, hrow, rfl⟩ := List.mem_map.mp hsize
  exact h row (List.mem_of_mem_take (List.mem_of_mem_drop hrow))

theorem Even.blockSize_eq (h : t.Even payload) (hstop : stop ≤ t.rows.length) :
    t.blockSize start stop = t.blockSize 0 (stop - start) := by
  apply Layout.usedFrom_congr
  rw [h.payloads hstop, h.payloads (Nat.le_trans (Nat.sub_le stop start) hstop), Nat.sub_zero]

theorem Even.reach_eq (h : t.Even payload) (hcapacity : Layout.minCapacity ≤ t.capacity)
    (hstart : start ≤ t.rows.length) : t.reach start = min t.rows.length (start + t.reach 0) := by
  have hfirst := isGreatest_reach hcapacity (Nat.zero_le t.rows.length)
  obtain ⟨⟨hle, hfits⟩, hgreatest⟩ := hfirst
  refine (isGreatest_reach hcapacity hstart).unique ⟨⟨Nat.min_le_left _ _, ?_⟩, ?_⟩
  · rw [h.blockSize_eq (Nat.min_le_left _ _)]
    exact Nat.le_trans (blockSize_mono (by omega)) hfits
  · rintro stop ⟨hstop, hroom⟩
    rw [h.blockSize_eq hstop] at hroom
    have hlength := hgreatest ⟨Nat.le_trans (Nat.sub_le stop start) hstop, hroom⟩
    omega

/-- A block that begins with a third of its rows before the target ends after the target. -/
theorem Even.division_eq (h : t.Even payload) (hcapacity : Layout.minCapacity ≤ t.capacity)
    (hfirst : t.fits 0 = true) {target : Nat} (htarget : target < t.rows.length ∨ target = 0) :
    t.division target (target - t.reach 0 / 3) =
      .ok (target - t.reach 0 / 3, min t.rows.length (target - t.reach 0 / 3 + t.reach 0)) := by
  by_cases hempty : t.rows.length = 0
  · obtain rfl : target = 0 := by omega
    rw [division_of_length_le (by omega), Nat.zero_sub, hempty, Nat.zero_min]
  have hlt : target - t.reach 0 / 3 < t.rows.length := by omega
  have hheld : 0 < t.reach 0 := lt_reach_of_fits (Nat.pos_of_ne_zero hempty) hfirst
  have hreach := h.reach_eq hcapacity (Nat.le_of_lt hlt)
  have hlast : t.reach (target - t.reach 0 / 3) = t.rows.length ∨
      target < t.reach (target - t.reach 0 / 3) := by
    rw [hreach]
    omega
  rw [division_of_reach hlt hlast, hreach]

end Indexed

namespace Fill

theorem block_eq_take_drop (all : List (List Value)) (start stop : Nat) :
    block all start stop = (all.drop start).take (stop - start) := List.drop_take

variable {σ : Type} [Cursor σ] {t : Indexed} {c : σ} {w : Window} {stop : Nat}

theorem run_of_division {request : Request} (hrange : request.start ≤ request.required)
    (hw : w.readOnly = false) (hsized : w.Sized) (hcapacity : w.capacity = t.capacity)
    (hcount : t.columns < 2 ^ 32) (hc : Cursor.Delivers t.columns c t.rows)
    (hdivision : t.division request.required request.start = .ok (request.start, stop))
    (tally : Tally) :
    ∃ c' v tally', run request c w tally = (.ok ⟨request.start, countedTo request t stop⟩, c', v, tally') ∧
      v.startPosition = request.start ∧ v.Carries t.columns (block t.rows request.start stop) ∧
      tally'.overflowRestarts = tally.overflowRestarts ∧
      tally'.rowsSkipped = tally.rowsSkipped := by
  have hdivides := pass_divides request hw hsized hcapacity hcount hc tally
  obtain ⟨hsettles, hreset⟩ := pass_settles hw hsized hcount hc hrange tally
  have hsettled := pass_settled hw hsized hcount hc hrange tally
  obtain ⟨⟨start, counted⟩, hpass, -, hrun⟩ | ⟨e, hcause, -⟩ := run_cases request c w tally hrange
  · obtain ⟨n, hledger, -⟩ := hsettled _ hpass
    rw [hpass] at hdivides hsettles
    obtain ⟨stop', hdivision', hrows, hcounted⟩ := hdivides
    obtain ⟨hstart, rfl⟩ := Prod.mk.inj (Except.ok.inj (hdivision'.symm.trans hdivision))
    have hstart : start = request.start := hstart
    have hcounted : counted = countedTo request t stop' := hcounted
    subst hstart hcounted
    have hrestarts : n.restarts = 0 := hledger.restarted.mpr rfl
    have hskipped : n.skipped = 0 := Nat.le_zero.mp (hrestarts ▸ hledger.skipped_le)
    refine ⟨_, _, _, hrun, rfl, ?_, ?_, ?_⟩
    · obtain ⟨last, hlast, hcarries, -⟩ := hsettles.held
      have hlength := hcarries.rows_eq
      rw [block_length hlast, hrows] at hlength
      rw [block_eq_take_drop, hlength, ← block_eq_take_drop]
      exact hcarries.setStart request.start
    · show (pass request c w tally).2.2.2.overflowRestarts = tally.overflowRestarts
      rw [hledger.tally]
      simp [Tally.plus, hrestarts]
    · show (pass request c w tally).2.2.2.rowsSkipped = tally.rowsSkipped
      rw [hledger.tally]
      simp [Tally.plus, hskipped]
  · obtain herror | ⟨-, cause, hfails, -⟩ := hcause
    · rw [herror] at hdivides
      obtain ⟨row, hrow, -⟩ := hdivides
      cases hdivision.symm.trans hrow
    · cases hreset.symm.trans hfails

end Fill

/-- The window shows the rows from one position up to another, without the latter, and no others. -/
structure Window.ShowsRows (w : Window) (rows : List (List Value)) (start stop : Nat) : Prop where
  place : w.startPosition = start
  count : w.rows = stop - start
  cells : ∀ row, start ≤ row → row < stop → ∃ cells, rows[row]? = some cells ∧
    ∀ (column : Nat) (value : Value), cells[column]? = some value → ∀ getter,
      w.get (row - start) column getter = value.answer (row - start) column getter

theorem Window.Carries.showsRows {w : Window} {columns : Nat} {rows : List (List Value)}
    {start stop : Nat} (h : w.Carries columns (Fill.block rows start stop))
    (hplace : w.startPosition = start) (hstop : stop ≤ rows.length) :
    w.ShowsRows rows start stop where
  place := hplace
  count := by rw [h.rows_eq, Fill.block_length hstop]
  cells := by
    intro row hle hlt
    have hcells := List.getElem?_eq_getElem (show row < rows.length by omega)
    have hblock : (Fill.block rows start stop)[row - start]? = rows[start + (row - start)]? :=
      Fill.getElem?_block (by omega)
    rw [Nat.add_sub_cancel' hle, hcells] at hblock
    exact ⟨_, hcells, fun column value hvalue getter => h.get_eq hblock hvalue getter⟩

namespace Pager

def Call.target (position : Option Nat) : Call → Option Nat
  | .moveTo target => some target
  | .first => some 0
  | .next =>
    match position with
    | none => some 0
    | some position => some (position + 1)
  | .previous =>
    match position with
    | none | some 0 => none
    | some (before + 1) => some before
  | .count | .get _ _ => none

section Call

variable {σ : Type} [Cursor σ] {p : Pager σ} {call : Call} {target : Nat}

theorem call_of_target (h : call.target p.position = some target) :
    p.call call = ((p.moveTo target).1.map .moved, (p.moveTo target).2) := by
  cases call with
  | count => cases h
  | get getter column => cases h
  | moveTo row => cases h; rfl
  | first => cases h; rfl
  | next =>
    rw [Pager.call, Pager.next]
    cases hp : p.position with
    | none => rw [hp] at h; cases h; rfl
    | some position => rw [hp] at h; cases h; rfl
  | previous =>
    rw [Pager.call, Pager.previous]
    cases hp : p.position with
    | none => rw [hp] at h; cases h
    | some position =>
      cases position with
      | zero => rw [hp] at h; cases h
      | succ before => rw [hp] at h; cases h; rfl

theorem call_of_no_target (h : call.target p.position = none) :
    (p.call call).2 = p ∨ (p.call call).2 = { p with position := none } ∨
      (p.call call).2 = p.count.2 := by
  cases call with
  | count => exact .inr (.inr rfl)
  | get getter column => exact .inl rfl
  | moveTo row => cases h
  | first => cases h
  | next =>
    cases hp : p.position with
    | none => rw [hp] at h; cases h
    | some position => rw [hp] at h; cases h
  | previous =>
    right; left
    rw [Pager.call, Pager.previous]
    cases hp : p.position with
    | none => rfl
    | some position =>
      cases position with
      | zero => rfl
      | succ before => rw [hp] at h; cases h

end Call

/-- Nothing has been restarted or skipped, and the first fill told how many rows the window holds. -/
structure Centred (p : Pager TableCursor) (t : Indexed) : Prop extends p.Serves t where
  restarts : p.tally.overflowRestarts = 0
  skipped : p.tally.rowsSkipped = 0
  counted : p.total = none ∨ p.total = some t.rows.length ∧ p.heldRows = t.reach 0

variable {p : Pager TableCursor} {t : Indexed} {payload : Nat}

theorem Centred.moved (h : p.Centred t) (position : Option Nat) :
    ({ p with position := position } : Pager TableCursor).Centred t :=
  ⟨h.toServes.moved position, h.restarts, h.skipped, h.counted⟩

theorem Serves.room (h : p.Serves t) : Layout.minCapacity ≤ t.capacity :=
  h.capacity ▸ h.sized.minimum

theorem Centred.total_eq (h : p.Centred t) {total : Nat} (htotal : p.total = some total) :
    total = t.rows.length := by
  obtain hnone | ⟨hsome, -⟩ := h.counted
  · cases hnone.symm.trans htotal
  · exact Option.some.inj (htotal.symm.trans hsome)

theorem Centred.fillRequest_start (h : p.Centred t) {target : Nat}
    (hzero : p.total = none → target = 0) :
    (p.fillRequest target).start = target - t.reach 0 / 3 := by
  rw [fillRequest]
  obtain hnone | ⟨htotal, hheld⟩ := h.counted
  · rw [hnone, hzero hnone]
    simp [Fill.centredStart]
  · rw [htotal, hheld]
    rfl

theorem Centred.heldRows_refilled (h : p.Centred t) {target rows : Nat}
    (hzero : p.total = none → target = 0)
    (hrows : rows = min t.rows.length (target - t.reach 0 / 3 + t.reach 0) -
      (target - t.reach 0 / 3)) :
    (if p.total.isNone then rows else p.heldRows) = t.reach 0 := by
  obtain hnone | ⟨htotal, hheld⟩ := h.counted
  · have hle : t.reach 0 ≤ t.rows.length := Indexed.reach_le
    rw [hnone, hrows, hzero hnone]
    show min t.rows.length (0 - t.reach 0 / 3 + t.reach 0) - (0 - t.reach 0 / 3) = t.reach 0
    omega
  · rw [htotal]
    exact hheld

theorem Centred.refill (h : p.Centred t) (heven : t.Even payload) (hfirst : t.fits 0 = true)
    (hcount : t.columns < 2 ^ 32) {target : Nat} (hzero : p.total = none → target = 0)
    (hlt : p.total.isSome → target < t.rows.length) :
    ∃ p', p.refill target = (.ok (), p') ∧ p'.Centred t ∧ p'.total = some t.rows.length ∧
      p'.window.ShowsRows t.rows (target - t.reach 0 / 3)
        (min t.rows.length (target - t.reach 0 / 3 + t.reach 0)) := by
  have htarget : target < t.rows.length ∨ target = 0 := by
    cases htotal : p.total with
    | none => exact .inr (hzero htotal)
    | some total => exact .inl (hlt (htotal ▸ rfl))
  have hdivision := heven.division_eq h.room hfirst htarget
  have hstart := h.fillRequest_start hzero
  have hdelivers := h.fresh.delivers
  rw [h.rows, h.columns] at hdelivers
  obtain ⟨c, v, tally, hrun, hplace, hcarries, hrestarts, hskipped⟩ :=
    Fill.run_of_division (p.fillRequest_range target) h.writable h.sized h.capacity hcount hdelivers
      (hstart ▸ hdivision) p.tally
  rw [hstart] at hplace hcarries
  have hrefill := p.refill_eq target
  rw [hrun] at hrefill
  obtain ⟨p', hp', hserves, -, htotal, -⟩ | ⟨-, p', herror, -⟩ :=
    h.toServes.refill hcount (fun _ => h.total_eq) target
  · cases hrefill.symm.trans hp'
    have hrows := hcarries.rows_eq
    rw [Fill.block_length (Nat.min_le_left _ _)] at hrows
    exact ⟨_, hrefill, ⟨hserves, hrestarts.trans h.restarts, hskipped.trans h.skipped,
      .inr ⟨htotal, h.heldRows_refilled hzero hrows⟩⟩, htotal,
      hcarries.showsRows hplace (Nat.min_le_left _ _)⟩
  · cases hrefill.symm.trans herror

theorem Centred.count (h : p.Centred t) (heven : t.Even payload) (hfirst : t.fits 0 = true)
    (hcount : t.columns < 2 ^ 32) :
    p.count.1 = .ok t.rows.length ∧ p.count.2.Centred t ∧ p.count.2.total = some t.rows.length ∧
      (p.total = none → p.count.2.window.ShowsRows t.rows 0 (t.reach 0)) := by
  rw [Pager.count]
  cases htotal : p.total with
  | some total =>
    obtain rfl := h.total_eq htotal
    exact ⟨rfl, h, htotal, fun hnone => by cases hnone⟩
  | none =>
    obtain ⟨p', hrefill, hcentred, hcounted, hblock⟩ :=
      h.refill heven hfirst hcount (fun _ => rfl) (fun hsome => by rw [htotal] at hsome; cases hsome)
    rw [Nat.zero_sub, Nat.zero_add, Nat.min_eq_right Indexed.reach_le] at hblock
    simp only [hrefill]
    refine ⟨?_, hcentred, hcounted, fun _ => hblock⟩
    rw [hcounted]
    rfl

theorem Centred.moveTo (h : p.Centred t) (heven : t.Even payload) (hfirst : t.fits 0 = true)
    (hcount : t.columns < 2 ^ 32) (target : Nat) :
    (p.moveTo target).2.Centred t ∧
      (t.rows.length ≤ target → (p.moveTo target).2.window = p.count.2.window) ∧
      (target < t.rows.length → (p.moveTo target).1 = .ok true ∧
        (p.count.2.holds target = true → (p.moveTo target).2.window = p.count.2.window) ∧
        (p.count.2.holds target = false →
          (p.moveTo target).2.window.ShowsRows t.rows (target - t.reach 0 / 3)
            (min t.rows.length (target - t.reach 0 / 3 + t.reach 0)))) := by
  obtain ⟨hanswer, hcentred, htotal, -⟩ := h.count heven hfirst hcount
  rw [Pager.moveTo]
  cases hc : p.count with
  | mk answer q =>
  rw [hc] at hanswer hcentred htotal
  cases hanswer
  by_cases hend : t.rows.length ≤ target
  · simp only [if_pos hend]
    exact ⟨hcentred.moved _, fun _ => trivial, fun hlt => by omega⟩
  simp only [if_neg hend]
  have hlt := Nat.lt_of_not_le hend
  cases hheld : q.holds target with
  | true =>
    exact ⟨hcentred.moved _, fun hle => absurd hle hend,
      fun _ => ⟨rfl, fun _ => rfl, fun houtside => by cases houtside⟩⟩
  | false =>
    obtain ⟨q', hrefill, hcentred', -, hblock⟩ := hcentred.refill heven hfirst hcount
      (fun hnone => by cases hnone.symm.trans htotal) (fun _ => hlt)
    simp only [Bool.false_eq_true, if_false, hrefill]
    exact ⟨hcentred'.moved _, fun hle => absurd hle hend,
      fun _ => ⟨trivial, False.elim, fun _ => hblock⟩⟩

theorem Centred.call (h : p.Centred t) (heven : t.Even payload) (hfirst : t.fits 0 = true)
    (hcount : t.columns < 2 ^ 32) (call : Call) : (p.call call).2.Centred t := by
  cases htarget : call.target p.position with
  | some target =>
    rw [call_of_target htarget]
    exact (h.moveTo heven hfirst hcount target).1
  | none =>
    obtain hsame | hsame | hsame := call_of_no_target htarget
    · rwa [hsame]
    · rw [hsame]
      exact h.moved none
    · rw [hsame]
      exact (h.count heven hfirst hcount).2.1

theorem Centred.after (h : p.Centred t) (heven : t.Even payload) (hfirst : t.fits 0 = true)
    (hcount : t.columns < 2 ^ 32) (calls : List Call) : (p.after calls).Centred t := by
  induction calls generalizing p with
  | nil => exact h
  | cons call calls ih => exact ih (h.call heven hfirst hcount call)

/-- When all rows take the same room and the first one fits, no fill restarts or skips anything. With
the number of rows that the first fill held, a move to a row that the window does not hold leaves it
with the rows from a third of that number before the target on, as many as in the first fill or up to
the last. No other call changes the rows in the window. -/
theorem ofParts_centred {c : TableCursor} (hc : c.Fresh) (hcount : c.columns < 2 ^ 32) {w : Window}
    (hreach : w.Reachable) (hw : w.readOnly = false) {payload : Nat}
    (heven : ∀ row ∈ c.lists, Layout.rowPayload row = payload)
    (hfirst : ∀ row, c.lists[0]? = some row → Layout.loneSize c.columns row ≤ w.capacity)
    {held : Nat} (hheld : held = (ofParts c w).count.2.window.rows) {calls : List Call}
    {p : Pager TableCursor} (hp : p = (ofParts c w).after calls) :
    p.tally.overflowRestarts = 0 ∧ p.tally.rowsSkipped = 0 ∧
      (p.total = none → p.count.2.window.ShowsRows c.lists 0 held) ∧
      ∀ call : Call,
        (∀ target, call.target p.position = some target → target < c.lists.length →
          (p.call call).1 = .ok (.moved true) ∧
            (p.count.2.holds target = true → (p.call call).2.window = p.count.2.window) ∧
            (p.count.2.holds target = false →
              (p.call call).2.window.ShowsRows c.lists (target - held / 3)
                (min c.lists.length (target - held / 3 + held)))) ∧
          ((∀ target, call.target p.position = some target → c.lists.length ≤ target) →
            (p.call call).2.window = p.window ∨ (p.call call).2.window = p.count.2.window) := by
  have heven : (Indexed.ofTable c w).Even payload := heven
  have hfirst : (Indexed.ofTable c w).fits 0 = true := by
    cases hrow : (Indexed.ofTable c w).rows[0]? with
    | none => exact Indexed.fits_of_le (List.getElem?_eq_none_iff.mp hrow)
    | some row => exact Indexed.fits_of_loneSize_le hrow (hfirst row hrow)
  have hstart : (ofParts c w).Centred (.ofTable c w) :=
    ⟨⟨hc, rfl, rfl, hw, hreach.sized, rfl⟩, rfl, rfl, .inl rfl⟩
  have hreached : held = (Indexed.ofTable c w).reach 0 := by
    obtain ⟨-, -, -, hshows⟩ := hstart.count heven hfirst hcount
    rw [hheld, (hshows rfl).count, Nat.sub_zero]
  rw [hreached]
  have hcentred := hstart.after heven hfirst hcount calls
  rw [← hp] at hcentred
  refine ⟨hcentred.restarts, hcentred.skipped, (hcentred.count heven hfirst hcount).2.2.2,
    fun call => ⟨fun target htarget hlt => ?_, fun hpast => ?_⟩⟩
  · obtain ⟨-, -, hinside⟩ := hcentred.moveTo heven hfirst hcount target
    obtain ⟨hmoved, hsame, hshows⟩ := hinside hlt
    rw [call_of_target htarget, hmoved]
    exact ⟨rfl, hsame, hshows⟩
  · cases htarget : call.target p.position with
    | some target =>
      obtain ⟨-, houtside, -⟩ := hcentred.moveTo heven hfirst hcount target
      rw [call_of_target htarget]
      exact .inr (houtside (hpast target htarget))
    | none =>
      obtain hsame | hsame | hsame := call_of_no_target htarget
      · exact .inl (by rw [hsame])
      · exact .inl (by rw [hsame])
      · exact .inr (by rw [hsame])

theorem ofParts_centred_last :
    ∃ (c : TableCursor) (w : Window),
      TableCursor.ofRows 1 #[#[.integer 0], #[.integer 1], #[.integer 2], #[.integer 3],
        #[.integer 4]] = .ok c ∧
      Window.create "page" 468 = .ok w ∧
      ((ofParts c w).call (.moveTo 4)).1 = .ok (.moved true) ∧
      ((ofParts c w).call (.moveTo 4)).2.window.ShowsRows c.lists 3 5 := by
  -- Three rows fit, so that the last of five is shown after one other.
  obtain ⟨w, hcreate, hw, hstores⟩ :=
    Window.create_stores "page" (show Layout.minCapacity ≤ 468 by decide) (by decide)
  obtain ⟨c, hrows⟩ : ∃ c, TableCursor.ofRows 1 #[#[.integer 0], #[.integer 1], #[.integer 2],
      #[.integer 3], #[.integer 4]] = .ok c := by
    simp [TableCursor.ofRows]
  obtain ⟨hfresh, hcolumns, htable⟩ := TableCursor.ofRows_fresh hrows
  have hlists : c.lists = [[.integer 0], [.integer 1], [.integer 2], [.integer 3], [.integer 4]] := by
    rw [TableCursor.lists, htable]
    rfl
  have hcapacity : w.capacity = 468 := hstores.capacity
  have hreach : w.Reachable := .create hcreate
  have hcount : c.columns < 2 ^ 32 := hcolumns ▸ by decide
  have heven : ∀ row ∈ c.lists, Layout.rowPayload row = 0 := hlists ▸ by decide
  have hfirst : ∀ row, c.lists[0]? = some row → Layout.loneSize c.columns row ≤ w.capacity := by
    intro row hrow
    rw [hlists] at hrow
    cases hrow
    rw [hcolumns, hcapacity]
    decide
  obtain ⟨-, -, hshows, hcalls⟩ := ofParts_centred hfresh hcount hreach hw heven hfirst rfl
    (show ofParts c w = (ofParts c w).after [] from rfl)
  have hparts : Indexed.ofTable c w = ⟨[[.integer 0], [.integer 1], [.integer 2], [.integer 3],
      [.integer 4]], 1, 468⟩ := by
    rw [Indexed.ofTable, hcolumns, hcapacity]
    exact congrArg (Indexed.mk · 1 468) hlists
  have hheld : (ofParts c w).count.2.window.rows = 3 := by
    have hthree : (Indexed.ofTable c w).reach 0 = 3 := by
      rw [hparts]
      exact Indexed.reach_eq (by decide) (by decide) (by decide) (by decide)
    have hstart : (ofParts c w).Centred (.ofTable c w) :=
      ⟨⟨hfresh, rfl, rfl, hw, hreach.sized, rfl⟩, rfl, rfl, .inl rfl⟩
    have hfits : (Indexed.ofTable c w).fits 0 = true := by
      rw [hparts]
      decide
    obtain ⟨-, -, -, hcounted⟩ := hstart.count heven hfits hcount
    rw [(hcounted rfl).count, hthree]
  rw [hheld] at hshows hcalls
  have hcounted := hshows rfl
  have hlength : c.lists.length = 5 := by
    rw [hlists]
    rfl
  obtain ⟨hmoved, -, hblock⟩ := (hcalls (.moveTo 4)).1 4 rfl (by omega)
  have houtside : (ofParts c w).count.2.holds 4 = false := by
    simp [holds, hcounted.place, hcounted.count]
  have hblock := hblock houtside
  rw [hlength] at hblock
  exact ⟨c, w, hrows, hcreate, hmoved, hblock⟩

end Pager

end RowPager
