import RowPager.Proofs.Delivery

/-!
What a table shows from one reset to the next, when its steps are mixed with cancellations in any
way. The rows come in their order, and a step that fails neither loses nor repeats one.
-/

set_option autoImplicit false

namespace RowPager.TableCursor

inductive Call where
  | step
  | reset
  | cancel
  | resume

def Call.flag : Bool → Call → Bool
  | canceled, .step => canceled
  | canceled, .reset => canceled
  | _, .cancel => true
  | _, .resume => false

structure Observed where
  cursor : TableCursor
  /-- The rows, as they read when they were delivered. -/
  rows : List (List Value)
  /-- How often the end was reported. -/
  ends : Nat

def observe (c : TableCursor) : Observed := ⟨c, [], 0⟩

namespace Observed

def call (o : Observed) : Call → Observed
  | .step =>
    match o.cursor.step with
    | (.ok .row, c) => ⟨c, o.rows ++ [rowOf c.columns c.cell], o.ends⟩
    | (.ok .done, c) => ⟨c, o.rows, o.ends + 1⟩
    | (.error _, c) => ⟨c, o.rows, o.ends⟩
  | .reset => observe o.cursor.reset.2
  | .cancel => { o with cursor := o.cursor.cancel }
  | .resume => { o with cursor := o.cursor.resume }

def after (o : Observed) (calls : List Call) : Observed := calls.foldl call o

end Observed

structure Unstarted (c : TableCursor) : Prop where
  width : ∀ row ∈ c.rows, row.size = c.columns
  position : c.position = none
  done : c.done = false

theorem Fresh.unstarted {c : TableCursor} (h : c.Fresh) : c.Unstarted :=
  ⟨h.width, h.position, h.done⟩

theorem Unstarted.failingAt {c : TableCursor} (h : c.Unstarted) (row : Nat) (e : CursorError) :
    (c.failingAt row e).Unstarted := ⟨h.width, h.position, h.done⟩

theorem Unstarted.failingReset {c : TableCursor} (h : c.Unstarted) (e : CursorError) :
    (c.failingReset e).Unstarted := ⟨h.width, h.position, h.done⟩

namespace Observed

/-- Where the cursor stands is known from what it has shown. -/
structure Tracks (o : Observed) (origin : TableCursor) : Prop
    extends o.cursor.SameTable origin where
  order : o.rows = origin.lists.take o.rows.length
  barred : ∀ {row : Nat} {e : CursorError}, origin.failAt = some (row, e) →
    o.rows.length + o.ends ≤ row
  state : o.ends = 0 ∧ o.cursor.done = false ∧ o.cursor.next = o.rows.length ∨
    o.ends = 1 ∧ o.cursor.done = true ∧ o.cursor.position = none ∧ o.rows = origin.lists

variable {o : Observed} {origin : TableCursor}

theorem tracks_observe {c : TableCursor} (hsame : c.SameTable origin) (hposition : c.position = none)
    (hdone : c.done = false) : (observe c).Tracks origin where
  toSameTable := hsame
  order := rfl
  barred _ := Nat.zero_le _
  state := .inl ⟨rfl, hdone, by rw [observe, next, hposition]; rfl⟩

theorem Tracks.delivered (h : o.Tracks origin)
    (hwidth : ∀ row ∈ origin.rows, row.size = origin.columns)
    (hnext : o.cursor.next = o.rows.length) (hlt : o.cursor.next < o.cursor.rows.size) :
    origin.lists[o.rows.length]? = some (rowOf o.cursor.columns
      (cell { o.cursor with steps := o.cursor.steps + 1, position := some o.cursor.next })) := by
  have hwidth : ∀ row ∈ o.cursor.rows, row.size = o.cursor.columns := by
    rw [h.rows, h.columns]
    exact hwidth
  rw [← hnext, ← h.toSameTable.lists_eq]
  exact getElem?_lists
    (c := { o.cursor with steps := o.cursor.steps + 1, position := some o.cursor.next })
    hwidth rfl hlt

/-- No step passes the row whose failure is arranged, whether it delivers a row or reports the end. -/
theorem Tracks.before (h : o.Tracks origin) (hends : o.ends = 0)
    (hnext : o.cursor.next = o.rows.length)
    (hfail : ∀ e, o.cursor.failAt ≠ some (o.cursor.next, e)) {row : Nat} {e : CursorError}
    (hbar : origin.failAt = some (row, e)) : o.rows.length < row := by
  have hle := h.barred hbar
  have hne : row ≠ o.rows.length := by
    rintro rfl
    exact hfail e (by rw [hnext, h.failAt, hbar])
  omega

theorem Tracks.unfinished (h : o.Tracks origin) (hdone : o.cursor.done = false) :
    o.ends = 0 ∧ o.cursor.next = o.rows.length := by
  obtain ⟨hends, -, hnext⟩ | ⟨-, hended, -⟩ := h.state
  · exact ⟨hends, hnext⟩
  · cases hdone.symm.trans hended

theorem Tracks.call_step (h : o.Tracks origin)
    (hwidth : ∀ row ∈ origin.rows, row.size = origin.columns) : (o.call .step).Tracks origin := by
  have hsame := o.cursor.step_sameTable.trans h.toSameTable
  have hsteps := o.cursor.steps_step
  rw [call]
  generalize o.cursor.step = r at hsame hsteps ⊢
  cases hsteps with
  | error e => exact ⟨hsame, h.order, h.barred, h.state⟩
  | row hdone hfail hlt =>
    obtain ⟨hends, hnext⟩ := h.unfinished hdone
    have hcells := h.delivered hwidth hnext hlt
    refine ⟨hsame, ?_, fun hbar => ?_, .inl ⟨hends, hdone, ?_⟩⟩
    · rw [List.length_append, List.length_singleton, List.take_add_one, hcells, ← h.order]
      rfl
    · have hbefore := h.before hends hnext hfail hbar
      rw [List.length_append, List.length_singleton]
      show o.rows.length + 1 + o.ends ≤ _
      omega
    · rw [List.length_append, List.length_singleton, ← hnext]
      rfl
  | done hdone hfail hge =>
    obtain ⟨hends, hnext⟩ := h.unfinished hdone
    refine ⟨hsame, h.order, fun hbar => ?_, .inr ⟨congrArg (· + 1) hends, rfl, rfl, ?_⟩⟩
    · have hbefore := h.before hends hnext hfail hbar
      show o.rows.length + (o.ends + 1) ≤ _
      omega
    · rw [h.order, List.take_of_length_le]
      rwa [length_lists, ← h.rows, ← hnext]

theorem Tracks.call (h : o.Tracks origin)
    (hwidth : ∀ row ∈ origin.rows, row.size = origin.columns) (call : Call) :
    (o.call call).Tracks origin := by
  cases call with
  | step => exact h.call_step hwidth
  | reset => exact tracks_observe ⟨h.columns, h.rows, h.failAt, h.resetFailure⟩ rfl rfl
  | cancel =>
    exact ⟨⟨h.columns, h.rows, h.failAt, h.resetFailure⟩, h.order, h.barred, h.state⟩
  | resume =>
    exact ⟨⟨h.columns, h.rows, h.failAt, h.resetFailure⟩, h.order, h.barred, h.state⟩

theorem Tracks.after (h : o.Tracks origin)
    (hwidth : ∀ row ∈ origin.rows, row.size = origin.columns) (calls : List Call) :
    (o.after calls).Tracks origin := by
  induction calls generalizing o with
  | nil => exact h
  | cons call calls ih => exact ih (h.call hwidth call)

theorem cursor_call_step (o : Observed) : (o.call .step).cursor = o.cursor.step.2 := by
  rw [call]
  cases o.cursor.step with
  | mk answer c =>
  match answer with
  | .ok .row => rfl
  | .ok .done => rfl
  | .error _ => rfl

theorem call_canceled (o : Observed) (call : Call) :
    (o.call call).cursor.canceled = call.flag o.cursor.canceled := by
  cases call with
  | step =>
    rw [cursor_call_step]
    exact o.cursor.step_canceled
  | reset => rfl
  | cancel => rfl
  | resume => rfl

theorem after_canceled (o : Observed) (calls : List Call) :
    (o.after calls).cursor.canceled = calls.foldl Call.flag o.cursor.canceled := by
  induction calls generalizing o with
  | nil => rfl
  | cons call calls ih =>
    rw [List.foldl_cons, ← o.call_canceled]
    exact ih (o.call call)

/-- What was shown since the last reset, and what will be shown next. -/
structure Orderly (o : Observed) (origin : TableCursor) : Prop where
  /-- No row is lost, and none comes twice. -/
  order : o.rows <+: origin.lists
  barred : ∀ {row : Nat} {e : CursorError}, origin.failAt = some (row, e) →
    o.rows.length + o.ends ≤ row
  once : o.ends ≤ 1
  complete : o.ends = 1 → o.rows = origin.lists
  shown : o.ends = 0 → ∀ {cells : List Value}, o.rows.getLast? = some cells → ∀ column : Nat,
    o.cursor.cell column = cells[column]?.getD .null
  blank : o.rows = [] ∨ o.ends = 1 → ∀ column : Nat,
    (o.cursor.cell column).type = .null ∧ (o.cursor.cell column).asInteger = 0 ∧
      (o.cursor.cell column).asFloat = ⟨0⟩ ∧ (o.cursor.cell column).asText = "" ∧
      (o.cursor.cell column).asBlob = ByteArray.empty
  canceled : o.cursor.canceled = true →
    o.cursor.step = (.error .canceled, { o.cursor with steps := o.cursor.steps + 1 })
  ended : o.cursor.canceled = false → o.ends = 1 →
    o.cursor.step = (.error (.misuse "step after done without reset"),
      { o.cursor with steps := o.cursor.steps + 1 })
  failing : o.cursor.canceled = false → o.ends = 0 → ∀ {e : CursorError},
    origin.failAt = some (o.rows.length, e) →
      o.cursor.step = (.error e, { o.cursor with steps := o.cursor.steps + 1 })
  row : o.cursor.canceled = false → o.ends = 0 →
    (∀ e, origin.failAt ≠ some (o.rows.length, e)) → ∀ {cells : List Value},
      origin.lists[o.rows.length]? = some cells →
        ∃ c, o.cursor.step = (.ok .row, c) ∧ rowOf c.columns c.cell = cells
  done : o.cursor.canceled = false → o.ends = 0 →
    (∀ e, origin.failAt ≠ some (o.rows.length, e)) → o.rows = origin.lists →
      ∃ c, o.cursor.step = (.ok .done, c)
  reset : o.cursor.reset.1 =
    match origin.resetFailure with
    | some e => .error e
    | none => .ok ()

theorem Tracks.length_le (h : o.Tracks origin) : o.rows.length ≤ origin.lists.length := by
  have hlength := congrArg List.length h.order
  rw [List.length_take] at hlength
  omega

theorem Tracks.running (h : o.Tracks origin) (hends : o.ends = 0) :
    o.cursor.done = false ∧ o.cursor.next = o.rows.length := by
  obtain ⟨-, hdone, hnext⟩ | ⟨hended, -⟩ := h.state
  · exact ⟨hdone, hnext⟩
  · cases hends.symm.trans hended

theorem Tracks.over (h : o.Tracks origin) (hends : o.ends = 1) :
    o.cursor.done = true ∧ o.cursor.position = none ∧ o.rows = origin.lists := by
  obtain ⟨hrunning, -⟩ | ⟨-, hover⟩ := h.state
  · cases hends.symm.trans hrunning
  · exact hover

theorem Tracks.cell_eq (h : o.Tracks origin) (hends : o.ends = 0) {cells : List Value}
    (hlast : o.rows.getLast? = some cells) (column : Nat) :
    o.cursor.cell column = cells[column]?.getD .null := by
  have hne : o.rows.length ≠ 0 := by
    intro hnil
    rw [List.eq_nil_of_length_eq_zero hnil] at hlast
    cases hlast
  have hposition := position_of_next (h.running hends).2
  rw [if_neg hne] at hposition
  rw [List.getLast?_eq_getElem?, h.order, List.length_take_of_le h.length_le,
    List.getElem?_take_of_lt (Nat.sub_one_lt hne), ← h.toSameTable.lists_eq] at hlast
  exact cell_of_position hposition hlast

theorem Tracks.orderly (h : o.Tracks origin)
    (hwidth : ∀ row ∈ origin.rows, row.size = origin.columns) : o.Orderly origin where
  order := h.order ▸ List.take_prefix _ _
  barred := h.barred
  once := by
    obtain ⟨hends, -⟩ | ⟨hends, -⟩ := h.state
    · omega
    · omega
  complete hends := (h.over hends).2.2
  shown := h.cell_eq
  blank := by
    intro hblank column
    have hposition : o.cursor.position = none := by
      obtain ⟨hrunning, -, hnext⟩ | ⟨-, -, hposition, -⟩ := h.state
      · obtain hnil | hends := hblank
        · rw [hnil] at hnext
          exact position_of_next hnext
        · cases hrunning.symm.trans hends
      · exact hposition
    rw [cell, hposition]
    exact ⟨rfl, rfl, rfl, rfl, rfl⟩
  canceled := step_of_canceled
  ended hcanceled hends := step_of_ended hcanceled (h.over hends).1
  failing := by
    intro hcanceled hends e hfail
    obtain ⟨hdone, hnext⟩ := h.running hends
    rw [← h.failAt, ← hnext] at hfail
    exact step_of_failing hcanceled hdone hfail
  row := by
    intro hcanceled hends hfail cells hcells
    obtain ⟨hdone, hnext⟩ := h.running hends
    rw [← h.failAt, ← hnext] at hfail
    have hlt : o.cursor.next < o.cursor.rows.size := by
      rw [hnext, h.rows, ← length_lists]
      exact (List.getElem?_eq_some_iff.mp hcells).1
    refine ⟨_, step_of_lt hcanceled hdone hfail hlt, ?_⟩
    exact Option.some.inj ((h.delivered hwidth hnext hlt).symm.trans hcells)
  done := by
    intro hcanceled hends hfail hall
    obtain ⟨hdone, hnext⟩ := h.running hends
    rw [← h.failAt, ← hnext] at hfail
    refine ⟨_, step_of_ge hcanceled hdone hfail ?_⟩
    exact Nat.le_of_eq (by rw [hnext, hall, length_lists, h.rows])
  reset := by
    rw [← h.resetFailure]
    rfl

end Observed

/-- However steps, resets and cancellations are mixed, each pass shows the rows from the first one
on, up to the one whose failure is arranged or up to the end, which is reported once. Steps that fail
move nothing, so that the cells remain those of the row that was shown last. -/
theorem Unstarted.after_orderly {c : TableCursor} (h : c.Unstarted) {calls : List Call}
    {o : Observed} (ho : o = (observe c).after calls) :
    o.Orderly c ∧ o.cursor.canceled = calls.foldl Call.flag c.canceled := by
  have htracks := (Observed.tracks_observe ⟨rfl, rfl, rfl, rfl⟩ h.position h.done).after h.width calls
  rw [ho]
  exact ⟨htracks.orderly h.width, Observed.after_canceled _ _⟩

theorem after_orderly_failing :
    ∃ (c : TableCursor) (o : Observed),
      ofRows 1 #[#[.integer 1], #[.integer 2]] = .ok c ∧
      o = (observe ((c.failingAt 1 (.failed 5 "gone")).failingReset .canceled)).after
        [.step, .cancel, .step, .reset, .resume, .step, .step] ∧
      o.rows = [[.integer 1]] ∧ o.cursor.cell 0 = .integer 1 ∧
      o.cursor.step.1 = .error (.failed 5 "gone") ∧ o.cursor.reset.1 = .error .canceled := by
  have hrows : ofRows 1 #[#[.integer 1], #[.integer 2]] =
      .ok ⟨1, #[#[.integer 1], #[.integer 2]], none, false, false, none, none, 0, 0⟩ := by
    simp [ofRows]
  have hunstarted := ((ofRows_fresh hrows).1.unstarted.failingAt 1 (.failed 5 "gone")).failingReset
    .canceled
  obtain ⟨horderly, -⟩ := hunstarted.after_orderly
    (show _ = (observe _).after [.step, .cancel, .step, .reset, .resume, .step, .step] from rfl)
  exact ⟨_, _, hrows, rfl, rfl, horderly.shown rfl rfl 0,
    congrArg Prod.fst (horderly.failing rfl rfl rfl), horderly.reset⟩

end RowPager.TableCursor
