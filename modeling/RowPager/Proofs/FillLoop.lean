import RowPager.Fill.Basic
import RowPager.Proofs.RowAppend

/-!
The loop of a fill: what follows from one step of the cursor, and what the loop keeps of the window
and of the cursor, whatever the rows are.
-/

set_option autoImplicit false

namespace RowPager.Fill

open Window (ComesFrom SameFrame)

theorem restart_comesFrom (request : Request) (columns : Nat) (cell : Nat → Value) (row : Nat)
    (w : Window) (tally : Tally) :
    ComesFrom (restart request columns cell row w tally).2.1 w := by
  have hprepare := (w.prepare_comesFrom columns).trans w.clear_comesFrom
  rw [restart]
  rcases hprepare.outcome with ⟨_, v, hr, hprepare⟩ | ⟨e, v, hr, hprepare⟩
  · rw [hr]
    rcases ((v.appendRow_comesFrom cell).trans hprepare).outcome with
      ⟨_, u, hr, happend⟩ | ⟨e, u, hr, happend⟩
    · simp only [hr]
      exact happend
    · simp only [hr]
      split
      · exact happend
      split
      · exact happend
      · exact happend
  · rw [hr]
    exact hprepare

theorem takeRow_comesFrom (request : Request) (columns : Nat) (cell : Nat → Value) (p : Progress)
    (w : Window) (tally : Tally) :
    ComesFrom (takeRow request columns cell p w tally).2.1 w := by
  rw [takeRow]
  split
  · exact .refl w
  rcases (w.appendRow_comesFrom cell).outcome with ⟨_, v, hr, happend⟩ | ⟨e, v, hr, happend⟩
  · rw [hr]
    exact happend
  · simp only [hr]
    split
    · exact happend
    split
    · exact (restart_comesFrom request columns cell p.seen v tally).trans happend
    split
    · exact happend
    · exact happend

def Verdict.After (seen : Nat) : Verdict → Prop
  | .next p => p.seen = seen + 1
  | .stop p => p.seen = seen
  | .fail _ => True

theorem restart_after (request : Request) (columns : Nat) (cell : Nat → Value) (row : Nat)
    (w : Window) (tally : Tally) :
    (restart request columns cell row w tally).1.After row := by
  rw [restart]
  split
  · trivial
  split
  · rfl
  split
  · trivial
  split
  · trivial
  · rfl

theorem takeRow_after (request : Request) (columns : Nat) (cell : Nat → Value) (p : Progress)
    (w : Window) (tally : Tally) :
    (takeRow request columns cell p w tally).1.After p.seen := by
  rw [takeRow]
  split
  · rfl
  split
  · rfl
  split
  · trivial
  split
  · exact restart_after request columns cell p.seen _ tally
  split
  · rfl
  · rfl

def Verdict.Leads (Invariant : Progress → Window → Tally → Prop)
    (Post : Except Error Report → Window → Tally → Prop) : Verdict → Window → Tally → Prop
  | .next p, w, tally => Invariant p w tally
  | .stop p, w, tally => Post (.ok p.report) w tally
  | .fail e, w, tally => Post (.error e) w tally

section Leads

variable {Invariant Invariant' : Progress → Window → Tally → Prop}
  {Post Post' : Except Error Report → Window → Tally → Prop} {verdict : Verdict} {w : Window}
  {tally : Tally}

theorem Verdict.leads_of {Keeps : Window → Tally → Prop} (h : Keeps w tally) :
    verdict.Leads (fun _ => Keeps) (fun _ => Keeps) w tally := by
  cases verdict with
  | next p => exact h
  | stop p => exact h
  | fail e => exact h

theorem Verdict.Leads.mono (h : verdict.Leads Invariant Post w tally)
    (hinvariant : ∀ p, verdict = .next p → Invariant p w tally → Invariant' p w tally)
    (hpost : ∀ outcome, Post outcome w tally → Post' outcome w tally) :
    verdict.Leads Invariant' Post' w tally := by
  cases verdict with
  | next p => exact hinvariant p rfl h
  | stop p => exact hpost _ h
  | fail e => exact hpost _ h

theorem Verdict.Leads.and (h : verdict.Leads Invariant Post w tally)
    (h' : verdict.Leads Invariant' Post' w tally) :
    verdict.Leads (fun p w tally => Invariant p w tally ∧ Invariant' p w tally)
      (fun outcome w tally => Post outcome w tally ∧ Post' outcome w tally) w tally := by
  cases verdict with
  | next p => exact ⟨h, h'⟩
  | stop p => exact ⟨h, h'⟩
  | fail e => exact ⟨h, h'⟩

end Leads

/-- An invariant of the loop, and what holds when the loop ends: at each step of the cursor, the
one leads to the other or to itself. -/
structure LoopRule {σ : Type} [Cursor σ] (request : Request)
    (Invariant : Progress → σ → Window → Tally → Prop)
    (Post : Except Error Report → σ → Window → Tally → Prop) : Prop where
  error : ∀ {p : Progress} {c c' : σ} {w : Window} {tally : Tally} {e : CursorError},
    Invariant p c w tally → Cursor.step c = (.error e, c') →
      Post (.error (.cursor e)) c' w tally
  done : ∀ {p : Progress} {c c' : σ} {w : Window} {tally : Tally},
    Invariant p c w tally → Cursor.step c = (.ok .done, c') → Post (.ok p.report) c' w tally
  row : ∀ {p : Progress} {c c' : σ} {w : Window} {tally : Tally},
    Invariant p c w tally → Cursor.step c = (.ok .row, c') →
      (takeRow request (Cursor.columnCount c') (Cursor.cell c') p w tally).1.Leads
        (Invariant · c') (Post · c')
        (takeRow request (Cursor.columnCount c') (Cursor.cell c') p w tally).2.1
        (takeRow request (Cursor.columnCount c') (Cursor.cell c') p w tally).2.2

section Loop

variable {σ : Type} [Cursor σ] {request : Request} {p : Progress} {c c' : σ} {w : Window}
  {tally : Tally}

theorem takeRows_error {e : CursorError} (h : Cursor.step c = (.error e, c')) :
    takeRows request p c w tally = (.error (.cursor e), c', w, tally) := by
  rw [takeRows]
  split
  · next h' => cases h.symm.trans h'; rfl
  · next h' => cases h.symm.trans h'
  · next h' => cases h.symm.trans h'

theorem takeRows_done (h : Cursor.step c = (.ok .done, c')) :
    takeRows request p c w tally = (.ok p.report, c', w, tally) := by
  rw [takeRows]
  split
  · next h' => cases h.symm.trans h'
  · next h' => cases h.symm.trans h'; rfl
  · next h' => cases h.symm.trans h'

theorem takeRows_row (h : Cursor.step c = (.ok .row, c')) :
    takeRows request p c w tally =
      match takeRow request (Cursor.columnCount c') (Cursor.cell c') p w tally with
      | (.next p, w, tally) => takeRows request p c' w tally
      | (.stop p, w, tally) => (.ok p.report, c', w, tally)
      | (.fail e, w, tally) => (.error e, c', w, tally) := by
  rw [takeRows]
  split
  · next h' => cases h.symm.trans h'
  · next h' => cases h.symm.trans h'
  · next h' => cases h.symm.trans h'; rfl

theorem LoopRule.takeRows_post {Invariant : Progress → σ → Window → Tally → Prop}
    {Post : Except Error Report → σ → Window → Tally → Prop}
    (hrule : LoopRule request Invariant Post) (h : Invariant p c w tally) :
    Post (takeRows request p c w tally).1 (takeRows request p c w tally).2.1
      (takeRows request p c w tally).2.2.1 (takeRows request p c w tally).2.2.2 := by
  induction p, c, w, tally using @takeRows.induct σ _ request with
  | case1 p c w tally e c' hnext =>
    rw [takeRows_error hnext]
    exact hrule.error h hnext
  | case2 p c w tally c' hnext =>
    rw [takeRows_done hnext]
    exact hrule.done h hnext
  | case3 p c w tally c' hnext _ p' w' tally' htake ih =>
    have hleads := hrule.row h hnext
    rw [htake] at hleads
    rw [takeRows_row hnext, htake]
    exact ih hleads
  | case4 p c w tally c' hnext _ p' w' tally' htake =>
    have hleads := hrule.row h hnext
    rw [htake] at hleads
    rw [takeRows_row hnext, htake]
    exact hleads
  | case5 p c w tally c' hnext _ e w' tally' htake =>
    have hleads := hrule.row h hnext
    rw [htake] at hleads
    rw [takeRows_row hnext, htake]
    exact hleads

variable (request p c w tally)

theorem takeRows_keeps (Keeps : σ → Window → Prop)
    (hstep : ∀ c w, Keeps c w → Keeps (Cursor.step c).2 w)
    (hrow : ∀ columns cell p c w tally, Keeps c w →
      Keeps c (takeRow request columns cell p w tally).2.1)
    (h : Keeps c w) :
    Keeps (takeRows request p c w tally).2.1 (takeRows request p c w tally).2.2.1 := by
  have hnext : ∀ {c c' : σ} {answer : Except CursorError Step} {w : Window}, Keeps c w →
      Cursor.step c = (answer, c') → Keeps c' w := by
    intro c c' answer w h heq
    have hafter := hstep c w h
    rwa [heq] at hafter
  have hrule : LoopRule request (fun _ c w _ => Keeps c w) (fun _ c w _ => Keeps c w) :=
    ⟨hnext, hnext, fun h heq => Verdict.leads_of (hrow _ _ _ _ _ _ (hnext h heq))⟩
  exact hrule.takeRows_post h

end Loop

/-- At each place a cursor in its state there is about to deliver the row with that index. A step
may fail, but only after the last row is it done. -/
structure Supplies {σ : Type} [Cursor σ] (count : Nat) (all : List (List Value))
    (At : Nat → σ → Prop) : Prop where
  row : ∀ {place : Nat} {c c' : σ}, At place c → Cursor.step c = (.ok .row, c') →
    Cursor.columnCount c' = count ∧ all[place]? = some (rowOf count (Cursor.cell c')) ∧
      At (place + 1) c'
  done : ∀ {place : Nat} {c c' : σ}, At place c → Cursor.step c = (.ok .done, c') →
    place = all.length

theorem Supplies.loopRule {σ : Type} [Cursor σ] {request : Request} {count : Nat}
    {all : List (List Value)} {At : Nat → σ → Prop} (hsupplies : Supplies count all At)
    {Invariant : Progress → Window → Tally → Prop}
    {Post : Except Error Report → σ → Window → Tally → Prop}
    (herror : ∀ {p : Progress} {c c' : σ} {w : Window} {tally : Tally} {e : CursorError},
      At p.seen c → Invariant p w tally → Cursor.step c = (.error e, c') →
        Post (.error (.cursor e)) c' w tally)
    (hdone : ∀ {p : Progress} {c c' : σ} {w : Window} {tally : Tally},
      At p.seen c → Invariant p w tally → Cursor.step c = (.ok .done, c') →
        p.seen = all.length → Post (.ok p.report) c' w tally)
    (hrow : ∀ {p : Progress} {c c' : σ} {w : Window} {tally : Tally},
      At p.seen c → Invariant p w tally → Cursor.step c = (.ok .row, c') →
        all[p.seen]? = some (rowOf count (Cursor.cell c')) →
        (takeRow request count (Cursor.cell c') p w tally).1.Leads Invariant (Post · c')
          (takeRow request count (Cursor.cell c') p w tally).2.1
          (takeRow request count (Cursor.cell c') p w tally).2.2) :
    LoopRule request (fun p c w tally => At p.seen c ∧ Invariant p w tally) Post where
  error h hstep := herror h.1 h.2 hstep
  done h hstep := hdone h.1 h.2 hstep (hsupplies.done h.1 hstep)
  row := by
    rintro p c c' w tally ⟨hat, hinvariant⟩ hstep
    obtain ⟨hcolumns, hcells, hat'⟩ := hsupplies.row hat hstep
    have hafter := takeRow_after request count (Cursor.cell c') p w tally
    rw [hcolumns]
    refine (hrow hat hinvariant hstep hcells).mono (fun p' hverdict h => ?_) fun _ h => h
    rw [hverdict] at hafter
    have hseen : p'.seen = p.seen + 1 := hafter
    exact ⟨hseen ▸ hat', h⟩

section Run

variable {σ : Type} [Cursor σ] (request : Request) (c : σ) (w : Window) (tally : Tally)

theorem pass_comesFrom : ComesFrom (pass request c w tally).2.2.1 w.clear.2 := by
  rw [pass]
  rcases (w.prepare_comesFrom (Cursor.columnCount c)).outcome with
    ⟨_, v, hr, hprepare⟩ | ⟨e, v, hr, hprepare⟩
  · rw [hr]
    exact takeRows_keeps request _ c v tally (fun _ v => ComesFrom v w.clear.2)
      (fun _ _ h => h) (fun _ _ _ _ _ _ h => (takeRow_comesFrom ..).trans h) hprepare
  · rw [hr]
    exact hprepare

theorem pass_sameFrame : SameFrame (pass request c w tally).2.2.1 w :=
  (pass_comesFrom request c w tally).sameFrame.trans w.clear_sameFrame

theorem pass_cursor (Keeps : σ → Prop) (hstep : ∀ c, Keeps c → Keeps (Cursor.step c).2)
    (h : Keeps c) : Keeps (pass request c w tally).2.1 := by
  rw [pass]
  split
  · exact h
  · exact takeRows_keeps request _ c _ tally (fun c _ => Keeps c)
      (fun c _ => hstep c) (fun _ _ _ _ _ _ h => h) h

/-- A fill succeeds if its pass does and the cursor can be reset after it. Otherwise the window is
cleared, and the error of the pass comes before that of the reset. -/
theorem run_cases (hrange : request.start ≤ request.required) :
    (∃ report, (pass request c w tally).1 = .ok report ∧
        (Cursor.reset (pass request c w tally).2.1).1 = .ok () ∧
        run request c w tally =
          (.ok report, (Cursor.reset (pass request c w tally).2.1).2,
            (pass request c w tally).2.2.1.setStartPosition report.startPosition,
            ((pass request c w tally).2.2.2.add .fills 1).add .rowsCounted
              (.ofNat report.countedRows))) ∨
      ∃ e, ((pass request c w tally).1 = .error e ∨
          (∃ report, (pass request c w tally).1 = .ok report) ∧
            ∃ cause, (Cursor.reset (pass request c w tally).2.1).1 = .error cause ∧
              e = .cursor cause) ∧
        run request c w tally =
          (.error e, (Cursor.reset (pass request c w tally).2.1).2,
            (pass request c w tally).2.2.1.clear.2, (pass request c w tally).2.2.2) := by
  rw [run, if_neg (by omega)]
  obtain ⟨outcome, c', v, tally'⟩ := pass request c w tally
  simp only
  obtain ⟨rewound, c''⟩ := Cursor.reset c'
  cases outcome with
  | error e => exact .inr ⟨e, .inl rfl, rfl⟩
  | ok report =>
    cases rewound with
    | ok _ => exact .inl ⟨report, rfl, rfl, rfl⟩
    | error cause => exact .inr ⟨.cursor cause, .inr ⟨⟨report, rfl⟩, cause, rfl, rfl⟩, rfl⟩

theorem run_cursor (hrange : request.start ≤ request.required) :
    (run request c w tally).2.1 = (Cursor.reset (pass request c w tally).2.1).2 := by
  obtain ⟨report, -, -, hrun⟩ | ⟨e, -, hrun⟩ := run_cases request c w tally hrange
  · rw [hrun]
  · rw [hrun]

theorem run_comesFrom (hrange : request.start ≤ request.required) :
    ComesFrom (run request c w tally).2.2.1 w.clear.2 := by
  have hpass := pass_comesFrom request c w tally
  obtain ⟨report, -, -, hrun⟩ | ⟨e, -, hrun⟩ := run_cases request c w tally hrange
  · rw [hrun]
    exact (ComesFrom.apply _ (.setStart report.startPosition)).trans hpass
  · rw [hrun]
    exact (Window.clear_comesFrom _).trans hpass

theorem run_sameFrame : SameFrame (run request c w tally).2.2.1 w := by
  by_cases hrange : request.start ≤ request.required
  · exact (run_comesFrom request c w tally hrange).sameFrame.trans w.clear_sameFrame
  · rw [run, if_pos (by omega)]
    exact .refl w

end Run

end RowPager.Fill
