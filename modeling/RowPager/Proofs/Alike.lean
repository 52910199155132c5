import RowPager.Proofs.Reachable

/-!
Windows that store the same sheet. Their buffers may differ wherever the sheet has nothing, as in
what earlier rows have left behind, and they give the same answers and stay alike whatever is done
to both. In a fill the cursors need not be the same either, if they cannot be told apart.
-/

set_option autoImplicit false

namespace RowPager

universe u

namespace Window

structure Alike (v w : Window) : Prop where
  left : v.readOnly = false
  right : w.readOnly = false
  sheet : ∃ s, v.Stores s ∧ w.Stores s

inductive InStep {R : Type u} : R × Window → R × Window → Prop where
  | mk {v w : Window} (reply : R) (h : v.Alike w) : InStep (reply, v) (reply, w)

theorem InStep.of_agrees {α : Type} {r r' : Except Error α × Window} {r'' : Except Error α × Sheet}
    (h : Agrees r r'') (h' : Agrees r' r'') (hr : r.2.readOnly = false)
    (hr' : r'.2.readOnly = false) : InStep r r' := by
  obtain ⟨reply, v⟩ := r
  obtain ⟨reply', w⟩ := r'
  obtain ⟨hreply, hv⟩ := h
  obtain ⟨hreply', hw⟩ := h'
  cases hreply
  cases hreply'
  exact .mk _ ⟨hr, hr', r''.2, hv, hw⟩

theorem InStep.alike {R : Type u} {r r' : R × Window} (h : InStep r r') : r.2.Alike r'.2 := by
  cases h with
  | mk reply halike => exact halike

theorem InStep.outcome {α : Type} {r r' : Except Error α × Window} (h : InStep r r') :
    (∃ answer v w, r = (.ok answer, v) ∧ r' = (.ok answer, w) ∧ v.Alike w) ∨
      ∃ e v w, r = (.error e, v) ∧ r' = (.error e, w) ∧ v.Alike w := by
  cases h with
  | @mk v w reply halike =>
  cases reply with
  | ok answer => exact .inl ⟨answer, v, w, rfl, rfl, halike⟩
  | error e => exact .inr ⟨e, v, w, rfl, rfl, halike⟩

variable {v w : Window}

namespace Alike

theorem capacity_eq (h : v.Alike w) : v.capacity = w.capacity := by
  obtain ⟨s, hv, hw⟩ := h.sheet
  rw [hv.capacity, hw.capacity]

theorem used_eq (h : v.Alike w) : v.used = w.used := by
  obtain ⟨s, hv, hw⟩ := h.sheet
  rw [hv.used_eq, hw.used_eq]

theorem rows_eq (h : v.Alike w) : v.rows = w.rows := by
  obtain ⟨s, hv, hw⟩ := h.sheet
  rw [hv.rows_eq, hw.rows_eq]

theorem columns_eq (h : v.Alike w) : v.columns = w.columns := by
  obtain ⟨s, hv, hw⟩ := h.sheet
  rw [hv.columns_eq, hw.columns_eq]

theorem startPosition_eq (h : v.Alike w) : v.startPosition = w.startPosition := by
  obtain ⟨s, hv, hw⟩ := h.sheet
  rw [hv.start, hw.start]

theorem get_eq (h : v.Alike w) (row column : Nat) (getter : Getter) :
    v.get row column getter = w.get row column getter := by
  obtain ⟨s, hv, hw⟩ := h.sheet
  by_cases hout : s.rows.length ≤ row ∨ s.columns ≤ column
  · rw [hv.get_error hout, hw.get_error hout]
  · obtain ⟨hrow, hcolumn⟩ := not_or.mp hout
    have hr := List.getElem?_eq_getElem (Nat.lt_of_not_le hrow)
    have hc := Nat.lt_of_not_le hcolumn
    rw [hv.get_eq hr hc, hw.get_eq hr hc]

theorem apply (h : v.Alike w) (op : Operation) : InStep (v.apply op) (w.apply op) := by
  obtain ⟨s, hv, hw⟩ := h.sheet
  exact .of_agrees (hv.apply h.left op) (hw.apply h.right op)
    ((v.apply_sameFrame op).readOnly.trans h.left) ((w.apply_sameFrame op).readOnly.trans h.right)

theorem setColumns (h : v.Alike w) (count : Nat) :
    InStep (v.setColumns count) (w.setColumns count) := by
  obtain ⟨s, hv, hw⟩ := h.sheet
  exact .of_agrees (hv.setColumns h.left count) (hw.setColumns h.right count)
    ((v.setColumns_sameFrame count).readOnly.trans h.left)
    ((w.setColumns_sameFrame count).readOnly.trans h.right)

theorem appendRow (h : v.Alike w) (cell : Nat → Value) :
    InStep (v.appendRow cell) (w.appendRow cell) := by
  obtain ⟨s, hv, hw⟩ := h.sheet
  exact .of_agrees (hv.appendRow h.left cell) (hw.appendRow h.right cell)
    ((v.appendRow_sameFrame cell).readOnly.trans h.left)
    ((w.appendRow_sameFrame cell).readOnly.trans h.right)

theorem setStart (h : v.Alike w) (position : Nat) :
    (v.setStartPosition position).Alike (w.setStartPosition position) := by
  obtain ⟨s, hv, hw⟩ := h.sheet
  exact ⟨h.left, h.right, _, hv.setStart position, hw.setStart position⟩

end Alike

/-- Windows that can be written and have the same room, whatever is in them. -/
structure SameRoom (v w : Window) : Prop where
  left : v.readOnly = false
  right : w.readOnly = false
  capacity : v.capacity = w.capacity
  sized : w.Sized

namespace SameRoom

theorem clear (h : v.SameRoom w) : InStep v.clear w.clear := by
  have hv := Stores.clear h.left (h.capacity ▸ h.sized.minimum) (h.capacity ▸ h.sized.limit)
  rw [h.capacity] at hv
  exact .of_agrees hv (Stores.clear h.right h.sized.minimum h.sized.limit)
    (v.clear_sameFrame.readOnly.trans h.left) (w.clear_sameFrame.readOnly.trans h.right)

theorem prepare (h : v.SameRoom w) (columns : Nat) :
    InStep (v.prepare columns) (w.prepare columns) := by
  rw [Window.prepare, Window.prepare]
  obtain ⟨_, v', w', hr, hr', halike⟩ | ⟨e, v', w', hr, hr', halike⟩ := h.clear.outcome
  · rw [hr, hr']
    exact halike.setColumns columns
  · rw [hr, hr']
    exact .mk _ halike

end SameRoom

theorem Alike.sameRoom (h : v.Alike w) : v.SameRoom w := by
  obtain ⟨s, hv, hw⟩ := h.sheet
  have hmin := Nat.le_trans hw.sound.minimum hw.sound.fits
  exact ⟨h.left, h.right, h.capacity_eq, hw.capacity ▸ hmin, hw.capacity ▸ hw.sound.limit⟩

end Window

/-- Cursors that are related give the same answers, and their steps and resets keep them related. -/
structure Cursor.Bisimilar {σ σ' : Type} [Cursor σ] [Cursor σ'] (R : σ → σ' → Prop) : Prop where
  columnCount : ∀ {c : σ} {c' : σ'}, R c c' → Cursor.columnCount c = Cursor.columnCount c'
  cell : ∀ {c : σ} {c' : σ'}, R c c' → Cursor.cell c = Cursor.cell c'
  step : ∀ {c : σ} {c' : σ'}, R c c' →
    (Cursor.step c).1 = (Cursor.step c').1 ∧ R (Cursor.step c).2 (Cursor.step c').2
  reset : ∀ {c : σ} {c' : σ'}, R c c' →
    (Cursor.reset c).1 = (Cursor.reset c').1 ∧ R (Cursor.reset c).2 (Cursor.reset c').2

namespace Cursor.Bisimilar

variable {σ σ' : Type} [Cursor σ] [Cursor σ'] {R : σ → σ' → Prop} {c next : σ} {c' : σ'}

theorem refl : Bisimilar (Eq : σ → σ → Prop) where
  columnCount h := congrArg _ h
  cell h := congrArg _ h
  step h := ⟨congrArg (fun c => (Cursor.step c).1) h, congrArg (fun c => (Cursor.step c).2) h⟩
  reset h := ⟨congrArg (fun c => (Cursor.reset c).1) h, congrArg (fun c => (Cursor.reset c).2) h⟩

theorem of_step (hR : Bisimilar R) (h : R c c') {answer : Except CursorError Step}
    (hstep : Cursor.step c = (answer, next)) :
    ∃ next', Cursor.step c' = (answer, next') ∧ R next next' := by
  obtain ⟨hanswer, hnext⟩ := hR.step h
  rw [hstep] at hanswer hnext
  exact ⟨_, Prod.ext hanswer.symm rfl, hnext⟩

end Cursor.Bisimilar

namespace Fill

open Window (Alike InStep SameRoom)

inductive SameVerdict : Verdict × Window × Tally → Verdict × Window × Tally → Prop where
  | mk {v w : Window} (verdict : Verdict) (tally : Tally) (h : v.Alike w) :
      SameVerdict (verdict, v, tally) (verdict, w, tally)

inductive SameRun {σ σ' : Type} (R : σ → σ' → Prop) : Except Error Report × σ × Window × Tally →
    Except Error Report × σ' × Window × Tally → Prop where
  | mk {c : σ} {c' : σ'} {v w : Window} (outcome : Except Error Report) (tally : Tally)
      (hc : R c c') (h : v.Alike w) : SameRun R (outcome, c, v, tally) (outcome, c', w, tally)

variable {v w : Window} {request : Request}

theorem restart_sameVerdict (h : v.Alike w) (columns : Nat) (cell : Nat → Value) (row : Nat)
    (tally : Tally) :
    SameVerdict (restart request columns cell row v tally)
      (restart request columns cell row w tally) := by
  rw [restart, restart]
  obtain ⟨_, v', w', hr, hr', halike⟩ | ⟨e, v', w', hr, hr', halike⟩ :=
    (h.sameRoom.prepare columns).outcome
  · rw [hr, hr']
    obtain ⟨_, t, u, hr, hr', halike⟩ | ⟨e, t, u, hr, hr', halike⟩ :=
      (halike.appendRow cell).outcome
    · simp only [hr, hr']
      exact .mk _ _ halike
    · simp only [hr, hr', halike.capacity_eq]
      split
      · exact .mk _ _ halike
      split
      · exact .mk _ _ halike
      · exact .mk _ _ halike
  · rw [hr, hr']
    exact .mk _ _ halike

theorem takeRow_sameVerdict (h : v.Alike w) (columns : Nat) (cell : Nat → Value) (p : Progress)
    (tally : Tally) :
    SameVerdict (takeRow request columns cell p v tally)
      (takeRow request columns cell p w tally) := by
  rw [takeRow, takeRow]
  split
  · exact .mk _ _ h
  obtain ⟨_, v', w', hr, hr', halike⟩ | ⟨e, v', w', hr, hr', halike⟩ := (h.appendRow cell).outcome
  · rw [hr, hr']
    exact .mk _ _ halike
  · simp only [hr, hr']
    split
    · exact .mk _ _ halike
    split
    · exact restart_sameVerdict halike columns cell p.seen tally
    split
    · exact .mk _ _ halike
    · exact .mk _ _ halike

section Run

variable {σ σ' : Type} [Cursor σ] [Cursor σ'] {R : σ → σ' → Prop}

theorem besideRule (hR : Cursor.Bisimilar R) (request : Request)
    (result : Except Error Report × σ' × Window × Tally) :
    LoopRule request
      (fun p c v tally => ∃ c' w, R c c' ∧ v.Alike w ∧ takeRows request p c' w tally = result)
      (fun outcome c v tally => SameRun R (outcome, c, v, tally) result) where
  error := by
    rintro p c next v tally e ⟨c', w, hc, halike, rfl⟩ hstep
    obtain ⟨next', hstep', hnext⟩ := hR.of_step hc hstep
    rw [takeRows_error hstep']
    exact .mk _ _ hnext halike
  done := by
    rintro p c next v tally ⟨c', w, hc, halike, rfl⟩ hstep
    obtain ⟨next', hstep', hnext⟩ := hR.of_step hc hstep
    rw [takeRows_done hstep']
    exact .mk _ _ hnext halike
  row := by
    rintro p c next v tally ⟨c', w, hc, halike, hresult⟩ hstep
    obtain ⟨next', hstep', hnext⟩ := hR.of_step hc hstep
    have htake : SameVerdict
        (takeRow request (Cursor.columnCount next) (Cursor.cell next) p v tally)
        (takeRow request (Cursor.columnCount next) (Cursor.cell next) p w tally) :=
      takeRow_sameVerdict halike _ _ p tally
    rw [takeRows_row hstep', ← hR.columnCount hnext, ← hR.cell hnext] at hresult
    generalize takeRow request (Cursor.columnCount next) (Cursor.cell next) p v tally = r
      at htake ⊢
    generalize takeRow request (Cursor.columnCount next) (Cursor.cell next) p w tally = r'
      at htake hresult
    cases htake with
    | mk verdict tally halike =>
    cases verdict with
    | next p' => exact ⟨next', _, hnext, halike, hresult⟩
    | stop p' => exact hresult ▸ .mk _ _ hnext halike
    | fail e => exact hresult ▸ .mk _ _ hnext halike

variable {c : σ} {c' : σ'} (tally : Tally)

/-- A pass begins with an empty window, so it is enough that there is the same room. -/
theorem pass_sameRun (hR : Cursor.Bisimilar R) (hc : R c c') (h : v.SameRoom w) :
    SameRun R (pass request c v tally) (pass request c' w tally) := by
  rw [pass, pass, ← hR.columnCount hc]
  obtain ⟨_, v', w', hr, hr', halike⟩ | ⟨e, v', w', hr, hr', halike⟩ :=
    (h.prepare (Cursor.columnCount c)).outcome
  · rw [hr, hr']
    exact (besideRule hR request _).takeRows_post ⟨c', w', hc, halike, rfl⟩
  · rw [hr, hr']
    exact .mk _ _ hc halike

theorem run_sameRun (hR : Cursor.Bisimilar R) (hc : R c c') (h : v.SameRoom w)
    (hrange : request.start ≤ request.required) :
    SameRun R (run request c v tally) (run request c' w tally) := by
  have hpass : SameRun R (pass request c v tally) (pass request c' w tally) :=
    pass_sameRun tally hR hc h
  rw [run, run, if_neg (Nat.not_lt.mpr hrange), if_neg (Nat.not_lt.mpr hrange)]
  generalize pass request c v tally = r at hpass ⊢
  generalize pass request c' w tally = r' at hpass ⊢
  cases hpass with
  | @mk c c' v w outcome tally hc halike =>
  have hclear := halike.sameRoom.clear.alike
  obtain ⟨hanswer, hnext⟩ := hR.reset hc
  simp only [← hanswer]
  cases outcome with
  | error e => exact .mk _ _ hnext hclear
  | ok report =>
    cases (Cursor.reset c).1 with
    | ok _ => exact .mk _ _ hnext (halike.setStart report.startPosition)
    | error cause => exact .mk _ _ hnext hclear

end Run

end Fill

end RowPager
