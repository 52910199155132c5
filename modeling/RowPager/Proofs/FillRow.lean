import RowPager.Proofs.FillLoop
import RowPager.Proofs.Reachable

/-!
All that one row can do to a fill. The window holds whole rows before it and after it, and how it
goes on is a matter of their sizes, of the place of the row, and of the request.
-/

set_option autoImplicit false

namespace RowPager.Fill

open Layout (loneSize usedBy)

def Progress.Takes (p : Progress) : Prop := p.start ≤ p.seen ∧ p.accepting = true

inductive Restarted (request : Request) (columns capacity : Nat) (row : List Value) (seen : Nat)
    (tally : Tally) : Verdict → Window → Tally → Prop where
  | tooWide {v : Window} (hcolumns : 2 ^ 32 ≤ columns) (hv : v.Carries 0 []) :
      Restarted request columns capacity row seen tally (.fail (.invalidConfig (.columns columns))) v tally
  | alone {v : Window} (hcolumns : columns < 2 ^ 32) (hfits : loneSize columns row ≤ capacity)
      (hv : v.Carries columns [row]) :
      Restarted request columns capacity row seen tally (.next ⟨seen + 1, seen, true⟩) v
        ((tally.add .overflowRestarts 1).add .rowsWritten 1)
  | tooLarge {v : Window} (hcolumns : columns < 2 ^ 32) (hover : capacity < loneSize columns row)
      (hrequired : seen = request.required) (hv : v.Carries columns []) :
      Restarted request columns capacity row seen tally (.fail (.rowTooLarge seen capacity)) v
        (tally.add .overflowRestarts 1)
  | skipped {v : Window} (hcolumns : columns < 2 ^ 32) (hover : capacity < loneSize columns row)
      (hrequired : seen ≠ request.required) (hv : v.Carries columns []) :
      Restarted request columns capacity row seen tally (.next ⟨seen + 1, seen + 1, true⟩) v
        ((tally.add .overflowRestarts 1).add .rowsSkipped 1)

/-- What dealing with a row leads to, from a window that holds these rows of `count` cells. -/
inductive Taken (request : Request) (columns count : Nat) (held : List (List Value))
    (cell : Nat → Value) (p : Progress) (w : Window) (tally : Tally) :
    Verdict → Window → Tally → Prop where
  | passed (hclosed : p.seen < p.start ∨ p.accepting = false) :
      Taken request columns count held cell p w tally (.next ⟨p.seen + 1, p.start, p.accepting⟩) w
        tally
  | kept {v : Window} (hopen : p.Takes)
      (hfits : usedBy count (held ++ [rowOf count cell]) ≤ w.capacity)
      (hv : v.Carries count (held ++ [rowOf count cell])) :
      Taken request columns count held cell p w tally (.next ⟨p.seen + 1, p.start, true⟩) v
        (tally.add .rowsWritten 1)
  | restarted {verdict : Verdict} {v : Window} {tally' : Tally} (hopen : p.Takes)
      (hover : w.capacity < usedBy count (held ++ [rowOf count cell]))
      (hearly : p.seen ≤ request.required)
      (h : Restarted request columns w.capacity (rowOf columns cell) p.seen tally verdict v
        tally') :
      Taken request columns count held cell p w tally verdict v tally'
  | ignored {v : Window} (hopen : p.Takes)
      (hover : w.capacity < usedBy count (held ++ [rowOf count cell]))
      (hlate : request.required < p.seen) (hall : request.countAll = true)
      (hv : v.Carries count held) :
      Taken request columns count held cell p w tally (.next ⟨p.seen + 1, p.start, false⟩) v
        (tally.add .truncatedFills 1)
  | full {v : Window} (hopen : p.Takes)
      (hover : w.capacity < usedBy count (held ++ [rowOf count cell]))
      (hlate : request.required < p.seen) (hall : request.countAll = false)
      (hv : v.Carries count held) :
      Taken request columns count held cell p w tally (.stop ⟨p.seen, p.start, false⟩) v
        (tally.add .truncatedFills 1)

variable {w : Window} {count : Nat} {held : List (List Value)}

theorem restart_restarted (hw : w.readOnly = false) (hsized : w.Sized) (request : Request)
    (columns : Nat) (cell : Nat → Value) (row : Nat) (tally : Tally) :
    Restarted request columns w.capacity (rowOf columns cell) row tally
      (restart request columns cell row w tally).1 (restart request columns cell row w tally).2.1
      (restart request columns cell row w tally).2.2 := by
  by_cases hcolumns : 2 ^ 32 ≤ columns
  · obtain ⟨v, hprepare, hempty⟩ :=
      Window.carries_prepare_wide hw hsized.minimum hsized.limit hcolumns
    rw [restart, hprepare]
    exact .tooWide hcolumns hempty
  have hlt := Nat.lt_of_not_le hcolumns
  have hframe := w.prepare_sameFrame columns
  obtain ⟨v, hprepare, hempty⟩ := Window.carries_prepare hw hsized.minimum hsized.limit hlt
  rw [hprepare] at hframe
  have hcapacity : v.capacity = w.capacity := hframe.capacity
  have hframe := v.appendRow_sameFrame cell
  rw [restart, hprepare]
  obtain ⟨hfits, u, happend, hcarries⟩ | ⟨hover, e, u, he, happend, hcarries⟩ :=
    hempty.appendRow cell
  · rw [List.nil_append, Layout.usedBy_singleton, hcapacity] at hfits
    simp only [happend]
    exact .alone hlt hfits hcarries
  · rw [List.nil_append, Layout.usedBy_singleton, hcapacity] at hover
    rw [happend] at hframe
    have hsame : u.capacity = w.capacity := hframe.capacity.trans hcapacity
    simp only [happend, he, Bool.not_true, Bool.false_eq_true, if_false]
    by_cases hrequired : row = request.required
    · rw [if_pos hrequired, hsame]
      exact .tooLarge hlt hover hrequired hcarries
    · rw [if_neg hrequired]
      exact .skipped hlt hover hrequired hcarries

theorem takeRow_taken (h : w.Carries count held) (hsized : w.Sized) (request : Request)
    (columns : Nat) (cell : Nat → Value) (p : Progress) (tally : Tally) :
    Taken request columns count held cell p w tally (takeRow request columns cell p w tally).1
      (takeRow request columns cell p w tally).2.1 (takeRow request columns cell p w tally).2.2 := by
  obtain ⟨seen, start, accepting⟩ := p
  have hframe := w.appendRow_sameFrame cell
  rw [takeRow]
  by_cases hclosed : seen < start ∨ accepting = false
  · rw [if_pos (by simpa using hclosed)]
    exact .passed hclosed
  rw [if_neg (by simpa using hclosed)]
  obtain ⟨hle, haccepting⟩ := not_or.mp hclosed
  have hopen : Progress.Takes ⟨seen, start, accepting⟩ :=
    ⟨Nat.le_of_not_lt hle, Bool.not_eq_false _ ▸ haccepting⟩
  have htrue : accepting = true := hopen.2
  subst htrue
  obtain ⟨hfits, v, happend, hmore⟩ | ⟨hover, e, v, he, happend, hsame⟩ := h.appendRow cell
  · rw [happend]
    exact .kept hopen hfits hmore
  rw [happend] at hframe ⊢
  simp only [he, Bool.not_true, Bool.false_eq_true, if_false]
  by_cases hearly : seen ≤ request.required
  · rw [if_pos hearly]
    have hcapacity : v.capacity = w.capacity := hframe.capacity
    have hrestarted := restart_restarted hsame.writable (hsized.of_sameFrame hframe) request
      columns cell seen tally
    rw [hcapacity] at hrestarted
    exact .restarted hopen hover hearly hrestarted
  rw [if_neg hearly]
  have hlate := Nat.lt_of_not_le hearly
  cases hall : request.countAll with
  | true => exact .ignored hopen hover hlate hall hsame
  | false => exact .full hopen hover hlate hall hsame

/-- What is true of all that a row can do is true of what it does. -/
theorem takeRow_cases (h : w.Carries count held) (hsized : w.Sized) (request : Request)
    (columns : Nat) (cell : Nat → Value) (p : Progress) (tally : Tally)
    {motive : Verdict → Window → Tally → Prop}
    (hmotive : ∀ verdict v tally', Window.SameFrame v w →
      Taken request columns count held cell p w tally verdict v tally' → motive verdict v tally') :
    motive (takeRow request columns cell p w tally).1 (takeRow request columns cell p w tally).2.1
      (takeRow request columns cell p w tally).2.2 :=
  hmotive _ _ _ (takeRow_comesFrom request columns cell p w tally).sameFrame
    (takeRow_taken h hsized request columns cell p tally)

theorem LoopRule.pass_post {σ : Type} [Cursor σ] {request : Request} {c : σ} {tally : Tally}
    {Invariant : Progress → σ → Window → Tally → Prop}
    {Post : Except Error Report → σ → Window → Tally → Prop}
    (hrule : LoopRule request Invariant Post) (hw : w.readOnly = false) (hsized : w.Sized)
    (hcolumns : Cursor.columnCount c < 2 ^ 32)
    (hstart : ∀ v, Window.SameFrame v w → v.Carries (Cursor.columnCount c) [] →
      Invariant ⟨0, request.start, true⟩ c v tally) :
    Post (pass request c w tally).1 (pass request c w tally).2.1
      (pass request c w tally).2.2.1 (pass request c w tally).2.2.2 := by
  have hframe := w.prepare_sameFrame (Cursor.columnCount c)
  obtain ⟨v, hprepare, hempty⟩ :=
    Window.carries_prepare hw hsized.minimum hsized.limit hcolumns
  rw [hprepare] at hframe
  rw [pass, hprepare]
  exact hrule.takeRows_post (hstart v hframe hempty)

section After

variable {request : Request} {columns capacity : Nat} {row : List Value} {seen : Nat}
  {cell : Nat → Value} {p : Progress} {v : Window} {tally tally' : Tally} {verdict : Verdict}

theorem Restarted.carries
    (h : Restarted request columns capacity row seen tally verdict v tally') :
    ∃ count' held', v.Carries count' held' := by
  cases h with
  | tooWide hcolumns hv => exact ⟨_, _, hv⟩
  | alone hcolumns hfits hv => exact ⟨_, _, hv⟩
  | tooLarge hcolumns hover hrequired hv => exact ⟨_, _, hv⟩
  | skipped hcolumns hover hrequired hv => exact ⟨_, _, hv⟩

theorem Taken.carries (h : Taken request columns count held cell p w tally verdict v tally')
    (hw : w.Carries count held) : ∃ count' held', v.Carries count' held' := by
  cases h with
  | passed hclosed => exact ⟨_, _, hw⟩
  | kept hopen hfits hv => exact ⟨_, _, hv⟩
  | restarted hopen hover hearly h => exact h.carries
  | ignored hopen hover hlate hall hv => exact ⟨_, _, hv⟩
  | full hopen hover hlate hall hv => exact ⟨_, _, hv⟩

end After

end RowPager.Fill
