import RowPager.Window.Cells

/-!
The operations that change a window, as data, so that sequences of them can be spoken of.
-/

set_option autoImplicit false

namespace RowPager

inductive Operation where
  | clear
  | setColumns (count : Nat)
  | pushRow
  | popRow
  | setStart (position : Nat)
  | set (row column : Nat) (value : Value)
  deriving DecidableEq

namespace Window

/-- A row that was appended answers with its index, the other operations with nothing. -/
def apply (w : Window) : Operation → Except Error (Option Nat) × Window
  | .clear => (w.clear.1.map fun _ => none, w.clear.2)
  | .setColumns count => ((w.setColumns count).1.map fun _ => none, (w.setColumns count).2)
  | .pushRow => (w.pushRow.1.map some, w.pushRow.2)
  | .popRow => (w.popRow.1.map fun _ => none, w.popRow.2)
  | .setStart position => (.ok none, w.setStartPosition position)
  | .set row column value => ((w.set row column value).1.map fun _ => none, (w.set row column value).2)

def after (w : Window) (ops : List Operation) : Window := ops.foldl (fun w op => (w.apply op).2) w

theorem after_cons (w : Window) (op : Operation) (ops : List Operation) :
    w.after (op :: ops) = (w.apply op).2.after ops := rfl

theorem of_map_error {α β : Type} {r : Except Error α} {f : α → β} {e : Error}
    (h : r.map f = .error e) : r = .error e := by
  cases r with
  | ok answer => cases h
  | error e' => cases h; rfl

theorem of_map_ok {α β : Type} {r : Except Error α} {f : α → β} {b : β} (h : r.map f = .ok b) :
    ∃ a, r = .ok a := by
  cases r with
  | ok a => exact ⟨a, rfl⟩
  | error e => cases h

theorem set_error {w : Window} {row column : Nat} {value : Value} {e : Error}
    (h : (w.set row column value).1 = .error e) : (w.set row column value).2 = w := by
  cases value with
  | null => exact commit_error h
  | integer v => exact commit_error h
  | float v => exact commit_error h
  | text v => exact commit_error h
  | blob v => exact commit_error h

theorem apply_error {w : Window} {op : Operation} {e : Error} (h : (w.apply op).1 = .error e) :
    (w.apply op).2 = w := by
  cases op with
  | clear => exact commit_error (of_map_error h)
  | setColumns count => exact commit_error (of_map_error h)
  | pushRow => exact commit_error (of_map_error h)
  | popRow => exact commit_error (of_map_error h)
  | setStart position => cases h
  | set row column value => exact set_error (of_map_error h)

def ComesFrom (v w : Window) : Prop := ∃ ops : List Operation, v = w.after ops

namespace ComesFrom

theorem refl (w : Window) : ComesFrom w w := ⟨[], rfl⟩

theorem trans {u v w : Window} (h : ComesFrom u v) (h' : ComesFrom v w) : ComesFrom u w := by
  obtain ⟨later, rfl⟩ := h
  obtain ⟨earlier, rfl⟩ := h'
  exact ⟨earlier ++ later, by simp only [after, List.foldl_append]⟩

theorem apply (w : Window) (op : Operation) : ComesFrom (w.apply op).2 w := ⟨[op], rfl⟩

theorem outcome {α : Type} {r : Except Error α × Window} {w : Window} (h : ComesFrom r.2 w) :
    (∃ answer v, r = (.ok answer, v) ∧ ComesFrom v w) ∨
      ∃ e v, r = (.error e, v) ∧ ComesFrom v w := by
  obtain ⟨result, v⟩ := r
  cases result with
  | ok answer => exact .inl ⟨answer, v, rfl, h⟩
  | error e => exact .inr ⟨e, v, rfl, h⟩

end ComesFrom

/-- What no operation touches. -/
structure SameFrame (v w : Window) : Prop where
  name : v.name = w.name
  readOnly : v.readOnly = w.readOnly
  capacity : v.capacity = w.capacity

theorem SameFrame.refl (w : Window) : SameFrame w w := ⟨rfl, rfl, rfl⟩

theorem SameFrame.trans {u v w : Window} (h : SameFrame u v) (h' : SameFrame v w) :
    SameFrame u w :=
  ⟨h.name.trans h'.name, h.readOnly.trans h'.readOnly, h.capacity.trans h'.capacity⟩

theorem commit_sameFrame {π α : Type} {plan : Except Error π} {answer : π → α}
    {change : π → Window → Window} {w : Window} (h : ∀ p, SameFrame (change p w) w) :
    SameFrame (commit plan answer change w).2 w := by
  cases plan with
  | ok p => exact h p
  | error e => exact .refl w

theorem writeSlot_sameFrame (slot : Slot) (offset : Nat) (w : Window) :
    SameFrame (writeSlot slot offset w) w :=
  ⟨rfl, rfl, Buffer.write_size ..⟩

theorem appendPayload_sameFrame (row : Nat) (payload : ByteArray) (w : Window) :
    SameFrame (appendPayload row payload w) w :=
  ⟨rfl, rfl, Buffer.write_size ..⟩

theorem addRow_sameFrame (plan : RowPlan) (w : Window) : SameFrame (addRow plan w) w := by
  refine ⟨rfl, rfl, ?_⟩
  unfold addRow capacity
  cases plan.link with
  | none => simp only [Buffer.writeWord_size, Buffer.write_size]
  | some link => simp only [Buffer.writeWord_size, Buffer.write_size]

theorem dropRow_sameFrame (pending : PendingRow) (w : Window) :
    SameFrame (dropRow pending w) w := by
  refine ⟨rfl, rfl, ?_⟩
  unfold dropRow capacity
  cases pending.link with
  | none => rfl
  | some link => exact Buffer.writeWord_size ..

theorem setSlot_sameFrame (w : Window) (row column : Nat) (slot : Slot) :
    SameFrame (w.setSlot row column slot).2 w :=
  commit_sameFrame fun offset => writeSlot_sameFrame slot offset w

theorem setPayload_sameFrame (w : Window) (row column : Nat) (slotOf : Span → Slot)
    (payload : ByteArray) : SameFrame (w.setPayload row column slotOf payload).2 w :=
  commit_sameFrame fun _ =>
    (writeSlot_sameFrame ..).trans (appendPayload_sameFrame row payload w)

theorem set_sameFrame (w : Window) (row column : Nat) (value : Value) :
    SameFrame (w.set row column value).2 w := by
  cases value with
  | null => exact w.setSlot_sameFrame row column _
  | integer v => exact w.setSlot_sameFrame row column _
  | float v => exact w.setSlot_sameFrame row column _
  | text v => exact w.setPayload_sameFrame row column _ _
  | blob v => exact w.setPayload_sameFrame row column _ _

theorem clear_sameFrame (w : Window) : SameFrame w.clear.2 w :=
  commit_sameFrame fun _ => ⟨rfl, rfl, capacity_emptied w⟩

theorem setColumns_sameFrame (w : Window) (count : Nat) : SameFrame (w.setColumns count).2 w :=
  commit_sameFrame fun _ => ⟨rfl, rfl, rfl⟩

theorem setStartPosition_sameFrame (w : Window) (position : Nat) :
    SameFrame (w.setStartPosition position) w :=
  ⟨rfl, rfl, rfl⟩

theorem pushRow_sameFrame (w : Window) : SameFrame w.pushRow.2 w :=
  commit_sameFrame fun plan => addRow_sameFrame plan w

theorem popRow_sameFrame (w : Window) : SameFrame w.popRow.2 w :=
  commit_sameFrame fun pending => dropRow_sameFrame pending w

theorem apply_sameFrame (w : Window) (op : Operation) : SameFrame (w.apply op).2 w := by
  cases op with
  | clear => exact w.clear_sameFrame
  | setColumns count => exact w.setColumns_sameFrame count
  | pushRow => exact w.pushRow_sameFrame
  | popRow => exact w.popRow_sameFrame
  | setStart position => exact w.setStartPosition_sameFrame position
  | set row column value => exact w.set_sameFrame row column value

theorem after_sameFrame (w : Window) (ops : List Operation) : SameFrame (w.after ops) w := by
  induction ops generalizing w with
  | nil => exact .refl w
  | cons op ops ih => exact (ih _).trans (w.apply_sameFrame op)

theorem ComesFrom.sameFrame {v w : Window} (h : ComesFrom v w) : SameFrame v w := by
  obtain ⟨ops, rfl⟩ := h
  exact w.after_sameFrame ops

end Window

end RowPager
