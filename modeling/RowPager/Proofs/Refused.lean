import RowPager.Proofs.Capacity
import RowPager.Proofs.Restored

/-!
What a window refuses to do. An operation that fails leaves no trace, so that a history comes down
to the operations that succeeded. A window that was opened refuses all that would change its bytes.
-/

set_option autoImplicit false

namespace RowPager.Window

/-- Those of some operations that succeed when they are tried one after the other. -/
def granted (w : Window) : List Operation → List Operation
  | [] => []
  | op :: ops =>
    match (w.apply op).1 with
    | .ok _ => op :: (w.apply op).2.granted ops
    | .error _ => (w.apply op).2.granted ops

theorem after_granted (w : Window) (ops : List Operation) :
    w.after (w.granted ops) = w.after ops := by
  induction ops generalizing w with
  | nil => rfl
  | cons op ops ih =>
    rw [granted, after_cons]
    split
    · rw [after_cons]
      exact ih _
    · next e herror =>
      rw [apply_error herror]
      exact ih w

def Call.startAfter (position : Nat) : Call → Nat
  | .operate (.setStart position) => position
  | _ => position

variable {w : Window}

theorem call_readOnly (hw : w.readOnly = true) (call : Call) :
    (w.call call).2 = w.setStartPosition (call.startAfter w.startPosition) := by
  unfold Call.startAfter
  split
  · rfl
  · next hother =>
    cases call with
    | operate op =>
      have hop : ∀ position, op ≠ .setStart position := by
        rintro position rfl
        exact hother position rfl
      rw [Window.call, apply_readOnly hw hop]
      rfl
    | get row column getter => rfl
    | fill request c tally =>
      by_cases hrange : request.start ≤ request.required
      · rw [Window.call, Fill.run_readOnly hrange hw]
        rfl
      · rw [call_fill_invalid (Nat.lt_of_not_le hrange)]
        rfl

theorem afterCalls_readOnly (hw : w.readOnly = true) (calls : List Call) :
    w.afterCalls calls =
      w.setStartPosition (calls.foldl Call.startAfter w.startPosition) := by
  induction calls generalizing w with
  | nil => rfl
  | cons call calls ih =>
    have hcall := call_readOnly hw call
    show (w.call call).2.afterCalls calls = _
    rw [hcall]
    exact ih hw

/-- An operation that fails leaves the window as it was, whatever window it is tried on, and so a
history does what the operations in it do that succeed. A window that was opened refuses every
operation but that of setting its start position, and that is all that calls ever change in it. -/
theorem error_traceless_and_opened_frozen (w : Window) :
    (∀ op e, (w.apply op).1 = .error e → (w.apply op).2 = w) ∧
      (∀ ops, w.after (w.granted ops) = w.after ops) ∧
      ∀ name parcel, ofParcel name parcel = .ok w → ∀ calls : List Call,
        w.afterCalls calls =
            w.setStartPosition (calls.foldl Call.startAfter w.startPosition) ∧
          ∀ op, (∀ position, op ≠ .setStart position) →
            (w.afterCalls calls).apply op = (.error (.readOnly name), w.afterCalls calls) := by
  refine ⟨fun op e => apply_error, w.after_granted, fun name parcel hopen calls => ?_⟩
  obtain ⟨hopened, -⟩ := ofParcel_eq_ok_iff.mp hopen
  have hafter := afterCalls_readOnly hopened.readOnly calls
  refine ⟨hafter, fun op hop => ?_⟩
  have hw : (w.afterCalls calls).readOnly = true := by
    rw [hafter]
    exact hopened.readOnly
  have hname : (w.afterCalls calls).name = name := by
    rw [hafter]
    exact hopened.name
  rw [apply_readOnly hw hop, hname]

theorem error_traceless_and_opened_frozen_text :
    ∃ (v : Window) (parcel : ByteArray), ofParcel "copy" parcel = .ok v ∧
      v.get 0 0 .text = .ok (.value (.text "row")) ∧
      v.afterCalls [.operate (.setStart 7), .operate .clear] = v.setStartPosition 7 ∧
      (v.setStartPosition 7).apply .pushRow =
        (.error (.readOnly "copy"), v.setStartPosition 7) := by
  obtain ⟨w, hreach, -, hstart, -, htext⟩ := exists_text_window
  have hopen := (hreach.framed.isOpened "copy").ofParcel_eq
    (show w.startPosition < 2 ^ 32 by omega)
  obtain ⟨-, -, hfrozen⟩ := error_traceless_and_opened_frozen (w.snapshot "copy")
  obtain ⟨hafter, hrefused⟩ :=
    hfrozen "copy" _ hopen [.operate (.setStart 7), .operate .clear]
  have hpush := hrefused .pushRow fun position h => by cases h
  rw [hafter] at hpush
  have hget := ((hreach.framed.restores "copy").get 0 0 .text).trans htext
  exact ⟨w.snapshot "copy", _, hopen, hget, hafter, hpush⟩

end RowPager.Window
