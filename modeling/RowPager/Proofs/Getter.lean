import RowPager.Proofs.Stored

/-!
The seven ways to read a cell, and what each makes of the value that the cell holds.
-/

set_option autoImplicit false

namespace RowPager

inductive Getter where
  | type
  | isNull
  | integer
  | float
  | text
  | blob
  | value
  deriving DecidableEq

inductive Answer where
  | type (type : CellType)
  | isNull (isNull : Bool)
  | value (value : Value)
  deriving DecidableEq

def Window.get (w : Window) (row column : Nat) : Getter → Except Error Answer
  | .type => (w.typeAt row column).map .type
  | .isNull => (w.isNullAt row column).map .isNull
  | .integer => (w.integerAt row column).map fun v => .value (.integer v)
  | .float => (w.floatAt row column).map fun v => .value (.float v)
  | .text => (w.textAt row column).map fun v => .value (.text v)
  | .blob => (w.blobAt row column).map fun v => .value (.blob v)
  | .value => (w.valueAt row column).map .value

theorem Window.typeAt_of_get {w : Window} {row column : Nat} {type : CellType}
    (h : w.get row column .type = .ok (.type type)) : w.typeAt row column = .ok type := by
  rw [get] at h
  cases hr : w.typeAt row column with
  | ok type' => rw [hr] at h; cases h; rfl
  | error e => rw [hr] at h; cases h

theorem Window.valueAt_of_get {w : Window} {row column : Nat} {value : Value}
    (h : w.get row column .value = .ok (.value value)) : w.valueAt row column = .ok value := by
  rw [get] at h
  cases hr : w.valueAt row column with
  | ok value' => rw [hr] at h; cases h; rfl
  | error e => rw [hr] at h; cases h

/-- The answer of a cell that holds the value. No type is taken for another, but a text is taken
for its bytes. -/
def Value.answer (row column : Nat) : Getter → Value → Except Error Answer
  | .type, v => .ok (.type v.type)
  | .isNull, v => .ok (.isNull (v.type = .null))
  | .integer, .integer v => .ok (.value (.integer v))
  | .float, .float v => .ok (.value (.float v))
  | .text, .text v => .ok (.value (.text v))
  | .blob, .blob v => .ok (.value (.blob v))
  | .blob, .text v => .ok (.value (.blob v.toUTF8))
  | .value, v => .ok (.value v)
  | .integer, v => .error (.typeMismatch row column .integer v.type)
  | .float, v => .error (.typeMismatch row column .float v.type)
  | .text, v => .error (.typeMismatch row column .text v.type)
  | .blob, v => .error (.typeMismatch row column .blob v.type)

theorem Value.answer_ne_corrupted (row column : Nat) (getter : Getter) (v : Value)
    (cause : Corruption) : v.answer row column getter ≠ .error (.corrupted cause) := by
  cases getter <;> cases v <;> simp [answer]

theorem Value.answer_cases (v : Value) (row column : Nat) (getter : Getter) :
    (∃ requested, v.answer row column getter =
        .error (.typeMismatch row column requested v.type)) ∨
      ∃ answer, v.answer row column getter = .ok answer ∧
        ∀ value, answer = .value value →
          value = v ∨ ∃ text, v = .text text ∧ value = .blob text.toUTF8 := by
  cases getter <;> cases v <;> simp [answer]

namespace Window

def answerOf (w : Window) (row column : Nat) (getter : Getter) : Slot → Except Error Answer
  | .null => Value.null.answer row column getter
  | .integer v => (Value.integer v).answer row column getter
  | .float v => (Value.float v).answer row column getter
  | .text span =>
    match getter with
    | .text | .value => (w.payloadText row column span).map fun v => .value (.text v)
    | .blob => (w.payload span).map fun v => .value (.blob v)
    | other => (Value.text "").answer row column other
  | .blob span =>
    match getter with
    | .blob | .value => (w.payload span).map fun v => .value (.blob v)
    | other => (Value.blob ByteArray.empty).answer row column other

theorem get_eq_answerOf (w : Window) (row column : Nat) (getter : Getter) :
    w.get row column getter = (w.slot row column).bind (w.answerOf row column getter) := by
  cases getter with
  | type =>
    rw [get, typeAt]
    cases w.slot row column with
    | error e => rfl
    | ok slot => cases slot <;> rfl
  | isNull =>
    rw [get, isNullAt, typeAt]
    cases w.slot row column with
    | error e => rfl
    | ok slot => cases slot <;> rfl
  | integer =>
    rw [get, integerAt]
    cases w.slot row column with
    | error e => rfl
    | ok slot => cases slot <;> rfl
  | float =>
    rw [get, floatAt]
    cases w.slot row column with
    | error e => rfl
    | ok slot => cases slot <;> rfl
  | text =>
    rw [get, textAt]
    cases w.slot row column with
    | error e => rfl
    | ok slot => cases slot <;> rfl
  | blob =>
    rw [get, blobAt]
    cases w.slot row column with
    | error e => rfl
    | ok slot => cases slot <;> rfl
  | value =>
    rw [get, valueAt]
    cases w.slot row column with
    | error e => rfl
    | ok slot =>
      cases slot with
      | text span =>
        show Except.map _ (Except.bind (w.payloadText row column span) _) =
          Except.map _ (w.payloadText row column span)
        cases w.payloadText row column span <;> rfl
      | blob span =>
        show Except.map _ (Except.bind (w.payload span) _) = Except.map _ (w.payload span)
        cases w.payload span <;> rfl
      | null => rfl
      | integer v => rfl
      | float v => rfl

end Window

namespace Window.Stores

variable {w : Window} {s : Sheet} {row column : Nat}

theorem get_eq (h : w.Stores s) {r : Sheet.Row} (hr : s.rows[row]? = some r)
    (hc : column < s.columns) (getter : Getter) :
    w.get row column getter = (r.entry column).value.answer row column getter := by
  have hpayload := fun bytes hb => h.payload_eq hr hc (show _ = some bytes from hb)
  rw [get_eq_answerOf, h.slot_eq hr hc]
  cases he : r.entry column with
  | mk value offset =>
  rw [he] at hpayload
  cases value with
  | null => rfl
  | integer v => rfl
  | float v => rfl
  | text v =>
    have hbytes : w.payload ⟨.ofNat offset, .ofNat v.toUTF8.size⟩ = .ok v.toUTF8 := hpayload _ rfl
    have htext : w.payloadText row column ⟨.ofNat offset, .ofNat v.toUTF8.size⟩ = .ok v := by
      rw [payloadText, hbytes]
      simp only [bind, Except.bind, Utf8.decode_toUTF8]
    cases getter <;> simp only [Entry.slot, Except.bind, answerOf, hbytes, htext] <;> rfl
  | blob v =>
    have hbytes : w.payload ⟨.ofNat offset, .ofNat v.size⟩ = .ok v := hpayload _ rfl
    cases getter <;> simp only [Entry.slot, Except.bind, answerOf, hbytes] <;> rfl

theorem get_error (h : w.Stores s) (hout : s.rows.length ≤ row ∨ s.columns ≤ column)
    (getter : Getter) :
    w.get row column getter =
      .error (.indexOutOfRange row column s.rows.length s.columns) := by
  rw [get_eq_answerOf, slot, h.cellOffset_error hout]
  rfl

end Window.Stores

end RowPager
