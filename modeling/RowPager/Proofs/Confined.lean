import RowPager.Proofs.Framing
import RowPager.Proofs.Getter

/-!
Cells of a window whose bytes may be anything. A chunk may lead back to itself, a row slot or a
payload may lie anywhere and tags may be unknown: a getter still ends, and looks at nothing but
the header and the used bytes after it.
-/

set_option autoImplicit false

namespace RowPager

namespace Window

open Buffer (Shares Has)

structure SameUsed (v w : Window) : Prop where
  header : v.header = w.header
  shares : Shares v.bytes w.bytes Layout.headerSize (w.used - Layout.headerSize)

structure Lends (w : Window) (span : Span) (bytes : ByteArray) : Prop where
  after_header : Layout.headerSize ≤ span.offset.toNat
  used : span.offset.toNat + span.size.toNat ≤ w.used
  size : bytes.size = span.size.toNat
  present : Has w.bytes span.offset.toNat bytes

inductive Refuses (w : Window) (row column : Nat) : Error → Prop where
  | outside (h : w.rows ≤ row ∨ w.columns ≤ column) :
      Refuses w row column (.indexOutOfRange row column w.rows w.columns)
  | mismatch (requested actual : CellType) :
      Refuses w row column (.typeMismatch row column requested actual)
  | corrupted (cause : Corruption) : Refuses w row column (.corrupted cause)

/-- No getter reads outside the window, whichever cell is asked for. -/
structure Confined (w : Window) : Prop where
  fits : w.used ≤ w.capacity
  outcome : ∀ (row column : Nat) (getter : Getter),
    (∃ answer, w.get row column getter = .ok answer) ∨
      ∃ e, w.get row column getter = .error e ∧ w.Refuses row column e
  lends : ∀ {row column : Nat} {getter : Getter} {value : Value} {bytes : ByteArray},
    w.get row column getter = .ok (.value value) → Entry.payload ⟨value, 0⟩ = some bytes →
      ∃ span, (w.slot row column = .ok (.text span) ∨ w.slot row column = .ok (.blob span)) ∧
        w.Lends span bytes
  used_only : ∀ {v : Window}, v.SameUsed w → ∀ (row column : Nat) (getter : Getter),
    v.get row column getter = w.get row column getter

variable {v w : Window}

namespace SameUsed

theorem used_eq (h : v.SameUsed w) : v.used = w.used := by rw [used, used, h.header]

theorem rows_eq (h : v.SameUsed w) : v.rows = w.rows := by rw [rows, rows, h.header]

theorem columns_eq (h : v.SameUsed w) : v.columns = w.columns := by
  rw [columns, columns, h.header]

theorem range (h : v.SameUsed w) {offset length : Nat} (hlo : 16 ≤ offset)
    (hhi : offset + length ≤ w.used) : Shares v.bytes w.bytes offset length := by
  refine h.shares.part hlo ?_
  show offset + length ≤ 16 + (w.used - 16)
  omega

theorem requireUsed_concur (h : v.SameUsed w) (offset length : Nat) :
    Concur (fun _ => 16 ≤ offset ∧ offset + length ≤ w.used) (v.requireUsed offset length)
      (w.requireUsed offset length) := by
  rw [requireUsed, requireUsed, h.used_eq]
  split
  · next hin => exact .ok hin
  · exact .corrupted _

/-- However the links run, each chunk that is reached lies in the used bytes. -/
theorem followLinks_concur (h : v.SameUsed w) (target links offset : Nat) :
    Concur (fun goal => 16 ≤ goal ∧ goal + 404 ≤ w.used) (v.followLinks target links offset)
      (w.followLinks target links offset) := by
  induction links generalizing offset with
  | zero =>
    rw [followLinks, followLinks]
    exact (h.requireUsed_concur offset _).bind fun _ hin => .ok hin
  | succ links ih =>
    rw [followLinks, followLinks]
    refine (h.requireUsed_concur offset _).bind ?_
    rintro - ⟨hlo, hhi⟩
    have hchunk : offset + 404 ≤ w.used := hhi
    refine (Buffer.word_concur (h.range (?_ : 16 ≤ offset + 400) ?_)).bind fun next _ => ?_
    · omega
    · show offset + 400 + 4 ≤ w.used
      omega
    split
    · exact .corrupted _
    · exact ih next.toNat

theorem rowCells_concur (h : v.SameUsed w) (row : Nat) :
    Concur (fun _ => True) (v.rowCells row) (w.rowCells row) := by
  rw [rowCells, rowCells, chunk, chunk, h.header]
  refine (h.followLinks_concur _ _ _).bind ?_
  rintro goal ⟨hlo, hhi⟩
  refine (Buffer.word_concur (h.range ?_ ?_)).bind fun cells _ => .ok trivial
  · omega
  · show goal + row % 100 * 4 + 4 ≤ w.used
    omega

theorem cellOffset_concur (h : v.SameUsed w) {row column : Nat} (hrow : row < w.rows)
    (hcolumn : column < w.columns) :
    Concur (fun offset => 16 ≤ offset ∧ offset + 16 ≤ w.used) (v.cellOffset row column)
      (w.cellOffset row column) := by
  have hin : ¬ (w.rows ≤ row ∨ w.columns ≤ column) := by omega
  rw [cellOffset, cellOffset, h.rows_eq, h.columns_eq, if_neg hin, if_neg hin]
  exact (h.rowCells_concur row).bind fun cells _ =>
    (h.requireUsed_concur _ _).bind fun _ hin => .ok hin

theorem slot_concur (h : v.SameUsed w) {row column : Nat} (hrow : row < w.rows)
    (hcolumn : column < w.columns) :
    Concur (fun _ => True) (v.slot row column) (w.slot row column) := by
  rw [slot, slot]
  refine (h.cellOffset_concur hrow hcolumn).bind ?_
  rintro offset ⟨hlo, hhi⟩
  refine (Buffer.slice_concur (h.range hlo hhi)).bind ?_
  rintro bytes ⟨hsize, -⟩
  have hlength : ¬ bytes.data.toList.length < Layout.cellSize := by
    show ¬ bytes.size < 16
    omega
  rw [Slot.decode, if_neg hlength]
  simp only
  split
  · exact .corrupted _
  · exact .ok trivial

theorem payload_concur (h : v.SameUsed w) (span : Span) :
    Concur (w.Lends span) (v.payload span) (w.payload span) := by
  rw [payload, payload]
  refine (h.requireUsed_concur _ _).bind ?_
  rintro - ⟨hlo, hhi⟩
  refine (Buffer.slice_concur (h.range hlo hhi)).mono ?_
  rintro bytes ⟨hsize, hbytes⟩
  exact ⟨hlo, hhi, hsize, hbytes⟩

theorem payloadText_concur (h : v.SameUsed w) (row column : Nat) (span : Span) :
    Concur (fun text => w.Lends span text.toUTF8) (v.payloadText row column span)
      (w.payloadText row column span) := by
  rw [payloadText, payloadText]
  refine (h.payload_concur span).bind fun bytes hlends => ?_
  cases hdecode : Utf8.decode bytes with
  | error fault => exact .corrupted _
  | ok text =>
    rw [(Utf8.decode_eq_ok_iff _ _).mp hdecode] at hlends
    exact .ok hlends

end SameUsed

theorem SameUsed.answerOf_eq (h : v.SameUsed w) (row column : Nat) (getter : Getter) (slot : Slot) :
    v.answerOf row column getter slot = w.answerOf row column getter slot := by
  cases slot with
  | null => rfl
  | integer value => rfl
  | float value => rfl
  | text span =>
    simp only [answerOf, (h.payload_concur span).eq, (h.payloadText_concur row column span).eq]
  | blob span => simp only [answerOf, (h.payload_concur span).eq]

theorem SameUsed.get_eq (h : v.SameUsed w) (row column : Nat) (getter : Getter) :
    v.get row column getter = w.get row column getter := by
  rw [get_eq_answerOf, get_eq_answerOf]
  by_cases hin : row < w.rows ∧ column < w.columns
  · rw [(h.slot_concur hin.1 hin.2).eq]
    cases w.slot row column with
    | error e => rfl
    | ok slot => exact h.answerOf_eq row column getter slot
  · have hout : w.rows ≤ row ∨ w.columns ≤ column := by omega
    rw [slot, slot, cellOffset, cellOffset, h.rows_eq, h.columns_eq, if_pos hout, if_pos hout]
    rfl

inductive Reads (w : Window) (row column : Nat) (slot : Slot) : Except Error Answer → Prop where
  | answer {answer : Answer} (h : ∀ {value : Value} {bytes : ByteArray}, answer = .value value →
      Entry.payload ⟨value, 0⟩ = some bytes →
        ∃ span, (slot = .text span ∨ slot = .blob span) ∧ w.Lends span bytes) :
      Reads w row column slot (.ok answer)
  | refused {e : Error} (h : w.Refuses row column e) : Reads w row column slot (.error e)

theorem reads_inline (w : Window) (row column : Nat) (getter : Getter) (slot : Slot) (value : Value)
    (hinline : value.isInline = true) :
    w.Reads row column slot (value.answer row column getter) := by
  obtain ⟨requested, h⟩ | ⟨answer, h, hvalue⟩ := value.answer_cases row column getter
  · rw [h]
    exact .refused (.mismatch requested value.type)
  · rw [h]
    refine .answer fun heq hbytes => ?_
    obtain rfl | ⟨text, rfl, -⟩ := hvalue _ heq
    · rw [(Entry.payload_size hbytes).2] at hinline
      cases hinline
    · cases hinline

theorem reads_lent {α : Type} {r : Except Error α} {span : Span} {bytesOf : α → ByteArray}
    (h : Concur (fun a => w.Lends span (bytesOf a)) r r) (valueOf : α → Value)
    (hbytes : ∀ a, Entry.payload ⟨valueOf a, 0⟩ = some (bytesOf a)) {slot : Slot}
    (hslot : slot = .text span ∨ slot = .blob span) (row column : Nat) :
    w.Reads row column slot (r.map fun a => .value (valueOf a)) := by
  obtain ⟨a, rfl, hlends⟩ | ⟨cause, rfl⟩ := h.outcome
  · refine .answer fun heq hpayload => ⟨span, hslot, ?_⟩
    cases heq
    cases (hbytes a).symm.trans hpayload
    exact hlends
  · exact .refused (.corrupted cause)

theorem answerOf_reads (h : w.SameUsed w) (row column : Nat) (getter : Getter) (slot : Slot) :
    w.Reads row column slot (w.answerOf row column getter slot) := by
  cases slot with
  | null => exact w.reads_inline row column getter _ .null rfl
  | integer value => exact w.reads_inline row column getter _ (.integer value) rfl
  | float value => exact w.reads_inline row column getter _ (.float value) rfl
  | text span =>
    have hbytes := reads_lent (h.payload_concur span) .blob (fun _ => rfl) (.inl rfl)
      row column
    have htext := reads_lent (h.payloadText_concur row column span) .text
      (fun _ => rfl) (.inl rfl) row column
    cases getter with
    | type => exact .answer fun heq => by cases heq
    | isNull => exact .answer fun heq => by cases heq
    | integer => exact .refused (.mismatch .integer .text)
    | float => exact .refused (.mismatch .float .text)
    | text => exact htext
    | blob => exact hbytes
    | value => exact htext
  | blob span =>
    have hbytes := reads_lent (h.payload_concur span) .blob (fun _ => rfl) (.inr rfl)
      row column
    cases getter with
    | type => exact .answer fun heq => by cases heq
    | isNull => exact .answer fun heq => by cases heq
    | integer => exact .refused (.mismatch .integer .blob)
    | float => exact .refused (.mismatch .float .blob)
    | text => exact .refused (.mismatch .text .blob)
    | blob => exact hbytes
    | value => exact hbytes

theorem sameUsed_self (hmin : 16 ≤ w.capacity) (hfits : w.used ≤ w.capacity) : w.SameUsed w := by
  refine ⟨rfl, Buffer.shares_self ?_⟩
  show 16 + (w.used - 16) ≤ w.capacity
  omega

theorem get_reads (h : w.SameUsed w) (row column : Nat) (getter : Getter) :
    (∃ e, w.get row column getter = .error e ∧ w.Refuses row column e) ∨
      ∃ slot, w.slot row column = .ok slot ∧
        w.Reads row column slot (w.get row column getter) := by
  rw [get_eq_answerOf]
  by_cases hin : row < w.rows ∧ column < w.columns
  · obtain ⟨slot, hslot, -⟩ | ⟨cause, hslot⟩ := (h.slot_concur hin.1 hin.2).outcome
    · rw [hslot]
      exact .inr ⟨slot, rfl, answerOf_reads h row column getter slot⟩
    · rw [hslot]
      exact .inl ⟨_, rfl, .corrupted cause⟩
  · have hout : w.rows ≤ row ∨ w.columns ≤ column := by omega
    rw [slot, cellOffset, if_pos hout]
    exact .inl ⟨_, rfl, .outside hout⟩

theorem confined_of_fits (hmin : 16 ≤ w.capacity) (hfits : w.used ≤ w.capacity) : w.Confined := by
  have hself := sameUsed_self hmin hfits
  refine ⟨hfits, fun row column getter => ?_, ?_, fun h => h.get_eq⟩
  · obtain herror | ⟨slot, -, hread⟩ := get_reads hself row column getter
    · exact .inr herror
    · generalize w.get row column getter = r at hread ⊢
      cases hread with
      | answer h => exact .inl ⟨_, rfl⟩
      | refused h => exact .inr ⟨_, rfl, h⟩
  · intro row column getter value bytes hvalue hbytes
    obtain ⟨e, herror, -⟩ | ⟨slot, hslot, hread⟩ := get_reads hself row column getter
    · cases herror.symm.trans hvalue
    · rw [hvalue] at hread
      cases hread with
      | answer h =>
        rw [hslot]
        obtain ⟨span, hspan, hlends⟩ := h rfl hbytes
        exact ⟨span, by simpa using hspan, hlends⟩

/-- A parcel of any bytes opens or is found to be corrupted. Whatever it opens as can be read
at any row and column without a look outside its bytes. -/
theorem ofParcel_confined (name : String) (parcel : ByteArray) :
    (∃ w, ofParcel name parcel = .ok w ∧ w.Confined) ∨
      ∃ cause, ofParcel name parcel = .error (.corrupted cause) := by
  obtain ⟨w, hopen, hopened, -⟩ | herror := (ofParcel_concur name parcel).outcome
  · refine .inl ⟨w, hopen, confined_of_fits ?_ (Nat.le_of_eq hopened.used)⟩
    exact Nat.le_trans (by decide) hopened.minimum
  · exact .inr herror

end Window

end RowPager
