import RowPager.Proofs.Arena
import RowPager.Proofs.Bounded
import RowPager.Proofs.Restored

/-!
The numbers in a window are the numbers that were calculated. What is calculated fits into 64 bits,
and what is stored of it into 32; no count passes the end of its range, and no difference is
negative.
-/

set_option autoImplicit false

namespace RowPager.Window

/-- Words of 64 bits hold what is calculated to add a row, to find a cell, or to tell what is free. -/
structure Calculates (w : Window) : Prop where
  free : w.used + w.free = w.capacity
  planRow : (Bounded.planRow w).run = some w.planRow
  cellOffset : ∀ row column, (Bounded.cellOffset w row column).run = some (w.cellOffset row column)

structure Added (w : Window) (plan : RowPlan) (v : Window) : Prop where
  rows : v.rows = w.rows + 1
  used : v.used = plan.finish
  slot : ∃ word : UInt32, word.toNat = plan.cells ∧
    Buffer.word v.bytes (plan.chunk + plan.row % Layout.chunkRows * Layout.rowSlotSize) = .ok word
  link : ∀ link, plan.link = some link →
    ∃ word : UInt32, word.toNat = plan.chunk ∧ Buffer.word v.bytes link = .ok word
  pending : ∃ pending, v.pending = some pending ∧ pending.freeOffset.toNat = w.used ∧
    pending.link.map UInt32.toNat = plan.link

/-- Words of 32 bits hold what the operations store. -/
structure Records (w : Window) : Prop where
  columns : ∀ count, (w.setColumns count).1 = .ok () → (w.setColumns count).2.columns = count
  added : ∀ row, w.pushRow.1 = .ok row → ∃ plan, w.planRow = .ok plan ∧ w.Added plan w.pushRow.2
  dropped : w.popRow.1 = .ok () → w.popRow.2.rows + 1 = w.rows
  used : ∀ row column value, (w.set row column value).1 = .ok () →
    (w.set row column value).2.used = w.used + value.payloadSize
  payload : ∀ row column value, (w.set row column value).1 = .ok () → value.isInline = false →
    ∃ span, ((w.set row column value).2.slot row column = .ok (.text span) ∨
        (w.set row column value).2.slot row column = .ok (.blob span)) ∧
      span.offset.toNat = w.used ∧ span.size.toNat = value.payloadSize

variable {w : Window} {s : Sheet}

theorem Framed.calculates (h : w.Framed) : w.Calculates where
  free := Nat.add_sub_cancel' h.fits
  planRow := (Bounded.planRow_yields h.fits).run
  cellOffset row column := (Bounded.cellOffset_yields row column).run

namespace Stores

theorem pendingRow_exact (h : w.Stores s) {mark : Nat} (hmark : s.pending = some mark) :
    ∃ pending, w.pending = some pending ∧ pending.freeOffset.toNat = mark ∧
      pending.link.map UInt32.toNat = s.pendingLink := by
  have hbound := h.sound.free_lt
  obtain ⟨hle, hrows, -⟩ := h.sound.pending mark hmark
  have hpending := h.pending
  rw [Sheet.pendingRow, hmark] at hpending
  refine ⟨_, hpending, Buffer.toNat_ofNat (by omega), ?_⟩
  obtain ⟨hnone, -⟩ | ⟨index, offset, hchunk, hsome, -⟩ := h.sound.pendingLink_cases hrows
  · rw [hnone]
    rfl
  · have hinside := (h.sound.inside (.chunk hchunk)).2
    have hnat : (UInt32.ofNat (offset + 400)).toNat = offset + 400 := Buffer.toNat_ofNat (by omega)
    rw [hsome]
    exact congrArg some hnat

theorem link_exact (h : w.Stores s) {chunk link : Nat} (hrows : s.rows ≠ [])
    (hchunk : s.chunks[(s.rows.length - 1) / 100]? = some chunk)
    (hlink : s.pendingLink = some link) :
    ∃ word : UInt32, word.toNat = chunk ∧ Buffer.word w.bytes link = .ok word := by
  obtain ⟨hnone, -⟩ | ⟨index, offset, hbefore, hsome, -, hlen⟩ := h.sound.pendingLink_cases hrows
  · cases hnone.symm.trans hlink
  · cases hsome.symm.trans hlink
    have hpos := List.length_pos_iff.mpr hrows
    have hcount := h.sound.chunk_count
    have hindex : (s.rows.length - 1) / 100 = index + 1 := by
      unfold Layout.chunkCount at hcount
      omega
    rw [hindex] at hchunk
    obtain ⟨word, hword, -, hnat⟩ := h.next_eq hbefore hchunk
    exact ⟨word, hnat, hword⟩

theorem added (h : w.Stores s) (hw : w.readOnly = false) {row : Nat}
    (hpush : w.pushRow.1 = .ok row) : ∃ plan, w.planRow = .ok plan ∧ w.Added plan w.pushRow.2 := by
  have hadded := h.withRow_of_pushRow hw hpush
  obtain ⟨chunk, hchunk, hplan⟩ := h.planRow_eq hw
  split at hplan
  · rw [Window.pushRow, commit_of_error hplan] at hpush
    cases hpush
  refine ⟨_, hplan, ?_, hadded.used_eq, hadded.rowSlot_eq s.rows_withRow hchunk, ?_, ?_⟩
  · rw [hadded.rows_eq, h.rows_eq]
    simp [Sheet.withRow]
  · have hlast : s.withRow.rows.length - 1 = s.rows.length := by simp [Sheet.withRow]
    exact fun link hlink => hadded.link_exact (by simp [Sheet.withRow]) (hlast ▸ hchunk) hlink
  · rw [h.used_eq]
    exact hadded.pendingRow_exact rfl

theorem dropped (h : w.Stores s) (hw : w.readOnly = false) (hpop : w.popRow.1 = .ok ()) :
    w.popRow.2.rows + 1 = w.rows := by
  obtain ⟨hanswer, hstores⟩ := h.popRow hw
  rw [hpop] at hanswer
  obtain ⟨e, heq⟩ | ⟨mark, hmark, heq⟩ := s.popRow_cases
  · rw [heq] at hanswer
    cases hanswer
  · have hpos := List.length_pos_iff.mpr (h.sound.pending mark hmark).2.1
    rw [heq] at hstores
    rw [hstores.rows_eq, h.rows_eq]
    simp only [Sheet.withoutRow, List.length_dropLast]
    omega

theorem columns_exact (h : w.Stores s) (hw : w.readOnly = false) {count : Nat}
    (hset : (w.setColumns count).1 = .ok ()) : (w.setColumns count).2.columns = count := by
  obtain ⟨hanswer, hstores⟩ := h.setColumns hw count
  rw [hset] at hanswer
  obtain ⟨e, heq⟩ | ⟨-, -, heq⟩ := s.setColumns_cases count
  · rw [heq] at hanswer
    cases hanswer
  · rw [heq] at hstores
    exact hstores.columns_eq

theorem payload_exact (h : w.Stores s) (hw : w.readOnly = false) {row column : Nat} {value : Value}
    (hset : (w.set row column value).1 = .ok ()) (hvalue : value.isInline = false) :
    ∃ span, ((w.set row column value).2.slot row column = .ok (.text span) ∨
        (w.set row column value).2.slot row column = .ok (.blob span)) ∧
      span.offset.toNat = w.used ∧ span.size.toNat = value.payloadSize := by
  obtain ⟨hrow, hcolumn, hstores⟩ := h.withValue_of_set hw hset
  have hr := List.getElem?_eq_getElem hrow
  have hslot := hstores.slot_eq (Sheet.getElem?_withValue column value hr) hcolumn
  simp only [Sheet.Row.put, if_true] at hslot
  have hbound : s.free + value.payloadSize < 2 ^ 32 := hstores.sound.free_lt
  have hoffset : (UInt32.ofNat s.free).toNat = w.used :=
    (Buffer.toNat_ofNat (by omega)).trans h.used_eq.symm
  have hsize : (UInt32.ofNat value.payloadSize).toNat = value.payloadSize :=
    Buffer.toNat_ofNat (by omega)
  cases value with
  | null => cases hvalue
  | integer v => cases hvalue
  | float v => cases hvalue
  | text v => exact ⟨_, .inl hslot, hoffset, hsize⟩
  | blob v => exact ⟨_, .inr hslot, hoffset, hsize⟩

theorem records (h : w.Stores s) (hw : w.readOnly = false) : w.Records where
  columns _ := h.columns_exact hw
  added _ := h.added hw
  dropped := h.dropped hw
  used row column value hset := by
    obtain ⟨-, -, hstores⟩ := h.withValue_of_set hw hset
    rw [hstores.used_eq, h.used_eq]
    rfl
  payload _ _ _ := h.payload_exact hw

end Stores

/-- No number is ever cut off, in any window that there can be. One that cannot be written only
calculates, since it stores nothing. -/
theorem Reachable.words_exact (h : w.Reachable) :
    w.Calculates ∧ (w.readOnly = false → w.Records) := by
  refine ⟨h.framed.calculates, fun hw => ?_⟩
  obtain ⟨s, hstores⟩ := h.stores hw
  exact hstores.records hw

/-- A row may be wider than 32 bits can tell. In the other window there is a row with a text, room
for one more and for another text. -/
theorem words_exact_wide_and_text :
    (∃ w : Window, w.Calculates ∧ w.Records ∧ w.capacity = 440 ∧ w.columns = 4294967295 ∧
      w.pushRow.1 = .error (.outOfMemory 68719476720 20)) ∧
    ∃ w : Window, w.Calculates ∧ w.Records ∧ w.rows = 1 ∧ w.used = 439 ∧
      w.get 0 0 .text = .ok (.value (.text "row")) ∧
      w.pushRow.1 = .ok 1 ∧ (∃ plan, w.planRow = .ok plan ∧ w.Added plan w.pushRow.2) ∧
      w.pushRow.2.rows = 2 ∧ w.popRow.1 = .ok () ∧ w.popRow.2.rows = 0 ∧
      (w.set 0 0 (.text "again")).1 = .ok () ∧ (w.set 0 0 (.text "again")).2.used = 444 ∧
      ∃ span, ((w.set 0 0 (.text "again")).2.slot 0 0 = .ok (.text span) ∨
          (w.set 0 0 (.text "again")).2.slot 0 0 = .ok (.blob span)) ∧
        span.offset.toNat = 439 ∧ span.size.toNat = 5 := by
  constructor
  · obtain ⟨w, hreach, hw, hstores⟩ :=
      exists_stores_after (show Layout.minCapacity ≤ 440 by decide) (by decide)
        [.setColumns 4294967295]
    obtain ⟨hcalculates, hrecords⟩ := Reachable.words_exact hreach
    exact ⟨w, hcalculates, hrecords hw, hstores.capacity, hstores.columns_eq,
      (hstores.pushRow hw).1⟩
  · obtain ⟨w, hreach, hw, hstores⟩ :=
      exists_stores_after (show Layout.minCapacity ≤ 460 by decide) (by decide)
        [.setColumns 1, .pushRow, .set 0 0 (.text "row")]
    obtain ⟨hcalculates, hwritable⟩ := Reachable.words_exact hreach
    have hrecords := hwritable hw
    have hrows : w.rows = 1 := hstores.rows_eq
    have hused : w.used = 439 := hstores.used_eq
    have htext := hstores.get_eq (show _[0]? = some _ from rfl) (show 0 < _ by decide) .text
    have hpush : w.pushRow.1 = .ok 1 := (hstores.pushRow hw).1
    have hpop : w.popRow.1 = .ok () := (hstores.popRow hw).1
    have hset : (w.set 0 0 (.text "again")).1 = .ok () := (hstores.set hw 0 0 (.text "again")).1
    obtain ⟨plan, hplan, hadded⟩ := hrecords.added 1 hpush
    have hpushed : w.pushRow.2.rows = w.rows + 1 := hadded.rows
    have hpopped := hrecords.dropped hpop
    have hgrown : (w.set 0 0 (.text "again")).2.used = w.used + 5 :=
      hrecords.used 0 0 (.text "again") hset
    obtain ⟨span, hslot, hoffset, hsize⟩ := hrecords.payload 0 0 (.text "again") hset rfl
    exact ⟨w, hcalculates, hrecords, hrows, hused, htext, hpush, ⟨plan, hplan, hadded⟩, by omega,
      hpop, by omega, hset, by omega, span, hslot, hoffset.trans hused, hsize⟩

end RowPager.Window
