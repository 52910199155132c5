import RowPager.Proofs.Restored

/-!
A window beside a wider one with the same bytes and more behind them. Plans for the two are the same
but for the question whether there is room, and what is written lies in the part that both have.
-/

set_option autoImplicit false

namespace RowPager

namespace Buffer

theorem extract_append_left {left right : ByteArray} {start stop : Nat} (hstart : start ≤ left.size)
    (hstop : stop ≤ left.size) : (left ++ right).extract start stop = left.extract start stop := by
  rw [ByteArray.extract_append, Nat.sub_eq_zero_of_le hstart, Nat.sub_eq_zero_of_le hstop,
    ByteArray.extract_same, ByteArray.append_empty]

variable {buffer bytes : ByteArray} {offset : Nat}

theorem write_append (hfit : offset + bytes.size ≤ buffer.size) (rest : ByteArray) :
    write (buffer ++ rest) offset bytes = write buffer offset bytes ++ rest := by
  have hmore : offset + bytes.size ≤ (buffer ++ rest).size := by
    rw [ByteArray.size_append]
    omega
  have hbefore : (buffer ++ rest).extract 0 offset = buffer.extract 0 offset :=
    extract_append_left (Nat.zero_le _) (by omega)
  have hafter : (buffer ++ rest).extract (offset + bytes.size) (buffer ++ rest).size =
      buffer.extract (offset + bytes.size) buffer.size ++ rest := by
    rw [ByteArray.extract_eq_extract_append_extract buffer.size hfit (by simp),
      ByteArray.extract_append_size_left,
      ByteArray.extract_append_eq_right rfl ByteArray.size_append]
  rw [write_eq_append _ _ _ hmore, write_eq_append _ _ _ hfit, hbefore, hafter,
    ByteArray.append_assoc, ByteArray.append_assoc, ByteArray.append_assoc]

theorem writeWord_append (hfit : offset + 4 ≤ buffer.size) (word : UInt32) (rest : ByteArray) :
    writeWord (buffer ++ rest) offset word = writeWord buffer offset word ++ rest :=
  write_append (by simpa using hfit) rest

end Buffer

namespace Window

variable {w : Window} {rest : ByteArray}

def widened (w : Window) (rest : ByteArray) : Window := { w with bytes := w.bytes ++ rest }

theorem capacity_widened (w : Window) (rest : ByteArray) :
    (w.widened rest).capacity = w.capacity + rest.size :=
  ByteArray.size_append

theorem emptied_widened (hmin : 420 ≤ w.capacity) :
    (w.widened rest).emptied = w.emptied.widened rest := by
  have hword : Buffer.writeWord (w.bytes ++ rest) 416 0 = Buffer.writeWord w.bytes 416 0 ++ rest :=
    Buffer.writeWord_append hmin 0 rest
  cases w with
  | mk name header bytes readOnly start pending =>
  simp only [widened, emptied, Window.mk.injEq, true_and, and_true]
  exact hword

theorem writeSlot_widened (slot : Slot) {offset : Nat} (hfit : offset + 16 ≤ w.capacity) :
    writeSlot slot offset (w.widened rest) = (writeSlot slot offset w).widened rest := by
  have hwrite : Buffer.write (w.bytes ++ rest) offset slot.encode.toByteArray =
      Buffer.write w.bytes offset slot.encode.toByteArray ++ rest :=
    Buffer.write_append (by rw [Slot.encode_size]; exact hfit) rest
  cases w with
  | mk name header bytes readOnly start pending =>
  simp only [widened, writeSlot, Window.mk.injEq, true_and, and_true]
  exact hwrite

theorem appendPayload_widened (row : Nat) {payload : ByteArray}
    (hfit : w.used + payload.size ≤ w.capacity) :
    appendPayload row payload (w.widened rest) = (appendPayload row payload w).widened rest := by
  have hwrite := Buffer.write_append hfit rest
  cases w with
  | mk name header bytes readOnly start pending =>
  simp only [widened, appendPayload, Window.mk.injEq, true_and]
  exact ⟨hwrite, rfl⟩

/-- All that adding the planned row writes lies before this offset. -/
structure RowPlan.EndsBy (plan : RowPlan) (stop : Nat) : Prop where
  chunk : plan.chunk + 404 ≤ stop
  link : ∀ link : Nat, plan.link = some link → link + 4 ≤ stop
  cells : plan.cells ≤ plan.finish
  finish : plan.finish ≤ stop

theorem RowPlan.EndsBy.mono {plan : RowPlan} {stop stop' : Nat} (h : plan.EndsBy stop)
    (hle : stop ≤ stop') : plan.EndsBy stop' :=
  ⟨Nat.le_trans h.chunk hle, fun link heq => Nat.le_trans (h.link link heq) hle, h.cells,
    Nat.le_trans h.finish hle⟩

theorem linkChunk_widened {bytes : ByteArray} {chunk : Nat} {link : Option Nat}
    (hchunk : chunk + 404 ≤ bytes.size)
    (hlink : ∀ next : Nat, link = some next → next + 4 ≤ bytes.size) :
    Stores.linkChunk (bytes ++ rest) chunk link = Stores.linkChunk bytes chunk link ++ rest := by
  cases link with
  | none => rfl
  | some next =>
    rw [Stores.linkChunk, Stores.linkChunk, Buffer.writeWord_append hchunk,
      Buffer.writeWord_append (by rw [Buffer.writeWord_size]; exact hlink next rfl)]

theorem addRow_widened {plan : RowPlan} (hplan : plan.EndsBy w.capacity) :
    addRow plan (w.widened rest) = (addRow plan w).widened rest := by
  obtain ⟨row, chunk, link, cells, finish⟩ := plan
  obtain ⟨hchunk, hlink, hcells, hfinish⟩ := hplan
  have hsize := Stores.linkChunk_size w.bytes chunk link
  have hend : cells + (Buffer.zeros (finish - cells)).size ≤ w.bytes.size := by
    rw [Buffer.zeros_size, Nat.add_sub_cancel' hcells]
    exact hfinish
  have hslot : chunk + row % 100 * 4 + 4 ≤ w.bytes.size := by
    have hchunk : chunk + 404 ≤ w.bytes.size := hchunk
    omega
  have hbytes : Buffer.writeWord
        (Buffer.write (Stores.linkChunk (w.bytes ++ rest) chunk link) cells
          (Buffer.zeros (finish - cells))) (chunk + row % 100 * 4) (.ofNat cells) =
      Buffer.writeWord (Buffer.write (Stores.linkChunk w.bytes chunk link) cells
          (Buffer.zeros (finish - cells))) (chunk + row % 100 * 4) (.ofNat cells) ++ rest := by
    rw [linkChunk_widened hchunk hlink, Buffer.write_append (hsize.symm ▸ hend),
      Buffer.writeWord_append (by rw [Buffer.write_size, hsize]; exact hslot)]
  cases w with
  | mk name header bytes readOnly start pending =>
  simp only [widened, addRow, Window.mk.injEq, true_and, and_true]
  cases link with
  | none => exact hbytes
  | some next => exact hbytes

theorem dropRow_widened {pending : PendingRow}
    (hlink : ∀ link : UInt32, pending.link = some link → link.toNat + 4 ≤ w.capacity) :
    dropRow pending (w.widened rest) = (dropRow pending w).widened rest := by
  cases w with
  | mk name header bytes readOnly start newest =>
  simp only [widened, dropRow, Window.mk.injEq, true_and, and_true]
  cases hset : pending.link with
  | none => rfl
  | some link => exact Buffer.writeWord_append (hlink link hset) 0 rest

def within {π : Type} (w : Window) (stop : Nat) (p : π) : Except Error π :=
  if w.capacity < stop then .error (.outOfMemory (stop - w.used) w.free) else .ok p

/-- A plan for the window and one for the wider window. Either both are refused for a reason that
has nothing to do with room, or they are the same but for the room. -/
inductive Planned {π : Type} (EndsBy : π → Nat → Prop) (w : Window) (rest : ByteArray) :
    Except Error π → Except Error π → Prop where
  | refused {e : Error} (he : e.isOutOfMemory = false) : Planned EndsBy w rest (.error e) (.error e)
  | within {p : π} {stop : Nat} (hused : w.used ≤ stop) (hends : EndsBy p stop) :
      Planned EndsBy w rest (w.within stop p) ((w.widened rest).within stop p)

/-- What an operation on the window and on the wider one have in common. Unless the smaller one is
out of memory the result is the same, and if it is, what it lacks is told exactly. -/
structure Scales {α : Type} (w : Window) (rest : ByteArray) (r r' : Except Error α × Window) :
    Prop where
  same : (∀ needed available, r.1 ≠ .error (.outOfMemory needed available)) →
    r' = (r.1, r.2.widened rest)
  lack : ∀ needed available, r.1 = .error (.outOfMemory needed available) →
    available < needed ∧ available = w.free ∧
      ((∃ answer, r'.1 = .ok answer) ↔ needed - available ≤ rest.size)

theorem Planned.scales {π α : Type} {EndsBy : π → Nat → Prop} {plan plan' : Except Error π}
    (h : Planned EndsBy w rest plan plan') (hframed : w.Framed) (answer : π → α)
    (change : π → Window → Window)
    (hchange : ∀ p stop, EndsBy p stop → stop ≤ w.capacity →
      change p (w.widened rest) = (change p w).widened rest) :
    Scales w rest (commit plan answer change w) (commit plan' answer change (w.widened rest)) := by
  have hfits := hframed.fits
  cases h with
  | refused he =>
    refine ⟨fun _ => rfl, fun needed available heq => ?_⟩
    cases heq
    cases he
  | @within p stop hused hends =>
    have hwide : (w.widened rest).within stop p =
        if w.capacity + rest.size < stop then
          .error (.outOfMemory (stop - w.used) (w.widened rest).free)
        else .ok p := by
      rw [Window.within, capacity_widened]
      rfl
    by_cases hroom : w.capacity < stop
    · rw [Window.within, if_pos hroom, hwide]
      refine ⟨fun h => absurd rfl (h _ _), fun needed available heq => ?_⟩
      cases heq
      have hfree : w.free = w.capacity - w.used := rfl
      refine ⟨by omega, rfl, ?_⟩
      by_cases hmore : w.capacity + rest.size < stop
      · rw [if_pos hmore]
        exact ⟨fun ⟨_, h⟩ => (by cases h), fun h => by omega⟩
      · rw [if_neg hmore]
        exact ⟨fun _ => by omega, fun _ => ⟨answer p, rfl⟩⟩
    · rw [Window.within, if_neg hroom, hwide, if_neg (by omega)]
      refine ⟨fun _ => ?_, fun needed available heq => by cases heq⟩
      rw [commit, commit, hchange p stop hends (Nat.le_of_not_lt hroom)]

theorem Planned.of_ok {π : Type} {EndsBy : π → Nat → Prop} {p : π} (hframed : w.Framed)
    (hends : EndsBy p w.used) : Planned EndsBy w rest (.ok p) (.ok p) := by
  have hfits := hframed.fits
  have hnarrow : w.within w.used p = .ok p := if_neg (by omega)
  have hwide : (w.widened rest).within w.used p = .ok p := by
    rw [Window.within, capacity_widened, if_neg (by omega)]
  have hplanned : Planned EndsBy w rest (w.within w.used p) ((w.widened rest).within w.used p) :=
    .within (Nat.le_refl _) hends
  rwa [hnarrow, hwide] at hplanned

namespace Framed

variable (h : w.Framed)

include h

theorem capacity_le : 420 ≤ w.capacity := Nat.le_trans h.minimum h.fits

theorem sameUsed_widened (rest : ByteArray) : w.SameUsed (w.widened rest) := by
  have hmin := h.minimum
  have hfits := h.fits
  refine ⟨rfl, (Buffer.shares_append w.bytes rest).part (Nat.zero_le _) ?_⟩
  show 16 + (w.used - 16) ≤ 0 + w.capacity
  omega

theorem image_widened (rest : ByteArray) : (w.widened rest).image = w.image := by
  have hmin : Layout.headerSize ≤ w.bytes.size := Nat.le_trans (by decide) h.capacity_le
  have hbytes : (w.bytes ++ rest).extract Layout.headerSize w.used =
      w.bytes.extract Layout.headerSize w.used := Buffer.extract_append_left hmin h.fits
  exact congrArg (w.header.encode.toByteArray ++ ·) hbytes

theorem planChunk_widened : (w.widened rest).planChunk = w.planChunk := by
  have hchunk : ∀ index, (w.widened rest).chunk index = w.chunk index := fun index =>
    ((h.sameUsed_widened rest).followLinks_concur index index w.header.firstChunk.toNat).eq.symm
  rw [planChunk, planChunk, hchunk, hchunk]
  rfl

theorem planSlot_widened (row column : Nat) :
    (w.widened rest).planSlot row column = w.planSlot row column := by
  have hoffset : (w.widened rest).cellOffset row column = w.cellOffset row column := by
    by_cases hout : w.rows ≤ row ∨ w.columns ≤ column
    · rw [cellOffset, cellOffset, if_pos hout]
      exact if_pos hout
    · obtain ⟨hrow, hcolumn⟩ := not_or.mp hout
      exact ((h.sameUsed_widened rest).cellOffset_concur (Nat.lt_of_not_le hrow)
        (Nat.lt_of_not_le hcolumn)).eq.symm
  rw [planSlot, planSlot, hoffset]
  rfl

theorem planSlot_cases (hw : w.readOnly = false) (row column : Nat) :
    (∃ e : Error, e.isOutOfMemory = false ∧ w.planSlot row column = .error e) ∨
      ∃ offset, offset + 16 ≤ w.used ∧ w.planSlot row column = .ok offset := by
  have hself := sameUsed_self (Nat.le_trans (by decide) h.capacity_le) h.fits
  rw [planSlot, requireWritable_eq hw]
  by_cases hout : w.rows ≤ row ∨ w.columns ≤ column
  · exact .inl ⟨.indexOutOfRange row column w.rows w.columns, rfl, if_pos hout⟩
  · obtain ⟨hrow, hcolumn⟩ := not_or.mp hout
    obtain ⟨offset, hoffset, -, hends⟩ | ⟨cause, herror⟩ :=
      (hself.cellOffset_concur (Nat.lt_of_not_le hrow) (Nat.lt_of_not_le hcolumn)).outcome
    · exact .inr ⟨offset, hends, hoffset⟩
    · exact .inl ⟨.corrupted cause, rfl, herror⟩

theorem planChunk_cases :
    (∃ cause, w.planChunk = .error (.corrupted cause)) ∨
      ∃ chunk link base, w.planChunk = .ok (chunk, link, base) ∧ w.used ≤ base ∧
        chunk + 404 ≤ base ∧ ∀ next : Nat, link = some next → next + 4 ≤ base := by
  have hself := sameUsed_self (Nat.le_trans (by decide) h.capacity_le) h.fits
  have hfollow := fun index =>
    (hself.followLinks_concur index index w.header.firstChunk.toNat).outcome
  have halign := Layout.le_alignUp w.used
  rw [planChunk]
  split
  · obtain ⟨last, hlast, -, hends⟩ | ⟨cause, herror⟩ := hfollow (w.rows / Layout.chunkRows - 1)
    · rw [chunk, hlast]
      refine .inr ⟨_, _, _, rfl, ?_, Nat.le_refl _, ?_⟩
      · show w.used ≤ Layout.alignUp w.used + 404
        omega
      · rintro next heq
        cases heq
        show last + 400 + 4 ≤ Layout.alignUp w.used + 404
        omega
    · rw [chunk, herror]
      exact .inl ⟨cause, rfl⟩
  · obtain ⟨last, hlast, -, hends⟩ | ⟨cause, herror⟩ := hfollow (w.rows / Layout.chunkRows)
    · rw [chunk, hlast]
      exact .inr ⟨_, _, _, rfl, Nat.le_refl _, hends, fun next heq => by cases heq⟩
    · rw [chunk, herror]
      exact .inl ⟨cause, rfl⟩

theorem planSlot_planned (hw : w.readOnly = false) (row column : Nat) :
    Planned (fun offset stop => offset + 16 ≤ stop) w rest (w.planSlot row column)
      ((w.widened rest).planSlot row column) := by
  rw [h.planSlot_widened]
  obtain ⟨e, he, hplan⟩ | ⟨offset, hends, hplan⟩ := h.planSlot_cases hw row column
  · rw [hplan]
    exact .refused he
  · rw [hplan]
    exact .of_ok h hends

theorem planPayload_planned (hw : w.readOnly = false) (row column size : Nat) :
    Planned (fun offset stop => offset + 16 ≤ stop ∧ w.used + size ≤ stop) w rest
      (w.planPayload row column size) ((w.widened rest).planPayload row column size) := by
  have hfits := h.fits
  have hwithin : ∀ (v : Window) (offset : Nat), v.used = w.used → v.used ≤ v.capacity →
      (if v.free < size then .error (.outOfMemory size v.free) else .ok offset) =
        v.within (w.used + size) offset := by
    intro v offset hused hfits
    have hfree : v.free = v.capacity - v.used := rfl
    have hneeded : w.used + size - v.used = size := by omega
    rw [within, hneeded]
    by_cases hroom : v.free < size
    · rw [if_pos hroom, if_pos (by omega)]
    · rw [if_neg hroom, if_neg (by omega)]
  have hmore : (w.widened rest).used ≤ (w.widened rest).capacity := by
    rw [capacity_widened]
    exact Nat.le_add_right_of_le hfits
  rw [planPayload, planPayload, h.planSlot_widened]
  obtain ⟨e, he, hplan⟩ | ⟨offset, hends, hplan⟩ := h.planSlot_cases hw row column
  · rw [hplan]
    exact .refused he
  · rw [hplan]
    simp only [bind, Except.bind]
    rw [hwithin w offset rfl hfits, hwithin (w.widened rest) offset rfl hmore]
    exact .within (Nat.le_add_right _ _) ⟨Nat.le_add_right_of_le hends, Nat.le_refl _⟩

theorem planRow_planned (hw : w.readOnly = false) :
    Planned RowPlan.EndsBy w rest w.planRow (w.widened rest).planRow := by
  have hwide : (w.widened rest).readOnly = false := hw
  rw [planRow, planRow, requireWritable_eq hw, requireWritable_eq hwide, h.planChunk_widened]
  obtain ⟨cause, hplan⟩ | ⟨chunk, link, base, hplan, hused, hchunk, hlink⟩ := h.planChunk_cases
  · rw [hplan]
    exact .refused rfl
  · rw [hplan]
    have hfinish : base ≤ Layout.alignUp base + w.columns * Layout.cellSize :=
      Nat.le_add_right_of_le (Layout.le_alignUp base)
    have hends : RowPlan.EndsBy ⟨w.rows, chunk, link, Layout.alignUp base,
        Layout.alignUp base + w.columns * Layout.cellSize⟩
        (Layout.alignUp base + w.columns * Layout.cellSize) :=
      ⟨Nat.le_trans hchunk hfinish, fun next heq => Nat.le_trans (hlink next heq) hfinish,
        Nat.le_add_right _ _, Nat.le_refl _⟩
    exact .within (Nat.le_trans hused hfinish) hends

end Framed

section Operations

variable {s : Sheet}

theorem Stores.pending_link_le (h : w.Stores s) {pending : PendingRow}
    (hpending : w.pending = some pending) (link : UInt32) (hlink : pending.link = some link) :
    link.toNat + 4 ≤ w.used := by
  rw [h.pending, Sheet.pendingRow] at hpending
  obtain ⟨mark, hmark, rfl⟩ := Option.map_eq_some_iff.mp hpending
  obtain ⟨next, hnext, rfl⟩ := Option.map_eq_some_iff.mp hlink
  obtain ⟨hnone, -⟩ | ⟨index, offset, hchunk, hsome, -⟩ :=
    h.sound.pendingLink_cases (h.sound.pending mark hmark).2.1
  · cases hnone.symm.trans hnext
  · cases hsome.symm.trans hnext
    have hinside := (h.sound.inside (.chunk hchunk)).2
    have hbound := h.sound.free_lt
    rw [h.used_eq, Buffer.toNat_ofNat (by omega)]
    omega

theorem Scales.map {α β : Type} {r r' : Except Error α × Window} (h : Scales w rest r r')
    (f : α → β) : Scales w rest (r.1.map f, r.2) (r'.1.map f, r'.2) := by
  refine ⟨fun hroom => ?_, fun needed available heq => ?_⟩
  · rw [h.same fun needed available heq => hroom needed available (by rw [heq]; rfl)]
  · obtain ⟨hlt, hfree, henough⟩ := h.lack needed available (of_map_error heq)
    refine ⟨hlt, hfree, Iff.trans ?_ henough⟩
    obtain ⟨x, v⟩ := r'
    cases x with
    | ok a => exact ⟨fun _ => ⟨a, rfl⟩, fun _ => ⟨f a, rfl⟩⟩
    | error e => exact ⟨fun ⟨_, hok⟩ => (by cases hok), fun ⟨_, hok⟩ => (by cases hok)⟩

section Stored

variable (h : w.Stores s) (hw : w.readOnly = false)

include h hw

theorem setSlot_scales (row column : Nat) (slot : Slot) :
    Scales w rest (w.setSlot row column slot) ((w.widened rest).setSlot row column slot) := by
  refine (h.framed.planSlot_planned hw row column).scales h.framed _ _ ?_
  intro offset stop hends hstop
  exact writeSlot_widened slot (Nat.le_trans hends hstop)

theorem setPayload_scales (row column : Nat) (slotOf : Span → Slot) (payload : ByteArray) :
    Scales w rest (w.setPayload row column slotOf payload)
      ((w.widened rest).setPayload row column slotOf payload) := by
  have hchange : ∀ (slot : Slot) (offset stop : Nat),
      offset + 16 ≤ stop ∧ w.used + payload.size ≤ stop → stop ≤ w.capacity →
        writeSlot slot offset (appendPayload row payload (w.widened rest)) =
          (writeSlot slot offset (appendPayload row payload w)).widened rest := by
    rintro slot offset stop ⟨hslot, hpayload⟩ hstop
    have hsame := (appendPayload_sameFrame row payload w).capacity
    rw [appendPayload_widened row (Nat.le_trans hpayload hstop)]
    exact writeSlot_widened slot (by omega)
  exact (h.framed.planPayload_planned hw row column payload.size).scales h.framed (fun _ => ())
    (fun offset v => writeSlot (slotOf ⟨w.header.freeOffset, .ofNat payload.size⟩) offset
      (appendPayload row payload v)) (hchange _)

theorem set_scales (row column : Nat) (value : Value) :
    Scales w rest (w.set row column value) ((w.widened rest).set row column value) := by
  cases value with
  | null => exact setSlot_scales h hw row column .null
  | integer v => exact setSlot_scales h hw row column (.integer v)
  | float v => exact setSlot_scales h hw row column (.float v)
  | text v => exact setPayload_scales h hw row column .text v.toUTF8
  | blob v => exact setPayload_scales h hw row column .blob v

theorem pushRow_scales : Scales w rest w.pushRow (w.widened rest).pushRow := by
  refine (h.framed.planRow_planned hw).scales h.framed _ _ ?_
  intro plan stop hends hstop
  exact addRow_widened (hends.mono hstop)

theorem popRow_scales : Scales w rest w.popRow (w.widened rest).popRow := by
  have hplan : (w.widened rest).planPop = w.planPop := rfl
  have hplanned : Planned (fun pending stop => ∀ link : UInt32, pending.link = some link →
      link.toNat + 4 ≤ stop) w rest w.planPop (w.widened rest).planPop := by
    rw [hplan, planPop, requireWritable_eq hw]
    cases hpending : w.pending with
    | none => exact .refused rfl
    | some pending => exact .of_ok h.framed (h.pending_link_le hpending)
  refine hplanned.scales h.framed _ _ ?_
  intro pending stop hlink hstop
  exact dropRow_widened fun link heq => Nat.le_trans (hlink link heq) hstop

theorem setColumns_scales (count : Nat) :
    Scales w rest (w.setColumns count) ((w.widened rest).setColumns count) := by
  have hplan : (w.widened rest).planColumns count = w.planColumns count := rfl
  have hplanned : Planned (fun _ _ => True) w rest (w.planColumns count)
      ((w.widened rest).planColumns count) := by
    rw [hplan, planColumns, requireWritable_eq hw]
    simp only [bind, Except.bind]
    split
    · exact .refused rfl
    split
    · exact .refused rfl
    · exact .of_ok h.framed trivial
  exact hplanned.scales h.framed _ _ fun _ _ _ _ => rfl

theorem clear_scales : Scales w rest w.clear (w.widened rest).clear := by
  have hplan : (w.widened rest).requireWritable = w.requireWritable := rfl
  have hplanned : Planned (fun _ _ => True) w rest w.requireWritable
      (w.widened rest).requireWritable := by
    rw [hplan, requireWritable_eq hw]
    exact .of_ok h.framed trivial
  refine hplanned.scales h.framed _ _ fun _ _ _ _ => ?_
  rw [emptied_widened h.framed.capacity_le]
  rfl

/-- Whatever is done to both windows, the wider one only has more room. -/
theorem apply_scales (op : Operation) (rest : ByteArray) :
    Scales w rest (w.apply op) ((w.widened rest).apply op) := by
  cases op with
  | clear => exact (clear_scales h hw).map _
  | setColumns count => exact (setColumns_scales h hw count).map _
  | pushRow => exact (pushRow_scales h hw).map _
  | popRow => exact (popRow_scales h hw).map _
  | setStart position => exact ⟨fun _ => rfl, fun needed available heq => by cases heq⟩
  | set row column value => exact (set_scales h hw row column value).map _

end Stored

end Operations

end Window

end RowPager
