import RowPager.Proofs.Cleared
import RowPager.Proofs.Widened

/-!
Windows of two capacities with one history. As long as the smaller one does not run out of memory
nothing tells them apart, and when it does, what it lacks is exactly what the larger one must have
more.
-/

set_option autoImplicit false

namespace RowPager

theorem Buffer.zeros_add (m n : Nat) : zeros (m + n) = zeros m ++ zeros n := by
  apply ByteArray.ext
  simp [zeros]

namespace Window

def Call.isFill : Call → Bool
  | .operate _ | .get .. => false
  | @fill .. => true

def Reply.isOutOfMemory : Reply → Bool
  | .operated (.error e) | .got (.error e) => e.isOutOfMemory
  | .operated (.ok _) | .got (.ok _) | .filled .. => false

def replies (w : Window) : List Call → List Reply
  | [] => []
  | call :: calls => (w.call call).1 :: (w.call call).2.replies calls

def afterCalls (w : Window) (calls : List Call) : Window :=
  calls.foldl (fun w call => (w.call call).2) w

structure Kept (w : Window) : Prop where
  writable : w.readOnly = false
  sheet : ∃ s, w.Stores s

variable {w : Window} {calls : List Call}

namespace Kept

theorem framed (h : w.Kept) : w.Framed := by
  obtain ⟨-, s, hstores⟩ := h
  exact hstores.framed

theorem call (h : w.Kept) {call : Call} (hcall : call.isFill = false) :
    (w.call call).2.Kept ∧ (w.call call).2.capacity = w.capacity := by
  obtain ⟨hw, s, hstores⟩ := h
  cases call with
  | operate op =>
    have hframe := w.apply_sameFrame op
    exact ⟨⟨hframe.readOnly.trans hw, _, (hstores.apply hw op).2⟩, hframe.capacity⟩
  | get row column getter => exact ⟨⟨hw, s, hstores⟩, rfl⟩
  | fill request c tally => cases hcall

theorem call_widened (h : w.Kept) {call : Call} (hcall : call.isFill = false)
    (hroom : (w.call call).1.isOutOfMemory = false) (rest : ByteArray) :
    (w.widened rest).call call = ((w.call call).1, (w.call call).2.widened rest) := by
  obtain ⟨hw, s, hstores⟩ := h
  cases call with
  | operate op =>
    have hroom : (Reply.operated (w.apply op).1).isOutOfMemory = false := hroom
    have hsame := (apply_scales hstores hw op rest).same fun needed available heq => by
      rw [heq] at hroom
      cases hroom
    rw [Window.call, Window.call, hsame]
  | get row column getter =>
    have hget : (w.widened rest).get row column getter = w.get row column getter :=
      ((hstores.framed.sameUsed_widened rest).get_eq row column getter).symm
    rw [Window.call, Window.call, hget]
  | fill request c tally => cases hcall

theorem afterCalls (h : w.Kept) (hcalls : ∀ call ∈ calls, call.isFill = false) :
    (w.afterCalls calls).Kept ∧ (w.afterCalls calls).capacity = w.capacity := by
  induction calls generalizing w with
  | nil => exact ⟨h, rfl⟩
  | cons call calls ih =>
    obtain ⟨hcall, hrest⟩ := List.forall_mem_cons.mp hcalls
    obtain ⟨hkept, hcapacity⟩ := h.call hcall
    obtain ⟨hafter, hsame⟩ := ih hkept hrest
    exact ⟨hafter, hsame.trans hcapacity⟩

theorem replies_widened (h : w.Kept) (hcalls : ∀ call ∈ calls, call.isFill = false)
    (hroom : ∀ reply ∈ w.replies calls, reply.isOutOfMemory = false) (rest : ByteArray) :
    (w.widened rest).replies calls = w.replies calls ∧
      (w.widened rest).afterCalls calls = (w.afterCalls calls).widened rest := by
  induction calls generalizing w with
  | nil => exact ⟨rfl, rfl⟩
  | cons call calls ih =>
    obtain ⟨hcall, hrest⟩ := List.forall_mem_cons.mp hcalls
    obtain ⟨hreply, hreplies⟩ := List.forall_mem_cons.mp hroom
    have hwide := h.call_widened hcall hreply rest
    obtain ⟨hsame, hafter⟩ := ih (h.call hcall).1 hrest hreplies
    refine ⟨?_, ?_⟩
    · rw [replies, replies, hwide, hsame]
    · show ((w.widened rest).call call).2.afterCalls calls = _
      rw [hwide]
      exact hafter

end Kept

theorem create_widened (name : String) {small large : Nat} (hmin : Layout.minCapacity ≤ small)
    (hle : small ≤ large) (hmax : large ≤ Layout.maxCapacity) :
    ∃ w : Window, create name small = .ok w ∧
      create name large = .ok (w.widened (Buffer.zeros (large - small))) ∧ w.Kept ∧
      w.capacity = small := by
  obtain ⟨w, hcreate, hw, hstores⟩ := create_stores name hmin (Nat.le_trans hle hmax)
  refine ⟨w, hcreate, ?_, ⟨hw, _, hstores⟩, hstores.capacity⟩
  have hroom : 420 ≤ (Buffer.zeros small).size := by
    rw [Buffer.zeros_size]
    exact hmin
  rw [create, if_neg (by omega), if_neg (by omega)] at hcreate ⊢
  cases hcreate
  have hbytes := Buffer.zeros_add small (large - small)
  rw [Nat.add_sub_cancel' hle] at hbytes
  rw [hbytes]
  exact congrArg Except.ok
    (emptied_widened (w := ⟨name, .zero, Buffer.zeros small, false, 0, none⟩) hroom)

/-- Two new windows that differ in nothing but the capacity. While the smaller one does not run out
of memory, all calls have the same replies and leave the same header and used bytes. When it does,
it tells what it has and that it needs more, and the operation succeeds on the larger one exactly
if that has as much more as is missing. -/
theorem create_scales (name : String) {small large : Nat} (hmin : Layout.minCapacity ≤ small)
    (hle : small ≤ large) (hmax : large ≤ Layout.maxCapacity) :
    ∃ v w : Window, create name large = .ok v ∧ create name small = .ok w ∧
      ∀ calls : List Call, (∀ call ∈ calls, call.isFill = false) →
        (∀ reply ∈ w.replies calls, reply.isOutOfMemory = false) →
        v.replies calls = w.replies calls ∧
        (v.afterCalls calls).header = (w.afterCalls calls).header ∧
        (v.afterCalls calls).image = (w.afterCalls calls).image ∧
        ∀ op needed available,
          ((w.afterCalls calls).apply op).1 = .error (.outOfMemory needed available) →
          available < needed ∧ available = small - (w.afterCalls calls).used ∧
            ((∃ answer, ((v.afterCalls calls).apply op).1 = .ok answer) ↔
              needed - available ≤ large - small) := by
  obtain ⟨w, hsmall, hlarge, hkept, hcapacity⟩ := create_widened name hmin hle hmax
  refine ⟨_, w, hlarge, hsmall, fun calls hcalls hroom => ?_⟩
  obtain ⟨hreplies, hafter⟩ := hkept.replies_widened hcalls hroom (Buffer.zeros (large - small))
  obtain ⟨hkept', hsame⟩ := hkept.afterCalls hcalls
  rw [hafter]
  refine ⟨hreplies, rfl, hkept'.framed.image_widened _, fun op needed available hlack => ?_⟩
  obtain ⟨hw, s, hstores⟩ := hkept'
  obtain ⟨hlt, hfree, henough⟩ :=
    (apply_scales hstores hw op (Buffer.zeros (large - small))).lack needed available hlack
  rw [Buffer.zeros_size] at henough
  refine ⟨hlt, ?_, henough⟩
  rw [hfree, free, hsame, hcapacity]

/-- One byte is left for a second row, which needs sixteen and is put on a word boundary. -/
theorem create_scales_row :
    ∃ (v w : Window) (calls : List Call), create "page" 456 = .ok v ∧
      create "page" 440 = .ok w ∧ (∀ reply ∈ w.replies calls, reply.isOutOfMemory = false) ∧
      v.replies calls = w.replies calls ∧
      ((w.afterCalls calls).apply .pushRow).1 = .error (.outOfMemory 17 1) ∧
      ∃ answer, ((v.afterCalls calls).apply .pushRow).1 = .ok answer := by
  obtain ⟨v, w, hlarge, hsmall, hscales⟩ := create_scales "page"
    (show Layout.minCapacity ≤ 440 by decide) (show 440 ≤ 456 by decide) (by decide)
  obtain ⟨hw, hstores⟩ := of_create hsmall
  obtain ⟨hset, hcolumns⟩ := hstores.apply hw (.setColumns 1)
  have hw₁ := (w.apply_sameFrame (.setColumns 1)).readOnly.trans hw
  obtain ⟨hpush, hrow⟩ := hcolumns.apply hw₁ .pushRow
  have hw₂ := ((w.apply (.setColumns 1)).2.apply_sameFrame .pushRow).readOnly.trans hw₁
  obtain ⟨htext, hheld⟩ := hrow.apply hw₂ (.set 0 0 (.text "row"))
  have hw₃ := (((w.apply (.setColumns 1)).2.apply .pushRow).2.apply_sameFrame
    (.set 0 0 (.text "row"))).readOnly.trans hw₂
  have hget := hheld.get_eq (show _[0]? = some _ from rfl) (show 0 < _ by decide) .text
  have hlack := (hheld.apply hw₃ .pushRow).1
  let calls : List Call :=
    [.operate (.setColumns 1), .operate .pushRow, .operate (.set 0 0 (.text "row")), .get 0 0 .text]
  have hreplies : w.replies calls = [.operated (.ok none), .operated (.ok (some 0)),
      .operated (.ok none), .got (.ok (.value (.text "row")))] := by
    simp only [calls, replies, Window.call, hset, hpush, htext, hget]
    rfl
  have hroom : ∀ reply ∈ w.replies calls, reply.isOutOfMemory = false := by
    rw [hreplies]
    simp [Reply.isOutOfMemory]
  have hlack : ((w.afterCalls calls).apply .pushRow).1 = .error (.outOfMemory 17 1) := hlack
  obtain ⟨hsame, -, -, hpushed⟩ := hscales calls (by simp [calls, Call.isFill]) hroom
  obtain ⟨-, -, henough⟩ := hpushed .pushRow 17 1 hlack
  exact ⟨v, w, calls, hlarge, hsmall, hroom, hsame, hlack, henough.mpr (by decide)⟩

end Window

end RowPager
