/-!
Sizes of the parts of a window, in bytes:

    0     header
    16    first chunk of row slots: one word a row, then the link to the next chunk
    420   cells, payloads and further chunks, in the order in which they were added
-/

set_option autoImplicit false

namespace RowPager.Layout

abbrev headerSize : Nat := 16

abbrev rowSlotSize : Nat := 4

abbrev chunkRows : Nat := 100

abbrev linkOffset : Nat := chunkRows * rowSlotSize

abbrev chunkSize : Nat := linkOffset + 4

abbrev cellSize : Nat := 16

abbrev minCapacity : Nat := headerSize + chunkSize

abbrev maxCapacity : Nat := UInt32.size - 1

abbrev defaultCapacity : Nat := 2 * 1024 * 1024

def alignUp (offset : Nat) : Nat := (offset + 3) / 4 * 4

theorem le_alignUp (offset : Nat) : offset ≤ alignUp offset := by
  unfold alignUp; omega

theorem alignUp_lt (offset : Nat) : alignUp offset < offset + 4 := by
  unfold alignUp; omega

theorem alignUp_mod (offset : Nat) : alignUp offset % 4 = 0 := by
  unfold alignUp; omega

end RowPager.Layout
