import RowPager.Bytes.LittleEndian
import RowPager.Layout

/-!
The header of a window: four words that say how far it is filled and how many rows and columns
it has.
-/

set_option autoImplicit false

namespace RowPager

structure Header where
  /-- Offset of the lowest unused byte. -/
  freeOffset : UInt32
  firstChunk : UInt32
  rows : UInt32
  columns : UInt32
  deriving DecidableEq

namespace Header

def zero : Header := ⟨0, 0, 0, 0⟩

def fresh : Header := ⟨420, 16, 0, 0⟩

def encode (header : Header) : List UInt8 :=
  LittleEndian.encode 4 header.freeOffset.toNat ++ LittleEndian.encode 4 header.firstChunk.toNat ++
    LittleEndian.encode 4 header.rows.toNat ++ LittleEndian.encode 4 header.columns.toNat

def decode (bytes : List UInt8) : Header :=
  let word (offset : Nat) : UInt32 := .ofNat (LittleEndian.decode ((bytes.drop offset).take 4))
  ⟨word 0, word 4, word 8, word 12⟩

@[simp] theorem encode_length (header : Header) :
    header.encode.length = Layout.headerSize := by
  simp [encode]

def describe (header : Header) : String :=
  s!"WindowHeader \x7b free_offset: {header.freeOffset}, first_chunk_offset: " ++
    s!"{header.firstChunk}, num_rows: {header.rows}, num_columns: {header.columns} \x7d"

end Header

end RowPager
