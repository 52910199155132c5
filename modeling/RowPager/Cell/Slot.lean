import RowPager.Error

/-!
Cell slots. A slot is sixteen bytes: the type, a reserved word of zero, and eight bytes that hold
a number or say where the payload lies.
-/

set_option autoImplicit false

namespace RowPager

structure Span where
  offset : UInt32
  size : UInt32
  deriving DecidableEq

inductive Slot where
  | null
  | integer (value : Int64)
  | float (value : Binary64)
  | text (span : Span)
  | blob (span : Span)
  deriving DecidableEq

namespace Slot

def type : Slot → CellType
  | null => .null
  | integer _ => .integer
  | float _ => .float
  | text _ => .text
  | blob _ => .blob

def data : Slot → List UInt8
  | null => LittleEndian.encode 8 0
  | integer value => LittleEndian.encode 8 value.toUInt64.toNat
  | float value => LittleEndian.encode 8 value.bits.toNat
  | text span | blob span =>
    LittleEndian.encode 4 span.offset.toNat ++ LittleEndian.encode 4 span.size.toNat

def encode (slot : Slot) : List UInt8 :=
  LittleEndian.encode 4 slot.type.tag.toNat ++ LittleEndian.encode 4 0 ++ slot.data

def ofData (type : CellType) (data : List UInt8) : Slot :=
  let word := UInt64.ofNat (LittleEndian.decode data)
  let span : Span :=
    ⟨.ofNat (LittleEndian.decode (data.take 4)), .ofNat (LittleEndian.decode (data.drop 4))⟩
  match type with
  | .null => null
  | .integer => integer word.toInt64
  | .float => float ⟨word⟩
  | .text => text span
  | .blob => blob span

/-- Reads the first sixteen bytes, without the reserved ones. -/
def decode (bytes : List UInt8) : Except Error Slot :=
  if bytes.length < Layout.cellSize then .error (.corrupted (.shortSlot bytes.length))
  else
    let tag := UInt32.ofNat (LittleEndian.decode (bytes.take 4))
    match CellType.ofTag? tag with
    | none => .error (.corrupted (.unknownTag tag))
    | some type => .ok (ofData type ((bytes.drop 8).take 8))

@[simp] theorem data_length (slot : Slot) : slot.data.length = 8 := by
  cases slot <;> simp [data]

@[simp] theorem encode_length (slot : Slot) : slot.encode.length = Layout.cellSize := by
  simp [encode]

@[simp] theorem ofData_data (slot : Slot) : ofData slot.type slot.data = slot := by
  cases slot with
  | null => rfl
  | integer value => simp [ofData, type, data, LittleEndian.decode_encode]
  | float value => simp [ofData, type, data, LittleEndian.decode_encode]
  | text span => simp [ofData, type, data, LittleEndian.decode_encode]
  | blob span => simp [ofData, type, data, LittleEndian.decode_encode]

@[simp] theorem type_ofData (type : CellType) (data : List UInt8) :
    (ofData type data).type = type := by
  cases type <;> rfl

theorem data_ofData (type : CellType) {data : List UInt8} (hlength : data.length = 8) :
    (ofData type data).data = if type = .null then List.replicate 8 0 else data := by
  have hlow : (data.take 4).length = 4 := by rw [List.length_take]; omega
  have hhigh : (data.drop 4).length = 4 := by rw [List.length_drop]; omega
  have hspan : (text ⟨.ofNat (LittleEndian.decode (data.take 4)),
      .ofNat (LittleEndian.decode (data.drop 4))⟩).data = data := by
    simp only [Slot.data, LittleEndian.encode_word hlow, LittleEndian.encode_word hhigh,
      List.take_append_drop]
  cases type with
  | null => rfl
  | integer => exact LittleEndian.encode_doubleWord hlength
  | float => exact LittleEndian.encode_doubleWord hlength
  | text => exact hspan
  | blob => exact hspan

end Slot

end RowPager
