import RowPager.Number.Binary64

/-!
What a cell can hold, and how a value reads as each type.
-/

set_option autoImplicit false

namespace RowPager

inductive CellType where
  | null
  | integer
  | float
  | text
  | blob
  deriving DecidableEq

namespace CellType

def tag : CellType → UInt32
  | null => 0
  | integer => 1
  | float => 2
  | text => 3
  | blob => 4

def ofTag? (tag : UInt32) : Option CellType :=
  if tag = 0 then some null
  else if tag = 1 then some integer
  else if tag = 2 then some float
  else if tag = 3 then some text
  else if tag = 4 then some blob
  else none

def name : CellType → String
  | null => "NULL"
  | integer => "INTEGER"
  | float => "FLOAT"
  | text => "STRING"
  | blob => "BLOB"

@[simp] theorem ofTag?_tag (type : CellType) : ofTag? type.tag = some type := by
  cases type <;> rfl

theorem ofTag?_eq_some_iff (tag : UInt32) (type : CellType) :
    ofTag? tag = some type ↔ tag = type.tag := by
  constructor
  · intro h
    unfold ofTag? at h
    repeat' split at h
    all_goals cases h
    all_goals assumption
  · rintro rfl
    exact ofTag?_tag type

theorem tag_le (type : CellType) : type.tag.toNat ≤ 4 := by
  cases type <;> decide

theorem tag_eq_zero_iff (type : CellType) : type.tag.toNat = 0 ↔ type = null := by
  cases type <;> decide

theorem ofTag?_eq_none_iff (tag : UInt32) : ofTag? tag = none ↔ 4 < tag.toNat := by
  constructor
  · intro h
    unfold ofTag? at h
    repeat' split at h
    all_goals cases h
    simp only [← UInt32.toNat_inj, UInt32.reduceToNat] at *
    omega
  · intro h
    cases htype : ofTag? tag with
    | none => rfl
    | some type =>
      have hle := type.tag_le
      rw [(ofTag?_eq_some_iff tag type).mp htype] at h
      omega

end CellType

/-- Derived instances below compare bytes with this one, whichever others are in scope. -/
instance (priority := high) instDecidableEqBytes : DecidableEq ByteArray :=
  ByteArray.instDecidableEq

inductive Value where
  | null
  | integer (value : Int64)
  | float (value : Binary64)
  | text (value : String)
  | blob (value : ByteArray)
  deriving DecidableEq

namespace Value

def type : Value → CellType
  | null => .null
  | integer _ => .integer
  | float _ => .float
  | text _ => .text
  | blob _ => .blob

/-- A float loses its fraction; what is not a number reads as zero. -/
def asInteger : Value → Int64
  | integer v => v
  | float v => v.toInt64
  | _ => 0

/-- An integer becomes the nearest float; what is not a number reads as zero. -/
def asFloat : Value → Binary64
  | float v => v
  | integer v => .ofInt64 v
  | _ => ⟨0⟩

def asText : Value → String
  | text v => v
  | _ => ""

/-- Text reads as its bytes; what has no bytes reads as none. -/
def asBlob : Value → ByteArray
  | blob v => v
  | text v => v.toUTF8
  | _ => ByteArray.empty

def payloadSize : Value → Nat
  | text v => v.utf8ByteSize
  | blob v => v.size
  | _ => 0

end Value

end RowPager
