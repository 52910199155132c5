import RowPager.Cell.Basic
import RowPager.Header
import RowPager.Text.Hex
import RowPager.Text.Utf8

/-!
Everything that can go wrong, as causes. The wording of each stands in one `message` function per
type.
-/

set_option autoImplicit false

namespace RowPager

/-- Reports of a query cursor. They pass through a fill unchanged. -/
inductive CursorError where
  | failed (code : Int32) (message : String)
  | canceled
  | misuse (message : String)
  deriving DecidableEq

def CursorError.message : CursorError → String
  | failed code message => s!"query failed (code {code}): {message}"
  | canceled => "query canceled"
  | misuse message => s!"cursor misuse: {message}"

inductive Corruption where
  | shortSlot (size : Nat)
  | unknownTag (tag : UInt32)
  /-- The chain of row slot chunks ends before the one that a row needs. -/
  | unlinkedChunk (chunk : Nat)
  | outsideUsed (offset length used : Nat)
  | notText (row column : Nat) (fault : Utf8.Fault)
  | notParcel
  | wrongLength (declared carried : Nat)
  | wrongChecksum (stored computed : UInt32)
  | belowMinimum (size : Nat)
  | inconsistentHeader (header : Header)
  deriving DecidableEq

def Corruption.message : Corruption → String
  | shortSlot size => s!"field slot needs {Layout.cellSize} bytes, got {size}"
  | unknownTag tag => s!"unknown field type tag {tag}"
  | unlinkedChunk chunk => s!"row slot chunk {chunk} is not linked"
  | outsideUsed offset length used =>
    s!"range {offset}+{length} outside used region of {used} bytes"
  | notText row column fault => s!"cell ({row}, {column}) is not UTF-8: {fault.message}"
  | notParcel => "not a window parcel"
  | wrongLength declared carried =>
    s!"parcel declares {declared} window bytes but carries {carried}"
  | wrongChecksum stored computed =>
    s!"checksum mismatch: stored {Hex.word stored}, computed {Hex.word computed}"
  | belowMinimum size =>
    s!"window of {size} bytes is smaller than the minimum {Layout.minCapacity}"
  | inconsistentHeader header => s!"inconsistent header {header.describe}"

inductive BadSetting where
  | windowSize (size : Nat)
  | capacity (size : Nat)
  | columns (count : Nat)
  | startPosition (position : Nat)
  deriving DecidableEq

def BadSetting.message : BadSetting → String
  | windowSize size => s!"window_size {size} exceeds the 32-bit offset range"
  | capacity size => s!"window capacity {size} exceeds the 32-bit offset range"
  | columns count => s!"{count} columns exceed the 32-bit column count"
  | startPosition position => s!"start position {position} does not fit a window parcel"

/-- Only a full window is expected in normal use; a fill recovers from it. -/
inductive Error where
  | capacityTooSmall (requested minimum : Nat)
  | outOfMemory (needed available : Nat)
  | indexOutOfRange (row column rows columns : Nat)
  | typeMismatch (row column : Nat) (requested actual : CellType)
  | columnCountLocked (current requested : Nat)
  | noRowToFree
  | readOnly (name : String)
  | invalidFillRange (start required : Nat)
  | rowTooLarge (row capacity : Nat)
  | noCurrentRow
  | corrupted (cause : Corruption)
  | invalidConfig (cause : BadSetting)
  | cursor (cause : CursorError)
  /-- A read outside the buffer. Every reader checks its range first, so none reports this. -/
  | outOfBounds (offset length size : Nat)
  deriving DecidableEq

def Error.message : Error → String
  | capacityTooSmall requested minimum =>
    s!"window capacity {requested} is below the minimum of {minimum} bytes"
  | outOfMemory needed available =>
    s!"window full: needed {needed} bytes, {available} available"
  | indexOutOfRange row column rows columns =>
    s!"cell ({row}, {column}) out of range for {rows} rows x {columns} columns"
  | typeMismatch row column requested actual =>
    s!"cell ({row}, {column}) holds {actual.name}, not {requested.name}"
  | columnCountLocked current requested =>
    s!"window has rows with {current} columns, cannot switch to {requested}"
  | noRowToFree => "no freshly allocated row to free"
  | readOnly name => s!"window '{name}' is read-only"
  | invalidFillRange start required => s!"required row {required} precedes start row {start}"
  | rowTooLarge row capacity =>
    s!"row {row} does not fit in an empty window of {capacity} bytes"
  | noCurrentRow => "cursor is not positioned on a row"
  | corrupted cause => s!"corrupted window data: {cause.message}"
  | invalidConfig cause => s!"invalid configuration: {cause.message}"
  | cursor cause => s!"cursor error: {cause.message}"
  | outOfBounds offset length size =>
    s!"bytes {offset}+{length} outside a buffer of {size} bytes"

inductive Violation where
  | headerBuffer
  | rowLength (columns : Nat)
  deriving DecidableEq

def Violation.message : Violation → String
  | headerBuffer => "buffer too small for WindowHeader"
  | rowLength columns => s!"every row must have {columns} values"

end RowPager
