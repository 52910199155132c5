/-!
Text as bytes. Decoding accepts exactly the well-formed sequences; for all others it names the
first place where they stop being well formed.
-/

set_option autoImplicit false

namespace RowPager.Utf8

/-- Where bytes stop being text. An invalid sequence has `length` bytes that could begin a
character, then one that cannot go on; an incomplete one runs into the end. -/
inductive Fault where
  | invalid (length index : Nat)
  | incomplete (index : Nat)
  deriving DecidableEq

def Fault.message : Fault → String
  | .invalid length index => s!"invalid utf-8 sequence of {length} bytes from index {index}"
  | .incomplete index => s!"incomplete utf-8 byte sequence from index {index}"

abbrev ByteRange := UInt8 × UInt8

def continuation : ByteRange := (0x80, 0xBF)

/-- The bytes that complete a character after its lead byte. No character starts with 80..C1 or
F5..FF; the second byte of E0, ED, F0 and F4 is limited so that each character has one form. -/
def following (lead : UInt8) : Option (List ByteRange) :=
  if lead ≤ 0x7F then some []
  else if 0xC2 ≤ lead ∧ lead ≤ 0xDF then some [continuation]
  else if lead = 0xE0 then some [(0xA0, 0xBF), continuation]
  else if lead = 0xED then some [(0x80, 0x9F), continuation]
  else if 0xE1 ≤ lead ∧ lead ≤ 0xEF then some [continuation, continuation]
  else if lead = 0xF0 then some [(0x90, 0xBF), continuation, continuation]
  else if lead = 0xF4 then some [(0x80, 0x8F), continuation, continuation]
  else if 0xF1 ≤ lead ∧ lead ≤ 0xF3 then some [continuation, continuation, continuation]
  else none

def scan (start length : Nat) : List ByteRange → List UInt8 → Option Fault
  | [], [] => none
  | _ :: _, [] => some (.incomplete start)
  | [], b :: rest =>
    match following b with
    | none => some (.invalid 1 (start + length))
    | some expected => scan (start + length) 1 expected rest
  | range :: expected, b :: rest =>
    if range.1 ≤ b ∧ b ≤ range.2 then scan start (length + 1) expected rest
    else some (.invalid length start)

def firstFault (bytes : ByteArray) : Fault :=
  (scan 0 0 [] bytes.data.toList).getD (.incomplete bytes.size)

def decode (bytes : ByteArray) : Except Fault String :=
  match String.fromUTF8? bytes with
  | some text => .ok text
  | none => .error (firstFault bytes)

theorem decode_eq_ok_iff (bytes : ByteArray) (text : String) :
    decode bytes = .ok text ↔ bytes = text.toUTF8 := by
  unfold decode String.fromUTF8?
  by_cases h : bytes.IsValidUTF8
  · simp only [dif_pos h, Except.ok.injEq]
    constructor
    · rintro rfl
      rfl
    · rintro rfl
      rfl
  · simp only [dif_neg h, reduceCtorEq, false_iff]
    rintro rfl
    exact h text.isValidUTF8

@[simp] theorem decode_toUTF8 (text : String) : decode text.toUTF8 = .ok text :=
  (decode_eq_ok_iff _ _).mpr rfl

end RowPager.Utf8
