import NumberingPlan.Text.Decimal
import NumberingPlan.Text.Hex

/-! UTF-8. A fault covers the longest beginning of a character that was still in order, or the one
byte that begins none. -/

namespace NumberingPlan.Text.Utf8

inductive Reason where
  | invalidStart
  | invalidContinuation
  | endOfData
  deriving DecidableEq, Repr

def Reason.text : Reason → String
  | invalidStart => "invalid start byte"
  | invalidContinuation => "invalid continuation byte"
  | endOfData => "unexpected end of data"

structure Fault where
  position : Nat
  length : Nat
  firstByte : UInt8
  reason : Reason
  deriving DecidableEq, Repr

def Fault.message (fault : Fault) : String :=
  let place :=
    if fault.length = 1 then
      "byte 0x" ++ String.ofList (hex 2 fault.firstByte.toNat) ++ " in position "
        ++ Decimal.text fault.position
    else "bytes in position " ++ Decimal.text fault.position ++ "-"
      ++ Decimal.text (fault.position + fault.length - 1)
  "'utf-8' codec can't decode " ++ place ++ ": " ++ fault.reason.text

/-- What a first byte promises: how many bytes follow, the bits it brings itself, and the range of
the second byte, which excludes long forms, surrogates and what lies beyond the last plane. -/
structure Lead where
  more : Nat
  bits : Nat
  least : Nat := 0x80
  greatest : Nat := 0xbf

def lead? (byte : Nat) : Option Lead :=
  if byte < 0x80 then some { more := 0, bits := byte }
  else if byte < 0xc2 then none
  else if byte < 0xe0 then some { more := 1, bits := byte - 0xc0 }
  else if byte = 0xe0 then some { more := 2, bits := 0, least := 0xa0 }
  else if byte = 0xed then some { more := 2, bits := 0xd, greatest := 0x9f }
  else if byte < 0xf0 then some { more := 2, bits := byte - 0xe0 }
  else if byte = 0xf0 then some { more := 3, bits := 0, least := 0x90 }
  else if byte = 0xf4 then some { more := 3, bits := 4, greatest := 0x8f }
  else if byte < 0xf4 then some { more := 3, bits := byte - 0xf0 }
  else none

/-- Reads the bytes that follow a first one; `seen` counts those read so far. -/
def following (least greatest : Nat) : Nat → List UInt8 → Nat → Nat →
    Except (Nat × Reason) (Nat × List UInt8)
  | 0, rest, value, _ => .ok (value, rest)
  | _ + 1, [], _, seen => .error (seen, .endOfData)
  | more + 1, byte :: rest, value, seen =>
    if least ≤ byte.toNat && byte.toNat ≤ greatest then
      following 0x80 0xbf more rest (value * 64 + (byte.toNat - 0x80)) (seen + 1)
    else .error (seen, .invalidContinuation)

/-- Decodes bytes that begin at a position; every step takes one byte at least, and `fuel` bounds
their number. -/
def decodeFrom : Nat → Nat → List UInt8 → Except Fault (List Char)
  | 0, _, _ => .ok []
  | _ + 1, _, [] => .ok []
  | fuel + 1, position, byte :: rest =>
    match lead? byte.toNat with
    | none => .error ⟨position, 1, byte, .invalidStart⟩
    | some lead =>
      match following lead.least lead.greatest lead.more rest lead.bits 1 with
      | .error (seen, reason) => .error ⟨position, seen, byte, reason⟩
      | .ok (code, rest) =>
        (decodeFrom fuel (position + 1 + lead.more) rest).map (Char.ofNat code :: ·)

def decode (bytes : List UInt8) : Except Fault (List Char) := decodeFrom bytes.length 0 bytes

end NumberingPlan.Text.Utf8
