import NumberingPlan.Text.Charset
import NumberingPlan.Xml.Fault

/-! From the bytes of a document to its characters. The first bytes tell whether a character has
one byte at least or two; the XML declaration may then name the encoding of what follows it.
Characters that XML forbids end the readable text, as broken ones do. -/

namespace NumberingPlan.Xml

/-- A single-byte encoding is ASCII but for the characters it lacks, and has a table of the bytes
from 128 on. -/
inductive Encoding where
  | utf8
  | ascii
  | latin1
  | utf16 (bigEndian : Bool)
  | singleByte (lacking upper : List Char)
  deriving DecidableEq

namespace Encoding

/-- The bytes of the shortest character. -/
def unit : Encoding → Nat
  | utf16 _ => 2
  | _ => 1

/-- How many units a character has. -/
def unitsOf : Encoding → Char → Nat
  | utf8, c => c.utf8Size
  | utf16 _, c => if c.toNat < 0x10000 then 1 else 2
  | _, _ => 1

end Encoding

/-- A code point that may stand in a document. -/
def isDocumentChar (n : Nat) : Bool :=
  n == 9 || n == 10 || n == 13 || (0x20 ≤ n && n < 0xd800) || (0xe000 ≤ n && n < 0xfffe)
    || (0x10000 ≤ n && n < 0x110000)

/-- The readable characters, what stops them, and how many whole units are not read. -/
structure Decoded where
  chars : List Char
  ending : Ending
  unread : Nat := 0

namespace Decoded

def complete : Decoded := ⟨[], .complete, 0⟩

/-- Stops before bytes that make no character. -/
def stop (ending : Ending) (unit : Nat) (bytes : List UInt8) : Decoded :=
  ⟨[], ending, bytes.length / unit⟩

/-- A character before the rest. One that XML forbids stops the reading before its bytes; `long`
tells that it has several units. -/
def push (code : Nat) (long : Bool) (unit : Nat) (bytes : List UInt8) (rest : Decoded) : Decoded :=
  if isDocumentChar code then { rest with chars := Char.ofNat code :: rest.chars }
  else stop (.badCharacter long) unit bytes

end Decoded

def isTail (byte : UInt8) : Bool := 0x80 ≤ byte && byte < 0xc0

def decodeUtf8 : List UInt8 → Decoded
  | [] => .complete
  | a :: rest =>
    let head := a.toNat
    let bytes := a :: rest
    let bad (long : Bool) : Decoded := .stop (.badCharacter long) 1 bytes
    if head < 0x80 then .push head false 1 bytes (decodeUtf8 rest)
    else if head < 0xc0 then bad false
    else if head < 0xe0 then
      match rest with
      | b :: rest =>
        if head < 0xc2 || !isTail b then bad true
        else .push ((head - 0xc0) * 64 + (b.toNat - 0x80)) true 1 bytes (decodeUtf8 rest)
      | _ => .stop .cutCharacter 1 bytes
    else if head < 0xf0 then
      match rest with
      | b :: c :: rest =>
        let code := (head - 0xe0) * 4096 + (b.toNat - 0x80) * 64 + (c.toNat - 0x80)
        if !isTail b || !isTail c || code < 0x800 then bad true
        else .push code true 1 bytes (decodeUtf8 rest)
      | _ => .stop .cutCharacter 1 bytes
    else if head < 0xf5 then
      match rest with
      | b :: c :: d :: rest =>
        let code := (head - 0xf0) * 262144 + (b.toNat - 0x80) * 4096 + (c.toNat - 0x80) * 64
          + (d.toNat - 0x80)
        if !isTail b || !isTail c || !isTail d || code < 0x10000 then bad true
        else .push code true 1 bytes (decodeUtf8 rest)
      | _ => .stop .cutCharacter 1 bytes
    else bad false

def unitValue (bigEndian : Bool) (a b : UInt8) : Nat :=
  if bigEndian then a.toNat * 256 + b.toNat else b.toNat * 256 + a.toNat

/-- A high surrogate takes ten bits from whatever unit follows it. -/
def decodeUtf16 (bigEndian : Bool) : List UInt8 → Decoded
  | [] => .complete
  | [_] => ⟨[], .halfUnit, 0⟩
  | a :: b :: rest =>
    let high := unitValue bigEndian a b
    let bytes := a :: b :: rest
    if 0xd800 ≤ high && high < 0xdc00 then
      match rest with
      | c :: d :: rest =>
        let low := unitValue bigEndian c d
        .push (0x10000 + (high - 0xd800) * 1024 + low % 1024) true 2 bytes
          (decodeUtf16 bigEndian rest)
      | _ => .stop .cutCharacter 2 bytes
    else .push high false 2 bytes (decodeUtf16 bigEndian rest)

/-- Bytes from 128 on by a table; the replacement character marks those without a meaning. -/
def decodeSingle (lacking upper : List Char) : List UInt8 → Decoded
  | [] => .complete
  | a :: rest =>
    let bytes := a :: rest
    let char? := if a < 0x80 then some (Char.ofNat a.toNat) else upper[a.toNat - 0x80]?
    match char?.filter (fun c => c != '\ufffd' && !lacking.contains c) with
    | some c => .push c.toNat false 1 bytes (decodeSingle lacking upper rest)
    | none => .stop (.badCharacter false) 1 bytes

def latin1Upper : List Char := (List.range 128).map (fun n => Char.ofNat (128 + n))

def Encoding.decode : Encoding → List UInt8 → Decoded
  | utf8, bytes => decodeUtf8 bytes
  | ascii, bytes => decodeSingle [] [] bytes
  | latin1, bytes => decodeSingle [] latin1Upper bytes
  | utf16 bigEndian, bytes => decodeUtf16 bigEndian bytes
  | singleByte lacking upper, bytes => decodeSingle lacking upper bytes

/-- How a document begins: the encoding that its first bytes show, the byte order mark if it has
one, and the bytes after that. -/
structure Opening where
  encoding : Encoding
  mark : List Char
  bytes : List UInt8

def detect (bytes : List UInt8) : Except Fault Opening :=
  let marked (encoding : Encoding) (rest : List UInt8) : Opening := ⟨encoding, ['\ufeff'], rest⟩
  match bytes with
  | [0xfe] | [0xff] | [0xef] | [0x00] | [0x3c] | [0xef, 0xbb] => .error .unclosedToken
  | 0xfe :: 0xff :: rest => .ok (marked (.utf16 true) rest)
  | 0xff :: 0xfe :: rest => .ok (marked (.utf16 false) rest)
  | 0xef :: 0xbb :: 0xbf :: rest => .ok (marked .utf8 rest)
  | 0x00 :: _ :: _ => .ok ⟨.utf16 true, [], bytes⟩
  | _ :: 0x00 :: _ => .ok ⟨.utf16 false, [], bytes⟩
  | _ => .ok ⟨.utf8, [], bytes⟩

/-- The encodings that are known without a table of character sets. -/
def wellKnown? (name : List Char) (current : Encoding) : Option Encoding :=
  match (String.ofList (name.map Char.toUpper)) with
  | "ISO-8859-1" => some .latin1
  | "US-ASCII" => some .ascii
  | "UTF-8" => some .utf8
  | "UTF-16" => some (match current with | .utf16 bigEndian => .utf16 bigEndian | _ => .utf16 true)
  | "UTF-16BE" => some (.utf16 true)
  | "UTF-16LE" => some (.utf16 false)
  | _ => none

/-- The encoding after a declaration that names one. It may not change the number of bytes of a
unit, nor their order. -/
def declared (name : List Char) (current : Encoding) : Except Fault Encoding :=
  match wellKnown? name current with
  | some next =>
    if next.unit ≠ current.unit || (next.unit = 2 && next ≠ current) then
      .error .incorrectEncoding
    else .ok next
  | none =>
    match Charset.ofName name with
    | some (.singleByte lacking upper) => .ok (.singleByte lacking upper)
    | some .multibyte => .error .multibyteEncoding
    | some .foreign => .error .unknownEncoding
    | some .binary => .error (.binaryEncoding (String.ofList name))
    | some (.unusable reason) => .error (.unusableEncoding (String.ofList name) reason)
    | none => .error (.unsupportedEncoding (String.ofList name))

end NumberingPlan.Xml
