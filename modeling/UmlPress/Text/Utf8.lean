import UmlPress.Text.Quoted

/-!
# Bytes read as text

Decoding stops at the first byte that no character can contain there. The
fault names the bytes of the character that was begun: all of them up to the
offending byte, or up to the end when bytes are missing. A text may also stand in
units of 16 or 32 bits, in either byte order, and has no value if it does not
decode.
-/
namespace UmlPress.Text.Utf8

inductive Reason where
  | invalidStart
  | invalidContinuation
  | unexpectedEnd
  deriving DecidableEq, Repr

/-- `count` bytes from offset `start` on, of which the first is `byte`. -/
structure Fault where
  start : Nat
  count : Nat
  byte : UInt8
  reason : Reason
  deriving DecidableEq, Repr

def Reason.message : Reason → String
  | .invalidStart => "invalid start byte"
  | .invalidContinuation => "invalid continuation byte"
  | .unexpectedEnd => "unexpected end of data"

def Fault.message (f : Fault) : String :=
  "'utf-8' codec can't decode " ++
    (if f.count = 1 then
      "byte 0x" ++ String.ofList (hex 2 f.byte.toNat) ++ " in position " ++ toString f.start
    else
      "bytes in position " ++ toString f.start ++ "-" ++ toString (f.start + f.count - 1)) ++
    ": " ++ f.reason.message

/-- A character that was begun: its code so far, how many bytes are seen and
missing, and the bounds of the next byte. -/
structure Pending where
  byte : UInt8
  code : Nat
  seen : Nat
  missing : Nat
  low : Nat
  high : Nat

/-- What the first byte of a character says about the rest of it. -/
def begin? (b : UInt8) : Option Pending :=
  let n := b.toNat
  if n < 0xc2 then none
  else if n < 0xe0 then some ⟨b, n - 0xc0, 1, 1, 0x80, 0xbf⟩
  else if n < 0xf0 then
    some ⟨b, n - 0xe0, 1, 2, if n = 0xe0 then 0xa0 else 0x80, if n = 0xed then 0x9f else 0xbf⟩
  else if n < 0xf5 then
    some ⟨b, n - 0xf0, 1, 3, if n = 0xf0 then 0x90 else 0x80, if n = 0xf4 then 0x8f else 0xbf⟩
  else none

def decodeFrom (offset : Nat) (open? : Option Pending) :
    List UInt8 → Except Fault (List Char)
  | [] =>
    match open? with
    | none => .ok []
    | some p => .error ⟨offset - p.seen, p.seen, p.byte, .unexpectedEnd⟩
  | b :: r =>
    match open? with
    | none =>
      if b.toNat < 0x80 then
        (decodeFrom (offset + 1) none r).map (Char.ofNat b.toNat :: ·)
      else
        match begin? b with
        | none => .error ⟨offset, 1, b, .invalidStart⟩
        | some p => decodeFrom (offset + 1) (some p) r
    | some p =>
      if p.low ≤ b.toNat ∧ b.toNat ≤ p.high then
        let code := p.code * 64 + (b.toNat - 0x80)
        if p.missing ≤ 1 then
          (decodeFrom (offset + 1) none r).map (Char.ofNat code :: ·)
        else
          decodeFrom (offset + 1) (some ⟨p.byte, code, p.seen + 1, p.missing - 1, 0x80, 0xbf⟩) r
      else .error ⟨offset - p.seen, p.seen, p.byte, .invalidContinuation⟩

def decode (bytes : List UInt8) : Except Fault (List Char) := decodeFrom 0 none bytes

/-- The characters of bytes, with a mark in the place of each fault. Fuel is the
number of bytes. -/
def lenientFrom : Nat → List UInt8 → List Char
  | 0, _ => []
  | n + 1, bytes =>
    match decode bytes with
    | .ok cs => cs
    | .error f =>
      ((decode (bytes.take f.start)).toOption.getD []) ++
        '\ufffd' :: lenientFrom n (bytes.drop (f.start + f.count))

def lenient (bytes : List UInt8) : List Char := lenientFrom (bytes.length + 1) bytes

/-- The name that bytes spell, with a half for each byte of a fault. Fuel is the number of
bytes. -/
def nameFrom : Nat → List UInt8 → List Char
  | 0, _ => []
  | n + 1, bytes =>
    match decode bytes with
    | .ok cs => hold cs
    | .error f =>
      hold ((decode (bytes.take f.start)).toOption.getD []) ++
        ((bytes.drop f.start).take f.count).flatMap (fun b => held (0xdc00 + b.toNat)) ++
          nameFrom n (bytes.drop (f.start + f.count))

/-- A name of a file as it is read again. Halves that spell a character become that one. -/
def spelled (s : List Char) : List Char :=
  if s.any isHalf then nameFrom ((nameBytes s).length + 1) (nameBytes s) else s

end UmlPress.Text.Utf8

namespace UmlPress.Text.Wide

def isScalar (n : Nat) : Bool := n < 0xd800 || (0xdfff < n && n ≤ 0x10ffff)

/-- Characters of a text in 32 bit units, the low byte first. -/
def decode32 : List UInt8 → Option (List Char)
  | [] => some []
  | a :: b :: c :: d :: r =>
    let n := a.toNat + 256 * b.toNat + 65536 * c.toNat + 16777216 * d.toNat
    if isScalar n then (decode32 r).map (Char.ofNat n :: ·) else none
  | _ => none

/-- Units of a text in 16 bit units, the low byte first. -/
def units16 : List UInt8 → Option (List Nat)
  | [] => some []
  | a :: b :: r => (units16 r).map ((a.toNat + 256 * b.toNat) :: ·)
  | _ => none

/-- A unit of the upper half of a pair must be followed by one of the lower. -/
def joinPairs : List Nat → Option (List Char)
  | [] => some []
  | u :: r =>
    if isScalar u then (joinPairs r).map (Char.ofNat u :: ·)
    else
      match r with
      | v :: r =>
        if u < 0xdc00 ∧ 0xdc00 ≤ v ∧ v < 0xe000 then
          (joinPairs r).map (Char.ofNat (0x10000 + (u - 0xd800) * 1024 + (v - 0xdc00)) :: ·)
        else none
      | [] => none

def decode16 (bytes : List UInt8) : Option (List Char) := units16 bytes >>= joinPairs

/-- The bytes of each unit of two in the other order. -/
def swap16 : List UInt8 → List UInt8
  | a :: b :: r => b :: a :: swap16 r
  | r => r

/-- The bytes of each unit of four in the other order. -/
def swap32 : List UInt8 → List UInt8
  | a :: b :: c :: d :: r => d :: c :: b :: a :: swap32 r
  | r => r

end UmlPress.Text.Wide
