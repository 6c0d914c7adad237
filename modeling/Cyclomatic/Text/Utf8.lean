import Cyclomatic.Value.Notation

/-!
Reading bytes as UTF-8 text, with the second byte narrowed after `0xE0`, `0xED`, `0xF0` and
`0xF4`. Where reading fails, the bytes that cannot be read form one fault: an invalid start
byte alone, a continuation out of range ending the fault before it, or a character cut off by
the end. `decode` stops at the first fault; `decodeLossy` puts one `U+FFFD` in place of each.
-/

namespace Cyclomatic

namespace Utf8

inductive Flaw where
  | invalidStart
  | invalidContinuation
  | unexpectedEnd
deriving Repr, DecidableEq, Inhabited

def Flaw.text : Flaw → String
  | .invalidStart => "invalid start byte"
  | .invalidContinuation => "invalid continuation byte"
  | .unexpectedEnd => "unexpected end of data"

/-- A fault in bytes read as UTF-8: where it starts, how many bytes it covers, the first of them
and why they cannot be read. -/
structure Fault where
  start : Nat
  width : Nat
  first : UInt8
  flaw : Flaw
deriving Repr, Inhabited

/-- The message for a fault: the byte and its position for a fault of one byte, the range of
positions for a longer one. -/
def Fault.message (f : Fault) : String :=
  if f.width == 1 then
    s!"'utf-8' codec can't decode byte 0x{Value.hexPad 2 f.first.toNat} in position {f.start}: {f.flaw.text}"
  else
    s!"'utf-8' codec can't decode bytes in position {f.start}-{f.start + f.width - 1}: {f.flaw.text}"

def isTail (b : UInt8) : Bool := 0x80 ≤ b && b ≤ 0xBF

def secondOfThree (b0 b1 : UInt8) : Bool :=
  isTail b1 && (if b1 < 0xA0 then b0 != 0xE0 else b0 != 0xED)

def secondOfFour (b0 b1 : UInt8) : Bool :=
  isTail b1 && (if b1 < 0x90 then b0 != 0xF0 else b0 != 0xF4)

def low6 (b : UInt8) : Nat := b.toNat % 64

/-- The character at the front of some bytes and how many bytes it takes, or how many bytes
form a fault and why. -/
def front : List UInt8 → Except (Nat × Flaw) (Char × Nat)
  | [] => .error (0, .unexpectedEnd)
  | b0 :: rest =>
    if b0 < 0x80 then .ok (Char.ofNat b0.toNat, 1)
    else if b0 < 0xC2 then .error (1, .invalidStart)
    else if b0 < 0xE0 then
      match rest with
      | [] => .error (1, .unexpectedEnd)
      | b1 :: _ =>
        if isTail b1 then .ok (Char.ofNat ((b0.toNat % 32) * 64 + low6 b1), 2)
        else .error (1, .invalidContinuation)
    else if b0 < 0xF0 then
      match rest with
      | [] => .error (1, .unexpectedEnd)
      | [b1] => if secondOfThree b0 b1 then .error (2, .unexpectedEnd)
        else .error (1, .invalidContinuation)
      | b1 :: b2 :: _ =>
        if !secondOfThree b0 b1 then .error (1, .invalidContinuation)
        else if !isTail b2 then .error (2, .invalidContinuation)
        else .ok (Char.ofNat ((b0.toNat % 16) * 4096 + low6 b1 * 64 + low6 b2), 3)
    else if b0 < 0xF5 then
      match rest with
      | [] => .error (1, .unexpectedEnd)
      | [b1] => if secondOfFour b0 b1 then .error (2, .unexpectedEnd)
        else .error (1, .invalidContinuation)
      | [b1, b2] =>
        if !secondOfFour b0 b1 then .error (1, .invalidContinuation)
        else if !isTail b2 then .error (2, .invalidContinuation)
        else .error (3, .unexpectedEnd)
      | b1 :: b2 :: b3 :: _ =>
        if !secondOfFour b0 b1 then .error (1, .invalidContinuation)
        else if !isTail b2 then .error (2, .invalidContinuation)
        else if !isTail b3 then .error (3, .invalidContinuation)
        else .ok (Char.ofNat ((b0.toNat % 8) * 262144 + low6 b1 * 4096 + low6 b2 * 64 + low6 b3), 4)
    else .error (1, .invalidStart)

/-- Reads bytes from a position with a bound on the characters read: the characters in reverse,
or the first fault. -/
def readFrom (lossy : Bool) : Nat → Nat → List UInt8 → List Char → Except Fault (List Char)
  | 0, _, _, acc => .ok acc
  | _ + 1, _, [], acc => .ok acc
  | fuel + 1, pos, b :: bs, acc =>
    match front (b :: bs) with
    | .ok (c, n) => readFrom lossy fuel (pos + n) ((b :: bs).drop n) (c :: acc)
    | .error (n, flaw) =>
      if lossy then readFrom lossy fuel (pos + n) ((b :: bs).drop n) ('�' :: acc)
      else .error { start := pos, width := n, first := b, flaw }

def decode (bs : List UInt8) : Except Fault String :=
  (readFrom false bs.length 0 bs []).map fun cs => String.ofList cs.reverse

/-- Bytes read as UTF-8 with each fault replaced by `U+FFFD`. -/
def decodeLossy (bs : List UInt8) : String :=
  match readFrom true bs.length 0 bs [] with
  | .ok cs => String.ofList cs.reverse
  | .error _ => ""

/-- Line breaks as a text file is read: `\r\n` and a lone `\r` become `\n`. -/
def lineBreaks : List Char → List Char
  | [] => []
  | '\r' :: '\n' :: rest => '\n' :: lineBreaks rest
  | '\r' :: rest => '\n' :: lineBreaks rest
  | c :: rest => c :: lineBreaks rest

def readLines (s : String) : String := String.ofList (lineBreaks s.toList)

def encode (s : String) : List UInt8 := s.toUTF8.toList

end Utf8

end Cyclomatic
