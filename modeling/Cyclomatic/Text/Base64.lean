/-!
Decoding base64 text leniently.

Characters outside the base64 alphabet are skipped. Each four alphabet characters give three
bytes; a quad that stops after two or three characters is finished by enough `=` signs, and
reading ends there. A text whose characters stop one past a whole number of quads cannot be
decoded, nor one that stops two or three past without its padding.
-/

namespace Cyclomatic

namespace Base64

def sextet (c : Char) : Option Nat :=
  if 'A' ≤ c && c ≤ 'Z' then some (c.toNat - 65)
  else if 'a' ≤ c && c ≤ 'z' then some (c.toNat - 71)
  else if '0' ≤ c && c ≤ '9' then some (c.toNat + 4)
  else if c == '+' then some 62
  else if c == '/' then some 63
  else none

/-- Where decoding is: the bytes so far (last first), the place in the current quad, the bits
it has carried over, and the padding signs counted since the last alphabet character (only
those that come after two characters of a quad count). -/
structure Progress where
  out : List UInt8 := []
  place : Nat := 0
  carry : Nat := 0
  pads : Nat := 0

/-- Decoding after one character: the progress, or the bytes when padding ends the text. -/
def step (p : Progress) (c : Char) : Progress ⊕ List UInt8 :=
  if c == '=' then
    if p.place < 2 then .inl p
    else if p.place + p.pads + 1 ≥ 4 then .inr p.out.reverse
    else .inl { p with pads := p.pads + 1 }
  else
    match sextet c with
    | none => .inl p
    | some v =>
      let p := { p with pads := 0 }
      match p.place with
      | 0 => .inl { p with place := 1, carry := v }
      | 1 =>
        .inl { p with place := 2, out := (p.carry * 4 + v / 16).toUInt8 :: p.out, carry := v % 16 }
      | 2 =>
        .inl { p with place := 3, out := (p.carry * 16 + v / 4).toUInt8 :: p.out, carry := v % 4 }
      | _ => .inl { p with place := 0, out := (p.carry * 64 + v).toUInt8 :: p.out, carry := 0 }

def run (p : Progress) : List Char → Progress ⊕ List UInt8
  | [] => .inl p
  | c :: rest =>
    match step p c with
    | .inl p => run p rest
    | .inr bytes => .inr bytes

def decode (text : String) : Except String (List UInt8) :=
  match run {} text.toList with
  | .inr bytes => .ok bytes
  | .inl p =>
    if p.place == 0 then .ok p.out.reverse
    else if p.place == 1 then
      .error ("Invalid base64-encoded string: number of data characters (" ++
        toString (p.out.length / 3 * 4 + 1) ++ ") cannot be 1 more than a multiple of 4")
    else .error "Incorrect padding"

end Base64

end Cyclomatic
