import Cyclomatic.Text.Utf8

/-!
Byte offsets and character offsets of a source text of code points, lone surrogates included.
Its bytes are its UTF-8 encoding with each surrogate replaced by a question mark, which is what a
parser of bytes is given. Character offsets are read from a table holding each character's index
once for each byte of its encoding, then the number of characters; when a text has as many bytes
as characters there is no table.
-/

namespace Cyclomatic

namespace Utf8

/-- The character a code point is encoded as: itself, or a question mark for a surrogate. -/
def replacing (n : Nat) : Char := if Value.isSurrogate n then '?' else Char.ofNat n

def encodeReplacing (text : List Nat) : List UInt8 :=
  text.flatMap fun n => String.utf8EncodeChar (replacing n)

end Utf8

/-- A source text with its bytes and, unless every character takes one byte, the character
offset of each byte offset. -/
structure SourceText where
  text : List Nat
  data : List UInt8
  offsets : Option (List Nat)
deriving Repr

namespace SourceText

/-- The character offsets of the bytes of a text whose characters are numbered from `start`:
each character's number once for each byte it is encoded as. -/
def offsetsFrom : Nat → List Nat → List Nat
  | _, [] => []
  | start, n :: rest =>
    List.replicate (Utf8.encodeReplacing [n]).length start ++ offsetsFrom (start + 1) rest

def offsetTable (text : List Nat) : List Nat := offsetsFrom 0 text ++ [text.length]

/-- The offsets table of a text with its bytes; none when there are as many bytes as
characters. -/
def offsets? (data : List UInt8) (text : List Nat) : Option (List Nat) :=
  if data.length = text.length then none else some (offsetTable text)

def create (text : List Nat) : SourceText :=
  let data := Utf8.encodeReplacing text
  { text, data, offsets := offsets? data text }

/-- The entry of an offsets table for a byte offset; an offset past the end reads the last. -/
def lookup (table : List Nat) (byteOffset : Nat) : Nat :=
  table.getD (min byteOffset (table.length - 1)) 0

def charOffset (d : SourceText) (byteOffset : Nat) : Nat :=
  match d.offsets with
  | none => byteOffset
  | some table => lookup table byteOffset

/-- The text of a node that spans the bytes from one byte offset to another: those bytes read as
UTF-8, each fault replaced. -/
def nodeText (d : SourceText) (start stop : Nat) : String :=
  Utf8.decodeLossy ((d.data.drop start).take (stop - start))

end SourceText

end Cyclomatic
