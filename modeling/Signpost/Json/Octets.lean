import Signpost.Json.Reader
import Signpost.Text.Utf8

/-!
# JSON in octets

A document may arrive as octets. Their encoding is told from a byte-order mark or, without one, from
where the zero octets stand among the first four: a document starts with ASCII characters.
-/

namespace Signpost.Json

/-- How octets write characters. -/
inductive Encoding
  | utf8
  | utf16 (bigEndian : Bool)
  | utf32 (bigEndian : Bool)
deriving DecidableEq, Repr

/-- The encoding of the octets of a document, and how many octets its byte-order mark takes. -/
def Encoding.detect (bytes : List UInt8) : Encoding × Nat :=
  match bytes with
  | 0x00 :: 0x00 :: 0xFE :: 0xFF :: _ => (.utf32 true, 4)
  | 0xFF :: 0xFE :: 0x00 :: 0x00 :: _ => (.utf32 false, 4)
  | 0xFE :: 0xFF :: _ => (.utf16 true, 2)
  | 0xFF :: 0xFE :: _ => (.utf16 false, 2)
  | 0xEF :: 0xBB :: 0xBF :: _ => (.utf8, 3)
  | a :: b :: c :: d :: _ =>
    if a = 0 then (if b ≠ 0 then (.utf16 true, 0) else (.utf32 true, 0))
    else if b = 0 then (if c ≠ 0 ∨ d ≠ 0 then (.utf16 false, 0) else (.utf32 false, 0))
    else (.utf8, 0)
  | [a, b] =>
    if a = 0 then (.utf16 true, 0) else if b = 0 then (.utf16 false, 0) else (.utf8, 0)
  | _ => (.utf8, 0)

/-- The characters that octets write. -/
def Encoding.decode? (e : Encoding) (bytes : List UInt8) : Option (List Char) :=
  match e with
  | .utf8 => Text.decodeUtf8Halves? bytes
  | .utf16 bigEndian => (Text.units16 bigEndian bytes).map Text.joinSurrogates
  | .utf32 bigEndian => do
    let units ← Text.units32 bigEndian bytes
    if units.all (· < 0x110000) then some (units.map Text.scalar) else none

/-- The characters of a document in octets, `none` when they are ill-formed. -/
def decodeOctets? (bytes : List UInt8) : Option (List Char) :=
  let (encoding, mark) := Encoding.detect bytes
  encoding.decode? (bytes.drop mark)

/-- The document that octets write. -/
def readOctets (bytes : List UInt8) : Except Unreadable Json :=
  match decodeOctets? bytes with
  | some s => readDecoded s
  | none => .error .illFormed

end Signpost.Json
