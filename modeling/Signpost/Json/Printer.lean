import Signpost.Binary64.Shortest
import Signpost.Json.Basic
import Signpost.Text.Quoted

/-!
# Writing JSON text

A document is written on one line, with a space after each comma and each colon, in ASCII alone:
every other character becomes one `\u` escape, or two when it lies beyond the sixteen-bit range, and
half a surrogate pair becomes its own. Numbers that are not finite are written as the words that
`Json.read` admits for them, and octets as a string that quotes them.
-/

namespace Signpost.Json

/-- The escape of a 16-bit unit. -/
def escapeUnit (n : Nat) : List Char :=
  '\\' :: 'u' :: Text.hexDigits 4 n

/-- A character inside a string. -/
def escapeChar (c : Char) : List Char :=
  let n := c.toNat
  if c = '"' then ['\\', '"']
  else if c = '\\' then ['\\', '\\']
  else if c = '\n' then ['\\', 'n']
  else if c = '\r' then ['\\', 'r']
  else if c = '\t' then ['\\', 't']
  else if n = 0x08 then ['\\', 'b']
  else if n = 0x0C then ['\\', 'f']
  else if 0x20 ≤ n ∧ n < 0x7F then [c]
  else if n < 0x10000 then escapeUnit n
  else match Text.half? c with
    | some half => escapeUnit half
    | none =>
      escapeUnit (0xD800 + (n - 0x10000) / 1024) ++ escapeUnit (0xDC00 + (n - 0x10000) % 1024)

/-- A string between its quotes. -/
def stringText (s : List Char) : List Char :=
  '"' :: s.flatMap escapeChar ++ ['"']

/-- An integer in decimal. -/
def intText (i : Int) : List Char :=
  (if i < 0 then ['-'] else []) ++ Nat.toDigits 10 i.natAbs

mutual

/-- The text of a document. -/
def print : Json → List Char
  | .null => "null".toList
  | .bool true => "true".toList
  | .bool false => "false".toList
  | .int i => intText i
  | .float x => Binary64.textWith "NaN" "Infinity" x
  | .str s => stringText s.toList
  | .octets bytes => stringText (Text.quotedOctets bytes)
  | .arr [] => ['[', ']']
  | .arr (j :: rest) => '[' :: j.print ++ printItems rest
  | .obj [] => ['\x7b', '\x7d']
  | .obj ((name, j) :: rest) =>
    '\x7b' :: stringText name.toList ++ ':' :: ' ' :: j.print ++ printMembers rest

/-- The text of an array after its first item. -/
def printItems : List Json → List Char
  | [] => [']']
  | j :: rest => ',' :: ' ' :: j.print ++ printItems rest

/-- The text of an object after its first member. -/
def printMembers : List (String × Json) → List Char
  | [] => ['\x7d']
  | (name, j) :: rest =>
    ',' :: ' ' :: stringText name.toList ++ ':' :: ' ' :: j.print ++ printMembers rest

end

/-- The text of a document. -/
def write (j : Json) : String :=
  String.ofList j.print

end Signpost.Json
