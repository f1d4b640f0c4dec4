import Signpost.Text.Percent
import Signpost.Text.Printable
import Signpost.Text.Utf8

/-!
# Quoted text

A text or octets between quotes, as refusals and names show them: single quotes, or double ones
around a text that holds single quotes alone. The quote and the backslash are escaped, and so is
every character that would not show; octets beyond ASCII never do.
-/

namespace Signpost.Text

/-- The last `width` hexadecimal digits of a number. -/
def hexDigits : Nat → Nat → List Char
  | 0, _ => []
  | width + 1, n => hexDigits width (n / 16) ++ [hexDigit (n % 16)]

/-- The quote that stands around a text. -/
def quoteMark (s : List Char) : Char :=
  if s.contains '\'' && !s.contains '"' then '"' else '\''

/-- A character that would not show, by its number. -/
def escapeNumber (n : Nat) : List Char :=
  if n < 0x100 then '\\' :: 'x' :: hexDigits 2 n
  else if n < 0x10000 then '\\' :: 'u' :: hexDigits 4 n
  else '\\' :: 'U' :: hexDigits 8 n

/-- A character between quotes of a kind. -/
def quotedChar (mark : Char) (shows : Char → Bool) (c : Char) : List Char :=
  if c = mark ∨ c = '\\' then ['\\', c]
  else if c = '\n' then ['\\', 'n']
  else if c = '\r' then ['\\', 'r']
  else if c = '\t' then ['\\', 't']
  else if shows c then [c]
  else escapeNumber ((half? c).getD c.toNat)

/-- A text between quotes. -/
def quoted (s : List Char) : List Char :=
  let mark := quoteMark s
  mark :: s.flatMap (quotedChar mark isPrintable) ++ [mark]

/-- Octets between quotes, those of ASCII characters as these. -/
def quotedOctets (bytes : List UInt8) : List Char :=
  let s := bytes.map fun b => Char.ofNat b.toNat
  let mark := quoteMark s
  'b' :: mark :: s.flatMap (quotedChar mark fun c => 0x20 ≤ c.toNat && c.toNat < 0x7F) ++ [mark]

end Signpost.Text
