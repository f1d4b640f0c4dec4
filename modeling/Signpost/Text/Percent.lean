import Signpost.Text.Cut
import Signpost.Text.Utf8

/-!
# Percent escapes and query strings

`percentDecode` reads `%XX` escapes as octets of UTF-8 and leaves every other character, and every
`%` without two hexadecimal digits, as it stands. `percentEncode` is the other direction for a
location header. A query is a list of named values between `&`s.
-/

namespace Signpost.Text

/-- The value of a hexadecimal digit. -/
def hexValue? (c : Char) : Option Nat :=
  let n := c.toNat
  if 0x30 ≤ n ∧ n ≤ 0x39 then some (n - 0x30)
  else if 0x61 ≤ n ∧ n ≤ 0x66 then some (n - 0x61 + 10)
  else if 0x41 ≤ n ∧ n ≤ 0x46 then some (n - 0x41 + 10)
  else none

/-- The digit of a value below 16, letters in lower case. -/
def hexDigit (n : Nat) : Char :=
  Char.ofNat (if n < 10 then 0x30 + n else 0x61 + n - 10)

/-- The digit of a value below 16, letters in upper case. -/
def hexDigitUpper (n : Nat) : Char :=
  Char.ofNat (if n < 10 then 0x30 + n else 0x41 + n - 10)

/-- The octets of a run of escapes at the head of a text, and the text after the run. -/
def escapedOctets : List Char → List UInt8 × List Char
  | '%' :: a :: b :: rest =>
    match hexValue? a, hexValue? b with
    | some x, some y =>
      let (more, after) := escapedOctets rest
      (UInt8.ofNat (16 * x + y) :: more, after)
    | _, _ => ([], '%' :: a :: b :: rest)
  | s => ([], s)

/-- What is left after a run of escapes is no longer than the text. -/
theorem length_escapedOctets_le (s : List Char) : (escapedOctets s).2.length ≤ s.length := by
  fun_induction escapedOctets s with
  | case1 a b rest x hx y hy more after h ih =>
    simp only [h, List.length_cons] at ih ⊢
    omega
  | case2 => simp
  | case3 => simp

/-- A run of escapes that holds any takes at least three characters. -/
theorem length_escapedOctets_lt (s : List Char) (h : (escapedOctets s).1 ≠ []) :
    (escapedOctets s).2.length < s.length := by
  unfold escapedOctets at h ⊢
  split at h
  next a b rest =>
    split at h
    next x y hx hy =>
      have := length_escapedOctets_le rest
      simp only [List.length_cons]
      omega
    next => simp at h
  next => simp at h

/-- Text with its escapes read; octets that are no UTF-8 become U+FFFD. -/
def percentDecode : List Char → List Char
  | [] => []
  | c :: rest =>
    if (escapedOctets (c :: rest)).1 = [] then c :: percentDecode rest
    else
      decodeUtf8Lossy (escapedOctets (c :: rest)).1 ++ percentDecode (escapedOctets (c :: rest)).2
termination_by s => s.length
decreasing_by
  · simp
  · exact length_escapedOctets_lt _ ‹_›

/-- Whether a location header may hold a character as it is. -/
def isLocationSafe (c : Char) : Bool :=
  let n := c.toNat
  (0x30 ≤ n && n ≤ 0x39) || (0x41 ≤ n && n ≤ 0x5A) || (0x61 ≤ n && n ≤ 0x7A) ||
    "_.-~:/%#?=@[]!$&\x27()*+,;".toList.contains c

/-- Text for a location header: each octet of any other character is escaped. -/
def percentEncode (s : List Char) : List Char :=
  s.flatMap fun c =>
    if isLocationSafe c then [c]
    else (Utf8.encodeChar c).flatMap fun b =>
      ['%', hexDigitUpper (b.toNat / 16), hexDigitUpper (b.toNat % 16)]

/-- One side of a query field: `+` is a space, and escapes are read after that. -/
def queryText (s : List Char) : List Char :=
  percentDecode (s.map fun c => if c = '+' then ' ' else c)

/-- The named values of a query, blank ones included. -/
def queryFields (query : List Char) : List (List Char × List Char) :=
  (pieces '&' query).filterMap fun piece =>
    if piece.isEmpty then none
    else
      let (name, value) := (cutFirst '=' piece).getD (piece, [])
      some (queryText name, queryText value)

/-- The value of a query field: the last one of its name counts. -/
def queryValue? (query : List Char) (name : List Char) : Option (List Char) :=
  ((queryFields query).reverse.find? (·.1 == name)).map (·.2)

end Signpost.Text
