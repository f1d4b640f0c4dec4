import Signpost.Binary64.Shortest
import Signpost.Json.Basic
import Signpost.Text.Digit
import Signpost.Text.Numeral
import Signpost.Text.Percent

/-!
# Reading JSON text

`Json.read` reads one document and nothing after it but white space. Beyond the standard grammar it
admits `NaN`, `Infinity` and `-Infinity`; integers are exact, a number with a fraction or an
exponent is rounded to double precision, and of two members with one name the last counts.

A failure is a cause and the number of characters left where it was found, from which
`Json.read` works out the position. A document that is nested too deep is not read to its end. The
mutual loops take fuel; every turn of them but the last uses up a character, so the fuel that
`read` hands out always suffices.
-/

namespace Signpost.Json

/-- Why a text is no JSON document. -/
inductive Defect
  | expectedValue
  | expectedName
  | expectedColon
  | expectedComma
  | openString
  | controlCharacter
  | unknownEscape
  | brokenEscape
  | trailingText
  | byteOrderMark
deriving DecidableEq, Repr

/-- The wording of a defect. -/
def Defect.message : Defect → String
  | .expectedValue => "Expecting value"
  | .expectedName => "Expecting property name enclosed in double quotes"
  | .expectedColon => "Expecting \x27:\x27 delimiter"
  | .expectedComma => "Expecting \x27,\x27 delimiter"
  | .openString => "Unterminated string starting at"
  | .controlCharacter => "Invalid control character at"
  | .unknownEscape => "Invalid \\escape"
  | .brokenEscape => "Invalid \\uXXXX escape"
  | .trailingText => "Extra data"
  | .byteOrderMark => "Unexpected UTF-8 BOM (decode using utf-8-sig)"

/-- A part of a document that others lie within. -/
inductive Nest
  | array
  | object
deriving DecidableEq, Repr

/-- What is said of one nest too many. -/
def Nest.message : Nest → String
  | .array => "maximum recursion depth exceeded while decoding a JSON array from a unicode string"
  | .object => "maximum recursion depth exceeded while decoding a JSON object from a unicode string"

/-- What stopped a reading: a defect with the number of characters left there, an integer too long
to be taken, or one nest too many within another. -/
inductive Stop
  | defect (d : Defect) (left : Nat)
  | longInteger (digits : Nat)
  | tooDeep (nest : Nest)
deriving DecidableEq, Repr

/-- Why a document could not be read: its octets write no text, the text has a defect at a position,
an integer is too long to be taken, or one nest too many lies within another. -/
inductive Unreadable
  | illFormed
  | malformed (d : Defect) (position : Nat)
  | longInteger (digits : Nat)
  | tooDeep (nest : Nest)
deriving DecidableEq, Repr

/-- White space between tokens. -/
def isGap (c : Char) : Bool :=
  c == ' ' || c == '\t' || c == '\n' || c == '\r'

/-- The text after the white space at its head. -/
def skipGap (s : List Char) : List Char :=
  s.dropWhile isGap

/-- The value of four hexadecimal digits and the text after them. -/
def hex4 : List Char → Option (Nat × List Char)
  | a :: b :: c :: d :: rest =>
    match Text.hexValue? a, Text.hexValue? b, Text.hexValue? c, Text.hexValue? d with
    | some a, some b, some c, some d => some (((a * 16 + b) * 16 + c) * 16 + d, rest)
    | _, _, _, _ => none
  | _ => none

/-- The character a short escape stands for. -/
def shortEscape? : Char → Option Char
  | '"' => some '"'
  | '\\' => some '\\'
  | '/' => some '/'
  | 'b' => some (Char.ofNat 0x08)
  | 'f' => some (Char.ofNat 0x0C)
  | 'n' => some '\n'
  | 'r' => some '\r'
  | 't' => some '\t'
  | _ => none

/-- The character of a `\u` escape whose `u` is followed by `s`, and how much of `s` it takes. A
high surrogate joins with a low one in the escape after it. -/
def unicodeEscape (s : List Char) : Except Stop (Char × Nat) :=
  if s.length ≤ 4 then .error (.defect .brokenEscape (s.length + 1))
  else match hex4 s with
    | none => .error (.defect .brokenEscape (s.length + 1))
    | some (high, rest) =>
      match rest with
      | '\\' :: 'u' :: more =>
        if 0xD800 ≤ high ∧ high ≤ 0xDBFF ∧ 4 < more.length then
          match hex4 more with
          | none => .error (.defect .brokenEscape (more.length + 1))
          | some (low, _) =>
            match Text.joined? high low with
            | some c => .ok (c, 10)
            | none => .ok (Text.scalar high, 4)
        else .ok (Text.scalar high, 4)
      | _ => .ok (Text.scalar high, 4)

/-- The contents of a string after its opening quote and the text after its closing one; `left` is
the number of characters from the opening quote on. -/
def readString (left : Nat) : List Char → Except Stop (List Char × List Char)
  | [] => .error (.defect .openString left)
  | c :: rest =>
    if c = '"' then .ok ([], rest)
    else if c = '\\' then
      match rest with
      | [] => .error (.defect .openString left)
      | e :: more =>
        if e = 'u' then
          match unicodeEscape more with
          | .error stop => .error stop
          | .ok (x, taken) => do
            let (text, after) ← readString left (more.drop taken)
            .ok (x :: text, after)
        else match shortEscape? e with
          | none => .error (.defect .unknownEscape (more.length + 2))
          | some x => do
            let (text, after) ← readString left more
            .ok (x :: text, after)
    else if c.toNat < 0x20 then .error (.defect .controlCharacter (rest.length + 1))
    else do
      let (text, after) ← readString left rest
      .ok (c :: text, after)
termination_by s => s.length
decreasing_by all_goals simp only [List.length_cons, List.length_drop]; omega

/-- An ASCII digit. -/
def isAsciiDigit (c : Char) : Bool :=
  '0' ≤ c && c ≤ '9'

/-- The natural that ASCII digits write. -/
def naturalOf (digits : List Char) : Nat :=
  digits.foldl (fun value d => 10 * value + (d.toNat - '0'.toNat)) 0

/-- The integer part of a number: a lone zero or digits that do not start with one. -/
def integerDigits (s : List Char) : List Char × List Char :=
  match s with
  | '0' :: rest => (['0'], rest)
  | _ => (s.takeWhile isAsciiDigit, s.dropWhile isAsciiDigit)

/-- The fraction of a number, with the point dropped. -/
def fractionDigits : List Char → List Char × List Char
  | '.' :: rest =>
    if (rest.takeWhile isAsciiDigit).isEmpty then ([], '.' :: rest)
    else (rest.takeWhile isAsciiDigit, rest.dropWhile isAsciiDigit)
  | s => ([], s)

/-- The exponent of a number, `none` when there is none. -/
def exponentPart (s : List Char) : Option Int × List Char :=
  match s with
  | mark :: rest =>
    if mark = 'e' ∨ mark = 'E' then
      let (negative, digits) := match rest with
        | '-' :: r => (true, r)
        | '+' :: r => (false, r)
        | r => (false, r)
      let run := digits.takeWhile isAsciiDigit
      if run.isEmpty then (none, s)
      else
        let size : Int := naturalOf run
        (some (if negative then -size else size), digits.dropWhile isAsciiDigit)
    else (none, s)
  | [] => (none, [])

/-- A number at the head of a text and the text after it. -/
def readNumber (s : List Char) : Except Stop (Json × List Char) :=
  let (negative, body) := match s with
    | '-' :: rest => (true, rest)
    | _ => (false, s)
  let (whole, afterWhole) := integerDigits body
  if whole.isEmpty then .error (.defect .expectedValue s.length)
  else
    let (fraction, afterFraction) := fractionDigits afterWhole
    let (exponent, after) := exponentPart afterFraction
    if fraction.isEmpty && exponent.isNone then
      if whole.length > Text.maxDigits then .error (.longInteger whole.length)
      else
        let size : Int := naturalOf whole
        .ok (.int (if negative then -size else size), after)
    else
      let d : Binary64.Decimal :=
        ⟨naturalOf (whole ++ fraction), exponent.getD 0 - fraction.length⟩
      .ok (.float (Binary64.ofDecimal negative d), after)

/-- The documents that stand for themselves, each with its spelling. -/
def words : List (List Char × Json) :=
  [("null".toList, .null), ("true".toList, .bool true), ("false".toList, .bool false),
    ("NaN".toList, .float .nan), ("Infinity".toList, .float (.infinite false)),
    ("-Infinity".toList, .float (.infinite true))]

/-- A word at the head of a text and the text after it. -/
def readWord? (s : List Char) : Option (Json × List Char) :=
  (words.find? fun (word, _) => word.isPrefixOf s).map fun (word, j) => (j, s.drop word.length)

/-- The nests that may lie within each other in a document that is read. Each takes a call within a
call, so this stands for what the stack has left where the service reads documents. It is another
number on another stack; what is proved goes by it only as a bound that is far above the height of
what the service writes. -/
def maxLevels : Nat := 975

mutual

/-- A document at the head of a text, of at most so many levels, and the text after it. -/
def readValue : Nat → Nat → List Char → Except Stop (Json × List Char)
  | 0, _, s => .error (.defect .expectedValue s.length)
  | fuel + 1, levels, s =>
    match s with
    | [] => .error (.defect .expectedValue 0)
    | c :: rest =>
      if c = '"' then do
        let (text, after) ← readString s.length rest
        .ok (.str (String.ofList text), after)
      else if c = '[' then
        if levels = 0 then .error (.tooDeep .array)
        else match skipGap rest with
          | ']' :: after => .ok (.arr [], after)
          | inner => do
            let (items, after) ← readItems fuel (levels - 1) inner
            .ok (.arr items, after)
      else if c = '\x7b' then
        if levels = 0 then .error (.tooDeep .object)
        else match skipGap rest with
          | '\x7d' :: after => .ok (.obj [], after)
          | inner => do
            let (members, after) ← readMembers fuel (levels - 1) inner
            .ok (.obj (ofMembers members), after)
      else match readWord? s with
        | some found => .ok found
        | none => readNumber s

/-- The rest of an array from an item on. -/
def readItems : Nat → Nat → List Char → Except Stop (List Json × List Char)
  | 0, _, s => .error (.defect .expectedValue s.length)
  | fuel + 1, levels, s => do
    let (item, after) ← readValue fuel levels s
    match skipGap after with
    | ']' :: rest => .ok ([item], rest)
    | ',' :: rest => do
      let (items, tail) ← readItems fuel levels (skipGap rest)
      .ok (item :: items, tail)
    | rest => .error (.defect .expectedComma rest.length)

/-- The rest of an object from a member on. -/
def readMembers : Nat → Nat → List Char → Except Stop (List (String × Json) × List Char)
  | 0, _, s => .error (.defect .expectedName s.length)
  | fuel + 1, levels, s =>
    match s with
    | '"' :: body => do
      let (name, afterName) ← readString s.length body
      match skipGap afterName with
      | ':' :: rest => do
        let (value, after) ← readValue fuel levels (skipGap rest)
        let member := (String.ofList name, value)
        match skipGap after with
        | '\x7d' :: tail => .ok ([member], tail)
        | ',' :: more => do
          let (members, tail) ← readMembers fuel levels (skipGap more)
          .ok (member :: members, tail)
        | rest => .error (.defect .expectedComma rest.length)
      | rest => .error (.defect .expectedColon rest.length)
    | _ => .error (.defect .expectedName s.length)

end

/-- Reads one document of at most so many levels that is the whole text, white space around it
aside. -/
def readText (levels : Nat) (s : List Char) : Except Stop Json := do
  let (j, after) ← readValue (2 * s.length + 2) levels (skipGap s)
  match skipGap after with
  | [] => .ok j
  | rest => .error (.defect .trailingText rest.length)

/-- The document that decoded octets write. -/
def readDecoded (s : List Char) : Except Unreadable Json :=
  match readText maxLevels s with
  | .ok j => .ok j
  | .error (.defect d left) => .error (.malformed d (s.length - left))
  | .error (.longInteger digits) => .error (.longInteger digits)
  | .error (.tooDeep nest) => .error (.tooDeep nest)

/-- The document that a text writes. A text has no byte-order mark. -/
def read (s : List Char) : Except Unreadable Json :=
  if s.head? = some (Char.ofNat 0xFEFF) then .error (.malformed .byteOrderMark 0)
  else readDecoded s

/-- A document that was read, or null in its place; only one that is nested too deep stands in the
way. -/
def orNull (document : Except Unreadable Json) : Except Nest Json :=
  match document with
  | .ok j => .ok j
  | .error (.tooDeep nest) => .error nest
  | .error _ => .ok .null

end Signpost.Json
