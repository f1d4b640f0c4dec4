import Signpost.Text.Blank
import Signpost.Text.Digit
import Signpost.Text.Quoted

/-!
# Integers written in text

`readInteger` reads a decimal integer with digits of any script, surrounded by white space, after a
sign, and with single underscores between digits. A numeral of more than 4300 digits is refused
before anything after it is looked at; any other text that is no numeral is quoted in the refusal.
-/

namespace Signpost.Text

/-- Why a text is no integer. -/
inductive NotInteger
  /-- The text is no numeral. -/
  | malformed (text : List Char)
  /-- The numeral has too many digits. -/
  | tooLong (digits : Nat)
deriving DecidableEq, Repr

/-- Digits in a numeral beyond which it is refused. -/
def maxDigits : Nat := 4300

/-- The digit values at the head of a text, underscores between them passed over, and the rest;
`none` when an underscore does not stand between two digits. -/
def digitRun : List Char → Option (List Nat × List Char)
  | [] => some ([], [])
  | c :: rest =>
    match decimalValue? c with
    | none => some ([], c :: rest)
    | some d =>
      if rest.head? = some '_' then
        match digitRun rest.tail with
        | some (e :: more, tail) => some (d :: e :: more, tail)
        | _ => none
      else (digitRun rest).map fun (more, tail) => (d :: more, tail)
termination_by s => s.length
decreasing_by all_goals simp only [List.length_tail, List.length_cons]; omega

/-- The number that a row of digits writes. -/
def digitsValue (digits : List Nat) : Nat :=
  digits.foldl (fun value d => 10 * value + d) 0

/-- The wording of a refusal. -/
def NotInteger.message : NotInteger → String
  | .malformed text =>
    "invalid literal for int() with base 10: " ++ String.ofList ((quoted text).take 200)
  | .tooLong digits =>
    "Exceeds the limit (4300 digits) for integer string conversion: value has " ++
      toString digits ++ " digits; use sys.set_int_max_str_digits() to increase the limit"

/-- The integer that a text writes. -/
def readInteger (text : List Char) : Except NotInteger Int :=
  let inner := trimWhere isSpace text
  let (negative, body) :=
    match inner with
    | '-' :: rest => (true, rest)
    | '+' :: rest => (false, rest)
    | _ => (false, inner)
  match digitRun body with
  | none => .error (.malformed text)
  | some (digits, tail) =>
    if digits.length > maxDigits then .error (.tooLong digits.length)
    else if digits.isEmpty || !tail.isEmpty then .error (.malformed text)
    else
      let value : Int := digitsValue digits
      .ok (if negative then -value else value)

end Signpost.Text
