import Signpost.Calendar.Clock
import Signpost.Json.Reader
import Signpost.Text.Utf8

/-!
# Moments

A moment is a clock reading that may say how far its clock is from universal time. Without an offset
the reading is taken as universal time wherever an instant is needed, but two moments of which only
one has an offset cannot be ordered.

A moment is written as a date with or without a time of day, or as a number of seconds since the
start of 1970; numbers too great for that count milliseconds.
-/

namespace Signpost

/-- A clock reading, with its offset from universal time in minutes when it is known. -/
structure Moment where
  clock : Clock
  offset : Option Int
deriving DecidableEq, Repr, Inhabited

namespace Moment

/-- A reading without an offset. -/
def naive (c : Clock) : Moment :=
  ⟨c, none⟩

/-- A reading of universal time. -/
def universal (c : Clock) : Moment :=
  ⟨c, some 0⟩

/-- Microseconds since the start of year 1 in universal time. -/
def instant (m : Moment) : Int :=
  m.clock.micros - m.offset.getD 0 * Clock.minuteMicros

/-- The reading of universal time, if it falls in years 1 to 9999. -/
def utc (m : Moment) : Option Clock :=
  m.clock.shift (-m.offset.getD 0)

/-- Whether one moment comes before another; moments of different kinds have no order. -/
def before? (a b : Moment) : Option Bool :=
  if a.offset.isSome = b.offset.isSome then some (a.instant < b.instant) else none

/-- An offset as hours and minutes. -/
def offsetText (minutes : Int) : List Char :=
  (if minutes < 0 then '-' else '+') :: Clock.padded 2 (minutes.natAbs / 60) ++
    ':' :: Clock.padded 2 (minutes.natAbs % 60)

/-- A moment's text. -/
def isoText (m : Moment) : String :=
  String.ofList (m.clock.isoText ++ match m.offset with
    | some minutes => offsetText minutes
    | none => [])

/-- A moment's text in a document, where universal time is a `Z`. -/
def wireText (m : Moment) : String :=
  if m.offset = some 0 then String.ofList (m.clock.isoText ++ ['Z']) else m.isoText

/-! ## Counts since 1970 -/

/-- Why a count of seconds is no moment. -/
inductive OutOfRange
  | tooEarly
  | tooLate
deriving DecidableEq, Repr

/-- The wording of a refusal. -/
def OutOfRange.message : OutOfRange → String
  | .tooEarly => "dates before 1600 are not supported as unix timestamps"
  | .tooLate => "dates after 9999 are not supported as unix timestamps"

/-- The start of 1970 in seconds since the start of year 1. -/
def epochSeconds : Int := 62135596800

/-- The start of 1600 in seconds since the start of 1970. -/
def firstSecond : Int := -11676096000

/-- The end of 9999 in seconds since the start of 1970. -/
def lastSecond : Int := 253402300799

/-- The greatest count that is one of seconds; greater ones count milliseconds. -/
def secondsLimit : Nat := 20000000000

/-- The greatest count there is, and one more than the least one's opposite. -/
def countLimit : Int := 0x8000000000000000

/-- A count as seconds and microseconds, these not negative. -/
def secondsOf (count : Int) : Int × Int :=
  if count.natAbs ≤ secondsLimit then (count, 0)
  else
    let seconds := count.tdiv 1000
    let micros := count.tmod 1000 * 1000
    if micros < 0 then (seconds - 1, micros + 1000000) else (seconds, micros)

/-- The moment of a count since the start of 1970 and some microseconds. -/
def ofCount (count : Int) (micros : Nat) : Except OutOfRange Moment :=
  if count ≤ -countLimit then .error .tooEarly
  else
    let (seconds, more) := secondsOf count
    let total := more + micros
    let seconds := seconds + total / 1000000
    if seconds < firstSecond then .error .tooEarly
    else if lastSecond < seconds then .error .tooLate
    else .ok (.universal ⟨((epochSeconds + seconds) * 1000000 + total % 1000000).toNat⟩)

/-- The nearest integer to a magnitude, the greater one on a tie. -/
def nearest (r : Binary64.Ratio) : Nat :=
  (2 * r.num + r.den) / (2 * r.den)

/-- The microseconds of a fraction of a second, which is rounded to double precision first. -/
def microsOf (fraction : Binary64.Ratio) : Nat :=
  match (Binary64.ofRatio false fraction).timesNat 1000000 with
  | .finite _ mant exp _ => nearest (Binary64.magnitude mant exp)
  | _ => 0

/-- The moment of a count in double precision; there is none for what is no number. Below zero the
fraction is counted from the wrong side, so that it moves the moment forward all the same. -/
def ofFloat? (x : Binary64) : Option (Except OutOfRange Moment) :=
  match x with
  | .nan => none
  | .infinite negative => some (.error (if negative then .tooEarly else .tooLate))
  | .finite negative mant exp _ =>
    let r := Binary64.magnitude mant exp
    let whole := Int.fdiv (Binary64.signedNum negative mant exp) r.den
    some (ofCount (max (-countLimit) (min (countLimit - 1) whole))
      (microsOf ⟨r.num % r.den, r.den⟩))

/-- The moment of a count that was written with a fraction. -/
def ofFraction (x : Binary64) : Except OutOfRange Moment :=
  let seconds (x : Binary64) : Except OutOfRange Moment :=
    match x with
    | .finite negative mant exp _ =>
      let num := Binary64.signedNum negative mant exp
      let den := (Binary64.magnitude mant exp).den
      let whole := Int.fdiv num den
      ofCount whole (microsOf ⟨(num - whole * den).toNat, den⟩)
    | .infinite true => .error .tooEarly
    | _ => .error .tooLate
  match x with
  | .finite negative mant exp _ =>
    let r := Binary64.magnitude mant exp
    if secondsLimit * r.den < r.num then
      seconds (Binary64.ofSignedRatio (Binary64.signedNum negative mant exp) (1000 * r.den))
    else seconds x
  | _ => seconds x

/-! ## Reading moments -/

/-- Why a text is no moment. -/
inductive Unreadable
  | tooShort
  | yearCharacter
  | separator
  | monthCharacter
  | dayCharacter
  | monthRange
  | dayRange
  | extraCharacters
  | count (e : OutOfRange)
  /-- A moment of the year before the first. -/
  | yearZero
deriving DecidableEq, Repr

/-- The wording of a refusal. -/
def Unreadable.message : Unreadable → String
  | .tooShort => "input is too short"
  | .yearCharacter => "invalid character in year"
  | .separator => "invalid date separator, expected `-`"
  | .monthCharacter => "invalid character in month"
  | .dayCharacter => "invalid character in day"
  | .monthRange => "month value is outside expected range of 1-12"
  | .dayRange => "day value is outside expected range"
  | .extraCharacters => "unexpected extra characters at the end of the input"
  | .count e => e.message
  | .yearZero => "year 0 is out of range"

/-- The number that a row of ASCII digits writes, `none` for any other text. -/
def number? (digits : List Char) : Option Nat :=
  if !digits.isEmpty && digits.all Json.isAsciiDigit then some (Json.naturalOf digits) else none

/-- A date of ten characters at the head of a text and the text after it; the year may be zero. -/
def readDate (s : List Char) : Except Unreadable (Date × List Char) :=
  match s with
  | y1 :: y2 :: y3 :: y4 :: dash1 :: m1 :: m2 :: dash2 :: d1 :: d2 :: rest =>
    match number? [y1, y2, y3, y4], number? [m1, m2], number? [d1, d2] with
    | none, _, _ => .error .yearCharacter
    | some year, month?, day? =>
      if dash1 ≠ '-' then .error .separator
      else match month? with
        | none => .error .monthCharacter
        | some month =>
          if dash2 ≠ '-' then .error .separator
          else match day? with
            | none => .error .dayCharacter
            | some dayOfMonth =>
              if month < 1 ∨ 12 < month then .error .monthRange
              else if dayOfMonth < 1 ∨ Date.daysInMonth year month < dayOfMonth then
                .error .dayRange
              else .ok (⟨year, month, dayOfMonth⟩, rest)
  | _ => .error .tooShort

/-- The microseconds of a fraction of a second, digits beyond the sixth dropped. -/
def fractionMicros (digits : List Char) : Nat :=
  Json.naturalOf ((digits ++ List.replicate 6 '0').take 6)

/-- A time of day at the head of a text, in microseconds since midnight, and the text after it. -/
def readTime? : List Char → Option (Nat × List Char)
  | h1 :: h2 :: ':' :: m1 :: m2 :: rest => do
    let hours ← number? [h1, h2]
    let minutes ← number? [m1, m2]
    if 23 < hours ∨ 59 < minutes then none
    else
      let soFar := (hours * 60 + minutes) * Clock.minuteMicros
      match rest with
      | ':' :: s1 :: s2 :: tail => do
        let seconds ← number? [s1, s2]
        if 59 < seconds then none
        else match tail with
          | point :: more =>
            if point = '.' ∨ point = ',' then
              let digits := more.takeWhile Json.isAsciiDigit
              if digits.isEmpty then none
              else some (soFar + seconds * 1000000 + fractionMicros digits,
                more.dropWhile Json.isAsciiDigit)
            else some (soFar + seconds * 1000000, tail)
          | [] => some (soFar + seconds * 1000000, [])
      | _ => some (soFar, rest)
  | _ => none

/-- The octets of the minus sign proper, each as a character. -/
def minusOctets : List Char := ['\xe2', '\x88', '\x92']

/-- An offset without its sign, in minutes. -/
def readOffsetSize? : List Char → Option Int
  | h1 :: h2 :: rest => do
    let hours ← number? [h1, h2]
    let minutes ← match rest with
      | [':', m1, m2] | [m1, m2] => number? [m1, m2]
      | _ => none
    let size : Int := hours * 60 + minutes
    if 59 < minutes ∨ 1440 ≤ size then none else some size
  | _ => none

/-- An offset that is a whole text, in minutes; no text is no offset. -/
def readOffset? (s : List Char) : Option (Option Int) :=
  match s with
  | [] => some none
  | ['Z'] | ['z'] => some (some 0)
  | '+' :: rest => (readOffsetSize? rest).map some
  | '-' :: rest => (readOffsetSize? rest).map fun size => some (-size)
  | _ =>
    if minusOctets.isPrefixOf s then
      (readOffsetSize? (s.drop minusOctets.length)).map fun size => some (-size)
    else none

/-- The time of day after a date, in microseconds since midnight, and the offset. -/
def afterDate? : List Char → Option (Nat × Option Int)
  | separator :: rest =>
    if separator = 'T' ∨ separator = 't' ∨ separator = ' ' ∨ separator = '_' then do
      let (micros, after) ← readTime? rest
      let offset ← readOffset? after
      some (micros, offset)
    else none
  | [] => some (0, none)

/-- The number nearest to a whole part and a fraction that is added digit by digit, each time
rounded. -/
def addDigits (sum place : Binary64) : List Char → Binary64
  | [] => sum
  | d :: rest =>
    let next := place.timesNat 10
    match sum, next with
    | .finite sign mant exp _, .finite _ mant' exp' _ =>
      let part := Binary64.ofRatio false
        ⟨(d.toNat - '0'.toNat) * (Binary64.magnitude mant' exp').den,
          (Binary64.magnitude mant' exp').num⟩
      match part with
      | .finite _ mant'' exp'' _ =>
        let a := Binary64.magnitude mant exp
        let b := Binary64.magnitude mant'' exp''
        addDigits (Binary64.ofRatio sign ⟨a.num * b.den + b.num * a.den, a.den * b.den⟩) next rest
      | _ => sum
    | _, _ => sum

/-- The moment of a count that is written in digits, with a sign and a fraction or without. -/
def readCount? (s : List Char) : Option (Except OutOfRange Moment) :=
  let (negative, body) := match s with
    | '-' :: rest => (true, rest)
    | '+' :: rest => (false, rest)
    | _ => (false, s)
  let whole : Int := Json.naturalOf (body.takeWhile Json.isAsciiDigit)
  let count := if negative then -whole else whole
  if (body.takeWhile Json.isAsciiDigit).isEmpty || countLimit ≤ whole then none
  else match body.dropWhile Json.isAsciiDigit with
    | [] => some (ofCount count 0)
    | '.' :: digits =>
      if digits.all Json.isAsciiDigit then
        let one := Binary64.ofInt 1
        let size := addDigits (Binary64.ofInt whole) one digits
        some (ofFraction (if negative then size.negated else size))
      else none
    | _ => none

/-- The moment that octets write: a date, a date and a time of day, or a count. -/
def readOctets (bytes : List UInt8) : Except Unreadable Moment :=
  let s := bytes.map fun b => Char.ofNat b.toNat
  let place (d : Date) (micros : Nat) (offset : Option Int) : Except Unreadable Moment :=
    if d.year = 0 then .error .yearZero else .ok ⟨.ofDate d micros, offset⟩
  match readDate s with
  | .ok (d, rest) =>
    match afterDate? rest with
    | some (micros, offset) => place d micros offset
    | none => .error .extraCharacters
  | .error e =>
    match readCount? s with
    | some (.ok m) => .ok m
    | some (.error range) => .error (if s.contains '.' then e else .count range)
    | none => .error e

/-- The moment that a text writes. -/
def read (text : String) : Except Unreadable Moment :=
  readOctets (Text.encodeUtf8 text.toList)

end Moment

end Signpost
