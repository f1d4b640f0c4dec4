import Signpost.Calendar.Moment
import Signpost.Check.Checked
import Signpost.Text.Blank

/-!
# Checks of single values

Each rule takes any document and says how far it bends to make it a text, an integer, a boolean or
a moment. Texts are taken as they are, octets as the text they write; an integer may come as a whole
number in double precision or as a numeral, a boolean as a zero, a one or one of a few words, and a
moment as a count of seconds or milliseconds.
-/

namespace Signpost.Check

/-- The text that octets write. -/
def textOfOctets? (bytes : List UInt8) : Option String :=
  (Text.decodeUtf8? bytes).map String.ofList

/-- A text. -/
def text : Rule String := fun path j =>
  match j with
  | .str s => .passed s
  | .octets bytes =>
    match textOfOctets? bytes with
    | some s => .passed s
    | none => .fault path .illFormedText j
  | _ => .fault path .notText j

/-- A text that is looked at character by character. -/
def wellFormedText : Rule String := fun path j =>
  (text path j).andThen fun s =>
    if Text.isWellFormed s.toList then .passed s else .fault path .illFormedText j

/-- A text of at least a length. -/
def textAtLeast (least : Nat) : Rule String := fun path j =>
  (wellFormedText path j).andThen fun s =>
    if s.length < least then .fault path (.textTooShort least) j else .passed s

/-- A text of bounded length. -/
def textOfLength (least most : Nat) : Rule String := fun path j =>
  (textAtLeast least path j).andThen fun s =>
    if most < s.length then .fault path (.textTooLong most) j
    else .passed s

/-- Anything, or a null in its place. -/
def orNull {α : Type} (rule : Rule α) : Rule (Option α) := fun path j =>
  match j with
  | .null => .passed none
  | _ => (rule path j).map some

/-- A value that a further rule turns into another or refuses with a reason. -/
def refining {α β : Type} (rule : Rule α) (refine : α → Except String β) : Rule β :=
  fun path j =>
    (rule path j).andThen fun a =>
      match refine a with
      | .ok b => .passed b
      | .error reason => .fault path (.refused reason) j

/-- An integer as a numeral writes it. -/
structure Numeral where
  negative : Bool
  digits : List Char

namespace Numeral

/-- A numeral from the first character that counts on: of zeros at its head, which may have
underscores among them, the last is kept only where no digit or minus sign follows. -/
def significant? (s : List Char) : Option (List Char) :=
  match s with
  | '0' :: _ =>
    let run := s.takeWhile fun c => c == '0' || c == '_'
    match s.dropWhile fun c => c == '0' || c == '_' with
    | [] => run.getLast?.map ([·])
    | '.' :: rest => run.getLast?.map (· :: '.' :: rest)
    | c :: rest => if Json.isAsciiDigit c || c == '-' then some (c :: rest) else none
  | c :: _ => if Json.isAsciiDigit c || c == '-' then some s else none
  | [] => none

/-- A numeral without the zeros behind its point. -/
def withoutFraction (s : List Char) : List Char :=
  match (s.reverse.dropWhile (· == '0')), s.getLast? with
  | '.' :: whole, some '0' => whole.reverse
  | _, _ => s

/-- Whether two underscores stand side by side. -/
def hasDoubleUnderscore : List Char → Bool
  | a :: b :: rest => (a == '_' && b == '_') || hasDoubleUnderscore (b :: rest)
  | _ => false

/-- A numeral without the single underscores within it. -/
def withoutUnderscores (s : List Char) : List Char :=
  if s.head? = some '_' || s.getLast? = some '_' || hasDoubleUnderscore s then s
  else s.filter (· != '_')

/-- The numeral that a text is: ASCII digits after a sign, single underscores among them, and zeros
behind a point. Zeros at its head are passed over, and so is a plus sign. -/
def read? (s : String) : Option Numeral :=
  let trimmed := Text.trimWhere Text.isSpace s.toList
  let unsigned := match trimmed with
    | '+' :: rest => if rest.head? = some '-' then none else some rest
    | _ => some trimmed
  (unsigned.bind significant?).bind fun body =>
    let (negative, digits) := match withoutUnderscores (withoutFraction body) with
      | '-' :: rest => (true, rest)
      | digits => (false, digits)
    if digits.isEmpty || !digits.all Json.isAsciiDigit then none else some ⟨negative, digits⟩

/-- Whether a numeral has few enough digits to be taken, zeros at its head aside. -/
def isBounded (n : Numeral) : Bool :=
  (n.digits.dropWhile (· == '0')).length ≤ Text.maxDigits

/-- The integer that a numeral writes. -/
def value (n : Numeral) : Int :=
  let size : Int := Json.naturalOf n.digits
  if n.negative then -size else size

end Numeral

/-- The magnitude from which on a whole number in double precision is not taken as an integer. -/
def wholeLimit : Int := 0x8000000000000000

/-- An integer. -/
def integer : Rule Int := fun path j =>
  let numeral (s : String) : Checked Int :=
    match Numeral.read? s with
    | some n => if n.isBounded then .passed n.value else .fault path .hugeInteger j
    | none => .fault path .unreadableInteger j
  match j with
  | .int i => .passed i
  | .bool b => .passed (if b then 1 else 0)
  | .float x =>
    if !x.isFinite then .fault path .notFinite j
    else match x.toInt? with
      | none => .fault path .fractionalInteger j
      | some i =>
        if -wholeLimit < i ∧ i < wholeLimit then .passed i else .fault path .hugeInteger j
  | .str s => numeral s
  | .octets bytes =>
    match textOfOctets? bytes with
    | some s => numeral s
    | none => .fault path .unreadableInteger j
  | _ => .fault path .notInteger j

/-- An integer of at least a bound. -/
def integerFrom (least : Int) : Rule Int := fun path j =>
  (integer path j).andThen fun i =>
    if i < least then .fault path (.below least) j else .passed i

/-- An integer between two bounds. -/
def integerBetween (least most : Int) : Rule Int := fun path j =>
  (integerFrom least path j).andThen fun i =>
    if most < i then .fault path (.above most) j else .passed i

/-- Words for true. -/
def trueWords : List String := ["1", "true", "t", "yes", "y", "on"]

/-- Words for false. -/
def falseWords : List String := ["0", "false", "f", "no", "n", "off"]

/-- A boolean. -/
def boolean : Rule Bool := fun path j =>
  let ofInt (i : Int) : Checked Bool :=
    if i = 1 then .passed true
    else if i = 0 then .passed false
    else .fault path .unreadableBoolean j
  let ofWord (s : String) : Checked Bool :=
    let word := String.ofList (s.toList.map Char.toLower)
    if trueWords.contains word then .passed true
    else if falseWords.contains word then .passed false
    else .fault path .unreadableBoolean j
  match j with
  | .bool b => .passed b
  | .int i => if -wholeLimit ≤ i ∧ i < wholeLimit then ofInt i else .fault path .notBoolean j
  | .float x =>
    match x.toInt? with
    | some i => if -wholeLimit < i ∧ i < wholeLimit then ofInt i else .fault path .notBoolean j
    | none => .fault path .notBoolean j
  | .str s => ofWord s
  | .octets bytes =>
    match textOfOctets? bytes with
    | some s => ofWord s
    | none => .fault path .unreadableBoolean j
  | _ => .fault path .notBoolean j

/-- One of a few named values. -/
def named {α : Type} (choices : List (String × α)) : Rule α := fun path j =>
  let found : Option (String × α) :=
    (text path j).toOption.bind fun s => choices.find? fun choice => choice.1 == s
  match found with
  | some choice => .passed choice.2
  | none => .fault path (.notAmong (choices.map Prod.fst)) j

/-- A moment. -/
def moment : Rule Moment := fun path j =>
  let written (found : Except Moment.Unreadable Moment) : Checked Moment :=
    match found with
    | .ok m => .passed m
    | .error .yearZero =>
      .fault path (.impossibleMoment Moment.Unreadable.yearZero.message) j
    | .error e => .fault path (.unreadableMoment e.message) j
  let counted (found : Except Moment.OutOfRange Moment) : Checked Moment :=
    match found with
    | .ok m => .passed m
    | .error e => .fault path (.impossibleMoment e.message) j
  match j with
  | .str s => written (Moment.read s)
  | .octets bytes => written (Moment.readOctets bytes)
  | .int i =>
    if -wholeLimit ≤ i ∧ i < wholeLimit then counted (Moment.ofCount i 0)
    else match Binary64.ofInt i with
      | .finite sign mant exp h =>
        ((Moment.ofFloat? (.finite sign mant exp h)).map counted).getD (.fault path .notMoment j)
      | _ => .fault path .notMoment j
  | .float x =>
    match Moment.ofFloat? x with
    | some found => counted found
    | none => .fault path (.impossibleMoment "NaN values not permitted") j
  | _ => .fault path .notMoment j

/-- Any document. -/
def anything : Rule Json := fun _ j =>
  .passed j

end Signpost.Check
