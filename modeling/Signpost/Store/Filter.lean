import Signpost.Store.Row

/-!
# Filters

Links are looked for by the values of their columns. A value bends to its column: in a column of
texts a number counts as its digits, in a column of numbers a numeral counts as what it writes and a
truth value as a zero or a one, and null stands for nothing at all.
-/

namespace Signpost

/-- A column of links. -/
inductive LinkColumn
  | originalUrl
  | slug
  | userId
  | expiresAt
  | isSmartRouting
  | defaultUrl
  | id
  | createdAt
  | clickCount
deriving DecidableEq, Repr

/-- The name of a column. -/
def LinkColumn.name : LinkColumn → String
  | originalUrl => "original_url"
  | slug => "slug"
  | userId => "user_id"
  | expiresAt => "expires_at"
  | isSmartRouting => "is_smart_routing"
  | defaultUrl => "default_url"
  | id => "id"
  | createdAt => "created_at"
  | clickCount => "click_count"

/-- The columns of links, in their order in a row. -/
def LinkColumn.all : List LinkColumn :=
  [.originalUrl, .slug, .userId, .expiresAt, .isSmartRouting, .defaultUrl, .id, .createdAt,
    .clickCount]

/-- The columns of links by their names. -/
def LinkColumn.choices : List (String × LinkColumn) :=
  all.map fun column => (column.name, column)

/-- What a column holds. -/
inductive Cell
  | nothing
  | text (s : String)
  | number (n : Int)
  | flag (b : Bool)
  | moment (c : Clock)
deriving DecidableEq, Repr

/-- What a column of a link holds. -/
def LinkColumn.cell (column : LinkColumn) (l : Link) : Cell :=
  match column with
  | originalUrl => .text l.originalUrl
  | slug => .text l.slug
  | userId => .number l.userId
  | expiresAt => (l.expiresAt.map Cell.moment).getD .nothing
  | isSmartRouting => .flag l.isSmartRouting
  | defaultUrl => (l.defaultUrl.map Cell.text).getD .nothing
  | id => .number l.id
  | createdAt => .moment l.createdAt
  | clickCount => .number l.clickCount

/-- A value that a column has to have. -/
structure LinkFilter where
  column : LinkColumn
  value : Json

/-- Why a value cannot be one of a column. -/
inductive FilterMisfit
  | notFlag (value : Json)
  /-- A number that is neither a zero nor a one. -/
  | otherNumber (n : Int)
  /-- A list or an object where a flag should be. -/
  | composite (value : Json)
  | notMoment

/-- The integer that a numeral writes, blanks around it and zeros behind a point aside. -/
def numeralValue? (s : String) : Option Int :=
  let trimmed := Text.trimWhere (fun c => c == ' ' || (0x09 ≤ c.toNat && c.toNat ≤ 0x0D)) s.toList
  let (negative, body) := match trimmed with
    | '-' :: rest => (true, rest)
    | '+' :: rest => (false, rest)
    | _ => (false, trimmed)
  let digits := body.takeWhile Json.isAsciiDigit
  let isWhole := match body.dropWhile Json.isAsciiDigit with
    | [] => true
    | '.' :: zeros => zeros.all (· == '0')
    | _ => false
  if digits.isEmpty || !isWhole then none
  else
    let size : Int := Json.naturalOf digits
    some (if negative then -size else size)

/-- Whether a cell holds a value. -/
def Cell.holds (cell : Cell) (value : Json) : Bool :=
  match cell, value with
  | .nothing, .null => true
  | .text s, .str t => s == t
  | .text s, .int n => s == toString n
  | .text s, .float x => s == x.text
  | .text s, .bool b => s == (if b then "1" else "0")
  | .number n, .int m => n == m
  | .number n, .float x => x.toInt? == some n
  | .number n, .bool b => n == (if b then 1 else 0)
  | .number n, .str s => numeralValue? s == some n
  | .flag b, .bool c => b == c
  | .flag b, .int n => n == (if b then 1 else 0)
  | .flag b, .float x => x.toInt? == some (if b then 1 else 0)
  | _, _ => false

namespace LinkFilter

/-- Whether a link has the value. -/
def admits (f : LinkFilter) (l : Link) : Bool :=
  (f.column.cell l).holds f.value

/-- The number that is handed over for the value. -/
def number? (f : LinkFilter) : Option Int :=
  match f.value with
  | .int n => some n
  | _ => none

/-- Why the value cannot be one of its column: a flag is true, false, a zero or a one, and nothing
but a moment is compared with a moment. Null and the truth values go with every column. -/
def misfit? (f : LinkFilter) : Option FilterMisfit :=
  match f.column, f.value with
  | _, .null | _, .bool _ => none
  | .expiresAt, _ | .createdAt, _ => some .notMoment
  | .isSmartRouting, .int n => if n = 0 ∨ n = 1 then none else some (.otherNumber n)
  | .isSmartRouting, .float x =>
    if x.toInt? = some 0 ∨ x.toInt? = some 1 then none else some (.notFlag f.value)
  | .isSmartRouting, .arr _ | .isSmartRouting, .obj _ => some (.composite f.value)
  | .isSmartRouting, _ => some (.notFlag f.value)
  | _, _ => none

/-- Whether the value can be handed over. -/
def isBindable (f : LinkFilter) : Bool :=
  match f.value with
  | .arr _ | .obj _ => false
  | _ => true

/-- The filter as a term of a statement. -/
def term (f : LinkFilter) : String :=
  f.column.name ++ (match f.value with
    | .null => " IS NULL"
    | .bool b => if b then " = 1" else " = 0"
    | _ => " = ?")

/-- The filter that asks for a slug. -/
def slugIs (s : String) : LinkFilter :=
  ⟨.slug, .str s⟩

end LinkFilter

end Signpost
