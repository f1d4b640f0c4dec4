import Signpost.Binary64.Basic
import Signpost.Text.Utf8

/-!
# JSON documents

A document is held with its integers exact and its other numbers in double precision. The members of
an object keep the order in which their names were first written, and a name occurs once: `put`
replaces the value of a name in place and adds a new name at the end. A document that was put
together, not read, may also hold octets.
-/

namespace Signpost

/-- A JSON document. -/
inductive Json
  | null
  | bool (b : Bool)
  | int (i : Int)
  | float (x : Binary64)
  | str (s : String)
  | octets (bytes : List UInt8)
  | arr (items : List Json)
  | obj (members : List (String × Json))
deriving Inhabited

namespace Json

/-- Members with one name's value replaced, or added at the end. -/
def put (name : String) (value : Json) : List (String × Json) → List (String × Json)
  | [] => [(name, value)]
  | (n, v) :: rest => if n = name then (n, value) :: rest else (n, v) :: put name value rest

/-- Members in writing order, the last value of each name standing in the place of the first. -/
def ofMembers (members : List (String × Json)) : List (String × Json) :=
  members.foldl (fun kept (name, value) => put name value kept) []

/-- The value of a name among members. -/
def lookup (members : List (String × Json)) (name : String) : Option Json :=
  (members.find? (·.1 == name)).map (·.2)

/-- The value of a name in an object, nothing for any other document. -/
def get? (j : Json) (name : String) : Option Json :=
  match j with
  | .obj members => lookup members name
  | _ => none

/-- The value of a name in an object, `null` when there is none. -/
def getD (j : Json) (name : String) : Json :=
  (j.get? name).getD .null

/-- Whether a document says something: neither null, false, zero nor empty. -/
def isTruthy : Json → Bool
  | .null => false
  | .bool b => b
  | .int i => i != 0
  | .float x => !x.isZero
  | .str s => s != ""
  | .octets bytes => !bytes.isEmpty
  | .arr items => !items.isEmpty
  | .obj members => !members.isEmpty

/-- The text of a string. -/
def text? : Json → Option String
  | .str s => some s
  | _ => none

/-- Text or null. -/
def ofText? : Option String → Json
  | some s => .str s
  | none => .null

/-- An integer or null. -/
def ofInt? : Option Int → Json
  | some i => .int i
  | none => .null

mutual

/-- The most parts of a document that lie within each other, the document itself among them. -/
def height : Json → Nat
  | .arr items => heightOfItems items + 1
  | .obj members => heightOfMembers members + 1
  | _ => 1

/-- The greatest height in a list of documents. -/
def heightOfItems : List Json → Nat
  | [] => 0
  | j :: rest => max j.height (heightOfItems rest)

/-- The greatest height among the values of members. -/
def heightOfMembers : List (String × Json) → Nat
  | [] => 0
  | (_, j) :: rest => max j.height (heightOfMembers rest)

end

mutual

/-- Whether plain JSON can write a document: every number is finite, and no text holds half a
surrogate pair. -/
def isPlain : Json → Bool
  | .float x => x.isFinite
  | .str s => Text.isWellFormed s.toList
  | .octets _ => false
  | .arr items => itemsPlain items
  | .obj members => membersPlain members
  | _ => true

/-- Whether plain JSON can write each document of a list. -/
def itemsPlain : List Json → Bool
  | [] => true
  | j :: rest => j.isPlain && itemsPlain rest

/-- Whether plain JSON can write the names and values of members. -/
def membersPlain : List (String × Json) → Bool
  | [] => true
  | (name, j) :: rest => Text.isWellFormed name.toList && j.isPlain && membersPlain rest

end

mutual

/-- A document with null for each number that is not finite, as plain JSON has no other way. -/
def finitized : Json → Json
  | .float x => if x.isFinite then .float x else .null
  | .arr items => .arr (finitizedList items)
  | .obj members => .obj (finitizedMembers members)
  | j => j

/-- `finitized` on each document of a list. -/
def finitizedList : List Json → List Json
  | [] => []
  | j :: rest => j.finitized :: finitizedList rest

/-- `finitized` on each value of members. -/
def finitizedMembers : List (String × Json) → List (String × Json)
  | [] => []
  | (name, j) :: rest => (name, j.finitized) :: finitizedMembers rest

end

mutual

/-- A document as it is after it was written and read: in its texts, the two halves of a surrogate
pair that stand side by side are one character. -/
def settled : Json → Json
  | .str s => .str (String.ofList (Text.joinHalves s.toList))
  | .arr items => .arr (settledItems items)
  | .obj members => .obj (ofMembers (settledMembers members))
  | j => j

/-- `settled` on each document of a list. -/
def settledItems : List Json → List Json
  | [] => []
  | j :: rest => j.settled :: settledItems rest

/-- `settled` on each name and value of members. -/
def settledMembers : List (String × Json) → List (String × Json)
  | [] => []
  | (name, j) :: rest =>
    (String.ofList (Text.joinHalves name.toList), j.settled) :: settledMembers rest

end

end Json

end Signpost
