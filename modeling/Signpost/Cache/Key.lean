import Signpost.Json.Printer

/-!
# Keys of the cache

An entry is named by its kind and by what it belongs to. What it belongs to is a number or a text,
but the text of any document can stand in a key: a text as it is, and within another document
between quotes.
-/

namespace Signpost.Cache

mutual

/-- The text of a document that is part of another in a key. -/
def partText : Json → List Char
  | .null => "None".toList
  | .bool true => "True".toList
  | .bool false => "False".toList
  | .int i => Json.intText i
  | .float x => x.text.toList
  | .str s => Text.quoted s.toList
  | .octets bytes => Text.quotedOctets bytes
  | .arr [] => ['[', ']']
  | .arr (j :: rest) => '[' :: partText j ++ itemsText rest
  | .obj [] => ['\x7b', '\x7d']
  | .obj ((name, j) :: rest) =>
    '\x7b' :: Text.quoted name.toList ++ ':' :: ' ' :: partText j ++ membersText rest

/-- The text of a list after its first item. -/
def itemsText : List Json → List Char
  | [] => [']']
  | j :: rest => ',' :: ' ' :: partText j ++ itemsText rest

/-- The text of an object after its first member. -/
def membersText : List (String × Json) → List Char
  | [] => ['\x7d']
  | (name, j) :: rest =>
    ',' :: ' ' :: Text.quoted name.toList ++ ':' :: ' ' :: partText j ++ membersText rest

end

/-- The text of a document in a key. -/
def keyText : Json → String
  | .str s => s
  | j => String.ofList (partText j)

/-- The key of a link's active rules. -/
def rulesKey (linkId : String) : String :=
  "routing:" ++ linkId

/-- The key of a link by its slug. -/
def slugKey (slug : String) : String :=
  "url:slug:" ++ slug

end Signpost.Cache
