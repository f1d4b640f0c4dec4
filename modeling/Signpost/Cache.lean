import Signpost.Cache.Key
import Signpost.Json.Octets

/-!
# The cache

A store of JSON documents by key, each with a time to live or none. A cache that is turned off or
fails answers nothing and keeps nothing: reading it is a miss and writing it has no effect, so that
no redirect ever fails for its sake. What lies under a key may be anything; an entry that is no JSON
text is a miss, and so is the document null. Only a document that is nested too deep to be read is
neither.

The client that asks for an entry hands it over as it lies there, or decodes it first. One that
decodes gives nothing but texts, and fails where octets are no UTF-8.
-/

namespace Signpost

/-- What lies under a key. -/
inductive Cache.Raw
  | text (s : String)
  | octets (bytes : List UInt8)
  | other (j : Json)

/-- Why an entry that is there cannot be had, not even as a miss. -/
inductive Cache.Unreadable
  | tooDeep (nest : Json.Nest)
  | illFormed (d : Text.IllFormed)
deriving DecidableEq, Repr

/-- Entries by key, in the order in which the keys were first used. -/
structure Cache where
  enabled : Bool
  broken : Bool
  /-- Whether the client decodes what it hands over. -/
  decodes : Bool
  entries : List (String × Cache.Raw × Option Int)

namespace Cache

/-- A cache without entries. -/
def empty (enabled decodes : Bool) : Cache :=
  ⟨enabled, false, decodes, []⟩

/-- What a client that decodes hands over: octets as the text that they write. -/
def Raw.decoded : Raw → Except Text.IllFormed Raw
  | octets bytes =>
    match Text.illFormed? bytes with
    | some d => .error d
    | none => .ok (text (String.ofList (Text.decodeUtf8Lossy bytes)))
  | raw => .ok raw

/-- The document that an entry writes, null for one that writes none. -/
def Raw.document : Raw → Except Json.Nest Json
  | text s => Json.orNull (Json.read s.toList)
  | octets bytes => Json.orNull (Json.readOctets bytes)
  | other _ => .ok .null

/-- The document that an entry gives by way of a client. -/
def Raw.read (decodes : Bool) (raw : Raw) : Except Unreadable Json := do
  let handed ← if decodes then raw.decoded.mapError .illFormed else .ok raw
  handed.document.mapError .tooDeep

/-- A document that is not null. -/
def notNull : Json → Option Json
  | .null => none
  | j => some j

/-- Whether the cache answers. -/
def isUp (c : Cache) : Bool :=
  c.enabled && !c.broken

/-- The document under a key. -/
def get (c : Cache) (key : String) : Except Unreadable (Option Json) :=
  match c.entries.find? (·.1 == key) with
  | some (_, raw, _) => if c.isUp then (raw.read c.decodes).map notNull else .ok none
  | none => .ok none

/-- Entries with one key's entry replaced, or added at the end. -/
def store (key : String) (raw : Raw) (ttl : Option Int) :
    List (String × Raw × Option Int) → List (String × Raw × Option Int)
  | [] => [(key, raw, ttl)]
  | (k, r, t) :: rest =>
    if k = key then (k, raw, ttl) :: rest else (k, r, t) :: store key raw ttl rest

/-- The cache with something put under a key behind its back. -/
def putRaw (c : Cache) (key : String) (raw : Raw) : Cache :=
  { c with entries := store key raw none c.entries }

/-- The cache with a document under a key; a time to live of zero is none. -/
def set (c : Cache) (key : String) (value : Json) (ttl : Option Int) : Cache :=
  if c.isUp then
    { c with entries := store key (.text value.write) (ttl.filter (· != 0)) c.entries }
  else c

/-- The cache without some keys. -/
def delete (c : Cache) (keys : List String) : Cache :=
  if c.isUp then { c with entries := c.entries.filter fun (k, _, _) => !keys.contains k } else c

end Cache

end Signpost
