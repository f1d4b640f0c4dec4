import Signpost.Net.Ipv6
import Signpost.Text.Blank
import Signpost.Text.Case

/-!
# Splitting URLs

A URL is split into its scheme and its authority, the part between `//` and the first `/`, `?` or
`#`; the rest is of no concern here. `Url.split?` fails where the authority is not well formed: with
brackets that do not enclose an IPv6 address, or with a character whose compatibility form would
bring in a delimiter.
-/

namespace Signpost.Net

/-- The parts of a URL that say where it leads. -/
structure Url where
  scheme : List Char
  authority : List Char
deriving DecidableEq, Repr

namespace Url

/-- A character of a scheme. -/
def isSchemeChar (c : Char) : Bool :=
  c.isAlphanum || c == '+' || c == '-' || c == '.'

/-- Text without control characters and spaces at its head, and without line breaks and tabs. -/
def clean (s : List Char) : List Char :=
  (s.dropWhile (·.toNat ≤ 0x20)).filter fun c => !(c == '\t' || c == '\r' || c == '\n')

/-- The scheme in lower case and the text after its colon; no scheme is the empty one. -/
def splitScheme (s : List Char) : List Char × List Char :=
  match Text.cutFirst ':' s with
  | some (first :: before, after) =>
    if first.isAlpha && (first :: before).all isSchemeChar then
      (Text.lower (first :: before), after)
    else ([], s)
  | _ => ([], s)

/-- The end of an authority. -/
def endsAuthority (c : Char) : Bool :=
  c == '/' || c == '?' || c == '#'

/-- The authority of the text after a scheme. -/
def authorityOf : List Char → List Char
  | '/' :: '/' :: rest => rest.takeWhile (! endsAuthority ·)
  | _ => []

/-- Characters whose compatibility form holds one of the delimiters `/`, `?`, `#`, `@` and `:`. -/
def hidesDelimiter (c : Char) : Bool :=
  let n := c.toNat
  (0x2047 ≤ n && n ≤ 0x2049) || n == 0x2100 || n == 0x2101 || n == 0x2105 || n == 0x2106 ||
    n == 0x2A74 || n == 0xFE13 || n == 0xFE16 || n == 0xFE55 || n == 0xFE56 || n == 0xFE5F ||
    n == 0xFE6B || n == 0xFF03 || n == 0xFF0F || n == 0xFF1A || n == 0xFF1F || n == 0xFF20

/-- A text that may stand between brackets: a future address form or an IPv6 address. -/
def isBracketed (s : List Char) : Bool :=
  match s with
  | 'v' :: rest =>
    match Text.cutFirst '.' rest with
    | some (version, address) =>
      !version.isEmpty && version.all (fun c => (Text.hexValue? c).isSome) && !address.isEmpty
    | none => false
  | _ => (Ipv6.ofText? s).isSome

/-- Whether the brackets of an authority that has both stand where a host's brackets do. -/
def bracketsEncloseHost (authority : List Char) : Bool :=
  let hostAndPort := Text.afterLast '@' authority
  match Text.cutFirst '[' hostAndPort with
  | some (before, bracketed) =>
    let (host, port) := (Text.cutFirst ']' bracketed).getD (bracketed, [])
    before.isEmpty && (port.isEmpty || port.head? == some ':') && isBracketed host
  | none => isBracketed (Text.beforeFirst ':' hostAndPort)

/-- Whether an authority is well formed. -/
def isAuthority (authority : List Char) : Bool :=
  let opens := authority.contains '['
  let closes := authority.contains ']'
  opens == closes && (!opens || bracketsEncloseHost authority) && !authority.any hidesDelimiter

/-- The parts of a URL, unless its authority is not well formed. -/
def split? (s : List Char) : Option Url :=
  let (scheme, rest) := splitScheme (clean s)
  let authority := authorityOf rest
  if isAuthority authority then some ⟨scheme, authority⟩ else none

/-- A host in lower case, its scope left as it is. -/
def lowerHost (s : List Char) : List Char :=
  match Text.cutFirst '%' s with
  | some (host, scope) => Text.lower host ++ '%' :: scope
  | none => Text.lower s

/-- The host of a URL: after the last `@`, between the brackets or else before the first colon. -/
def host (u : Url) : List Char :=
  let hostAndPort := Text.afterLast '@' u.authority
  match Text.cutFirst '[' hostAndPort with
  | some (_, bracketed) => lowerHost (Text.beforeFirst ']' bracketed)
  | none => lowerHost (Text.beforeFirst ':' hostAndPort)

end Url

end Signpost.Net
