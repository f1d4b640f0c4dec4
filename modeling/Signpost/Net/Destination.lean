import Signpost.Net.Url

/-!
# Public destinations

A redirect may lead only to a public host. `isSafeUrl` holds of an http or https URL whose host is
neither an internal name nor an address outside the public ranges, in whatever spelling a browser
would understand; what cannot be split into parts is not safe. `validateTarget` is the check that
destinations pass before they are stored.
-/

namespace Signpost.Net

/-- Text without the brackets at its ends. -/
def stripBrackets (s : List Char) : List Char :=
  Text.trimWhere (fun c => c == '[' || c == ']') s

/-- A text without one line break at its end. -/
def dropFinalBreak (s : List Char) : List Char :=
  if s.getLast? = some '\n' then s.dropLast else s

/-- A row of five groups of zeros, each of one to four digits, at the head of a text. -/
def zeroGroups? : Nat → List Char → Option (List Char)
  | 0, s => some s
  | n + 1, s =>
    let zeros := s.takeWhile (· == '0')
    match s.dropWhile (· == '0') with
    | ':' :: rest => if 1 ≤ zeros.length ∧ zeros.length ≤ 4 then zeroGroups? n rest else none
    | _ => none

/-- Four parts of one to three decimal digits of any script. -/
def isDottedDigits (s : List Char) : Bool :=
  let parts := Text.pieces '.' s
  parts.length == 4 &&
    parts.all fun p => 1 ≤ p.length && p.length ≤ 3 && p.all Text.isDecimal

/-- The dotted quad that a mapped address ends in, in its common spellings. -/
def mappedTail? (s : List Char) : Option (List Char) :=
  let afterZeros := match s with
    | ':' :: ':' :: rest => some rest
    | _ => zeroGroups? 5 s
  match afterZeros with
  | some ('f' :: 'f' :: 'f' :: 'f' :: ':' :: rest) =>
    if isDottedDigits (dropFinalBreak rest) then some (dropFinalBreak rest) else none
  | _ => none

/-- Whether a host is an address outside the public ranges. A numeric host that denotes no address
counts as one. -/
def isPrivateIp (host : List Char) : Bool :=
  let stripped := Text.lower (stripBrackets host)
  let clean := (mappedTail? stripped).getD stripped
  match Ipv4.ofDotted? clean with
  | some a => a.isNonPublic
  | none =>
    match Ipv6.ofText? clean with
    | some a =>
      match a.mapped? with
      | some v4 => v4.isNonPublic
      | none => a.isNonPublic
    | none =>
      let numeric := dropFinalBreak clean
      if Ipv4.isNumericHost numeric then
        match Ipv4.ofNumeric? numeric with
        | some a => a.isNonPublic
        | none => true
      else false

/-- Endings of the names of internal hosts. -/
def internalSuffixes : List String :=
  [".local", ".internal"]

/-- Texts that occur only in the names of internal hosts. -/
def internalPatterns : List String :=
  ["metadata", "metadata.google.internal", "metadata.google", "kubernetes.default"]

/-- Whether a host is internal by its name or its address. -/
def isInternalHost (hostname : List Char) : Bool :=
  let host := Text.trimRightWhere (· == '.') (Text.lower (stripBrackets hostname))
  host == "localhost".toList || ".localhost".toList.isSuffixOf host || isPrivateIp host ||
    internalSuffixes.any (fun suffix => suffix.toList.isSuffixOf host) ||
    internalPatterns.any (fun pattern => Text.occursIn pattern.toList host)

/-- Whether a text is an http or https URL with a public host. -/
def isSafeUrl (url : String) : Bool :=
  match Url.split? (Text.trim url.toList) with
  | none => false
  | some u =>
    (u.scheme == "http".toList || u.scheme == "https".toList) && !u.host.isEmpty &&
      !isInternalHost u.host

/-! ## Checking destinations -/

/-- Why a text may not be a destination. -/
inductive BadTarget
  | notUrl
  | internal
deriving DecidableEq, Repr

/-- The wording of a refusal. -/
def BadTarget.message : BadTarget → String
  | .notUrl => "Target URL must be a valid URL"
  | .internal =>
    "Target URL must be a public URL. Internal network addresses are not allowed."

/-- A letter of a scheme up to case; the long s is a form of s. -/
def isLetter (letter c : Char) : Bool :=
  Text.lowerChar c == [letter] || (letter == 's' && c.toNat == 0x17F)

/-- Whether a text starts with `http://` or `https://` in any case and goes on with a host. -/
def looksLikeUrl (s : List Char) : Bool :=
  match s with
  | h :: t1 :: t2 :: p :: rest =>
    let afterScheme := match rest with
      | c :: r => if isLetter 's' c then r else rest
      | [] => []
    isLetter 'h' h && isLetter 't' t1 && isLetter 't' t2 && isLetter 'p' p &&
      match afterScheme with
      | ':' :: '/' :: '/' :: c :: _ => !(Text.isBlank c || Url.endsAuthority c)
      | _ => false
  | _ => false

/-- The longest destination, in characters. -/
def maxTargetLength : Nat := 2048

/-- A destination without the blanks around it, if it is a public URL of bounded length. -/
def validateTarget (text : String) : Except BadTarget String :=
  let trimmed := Text.trim text.toList
  if trimmed.isEmpty || maxTargetLength < trimmed.length || !looksLikeUrl trimmed then
    .error .notUrl
  else if isSafeUrl (String.ofList trimmed) then .ok (String.ofList trimmed)
  else .error .internal

end Signpost.Net
