/-!
# Cutting text

Where a delimiter stands, and what lies on either side of it. Every cut loses exactly the delimiter
it is named for.
-/

namespace Signpost.Text

/-- The text before the first `d` and the text after it, `none` when there is no `d`. -/
def cutFirst (d : Char) : List Char → Option (List Char × List Char)
  | [] => none
  | c :: rest =>
    if c = d then some ([], rest)
    else (cutFirst d rest).map fun (before, after) => (c :: before, after)

/-- The text before the last `d` and the text after it, `none` when there is no `d`. -/
def cutLast (d : Char) : List Char → Option (List Char × List Char)
  | [] => none
  | c :: rest =>
    match cutLast d rest with
    | some (before, after) => some (c :: before, after)
    | none => if c = d then some ([], rest) else none

/-- The text before the first character of a class, and the text from it on. -/
def cutAt (stop : Char → Bool) (s : List Char) : List Char × List Char :=
  (s.takeWhile (! stop ·), s.dropWhile (! stop ·))

/-- The text after the last `d`, all of it when there is no `d`. -/
def afterLast (d : Char) (s : List Char) : List Char :=
  match cutLast d s with
  | some (_, after) => after
  | none => s

/-- The text before the first `d`, all of it when there is no `d`. -/
def beforeFirst (d : Char) (s : List Char) : List Char :=
  s.takeWhile (· != d)

/-- The pieces between one `d` and the next; a text without `d` is one piece. -/
def pieces (d : Char) : List Char → List (List Char)
  | [] => [[]]
  | c :: rest =>
    if c = d then [] :: pieces d rest
    else match pieces d rest with
      | first :: others => (c :: first) :: others
      | [] => [[c]]

/-- Whether a text stands somewhere inside another. -/
def occursIn (part : List Char) : List Char → Bool
  | [] => part.isEmpty
  | c :: rest => part.isPrefixOf (c :: rest) || occursIn part rest

/-- The text with every occurrence of a non-empty part replaced, from the left. -/
def replaceAll (part new : List Char) (s : List Char) : List Char :=
  go s.length s
where
  /-- Replaces within the next `fuel` steps, each of which passes at least one character. -/
  go : Nat → List Char → List Char
    | _, [] => []
    | 0, s => s
    | fuel + 1, c :: rest =>
      if !part.isEmpty && part.isPrefixOf (c :: rest) then
        new ++ go fuel ((c :: rest).drop part.length)
      else c :: go fuel rest

/-- The pieces joined with a separator between them. -/
def joinWith (separator : List Char) : List (List Char) → List Char
  | [] => []
  | [p] => p
  | p :: rest => p ++ separator ++ joinWith separator rest

end Signpost.Text
