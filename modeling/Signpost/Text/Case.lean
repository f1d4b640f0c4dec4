import Signpost.Text.Case.Table

/-!
# Lower and upper case

Case conversion of whole texts. Inside ASCII it is the familiar shift by 32; outside, the table
answers. Upper case may lengthen a text, and lower case depends on the neighbours in one place: a
capital sigma becomes the final form after a cased character when none follows.
-/

namespace Signpost.Text

namespace Case

/-- Whether a character number lies in one of the ranges. -/
def inRanges (ranges : List (Nat × Nat)) (n : Nat) : Bool :=
  ranges.any fun (first, last) => first ≤ n && n ≤ last

/-- Whether the run moves this character. -/
def Run.moves (r : Run) (n : Nat) : Bool :=
  r.first ≤ n && n ≤ r.last && (n - r.first) % r.stride == 0

/-- The character that the runs send `n` to, `n` itself when no run moves it. -/
def shifted (runs : List Run) (n : Nat) : Nat :=
  match runs.find? (·.moves n) with
  | some r => (n + r.shift).toNat
  | none => n

/-- A character that has case. -/
def isCased (c : Char) : Bool :=
  inRanges casedRanges c.toNat

/-- A character passed over in search of a cased neighbour. -/
def isIgnorable (c : Char) : Bool :=
  inRanges ignorableRanges c.toNat

/-- Whether the nearest character that is not passed over has case. -/
def facesCased (side : List Char) : Bool :=
  match side.dropWhile isIgnorable with
  | c :: _ => isCased c
  | [] => false

end Case

/-- The lower case of a character away from its neighbours. -/
def lowerChar (c : Char) : List Char :=
  let n := c.toNat
  if n < 0x80 then [if 0x41 ≤ n ∧ n ≤ 0x5A then Char.ofNat (n + 32) else c]
  else if n = 0x130 then ['i', Char.ofNat 0x307]
  else [Char.ofNat (Case.shifted Case.lowerRuns n)]

/-- The upper case of a character. -/
def upperChar (c : Char) : List Char :=
  let n := c.toNat
  if n < 0x80 then [if 0x61 ≤ n ∧ n ≤ 0x7A then Char.ofNat (n - 32) else c]
  else match Case.upperExpansions.find? (·.1 == n) with
    | some (_, expansion) => expansion.map Char.ofNat
    | none => [Char.ofNat (Case.shifted Case.upperRuns n)]

/-- Lower case of the text that follows `before`, which is kept nearest first. -/
def lowerFrom (before : List Char) : List Char → List Char
  | [] => []
  | c :: after =>
    let here :=
      if c.toNat = 0x3A3 then
        let final := Case.facesCased before && !Case.facesCased after
        [Char.ofNat (if final then 0x3C2 else 0x3C3)]
      else lowerChar c
    here ++ lowerFrom (c :: before) after

/-- Lower case. -/
def lower (s : List Char) : List Char :=
  lowerFrom [] s

/-- Upper case. -/
def upper (s : List Char) : List Char :=
  s.flatMap upperChar

end Signpost.Text
