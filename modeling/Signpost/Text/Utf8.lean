/-!
# Characters as octets

The octets of a character, and the readings of octets: `decodeUtf8?` refuses an ill-formed
sequence, `decodeUtf8Lossy` puts a replacement character in the place of each longest ill-formed
piece, and `units16` and `units32` read units of two or four octets. The readings of single octets
go through `Utf8.step`, which reads one character or tells how many octets of a broken one belong
together.

Half a surrogate pair is no character, but documents may spell one. It is kept as a character of a
private range, U+10F000 to U+10F7FF; `isWellFormed` finds texts that hold one, which have no octets.
The two halves of a pair whose character would lie in that range are kept as they are. So texts that
hold one of these 2048 characters as itself have no place here: wherever one comes from, it is taken
for the half that it stands for.
-/

namespace Signpost.Text

/-- The first of the private-use characters that stand for halves of surrogate pairs. -/
def halfBase : Nat := 0x10F000

/-- The character with a number, or the one that stands for half a surrogate pair. -/
def scalar (n : Nat) : Char :=
  if 0xD800 ≤ n ∧ n ≤ 0xDFFF then Char.ofNat (halfBase + (n - 0xD800)) else Char.ofNat n

/-- The half of a surrogate pair that a character stands for. -/
def half? (c : Char) : Option Nat :=
  if halfBase ≤ c.toNat ∧ c.toNat < halfBase + 0x800 then some (0xD800 + (c.toNat - halfBase))
  else none

/-- The character of a surrogate pair. A pair whose character stands for a half stays two halves. -/
def joined? (high low : Nat) : Option Char :=
  if 0xD800 ≤ high ∧ high ≤ 0xDBFF ∧ 0xDC00 ≤ low ∧ low ≤ 0xDFFF then
    let c := Char.ofNat (0x10000 + (high - 0xD800) * 1024 + (low - 0xDC00))
    if (half? c).isSome then none else some c
  else none

/-- A text in which each two halves that stand side by side and make a surrogate pair are the one
character of the pair. -/
def joinHalves : List Char → List Char
  | c :: d :: rest =>
    match (half? c).bind fun high => (half? d).bind (joined? high) with
    | some x => x :: joinHalves rest
    | none => c :: joinHalves (d :: rest)
  | s => s

/-- The text of octets that are ASCII characters. -/
def asciiText? (bytes : List UInt8) : Option (List Char) :=
  if bytes.all (·.toNat < 0x80) then some (bytes.map fun b => Char.ofNat b.toNat) else none

/-- Whether a text holds no half of a surrogate pair. -/
def isWellFormed (s : List Char) : Bool :=
  s.all fun c => (half? c).isNone

namespace Utf8

/-- The octets of a character. -/
def encodeChar (c : Char) : List UInt8 :=
  let n := c.toNat
  let unit (k : Nat) : UInt8 := UInt8.ofNat k
  if n < 0x80 then [unit n]
  else if n < 0x800 then [unit (0xC0 + n / 64), unit (0x80 + n % 64)]
  else if n < 0x10000 then
    [unit (0xE0 + n / 4096), unit (0x80 + n / 64 % 64), unit (0x80 + n % 64)]
  else
    [unit (0xF0 + n / 262144), unit (0x80 + n / 4096 % 64), unit (0x80 + n / 64 % 64),
      unit (0x80 + n % 64)]

/-- The continuation octets a lead octet asks for: how many, and the bounds of the first. The
bounds leave out the halves of surrogate pairs unless `halves` lets them pass. -/
def lead? (halves : Bool) (b : Nat) : Option (Nat × Nat × Nat) :=
  if 0xC2 ≤ b ∧ b ≤ 0xDF then some (1, 0x80, 0xBF)
  else if b = 0xE0 then some (2, 0xA0, 0xBF)
  else if b = 0xED then some (2, 0x80, if halves then 0xBF else 0x9F)
  else if 0xE1 ≤ b ∧ b ≤ 0xEF then some (2, 0x80, 0xBF)
  else if b = 0xF0 then some (3, 0x90, 0xBF)
  else if b = 0xF4 then some (3, 0x80, 0x8F)
  else if 0xF1 ≤ b ∧ b ≤ 0xF3 then some (3, 0x80, 0xBF)
  else none

/-- Reads `count` continuation octets, the first within the bounds; `taken` counts those read. -/
def follow (lo hi value taken : Nat) : Nat → List UInt8 → Except Nat (Nat × Nat)
  | 0, _ => .ok (value, taken)
  | _ + 1, [] => .error taken
  | count + 1, b :: rest =>
    if lo ≤ b.toNat ∧ b.toNat ≤ hi then
      follow 0x80 0xBF (value * 64 + b.toNat % 64) (taken + 1) count rest
    else .error taken

/-- One character with the number of octets it took, or the length of an ill-formed piece. -/
def step (halves : Bool) (b : UInt8) (rest : List UInt8) : Except Nat (Char × Nat) :=
  if b.toNat < 0x80 then .ok (Char.ofNat b.toNat, 1)
  else match lead? halves b.toNat with
    | none => .error 1
    | some (count, lo, hi) =>
      let bits := b.toNat % (if count = 1 then 32 else if count = 2 then 16 else 8)
      (follow lo hi bits 1 count rest).map fun (value, taken) => (scalar value, taken)

end Utf8

/-- The octets of a text. -/
def encodeUtf8 (s : List Char) : List UInt8 :=
  s.flatMap Utf8.encodeChar

/-- Reads octets, with `repair` in the place of each ill-formed piece, or fails without one. -/
def decodeUtf8With (halves : Bool) (repair : Option Char) : List UInt8 → Option (List Char)
  | [] => some []
  | b :: rest =>
    match Utf8.step halves b rest with
    | .ok (c, taken) => (decodeUtf8With halves repair (rest.drop (taken - 1))).map (c :: ·)
    | .error taken =>
      match repair with
      | none => none
      | some r => (decodeUtf8With halves repair (rest.drop (taken - 1))).map (r :: ·)
termination_by bytes => bytes.length
decreasing_by all_goals simp only [List.length_cons, List.length_drop]; omega

/-- The text of well-formed octets. -/
def decodeUtf8? (bytes : List UInt8) : Option (List Char) :=
  decodeUtf8With false none bytes

/-- The text of octets that are well-formed but for halves of surrogate pairs. -/
def decodeUtf8Halves? (bytes : List UInt8) : Option (List Char) :=
  decodeUtf8With true none bytes

/-- The text of any octets, U+FFFD standing for what is ill-formed. -/
def decodeUtf8Lossy (bytes : List UInt8) : List Char :=
  (decodeUtf8With false (some (Char.ofNat 0xFFFD)) bytes).getD []

/-- How octets fail to write a text. -/
inductive IllFormedCause
  | start
  | continuation
  | ending
deriving DecidableEq, Repr

/-- The first ill-formed piece of octets: where it starts, its octets, and what is wrong. -/
structure IllFormed where
  position : Nat
  piece : List UInt8
  cause : IllFormedCause
deriving DecidableEq, Repr

/-- The first ill-formed piece of octets that stand from a position on. -/
def illFormedFrom (position : Nat) : List UInt8 → Option IllFormed
  | [] => none
  | b :: rest =>
    match Utf8.step false b rest with
    | .ok (_, taken) => illFormedFrom (position + taken) (rest.drop (taken - 1))
    | .error taken =>
      let cause := if (Utf8.lead? false b.toNat).isNone then .start
        else if (rest.drop (taken - 1)).isEmpty then .ending else .continuation
      some ⟨position, (b :: rest).take taken, cause⟩
termination_by bytes => bytes.length
decreasing_by simp only [List.length_cons, List.length_drop]; omega

/-- The first ill-formed piece of octets. -/
def illFormed? (bytes : List UInt8) : Option IllFormed :=
  illFormedFrom 0 bytes

/-- The numbers written in units of two octets, `none` when an octet is left over. -/
def units16 (bigEndian : Bool) : List UInt8 → Option (List Nat)
  | [] => some []
  | [_] => none
  | a :: b :: rest =>
    let unit := if bigEndian then a.toNat * 256 + b.toNat else b.toNat * 256 + a.toNat
    (units16 bigEndian rest).map (unit :: ·)

/-- The numbers written in units of four octets, `none` when octets are left over. -/
def units32 (bigEndian : Bool) : List UInt8 → Option (List Nat)
  | [] => some []
  | a :: b :: c :: d :: rest =>
    let (a, b, c, d) := if bigEndian then (d, c, b, a) else (a, b, c, d)
    let unit := a.toNat + 256 * (b.toNat + 256 * (c.toNat + 256 * d.toNat))
    (units32 bigEndian rest).map (unit :: ·)
  | _ => none

/-- Characters from 16-bit units, two surrogates making one character. -/
def joinSurrogates : List Nat → List Char
  | [] => []
  | [u] => [scalar u]
  | u :: v :: rest =>
    match joined? u v with
    | some c => c :: joinSurrogates rest
    | none => scalar u :: joinSurrogates (v :: rest)

end Signpost.Text
