import Signpost.Binary64.Basic

/-!
# The text of a double-precision number

A finite number is written with the fewest decimal digits that read back as the same number and, of
those, the ones nearest to it. `shortest` looks for them on grids of one, two, … seventeen digits;
should none be hit, the exact decimal expansion stands in, so what is written always reads back.
The text is positional from 10⁻⁴ up to 10¹⁶ and has an exponent of at least two digits outside.
-/

namespace Signpost.Binary64

/-- A decimal magnitude `coef * 10 ^ exp`. -/
structure Decimal where
  coef : Nat
  exp : Int

/-- The decimal digits of a natural. -/
def digitsOf (n : Nat) : List Char :=
  Nat.toDigits 10 n

/-- The number nearest to a decimal. Exponents far outside the format are settled by size alone. -/
def ofDecimal (negative : Bool) (d : Decimal) : Binary64 :=
  if d.coef = 0 then zero negative
  else
    let places : Int := d.exp + (digitsOf d.coef).length
    if places > 400 then .infinite negative
    else if places < -400 then zero negative
    else ofRatio negative ((⟨d.coef, 1⟩ : Ratio).scale 10 d.exp)

/-- The exponent of the greatest power of ten that is at most a positive ratio. -/
def Ratio.log10 (r : Ratio) : Int :=
  if r.den ≤ r.num then ((digitsOf (r.num / r.den)).length : Int) - 1
  else -((digitsOf ((r.den + r.num - 1) / r.num - 1)).length : Int)

/-- The decimal of `digits` digits that is nearest to a magnitude, if it reads back as it. -/
def nearestOnGrid? (mant : Nat) (exp : Int) (x : Binary64) (digits : Nat) : Option Decimal :=
  let r := magnitude mant exp
  let unit := r.log10 - digits + 1
  let s := r.scale 10 (-unit)
  let below : Decimal := ⟨s.num / s.den, unit⟩
  let above : Decimal := ⟨s.num / s.den + 1, unit⟩
  let twice := 2 * (s.num % s.den)
  let aboveIsNearer := twice > s.den || (twice == s.den && below.coef % 2 == 1)
  let (near, far) := if aboveIsNearer then (above, below) else (below, above)
  if ofDecimal false near = x then some near
  else if ofDecimal false far = x then some far
  else none

/-- A magnitude written out in full. -/
def expansion (mant : Nat) (exp : Int) : Decimal :=
  if 0 ≤ exp then ⟨mant * Nat.pow 2 exp.toNat, 0⟩
  else ⟨mant * Nat.pow 5 (-exp).toNat, exp⟩

/-- The shortest decimal that reads back as the finite number of a magnitude. -/
def shortest (mant : Nat) (exp : Int) (h : Canonical mant exp) : Decimal :=
  let x := Binary64.finite false mant exp h
  (((List.range 17).map (· + 1)).findSome? (nearestOnGrid? mant exp x)).getD (expansion mant exp)

/-- An exponent's text: a sign and at least two digits. -/
def exponentText (e : Int) : List Char :=
  let digits := digitsOf e.natAbs
  (if e < 0 then '-' else '+') :: (if digits.length < 2 then '0' :: digits else digits)

/-- A decimal's text. -/
def Decimal.text (d : Decimal) : List Char :=
  let all := digitsOf d.coef
  let point : Int := d.exp + all.length
  let kept := (all.reverse.dropWhile (· == '0')).reverse
  if d.coef = 0 then ['0', '.', '0']
  else if -4 < point ∧ point ≤ 0 then
    ['0', '.'] ++ List.replicate (-point).toNat '0' ++ kept
  else if 0 < point ∧ point ≤ 16 then
    let places := point.toNat
    let whole := kept.take places ++ List.replicate (places - kept.length) '0'
    let fraction := kept.drop places
    whole ++ ['.'] ++ (if fraction.isEmpty then ['0'] else fraction)
  else
    let fraction := kept.drop 1
    kept.take 1 ++ (if fraction.isEmpty then [] else '.' :: fraction) ++ 'e' ::
      exponentText (point - 1)

/-- The text of a number, with the given names for what is not finite. -/
def textWith (nanName infinityName : String) : Binary64 → List Char
  | .nan => nanName.toList
  | .infinite negative => (if negative then ['-'] else []) ++ infinityName.toList
  | .finite negative mant exp h =>
    (if negative then ['-'] else []) ++
      (if mant = 0 then ['0', '.', '0'] else (shortest mant exp h).text)

/-- The text of a number in a message. -/
def text (x : Binary64) : String :=
  String.ofList (textWith "nan" "inf" x)

end Signpost.Binary64
