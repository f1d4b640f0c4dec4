/-!
# Double-precision numbers

A number of the 64-bit binary format, held as what it means: a magnitude `mant * 2 ^ exp` in the one
form the format stores it in, a sign, the two infinities and the quiet not-a-number. Every operation
is exact rational arithmetic followed by one rounding, `ofRatio`, which takes the nearest number of
the format and an even magnitude on a tie. So each operation is correctly rounded because there is
nothing else it could be.
-/

namespace Signpost

namespace Binary64

/-- The form a magnitude is stored in: 53 bits with the leading one set, or the least exponent. -/
def Canonical (mant : Nat) (exp : Int) : Prop :=
  mant < 1 <<< 53 ∧ -1074 ≤ exp ∧ exp ≤ 971 ∧ (1 <<< 52 ≤ mant ∨ exp = -1074)

instance (mant : Nat) (exp : Int) : Decidable (Canonical mant exp) :=
  inferInstanceAs (Decidable (_ ∧ _ ∧ _ ∧ _))

end Binary64

/-- A number of the 64-bit binary format. -/
inductive Binary64
  | nan
  | infinite (negative : Bool)
  | finite (negative : Bool) (mant : Nat) (exp : Int) (canonical : Binary64.Canonical mant exp)
deriving DecidableEq

namespace Binary64

/-- Zero with a sign. -/
def zero (negative : Bool) : Binary64 :=
  .finite negative 0 (-1074) (by decide)

instance : Inhabited Binary64 :=
  ⟨zero false⟩

/-- A ratio of naturals, `num / den`. -/
structure Ratio where
  num : Nat
  den : Nat

/-- A ratio times a power of a base. -/
def Ratio.scale (r : Ratio) (base : Nat) (power : Int) : Ratio :=
  if 0 ≤ power then ⟨r.num * Nat.pow base power.toNat, r.den⟩
  else ⟨r.num, r.den * Nat.pow base (-power).toNat⟩

/-- The nearest natural, the even one on a tie. -/
def Ratio.nearestEven (r : Ratio) : Nat :=
  let whole := r.num / r.den
  let twice := 2 * (r.num % r.den)
  if twice < r.den then whole
  else if twice > r.den then whole + 1
  else if whole % 2 = 0 then whole
  else whole + 1

/-- The exponent of the greatest power of two that is at most a positive ratio. -/
def Ratio.log2 (r : Ratio) : Int :=
  let guess : Int := (r.num.log2 : Int) - r.den.log2
  let power := (⟨1, 1⟩ : Ratio).scale 2 guess
  if r.num * power.den < r.den * power.num then guess - 1 else guess

/-- The number with this magnitude, or the infinity beyond the greatest; a magnitude that rounding
carried to 54 bits is brought back to 53. -/
def assemble (negative : Bool) (mant : Nat) (exp : Int) : Binary64 :=
  if h : Canonical mant exp then .finite negative mant exp h
  else if h : Canonical (mant / 2) (exp + 1) then .finite negative (mant / 2) (exp + 1) h
  else .infinite negative

/-- The exponent at which a ratio is rounded: its leading bit keeps 52 more behind it. -/
def roundingExponent (r : Ratio) : Int :=
  if r.num = 0 then -1074 else max (-1074) (r.log2 - 52)

/-- The nearest number to a ratio with a positive denominator. -/
def ofRatio (negative : Bool) (r : Ratio) : Binary64 :=
  let exp := roundingExponent r
  assemble negative (r.scale 2 (-exp)).nearestEven exp

/-- The magnitude of a finite number as a ratio. -/
def magnitude (mant : Nat) (exp : Int) : Ratio :=
  (⟨mant, 1⟩ : Ratio).scale 2 exp

/-- The nearest number to an integer. -/
def ofInt (i : Int) : Binary64 :=
  ofRatio (i < 0) ⟨i.natAbs, 1⟩

/-- A number that is neither infinite nor not-a-number. -/
def isFinite : Binary64 → Bool
  | .finite .. => true
  | _ => false

/-- Zero of either sign. -/
def isZero : Binary64 → Bool
  | .finite _ mant _ _ => mant == 0
  | _ => false

/-- The integer a finite number is cut to, toward zero. -/
def truncate? : Binary64 → Option Int
  | .finite negative mant exp _ =>
    let r := magnitude mant exp
    let whole : Int := (r.num / r.den : Nat)
    some (if negative then -whole else whole)
  | _ => none

/-- The integer a finite number is, when it has no fraction. -/
def toInt? : Binary64 → Option Int
  | .finite negative mant exp _ =>
    let r := magnitude mant exp
    if r.num % r.den = 0 then
      let whole : Int := (r.num / r.den : Nat)
      some (if negative then -whole else whole)
    else none
  | _ => none

/-- A signed ratio, as exact arithmetic between two roundings passes it on. -/
def ofSignedRatio (num : Int) (den : Nat) : Binary64 :=
  ofRatio (num < 0) ⟨num.natAbs, den⟩

/-- The numerator of a finite number's ratio, with its sign. -/
def signedNum (negative : Bool) (mant : Nat) (exp : Int) : Int :=
  if negative then -((magnitude mant exp).num : Int) else (magnitude mant exp).num

/-- The number with the opposite sign. -/
def negated : Binary64 → Binary64
  | .nan => .nan
  | .infinite negative => .infinite (!negative)
  | .finite negative mant exp canonical => .finite (!negative) mant exp canonical

/-- The nearest number to `factor` times a number. -/
def timesNat (factor : Nat) : Binary64 → Binary64
  | .finite negative mant exp _ =>
    ofSignedRatio (factor * signedNum negative mant exp) (magnitude mant exp).den
  | x => x

/-- The nearest number to a half more than a number. -/
def plusHalf : Binary64 → Binary64
  | .finite negative mant exp _ =>
    let den := (magnitude mant exp).den
    ofSignedRatio (2 * signedNum negative mant exp + den) (2 * den)
  | x => x

/-- The greatest integer that is at most a finite number. -/
def floor? : Binary64 → Option Int
  | .finite negative mant exp _ =>
    some (Int.fdiv (signedNum negative mant exp) (magnitude mant exp).den)
  | _ => none

end Binary64

end Signpost
