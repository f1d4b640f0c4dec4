import Signpost.Binary64.Basic

/-!
# Shares of the traffic

The share of a link's matches that one rule took, in percent with one decimal, a half rounded up. It
is computed in double precision, one rounding at each step; counts are exact, but a share can also
be taken of numbers in double precision.
-/

namespace Signpost.Share

/-- Why a share cannot be computed in double precision. -/
inductive Overflow
  | ratio
  | rounding
  | notNumber
deriving DecidableEq, Repr

/-- The wording of an overflow. -/
def Overflow.message : Overflow → String
  | .ratio => "integer division result too large for a float"
  | .rounding => "cannot convert float infinity to integer"
  | .notNumber => "cannot convert float NaN to integer"

/-- The percentage of a ratio in double precision. -/
def ofRatio (ratio : Binary64) : Except Overflow Binary64 :=
  match ((ratio.timesNat 1000).plusHalf) with
  | .nan => .error .notNumber
  | scaled => match scaled.floor? with
    | some tenths => .ok (.ofSignedRatio tenths 10)
    | none => .error .rounding

/-- The share of `count` in `total` in percent; without a positive total there is none. -/
def percentage (count total : Int) : Except Overflow (Option Binary64) :=
  if total ≤ 0 then .ok none
  else
    let ratio := Binary64.ofSignedRatio count total.toNat
    if !ratio.isFinite then .error .ratio else (ofRatio ratio).map some

/-- The share of one number in another in percent; without a positive total there is none. -/
def percentageOf (count total : Binary64) : Except Overflow (Option Binary64) :=
  match count, total with
  | _, .infinite true => .ok none
  | .finite .., .infinite false => .ok (some (.zero false))
  | .finite n m e _, .finite n' m' e' _ =>
    if n' || m' == 0 then .ok none
    else
      let num := Binary64.signedNum n m e * (Binary64.magnitude m' e').den
      let den := (Binary64.magnitude m e).den * (Binary64.magnitude m' e').num
      (ofRatio (.ofSignedRatio num den)).map some
  | .infinite _, .finite n' m' .. => if n' || m' == 0 then .ok none else .error .rounding
  | .nan, .finite n' m' .. => if n' || m' == 0 then .ok none else .error .notNumber
  | _, _ => .error .notNumber

end Signpost.Share
