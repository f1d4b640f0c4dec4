import Mathlib
import Signpost.Store.Database

/-!
# Counts of a row

A count that outgrows its place in a row is kept in double precision from
then on. Such a number is never taken for a count again: it has at least 53
bits before its point, rounding takes nothing from the leading one, and so it
is still too large to be read as an integer. A count passes its check when it
has its place and only then.
-/

namespace Signpost

namespace Binary64

theorem log2_integer {n : Nat} (h : n ≠ 0) :
    (⟨n, 1⟩ : Ratio).log2 = n.log2 := by
  have hle : 2 ^ n.log2 ≤ n := Nat.log2_self_le h
  have hone : Nat.log2 1 = 0 := rfl
  rw [Ratio.log2]
  simp only [hone, Int.natCast_zero, Int.sub_zero, Ratio.scale,
    Int.natCast_nonneg, if_true, Int.toNat_natCast, Nat.one_mul, Nat.mul_one]
  exact if_neg (Nat.not_lt.mpr hle)

theorem le_nearestEven (r : Ratio) : r.num / r.den ≤ r.nearestEven := by
  rw [Ratio.nearestEven]
  split_ifs <;> omega

theorem toInt?_of_large {negative : Bool} {mant : Nat} {exp n : Int}
    {canonical : Canonical mant exp} (hmant : 2 ^ 52 ≤ mant) (hexp : 11 ≤ exp)
    (h : (finite negative mant exp canonical).toInt? = some n) :
    2 ^ 63 ≤ n.natAbs := by
  obtain ⟨e, rfl⟩ := Int.eq_ofNat_of_zero_le (by omega : 0 ≤ exp)
  have hlarge : 2 ^ 52 * 2 ^ 11 ≤ mant * 2 ^ e :=
    Nat.mul_le_mul hmant (Nat.pow_le_pow_right (by omega) (by omega))
  have hmagnitude : magnitude mant e = ⟨mant * 2 ^ e, 1⟩ := by
    rw [magnitude, Ratio.scale, if_pos (Int.natCast_nonneg e),
      Int.toNat_natCast]
    rfl
  rw [toInt?, hmagnitude] at h
  simp only [Nat.mod_one, if_true, Nat.div_one, Option.some.injEq] at h
  generalize mant * 2 ^ e = whole at hlarge h
  split at h <;> omega

/-- Rounding to 53 bits takes no integer below a power of two that it had
reached. -/
theorem toInt?_ofInt {i n : Int} (hi : 2 ^ 63 ≤ i.natAbs)
    (h : (ofInt i).toInt? = some n) : 2 ^ 63 ≤ n.natAbs := by
  have hne : i.natAbs ≠ 0 := by omega
  have hlog : 63 ≤ i.natAbs.log2 := (Nat.le_log2 hne).mpr hi
  obtain ⟨e, he⟩ := Nat.exists_eq_add_of_le' (Nat.le_trans (by omega) hlog :
    52 ≤ i.natAbs.log2)
  have hexp : roundingExponent ⟨i.natAbs, 1⟩ = e := by
    rw [roundingExponent, if_neg hne, log2_integer hne]
    omega
  have hmant : 2 ^ 52 ≤
      ((⟨i.natAbs, 1⟩ : Ratio).scale 2 (-e)).nearestEven := by
    have hscale : (⟨i.natAbs, 1⟩ : Ratio).scale 2 (-e) =
        ⟨i.natAbs, 2 ^ e⟩ := by
      rw [Ratio.scale, if_neg (by omega), Int.neg_neg, Int.toNat_natCast,
        Nat.one_mul]
      rfl
    have hle : 2 ^ (e + 52) ≤ i.natAbs := he ▸ Nat.log2_self_le hne
    rw [hscale]
    refine Nat.le_trans ?_ (le_nearestEven _)
    rw [Nat.le_div_iff_mul_le (Nat.two_pow_pos e), ← Nat.pow_add,
      Nat.add_comm]
    exact hle
  rw [ofInt, ofRatio, hexp, assemble] at h
  split at h
  · exact toInt?_of_large hmant (by omega) h
  · split at h
    · next hc =>
        have hhalf := hc.2.2.2
        rw [Nat.shiftLeft_eq, Nat.one_mul] at hhalf
        exact toInt?_of_large (hhalf.resolve_right (by omega)) (by omega) h
    · cases h

end Binary64

namespace Rule

theorem checked_of_hasPlace {r : Rule} (h : hasPlace r.matchCount = true) :
    r.checked = .passed r := by
  rw [checked, rowCount, if_pos h]
  rfl

/-- A rule whose count is still a number has a count with a place. -/
theorem hasPlace_of_checked {r r' : Rule} (h : r.checked = .passed r') :
    hasPlace r.matchCount = true := by
  by_contra hno
  have hlarge : 2 ^ 63 ≤ r.matchCount.natAbs := by
    rw [hasPlace, Bool.and_eq_true, decide_eq_true_eq, decide_eq_true_eq,
      numberLimit] at hno
    omega
  obtain ⟨n, hn, -⟩ := Check.Checked.map_eq_passed.mp h
  rw [rowCount, if_neg hno] at hn
  dsimp only [Check.integer] at hn
  split at hn
  · cases hn
  · split at hn
    · cases hn
    · next i hi =>
        have hfound := Binary64.toInt?_ofInt hlarge hi
        rw [if_neg] at hn
        · cases hn
        · rw [Check.wholeLimit]
          omega

end Rule

/-- Counts that have a place, with a sum that has one, are summed as they
are. -/
theorem sumCounts_of_hasPlace {a b : Int} (ha : hasPlace a = true)
    (hsum : hasPlace (a + b) = true) : sumCounts a b = a + b := by
  rw [sumCounts, ha, hsum]
  rfl

/-- Every count has its place. -/
def Database.HoldsCounts (d : Database) : Prop :=
  ∀ r ∈ d.rules, hasPlace r.matchCount = true

end Signpost
