import Mathlib
import Signpost.Proofs.RowCounts
import Signpost.Binary64.Shortest

/-!
# What a decimal is rounded to

Nothing hangs on how a ratio is written: two ratios of one value have the same
leading bit, the same nearest natural and the same nearest number. So a
decimal may lose its trailing zeros, or take some, and is rounded as before.

A number of the format is what its own magnitude is rounded to. Written out
in full it is therefore read as itself, and a shorter decimal is taken for it
only after it was tried; so the shortest decimal of a number is read as it.
-/

namespace Signpost

namespace Binary64

namespace Ratio

variable {r s : Ratio} {base : Nat} {power : Int}

/-- The number that a ratio is. -/
def value (r : Ratio) : ℚ :=
  r.num / r.den

theorem den_scale_pos (h : 0 < r.den) (hbase : 0 < base) :
    0 < (r.scale base power).den := by
  rw [scale]
  split
  · exact h
  · exact Nat.mul_pos h (Nat.pow_pos hbase)

theorem value_scale :
    (r.scale base power).value = r.value * (base : ℚ) ^ power := by
  obtain hpower | hpower := le_or_gt 0 power
  · obtain ⟨n, rfl⟩ := Int.eq_ofNat_of_zero_le hpower
    rw [scale, if_pos hpower, value, value, Int.toNat_natCast, zpow_natCast,
      div_mul_eq_mul_div, ← Nat.cast_pow, ← Nat.cast_mul]
    rfl
  · obtain ⟨n, hn⟩ := Int.eq_ofNat_of_zero_le (by omega : 0 ≤ -power)
    rw [scale, if_neg (by omega), value, value, hn, Int.toNat_natCast,
      ← neg_neg power, hn, zpow_neg, zpow_natCast, ← div_eq_mul_inv, div_div,
      ← Nat.cast_pow, ← Nat.cast_mul]
    rfl

theorem value_pos_iff (h : 0 < r.den) : 0 < r.value ↔ 0 < r.num := by
  have hden : (0 : ℚ) < r.den := by exact_mod_cast h
  rw [value, div_pos_iff_of_pos_right hden, Nat.cast_pos]

theorem value_eq_iff (hr : 0 < r.den) (hs : 0 < s.den) :
    r.value = s.value ↔ r.num * s.den = s.num * r.den := by
  have hr' : (r.den : ℚ) ≠ 0 := by exact_mod_cast hr.ne'
  have hs' : (s.den : ℚ) ≠ 0 := by exact_mod_cast hs.ne'
  rw [value, value, div_eq_div_iff hr' hs']
  exact_mod_cast Iff.rfl

/-! ## The nearest natural -/

theorem nearestEven_mul {num den k : Nat} (hk : 0 < k) :
    (⟨k * num, k * den⟩ : Ratio).nearestEven =
      (⟨num, den⟩ : Ratio).nearestEven := by
  have htwice : 2 * (k * (num % den)) = k * (2 * (num % den)) :=
    Nat.mul_left_comm 2 k _
  simp only [nearestEven, Nat.mul_div_mul_left _ _ hk, Nat.mul_mod_mul_left,
    htwice, gt_iff_lt, Nat.mul_lt_mul_left hk]

/-- Both ratios are brought to the product of their denominators. -/
theorem nearestEven_congr (hr : 0 < r.den) (hs : 0 < s.den)
    (h : r.value = s.value) : r.nearestEven = s.nearestEven := by
  have hcross := (value_eq_iff hr hs).mp h
  calc r.nearestEven
    _ = (⟨s.den * r.num, s.den * r.den⟩ : Ratio).nearestEven :=
        (nearestEven_mul hs).symm
    _ = (⟨r.den * s.num, r.den * s.den⟩ : Ratio).nearestEven := by
        rw [Nat.mul_comm s.den r.num, hcross, Nat.mul_comm s.num,
          Nat.mul_comm s.den r.den]
    _ = s.nearestEven := nearestEven_mul hr

theorem nearestEven_of_value {n : Nat} (hr : 0 < r.den)
    (h : r.value = n) : r.nearestEven = n := by
  have hwhole : (⟨n, 1⟩ : Ratio).nearestEven = n := by
    simp [nearestEven, Nat.mod_one]
  have hvalue : r.value = (⟨n, 1⟩ : Ratio).value := by
    rw [h, value]
    simp
  rw [nearestEven_congr hr Nat.one_pos hvalue, hwhole]

/-! ## The leading bit -/

/-- A logarithm is the exponent between whose powers a number lies. -/
theorem log_eq_of_le_of_lt {b : Nat} (hb : 1 < b) {q : ℚ} {e : Int}
    (hq : 0 < q) (hle : (b : ℚ) ^ e ≤ q) (hlt : q < (b : ℚ) ^ (e + 1)) :
    Int.log b q = e := by
  have hlower := (Int.zpow_le_iff_le_log hb hq).mp hle
  have hupper := (Int.lt_zpow_iff_log_lt hb hq).mp hlt
  omega

/-- The leading bit of a ratio lies where that of its value does. The guess
takes the leading bits of its parts, and is at most one too much. -/
theorem log2_eq (hnum : 0 < r.num) (hden : 0 < r.den) :
    r.log2 = Int.log 2 r.value := by
  obtain ⟨num, den⟩ := r
  dsimp only at hnum hden
  have hnum' : (0 : ℚ) < num := by exact_mod_cast hnum
  have hden' : (0 : ℚ) < den := by exact_mod_cast hden
  have hpos : 0 < (⟨num, den⟩ : Ratio).value := div_pos hnum' hden'
  have htwo : (2 : ℚ) ≠ 0 := by norm_num
  generalize hguess : (num.log2 : Int) - den.log2 = guess
  have hpower : 0 < ((⟨1, 1⟩ : Ratio).scale 2 guess).den :=
    den_scale_pos Nat.one_pos Nat.two_pos
  -- The test compares the ratio with the power of two of the guess, crosswise.
  have htest : num * ((⟨1, 1⟩ : Ratio).scale 2 guess).den <
      den * ((⟨1, 1⟩ : Ratio).scale 2 guess).num ↔
        (⟨num, den⟩ : Ratio).value < 2 ^ guess := by
    have hvalue : ((⟨1, 1⟩ : Ratio).scale 2 guess).value = (2 : ℚ) ^ guess := by
      rw [value_scale]
      simp [value]
    have hpower' : (0 : ℚ) < ((⟨1, 1⟩ : Ratio).scale 2 guess).den := by
      exact_mod_cast hpower
    rw [← hvalue, value, value, div_lt_div_iff₀ hden' hpower', mul_comm
      ((_ : Nat) : ℚ) (den : ℚ)]
    exact_mod_cast Iff.rfl
  have hnumLe : (2 : ℚ) ^ (num.log2 : Int) ≤ num := by
    exact_mod_cast Nat.log2_self_le hnum.ne'
  have hnumLt : (num : ℚ) < 2 ^ ((num.log2 : Int) + 1) := by
    exact_mod_cast Nat.lt_log2_self (n := num)
  have hdenLe : (2 : ℚ) ^ (den.log2 : Int) ≤ den := by
    exact_mod_cast Nat.log2_self_le hden.ne'
  have hdenLt : (den : ℚ) < 2 ^ ((den.log2 : Int) + 1) := by
    exact_mod_cast Nat.lt_log2_self (n := den)
  have hlower : (2 : ℚ) ^ (guess - 1) ≤ (⟨num, den⟩ : Ratio).value := by
    rw [value, le_div_iff₀ hden']
    calc (2 : ℚ) ^ (guess - 1) * den
      _ ≤ 2 ^ (guess - 1) * 2 ^ ((den.log2 : Int) + 1) := by gcongr
      _ = 2 ^ (num.log2 : Int) := by
          rw [← zpow_add₀ htwo]
          congr 1
          omega
      _ ≤ num := hnumLe
  have hupper : (⟨num, den⟩ : Ratio).value < 2 ^ (guess + 1) := by
    rw [value, div_lt_iff₀ hden']
    calc (num : ℚ)
      _ < 2 ^ ((num.log2 : Int) + 1) := hnumLt
      _ = 2 ^ (guess + 1) * 2 ^ (den.log2 : Int) := by
          rw [← zpow_add₀ htwo]
          congr 1
          omega
      _ ≤ 2 ^ (guess + 1) * den := by gcongr
  rw [log2]
  simp only [hguess, htest]
  split
  · next hbelow =>
      refine (log_eq_of_le_of_lt (by decide) hpos hlower ?_).symm
      rwa [Int.sub_add_cancel]
  · next hbelow =>
      exact (log_eq_of_le_of_lt (by decide) hpos (not_lt.mp hbelow)
        hupper).symm

end Ratio

/-! ## The nearest number -/

section

variable {negative : Bool} {r s : Ratio} {mant : Nat} {exp : Int}

theorem roundingExponent_congr (hr : 0 < r.den) (hs : 0 < s.den)
    (h : r.value = s.value) : roundingExponent r = roundingExponent s := by
  have hnum : 0 < r.num ↔ 0 < s.num := by
    rw [← Ratio.value_pos_iff hr, h, Ratio.value_pos_iff hs]
  rw [roundingExponent, roundingExponent]
  by_cases hzero : r.num = 0
  · rw [if_pos hzero, if_pos (by omega)]
  · rw [if_neg hzero, if_neg (by omega), Ratio.log2_eq (by omega) hr,
      Ratio.log2_eq (by omega) hs, h]

/-- Ratios of one value are rounded to one number. -/
theorem ofRatio_congr (hr : 0 < r.den) (hs : 0 < s.den)
    (h : r.value = s.value) : ofRatio negative r = ofRatio negative s := by
  have hnearest : ∀ power, (r.scale 2 power).nearestEven =
      (s.scale 2 power).nearestEven := by
    intro power
    refine Ratio.nearestEven_congr (Ratio.den_scale_pos hr Nat.two_pos)
      (Ratio.den_scale_pos hs Nat.two_pos) ?_
    rw [Ratio.value_scale, Ratio.value_scale, h]
  rw [ofRatio, ofRatio, roundingExponent_congr hr hs h]
  simp only [hnearest]

theorem value_magnitude (mant : Nat) (exp : Int) :
    (magnitude mant exp).value = mant * (2 : ℚ) ^ exp := by
  rw [magnitude, Ratio.value_scale]
  simp [Ratio.value]

theorem den_magnitude_pos (mant : Nat) (exp : Int) :
    0 < (magnitude mant exp).den :=
  Ratio.den_scale_pos Nat.one_pos Nat.two_pos

theorem log_magnitude (hmant : 0 < mant) :
    Int.log 2 (mant * (2 : ℚ) ^ exp) = mant.log2 + exp := by
  have hpower : (0 : ℚ) < 2 ^ exp := by positivity
  have hmant' : (0 : ℚ) < mant := by exact_mod_cast hmant
  refine Ratio.log_eq_of_le_of_lt (by decide) (by positivity) ?_ ?_
  · rw [Nat.cast_ofNat, zpow_add₀ two_ne_zero]
    have hle : (2 : ℚ) ^ (mant.log2 : Int) ≤ mant := by
      exact_mod_cast Nat.log2_self_le hmant.ne'
    gcongr
  · rw [Nat.cast_ofNat, add_right_comm, zpow_add₀ two_ne_zero]
    have hlt : (mant : ℚ) < 2 ^ ((mant.log2 : Int) + 1) := by
      exact_mod_cast Nat.lt_log2_self (n := mant)
    gcongr

theorem roundingExponent_magnitude (h : Canonical mant exp) :
    roundingExponent (magnitude mant exp) = exp := by
  obtain ⟨hlt, hleast, -, hlead⟩ := h
  rw [Nat.shiftLeft_eq, Nat.one_mul] at hlt hlead
  rw [roundingExponent]
  by_cases hzero : mant = 0
  · have hnum : (magnitude mant exp).num = 0 := by
      rw [hzero, magnitude, Ratio.scale]
      split
      · exact Nat.zero_mul _
      · rfl
    rw [if_pos hnum]
    omega
  · have hnum : 0 < (magnitude mant exp).num := by
      rw [← Ratio.value_pos_iff (den_magnitude_pos mant exp), value_magnitude]
      have hmant : (0 : ℚ) < mant := by exact_mod_cast Nat.pos_of_ne_zero hzero
      positivity
    rw [if_neg hnum.ne', Ratio.log2_eq hnum (den_magnitude_pos mant exp),
      value_magnitude, log_magnitude (Nat.pos_of_ne_zero hzero)]
    have hbelow : mant.log2 < 53 := (Nat.log2_lt hzero).mpr hlt
    rcases hlead with hlead | hlead
    · have habove : 52 ≤ mant.log2 := (Nat.le_log2 hzero).mpr hlead
      omega
    · omega

/-- A number is what its magnitude is rounded to. -/
theorem ofRatio_magnitude (h : Canonical mant exp) :
    ofRatio negative (magnitude mant exp) = .finite negative mant exp h := by
  have hnearest :
      ((magnitude mant exp).scale 2 (-exp)).nearestEven = mant := by
    refine Ratio.nearestEven_of_value (Ratio.den_scale_pos
      (den_magnitude_pos mant exp) Nat.two_pos) ?_
    rw [Ratio.value_scale, value_magnitude, Nat.cast_ofNat,
      mul_assoc, ← zpow_add₀ two_ne_zero, add_neg_cancel, zpow_zero, mul_one]
  rw [ofRatio, roundingExponent_magnitude h]
  simp only [hnearest]
  rw [assemble, dif_pos h]

end

/-! ## Decimals -/

section

variable {negative : Bool} {d d' : Decimal} {mant : Nat} {exp : Int}

/-- The number that a decimal is. -/
def Decimal.value (d : Decimal) : ℚ :=
  d.coef * (10 : ℚ) ^ d.exp

theorem Decimal.value_eq_zero_iff : d.value = 0 ↔ d.coef = 0 := by
  have hpower : (10 : ℚ) ^ d.exp ≠ 0 := by positivity
  rw [value, mul_eq_zero, or_iff_left hpower, Nat.cast_eq_zero]

theorem Decimal.value_pos (h : d.coef ≠ 0) : 0 < d.value := by
  have hcoef : (0 : ℚ) < d.coef := by exact_mod_cast Nat.pos_of_ne_zero h
  rw [value]
  positivity

theorem length_digitsOf {n : Nat} (h : n ≠ 0) :
    (digitsOf n).length = Nat.log 10 n + 1 := by
  have hle : (digitsOf n).length ≤ Nat.log 10 n + 1 :=
    (Nat.length_toDigits_le_iff (by decide) (by omega)).mpr
      (Nat.lt_pow_succ_log_self (by decide) n)
  have hlt : ¬ (digitsOf n).length ≤ Nat.log 10 n := by
    intro hshort
    obtain hone | hmore := Nat.eq_zero_or_pos (Nat.log 10 n)
    · rw [hone, Nat.le_zero, List.length_eq_zero_iff] at hshort
      exact Nat.toDigits_ne_nil hshort
    · have hsmall := (Nat.length_toDigits_le_iff (by decide) hmore).mp hshort
      have hlarge := Nat.pow_log_le_self 10 h
      omega
  omega

/-- The digits of a decimal before its point. -/
theorem Decimal.places_eq (h : d.coef ≠ 0) :
    d.exp + ((digitsOf d.coef).length : Int) = Int.log 10 d.value + 1 := by
  have hlog : Int.log 10 d.value = Nat.log 10 d.coef + d.exp := by
    have hpower : (0 : ℚ) < 10 ^ d.exp := by positivity
    refine Ratio.log_eq_of_le_of_lt (by decide) (value_pos h) ?_ ?_
    · have hle : (10 : ℚ) ^ (Nat.log 10 d.coef : Int) ≤ d.coef := by
        exact_mod_cast Nat.pow_log_le_self 10 h
      rw [value, Nat.cast_ofNat, zpow_add₀ (by norm_num)]
      gcongr
    · have hlt : (d.coef : ℚ) < 10 ^ ((Nat.log 10 d.coef : Int) + 1) := by
        exact_mod_cast Nat.lt_pow_succ_log_self (by decide : 1 < 10) d.coef
      rw [value, Nat.cast_ofNat, add_right_comm, zpow_add₀ (by norm_num)]
      gcongr
  rw [length_digitsOf h, hlog]
  omega

theorem Decimal.value_scale (d : Decimal) :
    ((⟨d.coef, 1⟩ : Ratio).scale 10 d.exp).value = d.value := by
  rw [Ratio.value_scale, Ratio.value, Decimal.value]
  simp

/-- Decimals of one value are rounded to one number. -/
theorem ofDecimal_congr (h : d.value = d'.value) :
    ofDecimal negative d = ofDecimal negative d' := by
  have hzero : d.coef = 0 ↔ d'.coef = 0 := by
    rw [← Decimal.value_eq_zero_iff, h, Decimal.value_eq_zero_iff]
  rw [ofDecimal, ofDecimal]
  by_cases hcoef : d.coef = 0
  · rw [if_pos hcoef, if_pos (hzero.mp hcoef)]
  · have hcoef' : d'.coef ≠ 0 := fun h => hcoef (hzero.mpr h)
    have hround : ofRatio negative ((⟨d.coef, 1⟩ : Ratio).scale 10 d.exp) =
        ofRatio negative ((⟨d'.coef, 1⟩ : Ratio).scale 10 d'.exp) := by
      refine ofRatio_congr (Ratio.den_scale_pos Nat.one_pos (by decide))
        (Ratio.den_scale_pos Nat.one_pos (by decide)) ?_
      rw [d.value_scale, d'.value_scale, h]
    rw [if_neg hcoef, if_neg hcoef']
    simp only [Decimal.places_eq hcoef, Decimal.places_eq hcoef', h, hround]

theorem value_expansion (mant : Nat) (exp : Int) :
    (expansion mant exp).value = mant * (2 : ℚ) ^ exp := by
  obtain hexp | hexp := le_or_gt 0 exp
  · obtain ⟨n, rfl⟩ := Int.eq_ofNat_of_zero_le hexp
    rw [expansion, if_pos hexp, Decimal.value, Int.toNat_natCast, zpow_zero,
      mul_one, zpow_natCast]
    exact_mod_cast rfl
  · obtain ⟨n, hn⟩ := Int.eq_ofNat_of_zero_le (by omega : 0 ≤ -exp)
    have hten : (10 : ℚ) ^ n = 2 ^ n * 5 ^ n := by
      rw [← mul_pow]
      norm_num
    have hfive : ((mant * Nat.pow 5 n : Nat) : ℚ) = mant * 5 ^ n := by
      exact_mod_cast rfl
    rw [expansion, if_neg (by omega), Decimal.value]
    dsimp only
    rw [hn, Int.toNat_natCast, ← neg_neg exp, hn, zpow_neg, zpow_neg,
      zpow_natCast, zpow_natCast, hten, hfive]
    field_simp

/-- Every number of the format lies well within the decimals that are
rounded. -/
theorem log_expansion (hmant : mant ≠ 0) (h : Canonical mant exp) :
    -400 ≤ Int.log 10 (expansion mant exp).value ∧
      Int.log 10 (expansion mant exp).value < 400 := by
  obtain ⟨hlt, hleast, hmost, -⟩ := h
  rw [Nat.shiftLeft_eq, Nat.one_mul] at hlt
  have hmant' : (1 : ℚ) ≤ mant := by
    exact_mod_cast Nat.one_le_iff_ne_zero.mpr hmant
  have hmantLt : (mant : ℚ) < 2 ^ (53 : Int) := by exact_mod_cast hlt
  have hpower : (0 : ℚ) < 2 ^ exp := by positivity
  -- Powers of eight are powers of two, and those of ten are farther out.
  have hcube : ∀ n : Int, (2 : ℚ) ^ (3 * n) = 8 ^ n := by
    intro n
    rw [zpow_mul]
    norm_num
  have hpos : (0 : ℚ) < mant * 2 ^ exp := by positivity
  rw [value_expansion]
  constructor
  · refine (Int.zpow_le_iff_le_log (by decide) hpos).mp ?_
    calc ((10 : Nat) : ℚ) ^ (-400 : Int)
      _ ≤ 8 ^ (-400 : Int) := by
          rw [zpow_neg, zpow_neg]
          refine inv_anti₀ (by positivity) ?_
          exact zpow_le_zpow_left₀ (by decide) (by norm_num) (by norm_num)
      _ = 2 ^ (3 * (-400) : Int) := (hcube _).symm
      _ ≤ 2 ^ exp := zpow_le_zpow_right₀ (by norm_num) (by omega)
      _ ≤ mant * 2 ^ exp := le_mul_of_one_le_left hpower.le hmant'
  · refine (Int.lt_zpow_iff_log_lt (by decide) hpos).mp ?_
    calc (mant : ℚ) * 2 ^ exp
      _ < 2 ^ (53 : Int) * 2 ^ exp := by gcongr
      _ = 2 ^ (53 + exp) := (zpow_add₀ two_ne_zero _ _).symm
      _ ≤ 2 ^ (3 * 400 : Int) := zpow_le_zpow_right₀ (by norm_num) (by omega)
      _ = 8 ^ (400 : Int) := hcube _
      _ ≤ ((10 : Nat) : ℚ) ^ (400 : Int) :=
          zpow_le_zpow_left₀ (by decide) (by norm_num) (by norm_num)

/-- A number written out in full is read as itself. -/
theorem ofDecimal_expansion (h : Canonical mant exp) :
    ofDecimal negative (expansion mant exp) = .finite negative mant exp h := by
  by_cases hmant : mant = 0
  · subst hmant
    have hexp : exp = -1074 := h.2.2.2.resolve_left (by decide)
    have hcoef : (expansion 0 exp).coef = 0 := by
      rw [← Decimal.value_eq_zero_iff, value_expansion]
      simp
    rw [ofDecimal, if_pos hcoef]
    subst hexp
    rfl
  · have hcoef : (expansion mant exp).coef ≠ 0 := by
      rw [Ne, ← Decimal.value_eq_zero_iff, value_expansion]
      positivity
    obtain ⟨hlow, hhigh⟩ := log_expansion hmant h
    rw [ofDecimal, if_neg hcoef]
    simp only [Decimal.places_eq hcoef]
    rw [if_neg (by omega), if_neg (by omega), ← ofRatio_magnitude h]
    refine ofRatio_congr (Ratio.den_scale_pos Nat.one_pos (by decide))
      (den_magnitude_pos mant exp) ?_
    rw [Decimal.value_scale, value_expansion, value_magnitude]

theorem ofDecimal_nearestOnGrid? {x : Binary64} {digits : Nat}
    (h : nearestOnGrid? mant exp x digits = some d) : ofDecimal false d = x := by
  rw [nearestOnGrid?] at h
  dsimp only at h
  split_ifs at h with _ hnear hfar hnear hfar
  · exact Option.some.inj h ▸ hnear
  · exact Option.some.inj h ▸ hfar
  · exact Option.some.inj h ▸ hnear
  · exact Option.some.inj h ▸ hfar

theorem ofDecimal_shortest (h : Canonical mant exp) :
    ofDecimal false (shortest mant exp h) = .finite false mant exp h := by
  rw [shortest]
  cases hfound : ((List.range 17).map (· + 1)).findSome?
      (nearestOnGrid? mant exp (.finite false mant exp h)) with
  | none => exact ofDecimal_expansion h
  | some d =>
      obtain ⟨digits, -, hd⟩ := List.exists_of_findSome?_eq_some hfound
      exact ofDecimal_nearestOnGrid? hd

/-! ## The sign -/

theorem negated_assemble (mant : Nat) (exp : Int) :
    (assemble false mant exp).negated = assemble true mant exp := by
  rw [assemble, assemble]
  split
  · rfl
  · split <;> rfl

/-- The sign of a decimal is the sign of what it is rounded to. -/
theorem negated_ofDecimal (d : Decimal) :
    (ofDecimal false d).negated = ofDecimal true d := by
  rw [ofDecimal, ofDecimal]
  dsimp only
  split_ifs
  · rfl
  · rfl
  · rfl
  · exact negated_assemble _ _

/-- The shortest decimal of a number is read as the number. -/
theorem ofDecimal_shortest_signed (negative : Bool) (h : Canonical mant exp) :
    ofDecimal negative (shortest mant exp h) =
      .finite negative mant exp h := by
  cases negative with
  | false => exact ofDecimal_shortest h
  | true => rw [← negated_ofDecimal, ofDecimal_shortest h]; rfl

end

end Binary64

end Signpost
