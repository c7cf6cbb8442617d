import ChartData.Number.Shortest
import Mathlib.Data.Int.Log
import Mathlib.Data.Rat.Floor
import Mathlib.Tactic.FieldSimp
import Mathlib.Tactic.Positivity
import Mathlib.Tactic.Ring

/-!
# Rounding to floating-point numbers

The rank nearest to a ratio depends on the ratio alone and not on how it is written
(`nearestRank_mul_left`), and the ratio of a number is rounded to the number itself
(`Finite64.nearestRank_ratio`). So a number that is written exactly is read back, and since whatever
is written with fewer digits was tried before, a number is read back from its shortest text
(`Finite64.ofScaled_shortest_eq`).

What the unit of the rounding hangs on is the power of two at or below the ratio, which is the
logarithm of the ratio to base two, rounded down. The computation finds it from the logarithms of
numerator and denominator, which leave two candidates, and one comparison (`nearestRank_eq`).
-/

namespace ChartData

/-! ## The unit -/

variable {num den : Nat}

/-- Whether a power of two is at most a ratio, said with natural numbers. -/
theorem le_log_iff (hn : 0 < num) (hd : 0 < den) (k : Int) :
    k ≤ Int.log 2 (num / den : ℚ) ↔
      if k < 0 then den ≤ num <<< (-k).toNat else den <<< k.toNat ≤ num := by
  have hn' : (0 : ℚ) < num := Nat.cast_pos.2 hn
  have hd' : (0 : ℚ) < den := Nat.cast_pos.2 hd
  rw [← Int.zpow_le_iff_le_log Nat.one_lt_two (div_pos hn' hd'), le_div_iff₀ hd']
  split
  · next hk =>
    obtain ⟨m, rfl⟩ : ∃ m : Nat, k = -m := ⟨(-k).toNat, by omega⟩
    rw [Nat.shiftLeft_eq, Int.neg_neg, Int.toNat_natCast, zpow_neg, zpow_natCast,
      inv_mul_le_iff₀ (by positivity), mul_comm]
    exact_mod_cast Iff.rfl
  · next hk =>
    obtain ⟨m, rfl⟩ : ∃ m : Nat, k = m := ⟨k.toNat, by omega⟩
    rw [Nat.shiftLeft_eq, Int.toNat_natCast, zpow_natCast, mul_comm]
    exact_mod_cast Iff.rfl

/-- A whole number lies between the powers of two that its logarithm says. -/
theorem log2_bounds {n : Nat} (h : 0 < n) :
    (2 : ℚ) ^ (Nat.log2 n : Int) ≤ n ∧ (n : ℚ) < (2 : ℚ) ^ ((Nat.log2 n : Int) + 1) := by
  have hlow : 2 ^ Nat.log2 n ≤ n := Nat.log2_self_le h.ne'
  have hhigh : n < 2 ^ (Nat.log2 n + 1) := Nat.lt_log2_self
  exact ⟨by exact_mod_cast hlow, by exact_mod_cast hhigh⟩

/-- **The logarithms of numerator and denominator leave two candidates.** -/
theorem log_ratio_bounds (hn : 0 < num) (hd : 0 < den) :
    (Nat.log2 num : Int) - Nat.log2 den - 1 ≤ Int.log 2 (num / den : ℚ) ∧
      Int.log 2 (num / den : ℚ) ≤ (Nat.log2 num : Int) - Nat.log2 den := by
  have hd' : (0 : ℚ) < den := Nat.cast_pos.2 hd
  have hratio : (0 : ℚ) < num / den := div_pos (Nat.cast_pos.2 hn) hd'
  obtain ⟨hnum, hnum'⟩ := log2_bounds hn
  obtain ⟨hden, hden'⟩ := log2_bounds hd
  constructor
  · rw [← Int.zpow_le_iff_le_log Nat.one_lt_two hratio, le_div_iff₀ hd']
    calc (2 : ℚ) ^ ((Nat.log2 num : Int) - Nat.log2 den - 1) * den
        ≤ 2 ^ ((Nat.log2 num : Int) - Nat.log2 den - 1) * 2 ^ ((Nat.log2 den : Int) + 1) :=
          mul_le_mul_of_nonneg_left hden'.le (zpow_nonneg zero_le_two _)
      _ = 2 ^ (Nat.log2 num : Int) := by
        rw [← zpow_add₀ two_ne_zero]
        congr 1
        omega
      _ ≤ num := hnum
  · rw [← Int.lt_add_one_iff, ← Int.lt_zpow_iff_log_lt Nat.one_lt_two hratio, div_lt_iff₀ hd']
    calc (num : ℚ) < 2 ^ ((Nat.log2 num : Int) + 1) := hnum'
      _ = 2 ^ ((Nat.log2 num : Int) - Nat.log2 den + 1) * 2 ^ (Nat.log2 den : Int) := by
        rw [← zpow_add₀ two_ne_zero]
        congr 1
        omega
      _ ≤ 2 ^ ((Nat.log2 num : Int) - Nat.log2 den + 1) * den :=
        mul_le_mul_of_nonneg_left hden (zpow_nonneg zero_le_two _)

/-! ## Rounding to whole numbers -/

theorem roundHalfEven_mul_left {c : Nat} (hc : 0 < c) (num den : Nat) :
    roundHalfEven (c * num) (c * den) = roundHalfEven num den := by
  unfold roundHalfEven
  simp only [Nat.mul_div_mul_left _ _ hc, Nat.mul_mod_mul_left, Nat.mul_left_comm 2 c,
    Nat.mul_lt_mul_left hc]

theorem roundHalfEven_mul_right (n : Nat) (hd : 0 < den) : roundHalfEven (n * den) den = n := by
  unfold roundHalfEven
  dsimp only
  rw [Nat.mul_div_cancel _ hd, Nat.mul_mod_left, if_pos (by omega)]

/-! ## Ranks -/

/-- The power of two that is the unit of a ratio: the significand of the nearest number counts
it. -/
def unitOf (num den : Nat) : Int := max (Int.log 2 (num / den : ℚ) - 52) (-1074)

/-- One comparison tells which of the two candidates is the unit. -/
theorem max_ite_eq_unitOf (hn : 0 < num) (hd : 0 < den) {k : Int}
    (hlow : k - 1 ≤ Int.log 2 (num / den : ℚ)) (hhigh : Int.log 2 (num / den : ℚ) ≤ k) :
    max (if (if k < 0 then decide (den ≤ num <<< (-k).toNat)
        else decide (den <<< k.toNat ≤ num)) = true then k - 52 else k - 53) (-1074) =
      unitOf num den := by
  have hreaches : (if k < 0 then decide (den ≤ num <<< (-k).toNat)
      else decide (den <<< k.toNat ≤ num)) = true ↔ k ≤ Int.log 2 (num / den : ℚ) := by
    rw [le_log_iff hn hd]
    split
    · exact decide_eq_true_iff
    · exact decide_eq_true_iff
  unfold unitOf
  by_cases h : k ≤ Int.log 2 (num / den : ℚ)
  · rw [if_pos (hreaches.2 h)]
    omega
  · rw [if_neg (mt hreaches.1 h)]
    omega

/-- **The rank nearest to a ratio**, its unit chosen by the logarithm of the ratio. -/
theorem nearestRank_eq (hn : 0 < num) (hd : 0 < den) :
    nearestRank num den = (unitOf num den + 1074).toNat * binade +
      if unitOf num den < 0 then roundHalfEven (num <<< (-unitOf num den).toNat) den
      else roundHalfEven num (den <<< (unitOf num den).toNat) := by
  obtain ⟨hlow, hhigh⟩ := log_ratio_bounds hn hd
  unfold nearestRank
  rw [if_neg hn.ne']
  dsimp only
  rw [max_ite_eq_unitOf hn hd hlow hhigh]

/-- **The nearest rank depends on the ratio alone.** -/
theorem nearestRank_mul_left {c : Nat} (hc : 0 < c) (hd : 0 < den) :
    nearestRank (c * num) (c * den) = nearestRank num den := by
  rcases Nat.eq_zero_or_pos num with rfl | hn
  · unfold nearestRank
    rw [Nat.mul_zero, if_pos rfl, if_pos rfl]
  · have hunit : unitOf (c * num) (c * den) = unitOf num den := by
      have hc' : (c : ℚ) ≠ 0 := Nat.cast_ne_zero.2 hc.ne'
      unfold unitOf
      rw [Nat.cast_mul, Nat.cast_mul, mul_div_mul_left _ _ hc']
    rw [nearestRank_eq (Nat.mul_pos hc hn) (Nat.mul_pos hc hd), nearestRank_eq hn hd, hunit]
    simp only [Nat.shiftLeft_eq, Nat.mul_assoc, roundHalfEven_mul_left hc]

/-- **A ratio that is a whole number of units is rounded to the rank of that number**, if the number
has 53 bits or its unit is the least there is. -/
theorem nearestRank_of_eq (hd : 0 < den) {significand : Nat} {unit : Int}
    (h : (num / den : ℚ) = significand * (2 : ℚ) ^ unit) (hpos : 0 < significand)
    (hhigh : significand < 2 * binade) (hunit : -1074 ≤ unit)
    (hlow : unit = -1074 ∨ binade ≤ significand) :
    nearestRank num den = (unit + 1074).toNat * binade + significand := by
  have hd' : (0 : ℚ) < den := Nat.cast_pos.2 hd
  have hratio : (0 : ℚ) < num / den := by
    rw [h]
    exact mul_pos (Nat.cast_pos.2 hpos) (zpow_pos two_pos unit)
  have hn : 0 < num := Nat.cast_pos.1 ((div_pos_iff_of_pos_right hd').1 hratio)
  have hless : Int.log 2 (num / den : ℚ) < 53 + unit := by
    have hbits : (significand : ℚ) < 2 ^ (53 : Int) := by exact_mod_cast hhigh
    rw [← Int.lt_zpow_iff_log_lt Nat.one_lt_two hratio, h, Nat.cast_ofNat,
      zpow_add₀ two_ne_zero]
    exact mul_lt_mul_of_pos_right hbits (zpow_pos two_pos unit)
  have hunitOf : unitOf num den = unit := by
    unfold unitOf
    rcases hlow with rfl | hlow
    · omega
    · have hleast : 52 + unit ≤ Int.log 2 (num / den : ℚ) := by
        have hbits : (2 : ℚ) ^ (52 : Int) ≤ significand := by exact_mod_cast hlow
        rw [← Int.zpow_le_iff_le_log Nat.one_lt_two hratio, h, Nat.cast_ofNat,
          zpow_add₀ two_ne_zero]
        exact mul_le_mul_of_nonneg_right hbits (zpow_pos two_pos unit).le
      omega
  have hvalue : (num : ℚ) = significand * 2 ^ unit * den := (div_eq_iff hd'.ne').1 h
  rw [nearestRank_eq hn hd, hunitOf]
  congr 1
  split
  · next hneg =>
    obtain ⟨m, rfl⟩ : ∃ m : Nat, unit = -m := ⟨(-unit).toNat, by omega⟩
    have hmul : num * 2 ^ m = significand * den := by
      have : (num * 2 ^ m : ℚ) = significand * den := by
        rw [hvalue, zpow_neg, zpow_natCast]
        field_simp
      exact_mod_cast this
    rw [Int.neg_neg, Int.toNat_natCast, Nat.shiftLeft_eq, hmul, roundHalfEven_mul_right _ hd]
  · next hnonneg =>
    obtain ⟨m, rfl⟩ : ∃ m : Nat, unit = m := ⟨unit.toNat, by omega⟩
    have hmul : num = significand * (den * 2 ^ m) := by
      have : (num : ℚ) = significand * (den * 2 ^ m) := by
        rw [hvalue, zpow_natCast]
        ring
      exact_mod_cast this
    rw [Int.toNat_natCast, Nat.shiftLeft_eq, hmul,
      roundHalfEven_mul_right _ (Nat.mul_pos hd (Nat.two_pow_pos m))]

namespace Finite64

theorem ratio_den_pos (x : Finite64) : 0 < x.ratio.2 := by
  unfold ratio
  split
  · rw [Nat.one_shiftLeft]
    exact Nat.two_pow_pos _
  · exact Nat.one_pos

/-- The ratio of a number is its significand in its unit. -/
theorem ratio_eq (x : Finite64) :
    (x.ratio.1 / x.ratio.2 : ℚ) = x.significand * (2 : ℚ) ^ x.unitExponent := by
  unfold ratio
  split
  · next hneg =>
    obtain ⟨m, hm⟩ : ∃ m : Nat, x.unitExponent = -m := ⟨(-x.unitExponent).toNat, by omega⟩
    rw [hm, Int.neg_neg, Int.toNat_natCast, Nat.one_shiftLeft, zpow_neg, zpow_natCast,
      Nat.cast_pow, Nat.cast_ofNat, div_eq_mul_inv]
  · next hnonneg =>
    obtain ⟨m, hm⟩ : ∃ m : Nat, x.unitExponent = m := ⟨x.unitExponent.toNat, by omega⟩
    rw [hm, Int.toNat_natCast, Nat.shiftLeft_eq, zpow_natCast, Nat.cast_mul, Nat.cast_pow,
      Nat.cast_ofNat, Nat.cast_one, div_one]

/-- **A number is the nearest to its own ratio.** -/
theorem nearestRank_ratio (x : Finite64) : nearestRank x.ratio.1 x.ratio.2 = x.rank := by
  rcases Nat.eq_zero_or_pos x.rank.val with hz | hpos
  · have hnum : x.ratio.1 = 0 := by
      unfold ratio significand unitExponent
      rw [hz]
      rfl
    unfold nearestRank
    rw [if_pos hnum, hz]
  · have hratio := x.ratio_eq
    unfold significand unitExponent at hratio
    by_cases hr : x.rank.val < binade
    · rw [if_pos hr, if_pos hr] at hratio
      rw [nearestRank_of_eq x.ratio_den_pos hratio hpos (by omega) (by omega) (.inl rfl)]
      exact Nat.zero_add _
    · rw [if_neg hr, if_neg hr] at hratio
      have hmod : x.rank.val % binade < binade := Nat.mod_lt _ (by decide)
      have hdiv : 1 ≤ x.rank.val / binade := (Nat.one_le_div_iff (by decide)).2 (by omega)
      rw [nearestRank_of_eq x.ratio_den_pos hratio (by omega) (by omega) (by omega)
        (.inr (Nat.le_add_left _ _))]
      have hunit : ((x.rank.val / binade : Nat) - 1075 + 1074 : Int).toNat =
          x.rank.val / binade - 1 := by omega
      rw [hunit, Nat.sub_mul]
      have := Nat.div_add_mod' x.rank.val binade
      have := Nat.le_mul_of_pos_left binade hdiv
      omega

/-! ## Reading back -/

/-- The number with the sign and the rank of a number is that number. -/
theorem ofRank_rank (x : Finite64) : Binary64.ofRank x.negative x.rank = .finite x :=
  dif_pos x.rank.isLt

theorem ofRank_zero {x : Finite64} (h : x.significand = 0) :
    Binary64.ofRank x.negative 0 = .finite x := by
  have hrank : x.rank.val = 0 := by
    unfold significand at h
    split at h
    · exact h
    · exact absurd h (Nat.ne_of_gt (Nat.add_pos_right _ (by decide)))
  rw [← hrank, ofRank_rank]

/-- The power of five that makes an expansion whole is too great for the expansion to be taken for
zero. -/
theorem lt_log2_mul_pow_five {n k : Nat} (hn : 0 < n) (hk : k ≤ 1074) :
    ¬Nat.log2 (n * 5 ^ k) + 1077 ≤ 3 * k := by
  have hfour : 2 ^ (2 * k) ≤ n * 5 ^ k := by
    calc 2 ^ (2 * k) = 4 ^ k := Nat.pow_mul 2 2 k
      _ ≤ 5 ^ k := Nat.pow_le_pow_left (by decide) k
      _ ≤ n * 5 ^ k := Nat.le_mul_of_pos_left _ hn
  have hlog : 2 * k ≤ Nat.log2 (n * 5 ^ k) :=
    (Nat.le_log2 (Nat.mul_pos hn (Nat.pow_pos (by decide))).ne').2 hfour
  omega

theorem unitExponent_ge (x : Finite64) : -1074 ≤ x.unitExponent := by
  unfold unitExponent
  split
  · exact Int.le_refl _
  · next hr =>
    have hdiv : 1 ≤ x.rank.val / binade := (Nat.one_le_div_iff (by decide)).2 (by omega)
    omega

/-- A number that is written exactly is read back. -/
theorem ofScaled_expansion (x : Finite64) :
    Binary64.ofScaled x.negative x.expansion = .finite x := by
  have hnearest := x.nearestRank_ratio
  have hleast := x.unitExponent_ge
  rcases Nat.eq_zero_or_pos x.significand with hz | hpos
  · have hdigits : x.expansion.digits = 0 := by
      unfold expansion
      rw [hz]
      split
      · exact Nat.zero_mul _
      · exact Nat.zero_shiftLeft _
    unfold Binary64.ofScaled
    rw [if_pos hdigits, ofRank_zero hz]
  · unfold ratio at hnearest
    unfold expansion Binary64.ofScaled
    by_cases hneg : x.unitExponent < 0
    · rw [if_pos hneg] at hnearest ⊢
      dsimp only at hnearest ⊢
      obtain ⟨k, hk⟩ : ∃ k : Nat, x.unitExponent = -k := ⟨(-x.unitExponent).toNat, by omega⟩
      have hten : Nat.pow 10 k = Nat.pow 5 k * 1 <<< k := by
        rw [Nat.one_shiftLeft]
        exact Nat.mul_pow 5 2 k
      have hfive : 0 < Nat.pow 5 k := Nat.pow_pos (by decide)
      have htwo : 0 < 1 <<< k := by
        rw [Nat.one_shiftLeft]
        exact Nat.two_pow_pos k
      have hnotzero : ¬Nat.log2 (x.significand * Nat.pow 5 k) + 1077 ≤ 3 * k :=
        lt_log2_mul_pow_five hpos (by omega)
      rw [hk, Int.neg_neg, Int.toNat_natCast] at hnearest
      rw [hk, Int.neg_neg, Int.toNat_natCast, if_neg (Nat.mul_pos hpos hfive).ne',
        if_neg (by omega), if_neg hnotzero, hten, Nat.mul_comm x.significand,
        nearestRank_mul_left hfive htwo, hnearest, ofRank_rank]
    · rw [if_neg hneg] at hnearest ⊢
      dsimp only at hnearest ⊢
      have hpos : x.significand <<< x.unitExponent.toNat ≠ 0 := by
        rw [Nat.shiftLeft_eq]
        exact (Nat.mul_pos hpos (Nat.two_pow_pos _)).ne'
      rw [if_neg hpos, if_pos (Int.le_refl 0), if_neg (by decide), Int.toNat_zero, Nat.pow_eq,
        Nat.pow_zero, Nat.mul_one, hnearest, ofRank_rank]

/-- **A whole number of units is read as so many units and no tenths.** -/
theorem ofScaled_tenths {negative : Bool} {digits unit : Nat} {x : Finite64}
    (h : Binary64.ofScaled negative ⟨digits, unit⟩ = .finite x) :
    Binary64.ofScaled negative ⟨digits * Nat.pow 10 unit * 10, -1⟩ = .finite x := by
  have hten : 0 < Nat.pow 10 unit := Nat.pow_pos (by decide)
  unfold Binary64.ofScaled at h ⊢
  dsimp only at h ⊢
  rcases Nat.eq_zero_or_pos digits with rfl | hpos
  · rw [if_pos rfl] at h
    rw [Nat.zero_mul, Nat.zero_mul, if_pos rfl, h]
  · have hunits : 0 < digits * Nat.pow 10 unit := Nat.mul_pos hpos hten
    rw [if_neg hpos.ne', if_pos (Int.natCast_nonneg unit), Int.toNat_natCast] at h
    split at h
    · cases h
    · rw [if_neg (Nat.mul_pos hunits (by decide)).ne', if_neg (by decide), if_neg (by omega),
        Nat.mul_comm _ 10]
      exact (congrArg _ (nearestRank_mul_left (by decide) Nat.one_pos)).trans h

/-- **A number is read back from its shortest text.** -/
theorem ofScaled_shortest_eq (x : Finite64) :
    Binary64.ofScaled x.negative x.shortest = .finite x := by
  rcases x.ofScaled_shortest with h | h
  · exact h
  · rw [h]
    exact x.ofScaled_expansion

end Finite64

end ChartData
