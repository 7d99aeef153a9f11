import GridRules.Proofs.Double.Value

/-!
# The double that a decimal is read as

A decimal number is read as the double nearest to it (`Double.isNearest_ofDecimal`), and as an
infinity from half a step above the greatest finite double on (`Double.isFinite_ofDecimal_iff`).
Where the power of ten alone decides, the reader does not compute it.  That is a shortcut and
nothing else: the answer is the one that the computed power gives (`Double.ofDecimal_natCast`,
`Double.ofDecimal_neg_natCast`).
-/

namespace GridRules

/-! ## The end of the finite doubles -/

/-- The least number that is read as infinity, half a step above the greatest finite double. -/
def leastInfinite : ℕ := 2 ^ 1024 - 2 ^ 970

/-- It lies in the middle between the greatest finite double and the place of infinity. -/
lemma unitsOfRank_add_infinityRank :
    unitsOfRank (infinityRank - 1) + unitsOfRank infinityRank
      = 2 * (leastInfinite * unitsPerOne) := by
  decide +kernel

lemma nearerRank_bounds (low num den : ℕ) :
    low ≤ nearerRank low num den ∧ nearerRank low num den ≤ low + 1 := by
  unfold nearerRank
  have hmod : low % 2 < 2 := Nat.mod_lt low (by decide)
  split <;> omega

/-- The nearest rank is a finite one below the middle.  The middle itself goes to infinity, because
the rank of infinity is even. -/
lemma nearestRank_lt_infinityRank_iff (num : ℕ) {den : ℕ} (hden : 0 < den) :
    nearestRank num den < infinityRank ↔ num < leastInfinite * unitsPerOne * den := by
  obtain ⟨hlow, hhigh⟩ := floorRank_spec (num / den)
  have hbelow := (Nat.mul_le_mul_right den hlow).trans (Nat.div_mul_le_self num den)
  have habove := Nat.lt_mul_of_div_lt hhigh hden
  have hmiddle : unitsOfRank (infinityRank - 1) * den + unitsOfRank infinityRank * den
      = 2 * (leastInfinite * unitsPerOne * den) := by
    rw [← Nat.add_mul, unitsOfRank_add_infinityRank, Nat.mul_assoc 2]
  have hgrow : unitsOfRank (infinityRank - 1) * den ≤ unitsOfRank infinityRank * den :=
    Nat.mul_le_mul_right den (unitsOfRank_strictMono.monotone (Nat.sub_le _ _))
  obtain ⟨hnear, hnext⟩ := nearerRank_bounds (floorRank (num / den)) num den
  rw [nearestRank] at *
  generalize floorRank (num / den) = low at *
  rcases Nat.lt_trichotomy (low + 1) infinityRank with hless | hlast | hbeyond
  · -- both neighbours are finite and lie below the middle
    have hfinite := Nat.mul_le_mul_right den
      (unitsOfRank_strictMono.monotone (Nat.le_sub_one_of_lt hless))
    omega
  · -- the neighbours are the greatest finite double and infinity
    obtain rfl : low = infinityRank - 1 := by omega
    have hodd : (infinityRank - 1) % 2 = 1 := by decide
    rw [nearerRank, hlast, Nat.add_mul, hmiddle]
    cases hcmp : compare (2 * num) (2 * (leastInfinite * unitsPerOne * den)) with
    | lt =>
      rw [Nat.compare_eq_lt] at hcmp
      dsimp only
      omega
    | gt =>
      rw [Nat.compare_eq_gt] at hcmp
      dsimp only
      omega
    | eq =>
      rw [Nat.compare_eq_eq] at hcmp
      dsimp only
      omega
  · -- both neighbours are infinite and lie above the middle
    have hinfinite := Nat.mul_le_mul_right den
      (unitsOfRank_strictMono.monotone (Nat.le_of_lt_succ hbeyond))
    omega

/-- Less than half a unit is nearest to zero. -/
lemma nearestRank_eq_zero {num den : ℕ} (h : 2 * num < den) : nearestRank num den = 0 := by
  have hnearest := dist_nearestRank_le num (Nat.zero_lt_of_lt h) 0
  have hzero : unitsOfRank 0 = 0 := rfl
  rw [hzero, Nat.zero_mul, Nat.dist_comm 0, Nat.dist_zero_right] at hnearest
  by_contra hne
  have hone : 1 ≤ unitsOfRank (nearestRank num den) :=
    unitsOfRank_strictMono.monotone (Nat.one_le_iff_ne_zero.2 hne)
  have hden : 1 * den ≤ unitsOfRank (nearestRank num den) * den := Nat.mul_le_mul_right den hone
  unfold Nat.dist at hnearest
  omega

namespace Double

variable {num den : ℕ}

lemma isFinite_ofRank {rank : ℕ} :
    (Magnitude.ofRank rank).isFinite = true ↔ rank < infinityRank := by
  simp [Magnitude.isFinite, Magnitude.ofRank]

/-- A quotient is read as a finite double exactly below the least number that is read as
infinity. -/
lemma isFinite_ofRatio_iff (negative : Bool) (num : ℕ) (hden : 0 < den) :
    (ofRatio negative num den).isFinite = true ↔ num < leastInfinite * den := by
  rw [ofRatio, isFinite, isFinite_ofRank, nearestRank_lt_infinityRank_iff _ hden,
    Nat.mul_right_comm, Nat.mul_lt_mul_right unitsPerOne_pos]

lemma ofRatio_eq_infinity (negative : Bool) (hden : 0 < den) (h : leastInfinite * den ≤ num) :
    ofRatio negative num den = infinity negative := by
  have hrank : ¬ nearestRank (num * unitsPerOne) den < infinityRank := by
    rw [← isFinite_ofRank, ← isFinite, ← ofRatio, isFinite_ofRatio_iff negative num hden]
    exact Nat.not_lt.2 h
  have hmin := Nat.min_eq_right (Nat.not_lt.1 hrank)
  simp only [ofRatio, infinity, Magnitude.ofRank, Magnitude.infinity, hmin]

/-! ## Shortcuts for powers of ten -/

lemma ten_pow_mul_le {a b k : ℕ} (h : a + b ≤ k) : 10 ^ a * 10 ^ b ≤ 10 ^ k := by
  rw [← Nat.pow_add]
  exact Nat.pow_le_pow_right (by decide) h

lemma ofDecimal_natCast (negative : Bool) (digits k : ℕ) :
    ofDecimal negative digits k = ofRatio negative (digits * 10 ^ k) 1 := by
  unfold ofDecimal
  split
  · rename_i hzero
    rw [hzero, Nat.zero_mul, ofRatio, Nat.zero_mul, nearestRank_zero Nat.one_pos]
    rfl
  · rename_i hdigits
    split
    · -- the power alone is beyond the range
      rename_i hlarge
      refine (ofRatio_eq_infinity negative Nat.one_pos ?_).symm
      calc leastInfinite * 1
        _ ≤ 10 ^ 155 * 10 ^ 156 := by decide +kernel
        _ ≤ 10 ^ k := ten_pow_mul_le (by omega)
        _ ≤ digits * 10 ^ k := Nat.le_mul_of_pos_left _ (Nat.pos_of_ne_zero hdigits)
    · rw [if_neg (by omega), if_pos (Int.natCast_nonneg k), Int.toNat_natCast, Nat.pow_eq]

lemma ofDecimal_neg_natCast (negative : Bool) (digits k : ℕ) :
    ofDecimal negative digits (-(k : ℤ)) = ofRatio negative digits (10 ^ k) := by
  rcases Nat.lt_or_ge 330 k with hk | hk
  · unfold ofDecimal
    split
    · rename_i hzero
      rw [hzero, ofRatio, Nat.zero_mul, nearestRank_zero (Nat.pow_pos (by decide))]
      rfl
    · rw [if_neg (by omega)]
      split
      · -- the number is less than half of the least positive double
        rename_i hsmall
        have hhalf : 2 * (digits * unitsPerOne) < 10 ^ k :=
          calc 2 * (digits * unitsPerOne)
            _ = digits * (2 * unitsPerOne) := Nat.mul_left_comm ..
            _ < 2 ^ (digits.log2 + 1) * (2 * unitsPerOne) :=
              Nat.mul_lt_mul_of_pos_right Nat.lt_log2_self (by decide +kernel)
            _ = 2 ^ digits.log2 * (2 * (2 * unitsPerOne)) := by rw [Nat.pow_succ, Nat.mul_assoc]
            _ ≤ 10 ^ digits.log2 * (10 ^ 165 * 10 ^ 166) :=
              Nat.mul_le_mul (Nat.pow_le_pow_left (by decide) _) (by decide +kernel)
            _ ≤ 10 ^ digits.log2 * 10 ^ (k - digits.log2) :=
              Nat.mul_le_mul_left _ (ten_pow_mul_le (by omega))
            _ = 10 ^ k := by rw [← Nat.pow_add, Nat.add_sub_cancel' (by omega)]
        rw [ofRatio, nearestRank_eq_zero hhalf]
        rfl
      · rw [if_neg (by omega), Int.neg_neg, Int.toNat_natCast, Nat.pow_eq]
  · exact ofDecimal_neg negative digits hk

/-! ## The nearest double -/

/-- A finite double that is no further from a number than any other one. -/
def IsNearest (x : Double) (q : ℚ) : Prop :=
  x.isFinite = true ∧ ∀ y : Double, y.isFinite = true → |x.toRat - q| ≤ |y.toRat - q|

/-- The sign of a number as a factor. -/
def signFactor (negative : Bool) : ℚ := if negative then -1 else 1

lemma abs_signFactor (negative : Bool) : |signFactor negative| = 1 := by
  cases negative <;> simp [signFactor]

lemma toRat_signed (negative : Bool) (m : Magnitude) :
    toRat (.signed negative m) = signFactor negative * m.toRat := by
  cases negative <;> simp [toRat, signFactor]

/-- The distance of the value of a rank from a quotient, by cross multiplication. -/
lemma abs_div_sub_div (units one : ℕ) (num : ℕ) {den : ℕ} (hone : 0 < one) (hden : 0 < den) :
    |(units : ℚ) / one - num / den| = (Nat.dist (units * den) (num * one) : ℕ) / (one * den) := by
  have hone' : (0 : ℚ) < one := Nat.cast_pos.2 hone
  have hden' : (0 : ℚ) < den := Nat.cast_pos.2 hden
  have hcross : (units : ℚ) / one - num / den
      = ((units * den : ℕ) - (num * one : ℕ)) / (one * den) := by
    push_cast
    field_simp
  rw [cast_dist, hcross, abs_div, abs_of_pos (mul_pos hone' hden')]

/-- The finite double that is read from a quotient is nearest to it.  A double of the other sign is
no nearer than the one of the same magnitude. -/
lemma isNearest_ofRatio {negative : Bool} (hden : 0 < den)
    (hfinite : (ofRatio negative num den).isFinite = true) :
    IsNearest (ofRatio negative num den) (signFactor negative * (num / den)) := by
  have hrank : nearestRank (num * unitsPerOne) den < infinityRank := isFinite_ofRank.1 hfinite
  refine ⟨hfinite, fun y hy => ?_⟩
  cases y with
  | nan => cases hy
  | signed negative' m =>
    have hmagnitude : |(unitsOfRank (nearestRank (num * unitsPerOne) den) : ℚ) / unitsPerOne
        - num / den| ≤ |m.toRat - num / den| := by
      rw [Magnitude.toRat, Magnitude.units, abs_div_sub_div _ _ _ unitsPerOne_pos hden,
        abs_div_sub_div _ _ _ unitsPerOne_pos hden]
      exact div_le_div_of_nonneg_right (Nat.cast_le.2 (dist_nearestRank_le _ hden _))
        (mul_nonneg (Nat.cast_nonneg _) (Nat.cast_nonneg _))
    have hquotient : (0 : ℚ) ≤ num / den := by positivity
    calc |toRat (ofRatio negative num den) - signFactor negative * (num / den)|
      _ = |(unitsOfRank (nearestRank (num * unitsPerOne) den) : ℚ) / unitsPerOne - num / den| := by
        rw [ofRatio, toRat_signed, ← mul_sub, abs_mul, abs_signFactor, one_mul, Magnitude.toRat,
          Magnitude.units, Magnitude.rank_ofRank hrank]
      _ ≤ |m.toRat - num / den| := hmagnitude
      _ = |(|toRat (.signed negative' m)| - |signFactor negative * (num / den)|)| := by
        rw [toRat_signed, abs_mul, abs_signFactor, abs_mul, abs_signFactor, one_mul, one_mul,
          abs_of_nonneg m.toRat_nonneg, abs_of_nonneg hquotient]
      _ ≤ |toRat (.signed negative' m) - signFactor negative * (num / den)| :=
        abs_abs_sub_abs_le _ _

/-! ## Decimals -/

/-- A decimal is read as a finite double exactly below the least number that is read as infinity. -/
lemma isFinite_ofDecimal_iff (negative : Bool) (digits : ℕ) (exponent : ℤ) :
    (ofDecimal negative digits exponent).isFinite = true
      ↔ (digits : ℚ) * 10 ^ exponent < leastInfinite := by
  obtain ⟨k, rfl | rfl⟩ := exponent.eq_nat_or_neg
  · rw [ofDecimal_natCast, isFinite_ofRatio_iff _ _ Nat.one_pos, zpow_natCast, Nat.mul_one]
    generalize leastInfinite = bound
    exact_mod_cast Iff.rfl
  · have hpow : (0 : ℚ) < 10 ^ k := by positivity
    rw [ofDecimal_neg_natCast, isFinite_ofRatio_iff _ _ (Nat.pow_pos (by decide)), zpow_neg,
      zpow_natCast, ← div_eq_mul_inv, div_lt_iff₀ hpow]
    generalize leastInfinite = bound
    exact_mod_cast Iff.rfl

/-- The finite double that is read from a decimal is nearest to it. -/
lemma isNearest_ofDecimal {negative : Bool} {digits : ℕ} {exponent : ℤ}
    (hfinite : (ofDecimal negative digits exponent).isFinite = true) :
    IsNearest (ofDecimal negative digits exponent)
      (signFactor negative * (digits * 10 ^ exponent)) := by
  obtain ⟨k, rfl | rfl⟩ := exponent.eq_nat_or_neg
  · rw [ofDecimal_natCast] at hfinite ⊢
    simpa using isNearest_ofRatio Nat.one_pos hfinite
  · rw [ofDecimal_neg_natCast] at hfinite ⊢
    simpa [div_eq_mul_inv] using isNearest_ofRatio (Nat.pow_pos (by decide)) hfinite

end Double

end GridRules
