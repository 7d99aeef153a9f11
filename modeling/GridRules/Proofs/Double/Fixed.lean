import GridRules.Double.Fixed
import GridRules.Proofs.Double.Nearest

/-!
# Fixed decimal places

A magnitude rounded to a number of decimal places and read back is another magnitude in general,
but it rounds to the same places again (`Double.exists_read_back`).  The magnitude itself is at most
half a step away from the decimal, so what is nearest to the decimal is no further away; and where
it is exactly half a step away, the decimal was chosen because it is even, and is chosen again.
-/

namespace GridRules

/-! ## Rounding to a whole number -/

/-- A whole number to which a quotient is rounded: it is less than a half away, or a half and
even. -/
def RoundsHalfEven (num den k : Nat) : Prop :=
  2 * Nat.dist num (k * den) < den ∨ 2 * Nat.dist num (k * den) = den ∧ k % 2 = 0

section RoundHalfEven

variable {num den k : Nat}

lemma roundsHalfEven_roundHalfEven (num : Nat) (hden : 0 < den) :
    RoundsHalfEven num den (roundHalfEven num den) := by
  have hdiv : num / den * den + num % den = num := Nat.div_add_mod' num den
  have hmod : num % den < den := Nat.mod_lt _ hden
  rw [roundHalfEven]
  generalize num / den = q at hdiv ⊢
  generalize num % den = r at hdiv hmod ⊢
  unfold RoundsHalfEven Nat.dist
  cases hcmp : compare (2 * r) den with
  | lt =>
    rw [Nat.compare_eq_lt] at hcmp
    dsimp only
    omega
  | gt =>
    rw [Nat.compare_eq_gt] at hcmp
    dsimp only
    rw [Nat.succ_mul q den]
    omega
  | eq =>
    rw [Nat.compare_eq_eq] at hcmp
    dsimp only
    rcases Nat.mod_two_eq_zero_or_one q with hq | hq
    · rw [hq, Nat.add_zero]
      omega
    · rw [hq, Nat.succ_mul q den]
      omega

lemma RoundsHalfEven.not_lt {a b : Nat} (hden : 0 < den) (ha : RoundsHalfEven num den a)
    (hb : RoundsHalfEven num den b) : ¬ a < b := by
  intro hab
  have hstep : a * den + den ≤ b * den := by
    rw [← Nat.succ_mul]
    exact Nat.mul_le_mul_right den hab
  unfold RoundsHalfEven Nat.dist at ha hb
  -- both are half a step away, so both are even and two steps lie between them
  have heven : a % 2 = 0 ∧ b % 2 = 0 := by omega
  have htwo : a * den + den + den ≤ b * den := by
    rw [← Nat.succ_mul, ← Nat.succ_mul]
    exact Nat.mul_le_mul_right den (by omega)
  omega

lemma roundHalfEven_eq_iff (hden : 0 < den) :
    roundHalfEven num den = k ↔ RoundsHalfEven num den k := by
  have hround := roundsHalfEven_roundHalfEven num hden
  constructor
  · rintro rfl
    exact hround
  · intro hk
    exact Nat.le_antisymm (Nat.le_of_not_lt (hk.not_lt hden hround))
      (Nat.le_of_not_lt (hround.not_lt hden hk))

/-- A quotient that is no further from the whole number is rounded to it as well. -/
lemma roundHalfEven_of_dist_le {other : Nat} (hden : 0 < den) (h : roundHalfEven num den = k)
    (hle : Nat.dist other (k * den) ≤ Nat.dist num (k * den)) : roundHalfEven other den = k := by
  rw [roundHalfEven_eq_iff hden] at h ⊢
  unfold RoundsHalfEven at h ⊢
  omega

end RoundHalfEven

/-! ## Decimals of few places -/

lemma unitsPerOne_pos : 0 < unitsPerOne := by decide +kernel

/-- The step to infinity is longer than one. -/
lemma unitsOfRank_infinityRank :
    unitsOfRank (infinityRank - 1) + unitsPerOne < unitsOfRank infinityRank := by
  decide +kernel

lemma Magnitude.units_le_of_isFinite {m : Magnitude} (h : m.isFinite = true) :
    m.units ≤ unitsOfRank (infinityRank - 1) :=
  unitsOfRank_strictMono.monotone (Nat.le_sub_one_of_lt (of_decide_eq_true h))

lemma Magnitude.rank_ofRank {rank : Nat} (h : rank < infinityRank) : (ofRank rank).rank = rank :=
  Nat.min_eq_left h.le

/-- A rank that is no further from the decimal than the finite magnitude that was rounded to it is
finite: infinity is further away from the magnitude than two halves of a step. -/
lemma lt_infinityRank_of_dist_le {m : Magnitude} (hm : m.isFinite = true) {r steps k : Nat}
    (hsteps : 1 ≤ steps) (hround : RoundsHalfEven (m.units * steps) unitsPerOne k)
    (hnear : Nat.dist (unitsOfRank r * steps) (k * unitsPerOne)
      ≤ Nat.dist (m.units * steps) (k * unitsPerOne)) : r < infinityRank := by
  by_contra hge
  have hgap : m.units + unitsPerOne < unitsOfRank r :=
    calc m.units + unitsPerOne
      _ ≤ unitsOfRank (infinityRank - 1) + unitsPerOne :=
        Nat.add_le_add_right (Magnitude.units_le_of_isFinite hm) _
      _ < unitsOfRank infinityRank := unitsOfRank_infinityRank
      _ ≤ unitsOfRank r := unitsOfRank_strictMono.monotone (Nat.le_of_not_lt hge)
  have hwide : m.units * steps + unitsPerOne * steps + steps ≤ unitsOfRank r * steps := by
    rw [← Nat.add_mul, ← Nat.succ_mul]
    exact Nat.mul_le_mul_right steps hgap
  have hones : unitsPerOne ≤ unitsPerOne * steps := Nat.le_mul_of_pos_right _ hsteps
  unfold RoundsHalfEven at hround
  unfold Nat.dist at hnear hround
  omega

namespace Double

/-- A decimal of few places is read by dividing. -/
lemma ofDecimal_neg (negative : Bool) (digits : Nat) {k : Nat} (hk : k ≤ 330) :
    ofDecimal negative digits (-(k : Int)) = ofRatio negative digits (10 ^ k) := by
  unfold ofDecimal
  split
  · rename_i hdigits
    rw [hdigits, ofRatio, Nat.zero_mul, nearestRank_zero (Nat.pow_pos (by decide))]
    rfl
  · rw [if_neg (by omega), if_neg (by omega)]
    split
    · obtain rfl : k = 0 := by omega
      rw [Nat.pow_zero]
      exact congrArg (ofRatio negative · 1) (Nat.mul_one digits)
    · rw [Int.neg_neg, Int.toNat_natCast, Nat.pow_eq]

/-- A finite magnitude is rounded to a decimal, here with zeros left out at its end.  The double
nearest to the decimal is finite and is rounded to the same decimal. -/
lemma exists_read_back {m : Magnitude} (hm : m.isFinite = true) {c k j : Nat}
    (hc : c * 10 ^ j = m.scaled (k + j)) (negative : Bool) :
    ∃ y : Magnitude, ofRatio negative c (10 ^ k) = .signed negative y ∧ y.isFinite = true
      ∧ y.scaled (k + j) = m.scaled (k + j) := by
  generalize hr : nearestRank (c * unitsPerOne) (10 ^ k) = r
  -- the magnitude is a candidate for what is nearest to the decimal
  have hnear : Nat.dist (unitsOfRank r * 10 ^ (k + j)) (m.scaled (k + j) * unitsPerOne)
      ≤ Nat.dist (m.units * 10 ^ (k + j)) (m.scaled (k + j) * unitsPerOne) := by
    have hden : 0 < 10 ^ k := Nat.pow_pos (by decide)
    have hnearest := dist_nearestRank_le (c * unitsPerOne) hden m.rank
    rw [hr] at hnearest
    have hscale : ∀ units, units * 10 ^ k * 10 ^ j = units * 10 ^ (k + j) := fun units => by
      rw [Nat.mul_assoc, Nat.pow_add]
    have hdecimal : c * unitsPerOne * 10 ^ j = m.scaled (k + j) * unitsPerOne := by
      rw [Nat.mul_right_comm, hc]
    have hwide := Nat.mul_le_mul_right (10 ^ j) hnearest
    rwa [← Nat.dist_mul_right, ← Nat.dist_mul_right, hscale, hscale, hdecimal] at hwide
  have hfinite : r < infinityRank :=
    lt_infinityRank_of_dist_le hm (Nat.one_le_pow _ _ (by decide))
      (roundsHalfEven_roundHalfEven _ unitsPerOne_pos) hnear
  refine ⟨.ofRank r, by rw [ofRatio, hr], ?_, ?_⟩
  · rw [Magnitude.isFinite, Magnitude.rank_ofRank hfinite]
    exact decide_eq_true hfinite
  · rw [Magnitude.scaled, Magnitude.units, Magnitude.rank_ofRank hfinite, Nat.pow_eq]
    exact roundHalfEven_of_dist_le unitsPerOne_pos rfl hnear

end Double

end GridRules
