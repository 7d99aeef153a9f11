import GridRules.Proofs.Double.Fixed

/-!
# Decimals of few digits

A decimal of at most fifteen digits is read as a double and rounded to its places, and it is the
decimal again (`Double.exists_exact`).  The double nearest to the decimal is at most one step away
(`dist_nearestRank_le_step`), and a step is so small a part of the value that fifteen digits are not
touched (`step_le_units`).
-/

namespace GridRules

/-- The distance of a rank to the next one, in units. -/
def stepOfRank (rank : Nat) : Nat := 2 ^ (rank / blockLength - 1)

/-- A step is one unit, or a small part of the value. -/
lemma step_le_units (rank : Nat) :
    stepOfRank rank = 1 ∨ stepOfRank rank * blockLength ≤ unitsOfRank rank := by
  obtain ⟨shift, a, rfl, ha, h, hshift⟩ := exists_block rank
  rw [stepOfRank, hshift, unitsOfRank_block ha.le h, Nat.mul_comm]
  rcases h with rfl | h
  · exact .inl (Nat.pow_zero 2)
  · exact .inr (Nat.mul_le_mul_right _ h)

/-- The nearest rank is at most one step away from the quotient. -/
lemma dist_nearestRank_le_step (num : Nat) {den : Nat} (hden : 0 < den) :
    Nat.dist (unitsOfRank (nearestRank num den) * den) num
      ≤ stepOfRank (floorRank (num / den)) * den := by
  obtain ⟨hlow, hhigh⟩ := floorRank_spec (num / den)
  have hbelow := (Nat.mul_le_mul_right den hlow).trans (Nat.div_mul_le_self num den)
  have habove : num < unitsOfRank (floorRank (num / den)) * den
      + stepOfRank (floorRank (num / den)) * den := by
    rw [← Nat.add_mul, stepOfRank, ← unitsOfRank_succ]
    exact Nat.lt_mul_of_div_lt hhigh hden
  refine (dist_nearestRank_le num hden (floorRank (num / den))).trans ?_
  unfold Nat.dist
  omega

namespace Double

/-- One half of the unit of the last place is wider than the step between the doubles near a decimal
of fifteen digits. -/
lemma step_lt_half {c k j : Nat} (hc : c * 10 ^ j < 10 ^ 15) (hplaces : k + j ≤ 20) :
    2 * (stepOfRank (floorRank (c * unitsPerOne / 10 ^ k)) * 10 ^ (k + j)) < unitsPerOne := by
  generalize hrank : floorRank (c * unitsPerOne / 10 ^ k) = rank
  rcases step_le_units rank with hone | hpart
  · have hfine : 2 * 10 ^ 20 < unitsPerOne := by decide +kernel
    have hpow : 10 ^ (k + j) ≤ 10 ^ 20 := Nat.pow_le_pow_right (by decide) hplaces
    rw [hone, Nat.one_mul]
    exact (Nat.mul_le_mul_left 2 hpow).trans_lt hfine
  · -- the value of the rank does not exceed the decimal, so neither do its steps
    have hvalue : unitsOfRank rank * 10 ^ k ≤ c * unitsPerOne := by
      rw [← hrank]
      exact (Nat.mul_le_mul_right _ (floorRank_spec _).1).trans (Nat.div_mul_le_self _ _)
    have hwide : stepOfRank rank * 10 ^ (k + j) * blockLength ≤ c * 10 ^ j * unitsPerOne :=
      calc stepOfRank rank * 10 ^ (k + j) * blockLength
        _ = stepOfRank rank * blockLength * 10 ^ k * 10 ^ j := by
          rw [Nat.pow_add, ← Nat.mul_assoc, Nat.mul_right_comm,
            Nat.mul_right_comm (stepOfRank rank)]
        _ ≤ unitsOfRank rank * 10 ^ k * 10 ^ j :=
          Nat.mul_le_mul_right _ (Nat.mul_le_mul_right _ hpart)
        _ ≤ c * unitsPerOne * 10 ^ j := Nat.mul_le_mul_right _ hvalue
        _ = c * 10 ^ j * unitsPerOne := Nat.mul_right_comm _ _ _
    have hdigits : c * 10 ^ j * unitsPerOne < 10 ^ 15 * unitsPerOne :=
      Nat.mul_lt_mul_of_pos_right hc unitsPerOne_pos
    have hblock := blockLength_eq
    generalize stepOfRank rank * 10 ^ (k + j) = step at hwide ⊢
    generalize c * 10 ^ j * unitsPerOne = decimal at hwide hdigits
    generalize unitsPerOne = one at hdigits ⊢
    rw [hblock] at hwide
    omega

/-- The double nearest to a decimal of at most fifteen digits is finite, and rounded to the places
of the decimal it is the decimal. -/
lemma exists_exact {c k j : Nat} (hc : c * 10 ^ j < 10 ^ 15) (hplaces : k + j ≤ 20)
    (negative : Bool) : ∃ y : Magnitude, ofRatio negative c (10 ^ k) = .signed negative y
      ∧ y.isFinite = true ∧ y.scaled (k + j) = c * 10 ^ j := by
  generalize hr : nearestRank (c * unitsPerOne) (10 ^ k) = r
  have hnear : 2 * Nat.dist (unitsOfRank r * 10 ^ (k + j)) (c * 10 ^ j * unitsPerOne)
      < unitsPerOne := by
    have hden : 0 < 10 ^ k := Nat.pow_pos (by decide)
    have hstep := dist_nearestRank_le_step (c * unitsPerOne) hden
    rw [hr] at hstep
    have hscale : ∀ units, units * 10 ^ k * 10 ^ j = units * 10 ^ (k + j) := fun units => by
      rw [Nat.mul_assoc, Nat.pow_add]
    have hwide := Nat.mul_le_mul_right (10 ^ j) hstep
    rw [← Nat.dist_mul_right, hscale, hscale, Nat.mul_right_comm c] at hwide
    exact (Nat.mul_le_mul_left 2 hwide).trans_lt (step_lt_half hc hplaces)
  have hfinite : r < infinityRank := by
    by_contra hge
    have hrange : 10 ^ 15 * unitsPerOne + unitsPerOne < unitsOfRank infinityRank := by
      decide +kernel
    have hlarge : unitsOfRank infinityRank ≤ unitsOfRank r * 10 ^ (k + j) :=
      (unitsOfRank_strictMono.monotone (Nat.le_of_not_lt hge)).trans
        (Nat.le_mul_of_pos_right _ (Nat.pow_pos (by decide)))
    have hdigits : c * 10 ^ j * unitsPerOne ≤ 10 ^ 15 * unitsPerOne := Nat.mul_le_mul_right _ hc.le
    unfold Nat.dist at hnear
    omega
  refine ⟨.ofRank r, by rw [ofRatio, hr], ?_, ?_⟩
  · rw [Magnitude.isFinite, Magnitude.rank_ofRank hfinite]
    exact decide_eq_true hfinite
  · rw [Magnitude.scaled, Magnitude.units, Magnitude.rank_ofRank hfinite, Nat.pow_eq,
      roundHalfEven_eq_iff unitsPerOne_pos]
    exact .inl hnear

end Double

end GridRules
