import GridRules.Double.Rounding
import Mathlib.Data.Nat.Dist
import Mathlib.Order.Monotone.Basic
import Mathlib.Tactic.Lemma

/-!
# The nearest rank

The value of a rank is a whole number of units, and a quotient of units is compared with it by
cross multiplication, so that nothing here is rounded.  Values grow with the rank
(`unitsOfRank_strictMono`), every number of units lies between the values of its floor rank and of
the rank after it (`floorRank_spec`), and so no rank is nearer to a quotient than the nearest rank
(`dist_nearestRank_le`).
-/

namespace GridRules

/-! ## Values of ranks -/

lemma blockLength_eq : blockLength = 0x10000000000000 := rfl

/-- In a block neighbours have the same distance, up to and including the first value of the next
block. -/
lemma unitsOfRank_block {shift a : Nat} (ha : a ≤ 2 * blockLength)
    (h : shift = 0 ∨ blockLength ≤ a) :
    unitsOfRank (shift * blockLength + a) = a * 2 ^ shift := by
  rw [unitsOfRank, Nat.pow_eq]
  rw [blockLength_eq] at *
  rcases Nat.lt_or_ge a 0x10000000000000 with hlow | hlow
  · -- a subnormal number is its own value
    have hshift : shift = 0 := by omega
    subst hshift
    rw [if_pos (by omega)]
    omega
  · rw [if_neg (by omega)]
    rcases Nat.lt_or_ge a (2 * 0x10000000000000) with hhigh | hhigh
    · have hdiv : (shift * 0x10000000000000 + a) / 0x10000000000000 - 1 = shift := by omega
      have hmod : (shift * 0x10000000000000 + a) % 0x10000000000000 = a - 0x10000000000000 := by
        omega
      rw [hdiv, hmod, Nat.add_sub_cancel' hlow]
    · -- the first value of the next block
      have hdiv : (shift * 0x10000000000000 + a) / 0x10000000000000 - 1 = shift + 1 := by omega
      have hmod : (shift * 0x10000000000000 + a) % 0x10000000000000 = 0 := by omega
      have htwice : a = 2 * 0x10000000000000 := by omega
      rw [hdiv, hmod, htwice, Nat.pow_succ]
      omega

lemma exists_block (rank : Nat) : ∃ shift a, rank = shift * blockLength + a ∧ a < 2 * blockLength
    ∧ (shift = 0 ∨ blockLength ≤ a) ∧ rank / blockLength - 1 = shift := by
  rw [blockLength_eq]
  rcases Nat.lt_or_ge rank 0x10000000000000 with h | h
  · exact ⟨0, rank, by omega, by omega, .inl rfl, by omega⟩
  · exact ⟨rank / 0x10000000000000 - 1, 0x10000000000000 + rank % 0x10000000000000, by omega,
      by omega, .inr (by omega), rfl⟩

/-- The step from a value to the next one. -/
lemma unitsOfRank_succ (rank : Nat) :
    unitsOfRank (rank + 1) = unitsOfRank rank + 2 ^ (rank / blockLength - 1) := by
  obtain ⟨shift, a, rfl, ha, h, hshift⟩ := exists_block rank
  have hnext : shift = 0 ∨ blockLength ≤ a + 1 := h.imp_right fun hge => hge.trans (Nat.le_succ a)
  rw [hshift, Nat.add_assoc, unitsOfRank_block ha.le h, unitsOfRank_block ha hnext, Nat.succ_mul]

lemma unitsOfRank_strictMono : StrictMono unitsOfRank :=
  strictMono_nat_of_lt_succ fun rank => by
    rw [unitsOfRank_succ]
    exact Nat.lt_add_of_pos_right (Nat.two_pow_pos _)

lemma unitsOfRank_mul_lt {a b den : Nat} (hden : 0 < den) (h : a < b) :
    unitsOfRank a * den < unitsOfRank b * den :=
  Nat.mul_lt_mul_of_pos_right (unitsOfRank_strictMono h) hden

/-- A number of units lies between the values of its floor rank and of the rank after it. -/
lemma floorRank_spec (units : Nat) :
    unitsOfRank (floorRank units) ≤ units ∧ units < unitsOfRank (floorRank units + 1) := by
  have hpow : ∀ k : Nat, blockLength * 2 ^ k = 2 ^ (52 + k) := fun k => by
    rw [Nat.pow_add, blockLength_eq]
  rw [floorRank, Nat.pow_eq]
  generalize hshift : units.log2 - 52 = shift
  -- 53 binary digits are left after the shift, or fewer where nothing is shifted
  have hlt : units / 2 ^ shift < 2 * blockLength := by
    rw [Nat.div_lt_iff_lt_mul (Nat.two_pow_pos _), Nat.mul_assoc, hpow, ← Nat.pow_succ']
    exact Nat.lt_log2_self.trans_le (Nat.pow_le_pow_right (by decide) (by omega))
  have hge : shift = 0 ∨ blockLength ≤ units / 2 ^ shift := by
    rcases Nat.eq_zero_or_pos shift with hzero | hpos
    · exact .inl hzero
    · have hlog : units.log2 = 52 + shift := by omega
      have hne : units ≠ 0 := by
        rintro rfl
        rw [Nat.log2_zero] at hlog
        omega
      refine .inr ((Nat.le_div_iff_mul_le (Nat.two_pow_pos _)).2 ?_)
      rw [hpow, ← hlog]
      exact Nat.log2_self_le hne
  have hnext : shift = 0 ∨ blockLength ≤ units / 2 ^ shift + 1 :=
    hge.imp_right fun h => h.trans (Nat.le_succ _)
  rw [Nat.add_assoc, unitsOfRank_block hlt.le hge, unitsOfRank_block hlt hnext]
  exact ⟨Nat.div_mul_le_self _ _, Nat.lt_mul_of_div_lt (Nat.lt_succ_self _) (Nat.two_pow_pos _)⟩

/-! ## The nearest rank -/

/-- Between two neighbours the nearer one is as near to a quotient of units as any rank. -/
lemma dist_nearerRank_le {low num den : Nat} (hbelow : unitsOfRank low * den ≤ num)
    (habove : num < unitsOfRank (low + 1) * den) (rank : Nat) :
    Nat.dist (unitsOfRank (nearerRank low num den) * den) num
      ≤ Nat.dist (unitsOfRank rank * den) num := by
  -- every rank lies on one side of the quotient, beyond one of the neighbours
  have hside : unitsOfRank rank * den ≤ unitsOfRank low * den
      ∨ unitsOfRank (low + 1) * den ≤ unitsOfRank rank * den := by
    rcases Nat.lt_or_ge low rank with h | h
    · exact .inr (Nat.mul_le_mul_right den (unitsOfRank_strictMono.monotone h))
    · exact .inl (Nat.mul_le_mul_right den (unitsOfRank_strictMono.monotone h))
  rw [nearerRank, Nat.add_mul]
  unfold Nat.dist
  cases hcmp : compare (2 * num) (unitsOfRank low * den + unitsOfRank (low + 1) * den) with
  | lt =>
    rw [Nat.compare_eq_lt] at hcmp
    dsimp only
    omega
  | gt =>
    rw [Nat.compare_eq_gt] at hcmp
    dsimp only
    omega
  | eq =>
    -- a tie: both neighbours are as near
    rw [Nat.compare_eq_eq] at hcmp
    dsimp only
    rcases Nat.mod_two_eq_zero_or_one low with hmod | hmod
    · rw [hmod, Nat.add_zero]
      omega
    · rw [hmod]
      omega

/-- No rank is nearer to a quotient of units than the nearest rank. -/
lemma dist_nearestRank_le (num : Nat) {den : Nat} (hden : 0 < den) (rank : Nat) :
    Nat.dist (unitsOfRank (nearestRank num den) * den) num
      ≤ Nat.dist (unitsOfRank rank * den) num := by
  obtain ⟨hlow, hhigh⟩ := floorRank_spec (num / den)
  exact dist_nearerRank_le ((Nat.mul_le_mul_right den hlow).trans (Nat.div_mul_le_self num den))
    (Nat.lt_mul_of_div_lt hhigh hden) rank

lemma nearestRank_zero {den : Nat} (hden : 0 < den) : nearestRank 0 den = 0 := by
  have hnearest := dist_nearestRank_le 0 hden 0
  have hzero : unitsOfRank 0 = 0 := rfl
  rw [hzero, Nat.zero_mul, Nat.dist_self, Nat.dist_zero_right, Nat.le_zero, Nat.mul_eq_zero,
    or_iff_left hden.ne'] at hnearest
  exact unitsOfRank_strictMono.injective (hnearest.trans hzero.symm)

end GridRules
