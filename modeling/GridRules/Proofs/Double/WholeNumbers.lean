import GridRules.Proofs.Double.Exact
import GridRules.Proofs.Double.Shortest

/-!
# Whole numbers as doubles

Rounding keeps the order: of two whole numbers the greater one is not read as a smaller double
(`Double.totalPlace_ofInt_mono`).  It does not keep them apart.  Two whole numbers are read as one
double only when both lie on one side of zero and at least two to the power of 53 away from it, and
then their distance is a small part of their size (`Double.eq_or_large_of_ofInt_eq`).
-/

namespace GridRules

/-! ## Nearest ranks in order -/

/-- Of two quotients the greater one has no smaller rank. -/
lemma nearestRank_mono {num num' den : ℕ} (hden : 0 < den) (h : num ≤ num') :
    nearestRank num den ≤ nearestRank num' den := by
  by_contra hlt
  have hvalue := unitsOfRank_mul_lt hden (Nat.lt_of_not_le hlt)
  have hnear := dist_nearestRank_le num hden (nearestRank num' den)
  have hnear' := dist_nearestRank_le num' hden (nearestRank num den)
  -- the smaller quotient lies above the middle of the two values and the greater one below it
  have hsame : num = num' := by
    unfold Nat.dist at hnear hnear'
    omega
  exact hlt (hsame ▸ le_rfl)

/-- The nearest rank is at most half a step away from the quotient. -/
lemma two_mul_dist_nearestRank_le (num : ℕ) {den : ℕ} (hden : 0 < den) :
    2 * Nat.dist (unitsOfRank (nearestRank num den) * den) num
      ≤ stepOfRank (floorRank (num / den)) * den := by
  obtain ⟨hlow, hhigh⟩ := floorRank_spec (num / den)
  have hbelow := (Nat.mul_le_mul_right den hlow).trans (Nat.div_mul_le_self num den)
  have habove := Nat.lt_mul_of_div_lt hhigh hden
  have hnear := dist_nearestRank_le num hden (floorRank (num / den))
  have hnear' := dist_nearestRank_le num hden (floorRank (num / den) + 1)
  rw [unitsOfRank_succ, ← stepOfRank, Nat.add_mul] at habove hnear'
  unfold Nat.dist at *
  omega

/-! ## Whole numbers of one rank -/

section WholeNumbers

variable {a b : ℕ}

/-- Twice the distance of a whole number from its double, 52 binary digits up, is no more than the
number. -/
lemma dist_nearestRank_whole_le (a : ℕ) :
    2 * Nat.dist (unitsOfRank (nearestRank (a * unitsPerOne) 1)) (a * unitsPerOne) * blockLength
      ≤ a * unitsPerOne := by
  rcases Nat.eq_zero_or_pos a with rfl | hpos
  · rw [Nat.zero_mul, nearestRank_zero Nat.one_pos]
    exact (Nat.zero_mul blockLength).le
  · have hhalf := two_mul_dist_nearestRank_le (a * unitsPerOne) Nat.one_pos
    rw [Nat.mul_one, Nat.mul_one, Nat.div_one] at hhalf
    have hfloor := (floorRank_spec (a * unitsPerOne)).1
    have hstep : stepOfRank (floorRank (a * unitsPerOne)) * blockLength ≤ a * unitsPerOne := by
      rcases step_le_units (floorRank (a * unitsPerOne)) with hone | hpart
      · have hblock : blockLength ≤ unitsPerOne := by decide +kernel
        rw [hone, Nat.one_mul]
        exact hblock.trans (Nat.le_mul_of_pos_left _ hpos)
      · exact hpart.trans hfloor
    exact (Nat.mul_le_mul_right blockLength hhalf).trans hstep

/-- Whole numbers of one rank differ in a small part of their size. -/
lemma dist_mul_le_of_nearestRank_eq
    (h : nearestRank (a * unitsPerOne) 1 = nearestRank (b * unitsPerOne) 1) :
    Nat.dist a b * 2 ^ 53 ≤ a + b := by
  have ha := dist_nearestRank_whole_le a
  have hb := dist_nearestRank_whole_le b
  rw [← h] at hb
  generalize unitsOfRank (nearestRank (a * unitsPerOne) 1) = units at ha hb
  have htriangle : Nat.dist a b * unitsPerOne
      ≤ Nat.dist units (a * unitsPerOne) + Nat.dist units (b * unitsPerOne) := by
    rw [← Nat.dist_mul_right, Nat.dist_comm units]
    exact Nat.dist.triangle_inequality _ _ _
  refine Nat.le_of_mul_le_mul_right ?_ unitsPerOne_pos
  calc Nat.dist a b * 2 ^ 53 * unitsPerOne
    _ = 2 * (Nat.dist a b * unitsPerOne) * blockLength := by
      rw [blockLength_eq]
      generalize unitsPerOne = one
      ring
    _ ≤ 2 * (Nat.dist units (a * unitsPerOne) + Nat.dist units (b * unitsPerOne))
        * blockLength :=
      Nat.mul_le_mul_right _ (Nat.mul_le_mul_left 2 htriangle)
    _ ≤ a * unitsPerOne + b * unitsPerOne := by
      rw [Nat.mul_add, Nat.add_mul]
      exact Nat.add_le_add ha hb
    _ = (a + b) * unitsPerOne := (Nat.add_mul a b _).symm

/-- A whole number of at most 53 binary digits is the value of its rank. -/
lemma unitsOfRank_nearestRank_whole (ha : a < 2 ^ 53) :
    nearestRank (a * unitsPerOne) 1 < 1076 * blockLength
      ∧ unitsOfRank (nearestRank (a * unitsPerOne) 1) = a * unitsPerOne := by
  rcases Nat.eq_zero_or_pos a with rfl | hpos
  · rw [Nat.zero_mul, nearestRank_zero Nat.one_pos]
    decide
  · obtain ⟨rank, hrank, hunits⟩ := exists_unitsOfRank_eq hpos ha
    have hnearest := nearestRank_units rank Nat.one_pos
    rw [Nat.mul_one (unitsOfRank rank), hunits] at hnearest
    rw [hnearest]
    exact ⟨hrank, hunits⟩

/-- A whole number of at most 53 binary digits shares its rank with no other one. -/
lemma eq_of_nearestRank_eq (ha : a < 2 ^ 53)
    (h : nearestRank (a * unitsPerOne) 1 = nearestRank (b * unitsPerOne) 1) : a = b := by
  obtain ⟨hrank, hunits⟩ := unitsOfRank_nearestRank_whole ha
  rcases Nat.lt_or_ge b (2 ^ 53) with hb | hb
  · have hunits' := (unitsOfRank_nearestRank_whole hb).2
    rw [← h, hunits] at hunits'
    exact Nat.eq_of_mul_eq_mul_right unitsPerOne_pos hunits'
  · -- the next double is nearer to the greater number
    exfalso
    have hnear := dist_nearestRank_le (b * unitsPerOne) Nat.one_pos
      (nearestRank (a * unitsPerOne) 1 + 1)
    rw [← h, Nat.mul_one, Nat.mul_one, hunits] at hnear
    have hnext := unitsOfRank_succ_le hrank
    have hgrow := unitsOfRank_strictMono (Nat.lt_add_one (nearestRank (a * unitsPerOne) 1))
    have hle : (a + 1) * unitsPerOne ≤ b * unitsPerOne :=
      Nat.mul_le_mul_right _ (ha.trans_le hb)
    rw [hunits] at hnext hgrow
    rw [Nat.add_mul, Nat.one_mul] at hle
    unfold Nat.dist at hnear
    omega

end WholeNumbers

/-! ## Whole numbers of one double -/

namespace Double

/-- No two doubles share a place in the total order. -/
lemma totalPlace_injective : Function.Injective totalPlace := by
  rintro (_ | ⟨negative, m⟩) (_ | ⟨negative', m'⟩) h
  · rfl
  · have hle := m'.rank_le
    cases negative' <;> simp only [totalPlace] at h <;> omega
  · have hle := m.rank_le
    cases negative <;> simp only [totalPlace] at h <;> omega
  · cases negative <;> cases negative' <;> simp only [totalPlace] at h
    · rw [Magnitude.eq_of_rank_eq (by omega : m.rank = m'.rank)]
    · omega
    · omega
    · rw [Magnitude.eq_of_rank_eq (by omega : m.rank = m'.rank)]

/-- The total order takes two doubles for equal only when they are the same. -/
lemma totalOrder_eq_eq_iff {x y : Double} : x.totalOrder y = .eq ↔ x = y := by
  rw [totalOrder, Int.compare_eq_eq]
  exact totalPlace_injective.eq_iff

lemma totalPlace_ofInt (n : ℤ) : (ofInt n).totalPlace
    = if n < 0 then -((min (nearestRank (n.natAbs * unitsPerOne) 1) infinityRank : ℕ) : ℤ) - 1
      else (min (nearestRank (n.natAbs * unitsPerOne) 1) infinityRank : ℕ) := by
  by_cases hn : n < 0 <;> simp [ofInt, ofRatio, totalPlace, Magnitude.ofRank, hn]

/-- A greater whole number is not read as a smaller double. -/
lemma totalPlace_ofInt_mono {m n : ℤ} (h : m ≤ n) :
    (ofInt m).totalPlace ≤ (ofInt n).totalPlace := by
  have hrank : ∀ {a b : ℕ}, a ≤ b →
      nearestRank (a * unitsPerOne) 1 ≤ nearestRank (b * unitsPerOne) 1 := fun hab =>
    nearestRank_mono Nat.one_pos (Nat.mul_le_mul_right _ hab)
  rw [totalPlace_ofInt, totalPlace_ofInt]
  split
  · split
    · have hranks := hrank (by omega : n.natAbs ≤ m.natAbs)
      omega
    · omega
  · rename_i hm
    rw [if_neg (by omega)]
    have hranks := hrank (by omega : m.natAbs ≤ n.natAbs)
    omega

/-- Whole numbers that are read as one finite double have one sign and one rank. -/
lemma nearestRank_eq_of_ofInt_eq {m n : ℤ} (hm : m.natAbs < leastInfinite)
    (hn : n.natAbs < leastInfinite) (h : ofInt m = ofInt n) : (m < 0 ↔ n < 0)
      ∧ nearestRank (m.natAbs * unitsPerOne) 1 = nearestRank (n.natAbs * unitsPerOne) 1 := by
  have hfinite : ∀ {a : ℕ}, a < leastInfinite →
      nearestRank (a * unitsPerOne) 1 < infinityRank := fun ha =>
    isFinite_ofRank.1 ((isFinite_ofRatio_iff false _ Nat.one_pos).2 (by rwa [Nat.mul_one]))
  obtain ⟨hsign, hmagnitude⟩ := Double.signed.inj h
  refine ⟨decide_eq_decide.1 hsign, ?_⟩
  rw [← Magnitude.rank_ofRank (hfinite hm), hmagnitude, Magnitude.rank_ofRank (hfinite hn)]

/-- Different whole numbers are read as one double only from two to the power of 53 on, and only
when their distance is a small part of their size. -/
lemma eq_or_large_of_ofInt_eq {m n : ℤ} (hm : m.natAbs < leastInfinite)
    (hn : n.natAbs < leastInfinite) (h : ofInt m = ofInt n) :
    (m = n ∨ 2 ^ 53 ≤ m ∧ 2 ^ 53 ≤ n ∨ m ≤ -2 ^ 53 ∧ n ≤ -2 ^ 53)
      ∧ |m - n| * 2 ^ 53 ≤ |m| + |n| := by
  obtain ⟨hsign, hrank⟩ := nearestRank_eq_of_ofInt_eq hm hn h
  have hdist := dist_mul_le_of_nearestRank_eq hrank
  constructor
  · by_cases hsmall : m.natAbs < 2 ^ 53
    · have hsame := eq_of_nearestRank_eq hsmall hrank
      omega
    · by_cases hsmall' : n.natAbs < 2 ^ 53
      · have hsame := eq_of_nearestRank_eq hsmall' hrank.symm
        omega
      · omega
  · have habs : (m - n).natAbs = Nat.dist m.natAbs n.natAbs := by
      unfold Nat.dist
      omega
    rw [Int.abs_eq_natAbs, Int.abs_eq_natAbs, Int.abs_eq_natAbs, habs]
    exact_mod_cast hdist

end Double

end GridRules
