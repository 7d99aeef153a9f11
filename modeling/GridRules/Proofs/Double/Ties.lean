import GridRules.Proofs.Double.Reading
import Mathlib.Order.WithBot

/-!
# Rounding to a double

The double to which a number is rounded is told apart from how it is found
(`Magnitude.Rounds`): it is nearer than any other finite double, or as near as another one and of
even rank, and from half a step above the greatest finite double on it is infinity.  There is only
one such double (`Magnitude.Rounds.unique`), because two of even rank have one between them.  What
is read from a quotient or from a decimal is that double (`Double.isRounded_ofRatio`,
`Double.isRounded_ofDecimal`).
-/

namespace GridRules

/-! ## Ties between ranks -/

/-- If another rank is as near to a quotient as the nearer one of two neighbours, that one is
even. -/
lemma nearerRank_even_of_tie {low num den rank : ℕ} (hbelow : unitsOfRank low * den ≤ num)
    (habove : num < unitsOfRank (low + 1) * den) (hne : rank ≠ nearerRank low num den)
    (htie : Nat.dist (unitsOfRank rank * den) num
      = Nat.dist (unitsOfRank (nearerRank low num den) * den) num) :
    nearerRank low num den % 2 = 0 := by
  have hden : 0 < den := Nat.pos_of_ne_zero fun hzero => by
    rw [hzero, Nat.mul_zero] at habove
    exact Nat.not_lt_zero _ habove
  -- every rank but the two neighbours lies strictly beyond one of them
  have hside : rank = low ∨ rank = low + 1 ∨ unitsOfRank rank * den < unitsOfRank low * den
      ∨ unitsOfRank (low + 1) * den < unitsOfRank rank * den := by
    rcases Nat.lt_trichotomy rank low with h | h | h
    · exact .inr (.inr (.inl (unitsOfRank_mul_lt hden h)))
    · exact .inl h
    · rcases Nat.lt_or_ge (low + 1) rank with h' | h'
      · exact .inr (.inr (.inr (unitsOfRank_mul_lt hden h')))
      · exact .inr (.inl (by omega))
  rw [nearerRank, Nat.add_mul] at *
  unfold Nat.dist at htie
  cases hcmp : compare (2 * num) (unitsOfRank low * den + unitsOfRank (low + 1) * den) with
  | lt =>
    rw [hcmp] at hne htie
    rw [Nat.compare_eq_lt] at hcmp
    dsimp only at hne htie
    rcases hside with rfl | rfl | h | h
    · exact absurd rfl hne
    · omega
    · omega
    · omega
  | gt =>
    rw [hcmp] at hne htie
    rw [Nat.compare_eq_gt] at hcmp
    dsimp only at hne htie
    rcases hside with rfl | rfl | h | h
    · omega
    · exact absurd rfl hne
    · omega
    · omega
  | eq =>
    dsimp only
    omega

/-- If another rank is as near to a quotient as the nearest one, that one is even. -/
lemma nearestRank_even_of_tie {num den rank : ℕ} (hden : 0 < den) (hne : rank ≠ nearestRank num den)
    (htie : Nat.dist (unitsOfRank rank * den) num
      = Nat.dist (unitsOfRank (nearestRank num den) * den) num) :
    nearestRank num den % 2 = 0 := by
  obtain ⟨hlow, hhigh⟩ := floorRank_spec (num / den)
  exact nearerRank_even_of_tie
    ((Nat.mul_le_mul_right den hlow).trans (Nat.div_mul_le_self num den))
    (Nat.lt_mul_of_div_lt hhigh hden) hne htie

/-! ## Rounded magnitudes -/

namespace Magnitude

/-- A finite magnitude is nearer to a number than any other one, or as near and of even rank. -/
def IsNearestEven (m : Magnitude) (q : ℚ) : Prop :=
  m.isFinite = true ∧ ∀ y : Magnitude, y.isFinite = true → y ≠ m →
    |m.toRat - q| < |y.toRat - q| ∨ |m.toRat - q| = |y.toRat - q| ∧ m.rank % 2 = 0

/-- A magnitude is the one to which a nonnegative number is rounded; the number `⊤` is infinite. -/
def Rounds (m : Magnitude) : WithTop ℚ → Prop
  | ⊤ => m = .infinity
  | (q : ℚ) => if q < leastInfinite then m.IsNearestEven q else m = .infinity

variable {m y : Magnitude} {q : ℚ}

lemma rounds_top_iff : m.Rounds ⊤ ↔ m = .infinity := Iff.rfl

lemma rounds_coe_iff :
    m.Rounds (q : WithTop ℚ) ↔ if q < leastInfinite then m.IsNearestEven q else m = .infinity :=
  Iff.rfl

lemma toRat_lt {m y : Magnitude} (h : m.rank < y.rank) : m.toRat < y.toRat :=
  div_lt_div_of_pos_right (Nat.cast_lt.2 (unitsOfRank_strictMono h))
    (Nat.cast_pos.2 unitsPerOne_pos)

lemma eq_of_rank_eq {m y : Magnitude} (h : m.rank = y.rank) : m = y := by
  cases m
  cases y
  exact (Magnitude.mk.injEq ..).mpr h

namespace IsNearestEven

lemma le (h : m.IsNearestEven q) (hy : y.isFinite = true) : |m.toRat - q| ≤ |y.toRat - q| := by
  by_cases hne : y = m
  · rw [hne]
  · exact (h.2 y hy hne).elim le_of_lt fun htie => htie.1.le

lemma not_rank_lt (h : m.IsNearestEven q) (h' : y.IsNearestEven q) : ¬ m.rank < y.rank := by
  intro hlt
  have hvalue := toRat_lt hlt
  have hdist : |m.toRat - q| = |y.toRat - q| := le_antisymm (h.le h'.1) (h'.le h.1)
  have heven : m.rank % 2 = 0 :=
    ((h.2 y h'.1 (by rintro rfl; exact lt_irrefl _ hlt)).resolve_left hdist.not_lt).2
  have heven' : y.rank % 2 = 0 :=
    ((h'.2 m h.1 (by rintro rfl; exact lt_irrefl _ hlt)).resolve_left hdist.not_gt).2
  -- the magnitude after the lower one lies between the two, and the number in their middle
  have hfinite : m.rank + 1 < infinityRank :=
    lt_trans (by omega : m.rank + 1 < y.rank) (of_decide_eq_true h'.1)
  have hbetween := h.le (y := ofRank (m.rank + 1)) (Double.isFinite_ofRank.2 hfinite)
  have habove : m.toRat < (ofRank (m.rank + 1)).toRat :=
    toRat_lt (by rw [rank_ofRank hfinite]; exact Nat.lt_succ_self _)
  have hbelow : (ofRank (m.rank + 1)).toRat < y.toRat :=
    toRat_lt (by rw [rank_ofRank hfinite]; omega)
  rcases abs_eq_abs.1 hdist with hsame | hmiddle
  · linarith
  · rw [abs_of_neg (by linarith : m.toRat - q < 0), le_abs] at hbetween
    rcases hbetween with hbetween | hbetween
    · linarith
    · linarith

end IsNearestEven

/-- A number is rounded to one magnitude only. -/
lemma Rounds.unique {q : WithTop ℚ} (h : m.Rounds q) (h' : y.Rounds q) : y = m := by
  cases q with
  | top => rw [rounds_top_iff.1 h, rounds_top_iff.1 h']
  | coe q =>
    rw [rounds_coe_iff] at h h'
    split at h
    · rename_i hlt
      rw [if_pos hlt] at h'
      exact eq_of_rank_eq (Nat.le_antisymm (Nat.le_of_not_lt (h.not_rank_lt h'))
        (Nat.le_of_not_lt (h'.not_rank_lt h)))
    · rename_i hge
      rw [if_neg hge] at h'
      rw [h, h']

/-- The nearest rank of a quotient is that of the rounded magnitude. -/
lemma rounds_ofRank {num den : ℕ} (hden : 0 < den) :
    (ofRank (nearestRank (num * unitsPerOne) den)).Rounds ((num / den : ℚ) : WithTop ℚ) := by
  have hden' : (0 : ℚ) < den := Nat.cast_pos.2 hden
  have hrange : (num : ℚ) / den < leastInfinite ↔ num < leastInfinite * den := by
    rw [div_lt_iff₀ hden']
    generalize leastInfinite = bound
    exact_mod_cast Iff.rfl
  rw [rounds_coe_iff]
  split
  · rename_i hlt
    have hfinite := (Double.isFinite_ofRatio_iff false num hden).2 (hrange.1 hlt)
    have hrank := Double.isFinite_ofRank.1 hfinite
    refine ⟨hfinite, fun y hy hne => ?_⟩
    have hne' : y.rank ≠ nearestRank (num * unitsPerOne) den := fun heq =>
      hne (eq_of_rank_eq (heq.trans (rank_ofRank hrank).symm))
    have hscale : (0 : ℚ) < unitsPerOne * den := mul_pos (Nat.cast_pos.2 unitsPerOne_pos) hden'
    rw [toRat, toRat, units, units, rank_ofRank hrank,
      Double.abs_div_sub_div _ _ _ unitsPerOne_pos hden,
      Double.abs_div_sub_div _ _ _ unitsPerOne_pos hden, div_lt_div_iff_of_pos_right hscale,
      div_left_inj' hscale.ne', Nat.cast_lt, Nat.cast_inj]
    rcases (dist_nearestRank_le (num * unitsPerOne) hden y.rank).lt_or_eq with hlt | htie
    · exact .inl hlt
    · exact .inr ⟨htie, nearestRank_even_of_tie hden hne' htie.symm⟩
  · rename_i hge
    have hinfinite := Double.ofRatio_eq_infinity false hden (Nat.not_lt.1 (mt hrange.2 hge))
    exact (Double.signed.injEq .. ▸ hinfinite).2

end Magnitude

/-! ## Rounded doubles -/

namespace Double

/-- A double is the one to which a number is rounded, and it has a sign. -/
def IsRounded (x : Double) (negative : Bool) (q : WithTop ℚ) : Prop :=
  ∃ m : Magnitude, x = .signed negative m ∧ m.Rounds q

variable {x : Double} {negative : Bool} {q : WithTop ℚ}

lemma IsRounded.iff_eq (h : x.IsRounded negative q) (y : Double) :
    y.IsRounded negative q ↔ y = x := by
  constructor
  · obtain ⟨m, rfl, hm⟩ := h
    rintro ⟨m', rfl, hm'⟩
    rw [hm.unique hm']
  · rintro rfl
    exact h

lemma isRounded_infinity (negative : Bool) : (infinity negative).IsRounded negative ⊤ :=
  ⟨.infinity, rfl, rfl⟩

lemma isRounded_ofRatio (negative : Bool) (num : ℕ) {den : ℕ} (hden : 0 < den) :
    (ofRatio negative num den).IsRounded negative ((num / den : ℚ) : WithTop ℚ) :=
  ⟨_, rfl, Magnitude.rounds_ofRank hden⟩

lemma isRounded_ofInt (n : ℕ) : (ofInt n).IsRounded false ((n : ℚ) : WithTop ℚ) := by
  have hsign : decide ((n : ℤ) < 0) = false := decide_eq_false (by omega)
  have hround := isRounded_ofRatio false n Nat.one_pos
  rw [Nat.cast_one, div_one] at hround
  rwa [ofInt, hsign, Int.natAbs_natCast]

lemma isRounded_ofDecimal (negative : Bool) (digits : ℕ) (exponent : ℤ) :
    (ofDecimal negative digits exponent).IsRounded negative
      ((digits * 10 ^ exponent : ℚ) : WithTop ℚ) := by
  obtain ⟨k, rfl | rfl⟩ := exponent.eq_nat_or_neg
  · rw [ofDecimal_natCast]
    simpa using isRounded_ofRatio negative (digits * 10 ^ k) Nat.one_pos
  · have hround := isRounded_ofRatio negative digits (Nat.pow_pos (n := k) (by decide : 0 < 10))
    rw [ofDecimal_neg_natCast]
    simpa [div_eq_mul_inv] using hround

end Double

end GridRules
