import GridRules.Proofs.Double.Fixed
import Mathlib.Data.Rat.Floor
import Mathlib.Tactic.FieldSimp
import Mathlib.Tactic.Linarith
import Mathlib.Tactic.Positivity
import Mathlib.Tactic.Ring

/-!
# The value of a double

A finite double is a rational number (`Double.toRat`), and the order of finite doubles is the order
of these numbers (`Double.toRat_le_of_compare?`).  Rounding to decimal places is told apart from how
it is computed: a number is rounded to the nearest one of so many places, and to the one with an
even last digit when two are as near (`RoundsTo`).  There is at most one such number, and it grows
with the number that is rounded (`RoundsTo.mono`).  The scaled magnitude is that number
(`Magnitude.roundsTo_rounded`).
-/

namespace GridRules

/-! ## Rounding to decimal places -/

/-- A rational number is rounded to another one of so many decimal places: that one is less than
half a step away, or half a step and its last digit is even. -/
def RoundsTo (places : ℕ) (q r : ℚ) : Prop :=
  ∃ k : ℤ, r * 10 ^ places = k ∧
    (2 * |q * 10 ^ places - k| < 1 ∨ 2 * |q * 10 ^ places - k| = 1 ∧ Even k)

namespace RoundsTo

variable {places : ℕ} {q q' r r' : ℚ}

lemma neg (h : RoundsTo places q r) : RoundsTo places (-q) (-r) := by
  obtain ⟨k, hr, hnear⟩ := h
  have hdist : |-q * 10 ^ places - ((-k : ℤ) : ℚ)| = |q * 10 ^ places - k| := by
    rw [← abs_neg]
    congr 1
    push_cast
    ring
  refine ⟨-k, by rw [neg_mul, hr, Int.cast_neg], ?_⟩
  rw [hdist, even_neg]
  exact hnear

/-- A greater number is not rounded to a smaller one. -/
lemma mono (h : RoundsTo places q r) (h' : RoundsTo places q' r') (hle : q ≤ q') : r ≤ r' := by
  obtain ⟨k, hr, hnear⟩ := h
  obtain ⟨k', hr', hnear'⟩ := h'
  have hpow : (0 : ℚ) < 10 ^ places := by positivity
  have hscaled : q * 10 ^ places ≤ q' * 10 ^ places := mul_le_mul_of_nonneg_right hle hpow.le
  suffices hk : k ≤ k' by
    have hcast : (k : ℚ) ≤ k' := Int.cast_le.2 hk
    rw [← hr, ← hr'] at hcast
    exact le_of_mul_le_mul_right hcast hpow
  by_contra hlt
  -- one step lies between them, so both are half a step away and both are even
  have hstep : (k' : ℚ) + 1 ≤ k := by exact_mod_cast not_le.1 hlt
  have hhalf : 2 * |q * 10 ^ places - k| ≤ 1 := hnear.elim le_of_lt fun h => h.1.le
  have hhalf' : 2 * |q' * 10 ^ places - k'| ≤ 1 := hnear'.elim le_of_lt fun h => h.1.le
  have hbelow := neg_abs_le (q * 10 ^ places - k)
  have habove := le_abs_self (q' * 10 ^ places - k')
  have heven : Even k := (hnear.resolve_left (by linarith)).2
  have heven' : Even k' := (hnear'.resolve_left (by linarith)).2
  have hone : k = k' + 1 := by
    have hcast : (k : ℚ) = k' + 1 := by linarith
    exact_mod_cast hcast
  rw [hone] at heven
  exact Int.not_even_iff_odd.2 heven'.add_one heven

lemma unique (h : RoundsTo places q r) (h' : RoundsTo places q r') : r' = r :=
  le_antisymm (h'.mono h le_rfl) (h.mono h' le_rfl)

end RoundsTo

/-! ## Values -/

lemma cast_dist (a b : ℕ) : ((Nat.dist a b : ℕ) : ℚ) = |(a : ℚ) - b| := by
  rcases le_total a b with h | h
  · rw [Nat.dist_eq_sub_of_le h, Nat.cast_sub h, abs_sub_comm,
      abs_of_nonneg (sub_nonneg.2 (Nat.cast_le.2 h))]
  · rw [Nat.dist_eq_sub_of_le_right h, Nat.cast_sub h,
      abs_of_nonneg (sub_nonneg.2 (Nat.cast_le.2 h))]

/-- The exact value of a finite magnitude. -/
def Magnitude.toRat (m : Magnitude) : ℚ := m.units / unitsPerOne

/-- The exact value of a finite double. -/
def Double.toRat : Double → ℚ
  | .nan => 0
  | .signed negative m => if negative then -m.toRat else m.toRat

namespace Magnitude

variable {m : Magnitude}

lemma toRat_nonneg (m : Magnitude) : 0 ≤ m.toRat :=
  div_nonneg (Nat.cast_nonneg _) (Nat.cast_nonneg _)

lemma toRat_mono {m y : Magnitude} (h : m.rank ≤ y.rank) : m.toRat ≤ y.toRat :=
  div_le_div_of_nonneg_right (Nat.cast_le.2 (unitsOfRank_strictMono.monotone h))
    (Nat.cast_nonneg _)

lemma toRat_of_rank_eq_zero (h : m.rank = 0) : m.toRat = 0 := by
  have hunits : unitsOfRank 0 = 0 := rfl
  rw [toRat, units, h, hunits, Nat.cast_zero, zero_div]

/-- The rounded magnitude as a number. -/
def rounded (m : Magnitude) (places : ℕ) : ℚ := m.scaled places / 10 ^ places

lemma rounded_nonneg (m : Magnitude) (places : ℕ) : 0 ≤ m.rounded places := by
  unfold rounded
  positivity

/-- The steps of the last place that are computed are the number that a magnitude rounds to. -/
lemma roundsTo_rounded (m : Magnitude) (places : ℕ) :
    RoundsTo places m.toRat (m.rounded places) := by
  generalize hk : m.scaled places = k
  have hround : RoundsHalfEven (m.units * 10 ^ places) unitsPerOne k := by
    rw [← hk, scaled, Nat.pow_eq]
    exact roundsHalfEven_roundHalfEven _ unitsPerOne_pos
  have hone : (0 : ℚ) < unitsPerOne := Nat.cast_pos.2 unitsPerOne_pos
  have hpow : (0 : ℚ) < 10 ^ places := by positivity
  have hdist : |m.toRat * 10 ^ places - k| * unitsPerOne
      = Nat.dist (m.units * 10 ^ places) (k * unitsPerOne) := by
    have hscaled : (m.toRat * 10 ^ places - k) * unitsPerOne
        = (m.units * 10 ^ places : ℕ) - (k * unitsPerOne : ℕ) := by
      rw [toRat]
      generalize unitsPerOne = one at hone
      push_cast
      field_simp
    rw [cast_dist, ← hscaled, abs_mul, abs_of_pos hone]
  refine ⟨k, ?_, ?_⟩
  · rw [rounded, hk, Int.cast_natCast, div_mul_cancel₀ _ hpow.ne']
  · rw [Int.cast_natCast]
    rcases hround with hnear | ⟨htie, heven⟩
    · refine .inl (lt_of_mul_lt_mul_right ?_ hone.le)
      rw [mul_assoc, hdist, one_mul]
      exact_mod_cast hnear
    · refine .inr ⟨mul_right_cancel₀ hone.ne' ?_, ?_⟩
      · rw [mul_assoc, hdist, one_mul]
        exact_mod_cast htie
      · exact (Int.even_coe_nat k).2 (Nat.even_iff.2 heven)

end Magnitude

/-! ## The order of values -/

namespace Double

variable {x y : Double} {places : ℕ}

/-- A finite double rounded to decimal places, as a number. -/
def rounded (x : Double) (places : ℕ) : ℚ :=
  match x with
  | .nan => 0
  | .signed negative m => if negative then -m.rounded places else m.rounded places

lemma roundsTo_rounded (hx : x.isFinite = true) (places : ℕ) :
    RoundsTo places x.toRat (x.rounded places) := by
  cases x with
  | nan => cases hx
  | signed negative m =>
    cases negative with
    | false => exact m.roundsTo_rounded places
    | true => exact (m.roundsTo_rounded places).neg

/-- The order of finite doubles is the order of their values. -/
lemma toRat_le_of_compare? (hx : x.isFinite = true) (hy : y.isFinite = true)
    (h : x.compare? y ≠ some .gt) : x.toRat ≤ y.toRat := by
  cases x with
  | nan => cases hx
  | signed negative m =>
    cases y with
    | nan => cases hy
    | signed negative' m' =>
      have hplaces : ∀ {a b : ℤ}, some (compare a b) ≠ some Ordering.gt → a ≤ b := by
        intro a b hne
        by_contra hlt
        exact hne (congrArg some (Int.compare_eq_gt.2 (not_le.1 hlt)))
      cases negative with
      | false =>
        cases negative' with
        | false => exact Magnitude.toRat_mono (by exact_mod_cast hplaces h)
        | true =>
          -- nothing lies between the two zeros
          have hle : (m.rank : ℤ) ≤ -m'.rank := hplaces h
          have hzero : m.toRat = 0 := Magnitude.toRat_of_rank_eq_zero (by omega)
          have hzero' : m'.toRat = 0 := Magnitude.toRat_of_rank_eq_zero (by omega)
          rw [toRat, toRat, if_neg Bool.false_ne_true, if_pos rfl, hzero, hzero', neg_zero]
      | true =>
        cases negative' with
        | false => exact (neg_nonpos.2 m.toRat_nonneg).trans m'.toRat_nonneg
        | true =>
          have hle : (-m.rank : ℤ) ≤ -m'.rank := hplaces h
          exact neg_le_neg (Magnitude.toRat_mono (by omega))

end Double

end GridRules
