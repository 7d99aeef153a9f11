import GridRules.Double.Shortest
import GridRules.Proofs.Decimal.PlainText
import GridRules.Proofs.Double.Ties
import GridRules.Proofs.Text.Digits

/-!
# Shortest texts of doubles

The text of a double with the shortest digits is read as that double (`Double.denotes_plainText`).
A number between the midpoints to the neighbours of a double is nearest to it
(`nearestRank_of_readsBack`), so every grid point that the search accepts reads back, and so does
the exact value with which the search ends.

Up to two to the power of 53 a whole number has the same text as its double
(`Double.plainText_ofInt`): no other whole number lies between the midpoints to the neighbours, so a
grid point that is accepted is the number itself, with some of the zeros at its end left to the
power of ten.
-/

namespace GridRules

open Text (Digits)

/-! ## Numbers that read back -/

/-- The value of a rank is nearest to that rank. -/
lemma nearestRank_units (rank : ℕ) {den : ℕ} (hden : 0 < den) :
    nearestRank (unitsOfRank rank * den) den = rank := by
  have hnearest := dist_nearestRank_le (unitsOfRank rank * den) hden rank
  rw [Nat.dist_self, Nat.le_zero] at hnearest
  have hsame := Nat.eq_of_mul_eq_mul_right hden (Nat.eq_of_dist_eq_zero hnearest)
  exact unitsOfRank_strictMono.injective hsame

/-- A number reads back when it lies between the midpoints to the neighbours, and for an odd rank on
neither of them. -/
lemma Magnitude.readsBack_iff {rank scale twice : ℕ} : readsBack rank scale twice = true
    ↔ (unitsOfRank (rank - 1) + unitsOfRank rank) * scale ≤ twice
      ∧ twice ≤ (unitsOfRank rank + unitsOfRank (rank + 1)) * scale
      ∧ (rank % 2 = 1 → (unitsOfRank (rank - 1) + unitsOfRank rank) * scale < twice
        ∧ twice < (unitsOfRank rank + unitsOfRank (rank + 1)) * scale) := by
  unfold readsBack
  dsimp only
  split
  · rename_i heven
    simp only [Bool.and_eq_true, decide_eq_true_eq]
    exact ⟨fun h => ⟨h.1, h.2, fun hodd => by omega⟩, fun h => ⟨h.1, h.2.1⟩⟩
  · rename_i hodd
    simp only [Bool.and_eq_true, decide_eq_true_eq]
    exact ⟨fun h => ⟨h.1.le, h.2.le, fun _ => h⟩, fun h => h.2.2 (by omega)⟩

/-- Half of a number that passes the test is nearest to the rank. -/
lemma nearestRank_of_readsBack {rank den num : ℕ} (hden : 0 < den)
    (h : Magnitude.readsBack rank den (2 * num) = true) : nearestRank num den = rank := by
  by_contra hne
  have hnear := dist_nearestRank_le num hden rank
  have heven := nearestRank_even_of_tie hden (Ne.symm hne)
  generalize nearestRank num den = other at hne hnear heven
  rw [Magnitude.readsBack_iff, Nat.add_mul, Nat.add_mul] at h
  unfold Nat.dist at hnear heven
  have hinj : ∀ {a b : ℕ}, unitsOfRank a * den = unitsOfRank b * den → a = b := fun hab =>
    unitsOfRank_strictMono.injective (Nat.eq_of_mul_eq_mul_right hden hab)
  -- another rank is as near only on a midpoint, when it is a neighbour and both are even
  rcases Nat.lt_or_gt_of_ne hne with hlt | hgt
  · have hlower : unitsOfRank other * den ≤ unitsOfRank (rank - 1) * den :=
      Nat.mul_le_mul_right den (unitsOfRank_strictMono.monotone (Nat.le_sub_one_of_lt hlt))
    have hbelow := unitsOfRank_mul_lt hden hlt
    have hneighbour := hinj (by omega : unitsOfRank other * den = unitsOfRank (rank - 1) * den)
    have htie := heven (by omega)
    omega
  · have hhigher : unitsOfRank (rank + 1) * den ≤ unitsOfRank other * den :=
      Nat.mul_le_mul_right den (unitsOfRank_strictMono.monotone hgt)
    have habove := unitsOfRank_mul_lt hden hgt
    have hneighbour := hinj (by omega : unitsOfRank (rank + 1) * den = unitsOfRank other * den)
    have htie := heven (by omega)
    omega

namespace Magnitude

/-- A grid point that is found passes the test. -/
lemma readsBack_of_gridPoint? {halfway : Halfway} {rank c : ℕ} {power : ℤ}
    (h : gridPoint? halfway rank power = some c) :
    readsBack rank (10 ^ (-power).toNat) (2 * (c * 10 ^ power.toNat * unitsPerOne)) = true := by
  have hstep : c * 10 ^ power.toNat * unitsPerOne = c * (unitsPerOne * 10 ^ power.toNat) := by
    generalize unitsPerOne = one
    rw [Nat.mul_comm one, Nat.mul_assoc]
  rw [hstep]
  unfold gridPoint? at h
  dsimp only at h
  split at h
  · rename_i hlow
    obtain rfl := Option.some.inj h
    exact (Bool.and_eq_true_iff.1 hlow).1
  · split at h
    · rename_i hhigh
      obtain rfl := Option.some.inj h
      exact hhigh
    · cases h

/-- The search ends with a decimal whose nearest rank is the one that is searched for. -/
lemma nearestRank_shortestFrom (halfway : Halfway) (rank fuel : ℕ) :
    nearestRank ((shortestFrom halfway rank fuel).coefficient
      * 10 ^ (shortestFrom halfway rank fuel).exponent.toNat * unitsPerOne)
      (10 ^ (-(shortestFrom halfway rank fuel).exponent).toNat) = rank := by
  induction fuel with
  | zero =>
    have hexact : unitsOfRank rank * 5 ^ 1074 * 10 ^ 0 * unitsPerOne
        = unitsOfRank rank * 10 ^ 1074 := by
      rw [unitsPerOne, Nat.pow_eq, Nat.pow_zero, Nat.mul_one, Nat.mul_assoc, ← Nat.mul_pow]
    have hnearest := nearestRank_units rank (Nat.pow_pos (n := 1074) (by decide : 0 < 10))
    rw [← hexact] at hnearest
    exact hnearest
  | succ fuel ih =>
    unfold shortestFrom
    dsimp only
    split
    · rename_i c hc
      have hnearest := nearestRank_of_readsBack (Nat.pow_pos (by decide))
        (readsBack_of_gridPoint? hc)
      exact hnearest
    · exact ih

/-- The nearest rank to the shortest decimal of a magnitude is its own. -/
lemma nearestRank_shortest (halfway : Halfway) (m : Magnitude) :
    nearestRank ((m.shortest halfway).coefficient
      * 10 ^ (m.shortest halfway).exponent.toNat * unitsPerOne)
      (10 ^ (-(m.shortest halfway).exponent).toNat) = m.rank := by
  unfold shortest
  exact nearestRank_shortestFrom halfway m.rank _

end Magnitude

namespace Double

/-- The shortest decimal of a finite double is read as the double. -/
lemma ofDecimal_shortest (negative : Bool) (halfway : Halfway) {m : Magnitude}
    (hm : m.isFinite = true) :
    ofDecimal negative (m.shortest halfway).coefficient (m.shortest halfway).exponent
      = .signed negative m := by
  have hrank : Magnitude.ofRank m.rank = m :=
    Magnitude.eq_of_rank_eq (Magnitude.rank_ofRank (of_decide_eq_true hm))
  have hnearest := m.nearestRank_shortest halfway
  generalize m.shortest halfway = d at hnearest
  obtain ⟨k, hk | hk⟩ := d.exponent.eq_nat_or_neg
  · rw [hk, ofDecimal_natCast, ofRatio]
    rw [hk, Int.toNat_natCast, Int.toNat_neg_natCast, Nat.pow_zero] at hnearest
    rw [hnearest, hrank]
  · rw [hk, ofDecimal_neg_natCast, ofRatio]
    rw [hk, Int.neg_neg, Int.toNat_natCast, Int.toNat_neg_natCast, Nat.pow_zero,
      Nat.mul_one d.coefficient] at hnearest
    rw [hnearest, hrank]

end Double

/-! ## The text of a double -/

/-- A decimal is written as a plain numeral that is read as the decimal. -/
lemma Decimal.exists_plain (d : Decimal) : ∃ whole fraction, Digits whole ∧ whole ≠ []
    ∧ Digits fraction ∧ d.positional = Numeral.plain false whole fraction
    ∧ ∀ negative, Numeral.toDouble ⟨negative, whole, fraction, 0⟩
      = .ofDecimal negative d.coefficient d.exponent := by
  obtain ⟨c, e⟩ := d
  obtain ⟨k, rfl | ⟨hk, rfl⟩⟩ : ∃ k : ℕ, e = k ∨ 0 < k ∧ e = -(k : ℤ) := by
    obtain ⟨k, hk⟩ := e.eq_nat_or_neg
    exact ⟨k, by omega⟩
  · -- the zeros of the power of ten stand before the point
    refine ⟨Text.digits c ++ List.replicate k '0', [],
      (Text.isWhole_digits c).digits.append_zeros k, ?_, ?_, ?_, fun negative => ?_⟩
    · exact List.append_ne_nil_of_left_ne_nil (Text.digits_ne_nil c) _
    · exact fun _ hx => absurd hx List.not_mem_nil
    · rw [positional, if_pos (Int.natCast_nonneg k), Int.toNat_natCast, digits, Numeral.plain,
        if_neg Bool.false_ne_true, if_pos rfl, List.nil_append, List.append_nil]
    · rw [Numeral.toDouble_plain negative _ (by decide : ([] : List Char).length ≤ 330),
        List.append_nil, Text.ofDigits_append_zeros, Text.ofDigits_digits, Double.ofDecimal_natCast]
      rfl
  · -- as many digits stand after the point as the power of ten says
    have hlong := Text.le_length_padded (k + 1) c
    have hdigits : Digits (Text.padded (k + 1) c) := fun _ => Text.isDigit_of_mem_padded
    have hvalue := Text.ofDigits_padded (k + 1) c
    have htext : positional ⟨c, -(k : ℤ)⟩
        = (Text.padded (k + 1) c).take ((Text.padded (k + 1) c).length - k)
          ++ '.' :: (Text.padded (k + 1) c).drop ((Text.padded (k + 1) c).length - k) := by
      rw [positional, if_neg (by dsimp only; omega), Int.neg_neg, Int.toNat_natCast]
    rw [htext]
    generalize Text.padded (k + 1) c = ds at hlong hdigits hvalue
    have hlength : (ds.drop (ds.length - k)).length = k := by
      rw [List.length_drop]
      omega
    have hfraction : ds.drop (ds.length - k) ≠ [] :=
      List.ne_nil_of_length_pos (by rw [hlength]; exact hk)
    refine ⟨ds.take (ds.length - k), ds.drop (ds.length - k),
      fun x hx => hdigits x (List.mem_of_mem_take hx), ?_,
      fun x hx => hdigits x (List.mem_of_mem_drop hx), ?_, fun negative => ?_⟩
    · refine List.ne_nil_of_length_pos ?_
      rw [List.length_take]
      omega
    · rw [Numeral.plain, if_neg Bool.false_ne_true, if_neg hfraction, List.nil_append]
    · rw [Numeral.toDouble, Numeral.coefficient, Numeral.scale, List.take_append_drop, hvalue,
        hlength, Int.zero_sub]

namespace Double

/-- A finite double is written as a plain numeral that is read as the double. -/
lemma exists_plain (negative : Bool) {m : Magnitude} (hm : m.isFinite = true) :
    ∃ whole fraction, Digits whole ∧ whole ≠ [] ∧ Digits fraction
      ∧ plainText (.signed negative m) = Numeral.plain negative whole fraction
      ∧ Numeral.toDouble ⟨negative, whole, fraction, 0⟩ = .signed negative m := by
  have hfinite : ¬ (!m.isFinite) = true := by simp [hm]
  rw [plainText, if_neg hfinite]
  by_cases hrank : m.rank = 0
  · refine ⟨['0'], [], by decide, by decide, by decide, ?_, ?_⟩
    · rw [if_pos hrank]
      cases negative <;> rfl
    · have hzero : m = .zero := Magnitude.eq_of_rank_eq hrank
      rw [hzero]
      rfl
  · obtain ⟨whole, fraction, hwhole, hne, hfraction, htext, hvalue⟩ := (m.shortest .up).exists_plain
    refine ⟨whole, fraction, hwhole, hne, hfraction, ?_, ?_⟩
    · rw [if_neg hrank, htext]
      cases negative <;> rfl
    · rw [hvalue, ofDecimal_shortest negative .up hm]

/-- The double beyond the finite ones is written as a word. -/
lemma eq_infinity_and_plainText (negative : Bool) {m : Magnitude} (hm : m.isFinite = false) :
    m = .infinity ∧ plainText (.signed negative m)
      = if negative then "-Infinity".toList else "Infinity".toList := by
  have hrank : m.rank = infinityRank :=
    Nat.le_antisymm m.rank_le (Nat.not_lt.1 (of_decide_eq_false hm))
  obtain rfl : m = .infinity := Magnitude.eq_of_rank_eq hrank
  refine ⟨rfl, ?_⟩
  cases negative <;> rfl

/-- The text of a double other than what is not a number denotes the double. -/
theorem denotes_plainText {x : Double} (hx : x.isNaN = false) : Denotes x.plainText x := by
  cases x with
  | nan => cases hx
  | signed negative m =>
    cases hm : m.isFinite with
    | true =>
      obtain ⟨whole, fraction, hwhole, hne, hfraction, htext, hvalue⟩ := exists_plain negative hm
      rw [htext, ← hvalue]
      exact .decimal (Numeral.ofText?_plain negative hwhole hne hfraction)
    | false =>
      obtain ⟨rfl, htext⟩ := eq_infinity_and_plainText negative hm
      rw [htext]
      cases negative with
      | false => exact .infinity
      | true => exact .minusInfinity

/-- No white space stands in the text of a double. -/
lemma trim_plainText (x : Double) : Text.trim x.plainText = x.plainText := by
  cases x with
  | nan => decide
  | signed negative m =>
    cases hm : m.isFinite with
    | true =>
      obtain ⟨whole, fraction, hwhole, -, hfraction, htext, -⟩ := exists_plain negative hm
      rw [htext]
      exact Text.trim_of_forall fun _ => Numeral.isWhite_of_mem_plain hwhole hfraction
    | false =>
      rw [(eq_infinity_and_plainText negative hm).2]
      cases negative <;> decide

end Double

/-! ## Whole numbers -/

/-- A whole number of at most 53 binary digits is the value of a rank. -/
lemma exists_unitsOfRank_eq {n : ℕ} (hpos : 0 < n) (hn : n < 2 ^ 53) :
    ∃ rank, rank < 1076 * blockLength ∧ unitsOfRank rank = n * unitsPerOne := by
  have hlog : n.log2 < 53 := (Nat.log2_lt hpos.ne').2 hn
  have hlow := Nat.log2_self_le hpos.ne'
  have hhigh : n < 2 ^ (n.log2 + 1) := Nat.lt_log2_self
  generalize n.log2 = bits at hlog hlow hhigh
  -- the digits are moved up until the first one is the first digit of a block
  have hblock : 2 ^ bits * 2 ^ (52 - bits) = blockLength := by
    rw [← Nat.pow_add, show bits + (52 - bits) = 52 by omega, blockLength_eq]
  have hge : blockLength ≤ n * 2 ^ (52 - bits) := by
    rw [← hblock]
    exact Nat.mul_le_mul_right _ hlow
  have hlt : n * 2 ^ (52 - bits) < 2 * blockLength := by
    rw [← hblock, ← Nat.mul_assoc, ← Nat.pow_succ']
    exact Nat.mul_lt_mul_of_pos_right hhigh (Nat.two_pow_pos _)
  refine ⟨(1022 + bits) * blockLength + n * 2 ^ (52 - bits), ?_, ?_⟩
  · rw [blockLength_eq] at *
    omega
  · rw [unitsOfRank_block hlt.le (.inr hge), Nat.mul_assoc, ← Nat.pow_add,
      show 52 - bits + (1022 + bits) = 1074 by omega, unitsPerOne, Nat.pow_eq]

/-- Below the block where doubles are two apart, the next value is at most one away. -/
lemma unitsOfRank_succ_le {rank : ℕ} (hrank : rank < 1076 * blockLength) :
    unitsOfRank (rank + 1) ≤ unitsOfRank rank + unitsPerOne := by
  have hshift : rank / blockLength - 1 ≤ 1074 := by
    rw [blockLength_eq] at hrank ⊢
    omega
  rw [unitsOfRank_succ]
  exact Nat.add_le_add_left (Nat.pow_le_pow_right (by decide) hshift) _

namespace Magnitude

/-- Below the block where doubles are two apart, a whole number that reads back to the rank of a
whole number is that number. -/
lemma eq_of_readsBack {rank n k : ℕ} (hrank : rank < 1076 * blockLength)
    (hunits : unitsOfRank rank = n * unitsPerOne)
    (h : readsBack rank 1 (2 * (k * unitsPerOne)) = true) : k = n := by
  have hstep : ∀ {r : ℕ}, r < 1076 * blockLength →
      unitsOfRank (r + 1) ≤ unitsOfRank r + unitsPerOne := unitsOfRank_succ_le
  have hone := unitsPerOne_pos
  generalize unitsPerOne = one at *
  have hbelow : unitsOfRank rank ≤ unitsOfRank (rank - 1) + one := by
    cases rank with
    | zero => exact Nat.le_add_right _ _
    | succ r => exact hstep (Nat.lt_of_succ_lt hrank)
  have habove := hstep hrank
  rw [readsBack_iff, Nat.mul_one, Nat.mul_one] at h
  rw [hunits] at *
  have hlow : (2 * n) * one ≤ (2 * k + 1) * one := by
    simp only [Nat.add_mul, Nat.mul_assoc, Nat.one_mul]
    omega
  have hhigh : (2 * k) * one ≤ (2 * n + 1) * one := by
    simp only [Nat.add_mul, Nat.mul_assoc, Nat.one_mul]
    omega
  have hlow' := Nat.le_of_mul_le_mul_right hlow hone
  have hhigh' := Nat.le_of_mul_le_mul_right hhigh hone
  omega

/-- The value of a rank reads back to it. -/
lemma readsBack_self (rank : ℕ) {scale : ℕ} (hscale : 0 < scale) :
    readsBack rank scale (2 * (unitsOfRank rank * scale)) = true := by
  have habove := unitsOfRank_mul_lt hscale (Nat.lt_add_one rank)
  have hbelow : unitsOfRank (rank - 1) * scale ≤ unitsOfRank rank * scale :=
    Nat.mul_le_mul_right scale (unitsOfRank_strictMono.monotone (Nat.sub_le rank 1))
  rw [readsBack_iff, Nat.add_mul, Nat.add_mul]
  refine ⟨by omega, by omega, fun hodd => ?_⟩
  have hstrict := unitsOfRank_mul_lt hscale (by omega : rank - 1 < rank)
  omega

variable {halfway : Halfway} {rank n : ℕ}

/-- A whole number is a point of the grid of whole numbers. -/
lemma gridPoint?_zero (hunits : unitsOfRank rank = n * unitsPerOne) :
    gridPoint? halfway rank 0 = some n := by
  have hreads := readsBack_self rank Nat.one_pos
  have hone := unitsPerOne_pos
  unfold gridPoint?
  simp only [Int.neg_zero, Int.toNat_zero, Nat.pow_eq, Nat.pow_zero, Nat.mul_one] at hreads ⊢
  rw [hunits] at hreads ⊢
  generalize unitsPerOne = one at *
  have hnear : takesLow halfway (n * one) n one = true := by
    have hlt : 2 * (n * one) < (2 * n + 1) * one := by
      rw [← Nat.mul_assoc]
      exact Nat.mul_lt_mul_of_pos_right (Nat.lt_succ_self _) hone
    simp [takesLow, hlt]
  rw [Nat.mul_div_cancel n hone, hreads, hnear, Bool.or_true, Bool.true_and, if_pos rfl]

/-- The search at a power of ten that is not negative. -/
lemma shortestFrom_natCast (halfway : Halfway) (rank k : ℕ) :
    shortestFrom halfway rank (1074 + k) = match gridPoint? halfway rank k with
      | some c => ⟨c, k⟩
      | none => shortestFrom halfway rank (1073 + k) := by
  have hfuel : 1074 + k = 1073 + k + 1 := by omega
  have hpower : ((1073 + k + 1 : ℕ) : ℤ) - 1074 = k := by omega
  rw [hfuel, ← hpower]
  rfl

/-- The search for a whole number ends with that number, at a power of ten that is not negative. -/
lemma exists_shortestFrom_eq (hrank : rank < 1076 * blockLength)
    (hunits : unitsOfRank rank = n * unitsPerOne) (k : ℕ) :
    ∃ c j : ℕ, shortestFrom halfway rank (1074 + k) = ⟨c, j⟩ ∧ c * 10 ^ j = n := by
  induction k with
  | zero =>
    refine ⟨n, 0, ?_, Nat.mul_one n⟩
    rw [shortestFrom_natCast, Int.natCast_zero, gridPoint?_zero hunits]
  | succ k ih =>
    rw [shortestFrom_natCast]
    cases hc : gridPoint? halfway rank (k + 1 : ℕ) with
    | none =>
      rw [show 1073 + (k + 1) = 1074 + k by omega]
      exact ih
    | some c =>
      have hreads := readsBack_of_gridPoint? hc
      rw [Int.toNat_natCast, Int.toNat_neg_natCast, Nat.pow_zero] at hreads
      exact ⟨c, k + 1, rfl, eq_of_readsBack hrank hunits hreads⟩

/-- The search for a magnitude of at least one starts above the power zero. -/
lemma exists_shortest_eq_shortestFrom (halfway : Halfway) {m : Magnitude}
    (h : unitsPerOne ≤ m.units) :
    ∃ k, m.shortest halfway = shortestFrom halfway m.rank (1074 + k) := by
  have hlog : 1074 ≤ m.units.log2 :=
    (Nat.le_log2 (unitsPerOne_pos.trans_le h).ne').2 h
  unfold shortest
  dsimp only
  generalize m.units.log2 = bits at hlog
  have hfuel : 1074 ≤ (((bits : ℤ) - 1073) * 30103 / 100000 + 2 + 1074).toNat := by omega
  obtain ⟨k, hk⟩ := Nat.exists_eq_add_of_le hfuel
  exact ⟨k, by rw [hk]⟩

/-- A whole number of at most 53 binary digits is a double that is written with its digits. -/
lemma exists_positional_eq (hpos : 0 < n) (hn : n < 2 ^ 53) : ∃ m : Magnitude,
    ofRank (nearestRank (n * unitsPerOne) 1) = m ∧ 0 < m.rank ∧ m.isFinite = true
      ∧ (m.shortest halfway).positional = Text.digits n := by
  obtain ⟨rank, hrank, hunits⟩ := exists_unitsOfRank_eq hpos hn
  have hfinite : rank < infinityRank := hrank.trans (by decide)
  have hm : (ofRank rank).rank = rank := rank_ofRank hfinite
  have hone := unitsPerOne_pos
  refine ⟨ofRank rank, ?_, ?_, ?_, ?_⟩
  · have hnearest := nearestRank_units rank Nat.one_pos
    rw [Nat.mul_one (unitsOfRank rank), hunits] at hnearest
    rw [hnearest]
  · rw [hm]
    refine Nat.pos_of_ne_zero ?_
    rintro rfl
    exact (Nat.mul_pos hpos hone).ne hunits
  · rw [isFinite, hm]
    exact decide_eq_true hfinite
  · have hvalue : (ofRank rank).units = n * unitsPerOne := by rw [units, hm, hunits]
    obtain ⟨k, hk⟩ := exists_shortest_eq_shortestFrom halfway (m := ofRank rank)
      (by rw [hvalue]; exact Nat.le_mul_of_pos_left _ hpos)
    obtain ⟨c, j, hc, hcj⟩ := exists_shortestFrom_eq hrank hunits k
    rw [hk, hm, hc, Decimal.positional, if_pos (Int.natCast_nonneg j), Int.toNat_natCast, ← hcj,
      Text.digits_mul_pow (Nat.pos_of_ne_zero fun hzero => ?_), Decimal.digits]
    rw [hzero, Nat.zero_mul] at hcj
    exact hpos.ne hcj

end Magnitude

namespace Double

/-- Up to two to the power of 53 a whole number is written with its exact digits, whether it is kept
as a whole number or as a double. -/
theorem plainText_ofInt {n : ℤ} (hn : n.natAbs ≤ 2 ^ 53) : (ofInt n).plainText = Text.ofInt n := by
  rcases Nat.eq_zero_or_pos n.natAbs with hzero | hpos
  · obtain rfl := Int.natAbs_eq_zero.1 hzero
    decide +kernel
  obtain ⟨m, hm, hrank, hfinite, htext⟩ : ∃ m : Magnitude,
      .ofRank (nearestRank (n.natAbs * unitsPerOne) 1) = m ∧ 0 < m.rank ∧ m.isFinite = true
        ∧ (m.shortest .up).positional = Text.digits n.natAbs := by
    rcases hn.lt_or_eq with hlt | heq
    · exact Magnitude.exists_positional_eq hpos hlt
    · -- the first whole number whose neighbours are not all doubles
      rw [heq]
      exact ⟨_, rfl, by decide +kernel, by decide +kernel, by decide +kernel⟩
  have hnot : ¬ (!m.isFinite) = true := by simp [hfinite]
  rw [ofInt, ofRatio, hm, plainText, if_neg hnot, if_neg hrank.ne', htext, Text.ofInt]
  simp only [decide_eq_true_eq]

end Double

end GridRules
