import GridRules.Proofs.Decimal.Typing
import GridRules.Proofs.Double.Value

/-!
# The text of a rounded number

The text of a finite double is the text of the number to which its exact value rounds.  The digits
before the point and those that are shown after it are the positional value of the rounded magnitude
(`Magnitude.rounded_eq`), so they are the digits of its whole part and of its fraction.  The text
has a minus exactly when the rounded number is negative, and its groups are cut three by three from
the right (`InThrees`).  Read back without the separators, it denotes the rounded number exactly
(`DecimalFormat.denoted?_format`), and a greater double is not written as a smaller number.
-/

namespace GridRules

open Text (Digits IsWhole)

/-! ## Groups of three -/

/-- Digits in groups with a separator between groups: the first group has one to three digits, and
every other group has three. -/
def InThrees (separator : Char) (ds text : List Char) : Prop :=
  ∃ first rest, ds = (first :: rest).flatten ∧ text = [separator].intercalate (first :: rest)
    ∧ first ≠ [] ∧ first.length ≤ 3 ∧ ∀ group ∈ rest, group.length = 3

lemma length_flatten_of_threes {groups : List (List Char)}
    (h : ∀ group ∈ groups, group.length = 3) : groups.flatten.length = 3 * groups.length := by
  induction groups with
  | nil => rfl
  | cons group groups ih =>
    obtain ⟨hgroup, hgroups⟩ := List.forall_mem_cons.1 h
    rw [List.flatten_cons, List.length_append, hgroup, ih hgroups, List.length_cons]
    omega

lemma inThrees_groupDigits (separator : Char) {ds : List Char} (hne : ds ≠ []) :
    InThrees separator ds (groupDigits separator ds) := by
  induction ds with
  | nil => exact absurd rfl hne
  | cons c r ih =>
    by_cases hr : r = []
    · subst hr
      exact ⟨[c], [], rfl, by simp [groupDigits], by simp, by simp, by simp⟩
    · obtain ⟨first, rest, hds, htext, hfirst, hshort, hrest⟩ := ih hr
      have hlength : r.length = first.length + 3 * rest.length := by
        rw [hds, List.flatten_cons, List.length_append, length_flatten_of_threes hrest]
      have hpos := List.length_pos_iff.2 hfirst
      rw [groupDigits]
      split
      · -- the first group is full, and the digit before it starts another one
        rename_i hfull
        refine ⟨[c], first :: rest, by simp [hds], ?_, by simp, by simp, ?_⟩
        · rw [List.intercalate_cons_cons, htext]
          rfl
        · exact List.forall_mem_cons.2 ⟨by omega, hrest⟩
      · rename_i hroom
        have hless : first.length ≠ 3 := fun hthree => hroom ⟨hr, by omega⟩
        refine ⟨c :: first, rest, by simp [hds], ?_, by simp, ?_, hrest⟩
        · rw [Text.intercalate_cons_head, htext]
        · rw [List.length_cons]
          omega

lemma getLast?_dropEndZeros (ds : List Char) : (dropEndZeros ds).getLast? ≠ some '0' := by
  intro h
  have hfirst := List.head?_dropWhile_not (· == '0') ds.reverse
  rw [dropEndZeros, List.getLast?_reverse] at h
  rw [h] at hfirst
  cases hfirst

/-! ## The digits of a rounded magnitude -/

namespace Magnitude

/-- The digits that are shown are the positional value of the rounded magnitude. -/
lemma rounded_eq (m : Magnitude) (places : ℕ) :
    m.rounded places = Text.ofDigits (m.wholeDigits places)
      + Text.ofDigits (m.shownFraction places) / 10 ^ (m.shownFraction places).length := by
  obtain ⟨zeros, hlength, hdigits⟩ := m.exists_shownFraction places
  generalize m.shownFraction places = fraction at hlength hdigits
  rw [Text.ofDigits_append, Nat.pow_eq] at hdigits
  rw [rounded, ← hdigits, ← hlength, pow_add]
  push_cast
  field_simp

/-- What is shown after the point is less than one. -/
lemma shownFraction_lt (m : Magnitude) (places : ℕ) :
    (Text.ofDigits (m.shownFraction places) : ℚ) / 10 ^ (m.shownFraction places).length < 1 := by
  rw [div_lt_one (by positivity)]
  exact_mod_cast Text.ofDigits_lt (m.digits_shownFraction places)

lemma floor_rounded (m : Magnitude) (places : ℕ) :
    (Text.ofDigits (m.wholeDigits places) : ℤ) = ⌊m.rounded places⌋ := by
  have hlt := m.shownFraction_lt places
  rw [eq_comm, Int.floor_eq_iff, rounded_eq, Int.cast_natCast]
  refine ⟨le_add_of_nonneg_right (by positivity), ?_⟩
  linarith

lemma fract_rounded (m : Magnitude) (places : ℕ) :
    (Text.ofDigits (m.shownFraction places) : ℚ) / 10 ^ (m.shownFraction places).length
      = Int.fract (m.rounded places) := by
  rw [Int.fract, ← floor_rounded, Int.cast_natCast, rounded_eq, add_sub_cancel_left]

lemma isWhole_wholeDigits (m : Magnitude) (places : ℕ) : IsWhole (m.wholeDigits places) :=
  Text.isWhole_digits _

/-- Only a whole number is shown without a fraction. -/
lemma shownFraction_eq_nil_iff (m : Magnitude) (places : ℕ) :
    m.shownFraction places = [] ↔ Int.fract (m.rounded places) = 0 := by
  have hnone : Text.ofDigits [] = 0 := rfl
  rw [← fract_rounded]
  constructor
  · intro hnil
    rw [hnil, hnone, Nat.cast_zero, zero_div]
  · intro hzero
    have hdigits : Text.ofDigits (m.shownFraction places) = 0 := by
      have hpow : (10 : ℚ) ^ (m.shownFraction places).length ≠ 0 := by positivity
      exact_mod_cast (div_eq_zero_iff.1 hzero).resolve_right hpow
    exact Text.eq_nil_of_ofDigits_eq_zero (m.digits_shownFraction places) hdigits
      (getLast?_dropEndZeros _)

lemma wholeDigits_eq_zero_iff (m : Magnitude) (places : ℕ) :
    (m.wholeDigits places).all (· == '0') = true ↔ Text.ofDigits (m.wholeDigits places) = 0 := by
  have hwhole := m.isWhole_wholeDigits places
  constructor
  · intro hall
    obtain ⟨c, rest, hcons⟩ := List.exists_cons_of_ne_nil hwhole.ne_nil
    have hc : c = '0' := by
      rw [hcons, List.all_cons, Bool.and_eq_true] at hall
      exact eq_of_beq hall.1
    rw [hwhole.eq_zero (by rw [hcons, hc]; rfl)]
    rfl
  · intro hzero
    have hlone : m.wholeDigits places = ['0'] := by
      by_contra hne
      exact absurd hzero (hwhole.ofDigits_pos hne).ne'
    rw [hlone]
    rfl

/-- The rounded magnitude is shown as zero exactly when it is zero. -/
lemma isShownAsZero_iff (m : Magnitude) (places : ℕ) :
    m.isShownAsZero places = true ↔ m.rounded places = 0 := by
  rw [isShownAsZero, Bool.and_eq_true, List.isEmpty_iff, wholeDigits_eq_zero_iff,
    shownFraction_eq_nil_iff, ← fract_rounded, rounded_eq,
    add_eq_zero_iff_of_nonneg (Nat.cast_nonneg _) (by positivity), Nat.cast_eq_zero]

end Magnitude

namespace Double

/-- The sign that is shown is that of the rounded number. -/
lemma rounded_neg_iff (negative : Bool) (m : Magnitude) (places : ℕ) :
    rounded (.signed negative m) places < 0 ↔ (negative && !m.isShownAsZero places) = true := by
  have hnonneg := m.rounded_nonneg places
  rw [Bool.and_eq_true, Bool.not_eq_true', ← Bool.not_eq_true, m.isShownAsZero_iff places]
  cases negative with
  | false => simpa [rounded] using hnonneg
  | true => simpa [rounded] using hnonneg.lt_iff_ne'

lemma abs_rounded (negative : Bool) (m : Magnitude) (places : ℕ) :
    |rounded (.signed negative m) places| = m.rounded places := by
  cases negative with
  | false => exact abs_of_nonneg (m.rounded_nonneg places)
  | true => exact (abs_neg _).trans (abs_of_nonneg (m.rounded_nonneg places))

end Double

/-! ## The number that a text denotes -/

namespace Numeral

/-- The number that a numeral denotes. -/
def number (n : Numeral) : ℚ := (if n.negative then -1 else 1) * (n.coefficient * 10 ^ n.scale)

lemma number_plain (negative : Bool) (whole fraction : List Char) :
    number ⟨negative, whole, fraction, 0⟩ = (if negative then -1 else 1)
      * (Text.ofDigits whole + Text.ofDigits fraction / 10 ^ fraction.length) := by
  rw [number, coefficient, scale, Text.ofDigits_append, Nat.pow_eq, zero_sub, zpow_neg,
    zpow_natCast]
  push_cast
  field_simp

end Numeral

namespace DecimalFormat

/-- The number that a text of the locale denotes when its groups are left out; `none` when it is no
numeral. -/
def denoted? (f : DecimalFormat) (s : List Char) : Option ℚ :=
  (Numeral.ofText? (f.normalize s)).map Numeral.number

/-- The text of a number in its canonical form, with the digits before and after the decimal
separator. -/
structure IsCanonical (f : DecimalFormat) (r : ℚ) (whole fraction s : List Char) : Prop where
  /-- The digits before the separator have no redundant zeros at the front. -/
  isWhole : IsWhole whole
  /-- They are those of the whole part of the number. -/
  whole_eq : (Text.ofDigits whole : ℤ) = ⌊|r|⌋
  /-- After the separator there are digits alone. -/
  digits_fraction : Digits fraction
  /-- No zero stands at their end. -/
  getLast?_fraction : fraction.getLast? ≠ some '0'
  /-- They are those of the fraction of the number. -/
  fraction_eq : (Text.ofDigits fraction : ℚ) / 10 ^ fraction.length = Int.fract |r|
  /-- They are missing exactly when the number is whole. -/
  fraction_eq_nil_iff : fraction = [] ↔ ∃ k : ℤ, r = k
  /-- A minus stands before a negative number alone, the digits before the separator are in groups
  of three, and the separator stands only before a fraction. -/
  text_eq : ∃ groups, InThrees f.thousands whole groups ∧ s = (if r < 0 then ['-'] else [])
    ++ (groups ++ if fraction = [] then [] else f.decimal :: fraction)

variable {f : DecimalFormat} {negative : Bool} {m : Magnitude}

lemma fract_abs_eq_zero_iff (r : ℚ) : Int.fract |r| = 0 ↔ ∃ k : ℤ, r = k := by
  rw [Int.fract_eq_zero_iff]
  constructor
  · rintro ⟨k, hk⟩
    rcases abs_choice r with h | h
    · exact ⟨k, by rw [hk, h]⟩
    · exact ⟨-k, by rw [Int.cast_neg, hk, h, neg_neg]⟩
  · rintro ⟨k, rfl⟩
    exact ⟨|k|, Int.cast_abs⟩

lemma isCanonical_format (f : DecimalFormat) (negative : Bool) (hm : m.isFinite = true) :
    f.IsCanonical (Double.rounded (.signed negative m) f.places) (m.wholeDigits f.places)
      (m.shownFraction f.places) (f.format (.signed negative m)) := by
  have habs := Double.abs_rounded negative m f.places
  refine ⟨m.isWhole_wholeDigits _, ?_, m.digits_shownFraction _, getLast?_dropEndZeros _, ?_, ?_,
    groupDigits f.thousands (m.wholeDigits f.places),
    inThrees_groupDigits _ (m.wholeDigits_ne_nil _), ?_⟩
  · rw [habs, m.floor_rounded]
  · rw [habs, m.fract_rounded]
  · rw [m.shownFraction_eq_nil_iff, ← habs, fract_abs_eq_zero_iff]
  · rw [format_signed f negative hm, written]
    simp only [Double.rounded_neg_iff]

/-- Without the groups the text is a plain numeral, and it denotes the rounded number. -/
lemma denoted?_format (hf : f.Lawful) (negative : Bool) (hm : m.isFinite = true) :
    f.denoted? (f.format (.signed negative m))
      = some (Double.rounded (.signed negative m) f.places) := by
  have hdigits := m.digits_shownFraction f.places
  rw [denoted?, format_signed f negative hm,
    normalize_written_eq_plain hf _ (m.digits_wholeDigits _) hdigits,
    Numeral.ofText?_plain _ (m.digits_wholeDigits _) (m.wholeDigits_ne_nil _) hdigits,
    Option.map_some, Numeral.number_plain, ← m.rounded_eq]
  refine congrArg some ?_
  cases negative with
  | false => exact one_mul _
  | true =>
    cases hzero : m.isShownAsZero f.places with
    | false => exact neg_one_mul _
    | true =>
      -- zero is written without its sign
      rw [Double.rounded, if_pos rfl, (m.isShownAsZero_iff f.places).1 hzero, mul_zero, neg_zero]

lemma normalize_format (hf : f.Lawful) (negative : Bool) (hm : m.isFinite = true) :
    f.normalize (f.format (.signed negative m))
      = Numeral.plain (decide (Double.rounded (.signed negative m) f.places < 0))
          (m.wholeDigits f.places) (m.shownFraction f.places) := by
  rw [format_signed f negative hm, normalize_written_eq_plain hf _ (m.digits_wholeDigits _)
    (m.digits_shownFraction _)]
  simp only [Double.rounded_neg_iff, Bool.decide_eq_true]

lemma countDecimals_format_le (hf : f.Lawful) (negative : Bool) (hm : m.isFinite = true) :
    f.countDecimals (f.format (.signed negative m)) ≤ f.places := by
  rw [format_signed f negative hm]
  have hno := decimal_not_mem_written hf (negative && !m.isShownAsZero f.places)
    (m.digits_wholeDigits f.places)
  by_cases hnil : m.shownFraction f.places = []
  · rw [hnil, countDecimals_of_not_mem hno]
    exact Nat.zero_le _
  · rw [written_of_ne_nil f _ _ hnil, countDecimals_append hno]
    exact m.length_shownFraction_le f.places

/-- The text of a finite double is that of the number to which its exact value rounds.  In any
locale and with any number of places there is one number to which the double rounds, half a step
going to the even neighbour, and the text is its canonical one: a minus exactly before a negative
number, the digits of its whole part in groups of three, and the digits of its fraction without
zeros at their end, with the decimal separator exactly before a fraction.  Without the groups it is
the plain numeral and denotes that number, it has no more digits after the separator than places,
and the text of a double that is no less denotes a number that is no less. -/
theorem format_writes_rounded_number (code : String) (places : ℕ) (x : Double)
    (hx : x.isFinite = true) :
    let f := new code places
    ∃ r whole fraction, (∀ r', RoundsTo f.places x.toRat r' ↔ r' = r)
      ∧ f.IsCanonical r whole fraction (f.format x)
      ∧ f.normalize (f.format x) = Numeral.plain (decide (r < 0)) whole fraction
      ∧ f.denoted? (f.format x) = some r
      ∧ f.countDecimals (f.format x) ≤ f.places
      ∧ ∀ y : Double, y.isFinite = true → x.compare? y ≠ some .gt →
        ∃ r', f.denoted? (f.format y) = some r' ∧ r ≤ r' := by
  intro f
  have hf : f.Lawful := lawful_new code places
  have hround := Double.roundsTo_rounded hx f.places
  cases x with
  | nan => cases hx
  | signed negative m =>
    refine ⟨_, _, _, fun r' => ⟨hround.unique, ?_⟩, isCanonical_format f negative hx,
      normalize_format hf negative hx, denoted?_format hf negative hx,
      countDecimals_format_le hf negative hx, fun y hy hle => ?_⟩
    · rintro rfl
      exact hround
    · have hround' := Double.roundsTo_rounded hy f.places
      have hmono := hround.mono hround' (Double.toRat_le_of_compare? hx hy hle)
      cases y with
      | nan => cases hy
      | signed negative' m' => exact ⟨_, denoted?_format hf negative' hy, hmono⟩

/-- In the German locale with two places, a number that rounds up to another digit and group, and a
smaller one, which rounds to zero. -/
theorem german_text_of_rounded_up :
    let f := new "de-DE" 2
    let x := Double.ofDecimal true 4 (-3)
    let y := Double.ofDecimal false 999999 (-3)
    x.isFinite = true ∧ y.isFinite = true ∧ x.compare? y ≠ some .gt
      ∧ f.format x = "0".toList ∧ f.format y = "1.000".toList
      ∧ RoundsTo 2 x.toRat 0 ∧ f.denoted? (f.format x) = some 0
      ∧ ∃ r, f.denoted? (f.format y) = some r ∧ 0 ≤ r := by
  intro f x y
  have hx : x.isFinite = true := by decide +kernel
  have hy : y.isFinite = true := by decide +kernel
  have hle : x.compare? y ≠ some .gt := by decide +kernel
  have htext : f.format x = "0".toList := by decide +kernel
  obtain ⟨r, -, -, hround, -, -, hnumber, -, hmono⟩ := format_writes_rounded_number "de-DE" 2 x hx
  have hzero : r = 0 := by
    have hread : Numeral.ofText? (f.normalize (f.format x)) = some ⟨false, ['0'], [], 0⟩ := by
      rw [htext]
      decide +kernel
    have hdigits : Text.ofDigits ['0'] = 0 := rfl
    have hnone : Text.ofDigits [] = 0 := rfl
    rw [denoted?, hread, Option.map_some, Numeral.number_plain, hdigits, hnone] at hnumber
    simpa using (Option.some.inj hnumber).symm
  subst hzero
  exact ⟨hx, hy, hle, htext, by decide +kernel, (hround 0).2 rfl, hnumber, hmono y hy hle⟩

end DecimalFormat

end GridRules
