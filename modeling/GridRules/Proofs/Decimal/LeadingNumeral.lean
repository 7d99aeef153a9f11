import GridRules.Proofs.Decimal.Rounded
import GridRules.Proofs.Double.Reading

/-!
# The numeral at the front of a text

The grammar of numerals, stated apart from the reader: an optional sign, digits with an optional
fraction or a fraction alone, and an optional power of ten (`Numeral.Spells`).  What the reader
takes from a text is spelled by this grammar (`Numeral.exists_spells_of_read?`), and it finds
nothing only where no front of the text is (`Numeral.read?_trimStart_eq_none_iff`).  The double of a
numeral is the one nearest to its number, as far as the finite doubles go.
-/

namespace GridRules

open Text (Digits White)

namespace Numeral

/-! ## The grammar -/

/-- A text is an optional sign; it is told whether it is a minus. -/
inductive SpellsSign : List Char → Bool → Prop
  /-- There is no sign. -/
  | none : SpellsSign [] false
  /-- A plus sign. -/
  | plus : SpellsSign ['+'] false
  /-- A minus sign. -/
  | minus : SpellsSign ['-'] true

/-- A text is an optional point with any digits after it. -/
inductive SpellsFraction : List Char → List Char → Prop
  /-- There is no point. -/
  | none : SpellsFraction [] []
  /-- A point and the digits after it. -/
  | point {ds : List Char} (hds : Digits ds) : SpellsFraction ('.' :: ds) ds

/-- A text is an optional power of ten. -/
inductive SpellsPower : List Char → ℤ → Prop
  /-- There is no power. -/
  | none : SpellsPower [] 0
  /-- A letter, an optional sign and at least one digit. -/
  | power {letter : Char} {sign ds : List Char} {negative : Bool}
      (hletter : letter = 'e' ∨ letter = 'E') (hsign : SpellsSign sign negative)
      (hds : Digits ds) (hne : ds ≠ []) :
      SpellsPower (letter :: (sign ++ ds))
        (if negative then -(Text.ofDigits ds : ℤ) else Text.ofDigits ds)

/-- A text is a numeral from its first to its last character. -/
structure Spells (s : List Char) (n : Numeral) : Prop where
  /-- The text is put together from a sign, digits, a fraction and a power of ten. -/
  parts : ∃ sign point power, s = sign ++ (n.whole ++ (point ++ power))
    ∧ SpellsSign sign n.negative ∧ SpellsFraction point n.fraction ∧ SpellsPower power n.exponent
  /-- Before the point there are digits alone. -/
  digits_whole : Digits n.whole
  /-- There is a digit before the point or after it. -/
  ne_nil : n.whole ≠ [] ∨ n.fraction ≠ []

/-- A text starts with a numeral, after white space or at once. -/
def Leads (s : List Char) : Prop :=
  ∃ w p rest n, s = w ++ (p ++ rest) ∧ White w ∧ Spells p n

variable {s t u p rest ds : List Char} {n : Numeral} {negative : Bool}

/-! ## What is read is spelled -/

lemma exists_spellsSign (s : List Char) :
    ∃ sign, s = sign ++ (readSign s).2 ∧ SpellsSign sign (readSign s).1 := by
  unfold readSign
  split
  · exact ⟨['-'], rfl, .minus⟩
  · exact ⟨['+'], rfl, .plus⟩
  · exact ⟨[], rfl, .none⟩

lemma digits_digitRun (s : List Char) : Digits (Text.digitRun s).1 :=
  fun _ hc => List.mem_takeWhile_imp hc

lemma exists_spellsFraction (s : List Char) :
    ∃ point, s = point ++ (readFraction s).2 ∧ SpellsFraction point (readFraction s).1 := by
  unfold readFraction
  split
  · rename_i r
    refine ⟨_, ?_, .point (digits_digitRun r)⟩
    rw [List.cons_append, Text.digitRun_append]
  · exact ⟨[], rfl, .none⟩

lemma exists_spellsPower (s : List Char) :
    ∃ power, s = power ++ (readExponent s).2 ∧ SpellsPower power (readExponent s).1 := by
  unfold readExponent
  split
  · exact ⟨[], rfl, .none⟩
  · rename_i letter r
    split
    · rename_i hletter
      obtain ⟨sign, hr, hsign⟩ := exists_spellsSign r
      dsimp only
      split
      · exact ⟨[], rfl, .none⟩
      · rename_i hne
        refine ⟨_, ?_, .power hletter hsign (digits_digitRun _) hne⟩
        rw [List.cons_append, List.append_assoc, Text.digitRun_append, ← hr]
    · exact ⟨[], rfl, .none⟩

/-- What is read from the front of a text is spelled there. -/
lemma exists_spells_of_read? (h : read? s = some (n, rest)) : ∃ p, s = p ++ rest ∧ Spells p n := by
  obtain ⟨sign, hs, hsign⟩ := exists_spellsSign s
  obtain ⟨point, hpoint, hfraction⟩ := exists_spellsFraction (Text.digitRun (readSign s).2).2
  obtain ⟨power, hpower, hexponent⟩ :=
    exists_spellsPower (readFraction (Text.digitRun (readSign s).2).2).2
  unfold read? at h
  dsimp only at h
  split at h
  · cases h
  · rename_i hsome
    obtain ⟨rfl, rfl⟩ := Prod.mk.inj (Option.some.inj h)
    refine ⟨_, ?_, ⟨⟨sign, point, power, rfl, hsign, hfraction, hexponent⟩, digits_digitRun _,
      not_and_or.1 hsome⟩⟩
    simp only [List.append_assoc]
    rw [← hpower, ← hpoint, Text.digitRun_append, ← hs]

/-! ## What is spelled is read -/

lemma readSign_append {sign : List Char} (h : SpellsSign sign negative)
    (hu : ∀ c ∈ u.head?, c.isDigit = true ∨ c = '.') : readSign (sign ++ u) = (negative, u) := by
  cases h with
  | plus => rfl
  | minus => rfl
  | none =>
    cases u with
    | nil => rfl
    | cons c r =>
      rcases hu c rfl with hdigit | rfl
      · exact readSign_of_isDigit hdigit r
      · rfl

lemma read?_eq_none_iff : read? s = none ↔ (Text.digitRun (readSign s).2).1 = []
    ∧ (readFraction (Text.digitRun (readSign s).2).2).1 = [] := by
  unfold read?
  dsimp only
  split
  · rename_i hnone
    simp [hnone]
  · rename_i hsome
    simpa using hsome

/-- The first character of a numeral, a sign, a digit or a point, is no white space. -/
lemma Spells.exists_cons (h : Spells p n) : ∃ c r, p = c :: r ∧ Text.isWhite c = false := by
  obtain ⟨negative, whole, fraction, exponent⟩ := n
  obtain ⟨⟨sign, point, power, rfl, hsign, hpoint, -⟩, hwhole, hne⟩ := h
  dsimp only at *
  cases hsign with
  | plus => exact ⟨_, _, rfl, by decide⟩
  | minus => exact ⟨_, _, rfl, by decide⟩
  | none =>
    cases whole with
    | cons c r => exact ⟨c, _, rfl, Text.isWhite_of_isDigit (hwhole c List.mem_cons_self)⟩
    | nil =>
      cases hpoint with
      | none => simp at hne
      | point hds => exact ⟨'.', _, rfl, by decide⟩

/-- A numeral at the front of a text is not overlooked. -/
lemma read?_ne_none_of_spells (h : Spells p n) (rest : List Char) : read? (p ++ rest) ≠ none := by
  obtain ⟨negative, whole, fraction, exponent⟩ := n
  obtain ⟨⟨sign, point, power, rfl, hsign, hpoint, -⟩, hwhole, hne⟩ := h
  dsimp only at *
  intro hnone
  rw [read?_eq_none_iff, List.append_assoc] at hnone
  cases whole with
  | cons c r =>
    -- a digit after the sign belongs to the first run of digits
    have hc : c.isDigit = true := hwhole c List.mem_cons_self
    rw [readSign_append hsign (by simp [hc])] at hnone
    simp [Text.digitRun, hc] at hnone
  | nil =>
    cases hpoint with
    | none => simp at hne
    | point hds =>
      -- nor is the run empty that follows a point
      obtain ⟨c, r, rfl⟩ := List.exists_cons_of_ne_nil (hne.resolve_left (by simp))
      have hc : c.isDigit = true := hds c List.mem_cons_self
      rw [readSign_append hsign (by simp)] at hnone
      simp [Text.digitRun, readFraction, hc] at hnone

/-- Nothing is read exactly where no numeral stands at the front. -/
lemma read?_trimStart_eq_none_iff : read? (Text.trimStart s) = none ↔ ¬ Leads s := by
  rw [not_iff_not.symm, not_not]
  constructor
  · intro hread
    obtain ⟨⟨n, rest⟩, hread⟩ := Option.ne_none_iff_exists'.1 hread
    obtain ⟨p, htrim, hspells⟩ := exists_spells_of_read? hread
    obtain ⟨w, hw, hs⟩ := Text.exists_white_append_trimStart s
    exact ⟨w, p, rest, n, htrim ▸ hs, hw, hspells⟩
  · rintro ⟨w, p, rest, n, rfl, hw, hspells⟩
    obtain ⟨c, r, hcons, hc⟩ := hspells.exists_cons
    have htrim : Text.trimStart (w ++ (p ++ rest)) = p ++ rest := by
      rw [Text.trimStart_append hw, hcons, List.cons_append, Text.trimStart_cons hc]
    rw [htrim]
    exact read?_ne_none_of_spells hspells rest

/-! ## The double of a numeral -/

lemma number_eq (n : Numeral) :
    n.number = Double.signFactor n.negative * (n.coefficient * 10 ^ n.scale) := rfl

lemma abs_number (n : Numeral) : |n.number| = n.coefficient * 10 ^ n.scale := by
  have hpow : (0 : ℚ) ≤ 10 ^ n.scale := zpow_nonneg (by norm_num) _
  rw [number_eq, abs_mul, Double.abs_signFactor, one_mul,
    abs_of_nonneg (mul_nonneg (Nat.cast_nonneg _) hpow)]

/-- A numeral is read as a finite double exactly below the least number that is read as
infinity. -/
lemma isFinite_toDouble_iff (n : Numeral) :
    n.toDouble.isFinite = true ↔ |n.number| < leastInfinite := by
  rw [abs_number]
  exact Double.isFinite_ofDecimal_iff _ _ _

/-- The finite double of a numeral is nearest to its number. -/
lemma isNearest_toDouble (hfinite : n.toDouble.isFinite = true) :
    n.toDouble.IsNearest n.number :=
  Double.isNearest_ofDecimal hfinite

end Numeral

end GridRules
