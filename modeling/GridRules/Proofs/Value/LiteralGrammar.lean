import GridRules.Proofs.Decimal.LeadingNumeral
import GridRules.Proofs.Double.Ties
import GridRules.Proofs.Value.NumberLiteral
import Mathlib.Data.Nat.Digits.Defs
import Mathlib.Tactic.IntervalCases

/-!
# The grammar of numeric literals

The texts that count as numbers, by a grammar that is stated apart from the reader (`Literal`): an
infinity or a decimal numeral with an optional sign, or digits after a mark for their radix.  A
literal of any length is read as the double to which its number is rounded.

The reader of digits in a radix differs from the grammar in two ways.  It lets a plus sign stand
after the mark, and it reads nothing from 2 to the power of 64 on.
-/

namespace GridRules

open Text (Digits)

/-! ## Whole numbers in a radix -/

/-- A character is a digit of a radix up to sixteen, in either case. -/
def IsDigitOf (radix : ℕ) (c : Char) (d : ℕ) : Prop :=
  d < radix ∧ ("0123456789abcdef".toList[d]? = some c ∨ "0123456789ABCDEF".toList[d]? = some c)

/-- A text is a whole number in a radix: at least one digit, the most significant one first. -/
def SpellsWhole (radix : ℕ) (ds : List Char) (n : ℕ) : Prop :=
  ds ≠ [] ∧ ∃ values, List.Forall₂ (IsDigitOf radix) ds values
    ∧ Nat.ofDigits radix values.reverse = n

/-- The marks for a radix. -/
def radixMarks : List (Char × ℕ) :=
  [('x', 16), ('X', 16), ('o', 8), ('O', 8), ('b', 2), ('B', 2)]

/-- A text is a whole number after a mark for its radix, with a sign between the two. -/
def SpellsRadix (sign t : List Char) (n : ℕ) : Prop :=
  ∃ mark radix ds, (mark, radix) ∈ radixMarks ∧ SpellsWhole radix ds n
    ∧ t = '0' :: mark :: (sign ++ ds)

section Radix

variable {c mark : Char} {d radix n acc : ℕ} {s t ds : List Char}

lemma letterDigit?_of_isDigitOf (hradix : radix ≤ 16) (h : IsDigitOf radix c d) :
    letterDigit? c = some d := by
  obtain ⟨hd, hc⟩ := h
  have hlt : d < 16 := hd.trans_le hradix
  interval_cases d <;> rcases hc with hc | hc <;> obtain rfl := Option.some.inj hc <;> decide

/-- A character is found at its distance from the first one of its alphabet. -/
lemma eq_ofNat_of_between {low high : Char} (h : low ≤ c ∧ c ≤ high) :
    c = Char.ofNat (c.toNat - low.toNat + low.toNat) := by
  have hlow : low.toNat ≤ c.toNat := h.1
  rw [Nat.sub_add_cancel hlow, Char.ofNat_toNat]

lemma isDigitOf_of_letterDigit? (hradix : radix ≤ 16) (h : letterDigit? c = some d)
    (hd : d < radix) : IsDigitOf radix c d := by
  have hlt : d < 16 := hd.trans_le hradix
  refine ⟨hd, ?_⟩
  unfold letterDigit? at h
  split at h
  · rename_i hdigit
    have hten := Text.digit_lt hdigit
    have hc := Text.digitChar_of_isDigit hdigit
    rw [Option.some.inj h] at hten hc
    rw [← hc]
    interval_cases d <;> exact .inl rfl
  · split at h
    · rename_i hlower
      have hc := eq_ofNat_of_between hlower
      generalize c.toNat - 'a'.toNat = k at h hc
      obtain rfl := Option.some.inj h
      have hk : k < 6 := by omega
      rw [hc]
      interval_cases k <;> exact .inl rfl
    · split at h
      · rename_i hupper
        have hc := eq_ofNat_of_between hupper
        generalize c.toNat - 'A'.toNat = k at h hc
        obtain rfl := Option.some.inj h
        have hk : k < 6 := by omega
        rw [hc]
        interval_cases k <;> exact .inr rfl
      · cases h

/-- The digits are read after the number `acc`, which they shift to the left. -/
lemma ofRadixDigits?_eq_some_iff (hradix : radix ≤ 16) : ofRadixDigits? radix acc ds = some n
    ↔ ∃ values, List.Forall₂ (IsDigitOf radix) ds values
      ∧ acc * radix ^ values.length + Nat.ofDigits radix values.reverse = n := by
  have hshift : ∀ (a d : ℕ) (values : List ℕ),
      a * radix ^ (d :: values).length + Nat.ofDigits radix (d :: values).reverse
        = (a * radix + d) * radix ^ values.length + Nat.ofDigits radix values.reverse := by
    intro a d values
    rw [List.reverse_cons, Nat.ofDigits_append, Nat.ofDigits_singleton, List.length_reverse,
      List.length_cons]
    ring
  induction ds generalizing acc with
  | nil => simp [ofRadixDigits?]
  | cons c ds ih =>
    unfold ofRadixDigits?
    constructor
    · intro h
      split at h
      · rename_i d hdigit
        split at h
        · rename_i hd
          obtain ⟨values, hvalues, hn⟩ := ih.1 h
          exact ⟨d :: values, .cons (isDigitOf_of_letterDigit? hradix hdigit hd) hvalues,
            (hshift _ _ _).trans hn⟩
        · cases h
      · cases h
    · rintro ⟨values, hvalues, hn⟩
      cases hvalues with
      | cons hdigit hvalues =>
        rw [letterDigit?_of_isDigitOf hradix hdigit]
        dsimp only
        rw [if_pos hdigit.1]
        exact ih.2 ⟨_, hvalues, (hshift _ _ _).symm.trans hn⟩

lemma spellsWhole_iff (hradix : radix ≤ 16) :
    SpellsWhole radix ds n ↔ ds ≠ [] ∧ ofRadixDigits? radix 0 ds = some n := by
  simp only [SpellsWhole, ofRadixDigits?_eq_some_iff hradix, Nat.zero_mul, Nat.zero_add]

lemma SpellsWhole.unique {m : ℕ} (hradix : radix ≤ 16) (h : SpellsWhole radix ds n)
    (h' : SpellsWhole radix ds m) : m = n :=
  Option.some.inj
    (((spellsWhole_iff hradix).1 h').2.symm.trans ((spellsWhole_iff hradix).1 h).2)

/-- A plus sign is no digit. -/
lemma not_spellsWhole_plus (hradix : radix ≤ 16) : ¬ SpellsWhole radix ('+' :: ds) n := by
  rw [spellsWhole_iff hradix]
  rintro ⟨-, h⟩
  cases h

/-- What is read after the mark of a radix: digits or a plus sign and digits, of a number
that 64 bits can hold. -/
lemma radixNumber?_eq_some_iff (hradix : radix ≤ 16) : radixNumber? radix s = some n
    ↔ n < 2 ^ 64 ∧ (SpellsWhole radix s n ∨ ∃ ds, s = '+' :: ds ∧ SpellsWhole radix ds n) := by
  have hword : ∀ ds : List Char, (if ds = [] then none
      else (ofRadixDigits? radix 0 ds).filter (· < 0x10000000000000000)) = some n
        ↔ n < 2 ^ 64 ∧ SpellsWhole radix ds n := by
    intro ds
    rw [spellsWhole_iff hradix]
    split
    · simp_all
    · rename_i hne
      rw [Option.filter_eq_some_iff, decide_eq_true_iff]
      tauto
  unfold radixNumber?
  dsimp only
  rw [hword]
  split
  · rename_i r
    simp [not_spellsWhole_plus hradix]
  · rename_i hplus
    have hnone : ¬ ∃ ds, s = '+' :: ds ∧ SpellsWhole radix ds n := by
      rintro ⟨ds, hs, -⟩
      exact hplus ds hs
    rw [or_iff_left hnone]

lemma mem_radixMarks_iff : (mark, radix) ∈ radixMarks ↔ radixOf? mark = some radix := by
  constructor
  · intro h
    simp only [radixMarks, List.mem_cons, Prod.mk.injEq, List.not_mem_nil, or_false] at h
    rcases h with ⟨rfl, rfl⟩ | ⟨rfl, rfl⟩ | ⟨rfl, rfl⟩ | ⟨rfl, rfl⟩ | ⟨rfl, rfl⟩ | ⟨rfl, rfl⟩
    all_goals rfl
  · intro h
    unfold radixOf? at h
    split at h
    case h_7 => cases h
    all_goals
      obtain rfl := Option.some.inj h
      decide

lemma le_sixteen_of_mem_radixMarks (h : (mark, radix) ∈ radixMarks) : radix ≤ 16 := by
  have hall : ∀ m ∈ radixMarks, m.2 ≤ 16 := by decide
  exact hall _ h

lemma SpellsRadix.unique {sign : List Char} {m : ℕ} (h : SpellsRadix sign t n)
    (h' : SpellsRadix sign t m) : m = n := by
  obtain ⟨mark, radix, ds, hmark, hds, rfl⟩ := h
  obtain ⟨mark', radix', ds', hmark', hds', heq⟩ := h'
  simp only [List.cons.injEq, List.append_cancel_left_eq, true_and] at heq
  obtain ⟨rfl, rfl⟩ := heq
  obtain rfl : radix = radix' := Option.some.inj
    ((mem_radixMarks_iff.1 hmark).symm.trans (mem_radixMarks_iff.1 hmark'))
  exact hds.unique (le_sixteen_of_mem_radixMarks hmark) hds'

/-- A whole number of 64 bits after a mark is read as the double to which it is rounded. -/
lemma denotes_of_spellsRadix {sign : List Char} (hsign : sign = [] ∨ sign = ['+'])
    (h : SpellsRadix sign t n) (hn : n < 2 ^ 64) : Denotes t (.ofInt n) := by
  obtain ⟨mark, radix, ds, hmark, hds, rfl⟩ := h
  refine .radix (mem_radixMarks_iff.1 hmark) ?_
  rw [radixNumber?_eq_some_iff (le_sixteen_of_mem_radixMarks hmark)]
  rcases hsign with rfl | rfl
  · exact ⟨hn, .inl hds⟩
  · exact ⟨hn, .inr ⟨ds, rfl, hds⟩⟩

end Radix

/-! ## Decimal numerals -/

namespace Numeral

variable {t u point power ds : List Char} {n : Numeral} {exponent : ℤ}

lemma readFraction_append (h : SpellsFraction point ds)
    (hu : ∀ c ∈ u.head?, c.isDigit = false ∧ c ≠ '.') : readFraction (point ++ u) = (ds, u) := by
  cases h with
  | none =>
    rw [List.nil_append]
    unfold readFraction
    split
    · exact absurd rfl (hu '.' rfl).2
    · rfl
  | point hds =>
    rw [List.cons_append, readFraction]
    exact Text.digitRun_of_digits hds fun c hc => (hu c hc).1

lemma readExponent_of_spells (h : SpellsPower power exponent) :
    readExponent power = (exponent, []) := by
  cases h with
  | none => rfl
  | power hletter hsign hds hne =>
    rename_i letter sign ds negative
    have hhead : ∀ c ∈ ds.head?, c.isDigit = true ∨ c = '.' := fun c hc =>
      .inl (hds c (List.mem_of_mem_head? hc))
    have hrun : Text.digitRun ds = (ds, []) := by
      simpa using Text.digitRun_of_digits hds (t := []) (by simp)
    simp only [readExponent, if_pos hletter, readSign_append hsign hhead, hrun, if_neg hne]

lemma SpellsPower.head (h : SpellsPower power exponent) :
    ∀ c ∈ power.head?, c = 'e' ∨ c = 'E' := by
  cases h with
  | none => simp
  | power hletter => simpa using hletter

/-- The letter of a power of ten goes on neither digits nor a fraction. -/
lemma SpellsPower.head_not_isDigit (h : SpellsPower power exponent) :
    ∀ c ∈ power.head?, c.isDigit = false ∧ c ≠ '.' := by
  intro c hc
  rcases h.head c hc with rfl | rfl
  · exact ⟨rfl, by decide⟩
  · exact ⟨rfl, by decide⟩

/-- Neither does a point go on digits. -/
lemma SpellsFraction.head_append (h : SpellsFraction point ds)
    (hu : ∀ c ∈ u.head?, c.isDigit = false) : ∀ c ∈ (point ++ u).head?, c.isDigit = false := by
  cases h with
  | none => exact hu
  | point => simp

/-- After its sign a numeral starts with a digit or a point. -/
lemma head_after_sign {whole fraction : List Char} (hwhole : Digits whole)
    (hpoint : SpellsFraction point fraction) (hne : whole ≠ [] ∨ fraction ≠ []) (u : List Char) :
    ∀ c ∈ (whole ++ (point ++ u)).head?, c.isDigit = true ∨ c = '.' := by
  intro c hc
  cases whole with
  | cons d r =>
    obtain rfl := Option.some.inj hc
    exact .inl (hwhole _ List.mem_cons_self)
  | nil =>
    cases hpoint with
    | none => simp at hne
    | point => exact .inr (Option.some.inj hc).symm

lemma read?_of_spells (h : Spells t n) : read? t = some (n, []) := by
  obtain ⟨negative, whole, fraction, exponent⟩ := n
  obtain ⟨⟨sign, point, power, rfl, hsign, hpoint, hpower⟩, hwhole, hne⟩ := h
  dsimp only at *
  have hstart := head_after_sign hwhole hpoint hne power
  have hletter := hpower.head_not_isDigit
  have hafter := hpoint.head_append fun c hc => (hletter c hc).1
  have hsome : ¬ (whole = [] ∧ fraction = []) := not_and_or.2 hne
  simp only [read?, readSign_append hsign hstart, Text.digitRun_of_digits hwhole hafter,
    readFraction_append hpoint hletter, readExponent_of_spells hpower, if_neg hsome]

/-- The texts that are read as numerals are those of the grammar. -/
lemma ofText?_eq_some_iff : ofText? t = some n ↔ Spells t n := by
  unfold ofText?
  constructor
  · intro h
    split at h
    · rename_i hread
      obtain rfl := Option.some.inj h
      obtain ⟨p, ht, hp⟩ := exists_spells_of_read? hread
      rwa [ht, List.append_nil]
    · cases h
  · intro h
    rw [read?_of_spells h]

lemma isRounded_toDouble (n : Numeral) :
    n.toDouble.IsRounded n.negative ((|n.number| : ℚ) : WithTop ℚ) := by
  rw [abs_number]
  exact Double.isRounded_ofDecimal _ _ _

end Numeral

/-! ## Literals -/

/-- A text is the literal of a number, which is given by its sign and its magnitude; the magnitude
`⊤` is infinite. -/
inductive Literal : List Char → Bool → WithTop ℚ → Prop
  /-- The word for infinity after an optional sign. -/
  | infinity {sign : List Char} {negative : Bool} (h : Numeral.SpellsSign sign negative) :
    Literal (sign ++ "Infinity".toList) negative ⊤
  /-- A decimal numeral. -/
  | decimal {t : List Char} {n : Numeral} (h : Numeral.Spells t n) :
    Literal t n.negative (|n.number| : ℚ)
  /-- A whole number without a sign, after a mark for its radix. -/
  | radix {t : List Char} {n : ℕ} (h : SpellsRadix [] t n) : Literal t false (n : ℚ)

/-- A text is not a whole number after a mark that needs more than 64 bits. -/
def FitsWord (t : List Char) : Prop := ∀ n, SpellsRadix [] t n → n < 2 ^ 64

variable {t : List Char} {x : Double} {negative : Bool} {q : WithTop ℚ} {n : ℕ}

/-- A literal is read as the double to which its number is rounded. -/
lemma Literal.exists_denotes (h : Literal t negative q) (hword : FitsWord t) :
    ∃ x, Denotes t x ∧ x.IsRounded negative q := by
  cases h with
  | infinity h =>
    refine ⟨_, ?_, Double.isRounded_infinity negative⟩
    cases h with
    | none => exact .infinity
    | plus => exact .plusInfinity
    | minus => exact .minusInfinity
  | decimal h => exact ⟨_, .decimal (Numeral.ofText?_eq_some_iff.2 h), Numeral.isRounded_toDouble _⟩
  | radix h => exact ⟨_, denotes_of_spellsRadix (.inl rfl) h (hword _ h), Double.isRounded_ofInt _⟩

/-- A numeral of the decimal grammar has no mark for a radix. -/
lemma fitsWord_of_ofText? {m : Numeral} (h : Numeral.ofText? t = some m) : FitsWord t := by
  rintro n ⟨mark, radix, ds, hmark, -, rfl⟩
  rw [Numeral.ofText?_radix (mem_radixMarks_iff.1 hmark)] at h
  cases h

/-- What denotes a number is a literal, or a whole number with a plus sign after the mark. -/
lemma literal_or_plus_of_denotes (h : Denotes t x) :
    (∃ negative q, Literal t negative q) ∧ FitsWord t ∨ ∃ n < 2 ^ 64, SpellsRadix ['+'] t n := by
  have hinfinity : ∀ t ∈ infinities, FitsWord t := by
    rintro t ht n ⟨mark, radix, ds, -, -, rfl⟩
    rcases mem_infinities_iff.1 ht with h | h | h <;> cases h
  cases h with
  | infinity => exact .inl ⟨⟨_, _, .infinity .none⟩, hinfinity _ (by decide)⟩
  | plusInfinity => exact .inl ⟨⟨_, _, .infinity .plus⟩, hinfinity _ (by decide)⟩
  | minusInfinity => exact .inl ⟨⟨_, _, .infinity .minus⟩, hinfinity _ (by decide)⟩
  | decimal h =>
    exact .inl ⟨⟨_, _, .decimal (Numeral.ofText?_eq_some_iff.1 h)⟩, fitsWord_of_ofText? h⟩
  | radix hr hn =>
    rename_i mark digits radix n
    have hmark := mem_radixMarks_iff.2 hr
    rw [radixNumber?_eq_some_iff (le_sixteen_of_mem_radixMarks hmark)] at hn
    obtain ⟨hlt, hds | ⟨ds, rfl, hds⟩⟩ := hn
    · have hspells : SpellsRadix [] ('0' :: mark :: digits) n :=
        ⟨mark, radix, digits, hmark, hds, rfl⟩
      refine .inl ⟨⟨_, _, .radix hspells⟩, fun m hm => ?_⟩
      rwa [hspells.unique hm]
    · exact .inr ⟨n, hlt, mark, radix, ds, hmark, hds, rfl⟩

lemma toDouble_string (s : String) : Value.toDouble (.string s)
    = if Text.trim s.toList = [] then .zero else numberOfLiteral (Text.trim s.toList) := rfl

/-- A text that denotes a number after trimming is read as that number. -/
lemma toDouble_of_denotes {s : String} (h : Denotes (Text.trim s.toList) x) :
    Value.toDouble (.string s) = x := by
  have hne : Text.trim s.toList ≠ [] := fun hnil =>
    not_denotes_of_isBlank (Text.trim_eq_nil_iff.1 hnil) x h
  rw [toDouble_string, if_neg hne, numberOfLiteral_of_denotes h]

lemma denotes_toDouble {s : String} (h : (Value.toDouble (.string s)).isNaN = false)
    (hne : Text.trim s.toList ≠ []) :
    Denotes (Text.trim s.toList) (Value.toDouble (.string s)) := by
  rw [toDouble_string, if_neg hne] at h ⊢
  exact denotes_numberOfLiteral h

/-- The number of any text.  After trimming there is one exactly when nothing is left, when the text
is a literal that does not exceed 64 bits after a mark for a radix, or when a plus sign and a whole
number of 64 bits stand after the mark.  Nothing stands for zero, and a literal of any length, like
the other form, for the double to which its number is rounded. -/
theorem number_of_text_is_rounded_literal (s : String) :
    let x : Double := Value.toDouble (.string s)
    let t := Text.trim s.toList
    (x.isNaN = false ↔ t = [] ∨ (∃ negative q, Literal t negative q) ∧ FitsWord t
        ∨ ∃ n < 2 ^ 64, SpellsRadix ['+'] t n)
      ∧ (t = [] → x = .zero)
      ∧ (∀ negative q, Literal t negative q → FitsWord t →
        ∀ y : Double, y.IsRounded negative q ↔ y = x)
      ∧ ∀ n < 2 ^ 64, SpellsRadix ['+'] t n →
        ∀ y : Double, y.IsRounded false (n : ℚ) ↔ y = x := by
  intro x t
  have hliteral : ∀ {negative q}, Literal t negative q → FitsWord t → x.IsRounded negative q := by
    intro negative q h hword
    obtain ⟨y, hy, hround⟩ := h.exists_denotes hword
    rwa [show x = y from toDouble_of_denotes hy]
  have hplus : ∀ {n : ℕ}, n < 2 ^ 64 → SpellsRadix ['+'] t n → x.IsRounded false (n : ℚ) := by
    intro n hn h
    rw [show x = .ofInt n from toDouble_of_denotes (denotes_of_spellsRadix (.inr rfl) h hn)]
    exact Double.isRounded_ofInt n
  have hnumber : ∀ {negative q}, x.IsRounded negative q → x.isNaN = false := by
    rintro negative q ⟨m, hm, -⟩
    rw [hm]
    rfl
  refine ⟨⟨fun hx => ?_, ?_⟩, fun hnil => ?_, fun _ _ h hword => (hliteral h hword).iff_eq,
    fun _ hn h => (hplus hn h).iff_eq⟩
  · by_cases hnil : t = []
    · exact .inl hnil
    · exact .inr (literal_or_plus_of_denotes (denotes_toDouble hx hnil))
  · rintro (hnil | ⟨⟨negative, q, h⟩, hword⟩ | ⟨n, hn, h⟩)
    · rw [show x = .zero from if_pos hnil]
      rfl
    · exact hnumber (hliteral h hword)
    · exact hnumber (hplus hn h)
  · exact if_pos hnil

/-- A signed numeral with a power of ten between white space, and a plus sign after a mark. -/
theorem number_of_signed_power_and_plus_after_mark :
    let s := "\t-12.5e1 "
    let x : Double := Value.toDouble (.string s)
    Literal (Text.trim s.toList) true (125 : ℚ) ∧ FitsWord (Text.trim s.toList)
      ∧ (∀ y : Double, y.IsRounded true (125 : ℚ) ↔ y = x) ∧ x = .ofInt (-125)
      ∧ SpellsRadix ['+'] (Text.trim "0x+5".toList) 5
      ∧ ∀ y : Double, y.IsRounded false ((5 : ℕ) : ℚ) ↔ y = Value.toDouble (.string "0x+5") := by
  intro s x
  have hread : Numeral.ofText? (Text.trim s.toList) = some ⟨true, "12".toList, "5".toList, 1⟩ := by
    decide
  have hcoefficient : Numeral.coefficient ⟨true, "12".toList, "5".toList, 1⟩ = 125 := by decide
  have hscale : Numeral.scale ⟨true, "12".toList, "5".toList, 1⟩ = 0 := by decide
  have hliteral : Literal (Text.trim s.toList) true (125 : ℚ) := by
    have h := Literal.decimal (Numeral.ofText?_eq_some_iff.1 hread)
    rw [Numeral.abs_number, hcoefficient, hscale] at h
    simpa using h
  have hword : FitsWord (Text.trim s.toList) := fitsWord_of_ofText? hread
  have hplus : SpellsRadix ['+'] (Text.trim "0x+5".toList) 5 :=
    ⟨'x', 16, ['5'], by decide, (spellsWhole_iff (by decide)).2 (by decide), by decide⟩
  obtain ⟨-, -, hnumber, -⟩ := number_of_text_is_rounded_literal s
  obtain ⟨-, -, -, hafter⟩ := number_of_text_is_rounded_literal "0x+5"
  exact ⟨hliteral, hword, hnumber _ _ hliteral hword, by decide +kernel, hplus,
    hafter 5 (by decide) hplus⟩

/-- A literal of 65 bits after a mark is read as no number, and a text that is no literal is read as
one because a plus sign stands after the mark. -/
theorem long_literal_is_no_number :
    let s := "0x10000000000000000"
    Literal (Text.trim s.toList) false ((2 ^ 64 : ℕ) : ℚ)
      ∧ (Value.toDouble (.string s)).isNaN = true
      ∧ Text.trim "0x+5".toList ≠ []
      ∧ (¬ ∃ negative q, Literal (Text.trim "0x+5".toList) negative q)
      ∧ (Value.toDouble (.string "0x+5")).isNaN = false := by
  intro s
  refine ⟨.radix ⟨'x', 16, "10000000000000000".toList, by decide, ?_, by decide⟩, by decide +kernel,
    by decide, ?_, by decide +kernel⟩
  · exact (spellsWhole_iff (by decide)).2 ⟨by decide, by decide +kernel⟩
  · have htrim : Text.trim "0x+5".toList = "0x+5".toList := by decide
    rw [htrim]
    rintro ⟨negative, q, h⟩
    generalize ht : "0x+5".toList = t at h
    cases h with
    | infinity h => cases h <;> cases ht
    | decimal h =>
      subst ht
      cases Numeral.ofText?_eq_some_iff.2 h
    | radix h =>
      obtain ⟨mark, radix, ds, hmark, hds, hcons⟩ := h
      rw [← ht] at hcons
      obtain ⟨-, hcons⟩ := List.cons.inj hcons
      obtain ⟨rfl, rfl⟩ := List.cons.inj hcons
      exact not_spellsWhole_plus (le_sixteen_of_mem_radixMarks hmark) hds

end GridRules
