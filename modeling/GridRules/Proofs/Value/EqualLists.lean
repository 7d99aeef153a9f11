import GridRules.Proofs.Double.Shortest
import GridRules.Proofs.Value.EqualityAndOrder
import GridRules.Proofs.Value.LooseEquality
import Mathlib.Tactic.TFAE

/-!
# Equal lists

Two lists are equal when their items are, numbers by their doubles; with everything but lists and
objects a list is compared by its display text.  The two views agree against lists and objects, and
they agree against every value exactly when the texts are the same
(`equal_lists_are_alike_by_their_texts`).

Texts of equal lists can differ only in numbers.  A whole number of a signed 64-bit integer is
displayed with all its digits; up to two to the power of 53 these are the digits of its double, and
beyond it numbers with one double have texts of their own.
-/

namespace GridRules

/-! ## Numbers with one double -/

namespace Double

/-- Two numbers in one place are the same double, unless one of them is negative zero. -/
lemma eq_of_sameNumber {x y : Double} (h : x.sameNumber y = true) (hx : x ≠ .signed true .zero)
    (hy : y ≠ .signed true .zero) : x = y := by
  obtain ⟨p, hp, hq⟩ := sameNumber_iff.1 h
  have hzero : ∀ {m : Magnitude}, Double.signed true m ≠ .signed true .zero → 0 < m.rank := by
    intro m hm
    refine Nat.pos_of_ne_zero fun hrank => hm ?_
    rw [Magnitude.eq_of_rank_eq (y := .zero) hrank]
  cases x with
  | nan => cases hp
  | signed negative m =>
    cases y with
    | nan => cases hq
    | signed negative' m' =>
      have hplace := hp.trans hq.symm
      cases negative with
      | false =>
        cases negative' with
        | false =>
          have hrank : (m.rank : ℤ) = m'.rank := Option.some.inj hplace
          rw [Magnitude.eq_of_rank_eq (Int.ofNat.inj hrank)]
        | true =>
          have hrank : (m.rank : ℤ) = -m'.rank := Option.some.inj hplace
          have hpos := hzero hy
          omega
      | true =>
        cases negative' with
        | false =>
          have hrank : (-m.rank : ℤ) = m'.rank := Option.some.inj hplace
          have hpos := hzero hx
          omega
        | true =>
          have hrank : (-m.rank : ℤ) = -m'.rank := Option.some.inj hplace
          rw [Magnitude.eq_of_rank_eq (by omega : m.rank = m'.rank)]

/-- No whole number is read as negative zero. -/
lemma ofInt_ne_negativeZero (n : ℤ) : ofInt n ≠ .signed true .zero := by
  intro h
  obtain ⟨hsign, hmagnitude⟩ := Double.signed.inj h
  have hn : 0 < n.natAbs := Int.natAbs_pos.2 (of_decide_eq_true hsign).ne
  have hinfinity : infinityRank ≠ 0 := by decide
  have hrank : nearestRank (n.natAbs * unitsPerOne) 1 = 0 := by
    have hmin : min (nearestRank (n.natAbs * unitsPerOne) 1) infinityRank = 0 :=
      congrArg Magnitude.rank hmagnitude
    omega
  -- one is nearer to the number than zero
  obtain ⟨one, -, hone⟩ := exists_unitsOfRank_eq Nat.one_pos (by decide)
  have hnearest := dist_nearestRank_le (n.natAbs * unitsPerOne) Nat.one_pos one
  have hzero : unitsOfRank 0 = 0 := rfl
  have hunits := unitsPerOne_pos
  rw [hrank, hone, hzero] at hnearest
  have hle : 1 * unitsPerOne ≤ n.natAbs * unitsPerOne := Nat.mul_le_mul_right _ hn
  generalize n.natAbs * unitsPerOne = num at hle hnearest
  generalize unitsPerOne = one at *
  unfold Nat.dist at hnearest
  omega

end Double

namespace Number

/-- A number whose display text is told by its double: a whole number up to two to the power of 53
or beyond the signed integers, or a double other than negative zero. -/
def IsPlain : Number → Prop
  | integer n _ => n.natAbs ≤ 2 ^ 53 ∨ 2 ^ 63 ≤ n
  | real negative m _ => negative = true → m.rank ≠ 0

variable {a b : Number}

lemma IsPlain.displayText_eq (h : a.IsPlain) : a.displayText = a.toDouble.plainText := by
  cases a with
  | integer n fits =>
    rw [displayText, toDouble]
    split
    · rename_i hlt
      have hsmall : n.natAbs ≤ 2 ^ 53 := by
        rcases h with h | h
        · exact h
        · omega
      exact (Double.plainText_ofInt hsmall).symm
    · rfl
  | real negative m finite => rfl

lemma IsPlain.ne_negativeZero (h : a.IsPlain) : a.toDouble ≠ .signed true .zero := by
  cases a with
  | integer n fits => exact Double.ofInt_ne_negativeZero n
  | real negative m finite =>
    intro hzero
    obtain ⟨rfl, rfl⟩ := Double.signed.inj hzero
    exact h rfl rfl

/-- Plain numbers with one place have one display text. -/
lemma displayText_congr (h : a.toDouble.sameNumber b.toDouble = true) (ha : a.IsPlain)
    (hb : b.IsPlain) : a.displayText = b.displayText := by
  rw [ha.displayText_eq, hb.displayText_eq,
    Double.eq_of_sameNumber h ha.ne_negativeZero hb.ne_negativeZero]

end Number

/-! ## Texts of equal lists -/

namespace Value

mutual

/-- The numbers that meet in two values, or in lists of them, are the same number or both plain. -/
def WrittenAlike : Value → Value → Prop
  | .number a, .number b => a = b ∨ a.IsPlain ∧ b.IsPlain
  | .array a, .array b => ItemsWrittenAlike a b
  | _, _ => True

/-- The same, place by place. -/
def ItemsWrittenAlike : List Value → List Value → Prop
  | a :: r, b :: t => WrittenAlike a b ∧ ItemsWrittenAlike r t
  | _, _ => True

end

/-- An item of a list is displayed as outside of one, null aside. -/
def itemText : Value → List Char
  | .null => []
  | v => displayChars v

lemma itemTexts_cons (v : Value) (r : List Value) :
    itemTexts (v :: r) = itemText v :: itemTexts r := by
  cases v <;> rfl

mutual

/-- Equal values in which the numbers are written alike have one display text. -/
theorem displayChars_congr : ∀ {a b : Value}, sameStructure a b = true → WrittenAlike a b →
    displayChars a = displayChars b
  | .null, b, h, _ => by
    cases b with
    | null => rfl
    | _ => cases h
  | .bool x, b, h, _ => by
    cases b with
    | bool y => rw [show x = y from beq_iff_eq.1 h]
    | _ => cases h
  | .number m, b, h, hw => by
    cases b with
    | number n =>
      rcases hw with rfl | ⟨hm, hn⟩
      · rfl
      · exact Number.displayText_congr h hm hn
    | _ => cases h
  | .string s, b, h, _ => by
    cases b with
    | string t => rw [show s = t from beq_iff_eq.1 h]
    | _ => cases h
  | .array r, b, h, hw => by
    cases b with
    | array t => exact congrArg ([','].intercalate) (itemTexts_congr h hw)
    | _ => cases h
  | .object r, b, h, _ => by
    cases b with
    | object t => rfl
    | _ => cases h

/-- Equal lists in which the numbers are written alike have the same display texts of items. -/
theorem itemTexts_congr : ∀ {a b : List Value}, sameStructureItems a b = true →
    ItemsWrittenAlike a b → itemTexts a = itemTexts b
  | [], [], _, _ => rfl
  | v :: r, w :: t, h, hw => by
    obtain ⟨hvw, hrt⟩ := Bool.and_eq_true_iff.1 h
    have htext := displayChars_congr hvw hw.1
    have hitem : itemText v = itemText w := by
      cases v with
      | null =>
        cases w with
        | null => rfl
        | _ => cases hvw
      | _ =>
        cases w with
        | null => cases hvw
        | _ => exact htext
    rw [itemTexts_cons, itemTexts_cons, hitem, itemTexts_congr hrt hw.2]

end

/-! ## The two views of a list -/

/-- A list equals a text when the text is how it is displayed. -/
lemma looseEquals_array_string (items : List Value) (s : String) :
    looseEquals (.array items) (.string s) = (displayText (.array items) == s) :=
  looseEquals_container rfl rfl

/-- A list is compared with a text as its display text is. -/
lemma compare?_array_string (items : List Value) (s : String) :
    compare? (.array items) (.string s) = some (compare (displayText (.array items)) s) :=
  compare?_displayText rfl (.string s)

/-- Structurally equal values are structurally equal to the same values. -/
lemma sameStructure_congr {a b : Value} (h : sameStructure a b = true) (c : Value) :
    sameStructure a c = sameStructure b c := by
  rw [Bool.eq_iff_iff]
  exact ⟨sameStructure_trans (sameStructure_comm a b ▸ h), sameStructure_trans h⟩

/-- Equal lists are loosely equal to the same lists and objects.  They are loosely equal to the same
values altogether, compare alike with all values and are found in the same haystacks exactly when
they have one display text.  That is so when the numbers that meet in them are written alike: the
same number, or both of them a whole number up to two to the power of 53 or beyond the signed
integers, or a double other than negative zero. -/
theorem equal_lists_are_alike_by_their_texts {a b : List Value}
    (h : looseEquals (.array a) (.array b) = true) :
    (∀ c : Value, c.isContainer = true →
        looseEquals (.array a) c = looseEquals (.array b) c)
      ∧ List.TFAE [displayText (.array a) = displayText (.array b),
        ∀ c : Value, looseEquals (.array a) c = looseEquals (.array b) c,
        ∀ c : Value, compare? (.array a) c = compare? (.array b) c,
        ∀ haystack : Value, haystack.includes (.array a) = haystack.includes (.array b)]
      ∧ (WrittenAlike (.array a) (.array b) →
        displayText (.array a) = displayText (.array b)) := by
  have hstructure : sameStructure (.array a) (.array b) = true := h
  have hcontainer : ∀ c : Value, c.isContainer = true →
      looseEquals (.array a) c = looseEquals (.array b) c := by
    intro c hc
    rw [looseEquals, looseEquals, hc]
    exact sameStructure_congr hstructure c
  refine ⟨hcontainer, ?_, fun hw => congrArg String.ofList (displayChars_congr hstructure hw)⟩
  tfae_have 1 → 2 := by
    intro htext c
    cases hc : c.isContainer with
    | true => exact hcontainer c hc
    | false =>
      rw [looseEquals_container (a := .array a) rfl hc, htext,
        looseEquals_container (a := .array b) rfl hc]
  tfae_have 2 → 4 := by
    intro hequal haystack
    have hneedle : ∀ v : Value, v.looseEquals (.array a) = v.looseEquals (.array b) := by
      intro v
      rw [looseEquals_comm, hequal, looseEquals_comm]
    simp only [includes, hneedle]
  tfae_have 4 → 1 := by
    intro hfound
    -- the first list is found beside its own text
    have hown := hfound (.array [.string (displayText (.array a))])
    simp only [includes, sequence, List.any_cons, List.any_nil, Bool.or_false,
      looseEquals_comm (.string _), looseEquals_array_string, beq_self_eq_true] at hown
    exact (beq_iff_eq.1 hown.symm).symm
  tfae_have 1 → 3 := by
    intro htext c
    rw [compare?_displayText (a := .array a) rfl, htext, compare?_displayText (a := .array b) rfl]
  tfae_have 3 → 1 := by
    intro hcompare
    have hself : compare (displayText (.array a)) (displayText (.array a)) = .eq :=
      Std.ReflCmp.compare_self
    have hown := hcompare (.string (displayText (.array a)))
    rw [compare?_array_string, compare?_array_string, hself] at hown
    exact (Std.LawfulEqCmp.eq_of_compare (Option.some.inj hown.symm)).symm
  tfae_finish

/-- A whole number and the double of the same value are equal in nested lists and are written alike,
so the lists have one display text. -/
theorem nested_lists_of_one_text :
    let half := Value.number (.real false (.ofRank 0x3FE0000000000000) (by decide))
    let whole := Value.number (.integer 1 (by decide))
    let double := Value.number (.real false (.ofRank 0x3FF0000000000000) (by decide))
    looseEquals (.array [whole, .array [half, .string "x"]])
        (.array [double, .array [half, .string "x"]]) = true
      ∧ displayText (.array [whole, .array [half, .string "x"]])
        = displayText (.array [double, .array [half, .string "x"]]) := by
  intro half whole double
  have hequal : looseEquals (.array [whole, .array [half, .string "x"]])
      (.array [double, .array [half, .string "x"]]) = true := by decide +kernel
  have hplain : WrittenAlike whole double := .inr ⟨.inl (by decide), nofun⟩
  exact ⟨hequal, (equal_lists_are_alike_by_their_texts hequal).2.2
    ⟨hplain, ⟨.inl rfl, trivial, trivial⟩, trivial⟩⟩

/-- Beyond two to the power of 53 two whole numbers have one double, so that their lists are equal,
and still each is displayed with its own digits. -/
theorem equal_lists_of_two_texts :
    let a := Value.array [.number (.integer 9007199254740993 (by decide))]
    let b := Value.array [.number (.integer 9007199254740992 (by decide))]
    let text := Value.string "9007199254740993"
    a.looseEquals b = true ∧ a.displayText ≠ b.displayText
      ∧ a.looseEquals text = true ∧ b.looseEquals text = false
      ∧ a.compare? text = some .eq ∧ b.compare? text = some .lt
      ∧ includes (.array [text]) a = true ∧ includes (.array [text]) b = false := by
  decide +kernel

end Value

end GridRules
