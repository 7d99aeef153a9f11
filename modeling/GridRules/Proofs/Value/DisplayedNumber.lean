import GridRules.Proofs.Double.Shortest
import GridRules.Proofs.Value.EqualityAndOrder
import GridRules.Proofs.Value.LiteralGrammar
import GridRules.Proofs.Value.LooseEquality
import GridRules.Proofs.Value.SortOrder

/-!
# Displayed numbers

The display text of a number denotes the double nearest to the number (`denotes_displayText`),
whichever way the number is written: a whole number of a signed 64-bit integer with all its digits,
which need not be a double, and any other number with the shortest digits of its double.  So a
number, its display text and the list of the number alone are the same to the loose comparisons, and
the number and its text have one place in the order that sorts mixed values.
-/

namespace GridRules

/-! ## Whole numbers -/

/-- A whole number is written as a plain numeral without a fraction. -/
lemma Text.ofInt_eq_plain (n : ℤ) :
    ofInt n = Numeral.plain (n < 0) (digits n.natAbs) [] := by
  rw [ofInt, Numeral.plain, if_pos rfl, List.append_nil]
  split
  · rename_i hn
    simp [hn]
  · rename_i hn
    simp [hn]

/-- The exact digits of a whole number denote the double nearest to it. -/
lemma denotes_ofInt (n : ℤ) : Denotes (Text.ofInt n) (.ofInt n) := by
  have hvalue : Numeral.toDouble ⟨decide (n < 0), Text.digits n.natAbs, [], 0⟩ = .ofInt n := by
    rw [Numeral.toDouble_plain _ _ (by decide : ([] : List Char).length ≤ 330), List.append_nil,
      Text.ofDigits_digits, Double.ofInt]
    rfl
  rw [Text.ofInt_eq_plain, ← hvalue]
  exact .decimal (Numeral.ofText?_plain _ (fun _ => Text.isDigit_of_mem_digits)
    (Text.digits_ne_nil _) fun _ hc => absurd hc List.not_mem_nil)

lemma Text.trim_ofInt (n : ℤ) : trim (ofInt n) = ofInt n := by
  rw [ofInt_eq_plain]
  exact trim_of_forall fun _ => Numeral.isWhite_of_mem_plain (fun _ => isDigit_of_mem_digits)
    fun _ hc => absurd hc List.not_mem_nil

/-! ## Display texts of numbers -/

namespace Number

/-- The display text of a number denotes the double nearest to the number. -/
theorem denotes_displayText (n : Number) : Denotes n.displayText n.toDouble := by
  cases n with
  | integer n fits =>
    rw [displayText]
    split
    · exact denotes_ofInt n
    · exact Double.denotes_plainText (Double.isNaN_ofInt n)
  | real negative m finite => exact Double.denotes_plainText (x := .signed negative m) rfl

lemma trim_displayText (n : Number) : Text.trim n.displayText = n.displayText := by
  cases n with
  | integer n fits =>
    rw [displayText]
    split
    · exact Text.trim_ofInt n
    · exact Double.trim_plainText _
  | real negative m finite => exact Double.trim_plainText (.signed negative m)

end Number

namespace Value

/-- The display text of a number, from which nothing is trimmed, denotes the double of the
number. -/
lemma denotes_trim_displayText (n : Number) :
    Denotes (Text.trim (displayText (.number n)).toList) n.toDouble := by
  have htext : (displayText (.number n)).toList = n.displayText := String.toList_ofList
  rw [htext, n.trim_displayText]
  exact n.denotes_displayText

/-- The list of a number alone is displayed as the number is. -/
lemma displayText_singleton (n : Number) :
    displayText (.array [.number n]) = displayText (.number n) :=
  congrArg String.ofList List.intercalate_singleton

/-- A number is loosely equal to any value but null that is read as its double. -/
lemma looseEquals_number {n : Number} {v : Value} (hv : v ≠ .null) (h : v.toDouble = n.toDouble) :
    looseEquals (.number n) v = true := by
  have hsame : n.toDouble.sameNumber v.toDouble = true := by
    rw [h]
    exact Double.sameNumber_self n.isNaN_toDouble
  cases v with
  | null => exact absurd rfl hv
  | _ => exact hsame

/-- Displaying a number loses nothing that the numeric reading sees: the display text of a number is
read as the double of the number.  The number, its display text and the list of the number alone are
loosely equal to each other, and against any value the number and its text are sorted alike, as
equal against each other. -/
theorem displayed_number_is_the_number (n : Number) :
    let number := Value.number n
    let text := Value.string number.displayText
    let list := Value.array [number]
    text.toDouble = number.toDouble
      ∧ (∀ v ∈ [number, text, list], ∀ w ∈ [number, text, list], v.looseEquals w = true)
      ∧ number.sortOrder text = .eq
      ∧ ∀ v : Value, number.sortOrder v = text.sortOrder v
        ∧ v.sortOrder number = v.sortOrder text := by
  intro number text list
  have hread : text.ReadsAs n.toDouble := .text (denotes_trim_displayText n)
  have htext : text.toDouble = n.toDouble := toDouble_of_denotes (denotes_trim_displayText n)
  have hlist : list.toDouble = n.toDouble := by
    have hprimitive : list.primitive = text.primitive :=
      congrArg Primitive.text (displayText_singleton n)
    rw [toDouble, hprimitive]
    exact htext
  have hkey : number.sortKey = text.sortKey :=
    (sortKey_of_readsAs (.number n)).trans (sortKey_of_readsAs hread).symm
  have hnt : number.looseEquals text = true := looseEquals_number Value.noConfusion htext
  have hnl : number.looseEquals list = true := looseEquals_number Value.noConfusion hlist
  have hlt : list.looseEquals text = true := by
    rw [looseEquals_container rfl rfl, displayText_singleton]
    exact looseEquals_refl text
  refine ⟨htext, ?_, ?_, fun v => ?_⟩
  · simp only [List.forall_mem_cons, List.not_mem_nil, false_implies, implies_true, and_true]
    refine ⟨⟨looseEquals_refl _, hnt, hnl⟩, ⟨?_, looseEquals_refl _, ?_⟩, ?_, hlt,
      looseEquals_refl _⟩
    · rw [looseEquals_comm]
      exact hnt
    · rw [looseEquals_comm]
      exact hlt
    · rw [looseEquals_comm]
      exact hnl
  · rw [sortOrder, hkey]
    exact Std.ReflCmp.compare_self
  · rw [sortOrder, sortOrder, sortOrder, sortOrder, hkey]
    exact ⟨rfl, rfl⟩

/-- The greatest signed whole number, which is not a double, is displayed with all its digits and
equals them; beside it the text is sorted as equal. -/
theorem greatest_signed_number_is_its_text :
    let greatest := Value.number (.integer 9223372036854775807 (by decide))
    greatest.displayText = "9223372036854775807"
      ∧ greatest.looseEquals (.string "9223372036854775807") = true
      ∧ greatest.sortOrder (.string "9223372036854775807") = .eq := by
  intro greatest
  have htext : greatest.displayText = "9223372036854775807" := by decide +kernel
  obtain ⟨-, hequal, hsorted, -⟩ :=
    displayed_number_is_the_number (.integer 9223372036854775807 (by decide))
  refine ⟨htext, ?_, ?_⟩
  · rw [← htext]
    exact hequal _ List.mem_cons_self _ (List.mem_cons_of_mem _ List.mem_cons_self)
  · rw [← htext]
    exact hsorted

end Value

end GridRules
