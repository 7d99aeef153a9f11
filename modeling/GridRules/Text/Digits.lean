/-!
# Digits

Decimal digits of natural numbers as text, and back. Both directions are core's; this module adds
the runs of digits at the front of a text and digits padded to a width.
-/

namespace GridRules.Text

/-- The decimal digits of a number, without leading zeros; zero is one digit. -/
def digits (n : Nat) : List Char := Nat.toDigits 10 n

/-- The number that a list of decimal digits denotes. -/
def ofDigits (ds : List Char) : Nat := Nat.ofDigitChars 10 ds 0

/-- The digits of a number, with zeros in front up to a width. -/
def padded (width n : Nat) : List Char :=
  let ds := digits n
  List.replicate (width - ds.length) '0' ++ ds

/-- The digits of a whole number, after a minus sign when it is negative. -/
def ofInt (n : Int) : List Char :=
  if n < 0 then '-' :: digits n.natAbs else digits n.natAbs

/-- The ASCII digits at the front of a text, and the rest. -/
def digitRun (s : List Char) : List Char × List Char :=
  (s.takeWhile Char.isDigit, s.dropWhile Char.isDigit)

theorem ofDigits_digits (n : Nat) : ofDigits (digits n) = n :=
  Nat.ofDigitChars_toDigits (by decide) (by decide)

theorem isDigit_of_mem_digits {n : Nat} {c : Char} (h : c ∈ digits n) : c.isDigit = true :=
  Nat.isDigit_of_mem_toDigits (by decide) (by decide) h

theorem digits_ne_nil (n : Nat) : digits n ≠ [] := Nat.toDigits_ne_nil

theorem ofDigits_append (ds es : List Char) :
    ofDigits (ds ++ es) = Nat.pow 10 es.length * ofDigits ds + ofDigits es := by
  rw [ofDigits, Nat.ofDigitChars_append, Nat.ofDigitChars_eq_ofDigitChars_zero]
  rfl

/-- Every zero at the end multiplies by ten. -/
theorem ofDigits_append_zeros (ds : List Char) (zeros : Nat) :
    ofDigits (ds ++ List.replicate zeros '0') = ofDigits ds * Nat.pow 10 zeros := by
  have hzeros : ofDigits (List.replicate zeros '0') = 0 := by
    rw [ofDigits, Nat.ofDigitChars_replicate_zero, Nat.mul_zero]
  rw [ofDigits_append, List.length_replicate, hzeros, Nat.add_zero, Nat.mul_comm]

theorem ofDigits_padded (width n : Nat) : ofDigits (padded width n) = n := by
  rw [padded, ofDigits, Nat.ofDigitChars_append, Nat.ofDigitChars_replicate_zero, Nat.mul_zero]
  exact ofDigits_digits n

theorem isDigit_of_mem_padded {width n : Nat} {c : Char} (h : c ∈ padded width n) :
    c.isDigit = true := by
  rcases List.mem_append.1 h with h | h
  · rw [(List.mem_replicate.1 h).2]
    rfl
  · exact isDigit_of_mem_digits h

theorem le_length_padded (width n : Nat) : width ≤ (padded width n).length := by
  rw [padded, List.length_append, List.length_replicate]
  omega

/-- A number that fits into the width takes exactly the width. -/
theorem length_padded {width n : Nat} (hwidth : 0 < width) (h : n < Nat.pow 10 width) :
    (padded width n).length = width := by
  have hdigits : (digits n).length ≤ width :=
    (Nat.length_toDigits_le_iff (by decide) hwidth).2 h
  rw [padded, List.length_append, List.length_replicate]
  omega

theorem digitRun_append (s : List Char) : (digitRun s).1 ++ (digitRun s).2 = s :=
  List.takeWhile_append_dropWhile

end GridRules.Text
