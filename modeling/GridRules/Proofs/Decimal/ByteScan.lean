import GridRules.Proofs.Decimal.LongestNumeral
import GridRules.Proofs.Text.Bytes

/-!
# The numeral at the front of a text, by its bytes

The end of the numeral at the front of a text is found by a cursor that moves over its bytes, byte
by byte, and goes back where a power of ten turns out to have no digit (`Numeral.scan?`).  The text
up to there is cut out and converted as a whole (`Numeral.leading?`).

The cursor is between two characters at every step, whatever characters follow: it only moves over
signs, digits, a point and a letter.  Each part of the scan ends where the corresponding stage of
the reader does, so the cut falls after the longest numeral, and its conversion cannot fail
(`Numeral.leading?_eq`).
-/

namespace GridRules

open Text (Before byteIs utf8)

namespace Numeral

/-! ## The scan -/

/-- A plus or minus sign. -/
def isSign (c : Char) : Bool := c == '+' || c == '-'

/-- A letter that starts a power of ten. -/
def isPowerLetter (c : Char) : Bool := c == 'e' || c == 'E'

/-- The place after the sign at a place, if there is one. -/
def skipSign (bytes : List UInt8) (i : ℕ) : ℕ := if byteIs bytes i isSign then i + 1 else i

/-- The place after the digits from a place on. -/
def skipDigits (bytes : List UInt8) (i : ℕ) : ℕ :=
  if h : byteIs bytes i Char.isDigit = true then skipDigits bytes (i + 1) else i
termination_by bytes.length - i
decreasing_by
  have := Text.lt_length_of_byteIs h
  omega

/-- How many digits follow the point at a place, and the place after them; without a point there are
none. -/
def scanFraction (bytes : List UInt8) (i : ℕ) : ℕ × ℕ :=
  if byteIs bytes i (· == '.') then
    let stop := skipDigits bytes (i + 1)
    (stop - (i + 1), stop)
  else (0, i)

/-- The place after the power of ten at a place.  It goes back to the place where no digit follows
the letter and its sign. -/
def scanPower (bytes : List UInt8) (i : ℕ) : ℕ :=
  if byteIs bytes i isPowerLetter then
    let first := skipSign bytes (i + 1)
    let stop := skipDigits bytes first
    if first < stop then stop else i
  else i

/-- The place after the numeral that bytes start with; `none` when no digit comes before or right
after the point. -/
def scan? (bytes : List UInt8) : Option ℕ :=
  let first := skipSign bytes 0
  let point := skipDigits bytes first
  let (digits, stop) := scanFraction bytes point
  if point - first + digits = 0 then none else some (scanPower bytes stop)

/-- The double that a word stands for, in any case. -/
def ofWord? (negative : Bool) (word : List Char) : Option Double :=
  let lower := word.map Char.toLower
  if lower = "inf".toList ∨ lower = "infinity".toList then some (.infinity negative)
  else if lower = "nan".toList then some .nan
  else none

/-- The double that a whole text denotes: a word or a number, after an optional sign. -/
def convert? (t : List Char) : Option Double :=
  let (negative, word) := readSign t
  ofWord? negative word <|> (ofText? t).map toDouble

/-- The number at the front of a text, after white space: the text is cut where the scan of its
bytes ends, and converted. -/
def leading? (s : List Char) : Option Double := do
  let bytes := utf8 (Text.trimStart s)
  let stop ← scan? bytes
  let part ← Text.slice? bytes stop
  convert? part.toList

variable {s p rest : List Char} {n : Numeral} {i : ℕ} {c : Char}

/-! ## The scan ends where the reader does -/

lemma toNat_lt_of_isSign (h : isSign c = true) : c.toNat < 0x80 := by
  simp only [isSign, Bool.or_eq_true, beq_iff_eq] at h
  rcases h with rfl | rfl <;> decide

lemma toNat_lt_of_isPowerLetter (h : isPowerLetter c = true) : c.toNat < 0x80 := by
  simp only [isPowerLetter, Bool.or_eq_true, beq_iff_eq] at h
  rcases h with rfl | rfl <;> decide

lemma before_skipSign (h : Before s rest i) :
    Before s (readSign rest).2 (skipSign (utf8 s) i) := by
  rw [skipSign, Text.byteIs_eq h fun _ => toNat_lt_of_isSign]
  unfold readSign
  split
  · exact h.step (by decide)
  · exact h.step (by decide)
  · rename_i hminus hplus
    have hnone : rest.head?.any isSign = false := by
      cases rest with
      | nil => rfl
      | cons c r =>
        have hc : c ≠ '-' := fun heq => hminus r (by rw [heq])
        have hc' : c ≠ '+' := fun heq => hplus r (by rw [heq])
        simp [isSign, hc, hc']
    rw [hnone]
    exact h

/-- The cursor stays between two characters on its way over the digits, and has moved by their
number. -/
lemma before_skipDigits (h : Before s rest i) :
    Before s (Text.digitRun rest).2 (skipDigits (utf8 s) i)
      ∧ skipDigits (utf8 s) i = i + (Text.digitRun rest).1.length := by
  have htest : ∀ c : Char, c.isDigit = true → c.toNat < 0x80 := fun c hc =>
    (Text.toNat_of_isDigit hc).2.trans_lt (by decide)
  induction rest generalizing i with
  | nil =>
    have hend : ¬ byteIs (utf8 s) i Char.isDigit = true := by simp [Text.byteIs_eq h htest]
    rw [skipDigits, dif_neg hend]
    exact ⟨h, rfl⟩
  | cons c r ih =>
    have hnext : byteIs (utf8 s) i Char.isDigit = c.isDigit := Text.byteIs_eq h htest
    rw [skipDigits, hnext]
    by_cases hc : c.isDigit = true
    · obtain ⟨hbefore, hlength⟩ := ih (h.step (htest c hc))
      have hrun : Text.digitRun (c :: r) = (c :: (Text.digitRun r).1, (Text.digitRun r).2) := by
        simp [Text.digitRun, hc]
      rw [dif_pos hc, hrun]
      refine ⟨hbefore, ?_⟩
      rw [hlength, List.length_cons]
      omega
    · have hrun : Text.digitRun (c :: r) = ([], c :: r) := by
        simp [Text.digitRun, hc]
      rw [dif_neg hc, hrun]
      exact ⟨h, rfl⟩

lemma before_scanFraction (h : Before s rest i) :
    Before s (readFraction rest).2 (scanFraction (utf8 s) i).2
      ∧ (scanFraction (utf8 s) i).1 = (readFraction rest).1.length := by
  have hpoint : byteIs (utf8 s) i (· == '.') = rest.head?.any (· == '.') :=
    Text.byteIs_eq h fun c hc => by
      rw [beq_iff_eq.1 hc]
      decide
  rw [scanFraction, hpoint]
  unfold readFraction
  split
  · rename_i r
    obtain ⟨hbefore, hlength⟩ := before_skipDigits (h.step (by decide))
    refine ⟨hbefore, ?_⟩
    rw [List.head?_cons, Option.any_some, beq_self_eq_true, if_pos rfl]
    dsimp only
    omega
  · rename_i hnone
    have hnone : rest.head?.any (· == '.') = false := by
      cases rest with
      | nil => rfl
      | cons c r =>
        have hc : c ≠ '.' := fun heq => hnone r (by rw [heq])
        simp [hc]
    rw [hnone]
    exact ⟨h, rfl⟩

lemma before_scanPower (h : Before s rest i) :
    Before s (readExponent rest).2 (scanPower (utf8 s) i) := by
  rw [scanPower, Text.byteIs_eq h fun _ => toNat_lt_of_isPowerLetter]
  cases rest with
  | nil => exact h
  | cons c r =>
    rw [readExponent, List.head?_cons, Option.any_some]
    by_cases hletter : c = 'e' ∨ c = 'E'
    · have htest : isPowerLetter c = true := by simpa [isPowerLetter] using hletter
      have hsign := before_skipSign (h.step (toNat_lt_of_isPowerLetter htest))
      obtain ⟨hbefore, hlength⟩ := before_skipDigits hsign
      rw [if_pos htest, if_pos hletter]
      dsimp only
      -- the cursor has moved over the digits exactly when there are some
      by_cases hds : (Text.digitRun (readSign r).2).1 = []
      · rw [hds, List.length_nil, Nat.add_zero] at hlength
        rw [if_pos hds, if_neg (by omega)]
        exact h
      · have hpos := List.length_pos_iff.2 hds
        have hmoved : skipSign (utf8 s) (i + 1)
            < skipDigits (utf8 s) (skipSign (utf8 s) (i + 1)) := by
          omega
        rw [if_neg hds, if_pos hmoved]
        exact hbefore
    · have htest : ¬ isPowerLetter c = true := by simpa [isPowerLetter] using hletter
      rw [if_neg htest, if_neg hletter]
      exact h

/-- The scan counts no digit exactly where the reader finds no numeral. -/
lemma scan?_eq_none_iff : scan? (utf8 s) = none ↔ read? s = none := by
  obtain ⟨hpoint, hwhole⟩ := before_skipDigits (before_skipSign (Before.start s))
  have hcount : skipDigits (utf8 s) (skipSign (utf8 s) 0) - skipSign (utf8 s) 0
      + (scanFraction (utf8 s) (skipDigits (utf8 s) (skipSign (utf8 s) 0))).1 = 0
        ↔ read? s = none := by
    rw [(before_scanFraction hpoint).2, hwhole, Nat.add_sub_cancel_left, Nat.add_eq_zero_iff,
      List.length_eq_zero_iff, List.length_eq_zero_iff, read?_eq_none_iff]
  rw [← hcount, scan?]
  dsimp only
  split
  · rename_i hzero
    simp [hzero]
  · rename_i hsome
    simpa using hsome

/-- The scan ends where the reader does. -/
lemma exists_scan?_of_read? (h : read? s = some (n, rest)) :
    ∃ stop, scan? (utf8 s) = some stop ∧ Before s rest stop := by
  have hsome : scan? (utf8 s) ≠ none := scan?_eq_none_iff.not.2 (by simp [h])
  obtain ⟨hpoint, -⟩ := before_skipDigits (before_skipSign (Before.start s))
  have hend := before_scanPower (before_scanFraction hpoint).1
  rw [rest_eq_of_read? h]
  refine ⟨_, ?_, hend⟩
  rw [scan?] at hsome ⊢
  exact if_neg fun hzero => hsome (if_pos hzero)

/-! ## The cut text is converted -/

/-- No word starts as a number does. -/
lemma ofWord?_eq_none {negative : Bool} {word : List Char}
    (h : ∀ c ∈ word.head?, c.isDigit = true ∨ c = '.') : ofWord? negative word = none := by
  have hall : ∀ n < 0x40, (Char.ofNat n).toLower ≠ 'i' ∧ (Char.ofNat n).toLower ≠ 'n' := by
    decide
  have hhead : ∀ c ∈ word.head?, c.toLower ≠ 'i' ∧ c.toLower ≠ 'n' := by
    intro c hc
    have hlt : c.toNat < 0x40 := by
      rcases h c hc with hdigit | rfl
      · exact (Text.toNat_of_isDigit hdigit).2.trans_lt (by decide)
      · decide
    simpa using hall c.toNat hlt
  cases word with
  | nil => rfl
  | cons c r =>
    obtain ⟨hi, hn⟩ := hhead c rfl
    simp [ofWord?, hi, hn]

/-- The conversion of a numeral does not fail. -/
lemma convert?_of_spells (h : Spells p n) : convert? p = some n.toDouble := by
  have hread := ofText?_eq_some_iff.2 h
  obtain ⟨negative, whole, fraction, exponent⟩ := n
  obtain ⟨⟨sign, point, power, rfl, hsign, hpoint, hpower⟩, hwhole, hne⟩ := h
  dsimp only at *
  have hhead := head_after_sign hwhole hpoint hne power
  rw [convert?, hread, readSign_append hsign hhead]
  dsimp only
  rw [ofWord?_eq_none hhead]
  rfl

/-- What the scan cuts out is the longest numeral at the front, and it is converted. -/
lemma exists_longest_of_scan? {stop : ℕ} (h : scan? (utf8 s) = some stop) :
    (⟨stop⟩ : String.Pos.Raw).IsValid (String.ofList s) ∧
    ∃ p n, Longest s p n ∧ (utf8 p).length = stop
      ∧ Text.slice? (utf8 s) stop = some (String.ofList p) ∧ convert? p = some n.toDouble := by
  have hread : read? s ≠ none := scan?_eq_none_iff.not.1 (by simp [h])
  obtain ⟨⟨n, rest⟩, hread⟩ := Option.ne_none_iff_exists'.1 hread
  obtain ⟨p, hs, hlongest⟩ := exists_longest_of_read? hread
  obtain ⟨stop', hstop, hbefore⟩ := exists_scan?_of_read? hread
  obtain rfl : stop' = stop := Option.some.inj (hstop.symm.trans h)
  obtain ⟨front, hfront, rfl⟩ := id hbefore
  obtain rfl : front = p := List.append_cancel_right (hfront.symm.trans hs)
  refine ⟨hbefore.isValid, front, n, hlongest, rfl, ?_, convert?_of_spells hlongest.spells⟩
  rw [hs, Text.slice?_append]

/-- The scan, the cut and the conversion give the double of the numeral that the reader finds. -/
lemma leading?_eq (s : List Char) :
    leading? s = (read? (Text.trimStart s)).map fun (n, _) => n.toDouble := by
  rw [leading?]
  cases hscan : scan? (utf8 (Text.trimStart s)) with
  | none =>
    rw [scan?_eq_none_iff.1 hscan]
    rfl
  | some stop =>
    obtain ⟨-, p, n, hlongest, -, hslice, hconvert⟩ := exists_longest_of_scan? hscan
    obtain ⟨rest, -, hread⟩ := hlongest.read?_eq
    simp only [Option.bind_eq_bind, Option.bind_some, hslice, String.toList_ofList, hconvert, hread,
      Option.map_some]

end Numeral

/-- The number at the front of any text.  There is none exactly when no front of the text, white
space aside, is a numeral; otherwise it is the double to which the longest such numeral is rounded,
infinity beyond the range of doubles.  The scan ends between two characters, after that numeral, and
what is cut out there is converted.  This is how a format parses a text once it is normalised. -/
theorem leading_number_is_longest_numeral (f : DecimalFormat) (s : List Char) :
    let t := Text.trimStart s
    (Numeral.leading? s = none ↔ ∀ p n, p <+: t → ¬ Numeral.Spells p n) ∧
    (∀ x, Numeral.leading? s = some x ↔ ∃ p n, Numeral.Longest t p n
      ∧ x.IsRounded n.negative ((|n.number| : ℚ) : WithTop ℚ)) ∧
    (Numeral.scan? (utf8 t) = none ↔ Numeral.leading? s = none) ∧
    (∀ stop, Numeral.scan? (utf8 t) = some stop →
      (⟨stop⟩ : String.Pos.Raw).IsValid (String.ofList t) ∧
      ∃ p n, Numeral.Longest t p n ∧ (utf8 p).length = stop
        ∧ Text.slice? (utf8 t) stop = some (String.ofList p)
        ∧ Numeral.convert? p = some n.toDouble ∧ Numeral.leading? s = some n.toDouble) ∧
    ∀ input, f.normalize input = s → f.parse input = Numeral.leading? s := by
  intro t
  have hleading : Numeral.leading? s = (Numeral.read? t).map fun (n, _) => n.toDouble :=
    Numeral.leading?_eq s
  have hlongest {p : List Char} {n : Numeral} (h : Numeral.Longest t p n) :
      Numeral.leading? s = some n.toDouble := by
    obtain ⟨rest, -, hread⟩ := h.read?_eq
    rw [hleading, hread]
    rfl
  refine ⟨?_, fun x => ⟨fun h => ?_, ?_⟩, ?_, fun stop h => ?_, ?_⟩
  · rw [hleading, Option.map_eq_none_iff, Numeral.read?_eq_none_iff_forall]
  · rw [hleading, Option.map_eq_some_iff] at h
    obtain ⟨⟨n, rest⟩, hread, rfl⟩ := h
    obtain ⟨p, -, hp⟩ := Numeral.exists_longest_of_read? hread
    exact ⟨p, n, hp, n.isRounded_toDouble⟩
  · rintro ⟨p, n, hp, hx⟩
    rw [hlongest hp, ((n.isRounded_toDouble).iff_eq x).1 hx]
  · rw [hleading, Option.map_eq_none_iff, Numeral.scan?_eq_none_iff]
  · obtain ⟨hvalid, p, n, hp, hlength, hslice, hconvert⟩ := Numeral.exists_longest_of_scan? h
    exact ⟨hvalid, p, n, hp, hlength, hslice, hconvert, hlongest hp⟩
  · rintro input rfl
    exact hleading.symm

/-- The letter and the sign of a power without digits are left, and a character of two bytes after
them; a point with no digit beside it is no number. -/
theorem number_before_incomplete_power :
    let f := DecimalFormat.new "de-DE" 2
    let input := "  -12,e+é".toList
    let t := Text.trimStart (f.normalize input)
    f.parse input = some (.ofInt (-12)) ∧
    Numeral.scan? (utf8 t) = some 4 ∧ (⟨4⟩ : String.Pos.Raw).IsValid (String.ofList t) ∧
    Numeral.leading? ".e3".toList = none := by
  intro f input t
  obtain ⟨-, hnumber, hnone, hscan, hparse⟩ :=
    leading_number_is_longest_numeral f (f.normalize input)
  have hread : Numeral.read? t = some (⟨true, "12".toList, [], 0⟩, "e+é".toList) := by decide
  obtain ⟨p, ht, hp⟩ := Numeral.exists_longest_of_read? hread
  obtain rfl : "-12.".toList = p := List.append_cancel_right (ht.symm.trans (by decide)).symm
  have hdouble : Numeral.toDouble ⟨true, "12".toList, [], 0⟩ = .ofInt (-12) := by decide +kernel
  have hleading : Numeral.leading? (f.normalize input) = some (.ofInt (-12)) := by
    rw [← hdouble, hnumber]
    exact ⟨_, _, hp, Numeral.isRounded_toDouble _⟩
  have hmissing : Numeral.leading? ".e3".toList = none := by
    rw [(leading_number_is_longest_numeral f ".e3".toList).1, ← Numeral.read?_eq_none_iff_forall]
    decide
  cases hstop : Numeral.scan? (utf8 t) with
  | none => exact absurd (hnone.1 hstop) (by simp [hleading])
  | some stop =>
    obtain ⟨hvalid, q, m, hq, hlength, -⟩ := hscan stop hstop
    obtain ⟨rfl, -⟩ := hp.unique hq
    obtain rfl : 4 = stop := hlength
    exact ⟨(hparse input rfl).trans hleading, rfl, hvalid, hmissing⟩

end GridRules
