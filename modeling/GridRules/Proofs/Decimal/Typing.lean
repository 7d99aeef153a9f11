import GridRules.Decimal.Editor
import GridRules.Proofs.Decimal.FewDigits

/-!
# Typing a number

A numeral is typed into a blank editor, one character after the other at the end of the text
(`DecimalEditor.Typed`).  After every character the editor may write the whole text anew, so the
text that the next character is added to is not the text that was typed.  What is kept by every
step is that the digits in the text, without the separators of groups, are those that were typed:

* digits before the point are grouped anew with every digit (`typed_whole_digit`);
* a separator at the end, or a zero at the end of the fraction, is left as it was typed, and after
  any other digit of the fraction the text is written anew and is the same (`typed_fraction_digit`).

The one thing that is lost is a minus before a lone zero: the number is zero then, and is written
without a sign, although the fraction is still to come.
-/

namespace GridRules

open Text (Digits IsWhole)

namespace DecimalFormat

variable {f : DecimalFormat} {whole fraction s t : List Char} {c : Char}

/-! ## Texts that are being typed -/

lemma written_of_ne_nil (f : DecimalFormat) (negative : Bool) (whole : List Char)
    (hne : fraction ≠ []) : f.written negative whole fraction
      = f.written negative whole [] ++ f.decimal :: fraction := by
  rw [written, written, if_neg hne, if_pos rfl, List.append_nil, List.append_assoc]

/-- A text that is a plain numeral without its separators is read as that numeral. -/
lemma parse_of_normalize (hf : f.Lawful) {negative : Bool} (hwhole : Digits whole)
    (hne : whole ≠ []) (hfraction : Digits fraction)
    (h : f.normalize s = Numeral.plain negative whole fraction) :
    f.parse s = some (Numeral.toDouble ⟨negative, whole, fraction, 0⟩) := by
  rw [← parse_written hf negative hwhole hne hfraction, parse, parse, h,
    normalize_written_eq_plain hf negative hwhole hfraction]

lemma normalize_minus_digits (hf : f.Lawful) (negative : Bool) (hwhole : Digits whole)
    (hs : Digits s) : f.normalize (f.written negative whole [] ++ s)
      = Numeral.plain negative (whole ++ s) [] := by
  rw [normalize_append, normalize_written_eq_plain hf negative hwhole (by intro c hc; cases hc),
    normalize_digits hf hs, Numeral.plain, Numeral.plain]
  simp only [if_true, List.append_nil, List.append_assoc]

/-! ## What may be written anew -/

lemma decimal_not_mem_written (hf : f.Lawful) (negative : Bool) (hwhole : Digits whole) :
    f.decimal ∉ f.written negative whole [] := by
  intro h
  rw [written, if_pos rfl, List.append_nil] at h
  rcases List.mem_append.1 h with h | h
  · cases negative with
    | false => cases h
    | true => exact (hf.ne_of_isNumberChar (c := '-') rfl).2 (List.mem_singleton.1 h).symm
  · exact decimal_not_mem_groupDigits hf hwhole h

lemma countDecimals_of_not_mem (h : f.decimal ∉ s) : f.countDecimals s = 0 := by
  rw [countDecimals, fraction?_of_not_mem h]
  rfl

lemma countDecimals_append (h : f.decimal ∉ s) (t : List Char) :
    f.countDecimals (s ++ f.decimal :: t) = t.length := by
  rw [countDecimals, fraction?_append h]
  rfl

/-- Only a zero in a fraction makes a difference by being the key that was typed. -/
lemma isFormattable_typed {typed : Option String} (h : typed = some "0" → f.countDecimals s = 0)
    (cursorAtEnd : Bool) :
    f.isFormattable s typed cursorAtEnd = f.isFormattable s none cursorAtEnd := by
  have htyped : ¬ (typed = some "0" ∧ cursorAtEnd = true ∧ 0 < f.countDecimals s) := by
    rintro ⟨hzero, -, hpos⟩
    rw [h hzero] at hpos
    exact Nat.lt_irrefl 0 hpos
  have hnone : ¬ (none = some "0" ∧ cursorAtEnd = true ∧ 0 < f.countDecimals s) := by simp
  simp only [isFormattable_eq, htyped, hnone]

/-- A zero that was just typed at the end of a fraction leaves the text as it is. -/
lemma isFormattable_zero (h : 0 < f.countDecimals s) :
    f.isFormattable s (some "0") true = false := by
  rw [isFormattable_eq, if_pos (.inr ⟨rfl, rfl, h⟩)]

lemma isFormattable_sign (f : DecimalFormat) (negative : Bool) (hne : s ≠ [])
    (hhead : s.head? ≠ some '-') :
    f.isFormattable ((if negative then ['-'] else []) ++ s) none true = f.isUnsigned s := by
  cases negative with
  | true => exact isFormattable_minus f s true
  | false =>
    obtain ⟨c, r, rfl⟩ := List.exists_cons_of_ne_nil hne
    exact isFormattable_cons (fun hc => hhead (by rw [hc]; rfl)) r true

lemma head?_groupDigits_append (hwhole : Digits whole) (ht : t.head? ≠ some '-') :
    (groupDigits f.thousands whole ++ t).head? ≠ some '-' := by
  cases whole with
  | nil => exact ht
  | cons c r =>
    obtain ⟨rest, hrest⟩ := exists_groupDigits_cons f.thousands c r
    rw [hrest, List.cons_append, List.head?_cons]
    rintro hc
    obtain rfl := Option.some.inj hc
    cases hwhole '-' List.mem_cons_self

/-- A digit after the grouped digits before the point: the text may be written anew. -/
lemma isFormattable_whole_digit (hf : f.Lawful) (negative : Bool) (hwhole : Digits whole)
    (hc : c.isDigit = true) :
    f.isFormattable (f.written negative whole [] ++ [c]) none true = true := by
  have hhead : [c].head? ≠ some '-' := by
    rintro heq
    obtain rfl := Option.some.inj heq
    cases hc
  have hdigit : Digits [c] := fun d hd => List.mem_singleton.1 hd ▸ hc
  have hno : f.decimal ∉ groupDigits f.thousands whole ++ [c] := by
    rw [List.mem_append, not_or]
    exact ⟨decimal_not_mem_groupDigits hf hwhole, hf.decimal_not_mem hdigit⟩
  have hall : (groupDigits f.thousands whole ++ [c]).all (fun d => d.isDigit || d == f.thousands)
      = true := by
    rw [List.all_eq_true]
    intro d hd
    rcases List.mem_append.1 hd with hd | hd
    · rcases mem_groupDigits hd with rfl | hd
      · simp
      · simp [hwhole d hd]
    · simp [hdigit d hd]
  rw [written, if_pos rfl, List.append_nil, List.append_assoc,
    isFormattable_sign f negative (by simp) (head?_groupDigits_append hwhole hhead), isUnsigned,
    Text.takeWhile_of_not_mem hno, fraction?_of_not_mem hno, hall]
  rfl

/-- A separator without digits after it: the text is left as it is. -/
lemma isFormattable_separator (hf : f.Lawful) (negative : Bool) (hwhole : Digits whole) :
    f.isFormattable (f.written negative whole [] ++ [f.decimal]) none true = false := by
  have hhead : [f.decimal].head? ≠ some '-' := fun heq =>
    (hf.ne_of_isNumberChar (c := '-') rfl).2 (Option.some.inj heq).symm
  rw [written, if_pos rfl, List.append_nil, List.append_assoc,
    isFormattable_sign f negative (by simp) (head?_groupDigits_append hwhole hhead), isUnsigned,
    fraction?_append (decimal_not_mem_groupDigits hf hwhole)]
  exact Bool.and_false _

/-! ## One input -/

lemma onInput_written {typed : Option String} {x : Double}
    (h : f.isFormattable s typed true = true) (hparse : f.parse s = some x) :
    f.onInput s typed s.length = ⟨f.format x, (f.format x).length⟩ := by
  have hcursor : ((f.format x).length - s.length + s.length : Int).toNat = (f.format x).length := by
    omega
  simp only [onInput, beq_self_eq_true, h, if_true, formatText, hparse, Option.map_some, hcursor]

lemma onInput_kept {typed : Option String}
    (h : f.isFormattable s typed true = false ∨ f.parse s = none) :
    f.onInput s typed s.length = ⟨s, s.length⟩ := by
  rcases h with h | h
  · simp only [onInput, beq_self_eq_true, h, Bool.false_eq_true, if_false]
  · simp only [onInput, beq_self_eq_true, formatText, h, Option.map_none, ite_self]

/-- No key of one character is a navigation key. -/
lemma singleton_not_mem_navigationKeys (c : Char) : String.singleton c ∉ navigationKeys := by
  intro h
  have hlong : ∀ key ∈ navigationKeys, key.length ≠ 1 := by decide
  exact hlong _ h (by simp)

/-- Which single characters may be typed at the end of a text. -/
lemma isInputAllowed_singleton (hpoint : f.decimal = '.' ∨ f.decimal = ',')
    (hc : c.isDigit = true ∨ c = '-' ∨ c = f.decimal)
    (hroom : f.decimal ∈ s → f.countDecimals s < f.places)
    (hsecond : c = f.decimal → f.places ≠ 0 ∧ f.decimal ∉ s) :
    f.isInputAllowed (String.singleton c) s true = true := by
  have hfull : ¬ (true && s.contains f.decimal && f.places ≤ f.countDecimals s) = true := by
    simp only [Bool.true_and, Bool.and_eq_true, List.contains_iff_mem, decide_eq_true_eq, not_and,
      Nat.not_le]
    exact hroom
  have hkey : (String.singleton c).toList = [c] := by simp
  have hrefused : ¬ ([c] = [f.decimal] ∧ (f.places = 0 ∨ f.decimal ∈ s)) := by
    rintro ⟨heq, hor⟩
    obtain ⟨hplaces, hnot⟩ := hsecond (List.singleton_inj.1 heq)
    exact hor.elim hplaces hnot
  rw [isInputAllowed, if_neg (singleton_not_mem_navigationKeys c), if_neg hfull, hkey,
    if_neg hrefused, List.any_cons]
  rcases hc with hc | rfl | rfl
  · simp [hc]
  · rfl
  · rcases hpoint with hpoint | hpoint
    · rw [hpoint]
      rfl
    · rw [hpoint]
      rfl

lemma decimal_new (code : String) (places : Nat) :
    (new code places).decimal = '.' ∨ (new code places).decimal = ',' := by
  have hknown : ∀ s ∈ localeSeparators, s.decimal = '.' ∨ s.decimal = ',' := by decide
  exact hknown _ (separatorsOf_mem code)

end DecimalFormat

namespace DecimalEditor

open DecimalFormat (ofSettings)

/-! ## Typing at the end of the text -/

/-- A text is typed into an editor, one character after the other at the end.  Every key is
accepted, and the input, the text of the editor with the character after it, is answered by a text
that has the cursor at its end. -/
inductive Typed : DecimalEditor → List Char → DecimalEditor → Prop
  /-- Nothing is typed. -/
  | nil (e : DecimalEditor) : Typed e [] e
  /-- A character is typed, and then the rest. -/
  | cons {e d e' : DecimalEditor} {c : Char} {s : List Char}
      (hkey : e.acceptsKey (String.singleton c) e.text.length = true)
      (hinput : e.input (e.text ++ [c]) (some (String.singleton c)) (e.text.length + 1)
        = (d, d.text.length))
      (hrest : Typed d s e') : Typed e (c :: s) e'

lemma Typed.append {e d e' : DecimalEditor} {s t : List Char} (h : Typed e s d)
    (h' : Typed d t e') : Typed e (s ++ t) e' := by
  induction h with
  | nil => exact h'
  | cons hkey hinput _ ih => exact .cons hkey hinput (ih h')

/-- What is typed decides what the editor is then. -/
lemma Typed.unique {e d d' : DecimalEditor} {s : List Char} (h : Typed e s d)
    (h' : Typed e s d') : d = d' := by
  induction h with
  | nil =>
    cases h'
    rfl
  | cons _ hinput _ ih =>
    cases h' with
    | cons _ hinput' hrest' =>
      obtain rfl := (Prod.mk.inj (hinput.symm.trans hinput')).1
      exact ih hrest'

variable {f : DecimalFormat} {whole fraction rest s t : List Char} {c : Char}

lemma typed_singleton (hkey : f.isInputAllowed (String.singleton c) s true = true)
    (hinput : f.onInput (s ++ [c]) (some (String.singleton c)) (s ++ [c]).length = ⟨t, t.length⟩) :
    Typed ⟨f, s⟩ [c] ⟨f, t⟩ := by
  refine .cons ?_ ?_ (.nil _)
  · rw [acceptsKey, beq_self_eq_true]
    exact hkey
  · rw [List.length_append, List.length_singleton] at hinput
    rw [input, hinput]

section Steps

variable (hf : f.Lawful) (hpoint : f.decimal = '.' ∨ f.decimal = ',')
include hf hpoint

/-- A minus alone is no number and stays. -/
lemma typed_minus : Typed ⟨f, []⟩ ['-'] ⟨f, f.written true [] []⟩ := by
  have htext : f.written true [] [] = ['-'] := by simp [DecimalFormat.written, groupDigits]
  have hdecimal : '-' ≠ f.decimal := (hf.ne_of_isNumberChar (c := '-') rfl).2
  rw [htext]
  refine typed_singleton ?_ (DecimalFormat.onInput_kept (.inr ?_))
  · exact DecimalFormat.isInputAllowed_singleton hpoint (.inr (.inl rfl))
      (fun h => absurd h List.not_mem_nil) fun h => absurd h hdecimal
  · rw [List.nil_append, DecimalFormat.parse, DecimalFormat.normalize_minus hf]
    rfl

/-- A digit before the point is taken into the groups. -/
lemma typed_whole_digit (hwhole : IsWhole (whole ++ [c]))
    (hfew : (whole ++ [c]).length + f.places ≤ 15) (negative : Bool) :
    Typed ⟨f, f.written negative whole []⟩ [c]
      ⟨f, f.written (keptSign negative (whole ++ [c])) (whole ++ [c]) []⟩ := by
  obtain ⟨hfront, hc⟩ := hwhole.digits.of_concat
  have hdigit : Digits [c] := fun d hd => List.mem_singleton.1 hd ▸ hc
  have hnone : Digits [] := fun d hd => absurd hd List.not_mem_nil
  have hno := DecimalFormat.decimal_not_mem_written hf negative hfront
  have hno' : f.decimal ∉ f.written negative whole [] ++ [c] := by
    rw [List.mem_append, not_or]
    exact ⟨hno, hf.decimal_not_mem hdigit⟩
  have hkey := DecimalFormat.isInputAllowed_singleton (s := f.written negative whole []) hpoint
    (.inl hc) (fun h => absurd h hno)
    (fun h => absurd (List.mem_singleton.2 h.symm) (hf.decimal_not_mem hdigit))
  have hformattable : f.isFormattable (f.written negative whole [] ++ [c])
      (some (String.singleton c)) true = true := by
    rw [DecimalFormat.isFormattable_typed fun _ => DecimalFormat.countDecimals_of_not_mem hno']
    exact DecimalFormat.isFormattable_whole_digit hf negative hfront hc
  have hparse := DecimalFormat.parse_of_normalize hf hwhole.digits hwhole.ne_nil hnone
    (DecimalFormat.normalize_minus_digits hf negative hfront hdigit)
  have hformat : f.format (Numeral.toDouble ⟨negative, whole ++ [c], [], 0⟩)
      = f.written (keptSign negative (whole ++ [c])) (whole ++ [c]) [] :=
    DecimalFormat.format_numeral hwhole hnone (Nat.zero_le f.places) hfew (.inl rfl)
  have hinput := DecimalFormat.onInput_written hformattable hparse
  rw [hformat] at hinput
  exact typed_singleton hkey hinput

/-- Digits before the point are typed one after the other.  Only a lone zero can lose the minus, and
no digit follows it. -/
lemma typed_whole (hwhole : IsWhole (whole ++ c :: rest))
    (hfew : (whole ++ c :: rest).length + f.places ≤ 15) (negative : Bool) :
    Typed ⟨f, f.written negative whole []⟩ (c :: rest)
      ⟨f, f.written (keptSign negative (whole ++ c :: rest)) (whole ++ c :: rest) []⟩ := by
  induction rest generalizing whole c with
  | nil => exact typed_whole_digit hf hpoint hwhole hfew negative
  | cons d rest ih =>
    have hshort : (whole ++ [c]).length + f.places ≤ 15 := by
      simp only [List.length_append, List.length_cons, List.length_nil] at hfew ⊢
      omega
    have hstep := typed_whole_digit hf hpoint hwhole.take_concat hshort negative
    rw [List.append_cons] at hwhole hfew ⊢
    rw [keptSign_of_ne hwhole.front_ne_zero] at hstep
    exact hstep.append (ih hwhole hfew)

/-- The separator of the fraction stays at the end. -/
lemma typed_separator (hwhole : Digits whole) (hplaces : f.places ≠ 0) (negative : Bool) :
    Typed ⟨f, f.written negative whole []⟩ [f.decimal]
      ⟨f, f.written negative whole [] ++ [f.decimal]⟩ := by
  have hno := DecimalFormat.decimal_not_mem_written hf negative hwhole
  have hkey := DecimalFormat.isInputAllowed_singleton hpoint (.inr (.inr rfl))
    (fun h => absurd h hno) (fun _ => ⟨hplaces, hno⟩)
  refine typed_singleton hkey (DecimalFormat.onInput_kept (.inl ?_))
  rw [DecimalFormat.isFormattable_typed fun _ => DecimalFormat.countDecimals_append hno []]
  exact DecimalFormat.isFormattable_separator hf negative hwhole

/-- A digit of the fraction is added to the text, which is otherwise as it was.  After a zero the
text is left alone; after any other digit it is written anew, and no zero is dropped. -/
lemma typed_fraction_digit (hwhole : IsWhole whole) (hfraction : Digits fraction)
    (hc : c.isDigit = true) (hroom : fraction.length < f.places)
    (hfew : whole.length + f.places ≤ 15) {negative : Bool}
    (hsign : keptSign negative whole = negative) :
    Typed ⟨f, f.written negative whole [] ++ f.decimal :: fraction⟩ [c]
      ⟨f, f.written negative whole [] ++ f.decimal :: (fraction ++ [c])⟩ := by
  have hno := DecimalFormat.decimal_not_mem_written hf negative hwhole.digits
  have hnumber : DecimalFormat.isNumberChar c = true := by
    rw [DecimalFormat.isNumberChar, hc]
    rfl
  have hkey := DecimalFormat.isInputAllowed_singleton
    (s := f.written negative whole [] ++ f.decimal :: fraction) hpoint (.inl hc)
    (fun _ => by rw [DecimalFormat.countDecimals_append hno]; exact hroom)
    (fun h => absurd h (hf.ne_of_isNumberChar hnumber).2)
  refine typed_singleton hkey ?_
  rw [List.append_assoc, List.cons_append]
  -- after a zero nothing is written anew, or the zero would be dropped
  by_cases hzero : c = '0'
  · subst hzero
    refine DecimalFormat.onInput_kept (.inl (DecimalFormat.isFormattable_zero ?_))
    rw [DecimalFormat.countDecimals_append hno, List.length_append]
    exact Nat.succ_pos _
  · have hne : fraction ++ [c] ≠ [] := by simp
    have hall : Digits (fraction ++ [c]) :=
      List.forall_mem_append.2 ⟨hfraction, List.forall_mem_singleton.2 hc⟩
    have htyped : some (String.singleton c) = some "0" →
        f.countDecimals (f.written negative whole (fraction ++ [c])) = 0 := by
      intro h
      have hlist : [c] = ['0'] := by simpa using congrArg String.toList (Option.some.inj h)
      exact absurd (List.singleton_inj.1 hlist) hzero
    have hformattable : f.isFormattable (f.written negative whole (fraction ++ [c]))
        (some (String.singleton c)) true = true := by
      rw [DecimalFormat.isFormattable_typed htyped]
      exact DecimalFormat.isFormattable_written hf negative hwhole.digits hwhole.ne_nil hall
    have hparse := DecimalFormat.parse_written hf negative hwhole.digits hwhole.ne_nil hall
    have hlength : (fraction ++ [c]).length ≤ f.places := by
      rw [List.length_append, List.length_singleton]
      exact hroom
    have hformat := DecimalFormat.format_numeral hwhole hall hlength hfew (.inr hsign)
    have hinput := DecimalFormat.onInput_written hformattable hparse
    rw [hformat, hsign, dropEndZeros_concat hzero] at hinput
    rwa [← DecimalFormat.written_of_ne_nil f negative whole hne]

/-- The digits of the fraction are typed one after the other. -/
lemma typed_fraction (hwhole : IsWhole whole) (hfraction : Digits (fraction ++ rest))
    (hroom : (fraction ++ rest).length ≤ f.places) (hfew : whole.length + f.places ≤ 15)
    {negative : Bool} (hsign : keptSign negative whole = negative) :
    Typed ⟨f, f.written negative whole [] ++ f.decimal :: fraction⟩ rest
      ⟨f, f.written negative whole [] ++ f.decimal :: (fraction ++ rest)⟩ := by
  induction rest generalizing fraction with
  | nil =>
    rw [List.append_nil]
    exact .nil _
  | cons c rest ih =>
    obtain ⟨hfront, hrest⟩ := List.forall_mem_append.1 hfraction
    have hlt : fraction.length < f.places := by
      rw [List.length_append, List.length_cons] at hroom
      omega
    have hstep := typed_fraction_digit hf hpoint hwhole hfront (hrest c List.mem_cons_self) hlt hfew
      hsign
    have happend : fraction ++ c :: rest = fraction ++ [c] ++ rest := List.append_cons ..
    rw [happend] at hfraction hroom ⊢
    exact hstep.append (ih hfraction hroom)

end Steps

end DecimalEditor

/-! ## Typing a numeral -/

/-- A numeral as it is typed in a locale: an optional minus, digits without redundant zeros at the
front, and as many digits of a fraction as there are places, or fewer.  With all places it has at
most fifteen digits. -/
structure TypedNumeral (f : DecimalFormat) where
  /-- Whether a minus is typed first. -/
  negative : Bool
  /-- The digits before the separator. -/
  whole : List Char
  /-- The digits after the separator; without them no separator is typed. -/
  fraction : List Char
  /-- There is a digit before the separator, and a zero comes first only when it is alone. -/
  isWhole : IsWhole whole
  /-- The fraction is made of digits. -/
  digits_fraction : Digits fraction
  /-- There are no more digits in the fraction than places. -/
  length_fraction_le : fraction.length ≤ f.places
  /-- A double keeps all digits. -/
  few_digits : whole.length + f.places ≤ 15

namespace TypedNumeral

variable {f : DecimalFormat}

/-- The characters in the order in which they are typed. -/
def text (w : TypedNumeral f) : List Char :=
  (if w.negative then ['-'] else [])
    ++ (w.whole ++ if w.fraction = [] then [] else f.decimal :: w.fraction)

/-- Whether the number is a zero with a minus. -/
def IsNegativeZero (w : TypedNumeral f) : Prop :=
  w.negative = true ∧ ∀ c ∈ w.whole ++ w.fraction, c = '0'

lemma normalize_text (hf : f.Lawful) (w : TypedNumeral f) :
    f.normalize w.text = Numeral.plain w.negative w.whole w.fraction := by
  have hwritten := DecimalFormat.normalize_written_eq_plain hf w.negative w.isWhole.digits
    w.digits_fraction
  rw [DecimalFormat.written, DecimalFormat.normalize_append, DecimalFormat.normalize_append,
    DecimalFormat.normalize_groupDigits hf w.isWhole.digits] at hwritten
  rw [text, DecimalFormat.normalize_append, DecimalFormat.normalize_append,
    DecimalFormat.normalize_digits hf w.isWhole.digits, hwritten]

/-- A numeral that is typed into a blank editor is written with all its digits; a minus before a
lone zero is lost. -/
lemma typed_text (hf : f.Lawful) (hpoint : f.decimal = '.' ∨ f.decimal = ',')
    (w : TypedNumeral f) : DecimalEditor.Typed ⟨f, []⟩ w.text
      ⟨f, f.written (keptSign w.negative w.whole) w.whole w.fraction⟩ := by
  have hblank : f.written false [] [] = [] := by simp [DecimalFormat.written, groupDigits]
  have hsign : DecimalEditor.Typed ⟨f, []⟩ (if w.negative then ['-'] else [])
      ⟨f, f.written w.negative [] []⟩ := by
    cases w.negative with
    | false =>
      rw [hblank]
      exact .nil _
    | true => exact DecimalEditor.typed_minus hf hpoint
  have hwhole : DecimalEditor.Typed ⟨f, f.written w.negative [] []⟩ w.whole
      ⟨f, f.written (keptSign w.negative w.whole) w.whole []⟩ := by
    obtain ⟨c, rest, hcons⟩ := List.exists_cons_of_ne_nil w.isWhole.ne_nil
    have hdigits := w.isWhole
    have hfew := w.few_digits
    rw [hcons] at hdigits hfew ⊢
    exact DecimalEditor.typed_whole hf hpoint hdigits hfew w.negative
  refine hsign.append (hwhole.append ?_)
  split
  · rename_i hnone
    rw [hnone]
    exact .nil _
  · rename_i hsome
    have hplaces : f.places ≠ 0 := by
      have hpos := List.length_pos_iff.2 hsome
      have hle := w.length_fraction_le
      omega
    have hseparator := DecimalEditor.typed_separator hf hpoint w.isWhole.digits hplaces
      (keptSign w.negative w.whole)
    have hdigits : Digits ([] ++ w.fraction) := w.digits_fraction
    have hfraction := DecimalEditor.typed_fraction hf hpoint w.isWhole hdigits
      w.length_fraction_le w.few_digits (keptSign_keptSign w.negative w.whole)
    rw [DecimalFormat.written_of_ne_nil f _ _ hsome]
    exact hseparator.append hfraction

/-- The value of an editor that holds the digits of a numeral is the numeral with all places. -/
lemma value_written (hf : f.Lawful) (w : TypedNumeral f) (negative : Bool) :
    DecimalEditor.value ⟨f, f.written negative w.whole w.fraction⟩
      = .string (String.ofList
          (Numeral.plain negative w.whole (padFraction f.places w.fraction))) := by
  obtain ⟨y, hy, hfinite, hyw, hyf⟩ := Numeral.exists_digits w.isWhole w.digits_fraction
    w.length_fraction_le w.few_digits negative
  have hvalue : f.value (f.written negative w.whole w.fraction)
      = some (Numeral.plain negative w.whole (padFraction f.places w.fraction)) := by
    rw [DecimalFormat.value, DecimalFormat.parse_written hf negative w.isWhole.digits
      w.isWhole.ne_nil w.digits_fraction, hy, Option.map_some,
      Double.fixedText_signed negative hfinite, hyw, hyf]
  rw [DecimalEditor.value]
  dsimp only
  rw [hvalue]

end TypedNumeral

namespace DecimalEditor

/-- Typing a numeral enters its number, unless a minus stands before a lone zero.  Into a blank
editor of any locale and any number of places a numeral of at most fifteen digits can be typed to
its end: every key is accepted and the cursor stays at the end.  The text is then the numeral but
for the separators of groups, and the value is the numeral with all places.  A minus before a lone
zero, with or without a fraction after it, is lost, and the number without the minus is entered. -/
theorem typing_enters_the_numeral (settings : DecimalSettings)
    (w : TypedNumeral (DecimalFormat.ofSettings settings)) :
    let f := DecimalFormat.ofSettings settings
    ∃ e, Typed (start settings .null) w.text e
      ∧ ((w.negative = true → w.whole ≠ ['0']) → f.normalize e.text = f.normalize w.text
        ∧ e.value = .string (String.ofList
          (Numeral.plain w.negative w.whole (padFraction f.places w.fraction))))
      ∧ (w.negative = true → w.whole = ['0'] → '-' :: f.normalize e.text = f.normalize w.text
        ∧ e.value = .string (String.ofList
          (Numeral.plain false w.whole (padFraction f.places w.fraction)))) := by
  intro f
  have hf : f.Lawful := DecimalFormat.lawful_new settings.countryCode settings.places.toNat
  have hpoint := DecimalFormat.decimal_new settings.countryCode settings.places.toNat
  have hnormalize := fun negative => DecimalFormat.normalize_written_eq_plain (f := f) hf negative
    w.isWhole.digits w.digits_fraction
  refine ⟨_, w.typed_text hf hpoint, fun hkept => ?_, fun hnegative hzero => ?_⟩
  · have hsign : keptSign w.negative w.whole = w.negative := by
      cases hw : w.negative with
      | false => rfl
      | true => exact keptSign_of_ne (hkept hw) true
    rw [hsign]
    exact ⟨(hnormalize _).trans (w.normalize_text hf).symm, w.value_written hf _⟩
  · have hsign : keptSign w.negative w.whole = false := by rw [hzero, keptSign_zero]
    rw [hsign]
    refine ⟨?_, w.value_written hf _⟩
    rw [w.normalize_text hf, hnegative]
    exact congrArg ('-' :: ·) (hnormalize false)

/-- In the German locale with two places: the digits are grouped while they are typed, and the zero
at the end of the fraction stays in the text. -/
theorem typing_of_grouped_digits :
    let settings : DecimalSettings := ⟨"de-DE", 2⟩
    let f := DecimalFormat.ofSettings settings
    ∃ e, Typed (start settings .null) "-1234,50".toList e
      ∧ f.normalize e.text = "-1234.50".toList ∧ e.value = .string "-1234.50" := by
  intro settings f
  let w : TypedNumeral f := ⟨true, "1234".toList, "50".toList, ⟨by decide, by decide, by decide⟩,
    by decide, by decide, by decide⟩
  obtain ⟨e, htyped, hkept, -⟩ := typing_enters_the_numeral settings w
  obtain ⟨htext, hvalue⟩ := hkept fun _ => by decide
  exact ⟨e, htyped, htext.trans (by decide), hvalue.trans (by decide)⟩

/-- The minus of a number between minus one and zero is lost: after its second character the number
is zero and the text is written anew without a sign.  In the German locale `-0,5` is typed, every
key is accepted, and 0.50 is entered. -/
theorem minus_before_zero_is_lost :
    let settings : DecimalSettings := ⟨"de-DE", 2⟩
    let f := DecimalFormat.ofSettings settings
    ∃ w : TypedNumeral f, w.text = "-0,5".toList ∧ ¬ w.IsNegativeZero
      ∧ Typed (start settings .null) w.text ⟨f, "0,5".toList⟩
      ∧ (⟨f, "0,5".toList⟩ : DecimalEditor).value = .string "0.50"
      ∧ ∀ e, Typed (start settings .null) w.text e → f.normalize e.text ≠ f.normalize w.text := by
  intro settings f
  let w : TypedNumeral f := ⟨true, ['0'], ['5'], ⟨by decide, by decide, by decide⟩,
    by decide, by decide, by decide⟩
  have hpositive : ¬ w.IsNegativeZero := fun h => absurd (h.2 '5' (by decide)) (by decide)
  have htyped : Typed (start settings .null) w.text ⟨f, "0,5".toList⟩ := by
    refine .cons (d := ⟨f, "-".toList⟩) (by decide) (by decide +kernel) ?_
    refine .cons (d := ⟨f, "0".toList⟩) (by decide) (by decide +kernel) ?_
    refine .cons (d := ⟨f, "0,".toList⟩) (by decide) (by decide +kernel) ?_
    exact .cons (by decide) (by decide +kernel) (.nil _)
  refine ⟨w, by decide, hpositive, htyped, by decide +kernel, fun e he => ?_⟩
  obtain rfl := he.unique htyped
  decide

end DecimalEditor

end GridRules
