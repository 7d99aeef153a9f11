import GridRules.Proofs.Decimal.Reformat

/-!
# Numbers in two locales

Two formats with the same number of places differ in their separators and in nothing else.  A text
is carried from one locale to the other by replacing the separators of the one by those of the other
(`DecimalFormat.translate`).  A character of such a text becomes a separator exactly when it was
that separator before (`DecimalFormat.Carries`), a digit when it was a digit and a minus when it was
a minus.  Everything that is done to a text looks at its characters in these ways only, so it gives
the same number, the same answer, or the same text carried over.
-/

namespace GridRules

open Text (Digits)

namespace DecimalFormat

/-! ## Translating characters -/

/-- The character that one format has in the place of a character of another: its own separators for
those of the other. -/
def translateChar (f g : DecimalFormat) (c : Char) : Char :=
  if c = f.thousands then g.thousands else if c = f.decimal then g.decimal else c

/-- A text with the separators of one format in the place of those of another. -/
def translate (f g : DecimalFormat) (s : List Char) : List Char := s.map (f.translateChar g)

/-- A key with the separators of one format in the place of those of another. -/
def translateKey (f g : DecimalFormat) (key : String) : String :=
  String.ofList (f.translate g key.toList)

/-- A text of digits, minus signs and the separators of the format. -/
def IsLocaleText (f : DecimalFormat) (s : List Char) : Prop :=
  ∀ c ∈ s, c.isDigit = true ∨ c = '-' ∨ c = f.thousands ∨ c = f.decimal

/-- A character becomes a separator only when it is that separator. -/
structure Carries (f g : DecimalFormat) (c : Char) : Prop where
  /-- No other character becomes the thousands separator. -/
  thousands : f.translateChar g c = g.thousands ↔ c = f.thousands
  /-- No other character becomes the decimal separator. -/
  decimal : f.translateChar g c = g.decimal ↔ c = f.decimal

variable {f g : DecimalFormat} {s t : List Char} {c : Char}

@[simp] lemma translate_nil (f g : DecimalFormat) : f.translate g [] = [] := rfl

@[simp] lemma translate_cons (f g : DecimalFormat) (c : Char) (s : List Char) :
    f.translate g (c :: s) = f.translateChar g c :: f.translate g s := rfl

@[simp] lemma translate_append (f g : DecimalFormat) (s t : List Char) :
    f.translate g (s ++ t) = f.translate g s ++ f.translate g t := List.map_append

@[simp] lemma length_translate (f g : DecimalFormat) (s : List Char) :
    (f.translate g s).length = s.length := List.length_map _

lemma translateChar_of_ne (hthousands : c ≠ f.thousands) (hdecimal : c ≠ f.decimal) :
    f.translateChar g c = c := by
  rw [translateChar, if_neg hthousands, if_neg hdecimal]

lemma translateChar_thousands (f g : DecimalFormat) :
    f.translateChar g f.thousands = g.thousands := if_pos rfl

lemma translateChar_decimal (hf : f.Lawful) : f.translateChar g f.decimal = g.decimal := by
  rw [translateChar, if_neg hf.distinct.symm, if_pos rfl]

/-- A character of a plain number stays. -/
lemma translateChar_of_isNumberChar (hf : f.Lawful) (h : isNumberChar c = true) :
    f.translateChar g c = c :=
  translateChar_of_ne (hf.ne_of_isNumberChar h).1 (hf.ne_of_isNumberChar h).2

lemma translate_of_forall (h : ∀ c ∈ s, c ≠ f.thousands ∧ c ≠ f.decimal) :
    f.translate g s = s := by
  rw [translate, List.map_congr_left fun c hc => translateChar_of_ne (h c hc).1 (h c hc).2,
    List.map_id']

/-- What does not tell the separators of the formats apart does not see a translation. -/
lemma apply_translateChar {p : Char → Bool} (hthousands : p f.thousands = p g.thousands)
    (hdecimal : p f.decimal = p g.decimal) (c : Char) : p (f.translateChar g c) = p c := by
  unfold translateChar
  split
  · rename_i hc
    rw [hc, hthousands]
  · split
    · rename_i hc
      rw [hc, hdecimal]
    · rfl

lemma isDigit_translateChar (hf : f.Lawful) (hg : g.Lawful) (c : Char) :
    (f.translateChar g c).isDigit = c.isDigit :=
  apply_translateChar
    ((isDigit_eq_false hf.thousands).trans (isDigit_eq_false hg.thousands).symm)
    ((isDigit_eq_false hf.decimal).trans (isDigit_eq_false hg.decimal).symm) c

/-- A character of a plain number comes from itself alone. -/
lemma translateChar_eq_iff (hf : f.Lawful) (hg : g.Lawful) {d : Char} (hd : isNumberChar d = true) :
    f.translateChar g c = d ↔ c = d := by
  constructor
  · rintro rfl
    rw [apply_translateChar (hf.thousands.trans hg.thousands.symm)
      (hf.decimal.trans hg.decimal.symm)] at hd
    exact (translateChar_of_isNumberChar hf hd).symm
  · rintro rfl
    exact translateChar_of_isNumberChar hf hd

lemma carries_of_isNumberChar (hf : f.Lawful) (hg : g.Lawful) (hc : isNumberChar c = true) :
    Carries f g c := by
  have hsame := translateChar_of_isNumberChar (g := g) hf hc
  obtain ⟨hthousands, hdecimal⟩ := hf.ne_of_isNumberChar hc
  obtain ⟨hthousands', hdecimal'⟩ := hg.ne_of_isNumberChar hc
  exact ⟨by simp [hsame, hthousands, hthousands'], by simp [hsame, hdecimal, hdecimal']⟩

lemma IsLocaleText.carries (hf : f.Lawful) (hg : g.Lawful) (hs : f.IsLocaleText s) :
    ∀ c ∈ s, Carries f g c := by
  intro c hc
  rcases hs c hc with hdigit | rfl | rfl | rfl
  · exact carries_of_isNumberChar hf hg (by simp [isNumberChar, hdigit])
  · exact carries_of_isNumberChar hf hg rfl
  · have hthousands := translateChar_thousands f g
    exact ⟨by simp [hthousands], by simp [hthousands, hf.distinct, hg.distinct]⟩
  · have hdecimal := translateChar_decimal (g := g) hf
    exact ⟨by simp [hdecimal, hf.distinct.symm, hg.distinct.symm], by simp [hdecimal]⟩

/-! ## Reading a translated text -/

/-- Without the separators of its locale a text is the same in both. -/
lemma normalize_translate (h : ∀ c ∈ s, Carries f g c) :
    g.normalize (f.translate g s) = f.normalize s := by
  have hkept : s.filter ((· ≠ g.thousands) ∘ f.translateChar g) = s.filter (· ≠ f.thousands) :=
    List.filter_congr fun c hc => by simp [(h c hc).thousands]
  rw [normalize, translate, List.filter_map, hkept, List.map_map, normalize]
  refine List.map_congr_left fun c hc => ?_
  obtain ⟨hmem, hne⟩ := List.mem_filter.1 hc
  by_cases hdecimal : c = f.decimal
  · rw [Function.comp_apply, if_pos ((h c hmem).decimal.2 hdecimal), if_pos hdecimal]
  · have hplain : f.translateChar g c = c :=
      translateChar_of_ne (by simpa using hne) hdecimal
    have hother : c ≠ g.decimal := fun heq =>
      hdecimal ((h c hmem).decimal.1 (hplain.trans heq))
    rw [Function.comp_apply, hplain, if_neg hother, if_neg hdecimal]

lemma parse_translate (h : ∀ c ∈ s, Carries f g c) : g.parse (f.translate g s) = f.parse s := by
  rw [parse, normalize_translate h, parse]

/-- Two formats find the decimal separator in the same place. -/
lemma span_translate (h : ∀ c ∈ s, Carries f g c) :
    (f.translate g s).takeWhile (· ≠ g.decimal) = f.translate g (s.takeWhile (· ≠ f.decimal))
      ∧ (f.translate g s).dropWhile (· ≠ g.decimal)
        = f.translate g (s.dropWhile (· ≠ f.decimal)) := by
  induction s with
  | nil => exact ⟨rfl, rfl⟩
  | cons c s ih =>
    obtain ⟨hc, hs⟩ := List.forall_mem_cons.1 h
    obtain ⟨htake, hdrop⟩ := ih hs
    have hsame : decide (f.translateChar g c ≠ g.decimal) = decide (c ≠ f.decimal) :=
      decide_eq_decide.2 (not_congr hc.decimal)
    rw [translate_cons, List.takeWhile_cons, List.dropWhile_cons, List.takeWhile_cons,
      List.dropWhile_cons, hsame, htake, hdrop]
    split
    · exact ⟨rfl, rfl⟩
    · exact ⟨rfl, rfl⟩

lemma fraction?_translate (h : ∀ c ∈ s, Carries f g c) :
    g.fraction? (f.translate g s) = (f.fraction? s).map (f.translate g) := by
  rw [fraction?, (span_translate h).2, fraction?]
  cases s.dropWhile (· ≠ f.decimal) with
  | nil => rfl
  | cons c r => rfl

lemma countDecimals_translate (h : ∀ c ∈ s, Carries f g c) :
    g.countDecimals (f.translate g s) = f.countDecimals s := by
  rw [countDecimals, fraction?_translate h, countDecimals]
  cases f.fraction? s with
  | none => rfl
  | some r => exact length_translate f g r

/-! ## What may be written anew -/

lemma all_isDigit_translate (hf : f.Lawful) (hg : g.Lawful) (s : List Char) :
    (f.translate g s).all Char.isDigit = s.all Char.isDigit := by
  rw [translate, List.all_map]
  exact congrArg s.all (funext fun c => isDigit_translateChar hf hg c)

lemma isUnsigned_translate (hf : f.Lawful) (hg : g.Lawful) (h : ∀ c ∈ s, Carries f g c) :
    g.isUnsigned (f.translate g s) = f.isUnsigned s := by
  have hwhole : (f.translate g (s.takeWhile (· ≠ f.decimal))).all
        (fun c => c.isDigit || c == g.thousands)
      = (s.takeWhile (· ≠ f.decimal)).all (fun c => c.isDigit || c == f.thousands) := by
    rw [translate, List.all_map, Bool.eq_iff_iff, List.all_eq_true, List.all_eq_true]
    refine forall₂_congr fun c hc => ?_
    have hthousands := (h c (List.takeWhile_subset _ hc)).thousands
    simp [isDigit_translateChar hf hg, hthousands]
  rw [isUnsigned, (span_translate h).1, hwhole, fraction?_translate h, isUnsigned]
  cases f.fraction? s with
  | none => rfl
  | some r =>
    have hempty : (f.translate g r).isEmpty = r.isEmpty := by
      rw [translate, List.isEmpty_map]
    simp only [Option.map_some, all_isDigit_translate hf hg, hempty]

lemma withoutMinus_translate (hf : f.Lawful) (hg : g.Lawful) (s : List Char) :
    withoutMinus (f.translate g s) = f.translate g (withoutMinus s) := by
  cases s with
  | nil => rfl
  | cons c r =>
    by_cases hc : c = '-'
    · rw [hc, translate_cons, translateChar_of_isNumberChar hf rfl]
      rfl
    · have hother := mt (translateChar_eq_iff (g := g) hf hg rfl).1 hc
      rw [withoutMinus_cons hc, translate_cons, withoutMinus_cons hother]

lemma withoutMinus_subset (s : List Char) : withoutMinus s ⊆ s := by
  unfold withoutMinus
  split
  · exact List.subset_cons_self _ _
  · exact List.Subset.refl _

/-- Whether a text may be written anew is the same in both locales, where the key that was typed is
a zero in both or in none. -/
lemma isFormattable_translate (hf : f.Lawful) (hg : g.Lawful) (h : ∀ c ∈ s, Carries f g c)
    {typed typed' : Option String} (htyped : typed' = some "0" ↔ typed = some "0")
    (cursorAtEnd : Bool) : g.isFormattable (f.translate g s) typed' cursorAtEnd
      = f.isFormattable s typed cursorAtEnd := by
  have hempty : f.translate g s = [] ↔ s = [] := List.map_eq_nil_iff
  simp only [isFormattable_eq, withoutMinus_translate hf hg, countDecimals_translate h, hempty,
    htyped, isUnsigned_translate hf hg fun c hc => h c (withoutMinus_subset s hc)]

/-! ## Writing numbers -/

lemma translate_groupDigits (hf : f.Lawful) {ds : List Char} (hds : Digits ds) :
    f.translate g (groupDigits f.thousands ds) = groupDigits g.thousands ds := by
  induction ds with
  | nil => rfl
  | cons c r ih =>
    obtain ⟨hc, hr⟩ := List.forall_mem_cons.1 hds
    have hsame : f.translateChar g c = c :=
      translateChar_of_isNumberChar hf (by simp [isNumberChar, hc])
    rw [groupDigits, groupDigits]
    split
    · rw [translate_cons, translate_cons, hsame, translateChar_thousands, ih hr]
    · rw [translate_cons, hsame, ih hr]

lemma translate_digits (hf : f.Lawful) (hs : Digits s) : f.translate g s = s :=
  translate_of_forall fun c hc => hf.ne_of_isNumberChar (by simp [isNumberChar, hs c hc])

lemma translate_minus (hf : f.Lawful) (negative : Bool) :
    f.translate g (if negative then ['-'] else []) = if negative then ['-'] else [] := by
  cases negative with
  | false => rfl
  | true => exact congrArg ([·]) (translateChar_of_isNumberChar hf rfl)

lemma translate_written (hf : f.Lawful) (negative : Bool) {whole fraction : List Char}
    (hwhole : Digits whole) (hfraction : Digits fraction) :
    f.translate g (f.written negative whole fraction) = g.written negative whole fraction := by
  have hpoint : f.translate g (if fraction = [] then [] else f.decimal :: fraction)
      = if fraction = [] then [] else g.decimal :: fraction := by
    split
    · rfl
    · rw [translate_cons, translateChar_decimal hf, translate_digits hf hfraction]
  rw [written, written, translate_append, translate_append, translate_minus hf,
    translate_groupDigits hf hwhole, hpoint]

/-- A format that uses its separators in finite numbers only. -/
def KeepsNaN (f : DecimalFormat) : Prop := ∀ c ∈ "NaN".toList, c ≠ f.thousands ∧ c ≠ f.decimal

lemma keepsNaN_new (code : String) (places : Nat) : (new code places).KeepsNaN := by
  have hknown : ∀ s ∈ localeSeparators,
      "NaN".toList.all (fun c => c ≠ s.thousands ∧ c ≠ s.decimal) = true := by
    decide
  intro c hc
  exact of_decide_eq_true (List.all_eq_true.1 (hknown _ (separatorsOf_mem code)) c hc)

section TwoLocales

variable (hf : f.Lawful) (hnan : f.KeepsNaN) (hplaces : g.places = f.places)
include hf hnan hplaces

/-- A number is written the same way in both locales but for the separators. -/
lemma format_translate (x : Double) : g.format x = f.translate g (f.format x) := by
  cases x with
  | nan => exact (translate_of_forall hnan).symm
  | signed negative m =>
    cases hm : m.isFinite with
    | true =>
      rw [format_signed g negative hm, format_signed f negative hm, hplaces,
        translate_written hf _ (m.digits_wholeDigits _) (m.digits_shownFraction _)]
    | false =>
      have hsign : f.translateChar g '∞' = '∞' := translateChar_of_isNumberChar hf rfl
      rw [format_infinite g negative hm, format_infinite f negative hm, translate_append,
        translate_minus hf, translate_cons, hsign, translate_nil]

lemma formatText_translate (h : ∀ c ∈ s, Carries f g c) :
    g.formatText (f.translate g s) = (f.formatText s).map (f.translate g) := by
  rw [formatText, parse_translate h, formatText, Option.map_map]
  exact congrArg (Option.map · (f.parse s)) (funext (format_translate hf hnan hplaces))

variable (hg : g.Lawful)
include hg

lemma formatInput_translate (h : ∀ c ∈ s, Carries f g c) :
    g.formatInput (f.translate g s) = f.translate g (f.formatInput s) := by
  rw [formatInput, formatInput, isFormattable_translate hf hg h Iff.rfl,
    formatText_translate hf hnan hplaces h]
  split
  · cases f.formatText s <;> rfl
  · rfl

/-- An input gives the same text but for the separators, and the same cursor. -/
lemma onInput_translate (h : ∀ c ∈ s, Carries f g c) {typed typed' : Option String}
    (htyped : typed' = some "0" ↔ typed = some "0") (cursor : Nat) :
    g.onInput (f.translate g s) typed' cursor
      = ⟨f.translate g (f.onInput s typed cursor).text, (f.onInput s typed cursor).cursor⟩ := by
  have hwritten : (if f.isFormattable s typed (cursor == s.length)
        then (f.formatText s).map (f.translate g) else none)
      = (if f.isFormattable s typed (cursor == s.length) then f.formatText s else none).map
        (f.translate g) := by
    split
    · rfl
    · rfl
  rw [onInput, length_translate, isFormattable_translate hf hg h htyped,
    formatText_translate hf hnan hplaces h, hwritten, onInput]
  cases if f.isFormattable s typed (cursor == s.length) then f.formatText s else none with
  | none => rfl
  | some text => simp only [Option.map_some, length_translate]

end TwoLocales

/-! ## Two locales -/

lemma translateKey_eq_zero_iff (hf : f.Lawful) (hg : g.Lawful) (key : String) :
    f.translateKey g key = "0" ↔ key = "0" := by
  have hlist : f.translate g key.toList = ['0'] ↔ key.toList = ['0'] := by
    rw [translate, List.map_eq_singleton_iff]
    constructor
    · rintro ⟨c, hkey, hc⟩
      rw [hkey, (translateChar_eq_iff hf hg rfl).1 hc]
    · intro hkey
      exact ⟨'0', hkey, translateChar_of_isNumberChar hf rfl⟩
  rw [translateKey, ← String.toList_inj, String.toList_ofList, ← String.toList_inj]
  exact hlist

/-- Locales differ in their separators and in nothing else.  For any two country codes with the same
number of places, a number is written the same way in both but for the separators.  A text of
digits, minus signs and separators of the one locale, carried over to the other, has the same plain
form, the same number, value and count of decimals, and is written anew to the same text carried
over.  After any key, left as it is or carried over too, and with any cursor the text may be written
anew in both locales or in neither, and an input gives the same text carried over, with the same
cursor. -/
theorem locales_differ_in_separators (code code' : String) (places places' : Nat)
    (hplaces : (new code' places').places = (new code places).places) :
    let f := new code places
    let g := new code' places'
    (∀ x, g.format x = f.translate g (f.format x)) ∧
    ∀ s, f.IsLocaleText s →
      g.normalize (f.translate g s) = f.normalize s ∧
      g.parse (f.translate g s) = f.parse s ∧
      g.value (f.translate g s) = f.value s ∧
      g.countDecimals (f.translate g s) = f.countDecimals s ∧
      g.formatInput (f.translate g s) = f.translate g (f.formatInput s) ∧
      ∀ typed typed' : Option String, typed' = typed ∨ typed' = typed.map (f.translateKey g) →
        (∀ cursorAtEnd, g.isFormattable (f.translate g s) typed' cursorAtEnd
          = f.isFormattable s typed cursorAtEnd) ∧
        ∀ cursor, g.onInput (f.translate g s) typed' cursor
          = ⟨f.translate g (f.onInput s typed cursor).text, (f.onInput s typed cursor).cursor⟩ := by
  intro f g
  have hf : f.Lawful := lawful_new code places
  have hg : g.Lawful := lawful_new code' places'
  have hnan : f.KeepsNaN := keepsNaN_new code places
  refine ⟨format_translate hf hnan hplaces, fun s hs => ?_⟩
  have hcarries := hs.carries hf hg
  have hparse := parse_translate hcarries
  have hvalue : g.value (f.translate g s) = f.value s := by
    rw [value, value, hparse, hplaces]
  refine ⟨normalize_translate hcarries, hparse, hvalue, countDecimals_translate hcarries,
    formatInput_translate hf hnan hplaces hg hcarries, fun typed typed' hkey => ?_⟩
  have hzero : typed' = some "0" ↔ typed = some "0" := by
    rcases hkey with rfl | rfl
    · rfl
    · simp only [Option.map_eq_some_iff, translateKey_eq_zero_iff hf hg, exists_eq_right]
  exact ⟨isFormattable_translate hf hg hcarries hzero,
    onInput_translate hf hnan hplaces hg hcarries hzero⟩

/-- From the German to the French locale, where the points between groups become narrow spaces: the
groups of a text are put right and its fraction is rounded. -/
theorem french_text_of_german_input :
    let f := new "de-DE" 2
    let g := new "fr-FR" 2
    let s := "-1.2345,678".toList
    f.IsLocaleText s ∧ f.translate g s = "-1\u202f2345,678".toList ∧
    f.onInput s (some "8") 11 = ⟨"-12.345,68".toList, 10⟩ ∧
    g.onInput "-1\u202f2345,678".toList (some "8") 11 = ⟨"-12\u202f345,68".toList, 10⟩ ∧
    g.value "-1\u202f2345,678".toList = some "-12345.68".toList := by
  intro f g s
  have hs : f.IsLocaleText s := by
    have hall : s.all (fun c => c.isDigit ∨ c = '-' ∨ c = f.thousands ∨ c = f.decimal) = true := by
      decide
    exact fun c hc => of_decide_eq_true (List.all_eq_true.1 hall c hc)
  have htext : f.translate g s = "-1\u202f2345,678".toList := by decide
  have hinput : f.onInput s (some "8") 11 = ⟨"-12.345,68".toList, 10⟩ := by decide +kernel
  have hvalue : f.value s = some "-12345.68".toList := by decide +kernel
  obtain ⟨-, htexts⟩ := locales_differ_in_separators "de-DE" "fr-FR" 2 2 rfl
  obtain ⟨-, -, hvalues, -, -, hinputs⟩ := htexts s hs
  obtain ⟨-, hinputs⟩ := hinputs (some "8") (some "8") (.inl rfl)
  have hfrench := hinputs 11
  rw [hinput, htext] at hfrench
  rw [htext, hvalue] at hvalues
  exact ⟨hs, htext, hinput, hfrench.trans (by decide), hvalues⟩

end DecimalFormat

end GridRules
