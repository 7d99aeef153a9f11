import GridRules.Proofs.Decimal.Locales
import GridRules.Proofs.Decimal.Typing
import Mathlib.Logic.Relation

/-!
# The precision of a text that is edited

An editor guards the precision of its text in two places.  A key at the end of the text is refused
when it would be a second decimal separator or one digit too many, and a text that is written anew
is rounded.  Neither looks at the whole text, so what they keep up together is an invariant
(`DecimalFormat.WithinPlaces`): there is at most one decimal separator, and no more characters after
it than places.  It does not ask that the text is a number.  Leftovers such as `N,5` keep to it as
well, because only the separator and the length of what follows it count.
-/

namespace GridRules

open Text (Digits)

namespace DecimalFormat

/-- A text with at most one decimal separator and no more characters after it than places. -/
structure WithinPlaces (f : DecimalFormat) (s : List Char) : Prop where
  /-- The decimal separator does not stand twice. -/
  count_le : s.count f.decimal ≤ 1
  /-- What follows it is no longer than there are places. -/
  length_le : ∀ before after, s = before ++ f.decimal :: after → after.length ≤ f.places

variable {f : DecimalFormat} {s t : List Char} {c : Char}

/-! ## Texts within the places -/

lemma withinPlaces_of_not_mem (h : f.decimal ∉ s) : f.WithinPlaces s where
  count_le := by rw [List.count_eq_zero_of_not_mem h]; exact Nat.zero_le 1
  length_le := by
    rintro before after rfl
    exact absurd (List.mem_append_right _ List.mem_cons_self) h

lemma withinPlaces_append (hs : f.decimal ∉ s) (ht : f.decimal ∉ t)
    (hlength : t.length ≤ f.places) : f.WithinPlaces (s ++ f.decimal :: t) where
  count_le := by
    rw [List.count_append, List.count_cons_self, List.count_eq_zero_of_not_mem hs,
      List.count_eq_zero_of_not_mem ht]
  length_le := by
    intro before after h
    have hbefore : f.decimal ∉ before := by
      intro hmem
      have hcount := congrArg (List.count f.decimal) h
      rw [List.count_append, List.count_cons_self, List.count_append, List.count_cons_self,
        List.count_eq_zero_of_not_mem hs, List.count_eq_zero_of_not_mem ht] at hcount
      have hpos := List.count_pos_iff.2 hmem
      omega
    rw [← (Text.append_cons_inj_of_first hs hbefore h).2]
    exact hlength

/-- With a single decimal separator nothing but the fraction follows it. -/
lemma WithinPlaces.countDecimals_eq (h : f.WithinPlaces (s ++ f.decimal :: t)) :
    f.countDecimals (s ++ f.decimal :: t) = t.length := by
  refine countDecimals_append (fun hmem => ?_) t
  have hcount := h.count_le
  rw [List.count_append, List.count_cons_self] at hcount
  have hpos := List.count_pos_iff.2 hmem
  omega

/-- Deleting characters leaves a text within the places. -/
lemma WithinPlaces.sublist (h : f.WithinPlaces t) (hs : s.Sublist t) : f.WithinPlaces s where
  count_le := (hs.count_le f.decimal).trans h.count_le
  length_le := by
    rintro before after rfl
    -- the separator that is left stands in the whole text, before all that follows it here
    obtain ⟨front, rest, rfl, -, hrest⟩ := List.append_sublist_iff.1 hs
    obtain ⟨head, tail, rfl, hmem, htail⟩ := List.cons_sublist_iff.1 hrest
    obtain ⟨left, right, rfl⟩ := List.append_of_mem hmem
    have hle := h.length_le (front ++ left) (right ++ tail) (by simp)
    rw [List.length_append] at hle
    have hshort := htail.length_le
    omega

/-! ## Keys -/

/-- A key that is accepted at the end of a text is no second decimal separator, and there is room
for it behind the first. -/
lemma of_isInputAllowed (h : f.isInputAllowed (String.singleton c) s true = true) :
    (f.decimal ∈ s → f.countDecimals s < f.places) ∧ (c = f.decimal → f.decimal ∉ s) := by
  rw [isInputAllowed, if_neg (singleton_not_mem_navigationKeys c)] at h
  split at h
  · cases h
  · rename_i hfull
    split at h
    · cases h
    · rename_i hsecond
      refine ⟨fun hmem => ?_, fun hc hmem => hsecond ⟨by simp [hc], .inr hmem⟩⟩
      simpa [hmem] using hfull

/-- A key that is accepted leaves the text within the places. -/
lemma WithinPlaces.concat (h : f.WithinPlaces s)
    (hkey : f.isInputAllowed (String.singleton c) s true = true) : f.WithinPlaces (s ++ [c]) := by
  obtain ⟨hroom, hsecond⟩ := of_isInputAllowed hkey
  constructor
  · by_cases hc : c = f.decimal
    · rw [List.count_append, List.count_eq_zero_of_not_mem (hsecond hc), hc,
        List.count_singleton_self]
    · rw [List.count_append, List.count_singleton, if_neg (by simpa using hc)]
      exact h.count_le
  · intro before after heq
    rcases List.eq_nil_or_concat' after with rfl | ⟨rest, d, rfl⟩
    · exact Nat.zero_le _
    · -- the key stands behind a separator that was in the text before
      have hfront : s = before ++ f.decimal :: rest := by
        rw [← List.cons_append, ← List.append_assoc] at heq
        exact (List.append_inj' heq rfl).1
      have hlt := hroom (by simp [hfront])
      rw [hfront] at h hlt
      rw [h.countDecimals_eq] at hlt
      rw [List.length_append, List.length_singleton]
      exact hlt

/-! ## Texts that are written anew -/

lemma withinPlaces_written (hf : f.Lawful) (negative : Bool) {whole fraction : List Char}
    (hwhole : Digits whole) (hfraction : Digits fraction) (hlength : fraction.length ≤ f.places) :
    f.WithinPlaces (f.written negative whole fraction) := by
  have hno := decimal_not_mem_written hf negative hwhole
  by_cases hnone : fraction = []
  · rw [hnone]
    exact withinPlaces_of_not_mem hno
  · rw [written_of_ne_nil f negative whole hnone]
    exact withinPlaces_append hno (hf.decimal_not_mem hfraction) hlength

/-- Every number is written within the places, also one that is not finite. -/
lemma withinPlaces_format (hf : f.Lawful) (hnan : f.KeepsNaN) (x : Double) :
    f.WithinPlaces (f.format x) := by
  cases x with
  | nan => exact withinPlaces_of_not_mem fun h => (hnan _ h).2 rfl
  | signed negative m =>
    cases hm : m.isFinite with
    | true =>
      rw [format_signed f negative hm]
      exact withinPlaces_written hf _ (m.digits_wholeDigits _) (m.digits_shownFraction _)
        (m.length_shownFraction_le _)
    | false =>
      rw [format_infinite f negative hm]
      refine withinPlaces_of_not_mem fun h => ?_
      exact (hf.ne_of_mem_infinity negative h).2 rfl

/-- An input leaves the text as it is or writes a number. -/
lemma onInput_text_cases (f : DecimalFormat) (s : List Char) (typed : Option String)
    (cursor : Nat) :
    (f.onInput s typed cursor).text = s ∨ ∃ x, (f.onInput s typed cursor).text = f.format x := by
  rw [onInput, formatText]
  split
  · exact .inl rfl
  · rename_i text htext
    split at htext
    · obtain ⟨x, -, hx⟩ := Option.map_eq_some_iff.1 htext
      exact .inr ⟨x, hx.symm⟩
    · cases htext

lemma WithinPlaces.onInput (hf : f.Lawful) (hnan : f.KeepsNaN) (h : f.WithinPlaces s)
    (typed : Option String) (cursor : Nat) : f.WithinPlaces (f.onInput s typed cursor).text := by
  rcases f.onInput_text_cases s typed cursor with htext | ⟨x, htext⟩
  · rw [htext]
    exact h
  · rw [htext]
    exact withinPlaces_format hf hnan x

end DecimalFormat

namespace DecimalEditor

open DecimalFormat (ofSettings)

/-! ## Runs of an editor -/

/-- One step of editing: a key that is accepted at the end of the text and put in there, or an input
of the text without some of its characters. -/
inductive Edits : DecimalEditor → DecimalEditor → Prop
  /-- A key is typed at the end of the text, and the cursor is behind it. -/
  | key {e d : DecimalEditor} {c : Char}
      (haccepted : e.acceptsKey (String.singleton c) e.text.length = true)
      (hinput : (e.input (e.text ++ [c]) (some (String.singleton c)) (e.text.length + 1)).1 = d) :
      Edits e d
  /-- Characters are deleted, and the cursor is anywhere. -/
  | deletion {e d : DecimalEditor} {s : List Char} (hs : s.Sublist e.text) (cursor : Nat)
      (hinput : (e.input s none cursor).1 = d) : Edits e d

/-- The editor writes in the format of its settings and its text is within the places. -/
structure Precise (f : DecimalFormat) (e : DecimalEditor) : Prop where
  /-- The format is the one of the settings. -/
  format_eq : e.format = f
  /-- The text is within the places. -/
  withinPlaces : f.WithinPlaces e.text

variable {f : DecimalFormat} {e d : DecimalEditor}

lemma precise_start (settings : DecimalSettings) (v : Value) :
    Precise (ofSettings settings) (start settings v) where
  format_eq := rfl
  withinPlaces := by
    have htext : (start settings v).text = []
        ∨ (start settings v).text = (ofSettings settings).format v.toDouble := ite_eq_or_eq _ _ _
    rcases htext with htext | htext
    · rw [htext]
      exact DecimalFormat.withinPlaces_of_not_mem List.not_mem_nil
    · rw [htext]
      exact DecimalFormat.withinPlaces_format (DecimalFormat.lawful_new _ _)
        (DecimalFormat.keepsNaN_new _ _) _

/-- One step of editing keeps the text within the places. -/
lemma Precise.edits (hf : f.Lawful) (hnan : f.KeepsNaN) (h : Precise f e) (hedits : Edits e d) :
    Precise f d := by
  obtain ⟨rfl, hwithin⟩ := h
  cases hedits with
  | key haccepted hinput =>
    obtain rfl := hinput
    rw [acceptsKey, beq_self_eq_true] at haccepted
    exact ⟨rfl, (hwithin.concat haccepted).onInput hf hnan _ _⟩
  | deletion hs cursor hinput =>
    obtain rfl := hinput
    exact ⟨rfl, (hwithin.sublist hs).onInput hf hnan _ _⟩

/-- Every editor that is reached by editing keeps its text within the places. -/
theorem precise_of_reachable {settings : DecimalSettings} {v : Value}
    (h : Relation.ReflTransGen Edits (start settings v) e) :
    Precise (ofSettings settings) e := by
  induction h with
  | refl => exact precise_start settings v
  | tail _ hedits ih =>
    exact ih.edits (DecimalFormat.lawful_new _ _) (DecimalFormat.keepsNaN_new _ _) hedits

/-- Editing keeps the precision.  In every editor that is reached from any value of a cell by keys
which are accepted at the end of the text and by deletions of any characters, the text holds at most
one decimal separator of the locale, and after it no more characters than the decimal places of the
settings, of which twenty count. -/
theorem editing_keeps_precision (settings : DecimalSettings) (v : Value) (e : DecimalEditor)
    (h : Relation.ReflTransGen Edits (start settings v) e) :
    let decimal := (separatorsOf settings.countryCode).decimal
    e.text.count decimal ≤ 1 ∧
      ∀ before after, e.text = before ++ decimal :: after →
        after.length ≤ min settings.places.toNat maxDecimalPlaces := by
  obtain ⟨hcount, hlength⟩ := (precise_of_reachable h).withinPlaces
  exact ⟨hcount, hlength⟩

/-- In the German locale with one place: a text that is no number is cut down to one letter, and a
fraction is typed behind it.  The next digit would be one too many and is refused. -/
theorem editing_of_leftover_letter :
    let settings : DecimalSettings := ⟨"de-DE", 1⟩
    let e : DecimalEditor := ⟨ofSettings settings, "N,5".toList⟩
    Relation.ReflTransGen Edits (start settings (.string "n/a")) e
      ∧ e.text.count ',' ≤ 1
      ∧ (∀ before after, e.text = before ++ ',' :: after → after.length ≤ 1)
      ∧ e.acceptsKey "7" 3 = false := by
  intro settings e
  let f := ofSettings settings
  have hstart : start settings (.string "n/a") = ⟨f, "NaN".toList⟩ := by decide +kernel
  have hdeletion : Edits ⟨f, "NaN".toList⟩ ⟨f, ['N']⟩ :=
    .deletion (s := ['N']) (by decide) 1 (by decide +kernel)
  have hseparator : Edits ⟨f, ['N']⟩ ⟨f, "N,".toList⟩ :=
    .key (c := ',') (by decide) (by decide +kernel)
  have hdigit : Edits ⟨f, "N,".toList⟩ e := .key (c := '5') (by decide) (by decide +kernel)
  have hrun : Relation.ReflTransGen Edits (start settings (.string "n/a")) e := by
    rw [hstart]
    exact ((Relation.ReflTransGen.single hdeletion).tail hseparator).tail hdigit
  obtain ⟨hcount, hlength⟩ := editing_keeps_precision settings (.string "n/a") e hrun
  exact ⟨hrun, hcount, hlength, by decide⟩

end DecimalEditor

end GridRules
