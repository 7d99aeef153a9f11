import GridRules.Proofs.Decimal.Precision

/-!
# The place of the cursor

After an input the text may be written anew, and then it has another length: separators of groups
come in, digits beyond the last place and zeros at the end go, and a number beyond the doubles
becomes one symbol (`DecimalFormat.length_format`).  The cursor is moved so that as many characters
stand behind it as before.  Only where the new text is shorter than that, the cursor is at the front
(`DecimalFormat.onInput_cursor`).

So the cursor never leaves the text, and the next key is put in where the user sees it.  That holds
for any number of keys, one after the other: no key adds a character behind the cursor
(`TextCursor.behind_pressAll`).
-/

namespace GridRules

lemma length_groupDigits (separator : Char) {ds : List Char} (hne : ds ≠ []) :
    (groupDigits separator ds).length = ds.length + (ds.length - 1) / 3 := by
  induction ds with
  | nil => exact absurd rfl hne
  | cons c r ih =>
    by_cases hr : r = []
    · subst hr
      simp [groupDigits]
    · have hpos := List.length_pos_iff.2 hr
      rw [groupDigits]
      split
      · rename_i hfull
        rw [List.length_cons, List.length_cons, ih hr, List.length_cons]
        omega
      · rename_i hroom
        have hmod : r.length % 3 ≠ 0 := fun hzero => hroom ⟨hr, hzero⟩
        rw [List.length_cons, ih hr, List.length_cons]
        omega

namespace DecimalFormat

variable {f : DecimalFormat} {s : List Char} {typed : Option String} {cursor : ℕ}

/-- The number of characters in the text of a number that is shown: the sign, the digits before the
point with a separator before every three from the right, and the digits after it with the decimal
separator.  An infinite number is one symbol with its sign. -/
def shownLength (f : DecimalFormat) (negative : Bool) (m : Magnitude) : ℕ :=
  if m.isFinite then
    (negative && !m.isShownAsZero f.places).toNat
      + ((m.wholeDigits f.places).length + ((m.wholeDigits f.places).length - 1) / 3)
      + ((m.shownFraction f.places).length + (!(m.shownFraction f.places).isEmpty).toNat)
  else negative.toNat + 1

lemma length_format (f : DecimalFormat) (negative : Bool) (m : Magnitude) :
    (f.format (.signed negative m)).length = f.shownLength negative m := by
  have hsign : ∀ b : Bool, (if b then ['-'] else []).length = b.toNat := by decide
  cases hm : m.isFinite with
  | true =>
    have hgroups := length_groupDigits f.thousands (m.wholeDigits_ne_nil f.places)
    rw [format_signed f negative hm, written, List.length_append, List.length_append, hsign,
      hgroups, shownLength, if_pos hm]
    cases m.shownFraction f.places with
    | nil => simp
    | cons c r => simp [Nat.add_assoc]
  | false =>
    rw [format_infinite f negative hm, List.length_append, hsign, shownLength,
      if_neg (by simp [hm])]
    rfl

/-- The cursor is counted from the end of the text, which may be written anew in front of it. -/
lemma onInput_cursor (h : cursor ≤ s.length) : (f.onInput s typed cursor).cursor
    = (f.onInput s typed cursor).text.length - (s.length - cursor) := by
  unfold onInput
  dsimp only
  split
  · exact (Nat.sub_sub_self h).symm
  · dsimp only
    omega

/-- An input leaves the text as it is or writes the number that is read from it. -/
lemma onInput_text_eq_or (f : DecimalFormat) (s : List Char) (typed : Option String) (cursor : ℕ) :
    (f.onInput s typed cursor).text = s ∨ ∃ negative m, f.parse s = some (.signed negative m)
      ∧ (f.onInput s typed cursor).text = f.format (.signed negative m) := by
  by_cases hformattable : f.isFormattable s typed (cursor == s.length) = true
  · cases hparse : f.parse s with
    | none => exact .inl (by simp only [onInput, formatText, hparse, Option.map_none, ite_self])
    | some x =>
      cases x with
      | nan => cases parse_isNaN hparse
      | signed negative m =>
        refine .inr ⟨negative, m, rfl, ?_⟩
        simp only [onInput, formatText, hformattable, hparse, if_true, Option.map_some]
  · exact .inl (by simp only [onInput, if_neg hformattable])

end DecimalFormat

/-! ## Keys, one after the other -/

namespace TextCursor

variable {f : DecimalFormat} {u : TextCursor}

/-- A key is put in at the cursor, which moves behind it, and the input is handled. -/
def press (f : DecimalFormat) (u : TextCursor) (key : Char) : TextCursor :=
  f.onInput (u.text.take u.cursor ++ key :: u.text.drop u.cursor) (some (String.singleton key))
    (u.cursor + 1)

/-- Keys are pressed one after the other. -/
def pressAll (f : DecimalFormat) (u : TextCursor) (keys : List Char) : TextCursor :=
  keys.foldl (press f) u

/-- One key leaves the cursor inside the text and no more characters behind it. -/
lemma behind_press (f : DecimalFormat) (h : u.cursor ≤ u.text.length) (key : Char) :
    (u.press f key).cursor ≤ (u.press f key).text.length
      ∧ (u.press f key).text.length - (u.press f key).cursor ≤ u.text.length - u.cursor := by
  have hlength : (u.text.take u.cursor ++ key :: u.text.drop u.cursor).length
      = u.text.length + 1 := by
    rw [List.length_append, List.length_cons, List.length_take_of_le h, List.length_drop]
    omega
  have hcursor : (u.press f key).cursor
      = (u.press f key).text.length - (u.text.length - u.cursor) := by
    rw [press, DecimalFormat.onInput_cursor (by omega), hlength, Nat.add_sub_add_right]
  omega

/-- Any number of keys leave the cursor inside the text and no more characters behind it. -/
lemma behind_pressAll (f : DecimalFormat) (h : u.cursor ≤ u.text.length) (keys : List Char) :
    (u.pressAll f keys).cursor ≤ (u.pressAll f keys).text.length
      ∧ (u.pressAll f keys).text.length - (u.pressAll f keys).cursor
        ≤ u.text.length - u.cursor := by
  induction keys generalizing u with
  | nil => exact ⟨h, Nat.le_refl _⟩
  | cons key keys ih =>
    obtain ⟨hinside, hbehind⟩ := behind_press f h key
    obtain ⟨hrun, hrunBehind⟩ := ih hinside
    exact ⟨hrun, hrunBehind.trans hbehind⟩

end TextCursor

/-- The cursor stays inside the text.  Whatever the format, the text, the typed key and the place of
the cursor are, the cursor that an input answers with is inside the new text.  It is where it was if
the text is, it is at the end if it was there, and as many characters stand behind it as before
unless the new text has fewer: then it is at the front.  The new text is the old one, or it is that
of a number and has as many characters as are shown of the number.  An editor answers with the same
text and cursor.  After any further keys, put in where the cursor is, it is still inside the text,
with no more characters behind it. -/
theorem DecimalFormat.cursor_stays_inside (f : DecimalFormat) (s : List Char)
    (typed : Option String) (cursor : ℕ) (h : cursor ≤ s.length) :
    let u := f.onInput s typed cursor
    u.cursor ≤ u.text.length
      ∧ (u.text = s → u.cursor = cursor)
      ∧ (cursor = s.length → u.cursor = u.text.length)
      ∧ (s.length - cursor ≤ u.text.length → u.text.length - u.cursor = s.length - cursor)
      ∧ (u.text.length < s.length - cursor → u.cursor = 0)
      ∧ (u.text = s ∨ ∃ negative m, f.parse s = some (.signed negative m)
        ∧ u.text.length = f.shownLength negative m)
      ∧ (∀ e : DecimalEditor, e.format = f →
        e.input s typed cursor = ({ e with text := u.text }, u.cursor))
      ∧ ∀ keys, (u.pressAll f keys).cursor ≤ (u.pressAll f keys).text.length
        ∧ (u.pressAll f keys).text.length - (u.pressAll f keys).cursor ≤ s.length - cursor := by
  intro u
  have hcursor : u.cursor = u.text.length - (s.length - cursor) := onInput_cursor h
  have hinside : u.cursor ≤ u.text.length := hcursor ▸ Nat.sub_le _ _
  have htext : u.text = s ∨ ∃ negative m, f.parse s = some (.signed negative m)
      ∧ u.text.length = f.shownLength negative m := by
    refine (f.onInput_text_eq_or s typed cursor).imp_right ?_
    rintro ⟨negative, m, hparse, hwritten⟩
    exact ⟨negative, m, hparse, by rw [hwritten, length_format]⟩
  refine ⟨hinside, ?_, ?_, ?_, ?_, htext, ?_, fun keys => ?_⟩
  · intro hsame
    rw [hcursor, hsame]
    exact Nat.sub_sub_self h
  · intro hend
    rw [hcursor, hend, Nat.sub_self, Nat.sub_zero]
  · intro hroom
    omega
  · intro hshort
    omega
  · rintro e rfl
    rfl
  · obtain ⟨hrun, hbehind⟩ := TextCursor.behind_pressAll f hinside keys
    exact ⟨hrun, hbehind.trans (by omega)⟩

/-- In the French locale with two places: a separator comes in, a number is rounded to zero, and one
beyond the doubles becomes a symbol. -/
theorem DecimalFormat.cursor_in_french_text :
    let f := new "fr-FR" 2
    let grouped := f.onInput "1234".toList (some "2") 2
    let rounded := f.onInput "-0,001".toList none 3
    let infinite := f.onInput (List.replicate 310 '9') (some "9") 310
    (grouped.text = "1\u202f234".toList ∧ grouped.cursor = 3)
      ∧ (rounded.text = ['0'] ∧ rounded.cursor = 0)
      ∧ (infinite.text = ['∞'] ∧ infinite.cursor = 1) := by
  intro f grouped rounded infinite
  have hgrouped : grouped.text = "1\u202f234".toList := by decide +kernel
  have hrounded : rounded.text = ['0'] := by decide +kernel
  have hinfinite : infinite.text = ['∞'] := by decide +kernel
  obtain ⟨hinside, -, -, hbehind, -⟩ :=
    cursor_stays_inside f "1234".toList (some "2") 2 (by decide)
  obtain ⟨-, -, -, -, hfront, -⟩ := cursor_stays_inside f "-0,001".toList none 3 (by decide)
  obtain ⟨-, -, hend, -⟩ :=
    cursor_stays_inside f (List.replicate 310 '9') (some "9") 310 List.length_replicate.ge
  have hfive : grouped.text.length = 5 := by rw [hgrouped]; rfl
  have htwo : grouped.text.length - grouped.cursor = 2 := hbehind (by rw [hgrouped]; decide)
  have hlast : infinite.cursor = infinite.text.length := hend List.length_replicate.symm
  refine ⟨⟨hgrouped, by omega⟩, ⟨hrounded, hfront (by rw [hrounded]; decide)⟩, hinfinite, ?_⟩
  rw [hlast, hinfinite]
  rfl

end GridRules
