import GridRules.Proofs.Date.Printed

/-!
# Texts of dates

Which characters the text of a date may hold, and where.  Every item of a notation takes a text of a
simple shape off the front (`Item.Takes`), so a text that is read is a chain of such texts
(`Notation.takes_of_moment?`).

Three facts about the texts of dates follow.  None holds a comma.  None holds a hyphen in spaces: a
hyphen between two parts of a date comes right after a digit, and a digit comes right after a
hyphen that is a sign.  And what stands before the first hyphen of such a text is no date.  So the
separators of lists and of bounds never cut a date, and a bare hyphen always does.
-/

namespace GridRules

/-! ## What the items of a notation take -/

namespace Item

open Text (Digits White)

/-- The texts that an item takes. -/
inductive Takes : Item → List Char → Prop
  /-- White space, a sign of a year and at least one digit. -/
  | number {part : Part} {w sign ds : List Char} (hw : White w)
      (hsign : sign = [] ∨ sign = ['-'] ∨ sign = ['+']) (hds : Digits ds) (hne : ds ≠ []) :
      Takes (.number part) (w ++ sign ++ ds)
  /-- As many digits as are asked for. -/
  | exact {part : Part} {ds : List Char} (hds : Digits ds) : Takes (.exact part ds.length) ds
  /-- One of the characters. -/
  | oneOf {chars : List Char} {c : Char} (h : c ∈ chars) : Takes (.oneOf chars) [c]
  /-- White space. -/
  | blank {w : List Char} (hw : White w) : Takes .blank w
  /-- No fraction. -/
  | whole : Takes .fraction []
  /-- A point and digits. -/
  | fraction {ds : List Char} (hds : Digits ds) : Takes .fraction ('.' :: ds)
  /-- The letter of Greenwich time. -/
  | greenwich {c : Char} (h : c = 'Z' ∨ c = 'z') : Takes .offset [c]
  /-- A sign, digits, a colon and digits. -/
  | offset {c : Char} {hours minutes : List Char} (hc : c = '+' ∨ c = '-' ∨ c = '−')
      (hhours : Digits hours) (hne : hours ≠ []) (hminutes : Digits minutes) :
      Takes .offset (c :: hours ++ ':' :: minutes)

variable {m m' : Moment} {s rest : List Char}

lemma exists_digits_of_upTo {width n : Nat} (h : digitsUpTo? width s = some (n, rest)) :
    ∃ ds, s = ds ++ rest ∧ Digits ds ∧ ds ≠ [] := by
  simp only [digitsUpTo?] at h
  split at h
  · cases h
  · rename_i hne
    obtain ⟨-, rfl⟩ := Prod.mk.inj (Option.some.inj h)
    have hfront : (s.take width).takeWhile Char.isDigit <+: s :=
      (List.takeWhile_prefix _).trans (List.take_prefix _ _)
    refine ⟨_, ?_, fun c hc => List.mem_takeWhile_imp hc, hne⟩
    rw [List.prefix_iff_eq_take.1 hfront, List.length_take_of_le hfront.length_le]
    exact (List.take_append_drop _ _).symm

lemma exists_digits_of_exactly {width n : Nat} (h : digitsExactly? width s = some (n, rest)) :
    ∃ ds, s = ds ++ rest ∧ Digits ds ∧ ds.length = width := by
  simp only [digitsExactly?] at h
  split at h
  · rename_i hlength
    obtain ⟨-, rfl⟩ := Prod.mk.inj (Option.some.inj h)
    have hfront : (s.take width).takeWhile Char.isDigit <+: s :=
      (List.takeWhile_prefix _).trans (List.take_prefix _ _)
    refine ⟨_, ?_, fun c hc => List.mem_takeWhile_imp hc, hlength⟩
    rw [List.prefix_iff_eq_take.1 hfront, hlength]
    exact (List.take_append_drop _ _).symm
  · cases h

lemma exists_of_partNumber? {part : Part} {n : Int} (h : partNumber? part s = some (n, rest)) :
    ∃ sign ds, s = sign ++ ds ++ rest ∧ (sign = [] ∨ sign = ['-'] ∨ sign = ['+'])
      ∧ Digits ds ∧ ds ≠ [] := by
  unfold partNumber? at h
  split at h
  all_goals
    obtain ⟨⟨k, t⟩, hread, hmap⟩ := Option.map_eq_some_iff.1 h
    obtain ⟨-, rfl⟩ := Prod.mk.inj hmap
    obtain ⟨ds, hds, hdigits, hne⟩ := exists_digits_of_upTo hread
  · exact ⟨['-'], ds, by rw [hds]; rfl, .inr (.inl rfl), hdigits, hne⟩
  · exact ⟨['+'], ds, by rw [hds]; rfl, .inr (.inr rfl), hdigits, hne⟩
  · exact ⟨[], ds, hds, .inl rfl, hdigits, hne⟩
  · exact ⟨[], ds, hds, .inl rfl, hdigits, hne⟩

lemma exists_of_afterOffset? (h : afterOffset? s = some rest) :
    ∃ used, s = used ++ rest ∧ Takes .offset used := by
  unfold afterOffset? at h
  split at h
  · obtain rfl := Option.some.inj h
    exact ⟨['Z'], rfl, .greenwich (.inl rfl)⟩
  · obtain rfl := Option.some.inj h
    exact ⟨['z'], rfl, .greenwich (.inr rfl)⟩
  · rename_i c r _ _
    split at h
    · rename_i hc
      split at h
      · rename_i hours t hhours
        split at h
        · rename_i minutes rest' hminutes
          split at h
          · obtain rfl := Option.some.inj h
            obtain ⟨hs, rfl, hdigits, htwo⟩ := exists_digits_of_exactly hhours
            obtain ⟨ms, rfl, hms, -⟩ := exists_digits_of_exactly hminutes
            have hne : hs ≠ [] := List.ne_nil_of_length_eq_add_one htwo
            exact ⟨c :: hs ++ ':' :: ms, by simp, .offset hc hdigits hne hms⟩
          · cases h
        · cases h
      · cases h
    · cases h
  · cases h

/-- An item that is read takes a front of the text. -/
lemma exists_takes {item : Item} (h : item.read? m s = some (m', rest)) :
    ∃ used, s = used ++ rest ∧ item.Takes used := by
  unfold read? at h
  split at h
  · -- a number, after white space
    obtain ⟨⟨n, t⟩, hread, hmap⟩ := Option.map_eq_some_iff.1 h
    obtain ⟨-, rfl⟩ := Prod.mk.inj hmap
    obtain ⟨sign, ds, htrim, hsign, hds, hne⟩ := exists_of_partNumber? hread
    refine ⟨s.takeWhile Text.isWhite ++ sign ++ ds, ?_, .number
      (fun c hc => List.mem_takeWhile_imp hc) hsign hds hne⟩
    rw [List.append_assoc, List.append_assoc, ← List.append_assoc sign, ← htrim]
    exact List.takeWhile_append_dropWhile.symm
  · obtain ⟨⟨n, t⟩, hread, hmap⟩ := Option.map_eq_some_iff.1 h
    obtain ⟨-, rfl⟩ := Prod.mk.inj hmap
    obtain ⟨ds, hs, hds, rfl⟩ := exists_digits_of_exactly hread
    exact ⟨ds, hs, .exact hds⟩
  · split at h
    · split at h
      · rename_i hc
        obtain ⟨-, rfl⟩ := Prod.mk.inj (Option.some.inj h)
        exact ⟨[_], rfl, .oneOf hc⟩
      · cases h
    · cases h
  · obtain ⟨-, rfl⟩ := Prod.mk.inj (Option.some.inj h)
    exact ⟨s.takeWhile Text.isWhite, List.takeWhile_append_dropWhile.symm,
      .blank fun c hc => List.mem_takeWhile_imp hc⟩
  · split at h
    · rename_i r
      simp only at h
      split at h
      · cases h
      · obtain ⟨-, rfl⟩ := Prod.mk.inj (Option.some.inj h)
        exact ⟨'.' :: (Text.digitRun r).1, by rw [List.cons_append, Text.digitRun_append],
          .fraction fun c hc => List.mem_takeWhile_imp hc⟩
    · obtain ⟨-, rfl⟩ := Prod.mk.inj (Option.some.inj h)
      exact ⟨[], rfl, .whole⟩
  · obtain ⟨t, hread, hmap⟩ := Option.map_eq_some_iff.1 h
    obtain ⟨-, rfl⟩ := Prod.mk.inj hmap
    exact exists_of_afterOffset? hread

end Item

namespace Notation

/-- The texts that the items of a notation take, one after the other. -/
inductive Takes : Notation → List Char → Prop
  /-- No item takes the empty text. -/
  | nil : Takes [] []
  /-- The first item takes a front and the others take the rest. -/
  | cons {item : Item} {items : Notation} {used rest : List Char} (h : item.Takes used)
      (hrest : Takes items rest) : Takes (item :: items) (used ++ rest)

lemma takes_of_moment? {items : Notation} {m m' : Moment} {s : List Char}
    (h : moment? items m s = some m') : items.Takes s := by
  induction items generalizing m s with
  | nil =>
    rw [moment?] at h
    split at h
    · rename_i hs
      exact hs ▸ .nil
    · cases h
  | cons item items ih =>
    rw [moment?] at h
    split at h
    · rename_i hread
      obtain ⟨used, rfl, hused⟩ := Item.exists_takes hread
      exact .cons hused (ih h)
    · cases h

end Notation

/-! ## No comma -/

/-- Whether an item may be a comma. -/
def Item.namesComma : Item → Bool
  | .oneOf chars => chars.contains ','
  | _ => false

lemma Item.Takes.comma_not_mem {item : Item} {used : List Char} (h : item.Takes used)
    (hitem : item.namesComma = false) : ',' ∉ used := by
  cases h with
  | number hw hsign hds hne =>
    rcases hsign with rfl | rfl | rfl <;> simp [hw.not_mem, hds.not_mem, show
      Text.isWhite ',' = false by decide]
  | exact hds => exact hds.not_mem rfl
  | oneOf h =>
    intro hc
    obtain rfl := List.mem_singleton.1 hc
    simp [namesComma, h] at hitem
  | blank hw => exact hw.not_mem (by decide)
  | whole => exact List.not_mem_nil
  | fraction hds => simp [hds.not_mem]
  | greenwich h => rcases h with rfl | rfl <;> decide
  | offset hc hhours _ hminutes =>
    rcases hc with rfl | rfl | rfl <;> simp [hhours.not_mem, hminutes.not_mem]

lemma Notation.Takes.comma_not_mem {items : Notation} {s : List Char} (h : items.Takes s)
    (hitems : ∀ item ∈ items, item.namesComma = false) : ',' ∉ s := by
  induction h with
  | nil => exact List.not_mem_nil
  | cons h _ ih =>
    rw [List.mem_append, not_or]
    exact ⟨h.comma_not_mem (hitems _ List.mem_cons_self),
      ih fun item hitem => hitems item (List.mem_cons_of_mem _ hitem)⟩

/-! ## No hyphen in spaces -/

namespace DateRange

variable {c d : Char} {s t : List Char}

/-- The separator of bounds reaches over a character in front only when a hyphen follows it. -/
lemma separator_skip (hd : d ≠ '-') (h : boundSeparator <:+: c :: d :: s) :
    boundSeparator <:+: d :: s := by
  rcases List.infix_cons_iff.1 h with hp | h
  · exact absurd (List.cons_prefix_cons.1 (List.cons_prefix_cons.1 hp).2).1.symm hd
  · exact h

/-- The separator of bounds does not reach over a sign with a digit after it. -/
lemma separator_skip_sign (hd : d.isDigit = true) (h : boundSeparator <:+: c :: t ++ d :: s)
    (ht : t.length = 1) : boundSeparator <:+: d :: s := by
  obtain ⟨x, rfl⟩ := List.length_eq_one_iff.1 ht
  have hhyphen : d ≠ '-' := by rintro rfl; cases hd
  have hspace : ' ' ≠ d := by rintro rfl; cases hd
  rcases List.infix_cons_iff.1 h with hp | h
  · exact absurd (List.cons_prefix_cons.1 (List.cons_prefix_cons.1
      (List.cons_prefix_cons.1 hp).2).2).1 hspace
  · exact separator_skip hhyphen h

lemma separator_skip_digits (hds : Text.Digits t) (hd : d.isDigit = true)
    (h : boundSeparator <:+: d :: (t ++ s)) :
    ∃ e, e.isDigit = true ∧ boundSeparator <:+: e :: s := by
  induction t generalizing d with
  | nil => exact ⟨d, hd, h⟩
  | cons x t ih =>
    have hx : x.isDigit = true := hds x List.mem_cons_self
    have hhyphen : x ≠ '-' := by rintro rfl; cases hx
    exact ih (fun y hy => hds y (List.mem_cons_of_mem _ hy)) hx (separator_skip hhyphen h)

lemma separator_skip_list (ht : '-' ∉ t) (h : boundSeparator <:+: c :: (t ++ s)) :
    ∃ e, boundSeparator <:+: e :: s := by
  induction t generalizing c with
  | nil => exact ⟨c, h⟩
  | cons x t ih =>
    obtain ⟨hx, ht⟩ := not_or.1 (mt List.mem_cons.2 ht)
    exact ih ht (separator_skip (Ne.symm hx) h)

end DateRange

namespace Notation

open DateRange

/-- Whether a notation takes a hyphen only right after a digit, signs aside.  The first argument
tells whether a digit was taken last. -/
def hyphensAfterDigits : Bool → Notation → Bool
  | _, [] => true
  | afterDigit, .oneOf chars :: items =>
    (afterDigit || !chars.contains '-') && hyphensAfterDigits false items
  | _, .number _ :: items => hyphensAfterDigits true items
  | _, .exact _ width :: items => width != 0 && hyphensAfterDigits true items
  | _, _ :: items => hyphensAfterDigits false items

/-- No separator of bounds starts in what a notation takes, nor at the character before it. -/
lemma Takes.not_infix {items : Notation} {s : List Char} (h : items.Takes s) {b : Bool}
    (hitems : hyphensAfterDigits b items = true) {u : List Char} (hu : Text.White u)
    {c : Char} (hc : b = true → c.isDigit = true) :
    ¬ boundSeparator <:+: c :: (s ++ u) := by
  induction h generalizing b c with
  | nil =>
    intro hsep
    have hhyphen : '-' ∉ u := hu.not_mem (by decide)
    obtain ⟨e, he⟩ := separator_skip_list (s := []) hhyphen (by simpa using hsep)
    exact absurd he.length_le (by simp [boundSeparator])
  | @cons item items used rest hused hrest ih =>
    intro hsep
    rw [List.append_assoc] at hsep
    cases hused with
    | @number part w sign ds hw hsign hds hne =>
      obtain ⟨x, ds, rfl⟩ := List.exists_cons_of_ne_nil hne
      have hx : x.isDigit = true := hds x List.mem_cons_self
      have hhyphen : x ≠ '-' := by rintro rfl; cases hx
      rw [List.append_assoc, List.append_assoc] at hsep
      obtain ⟨e, he⟩ := separator_skip_list (hw.not_mem (by decide)) hsep
      have hdigit : boundSeparator <:+: x :: (ds ++ (rest ++ u)) := by
        rcases hsign with rfl | rfl | rfl
        · exact separator_skip hhyphen he
        · exact separator_skip_sign (t := ['-']) hx he rfl
        · exact separator_skip_sign (t := ['+']) hx he rfl
      obtain ⟨y, hy, hlast⟩ :=
        separator_skip_digits (fun z hz => hds z (List.mem_cons_of_mem _ hz)) hx hdigit
      exact ih (b := true) hitems (fun _ => hy) hlast
    | @exact part ds hds =>
      rw [hyphensAfterDigits, Bool.and_eq_true, bne_iff_ne, Ne, List.length_eq_zero_iff] at hitems
      obtain ⟨x, ds, rfl⟩ := List.exists_cons_of_ne_nil hitems.1
      have hx : x.isDigit = true := hds x List.mem_cons_self
      have hhyphen : x ≠ '-' := by rintro rfl; cases hx
      have hrest : Text.Digits ds := fun z hz => hds z (List.mem_cons_of_mem _ hz)
      obtain ⟨y, hy, hlast⟩ := separator_skip_digits hrest hx (separator_skip hhyphen hsep)
      exact ih (b := true) hitems.2 (fun _ => hy) hlast
    | @oneOf chars x hx =>
      rw [hyphensAfterDigits, Bool.and_eq_true, Bool.or_eq_true] at hitems
      have hnext : boundSeparator <:+: x :: (rest ++ u) := by
        rcases List.infix_cons_iff.1 hsep with hp | hsep
        · -- the separator would start right before this character, which then is a hyphen
          obtain ⟨hspace, hp⟩ := List.cons_prefix_cons.1 hp
          obtain ⟨rfl, -⟩ := List.cons_prefix_cons.1 hp
          rcases hitems.1 with hdigit | hno
          · rw [← hspace] at hc
            exact absurd (hc hdigit) (by decide)
          · simp [hx] at hno
        · exact hsep
      exact ih (b := false) hitems.2 (fun h => by cases h) hnext
    | blank hw =>
      obtain ⟨e, he⟩ := separator_skip_list (hw.not_mem (by decide)) hsep
      exact ih (b := false) hitems (fun h => by cases h) he
    | whole => exact ih (b := false) hitems (fun h => by cases h) hsep
    | @fraction ds hds =>
      have hhyphen : '-' ∉ '.' :: ds := by simp [hds.not_mem]
      obtain ⟨e, he⟩ := separator_skip_list hhyphen hsep
      exact ih (b := false) hitems (fun h => by cases h) he
    | @greenwich x hx =>
      have hhyphen : x ≠ '-' := by rcases hx with rfl | rfl <;> decide
      exact ih (b := false) hitems (fun h => by cases h) (separator_skip hhyphen hsep)
    | @offset x hours minutes _ hhours hne hminutes =>
      obtain ⟨a, hs, rfl⟩ := List.exists_cons_of_ne_nil hne
      have ha : a.isDigit = true := hhours a List.mem_cons_self
      have hhs : Text.Digits hs := fun y hy => hhours y (List.mem_cons_of_mem _ hy)
      have hhyphen : '-' ∉ hs ++ ':' :: minutes := by simp [hhs.not_mem, hminutes.not_mem]
      have hdigit := separator_skip_sign (t := [x]) (s := (hs ++ ':' :: minutes) ++ (rest ++ u)) ha
        (by simpa using hsep) rfl
      obtain ⟨e, he⟩ := separator_skip_list hhyphen hdigit
      exact ih (b := false) hitems (fun h => by cases h) he

end Notation

/-! ## No date before a hyphen -/

/-- The item takes a number. -/
def Item.IsNumber (item : Item) : Prop :=
  (∃ part, item = .number part) ∨ ∃ part width, item = .exact part width

lemma Item.Takes.point_not_mem {item : Item} {used : List Char} (h : item.Takes used)
    (hitem : item.IsNumber) : '.' ∉ used := by
  rcases hitem with ⟨part, rfl⟩ | ⟨part, width, rfl⟩
  · cases h with
    | number hw hsign hds hne =>
      have hpoint : Text.isWhite '.' = false := by decide
      rcases hsign with rfl | rfl | rfl <;> simp [hw.not_mem, hds.not_mem, hpoint]
  · cases h with
    | exact hds => exact hds.not_mem rfl

namespace Notation

/-- Every notation but the one with points starts with the year and a hyphen. -/
lemma eq_pointed_or_year {items : Notation} (h : items ∈ all) : items = pointed
    ∨ ∃ item more, items = item :: .oneOf ['-'] :: more ∧ item.IsNumber := by
  simp only [all, List.mem_cons, List.not_mem_nil, or_false] at h
  rcases h with rfl | rfl | rfl | rfl | rfl | rfl
  · exact .inr ⟨_, _, rfl, .inl ⟨_, rfl⟩⟩
  · exact .inr ⟨_, _, rfl, .inr ⟨_, _, rfl⟩⟩
  · exact .inr ⟨_, _, rfl, .inl ⟨_, rfl⟩⟩
  · exact .inr ⟨_, _, rfl, .inl ⟨_, rfl⟩⟩
  · exact .inr ⟨_, _, rfl, .inl ⟨_, rfl⟩⟩
  · exact .inl rfl

lemma Takes.exists_hyphen {item : Item} {more : Notation} {s : List Char}
    (h : Takes (item :: .oneOf ['-'] :: more) s) :
    ∃ used rest, item.Takes used ∧ s = used ++ '-' :: rest := by
  cases h with
  | @cons _ _ used _ hused h =>
    cases h with
    | @cons _ _ hyphen rest hhyphen h =>
      cases hhyphen with
      | oneOf hc =>
        obtain rfl := List.mem_singleton.1 hc
        exact ⟨used, rest, hused, rfl⟩

/-- The text of a date with points: two points, and the year after them. -/
lemma Takes.exists_points {s : List Char} (h : Takes pointed s) :
    ∃ a b year, s = a ++ '.' :: (b ++ '.' :: year) ∧ '.' ∉ a ∧ '.' ∉ b
      ∧ (Item.number .year).Takes year := by
  cases h with
  | @cons _ _ a _ ha h =>
    cases h with
    | cons hpoint h =>
      cases hpoint with
      | oneOf hc =>
        obtain rfl := List.mem_singleton.1 hc
        cases h with
        | @cons _ _ b _ hb h =>
          cases h with
          | cons hpoint h =>
            cases hpoint with
            | oneOf hc =>
              obtain rfl := List.mem_singleton.1 hc
              cases h with
              | @cons _ _ year _ hyear h =>
                cases h
                exact ⟨a, b, year, by simp, ha.point_not_mem (.inl ⟨_, rfl⟩),
                  hb.point_not_mem (.inl ⟨_, rfl⟩), hyear⟩

end Notation

lemma Item.Takes.exists_digit {part : Part} {used : List Char}
    (h : (Item.number part).Takes used) : ∃ c ∈ used, c.isDigit = true := by
  cases h with
  | @number part w sign ds hw hsign hds hne =>
    obtain ⟨c, hc⟩ := List.exists_mem_of_ne_nil ds hne
    exact ⟨c, List.mem_append_right _ hc, hds c hc⟩

/-- In the text of a year a hyphen stands after white space only, so no digit comes before it. -/
lemma Item.Takes.not_digit_before_hyphen {year : List Char} (h : (Item.number .year).Takes year)
    {u before after : List Char} (hu : Text.White u) (heq : year ++ u = before ++ '-' :: after)
    (hbefore : '-' ∉ before) {c : Char} (hc : c.isDigit = true) : c ∉ before := by
  intro hmem
  cases h with
  | @number part w sign ds hw hsign hds hne =>
    have hno : '-' ∉ w ∧ '-' ∉ ds ∧ '-' ∉ u :=
      ⟨hw.not_mem (by decide), hds.not_mem rfl, hu.not_mem (by decide)⟩
    have hhyphen : '-' ∈ w ++ sign ++ ds ++ u := by rw [heq]; simp
    have hminus : sign = ['-'] := by
      rcases hsign with rfl | rfl | rfl
      · simp [hno] at hhyphen
      · rfl
      · simp [hno] at hhyphen
    subst hminus
    obtain ⟨rfl, -⟩ := Text.append_cons_inj_of_first (s := ds ++ u) (t := after) hno.1 hbefore
      (by simpa using heq)
    have hwhite := hw c hmem
    rw [Text.isWhite_of_isDigit hc] at hwhite
    cases hwhite

namespace Date

variable {s : List Char} {d : Date}

lemma ofChars_eq_ok_iff : ofChars s = .ok d ↔ ofTrimmed? (Text.trim s) = some d := by
  rw [ofChars]
  cases ofTrimmed? (Text.trim s) <;> simp

lemma exists_takes (h : ofChars s = .ok d) : ∃ items ∈ Notation.all, items.Takes (Text.trim s) := by
  obtain ⟨items, hitems, hdate⟩ := List.exists_of_findSome?_eq_some (ofChars_eq_ok_iff.1 h)
  obtain ⟨m, hm, -⟩ := Option.bind_eq_some_iff.1 hdate
  exact ⟨items, hitems, Notation.takes_of_moment? hm⟩

/-- The text of a date holds no comma. -/
lemma comma_not_mem (h : ofChars s = .ok d) : ',' ∉ s := by
  obtain ⟨items, hitems, htakes⟩ := exists_takes h
  obtain ⟨w, u, hw, hu, hs⟩ := Text.exists_surrounded s
  have hall : ∀ items ∈ Notation.all, ∀ item ∈ items, item.namesComma = false := by decide
  have htrim : ',' ∉ Text.trim s := htakes.comma_not_mem (hall items hitems)
  rw [hs, List.mem_append, List.mem_append, not_or, not_or]
  exact ⟨⟨hw.not_mem (by decide), htrim⟩, hu.not_mem (by decide)⟩

/-- The text of a date does not hold the separator of bounds. -/
lemma separator_not_infix (h : ofChars s = .ok d) : ¬ DateRange.boundSeparator <:+: s := by
  obtain ⟨items, hitems, htakes⟩ := exists_takes h
  obtain ⟨w, u, hw, hu, hs⟩ := Text.exists_surrounded s
  have hall : ∀ items ∈ Notation.all, items.hyphensAfterDigits false = true := by decide
  intro hsep
  rw [hs, List.append_assoc] at hsep
  obtain ⟨e, he⟩ := DateRange.separator_skip_list (c := 'T') (hw.not_mem (by decide))
    (List.infix_cons_iff.2 (.inr hsep))
  exact htakes.not_infix (hall items hitems) hu (fun h => by cases h) he

/-- What stands before the first hyphen of the text of a date is no date. -/
lemma not_date_before_hyphen (h : ofChars s = .ok d) (hmem : '-' ∈ s) (other : Date) :
    ofChars (s.takeWhile (· ≠ '-')) ≠ .ok other := by
  intro hother
  obtain ⟨t, hcut⟩ := Text.exists_cut hmem
  have hno := Text.not_mem_takeWhile s '-'
  obtain ⟨items, hitems, htakes⟩ := exists_takes h
  obtain ⟨short, hshort, hfront⟩ := exists_takes hother
  obtain ⟨w, u, hw, hu, hs⟩ := Text.exists_surrounded s
  obtain ⟨w', u', hw', hu', hs'⟩ := Text.exists_surrounded (s.takeWhile (· ≠ '-'))
  -- the front has no hyphen, so it is written with points
  obtain rfl : short = Notation.pointed := by
    rcases Notation.eq_pointed_or_year hshort with hpointed | ⟨item, more, rfl, -⟩
    · exact hpointed
    · obtain ⟨used, rest, -, htrim⟩ := hfront.exists_hyphen
      rw [hs', htrim] at hno
      simp at hno
  obtain ⟨a', b', year', htrim', ha', hb', hyear'⟩ := hfront.exists_points
  rcases Notation.eq_pointed_or_year hitems with rfl | ⟨item, more, rfl, hnumber⟩
  · -- both texts have the same points, and the year of the whole text goes on after a digit
    obtain ⟨a, b, year, htrim, ha, hb, hyear⟩ := htakes.exists_points
    obtain ⟨c, hc, hdigit⟩ := hyear'.exists_digit
    have hpoint : ∀ {v : List Char}, Text.White v → '.' ∉ v := fun hv => hv.not_mem (by decide)
    have hwhole : (w ++ a) ++ '.' :: (b ++ '.' :: (year ++ u))
        = (w' ++ a') ++ '.' :: (b' ++ '.' :: ((year' ++ u') ++ '-' :: t)) := by
      rw [hs', htrim'] at hcut
      rw [htrim, hcut] at hs
      simpa using hs.symm
    obtain ⟨-, hrest⟩ := Text.append_cons_inj_of_first (by simp [hpoint hw, ha])
      (by simp [hpoint hw', ha']) hwhole
    obtain ⟨-, hlast⟩ := Text.append_cons_inj_of_first hb hb' hrest
    refine hyear.not_digit_before_hyphen hu hlast (fun hh => hno ?_) hdigit
      (List.mem_append_left _ hc)
    rw [hs', htrim']
    simp only [List.mem_append, List.mem_cons] at hh ⊢
    tauto
  · -- the whole text starts with the year and a hyphen, so no point comes before the hyphen
    obtain ⟨used, rest, hused, htrim⟩ := htakes.exists_hyphen
    have hfront' : s.takeWhile (· ≠ '-') = (w ++ used).takeWhile (· ≠ '-') := by
      rw [hs, htrim, List.append_assoc, List.append_assoc, List.cons_append, ← List.append_assoc,
        Text.takeWhile_append_cons]
    have hpoint : '.' ∈ w ++ used := by
      refine (List.takeWhile_sublist (· ≠ '-')).mem ?_
      rw [← hfront', hs', htrim']
      simp
    rcases List.mem_append.1 hpoint with hpoint | hpoint
    · exact hw.not_mem (by decide) hpoint
    · exact hused.point_not_mem hnumber hpoint

end Date

end GridRules
