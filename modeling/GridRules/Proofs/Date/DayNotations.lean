import GridRules.Proofs.Date.DateText
import GridRules.Proofs.Date.Printed
import GridRules.Proofs.Text.Digits

/-!
# Notations of one day

The texts in which a day with a year of four digits may be written (`Date.Writes`), and that each is
read as this day (`Date.ofChars_of_isWritten`).

The notations are tried one after the other, so there are two things to show.  No notation reads
another day: one that starts with the hyphens of the day leaves the day alone after that
(`Notation.moment?_keepsDay`), the one with points finds no point after two digits of a year, and
where there is no hyphen only the one with points is left.  And some notation reads the text to its
end.
-/

namespace GridRules

open Text (Digits White)

instance (w : List Char) : Decidable (White w) :=
  List.decidableBAll (fun c : Char => Text.isWhite c = true) w

/-- A time of day. -/
structure TimeOfDay where
  /-- The hour. -/
  hour : Fin 24
  /-- The minute. -/
  minute : Fin 60
  /-- The second. -/
  second : Fin 60

/-- The text of hours and minutes. -/
def clockText (hour : Fin 24) (minute : Fin 60) : List Char :=
  Text.padded 2 hour ++ ':' :: Text.padded 2 minute

/-- The text of a time of day up to its second. -/
def TimeOfDay.chars (time : TimeOfDay) : List Char :=
  clockText time.hour time.minute ++ ':' :: Text.padded 2 time.second

/-- A text is an optional fraction of a second, with at least one digit after its point. -/
inductive WritesFraction : List Char → Prop
  /-- There is no fraction. -/
  | none : WritesFraction []
  /-- A point and digits. -/
  | digits {ds : List Char} (hds : Digits ds) (hne : ds ≠ []) : WritesFraction ('.' :: ds)

/-- A text is an offset from Greenwich. -/
inductive WritesOffset : List Char → Prop
  /-- The letter of Greenwich time. -/
  | greenwich : WritesOffset ['Z']
  /-- An offset of less than a day, ahead of Greenwich or behind it. -/
  | signed {sign : Char} (hsign : sign = '+' ∨ sign = '-') (hours : Fin 24) (minutes : Fin 60) :
    WritesOffset (sign :: clockText hours minutes)

lemma WritesOffset.head {offset : List Char} (h : WritesOffset offset) :
    ∀ c ∈ offset.head?, c.isDigit = false ∧ c ≠ '.' := by
  cases h with
  | greenwich => simp
  | signed hsign => rcases hsign with rfl | rfl <;> simp

namespace Date

/-- The text of a day with points, for a year of four digits. -/
def pointedChars (d : Date) : List Char :=
  Text.padded 2 d.day ++ '.' :: (Text.padded 2 d.month ++ '.' :: Text.padded 4 d.year.toNat)

/-- A text writes a day, with a time of that day and the offset of its place or without. -/
inductive Writes (d : Date) : List Char → Prop
  /-- Year, month and day. -/
  | day : d.Writes d.chars
  /-- Day, month and year with points. -/
  | pointed : d.Writes d.pointedChars
  /-- A day with an hour and a minute. -/
  | minute (hour : Fin 24) (minute : Fin 60) : d.Writes (d.chars ++ 'T' :: clockText hour minute)
  /-- A day with a time up to the second and its fraction. -/
  | second (time : TimeOfDay) {fraction : List Char} (hfraction : WritesFraction fraction) :
    d.Writes (d.chars ++ 'T' :: (time.chars ++ fraction))
  /-- A day with a time and an offset. -/
  | offset (time : TimeOfDay) {fraction offset : List Char} (hfraction : WritesFraction fraction)
      (hoffset : WritesOffset offset) :
    d.Writes (d.chars ++ 'T' :: (time.chars ++ (fraction ++ offset)))
  /-- A day and a time with a blank between them. -/
  | spaced (time : TimeOfDay) : d.Writes (d.chars ++ ' ' :: time.chars)

/-- A text writes a day, white space around it aside. -/
def IsWritten (d : Date) (s : List Char) : Prop :=
  ∃ w t u, White w ∧ White u ∧ d.Writes t ∧ s = w ++ t ++ u

/-- The year of a day has four digits and no sign. -/
def HasPlainYear (d : Date) : Prop := 0 ≤ d.year ∧ d.year ≤ 9999

end Date

/-! ## Items after the day -/

namespace Item

/-- Whether an item is a part of the day. -/
def setsDay : Item → Bool
  | .number part | .exact part _ => part = .year || part = .month || part = .day
  | _ => false

variable {item : Item} {part : Part} {m m' : Moment} {s rest fraction offset : List Char}
  {n width : ℕ}

lemma set_keepsDay (hpart : (part = .year || part = .month || part = .day) = false) (n : ℤ) :
    (m.set part n).year = m.year ∧ (m.set part n).month = m.month
      ∧ (m.set part n).day = m.day := by
  cases part with
  | year | month | day => cases hpart
  | hour | minute | second => exact ⟨rfl, rfl, rfl⟩

/-- An item that is no part of the day leaves the day as it is. -/
lemma read?_keepsDay (hitem : item.setsDay = false) (h : item.read? m s = some (m', rest)) :
    m'.year = m.year ∧ m'.month = m.month ∧ m'.day = m.day := by
  unfold read? at h
  split at h
  · obtain ⟨⟨n, t⟩, -, hmk⟩ := Option.map_eq_some_iff.1 h
    obtain ⟨rfl, -⟩ := Prod.mk.inj hmk
    exact set_keepsDay hitem n
  · obtain ⟨⟨n, t⟩, -, hmk⟩ := Option.map_eq_some_iff.1 h
    obtain ⟨rfl, -⟩ := Prod.mk.inj hmk
    exact set_keepsDay hitem n
  · split at h
    · split at h
      · obtain ⟨rfl, -⟩ := Prod.mk.inj (Option.some.inj h)
        exact ⟨rfl, rfl, rfl⟩
      · cases h
    · cases h
  · obtain ⟨rfl, -⟩ := Prod.mk.inj (Option.some.inj h)
    exact ⟨rfl, rfl, rfl⟩
  · split at h
    · dsimp only at h
      split at h
      · cases h
      · obtain ⟨rfl, -⟩ := Prod.mk.inj (Option.some.inj h)
        exact ⟨rfl, rfl, rfl⟩
    · obtain ⟨rfl, -⟩ := Prod.mk.inj (Option.some.inj h)
      exact ⟨rfl, rfl, rfl⟩
  · obtain ⟨t, -, hmk⟩ := Option.map_eq_some_iff.1 h
    obtain ⟨rfl, -⟩ := Prod.mk.inj hmk
    exact ⟨rfl, rfl, rfl⟩

lemma digitsExactly?_padded (hwidth : 0 < width) (hn : n < Nat.pow 10 width) (rest : List Char) :
    digitsExactly? width (Text.padded width n ++ rest) = some (n, rest) := by
  have hlength := Text.length_padded hwidth hn
  have hdigits : ∀ c ∈ Text.padded width n, c.isDigit = true :=
    fun _ => Text.isDigit_of_mem_padded
  have htake : (Text.padded width n ++ rest).take width = Text.padded width n :=
    List.take_left' hlength
  have hdrop : (Text.padded width n ++ rest).drop width = rest := List.drop_left' hlength
  simp only [digitsExactly?, htake, hdrop, List.takeWhile_eq_self_iff.2 hdigits, hlength, if_true,
    Text.ofDigits_padded]

lemma read?_exact (hwidth : 0 < width) (hn : n < Nat.pow 10 width) (part : Part) (m : Moment)
    (rest : List Char) :
    (exact part width).read? m (Text.padded width n ++ rest) = some (m.set part n, rest) := by
  rw [read?, digitsExactly?_padded hwidth hn]
  rfl

lemma read?_plainYear (hn : n < Nat.pow 10 4) (m : Moment) (rest : List Char) :
    (number .year).read? m (Text.padded 4 n ++ rest) = some (m.set .year n, rest) := by
  rw [read?, Date.trimStart_printed (padded_ne_nil (by decide))
    fun _ => Date.isPrinted_of_mem_padded, partNumber?_padded hn]
  rfl

lemma read?_oneOf {c : Char} {chars : List Char} (h : c ∈ chars) (m : Moment) (rest : List Char) :
    (oneOf chars).read? m (c :: rest) = some (m, rest) := if_pos h

/-- A fraction is read to its last digit. -/
lemma read?_fraction (h : WritesFraction fraction)
    (hrest : ∀ c ∈ rest.head?, c.isDigit = false ∧ c ≠ '.') (m : Moment) :
    Item.fraction.read? m (fraction ++ rest) = some (m, rest) := by
  cases h with
  | none =>
    rw [List.nil_append]
    unfold read?
    dsimp only
    split
    · exact absurd rfl (hrest '.' rfl).2
    · rfl
  | digits hds hne =>
    have hrun := Text.digitRun_of_digits hds fun c hc => (hrest c hc).1
    simp only [read?, List.cons_append, hrun, if_neg hne]

/-- After an offset of less than a day nothing of it is left. -/
lemma read?_offset (h : WritesOffset offset) (m : Moment) :
    Item.offset.read? m offset = some (m, []) := by
  cases h with
  | greenwich => rfl
  | @signed sign hsign hours minutes =>
    have hhours : digitsExactly? 2 (Text.padded 2 hours ++ ':' :: Text.padded 2 minutes)
        = some ((hours : ℕ), ':' :: Text.padded 2 minutes) :=
      digitsExactly?_padded (by decide) (hours.isLt.trans (by decide)) _
    have hminutes : digitsExactly? 2 (Text.padded 2 minutes) = some ((minutes : ℕ), []) := by
      have hread := digitsExactly?_padded (show 0 < 2 by decide)
        (minutes.isLt.trans (by decide)) []
      rwa [List.append_nil] at hread
    have hbelow : (hours : ℕ) < 24 ∧ (minutes : ℕ) < 60 := ⟨hours.isLt, minutes.isLt⟩
    rcases hsign with rfl | rfl <;>
      simp [read?, afterOffset?, clockText, hhours, hminutes, hbelow]

end Item

namespace Notation

variable {items : Notation} {m m' : Moment} {s : List Char}

/-- Items that are no parts of the day leave the day as it is. -/
lemma moment?_keepsDay (hitems : ∀ item ∈ items, item.setsDay = false)
    (h : moment? items m s = some m') :
    m'.year = m.year ∧ m'.month = m.month ∧ m'.day = m.day := by
  induction items generalizing m s with
  | nil =>
    rw [moment?] at h
    split at h
    · obtain rfl := Option.some.inj h
      exact ⟨rfl, rfl, rfl⟩
    · cases h
  | cons item items ih =>
    obtain ⟨hitem, hitems⟩ := List.forall_mem_cons.1 hitems
    rw [moment?] at h
    split at h
    · rename_i next rest hread
      obtain ⟨hyear, hmonth, hday⟩ := Item.read?_keepsDay hitem hread
      obtain ⟨hyear', hmonth', hday'⟩ := ih hitems h
      exact ⟨hyear'.trans hyear, hmonth'.trans hmonth, hday'.trans hday⟩
    · cases h

/-! ## What each notation reads -/

/-- The items of a day with hyphens, every number in full width. -/
def exactDay : Notation :=
  [.exact .year 4, .oneOf ['-'], .exact .month 2, .oneOf ['-'], .exact .day 2]

lemma yearText_eq {d : Date} (hd : d.HasPlainYear) :
    Date.yearText d.year = Text.padded 4 d.year.toNat := by
  obtain ⟨hlow, hhigh⟩ := hd
  have habs : d.year.natAbs = d.year.toNat := by omega
  rw [Date.yearText, if_neg (by omega), if_neg (by omega), habs]

lemma toNat_year_lt {d : Date} (hd : d.HasPlainYear) : d.year.toNat < 10000 := by
  have := hd.2
  omega

lemma month_lt (d : Date) : d.month < 100 := by
  have := d.isDay.2.1
  omega

lemma day_lt (d : Date) : d.day < 100 := by
  have := d.isDay.2.2
  have := Date.daysInMonth_le d.year d.month
  omega

/-- The items in full width take exactly the text of a day off the front of a text, too. -/
lemma moment?_exactDay_append {d : Date} (hd : d.HasPlainYear) (items : Notation)
    (rest : List Char) : moment? (exactDay ++ items) .start (d.chars ++ rest)
      = moment? items ⟨d.year, d.month, d.day, 0, 0, 0⟩ rest := by
  have hchars : d.chars ++ rest = Text.padded 4 d.year.toNat
      ++ '-' :: (Text.padded 2 d.month ++ '-' :: (Text.padded 2 d.day ++ rest)) := by
    simp only [Date.chars, yearText_eq hd, List.append_assoc, List.cons_append]
  have hyear : ((d.year.toNat : ℕ) : ℤ) = d.year := Int.toNat_of_nonneg hd.1
  rw [hchars]
  calc moment? (exactDay ++ items) .start _
      = moment? _ (Moment.start.set .year d.year.toNat) _ :=
        moment?_cons (Item.read?_exact (by decide) (toNat_year_lt hd) _ _ _) _
    _ = moment? _ _ _ := moment?_cons (Item.read?_hyphen _ _) _
    _ = moment? _ _ _ := moment?_cons (Item.read?_exact (by decide) (month_lt d) _ _ _) _
    _ = moment? _ _ _ := moment?_cons (Item.read?_hyphen _ _) _
    _ = moment? _ _ rest := moment?_cons (Item.read?_exact (by decide) (day_lt d) _ _ _) _
    _ = _ := by rw [hyear]; rfl

/-- The items of a time up to the second, every number in full width. -/
def exactTime : Notation :=
  [.exact .hour 2, .oneOf [':'], .exact .minute 2, .oneOf [':'], .exact .second 2]

lemma withOffset_eq :
    withOffset = exactDay ++ .oneOf ['T', 't', ' '] :: (exactTime ++ [.fraction, .offset]) := rfl

lemma fin_lt_hundred {k : ℕ} (hk : k ≤ 100) (n : Fin k) : (n : ℕ) < 100 := n.isLt.trans_le hk

lemma moment?_time_append (hour : Fin 24) (minute : Fin 60) (items : Notation) (m : Moment)
    (rest : List Char) : moment? (time ++ items) m (clockText hour minute ++ rest)
      = moment? items ((m.set .hour hour).set .minute minute) rest := by
  have hchars : clockText hour minute ++ rest
      = Text.padded 2 hour ++ ':' :: (Text.padded 2 minute ++ rest) := by
    rw [clockText, List.append_assoc, List.cons_append]
  rw [hchars]
  calc moment? (time ++ items) m _
      = moment? _ _ _ :=
        moment?_cons (Item.read?_part (by decide) (fin_lt_hundred (by decide) hour) _ _) _
    _ = moment? _ _ _ := moment?_cons (Item.read?_oneOf (by decide) _ _) _
    _ = moment? _ _ rest :=
        moment?_cons (Item.read?_part (by decide) (fin_lt_hundred (by decide) minute) _ _) _

/-- The moment of a day and a time. -/
def momentOf (d : Date) (time : TimeOfDay) : Moment :=
  ⟨d.year, d.month, d.day, time.hour, time.minute, time.second⟩

/-- The items of a time up to the second take exactly its text. -/
lemma moment?_seconds_append (d : Date) (timeOfDay : TimeOfDay) (items : Notation)
    (rest : List Char) : moment? (time ++ (seconds ++ items)) ⟨d.year, d.month, d.day, 0, 0, 0⟩
      (timeOfDay.chars ++ rest) = moment? items (momentOf d timeOfDay) rest := by
  rw [TimeOfDay.chars, List.append_assoc, List.cons_append, moment?_time_append]
  calc moment? (seconds ++ items) _ _
      = moment? _ _ _ := moment?_cons (Item.read?_oneOf (by decide) _ _) _
    _ = moment? items _ rest := moment?_cons
        (Item.read?_part (by decide) (fin_lt_hundred (by decide) timeOfDay.second) _ _) _

lemma moment?_exactTime_append (d : Date) (timeOfDay : TimeOfDay) (items : Notation)
    (rest : List Char) : moment? (exactTime ++ items) ⟨d.year, d.month, d.day, 0, 0, 0⟩
      (timeOfDay.chars ++ rest) = moment? items (momentOf d timeOfDay) rest := by
  have hchars : timeOfDay.chars ++ rest = Text.padded 2 timeOfDay.hour
      ++ ':' :: (Text.padded 2 timeOfDay.minute
        ++ ':' :: (Text.padded 2 timeOfDay.second ++ rest)) := by
    simp only [TimeOfDay.chars, clockText, List.append_assoc, List.cons_append]
  have hlt : ∀ {k : ℕ}, k ≤ 100 → ∀ n : Fin k, (n : ℕ) < Nat.pow 10 2 :=
    fun hk n => fin_lt_hundred hk n
  rw [hchars]
  calc moment? (exactTime ++ items) _ _
      = moment? _ _ _ := moment?_cons (Item.read?_exact (by decide) (hlt (by decide) _) _ _ _) _
    _ = moment? _ _ _ := moment?_cons (Item.read?_oneOf (by decide) _ _) _
    _ = moment? _ _ _ := moment?_cons (Item.read?_exact (by decide) (hlt (by decide) _) _ _ _) _
    _ = moment? _ _ _ := moment?_cons (Item.read?_oneOf (by decide) _ _) _
    _ = moment? items _ rest :=
        moment?_cons (Item.read?_exact (by decide) (hlt (by decide) _) _ _ _) _

lemma moment?_pointedChars {d : Date} (hd : d.HasPlainYear) :
    moment? pointed .start d.pointedChars = some ⟨d.year, d.month, d.day, 0, 0, 0⟩ := by
  have hyear := Item.read?_plainYear (toNat_year_lt hd)
    ((Moment.start.set .day d.day).set .month d.month) []
  rw [List.append_nil, Int.toNat_of_nonneg hd.1] at hyear
  calc moment? pointed .start d.pointedChars
      = moment? _ _ _ := moment?_cons (Item.read?_part (by decide) (day_lt d) _ _) _
    _ = moment? _ _ _ := moment?_cons (Item.read?_oneOf (by decide) _ _) _
    _ = moment? _ _ _ := moment?_cons (Item.read?_part (by decide) (month_lt d) _ _) _
    _ = moment? _ _ _ := moment?_cons (Item.read?_oneOf (by decide) _ _) _
    _ = moment? [] _ [] := moment?_cons hyear _
    _ = _ := rfl

/-! ## No notation reads another day -/

lemma date?_momentOf (d : Date) (time : TimeOfDay) : (momentOf d time).date? = some d := by
  have hvalid : (time.hour : ℕ) < 24 ∧ (time.minute : ℕ) < 60 ∧ (time.second : ℕ) ≤ 60 :=
    ⟨time.hour.isLt, time.minute.isLt, time.second.isLt.le⟩
  rw [momentOf, Moment.date?, if_pos hvalid]
  exact dif_pos d.isDay

/-- Items after the day cannot change it: the text writes this day or nothing. -/
lemma date?_of_day_first {d : Date} {items more : Notation} {s rest : List Char}
    (hread : moment? items .start s = moment? more ⟨d.year, d.month, d.day, 0, 0, 0⟩ rest)
    (hmore : ∀ item ∈ more, item.setsDay = false) :
    date? items s = none ∨ date? items s = some d := by
  rw [date?, hread]
  cases hm : moment? more ⟨d.year, d.month, d.day, 0, 0, 0⟩ rest with
  | none => exact .inl rfl
  | some m =>
    obtain ⟨hyear, hmonth, hday⟩ := moment?_keepsDay hmore hm
    rw [Option.bind_some, Moment.date?, hyear, hmonth, hday]
    split
    · exact .inr (dif_pos d.isDay)
    · exact .inl rfl

/-- Every notation but the one with points starts with the items of a day with hyphens. -/
lemma eq_pointed_or_day {items : Notation} (h : items ∈ all) : items = pointed
    ∨ ∃ more, (items = day ++ more ∨ items = exactDay ++ more)
      ∧ ∀ item ∈ more, item.setsDay = false := by
  simp only [all, List.mem_cons, List.not_mem_nil, or_false] at h
  rcases h with rfl | rfl | rfl | rfl | rfl | rfl
  · exact .inr ⟨[], .inl rfl, by decide⟩
  · exact .inr ⟨_, .inr withOffset_eq, by decide⟩
  · exact .inr ⟨.oneOf ['T'] :: (time ++ seconds ++ [.fraction]), .inl rfl, by decide⟩
  · exact .inr ⟨.oneOf ['T'] :: time, .inl rfl, by decide⟩
  · exact .inr ⟨.blank :: (time ++ seconds), .inl rfl, by decide⟩
  · exact .inl rfl

/-- The notation with points takes two digits of a year of four, and finds no point after them. -/
lemma date?_pointed_chars {d : Date} (hd : d.HasPlainYear) (rest : List Char) :
    date? pointed (d.chars ++ rest) = none := by
  have hlength := Text.length_padded (show 0 < 4 by decide) (toNat_year_lt hd)
  have hdigits : ∀ c ∈ Text.padded 4 d.year.toNat, c.isDigit = true :=
    fun _ => Text.isDigit_of_mem_padded
  rw [Date.chars, yearText_eq hd]
  generalize Text.padded 4 d.year.toNat = year at hlength hdigits
  obtain ⟨a, b, c, more, rfl⟩ : ∃ a b c more, year = a :: b :: c :: more := by
    rcases year with _ | ⟨a, _ | ⟨b, _ | ⟨c, more⟩⟩⟩
    · simp at hlength
    · simp at hlength
    · simp at hlength
    · exact ⟨a, b, c, more, rfl⟩
  simp only [List.forall_mem_cons] at hdigits
  obtain ⟨ha, hb, hc, -⟩ := hdigits
  have hpoint : c ≠ '.' := by rintro rfl; cases hc
  simp [date?, pointed, moment?, Item.read?, Item.partNumber?, Item.digitsUpTo?,
    Text.trimStart_cons (Text.isWhite_of_isDigit ha), ha, hb, hpoint]

/-- A text that starts with a day with hyphens is read as this day or not at all. -/
lemma date?_hyphens_cases {d : Date} (hd : d.HasPlainYear) {items : Notation} (h : items ∈ all)
    (rest : List Char) :
    date? items (d.chars ++ rest) = none ∨ date? items (d.chars ++ rest) = some d := by
  rcases eq_pointed_or_day h with rfl | ⟨more, rfl | rfl, hmore⟩
  · exact .inl (date?_pointed_chars hd rest)
  · exact date?_of_day_first (moment?_day_append d more rest) hmore
  · exact date?_of_day_first (moment?_exactDay_append hd more rest) hmore

lemma date?_pointedChars {d : Date} (hd : d.HasPlainYear) :
    date? pointed d.pointedChars = some d := by
  rw [date?, moment?_pointedChars hd]
  exact dif_pos d.isDay

lemma hyphen_not_mem_pointedChars (d : Date) : '-' ∉ d.pointedChars := by
  have hno : ∀ width n, '-' ∉ Text.padded width n := fun _ _ hmem => by
    cases Text.isDigit_of_mem_padded hmem
  simp [Date.pointedChars, hno]

/-- A text without a hyphen is read by the notation with points alone. -/
lemma date?_pointedChars_cases {d : Date} (hd : d.HasPlainYear) {items : Notation}
    (h : items ∈ all) :
    date? items d.pointedChars = none ∨ date? items d.pointedChars = some d := by
  rcases eq_pointed_or_year h with rfl | ⟨item, more, rfl, -⟩
  · exact .inr (date?_pointedChars hd)
  · refine .inl (Option.eq_none_iff_forall_ne_some.2 fun e he => ?_)
    obtain ⟨m, hm, -⟩ := Option.bind_eq_some_iff.1 he
    obtain ⟨used, rest, -, hcut⟩ := (takes_of_moment? hm).exists_hyphen
    exact hyphen_not_mem_pointedChars d (by rw [hcut]; simp)

end Notation

/-! ## Texts without white space -/

/-- Nothing is trimmed from a text without white space at its ends. -/
lemma Text.trim_of_parts {a b : List Char} (ha : ∀ c ∈ a, Text.isWhite c = false)
    (hane : a ≠ []) (mid : List Char) (hb : ∀ c ∈ b, Text.isWhite c = false) (hbne : b ≠ []) :
    Text.trim (a ++ mid ++ b) = a ++ mid ++ b := by
  obtain ⟨c, a, rfl⟩ := List.exists_cons_of_ne_nil hane
  obtain ⟨e, b', hlast⟩ := List.exists_cons_of_ne_nil (List.reverse_ne_nil_iff.2 hbne)
  have he : Text.isWhite e = false := hb e (List.mem_reverse.1 (hlast ▸ List.mem_cons_self))
  have hstart : Text.trimStart (c :: a ++ mid ++ b) = c :: a ++ mid ++ b :=
    Text.trimStart_cons (ha c List.mem_cons_self)
  have hend : Text.trimStart (c :: a ++ mid ++ b).reverse = (c :: a ++ mid ++ b).reverse := by
    rw [List.reverse_append, hlast]
    exact Text.trimStart_cons he
  rw [Text.trim, hstart]
  exact (congrArg List.reverse hend).trans (List.reverse_reverse _)

namespace Date

variable {d : Date} {s fraction offset : List Char}

lemma not_white_padded (width n : ℕ) : ∀ c ∈ Text.padded width n, Text.isWhite c = false :=
  fun _ hc => Text.isWhite_of_isDigit (Text.isDigit_of_mem_padded hc)

lemma not_white_clockText (hour : Fin 24) (minute : Fin 60) :
    ∀ c ∈ clockText hour minute, Text.isWhite c = false :=
  List.forall_mem_append.2 ⟨not_white_padded _ _,
    List.forall_mem_cons.2 ⟨by decide, not_white_padded _ _⟩⟩

lemma not_white_time (time : TimeOfDay) : ∀ c ∈ time.chars, Text.isWhite c = false :=
  List.forall_mem_append.2 ⟨not_white_clockText _ _,
    List.forall_mem_cons.2 ⟨by decide, not_white_padded _ _⟩⟩

lemma not_white_fraction (h : WritesFraction fraction) :
    ∀ c ∈ fraction, Text.isWhite c = false := by
  cases h with
  | none => simp
  | digits hds =>
    exact List.forall_mem_cons.2 ⟨by decide, fun c hc => Text.isWhite_of_isDigit (hds c hc)⟩

lemma not_white_offset (h : WritesOffset offset) : ∀ c ∈ offset, Text.isWhite c = false := by
  cases h with
  | greenwich => simp; decide
  | signed hsign hours minutes =>
    refine List.forall_mem_cons.2 ⟨?_, not_white_clockText _ _⟩
    rcases hsign with rfl | rfl <;> decide

lemma not_white_chars (d : Date) : ∀ c ∈ d.chars, Text.isWhite c = false :=
  fun _ hc => (isPrinted_of_mem_chars hc).isWhite

lemma not_white_pointedChars (d : Date) : ∀ c ∈ d.pointedChars, Text.isWhite c = false :=
  List.forall_mem_append.2 ⟨not_white_padded _ _, List.forall_mem_cons.2 ⟨by decide,
    List.forall_mem_append.2 ⟨not_white_padded _ _,
      List.forall_mem_cons.2 ⟨by decide, not_white_padded _ _⟩⟩⟩⟩

/-! ## Some notation reads the text -/

lemma date?_minute (d : Date) (hour : Fin 24) (minute : Fin 60) :
    Notation.date? (Notation.day ++ .oneOf ['T'] :: Notation.time)
      (d.chars ++ 'T' :: clockText hour minute) = some d := by
  have hread : Notation.moment? (Notation.day ++ .oneOf ['T'] :: Notation.time) .start
      (d.chars ++ 'T' :: clockText hour minute)
        = some (Notation.momentOf d ⟨hour, minute, 0⟩) := by
    have htime := Notation.moment?_time_append hour minute [] ⟨d.year, d.month, d.day, 0, 0, 0⟩ []
    rw [List.append_nil, List.append_nil] at htime
    rw [Notation.moment?_day_append, Notation.moment?_cons (Item.read?_oneOf (by decide) _ _),
      htime]
    rfl
  rw [Notation.date?, hread]
  exact Notation.date?_momentOf d ⟨hour, minute, 0⟩

lemma date?_second (d : Date) (time : TimeOfDay) (hfraction : WritesFraction fraction) :
    Notation.date? (Notation.day ++ .oneOf ['T'] :: (Notation.time ++ (Notation.seconds
      ++ [.fraction]))) (d.chars ++ 'T' :: (time.chars ++ fraction)) = some d := by
  have hlast : Item.fraction.read? (Notation.momentOf d time) fraction
      = some (Notation.momentOf d time, []) := by
    have hread := Item.read?_fraction hfraction (by simp : ∀ c ∈ [].head?, _)
      (Notation.momentOf d time)
    rwa [List.append_nil] at hread
  rw [Notation.date?, Notation.moment?_day_append,
    Notation.moment?_cons (Item.read?_oneOf (by decide) _ _), Notation.moment?_seconds_append,
    Notation.moment?_cons hlast]
  exact Notation.date?_momentOf d time

lemma date?_spaced (d : Date) (time : TimeOfDay) :
    Notation.date? (Notation.day ++ .blank :: (Notation.time ++ Notation.seconds))
      (d.chars ++ ' ' :: time.chars) = some d := by
  have hblank : Item.blank.read? ⟨d.year, d.month, d.day, 0, 0, 0⟩ (' ' :: time.chars)
      = some (⟨d.year, d.month, d.day, 0, 0, 0⟩, time.chars) :=
    congrArg (fun s => some (_, s)) (Text.trimStart_of_forall (not_white_time time))
  have hread := Notation.moment?_seconds_append d time [] []
  simp only [List.append_nil] at hread
  rw [Notation.date?, Notation.moment?_day_append, Notation.moment?_cons hblank, hread]
  exact Notation.date?_momentOf d time

lemma date?_offset (hd : d.HasPlainYear) (time : TimeOfDay) (hfraction : WritesFraction fraction)
    (hoffset : WritesOffset offset) :
    Notation.date? Notation.withOffset (d.chars ++ 'T' :: (time.chars ++ (fraction ++ offset)))
      = some d := by
  have hlast := Item.read?_fraction hfraction hoffset.head (Notation.momentOf d time)
  rw [Notation.date?, Notation.withOffset_eq, Notation.moment?_exactDay_append hd,
    Notation.moment?_cons (Item.read?_oneOf (by decide) _ _), Notation.moment?_exactTime_append,
    Notation.moment?_cons hlast, Notation.moment?_cons (Item.read?_offset hoffset _)]
  exact Notation.date?_momentOf d time

lemma Writes.exists_date? (hd : d.HasPlainYear) (h : d.Writes s) :
    ∃ items ∈ Notation.all, Notation.date? items s = some d := by
  cases h with
  | day => exact ⟨Notation.day, by decide, Notation.date?_chars d⟩
  | pointed => exact ⟨Notation.pointed, by decide, Notation.date?_pointedChars hd⟩
  | minute hour minute => exact ⟨_, by decide, date?_minute d hour minute⟩
  | second time hfraction => exact ⟨_, by decide, date?_second d time hfraction⟩
  | offset time hfraction hoffset =>
    exact ⟨_, by decide, date?_offset hd time hfraction hoffset⟩
  | spaced time => exact ⟨_, by decide, date?_spaced d time⟩

lemma Writes.date?_cases (hd : d.HasPlainYear) (h : d.Writes s) {items : Notation}
    (hitems : items ∈ Notation.all) :
    Notation.date? items s = none ∨ Notation.date? items s = some d := by
  cases h with
  | day =>
    have hcases := Notation.date?_hyphens_cases hd hitems []
    rwa [List.append_nil] at hcases
  | pointed => exact Notation.date?_pointedChars_cases hd hitems
  | minute | second | offset | spaced => exact Notation.date?_hyphens_cases hd hitems _

/-- When each notation reads one day or nothing, so do all of them together. -/
lemma ofTrimmed?_cases (h : ∀ items ∈ Notation.all,
      Notation.date? items s = none ∨ Notation.date? items s = some d) :
    ofTrimmed? s = none ∨ ofTrimmed? s = some d := by
  cases hfound : ofTrimmed? s with
  | none => exact .inl rfl
  | some e =>
    obtain ⟨items, hitems, hread⟩ := List.exists_of_findSome?_eq_some hfound
    rcases h items hitems with hnone | hsome
    · rw [hnone] at hread
      cases hread
    · exact .inr (by rw [← hread, hsome])

/-- Each text that writes a day is read as this day. -/
lemma Writes.ofTrimmed?_eq (hd : d.HasPlainYear) (h : d.Writes s) : ofTrimmed? s = some d := by
  obtain ⟨items, hitems, hread⟩ := h.exists_date? hd
  refine (ofTrimmed?_cases fun _ => h.date?_cases hd).resolve_left fun hnone => ?_
  rw [ofTrimmed?, List.findSome?_eq_none_iff] at hnone
  rw [hnone items hitems] at hread
  cases hread

/-! ## White space around the text -/

lemma Writes.trim_eq (h : d.Writes s) : Text.trim s = s := by
  have hday := not_white_chars d
  have hletter : ∀ {t : List Char}, (∀ c ∈ t, Text.isWhite c = false) →
      ∀ c ∈ d.chars ++ 'T' :: t, Text.isWhite c = false := fun ht =>
    List.forall_mem_append.2 ⟨hday, List.forall_mem_cons.2 ⟨by decide, ht⟩⟩
  cases h with
  | day => exact Text.trim_of_forall hday
  | pointed => exact Text.trim_of_forall (not_white_pointedChars d)
  | minute hour minute => exact Text.trim_of_forall (hletter (not_white_clockText _ _))
  | second time hfraction =>
    exact Text.trim_of_forall (hletter (List.forall_mem_append.2
      ⟨not_white_time time, not_white_fraction hfraction⟩))
  | offset time hfraction hoffset =>
    exact Text.trim_of_forall (hletter (List.forall_mem_append.2 ⟨not_white_time time,
      List.forall_mem_append.2 ⟨not_white_fraction hfraction, not_white_offset hoffset⟩⟩))
  | spaced time =>
    have htime : time.chars ≠ [] := by simp [TimeOfDay.chars]
    have hne : d.chars ≠ [] := by simp [Date.chars]
    rw [List.append_cons]
    exact Text.trim_of_parts hday hne [' '] (not_white_time time) htime

/-- In every notation a day is read as this day. -/
lemma ofChars_of_isWritten (hd : d.HasPlainYear) (h : d.IsWritten s) : ofChars s = .ok d := by
  obtain ⟨w, t, u, hw, hu, ht, rfl⟩ := h
  rw [ofChars_eq_ok_iff, Text.trim_surrounded hw hu, ht.trim_eq]
  exact ht.ofTrimmed?_eq hd

end Date

end GridRules
