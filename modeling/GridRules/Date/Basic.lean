import GridRules.Text.Digits

/-!
# Dates

Days of the proleptic Gregorian calendar, in years from minus 262143 to 262142, with their order and
their text.
-/

namespace GridRules

/-- Whether a year has 366 days. -/
def isLeapYear (year : Int) : Bool := year % 4 == 0 && (year % 100 != 0 || year % 400 == 0)

/-- The number of days of a month, the months being counted from one. -/
def daysInMonth (year : Int) (month : Nat) : Nat :=
  if month = 2 then (if isLeapYear year then 29 else 28)
  else if month = 4 ∨ month = 6 ∨ month = 9 ∨ month = 11 then 30
  else 31

/-- Whether a year, a month and a day of the month name a day of the calendar. -/
def IsDay (year : Int) (month day : Nat) : Prop :=
  (-262143 ≤ year ∧ year ≤ 262142) ∧ (1 ≤ month ∧ month ≤ 12)
    ∧ (1 ≤ day ∧ day ≤ daysInMonth year month)

instance (year : Int) (month day : Nat) : Decidable (IsDay year month day) :=
  inferInstanceAs (Decidable (_ ∧ _ ∧ _))

/-- A day. -/
structure Date where
  /-- The year; the year before the year one is zero. -/
  year : Int
  /-- The month, from one to twelve. -/
  month : Nat
  /-- The day of the month, from one. -/
  day : Nat
  /-- The three name a day of the calendar. -/
  isDay : IsDay year month day
deriving DecidableEq

namespace Date

/-- The day of a year, a month and a day of the month. -/
def ofParts? (year : Int) (month day : Nat) : Option Date :=
  if h : IsDay year month day then some ⟨year, month, day, h⟩ else none

/-- The place of a day in time: days in order have places in order, with gaps after short months. -/
def place (d : Date) : Int := (d.year * 12 + d.month) * 31 + d.day

/-- The chronological order. -/
def order (a b : Date) : Ordering := compare a.place b.place

instance : LE Date := ⟨fun a b => a.place ≤ b.place⟩

instance (a b : Date) : Decidable (a ≤ b) := inferInstanceAs (Decidable (a.place ≤ b.place))

/-- The text of a year: four digits, and a sign in front outside the years zero to 9999. -/
def yearText (year : Int) : List Char :=
  let ds := Text.padded 4 year.natAbs
  if year < 0 then '-' :: ds else if 9999 < year then '+' :: ds else ds

/-- The text of a day: year, month and day with hyphens between them. -/
def chars (d : Date) : List Char :=
  yearText d.year ++ '-' :: Text.padded 2 d.month ++ '-' :: Text.padded 2 d.day

/-- The text of a day. -/
def toText (d : Date) : String := String.ofList d.chars

theorem daysInMonth_le (year : Int) (month : Nat) : daysInMonth year month ≤ 31 := by
  unfold daysInMonth
  split
  · split <;> omega
  · split <;> omega

/-- Different days have different places. -/
theorem place_inj {a b : Date} (h : a.place = b.place) : a = b := by
  obtain ⟨y, m, d, hd⟩ := a
  obtain ⟨y', m', d', hd'⟩ := b
  have h1 := daysInMonth_le y m
  have h2 := daysInMonth_le y' m'
  simp only [place] at h
  simp only [IsDay] at hd hd'
  obtain ⟨rfl, rfl, rfl⟩ : y = y' ∧ m = m' ∧ d = d' := by omega
  rfl

end Date

end GridRules
