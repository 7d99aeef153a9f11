import GridRules.Date.Range

/-!
# Ordering range texts

Two range texts are ordered by the first date of each. A text without a readable first date comes
before all others.
-/

namespace GridRules

/-- The longest front of a text that has exactly `bytes` bytes in UTF-8; `none` when no
front has. -/
def takeBytes? : Nat → List Char → Option (List Char)
  | 0, _ => some []
  | _ + 1, [] => none
  | n + 1, c :: r =>
    if c.utf8Size ≤ n + 1 then (takeBytes? (n + 1 - c.utf8Size) r).map (c :: ·) else none
termination_by structural _ s => s

namespace DateRange

/-- The part of a trimmed text that holds its first bound: what comes before a hyphen in spaces, the
whole text when it is a date, its first ten bytes when they are a day with hyphens, and otherwise
what comes before the first hyphen. -/
def firstBound (s : List Char) : List Char :=
  match Text.splitOnce boundSeparator s with
  | some (head, _) => head
  | none =>
    if (Date.ofTrimmed? (Text.trim s)).isSome then s
    else
      match (takeBytes? 10 s).filter fun front => (Notation.date? .day front).isSome with
      | some front => front
      | none => s.takeWhile (· ≠ '-')

/-- The first date of a range text. -/
def firstDate? (text : String) : Option Date :=
  (Date.ofChars ((firstBound (Text.trim text.toList)).takeWhile (· ≠ ','))).toOption

/-- The order of two range texts by their first dates. -/
def compareTexts (a b : String) : Ordering :=
  match firstDate? a, firstDate? b with
  | none, none => .eq
  | none, some _ => .lt
  | some _, none => .gt
  | some a, some b => a.order b

end DateRange

end GridRules
