import GridRules.Text.CaseTables

/-!
# Lower case

The full lower-case form of a text: every character by its own mapping, except the capital sigma,
which becomes a final sigma at the end of a word.
-/

namespace GridRules.Text

/-- Membership in a list of ranges of code points. -/
def inRanges (ranges : List (Nat × Nat)) (c : Char) : Bool :=
  ranges.any fun (low, high) => low ≤ c.toNat && c.toNat ≤ high

/-- The lower-case form of a character by the table of runs; a character in no run is its own. -/
def lowerByRuns (c : Char) : Char :=
  match lowerCaseRuns.find? fun (low, high, step, _) =>
      low ≤ c.toNat && c.toNat ≤ high && (c.toNat - low) % step == 0 with
  | some (_, _, _, offset) => Char.ofNat (c.toNat + offset).toNat
  | none => c

/-- The lower-case form of a character on its own: one character, or two for the capital I with a
dot. -/
def lowerChar (c : Char) : List Char :=
  if c.toNat < 0x80 then [c.toLower]
  else if c.toNat = 0x130 then ['i', '\u0307']
  else [lowerByRuns c]

/-- The first character that is not case-ignorable is a cased one. -/
def startsCased (s : List Char) : Bool :=
  match s.dropWhile (inRanges caseIgnorableRanges) with
  | c :: _ => inRanges casedRanges c
  | [] => false

/-- The lower-case form of a text that follows `before`, which is given last character first. A
capital sigma is final when a cased character comes before it and none comes after. -/
def lowerAfter (before : List Char) : List Char → List Char
  | [] => []
  | c :: r =>
    if c = 'Σ' then
      (if startsCased before && !startsCased r then 'ς' else 'σ') :: lowerAfter (c :: before) r
    else lowerChar c ++ lowerAfter (c :: before) r

/-- The lower-case form of a text. -/
def lowercase (s : String) : String := String.ofList (lowerAfter [] s.toList)

example : lowercase "ΣΊΣΥΦΟΣ" = "σίσυφος" := by decide +kernel

example : lowercase "İx" = "i̇x" := by decide +kernel

end GridRules.Text
