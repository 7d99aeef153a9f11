import GridRules.Proofs.Date.FilterRuns

/-!
# Entries of a cell

The ranges of a cell stand in entries, which are read one by one: the parts of a text between its
commas, the items of a list, or a value that is neither as one entry (`DateRange.entriesIn`).  The
strict reading of a cell collects the results of its entries and the lenient reading keeps the
successes among them, so both are told by the list of entries (`DateRange.results_eq`).

A comma between two texts joins their lists of entries (`DateRange.entries_append`).  All else
follows from it and from what collecting does to lists that are joined: no entry hides another one.
-/

namespace GridRules

/-! ## Lists of results -/

section Results

variable {ε α : Type} {results : List (Except ε α)} {e : ε} {as : List α}

/-- A list is collected when all of its results are successes. -/
lemma collect_eq_ok_iff : collect results = .ok as ↔ results = as.map .ok := by
  induction results generalizing as with
  | nil => cases as <;> simp [collect]
  | cons result rest ih =>
    cases result with
    | error e => cases as <;> simp [collect]
    | ok a =>
      rw [collect]
      constructor
      · intro h
        cases hrest : collect rest with
        | error e => rw [hrest] at h; cases h
        | ok bs =>
          rw [hrest] at h
          obtain rfl := Except.ok.inj h
          rw [ih.1 hrest, List.map_cons]
      · intro h
        cases as with
        | nil => cases h
        | cons b bs =>
          obtain ⟨hab, hrest⟩ := List.cons.inj h
          rw [ih.2 hrest, Except.ok.inj hab]
          rfl

/-- The error of a list is the first among its results. -/
lemma collect_eq_error_iff : collect results = .error e
    ↔ ∃ before after, results = before ++ .error e :: after
      ∧ ∀ earlier ∈ before, ∃ a, earlier = .ok a := by
  induction results with
  | nil => simp [collect]
  | cons result rest ih =>
    cases result with
    | error first =>
      rw [collect]
      constructor
      · intro h
        obtain rfl := Except.error.inj h
        exact ⟨[], rest, rfl, by simp⟩
      · rintro ⟨before, after, h, hbefore⟩
        cases before with
        | nil => rw [Except.error.inj (List.cons.inj h).1]
        | cons earlier before =>
          -- a result before the error is a success, and the first one here is none
          obtain ⟨a, rfl⟩ := hbefore earlier List.mem_cons_self
          cases (List.cons.inj h).1
    | ok a =>
      have hstep : collect (.ok a :: rest) = .error e ↔ collect rest = .error e := by
        rw [collect]
        cases collect rest <;> simp [Except.map]
      rw [hstep, ih]
      constructor
      · rintro ⟨before, after, rfl, hbefore⟩
        exact ⟨.ok a :: before, after, rfl, List.forall_mem_cons.2 ⟨⟨a, rfl⟩, hbefore⟩⟩
      · rintro ⟨before, after, h, hbefore⟩
        cases before with
        | nil => cases h
        | cons earlier before =>
          exact ⟨before, after, (List.cons.inj h).2, (List.forall_mem_cons.1 hbefore).2⟩

/-- Lists that are joined are collected one after the other. -/
lemma collect_append (results more : List (Except ε α)) :
    collect (results ++ more) = do return (← collect results) ++ (← collect more) := by
  induction results with
  | nil => cases h : collect more <;> simp [collect, h, bind, Except.bind, pure, Except.pure]
  | cons result rest ih =>
    cases result with
    | error e => rfl
    | ok a =>
      rw [List.cons_append, collect, ih, collect]
      cases collect rest <;> cases collect more <;> rfl

lemma successes_append (results more : List (Except ε α)) :
    successes (results ++ more) = successes results ++ successes more :=
  List.filterMap_append

lemma successes_of_collect (h : collect results = .ok as) : successes results = as := by
  rw [collect_eq_ok_iff.1 h, successes, List.filterMap_map]
  exact List.filterMap_some

end Results

namespace DateRange

/-! ## The entries of a cell -/

/-- An entry of a cell. -/
inductive Entry where
  /-- What stands between two commas of a text. -/
  | text (chars : List Char)
  /-- An item of a list. -/
  | item (v : Value)
  /-- A value that is neither null nor a text nor a list. -/
  | other (v : Value)
deriving DecidableEq

/-- The range of an entry. -/
def Entry.read : Entry → Except DateError DateRange
  | text chars => ofEntry chars
  | item v => ofPair v
  | other v => .error (.invalidRange v.render)

/-- The entries of a cell.  Blank parts of a text are no entries. -/
def entriesIn : Value → List Entry
  | .null => []
  | .string s => ((s.toList.splitOn ',').filter fun part => !Text.isBlank part).map .text
  | .array items => items.map .item
  | v => [.other v]

lemma results_eq (v : Value) : results v = (entriesIn v).map Entry.read := by
  cases v with
  | string s =>
    rw [entriesIn, List.map_map]
    rfl
  | array items =>
    rw [entriesIn, List.map_map]
    rfl
  | _ => rfl

lemma ofValue_eq (v : Value) : ofValue v = collect ((entriesIn v).map Entry.read) := by
  rw [ofValue, results_eq]

/-- A cell cannot be read when some entry of it cannot, and the first one of these tells why. -/
lemma ofValue_eq_error_iff {v : Value} {e : DateError} : ofValue v = .error e
    ↔ ∃ before entry after, entriesIn v = before ++ entry :: after
      ∧ (∀ earlier ∈ before, ∃ range, earlier.read = .ok range) ∧ entry.read = .error e := by
  rw [ofValue_eq, collect_eq_error_iff]
  constructor
  · rintro ⟨results, rest, h, hbefore⟩
    obtain ⟨before, more, hentries, rfl, hmore⟩ := List.map_eq_append_iff.1 h
    obtain ⟨entry, after, rfl, hentry, -⟩ := List.map_eq_cons_iff.1 hmore
    refine ⟨before, entry, after, hentries, fun earlier hmem => ?_, hentry⟩
    exact hbefore _ (List.mem_map_of_mem hmem)
  · rintro ⟨before, entry, after, hentries, hbefore, hentry⟩
    refine ⟨before.map Entry.read, after.map Entry.read, ?_, List.forall_mem_map.2 hbefore⟩
    rw [hentries, List.map_append, List.map_cons, hentry]

/-- A comma between two texts joins their entries. -/
lemma entries_append (s t : List Char) : entries (s ++ ',' :: t) = entries s ++ entries t := by
  rw [entries, List.splitOn_append_cons_self, List.filter_append]
  rfl

lemma results_joined (s t : String) :
    results (.string (s ++ "," ++ t)) = results (.string s) ++ results (.string t) := by
  have hchars : (s ++ "," ++ t).toList = s.toList ++ ',' :: t.toList := by
    rw [String.toList_append, String.toList_append, List.append_assoc]
    rfl
  rw [results, hchars, entries_append, List.map_append]
  rfl

end DateRange

/-- A filter on a day passes the rows in whose cell some range that can be read has the day. -/
lemma DateFilter.passes_of_get? {f : DateFilter} {d : Date} {row : Row} {v : Value}
    (hd : f.date = some d) (hv : row.get? f.field = some v) :
    f.passes row = (DateRange.readable v).any (·.contains d) := by
  rw [passes, hd]
  simp only [hv]

namespace DateRange

/-- The entries of a cell are independent.  Of two texts joined by a comma the readable ranges are
those of the one followed by those of the other, and strict reading gives both lists joined or the
error of the first text that cannot be read.  Where strict reading succeeds, lenient reading gives
the same ranges; it fails exactly when some entry cannot be read, with the error of the first such
entry.  A filter on a day passes a cell of two texts joined by a comma exactly when it passes a cell
of one of them. -/
theorem range_entries_are_independent :
    (∀ s t : String, readable (.string (s ++ "," ++ t))
        = readable (.string s) ++ readable (.string t))
      ∧ (∀ s t : String, ofText (s ++ "," ++ t) = do return (← ofText s) ++ (← ofText t))
      ∧ (∀ v ranges, ofValue v = .ok ranges → readable v = ranges)
      ∧ (∀ v e, ofValue v = .error e ↔ ∃ before entry after,
        entriesIn v = before ++ entry :: after
          ∧ (∀ earlier ∈ before, ∃ range, earlier.read = .ok range) ∧ entry.read = .error e)
      ∧ ∀ (f : DateFilter) (s t : String) (row rowS rowT : Row), f.isActive = true →
        row.get? f.field = some (.string (s ++ "," ++ t)) →
        rowS.get? f.field = some (.string s) → rowT.get? f.field = some (.string t) →
        (f.passes row = true ↔ f.passes rowS = true ∨ f.passes rowT = true) := by
  have hreadable : ∀ s t : String, readable (.string (s ++ "," ++ t))
      = readable (.string s) ++ readable (.string t) := by
    intro s t
    rw [readable, results_joined, successes_append]
    rfl
  refine ⟨hreadable, fun s t => ?_, fun v ranges h => successes_of_collect h,
    fun v e => ofValue_eq_error_iff, fun f s t row rowS rowT hf hrow hs ht => ?_⟩
  · exact (congrArg collect (results_joined s t)).trans (collect_append _ _)
  · obtain ⟨d, hd⟩ := Option.isSome_iff_exists.1 hf
    rw [DateFilter.passes_of_get? hd hrow, DateFilter.passes_of_get? hd hs,
      DateFilter.passes_of_get? hd ht, hreadable, List.any_append, Bool.or_eq_true]

/-- A text that cannot be read fails the strict reading of the cell, and the day after it still lets
the row pass. -/
theorem range_entries_beside_unreadable_one :
    let march : DateRange := ⟨⟨2024, 3, 1, by decide⟩, ⟨2024, 3, 15, by decide⟩⟩
    let fifth : Date := ⟨2024, 1, 5, by decide⟩
    let f : DateFilter := ⟨"runtime", none, some fifth⟩
    let row (text : String) := Row.empty.insert "runtime" (.string text)
    let unreadable := "soon,2024-03-01 - 2024-03-15"
    let day := " ,05.01.2024"
    ofValue (.string (unreadable ++ "," ++ day)) = .error (.invalidDate "soon")
      ∧ readable (.string (unreadable ++ "," ++ day)) = [march, ⟨fifth, fifth⟩]
      ∧ ofValue (.string day) = .ok [⟨fifth, fifth⟩]
      ∧ f.passes (row unreadable) = false
      ∧ f.passes (row (unreadable ++ "," ++ day)) = true := by
  intro march fifth f row unreadable day
  obtain ⟨hjoined, -, hstrict, herror, hpasses⟩ := range_entries_are_independent
  have hday : ofValue (.string day) = .ok [⟨fifth, fifth⟩] := by decide +kernel
  have hunreadable : readable (.string unreadable) = [march] := by decide +kernel
  have hpass : f.passes (row unreadable) = false := by decide +kernel
  have hsoon : ofValue (.string (unreadable ++ "," ++ day)) = .error (.invalidDate "soon") :=
    (herror _ _).2 ⟨[], .text "soon".toList, [.text "2024-03-01 - 2024-03-15".toList,
      .text "05.01.2024".toList], by decide +kernel, by simp, by decide +kernel⟩
  refine ⟨hsoon, ?_, hday, hpass, ?_⟩
  · rw [hjoined, hunreadable, hstrict _ _ hday]
    rfl
  · exact (hpasses f unreadable day _ (row unreadable) (row day) rfl rfl rfl rfl).2
      (.inr (by decide +kernel))

end DateRange

end GridRules
