import GridRules.Proofs.Date.DateText
import Mathlib.Data.List.Induction

/-!
# Bounds of an entry

An entry of a cell is a day, or two bounds with a hyphen in spaces between them
(`DateRange.ofEntry_eq_ok_iff`).  Neither white space around an entry nor the comma after it has a
say in its first bound: an entry that is read is read without the white space as well
(`DateRange.ofEntry_of_surrounded`), and what stands before the first separator of a whole text is,
up to the first comma, what stands before the first separator of the first entry
(`DateRange.takeWhile_beforeBound`).
-/

namespace GridRules

namespace Date

lemma ofChars_nil (d : Date) : ofChars [] ≠ .ok d := by
  have hnil : ofChars [] = .error (.invalidDate "") := rfl
  rw [hnil]
  exact fun h => by cases h

lemma ofChars_cons {c : Char} (hc : Text.isWhite c = true) (s : List Char) :
    ofChars (c :: s) = ofChars s := by
  rw [ofChars, ofChars, Text.trim_cons hc]

lemma ofChars_concat {c : Char} (hc : Text.isWhite c = true) (s : List Char) :
    ofChars (s ++ [c]) = ofChars s := by
  rw [ofChars, ofChars, Text.trim_concat hc]

end Date

namespace DateRange

open Text (splitOnce)

variable {c : Char} {e s : List Char} {range : DateRange}

lemma splitOnce_eq_none_iff : splitOnce boundSeparator s = none ↔ ¬ boundSeparator <:+: s :=
  Text.splitOnce_eq_none_iff (by decide)

/-! ## Reading an entry -/

/-- An entry is a day, or two bounds with the separator between them. -/
lemma ofEntry_eq_ok_iff : ofEntry e = .ok range
    ↔ (¬ boundSeparator <:+: e ∧ Date.ofChars e = .ok range.first ∧ range.last = range.first)
      ∨ ∃ first last, splitOnce boundSeparator e = some (first, last)
        ∧ ¬ boundSeparator <:+: last ∧ Date.ofChars first = .ok range.first
        ∧ Date.ofChars last = .ok range.last := by
  unfold ofEntry
  rw [← splitOnce_eq_none_iff]
  split
  · rename_i hnone
    obtain ⟨first, last⟩ := range
    cases Date.ofChars e with
    | error _ => simp [hnone, Except.map]
    | ok d =>
      simp only [hnone, Except.map, Except.ok.injEq, mk.injEq, true_and, reduceCtorEq, false_and,
        exists_const, or_false]
      exact and_congr_right fun h => h ▸ eq_comm
  · rename_i first last hsome
    simp only [hsome, Option.some.injEq, Prod.mk.injEq, reduceCtorEq, false_and, false_or]
    split
    · rename_i hnone
      rw [ofBounds_eq_ok_iff]
      constructor
      · rintro ⟨hfirst, hlast⟩
        exact ⟨first, last, ⟨rfl, rfl⟩, splitOnce_eq_none_iff.1 hnone, hfirst, hlast⟩
      · rintro ⟨_, _, ⟨rfl, rfl⟩, -, hfirst, hlast⟩
        exact ⟨hfirst, hlast⟩
    · rename_i hthree
      constructor
      · intro h
        cases h
      · rintro ⟨_, _, ⟨rfl, rfl⟩, hnone, -⟩
        rw [splitOnce_eq_none_iff.2 hnone] at hthree
        cases hthree

/-- White space in front of an entry is no part of its first bound. -/
lemma ofEntry_of_cons (hc : Text.isWhite c = true) (h : ofEntry (c :: e) = .ok range) :
    ofEntry e = .ok range := by
  rw [ofEntry_eq_ok_iff] at h ⊢
  rcases h with ⟨hsep, hday, hsame⟩ | ⟨first, last, hcut, hlast, hfirst⟩
  · rw [Date.ofChars_cons hc] at hday
    exact .inl ⟨fun hsep' => hsep (List.infix_cons_iff.2 (.inr hsep')), hday, hsame⟩
  · by_cases hp : boundSeparator <+: c :: e
    · -- the first bound would be empty
      rw [Text.splitOnce_here hp] at hcut
      obtain ⟨rfl, -⟩ := Prod.mk.inj (Option.some.inj hcut)
      exact absurd hfirst.1 (Date.ofChars_nil _)
    · rw [Text.splitOnce_later hp] at hcut
      obtain ⟨⟨first', last'⟩, hcut', hmk⟩ := Option.map_eq_some_iff.1 hcut
      obtain ⟨rfl, rfl⟩ := Prod.mk.inj hmk
      rw [Date.ofChars_cons hc] at hfirst
      exact .inr ⟨first', last', hcut', hlast, hfirst⟩

/-- White space after an entry is no part of its last bound. -/
lemma ofEntry_of_concat (hc : Text.isWhite c = true) (h : ofEntry (e ++ [c]) = .ok range) :
    ofEntry e = .ok range := by
  rw [ofEntry_eq_ok_iff] at h ⊢
  rcases h with ⟨hsep, hday, hsame⟩ | ⟨first, last, hcut, hlast, hfirst, hlastDay⟩
  · rw [Date.ofChars_concat hc] at hday
    exact .inl ⟨fun hsep' => hsep (hsep'.trans (List.infix_append_of_infix_left List.infix_rfl)),
      hday, hsame⟩
  · cases hcut' : splitOnce boundSeparator e with
    | none =>
      -- the separator would end at the last character, with no last bound after it
      have heq := Text.eq_of_splitOnce hcut
      have hnil : last = [] := by
        by_contra hne
        rw [← List.dropLast_concat_getLast hne, ← List.append_assoc] at heq
        have hinfix : boundSeparator <:+: e := by
          rw [List.append_inj_left' heq rfl]
          exact ⟨first, last.dropLast, rfl⟩
        exact splitOnce_eq_none_iff.1 hcut' hinfix
      rw [hnil] at hlastDay
      exact absurd hlastDay (Date.ofChars_nil _)
    | some cut =>
      obtain ⟨first', last'⟩ := cut
      rw [Text.splitOnce_append hcut' [c]] at hcut
      obtain ⟨rfl, rfl⟩ := Prod.mk.inj (Option.some.inj hcut)
      rw [Date.ofChars_concat hc] at hlastDay
      exact .inr ⟨first', last', rfl, fun hsep => hlast (hsep.trans
        (List.prefix_append last' [c]).isInfix), hfirst, hlastDay⟩

/-- White space around an entry is no part of its bounds. -/
lemma ofEntry_of_surrounded {w u : List Char} (hw : Text.White w) (hu : Text.White u)
    (h : ofEntry (w ++ e ++ u) = .ok range) : ofEntry e = .ok range := by
  have hend : ofEntry (w ++ e) = .ok range := by
    induction u using List.reverseRecOn with
    | nil => rwa [List.append_nil] at h
    | append_singleton u c ih =>
      obtain ⟨hu, hc⟩ := List.forall_mem_append.1 hu
      rw [← List.append_assoc] at h
      exact ih hu (ofEntry_of_concat (hc c List.mem_cons_self) h)
  clear h
  induction w with
  | nil => exact hend
  | cons c w ih =>
    obtain ⟨hc, hw⟩ := List.forall_mem_cons.1 hw
    exact ih hw (ofEntry_of_cons hc hend)

/-! ## The first bound -/

/-- The text before the first separator of bounds, or all of it when there is none. -/
def beforeBound (s : List Char) : List Char :=
  match splitOnce boundSeparator s with
  | some (head, _) => head
  | none => s

lemma beforeBound_of_no_separator (h : ¬ boundSeparator <:+: s) : beforeBound s = s := by
  rw [beforeBound, splitOnce_eq_none_iff.2 h]

lemma beforeBound_here (h : boundSeparator <+: c :: s) : beforeBound (c :: s) = [] := by
  rw [beforeBound, Text.splitOnce_here h]

lemma beforeBound_later (h : ¬ boundSeparator <+: c :: s) :
    beforeBound (c :: s) = c :: beforeBound s := by
  rw [beforeBound, beforeBound, Text.splitOnce_later h]
  cases splitOnce boundSeparator s <;> rfl

/-- The first bound is looked for in the first entry or in the whole text: it is the same. -/
lemma takeWhile_beforeBound (s : List Char) :
    (beforeBound s).takeWhile (· ≠ ',') = beforeBound (s.takeWhile (· ≠ ',')) := by
  induction s with
  | nil => rfl
  | cons c s ih =>
    by_cases hp : boundSeparator <+: c :: s
    · -- the separator holds no comma, so the first entry starts with it too
      have hentry : boundSeparator <+: (c :: s).takeWhile (· ≠ ',') := by
        have hno : ',' ∉ boundSeparator := by decide
        obtain ⟨t, ht⟩ := hp
        rw [← ht, Text.takeWhile_append_of_not_mem hno]
        exact List.prefix_append _ _
      obtain ⟨d, t, hd⟩ := List.exists_cons_of_ne_nil
        (hentry.ne_nil (by decide))
      rw [hd] at hentry ⊢
      rw [beforeBound_here hp, beforeBound_here hentry, List.takeWhile_nil]
    · rw [beforeBound_later hp]
      by_cases hc : c = ','
      · rw [List.takeWhile_cons_of_neg (by simpa using hc),
          List.takeWhile_cons_of_neg (by simpa using hc)]
        rfl
      · rw [List.takeWhile_cons_of_pos (by simpa using hc),
          List.takeWhile_cons_of_pos (by simpa using hc), beforeBound_later, ih]
        rw [← List.takeWhile_cons_of_pos (by simpa using hc)]
        exact fun hentry => hp (hentry.trans (List.takeWhile_prefix _))

lemma first_of_ofEntry (h : ofEntry e = .ok range) :
    Date.ofChars (beforeBound e) = .ok range.first := by
  rcases ofEntry_eq_ok_iff.1 h with ⟨hsep, hday, -⟩ | ⟨first, last, hcut, -, hfirst, -⟩
  · rwa [beforeBound_of_no_separator hsep]
  · rwa [beforeBound, hcut]

end DateRange

end GridRules
