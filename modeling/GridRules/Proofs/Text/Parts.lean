import GridRules.Text.Digits
import GridRules.Text.Split
import GridRules.Text.White
import Mathlib.Data.List.TakeWhile
import Mathlib.Tactic.Lemma

/-!
# Parts of a text

What trimming and cutting do to a text that is put together from parts.  White space at either end
does not change a trimmed text (`trim_surrounded`), and a text is its trimmed text with white space
around it (`exists_surrounded`).  A text is cut where its separator occurs first: nothing is found
exactly when the separator does not occur (`splitOnce_eq_none_iff`), and what follows a cut text
does not move the cut (`splitOnce_append`).  Parts that are joined start with the first part
(`intercalate_cons_head`).
-/

namespace GridRules.Text

variable {s t w u : List Char} {c : Char}

/-! ## White space and digits -/

/-- A text of white space alone. -/
def White (w : List Char) : Prop := ∀ c ∈ w, isWhite c = true

/-- A text of digits alone. -/
def Digits (ds : List Char) : Prop := ∀ c ∈ ds, c.isDigit = true

lemma White.not_mem (h : White w) (hc : isWhite c = false) : c ∉ w := fun hmem => by
  rw [h c hmem] at hc
  cases hc

lemma Digits.not_mem (h : Digits s) (hc : c.isDigit = false) : c ∉ s := fun hmem => by
  rw [h c hmem] at hc
  cases hc

lemma toNat_of_isDigit (h : c.isDigit = true) : 48 ≤ c.toNat ∧ c.toNat ≤ 57 := by
  simp only [Char.isDigit, Bool.and_eq_true, decide_eq_true_eq, ge_iff_le, UInt32.le_iff_toNat_le]
    at h
  exact h

lemma isWhite_of_isDigit (h : c.isDigit = true) : isWhite c = false := by
  obtain ⟨hlow, hhigh⟩ := toNat_of_isDigit h
  simp only [isWhite, Bool.or_eq_false_iff, Bool.and_eq_false_iff, decide_eq_false_iff_not,
    beq_eq_false_iff_ne]
  omega

/-- The digits at the front of a text are found where no digit follows them. -/
lemma digitRun_of_digits (hs : Digits s) (ht : ∀ c ∈ t.head?, c.isDigit = false) :
    digitRun (s ++ t) = (s, t) := by
  have hnone : t.takeWhile Char.isDigit = [] ∧ t.dropWhile Char.isDigit = t := by
    cases t with
    | nil => exact ⟨rfl, rfl⟩
    | cons c t =>
      have hc : ¬ c.isDigit = true := by simp [ht c rfl]
      exact ⟨List.takeWhile_cons_of_neg hc, List.dropWhile_cons_of_neg hc⟩
  rw [digitRun, List.takeWhile_append_of_pos hs, List.dropWhile_append_of_pos hs, hnone.1, hnone.2,
    List.append_nil]

/-! ## Trimming -/

/-- A text that starts with a character other than white space has none to trim. -/
lemma trimStart_cons (h : isWhite c = false) : trimStart (c :: s) = c :: s :=
  List.dropWhile_cons_of_neg (by simp [h])

lemma trimStart_append (h : White w) : trimStart (w ++ s) = trimStart s :=
  List.dropWhile_append_of_pos h

lemma trimEnd_append (h : White w) : trimEnd (s ++ w) = trimEnd s := by
  rw [trimEnd, List.reverse_append,
    List.dropWhile_append_of_pos fun c hc => h c (List.mem_reverse.1 hc)]
  rfl

/-- White space around a text is trimmed away. -/
lemma trim_surrounded (hw : White w) (hu : White u) : trim (w ++ s ++ u) = trim s := by
  rw [trim, List.append_assoc, trimStart_append hw, trimStart, List.dropWhile_append]
  split
  · rename_i hs
    have hblank : s.dropWhile isWhite = [] := List.isEmpty_iff.1 hs
    rw [trim, trimStart, hblank, List.dropWhile_eq_nil_iff.2 hu]
  · exact trimEnd_append hu

lemma trim_append (hw : White w) : trim (w ++ s) = trim s := by
  rw [trim, trimStart_append hw]
  rfl

lemma trim_cons (h : isWhite c = true) : trim (c :: s) = trim s := by
  rw [trim, trimStart, List.dropWhile_cons_of_pos h]
  rfl

lemma trim_concat (h : isWhite c = true) : trim (s ++ [c]) = trim s :=
  trim_surrounded (w := []) (fun _ hc => absurd hc List.not_mem_nil)
    (fun _ hc => List.mem_singleton.1 hc ▸ h)

lemma trimStart_of_forall (h : ∀ c ∈ s, isWhite c = false) : trimStart s = s := by
  cases s with
  | nil => rfl
  | cons c s => exact trimStart_cons (h c List.mem_cons_self)

/-- A text without white space is left as it is. -/
lemma trim_of_forall (h : ∀ c ∈ s, isWhite c = false) : trim s = s := by
  have hend : trimStart s.reverse = s.reverse :=
    trimStart_of_forall fun c hc => h c (List.mem_reverse.1 hc)
  rw [trim, trimStart_of_forall h]
  exact (congrArg List.reverse hend).trans (List.reverse_reverse s)

/-- What is trimmed from the front of a text is white space. -/
lemma exists_white_append_trimStart (s : List Char) : ∃ w, White w ∧ s = w ++ trimStart s :=
  ⟨s.takeWhile isWhite, fun _ hc => List.mem_takeWhile_imp hc,
    List.takeWhile_append_dropWhile.symm⟩

/-- A text is its trimmed text with white space around it. -/
lemma exists_surrounded (s : List Char) : ∃ w u, White w ∧ White u ∧ s = w ++ trim s ++ u := by
  obtain ⟨w, hw, hs⟩ := exists_white_append_trimStart s
  obtain ⟨u, hu, hend⟩ := exists_white_append_trimStart (trimStart s).reverse
  refine ⟨w, u.reverse, hw, fun c hc => hu c (List.mem_reverse.1 hc), ?_⟩
  have htrim : trim s ++ u.reverse = trimStart s :=
    calc trim s ++ u.reverse
      _ = (u ++ trimStart (trimStart s).reverse).reverse := List.reverse_append.symm
      _ = trimStart s := by rw [← hend, List.reverse_reverse]
  rw [List.append_assoc, htrim]
  exact hs

lemma head?_trim_cons (h : isWhite c = false) (s : List Char) : (trim (c :: s)).head? = some c := by
  obtain ⟨w, u, hw, hu, hs⟩ := exists_surrounded (c :: s)
  cases w with
  | cons d w => exact absurd ((List.cons.inj hs).1 ▸ List.mem_cons_self) (hw.not_mem h)
  | nil =>
    cases htrim : trim (c :: s) with
    | nil =>
      rw [htrim] at hs
      have hc : c ∈ [] ++ [] ++ u := hs ▸ List.mem_cons_self
      exact absurd hc (hu.not_mem h)
    | cons d t =>
      rw [htrim] at hs
      rw [(List.cons.inj hs).1]
      rfl

/-! ## The first occurrence of a character -/

/-- A text is cut at the first occurrence of a character. -/
lemma exists_cut (h : c ∈ s) : ∃ t, s = s.takeWhile (· ≠ c) ++ c :: t := by
  induction s with
  | nil => cases h
  | cons d s ih =>
    by_cases hd : d = c
    · subst hd
      exact ⟨s, by rw [List.takeWhile_cons_of_neg (by simp), List.nil_append]⟩
    · obtain ⟨t, ht⟩ := ih ((List.mem_cons.1 h).resolve_left (Ne.symm hd))
      exact ⟨t, by rw [List.takeWhile_cons_of_pos (by simpa using hd), List.cons_append, ← ht]⟩

lemma not_mem_takeWhile (s : List Char) (c : Char) : c ∉ s.takeWhile (· ≠ c) :=
  fun hc => by simpa using List.mem_takeWhile_imp hc

lemma takeWhile_append_cons (s : List Char) (c : Char) (t : List Char) :
    (s ++ c :: t).takeWhile (· ≠ c) = s.takeWhile (· ≠ c) := by
  induction s with
  | nil => exact List.takeWhile_cons_of_neg (by simp)
  | cons d s ih => simp only [List.cons_append, List.takeWhile_cons, ih]

lemma takeWhile_of_not_mem (h : c ∉ s) : s.takeWhile (· ≠ c) = s :=
  List.takeWhile_eq_self_iff.2 fun d hd => by simpa using fun hdc : d = c => h (hdc ▸ hd)

lemma takeWhile_comm (p q : Char → Bool) (s : List Char) :
    (s.takeWhile p).takeWhile q = (s.takeWhile q).takeWhile p := by
  rw [List.takeWhile_takeWhile, List.takeWhile_takeWhile]
  exact congrArg (List.takeWhile · s) (funext fun c => decide_eq_decide.2 and_comm)

lemma takeWhile_append_of_not_mem (h : c ∉ t) (s : List Char) :
    (t ++ s).takeWhile (· ≠ c) = t ++ s.takeWhile (· ≠ c) :=
  List.takeWhile_append_of_pos fun d hd => by simpa using fun hdc : d = c => h (hdc ▸ hd)

lemma dropWhile_of_not_mem (h : c ∉ s) : s.dropWhile (· ≠ c) = [] :=
  List.dropWhile_eq_nil_iff.2 fun d hd => by simpa using fun hdc : d = c => h (hdc ▸ hd)

lemma dropWhile_append_cons (h : c ∉ s) (t : List Char) :
    (s ++ c :: t).dropWhile (· ≠ c) = c :: t := by
  rw [List.dropWhile_append, dropWhile_of_not_mem h, List.isEmpty_nil, if_pos rfl,
    List.dropWhile_cons_of_neg (by simp)]

/-- The text up to a character that is not white has white space at its ends where the whole text
has. -/
lemma takeWhile_eq_surrounded (hc : isWhite c = false) (s : List Char) : ∃ w u, White w ∧ White u
    ∧ s.takeWhile (· ≠ c) = w ++ (trim s).takeWhile (· ≠ c) ++ u := by
  obtain ⟨w, u, hw, hu, hs⟩ := exists_surrounded s
  have hfront : s.takeWhile (· ≠ c) = w ++ (trim s ++ u).takeWhile (· ≠ c) := by
    rw [List.append_assoc] at hs
    exact (congrArg (List.takeWhile (· ≠ c)) hs).trans
      (takeWhile_append_of_not_mem (hw.not_mem hc) _)
  by_cases hmem : c ∈ trim s
  · -- the character cuts off the white space at the end
    obtain ⟨t, ht⟩ := exists_cut hmem
    refine ⟨w, [], hw, fun d hd => absurd hd List.not_mem_nil, ?_⟩
    rw [hfront, ht, List.append_assoc, List.cons_append, takeWhile_append_cons,
      takeWhile_append_cons, List.append_nil]
  · refine ⟨w, u, hw, hu, ?_⟩
    rw [hfront, takeWhile_append_of_not_mem hmem, takeWhile_of_not_mem hmem,
      takeWhile_of_not_mem (hu.not_mem hc), List.append_assoc]

/-- The first occurrence of a character is in one place only. -/
lemma append_cons_inj_of_first {a b : List Char} (ha : c ∉ a) (hb : c ∉ b)
    (h : a ++ c :: s = b ++ c :: t) : a = b ∧ s = t := by
  have hfront := congrArg (List.takeWhile (· ≠ c)) h
  rw [takeWhile_append_cons, takeWhile_append_cons, takeWhile_of_not_mem ha,
    takeWhile_of_not_mem hb] at hfront
  subst hfront
  exact ⟨rfl, (List.cons.inj (List.append_cancel_left h)).2⟩

/-! ## Cutting -/

variable {sep head tail : List Char}

lemma splitOnce_here (h : sep <+: c :: s) :
    splitOnce sep (c :: s) = some ([], (c :: s).drop sep.length) := by
  rw [splitOnce, if_pos (List.isPrefixOf_iff_prefix.2 h)]

lemma splitOnce_later (h : ¬ sep <+: c :: s) :
    splitOnce sep (c :: s) = (splitOnce sep s).map fun (head, tail) => (c :: head, tail) := by
  rw [splitOnce, if_neg (mt List.isPrefixOf_iff_prefix.1 h)]

/-- Nothing is cut exactly when the separator does not occur. -/
lemma splitOnce_eq_none_iff (hsep : sep ≠ []) : splitOnce sep s = none ↔ ¬ sep <:+: s := by
  induction s with
  | nil => simp [splitOnce, hsep]
  | cons c s ih =>
    rw [List.infix_cons_iff, not_or]
    by_cases h : sep <+: c :: s
    · simp [splitOnce_here h, h]
    · simp [splitOnce_later h, h, ih]

/-- What follows a text that is cut does not move the cut. -/
lemma splitOnce_append (h : splitOnce sep s = some (head, tail)) (t : List Char) :
    splitOnce sep (s ++ t) = some (head, tail ++ t) := by
  induction s generalizing head with
  | nil =>
    rw [splitOnce] at h
    split at h
    · obtain ⟨rfl, rfl⟩ := Prod.mk.inj (Option.some.inj h)
      rename_i hsep
      obtain rfl := List.isEmpty_iff.1 hsep
      cases t with
      | nil => rfl
      | cons c t => exact splitOnce_here List.nil_prefix
    · cases h
  | cons c s ih =>
    by_cases hp : sep <+: c :: s
    · rw [splitOnce_here hp] at h
      obtain ⟨rfl, rfl⟩ := Prod.mk.inj (Option.some.inj h)
      have hlong : sep <+: c :: (s ++ t) := hp.trans (List.prefix_append (c :: s) t)
      rw [List.cons_append, splitOnce_here hlong, ← List.cons_append,
        List.drop_append_of_le_length hp.length_le]
    · rw [splitOnce_later hp] at h
      obtain ⟨⟨before, after⟩, hcut, hmk⟩ := Option.map_eq_some_iff.1 h
      obtain ⟨rfl, rfl⟩ := Prod.mk.inj hmk
      have hnot : ¬ sep <+: c :: (s ++ t) := by
        -- the separator occurs in the rest of the text, so it is no longer than the text
        have hlength := congrArg List.length (eq_of_splitOnce hcut)
        simp only [List.length_append] at hlength
        intro hlong
        refine hp (List.prefix_of_prefix_length_le hlong (List.prefix_append (c :: s) t) ?_)
        rw [List.length_cons]
        omega
      rw [List.cons_append, splitOnce_later hnot, ih hcut]
      rfl

/-- A text is cut where the first character of the separator occurs first. -/
lemma splitOnce_of_not_mem (h : c ∉ head) (sep tail : List Char) :
    splitOnce (c :: sep) (head ++ (c :: sep) ++ tail) = some (head, tail) := by
  induction head with
  | nil =>
    have hp : c :: sep <+: c :: (sep ++ tail) := List.prefix_append (c :: sep) tail
    rw [List.nil_append, List.cons_append, splitOnce_here hp, ← List.cons_append,
      List.drop_left]
  | cons d head ih =>
    obtain ⟨hd, hhead⟩ := not_or.1 (mt List.mem_cons.2 h)
    rw [List.cons_append, List.cons_append, splitOnce_later, ih hhead]
    · rfl
    · exact fun hp => hd (List.cons_prefix_cons.1 hp).1

/-! ## Joining -/

section Joining

variable {α : Type}

lemma intercalate_cons_head (sep : List α) (a : α) (l : List α) (ls : List (List α)) :
    sep.intercalate ((a :: l) :: ls) = a :: sep.intercalate (l :: ls) := by
  cases ls with
  | nil => rw [List.intercalate_singleton, List.intercalate_singleton]
  | cons l' ls => rw [List.intercalate_cons_cons, List.intercalate_cons_cons]; rfl

/-- The second half of a separator is the front of the part after it. -/
lemma intercalate_pair (a b : α) (l : List α) (ls : List (List α)) :
    [a, b].intercalate (l :: ls) = [a].intercalate (l :: ls.map (b :: ·)) := by
  induction ls generalizing l with
  | nil => rfl
  | cons l' ls ih =>
    rw [List.map_cons, List.intercalate_cons_cons, List.intercalate_cons_cons,
      intercalate_cons_head, ← ih]
    simp only [List.append_assoc, List.cons_append, List.nil_append]

end Joining

end GridRules.Text
