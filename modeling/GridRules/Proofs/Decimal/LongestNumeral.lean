import GridRules.Proofs.Value.LiteralGrammar

/-!
# The longest numeral at the front of a text

The reader takes the longest front of a text that is a numeral (`Numeral.exists_longest_of_read?`).
Whatever numeral stands at the front, no stage of the reader ends before the corresponding part of
it: a stage whose next part is there ends with its own part, and a stage that goes on where the
numeral ends only leaves less (`Numeral.length_rest_le_of_spells`).
-/

namespace GridRules

open Text (Digits)

namespace Numeral

/-- A text is the longest numeral at the front of another one. -/
structure Longest (s p : List Char) (n : Numeral) : Prop where
  /-- The text is a front of the other one. -/
  front : p <+: s
  /-- The text is a numeral. -/
  spells : Spells p n
  /-- No longer front is a numeral. -/
  longest : ∀ q m, q <+: s → Spells q m → q.length ≤ p.length

variable {s p q u rest ds point power : List Char} {n m : Numeral} {exponent : ℤ}

lemma Spells.unique (h : Spells p n) (h' : Spells p m) : n = m :=
  Option.some.inj ((ofText?_eq_some_iff.2 h).symm.trans (ofText?_eq_some_iff.2 h'))

lemma Longest.unique (h : Longest s p n) (h' : Longest s q m) : p = q ∧ n = m := by
  have hpq : p <+: q := List.prefix_of_prefix_length_le h.front h'.front
    (h'.longest p n h.front h.spells)
  obtain rfl : p = q := hpq.eq_of_length_le (h.longest q m h'.front h'.spells)
  exact ⟨rfl, h.spells.unique h'.spells⟩

/-! ## What a stage leaves -/

lemma length_digitRun_le (s : List Char) : (Text.digitRun s).2.length ≤ s.length :=
  (List.dropWhile_suffix _).length_le

lemma length_readFraction_le (s : List Char) : (readFraction s).2.length ≤ s.length := by
  obtain ⟨point, hs, -⟩ := exists_spellsFraction s
  have := congrArg List.length hs
  rw [List.length_append] at this
  omega

lemma length_readExponent_le (s : List Char) : (readExponent s).2.length ≤ s.length := by
  obtain ⟨power, hs, -⟩ := exists_spellsPower s
  have := congrArg List.length hs
  rw [List.length_append] at this
  omega

lemma length_digitRun_append_le (hds : Digits ds) (u : List Char) :
    (Text.digitRun (ds ++ u)).2.length ≤ u.length := by
  have hrun : (Text.digitRun (ds ++ u)).2 = (Text.digitRun u).2 :=
    List.dropWhile_append_of_pos hds
  rw [hrun]
  exact length_digitRun_le u

lemma length_readFraction_append_le (h : SpellsFraction point ds) (u : List Char) :
    (readFraction (point ++ u)).2.length ≤ u.length := by
  cases h with
  | none => exact length_readFraction_le u
  | point hds => exact length_digitRun_append_le hds u

/-- A power of ten is read to its end at least. -/
lemma length_readExponent_append_le (h : SpellsPower power exponent) (u : List Char) :
    (readExponent (power ++ u)).2.length ≤ u.length := by
  cases h with
  | none => exact length_readExponent_le u
  | power hletter hsign hds hne =>
    rename_i letter sign ds negative
    obtain ⟨c, r, rfl⟩ := List.exists_cons_of_ne_nil hne
    have hc : c.isDigit = true := hds c List.mem_cons_self
    have hsome : (Text.digitRun (c :: r ++ u)).1 ≠ [] := by
      simp [Text.digitRun, hc]
    simp only [readExponent, List.cons_append, List.append_assoc, if_pos hletter]
    rw [← List.cons_append, readSign_append hsign (by simp [hc]), if_neg hsome]
    exact length_digitRun_append_le hds u

/-! ## What the reader leaves -/

lemma rest_eq_of_read? (h : read? s = some (n, rest)) : rest =
    (readExponent (readFraction (Text.digitRun (readSign s).2).2).2).2 := by
  unfold read? at h
  dsimp only at h
  split at h
  · cases h
  · exact (Prod.mk.inj (Option.some.inj h)).2.symm

/-- No more is left of a text than what follows a numeral at its front. -/
lemma length_rest_le_of_spells (h : Spells q m) (hread : read? (q ++ u) = some (n, rest)) :
    rest.length ≤ u.length := by
  obtain ⟨negative, whole, fraction, exponent⟩ := m
  obtain ⟨⟨sign, point, power, rfl, hsign, hpoint, hpower⟩, hwhole, hne⟩ := h
  dsimp only at *
  rw [rest_eq_of_read? hread]
  simp only [List.append_assoc]
  rw [readSign_append hsign (head_after_sign hwhole hpoint hne _)]
  dsimp only
  cases hpower with
  | none =>
    -- the stages may go on, and leave less
    refine (length_readExponent_le _).trans ?_
    rw [List.nil_append]
    cases hpoint with
    | none =>
      exact (length_readFraction_le _).trans (length_digitRun_append_le hwhole u)
    | point hds =>
      rw [Text.digitRun_of_digits hwhole (by simp)]
      exact length_readFraction_append_le (.point hds) u
  | power hletter hpowersign hds hpowerne =>
    rename_i letter powersign ds negative
    -- the letter is where the stages before it end
    have hpower := SpellsPower.power hletter hpowersign hds hpowerne
    have hhead : ∀ c ∈ ((letter :: (powersign ++ ds)) ++ u).head?, c.isDigit = false ∧ c ≠ '.' :=
      fun c hc => hpower.head_not_isDigit c hc
    rw [Text.digitRun_of_digits hwhole (hpoint.head_append fun c hc => (hhead c hc).1)]
    dsimp only
    rw [readFraction_append hpoint hhead]
    exact length_readExponent_append_le hpower u

/-- What is read is the longest numeral at the front of the text. -/
theorem exists_longest_of_read? (h : read? s = some (n, rest)) :
    ∃ p, s = p ++ rest ∧ Longest s p n := by
  obtain ⟨p, rfl, hspells⟩ := exists_spells_of_read? h
  refine ⟨p, rfl, List.prefix_append p rest, hspells, ?_⟩
  rintro q m ⟨u, hq⟩ hq'
  rw [← hq] at h
  have hrest := length_rest_le_of_spells hq' h
  have hlength := congrArg List.length hq
  simp only [List.length_append] at hlength
  omega

/-- Nothing is read exactly where no front of the text is a numeral. -/
theorem read?_eq_none_iff_forall : read? s = none ↔ ∀ p n, p <+: s → ¬ Spells p n := by
  constructor
  · rintro h p n ⟨u, rfl⟩ hspells
    exact read?_ne_none_of_spells hspells u h
  · intro h
    by_contra hread
    obtain ⟨⟨n, rest⟩, hread⟩ := Option.ne_none_iff_exists'.1 hread
    obtain ⟨p, -, hlongest⟩ := exists_longest_of_read? hread
    exact h p n hlongest.front hlongest.spells

/-- The longest numeral at the front of a text is read. -/
theorem Longest.read?_eq (h : Longest s p n) :
    ∃ rest, s = p ++ rest ∧ read? s = some (n, rest) := by
  cases hread : read? s with
  | none => exact absurd h.spells (read?_eq_none_iff_forall.1 hread p n h.front)
  | some result =>
    obtain ⟨q, hs, hlongest⟩ := exists_longest_of_read? hread
    obtain ⟨rfl, rfl⟩ := h.unique hlongest
    exact ⟨result.2, hs, rfl⟩

end Numeral

end GridRules
