import GridRules.Text.Lowercase
import Mathlib.Tactic.Lemma
import Mathlib.Tactic.MkIffOfInductiveProp

/-!
# Lower case twice

The lower-case form of a text is its own lower-case form (`lowercase_lowercase`).  The mapping goes
over runs of code points, and no image of a run is a member of a run: two runs lie side by side, or
an image falls between the members of a run that goes by two (`avoids`).  So a character that a
mapping gives is in no run, and such a character stays as it is wherever it stands (`IsLower`).
-/

namespace GridRules.Text

/-! ## The table of runs -/

/-- Whether a code point is a member of a run. -/
def inRun (n : Nat) (run : Nat × Nat × Nat × Int) : Bool :=
  run.1 ≤ n && n ≤ run.2.1 && (n - run.1) % run.2.2.1 == 0

/-- The code point that a run maps one of its members to. -/
def image (run : Nat × Nat × Nat × Int) (n : Nat) : Nat := (n + run.2.2.2).toNat

/-- Whether a run has none of the code points from `first` to `last`, of which only every second
one counts when `step` is two: they lie outside, or between the members. -/
def avoids (first last step : Nat) (run : Nat × Nat × Nat × Int) : Bool :=
  last.blt run.1 || run.2.1.blt first
    || (run.2.2.1 == 2 && (step == 2 || first == last) && (first + run.1) % 2 == 1)

/-- What a run keeps to: its images are characters, other than the one that has two, and they are
members of no run. -/
@[mk_iff]
structure SoundRun (run : Nat × Nat × Nat × Int) : Prop where
  /-- No image is below zero. -/
  nonneg : 0 ≤ run.1 + run.2.2.2
  /-- No image is a surrogate or beyond the last character. -/
  valid : image run run.2.1 < 0xD800
    ∨ 0xDFFF < image run run.1 ∧ image run run.2.1 < 0x110000
  /-- No image is the capital I with a dot. -/
  undotted : image run run.2.1 < 0x130 ∨ 0x130 < image run run.1
  /-- No image is a member of a run. -/
  apart : lowerCaseRuns.all (avoids (image run run.1) (image run run.2.1) run.2.2.1) = true

instance (run : Nat × Nat × Nat × Int) : Decidable (SoundRun run) :=
  decidable_of_iff' _ (soundRun_iff run)

lemma soundRun_of_mem : ∀ run ∈ lowerCaseRuns, SoundRun run := by
  decide +kernel

variable {run other : Nat × Nat × Nat × Int} {n : Nat} {c d : Char}

lemma inRun_eq_true_iff :
    inRun n run = true ↔ run.1 ≤ n ∧ n ≤ run.2.1 ∧ (n - run.1) % run.2.2.1 = 0 := by
  simp [inRun, and_assoc]

lemma SoundRun.le_image (h : SoundRun run) (hn : inRun n run = true) :
    image run run.1 ≤ image run n ∧ image run n ≤ image run run.2.1 := by
  obtain ⟨hlow, hhigh, -⟩ := inRun_eq_true_iff.1 hn
  have := h.nonneg
  unfold image
  omega

/-- No image of a member is a member. -/
lemma SoundRun.inRun_image (h : SoundRun run) (hn : inRun n run = true)
    (hother : other ∈ lowerCaseRuns) : inRun (image run n) other = false := by
  obtain ⟨hlow, hhigh, hstep⟩ := inRun_eq_true_iff.1 hn
  obtain ⟨hfirst, hlast⟩ := h.le_image hn
  have havoids := List.all_eq_true.1 h.apart other hother
  simp only [avoids, Bool.or_eq_true, Bool.and_eq_true, beq_iff_eq, Nat.blt_eq] at havoids
  rw [Bool.eq_false_iff]
  intro himage
  obtain ⟨hlow', hhigh', hstep'⟩ := inRun_eq_true_iff.1 himage
  rcases havoids with (hbelow | habove) | ⟨⟨htwo, hevery⟩, hodd⟩
  · omega
  · omega
  · -- the image differs from the first one by an even number
    have heven : image run n % 2 = image run run.1 % 2 := by
      rcases hevery with hevery | hone
      · have := h.nonneg
        rw [hevery] at hstep
        unfold image
        omega
      · omega
    rw [htwo] at hstep'
    omega

/-- The image of a member is a character. -/
lemma SoundRun.toNat_ofNat_image (h : SoundRun run) (hn : inRun n run = true) :
    (Char.ofNat (image run n)).toNat = image run n := by
  obtain ⟨hfirst, hlast⟩ := h.le_image hn
  have hvalid : (image run n).isValidChar := by
    rcases h.valid with hbelow | ⟨habove, hend⟩
    · exact .inl (by omega)
    · exact .inr ⟨by omega, by omega⟩
  rw [Char.ofNat, dif_pos hvalid]
  rfl

/-! ## Characters in lower case -/

/-- A character that stays as it is: it is in no run, and not the capital I with a dot. -/
def IsLower (c : Char) : Prop :=
  c.toNat ≠ 0x130 ∧ ∀ run ∈ lowerCaseRuns, inRun c.toNat run = false

instance (c : Char) : Decidable (IsLower c) := inferInstanceAs (Decidable (_ ∧ _))

/-- A character is mapped by the first run that it is a member of. -/
lemma lowerByRuns_eq (c : Char) : lowerByRuns c =
    (lowerCaseRuns.find? (inRun c.toNat)).elim c fun run => Char.ofNat (image run c.toNat) := by
  unfold lowerByRuns
  split
  · rename_i low high step offset hfind
    have hfind : lowerCaseRuns.find? (inRun c.toNat) = some (low, high, step, offset) := hfind
    rw [hfind]
    rfl
  · rename_i hfind
    have hfind : lowerCaseRuns.find? (inRun c.toNat) = none := hfind
    rw [hfind]
    rfl

/-- The table maps a character of seven bits as its own function does. -/
lemma lowerByRuns_eq_toLower (h : c.toNat < 0x80) : lowerByRuns c = c.toLower := by
  have hlater : ∀ run ∈ lowerCaseRuns.tail, 0x80 ≤ run.1 := by
    decide +kernel
  have hnone : lowerCaseRuns.tail.find? (inRun c.toNat) = none := by
    refine List.find?_eq_none.2 fun run hrun hmember => ?_
    have := hlater run hrun
    have := (inRun_eq_true_iff.1 hmember).1
    omega
  -- only the first run matters
  have hfirst : ∀ n < 0x80, (if inRun n (0x41, 0x5A, 1, 32) then
      Char.ofNat (image (0x41, 0x5A, 1, 32) n) else Char.ofNat n) = (Char.ofNat n).toLower := by
    decide +kernel
  have hc := hfirst c.toNat h
  rw [Char.ofNat_toNat] at hc
  have htable : lowerCaseRuns = (0x41, 0x5A, 1, 32) :: lowerCaseRuns.tail := rfl
  rw [← hc, lowerByRuns_eq, htable, List.find?_cons, hnone]
  cases inRun c.toNat (0x41, 0x5A, 1, 32) <;> rfl

lemma lowerChar_eq (h : c.toNat ≠ 0x130) : lowerChar c = [lowerByRuns c] := by
  rw [lowerChar, if_neg h]
  split
  · rename_i hseven
    rw [lowerByRuns_eq_toLower hseven]
  · rfl

lemma IsLower.lowerChar_eq (h : IsLower c) : lowerChar c = [c] := by
  have hnone : lowerCaseRuns.find? (inRun c.toNat) = none :=
    List.find?_eq_none.2 fun run hrun => by simp [h.2 run hrun]
  rw [Text.lowerChar_eq h.1, lowerByRuns_eq, hnone, Option.elim_none]

lemma isLower_lowerByRuns (h : c.toNat ≠ 0x130) : IsLower (lowerByRuns c) := by
  rw [lowerByRuns_eq]
  cases hfind : lowerCaseRuns.find? (inRun c.toNat) with
  | none =>
    refine ⟨h, fun run hrun => ?_⟩
    simpa using List.find?_eq_none.1 hfind run hrun
  | some run =>
    have hsound := soundRun_of_mem run (List.mem_of_find?_eq_some hfind)
    have hmember : inRun c.toNat run = true := List.find?_some hfind
    obtain ⟨hfirst, hlast⟩ := hsound.le_image hmember
    show IsLower (Char.ofNat (image run c.toNat))
    rw [IsLower, hsound.toNat_ofNat_image hmember]
    refine ⟨?_, fun other hother => hsound.inRun_image hmember hother⟩
    have := hsound.undotted
    omega

/-- What a character is mapped to stays as it is. -/
lemma isLower_of_mem_lowerChar (h : d ∈ lowerChar c) : IsLower d := by
  by_cases hdotted : c.toNat = 0x130
  · have hd : d = 'i' ∨ d = '\u0307' := by
      simpa [lowerChar, hdotted] using h
    rcases hd with rfl | rfl <;> decide +kernel
  · rw [lowerChar_eq hdotted, List.mem_singleton] at h
    rw [h]
    exact isLower_lowerByRuns hdotted

lemma IsLower.ne_sigma (h : IsLower c) : c ≠ 'Σ' := by
  rintro rfl
  exact absurd (h.2 (0x3A3, 0x3AB, 1, 32) (by decide +kernel)) (by decide)

/-! ## Texts in lower case -/

lemma isLower_of_mem_lowerAfter {before s : List Char} (h : d ∈ lowerAfter before s) :
    IsLower d := by
  induction s generalizing before with
  | nil => exact absurd h List.not_mem_nil
  | cons c r ih =>
    unfold lowerAfter at h
    split at h
    · rcases List.mem_cons.1 h with h | h
      · rw [h]
        split <;> decide +kernel
      · exact ih h
    · rcases List.mem_append.1 h with h | h
      · exact isLower_of_mem_lowerChar h
      · exact ih h

lemma lowerAfter_of_isLower {before s : List Char} (h : ∀ c ∈ s, IsLower c) :
    lowerAfter before s = s := by
  induction s generalizing before with
  | nil => rfl
  | cons c r ih =>
    obtain ⟨hc, hr⟩ := List.forall_mem_cons.1 h
    rw [lowerAfter, if_neg hc.ne_sigma, hc.lowerChar_eq, ih hr]
    rfl

/-- A text is its own lower-case form exactly when every character stays as it is. -/
theorem lowercase_eq_self_iff {s : String} : lowercase s = s ↔ ∀ c ∈ s.toList, IsLower c := by
  constructor
  · intro h c hc
    rw [← h, lowercase, String.toList_ofList] at hc
    exact isLower_of_mem_lowerAfter hc
  · intro h
    rw [lowercase, lowerAfter_of_isLower h, String.ofList_toList]

/-- The lower-case form of a text is its own. -/
theorem lowercase_lowercase (s : String) : lowercase (lowercase s) = lowercase s := by
  rw [lowercase_eq_self_iff]
  intro c hc
  rw [lowercase, String.toList_ofList] at hc
  exact isLower_of_mem_lowerAfter hc

end GridRules.Text
