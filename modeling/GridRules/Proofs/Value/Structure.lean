import GridRules.Value.Comparison
import Mathlib.Data.List.Perm.Subperm
import Mathlib.Tactic.Lemma

/-!
# Structural equality

Structural equality compares numbers by their doubles and everything else as it is; it is an
equivalence (`sameStructure_refl`, `sameStructure_comm`, `sameStructure_trans`).

Objects are compared field by field in the order of their names.  By look-ups this says that the two
have as many fields and that each field of one is found in the other with the same structure
(`sameStructureFields_iff_lookup`); the names of the other side need not be asked for, since it has
no room for further ones.
-/

namespace GridRules

namespace Double

lemma sameNumber_self {x : Double} (h : x.isNaN = false) : x.sameNumber x = true := by
  obtain ⟨p, hp⟩ := isNaN_eq_false_iff.1 h
  exact sameNumber_iff.2 ⟨p, hp, hp⟩

lemma sameNumber_comm (x y : Double) : x.sameNumber y = y.sameNumber x := by
  rw [Bool.eq_iff_iff, sameNumber_iff, sameNumber_iff]
  exact exists_congr fun _ => and_comm

lemma sameNumber_trans {x y z : Double} (h : x.sameNumber y = true) (h' : y.sameNumber z = true) :
    x.sameNumber z = true := by
  obtain ⟨p, hx, hy⟩ := sameNumber_iff.1 h
  obtain ⟨q, hy', hz⟩ := sameNumber_iff.1 h'
  obtain rfl := Option.some.inj (hy.symm.trans hy')
  exact sameNumber_iff.2 ⟨p, hx, hz⟩

end Double

namespace Value

mutual

theorem sameStructure_refl : ∀ v : Value, sameStructure v v = true
  | .null => rfl
  | .bool b => by simp [sameStructure]
  | .number n => Double.sameNumber_self n.isNaN_toDouble
  | .string s => by simp [sameStructure]
  | .array items => by rw [sameStructure]; exact sameStructureItems_refl items
  | .object fields => by rw [sameStructure]; exact sameStructureFields_refl fields

theorem sameStructureItems_refl : ∀ items : List Value, sameStructureItems items items = true
  | [] => rfl
  | v :: r => by simp [sameStructureItems, sameStructure_refl v, sameStructureItems_refl r]

theorem sameStructureFields_refl :
    ∀ fields : List (String × Value), sameStructureFields fields fields = true
  | [] => rfl
  | (n, v) :: r => by simp [sameStructureFields, sameStructure_refl v, sameStructureFields_refl r]

end

mutual

theorem sameStructure_comm : ∀ a b : Value, sameStructure a b = sameStructure b a
  | .null, b => by cases b <;> rfl
  | .bool a, b => by cases b <;> simp [sameStructure, Bool.beq_comm]
  | .number a, b => by cases b <;> simp [sameStructure, Double.sameNumber_comm]
  | .string a, b => by cases b <;> simp [sameStructure, Bool.beq_comm]
  | .array a, b => by
    cases b with
    | array b => rw [sameStructure, sameStructure, sameStructureItems_comm a b]
    | _ => rfl
  | .object a, b => by
    cases b with
    | object b => rw [sameStructure, sameStructure, sameStructureFields_comm a b]
    | _ => rfl

theorem sameStructureItems_comm :
    ∀ a b : List Value, sameStructureItems a b = sameStructureItems b a
  | [], b => by cases b <;> rfl
  | a :: r, [] => rfl
  | a :: r, b :: t => by
    rw [sameStructureItems, sameStructureItems, sameStructure_comm a b, sameStructureItems_comm r t]

theorem sameStructureFields_comm :
    ∀ a b : List (String × Value), sameStructureFields a b = sameStructureFields b a
  | [], b => by cases b <;> rfl
  | (n, a) :: r, [] => rfl
  | (n, a) :: r, (m, b) :: t => by
    rw [sameStructureFields, sameStructureFields, sameStructure_comm a b,
      sameStructureFields_comm r t, Bool.beq_comm]

end

mutual

theorem sameStructure_trans : ∀ {a b c : Value}, sameStructure a b = true →
    sameStructure b c = true → sameStructure a c = true
  | .null, b, c, h, h' => by
    cases b with
    | null => exact h'
    | _ => cases h
  | .bool a, b, c, h, h' => by
    cases b with
    | bool b =>
      cases c with
      | bool c =>
        rw [sameStructure, beq_iff_eq] at *
        exact h.trans h'
      | _ => cases h'
    | _ => cases h
  | .number a, b, c, h, h' => by
    cases b with
    | number b =>
      cases c with
      | number c =>
        exact Double.sameNumber_trans h h'
      | _ => cases h'
    | _ => cases h
  | .string a, b, c, h, h' => by
    cases b with
    | string b =>
      cases c with
      | string c =>
        rw [sameStructure, beq_iff_eq] at *
        exact h.trans h'
      | _ => cases h'
    | _ => cases h
  | .array a, b, c, h, h' => by
    cases b with
    | array b =>
      cases c with
      | array c =>
        rw [sameStructure] at *
        exact sameStructureItems_trans h h'
      | _ => cases h'
    | _ => cases h
  | .object a, b, c, h, h' => by
    cases b with
    | object b =>
      cases c with
      | object c =>
        rw [sameStructure] at *
        exact sameStructureFields_trans h h'
      | _ => cases h'
    | _ => cases h

theorem sameStructureItems_trans : ∀ {a b c : List Value}, sameStructureItems a b = true →
    sameStructureItems b c = true → sameStructureItems a c = true
  | [], [], c, _, h' => h'
  | v :: r, w :: t, x :: u, h, h' => by
    rw [sameStructureItems, Bool.and_eq_true] at *
    exact ⟨sameStructure_trans h.1 h'.1, sameStructureItems_trans h.2 h'.2⟩

theorem sameStructureFields_trans : ∀ {a b c : List (String × Value)},
    sameStructureFields a b = true → sameStructureFields b c = true →
    sameStructureFields a c = true
  | [], [], c, _, h' => h'
  | (n, v) :: r, (m, w) :: t, (k, x) :: u, h, h' => by
    rw [sameStructureFields, Bool.and_eq_true, Bool.and_eq_true, beq_iff_eq] at *
    exact ⟨⟨h.1.1.trans h'.1.1, sameStructure_trans h.1.2 h'.1.2⟩,
      sameStructureFields_trans h.2 h'.2⟩

end

/-! ## Objects by look-ups -/

/-- Entries that are as many as those of another ascending list, each with a name that is found
there, have the same names. -/
lemma names_eq_of_lookup {a b : List (String × Value)} (ha : Ascending a) (hb : Ascending b)
    (hlength : a.length = b.length) (hfound : ∀ e ∈ a, ∃ w, b.lookup e.1 = some w) :
    a.map (·.1) = b.map (·.1) := by
  have hpa : (a.map (·.1)).Pairwise (· < ·) := List.pairwise_map.2 ha
  have hpb : (b.map (·.1)).Pairwise (· < ·) := List.pairwise_map.2 hb
  have hnodup : (a.map (·.1)).Nodup := hpa.imp String.ne_of_lt
  have hsubset : a.map (·.1) ⊆ b.map (·.1) := by
    intro n hn
    obtain ⟨e, he, rfl⟩ := List.mem_map.1 hn
    obtain ⟨w, hw⟩ := hfound e he
    obtain ⟨before, after, rfl, -⟩ := List.lookup_eq_some_iff.1 hw
    simp
  -- distinct names that all occur among as many distinct names are all of them
  have hperm : (a.map (·.1)).Perm (b.map (·.1)) :=
    (hnodup.subperm hsubset).perm_of_length_le (by simp [hlength])
  exact hperm.eq_of_pairwise (fun x y _ _ hxy hyx => absurd hyx (String.lt_asymm hxy)) hpa hpb

lemma sameStructureFields_iff_of_names_eq {a b : List (String × Value)} (hb : Ascending b)
    (hnames : a.map (·.1) = b.map (·.1)) : sameStructureFields a b = true ↔
      ∀ e ∈ a, ∃ w, b.lookup e.1 = some w ∧ sameStructure e.2 w = true := by
  induction a generalizing b with
  | nil =>
    obtain rfl := List.map_eq_nil_iff.1 hnames.symm
    simp [sameStructureFields]
  | cons e r ih =>
    obtain ⟨n, v⟩ := e
    cases b with
    | nil => cases hnames
    | cons f t =>
      obtain ⟨m, w⟩ := f
      obtain ⟨rfl, hr⟩ := List.cons.inj hnames
      obtain ⟨hfirst, ht⟩ := List.pairwise_cons.1 hb
      -- the names after the first one differ from it, so its entry does not hide theirs
      have hskip : ∀ e ∈ r, ((n, w) :: t).lookup e.1 = t.lookup e.1 := by
        intro e he
        have hmem : e.1 ∈ t.map (·.1) := hr ▸ List.mem_map_of_mem he
        obtain ⟨f, hf, hfe⟩ := List.mem_map.1 hmem
        rw [lookup_entry, if_neg]
        exact hfe ▸ (String.ne_of_lt (hfirst f hf)).symm
      rw [sameStructureFields, Bool.and_eq_true, Bool.and_eq_true, beq_self_eq_true, ih ht hr,
        List.forall_mem_cons, lookup_entry, if_pos rfl]
      constructor
      · rintro ⟨⟨-, hv⟩, h⟩
        exact ⟨⟨w, rfl, hv⟩, fun e he => hskip e he ▸ h e he⟩
      · rintro ⟨⟨w', hw', hv⟩, h⟩
        obtain rfl := Option.some.inj hw'
        exact ⟨⟨rfl, hv⟩, fun e he => hskip e he ▸ h e he⟩

lemma names_eq_of_sameStructureFields : ∀ {a b : List (String × Value)},
    sameStructureFields a b = true → a.map (·.1) = b.map (·.1)
  | [], [], _ => rfl
  | (n, v) :: r, (m, w) :: t, h => by
    rw [sameStructureFields, Bool.and_eq_true, Bool.and_eq_true, beq_iff_eq] at h
    rw [List.map_cons, List.map_cons, h.1.1, names_eq_of_sameStructureFields h.2]

/-- Two objects have the same structure when they have as many fields and each field of one is found
in the other with the same structure. -/
theorem sameStructureFields_iff_lookup {a b : List (String × Value)} (ha : Ascending a)
    (hb : Ascending b) : sameStructureFields a b = true ↔ a.length = b.length
      ∧ ∀ e ∈ a, ∃ w, b.lookup e.1 = some w ∧ sameStructure e.2 w = true := by
  constructor
  · intro h
    have hnames := names_eq_of_sameStructureFields h
    refine ⟨?_, (sameStructureFields_iff_of_names_eq hb hnames).1 h⟩
    simpa using congrArg List.length hnames
  · rintro ⟨hlength, h⟩
    have hnames := names_eq_of_lookup ha hb hlength fun e he =>
      (h e he).imp fun _ => And.left
    exact (sameStructureFields_iff_of_names_eq hb hnames).2 h

end Value

end GridRules
