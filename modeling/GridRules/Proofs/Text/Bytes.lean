import Mathlib.Data.List.TakeDrop
import Mathlib.Tactic.Lemma

/-!
# The bytes of a text

The UTF-8 bytes of a text and cursors in them.  A character of seven bits is one byte, its own
number, and every other character starts with a byte of eight bits (`exists_utf8EncodeChar`).  So a
cursor between two characters (`Before`) sees the next character where it tests for characters of
seven bits (`byteIs_eq`), and is between two characters again after it has moved over one
(`Before.step`).  The bytes before such a cursor are a text of their own (`Before.slice?_eq`).
-/

namespace GridRules.Text

/-- The UTF-8 bytes of a text. -/
def utf8 (s : List Char) : List UInt8 := s.flatMap String.utf8EncodeChar

/-- The text whose bytes are those before a place; `none` when they are not the bytes of a text. -/
def slice? (bytes : List UInt8) (stop : ℕ) : Option String :=
  String.fromUTF8? (bytes.take stop).toByteArray

/-- Whether there is a byte at a place that passes a test as the character of its number. -/
def byteIs (bytes : List UInt8) (i : ℕ) (test : Char → Bool) : Bool :=
  bytes[i]?.any fun b => test (Char.ofUInt8 b)

/-- A place among the bytes of `s` is between two characters, and `rest` is what follows. -/
def Before (s rest : List Char) (i : ℕ) : Prop :=
  ∃ front, s = front ++ rest ∧ (utf8 front).length = i

variable {s rest front : List Char} {c : Char} {i : ℕ} {test : Char → Bool}

lemma utf8_append (s t : List Char) : utf8 (s ++ t) = utf8 s ++ utf8 t :=
  List.flatMap_append

lemma toByteArray_utf8 (s : List Char) : (utf8 s).toByteArray = (String.ofList s).toByteArray :=
  String.toByteArray_ofList.symm

lemma length_utf8 (s : List Char) : (utf8 s).length = (String.ofList s).utf8ByteSize := by
  rw [← String.size_toByteArray, ← toByteArray_utf8, List.size_toByteArray]

lemma lt_length_of_byteIs {bytes : List UInt8} (h : byteIs bytes i test = true) :
    i < bytes.length := by
  rw [byteIs, Option.any_eq_true] at h
  obtain ⟨b, hb, -⟩ := h
  exact (List.getElem?_eq_some_iff.1 hb).1

/-- A character of seven bits is the byte of its number, and any other one starts with a byte of
eight bits. -/
lemma exists_utf8EncodeChar (c : Char) : ∃ b r, String.utf8EncodeChar c = b :: r
    ∧ (c.toNat < 0x80 → r = [] ∧ Char.ofUInt8 b = c)
    ∧ (0x80 ≤ c.toNat → 0x80 ≤ (Char.ofUInt8 b).toNat) := by
  have hnumber : ∀ b, (Char.ofUInt8 b).toNat = b.toNat := fun _ => rfl
  have hval : c.val.toNat = c.toNat := rfl
  simp only [String.utf8EncodeChar, hval]
  split
  · refine ⟨_, _, rfl, fun _ => ⟨rfl, Char.toNat_inj.1 ?_⟩, fun _ => by omega⟩
    rw [hnumber, UInt8.toNat_ofNat']
    omega
  · have hmore : ¬ c.toNat < 0x80 := by omega
    -- the first byte of two, three or four
    split
    · refine ⟨_, _, rfl, fun h => absurd h hmore, fun _ => ?_⟩
      rw [hnumber, UInt8.toNat_ofNat']
      omega
    · split
      · refine ⟨_, _, rfl, fun h => absurd h hmore, fun _ => ?_⟩
        rw [hnumber, UInt8.toNat_ofNat']
        omega
      · refine ⟨_, _, rfl, fun h => absurd h hmore, fun _ => ?_⟩
        rw [hnumber, UInt8.toNat_ofNat']
        omega

lemma Before.start (s : List Char) : Before s s 0 := ⟨[], rfl, rfl⟩

/-- A cursor between two characters sees the next one, as far as characters of seven bits go. -/
lemma byteIs_eq (h : Before s rest i) (htest : ∀ c, test c = true → c.toNat < 0x80) :
    byteIs (utf8 s) i test = rest.head?.any test := by
  obtain ⟨front, rfl, rfl⟩ := h
  rw [byteIs, utf8_append, List.getElem?_append_right (Nat.le_refl _), Nat.sub_self]
  cases rest with
  | nil => rfl
  | cons c r =>
    obtain ⟨b, tail, hbytes, hseven, hmore⟩ := exists_utf8EncodeChar c
    have hhead : (utf8 (c :: r))[0]? = some b := by
      rw [utf8, List.flatMap_cons, hbytes]
      rfl
    rw [hhead, Option.any_some, List.head?_cons, Option.any_some]
    rcases Nat.lt_or_ge c.toNat 0x80 with hlt | hge
    · rw [(hseven hlt).2]
    · -- neither the byte nor the character has seven bits
      have hfails : ∀ d : Char, 0x80 ≤ d.toNat → test d = false := fun d hd =>
        Bool.eq_false_iff.2 fun htrue => absurd (htest d htrue) (by omega)
      rw [hfails _ (hmore hge), hfails _ hge]

/-- A cursor that moves over a character of seven bits is between two characters again. -/
lemma Before.step (h : Before s (c :: rest) i) (hc : c.toNat < 0x80) : Before s rest (i + 1) := by
  obtain ⟨front, rfl, rfl⟩ := h
  obtain ⟨b, tail, hbytes, hseven, -⟩ := exists_utf8EncodeChar c
  obtain ⟨rfl, -⟩ := hseven hc
  have hone : utf8 [c] = [b] := by
    rw [utf8, List.flatMap_singleton, hbytes]
  refine ⟨front ++ [c], by simp, ?_⟩
  rw [utf8_append, hone, List.length_append, List.length_singleton]

/-- The bytes before a cursor between two characters are those of the text before it. -/
lemma slice?_append (front rest : List Char) :
    slice? (utf8 (front ++ rest)) (utf8 front).length = some (String.ofList front) := by
  rw [slice?, utf8_append, List.take_left, toByteArray_utf8, String.fromUTF8?,
    dif_pos (String.ofList front).isValidUTF8]
  rfl

/-- A cursor between two characters is a valid position. -/
lemma Before.isValid (h : Before s rest i) : (⟨i⟩ : String.Pos.Raw).IsValid (String.ofList s) := by
  obtain ⟨front, rfl, rfl⟩ := h
  rw [String.Pos.Raw.isValid_iff_exists_append]
  refine ⟨String.ofList front, String.ofList rest, String.ofList_append, ?_⟩
  rw [length_utf8]
  rfl

end GridRules.Text
