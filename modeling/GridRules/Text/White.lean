/-!
# White space

The characters with the Unicode property `White_Space`, and the removal of a run of them from
either end of a text. Texts are lists of characters, so that a cut is a statement about lists.
-/

namespace GridRules.Text

/-- A character with the Unicode property `White_Space`: the ASCII blanks, the next-line control,
the no-break space and the typographic spaces. The byte order mark and the zero-width space are not
in it. -/
def isWhite (c : Char) : Bool :=
  let n := c.toNat
  (0x09 ≤ n && n ≤ 0x0D) || n == 0x20 || n == 0x85 || n == 0xA0 || n == 0x1680
    || (0x2000 ≤ n && n ≤ 0x200A) || n == 0x2028 || n == 0x2029 || n == 0x202F || n == 0x205F
    || n == 0x3000

/-- The text without the white space at its front. -/
def trimStart (s : List Char) : List Char := s.dropWhile isWhite

/-- The text without the white space at its end. -/
def trimEnd (s : List Char) : List Char := (s.reverse.dropWhile isWhite).reverse

/-- The text without the white space at either end. -/
def trim (s : List Char) : List Char := trimEnd (trimStart s)

/-- A text of white space alone, the empty text included. -/
def isBlank (s : List Char) : Bool := s.all isWhite

@[simp] theorem trimStart_nil : trimStart [] = [] := rfl

@[simp] theorem trim_nil : trim [] = [] := rfl

/-- Every blank that core counts as white space has the property. -/
theorem isWhite_of_isWhitespace {c : Char} (h : c.isWhitespace = true) : isWhite c = true := by
  simp only [Char.isWhitespace, Bool.or_eq_true, decide_eq_true_eq] at h
  rcases h with ((rfl | rfl) | rfl) | rfl <;> decide

end GridRules.Text
