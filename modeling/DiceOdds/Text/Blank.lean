/-!
# Blank Characters

Which characters count as blank space around a value.  `isBlank` is the
White_Space property of the Unicode standard; `isSpacing` adds the four
information separators, which line-oriented files also treat as space.
-/

namespace DiceOdds.Text

/-- Characters with the White_Space property. -/
def isBlank (c : Char) : Bool :=
  let n := c.toNat
  (9 ≤ n && n ≤ 13) || n == 0x20 || n == 0x85 || n == 0xA0 || n == 0x1680 ||
    (0x2000 ≤ n && n ≤ 0x200A) || n == 0x2028 || n == 0x2029 || n == 0x202F ||
    n == 0x205F || n == 0x3000

/-- Blank characters together with the information separators U+001C to U+001F. -/
def isSpacing (c : Char) : Bool :=
  isBlank c || (0x1C ≤ c.toNat && c.toNat ≤ 0x1F)

/-- Drops what satisfies `p` at the end of a text. -/
def dropRight (p : Char → Bool) (cs : List Char) : List Char :=
  (cs.reverse.dropWhile p).reverse

/-- A text without the blanks at either end. -/
def trim (cs : List Char) : List Char :=
  dropRight isBlank (cs.dropWhile isBlank)

theorem isSpacing_of_isBlank {c : Char} (h : isBlank c = true) : isSpacing c = true := by
  simp [isSpacing, h]

@[simp] theorem dropRight_nil (p : Char → Bool) : dropRight p [] = [] := rfl

/-- A text that ends in a character to keep is left alone. -/
theorem dropRight_concat {p : Char → Bool} {c : Char} (cs : List Char) (h : p c = false) :
    dropRight p (cs ++ [c]) = cs ++ [c] := by
  simp [dropRight, h]

end DiceOdds.Text
