import DiceOdds.Text.Printable

/-!
# Quoted Text

How a text is shown inside a message: between quotation marks, with a backslash
before the mark, the backslash and whatever cannot be printed.  Apostrophes are
used as marks unless the text holds an apostrophe and no quotation mark.
-/

namespace DiceOdds.Text

/-! ## §1 The mark -/

/-- The apostrophe. -/
def apostrophe : Char := Char.ofNat 0x27

/-- The quotation mark. -/
def quotationMark : Char := Char.ofNat 0x22

/-- The backslash. -/
def backslash : Char := Char.ofNat 0x5C

/-- The mark that encloses a text. -/
def enclosingMark (cs : List Char) : Char :=
  if cs.contains apostrophe && !cs.contains quotationMark then quotationMark else apostrophe

/-! ## §2 Escapes -/

/-- The last `width` hexadecimal digits of a number, in lower case. -/
def hexDigits : (width : Nat) → Nat → List Char
  | 0, _ => []
  | width + 1, n => hexDigits width (n / 16) ++ [Nat.digitChar (n % 16)]

/-- The code point of a character that cannot be shown. -/
def escapeCode (n : Nat) : List Char :=
  if n < 0x100 then backslash :: 'x' :: hexDigits 2 n
  else if n < 0x10000 then backslash :: 'u' :: hexDigits 4 n
  else backslash :: 'U' :: hexDigits 8 n

/-- A character as it stands between two marks. -/
def escape (mark c : Char) : List Char :=
  if c = mark ∨ c = backslash then [backslash, c]
  else if c = '\n' then [backslash, 'n']
  else if c = '\r' then [backslash, 'r']
  else if c = '\t' then [backslash, 't']
  else if isPrintable c then [c]
  else escapeCode c.toNat

/-! ## §3 Whole texts -/

/-- The characters of a quoted text, marks included. -/
def quotedChars (cs : List Char) : List Char :=
  let mark := enclosingMark cs
  mark :: cs.flatMap (escape mark) ++ [mark]

/-- A text as it is shown inside a message. -/
def quoted (s : String) : String :=
  String.ofList (quotedChars s.toList)

@[simp] theorem length_hexDigits (width n : Nat) : (hexDigits width n).length = width := by
  induction width generalizing n with
  | zero => rfl
  | succ width ih => simp [hexDigits, ih]

end DiceOdds.Text
