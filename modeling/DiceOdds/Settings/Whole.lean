import DiceOdds.Text.Integer

/-!
# Whole Numbers in Settings

How the text of a numeric setting is read.  It is first brought into a plain form: blanks
around it, a plus sign, zeros in front, a fraction of zeros, and single underscores are
dropped.  The plain form is then read strictly.
-/

namespace DiceOdds.Settings

/-! ## §1 Plain forms -/

/-- A digit other than zero. -/
def isLeadingDigit (c : Char) : Bool := '1' ≤ c && c ≤ '9'

/-- Passes over zeros and underscores behind the zero or underscore `last`, which is kept
where the number ends or a fraction follows.  A minus sign may follow them. -/
def dropZerosBehind? (last : Char) : List Char → Option (List Char)
  | [] => some [last]
  | c :: cs =>
    if c = '0' ∨ c = '_' then dropZerosBehind? c cs
    else if isLeadingDigit c || c = '-' then some (c :: cs)
    else if c = '.' then some (last :: c :: cs)
    else none

/-- Digits without the zeros in front of them. -/
def dropZeros? : List Char → Option (List Char)
  | [] => none
  | c :: cs =>
    if c = '0' then dropZerosBehind? c cs
    else if isLeadingDigit c then some (c :: cs)
    else none

/-- A number without a plus sign and without the zeros in front of its digits.  A minus
sign stays. -/
def dropFront? : List Char → Option (List Char)
  | '+' :: cs => dropZeros? cs
  | '-' :: cs => (dropZeros? cs).map ('-' :: ·)
  | cs => dropZeros? cs

/-- A text before its point, if one or more zeros and nothing else stand behind it. -/
def dropZeroFraction (cs : List Char) : List Char :=
  match cs.dropWhile (· != '.') with
  | _ :: '0' :: behind => if behind.all (· == '0') then cs.takeWhile (· != '.') else cs
  | _ => cs

/-- Whether two underscores stand side by side. -/
def hasDoubleUnderscore : List Char → Bool
  | '_' :: '_' :: _ => true
  | _ :: cs => hasDoubleUnderscore cs
  | [] => false

/-- A text without its underscores, if each of them stands alone and inside. -/
def dropUnderscores (cs : List Char) : List Char :=
  if cs.head? = some '_' ∨ cs.getLast? = some '_' ∨ hasDoubleUnderscore cs then cs
  else cs.filter (· != '_')

/-- A number in its plain form, as far as a text can be brought into it: without blanks
around it, a plus sign, zeros in front, a fraction of zeros, and underscores. -/
def plainForm? (s : String) : Option (List Char) :=
  (dropFront? (Text.trim s.toList)).map fun cs => dropUnderscores (dropZeroFraction cs)

/-! ## §2 Reading plain forms -/

/-- The number of digits that a whole number may have. -/
def longestWhole : Nat := 4300

/-- A text without a minus sign in front. -/
def dropMinus : List Char → List Char
  | '-' :: cs => cs
  | cs => cs

/-- Whether a text starts with a number that has too many digits, the first of which is
not zero. -/
def isTooLong (cs : List Char) : Bool :=
  let digits := (dropMinus cs).takeWhile fun c => (Text.asciiDigitValue? c).isSome
  digits.head?.any isLeadingDigit && longestWhole < digits.length

/-- The number that a row of digits stands for.  A zero in front stands alone. -/
def readDigits? : List Char → Option Nat
  | [] => none
  | ['0'] => some 0
  | c :: cs =>
    if isLeadingDigit c then
      (c :: cs).foldlM (fun n c => (Text.asciiDigitValue? c).map (10 * n + ·)) 0
    else none

/-- The integer that a plain form stands for: digits behind an optional minus sign. -/
def readPlain? : List Char → Option Int
  | '-' :: cs => (readDigits? cs).map fun n => -(n : Int)
  | cs => (readDigits? cs).map fun n => (n : Int)

/-! ## §3 Whole texts -/

/-- Why a text is not read as a whole number. -/
inductive WholeFault where
  | malformed
  | tooLong
  deriving DecidableEq, Repr

/-- The whole number that a text stands for.  A text that starts with too many digits is
too long whatever follows them; where they only come to light in the plain form, the text
is not a number at all. -/
def readWhole (s : String) : Except WholeFault Int :=
  if isTooLong s.toList then .error .tooLong
  else
    match plainForm? s with
    | none => .error .malformed
    | some cs =>
      match if isTooLong cs then none else readPlain? cs with
      | none => .error .malformed
      | some n => .ok n

end DiceOdds.Settings
