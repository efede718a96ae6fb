import DiceOdds.CommandLine.Opt
import DiceOdds.Text.Digit
import DiceOdds.Text.Split

/-!
# Telling Arguments Apart

Which arguments name an option and which are values.  An option may be shortened as long
as one option alone starts that way; a value may be attached with an equality sign.  An
argument that starts with a hyphen still counts as a value if it is a negative number or
contains a blank.
-/

namespace DiceOdds.CommandLine

/-! ## §1 Tokens -/

/-- What an argument is taken for. -/
inductive Token where
  /-- A value, or a stray argument. -/
  | value
  /-- Two hyphens; everything behind them is a value. -/
  | hyphens
  /-- An option that takes a value, which may be attached. -/
  | option (o : Opt) (attached : Option String)
  /-- An option that takes no value, in a spelling of one letter or a longer one; still
  something may be attached. -/
  | flag (o : Opt) (short : Bool) (attached : Option String)
  /-- An option that does not exist. -/
  | unknown
  deriving DecidableEq, Repr

/-- An option in one of its spellings, with what is attached to it. -/
def Token.ofOpt (o : Opt) (spelling : String) (attached : Option String) : Token :=
  if o.takesValue then .option o attached
  else .flag o (spelling.length == 2) attached

/-! ## §2 Negative numbers -/

/-- Whether a text consists of digits, of any script. -/
def allDigits (cs : List Char) : Bool := cs.all fun c => (Text.digitValue? c).isSome

/-- Whether a text is a hyphen followed by a number, with or without a point.  A line end
behind the number does not count. -/
def isNegativeNumber (cs : List Char) : Bool :=
  match cs with
  | '-' :: rest =>
    let number := if rest.getLast? = some '\n' then rest.dropLast else rest
    let whole := number.takeWhile (· != '.')
    match number.dropWhile (· != '.') with
    | [] => !whole.isEmpty && allDigits whole
    | _ :: places => allDigits whole && !places.isEmpty && allDigits places
  | _ => false

/-! ## §3 Spellings -/

/-- An argument without what stands behind its first equality sign, and the latter. -/
def splitAttached (s : String) : String × Option String :=
  match Text.splitFirst? '=' s with
  | some (before, behind) => (before, some behind)
  | none => (s, none)

/-- The spellings that an argument may stand for, each with what is attached to it. -/
def candidates (s : String) : List (String × Token) :=
  match s.toList with
  | '-' :: '-' :: _ =>
    let (start, attached) := splitAttached s
    (spellings.filter fun p => start.toList.isPrefixOf p.1.toList).map fun p =>
      (p.1, .ofOpt p.2 p.1 attached)
  | '-' :: c :: rest =>
    (spellings.filter fun p => p.1 == String.ofList ['-', c]).map fun p =>
      (p.1, .ofOpt p.2 p.1 (some (String.ofList rest)))
  | _ => []

/-- The option with exactly a given spelling. -/
def spelled? (s : String) (attached : Option String) : Option Token :=
  (spellings.find? fun p => p.1 == s).map fun p => .ofOpt p.2 p.1 attached

/-! ## §4 Classification -/

/-- What an argument that is not an exact spelling is taken for. -/
def classifyLoosely (s : String) : Except Stop Token :=
  match candidates s with
  | [] =>
    if isNegativeNumber s.toList || s.toList.contains ' ' then .ok .value else .ok .unknown
  | [(_, token)] => .ok token
  | several =>
    let names := String.intercalate ", " (several.map Prod.fst)
    .error (.complaint s!"ambiguous option: {s} could match {names}")

/-- What an argument is taken for. -/
def classify (s : String) : Except Stop Token :=
  match s.toList with
  | '-' :: _ :: _ =>
    match spelled? s none with
    | some token => .ok token
    | none =>
      match splitAttached s with
      | (start, some attached) =>
        match spelled? start (some attached) with
        | some token => .ok token
        | none => classifyLoosely s
      | (_, none) => classifyLoosely s
  | _ => .ok .value

/-- What each argument is taken for; behind two hyphens everything is a value. -/
def classifyAll : List String → Except Stop (List (String × Token))
  | [] => .ok []
  | s :: ss =>
    if s == "--" then .ok ((s, .hyphens) :: ss.map (·, .value))
    else
      match classify s with
      | .error stop => .error stop
      | .ok token => (classifyAll ss).map ((s, token) :: ·)

end DiceOdds.CommandLine
