import DiceOdds.Clause.Words
import DiceOdds.Decimal.Bytes
import DiceOdds.Settings.Field
import DiceOdds.Text.Integer
import DiceOdds.Text.Quoted

/-!
# Faults

Everything that can go wrong, by cause.  A *rejection* says that a simulation cannot be
carried out as described; it may be reported in place of a result.  The other faults
always end the computation.
-/

namespace DiceOdds

/-! ## §1 Chains -/

/-- Why a chain of clauses does not fold into one verdict. -/
inductive ChainFault where
  /-- There is no clause. -/
  | empty
  /-- There are more or fewer scores than clauses. -/
  | uneven (scores clauses : Nat)
  /-- A clause after the lead has no link. -/
  | unlinked (index : Nat)
  /-- A clause after the lead is linked as if it were the first. -/
  | strayFirst
  deriving DecidableEq, Repr

/-- The wording of a fault in a chain. -/
def ChainFault.message : ChainFault → String
  | .empty => "Specify at least one condition"
  | .uneven scores clauses => s!"Got {scores} scores for {clauses} conditions"
  | .unlinked index => s!"Condition {index} has no conjunction"
  | .strayFirst => "Incorrect or-conjunction clauses"

/-! ## §2 Rejections -/

/-- Why a simulation is rejected. -/
inductive Rejection where
  /-- No die was chosen. -/
  | noDie
  /-- No die is left to roll. -/
  | noDice (count : Int)
  /-- A clause lacks something that its reduction needs. -/
  | incomplete (index : Int)
  /-- The clauses do not form a chain. -/
  | malformed (fault : ChainFault)
  /-- A die is frozen to a face that it does not have. -/
  | illegalPin (position face : Int) (faces : Nat)
  /-- A reason of the caller's own. -/
  | other (reason : String)
  deriving DecidableEq, Repr

/-- The wording of a rejection. -/
def Rejection.message : Rejection → String
  | .noDie => "Choose a dice type before simulating"
  | .noDice count => s!"Dice count must be positive after excluding frozen dice, got {count}"
  | .incomplete index => s!"Condition {index} is incomplete"
  | .malformed fault => fault.message
  | .illegalPin position face faces =>
    s!"Die {position} is pinned to {face}, outside 1..{faces}"
  | .other reason => reason

/-! ## §3 All faults -/

/-- What a table holds in each of its entries. -/
inductive Cell where
  /-- A machine word. -/
  | word
  /-- A truth value. -/
  | flag
  deriving DecidableEq, Repr

/-- The number of bytes of an entry. -/
def Cell.bytes : Cell → Int
  | .word => 8
  | .flag => 1

/-- The kind of entry as it is named in a message. -/
def Cell.label : Cell → String
  | .word => "int64"
  | .flag => "bool"

/-- The sides of a table, and what it holds. -/
structure Layout where
  sides : List Int
  cell : Cell
  deriving DecidableEq, Repr

/-- Why a computation ends without a result. -/
inductive Fault where
  /-- The simulation is rejected. -/
  | rejected (reason : Rejection)
  /-- Fewer than one roll was asked for. -/
  | tooFewRolls (count : Int)
  /-- A number is not a probability. -/
  | notAChance (text : String)
  /-- A distribution was asked for over less than one roll. -/
  | emptyHorizon (horizon : Int)
  /-- A distribution is shorter than the resolution asked for. -/
  | beyondHorizon (size horizon : Nat)
  /-- A word does not belong to a vocabulary. -/
  | unknownWord (shown title : String)
  /-- A number is compared in no way. -/
  | noComparison
  /-- A count is bounded in no way. -/
  | noBound
  /-- A reduction that yields no number was asked for one. -/
  | notAStatistic (reduction : Reduction)
  /-- Faces below nought have no mode. -/
  | negativeFace
  /-- The rolls of a table differ in their number of dice. -/
  | ragged
  /-- A face does not fit into a machine word. -/
  | tooWide
  /-- A clause was scored before it was checked. -/
  | unchecked
  /-- A generator was given a seed below nought. -/
  | negativeSeed
  /-- A range to draw from is empty. -/
  | emptyRange
  /-- A range to draw from holds numbers that do not fit into a machine word. -/
  | wideRange
  /-- Fewer than no numbers were asked for. -/
  | negativeCount
  /-- One side of a table is longer than any list. -/
  | sideTooLong
  /-- A table has more entries than can be addressed. -/
  | tableTooLarge
  /-- There are more numbers in a row than can be listed. -/
  | rowTooLong
  /-- There is no room for a table. -/
  | outOfRoom (table : Layout)
  /-- A number that a message would name has too many digits to be written. -/
  | unwritable
  /-- Scores of different extent cannot be combined. -/
  | misfit
  /-- There are more or fewer verdicts than rolls. -/
  | misaligned
  /-- A game has no event of that name, which is given as it is shown. -/
  | unknownEvent (shown game : String)
  /-- The settings are invalid. -/
  | badSettings (complaints : List Settings.Complaint)
  deriving DecidableEq, Repr

/-- A fault whose message names some numbers.  If one of them has too many digits, the message
cannot be written, and that is the fault. -/
def Fault.naming (numbers : List Int) (fault : Fault) : Fault :=
  if numbers.all Text.isWritable then fault else .unwritable

theorem Fault.naming_of_writable {numbers : List Int} (fault : Fault)
    (h : ∀ n ∈ numbers, Text.isWritable n) : Fault.naming numbers fault = fault :=
  if_pos (List.all_eq_true.mpr h)

/-- A complaint that is a rejection is one without its numbers. -/
theorem Fault.eq_of_naming_eq_rejected {numbers : List Int} {fault : Fault} {reason : Rejection}
    (h : Fault.naming numbers fault = .rejected reason) : fault = .rejected reason := by
  unfold Fault.naming at h
  split at h
  · exact h
  · cases h

/-- A reduction as it is named in a message. -/
def Reduction.label (r : Reduction) : String :=
  "Reduction." ++ (Vocabulary.word r).toUpper

/-- The sides of a table as they are named in a message. -/
def sidesText : List Int → String
  | [n] => s!"({n},)"
  | sides => "(" ++ String.intercalate ", " (sides.map toString) ++ ")"

/-- The wording of a fault. -/
def Fault.message : Fault → String
  | .rejected reason => reason.message
  | .tooFewRolls count => s!"Number of batches must be >= 1, got {count}"
  | .notAChance text => s!"p must be in [0, 1], got {text}"
  | .emptyHorizon horizon => s!"k_max must be >= 1, got {horizon}"
  | .beyondHorizon size horizon => s!"Resolution {size} exceeds horizon {horizon}"
  | .unknownWord shown title => s!"{shown} is not a valid {title}"
  | .noComparison => "Unknown comparison: None"
  | .noBound => "Unknown bound: None"
  | .notAStatistic reduction => s!"Not an aggregate reduction: {reduction.label}"
  | .negativeFace => "faces below nought have no mode"
  | .ragged => "the rolls differ in length"
  | .tooWide => "a face does not fit into 64 bits"
  | .unchecked => "Not a validated condition"
  | .negativeSeed => "expected non-negative integer"
  | .emptyRange => "low >= high"
  | .wideRange => "a bound does not fit into 64 bits"
  | .negativeCount => "negative dimensions are not allowed"
  | .sideTooLong => "Maximum allowed dimension exceeded"
  | .tableTooLarge =>
    "array is too big; `arr.size * arr.dtype.itemsize` is larger than the maximum possible size."
  | .rowTooLong => "Maximum allowed size exceeded"
  | .outOfRoom table =>
    let amount := Decimal.bytes (table.sides.foldr (· * ·) table.cell.bytes).toNat
    s!"Unable to allocate {amount} for an array with shape {sidesText table.sides} and "
      ++ s!"data type {table.cell.label}"
  | .unwritable =>
    s!"Exceeds the limit ({Text.mostDigits} digits) for integer string conversion; "
      ++ "use sys.set_int_max_str_digits() to increase the limit"
  | .misfit => "the scores differ in extent"
  | .misaligned => "there is not one verdict for each roll"
  | .unknownEvent shown game => s!"No preset {shown} for {game}"
  | .badSettings _ => "the settings are invalid"

/-! ## §4 Reading words -/

/-- The member with a given word, or a complaint that there is none. -/
def Vocabulary.read {α : Type} [Vocabulary α] (s : String) : Except Fault α :=
  match Vocabulary.ofWord? s with
  | some a => .ok a
  | none => .error (.unknownWord (Text.quoted s) (Vocabulary.title α))

end DiceOdds
