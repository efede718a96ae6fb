import DiceOdds.Settings.Field

/-!
# Settings

The values that a request may leave to the settings.  They are read field by field from
texts; a field without a text takes its default, and all complaints are reported in the
order of the fields.
-/

namespace DiceOdds

namespace Settings

/-! ## §1 Log levels -/

/-- The names of the log levels.  Two names share a severity in two cases. -/
inductive Level where
  | critical | fatal | error | warn | warning | info | debug | notset
  deriving DecidableEq, Repr

/-- The name of a level. -/
def Level.name : Level → String
  | .critical => "CRITICAL"
  | .fatal => "FATAL"
  | .error => "ERROR"
  | .warn => "WARN"
  | .warning => "WARNING"
  | .info => "INFO"
  | .debug => "DEBUG"
  | .notset => "NOTSET"

/-- How grave an entry must be to pass a level. -/
def Level.severity : Level → Nat
  | .critical => 50
  | .fatal => 50
  | .error => 40
  | .warn => 30
  | .warning => 30
  | .info => 20
  | .debug => 10
  | .notset => 0

/-- All levels. -/
def Level.all : List Level :=
  [.critical, .fatal, .error, .warn, .warning, .info, .debug, .notset]

/-- The upper case of a character, as far as it consists of letters of ASCII.  Dotless i,
long s, sharp s and the Latin ligatures of f and s are the only characters outside ASCII
whose upper case does. -/
def upperCase (c : Char) : List Char :=
  match c.toNat with
  | 0xDF => ['S', 'S']
  | 0x131 => ['I']
  | 0x17F => ['S']
  | 0xFB00 => ['F', 'F']
  | 0xFB01 => ['F', 'I']
  | 0xFB02 => ['F', 'L']
  | 0xFB03 => ['F', 'F', 'I']
  | 0xFB04 => ['F', 'F', 'L']
  | 0xFB05 => ['S', 'T']
  | 0xFB06 => ['S', 'T']
  | n => if 97 ≤ n ∧ n ≤ 122 then [Char.ofNat (n - 32)] else [c]

/-- The level with a given name, in any mixture of cases. -/
def Level.ofText? (s : String) : Option Level :=
  let name := String.ofList (s.toList.flatMap upperCase)
  all.find? fun l => l.name == name

/-- The level that a text names. -/
def readLevel (s : String) : Except Cause Level :=
  match Level.ofText? s with
  | some l => .ok l
  | none => .error (.unknownLevel s)

end Settings

/-! ## §2 The record -/

/-- A customary number of rolls in a table. -/
inductive TableSize where
  | small | medium | large
  deriving DecidableEq, Repr

namespace TableSize

/-- The number of rolls. -/
def rolls : TableSize → Nat
  | small => 1000
  | medium => 5000
  | large => 10000

/-- The name of a size. -/
def name : TableSize → String
  | small => "SMALL"
  | medium => "MEDIUM"
  | large => "LARGE"

/-- All sizes. -/
def all : List TableSize := [small, medium, large]

end TableSize

/-- The values that a request may leave open. -/
structure Settings where
  /-- Rolls per table. -/
  batchSize : Int := TableSize.medium.rolls
  /-- Dice per roll. -/
  diceCount : Int := 5
  /-- Whether frozen dice stay in the roll. -/
  includeFrozen : Bool := true
  /-- The seed of a generator that is given none. -/
  seed : Option Nat := none
  /-- The number of rolls that a distribution covers. -/
  horizon : Int := 10000
  logLevel : Settings.Level := .info
  deriving DecidableEq, Repr

namespace Settings

/-! ## §3 Reading all fields -/

/-- A field's value: the default without a text, or else what the text says. -/
def readField {α : Type} (f : Field) (text : Option String) (standard : α)
    (read : String → Except Cause α) : Except Complaint α :=
  match text with
  | none => .ok standard
  | some s => (read s).mapError fun cause => { field := f, cause }

/-- The complaint of a field, if there is one. -/
def complaintOf {α : Type} : Except Complaint α → List Complaint
  | .ok _ => []
  | .error c => [c]

/-- Reads a seed. -/
def readSeed (s : String) : Except Cause (Option Nat) :=
  (readNumber .seed s).map fun n => some n.toNat

/-- The settings given by a text for each field. -/
def ofTexts (texts : Field → Option String) : Except (List Complaint) Settings :=
  let batchSize :=
    readField .batchSize (texts .batchSize) (TableSize.medium.rolls : Int) (readNumber .batchSize)
  let diceCount := readField .diceCount (texts .diceCount) 5 (readNumber .diceCount)
  let includeFrozen := readField .includeFrozen (texts .includeFrozen) true readBool
  let seed := readField .seed (texts .seed) none readSeed
  let horizon := readField .horizon (texts .horizon) 10000 (readNumber .horizon)
  let logLevel := readField .logLevel (texts .logLevel) .info readLevel
  match batchSize, diceCount, includeFrozen, seed, horizon, logLevel with
  | .ok batchSize, .ok diceCount, .ok includeFrozen, .ok seed, .ok horizon, .ok logLevel =>
    .ok { batchSize, diceCount, includeFrozen, seed, horizon, logLevel }
  | _, _, _, _, _, _ =>
    .error (complaintOf batchSize ++ complaintOf diceCount ++ complaintOf includeFrozen ++
      complaintOf seed ++ complaintOf horizon ++ complaintOf logLevel)

end Settings

end DiceOdds
