import DiceOdds.CommandLine.Pin
import DiceOdds.CommandLine.Token
import DiceOdds.Die
import DiceOdds.Game.Catalogue

/-!
# What the Command Line Asks For

Classified arguments are read from left to right; each value is read for its option, and
two hyphens attached to an option leave it with no value at all.  Stray arguments are
complained about in the end.
-/

namespace DiceOdds.CommandLine

/-! ## §1 The record -/

/-- What an option was given. -/
inductive Given (α : Type) where
  | value (a : α)
  /-- The option was mentioned, but left without a value. -/
  | nothing
  deriving DecidableEq, Repr

/-- What the command line asks for. -/
structure Options where
  game : Given Game := .value .examples
  /-- The event to simulate; unless it is mentioned, the events of the game are listed. -/
  preset : Option (Given String) := none
  die : Given Die := .value .d6
  count : Option (Given Int) := none
  batchSize : Option (Given Int) := none
  seed : Option (Given Int) := none
  pins : List (Given (Int × Int)) := []
  noFrozen : Bool := false

/-! ## §2 Values -/

/-- The name under which a game is chosen. -/
def gameChoice (g : Game) : String := g.name.toLower

/-- A list of choices as it stands in a complaint. -/
def choicesText (names : List String) : String :=
  String.intercalate ", " (names.map Text.quoted)

/-- A complaint about a value that is not among the choices. -/
def invalidChoice (o : Opt) (s : String) (names : List String) : Stop :=
  complaintAbout o s!"invalid choice: {Text.quoted s} (choose from {choicesText names})"

/-- The value of an option as an integer. -/
def readNumber (o : Opt) (s : String) : Except Stop (Option (Given Int)) :=
  match Text.readShortInt? s with
  | some n => .ok (some (.value n))
  | none => .error (complaintAbout o s!"invalid int value: {Text.quoted s}")

/-- Takes over the value of an option. -/
def Options.accept (os : Options) (o : Opt) (s : String) : Except Stop Options :=
  match o with
  | .game =>
    let games : List Game := Vocabulary.all
    match games.find? fun g => gameChoice g == s with
    | some game => .ok { os with game := .value game }
    | none => .error (invalidChoice o s (games.map gameChoice))
  | .preset => .ok { os with preset := some (.value s) }
  | .dice =>
    match Die.ofName? s with
    | some die => .ok { os with die := .value die }
    | none => .error (invalidChoice o s (Die.all.map Die.name))
  | .count => (readNumber o s).map fun count => { os with count }
  | .batchSize => (readNumber o s).map fun batchSize => { os with batchSize }
  | .seed => (readNumber o s).map fun seed => { os with seed }
  | .pin =>
    match readPinWith Text.readShortInt? s with
    | .ok e => .ok { os with pins := os.pins ++ [.value e] }
    | .error fault => .error (complaintAbout o fault.message)
  | .help => .error .help
  | .noFrozen => .ok { os with noFrozen := true }

/-- Leaves an option without a value. -/
def Options.leave (os : Options) (o : Opt) : Options :=
  match o with
  | .game => { os with game := .nothing }
  | .preset => { os with preset := some .nothing }
  | .dice => { os with die := .nothing }
  | .count => { os with count := some .nothing }
  | .batchSize => { os with batchSize := some .nothing }
  | .seed => { os with seed := some .nothing }
  | .pin => { os with pins := os.pins ++ [.nothing] }
  | .help | .noFrozen => os

/-- Takes over what is attached to an option. -/
def Options.acceptAttached (os : Options) (o : Opt) (s : String) : Except Stop Options :=
  if s == "--" then .ok (os.leave o) else os.accept o s

/-- A complaint about something attached to an option that takes no value. -/
def ignoredValue (o : Opt) (cs : List Char) : Stop :=
  complaintAbout o s!"ignored explicit argument {Text.quoted (String.ofList cs)}"

/-- What stops reading at the one-letter spelling of help with something attached to it:
the same letter may be repeated, anything else is complained about. -/
def helpStop : List Char → Stop
  | ['h'] => .help
  | 'h' :: c :: cs => helpStop (c :: cs)
  | cs => ignoredValue .help cs

/-- Takes over an option that takes no value. -/
def Options.acceptFlag (os : Options) (o : Opt) (short : Bool) (attached : Option String) :
    Except Stop Options :=
  match attached with
  | none => os.accept o ""
  | some s => .error (if short then helpStop s.toList else ignoredValue o s.toList)

/-! ## §3 All arguments -/

/-- Reads classified arguments from left to right.  `stray` holds the arguments that belong
to no option; they are complained about in the end. -/
def readFrom (os : Options) (stray : List String) :
    List (String × Token) → Except Stop Options
  | [] =>
    if stray.isEmpty then .ok os
    else .error (.complaint ("unrecognized arguments: " ++ String.intercalate " " stray))
  | (s, .value) :: rest => readFrom os (stray ++ [s]) rest
  | (s, .hyphens) :: rest => readFrom os (stray ++ [s]) rest
  | (s, .unknown) :: rest => readFrom os (stray ++ [s]) rest
  | (_, .flag o short attached) :: rest =>
    match os.acceptFlag o short attached with
    | .ok os => readFrom os stray rest
    | .error stop => .error stop
  | (_, .option o (some value)) :: rest =>
    match os.acceptAttached o value with
    | .ok os => readFrom os stray rest
    | .error stop => .error stop
  | (_, .option o none) :: (value, .value) :: rest =>
    match os.accept o value with
    | .ok os => readFrom os stray rest
    | .error stop => .error stop
  | (_, .option o none) :: _ => .error (complaintAbout o "expected one argument")

/-- The options that arguments give. -/
def Options.ofArguments (arguments : List String) : Except Stop Options :=
  match classifyAll arguments with
  | .ok tokens => readFrom {} [] tokens
  | .error stop => .error stop

end DiceOdds.CommandLine
