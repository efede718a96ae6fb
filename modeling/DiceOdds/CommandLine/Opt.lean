/-!
# The Options of the Command Line

The options, how they are spelled, and why reading them may stop.
-/

namespace DiceOdds.CommandLine

/-- An option of the command line. -/
inductive Opt where
  | help | game | preset | dice | count | batchSize | seed | pin | noFrozen
  deriving DecidableEq, Repr

/-- The spellings of the options, in the order in which they are offered. -/
def spellings : List (String × Opt) :=
  [("-h", .help), ("--help", .help), ("--game", .game), ("--preset", .preset),
   ("--dice", .dice), ("--count", .count), ("--batch-size", .batchSize), ("--seed", .seed),
   ("--pin", .pin), ("--no-frozen", .noFrozen)]

/-- Whether an option takes a value. -/
def Opt.takesValue : Opt → Bool
  | .help | .noFrozen => false
  | _ => true

/-- An option as it is named in a complaint. -/
def Opt.label (o : Opt) : String :=
  String.intercalate "/" ((spellings.filter fun s => s.2 = o).map Prod.fst)

/-- Why reading stops before the options are complete. -/
inductive Stop where
  | help
  | complaint (text : String)
  deriving DecidableEq, Repr

/-- A complaint about an option. -/
def complaintAbout (o : Opt) (text : String) : Stop :=
  .complaint s!"argument {o.label}: {text}"

end DiceOdds.CommandLine
