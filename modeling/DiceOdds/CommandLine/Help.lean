import DiceOdds.CommandLine.Options

/-!
# Help on the Command Line

The texts that explain the options.
-/

namespace DiceOdds.CommandLine

/-- What an option is for. -/
def Opt.explanation : Opt → String
  | .help => "show this help message and exit"
  | .game => "one of " ++ choicesText ((Vocabulary.all : List Game).map gameChoice)
  | .preset => "Preset name; omit to list the game's presets"
  | .dice => "one of " ++ choicesText (Die.all.map Die.name)
  | .count => "Dice per roll"
  | .batchSize => "Rolls to sample"
  | .seed => "Seed of the generator"
  | .pin => "Freeze the die at position POS (0-based) to FACE; repeatable"
  | .noFrozen => "Drop pinned dice from the roll instead of keeping their faces"

/-- What stands for the value of an option. -/
def Opt.placeholder : Opt → String
  | .help | .noFrozen => ""
  | .pin => " POS=FACE"
  | .count | .batchSize | .seed => " N"
  | _ => " NAME"

/-- All options. -/
def Opt.all : List Opt :=
  [.help, .game, .preset, .dice, .count, .batchSize, .seed, .pin, .noFrozen]

/-- An option with its placeholder. -/
def Opt.synopsis (o : Opt) : String := o.label ++ o.placeholder

/-- How the program is called. -/
def usage : String :=
  "usage: roller " ++ String.intercalate " " (Opt.all.map fun o => s!"[{o.synopsis}]")

/-- The explanation of all options. -/
def helpText : String :=
  String.intercalate "\n" <|
    [usage, "", "Estimate how often a preset dice condition holds.", "", "options:"] ++
      Opt.all.map fun o => s!"  {o.synopsis}\n      {o.explanation}"

end DiceOdds.CommandLine
