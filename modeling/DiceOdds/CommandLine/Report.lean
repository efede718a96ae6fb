import DiceOdds.CommandLine.Options
import DiceOdds.FirstSuccess
import DiceOdds.Odds.Simulation
import DiceOdds.Workstation

/-!
# What the Command Line Reports

A run lists the events of a game or simulates one of them, and leaves an exit code and a
log behind.
-/

namespace DiceOdds.CommandLine

/-! ## §1 Logs -/

/-- Who speaks in the log. -/
inductive Speaker where
  /-- The command line itself. -/
  | commandLine
  /-- The drawing of tables. -/
  | sampling
  /-- The estimate over a table. -/
  | simulation
  /-- The program as a whole. -/
  | program
  deriving DecidableEq, Repr

/-- The name under which somebody speaks. -/
def Speaker.name : Speaker → String
  | .commandLine => "roller.main"
  | .sampling => "roller.simulation.batches"
  | .simulation => "roller.simulation.engine"
  | .program => "root"

/-- A line of the log. -/
structure Entry where
  speaker : Speaker
  level : Settings.Level
  message : String
  deriving DecidableEq, Repr

/-- An entry as a line of text. -/
def Entry.text (e : Entry) : String :=
  s!"{e.speaker.name} - {e.level.name} - {e.message}"

/-- A line of the command line itself. -/
def say (level : Settings.Level) (message : String) : Entry :=
  { speaker := .commandLine, level, message }

/-- A run ended in a way that nobody expected. -/
def unexpected (message : String) : Entry :=
  { speaker := .program, level := .error, message := s!"Unexpected error: {message}" }

/-- The entries that are grave enough for a level. -/
def passing (level : Settings.Level) (log : List Entry) : List Entry :=
  log.filter fun e => level.severity ≤ e.level.severity

/-! ## §2 Lines of a simulation -/

/-- A table was drawn. -/
def sampledLine (p : SamplePlan) : Entry :=
  { speaker := .sampling
    level := .debug
    message := s!"Sampled {p.rolls} batches of {p.dice} {p.die.name}" }

/-- A simulation is complete. -/
def simulatedLine (clauses : Nat) (e : Estimate Float) : Entry :=
  let p := Decimal.fixed 4 e.probability
  { speaker := .simulation
    level := .debug
    message := s!"Simulated {clauses} conditions over {e.total} batches: p={p}" }

/-- A simulation was rejected. -/
def rejectedLine (r : Rejection) : Entry :=
  { speaker := .simulation
    level := .warning
    message := s!"Simulation rejected: {r.message}" }

/-- The figures of an event. -/
def figuresLine (name : String) (e : Estimate Float) : Entry :=
  let p := Decimal.fixed 4 e.probability
  let sum := meanText e.sum
  let average := meanText e.average
  say .info s!"{name}: p={p} sum={sum} avg={average} ({e.successes}/{e.total} batches)"

/-- The mean number of rolls to the first success. -/
def waitingLine (d : FirstSuccess Float) : Entry :=
  say .info s!"Expected rolls until success: {Decimal.fixed 2 d.expected.toFloat}"

/-! ## §3 Missing values -/

/-- A value that a run needs and an option was left without. -/
inductive Gap where
  | game
  | die
  /-- The frozen die at a place in the list of frozen dice. -/
  | pin (index : Nat)
  /-- The number of dice, from which frozen ones may have to be subtracted. -/
  | count (includeFrozen : Bool)
  | batchSize
  deriving DecidableEq, Repr

/-- The wording of a complaint about a missing value. -/
def Gap.message : Gap → String
  | .game => "'list' object has no attribute 'upper'"
  | .die => "unhashable type: 'list'"
  | .pin index => s!"dictionary update sequence element #{index} has length 0; 2 is required"
  | .count true => "'<=' not supported between instances of 'list' and 'int'"
  | .count false => "unsupported operand type(s) for -: 'list' and 'int'"
  | .batchSize => "'<' not supported between instances of 'list' and 'int'"

/-- The value of an option. -/
def Given.get {α : Type} (gap : Gap) : Given α → Except Gap α
  | .value a => .ok a
  | .nothing => .error gap

/-- The value of an option that need not be mentioned. -/
def Given.get? {α : Type} (gap : Gap) : Option (Given α) → Except Gap (Option α)
  | none => .ok none
  | some g => (g.get gap).map some

/-- The frozen dice of a list, whose first member is number `index`. -/
def pinEntries (index : Nat) : List (Given (Int × Int)) → Except Gap (List (Int × Int))
  | [] => .ok []
  | g :: rest =>
    match g.get (.pin index) with
    | .ok e => (pinEntries (index + 1) rest).map (e :: ·)
    | .error gap => .error gap

/-! ## §4 Reports -/

/-- Why a run fails. -/
inductive Trouble where
  | fault (f : Fault)
  | gap (g : Gap)
  deriving DecidableEq, Repr

/-- What a run leaves behind. -/
inductive Report where
  /-- The options are to be explained. -/
  | help
  /-- The arguments cannot be read. -/
  | misuse (complaint : String)
  /-- The run came to its end, well or not. -/
  | finished (success : Bool) (log : List Entry)
  deriving DecidableEq, Repr

namespace Report

/-- The exit code of a run. -/
def exitCode : Report → Nat
  | help => 0
  | misuse _ => 2
  | finished success _ => if success then 0 else 1

/-- The log of a run. -/
def log : Report → List Entry
  | finished _ log => log
  | _ => []

/-- The report with only the entries that are grave enough for a level. -/
def atLevel (level : Settings.Level) : Report → Report
  | finished success log => finished success (passing level log)
  | r => r

/-- The report on arguments that cannot be read. -/
def ofStop : Stop → Report
  | .help => help
  | .complaint text => misuse text

/-- The report on a run that fails. -/
def ofTrouble : Trouble → Report
  | .fault (.rejected r) =>
    finished false [rejectedLine r, say .error s!"Simulation failed: {r.message}"]
  | .fault (.unknownEvent shown game) =>
    let message := Text.quoted (Fault.unknownEvent shown game).message
    finished false [say .error s!"Unknown preset: {message}"]
  | .fault f => finished false [unexpected f.message]
  | .gap g => finished false [unexpected g.message]

/-- The report that lists the events of a game. -/
def listing (g : Game) : Report :=
  finished true ((g.events none).map fun e => say .info s!"{g.name}: {e.displayName}")

end Report

/-! ## §5 Runs -/

/-- The event that options name. -/
def Options.event (os : Options) (game : Game) (die : Die) : Option (Except Fault Event) :=
  os.preset.map fun
    | .value name => game.event name (some die)
    | .nothing => .error (.unknownEvent "[]" game.name)

/-- The seed that options give; a seed without a value is nought. -/
def Options.startSeed (os : Options) (standard : Int) : Int :=
  match os.seed with
  | some (.value n) => n
  | some .nothing => 0
  | none => standard

/-- The plan of a drawing, once dice and frozen dice are known.  A missing number of rolls
is noticed when everything else has been checked. -/
def Options.plan (os : Options) (order : OpenOrder) (cfg : Settings) : Except Trouble SamplePlan :=
  match os.batchSize with
  | some .nothing =>
    match ({ order with rolls := some 1 }.fill cfg).check with
    | .ok _ => .error (.gap .batchSize)
    | .error f => .error (.fault f)
  | some (.value n) => ({ order with rolls := some n }.fill cfg).check.mapError .fault
  | none => (order.fill cfg).check.mapError .fault

/-- Simulates an event with a generator of its own, under given settings; returns the
log. -/
def simulateEvent [Memory] (os : Options) (die : Die) (event : Event) (cfg : Settings)
    (entropy : Nat) : Except Trouble (List Entry) := do
  let pins ← (pinEntries 0 os.pins).mapError Trouble.gap
  let seed := os.startSeed (cfg.seed.getD entropy)
  let generator ← (Request.startGenerator seed).mapError Trouble.fault
  let clauses ← (Draft.checkAll event.drafts).mapError fun r => Trouble.fault (.rejected r)
  let includeFrozen := !os.noFrozen && cfg.includeFrozen
  let diceCount ← (Given.get? (.count includeFrozen) os.count).mapError Trouble.gap
  let order : OpenOrder :=
    { die := some die, diceCount, pins := Pins.ofList pins, includeFrozen := some includeFrozen }
  let plan ← os.plan order cfg
  let (table, _) ← (plan.carryOut generator).mapError Trouble.fault
  let estimate ← (table.estimate clauses).mapError Trouble.fault
  (FirstSuccess.requireChance estimate.probability).mapError Trouble.fault
  let distribution ←
    (FirstSuccess.ofHorizon estimate.probability cfg.horizon).mapError Trouble.fault
  pure [sampledLine plan, simulatedLine clauses.length estimate,
    figuresLine event.displayName estimate, waitingLine distribution]

/-- What options ask for. -/
def perform [Memory] (os : Options) (cfg : Settings) (entropy : Nat) : Except Trouble Report := do
  let game ← (os.game.get .game).mapError Trouble.gap
  let die ← (os.die.get .die).mapError Trouble.gap
  match os.event game die with
  | none => pure (.listing game)
  | some event =>
    let event ← event.mapError Trouble.fault
    return .finished true (← simulateEvent os die event cfg entropy)

/-- A whole run.  The settings are read before the arguments, and decide which entries
of the log are shown. -/
def run [Memory] {σ : Type} (arguments : List String) : Request σ Report := do
  let cfg ← Request.settings
  let s ← get
  match Options.ofArguments arguments with
  | .error stop => pure (.ofStop stop)
  | .ok os =>
    match perform os cfg s.entropy with
    | .ok report => pure (report.atLevel cfg.logLevel)
    | .error trouble => pure ((Report.ofTrouble trouble).atLevel cfg.logLevel)

end DiceOdds.CommandLine
