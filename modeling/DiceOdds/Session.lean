import DiceOdds.Fault
import DiceOdds.Random.Scripted
import DiceOdds.Roll.Nested
import DiceOdds.Sampling.Plan
import DiceOdds.Settings.Cache

/-!
# Sessions

What requests share: the cached settings and, if one was provided, a source of random
numbers.  A request runs in a session and leaves a session behind, whether it succeeds
or not.
-/

namespace DiceOdds

/-! ## §1 Sessions and requests -/

/-- The state that requests share. -/
structure Session (σ : Type) where
  cache : Settings.Cache := {}
  /-- The shared source; without one, a generator is started for each drawing. -/
  source : Option σ := none
  /-- The seed of such a generator, if the settings give none. -/
  entropy : Nat := 0

/-- A request: it succeeds or fails, and moves the session on. -/
abbrev Request (σ α : Type) := ExceptT Fault (StateM (Session σ)) α

namespace Request

variable {σ α : Type}

/-- Runs a request in a session. -/
def runIn (x : Request σ α) (s : Session σ) : Except Fault α × Session σ :=
  (x.run).run s

/-- A request that leaves the session alone. -/
def ofExcept (e : Except Fault α) : Request σ α := ExceptT.mk (pure e)

/-- A request that fails only by rejection. -/
def ofChecked (e : Except Rejection α) : Request σ α := ofExcept (e.mapError .rejected)

/-- The settings. -/
def settings : Request σ Settings := ExceptT.mk fun s =>
  let (result, cache) := s.cache.read
  (result.mapError .badSettings, { s with cache })

/-- A generator started from an integer. -/
def startGenerator (seed : Int) : Except Fault Random.Permuted :=
  match Random.Permuted.ofInt? seed with
  | some g => .ok g
  | none => .error .negativeSeed

/-- A generator started from a seed, or from the seed of the settings. -/
def generator (seed : Option Int) : Request σ Random.Permuted := do
  let seed ← match seed with
    | some n => pure n
    | none => do
      let cfg ← settings
      let s ← get
      pure (cfg.seed.getD s.entropy : Int)
  ofExcept (startGenerator seed)

/-! ## §2 Drawing tables -/

variable [Memory]

/-- Carries out a plan with the shared source, or with a generator of its own.  Such a
generator is started before the size of the table is looked at. -/
def draw [Source σ] (p : SamplePlan) : Request σ RollTable := do
  let s ← get
  match s.source with
  | some g =>
    let (t, g') ← ofExcept (p.carryOut g)
    set { s with source := some g' }
    pure t
  | none =>
    -- the settings are read only here, after the order was checked
    let g ← generator none
    let (t, _) ← ofExcept (p.carryOut g)
    pure t

/-- Draws the table of an order. -/
def sampleMany [Source σ] (o : SampleOrder) : Request σ RollTable := do
  let p ← ofExcept o.check
  draw p

/-- Draws a single roll; the number of rolls of the order is ignored. -/
def sampleOne [Source σ] (o : SampleOrder) : Request σ Roll := do
  let t ← sampleMany { o with rolls := 1 }
  pure (t.rows.headD [])

end Request

/-! ## §3 Open orders -/

variable [Memory]

/-- An order that may leave choices to the settings. -/
structure OpenOrder where
  rolls : Option Int := none
  die : Option Die := none
  diceCount : Option Int := none
  pins : Pins := Pins.empty
  includeFrozen : Option Bool := none

/-- Fills the open choices from the settings; given ones win. -/
def OpenOrder.fill (o : OpenOrder) (cfg : Settings) : SampleOrder :=
  { rolls := o.rolls.getD cfg.batchSize
    die := o.die
    diceCount := o.diceCount.getD cfg.diceCount
    pins := o.pins
    includeFrozen := o.includeFrozen.getD cfg.includeFrozen }

/-- Draws the table of an open order.  The settings are read first. -/
def Request.sampleConfigured {σ : Type} [Source σ] (o : OpenOrder) : Request σ RollTable := do
  let cfg ← settings
  sampleMany (o.fill cfg)

/-! ## §4 Given or drawn tables -/

/-- Where the rolls of a request come from. -/
inductive Supply where
  /-- Rolls that are already there. -/
  | given (rolls : Nested)
  /-- Rolls that are to be drawn. -/
  | drawn (order : OpenOrder)

/-- The table of a supply. -/
def Request.table {σ : Type} [Source σ] : Supply → Request σ RollTable
  | .given rolls => ofExcept rolls.toTable
  | .drawn order => sampleConfigured order

end DiceOdds
