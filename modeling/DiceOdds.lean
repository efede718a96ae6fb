import DiceOdds.Chain.Extent
import DiceOdds.Game.Ranking
import DiceOdds.Main
import DiceOdds.Proofs.Game.Patterns
import DiceOdds.Proofs.Odds.Drawn
import DiceOdds.Proofs.Odds.Isolation
import DiceOdds.Proofs.Odds.RollByRoll
import DiceOdds.Proofs.Sweep.Partition
import DiceOdds.Proofs.Sweep.Quantity
import DiceOdds.Random.Draws
import DiceOdds.Proofs.Sweep.Trend
import DiceOdds.Proofs.Sweep.Value
import DiceOdds.Proofs.Roll.Walks
import DiceOdds.Proofs.Sweep.Ranges
import DiceOdds.Proofs.Odds.DrawnOnce
import DiceOdds.Proofs.Clause.Relevance
import DiceOdds.Proofs.Odds.Noninterference
import DiceOdds.Proofs.Roll.MaximalRuns
import DiceOdds.Proofs.Roll.Search
import DiceOdds.Proofs.Game.Peaks
import DiceOdds.Proofs.Game.Rarity
import DiceOdds.Proofs.Numeric.Doubles
import DiceOdds.Proofs.Sampling.Frozen
import DiceOdds.Proofs.Odds.Frozen
import DiceOdds.Proofs.Roll.Symmetry
import DiceOdds.Proofs.Roll.Shift
import DiceOdds.Proofs.Odds.Complement
import DiceOdds.Proofs.Roll.Ranks
import DiceOdds.Proofs.Sampling.LeftOut
import DiceOdds.Proofs.Sampling.Repeated
import DiceOdds.Proofs.Numeric.Means
import DiceOdds.Proofs.Odds.Additive
import DiceOdds.Proofs.Odds.Conditional
import DiceOdds.Proofs.Sweep.Conservation
import DiceOdds.Proofs.Clause.Variants
import DiceOdds.Proofs.Game.Standings
import DiceOdds.Proofs.Mentions
import DiceOdds.Proofs.Clause.Overrides
import DiceOdds.Proofs.FirstSuccess
import DiceOdds.Proofs.Text.Literals
import DiceOdds.Proofs.CommandLine.Pins
import DiceOdds.Proofs.CommandLine.Refusals
import DiceOdds.Proofs.Settings.History
import DiceOdds.Proofs.Settings.Defaults
import DiceOdds.Proofs.Clause.Defaults
import DiceOdds.Proofs.Odds.Words
import DiceOdds.Proofs.Sweep.Scaling
