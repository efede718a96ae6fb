import DiceOdds.Fault
import DiceOdds.Game.Event

/-!
# Games and Their Events

Five games, each with the events that its players hope for.  The events name no die; one
is chosen before they are simulated.
-/

namespace DiceOdds

/-- A game with ready-made events. -/
inductive Game where
  | examples | yahtzee | backgammon | farkle | monopoly
  deriving DecidableEq, Repr

instance : Vocabulary Game where
  title := "Game"
  all := [.examples, .yahtzee, .backgammon, .farkle, .monopoly]
  word
    | .examples => "Examples"
    | .yahtzee => "Yahtzee"
    | .backgammon => "Backgammon"
    | .farkle => "Farkle"
    | .monopoly => "Monopoly"

namespace Game

/-- The name of a game. -/
def name (g : Game) : String := Vocabulary.word g

/-- What a game is about. -/
def description : Game → String
  | examples => "Basic examples to get you started"
  | yahtzee => "Try to see if you can roll a Yahtzee"
  | backgammon => "Sixes or Doubles to move pips"
  | farkle => "Get as many points without rolling a Farkle"
  | monopoly => "Double or Sum of Two Dice to get Boardwalk"

/-- The games in the order of the catalogue. -/
def catalogue : List Game := [examples, monopoly, yahtzee, backgammon, farkle]

/-- The mean of the dice lies between 3 and 5. -/
def averageFromThreeToFive : Draft :=
  { bound := some .exactly
    reduction := some (.statistic .average)
    comparison := some .between
    span := ⟨3, 5⟩
    link := some .first }

/-- Two ones stand side by side. -/
def snakeEyes : Draft :=
  { bound := some .atLeast
    quantity := 2
    reduction := some .consecutive
    comparison := some .equals
    value := 1
    link := some .first }

/-- The events of a game, for no die in particular. -/
def plainEvents : Game → List Event
  | examples =>
    [{ name := "Exactly Two, Ones", drafts := [showing 2 1 .exactly .first] },
     { name := "Avg Between 3 & 5", drafts := [averageFromThreeToFive] },
     { name := "Snake Eyes", drafts := [snakeEyes] }]
  | monopoly =>
    [{ name := "Doubles", drafts := ofAKind 2 .exactly },
     { name := "Sum of 2 Dice", drafts := [statisticIs .sum 2 7] }]
  | yahtzee =>
    [{ name := "Two of a Kind", drafts := ofAKind 2 .atLeast },
     { name := "Three of a Kind", drafts := ofAKind 3 .atLeast },
     { name := "Four of a Kind", drafts := ofAKind 4 .atLeast },
     { name := "Full House", drafts := someGroupOf [3, 2] (orderedPairs usualFaces) },
     { name := "Small Straight", drafts := straight 4 },
     { name := "Large Straight", drafts := straight 5 },
     { name := "Yahtzee", drafts := ofAKind 5 .exactly },
     { name := "Chance", drafts := [statisticIs .sum 5 15] }]
  | backgammon =>
    [{ name := "Double Sixes", drafts := [showing 2 6 .exactly .first] },
     { name := "Any Double", drafts := ofAKind 2 .exactly }]
  | farkle =>
    [{ name := "At Least One, 1", drafts := [someShowing 1 .first] },
     { name := "At Least One, 5", drafts := [someShowing 5 .first] },
     { name := "At Least One, 1 or 5", drafts := [someShowing 1 .first, someShowing 5 .or] },
     { name := "Any Three of a Kind", drafts := ofAKind 3 .atLeast },
     { name := "Any Four of a Kind", drafts := ofAKind 4 .atLeast },
     { name := "Any Five of a Kind", drafts := ofAKind 5 .atLeast },
     { name := "Any Six of a Kind", drafts := ofAKind 6 .atLeast },
     { name := "1-6 Straight", drafts := straight 6 },
     { name := "Three Pairs", drafts := someGroupOf [2, 2, 2] (selections 3 usualFaces) },
     { name := "Four of Any Number w/ a Pair",
       drafts := someGroupOf [4, 2] (orderedPairs usualFaces) },
     { name := "Two Triplets", drafts := someGroupOf [3, 3] (selections 2 usualFaces) }]

/-- The events of a game for a die. -/
def events (g : Game) (die : Option Die) : List Event :=
  g.plainEvents.map (·.forDie die)

/-- The event of a game with a given name. -/
def event (g : Game) (name : String) (die : Option Die) : Except Fault Event :=
  match (g.events die).find? fun e => e.name == name with
  | some e => .ok e
  | none => .error (.unknownEvent (Text.quoted name) g.name)

end Game

end DiceOdds
