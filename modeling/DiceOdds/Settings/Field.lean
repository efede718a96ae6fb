import DiceOdds.Settings.Whole

/-!
# Fields of the Settings

The six settings, how the text of each kind of setting is read, and what can be wrong
with it.
-/

namespace DiceOdds.Settings

/-! ## §1 Fields -/

/-- A setting. -/
inductive Field where
  | batchSize | diceCount | includeFrozen | seed | horizon | logLevel
  deriving DecidableEq, Repr

/-- The settings in their customary order. -/
def Field.all : List Field :=
  [.batchSize, .diceCount, .includeFrozen, .seed, .horizon, .logLevel]

/-- The name under which a setting is given. -/
def Field.name : Field → String
  | .batchSize => "default_batch_size"
  | .diceCount => "default_dice_count"
  | .includeFrozen => "include_frozen"
  | .seed => "random_seed"
  | .horizon => "plot_k_max"
  | .logLevel => "log_level"

/-- The least value of a numeric setting. -/
def Field.least : Field → Int
  | .batchSize => 1000
  | .diceCount => 1
  | .horizon => 10
  | _ => 0

/-- The greatest value of a numeric setting, if it is limited. -/
def Field.greatest? : Field → Option Int
  | .batchSize => some 100000
  | .diceCount => some 100
  | .horizon => some 100000
  | _ => none

/-! ## §2 Complaints -/

/-- What is wrong with the text of a setting. -/
inductive Cause where
  | unread (fault : WholeFault)
  | notABoolean
  | tooSmall (least : Int)
  | tooLarge (greatest : Int)
  | unknownLevel (text : String)
  deriving DecidableEq, Repr

/-- The kind of a complaint, in one word. -/
def Cause.kind : Cause → String
  | .unread .malformed => "int_parsing"
  | .unread .tooLong => "int_parsing_size"
  | .notABoolean => "bool_parsing"
  | .tooSmall _ => "greater_than_equal"
  | .tooLarge _ => "less_than_equal"
  | .unknownLevel _ => "value_error"

/-- The wording of a complaint. -/
def Cause.message : Cause → String
  | .unread .malformed =>
    "Input should be a valid integer, unable to parse string as an integer"
  | .unread .tooLong =>
    "Unable to parse input string as an integer, exceeded maximum size"
  | .notABoolean => "Input should be a valid boolean, unable to interpret input"
  | .tooSmall least => s!"Input should be greater than or equal to {least}"
  | .tooLarge greatest => s!"Input should be less than or equal to {greatest}"
  | .unknownLevel text => s!"Value error, Unknown log level: {text}"

/-- A complaint about one setting. -/
structure Complaint where
  field : Field
  cause : Cause
  deriving DecidableEq, Repr

/-! ## §3 Reading numbers -/

/-- A numeric setting within its limits. -/
def readNumber (f : Field) (s : String) : Except Cause Int :=
  match readWhole s with
  | .error fault => .error (.unread fault)
  | .ok n =>
    if n < f.least then .error (.tooSmall f.least)
    else match f.greatest? with
      | some greatest => if greatest < n then .error (.tooLarge greatest) else .ok n
      | none => .ok n

/-! ## §4 Reading truth values -/

/-- A letter of ASCII in lower case. -/
def lowerAscii (c : Char) : Char :=
  if 65 ≤ c.toNat ∧ c.toNat ≤ 90 then Char.ofNat (c.toNat + 32) else c

/-- A truth value, in any of its spellings. -/
def readBool (s : String) : Except Cause Bool :=
  let word := String.ofList (s.toList.map lowerAscii)
  if ["1", "true", "t", "yes", "y", "on"].contains word then .ok true
  else if ["0", "false", "f", "no", "n", "off"].contains word then .ok false
  else .error .notABoolean

/-! ## §5 Limits -/

/-- A number that is read lies within the limits of its field. -/
theorem readNumber_bounds {f : Field} {s : String} {n : Int} (h : readNumber f s = .ok n) :
    f.least ≤ n ∧ ∀ g, f.greatest? = some g → n ≤ g := by
  unfold readNumber at h
  split at h
  · cases h
  · next m _ =>
    split at h
    · cases h
    · next hlow =>
      split at h
      · next g hg =>
        split at h
        · cases h
        · next hhigh =>
          cases h
          exact ⟨by omega, fun g' hg' => by rw [hg] at hg'; cases hg'; omega⟩
      · next hg =>
        cases h
        exact ⟨by omega, fun g' hg' => by rw [hg] at hg'; cases hg'⟩

end DiceOdds.Settings
