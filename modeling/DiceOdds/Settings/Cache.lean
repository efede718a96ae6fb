import DiceOdds.Settings.Basic
import DiceOdds.Settings.EnvFile

/-!
# Where Settings Come From

Settings are looked up in the variables of the environment and then in a file of
variables, under names in any mixture of cases.  The first successful reading is kept
until it is dropped; a reading that fails leaves nothing behind.
-/

namespace DiceOdds.Settings

/-! ## §1 The environment -/

/-- Variables in the order in which they were set, and the text of the file of
variables, if there is one. -/
structure Environment where
  assigned : List (String × String) := []
  file : Option String := none

/-- The lower case of a character, as far as it is a letter of ASCII.  The Kelvin sign is
the only character outside ASCII whose lower case is. -/
def lowerCase (c : Char) : Char :=
  if c.toNat = 0x212A then 'k' else lowerAscii c

/-- A name in lower case. -/
def lowerName (s : String) : String := String.ofList (s.toList.map lowerCase)

/-- The last value given under a name, in any mixture of cases. -/
def lastValue {α : Type} (name : String) (bs : List (String × α)) : Option α :=
  (bs.reverse.find? fun b => lowerName b.1 == name).map Prod.snd

namespace Environment

/-- The value of a variable. -/
def exactValue? (e : Environment) (name : String) : Option String :=
  (e.assigned.reverse.find? fun b => b.1 == name).map Prod.snd

/-- The bindings of the file of variables. -/
def fileBindings (e : Environment) : List EnvFile.Binding :=
  match e.file with
  | none => []
  | some file => EnvFile.bindings e.exactValue? file

/-- The text of each field: that of a variable, or else that of the file. -/
def texts (e : Environment) : Field → Option String :=
  let bs := e.fileBindings
  fun f =>
    match lastValue f.name e.assigned with
    | some s => some s
    | none => (lastValue f.name bs).join

/-- The settings that the environment describes. -/
def settings (e : Environment) : Except (List Complaint) Settings :=
  Settings.ofTexts e.texts

end Environment

/-! ## §2 The cache -/

/-- The environment, and the settings that were read from it, if any. -/
structure Cache where
  environment : Environment := {}
  kept : Option Settings := none

namespace Cache

/-- The kept settings, or else those of the environment, which are kept if they are
valid. -/
def read (c : Cache) : Except (List Complaint) Settings × Cache :=
  match c.kept with
  | some s => (.ok s, c)
  | none =>
    match c.environment.settings with
    | .ok s => (.ok s, { c with kept := some s })
    | .error complaints => (.error complaints, c)

/-- Drops the kept settings. -/
def reset (c : Cache) : Cache := { c with kept := none }

/-- Replaces the environment; kept settings stay. -/
def setEnvironment (c : Cache) (environment : Environment) : Cache :=
  { c with environment }

end Cache

end DiceOdds.Settings
