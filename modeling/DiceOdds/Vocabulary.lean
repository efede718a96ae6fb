/-!
# Closed Vocabularies

Several notions of the library are closed lists of words.  A vocabulary lists its
members in a fixed order and gives each one a word; a word is read by looking it up.
-/

namespace DiceOdds

/-- A finite list of members, each with a word of its own. -/
class Vocabulary (α : Type) where
  /-- What the members are called in a message about an unknown word. -/
  title : String
  /-- The members in their customary order. -/
  all : List α
  /-- The word of a member. -/
  word : α → String

namespace Vocabulary

variable {α : Type} [Vocabulary α]

/-- The member with a given word. -/
def ofWord? (s : String) : Option α :=
  (all : List α).find? fun a => word a == s

/-- The words in order. -/
def words (α : Type) [Vocabulary α] : List String :=
  (all : List α).map word

/-- A word that is read belongs to the member it is read as. -/
theorem word_of_ofWord? {s : String} {a : α} (h : ofWord? s = some a) : word a = s := by
  simpa using List.find?_some h

end Vocabulary

end DiceOdds
