/-!
# Machine Words

Totals of a roll are kept in signed 64-bit words.  `wrap` is the word that an integer
leaves behind; integers inside the range are left alone.
-/

namespace DiceOdds.Word

/-- The least word. -/
def least : Int := -9223372036854775808

/-- The greatest word. -/
def greatest : Int := 9223372036854775807

/-- Whether an integer is a word. -/
def Holds (x : Int) : Prop := least ≤ x ∧ x ≤ greatest

instance (x : Int) : Decidable (Holds x) := inferInstanceAs (Decidable (_ ∧ _))

/-- The word congruent to an integer modulo `2 ^ 64`. -/
def wrap (x : Int) : Int :=
  if Holds x then x else x.bmod 18446744073709551616

@[simp] theorem wrap_of_holds {x : Int} (h : Holds x) : wrap x = x := if_pos h

/-- Every wrapped integer is a word. -/
theorem holds_wrap (x : Int) : Holds (wrap x) := by
  unfold wrap
  split
  · assumption
  · unfold Holds least greatest
    have h1 : -(18446744073709551616 / 2 : Int) ≤ x.bmod 18446744073709551616 :=
      Int.le_bmod (by decide)
    have h2 : x.bmod 18446744073709551616 < (18446744073709551616 + 1) / 2 :=
      Int.bmod_lt (by decide)
    omega

/-- Wrapping keeps the residue. -/
theorem wrap_emod (x : Int) : wrap x % 18446744073709551616 = x % 18446744073709551616 := by
  unfold wrap
  split
  · rfl
  · exact Int.bmod_emod

end DiceOdds.Word
