import DiceOdds.Ordered
import DiceOdds.Roll.Table

/-!
# Frozen Dice

A map from positions of a roll to the faces to which the dice there are frozen.  It
remembers the order in which positions were first mentioned; a later mention of the same
position replaces the face and keeps the place.
-/

namespace DiceOdds

/-! ## §1 Maps -/

/-- Frozen positions and their faces, by order of first mention. -/
structure Pins where
  entries : List (Int × Int)
  nodup : (entries.map Prod.fst).Nodup

namespace Pins

/-- No frozen dice. -/
def empty : Pins := ⟨[], List.nodup_nil⟩

instance : Inhabited Pins := ⟨empty⟩

/-- The number of frozen positions. -/
def size (p : Pins) : Nat := p.entries.length

/-- Freezes positions in order; the last face for a position counts. -/
def ofList (es : List (Int × Int)) : Pins :=
  ⟨Ordered.ofList es, Ordered.nodup_keys_ofList es⟩

/-- The face to which a position is frozen. -/
def face? (p : Pins) (position : Int) : Option Int := p.entries.lookup position

/-- The first frozen position whose face the die does not have. -/
def firstIllegal? (p : Pins) (faces : Nat) : Option (Int × Int) :=
  p.entries.find? fun e => !(1 ≤ e.2 && e.2 ≤ faces)

/-- Turns the die at a position to a face; positions outside the roll are ignored. -/
def turn (r : Roll) (e : Int × Int) : Roll :=
  if 0 ≤ e.1 then r.set e.1.toNat e.2 else r

/-- Turns all frozen dice of a roll to their faces. -/
def fix (p : Pins) (r : Roll) : Roll := p.entries.foldl turn r

/-! ## §2 What fixing keeps -/

@[simp] theorem length_turn (r : Roll) (e : Int × Int) : (turn r e).length = r.length := by
  unfold turn; split <;> simp

theorem length_foldl_turn (es : List (Int × Int)) (r : Roll) :
    (es.foldl turn r).length = r.length := by
  induction es generalizing r with
  | nil => rfl
  | cons e es ih => simp [ih]

@[simp] theorem length_fix (p : Pins) (r : Roll) : (p.fix r).length = r.length :=
  length_foldl_turn _ _

/-- A face of a roll with one die turned is the new face or an old one. -/
theorem mem_turn {r : Roll} {e : Int × Int} {x : Int} (h : x ∈ turn r e) : x = e.2 ∨ x ∈ r := by
  unfold turn at h
  split at h
  · exact (List.mem_or_eq_of_mem_set h).symm
  · exact .inr h

/-- A face of a fixed roll is a frozen face or an old one. -/
theorem mem_foldl_turn {es : List (Int × Int)} {r : Roll} {x : Int} (h : x ∈ es.foldl turn r) :
    (∃ e ∈ es, x = e.2) ∨ x ∈ r := by
  induction es generalizing r with
  | nil => exact .inr h
  | cons e es ih =>
    rcases ih h with ⟨e', he', hx⟩ | hx
    · exact .inl ⟨e', List.mem_cons_of_mem _ he', hx⟩
    · rcases mem_turn hx with hx | hx
      · exact .inl ⟨e, List.mem_cons_self, hx⟩
      · exact .inr hx

end Pins

end DiceOdds
