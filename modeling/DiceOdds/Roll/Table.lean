import DiceOdds.Word

/-!
# Rolls and Tables of Rolls

A roll is the list of faces of its dice.  A table holds one or more rolls of one common
width, whose faces fit into machine words; everything that is estimated is estimated
over a table.
-/

namespace DiceOdds

/-- The faces of one roll of dice. -/
abbrev Roll := List Int

/-- One or more rolls of equally many dice. -/
structure RollTable where
  /-- The number of dice of every roll. -/
  width : Nat
  rows : List Roll
  width_pos : 0 < width
  rows_ne_nil : rows ≠ []
  length_of_mem : ∀ r ∈ rows, r.length = width
  holds_of_mem : ∀ r ∈ rows, ∀ x ∈ r, Word.Holds x

namespace RollTable

/-- The number of rolls. -/
def size (t : RollTable) : Nat := t.rows.length

theorem size_pos (t : RollTable) : 0 < t.size :=
  List.length_pos_iff.mpr t.rows_ne_nil

/-- Two tables are the same if their rolls are. -/
theorem ext_rows {t u : RollTable} (h : t.rows = u.rows) : t = u := by
  cases t with
  | mk width rows width_pos rows_ne_nil length_of_mem holds_of_mem =>
    cases u with
    | mk width' rows' _ _ length_of_mem' _ =>
      cases h
      obtain ⟨r, hr⟩ := List.exists_mem_of_ne_nil rows rows_ne_nil
      have hw : width = width' := (length_of_mem r hr).symm.trans (length_of_mem' r hr)
      cases hw
      rfl

/-- The table with the given rolls, if they form one. -/
def ofRows? (rows : List Roll) : Option RollTable :=
  match rows with
  | [] => none
  | first :: rest =>
    if h : 0 < first.length ∧ (∀ r ∈ rest, r.length = first.length) ∧
        ∀ r ∈ first :: rest, ∀ x ∈ r, Word.Holds x then
      some
        { width := first.length
          rows := first :: rest
          width_pos := h.1
          rows_ne_nil := List.cons_ne_nil _ _
          length_of_mem := by
            intro r hr
            rcases List.mem_cons.mp hr with rfl | hr
            · rfl
            · exact h.2.1 r hr
          holds_of_mem := h.2.2 }
    else none

/-- A table that is built from rolls has those rolls. -/
theorem rows_of_ofRows? {rows : List Roll} {t : RollTable} (h : ofRows? rows = some t) :
    t.rows = rows := by
  unfold ofRows? at h
  split at h
  · cases h
  · split at h
    · cases h; rfl
    · cases h

end RollTable

end DiceOdds
