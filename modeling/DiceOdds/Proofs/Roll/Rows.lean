import DiceOdds.Roll.Nested

/-!
# Tables and Their Rows

A table is recovered from its rows written as nested lists (`toTable_ofRows`), and every row
of a table is a table of its own (`only`).  So what is said about tables covers all nested
lists that describe one, and what is said about single rolls covers the rows of a table.
-/

namespace DiceOdds

/-! ## §1 Rows as nested lists -/

namespace Nested

/-- Members of one shape share that shape. -/
theorem commonShape?_of_forall {members : List Nested} {shape : List Nat} (hne : members ≠ [])
    (h : ∀ n ∈ members, n.shape? = some shape) : commonShape? members = some shape := by
  induction members with
  | nil => exact absurd rfl hne
  | cons n rest ih =>
    have hn := h n List.mem_cons_self
    -- two members and more are compared with those behind them
    cases rest with
    | nil => simpa only [commonShape?] using hn
    | cons m rest =>
      have hrest := ih (List.cons_ne_nil m rest) fun n hn => h n (List.mem_cons_of_mem _ hn)
      simp only [commonShape?, hn, hrest, if_true]

/-- The faces of a roll, each as an entry of its own. -/
@[simp] theorem facesOf_map_face (r : Roll) : facesOf (r.map face) = r := by
  induction r with
  | nil => rfl
  | cons x r ih => rw [List.map_cons, facesOf, ih]; rfl

@[simp] theorem faces_list_map_face (r : Roll) : (list (r.map face)).faces = r := by
  rw [faces, facesOf_map_face]

theorem shape?_list_map_face {r : Roll} (hr : r ≠ []) :
    (list (r.map face)).shape? = some [r.length] := by
  have hfaces : ∀ n ∈ r.map face, n.shape? = some [] := by
    intro n hn
    obtain ⟨x, -, rfl⟩ := List.mem_map.mp hn
    rw [shape?]
  rw [shape?, commonShape?_of_forall (by simpa using hr) hfaces, List.length_map]
  rfl

theorem shape?_ofRows {rows : List Roll} {width : Nat} (hne : rows ≠ []) (hwidth : 0 < width)
    (h : ∀ r ∈ rows, r.length = width) : (ofRows rows).shape? = some [rows.length, width] := by
  have hrolls : ∀ n ∈ rows.map fun r => list (r.map face), n.shape? = some [width] := by
    intro n hn
    obtain ⟨r, hr, rfl⟩ := List.mem_map.mp hn
    rw [shape?_list_map_face (List.ne_nil_of_length_pos (h r hr ▸ hwidth)), h r hr]
  rw [ofRows, shape?, commonShape?_of_forall (by simpa using hne) hrolls, List.length_map]
  rfl

theorem faces_ofRows (rows : List Roll) : (ofRows rows).faces = rows.flatten := by
  rw [ofRows, faces]
  induction rows with
  | nil => rfl
  | cons r rows ih => rw [List.map_cons, facesOf, faces_list_map_face, ih, List.flatten_cons]

theorem rolls_ofRows (rows : List Roll) : (ofRows rows).rolls 2 = rows := by
  simp only [ofRows, rolls, List.map_map]
  calc rows.map (faces ∘ fun r => list (r.map face))
      = rows.map id := List.map_congr_left fun r _ => faces_list_map_face r
    _ = rows := List.map_id rows

end Nested

/-! ## §2 Tables from their rows -/

namespace RollTable

/-- The rolls of a table have dice. -/
theorem ne_nil_of_mem_rows {t : RollTable} {r : Roll} (h : r ∈ t.rows) : r ≠ [] :=
  List.ne_nil_of_length_pos (t.length_of_mem r h ▸ t.width_pos)

theorem ofRows?_rows (t : RollTable) : ofRows? t.rows = some t := by
  obtain ⟨first, rest, hrows⟩ := List.exists_cons_of_ne_nil t.rows_ne_nil
  have hlength := t.length_of_mem
  have hholds := t.holds_of_mem
  rw [hrows] at hlength hholds
  have hfirst := hlength first List.mem_cons_self
  have hok : 0 < first.length ∧ (∀ r ∈ rest, r.length = first.length) ∧
      ∀ r ∈ first :: rest, ∀ x ∈ r, Word.Holds x :=
    ⟨hfirst ▸ t.width_pos,
      fun r hr => (hlength r (List.mem_cons_of_mem _ hr)).trans hfirst.symm, hholds⟩
  rw [hrows]
  simp only [ofRows?, dif_pos hok]
  exact congrArg some (ext_rows hrows.symm)

/-- A table is recovered from its rows. -/
theorem toTable_ofRows (t : RollTable) : (Nested.ofRows t.rows).toTable = .ok t := by
  have hfaces : ((Nested.ofRows t.rows).faces.all fun x => Word.Holds x) = true := by
    rw [Nested.faces_ofRows, List.all_eq_true]
    intro x hx
    obtain ⟨r, hr, hx⟩ := List.mem_flatten.mp hx
    exact decide_eq_true (t.holds_of_mem r hr x hx)
  -- tables are two lists deep
  have hdeep : ¬Nested.deepest < 2 := by decide
  have hrows : ofRows? ((Nested.ofRows t.rows).rolls 2) = some t := by
    rw [Nested.rolls_ofRows, ofRows?_rows]
  rw [Nested.toTable, Nested.shape?_ofRows t.rows_ne_nil t.width_pos t.length_of_mem]
  simp only [List.length_cons, List.length_nil, Nat.zero_add, Nat.reduceAdd, if_neg hdeep,
    if_pos hfaces, hrows]

/-- A roll as a table of its own. -/
def ofRoll (r : Roll) (hr : r ≠ []) (hwords : ∀ x ∈ r, Word.Holds x) : RollTable where
  width := r.length
  rows := [r]
  width_pos := List.length_pos_iff.mpr hr
  rows_ne_nil := List.cons_ne_nil r []
  length_of_mem := by
    intro s hs
    rw [List.mem_singleton.mp hs]
  holds_of_mem := by
    intro s hs
    rw [List.mem_singleton.mp hs]
    exact hwords

theorem mem_rows_ofRoll {r : Roll} (hr : r ≠ []) (hwords : ∀ x ∈ r, Word.Holds x) :
    r ∈ (ofRoll r hr hwords).rows :=
  List.mem_singleton.mpr rfl

/-- A row of a table as a table of its own. -/
def only (t : RollTable) {r : Roll} (hr : r ∈ t.rows) : RollTable where
  width := t.width
  rows := [r]
  width_pos := t.width_pos
  rows_ne_nil := List.cons_ne_nil r []
  length_of_mem := by
    intro s hs
    rw [List.mem_singleton.mp hs]
    exact t.length_of_mem r hr
  holds_of_mem := by
    intro s hs
    rw [List.mem_singleton.mp hs]
    exact t.holds_of_mem r hr

theorem toTable_ofRows_singleton (t : RollTable) {r : Roll} (hr : r ∈ t.rows) :
    (Nested.ofRows [r]).toTable = .ok (t.only hr) :=
  toTable_ofRows (t.only hr)

end RollTable

end DiceOdds
