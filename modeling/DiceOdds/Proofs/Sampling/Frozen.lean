import DiceOdds.Proofs.Sampling.Block

/-!
# Rolls That Are Frozen Throughout

Frozen dice are turned one after another, in the order in which their positions were first
mentioned; since no position is mentioned twice, each of them ends up with its own face and
all other dice are left alone (`getElem?_fix`).  A roll of which every die is frozen is
therefore the roll of the frozen faces, whatever has been drawn, and positions behind its
last die do not matter (`fix_eq_faces`).
-/

namespace DiceOdds

namespace Pins

/-! ## §1 One die after another -/

theorem getElem?_turn (r : Roll) (e : Int × Int) {i : Nat} (hi : i < r.length) :
    (turn r e)[i]? = if (i : Int) = e.1 then some e.2 else r[i]? := by
  unfold turn
  -- a position below nought is that of no die
  by_cases hpos : 0 ≤ e.1
  · have hsame : e.1.toNat = i ↔ (i : Int) = e.1 := by omega
    rw [if_pos hpos, List.getElem?_set]
    by_cases hfirst : (i : Int) = e.1
    · rw [if_pos (hsame.mpr hfirst), if_pos (by omega), if_pos hfirst]
    · rw [if_neg (mt hsame.mp hfirst), if_neg hfirst]
  · have hother : (i : Int) ≠ e.1 := by omega
    rw [if_neg hpos, if_neg hother]

theorem lookup_eq_none {es : List (Int × Int)} {key : Int} (h : key ∉ es.map Prod.fst) :
    es.lookup key = none := by
  rw [List.lookup_eq_none_iff]
  intro e he
  have hne : key ≠ e.1 := by
    rintro rfl
    exact h (List.mem_map_of_mem he)
  simpa using hne

/-- Turning several dice gives each its own face and leaves the others alone. -/
theorem getElem?_foldl_turn {es : List (Int × Int)} (hes : (es.map Prod.fst).Nodup) (r : Roll)
    {i : Nat} (hi : i < r.length) :
    (es.foldl turn r)[i]? = (es.lookup (i : Int)).or r[i]? := by
  -- on the dice that are still to be turned, whatever the roll has come to
  induction es generalizing r with
  | nil => rfl
  | cons e es ih =>
    obtain ⟨hnew, hes⟩ := List.nodup_cons.mp hes
    have hrest := ih hes (turn r e) (by rwa [length_turn])
    rw [List.foldl_cons, hrest, getElem?_turn r e hi, List.lookup_cons]
    by_cases hfirst : (i : Int) = e.1
    · -- no later mention of the position takes its face away again
      have hlast : es.lookup (i : Int) = none := lookup_eq_none (hfirst ▸ hnew)
      rw [if_pos hfirst, hlast, beq_iff_eq.mpr hfirst]
      rfl
    · rw [if_neg hfirst, beq_eq_false_iff_ne.mpr hfirst]

theorem getElem?_fix (p : Pins) (r : Roll) {i : Nat} (hi : i < r.length) :
    (p.fix r)[i]? = (p.face? i).or r[i]? :=
  getElem?_foldl_turn p.nodup r hi

/-! ## §2 Frozen throughout -/

/-- The faces to which the first positions are frozen. -/
def faces (p : Pins) (k : Nat) : Roll := (List.range k).filterMap fun i : Nat => p.face? i

variable {p : Pins} {k : Nat}

theorem map_some_faces (h : ∀ i < k, (p.face? (i : Int)).isSome) :
    (p.faces k).map some = (List.range k).map fun i : Nat => p.face? i := by
  rw [faces, List.map_filterMap_some_eq_filter_map_isSome, List.filter_eq_self]
  intro face hface
  obtain ⟨i, hi, rfl⟩ := List.mem_map.mp hface
  exact h i (List.mem_range.mp hi)

theorem length_faces (h : ∀ i < k, (p.face? (i : Int)).isSome) : (p.faces k).length = k := by
  have hlength := congrArg List.length (map_some_faces h)
  rwa [List.length_map, List.length_map, List.length_range] at hlength

theorem getElem?_faces (h : ∀ i < k, (p.face? (i : Int)).isSome) {i : Nat} (hi : i < k) :
    (p.faces k)[i]? = p.face? i := by
  have hentry := congrArg (fun faces => faces[i]?) (map_some_faces h)
  simp only [List.getElem?_map, List.getElem?_range hi, Option.map_some] at hentry
  -- an entry is there, so it can be taken out of its wrapping
  cases hface : (p.faces k)[i]? with
  | none =>
    rw [hface] at hentry
    cases hentry
  | some face =>
    rw [hface] at hentry
    exact Option.some_inj.mp hentry

theorem mem_entries_of_face? {position face : Int} (h : p.face? position = some face) :
    (position, face) ∈ p.entries := by
  obtain ⟨before, behind, hentries, _⟩ := List.lookup_eq_some_iff.mp h
  rw [hentries]
  simp

/-- Fixing leaves nothing of a roll that is frozen throughout. -/
theorem fix_eq_faces (h : ∀ i < k, (p.face? (i : Int)).isSome) {r : Roll} (hr : r.length = k) :
    p.fix r = p.faces k := by
  apply List.ext_getElem?
  intro i
  -- within the roll both show the frozen face, and behind it neither has a die
  rcases Nat.lt_or_ge i k with hi | hi
  · obtain ⟨face, hface⟩ := Option.isSome_iff_exists.mp (h i hi)
    rw [getElem?_fix p r (by omega), getElem?_faces h hi, hface, Option.some_or]
  · rw [List.getElem?_eq_none (by rw [length_fix]; omega),
      List.getElem?_eq_none (by rw [length_faces h]; omega)]

/-- The frozen faces are faces of a die, if all of the map are. -/
theorem forall_mem_faces {q : Int → Prop} (h : ∀ e ∈ p.entries, q e.2) :
    ∀ face ∈ p.faces k, q face := by
  intro face hface
  obtain ⟨i, _, hi⟩ := List.mem_filterMap.mp hface
  exact h _ (mem_entries_of_face? hi)

end Pins

/-! ## §3 Tables of one roll -/

/-- Every roll of a plan that is frozen throughout is the roll of the frozen faces. -/
theorem SamplePlan.rows_draw_of_frozen {σ : Type} [Source σ] (p : SamplePlan)
    (h : ∀ i < p.dice, (p.frozen.face? (i : Int)).isSome) (g : σ) :
    (p.draw g).1.rows = List.replicate p.rolls (p.frozen.faces p.dice) := by
  rw [rows_draw, List.eq_replicate_iff]
  constructor
  · rw [List.length_map, length_block]
  · intro r hr
    obtain ⟨drawn, hdrawn, rfl⟩ := List.mem_map.mp hr
    exact Pins.fix_eq_faces h (p.length_of_mem_block g hdrawn)

end DiceOdds
