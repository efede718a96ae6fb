import DiceOdds.Proofs.Roll.Rows
import DiceOdds.Proofs.Roll.Scorable
import DiceOdds.Workstation

/-!
# The Lowest Mode

The mode is looked up in the tallies of a roll: one entry for each face that occurs, by ascending
face, of which a later one wins only if it is more frequent (`foldl_moreFrequent`).  So it is the
lowest of the most frequent faces (`isLowestMode_mode`), and it is the only face of that kind
(`IsLowestMode.unique`).

A table has its modes as soon as every roll can be counted.  A face below nought, or one whose
counters cannot be stored, leaves the whole table without any.

**Main statement**: `aggregate_mode_is_lowest`.
-/

namespace DiceOdds

namespace Roll

variable {r : Roll} {x y : Int}

/-! ## §1 The winning tally -/

/-- The first tally is less frequent than the second one, or as frequent and of no lower face. -/
def LosesTo (e won : Int × Nat) : Prop := e.2 < won.2 ∨ e.2 = won.2 ∧ won.1 ≤ e.1

instance (e won : Int × Nat) : Decidable (LosesTo e won) := inferInstanceAs (Decidable (_ ∨ _))

/-- **The winner of ascending tallies** is one of them, and they all lose to it. -/
theorem foldl_moreFrequent (rest : List (Int × Nat)) : ∀ {best : Int × Nat},
    (best :: rest).Pairwise (·.1 < ·.1) → rest.foldl moreFrequent best ∈ best :: rest ∧
      ∀ e ∈ best :: rest, LosesTo e (rest.foldl moreFrequent best) := by
  induction rest with
  | nil => simp [LosesTo]
  | cons next rest ih =>
    intro best hascend
    obtain ⟨hbest, hnext⟩ := List.pairwise_cons.mp hascend
    rw [List.foldl_cons]
    by_cases hmore : best.2 < next.2
    · -- the best one so far is beaten for good
      rw [moreFrequent, if_pos hmore]
      obtain ⟨hmem, hlost⟩ := ih hnext
      refine ⟨List.mem_cons_of_mem best hmem, List.forall_mem_cons.mpr ⟨.inl ?_, hlost⟩⟩
      rcases hlost next List.mem_cons_self with hless | ⟨heq, -⟩ <;> omega
    · -- the next one is not more frequent, and of a higher face
      rw [moreFrequent, if_neg hmore]
      obtain ⟨hmem, hlost⟩ := ih <| List.pairwise_cons.mpr
        ⟨fun e he => hbest e (List.mem_cons_of_mem next he), (List.pairwise_cons.mp hnext).2⟩
      obtain ⟨hhead, htail⟩ := List.forall_mem_cons.mp hlost
      refine ⟨List.cons_subset_cons best (List.subset_cons_self next rest) hmem,
        List.forall_mem_cons.mpr ⟨hhead, List.forall_mem_cons.mpr ⟨?_, htail⟩⟩⟩
      have hlt := hbest next List.mem_cons_self
      unfold LosesTo at hhead ⊢
      omega

/-! ## §2 The mode -/

/-- The face occurs in the roll, no face occurs more often, and those that occur as often are
higher. -/
structure IsLowestMode (r : Roll) (x : Int) : Prop where
  mem : x ∈ r
  count_le : ∀ y, r.count y ≤ r.count x
  lt_of_count_eq : ∀ y, y ≠ x → r.count y = r.count x → x < y

theorem IsLowestMode.unique (hx : r.IsLowestMode x) (hy : r.IsLowestMode y) : x = y := by
  by_contra hne
  have hcount : r.count x = r.count y := Nat.le_antisymm (hy.count_le x) (hx.count_le y)
  have hlt := hx.lt_of_count_eq y (Ne.symm hne) hcount.symm
  have hgt := hy.lt_of_count_eq x hne hcount
  exact Int.lt_asymm hlt hgt

/-- A face that occurs, and whose tally no other one beats, is the lowest mode. -/
theorem isLowestMode_of_losesTo (hx : x ∈ r)
    (hlost : ∀ y ∈ r, LosesTo (y, r.count y) (x, r.count x)) : r.IsLowestMode x := by
  refine ⟨hx, fun y => ?_, fun y hne hcount => ?_⟩
  · by_cases hy : y ∈ r
    · rcases hlost y hy with hless | ⟨heq, -⟩
      · exact Nat.le_of_lt hless
      · exact Nat.le_of_eq heq
    · rw [List.count_eq_zero.mpr hy]
      exact Nat.zero_le _
  · -- a face that occurs as often as another one occurs
    have hy : y ∈ r := by
      rwa [← List.count_pos_iff, hcount, List.count_pos_iff]
    rcases hlost y hy with hless | ⟨-, hle⟩
    · exact absurd hcount (Nat.ne_of_lt hless)
    · exact Int.lt_iff_le_and_ne.mpr ⟨hle, Ne.symm hne⟩

theorem isLowestMode_mode (hr : r ≠ []) : r.IsLowestMode r.mode := by
  cases htallies : tallies r with
  | nil =>
    -- every face has a tally, and there is a face
    obtain ⟨z, hz⟩ := List.exists_mem_of_ne_nil r hr
    have hz' := mem_tallies.mpr ⟨hz, rfl⟩
    rw [htallies] at hz'
    cases hz'
  | cons first rest =>
    obtain ⟨hmem, hlost⟩ := foldl_moreFrequent rest (htallies ▸ pairwise_tallies r)
    have hmode : r.mode = (rest.foldl moreFrequent first).1 := by rw [mode, htallies]
    rw [← htallies] at hmem hlost
    obtain ⟨hwon, hcount⟩ := mem_tallies.mp hmem
    rw [hmode]
    refine isLowestMode_of_losesTo hwon fun y hy => ?_
    rw [← hcount]
    exact hlost (y, r.count y) (mem_tallies.mpr ⟨hy, rfl⟩)

end Roll

/-! ## §3 The modes of a table -/

/-- **The mode is the lowest most frequent face.**  If every roll of a table can be counted, the
table has a mode for each roll, and it is the lowest of the faces that are most frequent there.  One
face below nought, or one whose counters cannot be stored, is enough for the whole table to have
none. -/
theorem RollTable.aggregate_mode_is_lowest [Memory] (t : RollTable) :
    ((∀ r ∈ t.rows, r.Countable) → ∃ modes, t.aggregate (.statistic .mode) = .ok modes ∧
      List.Forall₂ Roll.IsLowestMode t.rows modes) ∧
    ∀ r ∈ t.rows, ∀ x ∈ r, x < 0 ∨ Memory.room ≤ x + 1 →
      ∃ fault, t.aggregate (.statistic .mode) = .error fault := by
  constructor
  · intro hcountable
    apply exists_mapM_eq_ok_forall₂
    intro r hr
    exact ⟨r.mode, Roll.ofRoll_mode (hcountable r hr),
      Roll.isLowestMode_mode (ne_nil_of_mem_rows hr)⟩
  · intro r hr x hx hface
    -- the walk over the rolls has a fault, as this roll cannot be counted
    have huncountable : ¬r.Countable := by
      intro h
      have := h x hx
      omega
    rw [← isSome_faultOf_iff]
    show (faultOf (t.rows.mapM Statistic.mode.ofRoll)).isSome
    rw [faultOf_mapM, List.findSome?_isSome_iff]
    refine ⟨r, hr, ?_⟩
    rwa [Roll.faultOf_mode, Option.isSome_iff_ne_none, Ne, Roll.uncountable?_eq_none_iff]

/-- A roll with a gap below its most frequent faces, and one that shows noughts. -/
def tiedFaces : RollTable where
  width := 4
  rows := [[5, 3, 5, 3], [6, 0, 0, 6]]
  width_pos := Nat.succ_pos 3
  rows_ne_nil := by decide
  length_of_mem := by decide
  holds_of_mem := by decide

/-- A roll that can be counted, and one that shows a face below nought. -/
def faceBelowNought : RollTable where
  width := 2
  rows := [[1, 1], [2, -1]]
  width_pos := Nat.two_pos
  rows_ne_nil := by decide
  length_of_mem := by decide
  holds_of_mem := by decide

/-- Ties go to the lower face, and a face below nought leaves the roll beside it without a mode. -/
theorem ties_go_to_the_lower_face :
    (∀ r ∈ tiedFaces.rows, r.Countable) ∧ tiedFaces.aggregate (.statistic .mode) = .ok [3, 0] ∧
    (∃ r ∈ faceBelowNought.rows, ∃ x ∈ r, x < 0 ∨ Memory.room ≤ x + 1) ∧
    ∃ fault, faceBelowNought.aggregate (.statistic .mode) = .error fault := by
  have hcountable : ∀ r ∈ tiedFaces.rows, r.Countable := by decide
  obtain ⟨modes, hmodes, hlowest⟩ := (RollTable.aggregate_mode_is_lowest tiedFaces).1 hcountable
  refine ⟨hcountable, ?_, ⟨[2, -1], by decide, -1, by decide, by decide⟩,
    (RollTable.aggregate_mode_is_lowest faceBelowNought).2 [2, -1] (by decide) (-1) (by decide)
      (by decide)⟩
  -- each roll has one lowest mode
  obtain _ | ⟨hfirst, _ | ⟨hsecond, ⟨⟩⟩⟩ := hlowest
  rw [hmodes, hfirst.unique (Roll.isLowestMode_of_losesTo (x := 3) (by decide) (by decide)),
    hsecond.unique (Roll.isLowestMode_of_losesTo (x := 0) (by decide) (by decide))]

/-- No face is below nought, and still a roll has no mode: the counters of its one face cannot be
stored. -/
theorem huge_face_has_no_mode :
    ¬∀ t : RollTable, (∀ r ∈ t.rows, ∀ x ∈ r, 0 ≤ x) →
      ∃ modes, t.aggregate (.statistic .mode) = .ok modes := by
  intro h
  obtain ⟨modes, hmodes⟩ :=
    h (.ofRoll [4611686018427387904] (by decide) (by decide)) (by decide)
  have hfault : RollTable.aggregate (.ofRoll [4611686018427387904] (by decide) (by decide))
      (.statistic .mode) = .error .tableTooLarge := rfl
  rw [hfault] at hmodes
  cases hmodes

end DiceOdds
