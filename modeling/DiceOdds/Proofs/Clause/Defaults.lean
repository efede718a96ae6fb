import DiceOdds.Odds.Simulation
import DiceOdds.Proofs.Clause.Variants
import DiceOdds.Workstation

/-!
# Filling In Drafts

Filling in a draft puts defaults where nothing was chosen.  With a die it can lead a list, and with
a link it can follow (`complete_withDefaults_iff`).  What was missing only because the reduction
does not decide by it is filled in as well, but the draft describes the test that it described
before (`Describes.withDefaults`); so a draft that was complete becomes the clause that it became,
and no list in which it stands is told apart from the one with the filled draft.

**Main statement**: `defaults_complete_drafts`.
-/

namespace DiceOdds

namespace Draft

variable {d : Draft} {die : Option Die} {lead : Bool}

/-! ## §1 Defaults -/

/-- Nothing is left to fill in. -/
theorem withDefaults_withDefaults (d : Draft) (die die' : Option Die) :
    (d.withDefaults die).withDefaults die' = d.withDefaults die' := rfl

/-- A die is all that a filled draft can lack, unless it has to be linked. -/
theorem complete_withDefaults_iff :
    (d.withDefaults die).Complete lead ↔ die ≠ none ∧ (lead = false → d.link ≠ none) := by
  constructor
  · intro h
    exact ⟨h.die, h.link⟩
  · rintro ⟨hdie, hlink⟩
    exact ⟨hdie, hlink, Option.some_ne_none _, fun _ => Option.some_ne_none _,
      fun _ => Option.some_ne_none _⟩

/-! ## §2 Complete drafts -/

/-- What a draft decides by is there, and defaults do not replace it. -/
theorem Describes.withDefaults {test : Test} (h : d.Describes test) (die : Option Die) :
    (d.withDefaults die).Describes test := by
  have hchosen : ∀ {α : Type} {o : Option α} {a standard : α}, o = some a →
      some (o.getD standard) = some a := by
    rintro α o a standard rfl
    rfl
  cases h with
  | each hreduction hbound hcomparison =>
    exact .each (d := d.withDefaults die) (hchosen hreduction) (hchosen hbound)
      (hchosen hcomparison)
  | run hreduction hbound hcomparison =>
    exact .run (d := d.withDefaults die) (hchosen hreduction) (hchosen hbound)
      (hchosen hcomparison)
  | sequence hreduction => exact .sequence (d := d.withDefaults die) (hchosen hreduction)
  | statistic hreduction hcomparison =>
    exact .statistic (d := d.withDefaults die) (hchosen hreduction) (hchosen hcomparison)

/-- A draft describes the same test for every die. -/
theorem Describes.of_withDie {test : Test} (h : (d.withDie die).Describes test) :
    d.Describes test := by
  cases h with
  | each hreduction hbound hcomparison => exact .each (d := d) hreduction hbound hcomparison
  | run hreduction hbound hcomparison => exact .run (d := d) hreduction hbound hcomparison
  | sequence hreduction => exact .sequence (d := d) hreduction
  | statistic hreduction hcomparison => exact .statistic (d := d) hreduction hcomparison

theorem Becomes.withDefaults {c : Clause} (h : (d.withDie die).Becomes lead c) :
    (d.withDefaults die).Becomes lead c :=
  ⟨h.die, h.link, h.link_lead, h.test.of_withDie.withDefaults die⟩

/-- A filled draft that can stand at its place is accepted there. -/
theorem exists_check_withDefaults_iff {index : Int} :
    (∃ c, (d.withDefaults die).check lead index = .ok c) ↔
      die ≠ none ∧ (lead = false → d.link ≠ none) := by
  rw [← complete_withDefaults_iff, ← faultOf_eq_none_iff, faultOf_check]
  simp

/-! ## §3 Among other drafts -/

/-- In an accepted list a draft can be filled in, and the clauses stay as they are. -/
theorem checkAll_withDefaults {before after : List Draft} {cs : List Clause}
    (h : checkAll (before ++ d.withDie die :: after) = .ok cs) :
    checkAll (before ++ d.withDefaults die :: after) = .ok cs := by
  obtain ⟨-, hlength, hbecomes⟩ := checkAll_eq_ok_iff.mp h
  refine checkAll_eq_ok_iff.mpr ⟨by simp, by simpa using hlength, fun i d' c hd' hc => ?_⟩
  -- at its own place the draft is filled in, and at the others there is what was there
  rcases Nat.lt_trichotomy i before.length with hi | rfl | hi
  · refine hbecomes i d' c ?_ hc
    rwa [List.getElem?_append_left hi] at hd' ⊢
  · obtain rfl : d.withDefaults die = d' := by simpa using hd'
    exact (hbecomes before.length (d.withDie die) c (by simp) hc).withDefaults
  · obtain ⟨k, rfl⟩ := Nat.exists_eq_add_of_le hi
    refine hbecomes _ d' c ?_ hc
    rw [List.append_cons, List.getElem?_append_right (by simp)] at hd' ⊢
    simpa using hd'

/-- **Defaults complete drafts, and leave complete ones as they are.**  A draft that is filled in
for a die can lead a list, and wherever a link is there can follow.  If it was complete already, it
becomes the clause that it became without, and in every list in which it stands the same rolls
succeed and simulations answer the same.  Filling it in again makes no difference. -/
theorem defaults_complete_drafts [Memory] (d : Draft) (die : Die) :
    (∀ index, ∃ c, (d.withDefaults (some die)).check true index = .ok c) ∧
    (∀ index, (∃ c, (d.withDefaults (some die)).check false index = .ok c) ↔ d.link ≠ none) ∧
    (∀ lead index c, (d.withDie (some die)).check lead index = .ok c →
      (d.withDefaults (some die)).check lead index = .ok c) ∧
    (∀ before after cs, checkAll (before ++ d.withDie (some die) :: after) = .ok cs →
      checkAll (before ++ d.withDefaults (some die) :: after) = .ok cs ∧
      (∀ r : Roll, decideRoll (before ++ d.withDefaults (some die) :: after) none r =
        decideRoll (before ++ d.withDie (some die) :: after) none r) ∧
      ∀ (α σ : Type) [Numeric α] [Source σ] (supply : Supply) (s : Session σ),
        (Request.simulate (α := α) (before ++ d.withDefaults (some die) :: after) supply).runIn s =
          (Request.simulate (before ++ d.withDie (some die) :: after) supply).runIn s) ∧
    ∀ die' : Option Die, (d.withDefaults die').withDefaults die' = d.withDefaults die' := by
  refine ⟨fun index => ?_, fun index => ?_, fun lead index c hc => ?_,
    fun before after cs hcs => ?_, fun die' => d.withDefaults_withDefaults die' die'⟩
  · exact exists_check_withDefaults_iff.mpr ⟨Option.some_ne_none die, by simp⟩
  · rw [exists_check_withDefaults_iff]
    simp
  · exact check_eq_ok_iff.mpr (check_eq_ok_iff.mp hc).withDefaults
  · have hfilled := checkAll_withDefaults hcs
    refine ⟨hfilled, fun r => ?_, fun α σ _ _ supply s => ?_⟩
    · rw [decideRoll, decideRoll, forDie, forDie, hfilled, hcs]
    · rw [Request.simulate, Request.simulate, hfilled, hcs]

/-- A draft that says nothing comes to ask for exactly one die that equals 1.  A sum that is
compared with 20 gets a bound, which it does not decide by, and is the clause that it was. -/
theorem filled_drafts_lead :
    (withDefaults {} (some .d6)).check true 0 =
      .ok { die := .d6, link := .first, test := .each ⟨.exactly, 1⟩ ⟨.equals, 1, ⟨1, 1⟩⟩ } ∧
    (withDefaults { reduction := some (.statistic .sum), comparison := some .atLeast, value := 20 }
      (some .d6)).check true 0 =
        .ok { die := .d6, link := .first, test := .statistic .sum ⟨.atLeast, 20, ⟨1, 1⟩⟩ } := by
  refine ⟨rfl, ?_⟩
  obtain ⟨-, -, hkept, -⟩ := defaults_complete_drafts
    { reduction := some (.statistic .sum), comparison := some .atLeast, value := 20 } .d6
  exact hkept true 0 _ rfl

end Draft

end DiceOdds
