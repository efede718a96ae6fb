import DiceOdds.Proofs.Clause.Completeness
import DiceOdds.Proofs.Numeric.Exact
import DiceOdds.Proofs.Roll.Verdicts
import DiceOdds.Proofs.Session
import DiceOdds.Workstation

/-!
# Several Lists on One Table

Named lists of drafts are estimated side by side on one table.  What is reported for a list
depends on the list and the table alone: its estimate, or the reason why it is rejected.  So
a list that is rejected costs none of the others their results.

Only two things are not contained: a sequence whose walk cannot be laid out and compared with
the windows of the table, and a mode on a roll whose faces cannot be counted.  Neither is a
rejection, and both need a list of complete drafts (`escapes_iff`).

**Main statement**: `simulateSets_isolates`.
-/

namespace DiceOdds

/-! ## §1 Faults that are not contained -/

section Lists

variable [Memory] {α σ : Type} [Numeric α] [Source σ]

/-- What is reported of an answer for a table of so many rolls: an estimate, or the reason of
a rejection. -/
inductive Reports (n : Nat) : Except Fault (Estimate α) → Outcome α → Prop where
  | estimated (e : Estimate α) : Reports n (.ok e) (.estimated e)
  | rejected (reason : Rejection) :
      Reports n (.error (.rejected reason)) (.rejected reason n)

theorem outcome_contained_iff (t : RollTable) (ds : List Draft) (o : Outcome α) :
    t.outcome false ds = .ok o ↔ Reports t.size (t.simulate ds) o := by
  unfold RollTable.outcome
  cases t.simulate (α := α) ds with
  | ok e =>
    constructor
    · intro h
      cases h
      exact .estimated e
    · intro h
      cases h
      rfl
  | error f =>
    cases f with
    | rejected reason =>
      -- contained: the reason becomes the outcome
      constructor
      · intro h
        cases h
        exact .rejected reason
      · intro h
        cases h
        rfl
    | _ =>
      -- any other fault is neither an outcome nor reported
      constructor
      · intro h
        cases h
      · intro h
        cases h

/-- With rejections raised the outcome is an estimate or the fault of the simulation. -/
theorem outcome_raised (t : RollTable) (ds : List Draft) :
    t.outcome true ds = (t.simulate ds).map (Outcome.estimated (α := α)) := by
  unfold RollTable.outcome
  cases t.simulate (α := α) ds with
  | ok e => rfl
  | error f => cases f <;> rfl

/-- A simulation on a table fails without being rejected if something keeps its clauses from
deciding a roll. -/
theorem not_rejected_iff (t : RollTable) (ds : List Draft) :
    (∃ f, t.simulate (α := α) ds = .error f ∧ ∀ reason, f ≠ .rejected reason) ↔
      ∃ cs, Draft.checkAll ds = .ok cs ∧ (t.obstacle? cs).isSome := by
  unfold RollTable.simulate
  cases Draft.checkAll ds with
  | error e =>
    constructor
    · rintro ⟨f, hf, hreason⟩
      cases hf
      exact absurd rfl (hreason e)
    · rintro ⟨cs, hcs, -⟩
      cases hcs
  | ok cs =>
    have hfault : faultOf (t.estimate (α := α) cs) = (t.obstacle? cs).or (chainFault? cs) := by
      rw [RollTable.estimate, faultOf_map, RollTable.faultOf_verdicts]
    simp only [Except.ok.injEq, exists_eq_left', ← faultOf_eq_some_iff, hfault]
    cases hroom : t.obstacle? cs with
    | some f =>
      -- an obstacle comes before the links, and is no rejection
      refine ⟨fun _ => rfl, fun _ => ⟨f, rfl, ?_⟩⟩
      rintro reason rfl
      exact t.obstacle?_ne_rejected cs reason hroom
    | none =>
      -- what is wrong with the links is always a rejection
      constructor
      · rintro ⟨f, hf, hreason⟩
        obtain ⟨e, -, rfl⟩ := Option.map_eq_some_iff.mp hf
        exact absurd rfl (hreason _)
      · intro h
        cases h

/-- Something keeps complete drafts from deciding a table if they ask for a walk that cannot
be laid out and compared with its windows, or for the mode of faces that cannot be counted. -/
theorem isSome_obstacle?_of_checkAll {ds : List Draft} {cs : List Clause}
    (h : Draft.checkAll ds = .ok cs) (t : RollTable) :
    (t.obstacle? cs).isSome ↔ ∃ d ∈ ds, (d.layoutFault? t.size t.width).isSome ∨
      d.reduction = some (.statistic .mode) ∧ ∃ r ∈ t.rows, ¬r.Countable := by
  simp only [RollTable.isSome_obstacle?_iff, RollTable.isSome_testObstacle?_iff]
  refine Draft.exists_mem_of_checkAll (p := fun test => (test.layoutFault? t.size t.width).isSome ∨
    (∃ target, test = .statistic .mode target) ∧ ∃ r ∈ t.rows, ¬r.Countable) h fun d test hd => ?_
  rw [Draft.layoutFault?_of_test? hd, Draft.mode_of_test? hd]

/-- What is not contained. -/
theorem escapes_iff (t : RollTable) (ds : List Draft) :
    (∃ f, t.outcome (α := α) false ds = .error f) ↔
      (∃ cs, Draft.checkAll ds = .ok cs) ∧ ∃ d ∈ ds, (d.layoutFault? t.size t.width).isSome ∨
        d.reduction = some (.statistic .mode) ∧ ∃ r ∈ t.rows, ¬r.Countable := by
  have hraised : (∃ f, t.outcome (α := α) false ds = .error f) ↔
      ∃ f, t.simulate (α := α) ds = .error f ∧ ∀ reason, f ≠ .rejected reason := by
    unfold RollTable.outcome
    cases t.simulate (α := α) ds with
    | ok e => simp
    | error f => cases f <;> simp
  rw [hraised, not_rejected_iff]
  constructor
  · rintro ⟨cs, hcs, hsome⟩
    exact ⟨⟨cs, hcs⟩, (isSome_obstacle?_of_checkAll hcs t).mp hsome⟩
  · rintro ⟨⟨cs, hcs⟩, hdraft⟩
    exact ⟨cs, hcs, (isSome_obstacle?_of_checkAll hcs t).mpr hdraft⟩

/-! ## §2 Entries -/

omit [Memory] [Numeric α] in
private theorem entry_eq_ok_iff {x : Except Fault (Outcome α)} {name : String}
    {entry : String × Outcome α} :
    x.map (name, ·) = .ok entry ↔ entry.1 = name ∧ x = .ok entry.2 := by
  obtain ⟨name', o⟩ := entry
  cases x with
  | error f => simp [Except.map]
  | ok o' => simp [Except.map, eq_comm]

theorem outcomes_contained_iff (t : RollTable) (sets : List (String × List Draft))
    (entries : List (String × Outcome α)) :
    t.outcomes false sets = .ok entries ↔
      List.Forall₂ (fun set entry => entry.1 = set.1 ∧
        Reports t.size (t.simulate set.2) entry.2) sets entries := by
  -- one step for each list, so no entry sees another list
  rw [RollTable.outcomes, mapM_eq_ok_iff]
  simp only [entry_eq_ok_iff, outcome_contained_iff]

theorem outcomes_escape_iff (t : RollTable) (sets : List (String × List Draft)) :
    (∃ f, t.outcomes (α := α) false sets = .error f) ↔
      ∃ set ∈ sets, ∃ f, t.outcome (α := α) false set.2 = .error f := by
  simp only [← isSome_faultOf_iff, RollTable.outcomes, faultOf_mapM, faultOf_map,
    List.findSome?_isSome_iff]

/-- A rejection is always contained. -/
theorem outcomes_ne_rejected (t : RollTable) (sets : List (String × List Draft))
    (reason : Rejection) : t.outcomes (α := α) false sets ≠ .error (.rejected reason) := by
  intro h
  rw [← faultOf_eq_some_iff, RollTable.outcomes, faultOf_mapM] at h
  obtain ⟨set, -, hset⟩ := List.exists_of_findSome?_eq_some h
  rw [faultOf_map, faultOf_eq_some_iff] at hset
  unfold RollTable.outcome at hset
  split at hset
  · cases hset
  · cases hset
  · next hcontained _ =>
    cases hset
    exact hcontained reason rfl

theorem outcomes_raised_iff (t : RollTable) (sets : List (String × List Draft))
    (entries : List (String × Outcome α)) :
    t.outcomes true sets = .ok entries ↔
      List.Forall₂ (fun set entry => ∃ e, t.simulate set.2 = .ok e ∧
        entry = (set.1, .estimated e)) sets entries := by
  have hentry : ∀ (set : String × List Draft) (entry : String × Outcome α),
      (t.outcome true set.2).map (set.1, ·) = .ok entry ↔
        ∃ e, t.simulate set.2 = .ok e ∧ entry = (set.1, .estimated e) := by
    intro set entry
    rw [outcome_raised]
    cases t.simulate (α := α) set.2 with
    | error f => simp [Except.map]
    | ok e => simp [Except.map, eq_comm]
  rw [RollTable.outcomes, mapM_eq_ok_iff]
  simp only [hentry]

theorem faultOf_outcomes_raised (t : RollTable) (sets : List (String × List Draft)) :
    faultOf (t.outcomes (α := α) true sets) =
      sets.findSome? fun set => faultOf (t.simulate (α := α) set.2) := by
  simp only [RollTable.outcomes, faultOf_mapM, faultOf_map, outcome_raised]

/-! ## §3 Isolation -/

/-- **Lists on one table do not touch each other.**  With rejections contained, the entries
have the names of the lists in order, and each is what the list on its own comes to.  The
call ends with a fault only for complete drafts that ask for a walk that cannot be laid out and
compared with the windows of the table, or for the mode of faces that cannot be counted, never
with a rejection.  With rejections raised the entries are the same, and the first list that
fails decides the fault.  If the table is drawn, the lists have no part in the drawing, and a
fault of the drawing is raised whatever they are. -/
theorem simulateSets_isolates {rolls : Nested} {t : RollTable} (h : rolls.toTable = .ok t)
    (s : Session σ) (sets : List (String × List Draft)) :
    (∀ entries : List (String × Outcome α),
      ((Request.simulateSets sets (.given rolls) false).runIn s).1 = .ok entries ↔
        List.Forall₂ (fun set entry => entry.1 = set.1 ∧
          Reports t.size (s.answer α set.2 rolls) entry.2) sets entries) ∧
    ((∃ f, ((Request.simulateSets (α := α) sets (.given rolls) false).runIn s).1 = .error f) ↔
      ∃ set ∈ sets, (∃ cs, Draft.checkAll set.2 = .ok cs) ∧
        ∃ d ∈ set.2, (d.layoutFault? t.size t.width).isSome ∨
          d.reduction = some (.statistic .mode) ∧ ∃ r ∈ t.rows, ¬r.Countable) ∧
    (∀ reason, ((Request.simulateSets (α := α) sets (.given rolls) false).runIn s).1 ≠
      .error (.rejected reason)) ∧
    (∀ entries : List (String × Outcome α),
      ((Request.simulateSets sets (.given rolls) true).runIn s).1 = .ok entries ↔
        List.Forall₂ (fun set entry => ∃ e, s.answer α set.2 rolls = .ok e ∧
          entry = (set.1, .estimated e)) sets entries) ∧
    (∀ f, ((Request.simulateSets (α := α) sets (.given rolls) true).runIn s).1 = .error f ↔
      (sets.findSome? fun set => faultOf (s.answer α set.2 rolls)) = some f) ∧
    (∀ (o : OpenOrder) (raise : Bool),
      (∀ f s', (Request.sampleConfigured o).runIn s = (.error f, s') →
        (Request.simulateSets (α := α) sets (.drawn o) raise).runIn s = (.error f, s')) ∧
      (∀ u s', (Request.sampleConfigured o).runIn s = (.ok u, s') →
        (Request.simulateSets (α := α) sets (.drawn o) raise).runIn s =
          (((Request.simulateSets sets (.given (Nested.ofRows u.rows)) raise).runIn s').1,
            s'))) := by
  simp only [Request.runIn_simulateSets_given h, Session.answer_eq α h]
  refine ⟨outcomes_contained_iff t sets, ?_, outcomes_ne_rejected t sets,
    outcomes_raised_iff t sets, fun f => ?_, fun o raise => ⟨fun f s' hf => ?_, fun u s' hu => ?_⟩⟩
  · rw [outcomes_escape_iff]
    simp only [escapes_iff]
  · rw [← faultOf_eq_some_iff, faultOf_outcomes_raised]
  · exact Request.runIn_bind_of_error hf _
  · rw [Request.runIn_simulateSets_given u.toTable_ofRows]
    exact Request.runIn_bind_of_ok hu _

end Lists

/-- Two rolls of two dice. -/
def twoRolls : RollTable where
  width := 2
  rows := [[1, 2], [6, 6]]
  width_pos := by decide
  rows_ne_nil := by decide
  length_of_mem := by decide
  holds_of_mem := by decide

/-- Asks for an ace as the lowest face. -/
def lowestAce : List Draft :=
  [{ die := some .d6, reduction := some (.statistic .minimum), comparison := some .equals }]

/-- A list that can be estimated, and one without any clause. -/
def soundAndEmpty : List (String × List Draft) := [("ace", lowestAce), ("nothing", [])]

theorem empty_list_is_contained :
    (Nested.ofRows twoRolls.rows).toTable = .ok twoRolls ∧
    ((Request.simulateSets (α := ℚ) soundAndEmpty (.given (Nested.ofRows twoRolls.rows))
      false).runIn ({} : Session Random.Linear)).1 =
      .ok [("ace", .estimated ⟨2, 1, 1 / 2, some 3, some 1⟩),
        ("nothing", .rejected (.malformed .empty) 2)] := by
  have hace : ({} : Session Random.Linear).answer ℚ lowestAce
      (Nested.ofRows twoRolls.rows) = .ok ⟨2, 1, 1 / 2, some 3, some 1⟩ := by decide +kernel
  have hnothing : ({} : Session Random.Linear).answer ℚ []
      (Nested.ofRows twoRolls.rows) = .error (.rejected (.malformed .empty)) := rfl
  refine ⟨twoRolls.toTable_ofRows, ((simulateSets_isolates twoRolls.toTable_ofRows {}
    soundAndEmpty).1 _).mpr (.cons ⟨rfl, ?_⟩ (.cons ⟨rfl, ?_⟩ .nil))⟩
  · exact hace ▸ .estimated _
  · exact hnothing ▸ .rejected _

/-! ## §4 Faults that escape -/

/-- Asks for the lowest most frequent face. -/
def lowestMode : List Draft :=
  [{ die := some .d6, reduction := some (.statistic .mode), comparison := some .equals }]

/-- Asks for a walk that is too long for any row. -/
def hugeWalk : List Draft :=
  [{ die := some .d6, reduction := some .sequence, span := ⟨1, 4611686018427387904⟩ }]

/-- No face is below nought, and still the call ends with a fault that is not contained; and so it
does where there is no mode. -/
theorem huge_faces_and_walks_escape :
    ((Nested.ofRows [[4611686018427387904]]).faces.all (0 ≤ ·) = true ∧
      ((Request.simulateSets (α := ℚ) [("mode", lowestMode)]
        (.given (Nested.ofRows [[4611686018427387904]])) false).runIn
          ({} : Session Random.Linear)).1 = .error .tableTooLarge) ∧
    ((Request.simulateSets (α := ℚ) [("walk", hugeWalk)] (.given (Nested.ofRows [[1]]))
      false).runIn ({} : Session Random.Linear)).1 = .error .tableTooLarge := by
  decide +kernel

end DiceOdds
