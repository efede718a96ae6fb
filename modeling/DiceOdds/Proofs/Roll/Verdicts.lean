import DiceOdds.Odds.Simulation
import DiceOdds.Proofs.Chain.NormalForm
import DiceOdds.Proofs.Roll.Rows
import DiceOdds.Proofs.Roll.Scorable

/-!
# Verdicts Roll by Roll

The verdicts of a table are worked out clause by clause, each clause over all rolls at once.
Deciding the rolls one after another gives the same verdicts (`verdicts_eq_ok_iff`), for the
scores of one roll are read off the columns of the table.

A chain can also fail for the shape of its links alone, which no roll has a part in
(`linkFault?`).  Together with the obstacles of its clauses this is all that can go wrong
(`faultOf_verdicts`, `faultOf_verdict`).
-/

namespace DiceOdds

/-! ## §1 Faults of the links -/

/-- What keeps the links of clauses from being a chain. -/
def linkFault? (cs : List Clause) : Option ChainFault :=
  if cs = [] then some .empty
  else if ∃ c ∈ cs.tail, c.link = .first then some .strayFirst
  else none

private theorem none_notMem_tail_linksOf (cs : List Clause) : none ∉ (linksOf cs).tail := by
  cases cs <;> simp [linksOf]

private theorem first_mem_tail_linksOf {cs : List Clause} :
    some .first ∈ (linksOf cs).tail ↔ ∃ c ∈ cs.tail, c.link = .first := by
  cases cs <;> simp [linksOf]

private theorem linksOf_ne_nil {cs : List Clause} : linksOf cs ≠ [] ↔ cs ≠ [] := by
  simp [linksOf]

/-- With a score for each clause only the links can be at fault. -/
theorem faultOf_resolve {β : Type} [Verdict β] {cs : List Clause} {scores : List β}
    (h : scores.length = cs.length) :
    faultOf (Chain.resolve (linksOf cs) scores) = linkFault? cs := by
  have hlength : scores.length = (linksOf cs).length := by rw [h, linksOf, List.length_map]
  unfold linkFault?
  split
  · next hnil => exact faultOf_eq_some_iff.mpr (Chain.resolve_eq_empty_iff.mpr (by rw [hnil]; rfl))
  · next hne =>
    have hlinks := linksOf_ne_nil.mpr hne
    have hnone := none_notMem_tail_linksOf cs
    split
    · next hfirst =>
      exact faultOf_eq_some_iff.mpr (Chain.resolve_eq_strayFirst_iff.mpr
        ⟨hlinks, hlength, hnone, first_mem_tail_linksOf.mpr hfirst⟩)
    · next hfirst =>
      exact faultOf_eq_none_iff.mpr (Chain.exists_resolve_eq_ok_iff.mpr
        ⟨hlinks, hlength, hnone, fun h => hfirst (first_mem_tail_linksOf.mp h)⟩)

/-- The fault of a chain, as a fault of the computation. -/
def chainFault? (cs : List Clause) : Option Fault :=
  (linkFault? cs).map fun e => .rejected (.malformed e)

/-! ## §2 Scoring and resolving -/

/-- Scores all clauses and resolves the chain, whatever it is that is scored. -/
def judge {β : Type} [Verdict β] (cs : List Clause) (score : Clause → Except Fault β) :
    Except Fault β :=
  match cs.mapM score with
  | .error e => .error e
  | .ok scores =>
    (Chain.resolve (linksOf cs) scores).mapError fun e => .rejected (.malformed e)

section Judge

variable {β : Type} [Verdict β] {cs : List Clause} {score : Clause → Except Fault β}

theorem judge_of_ok {scores : List β} (h : cs.mapM score = .ok scores) :
    judge cs score =
      (Chain.resolve (linksOf cs) scores).mapError fun e => .rejected (.malformed e) := by
  rw [judge, h]

theorem judge_of_error {f : Fault} (h : cs.mapM score = .error f) :
    judge cs score = .error f := by
  rw [judge, h]

/-- The scores fail before the links do. -/
theorem faultOf_judge (cs : List Clause) (score : Clause → Except Fault β) :
    faultOf (judge cs score) = (faultOf (cs.mapM score)).or (chainFault? cs) := by
  cases hscores : cs.mapM score with
  | error f =>
    rw [judge_of_error hscores]
    rfl
  | ok scores =>
    have hlength := (mapM_eq_ok_iff.mp hscores).length_eq.symm
    rw [judge_of_ok hscores, faultOf_mapError, faultOf_resolve hlength]
    rfl

/-- Scores that are mapped are judged as the mapped verdict. -/
theorem judge_map {γ : Type} [Verdict γ] {h : β → γ} (hh : Chain.Respects h) (cs : List Clause)
    (score : Clause → Except Fault β) :
    judge cs (fun c => (score c).map h) = (judge cs score).map h := by
  have hwalk := mapM_map_eq score h cs
  cases hscores : cs.mapM score with
  | error f =>
    rw [hscores] at hwalk
    rw [judge_of_error hscores, judge_of_error hwalk]
    rfl
  | ok scores =>
    rw [hscores] at hwalk
    rw [judge_of_ok hscores, judge_of_ok hwalk, Chain.resolve_map hh]
    cases Chain.resolve (linksOf cs) scores <;> rfl

end Judge

private theorem respects_singleton : Chain.Respects fun b : Bool => [b] where
  both _ _ := rfl
  either _ _ := rfl

variable [Memory]

/-- Whether a roll satisfies a chain of clauses. -/
def Roll.verdict (cs : List Clause) (r : Roll) : Except Fault Bool := judge cs fun c => c.score r

theorem RollTable.verdicts_eq_judge (t : RollTable) (cs : List Clause) :
    t.verdicts cs = judge cs t.score := by
  unfold verdicts judge
  cases cs.mapM t.score <;> rfl

theorem Roll.faultOf_verdict (cs : List Clause) (r : Roll) :
    faultOf (verdict cs r) = (obstacle? cs r).or (chainFault? cs) := by
  rw [verdict, faultOf_judge, faultOf_scores]

theorem RollTable.faultOf_verdicts (t : RollTable) (cs : List Clause) :
    faultOf (t.verdicts cs) = (t.obstacle? cs).or (chainFault? cs) := by
  rw [verdicts_eq_judge, faultOf_judge, faultOf_scores]

/-! ## §3 The rolls of a table -/

namespace RollTable

variable {t : RollTable} {cs : List Clause}

/-- A table can be judged if each of its rolls can, and if there is room for the windows of all
of them. -/
theorem exists_verdicts_eq_ok_iff : (∃ vs, t.verdicts cs = .ok vs) ↔
    (∀ c ∈ cs, c.test.WindowsFit t.size t.width) ∧
      ∀ r ∈ t.rows, ∃ b, Roll.verdict cs r = .ok b := by
  simp only [← faultOf_eq_none_iff, faultOf_verdicts, Roll.faultOf_verdict,
    Option.or_eq_none_iff, obstacle?_eq_none_iff]
  constructor
  · rintro ⟨⟨hwindows, hrows⟩, hlinks⟩
    exact ⟨hwindows, fun r hr => ⟨hrows r hr, hlinks⟩⟩
  · -- the links are at fault on any roll, if they are
    rintro ⟨hwindows, h⟩
    obtain ⟨r, hr⟩ := List.exists_mem_of_ne_nil t.rows t.rows_ne_nil
    exact ⟨⟨hwindows, fun r hr => (h r hr).1⟩, (h r hr).2⟩

private theorem scoreAt_of_score {c : Clause} {scores : List Bool} (h : t.score c = .ok scores)
    {j : Nat} {r : Roll} (hj : t.rows[j]? = some r) :
    ∃ b, c.score r = .ok b ∧ Chain.ScoreAt t.size j scores b := by
  obtain ⟨-, hrows⟩ := score_eq_ok_iff.mp h
  have hlt : j < t.rows.length := (List.getElem?_eq_some_iff.mp hj).1
  have hlt' : j < scores.length := hrows.length_eq ▸ hlt
  have hscore := hrows.get hlt hlt'
  simp only [List.get_eq_getElem, (List.getElem?_eq_some_iff.mp hj).2] at hscore
  exact ⟨scores[j], hscore, hrows.length_eq.symm, List.getElem?_eq_getElem hlt'⟩

/-- The scores of one roll make up a column of the scores of the table. -/
theorem scores_column {scores : List (List Bool)} (h : cs.mapM t.score = .ok scores) {j : Nat}
    {r : Roll} (hj : t.rows[j]? = some r) :
    ∃ column, cs.mapM (fun c => c.score r) = .ok column ∧
      List.Forall₂ (Chain.ScoreAt t.size j) scores column := by
  -- one clause after the other, each with its entry at `j`
  have hclauses := mapM_eq_ok_iff.mp h
  clear h
  induction hclauses with
  | nil => exact ⟨[], rfl, .nil⟩
  | cons hscore _ ih =>
    obtain ⟨b, hb, hat⟩ := scoreAt_of_score hscore hj
    obtain ⟨column, hcolumn, hrest⟩ := ih
    refine ⟨b :: column, ?_, .cons hat hrest⟩
    rw [List.mapM_cons, hb, hcolumn]
    rfl

/-- Where a table has verdicts, the verdict of a roll is the one at its place. -/
theorem verdict_of_verdicts {vs : List Bool} (h : t.verdicts cs = .ok vs) {j : Nat} {r : Roll}
    (hj : t.rows[j]? = some r) :
    ∃ b, Roll.verdict cs r = .ok b ∧ Chain.ScoreAt t.size j vs b := by
  rw [verdicts_eq_judge] at h
  cases hscores : cs.mapM t.score with
  | error f =>
    rw [judge_of_error hscores] at h
    cases h
  | ok scores =>
    obtain ⟨column, hcolumn, hat⟩ := scores_column hscores hj
    -- the entries of the scores resolve as the scores do, and so does the roll
    have hagree := (Chain.resolve_agree_getElem? (linksOf cs) hat).mapError
      fun e => Fault.rejected (.malformed e)
    rw [← judge_of_ok hscores, h] at hagree
    rw [Roll.verdict, judge_of_ok hcolumn]
    exact hagree.exists_of_ok

/-- **The verdicts of a table are the verdicts of its rolls**, in order. -/
theorem forall₂_of_verdicts {vs : List Bool} (h : t.verdicts cs = .ok vs) :
    List.Forall₂ (fun r b => Roll.verdict cs r = .ok b) t.rows vs := by
  obtain ⟨r, hr⟩ := List.exists_mem_of_ne_nil t.rows t.rows_ne_nil
  obtain ⟨j, hj⟩ := List.mem_iff_getElem?.mp hr
  obtain ⟨-, -, hlength, -⟩ := verdict_of_verdicts h hj
  refine List.forall₂_iff_get.mpr ⟨hlength.symm, fun i hi hi' => ?_⟩
  obtain ⟨b, hb, -, hat⟩ := verdict_of_verdicts h (List.getElem?_eq_getElem hi)
  rw [List.getElem?_eq_getElem hi', Option.some_inj] at hat
  simpa only [List.get_eq_getElem, hat] using hb

/-- With room for the windows of all rolls, a table has the verdicts of its rolls. -/
theorem verdicts_eq_ok_iff {vs : List Bool} : t.verdicts cs = .ok vs ↔
    (∀ c ∈ cs, c.test.WindowsFit t.size t.width) ∧
      List.Forall₂ (fun r b => Roll.verdict cs r = .ok b) t.rows vs := by
  constructor
  · intro h
    exact ⟨(exists_verdicts_eq_ok_iff.mp ⟨vs, h⟩).1, forall₂_of_verdicts h⟩
  · -- the table has verdicts at all, and the rolls leave no choice which ones
    rintro ⟨hwindows, h⟩
    have hall : ∀ r ∈ t.rows, ∃ b, Roll.verdict cs r = .ok b :=
      exists_mapM_eq_ok_iff.mp ⟨vs, mapM_eq_ok_of_forall₂ h⟩
    obtain ⟨vs', hvs'⟩ := exists_verdicts_eq_ok_iff.mpr ⟨hwindows, hall⟩
    have heq : Except.ok (ε := Fault) vs' = .ok vs :=
      (mapM_eq_ok_of_forall₂ (forall₂_of_verdicts hvs')).symm.trans (mapM_eq_ok_of_forall₂ h)
    rwa [Except.ok.inj heq] at hvs'

end RollTable

/-! ## §4 Deciding one concrete roll -/

theorem RollTable.verdicts_only (t : RollTable) {r : Roll} (hr : r ∈ t.rows) (cs : List Clause) :
    (t.only hr).verdicts cs = (Roll.verdict cs r).map fun b => [b] := by
  have hscore : (t.only hr).score = fun c => (c.score r).map fun b => [b] := by
    funext c
    have hwidth : (t.only hr).width = r.length := (t.length_of_mem r hr).symm
    rw [score_eq_mapM, hwidth, Clause.score, ← c.test.layOut_bind_score r]
    show ((c.test.layOut 1 r.length).bind fun _ => [r].mapM c.score) = _
    cases c.test.layOut 1 r.length with
    | error f => rfl
    | ok u =>
      show [r].mapM c.score = (c.score r).map fun b => [b]
      rw [List.mapM_cons]
      cases c.score r <;> rfl
  rw [verdicts_eq_judge, hscore, judge_map respects_singleton, Roll.verdict]

/-- Deciding a roll checks the drafts and looks at nothing but the roll. -/
theorem decideRoll_eq (t : RollTable) {r : Roll} (hr : r ∈ t.rows) (ds : List Draft) :
    decideRoll ds none r =
      match Draft.checkAll ds with
      | .error e => .error (.rejected e)
      | .ok cs => Roll.verdict cs r := by
  unfold decideRoll forDie
  cases Draft.checkAll ds with
  | error e => rfl
  | ok cs =>
    simp only [t.toTable_ofRows_singleton hr, t.verdicts_only hr]
    cases Roll.verdict cs r <;> rfl

end DiceOdds
