import DiceOdds.Proofs.Clause.Completeness
import DiceOdds.Proofs.Roll.Rows
import DiceOdds.Proofs.Roll.Verdicts

/-!
# Rolls Decided by the Normal Form

Complete drafts that meet no obstacle decide a roll, unless a later one claims to be the
first.  The verdict is the normal form of the links that the drafts carry themselves, over
what each of them says about the roll (`decideRoll_eq_normalForm`): checking the drafts only
rewrites the link of the lead, which is never looked at.
-/

namespace DiceOdds

/-- Whether a draft accepts a roll.  A draft that describes no test accepts none. -/
def Draft.accepts [Memory] (d : Draft) (r : Roll) : Bool := d.test?.any fun test => test.accepts r

/-! ## §1 The links of accepted drafts -/

/-- The links of the clauses are at fault if a later draft claims to be the first. -/
theorem linkFault?_of_checkAll {ds : List Draft} {cs : List Clause}
    (h : Draft.checkAll ds = .ok cs) :
    linkFault? cs = if ∃ d ∈ ds.tail, d.link = some .first then some .strayFirst else none := by
  obtain ⟨hds, hclauses⟩ := Draft.forall₂_of_checkAll h
  -- there is a lead, so the links can only fail behind it
  have hcs : cs ≠ [] := by
    rintro rfl
    exact hds (by simpa using hclauses.length_eq)
  have hstray : (∃ c ∈ cs.tail, c.link = .first) ↔ ∃ d ∈ ds.tail, d.link = some .first := by
    calc (∃ c ∈ cs.tail, c.link = .first)
        ↔ some .first ∈ linksOf cs.tail := by simp only [linksOf, List.mem_map, Option.some_inj]
      _ ↔ some .first ∈ ds.tail.map Draft.link := by rw [Draft.map_link_tail h]
      _ ↔ ∃ d ∈ ds.tail, d.link = some .first := List.mem_map
  rw [linkFault?, if_neg hcs]
  simp only [hstray]

variable [Memory]

/-- The clauses have the normal form of the drafts. -/
theorem normalForm_of_checkAll {ds : List Draft} {cs : List Clause}
    (h : Draft.checkAll ds = .ok cs) (r : Roll) :
    Chain.normalForm (linksOf cs) (cs.map fun c => c.test.accepts r) =
      Chain.normalForm (ds.map Draft.link) (ds.map fun d => d.accepts r) := by
  have hscores : (cs.map fun c => c.test.accepts r) = ds.map fun d => d.accepts r := by
    have htests := congrArg (List.map fun t => Option.any (fun test => Test.accepts test r) t)
      (Draft.map_test_of_checkAll h)
    rw [List.map_map, List.map_map] at htests
    exact htests.symm
  have htail := Draft.map_link_tail h
  rw [hscores]
  cases ds with
  | nil => cases h
  | cons d ds =>
    cases cs with
    | nil => cases hscores
    | cons c cs =>
      -- the links differ in the lead only
      rw [List.tail_cons, List.tail_cons] at htail
      rw [List.map_cons, List.map_cons, htail]
      exact Chain.normalForm_lead _ _ _ _ _

/-! ## §2 Verdicts -/

/-- Clauses that meet no obstacle have the verdict of their normal form. -/
theorem Roll.verdict_eq_normalForm {cs : List Clause} {r : Roll} (hroll : obstacle? cs r = none)
    (hlinks : linkFault? cs = none) :
    verdict cs r = .ok (Chain.normalForm (linksOf cs) (cs.map fun c => c.test.accepts r)) := by
  have hscores : cs.mapM (fun c => c.score r) = .ok (cs.map fun c => c.test.accepts r) := by
    apply mapM_eq_ok_map
    intro c hc
    exact Test.score_eq_ok (obstacle?_eq_none_iff.mp hroll c hc)
  have hresolve : faultOf (Chain.resolve (linksOf cs) (cs.map fun c => c.test.accepts r)) = none :=
    (faultOf_resolve (List.length_map _)).trans hlinks
  obtain ⟨v, hv⟩ := faultOf_eq_none_iff.mp hresolve
  rw [verdict, judge_of_ok hscores, hv, Chain.resolve_eq_ok_normalForm hv]
  rfl

/-- A die is only given to drafts that name none. -/
theorem decideRoll_of_die {ds : List Draft} (h : ∀ d ∈ ds, d.die ≠ none) (die : Option Die)
    (r : Roll) : decideRoll ds die r = decideRoll ds none r := by
  have hkept : forDie die ds = ds := by
    cases die with
    | none => rfl
    | some die =>
      refine List.map_congr_left (g := id) (fun d hd => if_pos ?_) |>.trans (List.map_id ds)
      exact Option.isSome_iff_ne_none.mpr (h d hd)
  unfold decideRoll
  rw [hkept]
  rfl

/-- **Complete drafts decide a roll by their normal form.** -/
theorem decideRoll_eq_normalForm {ds : List Draft} {r : Roll} (hr : r ≠ [])
    (hwords : ∀ x ∈ r, Word.Holds x) (hne : ds ≠ []) (hcomplete : ∀ d ∈ ds, d.Complete false)
    (hlinks : ∀ d ∈ ds.tail, d.link ≠ some .first)
    (hroll : ∀ d ∈ ds, ∀ test, d.test? = some test → test.obstacle? r = none)
    (die : Option Die) :
    decideRoll ds die r =
      .ok (Chain.normalForm (ds.map Draft.link) (ds.map fun d => d.accepts r)) := by
  obtain ⟨cs, hcs⟩ := Draft.exists_checkAll_eq_ok hne hcomplete
  have hfault : linkFault? cs = none := by
    rw [linkFault?_of_checkAll hcs, if_neg]
    rintro ⟨d, hd, hfirst⟩
    exact hlinks d hd hfirst
  have hobstacle : Roll.obstacle? cs r = none := by
    rw [Roll.obstacle?_eq_none_iff]
    intro c hc
    -- the test of a clause is the test of some draft
    have hmem : some c.test ∈ ds.map Draft.test? := by
      rw [Draft.map_test_of_checkAll hcs]
      exact List.mem_map.mpr ⟨c, hc, rfl⟩
    obtain ⟨d, hd, htest⟩ := List.mem_map.mp hmem
    exact hroll d hd c.test htest
  rw [decideRoll_of_die (fun d hd => (hcomplete d hd).die) die,
    decideRoll_eq (RollTable.ofRoll r hr hwords) (RollTable.mem_rows_ofRoll hr hwords), hcs]
  exact (Roll.verdict_eq_normalForm hobstacle hfault).trans
    (congrArg Except.ok (normalForm_of_checkAll hcs r))

end DiceOdds
