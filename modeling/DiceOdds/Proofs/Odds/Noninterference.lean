import DiceOdds.Proofs.Clause.Relevance
import DiceOdds.Proofs.Numeric.Exact
import DiceOdds.Proofs.Session
import DiceOdds.Workstation

/-!
# What an Estimate Does Not Depend On

A clause takes part in a chain by its link and by how it decides rolls, and by nothing else
(`verdicts_congr`).  Drafts that are alike become clauses that take part in the same way, or are
refused at the same position (`checkAll_congr`).  So lists of such drafts are simulated alike, on
any supply and in any session.

**Main statement**: `simulate_of_alike`.
-/

namespace DiceOdds

/-! ## §1 Chains -/

/-- How a clause takes part in a chain. -/
def Clause.part [Memory] (c : Clause) : Link × (RollTable → Except Fault (List Bool)) :=
  (c.link, fun t => t.score c)

/-- Clauses that lay out the same decide a table alike if they decide its rolls alike. -/
theorem RollTable.score_congr [Memory] {c c' : Clause} (hscore : c.score = c'.score)
    (hlayout : c.test.layOut = c'.test.layOut) (t : RollTable) : t.score c = t.score c' := by
  rw [score_eq_mapM, score_eq_mapM, hscore, hlayout]

/-- Chains with the same parts have the same verdicts. -/
theorem RollTable.verdicts_congr [Memory] {cs cs' : List Clause}
    (h : cs.map Clause.part = cs'.map Clause.part) (t : RollTable) :
    t.verdicts cs = t.verdicts cs' := by
  have hlinks : ∀ cs : List Clause, linksOf cs = (cs.map Clause.part).map fun p => some p.1 := by
    intro cs
    rw [List.map_map]
    rfl
  have hscores : ∀ cs : List Clause,
      cs.mapM t.score = (cs.map Clause.part).mapM fun p => p.2 t := by
    intro cs
    rw [List.mapM_map]
    rfl
  rw [verdicts, verdicts, hlinks, hlinks, hscores, hscores, h]

namespace Draft

/-! ## §2 Checked drafts -/

/-- Alike drafts become clauses with the same part, or are refused together. -/
theorem check_congr [Memory] {lead : Bool} {d d' : Draft} (h : Alike lead d d')
    (hdie : d.die = none ↔ d'.die = none) (index : Int) :
    (d.check lead index).map Clause.part = (d'.check lead index).map Clause.part := by
  have hcomplete : (d.clause? lead).isSome ↔ (d'.clause? lead).isSome := by
    rw [clause?_isSome_iff, clause?_isSome_iff, h.complete_iff hdie]
  unfold check
  cases hc : d.clause? lead with
  | none =>
    have hc' : d'.clause? lead = none := by simpa [hc] using hcomplete
    rw [hc']
  | some c =>
    obtain ⟨c', hc'⟩ := Option.isSome_iff_exists.mp (hcomplete.mp (by rw [hc]; rfl))
    have hlink : c.link = c'.link := by
      have heffective := h.effectiveLink?_eq
      rw [link_of_clause? hc, link_of_clause? hc'] at heffective
      exact Option.some.inj heffective
    obtain ⟨hscore, hlayout⟩ := h.score_eq (test_of_clause? hc) (test_of_clause? hc')
    rw [hc']
    exact congrArg Except.ok (Prod.ext hlink (funext (RollTable.score_congr hscore hlayout)))

/-- The drafts of two lists are related position by position. -/
def Matched (R : Nat → Draft → Draft → Prop) (ds ds' : List Draft) : Prop :=
  ds.length = ds'.length ∧ ∀ i d d', ds[i]? = some d → ds'[i]? = some d' → R i d d'

theorem Matched.forall₂_zipIdx {R : Nat → Draft → Draft → Prop} {ds ds' : List Draft}
    (h : Matched R ds ds') :
    List.Forall₂ (fun p p' => p.2 = p'.2 ∧ R p.2 p.1 p'.1) ds.zipIdx ds'.zipIdx := by
  rw [List.forall₂_iff_get]
  refine ⟨by rw [List.length_zipIdx, List.length_zipIdx, h.1], fun i hi hi' => ?_⟩
  rw [List.length_zipIdx] at hi hi'
  simp only [List.get_eq_getElem, List.getElem_zipIdx, Nat.zero_add, true_and]
  exact h.2 i _ _ (List.getElem?_eq_getElem hi) (List.getElem?_eq_getElem hi')

/-- Alike lists become chains with the same parts, or are refused for the same reason. -/
theorem checkAll_congr [Memory] {ds ds' : List Draft}
    (h : Matched (fun i d d' => Alike (i == 0) d d' ∧ (d.die = none ↔ d'.die = none)) ds ds') :
    (checkAll ds).map (List.map Clause.part) = (checkAll ds').map (List.map Clause.part) := by
  have hempty : ds.isEmpty = ds'.isEmpty := by
    rw [Bool.eq_iff_iff, List.isEmpty_iff_length_eq_zero, List.isEmpty_iff_length_eq_zero, h.1]
  unfold checkAll
  rw [← hempty]
  split
  · rfl
  · rw [checkFrom_eq_mapM, checkFrom_eq_mapM]
    refine map_mapM_of_forall₂ h.forall₂_zipIdx ?_
    rintro ⟨d, i⟩ ⟨d', -⟩ ⟨rfl, halike, hdie⟩
    exact check_congr halike hdie i

end Draft

/-! ## §3 Simulations -/

section Simulations

variable [Memory] {α σ : Type} [Numeric α] [Source σ]

/-- Once drafts are checked, only the parts of the clauses are estimated. -/
theorem Request.runIn_simulate_congr {ds ds' : List Draft}
    (h : (Draft.checkAll ds).map (List.map Clause.part) =
      (Draft.checkAll ds').map (List.map Clause.part)) (supply : Supply) (s : Session σ) :
    (simulate (α := α) ds supply).runIn s = (simulate (α := α) ds' supply).runIn s := by
  rw [simulate, simulate]
  cases hds : Draft.checkAll ds with
  | error e =>
    cases hds' : Draft.checkAll ds' with
    | error e' =>
      rw [hds, hds'] at h
      cases h
      rfl
    | ok cs' =>
      rw [hds, hds'] at h
      cases h
  | ok cs =>
    cases hds' : Draft.checkAll ds' with
    | error e' =>
      rw [hds, hds'] at h
      cases h
    | ok cs' =>
      rw [hds, hds'] at h
      have hestimate : ∀ t : RollTable, t.estimate (α := α) cs = t.estimate cs' := fun t => by
        rw [RollTable.estimate, RollTable.estimate, t.verdicts_congr (Except.ok.inj h)]
      -- the same table is supplied to both
      show (table supply >>= fun t => ofExcept (t.estimate cs)).runIn s =
        (table supply >>= fun t => ofExcept (t.estimate cs')).runIn s
      simp only [hestimate]

/-- **An estimate depends only on what drafts are decided by.**  Accepted lists of drafts that are
alike, position by position, get the same answer or the same fault for any rolls, and leave the same
session behind.  In particular no list, accepted or not, is answered differently after a side edit
to one of its drafts. -/
theorem simulate_of_alike :
    (∀ ds ds' cs cs', Draft.checkAll ds = .ok cs → Draft.checkAll ds' = .ok cs' →
      Draft.Matched (fun i => Draft.Alike (i == 0)) ds ds' →
      ∀ (supply : Supply) (s : Session σ),
        (Request.simulate (α := α) ds supply).runIn s = (Request.simulate ds' supply).runIn s) ∧
    (∀ ds i d d', ds[i]? = some d → Draft.SideEdit (i == 0) d d' →
      ∀ (supply : Supply) (s : Session σ),
        (Request.simulate (α := α) (ds.set i d') supply).runIn s =
          (Request.simulate ds supply).runIn s) := by
  constructor
  · intro ds ds' cs cs' hcs hcs' halike supply s
    refine Request.runIn_simulate_congr (Draft.checkAll_congr ⟨halike.1, ?_⟩) supply s
    intro i d d' hd hd'
    -- accepted drafts name their dice
    have hdie := (Draft.complete_of_checkAll hcs hd).die
    have hdie' := (Draft.complete_of_checkAll hcs' hd').die
    exact ⟨halike.2 i d d' hd hd', iff_of_false hdie hdie'⟩
  · intro ds i d d' hd hedit supply s
    refine (Request.runIn_simulate_congr (Draft.checkAll_congr ⟨?_, ?_⟩) supply s).symm
    · rw [List.length_set]
    · intro j e e' he he'
      rw [List.getElem?_set] at he'
      by_cases hj : i = j
      · -- the draft that is edited
        subst hj
        obtain ⟨hlen, -⟩ := List.getElem?_eq_some_iff.mp he
        rw [if_pos rfl, if_pos hlen] at he'
        cases he'
        cases he.symm.trans hd
        exact ⟨hedit.alike, hedit.die_eq_none_iff⟩
      · rw [if_neg hj, he] at he'
        cases he'
        exact ⟨Draft.Alike.refl _ _, Iff.rfl⟩

end Simulations

/-- Asks for a greatest die from two to five and, behind it, for a one right before a two. -/
def modestStart : List Draft :=
  [{ die := some .d6, reduction := some (.statistic .maximum), comparison := some .between,
     span := ⟨2, 5⟩ },
   { die := some .d6, reduction := some .sequence, span := ⟨1, 2⟩, link := some .and }]

/-- Asks for the same, filled in differently. -/
def modestStartAgain : List Draft :=
  [{ die := some .d20, reduction := some (.statistic .maximum), comparison := some .between,
     bound := some .atMost, quantity := 7, value := 4, span := ⟨5, 2⟩, link := some .or },
   { die := some .d4, reduction := some .sequence, comparison := some .equals,
     bound := some .exactly, value := 3, span := ⟨1, 2⟩, link := some .and }]

/-- Two of three rolls stay below six, and one of these two shows the walk. -/
def threeStarts : Nested := .ofRows [[1, 2, 5], [1, 2, 6], [3, 3, 3]]

theorem modest_start_is_asked_twice :
    (∃ cs cs', Draft.checkAll modestStart = .ok cs ∧ Draft.checkAll modestStartAgain = .ok cs') ∧
    Draft.Matched (fun i => Draft.Alike (i == 0)) modestStart modestStartAgain ∧
    (({} : Session Random.Linear).answer ℚ modestStart threeStarts).toOption.map
      Estimate.successes = some 1 ∧
    (({} : Session Random.Linear).answer ℚ modestStartAgain threeStarts).toOption.map
      Estimate.successes = some 1 ∧
    (∃ d, modestStart[1]? = some d ∧ Draft.SideEdit (1 == 0) d { d with value := 9 } ∧
      (({} : Session Random.Linear).answer ℚ (modestStart.set 1 { d with value := 9 })
        threeStarts).toOption.map Estimate.successes = some 1) := by
  have hcs : Draft.checkAll modestStart =
      .ok [⟨.d6, .first, .statistic .maximum ⟨.between, 1, ⟨2, 5⟩⟩⟩,
        ⟨.d6, .and, .sequence ⟨1, 2⟩⟩] := rfl
  have hcs' : Draft.checkAll modestStartAgain =
      .ok [⟨.d20, .first, .statistic .maximum ⟨.between, 4, ⟨5, 2⟩⟩⟩,
        ⟨.d4, .and, .sequence ⟨1, 2⟩⟩] := rfl
  have halike : Draft.Matched (fun i => Draft.Alike (i == 0)) modestStart modestStartAgain := by
    refine ⟨rfl, fun i d d' hd hd' => ?_⟩
    match i with
    | 0 =>
      cases hd
      cases hd'
      exact ⟨by decide, rfl, by decide, fun _ => rfl, fun _ _ => Sym2.eq_swap, by decide,
        by decide, by decide⟩
    | 1 =>
      cases hd
      cases hd'
      exact ⟨fun _ => rfl, rfl, fun _ => rfl, by decide, by decide, by decide, by decide,
        by decide⟩
  have hanswer : (({} : Session Random.Linear).answer ℚ modestStart threeStarts).toOption.map
      Estimate.successes = some 1 := by decide +kernel
  obtain ⟨hlists, hedits⟩ := simulate_of_alike (α := ℚ) (σ := Random.Linear)
  refine ⟨⟨_, _, hcs, hcs'⟩, halike, hanswer, ?_, _, rfl,
    .sequence rfl none 1 none 9, ?_⟩
  · rw [Session.answer, ← hlists _ _ _ _ hcs hcs' halike]
    exact hanswer
  · rw [Session.answer, hedits modestStart 1 _ _ rfl (.sequence rfl none 1 none 9)]
    exact hanswer

end DiceOdds
