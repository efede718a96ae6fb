import DiceOdds.Clause.Check
import DiceOdds.Proofs.Roll.Scorable
import Mathlib.Order.Bounds.Defs

/-!
# Complete Drafts

A draft becomes a clause if nothing is missing that its reduction decides by, whatever order
the parts are looked at in (`clause?_isSome_iff`).  Of a list of drafts the first incomplete
one is reported (`faultOf_checkAll`), and what is accepted keeps its links and its spans.
-/

namespace DiceOdds

namespace Draft

/-! ## §1 One draft -/

/-- With a die and a test the lead is accepted, whatever its link says. -/
theorem check_lead {d : Draft} {die : Die} {test : Test} (hdie : d.die = some die)
    (htest : d.test? = some test) (index : Int) :
    d.check true index = .ok { die, link := .first, test } := by
  simp [check, clause?, effectiveLink?, hdie, htest]

/-- Nothing is missing.  The lead needs no link, a sequence is not compared, and only counts
and lengths are held against a bound. -/
structure Complete (d : Draft) (lead : Bool) : Prop where
  die : d.die ≠ none
  link : lead = false → d.link ≠ none
  reduction : d.reduction ≠ none
  comparison : d.reduction ≠ some .sequence → d.comparison ≠ none
  bound : d.reduction = some .each ∨ d.reduction = some .consecutive → d.bound ≠ none

private theorem test?_isSome_iff (d : Draft) : d.test?.isSome ↔ d.reduction ≠ none ∧
    (d.reduction ≠ some .sequence → d.comparison ≠ none) ∧
    (d.reduction = some .each ∨ d.reduction = some .consecutive → d.bound ≠ none) := by
  unfold test?
  -- every reduction, with and without a comparison and a bound
  rcases d.reduction with _ | _ | _ | _ | s <;> rcases d.comparison with _ | c <;>
    rcases d.bound with _ | b <;> simp

private theorem effectiveLink?_isSome_iff (d : Draft) (lead : Bool) :
    (d.effectiveLink? lead).isSome ↔ (lead = false → d.link ≠ none) := by
  cases lead <;> simp [effectiveLink?, Option.isSome_iff_ne_none]

/-- A draft becomes a clause if it is complete. -/
theorem clause?_isSome_iff (d : Draft) (lead : Bool) :
    (d.clause? lead).isSome ↔ d.Complete lead := by
  have hparts : (d.clause? lead).isSome ↔
      d.die ≠ none ∧ (d.effectiveLink? lead).isSome ∧ d.test?.isSome := by
    unfold clause?
    cases d.die <;> cases d.effectiveLink? lead <;> cases d.test? <;> simp
  rw [hparts, effectiveLink?_isSome_iff, test?_isSome_iff]
  constructor
  · rintro ⟨hdie, hlink, hreduction, hcomparison, hbound⟩
    exact ⟨hdie, hlink, hreduction, hcomparison, hbound⟩
  · intro h
    exact ⟨h.die, h.link, h.reduction, h.comparison, h.bound⟩

/-- A draft that can follow others can also lead. -/
theorem Complete.of_follower {d : Draft} (h : d.Complete false) (lead : Bool) :
    d.Complete lead :=
  ⟨h.die, fun _ => h.link rfl, h.reduction, h.comparison, h.bound⟩

instance (d : Draft) (lead : Bool) : Decidable (d.Complete lead) :=
  decidable_of_iff _ (d.clause?_isSome_iff lead)

theorem faultOf_check (d : Draft) (lead : Bool) (index : Int) :
    faultOf (d.check lead index) = if d.Complete lead then none else some (.incomplete index) := by
  have hclause := d.clause?_isSome_iff lead
  unfold check
  cases hc : d.clause? lead with
  | none =>
    rw [hc] at hclause
    rw [if_neg (by simpa using hclause)]
    rfl
  | some c =>
    rw [hc] at hclause
    rw [if_pos (hclause.mp rfl)]
    rfl

/-! ## §2 Lists of drafts -/

/-- Checking from a position on takes one step for each draft. -/
theorem checkFrom_eq_mapM (index : Nat) (ds : List Draft) :
    checkFrom index ds = (ds.zipIdx index).mapM fun p => p.1.check (p.2 == 0) p.2 := by
  induction ds generalizing index with
  | nil => rfl
  | cons d ds ih =>
    rw [checkFrom, List.zipIdx_cons, List.mapM_cons, ih]
    cases d.check (index == 0) index with
    | error e => rfl
    | ok c => cases (ds.zipIdx (index + 1)).mapM fun p => p.1.check (p.2 == 0) p.2 <;> rfl

/-- The position of the first incomplete draft. -/
def firstIncomplete? (ds : List Draft) : Option Nat :=
  (ds.zipIdx.find? fun p => !decide (p.1.Complete (p.2 == 0))).map Prod.snd

/-- It is the least position at which something is missing. -/
theorem firstIncomplete?_eq_some_iff {ds : List Draft} {i : Nat} :
    firstIncomplete? ds = some i ↔
      IsLeast {j | ∃ d, ds[j]? = some d ∧ ¬d.Complete (j == 0)} i := by
  unfold firstIncomplete?
  simp only [Option.map_eq_some_iff, List.find?_eq_some_iff_getElem]
  constructor
  · -- what is found stands at its number, behind complete drafts only
    rintro ⟨⟨d, _⟩, ⟨hd, k, hk, hget, hbefore⟩, rfl⟩
    rw [List.length_zipIdx] at hk
    obtain ⟨rfl, rfl⟩ : ds[k] = d ∧ k = _ := by simpa using hget
    refine ⟨⟨ds[k], List.getElem?_eq_getElem hk, by simpa using hd⟩, ?_⟩
    rintro j ⟨d', hj, hd'⟩
    by_contra hlt
    have hcomplete := hbefore j (by simpa using hlt)
    obtain ⟨hjlen, rfl⟩ := List.getElem?_eq_some_iff.mp hj
    simp [hd'] at hcomplete
  · rintro ⟨⟨d, hi, hd⟩, hleast⟩
    obtain ⟨hlen, rfl⟩ := List.getElem?_eq_some_iff.mp hi
    refine ⟨(ds[i], i), ⟨by simpa using hd, i, by simpa using hlen, by simp, ?_⟩, rfl⟩
    intro j hj
    by_contra hincomplete
    have := hleast
      ⟨ds[j], List.getElem?_eq_getElem (Nat.lt_trans hj hlen), by simpa using hincomplete⟩
    omega

/-- There is none if every draft is complete at its place. -/
theorem firstIncomplete?_eq_none_iff {ds : List Draft} :
    firstIncomplete? ds = none ↔
      ∀ (i : Nat) (d : Draft), ds[i]? = some d → d.Complete (i == 0) := by
  rw [firstIncomplete?, Option.map_eq_none_iff, List.find?_eq_none, Prod.forall, forall_comm]
  simp only [List.mk_mem_zipIdx_iff_getElem?, Bool.not_eq_true', decide_eq_false_iff_not, not_not]

private theorem findSome?_ite_not {α β : Type} (p : α → Bool) (f : α → β) (xs : List α) :
    (xs.findSome? fun x => if p x then none else some (f x)) =
      (xs.find? fun x => !p x).map f := by
  induction xs with
  | nil => rfl
  | cons x xs ih =>
    rw [List.findSome?_cons, List.find?_cons]
    cases p x <;> simp [ih]

/-- There has to be a draft, and the first incomplete one is reported. -/
theorem faultOf_checkAll (ds : List Draft) :
    faultOf (checkAll ds) =
      if ds = [] then some (.malformed .empty)
      else (firstIncomplete? ds).map fun i => .incomplete i := by
  unfold checkAll
  by_cases hds : ds = []
  · rw [if_pos hds, if_pos (by simpa using hds)]
    rfl
  · rw [if_neg hds, if_neg (by simpa using hds), checkFrom_eq_mapM, faultOf_mapM]
    simp only [faultOf_check]
    have hfind := findSome?_ite_not (fun p : Draft × Nat => decide (p.1.Complete (p.2 == 0)))
      (fun p => Rejection.incomplete p.2) ds.zipIdx
    simp only [decide_eq_true_eq] at hfind
    rw [hfind, firstIncomplete?, Option.map_map]
    rfl

/-- A list is accepted if there is a draft, and every draft is complete at its place. -/
theorem exists_checkAll_eq_ok_iff {ds : List Draft} :
    (∃ cs, checkAll ds = .ok cs) ↔
      ds ≠ [] ∧ ∀ (i : Nat) (d : Draft), ds[i]? = some d → d.Complete (i == 0) := by
  rw [← faultOf_eq_none_iff, faultOf_checkAll, ← firstIncomplete?_eq_none_iff]
  split
  · next hds => simp [hds]
  · next hds => simp [hds]

/-- Drafts that can stand anywhere make up a list that is accepted. -/
theorem exists_checkAll_eq_ok {ds : List Draft} (hne : ds ≠ [])
    (h : ∀ d ∈ ds, d.Complete false) : ∃ cs, checkAll ds = .ok cs :=
  exists_checkAll_eq_ok_iff.mpr
    ⟨hne, fun i d hd => (h d (List.mem_of_getElem? hd)).of_follower (i == 0)⟩

/-! ## §3 What is accepted -/

/-- The accepted clauses come from the drafts at their positions. -/
theorem forall₂_of_checkAll {ds : List Draft} {cs : List Clause} (h : checkAll ds = .ok cs) :
    ds ≠ [] ∧ List.Forall₂ (fun p c => p.1.clause? (p.2 == 0) = some c) ds.zipIdx cs := by
  unfold checkAll at h
  split at h
  · cases h
  · next hds =>
    rw [checkFrom_eq_mapM, mapM_eq_ok_iff] at h
    refine ⟨by simpa using hds, h.imp fun p c hp => ?_⟩
    unfold check at hp
    split at hp
    · next heq =>
      cases hp
      exact heq
    · cases hp

/-- Nothing is missing from accepted drafts. -/
theorem complete_of_checkAll {ds : List Draft} {cs : List Clause} (h : checkAll ds = .ok cs)
    {i : Nat} {d : Draft} (hd : ds[i]? = some d) : d.Complete (i == 0) :=
  (exists_checkAll_eq_ok_iff.mp ⟨cs, h⟩).2 i d hd

theorem link_of_clause? {d : Draft} {c : Clause} {lead : Bool} (h : d.clause? lead = some c) :
    d.effectiveLink? lead = some c.link := by
  unfold clause? at h
  split at h
  · next heq _ =>
    cases h
    exact heq
  · cases h

theorem test_of_clause? {d : Draft} {c : Clause} {lead : Bool} (h : d.clause? lead = some c) :
    d.test? = some c.test := by
  unfold clause? at h
  split at h
  · next heq =>
    cases h
    exact heq
  · cases h

/-- The clauses have the tests of the drafts, in order. -/
theorem map_test_of_checkAll {ds : List Draft} {cs : List Clause} (h : checkAll ds = .ok cs) :
    ds.map test? = cs.map fun c => some c.test := by
  have htests : List.Forall₂ (fun d c => test? d = some (Clause.test c)) (ds.zipIdx.map Prod.fst)
      cs :=
    List.forall₂_map_left_iff.mpr ((forall₂_of_checkAll h).2.imp fun p c hc => test_of_clause? hc)
  rw [List.zipIdx_map_fst] at htests
  rwa [← List.forall₂_eq_eq_eq, List.forall₂_map_right_iff, List.forall₂_map_left_iff]

/-- What keeps a draft from deciding so many rolls of so many dice, once it is a clause: the walk
of a sequence that cannot be laid out, or cannot be compared with all of them. -/
def layoutFault? [Memory] (d : Draft) (rolls dice : Nat) : Option Fault :=
  if d.reduction = some .sequence then faultOf (d.span.layOut rolls dice) else none

theorem layoutFault?_of_test? [Memory] {d : Draft} {t : Test} (h : d.test? = some t)
    (rolls dice : Nat) : t.layoutFault? rolls dice = d.layoutFault? rolls dice := by
  unfold test? at h
  unfold layoutFault?
  split at h <;> cases h
  case h_1 hseq => rw [if_pos hseq, Test.layoutFault?, Test.layOut, faultOf_map]
  all_goals simp_all [Test.layoutFault?, Test.layOut, faultOf]

/-- Once a draft is a clause, the walk of a sequence can be compared with all windows of so many
rolls of so many dice, if it can be laid out. -/
def WindowsFit [Memory] (d : Draft) (rolls dice : Nat) : Prop :=
  d.reduction = some .sequence → d.span.WindowsFit rolls dice

theorem windowsFit_of_test? [Memory] {d : Draft} {t : Test} (h : d.test? = some t)
    {rolls dice : Nat} : t.WindowsFit rolls dice ↔ d.WindowsFit rolls dice := by
  unfold test? at h
  unfold WindowsFit
  split at h <;> cases h <;> simp_all [Test.WindowsFit]

/-- What the tests of the clauses are like can be told from the drafts. -/
theorem exists_mem_of_checkAll {p : Test → Prop} {q : Draft → Prop} {ds : List Draft}
    {cs : List Clause} (h : checkAll ds = .ok cs)
    (hpq : ∀ (d : Draft) (t : Test), d.test? = some t → (p t ↔ q d)) :
    (∃ c ∈ cs, p c.test) ↔ ∃ d ∈ ds, q d := by
  calc (∃ c ∈ cs, p c.test)
      ↔ ∃ numbered ∈ ds.zipIdx, q numbered.1 :=
        (exists_mem_iff_of_forall₂ (forall₂_of_checkAll h).2 fun numbered c hc =>
          (hpq numbered.1 c.test (test_of_clause? hc)).symm).symm
    _ ↔ ∃ d ∈ ds.zipIdx.map Prod.fst, q d := by
        simp only [List.mem_map, exists_exists_and_eq_and]
    _ ↔ ∃ d ∈ ds, q d := by rw [List.zipIdx_map_fst]

theorem forall_mem_of_checkAll {p : Test → Prop} {q : Draft → Prop} {ds : List Draft}
    {cs : List Clause} (h : checkAll ds = .ok cs)
    (hpq : ∀ (d : Draft) (t : Test), d.test? = some t → (p t ↔ q d)) :
    (∀ c ∈ cs, p c.test) ↔ ∀ d ∈ ds, q d := by
  have hexists := exists_mem_of_checkAll (p := fun t => ¬p t) (q := fun d => ¬q d) h
    fun d t ht => not_congr (hpq d t ht)
  simpa only [not_exists, not_and, not_not] using not_congr hexists

theorem mode_of_test? {d : Draft} {t : Test} (h : d.test? = some t) :
    (∃ target, t = .statistic .mode target) ↔ d.reduction = some (.statistic .mode) := by
  unfold test? at h
  split at h <;> cases h <;> simp_all

/-- The clauses cannot be laid out where the drafts cannot. -/
theorem findSome?_layoutFault? [Memory] {ds : List Draft} {cs : List Clause}
    (h : checkAll ds = .ok cs) (rolls dice : Nat) :
    (cs.findSome? fun c => c.test.layoutFault? rolls dice) =
      ds.findSome? fun d => d.layoutFault? rolls dice := by
  calc (cs.findSome? fun c => c.test.layoutFault? rolls dice)
      = ds.zipIdx.findSome? ((fun d => layoutFault? d rolls dice) ∘ Prod.fst) :=
        (findSome?_of_forall₂ (forall₂_of_checkAll h).2 fun p c hp =>
          (layoutFault?_of_test? (test_of_clause? hp) rolls dice).symm).symm
    _ = ds.findSome? fun d => d.layoutFault? rolls dice := by
        rw [← List.findSome?_map, List.zipIdx_map_fst]

private theorem links_of_forall₂ {ds : List Draft} : ∀ {k : Nat} {cs : List Clause}, 0 < k →
    List.Forall₂ (fun p c => p.1.clause? (p.2 == 0) = some c) (ds.zipIdx k) cs →
    ds.map Draft.link = linksOf cs := by
  induction ds with
  | nil =>
    intro k cs _ h
    cases h
    rfl
  | cons d ds ih =>
    -- past position 0 no draft is the lead
    intro k cs hk h
    rw [List.zipIdx_cons] at h
    cases h with
    | cons hd hds =>
      have hlead : (k == 0) = false := by simpa using Nat.ne_of_gt hk
      have hlink := link_of_clause? hd
      simp only [hlead, effectiveLink?] at hlink
      exact congrArg₂ List.cons hlink (ih (Nat.succ_pos k) hds)

/-- Behind the lead the clauses keep the links of the drafts. -/
theorem map_link_tail {ds : List Draft} {cs : List Clause} (h : checkAll ds = .ok cs) :
    ds.tail.map Draft.link = linksOf cs.tail := by
  have hclauses := (forall₂_of_checkAll h).2
  cases ds with
  | nil => cases hclauses; rfl
  | cons d ds =>
    rw [List.zipIdx_cons] at hclauses
    cases hclauses with
    | cons _ hds => exact links_of_forall₂ Nat.one_pos hds

end Draft

end DiceOdds
