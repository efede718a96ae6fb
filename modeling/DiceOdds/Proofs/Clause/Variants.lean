import DiceOdds.Proofs.Clause.Completeness

/-!
# What Drafts Become

A draft describes the test of its reduction, which takes over everything that it holds
(`Draft.Describes`), and nothing else (`test?_eq_some_iff`).  With the die, and with the link
unless it is the lead, this is the clause that checking returns (`check_eq_ok_iff`); so a list that
is accepted comes back in order, draft by draft (`checkAll_eq_ok_iff`).

**Main statement**: `checkAll_accepts_complete_drafts`.
-/

namespace DiceOdds

namespace Draft

variable {d : Draft} {test : Test}

/-! ## §1 Tests -/

/-- The test has the kind of the draft's reduction, and holds what the draft holds. -/
inductive Describes (d : Draft) : Test → Prop where
  | each {bound : Bound} {comparison : Comparison} (hreduction : d.reduction = some .each)
      (hbound : d.bound = some bound) (hcomparison : d.comparison = some comparison) :
      Describes d (.each ⟨bound, d.quantity⟩ ⟨comparison, d.value, d.span⟩)
  | run {bound : Bound} {comparison : Comparison} (hreduction : d.reduction = some .consecutive)
      (hbound : d.bound = some bound) (hcomparison : d.comparison = some comparison) :
      Describes d (.run ⟨bound, d.quantity⟩ ⟨comparison, d.value, d.span⟩)
  | sequence (hreduction : d.reduction = some .sequence) : Describes d (.sequence d.span)
  | statistic {s : Statistic} {comparison : Comparison}
      (hreduction : d.reduction = some (.statistic s))
      (hcomparison : d.comparison = some comparison) :
      Describes d (.statistic s ⟨comparison, d.value, d.span⟩)

theorem test?_eq_some_iff : d.test? = some test ↔ d.Describes test := by
  constructor
  · intro h
    unfold test? at h
    -- one case for each kind of test; a draft that lacks something has none
    split at h
    · next hreduction =>
      cases h
      exact .sequence hreduction
    · next hreduction hcomparison =>
      cases h
      exact .statistic hreduction hcomparison
    · next hreduction hcomparison hbound =>
      cases h
      exact .each hreduction hbound hcomparison
    · next hreduction hcomparison hbound =>
      cases h
      exact .run hreduction hbound hcomparison
    · cases h
  · intro h
    cases h with
    | each hreduction hbound hcomparison =>
      simp [test?, quota, target, hreduction, hbound, hcomparison]
    | run hreduction hbound hcomparison =>
      simp [test?, quota, target, hreduction, hbound, hcomparison]
    | sequence hreduction => simp [test?, hreduction]
    | statistic hreduction hcomparison => simp [test?, target, hreduction, hcomparison]

/-- Whether the reduction of a draft counts something. -/
def Counts (d : Draft) : Prop := d.reduction = some .each ∨ d.reduction = some .consecutive

/-- Asked for its properties, the test answers as the draft would: a test that counts nothing is
met exactly, and a sequence lies between its ends. -/
structure ReadsAs (d : Draft) (test : Test) : Prop where
  reduction : d.reduction = some test.reduction
  span : test.span = d.span
  counted : d.Counts → d.bound = some test.bound ∧ test.quantity? = some d.quantity
  uncounted : ¬d.Counts → test.bound = .exactly ∧ test.quantity? = none
  compared : d.reduction ≠ some .sequence →
    d.comparison = some test.comparison ∧ test.value? = some d.value
  uncompared : d.reduction = some .sequence → test.comparison = .between ∧ test.value? = none

theorem Describes.readsAs (h : d.Describes test) : d.ReadsAs test := by
  cases h with
  | each hreduction hbound hcomparison =>
    refine ⟨hreduction, rfl, fun _ => ⟨hbound, rfl⟩, ?_, fun _ => ⟨hcomparison, rfl⟩, ?_⟩ <;>
      simp [Counts, hreduction]
  | run hreduction hbound hcomparison =>
    refine ⟨hreduction, rfl, fun _ => ⟨hbound, rfl⟩, ?_, fun _ => ⟨hcomparison, rfl⟩, ?_⟩ <;>
      simp [Counts, hreduction]
  | sequence hreduction =>
    refine ⟨hreduction, rfl, ?_, fun _ => ⟨rfl, rfl⟩, ?_, fun _ => ⟨rfl, rfl⟩⟩ <;>
      simp [Counts, hreduction]
  | statistic hreduction hcomparison =>
    refine ⟨hreduction, rfl, ?_, fun _ => ⟨rfl, rfl⟩, fun _ => ⟨hcomparison, rfl⟩, ?_⟩ <;>
      simp [Counts, hreduction]

/-! ## §2 Clauses -/

/-- The clause has the die of the draft, its link unless it is the lead, and the test that it
describes. -/
structure Becomes (d : Draft) (lead : Bool) (c : Clause) : Prop where
  die : d.die = some c.die
  link : lead = false → d.link = some c.link
  link_lead : lead = true → c.link = .first
  test : d.Describes c.test

theorem effectiveLink?_eq_some_iff {lead : Bool} {link : Link} :
    d.effectiveLink? lead = some link ↔
      (lead = false → d.link = some link) ∧ (lead = true → link = .first) := by
  cases lead with
  | false => simp [effectiveLink?]
  | true => simp [effectiveLink?, eq_comm]

theorem clause?_eq_some_iff {lead : Bool} {c : Clause} :
    d.clause? lead = some c ↔ d.Becomes lead c := by
  constructor
  · intro h
    have htest := test?_eq_some_iff.mp (test_of_clause? h)
    obtain ⟨hlink, hlead⟩ := effectiveLink?_eq_some_iff.mp (link_of_clause? h)
    have hdie : d.die = some c.die := by
      unfold clause? at h
      split at h
      · next heq _ _ =>
        cases h
        exact heq
      · cases h
    exact ⟨hdie, hlink, hlead, htest⟩
  · intro h
    have htest := test?_eq_some_iff.mpr h.test
    have hlink := effectiveLink?_eq_some_iff.mpr ⟨h.link, h.link_lead⟩
    simp only [clause?, h.die, hlink, htest]

theorem check_eq_ok_iff {lead : Bool} {index : Int} {c : Clause} :
    d.check lead index = .ok c ↔ d.Becomes lead c := by
  rw [← clause?_eq_some_iff, check]
  cases d.clause? lead with
  | none => simp
  | some c' => simp

/-! ## §3 Lists of drafts -/

/-- An accepted list comes back in order, and each draft has become a clause. -/
theorem checkAll_eq_ok_iff {ds : List Draft} {cs : List Clause} :
    checkAll ds = .ok cs ↔ ds ≠ [] ∧ cs.length = ds.length ∧
      ∀ (i : Nat) (d : Draft) (c : Clause), ds[i]? = some d → cs[i]? = some c →
        d.Becomes (i == 0) c := by
  by_cases hds : ds = []
  · simp [checkAll, hds]
  · -- one step for each numbered draft, and the lead is number nought
    rw [checkAll, if_neg (by simpa using hds), checkFrom_eq_mapM, mapM_eq_ok_iff,
      forall₂_zipIdx_iff]
    simp only [check_eq_ok_iff, ne_eq, hds, not_false_eq_true, true_and]

/-- **Checking accepts the complete lists and loses nothing.**  There has to be a draft, and the
first incomplete one is reported.  All other lists are accepted: each draft becomes, at its place,
the clause with the test of its reduction, its die and its link, except that the lead is always
the first; and the test answers for the draft. -/
theorem checkAll_accepts_complete_drafts (ds : List Draft) :
    (checkAll ds = .error (.malformed .empty) ↔ ds = []) ∧
    (∀ i : Int, checkAll ds = .error (.incomplete i) ↔
      ∃ n : Nat, i = n ∧ IsLeast {j | ∃ d, ds[j]? = some d ∧ ¬d.Complete (j == 0)} n) ∧
    ((∃ cs, checkAll ds = .ok cs) ↔
      ds ≠ [] ∧ ∀ (i : Nat) (d : Draft), ds[i]? = some d → d.Complete (i == 0)) ∧
    ∀ cs, checkAll ds = .ok cs → cs.length = ds.length ∧
      ∀ (i : Nat) (d : Draft) (c : Clause), ds[i]? = some d → cs[i]? = some c →
        d.Becomes (i == 0) c ∧ d.ReadsAs c.test := by
  refine ⟨?_, fun i => ?_, exists_checkAll_eq_ok_iff, fun cs hcs => ?_⟩
  · rw [← faultOf_eq_some_iff, faultOf_checkAll]
    split
    · next hds => simp [hds]
    · next hds => simp [hds]
  · rw [← faultOf_eq_some_iff, faultOf_checkAll]
    split
    · next hds =>
      constructor
      · intro h
        cases h
      · -- no draft is at fault, for there is none
        rintro ⟨n, -, ⟨d, hd, -⟩, -⟩
        simp [hds] at hd
    · rw [Option.map_eq_some_iff]
      refine exists_congr fun n => ?_
      rw [firstIncomplete?_eq_some_iff, Rejection.incomplete.injEq, and_comm, eq_comm]
  · obtain ⟨-, hlength, hbecomes⟩ := checkAll_eq_ok_iff.mp hcs
    refine ⟨hlength, fun i d c hd hc => ?_⟩
    have h := hbecomes i d c hd hc
    exact ⟨h, h.test.readsAs⟩

/-- The lead needs no link, its follower does, and is reported in front of a draft that lacks
everything. -/
example : checkAll
    [{ die := some .d6, reduction := some .sequence },
     { die := some .d6, reduction := some .sequence }, {}] = .error (.incomplete 1) := rfl

end Draft

end DiceOdds
