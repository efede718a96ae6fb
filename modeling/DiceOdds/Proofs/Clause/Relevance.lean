import DiceOdds.Proofs.Clause.Completeness
import DiceOdds.Roll.Score
import Mathlib.Data.Sym.Sym2

/-!
# What a Draft Is Decided By

A draft has room for every parameter, and its reduction looks at some of them only.  Drafts that
agree on those are *alike*: complete drafts that are alike decide every roll in the same way and
lay out the same for it (`Alike.score_eq`), and if one of them is incomplete, so is the other one,
as long as the dice are named (`Alike.complete_iff`).

A *side edit* changes what is not looked at: the link of the lead, which die it is, how many are
wanted of a statistic, everything but the range of a sequence, the range or the value that is not
compared with, and the order of the ends where there is no walk between them.
-/

namespace DiceOdds

/-! ## §1 Comparisons -/

/-- A range contains its numbers in whichever order the ends are entered. -/
theorem Span.contains_congr {s s' : Span} (h : s(s.lower, s.upper) = s(s'.lower, s'.upper)) :
    s.contains = s'.contains := by
  have hends : s.lowest = s'.lowest ∧ s.highest = s'.highest := by
    unfold lowest highest
    rcases Sym2.eq_iff.mp h with ⟨hlower, hupper⟩ | ⟨hlower, hupper⟩
    · rw [hlower, hupper]
      exact ⟨rfl, rfl⟩
    · rw [hlower, hupper]
      exact ⟨Int.min_comm _ _, Int.max_comm _ _⟩
  funext x
  rw [contains, contains, hends.1, hends.2]

/-- Only `between` looks at the range, and it does not look at the value. -/
theorem Comparison.holds_congr {comparison : Comparison} {value value' : Int} {span span' : Span}
    (hspan : comparison = .between → s(span.lower, span.upper) = s(span'.lower, span'.upper))
    (hvalue : comparison ≠ .between → value = value') :
    comparison.holds value span = comparison.holds value' span' := by
  cases comparison with
  | between => exact Span.contains_congr (hspan rfl)
  | _ =>
    rw [hvalue (by decide)]
    rfl

namespace Draft

/-! ## §2 Drafts that are alike -/

/-- The drafts agree on what their reduction looks at, and on their links unless they lead. -/
structure Alike (lead : Bool) (d d' : Draft) : Prop where
  link : lead = false → d.link = d'.link
  reduction : d.reduction = d'.reduction
  walk : d.reduction = some .sequence → d.span = d'.span
  comparison : d.reduction ≠ some .sequence → d.comparison = d'.comparison
  ends : d.reduction ≠ some .sequence → d.comparison = some .between →
    s(d.span.lower, d.span.upper) = s(d'.span.lower, d'.span.upper)
  value : d.reduction ≠ some .sequence → d.comparison ≠ some .between → d.value = d'.value
  bound : d.reduction = some .each ∨ d.reduction = some .consecutive → d.bound = d'.bound
  quantity : d.reduction = some .each ∨ d.reduction = some .consecutive →
    d.quantity = d'.quantity

/-- A draft that describes a test has what its reduction looks at. -/
theorem exists_of_test? {d : Draft} {t : Test} (h : d.test? = some t) :
    d.reduction = some .sequence ∧ t = .sequence d.span ∨
    ∃ comparison, d.reduction ≠ some .sequence ∧ d.comparison = some comparison ∧
      ((∃ s, d.reduction = some (.statistic s) ∧ t = .statistic s (d.target comparison)) ∨
      ∃ bound, (d.reduction = some .each ∨ d.reduction = some .consecutive) ∧
        d.bound = some bound ∧
        (d.reduction = some .each ∧ t = .each (d.quota bound) (d.target comparison) ∨
        d.reduction = some .consecutive ∧ t = .run (d.quota bound) (d.target comparison))) := by
  unfold test? at h
  split at h <;> cases h <;> simp_all

namespace Alike

variable {lead : Bool} {d d' : Draft}

@[simp] theorem refl (lead : Bool) (d : Draft) : Alike lead d d :=
  ⟨fun _ => rfl, rfl, fun _ => rfl, fun _ => rfl, fun _ _ => rfl, fun _ _ => rfl, fun _ => rfl,
    fun _ => rfl⟩

theorem hits_target (h : Alike lead d d') (hreduction : d.reduction ≠ some .sequence)
    {comparison : Comparison} (hcomparison : d.comparison = some comparison) :
    (d.target comparison).hits = (d'.target comparison).hits := by
  refine Comparison.holds_congr (fun hbetween => ?_) fun hbetween => ?_
  · exact h.ends hreduction (hbetween ▸ hcomparison)
  · refine h.value hreduction ?_
    rw [hcomparison]
    exact fun heq => hbetween (Option.some.inj heq)

theorem quota_eq (h : Alike lead d d')
    (hreduction : d.reduction = some .each ∨ d.reduction = some .consecutive) (bound : Bound) :
    d.quota bound = d'.quota bound := by
  rw [quota, quota, h.quantity hreduction]

/-- **Drafts that are alike decide rolls alike.** -/
theorem score_eq [Memory] (h : Alike lead d d') {t t' : Test} (ht : d.test? = some t)
    (ht' : d'.test? = some t') : t.score = t'.score ∧ t.layOut = t'.layOut := by
  have hreductions := h.reduction.symm
  rcases exists_of_test? ht with ⟨hreduction, rfl⟩ | ⟨comparison, hcompared, hcomparison, htest⟩
  · -- the walks are the same
    have htest' : d'.test? = some (.sequence d'.span) := by
      simp only [test?, hreductions, hreduction]
    cases htest'.symm.trans ht'
    rw [h.walk hreduction]
    exact ⟨rfl, rfl⟩
  · have hcomparison' : d'.comparison = some comparison :=
      (h.comparison hcompared).symm.trans hcomparison
    have hhits := h.hits_target hcompared hcomparison
    rcases htest with ⟨s, hreduction, rfl⟩ | ⟨bound, hcounted, hbound, htest⟩
    · have htest' : d'.test? = some (.statistic s (d'.target comparison)) := by
        simp only [test?, hreductions, hreduction, hcomparison']
      cases htest'.symm.trans ht'
      refine ⟨funext fun r => ?_, rfl⟩
      rw [Test.score, Test.score, hhits]
    · have hbound' : d'.bound = some bound := (h.bound hcounted).symm.trans hbound
      have hquota := h.quota_eq hcounted bound
      rcases htest with ⟨hreduction, rfl⟩ | ⟨hreduction, rfl⟩
      · have htest' : d'.test? = some (.each (d'.quota bound) (d'.target comparison)) := by
          simp only [test?, hreductions, hreduction, hcomparison', hbound']
        cases htest'.symm.trans ht'
        refine ⟨funext fun r => ?_, rfl⟩
        rw [Test.score, Test.score, hhits, hquota]
      · have htest' : d'.test? = some (.run (d'.quota bound) (d'.target comparison)) := by
          simp only [test?, hreductions, hreduction, hcomparison', hbound']
        cases htest'.symm.trans ht'
        refine ⟨funext fun r => ?_, rfl⟩
        rw [Test.score, Test.score, hhits, hquota]

theorem effectiveLink?_eq (h : Alike lead d d') :
    d.effectiveLink? lead = d'.effectiveLink? lead := by
  cases lead with
  | false => exact h.link rfl
  | true => rfl

/-- What makes a draft complete is looked at, but for the die. -/
theorem complete_iff (h : Alike lead d d') (hdie : d.die = none ↔ d'.die = none) :
    d.Complete lead ↔ d'.Complete lead := by
  have hcomparison : (d.reduction ≠ some .sequence → d.comparison ≠ none) ↔
      (d'.reduction ≠ some .sequence → d'.comparison ≠ none) := by
    rw [← h.reduction]
    exact forall_congr' fun hreduction => by rw [h.comparison hreduction]
  have hbound : (d.reduction = some .each ∨ d.reduction = some .consecutive → d.bound ≠ none) ↔
      (d'.reduction = some .each ∨ d'.reduction = some .consecutive → d'.bound ≠ none) := by
    rw [← h.reduction]
    exact forall_congr' fun hreduction => by rw [h.bound hreduction]
  have hlink : (lead = false → d.link ≠ none) ↔ (lead = false → d'.link ≠ none) :=
    forall_congr' fun hlead => by rw [h.link hlead]
  constructor
  · intro hd
    exact ⟨mt hdie.mpr hd.die, hlink.mp hd.link, h.reduction ▸ hd.reduction,
      hcomparison.mp hd.comparison, hbound.mp hd.bound⟩
  · intro hd
    exact ⟨mt hdie.mp hd.die, hlink.mpr hd.link, h.reduction ▸ hd.reduction,
      hcomparison.mpr hd.comparison, hbound.mpr hd.bound⟩

end Alike

/-! ## §3 Side edits -/

/-- The second draft is the first one with a change to what it is not decided by. -/
inductive SideEdit : Bool → Draft → Draft → Prop where
  | link {d : Draft} (link : Option Link) : SideEdit true d { d with link }
  | die {lead : Bool} {d : Draft} (hdie : d.die ≠ none) (die : Die) :
      SideEdit lead d { d with die := some die }
  | count {lead : Bool} {d : Draft} {s : Statistic} (hreduction : d.reduction = some (.statistic s))
      (bound : Option Bound) (quantity : Int) : SideEdit lead d { d with bound, quantity }
  | sequence {lead : Bool} {d : Draft} (hreduction : d.reduction = some .sequence)
      (bound : Option Bound) (quantity : Int) (comparison : Option Comparison) (value : Int) :
      SideEdit lead d { d with bound, quantity, comparison, value }
  | range {lead : Bool} {d : Draft} (hreduction : d.reduction ≠ some .sequence)
      (hcomparison : d.comparison ≠ some .between) (span : Span) : SideEdit lead d { d with span }
  | value {lead : Bool} {d : Draft} (hcomparison : d.comparison = some .between) (value : Int) :
      SideEdit lead d { d with value }
  | swap {lead : Bool} {d : Draft} (hreduction : d.reduction ≠ some .sequence) :
      SideEdit lead d { d with span := ⟨d.span.upper, d.span.lower⟩ }

namespace SideEdit

variable {lead : Bool} {d d' : Draft}

/-- A die that is named stays named. -/
theorem die_eq_none_iff (h : SideEdit lead d d') : d.die = none ↔ d'.die = none := by
  cases h with
  | die hdie die => exact iff_of_false hdie (Option.some_ne_none die)
  | _ => exact Iff.rfl

/-- **A side edit leaves a draft alike.** -/
theorem alike (h : SideEdit lead d d') : Alike lead d d' := by
  -- of the fields that are edited none is looked at
  cases h with
  | link link => exact { Alike.refl true d with link := fun hlead => by cases hlead }
  | die hdie die => exact { Alike.refl lead d with }
  | count hreduction bound quantity =>
    have hcounted : ¬(d.reduction = some .each ∨ d.reduction = some .consecutive) := by
      simp [hreduction]
    exact { Alike.refl lead d with
      bound := fun h => absurd h hcounted
      quantity := fun h => absurd h hcounted }
  | sequence hreduction bound quantity comparison value =>
    have hcounted : ¬(d.reduction = some .each ∨ d.reduction = some .consecutive) := by
      simp [hreduction]
    exact { Alike.refl lead d with
      comparison := fun h => absurd hreduction h
      value := fun h => absurd hreduction h
      bound := fun h => absurd h hcounted
      quantity := fun h => absurd h hcounted }
  | range hreduction hcomparison span =>
    exact { Alike.refl lead d with
      walk := fun h => absurd h hreduction
      ends := fun _ h => absurd h hcomparison }
  | value hcomparison value =>
    exact { Alike.refl lead d with value := fun _ h => absurd hcomparison h }
  | swap hreduction =>
    exact { Alike.refl lead d with
      walk := fun h => absurd h hreduction
      ends := fun _ _ => Sym2.eq_swap }

end SideEdit

end Draft

end DiceOdds
