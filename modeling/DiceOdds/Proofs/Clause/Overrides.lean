import DiceOdds.Proofs.Clause.Parameters
import DiceOdds.Proofs.Mentions

/-!
# Replacing Parameters One After Another

A clause is a die, a link and what its test answers when asked for its parts (`Test.ext_parts`), and
a replacement changes one of the numbers among them, if the test has it (`Clause.Takes.set`).  After
any number of replacements the clause therefore holds, for each parameter, the number that was given
last, and everything else as before (`takes_setAll`), which leaves no choice (`Takes.unique`).
Checking commutes with each replacement, and so with all of them (`check_setAll`).

**Main statement**: `replacements_commute_with_checking`.
-/

namespace DiceOdds

/-! ## §1 The parts of a test -/

/-- Tests with the same parts are the same; which kind of test it is shows in the reduction. -/
theorem Test.ext_parts {t t' : Test} (hreduction : t.reduction = t'.reduction)
    (hbound : t.bound = t'.bound) (hcomparison : t.comparison = t'.comparison)
    (hvalue : t.value? = t'.value?) (hquantity : t.quantity? = t'.quantity?)
    (hspan : t.span = t'.span) : t = t' := by
  -- tests of different kinds have different reductions
  rcases t with ⟨⟨_, _⟩, ⟨_, _, _⟩⟩ | ⟨⟨_, _⟩, ⟨_, _, _⟩⟩ | _ | ⟨_, ⟨_, _, _⟩⟩ <;>
    rcases t' with ⟨⟨_, _⟩, ⟨_, _, _⟩⟩ | ⟨⟨_, _⟩, ⟨_, _, _⟩⟩ | _ | ⟨_, ⟨_, _, _⟩⟩ <;>
    simp_all [reduction, bound, comparison, value?, quantity?, span]

/-! ## §2 Given numbers -/

namespace Clause

/-- The second clause is the first one with the given numbers in place of its own: die, link,
reduction (and with it the kind of test), bound and comparison are the same, and so are the numbers
that are not given. -/
structure Takes (c : Clause) (given : Axis → Option Int) (c' : Clause) : Prop where
  die : c'.die = c.die
  link : c'.link = c.link
  reduction : c'.test.reduction = c.test.reduction
  bound : c'.test.bound = c.test.bound
  comparison : c'.test.comparison = c.test.comparison
  value : c'.test.value? = c.test.value?.map fun v => (given .value).getD v
  quantity : c'.test.quantity? = c.test.quantity?.map fun q => (given .quantity).getD q
  span : c'.test.span =
    ⟨(given .rangeLower).getD c.test.span.lower, (given .rangeUpper).getD c.test.span.upper⟩

variable {c c' c'' : Clause} {given : Axis → Option Int}

/-- Nothing is given, and nothing is replaced. -/
theorem Takes.refl (c : Clause) : c.Takes (fun _ => none) c := by
  refine ⟨rfl, rfl, rfl, rfl, rfl, ?_, ?_, rfl⟩
  · exact Option.map_id'.symm
  · exact Option.map_id'.symm

/-- One more number is given: it takes the place of what was given for its parameter before. -/
theorem Takes.set (h : c.Takes given c') (axis : Axis) (x : Int) :
    c.Takes (Function.update given axis (some x)) (c'.set axis x) := by
  refine ⟨h.die, h.link, ?_, ?_, ?_, ?_, ?_, ?_⟩
  · exact (Test.reduction_set ..).trans h.reduction
  · exact (Test.bound_set ..).trans h.bound
  · exact (Test.comparison_set ..).trans h.comparison
  · rw [Clause.set, Test.value?_set, h.value, Option.map_map]
    cases axis <;> rfl
  · rw [Clause.set, Test.quantity?_set, h.quantity, Option.map_map]
    cases axis <;> rfl
  · -- an end of the range leaves the other end alone
    rw [Clause.set, Test.span_set, h.span]
    cases axis <;> rfl

/-- What is given leaves no choice. -/
theorem Takes.unique (h : c.Takes given c') (h' : c.Takes given c'') : c' = c'' := by
  have hdie : c'.die = c''.die := h.die.trans h'.die.symm
  have hlink : c'.link = c''.link := h.link.trans h'.link.symm
  have htest : c'.test = c''.test :=
    Test.ext_parts (h.reduction.trans h'.reduction.symm) (h.bound.trans h'.bound.symm)
      (h.comparison.trans h'.comparison.symm) (h.value.trans h'.value.symm)
      (h.quantity.trans h'.quantity.symm) (h.span.trans h'.span.symm)
  cases c'
  cases c''
  cases hdie
  cases hlink
  cases htest
  rfl

/-! ## §3 Steps -/

/-- The clause with parameters replaced one after another. -/
def setAll (c : Clause) (steps : List (Axis × Int)) : Clause :=
  steps.foldl (fun c step => c.set step.1 step.2) c

/-- **After any number of steps** a clause holds, for each parameter, what was given last. -/
theorem takes_setAll (c : Clause) (steps : List (Axis × Int)) :
    c.Takes (Ordered.last? steps) (c.setAll steps) := by
  induction steps using List.reverseRecOn with
  | nil => exact Takes.refl c
  | append_singleton steps step ih =>
    rw [Ordered.last?_concat, setAll, List.foldl_append]
    exact ih.set step.1 step.2

end Clause

/-- The draft with parameters replaced one after another. -/
def Draft.setAll (d : Draft) (steps : List (Axis × Int)) : Draft :=
  steps.foldl (fun d step => d.set step.1 step.2) d

/-- Checking commutes with steps. -/
theorem Draft.check_setAll (d : Draft) (lead : Bool) (index : Int) (steps : List (Axis × Int)) :
    (d.setAll steps).check lead index = (d.check lead index).map fun c => c.setAll steps := by
  induction steps generalizing d with
  | nil =>
    show d.check lead index = (d.check lead index).map id
    cases d.check lead index <;> rfl
  | cons step steps ih =>
    show ((d.set step.1 step.2).setAll steps).check lead index = _
    rw [ih, check_set]
    cases d.check lead index <;> rfl

/-- **Replacing parameters commutes with checking, and with itself.**  Whether the steps are applied
to a draft that is accepted or to the clause that it becomes, the outcome is the same; it is the
clause with the number that was given last for each parameter, so that steps which agree on these,
in whatever order the parameters take turns, come out alike; and nothing but numbers is replaced. -/
theorem replacements_commute_with_checking {d : Draft} {c : Clause} {lead : Bool} {index : Int}
    (h : d.check lead index = .ok c) (steps : List (Axis × Int)) :
    (d.setAll steps).check lead index = .ok (c.setAll steps) ∧
    c.Takes (Ordered.last? steps) (c.setAll steps) ∧
    ∀ steps', (∀ axis, Ordered.last? steps' axis = Ordered.last? steps axis) →
      c.setAll steps' = c.setAll steps ∧
      (d.setAll steps').check lead index = (d.setAll steps).check lead index := by
  have hcheck : ∀ steps, (d.setAll steps).check lead index = .ok (c.setAll steps) := by
    intro steps
    rw [Draft.check_setAll, h]
    rfl
  refine ⟨hcheck steps, c.takes_setAll steps, fun steps' hlast => ?_⟩
  have htakes := c.takes_setAll steps'
  rw [funext hlast] at htakes
  have houtcome := htakes.unique (c.takes_setAll steps)
  exact ⟨houtcome, by rw [hcheck, hcheck, houtcome]⟩

/-- Counts dice between two ends. -/
def dieBetween : Draft :=
  { bound := some .atLeast
    quantity := 2
    die := some .d6
    reduction := some .each
    comparison := some .between
    span := ⟨2, 5⟩ }

/-- The ends are written in turns with the quantity, one of them twice; the steps in another order
come out alike. -/
theorem ends_are_replaced_apart :
    dieBetween.check true 0 = .ok
      { die := .d6, link := .first, test := .each ⟨.atLeast, 2⟩ ⟨.between, 1, ⟨2, 5⟩⟩ } ∧
    (dieBetween.setAll [(.rangeLower, 9), (.quantity, 0), (.rangeUpper, 4), (.rangeLower, 3)]).check
      true 0 = .ok
        { die := .d6, link := .first, test := .each ⟨.atLeast, 0⟩ ⟨.between, 1, ⟨3, 4⟩⟩ } ∧
    (dieBetween.setAll [(.rangeUpper, 4), (.rangeLower, 3), (.quantity, 0)]).check true 0 =
      (dieBetween.setAll [(.rangeLower, 9), (.quantity, 0), (.rangeUpper, 4),
        (.rangeLower, 3)]).check true 0 := by
  have haccepted : dieBetween.check true 0 = .ok
      { die := .d6, link := .first, test := .each ⟨.atLeast, 2⟩ ⟨.between, 1, ⟨2, 5⟩⟩ } := rfl
  obtain ⟨hcheck, -, horder⟩ := replacements_commute_with_checking haccepted
    [(.rangeLower, 9), (.quantity, 0), (.rangeUpper, 4), (.rangeLower, 3)]
  exact ⟨haccepted, hcheck, (horder _ (by rintro (_ | _ | _ | _) <;> rfl)).2⟩

end DiceOdds
