import DiceOdds.Proofs.Roll.Scorable

/-!
# Counts and Stretches

A test with a quantity holds counts against its bound: the number of dice that meet the target,
or the lengths of their stretches.  The roll is accepted if one of them is admitted
(`accepts_set_quantity`).  No count is larger than the roll.  A number of dice is always there
to be admitted, while a stretch is there only if some die meets the target
(`stretches_eq_nil_iff`).

Where more dice meet the target, stretches merge, but none of them is lost: each lies in one that
is at least as long (`exists_ge_of_imp`).
-/

namespace DiceOdds

/-! ## §1 Stretches -/

namespace Roll

variable {p : Int → Bool}

/-- A stretch holds dice, and no more of them than there are. -/
theorem stretchesFrom_bounds (r : Roll) : ∀ run : Nat, ∀ n ∈ stretchesFrom p run r,
    0 < n ∧ n ≤ run + r.length := by
  induction r with
  | nil =>
    intro run n hn
    rw [stretchesFrom_nil] at hn
    split at hn <;> simp_all
    omega
  | cons x r ih =>
    intro run n hn
    rw [stretchesFrom_cons] at hn
    rw [List.length_cons]
    split at hn
    · -- the die joins the open stretch
      have := ih (run + 1) n hn
      omega
    · split at hn
      · have := ih 0 n hn
        omega
      · -- the die ends the open stretch, whose length is known
        rcases List.mem_cons.mp hn with rfl | hn
        · omega
        · have := ih 0 n hn
          omega

/-- There is no stretch if none is open and no die would open one. -/
theorem stretchesFrom_eq_nil_iff (r : Roll) : ∀ run : Nat,
    stretchesFrom p run r = [] ↔ run = 0 ∧ ∀ x ∈ r, p x = false := by
  induction r with
  | nil =>
    intro run
    rw [stretchesFrom_nil]
    split <;> simp_all
  | cons x r ih =>
    intro run
    rw [stretchesFrom_cons, List.forall_mem_cons]
    split
    · -- a die that meets the target leaves a stretch open
      next hx => simp [ih, hx]
    · next hx =>
      split
      · next hrun => simp [ih, hx, hrun]
      · next hrun => simp [hrun]

theorem stretches_eq_nil_iff {r : Roll} : stretches p r = [] ↔ ∀ x ∈ r, p x = false := by
  simp [stretches, stretchesFrom_eq_nil_iff]

/-- An open stretch ends up among the stretches, and dice that join it only make it longer. -/
theorem exists_ge_of_open (r : Roll) : ∀ {run : Nat}, 0 < run →
    ∃ n ∈ stretchesFrom p run r, run ≤ n := by
  induction r with
  | nil =>
    intro run hrun
    rw [stretchesFrom_nil, if_neg (Nat.ne_of_gt hrun)]
    exact ⟨run, List.mem_singleton_self run, Nat.le_refl run⟩
  | cons x r ih =>
    intro run hrun
    rw [stretchesFrom_cons]
    split
    · obtain ⟨n, hn, hle⟩ := ih (Nat.succ_pos run)
      exact ⟨n, hn, Nat.le_of_succ_le hle⟩
    · -- the die ends the stretch as it stands
      rw [if_neg (Nat.ne_of_gt hrun)]
      exact ⟨run, List.mem_cons_self, Nat.le_refl run⟩

/-- **Stretches grow with the dice that count.**  Where more dice satisfy the property, stretches
merge, but each of the old ones lies in a new one. -/
theorem exists_ge_of_imp {p' : Int → Bool} {r : Roll} (h : ∀ x ∈ r, p x = true → p' x = true) :
    ∀ {run run' : Nat}, run ≤ run' → ∀ n ∈ stretchesFrom p run r,
      ∃ n' ∈ stretchesFrom p' run' r, n ≤ n' := by
  induction r with
  | nil =>
    intro run run' hle n hn
    rw [stretchesFrom_nil] at hn ⊢
    split at hn
    · cases hn
    · rw [if_neg (by omega)]
      rw [List.mem_singleton.mp hn]
      exact ⟨run', List.mem_singleton_self run', hle⟩
  | cons x r ih =>
    obtain ⟨hx, hr⟩ := List.forall_mem_cons.mp h
    intro run run' hle n hn
    rw [stretchesFrom_cons] at hn ⊢
    by_cases hp : p x = true
    · -- the die joins both stretches
      rw [if_pos hp] at hn
      rw [if_pos (hx hp)]
      exact ih hr (Nat.succ_le_succ hle) n hn
    · rw [if_neg hp] at hn
      -- an old stretch is the open one, which ends here, or lies behind the die
      have hsplit : 0 < run ∧ n = run ∨ n ∈ stretchesFrom p 0 r := by
        split at hn
        · exact .inr hn
        · rcases List.mem_cons.mp hn with rfl | hn
          · exact .inl ⟨by omega, rfl⟩
          · exact .inr hn
      by_cases hp' : p' x = true
      · rw [if_pos hp']
        rcases hsplit with ⟨-, rfl⟩ | hn
        · obtain ⟨n', hn', hle'⟩ := exists_ge_of_open (p := p') r (Nat.succ_pos run')
          exact ⟨n', hn', by omega⟩
        · exact ih hr (Nat.zero_le (run' + 1)) n hn
      · rw [if_neg hp']
        rcases hsplit with ⟨hrun, rfl⟩ | hn
        · rw [if_neg (by omega)]
          exact ⟨run', List.mem_cons_self, hle⟩
        · obtain ⟨n', hn', hle'⟩ := ih hr (Nat.le_refl 0) n hn
          refine ⟨n', ?_, hle'⟩
          split
          · exact hn'
          · exact List.mem_cons_of_mem run' hn'

end Roll

/-! ## §2 Counts of a test -/

namespace Test

/-- The counts that a test holds against its bound. -/
def counts (t : Test) (r : Roll) : List Nat :=
  match t with
  | .each _ target => [r.countP target.hits]
  | .run _ target => Roll.stretches target.hits r
  | _ => []

/-- Whether a test has a quantity. -/
def hasQuantity (t : Test) : Bool := t.quantity?.isSome

@[simp] theorem hasQuantity_set (t : Test) (axis : Axis) (x : Int) :
    (t.set axis x).hasQuantity = t.hasQuantity := by
  cases t <;> rfl

section HasQuantity

variable {t : Test} (h : t.hasQuantity = true)
include h

theorem layoutFault?_of_hasQuantity [Memory] (rolls dice : Nat) :
    t.layoutFault? rolls dice = none := by
  cases t with
  | each quota target => rfl
  | run quota target => rfl
  | sequence span => cases h
  | statistic s target => cases h

theorem obstacle?_of_hasQuantity [Memory] (r : Roll) : t.obstacle? r = none := by
  cases t with
  | each quota target => rfl
  | run quota target => rfl
  | sequence span => cases h
  | statistic s target => cases h

theorem reduction_ne_sum_of_hasQuantity : t.reduction ≠ .statistic .sum := by
  cases t with
  | each quota target => simp [reduction]
  | run quota target => simp [reduction]
  | sequence span => cases h
  | statistic s target => cases h

theorem accepts_set_quantity [Memory] (q : Int) (r : Roll) :
    (t.set .quantity q).accepts r = (t.counts r).any fun n => t.bound.admits q n := by
  cases t with
  | each quota target => simp [Test.set, counts, Test.accepts, Test.score, bound]; rfl
  | run quota target => rfl
  | sequence span => cases h
  | statistic s target => cases h

end HasQuantity

theorem le_length_of_mem_counts {t : Test} {r : Roll} {n : Nat} (h : n ∈ t.counts r) :
    n ≤ r.length := by
  cases t with
  | each quota target =>
    rw [List.mem_singleton.mp h]
    exact List.countP_le_length
  | run quota target =>
    have := Roll.stretchesFrom_bounds r 0 n h
    omega
  | sequence span => cases h
  | statistic s target => cases h

end Test

end DiceOdds
