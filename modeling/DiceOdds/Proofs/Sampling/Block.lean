import DiceOdds.Proofs.Roll.Bounds
import DiceOdds.Sampling.Plan

/-!
# Blocks of Draws

A table is drawn roll after roll and die after die, which comes to one block of draws: its
rolls, one behind the other, are the draws in order (`collect_collect`), and the source moves
on as far as the block reaches.  Only then frozen dice are turned to their faces
(`rows_draw`).
-/

namespace DiceOdds

/-! ## §1 Draws in stretches -/

namespace Source

variable {σ α β : Type}

theorem collect_add (draw : σ → α × σ) (m n : Nat) (s : σ) :
    collect draw (m + n) s =
      ((collect draw m s).1 ++ (collect draw n (collect draw m s).2).1,
        (collect draw n (collect draw m s).2).2) := by
  induction m generalizing s with
  | zero => simp
  | succ m ih =>
    rw [Nat.add_right_comm, collect_succ, collect_succ, ih]
    rfl

/-- Draws in stretches of equal length are draws in one go. -/
theorem collect_collect (draw : σ → α × σ) (n m : Nat) (s : σ) :
    collect draw (n * m) s =
      ((collect (collect draw m) n s).1.flatten, (collect (collect draw m) n s).2) := by
  induction n generalizing s with
  | zero => simp
  | succ n ih =>
    -- the first stretch, and behind it the others
    rw [Nat.succ_mul, Nat.add_comm, collect_add, collect_succ, ih]
    rfl

/-- What becomes of each draw afterwards does not matter to the source. -/
theorem collect_map (draw : σ → α × σ) (f : α → β) (n : Nat) (s : σ) :
    collect (fun s => (f (draw s).1, (draw s).2)) n s =
      ((collect draw n s).1.map f, (collect draw n s).2) := by
  induction n generalizing s with
  | zero => rfl
  | succ n ih =>
    rw [collect_succ, collect_succ, ih]
    rfl

end Source

/-! ## §2 Drawn tables -/

namespace SamplePlan

variable {σ : Type} [Source σ] (p : SamplePlan) (g : σ)

/-- The dice of all rolls as they are drawn, before any is turned, and the source behind
them. -/
def block : List Roll × σ := Source.collect (Source.collect p.drawDie p.dice) p.rolls g

@[simp] theorem length_block : (p.block g).1.length = p.rolls :=
  Source.length_collect _ _ _

/-- The rolls of a block have as many dice as are rolled. -/
theorem length_of_mem_block {r : Roll} (hr : r ∈ (p.block g).1) : r.length = p.dice :=
  Source.forall_mem_collect (p := fun r : Roll => r.length = p.dice)
    (fun s => Source.length_collect p.drawDie p.dice s) p.rolls g r hr

/-- A block is drawn in one go. -/
theorem collect_eq_block :
    Source.collect p.drawDie (p.rolls * p.dice) g =
      ((p.block g).1.flatten, (p.block g).2) :=
  Source.collect_collect _ _ _ _

-- a roll is drawn and then fixed, which is to fix what has been drawn
theorem rows_draw : (p.draw g).1.rows = (p.block g).1.map p.frozen.fix :=
  congrArg Prod.fst (Source.collect_map (Source.collect p.drawDie p.dice) p.frozen.fix p.rolls g)

/-- Drawing a table uses up its block of draws and no more. -/
theorem source_draw : (p.draw g).2 = (p.block g).2 :=
  congrArg Prod.snd (Source.collect_map (Source.collect p.drawDie p.dice) p.frozen.fix p.rolls g)

@[simp] theorem width_draw : (p.draw g).1.width = p.dice := rfl

@[simp] theorem size_draw : (p.draw g).1.size = p.rolls := by
  rw [RollTable.size, rows_draw, List.length_map, length_block]

/-- Drawn rolls show faces of the die, frozen dice included. -/
theorem ofDie_of_mem_draw : ∀ r ∈ (p.draw g).1.rows, r.OfDie p.die :=
  Source.forall_mem_collect (fun s => p.drawRoll_faces s) p.rolls g

/-- The faces of a die can always be counted. -/
theorem countable_of_mem_draw [Memory] : ∀ r ∈ (p.draw g).1.rows, r.Countable :=
  fun r hr => (p.ofDie_of_mem_draw g r hr).countable

/-- The plan gives this table, from some source. -/
def Gives (p : SamplePlan) (t : RollTable) : Prop :=
  ∃ (τ : Type) (_ : Source τ) (g : τ), t = (p.draw g).1

variable {p} {t : RollTable}

theorem Gives.size (h : p.Gives t) : t.size = p.rolls := by
  obtain ⟨τ, _, g, rfl⟩ := h
  exact p.size_draw g

theorem Gives.width (h : p.Gives t) : t.width = p.dice := by
  obtain ⟨τ, _, g, rfl⟩ := h
  rfl

theorem Gives.ofDie (h : p.Gives t) : ∀ r ∈ t.rows, r.OfDie p.die := by
  obtain ⟨τ, _, g, rfl⟩ := h
  exact p.ofDie_of_mem_draw g

end SamplePlan

end DiceOdds
