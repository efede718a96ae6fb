/-!
# Sources of Random Numbers

A source yields numbers below a bound and moves on to its next state.  Everything that
is drawn is drawn through a source, one number after the other, so a list of draws is
determined by the state it starts from.
-/

namespace DiceOdds

/-- States from which numbers can be drawn. -/
class Source (σ : Type) where
  /-- A number below a positive bound, and the next state. -/
  below : (n : Nat) → 0 < n → σ → Fin n × σ

namespace Source

variable {σ α : Type}

/-! ## §1 Repeated draws -/

/-- Draws `n` times; `drawn` holds the earlier draws, the latest one in front. -/
@[specialize] def collectOnto (draw : σ → α × σ) : (n : Nat) → (drawn : List α) → σ → List α × σ
  | 0, drawn, s => (drawn.reverse, s)
  | n + 1, drawn, s =>
    let next := draw s
    collectOnto draw n (next.1 :: drawn) next.2

/-- The results of `n` draws in order, and the state after the last. -/
def collect (draw : σ → α × σ) (n : Nat) (s : σ) : List α × σ :=
  collectOnto draw n [] s

theorem collectOnto_eq (draw : σ → α × σ) (n : Nat) (drawn : List α) (s : σ) :
    collectOnto draw n drawn s =
      (drawn.reverse ++ (collect draw n s).1, (collect draw n s).2) := by
  induction n generalizing drawn s with
  | zero => simp [collectOnto, collect]
  | succ n ih =>
    simp only [collect, collectOnto]
    rw [ih, ih [(draw s).1]]
    simp

@[simp] theorem collect_zero (draw : σ → α × σ) (s : σ) : collect draw 0 s = ([], s) := rfl

theorem collect_succ (draw : σ → α × σ) (n : Nat) (s : σ) :
    collect draw (n + 1) s =
      ((draw s).1 :: (collect draw n (draw s).2).1, (collect draw n (draw s).2).2) := by
  rw [collect, collectOnto, collectOnto_eq]
  simp

@[simp] theorem length_collect (draw : σ → α × σ) (n : Nat) (s : σ) :
    (collect draw n s).1.length = n := by
  induction n generalizing s with
  | zero => rfl
  | succ n ih => simp [collect_succ, ih]

/-- Whatever holds of each single draw holds of all results. -/
theorem forall_mem_collect {draw : σ → α × σ} {p : α → Prop} (h : ∀ s, p (draw s).1)
    (n : Nat) (s : σ) : ∀ a ∈ (collect draw n s).1, p a := by
  induction n generalizing s with
  | zero => simp
  | succ n ih =>
    intro a ha
    rw [collect_succ] at ha
    rcases List.mem_cons.mp ha with rfl | ha
    · exact h s
    · exact ih _ a ha

/-! ## §2 Ranges -/

/-- A whole number from `low` up to, but not including, `low + n`. -/
@[inline] def drawFrom [Source σ] (low : Int) (n : Nat) (h : 0 < n) (s : σ) : Int × σ :=
  let next := below n h s
  (low + next.1, next.2)

/-- A draw lies in its range. -/
theorem drawFrom_bounds [Source σ] (low : Int) (n : Nat) (h : 0 < n) (s : σ) :
    low ≤ (drawFrom low n h s).1 ∧ (drawFrom low n h s).1 < low + n := by
  simp only [drawFrom]
  omega

/-! ## §3 Range reduction -/

/-- A word below `modulus` scaled to a number below `n`. -/
@[inline] def scale {modulus : Nat} (n : Nat) (h : 0 < n) (w : Fin modulus) : Fin n :=
  ⟨w * n / modulus, Nat.div_lt_of_lt_mul (Nat.mul_lt_mul_of_pos_right w.isLt h)⟩

/-- Whether the remainder of a scaled word falls into the part that would favour some
results. -/
@[inline] def favours {modulus : Nat} (n : Nat) (w : Fin modulus) : Bool :=
  let remainder := w * n % modulus
  remainder < n && remainder < (modulus - n) % n

/-- Scales random words to a number below `n`, passing over words that favour some
results.  After `tries` of them the next word is taken as it is. -/
@[specialize] def scaled {modulus : Nat} (word : σ → Fin modulus × σ) (n : Nat) (h : 0 < n) :
    (tries : Nat) → σ → Fin n × σ
  | 0, s =>
    let next := word s
    (scale n h next.1, next.2)
  | tries + 1, s =>
    let next := word s
    -- a refused word is used up
    if favours n next.1 then scaled word n h tries next.2 else (scale n h next.1, next.2)

end Source

end DiceOdds
