import DiceOdds.Roll.Reading

/-!
# Rows from Columns

A rectangle that is computed column by column, and read row by row.  Where a column needs
one fallible step for all of its cells, taking the steps once leads to the same rows, and
to the same fault, as taking them again for every cell (`mapM_rows`).
-/

namespace DiceOdds

/-- The rows that stand side by side in columns of `height` members. -/
def rowsOf {β : Type} (height : Nat) (columns : List (List β)) : List (List β) :=
  columns.foldr (List.zipWith List.cons) (List.replicate height [])

/-- Rows of mapped columns are mapped rows. -/
theorem rowsOf_map {β γ δ : Type} (f : γ → β → δ) (xs : List β) (ys : List γ) :
    rowsOf xs.length (ys.map fun y => xs.map (f y)) =
      xs.map fun x => ys.map fun y => f y x := by
  induction ys with
  | nil => simp [rowsOf, List.map_const']
  | cons y ys ih =>
    rw [rowsOf] at ih ⊢
    rw [List.map_cons, List.foldr_cons, ih, List.zipWith_map, List.zipWith_self]
    rfl

/-- Steps that cannot fail are a plain map. -/
theorem mapM_ok {ε β γ : Type} (f : β → γ) (xs : List β) :
    xs.mapM (fun x => (.ok (f x) : Except ε γ)) = .ok (xs.map f) := by
  induction xs with
  | nil => rfl
  | cons x xs ih => rw [List.mapM_cons, ih]; rfl

/-- Fallible steps for each member of `ys` may be taken once and used for all `xs`. -/
theorem mapM_rows {ε β γ δ ρ : Type} (step : γ → Except ε δ) (f : γ → δ → β → ρ)
    {xs : List β} (hxs : xs ≠ []) (ys : List γ) :
    xs.mapM (fun x => ys.mapM fun y => (step y).map fun d => f y d x) =
      (ys.mapM fun y => (step y).map fun d => xs.map (f y d)).map (rowsOf xs.length) := by
  let taken := ys.mapM fun y => (step y).map (y, ·)
  have hrow : ∀ x, ys.mapM (fun y => (step y).map fun d => f y d x) =
      taken.map (List.map fun e => f e.1 e.2 x) := fun x => by
    rw [← mapM_map_eq]
    exact congrArg (ys.mapM ·) (funext fun y => by cases step y <;> rfl)
  have hcolumn : (ys.mapM fun y => (step y).map fun d => xs.map (f y d)) =
      taken.map (List.map fun e => xs.map (f e.1 e.2)) := by
    rw [← mapM_map_eq]
    exact congrArg (ys.mapM ·) (funext fun y => by cases step y <;> rfl)
  simp only [hrow, hcolumn]
  cases taken with
  | error e =>
    obtain ⟨x, xs, rfl⟩ := List.exists_cons_of_ne_nil hxs
    rw [List.mapM_cons]
    rfl
  | ok l =>
    exact (mapM_ok _ xs).trans
      (congrArg Except.ok (rowsOf_map (fun e : γ × δ => f e.1 e.2) xs l).symm)

end DiceOdds
