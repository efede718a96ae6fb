import DiceOdds.Roll.Reading
import Mathlib.Data.List.Forall2

/-!
# Faults of Fallible Walks

A walk over a list takes one fallible step for each member and ends at the first step that
fails.  Its fault is therefore the first fault among the steps (`faultOf_mapM`), and if it
succeeds, it has succeeded member by member (`mapM_eq_ok_iff`).

Two computations *agree* along a relation if they fail with the same fault, or succeed with
related results (`Agree`).
-/

namespace DiceOdds

variable {ε α β γ : Type}

/-! ## §1 The fault of a step -/

/-- The fault of a computation that fails. -/
def faultOf : Except ε α → Option ε
  | .ok _ => none
  | .error e => some e

theorem faultOf_eq_none_iff {x : Except ε α} : faultOf x = none ↔ ∃ a, x = .ok a := by
  cases x <;> simp [faultOf]

theorem faultOf_eq_some_iff {x : Except ε α} {e : ε} : faultOf x = some e ↔ x = .error e := by
  cases x <;> simp [faultOf]

theorem isSome_faultOf_iff {x : Except ε α} : (faultOf x).isSome ↔ ∃ e, x = .error e := by
  cases x <;> simp [faultOf]

@[simp] theorem faultOf_map (f : α → β) (x : Except ε α) : faultOf (x.map f) = faultOf x := by
  cases x <;> rfl

@[simp] theorem faultOf_mapError {δ : Type} (f : ε → δ) (x : Except ε α) :
    faultOf (x.mapError f) = (faultOf x).map f := by
  cases x <;> rfl

/-- What comes first fails first. -/
theorem faultOf_bind_const (x : Except ε α) (y : Except ε β) :
    faultOf (x.bind fun _ => y) = (faultOf x).or (faultOf y) := by
  cases x <;> rfl

/-! ## §2 Walks -/

/-- The fault of a walk is the first one that a step runs into. -/
theorem faultOf_mapM (f : α → Except ε β) (xs : List α) :
    faultOf (xs.mapM f) = xs.findSome? fun x => faultOf (f x) := by
  induction xs with
  | nil => rfl
  | cons x xs ih =>
    rw [List.mapM_cons, List.findSome?_cons]
    cases f x with
    | error e => rfl
    | ok y =>
      rw [← show faultOf (xs.mapM f) = xs.findSome? fun x => faultOf (f x) from ih]
      cases xs.mapM f <;> rfl

/-- A walk succeeds if every step does. -/
theorem exists_mapM_eq_ok_iff {f : α → Except ε β} {xs : List α} :
    (∃ ys, xs.mapM f = .ok ys) ↔ ∀ x ∈ xs, ∃ y, f x = .ok y := by
  rw [← faultOf_eq_none_iff, faultOf_mapM, List.findSome?_eq_none_iff]
  simp only [faultOf_eq_none_iff]

theorem mapM_eq_ok_of_forall₂ {f : α → Except ε β} {xs : List α} {ys : List β}
    (h : List.Forall₂ (fun x y => f x = .ok y) xs ys) : xs.mapM f = .ok ys := by
  induction h with
  | nil => rfl
  | cons hx _ ih =>
    rw [List.mapM_cons, hx, ih]
    rfl

theorem mapM_eq_ok_map {f : α → Except ε β} {g : α → β} {xs : List α}
    (h : ∀ x ∈ xs, f x = .ok (g x)) : xs.mapM f = .ok (xs.map g) := by
  apply mapM_eq_ok_of_forall₂
  rw [List.forall₂_map_right_iff, List.forall₂_same]
  exact h

private theorem exists_forall₂_of_forall_exists {R : α → β → Prop} {xs : List α}
    (h : ∀ x ∈ xs, ∃ y, R x y) : ∃ ys, List.Forall₂ R xs ys := by
  induction xs with
  | nil => exact ⟨[], .nil⟩
  | cons x xs ih =>
    obtain ⟨y, hy⟩ := h x List.mem_cons_self
    obtain ⟨ys, hys⟩ := ih fun x hx => h x (List.mem_cons_of_mem _ hx)
    exact ⟨y :: ys, .cons hy hys⟩

/-- What each step arrives at is what the walk arrives at, member by member. -/
theorem exists_mapM_eq_ok_forall₂ {f : α → Except ε β} {R : α → β → Prop} {xs : List α}
    (h : ∀ x ∈ xs, ∃ y, f x = .ok y ∧ R x y) :
    ∃ ys, xs.mapM f = .ok ys ∧ List.Forall₂ R xs ys := by
  obtain ⟨ys, hys⟩ := exists_forall₂_of_forall_exists h
  exact ⟨ys, mapM_eq_ok_of_forall₂ (hys.imp fun _ _ hxy => hxy.1), hys.imp fun _ _ hxy => hxy.2⟩

/-- A walk succeeds as its steps do, member by member. -/
theorem mapM_eq_ok_iff {f : α → Except ε β} {xs : List α} {ys : List β} :
    xs.mapM f = .ok ys ↔ List.Forall₂ (fun x y => f x = .ok y) xs ys := by
  refine ⟨fun h => ?_, mapM_eq_ok_of_forall₂⟩
  -- all steps succeed, and the results of the steps are what the walk returns
  obtain ⟨zs, hzs⟩ := exists_forall₂_of_forall_exists (exists_mapM_eq_ok_iff.mp ⟨ys, h⟩)
  have hwalk := mapM_eq_ok_of_forall₂ hzs
  rw [h] at hwalk
  cases hwalk
  exact hzs

theorem map_eq_ok_iff {f : α → β} {x : Except ε α} {b : β} :
    x.map f = .ok b ↔ ∃ a, x = .ok a ∧ b = f a := by
  cases x <;> simp [Except.map, eq_comm]

/-- If it is known when a computation succeeds, and with which result, so it is once the result
is mapped. -/
theorem map_eq_ok_iff_of_iff {P : Prop} {x : Except ε α} {a : α}
    (h : ∀ a', x = .ok a' ↔ P ∧ a' = a) {f : α → β} {b : β} :
    x.map f = .ok b ↔ P ∧ b = f a := by
  simp only [map_eq_ok_iff, h]
  constructor
  · rintro ⟨_, ⟨hP, rfl⟩, hb⟩
    exact ⟨hP, hb⟩
  · rintro ⟨hP, hb⟩
    exact ⟨a, ⟨hP, rfl⟩, hb⟩

/-- Where it is known when a step succeeds, and with which result, so it is for the walk. -/
theorem mapM_eq_ok_iff_of_iff {f : α → Except ε β} {P : α → Prop} {g : α → β}
    (h : ∀ x y, f x = .ok y ↔ P x ∧ y = g x) {xs : List α} {ys : List β} :
    xs.mapM f = .ok ys ↔ (∀ x ∈ xs, P x) ∧ ys = xs.map g := by
  rw [mapM_eq_ok_iff]
  simp only [h]
  constructor
  · intro hxs
    induction hxs with
    | nil => exact ⟨by simp, rfl⟩
    | cons hx _ ih =>
      obtain ⟨hP, rfl⟩ := hx
      obtain ⟨hall, rfl⟩ := ih
      exact ⟨List.forall_mem_cons.mpr ⟨hP, hall⟩, rfl⟩
  · rintro ⟨hall, rfl⟩
    rw [List.forall₂_map_right_iff, List.forall₂_same]
    exact fun x hx => ⟨hall x hx, rfl⟩

theorem mapM_eq_of_forall₂ {f : α → Except ε γ} {g : β → Except ε γ} {xs : List α} {ys : List β}
    (h : List.Forall₂ (fun x y => f x = g y) xs ys) : xs.mapM f = ys.mapM g := by
  induction h with
  | nil => rfl
  | cons hxy _ ih => rw [List.mapM_cons, List.mapM_cons, hxy, ih]

/-- Walks whose steps come to the same, member by member, come to the same. -/
theorem map_mapM_of_forall₂ {δ : Type} {R : α → β → Prop} {f : α → Except ε γ} {g : β → Except ε γ}
    {φ : γ → δ} {xs : List α} {ys : List β} (h : List.Forall₂ R xs ys)
    (hR : ∀ x y, R x y → (f x).map φ = (g y).map φ) :
    (xs.mapM f).map (List.map φ) = (ys.mapM g).map (List.map φ) := by
  induction h with
  | nil => rfl
  | @cons x y xs ys hxy _ ih =>
    have hcons : ∀ (step : Except ε γ) (walk : Except ε (List γ)),
        (step >>= fun c => walk >>= fun cs => pure (c :: cs)).map (List.map φ) =
          (step.map φ) >>= fun d => (walk.map (List.map φ)) >>= fun ds => pure (d :: ds) := by
      intro step walk
      cases step <;> cases walk <;> rfl
    rw [List.mapM_cons, List.mapM_cons, hcons, hcons, hR x y hxy, ih]

/-- Where every member has the same fault to offer, that is the first one. -/
theorem findSome?_of_forall_eq {xs : List α} {f : α → Option ε} {o : Option ε} (hxs : xs ≠ [])
    (h : ∀ x ∈ xs, f x = o) : xs.findSome? f = o := by
  cases o with
  | none => exact List.findSome?_eq_none_iff.mpr h
  | some e =>
    obtain ⟨x, xs, rfl⟩ := List.exists_cons_of_ne_nil hxs
    exact List.findSome?_cons_of_isSome (by simp [h]) |>.trans (h x List.mem_cons_self)

/-- Related lists have the same first fault if related members have the same fault. -/
theorem findSome?_of_forall₂ {R : α → β → Prop} {f : α → Option ε} {g : β → Option ε}
    {xs : List α} {ys : List β} (h : List.Forall₂ R xs ys) (hR : ∀ x y, R x y → f x = g y) :
    xs.findSome? f = ys.findSome? g := by
  induction h with
  | nil => rfl
  | cons hxy _ ih => rw [List.findSome?_cons, List.findSome?_cons, hR _ _ hxy, ih]

theorem findSome?_congr {f g : α → Option ε} {xs : List α} (h : ∀ x ∈ xs, f x = g x) :
    xs.findSome? f = xs.findSome? g :=
  findSome?_of_forall₂ (List.forall₂_same.mpr h) fun _ _ heq => heq

theorem exists_mem_iff_of_forall₂ {R : α → β → Prop} {p : α → Prop} {q : β → Prop} {xs : List α}
    {ys : List β} (h : List.Forall₂ R xs ys) (hR : ∀ x y, R x y → (p x ↔ q y)) :
    (∃ x ∈ xs, p x) ↔ ∃ y ∈ ys, q y := by
  induction h with
  | nil => simp
  | cons hxy _ ih => rw [List.exists_mem_cons_iff, List.exists_mem_cons_iff, hR _ _ hxy, ih]

/-- Numbered members are related one by one if they are at each place. -/
theorem forall₂_zipIdx_iff {R : α × Nat → β → Prop} {xs : List α} {ys : List β} :
    List.Forall₂ R xs.zipIdx ys ↔ ys.length = xs.length ∧
      ∀ (i : Nat) (x : α) (y : β), xs[i]? = some x → ys[i]? = some y → R (x, i) y := by
  constructor
  · intro h
    refine ⟨by rw [← h.length_eq, List.length_zipIdx], fun i x y hx hy => ?_⟩
    obtain ⟨hi, rfl⟩ := List.getElem?_eq_some_iff.mp hx
    obtain ⟨hi', rfl⟩ := List.getElem?_eq_some_iff.mp hy
    simpa using h.get (List.length_zipIdx.symm ▸ hi) hi'
  · rintro ⟨hlength, h⟩
    refine List.forall₂_iff_get.mpr ⟨by rw [hlength, List.length_zipIdx], fun i hi hi' => ?_⟩
    have hlt : i < xs.length := hlength ▸ hi'
    simpa using h i xs[i] ys[i] (List.getElem?_eq_getElem hlt) (List.getElem?_eq_getElem hi')

/-! ## §3 Agreement -/

/-- Both computations fail with the same fault, or succeed with related results. -/
inductive Agree (R : α → β → Prop) : Except ε α → Except ε β → Prop where
  | ok {a : α} {b : β} (h : R a b) : Agree R (.ok a) (.ok b)
  | error (e : ε) : Agree R (.error e) (.error e)

namespace Agree

variable {R : α → β → Prop} {x : Except ε α} {y : Except ε β}

theorem faultOf_eq (h : Agree R x y) : faultOf x = faultOf y := by
  cases h <;> rfl

theorem exists_of_ok {a : α} (h : Agree R (.ok a) y) : ∃ b, y = .ok b ∧ R a b := by
  cases h with
  | ok hab => exact ⟨_, rfl, hab⟩

theorem mapError {δ : Type} (h : Agree R x y) (f : ε → δ) :
    Agree R (x.mapError f) (y.mapError f) := by
  cases h with
  | ok hab => exact .ok hab
  | error e => exact .error (f e)

end Agree

end DiceOdds
