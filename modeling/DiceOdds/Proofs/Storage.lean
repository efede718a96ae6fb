import DiceOdds.Proofs.Traversal
import DiceOdds.Storage
import Mathlib.Tactic.Linarith

/-!
# What Can Be Stored

What is missing when something is not stored is never the fault of the simulation: it is no
rejection.  A row whose length is worked out is as long as it should be, unless its length lies
beyond the doubles that are exact; then it is still beyond them, or it has wrapped around and
the row is empty (`laidOut_of_rowLength`).

The windows of a table take room of their own, which grows with the number of rolls
(`WindowsFit.mono`) and is enough for all windows at once if it is enough for those of half the
width (`windowsFit_of_lt`).
-/

namespace DiceOdds

/-! ## §1 Rounding -/

/-- Rounding to a double at most halves a number, and at most doubles it. -/
theorem Decimal.nearestNat_near (n : Nat) : n ≤ 2 * nearestNat n ∧ nearestNat n ≤ 2 * n := by
  by_cases hn : n = 0
  · subst hn
    decide
  · obtain ⟨hlow, hhigh⟩ := Ratio.round_near ⟨n, spacing n⟩ (spacing_pos n)
    -- the distance between neighbouring doubles is below the number
    have hspacing : spacing n ≤ n :=
      calc spacing n ≤ 2 ^ n.log2 := Nat.pow_le_pow_right (by decide) (Nat.sub_le _ _)
        _ ≤ n := Nat.log2_self_le hn
    have hround : 2 * Ratio.round ⟨n, spacing n⟩ * spacing n = 2 * nearestNat n := by
      rw [nearestNat, Nat.mul_assoc]
    have hnext : (2 * Ratio.round ⟨n, spacing n⟩ + 1) * spacing n =
        2 * nearestNat n + spacing n := by
      rw [Nat.succ_mul, hround]
    dsimp only at hlow hhigh
    omega

/-- A number that is no exact double by its size does not become one that is. -/
theorem Decimal.le_nearestNat {n : Nat} (h : 9007199254740992 ≤ n) :
    9007199254740992 ≤ nearestNat n := by
  have hlog : 53 ≤ n.log2 := (Nat.le_log2 (by omega)).mpr h
  have hpower : twoTo 52 * spacing n ≤ n :=
    calc 2 ^ 52 * 2 ^ (n.log2 - 52) = 2 ^ n.log2 := by
          rw [← Nat.pow_add]
          congr 1
          omega
      _ ≤ n := Nat.log2_self_le (by omega)
  have hquotient : twoTo 52 ≤ n / spacing n := (Nat.le_div_iff_mul_le (spacing_pos n)).mpr hpower
  -- rounding does not go below the whole part
  have hround : n / spacing n ≤ Ratio.round ⟨n, spacing n⟩ := by
    simp only [Ratio.round]
    split
    · exact Nat.le_refl _
    · split <;> omega
  calc 9007199254740992 = twoTo 52 * 2 ^ 1 := by decide
    _ ≤ twoTo 52 * spacing n := Nat.mul_le_mul_left _ (Nat.pow_le_pow_right (by decide) (by omega))
    _ ≤ nearestNat n := Nat.mul_le_mul_right _ (Nat.le_trans hquotient hround)

theorem Decimal.nearest_of_nonneg {x : Int} (h : 0 ≤ x) :
    nearest x = (nearestNat x.toNat : Int) := by
  rw [nearest, if_neg (by omega), show x.natAbs = x.toNat by omega]

namespace Storage

variable [Memory]

/-! ## §2 Tables -/

/-- One row can be stored if there is room for it. -/
theorem obstacle?_singleton_eq_none_iff {n : Int} : obstacle? [n] = none ↔ n < Memory.room := by
  -- the limits on sides and on addresses lie above the room
  have hroom := Memory.room_le_addressable
  have hentries : entries [n] = n := by simp [entries]
  unfold addressable at hroom
  unfold obstacle?
  rw [hentries]
  unfold addressable Word.greatest
  simp only [List.any_cons, List.any_nil, Bool.or_false, decide_eq_true_eq]
  split
  · simp; omega
  · split
    · simp; omega
    · simp

theorem lt_room_of_require {length : Int} {u : Unit} (h : require [length] = .ok u) :
    length < Memory.room := by
  unfold require at h
  split at h
  · cases h
  · next hstored => exact obstacle?_singleton_eq_none_iff.mp hstored

/-- A lack of room is no rejection. -/
theorem obstacle?_ne_rejected (sides : List Int) (reason : Rejection) :
    obstacle? sides ≠ some (.rejected reason) := by
  unfold obstacle?
  split
  · simp
  · split
    · simp
    · split <;> simp

theorem faultOf_require_ne_rejected (sides : List Int) (reason : Rejection) :
    faultOf (require sides) ≠ some (.rejected reason) := by
  have hstored := obstacle?_ne_rejected sides reason
  unfold require
  cases hroom : obstacle? sides with
  | none => simp [faultOf]
  | some f =>
    rw [hroom] at hstored
    exact hstored

/-! ## §3 Rows -/

theorem faultOf_rowLength_ne_rejected (reach : Int) (reason : Rejection) :
    faultOf (rowLength reach) ≠ some (.rejected reason) := by
  unfold rowLength
  dsimp only
  split
  · simp [faultOf]
  · split
    · simp [faultOf]
    · rw [faultOf_map]
      exact faultOf_require_ne_rejected _ _

/-- How the length of a row comes out. -/
inductive LaidOut (reach : Int) : Nat → Prop where
  /-- The length of a short row is exact. -/
  | exact (hreach : reach < rowRoom) : LaidOut reach reach.toNat
  /-- The length of a long row is rounded. -/
  | rounded {length : Nat} (hlength : 9007199254740992 ≤ length)
      (hlong : 9007199254740992 ≤ reach) (hreach : reach < 2305843009213693952) :
      LaidOut reach length
  /-- The length of an endless row wraps around, and leaves the row empty. -/
  | endless (hreach : 4611686018427387904 ≤ reach) : LaidOut reach 0

theorem laidOut_of_rowLength {reach : Int} {length : Nat} (hpos : 0 < reach)
    (h : rowLength reach = .ok length) : LaidOut reach length := by
  have hnearest := Decimal.nearest_of_nonneg (Int.le_of_lt hpos)
  obtain ⟨hhalf, hdouble⟩ := Decimal.nearestNat_near reach.toNat
  unfold rowLength at h
  dsimp only at h
  split at h
  · cases h
  · next hin =>
    split at h
    · next hwrap =>
      -- only a length that is no word wraps around
      cases h
      apply LaidOut.endless
      by_contra hshort
      rw [Word.wrap_of_holds] at hwrap
      · omega
      · unfold Word.Holds Word.least Word.greatest
        omega
    · obtain ⟨u, hu, rfl⟩ := map_eq_ok_iff.mp h
      have hroom := lt_room_of_require hu
      by_cases hexact : reach < 9007199254740992
      · rw [Decimal.nearest_of_natAbs_lt (by omega)] at hroom ⊢
        exact .exact (Int.lt_min.mpr ⟨hroom, hexact⟩)
      · have hlong := Decimal.le_nearestNat (n := reach.toNat) (by omega)
        have haddress := Memory.room_le_addressable
        unfold addressable at haddress
        rw [hnearest] at hroom ⊢
        exact .rounded (by rwa [Int.toNat_natCast]) (by omega) (by omega)

/-- A row that is not empty has a moderate length. -/
theorem eq_zero_or_of_rowLength {size length : Nat} (hpos : 0 < size)
    (h : rowLength size = .ok length) :
    length = 0 ∨ 0 < length ∧ (size : Int) < 2305843009213693952 := by
  cases laidOut_of_rowLength (Int.natCast_pos.mpr hpos) h with
  | exact hreach =>
    unfold rowRoom at hreach
    omega
  | rounded hlength _ hreach => exact .inr ⟨by omega, hreach⟩
  | endless _ => exact .inl rfl

/-! ## §4 Windows -/

/-- There is room for all windows of a table that are as long as a row, unless the row is longer
than a roll. -/
def WindowsFit (rolls dice length : Nat) : Prop :=
  length ≤ dice →
    (rolls * ((dice + 1 - length) * max 1 (length : Int)) : Int) < addressable ∧
    (rolls * ((dice + 1 - length) * length) : Int) < 8 * Memory.room

instance (rolls dice length : Nat) : Decidable (WindowsFit rolls dice length) :=
  inferInstanceAs (Decidable (_ → _))

theorem requireWindows_eq_ok_iff {rolls dice length : Nat} :
    requireWindows rolls dice length = .ok () ↔ WindowsFit rolls dice length := by
  have hview : entries [(rolls : Int), (dice : Int) + 1 - length, max 1 (length : Int)] =
      rolls * ((dice + 1 - length) * max 1 (length : Int)) := by simp [entries]
  have hflags : entries [(rolls : Int), (dice : Int) + 1 - length, length] =
      rolls * ((dice + 1 - length) * length) := by simp [entries]
  unfold requireWindows windowObstacle? WindowsFit
  simp only [hview, hflags]
  split
  · next hlong => simp [Nat.not_le.mpr hlong]
  · next hshort =>
    rw [forall_prop_of_true (Nat.not_lt.mp hshort)]
    split
    · next heq =>
      split at heq
      · next hview => simp; omega
      · split at heq
        · next hflags => simp; omega
        · cases heq
    · next heq =>
      split at heq
      · cases heq
      · split at heq
        · cases heq
        · simp; omega

theorem faultOf_requireWindows_ne_rejected (rolls dice length : Nat) (reason : Rejection) :
    faultOf (requireWindows rolls dice length) ≠ some (.rejected reason) := by
  unfold requireWindows windowObstacle?
  dsimp only
  split
  · simp [faultOf]
  · split
    · next heq =>
      split at heq
      · cases heq
        simp [faultOf]
      · split at heq
        · cases heq
          simp [faultOf]
        · cases heq
    · simp [faultOf]

/-- Fewer rolls take less room. -/
theorem WindowsFit.mono {m n dice length : Nat} (h : WindowsFit n dice length) (hmn : m ≤ n) :
    WindowsFit m dice length := by
  intro hlength
  obtain ⟨hview, hflags⟩ := h hlength
  have hplaces : 0 ≤ ((dice : Int) + 1 - length) := by omega
  have hmn' : (m : Int) ≤ n := Int.ofNat_le.mpr hmn
  exact ⟨Int.lt_of_le_of_lt (Int.mul_le_mul_of_nonneg_right hmn'
      (Int.mul_nonneg hplaces (by omega))) hview,
    Int.lt_of_le_of_lt (Int.mul_le_mul_of_nonneg_right hmn'
      (Int.mul_nonneg hplaces (by omega))) hflags⟩

/-- The windows that take most room are half as long as a roll. -/
theorem windowsFit_of_lt {rolls dice length : Nat} (hlength : 0 < length)
    (h : (rolls * ((dice + 1) * (dice + 1)) : Int) < 4 * Memory.room) :
    WindowsFit rolls dice length := by
  intro hle
  have hroom := Memory.room_le_addressable
  have hmax : max 1 (length : Int) = length := by omega
  have hhalf : 4 * (((dice : Int) + 1 - length) * length) ≤ (dice + 1) * (dice + 1) := by
    nlinarith [mul_self_nonneg ((dice : Int) + 1 - 2 * length)]
  have hrolls : 4 * ((rolls : Int) * ((dice + 1 - length) * length)) ≤
      rolls * ((dice + 1) * (dice + 1)) := by
    calc 4 * ((rolls : Int) * ((dice + 1 - length) * length))
        = rolls * (4 * ((dice + 1 - length) * length)) := by rw [Int.mul_left_comm]
      _ ≤ rolls * ((dice + 1) * (dice + 1)) :=
        Int.mul_le_mul_of_nonneg_left hhalf (Int.natCast_nonneg rolls)
  have hpos := Memory.settings_lt_room
  rw [hmax]
  constructor <;> omega

end Storage

end DiceOdds
