import DiceOdds.Proofs.Roll.Scorable
import DiceOdds.Roll.Score

/-!
# Walks Inside a Roll

A roll follows a span if the walk of the span is an infix of the roll (`follows_iff`).  Walks that
leave one end in one direction start each other, so the longer ones are harder to find
(`walk_starts_walk`); walks that arrive at one end are these walks turned round.

A walk is looked for if its row can be laid out and compared with the roll.  Rows are laid out up
to the room there is, and then again where their length wraps around: those rows come out empty
and stand in every roll.  So among spans whose sizes are close together a walk that holds a shorter
one is never easier to find (`accepts_of_infix`).
-/

namespace DiceOdds

/-! ## §1 Walks as infixes -/

namespace Roll

/-- Looking for faces side by side is looking for an infix. -/
theorem shows_iff {faces : List Int} (r : Roll) : shows faces r = true ↔ faces <:+: r := by
  induction r with
  | nil => rw [shows, List.isEmpty_iff, List.infix_nil]
  | cons x r ih => rw [shows, Bool.or_eq_true, List.isPrefixOf_iff_prefix, ih, List.infix_cons_iff]

end Roll

namespace Span

/-- So many numbers of the span in the order of the walk, whether they are told apart or not. -/
def exactRow (s : Span) (length : Nat) : List Int :=
  if s.descending then (s.climb length).reverse else s.climb length

theorem length_exactRow (s : Span) (length : Nat) : (s.exactRow length).length = length := by
  unfold exactRow climb
  split <;> simp

theorem row_eq_exactRow {s : Span} (h : s.coarse = false) (length : Nat) :
    s.row length = s.exactRow length := by
  rw [row, h, if_neg Bool.false_ne_true, exactRow]

/-- As many numbers as the span has are its walk. -/
theorem exactRow_size (s : Span) : s.exactRow s.size = s.walk := by
  have hsize := s.size_eq
  unfold exactRow
  split
  · next hdesc =>
    -- the climb ends where a descent starts
    refine List.ext_getElem (by simp [climb]) fun j hj _ => ?_
    have hj' : j < s.size := by simpa [climb] using hj
    simp only [descending, decide_eq_true_eq] at hdesc
    simp only [climb, walk, stepAt, descending, lowest, List.getElem_reverse, List.getElem_map,
      List.getElem_range, List.length_map, List.length_range, decide_eq_true hdesc, if_true]
    omega
  · next hasc =>
    simp only [descending, decide_eq_true_eq] at hasc
    refine List.map_congr_left fun j _ => ?_
    simp only [stepAt, descending, lowest, decide_eq_false hasc, Bool.false_eq_true, if_false]
    omega

/-- The number `near` lies between the other two. -/
def Nearer (fixed near far : Int) : Prop :=
  fixed ≤ near ∧ near ≤ far ∨ far ≤ near ∧ near ≤ fixed

variable {fixed near far : Int}

theorem size_le_of_nearer (h : Nearer fixed near far) :
    (Span.mk fixed near).size ≤ (Span.mk fixed far).size := by
  simp only [Nearer, size_eq] at h ⊢
  omega

/-- A walk that leaves an end starts the walks that go farther. -/
theorem walk_starts_walk (h : Nearer fixed near far) :
    walk ⟨fixed, near⟩ <+: walk ⟨fixed, far⟩ := by
  have hsize := size_le_of_nearer h
  rw [List.prefix_iff_eq_take]
  refine List.ext_getElem (by simp [hsize]) fun j hj _ => ?_
  have hj' : j < (near - fixed).natAbs + 1 := by
    rwa [length_walk, size_eq] at hj
  simp only [Nearer] at h
  -- the two walks go in one direction, unless the nearer one ends where it starts
  simp only [walk, stepAt, descending, List.getElem_take, List.getElem_map, List.getElem_range,
    decide_eq_true_eq]
  split <;> split <;> omega

theorem reverse_walk (a b : Int) : (walk ⟨a, b⟩).reverse = walk ⟨b, a⟩ := by
  refine List.ext_getElem (by simp [size_eq]; omega) fun j hj _ => ?_
  have hj' : j < (b - a).natAbs + 1 := by
    rwa [List.length_reverse, length_walk, size_eq] at hj
  simp only [List.getElem_reverse, size_eq, walk, stepAt, descending, List.getElem_map,
    List.getElem_range, List.length_map, List.length_range, decide_eq_true_eq]
  split <;> split <;> omega

/-- A walk that arrives at an end finishes the walks that come from farther off. -/
theorem walk_finishes_walk (h : Nearer fixed near far) :
    walk ⟨near, fixed⟩ <:+ walk ⟨far, fixed⟩ := by
  rw [← reverse_walk fixed near, ← reverse_walk fixed far, List.reverse_suffix]
  exact walk_starts_walk h

end Span

/-- A roll follows a span if the numbers that are laid out are an infix of the roll. -/
theorem Roll.follows_iff {s : Span} (h : s.coarse = false) {length : Nat} {r : Roll} :
    follows s length r = true ↔ s.exactRow length <:+: r := by
  rw [follows, Bool.and_eq_true, Span.row_eq_exactRow h, h, if_neg Bool.false_ne_true, shows_iff,
    decide_eq_true_eq]
  -- an infix is no longer than the roll
  exact and_iff_right_of_imp fun hwalk => s.length_exactRow length ▸ hwalk.length_le

/-- An empty row stands in every roll. -/
theorem Roll.follows_zero (s : Span) (r : Roll) : follows s 0 r = true := by
  have hrow : s.row 0 = [] := by
    unfold Span.row Span.climb Span.coarseClimb
    split <;> split <;> rfl
  rw [follows, hrow, Bool.and_eq_true, shows_iff]
  exact ⟨decide_eq_true (Nat.zero_le _), List.nil_infix⟩

/-- A row that is longer than a roll does not stand there. -/
theorem Roll.follows_of_length_lt {s : Span} {length : Nat} {r : Roll} (h : r.length < length) :
    follows s length r = false := by
  rw [follows, decide_eq_false (Nat.not_le.mpr h), Bool.false_and]

/-- A row that is not empty stands in a roll if the walk of the span does, unless both the span and
the roll are so long that the row need not be exact. -/
theorem Roll.follows_of_rowLength [Memory] {s : Span} {length : Nat} {r : Roll}
    (h : Storage.rowLength s.size = .ok length) (hpos : 0 < length)
    (hshort : (s.size : Int) < Storage.rowRoom ∨ r.length < 9007199254740992) :
    follows s length r = follows s s.size r := by
  cases Storage.laidOut_of_rowLength (Int.natCast_pos.mpr s.size_pos) h with
  | exact _ => rw [Int.toNat_natCast]
  | rounded hlength hlong _ =>
    have hroll : r.length < 9007199254740992 := by
      unfold Storage.rowRoom at hshort
      omega
    rw [follows_of_length_lt (by omega), follows_of_length_lt (by omega)]
  | endless _ => exact absurd hpos (Nat.lt_irrefl 0)

/-! ## §2 Sequences -/

variable [Memory] {s near far : Span}

/-- Numbers of a span of ordinary size and around ordinary numbers are told apart. -/
theorem Span.coarse_eq_false (hsize : (s.size : Int) < Storage.rowRoom)
    (hlowest : s.lowest < Memory.room) : s.coarse = false := by
  have hroom := Memory.room_le_addressable
  have hhighest : s.highest < Word.greatest := by
    unfold Storage.addressable at hroom
    unfold size Storage.rowRoom at hsize
    unfold Word.greatest
    omega
  simp only [coarse, Bool.and_eq_false_iff, decide_eq_false_iff_not]
  omega

namespace Test

/-- A sequence that is laid out is looked for. -/
theorem accepts_sequence {r : Roll} {length : Nat} (h : s.layOut 1 r.length = .ok length) :
    (sequence s).accepts r = Roll.follows s length r := by
  have hscore : (sequence s).score r = .ok (Roll.follows s length r) := by
    rw [score, Roll.scoreWalk, h]
    rfl
  rw [accepts, hscore]

/-- A sequence of ordinary size is laid out if its windows fit. -/
theorem layoutFault?_of_size_lt (h : (s.size : Int) < Storage.rowRoom) {rolls dice : Nat}
    (hwindows : Storage.WindowsFit rolls dice s.size) :
    (sequence s).layoutFault? rolls dice = none := by
  have hrow : Storage.rowLength s.size = .ok s.size := by
    rw [Storage.rowLength_of_lt (Int.natCast_nonneg s.size) h, Int.toNat_natCast]
  rw [layoutFault?, layOut, Span.layOut_eq_ok_iff.mpr ⟨hrow, hwindows⟩]
  rfl

/-- **A longer walk is not easier to find**: a roll that accepts it accepts the walks inside it.
The sizes are close together, so that it is not only one of the two that wraps around, and the
roll is too short for a walk whose size is rounded. -/
theorem accepts_of_infix (hwalk : near.walk <:+: far.walk)
    (hsize : (far.size : Int) < near.size + Storage.rowRoom)
    (hnearLowest : near.lowest < Memory.room) (hfarLowest : far.lowest < Memory.room) {r : Roll}
    (hwidth : r.length < 9007199254740992)
    (hnear : (sequence near).layoutFault? 1 r.length = none)
    (hfar : (sequence far).layoutFault? 1 r.length = none)
    (h : (sequence far).accepts r = true) : (sequence near).accepts r = true := by
  have hpos : ∀ s : Span, 0 < (s.size : Int) := fun s => Int.natCast_pos.mpr s.size_pos
  obtain ⟨n, hn⟩ := exists_layOut_of_layoutFault? hnear
  obtain ⟨m, hm⟩ := exists_layOut_of_layoutFault? hfar
  rw [accepts_sequence hn]
  rw [accepts_sequence hm] at h
  obtain ⟨hnrow, -⟩ := Span.layOut_eq_ok_iff.mp hn
  obtain ⟨hmrow, -⟩ := Span.layOut_eq_ok_iff.mp hm
  cases Storage.laidOut_of_rowLength (hpos far) hmrow with
  | exact hfarSize =>
    -- the shorter walk is laid out as it is, too
    have hle : near.size ≤ far.size := by
      rw [← near.length_walk, ← far.length_walk]
      exact hwalk.length_le
    have hnearSize : (near.size : Int) < Storage.rowRoom := by omega
    rw [Storage.rowLength_of_lt (Int.le_of_lt (hpos near)) hnearSize] at hnrow
    cases hnrow
    rw [Int.toNat_natCast] at h ⊢
    rw [Roll.follows_iff (Span.coarse_eq_false hfarSize hfarLowest), Span.exactRow_size] at h
    rw [Roll.follows_iff (Span.coarse_eq_false hnearSize hnearLowest), Span.exactRow_size]
    exact hwalk.trans h
  | rounded hlength _ _ =>
    rw [Roll.follows_of_length_lt (by omega)] at h
    cases h
  | endless hendless =>
    -- so close to it, the other walk wraps around as well
    cases Storage.laidOut_of_rowLength (hpos near) hnrow with
    | exact hshort =>
      unfold Storage.rowRoom at hsize hshort
      omega
    | rounded _ _ hshort =>
      unfold Storage.rowRoom at hsize
      omega
    | endless _ => exact Roll.follows_zero near r

end Test

end DiceOdds
