import DiceOdds.Proofs.Roll.Walks
import DiceOdds.Workstation

/-!
# Searching for a Walk

A sequence is looked for position by position: it is found if from some position on the dice show
the walk of the span, one number after the other (`StandsAt`).  That is the infix relation read by
position (`walk_infix_iff`).

A span around the end of the machine words is walked in doubles, and the faces are rounded as well
before they are compared.  Its walk lies far above the whole numbers that are exact as doubles, so
this makes no difference for rolls of such faces (`follows_of_coarse`).

Where the length of a row wraps around, the row is empty, and every roll passes.

**Main statement**: `RollTable.score_sequence_iff`.
-/

namespace DiceOdds

/-! ## §1 Positions -/

theorem Span.getElem_walk (s : Span) (j : Nat) (h : j < s.walk.length) :
    s.walk[j] = if s.lower ≤ s.upper then s.lower + j else s.lower - j := by
  simp only [walk, stepAt, descending, List.getElem_map, List.getElem_range, decide_eq_true_eq]
  split <;> split <;> omega

namespace Roll

variable {s : Span} {r : Roll}

/-- From a position on, the dice show all numbers of a span, from its lower end to its upper
end. -/
def StandsAt (s : Span) (r : Roll) (i : Nat) : Prop :=
  i + (s.upper - s.lower).natAbs < r.length ∧
    ∀ j ≤ (s.upper - s.lower).natAbs,
      r[i + j]? = some (if s.lower ≤ s.upper then s.lower + j else s.lower - j)

theorem walk_infix_iff : s.walk <:+: r ↔ ∃ i, StandsAt s r i := by
  have hlength : s.walk.length = (s.upper - s.lower).natAbs + 1 := by
    rw [Span.length_walk, Span.size_eq]
  rw [List.infix_iff_getElem?]
  refine exists_congr fun i => and_congr (by omega) ?_
  constructor
  · intro h j hj
    rw [Nat.add_comm, h j (by omega), Span.getElem_walk]
  · intro h j hj
    rw [Nat.add_comm, h j (by omega), Span.getElem_walk]

theorem not_standsAt_of_short (h : r.length < (s.upper - s.lower).natAbs + 1) {i : Nat} :
    ¬StandsAt s r i := by
  rintro ⟨hfits, -⟩
  omega

end Roll

/-! ## §2 Walks in doubles -/

theorem Decimal.nearest_lt_of_lt {x : Int} (h : x < 9007199254740992) :
    nearest x < 9007199254740992 := by
  by_cases hneg : x < 0
  · rw [nearest, if_pos hneg]
    omega
  · rwa [nearest_of_natAbs_lt (by omega)]

theorem Decimal.le_two_mul_nearest {x : Int} (h : 0 ≤ x) : x ≤ 2 * nearest x := by
  obtain ⟨hhalf, -⟩ := nearestNat_near x.toNat
  rw [nearest_of_nonneg h]
  omega

namespace Span

variable {s : Span}

/-- A span of moderate size that is only known in doubles begins far above the exact ones. -/
theorem lt_lowest_of_coarse (hsize : (s.size : Int) < 2305843009213693952)
    (h : s.coarse = true) : 18014398509481984 < s.lowest := by
  simp only [coarse, Bool.and_eq_true, decide_eq_true_eq] at h
  -- its highest number is no word, and it is too short to reach far down from there
  unfold size at hsize
  unfold Word.greatest at h
  omega

theorem nearest_lowest_mem_row (h : s.coarse = true) {length : Nat} (hlength : 0 < length) :
    Decimal.nearest s.lowest ∈ s.row length := by
  have hclimb : Decimal.nearest s.lowest ∈ s.coarseClimb length :=
    List.mem_map.mpr ⟨0, List.mem_range.mpr hlength, rfl⟩
  rw [row, h, if_pos rfl]
  split
  · exact List.mem_reverse.mpr hclimb
  · exact hclimb

theorem lowest_mem_exactRow (s : Span) {length : Nat} (hlength : 0 < length) :
    s.lowest ∈ s.exactRow length := by
  have hclimb : s.lowest ∈ s.climb length :=
    List.mem_map.mpr ⟨0, List.mem_range.mpr hlength, Int.add_zero _⟩
  unfold exactRow
  split
  · exact List.mem_reverse.mpr hclimb
  · exact hclimb

end Span

namespace Roll

variable {s : Span} {r : Roll}

/-- Rolls of ordinary faces do not show any walk in doubles. -/
theorem follows_of_coarse (h : s.coarse = true) (hlowest : 18014398509481984 < s.lowest)
    (hfaces : ∀ x ∈ r, x < 9007199254740992) {length : Nat} (hlength : 0 < length) :
    follows s length r = false := by
  rw [follows, Bool.and_eq_false_iff]
  right
  rw [Bool.eq_false_iff, Ne, shows_iff, h, if_pos rfl]
  intro hshown
  -- the lowest number of the walk would be the double of a face
  obtain ⟨x, hx, heq⟩ := List.mem_map.mp (hshown.subset (Span.nearest_lowest_mem_row h hlength))
  have hface := Decimal.nearest_lt_of_lt (hfaces x hx)
  have hwalk := Decimal.le_two_mul_nearest (x := s.lowest) (by omega)
  omega

/-- Rolls of ordinary faces show the numbers that are laid out, told apart or not. -/
theorem follows_iff_exactRow (hsize : (s.size : Int) < 2305843009213693952) {length : Nat}
    (hlength : 0 < length) (hfaces : s.coarse = false ∨ ∀ x ∈ r, x < 9007199254740992) :
    follows s length r = true ↔ s.exactRow length <:+: r := by
  cases hcoarse : s.coarse with
  | false => exact follows_iff hcoarse
  | true =>
    -- neither the row of doubles is there, nor the exact one
    have hlowest := Span.lt_lowest_of_coarse hsize hcoarse
    have hsmall := hfaces.resolve_left (by rw [hcoarse]; exact Bool.noConfusion)
    have hexact : ¬s.exactRow length <:+: r := fun hwalk => by
      have := hsmall s.lowest (hwalk.subset (s.lowest_mem_exactRow hlength))
      omega
    rw [follows_of_coarse hcoarse hlowest hsmall hlength]
    exact iff_of_false Bool.false_ne_true hexact

/-- The numbers of a span stand in a roll where the span stands. -/
theorem follows_size_iff (hsize : (s.size : Int) < 2305843009213693952)
    (hfaces : s.coarse = false ∨ ∀ x ∈ r, x < 9007199254740992) :
    follows s s.size r = true ↔ ∃ i, StandsAt s r i := by
  rw [follows_iff_exactRow hsize s.size_pos hfaces, Span.exactRow_size, walk_infix_iff]

end Roll

/-! ## §3 Tests for sequences -/

/-- The rolls of a table are decided by the row that is laid out. -/
theorem RollTable.map_follows_of_score [Memory] {t : RollTable} {die : Die} {link : Link} {s : Span}
    {length : Nat} {verdicts : List Bool} (hrow : Storage.rowLength s.size = .ok length)
    (h : t.score ⟨die, link, .sequence s⟩ = .ok verdicts) :
    verdicts = t.rows.map (Roll.follows s length) := by
  obtain ⟨-, hrolls⟩ := score_eq_ok_iff.mp h
  have hfollows : List.Forall₂ (fun r verdict => Roll.follows s length r = verdict) t.rows
      verdicts := by
    refine hrolls.imp fun r verdict hr => ?_
    obtain ⟨length', hlength', heq⟩ := map_eq_ok_iff.mp hr
    obtain ⟨hrow', -⟩ := Span.layOut_eq_ok_iff.mp hlength'
    cases hrow.symm.trans hrow'
    exact heq.symm
  have heq := List.forall₂_map_left_iff.mpr hfollows
  rw [List.forall₂_eq_eq_eq] at heq
  exact heq.symm

/-- **A test for a sequence, read by position.**  Spans of ordinary size are laid out as they are,
and if there is room for the windows, every roll of a table is decided.  Whenever the rolls are
decided and the row of the span is not empty, a roll that is shorter than the span does not pass,
and any other roll passes if the span stands somewhere in it; spans around the end of the machine
words are left to rolls of ordinary faces, and rows that need not be exact to rolls that are
shorter.  If the row comes out empty, every roll passes. -/
theorem RollTable.score_sequence_iff [Memory] (t : RollTable) (die : Die) (link : Link) (s : Span) :
    ((s.size : Int) < Storage.rowRoom → Storage.WindowsFit t.size t.width s.size →
      Storage.rowLength s.size = .ok s.size ∧
        ∃ verdicts, t.score ⟨die, link, .sequence s⟩ = .ok verdicts) ∧
    ∀ length verdicts, Storage.rowLength s.size = .ok length →
      t.score ⟨die, link, .sequence s⟩ = .ok verdicts →
      (0 < length → (s.size : Int) < Storage.rowRoom ∨ t.width < 9007199254740992 →
        List.Forall₂ (fun r verdict =>
          ((s.coarse = false ∨ ∀ x ∈ r, x < 9007199254740992) →
            (verdict = true ↔ ∃ i, Roll.StandsAt s r i)) ∧
          (r.length < (s.upper - s.lower).natAbs + 1 → verdict = false)) t.rows verdicts) ∧
      (length = 0 → ∀ verdict ∈ verdicts, verdict = true) := by
  refine ⟨fun hsize hwindows => ?_, fun length verdicts hrow hscore => ?_⟩
  · have hrow : Storage.rowLength s.size = .ok s.size := by
      rw [Storage.rowLength_of_lt (Int.natCast_nonneg s.size) hsize, Int.toNat_natCast]
    have hdecided : ∀ r ∈ t.rows, (Test.sequence s).obstacle? r = none := by
      intro r hr
      show (Test.sequence s).layoutFault? 1 r.length = none
      rw [t.length_of_mem r hr]
      exact Test.layoutFault?_of_size_lt hsize (hwindows.mono t.size_pos)
    exact ⟨hrow, _, score_eq_ok (Test.layoutFault?_of_size_lt hsize hwindows) hdecided⟩
  · rw [map_follows_of_score hrow hscore]
    refine ⟨fun hpos hshort => ?_, fun hempty => ?_⟩
    · rw [List.forall₂_map_right_iff, List.forall₂_same]
      intro r hr
      have hroll : (s.size : Int) < Storage.rowRoom ∨ r.length < 9007199254740992 := by
        rwa [t.length_of_mem r hr]
      have hmoderate := (Storage.eq_zero_or_of_rowLength s.size_pos hrow).resolve_left (by omega)
      rw [Roll.follows_of_rowLength hrow hpos hroll, ← Span.size_eq]
      exact ⟨Roll.follows_size_iff hmoderate.2, Roll.follows_of_length_lt⟩
    · subst hempty
      rw [List.forall_mem_map]
      exact fun r _ => Roll.follows_zero s r

/-- One roll that climbs from one to four, and one that goes back. -/
def climbAndDescent : RollTable where
  width := 6
  rows := [[5, 1, 2, 3, 4, 3], [2, 2, 4, 3, 2, 1]]
  width_pos := by decide
  rows_ne_nil := by decide
  length_of_mem := by decide
  holds_of_mem := by decide

/-- The way from four to one stands at the end of the second roll. -/
theorem descent_is_found :
    ((Span.mk 4 1).size : Int) < Storage.rowRoom ∧
      Storage.WindowsFit climbAndDescent.size climbAndDescent.width (Span.mk 4 1).size ∧
      ∃ verdicts, climbAndDescent.score ⟨.d6, .first, .sequence ⟨4, 1⟩⟩ = .ok verdicts ∧
        List.Forall₂ (fun r verdict => verdict = true ↔ ∃ i, Roll.StandsAt ⟨4, 1⟩ r i)
          climbAndDescent.rows verdicts ∧
        verdicts = [false, true] := by
  obtain ⟨hdecided, hverdicts⟩ :=
    RollTable.score_sequence_iff climbAndDescent .d6 .first ⟨4, 1⟩
  obtain ⟨hrow, verdicts, hscore⟩ := hdecided (by decide) (by decide)
  obtain ⟨hmeaning, -⟩ := hverdicts _ verdicts hrow hscore
  refine ⟨by decide, by decide, verdicts, hscore, ?_, ?_⟩
  · exact (hmeaning (by decide) (.inl (by decide))).imp fun r verdict h => h.1 (.inl rfl)
  · have hfound : climbAndDescent.score ⟨.d6, .first, .sequence ⟨4, 1⟩⟩ = .ok [false, true] := rfl
    rw [hfound] at hscore
    exact (Except.ok.inj hscore).symm

/-- A span of exactly `2 ^ 63` numbers is laid out as an empty row, and that stands in a roll of a
single die. -/
theorem endless_walk_is_found :
    ¬∀ (s : Span) (r : Roll), r ≠ [] →
      ∃ b, (Test.sequence s).score r = .ok b ∧ (b = true ↔ ∃ i, Roll.StandsAt s r i) := by
  intro h
  obtain ⟨b, hscore, hmeaning⟩ := h ⟨-1, 9223372036854775806⟩ [1] (List.cons_ne_nil 1 [])
  have htrue : (Test.sequence ⟨-1, 9223372036854775806⟩).score [1] = .ok true := rfl
  rw [htrue] at hscore
  obtain ⟨i, hstands⟩ := hmeaning.mp (Except.ok.inj hscore).symm
  exact Roll.not_standsAt_of_short (by decide) hstands

/-- At the end of the machine words a face is taken for its neighbour, as they have one double. -/
theorem neighbour_is_found :
    (Test.sequence ⟨9223372036854775807, 9223372036854775807⟩).score [9223372036854775806] =
      .ok true ∧
    ¬∃ i, Roll.StandsAt ⟨9223372036854775807, 9223372036854775807⟩ [9223372036854775806] i := by
  refine ⟨by decide +kernel, ?_⟩
  rintro ⟨i, hfits, hfaces⟩
  -- a roll of one die has one position
  obtain rfl : i = 0 := by
    simp only [List.length_singleton] at hfits
    omega
  exact absurd (hfaces 0 (Nat.zero_le _)) (by decide)

end DiceOdds
