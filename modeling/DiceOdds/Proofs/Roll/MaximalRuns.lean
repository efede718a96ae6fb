import DiceOdds.Proofs.Roll.Scorable

/-!
# Maximal Runs

The scan for stretches keeps the length of the stretch that is still open.  Seen from outside, a
stretch is a maximal run: dice side by side that satisfy the property, between neighbours that do
not.  The lengths that the scan reports are the lengths of the maximal runs
(`mem_stretches_iff`), so a test for stretches can be read without the scan.

A wanted number of neighbours that satisfy the property lies in one maximal run, which need not
start or end with them (`exists_window_iff`).
-/

namespace DiceOdds

namespace Roll

variable {p : Int → Bool} {r : Roll} {a b i j run : Nat}

/-! ## §1 Runs -/

/-- The die at a position satisfies the property; there is no die beyond the roll. -/
def HoldsAt (p : Int → Bool) (r : Roll) (i : Nat) : Prop := ∃ x, r[i]? = some x ∧ p x = true

theorem HoldsAt.lt_length (h : HoldsAt p r i) : i < r.length := by
  obtain ⟨x, hx, -⟩ := h
  exact (List.getElem?_eq_some_iff.mp hx).1

/-- The dice from `a` to `b` satisfy the property.  The die before them and the die after them do
not, if there are such dice. -/
structure IsMaximalRun (p : Int → Bool) (r : Roll) (a b : Nat) : Prop where
  le : a ≤ b
  lt_length : b < r.length
  holds : ∀ i, a ≤ i → i ≤ b → HoldsAt p r i
  not_before : ∀ i, i + 1 = a → ¬HoldsAt p r i
  not_after : ¬HoldsAt p r (b + 1)

/-! ## §2 The open run of the scan -/

/-- Of the dice before position `j`, exactly the last `run` satisfy the property in a row. -/
structure OpenBefore (p : Int → Bool) (r : Roll) (j run : Nat) : Prop where
  le : run ≤ j
  holds : ∀ i, j ≤ i + run → i < j → HoldsAt p r i
  not_before : ∀ i, i + run + 1 = j → ¬HoldsAt p r i

namespace OpenBefore

theorem start : OpenBefore p r 0 0 where
  le := Nat.le_refl 0
  holds := by omega
  not_before := by omega

theorem extend (h : OpenBefore p r j run) (hj : HoldsAt p r j) :
    OpenBefore p r (j + 1) (run + 1) where
  le := Nat.succ_le_succ h.le
  holds i hi hlt := by
    rcases Nat.lt_succ_iff_lt_or_eq.mp hlt with hlt | rfl
    · exact h.holds i (by omega) hlt
    · exact hj
  not_before i hi := h.not_before i (by omega)

theorem restart (hj : ¬HoldsAt p r j) : OpenBefore p r (j + 1) 0 where
  le := Nat.zero_le _
  holds := by omega
  not_before i hi := by
    obtain rfl : i = j := by omega
    exact hj

/-- Where the next die does not satisfy the property, the open run is the one maximal run that
ends here. -/
theorem isMaximalRun_iff (h : OpenBefore p r j run) (hj : ¬HoldsAt p r j) (hb : b + 1 = j) :
    IsMaximalRun p r a b ↔ 0 < run ∧ a + run = j := by
  subst hb
  constructor
  · intro hrun
    -- the open run can neither stop inside the maximal one nor reach over its start
    have hpos : 0 < run := by
      by_contra hzero
      exact h.not_before b (by omega) (hrun.holds b hrun.le (Nat.le_refl b))
    have hle := h.le
    have hab := hrun.le
    refine ⟨hpos, ?_⟩
    rcases Nat.lt_trichotomy (a + run) (b + 1) with hshort | hfits | hlong
    · exact absurd (hrun.holds (b - run) (by omega) (by omega)) (h.not_before _ (by omega))
    · exact hfits
    · exact absurd (h.holds (a - 1) (by omega) (by omega)) (hrun.not_before _ (by omega))
  · rintro ⟨hpos, hstart⟩
    exact
      { le := by omega
        lt_length := (h.holds b (by omega) (by omega)).lt_length
        holds := fun i hi hib => h.holds i (by omega) (by omega)
        not_before := fun i hi => h.not_before i (by omega)
        not_after := hj }

/-- The open run, together with the runs that end later, are the runs that do not end before. -/
theorem exists_run_iff (h : OpenBefore p r j run) (hj : ¬HoldsAt p r j) {n : Nat} :
    (∃ a b, IsMaximalRun p r a b ∧ j ≤ b + 1 ∧ n + a = b + 1) ↔
      0 < run ∧ n = run ∨ ∃ a b, IsMaximalRun p r a b ∧ j + 1 ≤ b + 1 ∧ n + a = b + 1 := by
  constructor
  · rintro ⟨a, b, hrun, hle, hn⟩
    rcases Nat.eq_or_lt_of_le hle with hend | hlater
    · obtain ⟨hpos, hstart⟩ := (h.isMaximalRun_iff hj hend.symm).mp hrun
      exact .inl ⟨hpos, by omega⟩
    · exact .inr ⟨a, b, hrun, hlater, hn⟩
  · rintro (⟨hpos, rfl⟩ | ⟨a, b, hrun, hlater, hn⟩)
    · have hle := h.le
      refine ⟨j - n, j - 1, ?_, by omega, by omega⟩
      exact (h.isMaximalRun_iff hj (by omega)).mpr ⟨hpos, by omega⟩
    · exact ⟨a, b, hrun, by omega, hn⟩

end OpenBefore

/-- **What the scan reports**, once it stands at position `j` with the right open run: the lengths
of the maximal runs that do not end before the dice it has just seen. -/
theorem mem_stretchesFrom_iff (rest : Roll) : ∀ {j run : Nat}, r.drop j = rest →
    OpenBefore p r j run → ∀ n, n ∈ stretchesFrom p run rest ↔
      ∃ a b, IsMaximalRun p r a b ∧ j ≤ b + 1 ∧ n + a = b + 1 := by
  -- on the dice that are left, with the open run as the invariant
  induction rest with
  | nil =>
    intro j run hdrop hopen n
    have hend : r.length ≤ j := List.drop_eq_nil_iff.mp hdrop
    have hj : ¬HoldsAt p r j := fun h => absurd h.lt_length (by omega)
    have hlater : ¬∃ a b, IsMaximalRun p r a b ∧ j + 1 ≤ b + 1 ∧ n + a = b + 1 := by
      rintro ⟨a, b, hrun, hle, -⟩
      have hlt := hrun.lt_length
      omega
    rw [stretchesFrom_nil, hopen.exists_run_iff hj, or_iff_left hlater]
    split
    · simp; omega
    · rw [List.mem_singleton]
      omega
  | cons x rest ih =>
    intro j run hdrop hopen n
    have hx : r[j]? = some x := by
      rw [← List.head?_drop, hdrop, List.head?_cons]
    have hnext : r.drop (j + 1) = rest := by
      rw [← List.tail_drop, hdrop, List.tail_cons]
    rw [stretchesFrom_cons]
    by_cases hp : p x = true
    · -- the open run goes on, so that none ends right before the die
      have hj : HoldsAt p r j := ⟨x, hx, hp⟩
      rw [if_pos hp, ih hnext (hopen.extend hj)]
      have hopen' : ∀ {a b : Nat}, IsMaximalRun p r a b → (j + 1 ≤ b + 1 ↔ j ≤ b + 1) := by
        intro a b hrun
        refine ⟨Nat.le_of_succ_le, fun hle => Nat.lt_of_le_of_ne hle ?_⟩
        rintro rfl
        exact hrun.not_after hj
      refine exists_congr fun a => exists_congr fun b => and_congr_right fun hrun => ?_
      rw [hopen' hrun]
    · -- the open run ends right before the die
      have hj : ¬HoldsAt p r j := by
        rintro ⟨y, hy, hpy⟩
        rw [hx] at hy
        cases hy
        exact hp hpy
      rw [if_neg hp, hopen.exists_run_iff hj, ← ih hnext (OpenBefore.restart hj) n]
      split
      · next hrun => exact (or_iff_right (by omega)).symm
      · next hrun =>
        rw [List.mem_cons]
        exact or_congr_left (and_iff_right (Nat.pos_of_ne_zero hrun)).symm

/-- The stretches of a roll are its maximal runs. -/
theorem mem_stretches_iff {n : Nat} :
    n ∈ stretches p r ↔ ∃ a b, IsMaximalRun p r a b ∧ n + a = b + 1 := by
  rw [stretches, mem_stretchesFrom_iff r rfl OpenBefore.start]
  refine exists_congr fun a => exists_congr fun b => and_congr_right fun _ => ?_
  exact and_iff_right (Nat.zero_le _)

/-- Three runs of faces above one, the last of them a single die. -/
example : stretches (fun x => 2 ≤ x) [4, 2, 1, 4, 4, 4, 1, 2] = [2, 3, 1] := by decide

/-! ## §3 Windows -/

/-- Going left from a position, the dice that satisfy the property start somewhere. -/
theorem exists_start (i : Nat) (hi : HoldsAt p r i) :
    ∃ a ≤ i, (∀ j, a ≤ j → j ≤ i → HoldsAt p r j) ∧ ∀ j, j + 1 = a → ¬HoldsAt p r j := by
  induction i with
  | zero => exact ⟨0, Nat.le_refl 0, fun j _ hj => Nat.le_zero.mp hj ▸ hi, by omega⟩
  | succ i ih =>
    by_cases hbefore : HoldsAt p r i
    · obtain ⟨a, ha, hall, hstop⟩ := ih hbefore
      refine ⟨a, Nat.le_succ_of_le ha, fun j haj hj => ?_, hstop⟩
      rcases Nat.lt_succ_iff_lt_or_eq.mp (Nat.lt_succ_of_le hj) with hlt | rfl
      · exact hall j haj (Nat.le_of_lt_succ hlt)
      · exact hi
    · refine ⟨i + 1, Nat.le_refl _, fun j haj hj => Nat.le_antisymm haj hj ▸ hi, fun j hj => ?_⟩
      rwa [Nat.succ.inj hj]

/-- Going right from a position, they end somewhere, at the last die of the roll at the latest. -/
theorem exists_end (hi : HoldsAt p r i) :
    ∃ b, i ≤ b ∧ (∀ j, i ≤ j → j ≤ b → HoldsAt p r j) ∧ ¬HoldsAt p r (b + 1) := by
  -- on the number of dice to the right of the position
  induction hright : r.length - i generalizing i with
  | zero => exact absurd hi.lt_length (by omega)
  | succ n ih =>
    by_cases hafter : HoldsAt p r (i + 1)
    · obtain ⟨b, hb, hall, hstop⟩ := ih hafter (by omega)
      refine ⟨b, Nat.le_of_succ_le hb, fun j hij hj => ?_, hstop⟩
      rcases Nat.eq_or_lt_of_le hij with rfl | hlt
      · exact hi
      · exact hall j hlt hj
    · exact ⟨i, Nat.le_refl i, fun j hij hj => Nat.le_antisymm hij hj ▸ hi, hafter⟩

/-- **Neighbours lie in one run.**  Wherever `q` neighbours satisfy the property, there is a
maximal run of at least `q` dice. -/
theorem exists_window_iff {q : Nat} (hq : 0 < q) :
    (∃ i, ∀ j < q, HoldsAt p r (i + j)) ↔ ∃ a b, IsMaximalRun p r a b ∧ q + a ≤ b + 1 := by
  constructor
  · rintro ⟨i, hwindow⟩
    -- the first die of the window leads to the start of the run, the last one to its end
    obtain ⟨a, ha, hleft, hbefore⟩ := exists_start i (hwindow 0 hq)
    obtain ⟨b, hb, hright, hafter⟩ := exists_end (hwindow (q - 1) (by omega))
    have hrun : ∀ j, a ≤ j → j ≤ b → HoldsAt p r j := by
      intro j haj hjb
      rcases Nat.lt_or_ge j i with hlt | hge
      · exact hleft j haj (Nat.le_of_lt hlt)
      · rcases Nat.lt_or_ge j (i + q) with hinside | hbehind
        · have := hwindow (j - i) (by omega)
          rwa [Nat.add_sub_cancel' hge] at this
        · exact hright j (by omega) hjb
    refine ⟨a, b, ⟨by omega, ?_, hrun, hbefore, hafter⟩, by omega⟩
    exact (hrun b (by omega) (Nat.le_refl b)).lt_length
  · rintro ⟨a, b, hrun, hlong⟩
    exact ⟨a, fun j hj => hrun.holds (a + j) (by omega) (by omega)⟩

end Roll

/-! ## §4 Tests for stretches -/

namespace Roll

theorem any_stretches_iff {admits : Nat → Bool} :
    (stretches p r).any admits = true ↔
      ∃ a b, IsMaximalRun p r a b ∧ admits (b - a + 1) = true := by
  rw [List.any_eq_true]
  constructor
  · rintro ⟨n, hn, hadmits⟩
    obtain ⟨a, b, hrun, hlength⟩ := mem_stretches_iff.mp hn
    have hle := hrun.le
    obtain rfl : n = b - a + 1 := by omega
    exact ⟨a, b, hrun, hadmits⟩
  · rintro ⟨a, b, hrun, hadmits⟩
    have hle := hrun.le
    exact ⟨b - a + 1, mem_stretches_iff.mpr ⟨a, b, hrun, by omega⟩, hadmits⟩

theorem not_isMaximalRun_of_forall (h : ∀ x ∈ r, p x = false) : ¬IsMaximalRun p r a b := by
  intro hrun
  obtain ⟨x, hx, hpx⟩ := hrun.holds a (Nat.le_refl a) hrun.le
  rw [h x (List.mem_of_getElem? hx)] at hpx
  cases hpx

end Roll

/-- **A test for stretches, read without the scan.**  Every roll of a table is decided, and it
passes if the length of one of its maximal runs fills the quota.  So a roll without any run never
passes, and if at least `q` dice are wanted, any `q` neighbours that meet the target will do. -/
theorem RollTable.score_run_iff [Memory] (t : RollTable) (die : Die) (link : Link)
    (quota : Quota) (target : Target) :
    ∃ verdicts, t.score ⟨die, link, .run quota target⟩ = .ok verdicts ∧
      List.Forall₂ (fun r verdict =>
        (verdict = true ↔ ∃ a b, Roll.IsMaximalRun target.hits r a b ∧
          quota.admits ((b - a + 1 : Nat)) = true) ∧
        ((∀ x ∈ r, target.hits x = false) → verdict = false) ∧
        ∀ q : Nat, 1 ≤ q → quota = ⟨.atLeast, q⟩ →
          (verdict = true ↔ ∃ i, ∀ j < q, Roll.HoldsAt target.hits r (i + j)))
        t.rows verdicts := by
  -- columns or rolls, the stretches are the same
  rw [score_of_layOut rfl]
  apply exists_mapM_eq_ok_forall₂
  intro r _
  have hruns : (Roll.stretches target.hits r).any (fun n => quota.admits n) = true ↔
      ∃ a b, Roll.IsMaximalRun target.hits r a b ∧ quota.admits ((b - a + 1 : Nat)) = true :=
    Roll.any_stretches_iff
  refine ⟨_, rfl, hruns, fun hnone => ?_, ?_⟩
  · rw [Bool.eq_false_iff, Ne, hruns]
    rintro ⟨a, b, hrun, -⟩
    exact Roll.not_isMaximalRun_of_forall hnone hrun
  · rintro q hq rfl
    rw [hruns, Roll.exists_window_iff hq]
    refine exists_congr fun a => exists_congr fun b => and_congr_right fun hrun => ?_
    have hle := hrun.le
    rw [Quota.admits, Bound.admits, decide_eq_true_eq, Int.ofNat_le]
    omega

end DiceOdds
