import DiceOdds.Clause.Basic
import DiceOdds.Roll.Table

/-!
# Stretches of Neighbours

The stretches of neighbouring dice that meet a target, in one roll and in all rolls of a
table at once.  A table is scanned column by column: beside the dice of the column stand
the length of the stretch that has come so far, and whether a stretch has filled the quota.
Nothing but the place in its column ties a die to its roll, so that the scan has to be shown
to keep the rolls apart (`scan_eq`).
-/

namespace DiceOdds

namespace Roll

/-! ## §1 One roll -/

/-- The lengths of the stretches of neighbours that satisfy `p`, where `run` dice that do
so stand right before the roll; `found` holds the lengths of earlier stretches, the latest
one in front. -/
def stretchesOnto (p : Int → Bool) (run : Nat) (found : List Nat) : Roll → List Nat
  | [] => (if run = 0 then found else run :: found).reverse
  | x :: xs =>
    if p x then stretchesOnto p (run + 1) found xs
    else stretchesOnto p 0 (if run = 0 then found else run :: found) xs

/-- The lengths of the stretches of neighbours that satisfy `p`, where `run` dice that do
so stand right before the roll. -/
def stretchesFrom (p : Int → Bool) (run : Nat) (r : Roll) : List Nat := stretchesOnto p run [] r

theorem stretchesOnto_eq (p : Int → Bool) (run : Nat) (found : List Nat) (r : Roll) :
    stretchesOnto p run found r = found.reverse ++ stretchesFrom p run r := by
  induction r generalizing run found with
  | nil => by_cases h : run = 0 <;> simp [stretchesFrom, stretchesOnto, h]
  | cons x xs ih =>
    simp only [stretchesFrom, stretchesOnto]
    by_cases hx : p x
    · simp only [hx, if_true]
      exact ih _ _
    · simp only [hx, Bool.false_eq_true, if_false]
      rw [ih, ih 0 (if run = 0 then [] else [run])]
      by_cases h : run = 0 <;> simp [h]

theorem stretchesFrom_nil (p : Int → Bool) (run : Nat) :
    stretchesFrom p run [] = if run = 0 then [] else [run] := by
  by_cases h : run = 0 <;> simp [stretchesFrom, stretchesOnto, h]

/-- A die that satisfies `p` joins the stretch before it; any other die ends it. -/
theorem stretchesFrom_cons (p : Int → Bool) (run : Nat) (x : Int) (xs : Roll) :
    stretchesFrom p run (x :: xs) =
      if p x then stretchesFrom p (run + 1) xs
      else if run = 0 then stretchesFrom p 0 xs
      else run :: stretchesFrom p 0 xs := by
  by_cases hx : p x
  · simp [stretchesFrom, stretchesOnto, hx]
  · by_cases h : run = 0
    · simp [stretchesFrom, stretchesOnto, hx, h]
    · simp [stretchesFrom, stretchesOnto, hx, h, stretchesOnto_eq p 0 [run] xs]

/-- The lengths of the longest possible stretches of neighbours that satisfy `p`. -/
def stretches (p : Int → Bool) (r : Roll) : List Nat := stretchesFrom p 0 r

end Roll

/-! ## §2 All rolls at once -/

/-- The first `k` columns of rolls, from left to right. -/
def columns (rolls : List Roll) : Nat → List (List Int)
  | 0 => []
  | k + 1 => rolls.map (·.headD 0) :: columns (rolls.map List.tail) k

/-- Scans columns from left to right; each tells which of its dice meet the target.  `runs`
holds the lengths of the stretches that stand right before the columns, and `satisfied`
whether some stretch has filled the quota, roll by roll.  A stretch is held against the
quota where it ends: at the last column, or before a die that does not meet the target. -/
def scanColumns (quota : Quota) (runs : List Nat) (satisfied : List Bool) :
    List (List Bool) → List Bool
  | [] => satisfied
  | hits :: rest =>
    let runs := List.zipWith (fun hit run => if hit then run + 1 else 0) hits runs
    let ends :=
      match rest with
      | [] => hits
      | next :: _ => List.zipWith (fun hit follows => hit && !follows) hits next
    let filled := List.zipWith (fun isEnd (run : Nat) => isEnd && quota.admits run) ends runs
    scanColumns quota runs (List.zipWith (· || ·) satisfied filled) rest

/-- Which rolls of a table have a stretch of dice that meet the target and whose length
fills the quota. -/
def RollTable.scan (t : RollTable) (quota : Quota) (target : Target) : List Bool :=
  scanColumns quota (List.replicate t.size 0) (List.replicate t.size false)
    ((columns t.rows t.width).map (List.map target.hits))

/-! ## §3 Roll by roll -/

/-- Where the scan stands in one roll: the dice that are left, the length of the stretch
right before them, and whether some stretch has filled the quota. -/
structure ScanState where
  rest : Roll
  run : Nat
  satisfied : Bool

namespace ScanState

/-- The answer that the scan will give. -/
def answer (p : Int → Bool) (quota : Quota) (s : ScanState) : Bool :=
  s.satisfied || (Roll.stretchesFrom p s.run s.rest).any fun n => quota.admits n

/-- A stretch that has ended was held against the quota. -/
def Settled (p : Int → Bool) (quota : Quota) (s : ScanState) : Prop :=
  s.run ≠ 0 → s.rest.head?.all (fun x => !p x) = true → quota.admits s.run = true →
    s.satisfied = true

/-- What the scan does in one roll. -/
def step (p : Int → Bool) (quota : Quota) (s : ScanState) : ScanState :=
  let run := if p (s.rest.headD 0) then s.run + 1 else 0
  let isEnd := p (s.rest.headD 0) && s.rest.tail.head?.all fun x => !p x
  { rest := s.rest.tail, run, satisfied := s.satisfied || isEnd && quota.admits run }

variable {p : Int → Bool} {quota : Quota} {s : ScanState}

/-- What has come into the answer stays there, and what has not will. -/
theorem answer_step (h : s.Settled p quota) (hrest : s.rest ≠ []) :
    (s.step p quota).answer p quota = s.answer p quota := by
  obtain ⟨rest, run, satisfied⟩ := s
  obtain ⟨x, xs, rfl⟩ := List.exists_cons_of_ne_nil hrest
  simp only [answer, step, List.headD_cons, List.tail_cons, Roll.stretchesFrom_cons]
  by_cases hx : p x = true
  · simp only [hx, if_true, Bool.true_and, Bool.or_assoc]
    congr 1
    -- a stretch that ends here is the next one of the roll
    cases xs with
    | nil => simp [Roll.stretchesFrom_nil]
    | cons y ys =>
      by_cases hy : p y = true
      · simp [hy]
      · simp [hy, Roll.stretchesFrom_cons]
  · simp only [Bool.not_eq_true] at hx
    simp only [hx, Bool.false_eq_true, if_false, Bool.false_and, Bool.or_false]
    by_cases hrun : run = 0
    · simp [hrun]
    · have hsettled := h hrun (by simp [hx])
      simp only [hrun, if_false, List.any_cons]
      cases hadmits : quota.admits run with
      | false => rfl
      | true =>
        have hsatisfied : satisfied = true := hsettled hadmits
        simp [hsatisfied]

/-- The scan settles what it ends. -/
theorem settled_step (p : Int → Bool) (quota : Quota) (s : ScanState) :
    (s.step p quota).Settled p quota := by
  intro hrun hend hadmits
  by_cases hx : p (s.rest.headD 0) = true
  · simp only [step, hx, if_true, Bool.true_and] at hend hadmits ⊢
    simp only [hend, hadmits, Bool.and_self, Bool.or_true]
  · simp only [step, if_neg hx] at hrun
    exact absurd rfl hrun

theorem answer_of_nil (h : s.Settled p quota) (hrest : s.rest = []) :
    s.answer p quota = s.satisfied := by
  simp only [answer, hrest, Roll.stretchesFrom_nil]
  by_cases hrun : s.run = 0
  · simp [hrun]
  · have hsettled := h hrun (by simp [hrest])
    cases hadmits : quota.admits s.run with
    | false => simp [hrun, hadmits]
    | true => simp [hsettled hadmits]

end ScanState

/-- The ends of stretches in a column, roll by roll. -/
theorem ends_eq (p : Int → Bool) (states : List ScanState) {k : Nat}
    (h : ∀ s ∈ states, s.rest.length = k + 1) :
    (match (columns (states.map fun s => s.rest.tail) k).map (List.map p) with
      | [] => states.map fun s => p (s.rest.headD 0)
      | next :: _ => List.zipWith (fun hit follows => hit && !follows)
          (states.map fun s => p (s.rest.headD 0)) next) =
      states.map fun s => p (s.rest.headD 0) && s.rest.tail.head?.all fun x => !p x := by
  cases k with
  | zero =>
    refine List.map_congr_left fun s hs => ?_
    have hnil : s.rest.tail = [] := List.length_eq_zero_iff.mp (by simp [h s hs])
    simp [hnil]
  | succ k =>
    simp only [columns, List.map_cons, List.map_map, List.zipWith_map, List.zipWith_self]
    refine List.map_congr_left fun s hs => ?_
    have hcons : s.rest.tail ≠ [] := List.ne_nil_of_length_pos (by simp [h s hs])
    obtain ⟨y, ys, hy⟩ := List.exists_cons_of_ne_nil hcons
    simp [hy]

/-- **Columns keep the rolls apart**: whatever stands beside it, a roll gets the answer of its
own stretches. -/
theorem scanColumns_eq (p : Int → Bool) (quota : Quota) (k : Nat) (states : List ScanState)
    (hlength : ∀ s ∈ states, s.rest.length = k) (hsettled : ∀ s ∈ states, s.Settled p quota) :
    scanColumns quota (states.map (·.run)) (states.map (·.satisfied))
      ((columns (states.map (·.rest)) k).map (List.map p)) = states.map (·.answer p quota) := by
  induction k generalizing states with
  | zero =>
    refine List.map_congr_left fun s hs => ?_
    exact (ScanState.answer_of_nil (hsettled s hs) (List.length_eq_zero_iff.mp (hlength s hs))).symm
  | succ k ih =>
    have hstep : ∀ s ∈ states, (s.step p quota).answer p quota = s.answer p quota := fun s hs =>
      ScanState.answer_step (hsettled s hs) (List.ne_nil_of_length_pos (by simp [hlength s hs]))
    have hnext := ih (states.map (·.step p quota))
      (by
        rintro _ hs
        obtain ⟨s, hs', rfl⟩ := List.mem_map.mp hs
        simp [ScanState.step, hlength s hs'])
      (by
        rintro _ hs
        obtain ⟨s, -, rfl⟩ := List.mem_map.mp hs
        exact ScanState.settled_step p quota s)
    calc scanColumns quota (states.map (·.run)) (states.map (·.satisfied))
          ((columns (states.map (·.rest)) (k + 1)).map (List.map p))
        = scanColumns quota ((states.map (·.step p quota)).map (·.run))
            ((states.map (·.step p quota)).map (·.satisfied))
            ((columns ((states.map (·.step p quota)).map (·.rest)) k).map (List.map p)) := by
          simp only [columns, List.map_cons, scanColumns, List.map_map, Function.comp_def,
            ends_eq p states hlength, List.zipWith_map, List.zipWith_self, ScanState.step]
      _ = (states.map (·.step p quota)).map (·.answer p quota) := hnext
      _ = states.map (·.answer p quota) := by
          rw [List.map_map]
          exact List.map_congr_left hstep

/-- **Scanning a table by columns finds the stretches of its rolls.** -/
theorem RollTable.scan_eq (t : RollTable) (quota : Quota) (target : Target) :
    t.scan quota target =
      t.rows.map fun r => (Roll.stretches target.hits r).any fun n => quota.admits n := by
  have hstates := scanColumns_eq target.hits quota t.width
    (t.rows.map fun r => { rest := r, run := 0, satisfied := false })
    (by simpa using t.length_of_mem) (by simp [ScanState.Settled])
  rw [scan, size]
  simpa only [List.map_map, Function.comp_def, List.map_const', List.map_id', ScanState.answer,
    Bool.false_or, Roll.stretches] using hstates

end DiceOdds
