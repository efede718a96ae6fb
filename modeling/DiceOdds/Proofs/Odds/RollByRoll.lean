import DiceOdds.Proofs.Clause.Completeness
import DiceOdds.Proofs.Odds.Winners
import DiceOdds.Proofs.Roll.Verdicts
import DiceOdds.Proofs.Session
import DiceOdds.Workstation

/-!
# Estimates Roll by Roll

Estimating drafts over a table and deciding its rolls one after another are two ways to the
same answer: no roll has a say in the verdict on another.  The table is answered exactly if
every roll is and the windows of all of them fit, the successes are the rolls that are decided
in favour, and the mean total is taken over these rolls and no others.

As long as the windows fit and every face can be counted, even the fault is the same: what is
wrong then lies in the drafts, and shows on any roll.  A face that cannot be counted spoils its
own roll and the table, but no other roll (`tables_fail_apart_from_their_rolls`).

**Main statement**: `simulate_agrees_roll_by_roll`.
-/

namespace DiceOdds

/-! ## §1 Winners -/

section Winners

variable [Memory]

/-- Whether a roll satisfies drafts when it is decided on its own. -/
def wins (ds : List Draft) (r : Roll) : Bool :=
  match decideRoll ds none r with
  | .ok b => b
  | .error _ => false

/-- The winners of a table are the rolls that win on their own. -/
theorem RollTable.winners_eq_filter {t : RollTable} {ds : List Draft} {vs : List Bool}
    (h : List.Forall₂ (fun r b => decideRoll ds none r = .ok b) t.rows vs) :
    t.winners vs = t.rows.filter (wins ds) := by
  refine RollTable.winners_of_forall₂ (h.imp fun r b hr => ?_)
  rw [wins, hr]

/-! ## §2 The two ways -/

section Answers

variable {α σ : Type} [Numeric α] [Source σ] (s : Session σ) (ds : List Draft) (t : RollTable)

/-- An answer is the estimate from the verdicts on the single rolls. -/
theorem answer_eq_ok_iff {e : Estimate α} : s.answer α ds (Nested.ofRows t.rows) = .ok e ↔
    ∃ cs vs, Draft.checkAll ds = .ok cs ∧ t.verdicts cs = .ok vs ∧
      List.Forall₂ (fun r b => decideRoll ds none r = .ok b) t.rows vs ∧
      e = Estimate.ofVerdicts t vs := by
  rw [Session.answer_eq α t.toTable_ofRows, RollTable.simulate]
  generalize hcheck : Draft.checkAll ds = checked
  cases checked with
  | error e' => simp
  | ok cs =>
    have hdecide : ∀ vs, t.verdicts cs = .ok vs →
        List.Forall₂ (fun r b => decideRoll ds none r = .ok b) t.rows vs := by
      intro vs hvs
      have hrolls := RollTable.forall₂_of_verdicts hvs
      refine List.forall₂_iff_get.mpr ⟨hrolls.length_eq, fun i hi hi' => ?_⟩
      rw [decideRoll_eq t (List.get_mem t.rows ⟨i, hi⟩), hcheck]
      exact hrolls.get hi hi'
    simp only [RollTable.estimate]
    cases hvs : t.verdicts cs with
    | error f => simp [Except.map, hvs]
    | ok vs =>
      simp only [Except.map, Except.ok.injEq]
      constructor
      · rintro rfl
        exact ⟨cs, vs, rfl, hvs, hdecide vs hvs, rfl⟩
      · rintro ⟨cs', vs', rfl, hvs', -, rfl⟩
        rw [hvs] at hvs'
        cases hvs'
        rfl

/-- The table is answered if every roll is, and the windows of all rolls fit. -/
theorem exists_answer_eq_ok_iff : (∃ e, s.answer α ds (Nested.ofRows t.rows) = .ok e) ↔
    (∀ d ∈ ds, d.WindowsFit t.size t.width) ∧
      ∀ r ∈ t.rows, ∃ b, decideRoll ds none r = .ok b := by
  rw [Session.answer_eq α t.toTable_ofRows, RollTable.simulate]
  cases hcheck : Draft.checkAll ds with
  | error e =>
    -- the drafts are refused for every roll, and there is one
    obtain ⟨r, hr⟩ := List.exists_mem_of_ne_nil t.rows t.rows_ne_nil
    constructor
    · rintro ⟨_, h⟩
      cases h
    · rintro ⟨-, h⟩
      obtain ⟨b, hb⟩ := h r hr
      rw [decideRoll_eq t hr, hcheck] at hb
      cases hb
  | ok cs =>
    have hrolls : (∀ r ∈ t.rows, ∃ b, decideRoll ds none r = .ok b) ↔
        ∀ r ∈ t.rows, ∃ b, Roll.verdict cs r = .ok b := by
      refine forall₂_congr fun r hr => ?_
      rw [decideRoll_eq t hr, hcheck]
    have hwindows : (∀ d ∈ ds, d.WindowsFit t.size t.width) ↔
        ∀ c ∈ cs, c.test.WindowsFit t.size t.width :=
      (Draft.forall_mem_of_checkAll hcheck fun d test htest => Draft.windowsFit_of_test? htest).symm
    rw [hrolls, hwindows, ← RollTable.exists_verdicts_eq_ok_iff, ← faultOf_eq_none_iff,
      ← faultOf_eq_none_iff]
    simp [RollTable.estimate]

/-- On faces that can be counted, and where the windows fit, the table has the fault of each of its
rolls. -/
theorem faultOf_answer (h : ∀ r ∈ t.rows, r.Countable)
    (hwindows : ∀ d ∈ ds, d.WindowsFit t.size t.width) {r : Roll} (hr : r ∈ t.rows) :
    faultOf (s.answer α ds (Nested.ofRows t.rows)) = faultOf (decideRoll ds none r) := by
  rw [Session.answer_eq α t.toTable_ofRows, RollTable.simulate, decideRoll_eq t hr]
  cases hcheck : Draft.checkAll ds with
  | error e => rfl
  | ok cs =>
    have hfit : ∀ c ∈ cs, c.test.WindowsFit t.size t.width :=
      (Draft.forall_mem_of_checkAll hcheck
        fun d test htest => Draft.windowsFit_of_test? htest).mpr hwindows
    -- on both sides: the first row that cannot be laid out, and then the links
    have hobstacle : t.obstacle? cs = Roll.obstacle? cs r := by
      rw [RollTable.obstacle?_of_countable cs h, Roll.obstacle?_of_countable cs (h r hr),
        t.length_of_mem r hr]
      refine findSome?_congr fun c hc => ?_
      rw [Test.layoutFault?_of_windowsFit (hfit c hc),
        Test.layoutFault?_of_windowsFit ((hfit c hc).mono t.size_pos)]
    simp only [RollTable.estimate, faultOf_map, RollTable.faultOf_verdicts, Roll.faultOf_verdict,
      hobstacle]

/-- **Estimating over a table agrees with deciding its rolls one by one.**  The table is
answered if and only if every roll is and the windows of all rolls fit.  The verdicts then are
the verdicts on the single rolls, the figures are those of the rolls that win on their own, and
successes times mean total is, in exact arithmetic, the sum of what these show.  If the windows
fit and every face can be counted, the table and each of its rolls fail in the same way. -/
theorem simulate_agrees_roll_by_roll :
    ((∃ e, s.answer α ds (Nested.ofRows t.rows) = .ok e) ↔
      (∀ d ∈ ds, d.WindowsFit t.size t.width) ∧
        ∀ r ∈ t.rows, ∃ b, decideRoll ds none r = .ok b) ∧
    (∀ e, s.answer α ds (Nested.ofRows t.rows) = .ok e →
      (∃ cs vs, Draft.checkAll ds = .ok cs ∧ t.verdicts cs = .ok vs ∧
        List.Forall₂ (fun r b => decideRoll ds none r = .ok b) t.rows vs) ∧
      e.total = t.rows.length ∧
      e.successes = t.rows.countP (wins ds) ∧
      e.sum = mean? ((t.rows.filter (wins ds)).map Roll.total)) ∧
    (∀ e, s.answer ℚ ds (Nested.ofRows t.rows) = .ok e →
      (∀ r ∈ t.rows, wins ds r → Word.Holds r.pips) →
      (e.sum = none ↔ e.successes = 0) ∧
      e.successes * e.sum.getD 0 = (((t.rows.filter (wins ds)).map Roll.pips).sum : ℚ)) ∧
    ((∀ d ∈ ds, d.WindowsFit t.size t.width) → (∀ r ∈ t.rows, r.Countable) → ∀ f, ∀ r ∈ t.rows,
      (s.answer α ds (Nested.ofRows t.rows) = .error f ↔ decideRoll ds none r = .error f)) := by
  refine ⟨exists_answer_eq_ok_iff s ds t, fun e he => ?_, fun e he hpips => ?_, ?_⟩
  · obtain ⟨cs, vs, hcs, hvs, hrolls, rfl⟩ := (answer_eq_ok_iff s ds t).mp he
    have hwinners := RollTable.winners_eq_filter hrolls
    refine ⟨⟨cs, vs, hcs, hvs, hrolls⟩, rfl, ?_, ?_⟩
    · rw [List.countP_eq_length_filter, ← hwinners]
      rfl
    · rw [← hwinners]
      rfl
  · -- a total that is a word is not wrapped
    obtain ⟨cs, vs, -, -, hrolls, rfl⟩ := (answer_eq_ok_iff s ds t).mp he
    have hpips' : ∀ r ∈ t.winners vs, Word.Holds r.pips := by
      intro r hr
      rw [RollTable.winners_eq_filter hrolls, List.mem_filter] at hr
      exact hpips r hr.1 hr.2
    refine ⟨?_, ?_⟩
    · show mean? ((t.winners vs).map Roll.total) = none ↔ (t.winners vs).length = 0
      rw [mean?_eq_none_iff, List.length_map]
    · rw [Estimate.successes_mul_sum t hpips', RollTable.winners_eq_filter hrolls]
  · intro hwindows hcountable f r hr
    rw [← faultOf_eq_some_iff, ← faultOf_eq_some_iff, faultOf_answer s ds t hcountable hwindows hr]

end Answers

end Winners

/-! ## §3 Tables that fail apart from their rolls -/

/-- Asks for the lowest most frequent face, and then for a clause that claims to be the
first. -/
def strayMode : List Draft :=
  [{ die := some .d6, reduction := some (.statistic .mode), comparison := some .equals },
   { die := some .d6, reduction := some .each, comparison := some .equals,
     bound := some .exactly, link := some .first }]

/-- Asks for a walk of many numbers. -/
def longWalk : Draft := { die := some .d6, reduction := some .sequence, span := ⟨1, 16384⟩ }

/-- Many rolls of twice as many dice, which show aces. -/
def longRolls : RollTable where
  width := 32768
  rows := List.replicate 1024 (List.replicate 32768 1)
  width_pos := by decide
  rows_ne_nil := List.replicate_succ ▸ List.cons_ne_nil _ _
  length_of_mem := by
    intro r hr
    rw [List.eq_of_mem_replicate hr, List.length_replicate]
  holds_of_mem := by
    intro r hr x hx
    rw [List.eq_of_mem_replicate hr] at hx
    rw [List.eq_of_mem_replicate hx]
    decide

/-- No face is below nought, but the counters for one face cannot be stored.  The table fails for
that, while the other roll on its own shows what is wrong with the links.  And there is room for
the windows of each long roll on its own, but not for those of all rolls at once. -/
theorem tables_fail_apart_from_their_rolls :
    ((Nested.ofRows [[1], [4611686018427387904]]).faces.all (0 ≤ ·) = true ∧
      ({} : Session Random.Linear).answer ℚ strayMode
        (Nested.ofRows [[1], [4611686018427387904]]) = .error .tableTooLarge ∧
      decideRoll strayMode none [1] = .error (.rejected (.malformed .strayFirst))) ∧
    (∀ r ∈ longRolls.rows, ∃ b, decideRoll [longWalk] none r = .ok b) ∧
    ¬∃ e, ({} : Session Random.Linear).answer ℚ [longWalk] (Nested.ofRows longRolls.rows) =
      .ok e := by
  have hrow : Storage.rowLength longWalk.span.size = .ok 16384 :=
    Storage.rowLength_of_lt (by decide) (by decide)
  refine ⟨by decide +kernel, fun r hr => ?_, fun hanswered => ?_⟩
  · have hcheck : Draft.checkAll [longWalk] = .ok [⟨.d6, .first, .sequence ⟨1, 16384⟩⟩] := rfl
    have hlayout : longWalk.span.layOut 1 r.length = .ok 16384 := by
      rw [longRolls.length_of_mem r hr]
      exact Span.layOut_eq_ok_iff.mpr ⟨hrow, by decide⟩
    have hobstacle : Roll.obstacle? [⟨.d6, .first, .sequence ⟨1, 16384⟩⟩] r = none := by
      rw [Roll.obstacle?_eq_none_iff, List.forall_mem_singleton]
      show faultOf ((longWalk.span.layOut 1 r.length).map _) = none
      rw [hlayout]
      rfl
    rw [decideRoll_eq longRolls hr, hcheck, ← faultOf_eq_none_iff, Roll.faultOf_verdict, hobstacle]
    rfl
  · have hwindows := ((exists_answer_eq_ok_iff _ _ _).mp hanswered).1 longWalk
      (List.mem_singleton_self longWalk) rfl 16384 hrow
    have hsize : longRolls.size = 1024 := List.length_replicate
    have hfull : ¬Storage.WindowsFit 1024 32768 16384 := by decide
    rw [hsize] at hwindows
    exact hfull hwindows

end DiceOdds
