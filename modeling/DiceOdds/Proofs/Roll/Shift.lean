import DiceOdds.Proofs.Roll.LowestMode
import DiceOdds.Proofs.Roll.Search
import Mathlib.Data.Int.Order.Basic
import Mathlib.Data.List.Count
import Mathlib.Order.Basic

/-!
# Shifted Rolls

If all faces of a roll are moved by the same number, the statistics move with them: the sum once
for each die, any other statistic once, also where it is a quotient that is rounded down
(`ofRoll_shift`).  A test whose value and span move along decides the moved roll as it decided the
roll (`score_shift`).

This asks for exact numbers on both sides (`ExactOn`): totals that are words, faces that can be
counted if there is a mode, and for a sequence no span that is only known in doubles, unless
the faces are too small to be taken for its numbers.

**Main statement**: `scores_move_with_the_dice`.
-/

namespace DiceOdds

/-! ## §1 What moves -/

/-- The roll with all faces moved. -/
def Roll.shift (c : Int) (r : Roll) : Roll := r.map (· + c)

/-- The span with both ends moved. -/
def Span.shift (c : Int) (s : Span) : Span := ⟨s.lower + c, s.upper + c⟩

/-- The target with the value and both ends of the span moved. -/
def Target.shift (c : Int) (t : Target) : Target :=
  { t with value := t.value + c, span := t.span.shift c }

/-- How far a statistic moves if each of the dice moves: a sum moves once for each of them. -/
def Statistic.move (s : Statistic) (width : Nat) (c : Int) : Int :=
  match s with
  | .sum => width * c
  | _ => c

/-- The test for rolls whose dice have moved. -/
def Test.shift (width : Nat) (c : Int) : Test → Test
  | .each quota target => .each quota (target.shift c)
  | .run quota target => .run quota (target.shift c)
  | .sequence span => .sequence (span.shift c)
  | .statistic s target => .statistic s (target.shift (s.move width c))

/-- The clause for rolls whose dice have moved. -/
def Clause.shift (width : Nat) (c : Int) (clause : Clause) : Clause :=
  { clause with test := clause.test.shift width c }

/-! ## §2 Where numbers are exact -/

section ExactOn

variable [Memory]

/-- The statistic of the roll is worked out without leaving the words, and a mode exists. -/
def Statistic.ExactOn (s : Statistic) (r : Roll) : Prop :=
  match s with
  | .sum | .average => Word.Holds r.pips
  | .median =>
    r.length % 2 = 0 → Word.Holds (r.ranked (r.length / 2) + r.ranked (r.length / 2 - 1))
  | .minimum | .maximum => True
  | .mode => r.Countable

/-- The roll is decided in exact numbers.  A span that is only known in doubles is so far up that
it is told apart from smaller faces. -/
def Test.ExactOn (t : Test) (r : Roll) : Prop :=
  match t with
  | .each _ _ | .run _ _ => True
  | .sequence span => span.coarse = false ∨ ∀ x ∈ r, x < 9007199254740992
  | .statistic s _ => s.ExactOn r

instance (s : Statistic) (r : Roll) : Decidable (s.ExactOn r) :=
  match s with
  | .sum | .average => inferInstanceAs (Decidable (Word.Holds r.pips))
  | .median => inferInstanceAs (Decidable (_ → _))
  | .minimum | .maximum => inferInstanceAs (Decidable True)
  | .mode => inferInstanceAs (Decidable r.Countable)

instance (t : Test) (r : Roll) : Decidable (t.ExactOn r) :=
  match t with
  | .each _ _ | .run _ _ => inferInstanceAs (Decidable True)
  | .sequence _ => inferInstanceAs (Decidable (_ ∨ _))
  | .statistic s _ => inferInstanceAs (Decidable (s.ExactOn r))

theorem Test.obstacle?_of_exactOn {t : Test} {r : Roll} (h : t.ExactOn r) :
    t.obstacle? r = t.layoutFault? 1 r.length := by
  cases t with
  | statistic s target =>
    cases s with
    | mode => exact obstacle?_of_countable _ h
    | _ => rfl
  | _ => rfl

end ExactOn

/-! ## §3 Targets -/

namespace Span

variable (s : Span) (c : Int)

theorem lowest_shift : (s.shift c).lowest = s.lowest + c := by
  simp only [lowest, shift]
  omega

theorem highest_shift : (s.shift c).highest = s.highest + c := by
  simp only [highest, shift]
  omega

theorem size_shift : (s.shift c).size = s.size := by
  rw [size, size, lowest_shift, highest_shift]
  omega

theorem layOut_shift [Memory] : (s.shift c).layOut = s.layOut := by
  funext rolls dice
  rw [layOut, layOut, size_shift]

theorem exactRow_shift (length : Nat) :
    (s.shift c).exactRow length = (s.exactRow length).map (· + c) := by
  have hclimb : (s.shift c).climb length = (s.climb length).map (· + c) := by
    rw [climb, climb, List.map_map, lowest_shift]
    exact List.map_congr_left fun i _ => Int.add_right_comm _ _ _
  have hdescending : (s.shift c).descending = s.descending := by
    simp only [descending, shift, Int.add_lt_add_iff_right]
  rw [exactRow, exactRow, hclimb, hdescending]
  split
  · rw [List.map_reverse]
  · rfl

end Span

/-- A number and its target may be moved together. -/
theorem Target.hits_shift (t : Target) (c x : Int) : (t.shift c).hits (x + c) = t.hits x := by
  rw [Bool.eq_iff_iff, hits, hits]
  cases hcomparison : t.comparison <;>
    simp only [shift, hcomparison, Comparison.holds, Span.contains_iff, Span.lowest_shift,
      Span.highest_shift, beq_iff_eq, bne_iff_ne, decide_eq_true_eq, ne_eq] <;>
    omega

/-! ## §4 Statistics -/

namespace Roll

variable {r : Roll} {c : Int}

theorem length_shift (c : Int) (r : Roll) : (r.shift c).length = r.length :=
  List.length_map _

theorem shift_ne_nil (hr : r ≠ []) : r.shift c ≠ [] := by
  rwa [Ne, shift, List.map_eq_nil_iff]

theorem forall_mem_shift {P : Int → Prop} : (∀ x ∈ r.shift c, P x) ↔ ∀ x ∈ r, P (x + c) :=
  List.forall_mem_map

theorem pips_shift (c : Int) (r : Roll) : (r.shift c).pips = r.pips + r.length * c := by
  induction r with
  | nil => simp [shift, pips]
  | cons x r ih =>
    show x + c + pips (shift c r) = x + pips r + ((r.length + 1 : Nat) : Int) * c
    rw [ih, Int.natCast_add, Int.add_mul]
    omega

theorem average_shift (hr : r ≠ []) (h : Word.Holds r.pips) (h' : Word.Holds (r.shift c).pips) :
    (r.shift c).average = r.average + c := by
  have hlength : (r.length : Int) ≠ 0 := by
    have := List.length_pos_iff.mpr hr
    omega
  rw [average, average, total, total, Word.wrap_of_holds h, Word.wrap_of_holds h', pips_shift,
    length_shift, Int.mul_comm, Int.add_mul_ediv_right _ _ hlength]

theorem sorted_shift (c : Int) (r : Roll) : (r.shift c).sorted = r.sorted.map (· + c) :=
  (List.map_mergeSort fun a _ b _ => by simp).symm

theorem ranked_shift {i : Nat} (hi : i < r.length) :
    (r.shift c).ranked i = r.ranked i + c := by
  have hi' : i < r.sorted.length := by
    rwa [sorted, List.length_mergeSort]
  rw [ranked, ranked, sorted_shift, List.getD_eq_getElem?_getD, List.getD_eq_getElem?_getD,
    List.getElem?_map, List.getElem?_eq_getElem hi']
  rfl

theorem median_shift [Memory] (hr : r ≠ []) (h : Statistic.median.ExactOn r)
    (h' : Statistic.median.ExactOn (r.shift c)) : (r.shift c).median = r.median + c := by
  have hlength := List.length_pos_iff.mpr hr
  simp only [Statistic.ExactOn, length_shift] at h h'
  rw [median, median, length_shift]
  split
  · next heven =>
    -- both middle faces move, and half of that is left
    rw [Word.wrap_of_holds (h heven), Word.wrap_of_holds (h' heven), ranked_shift (by omega),
      ranked_shift (by omega)]
    omega
  · exact ranked_shift (by omega)

theorem minimum_shift (hr : r ≠ []) : (r.shift c).minimum = r.minimum + c := by
  refine eq_of_forall_lt_iff fun m => ?_
  have hbelow : m < r.minimum + c ↔ m - c < r.minimum := by omega
  rw [hbelow, lt_minimum_iff (shift_ne_nil hr), lt_minimum_iff hr, forall_mem_shift]
  exact forall₂_congr fun x _ => by omega

theorem maximum_shift (hr : r ≠ []) : (r.shift c).maximum = r.maximum + c := by
  refine eq_of_forall_gt_iff fun m => ?_
  have habove : r.maximum + c < m ↔ r.maximum < m - c := by omega
  rw [habove, maximum_lt_iff (shift_ne_nil hr), maximum_lt_iff hr, forall_mem_shift]
  exact forall₂_congr fun x _ => by omega

theorem count_shift (c x : Int) (r : Roll) : (r.shift c).count (x + c) = r.count x :=
  List.count_map_of_injective r _ (fun _ _ => (Int.add_left_inj c).mp) x

theorem IsLowestMode.shift {x : Int} (h : r.IsLowestMode x) (c : Int) :
    (r.shift c).IsLowestMode (x + c) := by
  -- every face is a moved one
  have hcount : ∀ y, (r.shift c).count y = r.count (y - c) := fun y => by
    rw [← count_shift c (y - c), Int.sub_add_cancel]
  refine ⟨List.mem_map_of_mem h.mem, fun y => ?_, fun y hne heq => ?_⟩
  · rw [count_shift, hcount]
    exact h.count_le (y - c)
  · rw [count_shift, hcount] at heq
    have := h.lt_of_count_eq (y - c) (by omega) heq
    omega

theorem mode_shift (hr : r ≠ []) : (r.shift c).mode = r.mode + c :=
  (isLowestMode_mode (shift_ne_nil hr)).unique ((isLowestMode_mode hr).shift c)

end Roll

/-- **Statistics move with the dice**: a sum once for each of them, any other statistic once. -/
theorem Statistic.ofRoll_shift [Memory] {s : Statistic} {r : Roll} {c : Int} (hr : r ≠ [])
    (h : s.ExactOn r) (h' : s.ExactOn (r.shift c)) :
    s.ofRoll (r.shift c) = (s.ofRoll r).map (· + s.move r.length c) := by
  cases s with
  | sum =>
    refine congrArg Except.ok ?_
    rw [Roll.total, Roll.total, Word.wrap_of_holds h, Word.wrap_of_holds h', Roll.pips_shift, move]
  | average => exact congrArg Except.ok (Roll.average_shift hr h h')
  | median => exact congrArg Except.ok (Roll.median_shift hr h h')
  | minimum => exact congrArg Except.ok (Roll.minimum_shift hr)
  | maximum => exact congrArg Except.ok (Roll.maximum_shift hr)
  | mode =>
    rw [Roll.ofRoll_mode h, Roll.ofRoll_mode h', Roll.mode_shift hr]
    rfl

/-! ## §5 Stretches and walks -/

namespace Roll

theorem stretchesFrom_map (p : Int → Bool) (f : Int → Int) (r : Roll) : ∀ run : Nat,
    stretchesFrom p run (r.map f) = stretchesFrom (p ∘ f) run r := by
  induction r with
  | nil => intro run; rw [List.map_nil, stretchesFrom_nil, stretchesFrom_nil]
  | cons x r ih =>
    intro run
    rw [List.map_cons, stretchesFrom_cons, stretchesFrom_cons, ih, ih]
    rfl

/-- Faces stand side by side in a roll where the moved faces stand in the moved one. -/
theorem infix_shift_iff {faces : List Int} {r : Roll} {c : Int} :
    faces.map (· + c) <:+: r.shift c ↔ faces <:+: r := by
  refine ⟨fun h => ?_, fun h => h.map (· + c)⟩
  have hback := h.map (· - c)
  simpa [shift, Function.comp_def] using hback

/-- A walk is laid out and found where the moved one is. -/
theorem scoreWalk_shift [Memory] {s : Span} {r : Roll} {c : Int} (h : (Test.sequence s).ExactOn r)
    (h' : (Test.sequence (s.shift c)).ExactOn (r.shift c)) :
    scoreWalk (s.shift c) (r.shift c) = scoreWalk s r := by
  rw [scoreWalk, scoreWalk, Span.layOut_shift, length_shift]
  cases hlength : s.layOut 1 r.length with
  | error fault => rfl
  | ok length =>
    show Except.ok (follows (s.shift c) length (r.shift c)) = .ok (follows s length r)
    refine congrArg Except.ok ?_
    have hrow := (Span.layOut_eq_ok_iff.mp hlength).1
    obtain rfl | ⟨hpos, hsize⟩ := Storage.eq_zero_or_of_rowLength s.size_pos hrow
    · rw [follows_zero, follows_zero]
    · have hsize' : ((s.shift c).size : Int) < 2305843009213693952 := by rwa [Span.size_shift]
      rw [Bool.eq_iff_iff, follows_iff_exactRow hsize hpos h, follows_iff_exactRow hsize' hpos h',
        Span.exactRow_shift, infix_shift_iff]

end Roll

/-! ## §6 Scores -/

section Scores

variable [Memory]

/-- A test lays out for the moved rolls what it lays out for the rolls. -/
theorem Test.layOut_shift (t : Test) (width : Nat) (c : Int) :
    (t.shift width c).layOut = t.layOut := by
  cases t with
  | sequence span =>
    funext rolls dice
    rw [shift, layOut, layOut, Span.layOut_shift]
  | _ => rfl

/-- A test decides the moved roll as it decided the roll. -/
theorem Test.score_shift {t : Test} {r : Roll} {c : Int} (hr : r ≠ []) (h : t.ExactOn r)
    (h' : (t.shift r.length c).ExactOn (r.shift c)) :
    (t.shift r.length c).score (r.shift c) = t.score r := by
  -- moved numbers meet the moved target where the numbers met the target
  have hhits : ∀ (target : Target) (d : Int), (target.shift d).hits ∘ (· + d) = target.hits :=
    fun target d => funext fun x => target.hits_shift d x
  cases t with
  | each quota target =>
    refine congrArg (fun n : Nat => Except.ok (quota.admits n)) ?_
    rw [Roll.shift, List.countP_map, hhits]
  | run quota target =>
    refine congrArg (fun ns : List Nat => Except.ok (ns.any fun n => quota.admits n)) ?_
    rw [Roll.stretches, Roll.stretches, Roll.shift, Roll.stretchesFrom_map, hhits]
  | sequence span => exact Roll.scoreWalk_shift h h'
  | statistic s target =>
    show (s.ofRoll (r.shift c)).map (target.shift (s.move r.length c)).hits =
      (s.ofRoll r).map target.hits
    rw [Statistic.ofRoll_shift hr h h', ← hhits target (s.move r.length c)]
    cases s.ofRoll r <;> rfl

/-- **Scores move with the dice.**  If all dice of a table are moved by the same number, a clause
whose value and range ends move along, in the case of a sum once for each of the dice, has the same
verdicts, as long as numbers are exact on both sides.  There are verdicts, unless the span of a
sequence cannot be laid out and compared with the windows of the table. -/
theorem RollTable.scores_move_with_the_dice {t u : RollTable} {c : Int}
    (h : u.rows = t.rows.map (Roll.shift c)) (clause : Clause)
    (ht : ∀ r ∈ t.rows, clause.test.ExactOn r)
    (hu : ∀ r ∈ u.rows, (clause.test.shift t.width c).ExactOn r) :
    u.score (clause.shift t.width c) = t.score clause ∧
      (clause.test.layoutFault? t.size t.width = none →
        ∃ verdicts, t.score clause = .ok verdicts) := by
  constructor
  · have hsize : u.size = t.size := by rw [size, size, h, List.length_map]
    have hwidth : u.width = t.width := by
      obtain ⟨r, hr⟩ := List.exists_mem_of_ne_nil t.rows t.rows_ne_nil
      rw [← t.length_of_mem r hr, ← Roll.length_shift (c := c)]
      exact (u.length_of_mem _ (h ▸ List.mem_map_of_mem hr)).symm
    have hlayout : (clause.shift t.width c).test.layOut = clause.test.layOut :=
      clause.test.layOut_shift t.width c
    have hrows : u.rows.mapM (clause.shift t.width c).score = t.rows.mapM clause.score := by
      rw [h] at hu ⊢
      refine mapM_eq_of_forall₂ (List.forall₂_map_left_iff.mpr (List.forall₂_same.mpr ?_))
      intro r hr
      have hexact := hu (r.shift c) (List.mem_map_of_mem hr)
      rw [← t.length_of_mem r hr] at hexact ⊢
      exact Test.score_shift (ne_nil_of_mem_rows hr) (ht r hr) hexact
    rw [score_eq_mapM, score_eq_mapM, hlayout, hsize, hwidth, hrows]
  · intro hlayout
    refine ⟨_, t.score_eq_ok hlayout fun r hr => ?_⟩
    rw [Test.obstacle?_of_exactOn (ht r hr), t.length_of_mem r hr]
    exact Test.layoutFault?_mono hlayout t.size_pos

end Scores

/-- Two rolls of two dice. -/
def pairsAbove : RollTable where
  width := 2
  rows := [[2, 3], [6, 1]]
  width_pos := Nat.two_pos
  rows_ne_nil := by decide
  length_of_mem := by decide
  holds_of_mem := by decide

/-- The same rolls with every die moved down by four. -/
def pairsAround : RollTable where
  width := 2
  rows := [[-2, -1], [2, -3]]
  width_pos := Nat.two_pos
  rows_ne_nil := by decide
  length_of_mem := by decide
  holds_of_mem := by decide

/-- Averages that are not whole are rounded down on both sides of nought. -/
theorem averages_move_below_nought :
    pairsAround.rows = pairsAbove.rows.map (Roll.shift (-4)) ∧
    (∀ r ∈ pairsAbove.rows, (Test.statistic .average ⟨.equals, 2, ⟨1, 1⟩⟩).ExactOn r) ∧
    (∀ r ∈ pairsAround.rows, (Test.statistic .average ⟨.equals, -2, ⟨-3, -3⟩⟩).ExactOn r) ∧
    pairsAround.score ⟨.d6, .first, .statistic .average ⟨.equals, -2, ⟨-3, -3⟩⟩⟩ =
      .ok [true, false] := by
  have habove : ∀ r ∈ pairsAbove.rows,
      (Test.statistic .average ⟨.equals, 2, ⟨1, 1⟩⟩).ExactOn r := by decide
  have haround : ∀ r ∈ pairsAround.rows,
      (Test.statistic .average ⟨.equals, -2, ⟨-3, -3⟩⟩).ExactOn r := by decide
  obtain ⟨hscores, -⟩ := RollTable.scores_move_with_the_dice (t := pairsAbove)
    (u := pairsAround) (c := -4) (by decide)
    ⟨.d6, .first, .statistic .average ⟨.equals, 2, ⟨1, 1⟩⟩⟩ habove haround
  exact ⟨by decide, habove, haround, hscores.trans rfl⟩

/-- Far up the limits are in the way, although all faces are words that are not below nought: the
counters of a moved face cannot be stored, and a moved span is taken for its neighbour. -/
theorem limits_do_not_move :
    (¬∀ (target : Target) (r : Roll) (c : Int), r ≠ [] →
      (∀ x ∈ r, 0 ≤ x ∧ Word.Holds x) → (∀ x ∈ r.shift c, 0 ≤ x ∧ Word.Holds x) →
      ((Test.statistic .mode target).shift r.length c).score (r.shift c) =
        (Test.statistic .mode target).score r) ∧
    ¬∀ (span : Span) (r : Roll) (c : Int), r ≠ [] →
      (∀ x ∈ span.lower :: span.upper :: r, 0 ≤ x ∧ Word.Holds x) →
      (∀ x ∈ (span.shift c).lower :: (span.shift c).upper :: r.shift c, 0 ≤ x ∧ Word.Holds x) →
      ((Test.sequence span).shift r.length c).score (r.shift c) =
        (Test.sequence span).score r := by
  constructor
  · intro h
    have hmoved := h ⟨.equals, 1, ⟨1, 1⟩⟩ [1] 4611686018427387904 (by decide) (by decide)
      (by decide)
    have hfault : ((Test.statistic .mode ⟨.equals, 1, ⟨1, 1⟩⟩).shift 1 4611686018427387904).score
        (Roll.shift 4611686018427387904 [1]) = .error .tableTooLarge := rfl
    rw [List.length_singleton, hfault, Test.score_eq_ok rfl] at hmoved
    cases hmoved
  · intro h
    have hmoved := h ⟨2, 2⟩ [1] 9223372036854775805 (by decide) (by decide) (by decide)
    have hscore : (Test.sequence ⟨2, 2⟩).score [1] = .ok false := rfl
    have hfound : ((Test.sequence ⟨2, 2⟩).shift 1 9223372036854775805).score
        (Roll.shift 9223372036854775805 [1]) = .ok true := by decide +kernel
    rw [List.length_singleton, hfound, hscore] at hmoved
    cases hmoved

end DiceOdds
