import DiceOdds.Chain
import DiceOdds.Proofs.Storage
import DiceOdds.Proofs.Traversal

/-!
# What Keeps a Roll from Being Decided

Deciding rolls fails for two reasons only.  A sequence lays out the walk of its span in a row
and compares it with the windows of all rolls, for which there may be no room whatever the faces
are.  A mode counts the faces of a roll in a row of counters, which needs faces that can be
counted.

A roll is *countable* if no face is below nought and none is so large that its counters
cannot be stored (`uncountable?_eq_none_iff`).  On countable rolls only the span and the shape of
the table matter, and so the fault of a test does not depend on the rolls
(`obstacle?_of_countable`).  As long as the windows of the whole table fit, it does not depend on
the number of rolls either (`layoutFault?_of_windowsFit`).
-/

namespace DiceOdds

/-! ## §1 Countable rolls -/

namespace Roll

private theorem foldl_max_lt_iff {m : Int} {xs : List Int} : ∀ {x : Int},
    xs.foldl max x < m ↔ x < m ∧ ∀ y ∈ xs, y < m := by
  induction xs with
  | nil => simp
  | cons y xs ih =>
    intro x
    rw [List.foldl_cons, ih, Int.max_lt, List.forall_mem_cons, and_assoc]

theorem maximum_lt_iff {r : Roll} (h : r ≠ []) {m : Int} : r.maximum < m ↔ ∀ x ∈ r, x < m := by
  obtain ⟨x, xs, rfl⟩ := List.exists_cons_of_ne_nil h
  rw [List.forall_mem_cons]
  exact foldl_max_lt_iff

private theorem lt_foldl_min_iff {m : Int} {xs : List Int} : ∀ {x : Int},
    m < xs.foldl min x ↔ m < x ∧ ∀ y ∈ xs, m < y := by
  induction xs with
  | nil => simp
  | cons y xs ih =>
    intro x
    rw [List.foldl_cons, ih, Int.lt_min, List.forall_mem_cons, and_assoc]

theorem lt_minimum_iff {r : Roll} (h : r ≠ []) {m : Int} : m < r.minimum ↔ ∀ x ∈ r, m < x := by
  obtain ⟨x, xs, rfl⟩ := List.exists_cons_of_ne_nil h
  rw [List.forall_mem_cons]
  exact lt_foldl_min_iff

end Roll

variable [Memory]

/-- No face is below nought, and the counters up to each face can be stored. -/
def Roll.Countable (r : Roll) : Prop := ∀ x ∈ r, 0 ≤ x ∧ x + 1 < Memory.room

instance (r : Roll) : Decidable r.Countable :=
  inferInstanceAs (Decidable (∀ x ∈ r, 0 ≤ x ∧ x + 1 < Memory.room))

theorem Roll.uncountable?_eq_none_iff {r : Roll} : r.uncountable? = none ↔ r.Countable := by
  unfold uncountable? Countable
  by_cases hneg : r.any (· < 0) = true
  · rw [if_pos hneg]
    obtain ⟨x, hx, hlt⟩ := List.any_eq_true.mp hneg
    have hlt' : x < 0 := by simpa using hlt
    constructor
    · intro h
      cases h
    · intro h
      have := (h x hx).1
      omega
  · rw [if_neg hneg, Storage.obstacle?_singleton_eq_none_iff]
    have hpos : ∀ x ∈ r, 0 ≤ x := by simpa using hneg
    cases r with
    | nil =>
      constructor
      · intro _ x hx
        cases hx
      · intro _
        have := Memory.settings_lt_room
        show (0 : Int) + 1 < Memory.room
        omega
    | cons y r =>
      -- the row of counters reaches to the largest face
      have hmax := maximum_lt_iff (List.cons_ne_nil y r) (m := Memory.room - 1)
      constructor
      · intro h x hx
        have := hmax.mp (by omega) x hx
        exact ⟨hpos x hx, by omega⟩
      · intro h
        have := hmax.mpr fun x hx => by have := (h x hx).2; omega
        omega

theorem Roll.faultOf_mode (r : Roll) : faultOf (Statistic.mode.ofRoll r) = r.uncountable? := by
  rw [Statistic.ofRoll]
  cases r.uncountable? <;> rfl

theorem Roll.ofRoll_mode {r : Roll} (h : r.Countable) : Statistic.mode.ofRoll r = .ok r.mode := by
  rw [Statistic.ofRoll, uncountable?_eq_none_iff.mpr h]

/-- Only a mode asks for a roll that can be counted. -/
theorem Statistic.exists_ofRoll {s : Statistic} {r : Roll} (h : s = .mode → r.Countable) :
    ∃ x, s.ofRoll r = .ok x := by
  cases s with
  | mode => exact ⟨r.mode, Roll.ofRoll_mode (h rfl)⟩
  | _ => exact ⟨_, rfl⟩

/-! ## §2 Rows and windows -/

namespace Span

/-- The row of a span, if it is laid out at all, can be compared with all windows of so many rolls
of so many dice. -/
def WindowsFit (s : Span) (rolls dice : Nat) : Prop :=
  ∀ length, Storage.rowLength s.size = .ok length → Storage.WindowsFit rolls dice length

theorem layOut_eq_ok_iff {s : Span} {rolls dice length : Nat} :
    s.layOut rolls dice = .ok length ↔
      Storage.rowLength s.size = .ok length ∧ Storage.WindowsFit rolls dice length := by
  rw [← Storage.requireWindows_eq_ok_iff, layOut]
  cases Storage.rowLength s.size with
  | error f => simp [bind, Except.bind]
  | ok n =>
    cases hwindows : Storage.requireWindows rolls dice n with
    | error f =>
      simp only [bind, Except.bind, hwindows, Except.ok.injEq]
      constructor
      · intro h
        cases h
      · rintro ⟨rfl, h⟩
        rw [hwindows] at h
        cases h
    | ok u =>
      simp only [bind, Except.bind, hwindows, Except.ok.injEq]
      constructor
      · intro h
        cases h
        exact ⟨rfl, hwindows⟩
      · rintro ⟨rfl, -⟩
        rfl

/-- Where the windows fit, only the row can be in the way. -/
theorem faultOf_layOut {s : Span} {rolls dice : Nat} (h : s.WindowsFit rolls dice) :
    faultOf (s.layOut rolls dice) = faultOf (Storage.rowLength s.size) := by
  cases hlength : Storage.rowLength s.size with
  | error f =>
    rw [layOut, hlength]
    rfl
  | ok length => rw [layOut_eq_ok_iff.mpr ⟨hlength, h length hlength⟩]

theorem faultOf_layOut_ne_rejected (s : Span) (rolls dice : Nat) (reason : Rejection) :
    faultOf (s.layOut rolls dice) ≠ some (.rejected reason) := by
  have hrow := Storage.faultOf_rowLength_ne_rejected s.size reason
  rw [layOut]
  cases hlength : Storage.rowLength s.size with
  | error f => rwa [hlength] at hrow
  | ok length =>
    have hwindows := Storage.faultOf_requireWindows_ne_rejected rolls dice length reason
    show faultOf ((Storage.requireWindows rolls dice length).bind fun _ => .ok length) ≠ _
    rwa [faultOf_bind_const, show faultOf (Except.ok (ε := Fault) length) = none from rfl,
      Option.or_none]

end Span

/-! ## §3 Tests -/

namespace Test

/-- What keeps a test from being tried on so many rolls of so many dice, whatever they show. -/
def layoutFault? (t : Test) (rolls dice : Nat) : Option Fault := faultOf (t.layOut rolls dice)

/-- What keeps a test from being tried on any roll. -/
def rowFault? : Test → Option Fault
  | .sequence span => faultOf (Storage.rowLength span.size)
  | _ => none

/-- What a test lays out can be compared with all windows of so many rolls of so many dice. -/
def WindowsFit (t : Test) (rolls dice : Nat) : Prop :=
  match t with
  | .sequence span => span.WindowsFit rolls dice
  | _ => True

/-- What keeps a test from deciding a roll on its own. -/
def obstacle? (t : Test) (r : Roll) : Option Fault :=
  match t with
  | .statistic .mode _ => r.uncountable?
  | t => t.layoutFault? 1 r.length

theorem exists_layOut_of_layoutFault? {span : Span} {rolls dice : Nat}
    (h : (sequence span).layoutFault? rolls dice = none) :
    ∃ length, span.layOut rolls dice = .ok length :=
  faultOf_eq_none_iff.mp ((faultOf_map _ _).symm.trans h)

/-- Where the windows fit, only the row of a sequence can be in the way. -/
theorem layoutFault?_of_windowsFit {t : Test} {rolls dice : Nat} (h : t.WindowsFit rolls dice) :
    t.layoutFault? rolls dice = t.rowFault? := by
  cases t with
  | sequence span => exact (faultOf_map _ _).trans (Span.faultOf_layOut h)
  | _ => rfl

theorem layoutFault?_eq_none_iff {t : Test} {rolls dice : Nat} :
    t.layoutFault? rolls dice = none ↔ t.rowFault? = none ∧ t.WindowsFit rolls dice := by
  cases t with
  | sequence span =>
    refine ⟨fun h => ?_, fun h => (layoutFault?_of_windowsFit h.2).trans h.1⟩
    obtain ⟨length, hlength⟩ := exists_layOut_of_layoutFault? h
    obtain ⟨hrow, hwindows⟩ := Span.layOut_eq_ok_iff.mp hlength
    refine ⟨faultOf_eq_none_iff.mpr ⟨length, hrow⟩, fun length' hrow' => ?_⟩
    rw [hrow] at hrow'
    cases hrow'
    exact hwindows
  | _ => simp [layoutFault?, layOut, faultOf, rowFault?, WindowsFit]

/-- The windows of fewer rolls fit if those of more rolls do. -/
theorem WindowsFit.mono {t : Test} {m n dice : Nat} (h : t.WindowsFit n dice) (hmn : m ≤ n) :
    t.WindowsFit m dice := by
  cases t with
  | sequence span => exact fun length hlength => (h length hlength).mono hmn
  | _ => trivial

/-- A test that can be tried on the rolls of a table can be tried on each of them. -/
theorem layoutFault?_mono {t : Test} {m n dice : Nat} (h : t.layoutFault? n dice = none)
    (hmn : m ≤ n) : t.layoutFault? m dice = none := by
  rw [layoutFault?_eq_none_iff] at h ⊢
  exact ⟨h.1, h.2.mono hmn⟩

theorem layoutFault?_ne_rejected (t : Test) (rolls dice : Nat) (reason : Rejection) :
    t.layoutFault? rolls dice ≠ some (.rejected reason) := by
  cases t with
  | sequence span =>
    rw [layoutFault?, layOut, faultOf_map]
    exact span.faultOf_layOut_ne_rejected rolls dice reason
  | _ => simp [layoutFault?, layOut, faultOf]

theorem faultOf_score (t : Test) (r : Roll) : faultOf (t.score r) = t.obstacle? r := by
  cases t with
  | each quota target => rfl
  | run quota target => rfl
  | sequence span =>
    show faultOf ((span.layOut 1 r.length).map _) = faultOf ((span.layOut 1 r.length).map _)
    rw [faultOf_map, faultOf_map]
  | statistic s target =>
    refine (faultOf_map _ _).trans ?_
    cases s with
    | mode => exact r.faultOf_mode -- the only statistic that can fail
    | _ => rfl

/-- Deciding a roll on its own begins with what has to be laid out for one roll. -/
theorem layOut_bind_score (t : Test) (r : Roll) :
    ((t.layOut 1 r.length).bind fun _ => t.score r) = t.score r := by
  cases t with
  | sequence span =>
    simp only [layOut, score, Roll.scoreWalk]
    cases span.layOut 1 r.length <;> rfl
  | _ => rfl

/-- Whether a test accepts a roll.  A roll that it cannot decide is not accepted. -/
def accepts (t : Test) (r : Roll) : Bool :=
  match t.score r with
  | .ok b => b
  | .error _ => false

/-- Without an obstacle a test decides. -/
theorem score_eq_ok {t : Test} {r : Roll} (h : t.obstacle? r = none) :
    t.score r = .ok (t.accepts r) := by
  rw [← faultOf_score, faultOf_eq_none_iff] at h
  obtain ⟨b, hb⟩ := h
  rw [accepts, hb]

/-- What is laid out is part of what keeps a test from deciding a roll. -/
theorem layoutFault?_or_obstacle? (t : Test) (r : Roll) :
    (t.layoutFault? 1 r.length).or (t.obstacle? r) = t.obstacle? r := by
  cases t with
  | sequence span =>
    show (layoutFault? (sequence span) 1 r.length).or (layoutFault? (sequence span) 1 r.length) = _
    rw [Option.or_self]
    rfl
  | _ => rfl

/-- On a countable roll only the span of a sequence can be in the way. -/
theorem obstacle?_of_countable (t : Test) {r : Roll} (h : r.Countable) :
    t.obstacle? r = t.layoutFault? 1 r.length := by
  cases t with
  | statistic s target =>
    cases s with
    | mode => exact Roll.uncountable?_eq_none_iff.mpr h
    | _ => rfl
  | _ => rfl

/-- What keeps a test from deciding a roll is no rejection. -/
theorem obstacle?_ne_rejected (t : Test) (r : Roll) (reason : Rejection) :
    t.obstacle? r ≠ some (.rejected reason) := by
  unfold obstacle?
  split
  · unfold Roll.uncountable?
    split
    · simp
    · exact Storage.obstacle?_ne_rejected _ _
  · exact layoutFault?_ne_rejected _ _ _ _

/-- A test that fails on a roll is a sequence that cannot be laid out, or a mode on a roll
that cannot be counted. -/
theorem obstacle?_isSome_iff (t : Test) (r : Roll) : (t.obstacle? r).isSome ↔
    (t.layoutFault? 1 r.length).isSome ∨ (∃ target, t = .statistic .mode target) ∧
      ¬r.Countable := by
  cases t with
  | statistic s target =>
    cases s with
    | mode =>
      rw [← Roll.uncountable?_eq_none_iff]
      simp [obstacle?, layoutFault?, layOut, faultOf, Option.isSome_iff_ne_none]
    | _ => simp [obstacle?]
  | _ => simp [obstacle?]

end Test

namespace RollTable

variable {t : RollTable}

/-- What keeps a test from deciding the rolls of a table: it cannot be tried on so many rolls, or
it meets an obstacle on one of them. -/
def testObstacle? (t : RollTable) (test : Test) : Option Fault :=
  (test.layoutFault? t.size t.width).or (t.rows.findSome? test.obstacle?)

theorem faultOf_score (t : RollTable) (c : Clause) :
    faultOf (t.score c) = t.testObstacle? c.test := by
  rw [score_eq_mapM, faultOf_bind_const, faultOf_mapM]
  exact congrArg (fun f => (c.test.layoutFault? t.size t.width).or (t.rows.findSome? f))
    (funext fun r => c.test.faultOf_score r)

theorem testObstacle?_eq_none_iff {test : Test} : t.testObstacle? test = none ↔
    test.layoutFault? t.size t.width = none ∧ ∀ r ∈ t.rows, test.obstacle? r = none := by
  rw [testObstacle?, Option.or_eq_none_iff, List.findSome?_eq_none_iff]

/-- A test that can be tried on a table of countable rolls decides them. -/
theorem testObstacle?_of_countable (test : Test) (h : ∀ r ∈ t.rows, r.Countable) :
    t.testObstacle? test = test.layoutFault? t.size t.width := by
  unfold testObstacle?
  cases hlayout : test.layoutFault? t.size t.width with
  | some f => rfl
  | none =>
    rw [Option.none_or, List.findSome?_eq_none_iff]
    intro r hr
    rw [test.obstacle?_of_countable (h r hr), t.length_of_mem r hr]
    exact Test.layoutFault?_mono hlayout t.size_pos

/-- A test that fails on a table is a sequence that cannot be laid out, or a mode on a roll that
cannot be counted. -/
theorem isSome_testObstacle?_iff (t : RollTable) (test : Test) : (t.testObstacle? test).isSome ↔
    (test.layoutFault? t.size t.width).isSome ∨ (∃ target, test = .statistic .mode target) ∧
      ∃ r ∈ t.rows, ¬r.Countable := by
  unfold testObstacle?
  rw [Option.isSome_or, Bool.or_eq_true, List.findSome?_isSome_iff]
  simp only [Test.obstacle?_isSome_iff]
  constructor
  · rintro (hlayout | ⟨r, hr, hlayout | ⟨hmode, hcount⟩⟩)
    · exact .inl hlayout
    · -- what is too much for one roll is too much for all of them
      left
      rw [t.length_of_mem r hr] at hlayout
      rw [Option.isSome_iff_ne_none] at hlayout ⊢
      exact fun hnone => hlayout (Test.layoutFault?_mono hnone t.size_pos)
    · exact .inr ⟨hmode, r, hr, hcount⟩
  · rintro (hlayout | ⟨hmode, r, hr, hcount⟩)
    · exact .inl hlayout
    · exact .inr ⟨r, hr, .inr ⟨hmode, hcount⟩⟩

/-- A test that lays nothing out, or has laid it out, decides the rolls one by one. -/
theorem score_of_layOut {c : Clause} (h : c.test.layOut t.size t.width = .ok ()) :
    t.score c = t.rows.mapM c.score := by
  rw [score_eq_mapM, h]
  rfl

/-- Scores are the scores of the single rolls. -/
theorem score_eq_ok_iff {c : Clause} {scores : List Bool} : t.score c = .ok scores ↔
    c.test.layoutFault? t.size t.width = none ∧
      List.Forall₂ (fun r b => c.score r = .ok b) t.rows scores := by
  rw [score_eq_mapM, ← mapM_eq_ok_iff, Test.layoutFault?]
  cases c.test.layOut t.size t.width with
  | error f => simp [Except.bind, faultOf]
  | ok u => simp [Except.bind, faultOf]

/-- A clause that meets no obstacle decides every roll of the table. -/
theorem score_eq_ok {c : Clause} (hlayout : c.test.layoutFault? t.size t.width = none)
    (h : ∀ r ∈ t.rows, c.test.obstacle? r = none) :
    t.score c = .ok (t.rows.map c.test.accepts) := by
  refine score_eq_ok_iff.mpr ⟨hlayout, ?_⟩
  rw [List.forall₂_map_right_iff, List.forall₂_same]
  exact fun r hr => Test.score_eq_ok (h r hr)

end RollTable

/-! ## §4 Chains -/

/-- What keeps clauses from deciding a roll: the first obstacle of the first clause that meets
one. -/
def Roll.obstacle? (cs : List Clause) (r : Roll) : Option Fault :=
  cs.findSome? fun c => c.test.obstacle? r

/-- What keeps clauses from deciding all rolls of a table: the first obstacle of the first
clause that meets one. -/
def RollTable.obstacle? (t : RollTable) (cs : List Clause) : Option Fault :=
  cs.findSome? fun c => t.testObstacle? c.test

theorem Roll.faultOf_scores (cs : List Clause) (r : Roll) :
    faultOf (cs.mapM fun c => c.score r) = obstacle? cs r := by
  rw [faultOf_mapM]
  exact congrArg (List.findSome? · cs) (funext fun c => c.test.faultOf_score r)

theorem RollTable.faultOf_scores (t : RollTable) (cs : List Clause) :
    faultOf (cs.mapM t.score) = t.obstacle? cs := by
  rw [faultOf_mapM]
  exact congrArg (List.findSome? · cs) (funext t.faultOf_score)

theorem Roll.obstacle?_eq_none_iff {cs : List Clause} {r : Roll} :
    obstacle? cs r = none ↔ ∀ c ∈ cs, c.test.obstacle? r = none :=
  List.findSome?_eq_none_iff

/-- A table can be decided if each of its rolls can, and if there is room for all of them. -/
theorem RollTable.obstacle?_eq_none_iff {t : RollTable} {cs : List Clause} :
    t.obstacle? cs = none ↔ (∀ c ∈ cs, c.test.WindowsFit t.size t.width) ∧
      ∀ r ∈ t.rows, Roll.obstacle? cs r = none := by
  simp only [obstacle?, Roll.obstacle?, List.findSome?_eq_none_iff, testObstacle?_eq_none_iff]
  constructor
  · intro h
    exact ⟨fun c hc => (Test.layoutFault?_eq_none_iff.mp (h c hc).1).2,
      fun r hr c hc => (h c hc).2 r hr⟩
  · rintro ⟨hwindows, hrolls⟩ c hc
    refine ⟨?_, fun r hr => hrolls r hr c hc⟩
    -- the row is laid out for some roll, and a table has one
    obtain ⟨r, hr⟩ := List.exists_mem_of_ne_nil t.rows t.rows_ne_nil
    rw [Test.layoutFault?_of_windowsFit (hwindows c hc)]
    have hroll := hrolls r hr c hc
    cases htest : c.test with
    | sequence span =>
      rw [htest] at hroll
      exact (Test.layoutFault?_eq_none_iff.mp hroll).1
    | _ => rfl

theorem RollTable.obstacle?_ne_rejected (t : RollTable) (cs : List Clause) (reason : Rejection) :
    t.obstacle? cs ≠ some (.rejected reason) := by
  intro h
  obtain ⟨c, -, hc⟩ := List.exists_of_findSome?_eq_some h
  rw [testObstacle?, Option.or_eq_some_iff] at hc
  rcases hc with hlayout | ⟨-, hrolls⟩
  · exact c.test.layoutFault?_ne_rejected _ _ reason hlayout
  · obtain ⟨r, -, hr⟩ := List.exists_of_findSome?_eq_some hrolls
    exact c.test.obstacle?_ne_rejected r reason hr

theorem RollTable.isSome_obstacle?_iff {t : RollTable} {cs : List Clause} :
    (t.obstacle? cs).isSome ↔ ∃ c ∈ cs, (t.testObstacle? c.test).isSome := by
  simp [obstacle?, List.isSome_findSome?]

theorem Roll.obstacle?_of_countable (cs : List Clause) {r : Roll} (h : r.Countable) :
    obstacle? cs r = cs.findSome? fun c => c.test.layoutFault? 1 r.length :=
  congrArg (List.findSome? · cs) (funext fun c => c.test.obstacle?_of_countable h)

/-- On countable rolls a table is decided if there is room for it. -/
theorem RollTable.obstacle?_of_countable {t : RollTable} (cs : List Clause)
    (h : ∀ r ∈ t.rows, r.Countable) :
    t.obstacle? cs = cs.findSome? fun c => c.test.layoutFault? t.size t.width :=
  congrArg (List.findSome? · cs) (funext fun c => t.testObstacle?_of_countable c.test h)

end DiceOdds
