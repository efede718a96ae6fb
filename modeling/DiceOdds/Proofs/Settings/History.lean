import DiceOdds.Settings.Cache
import Mathlib.Data.List.Induction

/-!
# Settings Over Time

A cache goes through a history of actions: its environment changes, what it keeps is dropped, or it
is read.  What it keeps is older than that history only as far as the last reset: it comes from the
first reading since then that succeeded (`kept_after_eq_some_iff`), and nothing but a reset takes it
away again (`kept_foldl_act`).  So a reading answers what the environment of that first reading
describes (`answer_eq_ok_iff`), and one that fails tells what is wrong with the environment of the
moment and changes nothing (`answer_eq_error_iff`).
-/

namespace DiceOdds.Settings.Cache

variable {c : Cache} {cfg : Settings} {complaints : List Complaint}

/-! ## §1 Readings -/

/-- Kept settings are answered, whatever the environment has become. -/
theorem read_of_kept (h : c.kept = some cfg) : c.read = (.ok cfg, c) := by
  rw [read, h]

theorem read_of_valid (hkept : c.kept = none) (h : c.environment.settings = .ok cfg) :
    c.read = (.ok cfg, { c with kept := some cfg }) := by
  rw [read, hkept]
  simp only [h]

/-- A reading that fails leaves the cache as it was. -/
theorem read_of_invalid (hkept : c.kept = none) (h : c.environment.settings = .error complaints) :
    c.read = (.error complaints, c) := by
  rw [read, hkept]
  simp only [h]

/-- A reading answers what is kept afterwards. -/
theorem kept_read_eq_some_iff : c.read.2.kept = some cfg ↔ c.read.1 = .ok cfg := by
  cases hkept : c.kept with
  | some cfg' => simp [read_of_kept hkept, hkept]
  | none =>
    cases hsettings : c.environment.settings with
    | ok cfg' => simp [read_of_valid hkept hsettings]
    | error complaints => simp [read_of_invalid hkept hsettings, hkept]

/-- Settings that have been read are kept, and read again as they are. -/
theorem read_again (h : c.read.1 = .ok cfg) : c.read.2.read = (.ok cfg, c.read.2) :=
  read_of_kept (kept_read_eq_some_iff.mpr h)

@[simp] theorem environment_read (c : Cache) : c.read.2.environment = c.environment := by
  cases hkept : c.kept with
  | some cfg => rw [read_of_kept hkept]
  | none =>
    cases hsettings : c.environment.settings with
    | ok cfg => rw [read_of_valid hkept hsettings]
    | error complaints => rw [read_of_invalid hkept hsettings]

/-! ## §2 Histories -/

/-- What can happen to a cache. -/
inductive Action where
  /-- The environment becomes another one. -/
  | change (environment : Environment)
  | reset
  | read

/-- The environment that an action brings. -/
def Action.environment? : Action → Option Environment
  | .change e => some e
  | _ => none

/-- The cache after an action. -/
def act (c : Cache) : Action → Cache
  | .change e => c.setEnvironment e
  | .reset => c.reset
  | .read => c.read.2

/-- The cache after a history that begins in an environment, with nothing kept. -/
def after (e : Environment) (h : List Action) : Cache := h.foldl act { environment := e }

/-- What a reading answers after a history. -/
def answer (e : Environment) (h : List Action) : Except (List Complaint) Settings :=
  (after e h).read.1

/-- The last environment of a history. -/
def environmentAfter (e : Environment) (h : List Action) : Environment :=
  (h.reverse.findSome? Action.environment?).getD e

variable {e : Environment} {h : List Action}

@[simp] theorem after_concat (e : Environment) (h : List Action) (a : Action) :
    after e (h ++ [a]) = (after e h).act a := by
  rw [after, List.foldl_append]
  rfl

theorem environment_after (e : Environment) (h : List Action) :
    (after e h).environment = environmentAfter e h := by
  induction h using List.reverseRecOn with
  | nil => rfl
  | append_singleton h a ih =>
    rw [after_concat, environmentAfter, List.reverse_concat, List.findSome?_cons]
    cases a with
    | change e' => rfl
    | reset => exact ih
    | read => exact (environment_read _).trans ih

/-! ## §3 What is kept -/

/-- Kept settings stay until the next reset. -/
theorem kept_foldl_act (hkept : c.kept = some cfg) {later : List Action}
    (hlater : .reset ∉ later) : (later.foldl act c).kept = some cfg := by
  induction later generalizing c with
  | nil => exact hkept
  | cons a later ih =>
    obtain ⟨hne, hrest⟩ := List.ne_and_not_mem_of_not_mem_cons hlater
    refine ih ?_ hrest
    cases a with
    | change e' => exact hkept
    | reset => exact absurd rfl hne
    | read => rw [act, read_of_kept hkept]; exact hkept

/-- What a successful reading answers is kept until the next reset. -/
theorem kept_after_of_answer {earlier later : List Action} (h : answer e earlier = .ok cfg)
    (hlater : .reset ∉ later) : (after e (earlier ++ .read :: later)).kept = some cfg := by
  rw [after, List.foldl_append]
  exact kept_foldl_act (kept_read_eq_some_iff.mpr h) hlater

/-- What is kept was read in the environment of its time, when nothing was kept yet, and there has
been no reset since. -/
theorem exists_read_of_kept (hkept : (after e h).kept = some cfg) :
    ∃ before since, h = before ++ .read :: since ∧ .reset ∉ since ∧
      (after e before).kept = none ∧ (environmentAfter e before).settings = .ok cfg := by
  -- backwards through the history, to the action that made the cache keep something
  induction h using List.reverseRecOn with
  | nil => cases hkept
  | append_singleton h a ih =>
    rw [after_concat] at hkept
    have hearlier : a ≠ .reset → (after e h).kept = some cfg → ∃ before since,
        h ++ [a] = before ++ .read :: since ∧ .reset ∉ since ∧
          (after e before).kept = none ∧ (environmentAfter e before).settings = .ok cfg := by
      intro hreset hkept
      obtain ⟨before, since, rfl, hsince, hnone, hsettings⟩ := ih hkept
      refine ⟨before, since ++ [a], by simp, ?_, hnone, hsettings⟩
      simpa [hsince] using hreset.symm
    cases a with
    | change e' => exact hearlier (by simp) hkept
    | reset => cases hkept
    | read =>
      cases hold : (after e h).kept with
      | some cfg' =>
        rw [act, read_of_kept hold] at hkept
        exact hearlier (by simp) hkept
      | none =>
        cases hsettings : (after e h).environment.settings with
        | ok cfg' =>
          rw [act, read_of_valid hold hsettings] at hkept
          cases hkept
          exact ⟨h, [], rfl, by simp, hold, by rw [← environment_after, hsettings]⟩
        | error complaints =>
          rw [act, read_of_invalid hold hsettings, hold] at hkept
          cases hkept

/-- Every reading since the last reset has failed. -/
def NoneSucceeded (e : Environment) (h : List Action) : Prop :=
  ∀ earlier later, h = earlier ++ .read :: later → .reset ∉ later →
    ∃ complaints, answer e earlier = .error complaints

theorem kept_after_eq_none_iff : (after e h).kept = none ↔ NoneSucceeded e h := by
  constructor
  · rintro hnone earlier later rfl hlater
    cases hanswer : answer e earlier with
    | error complaints => exact ⟨complaints, rfl⟩
    | ok cfg =>
      rw [kept_after_of_answer hanswer hlater] at hnone
      cases hnone
  · intro hfailed
    cases hkept : (after e h).kept with
    | none => rfl
    | some cfg =>
      -- the reading that it was kept by did not fail
      obtain ⟨before, since, heq, hsince, hnone, hsettings⟩ := exists_read_of_kept hkept
      obtain ⟨complaints, hanswer⟩ := hfailed before since heq hsince
      rw [← environment_after] at hsettings
      rw [answer, read_of_valid hnone hsettings] at hanswer
      cases hanswer

/-- The first successful reading of a history since its last reset, which took place after
`before`. -/
structure FirstReading (e : Environment) (h before : List Action) : Prop where
  no_reset : ∃ since, h = before ++ .read :: since ∧ .reset ∉ since
  succeeded : ∃ cfg, answer e before = .ok cfg
  first : NoneSucceeded e before

theorem FirstReading.settings_eq {before : List Action} (hfirst : FirstReading e h before) :
    ∃ cfg, answer e before = .ok cfg ∧ (environmentAfter e before).settings = .ok cfg := by
  obtain ⟨cfg, hanswer⟩ := hfirst.succeeded
  have hnone := kept_after_eq_none_iff.mpr hfirst.first
  refine ⟨cfg, hanswer, ?_⟩
  rw [← environment_after]
  cases hsettings : (after e before).environment.settings with
  | ok cfg' =>
    rw [answer, read_of_valid hnone hsettings] at hanswer
    exact hanswer
  | error complaints =>
    rw [answer, read_of_invalid hnone hsettings] at hanswer
    cases hanswer

/-- **What a cache keeps** comes from the first successful reading since the last reset. -/
theorem kept_after_eq_some_iff : (after e h).kept = some cfg ↔
    ∃ before, FirstReading e h before ∧ (environmentAfter e before).settings = .ok cfg := by
  constructor
  · intro hkept
    obtain ⟨before, since, heq, hsince, hnone, hsettings⟩ := exists_read_of_kept hkept
    refine ⟨before, ⟨⟨since, heq, hsince⟩, ⟨cfg, ?_⟩, kept_after_eq_none_iff.mp hnone⟩, hsettings⟩
    rw [answer, read_of_valid hnone (by rwa [environment_after])]
  · rintro ⟨before, hfirst, hsettings⟩
    obtain ⟨cfg', hanswer, hsettings'⟩ := hfirst.settings_eq
    obtain ⟨since, rfl, hsince⟩ := hfirst.no_reset
    cases hsettings.symm.trans hsettings'
    exact kept_after_of_answer hanswer hsince

/-! ## §4 What is answered -/

/-- A reading answers what the environment described at the first successful reading since the last
reset, which may be this one. -/
theorem answer_eq_ok_iff : answer e h = .ok cfg ↔
    ∃ before, FirstReading e (h ++ [.read]) before ∧
      (environmentAfter e before).settings = .ok cfg := by
  rw [← kept_after_eq_some_iff, after_concat]
  exact kept_read_eq_some_iff.symm

/-- A reading fails if all have since the last reset, and the environment is still invalid. -/
theorem answer_eq_error_iff : answer e h = .error complaints ↔
    NoneSucceeded e h ∧ (environmentAfter e h).settings = .error complaints := by
  rw [← kept_after_eq_none_iff, ← environment_after, answer]
  cases hkept : (after e h).kept with
  | some cfg => simp [read_of_kept hkept]
  | none =>
    cases hsettings : (after e h).environment.settings with
    | ok cfg => simp [read_of_valid hkept hsettings]
    | error complaints' => simp [read_of_invalid hkept hsettings]

/-- A reading that fails changes nothing. -/
theorem after_concat_read_of_error (hanswer : answer e h = .error complaints) :
    after e (h ++ [.read]) = after e h := by
  obtain ⟨hfailed, hsettings⟩ := answer_eq_error_iff.mp hanswer
  rw [← environment_after] at hsettings
  rw [after_concat, act, read_of_invalid (kept_after_eq_none_iff.mpr hfailed) hsettings]

end DiceOdds.Settings.Cache
