import DiceOdds.Roll.Score

/-!
# Chains of Clauses

How the scores of linked clauses combine into one verdict.  `and` binds tighter than
`or`, from left to right and without brackets:

    T and F and T or T and T or F and T
    → groups: [T and F and T, T and T, F and T] = [F, T, F]
    → verdict: F or T or F = T

Scores may be single truth values or one value for each roll of a table.
-/

namespace DiceOdds

/-! ## §1 Scores -/

/-- Values that combine like truth values. -/
class Verdict (β : Type) where
  /-- Both hold. -/
  both : β → β → β
  /-- At least one holds. -/
  either : β → β → β

instance : Verdict Bool := ⟨and, or⟩

/-- Verdicts on several rolls combine roll by roll. -/
instance {β : Type} [Verdict β] : Verdict (List β) :=
  ⟨List.zipWith Verdict.both, List.zipWith Verdict.either⟩

namespace Chain

variable {β : Type} [Verdict β]

/-! ## §2 Groups -/

/-- The number of `or` links, not counting the link of the lead. -/
def countOr (links : List (Option Link)) : Nat :=
  links.tail.count (some .or)

/-- Gathers scores into groups: an `and` joins the current group `group`, any other link
closes it and starts the next one.  `index` is the position of the next clause. -/
def gather (index : Nat) (group : β) : List (Option Link) → List β → Except ChainFault (List β)
  | link :: links, score :: scores =>
    match link with
    | some .and => gather (index + 1) (Verdict.both group score) links scores
    | some .or | some .first => (gather (index + 1) score links scores).map (group :: ·)
    | none => .error (.unlinked index)
  | _, _ => .ok [group]

/-- At least one of the groups holds; the verdict is `group` if there are no others. -/
def anyGroup (group : β) (groups : List β) : β :=
  groups.foldl Verdict.either group

/-! ## §3 The verdict -/

/-- The verdict of a chain of linked scores. -/
def resolve (links : List (Option Link)) (scores : List β) : Except ChainFault β :=
  match links, scores with
  | [], _ => .error .empty
  | _ :: links', score :: scores' =>
    if scores'.length = links'.length then
      match gather 1 score links' scores' with
      | .error e => .error e
      | .ok [] => .ok score
      | .ok (group :: groups) =>
        -- a group that no `or` has started was started by a stray `first`
        if groups.length = countOr links then .ok (anyGroup group groups)
        else .error .strayFirst
    else .error (.uneven scores.length links.length)
  | _, _ => .error (.uneven scores.length links.length)

/-! ## §4 Maps between kinds of scores -/

variable {γ : Type} [Verdict γ]

/-- A map that turns combined scores into combined images. -/
structure Respects (h : β → γ) : Prop where
  both : ∀ a b, h (Verdict.both a b) = Verdict.both (h a) (h b)
  either : ∀ a b, h (Verdict.either a b) = Verdict.either (h a) (h b)

/-- The groups of mapped scores are the mapped groups. -/
theorem gather_map {h : β → γ} (hh : Respects h) (links : List (Option Link)) :
    ∀ (index : Nat) (group : β) (scores : List β),
      gather index (h group) links (scores.map h) =
        (gather index group links scores).map (List.map h) := by
  induction links with
  | nil => intro index group scores; cases scores <;> rfl
  | cons link links ih =>
    intro index group scores
    cases scores with
    | nil => rfl
    | cons score scores =>
      rcases link with _ | link
      · rfl
      · have hcons : (gather (index + 1) (h score) links (scores.map h)).map (h group :: ·) =
            ((gather (index + 1) score links scores).map (group :: ·)).map (List.map h) := by
          rw [ih]
          cases gather (index + 1) score links scores <;> rfl
        cases link with
        | first => exact hcons
        | or => exact hcons
        | and =>
          simp only [List.map_cons, gather]
          rw [← hh.both]
          exact ih _ _ _

theorem anyGroup_map {h : β → γ} (hh : Respects h) (groups : List β) :
    ∀ group, anyGroup (h group) (groups.map h) = h (anyGroup group groups) := by
  induction groups with
  | nil => intro group; rfl
  | cons g groups ih =>
    intro group
    have := ih (Verdict.either group g)
    rw [hh.either] at this
    exact this

/-- The verdict on mapped scores is the mapped verdict. -/
theorem resolve_map {h : β → γ} (hh : Respects h) (links : List (Option Link))
    (scores : List β) : resolve links (scores.map h) = (resolve links scores).map h := by
  cases links with
  | nil => rfl
  | cons link links =>
    cases scores with
    | nil => rfl
    | cons score scores =>
      simp only [List.map_cons, resolve, List.length_map, gather_map hh]
      split
      · cases gather 1 score links scores with
        | error e => rfl
        | ok groups =>
          cases groups with
          | nil => rfl
          | cons group groups =>
            simp only [Except.map, List.map_cons, List.length_map, anyGroup_map hh]
            split <;> rfl
      · simp [Except.map]

end Chain

/-! ## §5 Clauses on rolls -/

/-- The links of clauses. -/
def linksOf (cs : List Clause) : List (Option Link) := cs.map fun c => some c.link

/-- Which rolls of a table satisfy a chain of clauses. -/
def RollTable.verdicts [Memory] (t : RollTable) (cs : List Clause) : Except Fault (List Bool) :=
  match cs.mapM t.score with
  | .error e => .error e
  | .ok scores =>
    (Chain.resolve (linksOf cs) scores).mapError fun e => .rejected (.malformed e)

end DiceOdds
