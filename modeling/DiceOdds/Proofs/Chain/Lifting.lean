import DiceOdds.Chain.Extent
import DiceOdds.Proofs.Traversal

/-!
# Related Scores, Related Verdicts

Resolving a chain looks at its scores only through `Verdict.both` and `Verdict.either`.  So
a relation between two kinds of scores that both operations respect carries over from the
scores to the verdicts, and a chain that is at fault is so on both sides, in the same way
(`resolve_agree`).

A table of scores is the case of interest: its verdict on one roll is the verdict on the
scores of that roll alone (`resolve_agree_getElem?`).
-/

namespace DiceOdds.Chain

variable {β γ : Type} [Verdict β] [Verdict γ]

/-! ## §1 Relations that respect verdicts -/

/-- A relation between scores that survives combining them. -/
structure Compatible (R : β → γ → Prop) : Prop where
  both : ∀ {a b a' b'}, R a a' → R b b' → R (Verdict.both a b) (Verdict.both a' b')
  either : ∀ {a b a' b'}, R a a' → R b b' → R (Verdict.either a b) (Verdict.either a' b')

variable {R : β → γ → Prop}

omit [Verdict β] [Verdict γ] in
private theorem agree_map_cons {group : β} {group' : γ} (hgroup : R group group')
    {x : Except ChainFault (List β)} {y : Except ChainFault (List γ)}
    (h : Agree (List.Forall₂ R) x y) :
    Agree (List.Forall₂ R) (x.map (group :: ·)) (y.map (group' :: ·)) := by
  cases h with
  | ok hgroups => exact .ok (.cons hgroup hgroups)
  | error e => exact .error e

/-- Related scores are gathered into related groups. -/
theorem gather_agree (hR : Compatible R) (links : List (Option Link)) :
    ∀ (index : Nat) {group : β} {group' : γ} {scores : List β} {scores' : List γ},
      R group group' → List.Forall₂ R scores scores' →
      Agree (List.Forall₂ R) (gather index group links scores)
        (gather index group' links scores') := by
  induction links with
  | nil =>
    intro index group group' scores scores' hgroup hscores
    cases hscores <;> exact .ok (.cons hgroup .nil)
  | cons link links ih =>
    intro index group group' scores scores' hgroup hscores
    cases hscores with
    | nil => exact .ok (.cons hgroup .nil)
    | cons hscore hscores =>
      rcases link with _ | link
      · exact .error (ChainFault.unlinked index)
      · cases link with
        -- `first` and `or` close the group, `and` keeps it open
        | first => exact agree_map_cons hgroup (ih (index + 1) hscore hscores)
        | or => exact agree_map_cons hgroup (ih (index + 1) hscore hscores)
        | and => exact ih (index + 1) (hR.both hgroup hscore) hscores

theorem anyGroup_related (hR : Compatible R) {groups : List β} {groups' : List γ}
    (h : List.Forall₂ R groups groups') {group : β} {group' : γ} (hgroup : R group group') :
    R (anyGroup group groups) (anyGroup group' groups') := by
  induction h generalizing group group' with
  | nil => exact hgroup
  | cons hab _ ih => exact ih (hR.either hgroup hab)

/-- **Related scores have related verdicts**, or the same fault. -/
theorem resolve_agree (hR : Compatible R) (links : List (Option Link)) {scores : List β}
    {scores' : List γ} (h : List.Forall₂ R scores scores') :
    Agree R (resolve links scores) (resolve links scores') := by
  have hlength := h.length_eq
  cases links with
  | nil => exact .error ChainFault.empty
  | cons link links =>
    cases h with
    | nil => exact .error _
    | @cons score score' scores scores' hscore hscores =>
      have hrest := hscores.length_eq
      by_cases heven : scores.length = links.length
      · simp only [resolve, if_pos heven, if_pos (hrest ▸ heven)]
        have hgather := gather_agree hR links 1 hscore hscores
        generalize gather 1 score links scores = x at hgather
        generalize gather 1 score' links scores' = y at hgather
        cases hgather with
        | error e => exact .error e
        | ok hgroups =>
          cases hgroups with
          | nil => exact .ok hscore
          | @cons group group' groups groups' hgroup hgroups =>
            -- related lists of groups are equally long, so a stray `first` shows in both
            have hcount := hgroups.length_eq
            by_cases hor : groups.length = countOr (link :: links)
            · simp only [if_pos hor, if_pos (hcount ▸ hor)]
              exact .ok (anyGroup_related hR hgroups hgroup)
            · simp only [if_neg hor, if_neg (hcount ▸ hor)]
              exact .error ChainFault.strayFirst
      · simp only [resolve, if_neg heven, if_neg (hrest ▸ heven), hlength]
        exact .error _

/-! ## §2 One roll of a table -/

/-- A vector of scores and the score of one of its rolls. -/
def ScoreAt (n j : Nat) (scores : List β) (score : β) : Prop :=
  scores.length = n ∧ scores[j]? = some score

omit [Verdict β] in
private theorem scoreAt_zipWith (f : β → β → β) {n j : Nat} {xs ys : List β} {x y : β}
    (hx : ScoreAt n j xs x) (hy : ScoreAt n j ys y) :
    ScoreAt n j (List.zipWith f xs ys) (f x y) := by
  obtain ⟨hxs, hx⟩ := hx
  obtain ⟨hys, hy⟩ := hy
  refine ⟨?_, ?_⟩
  · rw [List.length_zipWith, hxs, hys, Nat.min_self]
  · simp [List.getElem?_zipWith, hx, hy]

theorem compatible_scoreAt (n j : Nat) : Compatible (ScoreAt (β := β) n j) where
  both := scoreAt_zipWith Verdict.both
  either := scoreAt_zipWith Verdict.either

/-- The verdict of a table on one roll is the verdict on the scores of that roll. -/
theorem resolve_agree_getElem? (links : List (Option Link)) {n j : Nat} {scores : List (List β)}
    {column : List β} (h : List.Forall₂ (ScoreAt n j) scores column) :
    Agree (ScoreAt n j) (resolve links scores) (resolve links column) :=
  resolve_agree (compatible_scoreAt n j) links h

/-! ## §3 Vectors of one length -/

/-- A score of some extent that is a vector with `n` entries. -/
def IsVector (n : Nat) (score : Option Score) (bs : List Bool) : Prop :=
  score = some (.each bs) ∧ bs.length = n

private theorem isVector_combineEach (f : Bool → Bool → Bool) {n : Nat} {as bs : List Bool}
    (ha : as.length = n) (hb : bs.length = n) :
    IsVector n ((Score.combineEach f as bs).map Score.each) (List.zipWith f as bs) := by
  refine ⟨?_, ?_⟩
  · simp [Score.combineEach, ha, hb]
  · rw [List.length_zipWith, ha, hb, Nat.min_self]

theorem compatible_isVector (n : Nat) : Compatible (IsVector n) where
  both := by
    rintro _ _ as bs ⟨rfl, ha⟩ ⟨rfl, hb⟩
    exact isVector_combineEach and ha hb
  either := by
    rintro _ _ as bs ⟨rfl, ha⟩ ⟨rfl, hb⟩
    exact isVector_combineEach or ha hb

theorem forall₂_isVector {n : Nat} {scores : List (List Bool)} (h : ∀ bs ∈ scores, bs.length = n) :
    List.Forall₂ (IsVector n) ((scores.map Score.each).map some) scores := by
  induction scores with
  | nil => exact .nil
  | cons bs scores ih =>
    exact .cons ⟨rfl, h bs List.mem_cons_self⟩ (ih fun bs hbs => h bs (List.mem_cons_of_mem _ hbs))

private theorem any_isNone_of_isVector {n : Nat} {groups : List (Option Score)}
    {vectors : List (List Bool)} (h : List.Forall₂ (IsVector n) groups vectors) :
    groups.any Option.isNone = false := by
  induction h with
  | nil => rfl
  | cons hvector _ ih => simp [hvector.1, ih]

/-- Vectors of one length can always be combined. -/
theorem spoiltWithin_each {n : Nat} {scores : List (List Bool)} (h : ∀ bs ∈ scores, bs.length = n)
    (m : Nat) (links : List (Option Link)) :
    spoiltWithin m links (scores.map Score.each) = false := by
  have hvectors : List.Forall₂ (IsVector n) (((scores.map Score.each).take m).map some)
      (scores.take m) := by
    rw [← List.map_take]
    exact forall₂_isVector fun bs hbs => h bs (List.mem_of_mem_take hbs)
  unfold spoiltWithin
  -- as in the walk itself, vectors of one length never spoil a group
  generalize ((scores.map Score.each).take m).map some = extents at hvectors
  generalize scores.take m = vectors at hvectors
  cases hvectors with
  | nil => rfl
  | @cons score bs rest vectors hscore hscores =>
    have hgather := gather_agree (compatible_isVector n) (links.take m).tail 1 hscore hscores
    dsimp only
    generalize gather 1 score (links.take m).tail rest = x at hgather
    generalize gather 1 bs (links.take m).tail vectors = y at hgather
    cases hgather with
    | error e => rfl
    | ok hgroups => exact any_isNone_of_isVector hgroups

/-- On vectors of one length the verdict is the plain one, a vector of that length. -/
theorem resolveScores_each {n : Nat} {scores : List (List Bool)} (h : ∀ bs ∈ scores, bs.length = n)
    (links : List (Option Link)) :
    resolveScores links (scores.map Score.each) =
      ((resolve links scores).map Score.each).mapError fun e => .rejected (.malformed e) := by
  have hagree := resolve_agree (compatible_isVector n) links (forall₂_isVector h)
  unfold resolveScores
  generalize resolve links ((scores.map Score.each).map some) = x at hagree
  generalize resolve links scores = y at hagree
  cases hagree with
  | ok hvector => rw [hvector.1]; rfl
  | error e =>
    simp only [spoiltWithin_each h]
    rfl

end DiceOdds.Chain
