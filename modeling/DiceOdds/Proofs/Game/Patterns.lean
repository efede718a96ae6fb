import DiceOdds.Game.Catalogue
import DiceOdds.Proofs.Chain.Groups
import DiceOdds.Proofs.Odds.Decided
import DiceOdds.Workstation
import Mathlib.Data.Finset.Card

/-!
# What the Events of Games Mean

The events of the games are chains of counts, written group by group: every member of a group
says how many dice show one face.  Whatever the roll is, such a chain holds exactly if all
counts of some group are met (`decideRoll_groups`).  What an event says about a roll then
follows from which groups there are: single faces, pairs of different faces, selections of
faces, or faces in a row.

A face that is no machine word is not accepted at all, whatever the other dice show
(`wide_face_is_refused`).

**Main statement**: `events_mean_their_names`.
-/

namespace DiceOdds

/-- The computation succeeds, and its answer says whether a property holds. -/
def Settles (x : Except Fault Bool) (p : Prop) : Prop := ∃ b, x = .ok b ∧ (b = true ↔ p)

/-! ## §1 Groups of counts -/

/-- So many dice, up to a bound, show a face. -/
structure FaceCount where
  quantity : Int
  face : Int
  bound : Bound

namespace FaceCount

/-- Whether a roll shows the face as often as it should. -/
def met (r : Roll) (c : FaceCount) : Bool := c.bound.admits c.quantity (r.count c.face)

/-- The draft of a count. -/
def draft (link : Link) (c : FaceCount) : Draft := showing c.quantity c.face c.bound link

/-- The drafts of counts that have to be met together. -/
def group : List FaceCount → List Draft
  | [] => []
  | c :: cs => c.draft .or :: cs.map (draft .and)

/-- The drafts of a group for a die. -/
def groupFor (die : Die) (cs : List FaceCount) : List Draft :=
  (group cs).map (·.withDie (some die))

theorem met_exactly_iff {quantity face : Int} {r : Roll} :
    met r ⟨quantity, face, .exactly⟩ = true ↔ (r.count face : Int) = quantity :=
  beq_iff_eq

/-- At least one die shows the face. -/
theorem met_atLeast_one_iff {face : Int} {r : Roll} :
    met r ⟨1, face, .atLeast⟩ = true ↔ face ∈ r := by
  rw [← List.count_pos_iff]
  simp only [met, Bound.admits, decide_eq_true_eq]
  omega

theorem accepts_draft [Memory] (link : Link) (c : FaceCount) (die : Option Die) (r : Roll) :
    ((c.draft link).withDie die).accepts r = c.met r := rfl

theorem isGroup_groupFor (die : Die) {cs : List FaceCount} (h : cs ≠ []) :
    Chain.IsGroup Draft.link (groupFor die cs) := by
  obtain ⟨c, cs, rfl⟩ := List.exists_cons_of_ne_nil h
  rw [groupFor, group, List.map_cons, List.map_map]
  refine .opened rfl fun d hd => ?_
  obtain ⟨c, -, rfl⟩ := List.mem_map.mp hd
  rfl

theorem all_accepts_groupFor [Memory] (die : Die) (cs : List FaceCount) (r : Roll) :
    ((groupFor die cs).all fun d => d.accepts r) = cs.all (met r) := by
  cases cs with
  | nil => rfl
  | cons c cs =>
    simp only [groupFor, group, List.map_cons, List.all_cons, List.map_map, List.all_map,
      accepts_draft]
    rfl

/-- A member of a group is the draft of some count, linked by `or` or by `and`. -/
theorem exists_of_mem_groupFor {die : Die} {cs : List FaceCount} {d : Draft}
    (h : d ∈ groupFor die cs) :
    ∃ c link, link ≠ Link.first ∧ d = (draft link c).withDie (some die) := by
  obtain ⟨d, hd, rfl⟩ := List.mem_map.mp h
  cases cs with
  | nil => cases hd
  | cons c cs =>
    rcases List.mem_cons.mp hd with rfl | hd
    · exact ⟨c, .or, by decide, rfl⟩
    · obtain ⟨c, -, rfl⟩ := List.mem_map.mp hd
      exact ⟨c, .and, by decide, rfl⟩

/-- The drafts of several groups for a die. -/
def groupsFor (die : Die) (groups : List (List FaceCount)) : List Draft :=
  (groups.map (groupFor die)).flatten

theorem groupsFor_ne_nil (die : Die) {groups : List (List FaceCount)} (hne : groups ≠ [])
    (hcounts : ∀ cs ∈ groups, cs ≠ []) : groupsFor die groups ≠ [] := by
  obtain ⟨cs, hcs⟩ := List.exists_mem_of_ne_nil groups hne
  rw [groupsFor, List.flatten_ne_nil_iff]
  exact ⟨_, List.mem_map_of_mem hcs, (isGroup_groupFor die (hcounts cs hcs)).ne_nil⟩

theorem exists_of_mem_groupsFor {die : Die} {groups : List (List FaceCount)} {d : Draft}
    (h : d ∈ groupsFor die groups) :
    ∃ c link, link ≠ Link.first ∧ d = (draft link c).withDie (some die) := by
  obtain ⟨ds, hds, hd⟩ := List.mem_flatten.mp h
  obtain ⟨cs, -, rfl⟩ := List.mem_map.mp hds
  exact exists_of_mem_groupFor hd

end FaceCount

/-- Groups of counts hold if all counts of some group are met. -/
theorem decideRoll_groupsFor [Memory] (die : Die) (other : Option Die)
    {groups : List (List FaceCount)} (hne : groups ≠ []) (hcounts : ∀ cs ∈ groups, cs ≠ [])
    {r : Roll} (hr : r ≠ []) (hwords : ∀ x ∈ r, Word.Holds x) :
    Settles (decideRoll (FaceCount.groupsFor die groups) other r)
      (∃ cs ∈ groups, ∀ c ∈ cs, c.met r = true) := by
  have hgroups : ∀ ds ∈ groups.map (FaceCount.groupFor die), Chain.IsGroup Draft.link ds := by
    intro ds hds
    obtain ⟨cs, hcs, rfl⟩ := List.mem_map.mp hds
    exact FaceCount.isGroup_groupFor die (hcounts cs hcs)
  have hcomplete : ∀ d ∈ FaceCount.groupsFor die groups, d.Complete false := by
    intro d hd
    obtain ⟨c, link, -, rfl⟩ := FaceCount.exists_of_mem_groupsFor hd
    exact ((_ : Draft).clause?_isSome_iff false).mp rfl
  have hlinks : ∀ d ∈ (FaceCount.groupsFor die groups).tail, d.link ≠ some .first := by
    intro d hd
    obtain ⟨c, link, hlink, rfl⟩ := FaceCount.exists_of_mem_groupsFor (List.mem_of_mem_tail hd)
    exact fun h => hlink (Option.some.inj h)
  have hroll : ∀ d ∈ FaceCount.groupsFor die groups, ∀ test, d.test? = some test →
      test.obstacle? r = none := by
    -- counting dice never fails
    intro d hd test htest
    obtain ⟨c, link, -, rfl⟩ := FaceCount.exists_of_mem_groupsFor hd
    cases htest
    rfl
  rw [decideRoll_eq_normalForm hr hwords (FaceCount.groupsFor_ne_nil die hne hcounts) hcomplete
    hlinks hroll other, FaceCount.groupsFor, Chain.normalForm_flatten hgroups]
  refine ⟨_, rfl, ?_⟩
  simp only [List.any_map, Function.comp_def, FaceCount.all_accepts_groupFor, List.any_eq_true,
    List.all_eq_true]

/-- **A chain of groups of counts holds if all counts of some group are met.** -/
theorem decideRoll_groups [Memory] {ι : Type} (die : Die) (other : Option Die) (xs : List ι)
    (counts : ι → List FaceCount) (hne : xs ≠ []) (hcounts : ∀ x ∈ xs, counts x ≠ []) {r : Roll}
    (hr : r ≠ []) (hwords : ∀ x ∈ r, Word.Holds x) :
    Settles (decideRoll ((xs.flatMap fun x => FaceCount.group (counts x)).map
        (·.withDie (some die))) other r)
      (∃ x ∈ xs, ∀ c ∈ counts x, c.met r = true) := by
  have hdrafts : (xs.flatMap fun x => FaceCount.group (counts x)).map (·.withDie (some die)) =
      FaceCount.groupsFor die (xs.map counts) := by
    rw [List.map_flatMap, List.flatMap_def, FaceCount.groupsFor, List.map_map]
    rfl
  have hsettles := decideRoll_groupsFor die other (mt List.map_eq_nil_iff.mp hne)
    (List.forall_mem_map.mpr hcounts) hr hwords
  simp only [List.mem_map, exists_exists_and_eq_and] at hsettles
  rw [hdrafts]
  exact hsettles

/-! ## §2 The groups of the events -/

theorem ofAKind_eq (quantity : Int) (bound : Bound) :
    ofAKind quantity bound =
      usualFaces.flatMap fun face => FaceCount.group [⟨quantity, face, bound⟩] := rfl

theorem straightFrom_eq {length : Nat} (h : 0 < length) (low : Int) :
    straightFrom length low =
      FaceCount.group ((List.range length).map fun (i : Nat) => ⟨1, low + i, .atLeast⟩) := by
  obtain ⟨n, rfl⟩ : ∃ n, length = n + 1 := ⟨length - 1, by omega⟩
  rw [straightFrom, List.range_succ_eq_map, List.map_cons, List.map_cons, FaceCount.group,
    List.map_map, List.map_map, List.map_map]
  rfl

theorem groupOf_eq (quantities faces : List Int) :
    groupOf quantities faces =
      FaceCount.group ((faces.zip quantities).map fun e => ⟨e.2, e.1, .exactly⟩) := by
  rw [groupOf]
  cases faces.zip quantities with
  | nil => rfl
  | cons e rest =>
    rw [List.mapIdx_cons, List.map_cons, FaceCount.group, List.map_map]
    -- behind the first member the position does not matter
    exact congrArg (_ :: ·) (List.ext_getElem (by simp) (by simp [FaceCount.draft]))

theorem mem_usualFaces {v : Int} : v ∈ usualFaces ↔ 1 ≤ v ∧ v ≤ 6 := by
  simp only [usualFaces, List.mem_cons, List.not_mem_nil, or_false]
  omega

theorem mem_orderedPairs {faces g : List Int} :
    g ∈ orderedPairs faces ↔ ∃ a ∈ faces, ∃ b ∈ faces, a ≠ b ∧ g = [a, b] := by
  simp only [orderedPairs, List.mem_flatMap, List.mem_map, List.mem_filter, bne_iff_ne]
  grind

/-- The selections are the sublists of the right length. -/
theorem mem_selections {n : Nat} {xs g : List Int} :
    g ∈ selections n xs ↔ g.Sublist xs ∧ g.length = n := by
  fun_induction selections n xs generalizing g with
  | case1 xs => grind
  | case2 n => grind
  | case3 n x xs ih₁ ih₂ =>
    simp only [List.mem_append, List.mem_map, ih₁, ih₂, List.sublist_cons_iff]
    grind

private theorem forall₂_replicate_iff {α β : Type} {R : α → β → Prop} {xs : List α} {y : β} :
    List.Forall₂ R xs (List.replicate xs.length y) ↔ ∀ x ∈ xs, R x y := by
  induction xs with
  | nil => simp
  | cons x xs ih => simp [List.replicate_succ, ih]

/-- Some selection has a property in all its members if some set of the right size has. -/
theorem exists_selection_iff {n : Nat} {xs : List Int} (hxs : xs.Nodup) {p : Int → Prop} :
    (∃ g ∈ selections n xs, ∀ v ∈ g, p v) ↔
      ∃ s : Finset Int, s.card = n ∧ ∀ v ∈ s, v ∈ xs ∧ p v := by
  simp only [mem_selections]
  constructor
  · rintro ⟨g, ⟨hsub, hlength⟩, hg⟩
    refine ⟨g.toFinset, ?_, fun v hv => ?_⟩
    · rw [List.toFinset_card_of_nodup (hxs.sublist hsub), hlength]
    · have hv' := List.mem_toFinset.mp hv
      exact ⟨hsub.subset hv', hg v hv'⟩
  · -- the members of the set, in the order of the list
    rintro ⟨s, hcard, hs⟩
    refine ⟨xs.filter (· ∈ s), ⟨List.filter_sublist, ?_⟩, fun v hv => ?_⟩
    · rw [← hcard, ← List.toFinset_card_of_nodup (hxs.filter _)]
      congr 1
      ext v
      simp only [List.mem_toFinset, List.mem_filter, decide_eq_true_eq]
      exact ⟨fun h => h.2, fun h => ⟨(hs v h).1, h⟩⟩
    · exact (hs v (by simpa using (List.mem_filter.mp hv).2)).2

/-! ## §3 What the events say -/

section Events

variable [Memory] (die : Die) (other : Option Die) {r : Roll}

/-- Some face is shown as often as it should be. -/
theorem decideRoll_ofAKind (hr : r ≠ []) (hwords : ∀ x ∈ r, Word.Holds x) (quantity : Int)
    (bound : Bound) :
    Settles (decideRoll ((ofAKind quantity bound).map (·.withDie (some die))) other r)
      (∃ v, 1 ≤ v ∧ v ≤ 6 ∧ bound.admits quantity (r.count v) = true) := by
  obtain ⟨b, hb, hiff⟩ := decideRoll_groups die other usualFaces
    (fun face => [⟨quantity, face, bound⟩]) (by decide) (fun face _ => List.cons_ne_nil _ _) hr
    hwords
  rw [← ofAKind_eq] at hb
  refine ⟨b, hb, hiff.trans ?_⟩
  simp only [List.mem_singleton, forall_eq, mem_usualFaces, and_assoc]
  rfl

/-- All faces of some group are shown as often as they should be. -/
theorem decideRoll_someGroupOf (hr : r ≠ []) (hwords : ∀ x ∈ r, Word.Holds x)
    {quantities : List Int} {groups : List (List Int)} (hquantities : quantities ≠ [])
    (hgroups : groups ≠ []) (hlength : ∀ g ∈ groups, g.length = quantities.length) :
    Settles (decideRoll ((someGroupOf quantities groups).map (·.withDie (some die))) other r)
      (∃ g ∈ groups, List.Forall₂ (fun face quantity => (r.count face : Int) = quantity) g
        quantities) := by
  have hfilled : ∀ g ∈ groups,
      ((g.zip quantities).map fun e => (⟨e.2, e.1, .exactly⟩ : FaceCount)) ≠ [] := by
    intro g hg hnil
    have hzip : (g.zip quantities).length = quantities.length := by
      rw [List.length_zip, hlength g hg, Nat.min_self]
    rw [List.map_eq_nil_iff.mp hnil] at hzip
    exact hquantities (List.eq_nil_of_length_eq_zero hzip.symm)
  obtain ⟨b, hb, hiff⟩ := decideRoll_groups die other groups _ hgroups hfilled hr hwords
  have hchain : someGroupOf quantities groups = groups.flatMap fun g =>
      FaceCount.group ((g.zip quantities).map fun e => ⟨e.2, e.1, .exactly⟩) :=
    congrArg groups.flatMap (funext (groupOf_eq quantities))
  refine ⟨b, hchain ▸ hb, hiff.trans ?_⟩
  refine exists_congr fun g => and_congr_right fun hg => ?_
  rw [List.forall₂_iff_zip, and_iff_right (hlength g hg), List.forall_mem_map]
  simp only [FaceCount.met_exactly_iff, Prod.forall]

/-- Every pair of different faces makes up a group. -/
theorem decideRoll_pairs (hr : r ≠ []) (hwords : ∀ x ∈ r, Word.Holds x) (m n : Nat) :
    Settles (decideRoll ((someGroupOf [(m : Int), n] (orderedPairs usualFaces)).map
        (·.withDie (some die))) other r)
      (∃ a b, 1 ≤ a ∧ a ≤ 6 ∧ 1 ≤ b ∧ b ≤ 6 ∧ a ≠ b ∧ r.count a = m ∧ r.count b = n) := by
  have hlength : ∀ g ∈ orderedPairs usualFaces, g.length = [(m : Int), n].length := by
    intro g hg
    obtain ⟨a, -, b, -, -, rfl⟩ := mem_orderedPairs.mp hg
    rfl
  obtain ⟨b, hb, hiff⟩ := decideRoll_someGroupOf die other hr hwords
    (List.cons_ne_nil (m : Int) [(n : Int)]) (by decide) hlength
  refine ⟨b, hb, hiff.trans ?_⟩
  simp only [mem_orderedPairs, mem_usualFaces]
  constructor
  · rintro ⟨_, ⟨a, ha, b, hb, hne, rfl⟩, hcounts⟩
    simp only [List.forall₂_cons, List.Forall₂.nil, and_true, Int.natCast_inj] at hcounts
    exact ⟨a, b, ha.1, ha.2, hb.1, hb.2, hne, hcounts⟩
  · rintro ⟨a, b, ha, ha', hb, hb', hne, hcount, hcount'⟩
    exact ⟨_, ⟨a, ⟨ha, ha'⟩, b, ⟨hb, hb'⟩, hne, rfl⟩, by simp [hcount, hcount']⟩

/-- Every selection of so many faces makes up a group. -/
theorem decideRoll_selections (hr : r ≠ []) (hwords : ∀ x ∈ r, Word.Holds x) {n : Nat}
    (hn : 0 < n) (hn' : n ≤ 6) (k : Nat) :
    Settles (decideRoll ((someGroupOf (List.replicate n (k : Int)) (selections n usualFaces)).map
        (·.withDie (some die))) other r)
      (∃ s : Finset Int, s.card = n ∧ ∀ v ∈ s, 1 ≤ v ∧ v ≤ 6 ∧ r.count v = k) := by
  have hsome : usualFaces.take n ∈ selections n usualFaces :=
    mem_selections.mpr ⟨List.take_sublist n _, List.length_take_of_le hn'⟩
  have hlength : ∀ g ∈ selections n usualFaces, g.length = (List.replicate n (k : Int)).length := by
    intro g hg
    rw [List.length_replicate, (mem_selections.mp hg).2]
  obtain ⟨b, hb, hiff⟩ := decideRoll_someGroupOf die other hr hwords
    (by simpa using Nat.ne_of_gt hn) (List.ne_nil_of_mem hsome) hlength
  have hselection := exists_selection_iff (n := n) (by decide : usualFaces.Nodup)
    (p := fun v => r.count v = k)
  simp only [mem_usualFaces, and_assoc] at hselection
  refine ⟨b, hb, hiff.trans (Iff.trans ?_ hselection)⟩
  refine exists_congr fun g => and_congr_right fun hg => ?_
  rw [← (mem_selections.mp hg).2, forall₂_replicate_iff]
  simp only [Int.natCast_inj]

/-- Some faces in a row are all shown. -/
theorem decideRoll_straight (hr : r ≠ []) (hwords : ∀ x ∈ r, Word.Holds x) {n : Nat}
    (hn : 0 < n) (hn' : n ≤ 6) :
    Settles (decideRoll ((straight n).map (·.withDie (some die))) other r)
      (∃ s : Int, 1 ≤ s ∧ s ≤ 7 - n ∧ ∀ v, s ≤ v → v < s + n → v ∈ r) := by
  have hchain : straight n = (List.range (7 - n)).flatMap fun (start : Nat) =>
      FaceCount.group
        ((List.range n).map fun (i : Nat) => ⟨1, ((start : Int) + 1) + i, .atLeast⟩) :=
    congrArg (List.range (7 - n)).flatMap (funext fun start => straightFrom_eq hn _)
  obtain ⟨b, hb, hiff⟩ := decideRoll_groups die other (List.range (7 - n))
    (fun start => (List.range n).map fun (i : Nat) => ⟨1, ((start : Int) + 1) + i, .atLeast⟩)
    (by simp; omega) (by simp; omega) hr hwords
  refine ⟨b, hchain ▸ hb, hiff.trans ?_⟩
  simp only [List.forall_mem_map, FaceCount.met_atLeast_one_iff, List.mem_range]
  constructor
  · rintro ⟨start, hstart, hall⟩
    refine ⟨start + 1, by omega, by omega, fun v hlow hhigh => ?_⟩
    have hv := hall (v - (start + 1)).toNat (by omega)
    have hplace : (start : Int) + 1 + ((v - (start + 1)).toNat : Int) = v := by omega
    rwa [hplace] at hv
  · rintro ⟨s, hs, hs', hall⟩
    refine ⟨(s - 1).toNat, by omega, fun i hi => hall _ (by omega) (by omega)⟩

end Events

/-! ## §4 The catalogue -/

/-- How an event of a game, bound to a die, decides a roll. -/
def Game.decides [Memory] (g : Game) (name : String) (die : Die) (other : Option Die)
    (r : Roll) : Except Fault Bool :=
  (g.event name (some die)).bind fun e => decideRoll e.drafts other r

/-- The events that ask for so many dice of a kind, or more. -/
def atLeastOfAKind : List (Game × String × Nat) :=
  [(.yahtzee, "Two of a Kind", 2), (.yahtzee, "Three of a Kind", 3),
   (.yahtzee, "Four of a Kind", 4), (.farkle, "Any Three of a Kind", 3),
   (.farkle, "Any Four of a Kind", 4), (.farkle, "Any Five of a Kind", 5),
   (.farkle, "Any Six of a Kind", 6)]

/-- The events that ask for so many dice of a kind, and no more. -/
def exactlyOfAKind : List (Game × String × Nat) :=
  [(.monopoly, "Doubles", 2), (.backgammon, "Any Double", 2), (.yahtzee, "Yahtzee", 5)]

/-- The events that ask for so many faces in a row. -/
def straights : List (Game × String × Nat) :=
  [(.yahtzee, "Small Straight", 4), (.yahtzee, "Large Straight", 5), (.farkle, "1-6 Straight", 6)]

section Catalogue

variable [Memory] (die : Die) (other : Option Die) (r : Roll)

theorem decides_atLeastOfAKind : ∀ e ∈ atLeastOfAKind, e.1.decides e.2.1 die other r =
    decideRoll ((ofAKind e.2.2 .atLeast).map (·.withDie (some die))) other r := by
  simp only [atLeastOfAKind, List.forall_mem_cons, List.not_mem_nil, false_imp_iff, implies_true,
    and_true]
  exact ⟨rfl, rfl, rfl, rfl, rfl, rfl, rfl⟩

theorem decides_exactlyOfAKind : ∀ e ∈ exactlyOfAKind, e.1.decides e.2.1 die other r =
    decideRoll ((ofAKind e.2.2 .exactly).map (·.withDie (some die))) other r := by
  simp only [exactlyOfAKind, List.forall_mem_cons, List.not_mem_nil, false_imp_iff, implies_true,
    and_true]
  exact ⟨rfl, rfl, rfl⟩

theorem decides_straights : ∀ e ∈ straights, (0 < e.2.2 ∧ e.2.2 ≤ 6) ∧
    e.1.decides e.2.1 die other r =
      decideRoll ((straight e.2.2).map (·.withDie (some die))) other r := by
  simp only [straights, List.forall_mem_cons, List.not_mem_nil, false_imp_iff, implies_true,
    and_true]
  exact ⟨⟨by decide, rfl⟩, ⟨by decide, rfl⟩, ⟨by decide, rfl⟩⟩

end Catalogue

/-- **The events of the games mean what they are named.**  On every roll of machine words,
whatever its length and whatever faces it shows, the chain of an event has a verdict, and this
says whether the pattern of the event stands in the roll: so many dice of a kind, two
different faces with their quantities, so many faces with one quantity, or so many faces in a
row.  The chain of any list of groups with their quantities holds if some group has each of its
faces shown by exactly its quantity of dice. -/
theorem events_mean_their_names [Memory] (die : Die) (other : Option Die) {r : Roll}
    (hr : r ≠ []) (hwords : ∀ x ∈ r, Word.Holds x) :
    (∀ e ∈ atLeastOfAKind, Settles (e.1.decides e.2.1 die other r)
      (∃ v, 1 ≤ v ∧ v ≤ 6 ∧ e.2.2 ≤ r.count v)) ∧
    (∀ e ∈ exactlyOfAKind, Settles (e.1.decides e.2.1 die other r)
      (∃ v, 1 ≤ v ∧ v ≤ 6 ∧ r.count v = e.2.2)) ∧
    (∀ e ∈ straights, Settles (e.1.decides e.2.1 die other r)
      (∃ s : Int, 1 ≤ s ∧ s ≤ 7 - e.2.2 ∧ ∀ v, s ≤ v → v < s + e.2.2 → v ∈ r)) ∧
    Settles (Game.yahtzee.decides "Full House" die other r)
      (∃ a b, 1 ≤ a ∧ a ≤ 6 ∧ 1 ≤ b ∧ b ≤ 6 ∧ a ≠ b ∧ r.count a = 3 ∧ r.count b = 2) ∧
    Settles (Game.farkle.decides "Four of Any Number w/ a Pair" die other r)
      (∃ a b, 1 ≤ a ∧ a ≤ 6 ∧ 1 ≤ b ∧ b ≤ 6 ∧ a ≠ b ∧ r.count a = 4 ∧ r.count b = 2) ∧
    Settles (Game.farkle.decides "Three Pairs" die other r)
      (∃ s : Finset Int, s.card = 3 ∧ ∀ v ∈ s, 1 ≤ v ∧ v ≤ 6 ∧ r.count v = 2) ∧
    Settles (Game.farkle.decides "Two Triplets" die other r)
      (∃ s : Finset Int, s.card = 2 ∧ ∀ v ∈ s, 1 ≤ v ∧ v ≤ 6 ∧ r.count v = 3) ∧
    (∀ quantities groups, quantities ≠ [] → groups ≠ [] →
      (∀ g ∈ groups, g.length = quantities.length) →
      Settles (decideRoll ((someGroupOf quantities groups).map (·.withDie (some die))) other r)
        (∃ g ∈ groups, List.Forall₂ (fun face quantity => (r.count face : Int) = quantity) g
          quantities)) := by
  refine ⟨fun e he => ?_, fun e he => ?_, fun e he => ?_, decideRoll_pairs die other hr hwords 3 2,
    decideRoll_pairs die other hr hwords 4 2,
    decideRoll_selections die other hr hwords (n := 3) (by decide) (by decide) 2,
    decideRoll_selections die other hr hwords (n := 2) (by decide) (by decide) 3,
    fun quantities groups hquantities hgroups hlength =>
      decideRoll_someGroupOf die other hr hwords hquantities hgroups hlength⟩
  · rw [decides_atLeastOfAKind die other r e he]
    simpa [Bound.admits] using decideRoll_ofAKind die other hr hwords e.2.2 .atLeast
  · rw [decides_exactlyOfAKind die other r e he]
    simpa [Bound.admits, Int.natCast_inj] using
      decideRoll_ofAKind die other hr hwords e.2.2 .exactly
  · obtain ⟨⟨hpos, hle⟩, hdecides⟩ := decides_straights die other r e he
    rw [hdecides]
    exact decideRoll_straight die other hr hwords hpos hle

/-- A roll with three fives, two threes, and a face that no die has. -/
def oddHouse : Roll := [5, 3, 5, 3, 5, 90]

/-- It is a full house, has three of a kind and a double, but no four faces in a row; and it
fits the one group of a pair of threes. -/
theorem odd_house_is_a_full_house :
    oddHouse ≠ [] ∧ (∀ x ∈ oddHouse, Word.Holds x) ∧
    Game.yahtzee.decides "Full House" .d6 none oddHouse = .ok true ∧
    ((.yahtzee, "Three of a Kind", 3) ∈ atLeastOfAKind ∧
      Game.yahtzee.decides "Three of a Kind" .d6 none oddHouse = .ok true) ∧
    ((.monopoly, "Doubles", 2) ∈ exactlyOfAKind ∧
      Game.monopoly.decides "Doubles" .d6 none oddHouse = .ok true) ∧
    ((.yahtzee, "Small Straight", 4) ∈ straights ∧
      Game.yahtzee.decides "Small Straight" .d6 none oddHouse = .ok false) ∧
    (([2] : List Int) ≠ [] ∧ ([[3]] : List (List Int)) ≠ [] ∧
      (∀ g ∈ ([[3]] : List (List Int)), g.length = ([2] : List Int).length) ∧
      decideRoll ((someGroupOf [2] [[3]]).map (·.withDie (some .d6))) none oddHouse =
        .ok true) := by
  have hne : oddHouse ≠ [] := List.cons_ne_nil _ _
  have hwords : ∀ x ∈ oddHouse, Word.Holds x := by decide
  obtain ⟨hatLeast, hexactly, hstraight, ⟨b, hb, hiff⟩, -, -, -, hgroups⟩ :=
    events_mean_their_names .d6 none hne hwords
  have hthree : (.yahtzee, "Three of a Kind", 3) ∈ atLeastOfAKind := by decide
  have hdoubles : (.monopoly, "Doubles", 2) ∈ exactlyOfAKind := by decide
  have hsmall : (.yahtzee, "Small Straight", 4) ∈ straights := by decide
  obtain ⟨b₁, hb₁, hiff₁⟩ := hatLeast _ hthree
  obtain ⟨b₂, hb₂, hiff₂⟩ := hexactly _ hdoubles
  obtain ⟨b₃, hb₃, hiff₃⟩ := hstraight _ hsmall
  obtain ⟨b₄, hb₄, hiff₄⟩ := hgroups [2] [[3]] (by decide) (by decide) (by decide)
  have hhouse : b = true :=
    hiff.mpr ⟨5, 3, by decide, by decide, by decide, by decide, by decide, by decide, by decide⟩
  have hkind : b₁ = true := hiff₁.mpr ⟨5, by decide, by decide, by decide⟩
  have hdouble : b₂ = true := hiff₂.mpr ⟨3, by decide, by decide, by decide⟩
  have hgroup : b₄ = true := hiff₄.mpr ⟨[3], List.mem_cons_self, .cons (by decide) .nil⟩
  have hrow : b₃ = false := by
    rw [← Bool.not_eq_true, hiff₃]
    rintro ⟨s, hs, hs', hall⟩
    dsimp only at hs' hall
    have hlow := hall s (by omega) (by omega)
    have hnext := hall (s + 1) (by omega) (by omega)
    simp only [oddHouse, List.mem_cons, List.not_mem_nil, or_false] at hlow hnext
    omega
  exact ⟨hne, hwords, hhouse ▸ hb, ⟨hthree, hkind ▸ hb₁⟩, ⟨hdoubles, hdouble ▸ hb₂⟩,
    ⟨hsmall, hrow ▸ hb₃⟩, by decide, by decide, by decide, hgroup ▸ hb₄⟩

/-- Two dice show a one, but the roll is refused for the third die, whose face is no word. -/
theorem wide_face_is_refused :
    Game.yahtzee.decides "Two of a Kind" .d6 none [1, 1, 18446744073709551616] =
      .error .tooWide ∧
    ¬(Game.yahtzee.decides "Two of a Kind" .d6 none [1, 1, 18446744073709551616] = .ok true ↔
      ∃ v, 1 ≤ v ∧ v ≤ 6 ∧ 2 ≤ ([1, 1, 18446744073709551616] : Roll).count v) := by
  have hrefused : Game.yahtzee.decides "Two of a Kind" .d6 none [1, 1, 18446744073709551616] =
      .error .tooWide := by decide +kernel
  refine ⟨hrefused, fun h => ?_⟩
  have hpair := h.mpr ⟨1, by decide, by decide, by decide⟩
  rw [hrefused] at hpair
  cases hpair

end DiceOdds
