import DiceOdds.Proofs.Chain.NormalForm

/-!
# Chains Written Group by Group

Many chains are written as groups, one after another: the first member of a group is linked
by `or`, and the others join it by `and`.  Cutting such a chain before every `or` gives the
groups back (`segments_flatten`), so it holds exactly if some group holds with all of its
members (`normalForm_flatten`).
-/

namespace DiceOdds.Chain

variable {ι : Type} {link : ι → Option Link} {score : ι → Bool}

/-- The first member opens the group, and the others join it. -/
inductive IsGroup (link : ι → Option Link) : List ι → Prop where
  | opened {x : ι} {rest : List ι} (hopen : link x = some .or)
      (hjoin : ∀ y ∈ rest, link y = some .and) : IsGroup link (x :: rest)

namespace IsGroup

theorem ne_nil {g : List ι} (h : IsGroup link g) : g ≠ [] := by
  cases h
  exact List.cons_ne_nil _ _

/-- No member but the first one needs a cut. -/
theorem isChain {g : List ι} (h : IsGroup link g) (score : ι → Bool) :
    (g.map fun x => (link x, score x)).IsChain fun _ y => (y.1 != some .or) = true := by
  cases h with
  | @opened x rest hopen hjoin =>
    rw [List.map_cons]
    refine isChain_cons_of_forall _ fun entry hentry => ?_
    obtain ⟨y, hy, rfl⟩ := List.mem_map.mp hentry
    rw [hjoin y hy]
    rfl

/-- The first member is cut off from whatever stands before it. -/
theorem cut {g : List ι} (h : IsGroup link g) (score : ι → Bool)
    (hne : (g.map fun x => (link x, score x)) ≠ []) :
    (((g.map fun x => (link x, score x)).head hne).1 != some .or) = false := by
  cases h with
  | opened hopen hjoin =>
    rw [List.head_map, List.head_cons, hopen]
    rfl

end IsGroup

/-- Cutting before every `or` gives the groups back. -/
theorem segments_flatten {groups : List (List ι)} (h : ∀ g ∈ groups, IsGroup link g) :
    segments (groups.flatten.map link) (groups.flatten.map score) =
      groups.map (List.map fun x => (link x, score x)) := by
  rw [segments, List.zip_map', List.map_flatten]
  refine List.splitBy_flatten ?_ ?_ ?_
  · intro hnil
    obtain ⟨g, hg, hmap⟩ := List.mem_map.mp hnil
    exact (h g hg).ne_nil (List.map_eq_nil_iff.mp hmap)
  · intro segment hsegment
    obtain ⟨g, hg, rfl⟩ := List.mem_map.mp hsegment
    exact (h g hg).isChain score
  · -- neighbouring or not, a group is always cut off from the one before it
    refine (List.pairwise_of_forall_mem_list fun a ha b hb => ?_).isChain
    obtain ⟨g, hg, rfl⟩ := List.mem_map.mp ha
    obtain ⟨g', hg', rfl⟩ := List.mem_map.mp hb
    have hne := (h g hg).ne_nil
    have hne' := (h g' hg').ne_nil
    exact ⟨by simpa using hne, by simpa using hne', (h g' hg').cut score _⟩

/-- **A chain of groups holds if some group holds with all of its members.** -/
theorem normalForm_flatten {groups : List (List ι)} (h : ∀ g ∈ groups, IsGroup link g) :
    normalForm (groups.flatten.map link) (groups.flatten.map score) =
      groups.any fun g => g.all score := by
  have hall : ∀ g : List ι, (g.map fun x => (link x, score x)).all Prod.snd = g.all score :=
    fun g => List.all_map
  rw [normalForm, segments_flatten h, List.any_map]
  exact congrArg groups.any (funext hall)

end DiceOdds.Chain
