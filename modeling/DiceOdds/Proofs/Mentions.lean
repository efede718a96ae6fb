import DiceOdds.Ordered
import Mathlib.Data.List.Find
import Mathlib.Data.List.Induction

/-!
# Repeated Mentions

A list of keys and values may mention a key more than once.  What counts is the value of the last
mention (`last?`); an ordered map keeps just that (`lookup_ofList`), and its keys stand in the order
of their first mentions, so that the first key with a property is the one mentioned first
(`find?_keys_ofList`).
-/

namespace DiceOdds.Ordered

variable {κ ν : Type} [DecidableEq κ]

/-! ## §1 The last mention -/

/-- The value of the last mention of a key. -/
def last? (es : List (κ × ν)) (key : κ) : Option ν := es.reverse.lookup key

theorem lookup_cons_eq (e : κ × ν) (m : List (κ × ν)) (key : κ) :
    (e :: m).lookup key = if key = e.1 then some e.2 else m.lookup key := by
  rw [List.lookup_cons]
  by_cases h : key = e.1
  · rw [if_pos h, beq_iff_eq.mpr h]
  · rw [if_neg h, beq_false_of_ne h]

@[simp] theorem last?_nil (key : κ) : last? ([] : List (κ × ν)) key = none := rfl

/-- A mention behind all others is the last one of its key. -/
theorem last?_concat (es : List (κ × ν)) (e : κ × ν) :
    last? (es ++ [e]) = Function.update (last? es) e.1 (some e.2) := by
  funext key
  rw [last?, List.reverse_append, List.reverse_singleton, List.singleton_append, lookup_cons_eq,
    Function.update_apply]
  rfl

/-- What a key is given last, it is given. -/
theorem mem_of_last? {es : List (κ × ν)} {key : κ} {value : ν} (h : last? es key = some value) :
    (key, value) ∈ es := by
  induction es using List.reverseRecOn with
  | nil => cases h
  | append_singleton es e ih =>
    rw [last?_concat, Function.update_apply] at h
    split at h
    · next hkey =>
      cases h
      exact List.mem_append_right _ (List.mem_singleton.mpr (hkey ▸ rfl))
    · exact List.mem_append_left _ (ih h)

theorem exists_last?_iff {es : List (κ × ν)} {key : κ} :
    (∃ value, last? es key = some value) ↔ key ∈ es.map Prod.fst := by
  induction es using List.reverseRecOn with
  | nil => simp
  | append_singleton es e ih =>
    rw [last?_concat, List.map_append, List.mem_append, ← ih]
    by_cases h : key = e.1
    · simp [h]
    · simp [h]

/-! ## §2 Maps -/

theorem ofList_concat (es : List (κ × ν)) (e : κ × ν) :
    ofList (es ++ [e]) = put e.1 e.2 (ofList es) := by
  rw [ofList, List.foldl_append]
  rfl

theorem lookup_put (key : κ) (value : ν) (m : List (κ × ν)) (k : κ) :
    (put key value m).lookup k = if k = key then some value else m.lookup k := by
  induction m with
  | nil => rw [put, lookup_cons_eq]
  | cons e m ih =>
    rw [put]
    by_cases hkey : e.1 = key
    · -- the key keeps its place and takes the new value
      rw [if_pos hkey, lookup_cons_eq, lookup_cons_eq, hkey]
      split <;> rfl
    · rw [if_neg hkey, lookup_cons_eq, lookup_cons_eq, ih]
      by_cases h : k = e.1
      · rw [if_pos h, if_neg (h ▸ hkey), if_pos h]
      · rw [if_neg h, if_neg h]

/-- **A map holds the value of the last mention.** -/
theorem lookup_ofList (es : List (κ × ν)) (key : κ) : (ofList es).lookup key = last? es key := by
  induction es using List.reverseRecOn with
  | nil => rfl
  | append_singleton es e ih =>
    rw [ofList_concat, lookup_put, ih, last?_concat, Function.update_apply]

/-- The keys of a map are the keys that are mentioned. -/
theorem mem_keys_ofList {es : List (κ × ν)} {key : κ} :
    key ∈ (ofList es).map Prod.fst ↔ key ∈ es.map Prod.fst := by
  induction es using List.reverseRecOn with
  | nil => rfl
  | append_singleton es e ih =>
    rw [ofList_concat, keys_put, List.map_append, List.mem_append, ← ih]
    by_cases h : e.1 ∈ (ofList es).map Prod.fst
    · rw [if_pos h]
      refine ⟨.inl, ?_⟩
      rintro (hkey | hkey)
      · exact hkey
      · exact List.mem_singleton.mp hkey ▸ h
    · rw [if_neg h, List.mem_append]
      rfl

/-- The keys of a map stand in the order of their first mentions: the first one with a property is
the one that is mentioned first. -/
theorem find?_keys_ofList (es : List (κ × ν)) (p : κ → Bool) :
    ((ofList es).map Prod.fst).find? p = (es.map Prod.fst).find? p := by
  induction es using List.reverseRecOn with
  | nil => rfl
  | append_singleton es e ih =>
    rw [ofList_concat, keys_put, List.map_append, List.find?_append, ← ih]
    by_cases h : e.1 ∈ (ofList es).map Prod.fst
    · -- a key that is there already has been looked at before
      rw [if_pos h]
      cases hfind : ((ofList es).map Prod.fst).find? p with
      | some key => rfl
      | none =>
        have hkey : ¬p e.1 = true := List.find?_eq_none.mp hfind e.1 h
        simp [hkey]
    · rw [if_neg h, List.find?_append]
      rfl

/-! ## §3 The first entry with a property -/

/-- Without repeated keys, every entry is found under its key. -/
theorem lookup_of_mem {m : List (κ × ν)} (hnodup : (m.map Prod.fst).Nodup) {e : κ × ν}
    (he : e ∈ m) : m.lookup e.1 = some e.2 := by
  induction m with
  | nil => cases he
  | cons d m ih =>
    obtain ⟨hnew, hrest⟩ := List.nodup_cons.mp hnodup
    rw [lookup_cons_eq]
    rcases List.mem_cons.mp he with rfl | he
    · rw [if_pos rfl]
    · have hne : e.1 ≠ d.1 := fun heq => hnew (heq ▸ List.mem_map_of_mem he)
      rw [if_neg hne, ih hrest he]

/-- Whether a mentioned key has a property, with the value of its last mention. -/
def lastHas (es : List (κ × ν)) (p : κ × ν → Bool) (key : κ) : Bool :=
  (last? es key).any fun value => p (key, value)

theorem lastHas_iff {es : List (κ × ν)} {p : κ × ν → Bool} {key : κ} :
    lastHas es p key = true ↔ ∃ value, last? es key = some value ∧ p (key, value) = true := by
  rw [lastHas, Option.any_eq_true]

/-- The entries of a map are the last mentions. -/
theorem mem_ofList_iff {es : List (κ × ν)} {e : κ × ν} :
    e ∈ ofList es ↔ last? es e.1 = some e.2 := by
  rw [← lookup_ofList]
  constructor
  · exact lookup_of_mem (nodup_keys_ofList es)
  · intro h
    obtain ⟨before, behind, hsplit, -⟩ := List.lookup_eq_some_iff.mp h
    rw [hsplit]
    exact List.mem_append_right _ List.mem_cons_self

theorem map_fst_find?_ofList (es : List (κ × ν)) (p : κ × ν → Bool) :
    ((ofList es).find? p).map Prod.fst = (es.map Prod.fst).find? (lastHas es p) := by
  have hentries : ∀ e ∈ ofList es, lastHas es p e.1 = p e := by
    intro e he
    rw [lastHas, mem_ofList_iff.mp he]
    rfl
  rw [← find?_keys_ofList, List.find?_map]
  exact congrArg (Option.map Prod.fst)
    (List.find?_congr fun e he => (hentries e he).symm)

theorem idxOf_getElem_le {xs : List κ} {j : Nat} (hj : j < xs.length) : xs.idxOf xs[j] ≤ j := by
  by_contra hlt
  have := List.not_of_lt_findIdx (p := (· == xs[j])) (Nat.lt_of_not_le hlt)
  simp at this

/-- What is found occurs no later than anything else with the property. -/
theorem find?_eq_some_iff_idxOf_le {p : κ → Bool} {xs : List κ} {a : κ} :
    xs.find? p = some a ↔
      (a ∈ xs ∧ p a = true) ∧ ∀ b ∈ xs, p b = true → xs.idxOf a ≤ xs.idxOf b := by
  rw [List.find?_eq_some_iff_getElem]
  constructor
  · rintro ⟨hp, i, hi, rfl, hbefore⟩
    refine ⟨⟨List.getElem_mem hi, hp⟩, fun b hb hpb => ?_⟩
    by_contra hlt
    have hplace := idxOf_getElem_le hi
    simpa [hpb] using hbefore (xs.idxOf b) (by omega)
  · rintro ⟨⟨hmem, hp⟩, hleast⟩
    refine ⟨hp, xs.idxOf a, List.idxOf_lt_length_iff.mpr hmem, List.getElem_idxOf _, fun j hj => ?_⟩
    by_contra hpj
    have hlength := List.idxOf_le_length (a := a) (l := xs)
    have := hleast xs[j] (List.getElem_mem _) (by simpa using hpj)
    have := idxOf_getElem_le (show j < xs.length by omega)
    omega

/-- **The first entry with a property** belongs to a key that has it with the value of its last
mention, and that is mentioned before any other such key. -/
theorem find?_ofList_eq_some_iff {es : List (κ × ν)} {p : κ × ν → Bool} {e : κ × ν} :
    (ofList es).find? p = some e ↔
      (last? es e.1 = some e.2 ∧ p e = true) ∧
        ∀ d, last? es d.1 = some d.2 → p d = true →
          (es.map Prod.fst).idxOf e.1 ≤ (es.map Prod.fst).idxOf d.1 := by
  have hkey := map_fst_find?_ofList es p
  constructor
  · intro h
    have hlast := mem_ofList_iff.mp (List.mem_of_find?_eq_some h)
    rw [h] at hkey
    obtain ⟨-, hleast⟩ := find?_eq_some_iff_idxOf_le.mp hkey.symm
    exact ⟨⟨hlast, List.find?_some h⟩, fun d hd hpd =>
      hleast d.1 (exists_last?_iff.mp ⟨_, hd⟩) (lastHas_iff.mpr ⟨_, hd, hpd⟩)⟩
  · rintro ⟨⟨hlast, hp⟩, hleast⟩
    have hfirst : (es.map Prod.fst).find? (lastHas es p) = some e.1 := by
      refine find?_eq_some_iff_idxOf_le.mpr
        ⟨⟨exists_last?_iff.mp ⟨_, hlast⟩, lastHas_iff.mpr ⟨_, hlast, hp⟩⟩, fun key _ hkey => ?_⟩
      obtain ⟨value, hvalue, hpvalue⟩ := lastHas_iff.mp hkey
      exact hleast (key, value) hvalue hpvalue
    obtain ⟨d, hd, hkeys⟩ := Option.map_eq_some_iff.mp (hkey.trans hfirst)
    -- the entry under the key has the last value
    have hvalue := mem_ofList_iff.mp (List.mem_of_find?_eq_some hd)
    rw [hkeys, hlast] at hvalue
    rw [hd, Prod.ext hkeys (Option.some.inj hvalue).symm]

end DiceOdds.Ordered
