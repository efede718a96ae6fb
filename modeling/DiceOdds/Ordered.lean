/-!
# Ordered Maps

Lists of keys and values that remember the order in which keys were first mentioned.  A
later mention of a key replaces the value and keeps the place.
-/

namespace DiceOdds.Ordered

variable {κ ν : Type} [DecidableEq κ]

/-- Replaces the value of a key that is present, or adds the key at the end. -/
def put (key : κ) (value : ν) : List (κ × ν) → List (κ × ν)
  | [] => [(key, value)]
  | e :: rest => if e.1 = key then (key, value) :: rest else e :: put key value rest

/-- Puts keys and values in order. -/
def ofList (es : List (κ × ν)) : List (κ × ν) :=
  es.foldl (fun m e => put e.1 e.2 m) []

/-- The keys behind a mention: the old ones, and the new key at the end if it is new. -/
theorem keys_put (key : κ) (value : ν) (m : List (κ × ν)) :
    (put key value m).map Prod.fst =
      if key ∈ m.map Prod.fst then m.map Prod.fst else m.map Prod.fst ++ [key] := by
  induction m with
  | nil => rfl
  | cons e m ih =>
    by_cases h : e.1 = key
    · simp [put, h]
    · have h' : ¬key = e.1 := fun e' => h e'.symm
      simp only [put, h, if_false, List.map_cons, ih, List.mem_cons, h', false_or]
      split <;> rfl

/-- No key is mentioned twice. -/
theorem nodup_keys_put {key : κ} {value : ν} {m : List (κ × ν)} (h : (m.map Prod.fst).Nodup) :
    ((put key value m).map Prod.fst).Nodup := by
  rw [keys_put]
  split
  · exact h
  · next hmem =>
    rw [List.nodup_append]
    refine ⟨h, by simp, ?_⟩
    intro a ha b hb hab
    have hb' : b = key := by simpa using hb
    exact hmem (hb' ▸ hab ▸ ha)

theorem nodup_keys_foldl_put (es m : List (κ × ν)) (h : (m.map Prod.fst).Nodup) :
    ((es.foldl (fun m e => put e.1 e.2 m) m).map Prod.fst).Nodup := by
  induction es generalizing m with
  | nil => exact h
  | cons e es ih => exact ih _ (nodup_keys_put h)

theorem nodup_keys_ofList (es : List (κ × ν)) : ((ofList es).map Prod.fst).Nodup :=
  nodup_keys_foldl_put es [] (by simp)

end DiceOdds.Ordered
