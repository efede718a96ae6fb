import DiceOdds.Proofs.Sampling.Shown

/-!
# Repeated Drawings

A table is drawn roll after roll, and the next roll starts where the source has been left.  So it is
drawn as single rolls are, one request after another (`rows_sampleMany`), and a table of `a + b`
rolls is one of `a` rolls and behind it one of `b`.  Whether an order is refused does not depend on
how many rolls it asks for, as long as it asks for some (`refused_or_legal`); the number of rolls
matters for the room that the table takes, and for nothing else.

**Main statement**: `sampleMany_repeats_sampleOne`.
-/

namespace DiceOdds

/-! ## §1 The number of rolls -/

/-- Room for a table is room for any that has fewer rolls. -/
theorem room_of_le [Memory] {m n c : Int} (hm : 0 ≤ m) (hmn : m ≤ n) (h : n * c < Memory.room) :
    m * c < Memory.room := by
  rcases Int.le_total 0 c with hc | hc
  · exact Int.lt_of_le_of_lt (Int.mul_le_mul_of_nonneg_right hmn hc) h
  · have hnone := Int.mul_nonpos_of_nonneg_of_nonpos hm hc
    have hroom := Memory.settings_lt_room
    omega

namespace SampleOrder

variable {o : SampleOrder} {die : Die}

/-- The same order for another number of rolls. -/
def withRolls (o : SampleOrder) (n : Int) : SampleOrder := { o with rolls := n }

@[simp] theorem count_withRolls (o : SampleOrder) (n : Int) : (o.withRolls n).count = o.count := rfl

theorem noDice_withRolls (o : SampleOrder) (n : Int) : (o.withRolls n).noDice = o.noDice := by
  rw [noDice, noDice, count_withRolls]

theorem Legal.withRolls (h : o.Legal die) (n : Int) : (o.withRolls n).Legal die :=
  ⟨h.die_eq, h.count_pos, h.faces⟩

theorem Legal.drawable [Memory] (h : o.Legal die) {n : Int} (hn : 1 ≤ n)
    (hroom : n * o.count < Memory.room) : (o.withRolls n).Drawable die :=
  ⟨h.withRolls n, hn, hroom⟩

/-- An order is refused for any number of rolls, or there is nothing to refuse. -/
theorem refused_or_legal (o : SampleOrder) :
    (∃ f, ∀ n, 1 ≤ n → (o.withRolls n).check = .error f) ∨ ∃ die, o.Legal die := by
  cases hdie : o.die with
  | none => exact .inl ⟨_, fun n _ => check_of_die_eq_none (o := o.withRolls n) hdie⟩
  | some die =>
    rcases Int.lt_or_le 0 o.count with hcount | hcount
    · cases hpins : o.pins.firstIllegal? die.faces with
      | none => exact .inr ⟨die, hdie, hcount, Pins.firstIllegal?_eq_none_iff.mp hpins⟩
      | some e =>
        exact .inl ⟨_, fun n _ => check_of_illegal (o := o.withRolls n) hdie hcount hpins⟩
    · refine .inl ⟨o.noDice, fun n _ => ?_⟩
      rw [check_of_count_le (o := o.withRolls n) hdie hcount, noDice_withRolls]

end SampleOrder

/-- Plans that follow one order up to the number of rolls draw each roll alike. -/
theorem SamplePlan.Follows.drawRoll_eq {σ : Type} [Source σ] {p q : SamplePlan} {o : SampleOrder}
    {m n : Int} (hp : p.Follows (o.withRolls m)) (hq : q.Follows (o.withRolls n))
    (hfrozen : p.frozen = q.frozen) : p.drawRoll (σ := σ) = q.drawRoll := by
  have hdie : p.die = q.die := by
    rw [← Option.some_inj, ← hp.die, ← hq.die]
    rfl
  have hdice : p.dice = q.dice := by
    rw [← Int.natCast_inj, hp.dice, hq.dice]
    rfl
  funext g
  rw [drawRoll, drawRoll, drawDie_eq_of_die_eq hdie, hdice, hfrozen]

/-! ## §2 Requests that draw -/

namespace Request

section Steps

variable {σ α β : Type} {draw : σ → α × σ}

/-- Making a request again and again draws again and again. -/
theorem DrawsWith.mapM_replicate {f : β → Request σ α} {b : β} (h : DrawsWith (f b) draw)
    (n : Nat) : DrawsWith ((List.replicate n b).mapM f) (Source.collect draw n) := by
  induction n with
  | zero =>
    intro s g hsource
    rw [Source.collect_zero, ← hsource]
    rfl
  | succ n ih =>
    intro s g hsource
    -- the later requests find the source as the first one has left it
    rw [List.replicate_succ, List.mapM_cons, runIn_bind_of_ok (h hsource),
      runIn_bind_of_ok (ih rfl), Source.collect_succ]
    rfl

/-- To draw some and then some more is to draw as many at once. -/
theorem DrawsWith.append {x y : Request σ (List α)} {m n : Nat}
    (hx : DrawsWith x (Source.collect draw m)) (hy : DrawsWith y (Source.collect draw n)) :
    DrawsWith (do let xs ← x; let ys ← y; pure (xs ++ ys)) (Source.collect draw (m + n)) := by
  intro s g hsource
  rw [runIn_bind_of_ok (hx hsource), runIn_bind_of_ok (hy rfl), Source.collect_add]
  rfl

end Steps

/-! ## §3 Drawing again and again -/

section Repeated

variable [Memory] {σ : Type} [Source σ] {s s' : Session σ} {g : σ} {o : SampleOrder} {die : Die}

theorem sampleOne_eq (o : SampleOrder) :
    (sampleOne o : Request σ Roll) =
      (List.headD · []) <$> RollTable.rows <$> sampleMany (o.withRolls 1) := by
  rw [Functor.map_map, ← bind_pure_comp]
  rfl

/-- What can become of an order: it is refused, there is no room for its table, or it is drawn. -/
theorem runIn_sampleMany_cases (hsource : s.source = some g) (o : SampleOrder) :
    (∃ f, o.check = .error f ∧ (sampleMany o).runIn s = (.error f, s)) ∨
    (∃ p f, o.check = .ok p ∧ p.obstacle? = some f ∧ (sampleMany o).runIn s = (.error f, s)) ∨
    ∃ p, o.check = .ok p ∧
      (sampleMany o).runIn s = (.ok (p.draw g).1, { s with source := some (p.draw g).2 }) := by
  cases hcheck : o.check with
  | error f => exact .inl ⟨f, rfl, runIn_sampleMany_of_refused hcheck s⟩
  | ok p =>
    rw [runIn_sampleMany_of_legal hcheck]
    cases hobstacle : p.obstacle? with
    | some f => exact .inr (.inl ⟨p, f, rfl, hobstacle, runIn_draw_of_obstacle hsource hobstacle⟩)
    | none => exact .inr (.inr ⟨p, rfl, runIn_draw_of_room hsource hobstacle⟩)

/-- An order that fails leaves the session as it was. -/
theorem session_eq_of_runIn_sampleMany (hsource : s.source = some g) {f : Fault}
    (h : (sampleMany o).runIn s = (.error f, s')) : s' = s := by
  rcases runIn_sampleMany_cases hsource o with ⟨_, -, hrun⟩ | ⟨_, _, -, -, hrun⟩ | ⟨_, -, hrun⟩
  · cases hrun.symm.trans h
    rfl
  · cases hrun.symm.trans h
    rfl
  · cases hrun.symm.trans h

/-- Only a check rejects. -/
theorem runIn_sampleMany_ne_rejected (hsource : s.source = some g) {p : SamplePlan}
    (hcheck : o.check = .ok p) {reason : Rejection} :
    (sampleMany o).runIn s ≠ (.error (.rejected reason), s') := by
  intro h
  rcases runIn_sampleMany_cases hsource o with ⟨_, hrefused, -⟩ | ⟨_, _, -, hobstacle, hrun⟩ |
    ⟨_, -, hrun⟩
  · cases hcheck.symm.trans hrefused
  · cases hrun.symm.trans h
    exact Storage.obstacle?_ne_rejected _ _ hobstacle
  · cases hrun.symm.trans h

/-- The rolls of a drawable order are drawn one after another. -/
theorem exists_drawsWith_rows (σ : Type) [Source σ] (h : o.Drawable die) :
    ∃ p : SamplePlan, p.Follows o ∧ p.frozen = o.kept ∧
      DrawsWith (RollTable.rows <$> sampleMany o : Request σ _)
        (Source.collect p.drawRoll p.rolls) :=
  have ⟨p, hfollows, hfrozen, hdraws⟩ := exists_drawsWith_sampleMany σ h
  ⟨p, hfollows, hfrozen, hdraws.map RollTable.rows⟩

/-- Where a single roll can be drawn, there is one way in which it is drawn, and in which each roll
of a table is drawn. -/
theorem exists_drawsWith (σ : Type) [Source σ] (h : (o.withRolls 1).Drawable die) :
    ∃ draw : σ → Roll × σ, DrawsWith (sampleOne o) draw ∧
      ∀ n : Nat, (o.withRolls n).Drawable die →
        DrawsWith (RollTable.rows <$> sampleMany (o.withRolls n)) (Source.collect draw n) := by
  obtain ⟨p, hp, hpkept, hdraws⟩ := exists_drawsWith_rows σ h
  have hone : p.rolls = 1 := Int.natCast_inj.mp hp.rolls
  refine ⟨p.drawRoll, ?_, fun n hn => ?_⟩
  · -- a single roll is the head of a table of one
    have hhead := hdraws.map (List.headD · [])
    rw [← sampleOne_eq, hone] at hhead
    simpa [Source.collect_succ] using hhead
  · -- the plan for more rolls is another one, but it draws each of them in the same way
    obtain ⟨q, hq, hqkept, hrows⟩ := exists_drawsWith_rows σ hn
    rwa [hq.drawRoll_eq hp (hqkept.trans hpkept.symm), Int.natCast_inj.mp hq.rolls] at hrows

theorem runIn_sampleOne_eq_error_iff {f : Fault} :
    (sampleOne o).runIn s = (.error f, s') ↔
      (sampleMany (o.withRolls 1)).runIn s = (.error f, s') := by
  -- what is done to the table afterwards cannot fail
  rw [sampleOne_eq, runIn_map_eq_error_iff, runIn_map_eq_error_iff]

/-- A table is drawn as single rolls are. -/
theorem rows_sampleMany (hsource : s.source = some g) {n : Nat} (hn : 1 ≤ n)
    (hroom : n * o.count < Memory.room) :
    (RollTable.rows <$> sampleMany (o.withRolls n)).runIn s =
      ((List.replicate n o).mapM sampleOne).runIn s := by
  rcases o.refused_or_legal with ⟨f, hrefused⟩ | ⟨die, hlegal⟩
  · -- the first single roll is refused already
    have htable := runIn_sampleMany_of_refused (hrefused n (by omega)) s
    have hroll := runIn_sampleOne_eq_error_iff.mpr
      (runIn_sampleMany_of_refused (hrefused 1 (by omega)) s)
    obtain ⟨k, rfl⟩ := Nat.exists_eq_add_of_le' hn
    rw [runIn_map_eq_error_iff.mpr htable, List.replicate_succ, List.mapM_cons,
      runIn_bind_of_error hroll]
  · obtain ⟨draw, hone, hmany⟩ :=
      exists_drawsWith σ (hlegal.drawable (by omega) (room_of_le (by omega) (by omega) hroom))
    have htable := hmany n (hlegal.drawable (by omega) hroom)
    rw [htable hsource, hone.mapM_replicate n hsource]

/-- A table is drawn in one part or in two. -/
theorem rows_sampleMany_add (hsource : s.source = some g) {m n : Nat} (hm : 1 ≤ m) (hn : 1 ≤ n)
    (hroom : (m + n) * o.count < Memory.room) :
    (RollTable.rows <$> sampleMany (o.withRolls (m + n))).runIn s =
      (do
        let first ← RollTable.rows <$> sampleMany (o.withRolls m)
        let second ← RollTable.rows <$> sampleMany (o.withRolls n)
        pure (first ++ second) : Request σ (List Roll)).runIn s := by
  rcases o.refused_or_legal with ⟨f, hrefused⟩ | ⟨die, hlegal⟩
  · have htable := runIn_sampleMany_of_refused (hrefused (m + n) (by omega)) s
    have hfirst := runIn_sampleMany_of_refused (hrefused m (by omega)) s
    rw [runIn_map_eq_error_iff.mpr htable, runIn_bind_of_error (runIn_map_eq_error_iff.mpr hfirst)]
  · -- where there is room for all rolls, there is room for each part
    have hdraws : ∀ k : Nat, 1 ≤ k → k ≤ m + n → (o.withRolls k).Drawable die := fun k hk hle =>
      hlegal.drawable (by omega) (room_of_le (by omega) (by omega) hroom)
    obtain ⟨draw, -, hmany⟩ := exists_drawsWith σ (hdraws 1 (by omega) (by omega))
    have htable := hmany (m + n) (hdraws (m + n) (by omega) (by omega))
    have hparts := (hmany m (hdraws m hm (by omega))).append (hmany n (hdraws n hn (by omega)))
    rw [hparts hsource, ← htable hsource, Int.natCast_add]

/-- A table is rejected for what a single roll is rejected for. -/
theorem sampleMany_rejected_iff (hsource : s.source = some g) {n : Nat} (hn : 1 ≤ n)
    {reason : Rejection} :
    (sampleMany (o.withRolls n)).runIn s = (.error (.rejected reason), s') ↔
      (sampleOne o).runIn s = (.error (.rejected reason), s') := by
  rw [runIn_sampleOne_eq_error_iff]
  rcases o.refused_or_legal with ⟨f, hrefused⟩ | ⟨die, hlegal⟩
  · rw [runIn_sampleMany_of_refused (hrefused n (by omega)),
      runIn_sampleMany_of_refused (hrefused 1 (by omega))]
  · -- a legal order may fail for lack of room, but it is not rejected
    obtain ⟨p, hmany, -⟩ := (hlegal.withRolls n).exists_check (show (1 : Int) ≤ n by omega)
    obtain ⟨q, hone, -⟩ := (hlegal.withRolls 1).exists_check (Int.le_refl 1)
    exact iff_of_false (runIn_sampleMany_ne_rejected hsource hmany)
      (runIn_sampleMany_ne_rejected hsource hone)

/-- **A table is drawn as single rolls are**, one request after another: with the same rolls and the
same session at the end, and if single rolls are refused, with the same fault.  So a table can be
drawn in two parts.  What rejects a table of any size rejects a single roll, and the other way
round, and whatever fails leaves the session as it was. -/
theorem sampleMany_repeats_sampleOne (hsource : s.source = some g) (o : SampleOrder) :
    (∀ n : Nat, 1 ≤ n → n * o.count < Memory.room →
      (RollTable.rows <$> sampleMany (o.withRolls n)).runIn s =
        ((List.replicate n o).mapM sampleOne).runIn s) ∧
    (∀ m n : Nat, 1 ≤ m → 1 ≤ n → (m + n) * o.count < Memory.room →
      (RollTable.rows <$> sampleMany (o.withRolls (m + n))).runIn s =
        (do
          let first ← RollTable.rows <$> sampleMany (o.withRolls m)
          let second ← RollTable.rows <$> sampleMany (o.withRolls n)
          pure (first ++ second) : Request σ (List Roll)).runIn s) ∧
    (∀ n : Nat, 1 ≤ n → ∀ reason s',
      (sampleMany (o.withRolls n)).runIn s = (.error (.rejected reason), s') ↔
        (sampleOne o).runIn s = (.error (.rejected reason), s')) ∧
    ∀ (n : Nat) fault s', (sampleMany (o.withRolls n)).runIn s = (.error fault, s') ∨
      (sampleOne o).runIn s = (.error fault, s') → s' = s := by
  refine ⟨fun n hn hroom => rows_sampleMany hsource hn hroom,
    fun m n hm hn hroom => rows_sampleMany_add hsource hm hn hroom,
    fun n hn reason s' => sampleMany_rejected_iff hsource hn, fun n fault s' hfails => ?_⟩
  rcases hfails with hmany | hone
  · exact session_eq_of_runIn_sampleMany hsource hmany
  · exact session_eq_of_runIn_sampleMany hsource (runIn_sampleOne_eq_error_iff.mp hone)

end Repeated

end Request

/-- Three rolls with the second die frozen, at once or one by one; and neither a table nor a roll
where it is frozen to a seven. -/
theorem three_rolls_one_by_one :
    wheel.source = some ⟨[0, 5, 2], []⟩ ∧ 3 * (secondFrozen true).count < Memory.room ∧
    (RollTable.rows <$> Request.sampleMany ((secondFrozen true).withRolls 3)).runIn wheel =
      ((List.replicate 3 (secondFrozen true)).mapM Request.sampleOne).runIn wheel ∧
    (((List.replicate 3 (secondFrozen true)).mapM Request.sampleOne).runIn wheel).1.toOption =
      some [[1, 4, 3, 1, 6], [3, 4, 6, 3, 1], [6, 4, 1, 6, 3]] ∧
    (Request.sampleMany (((secondFrozen true).withPins (Pins.ofList [(1, 7)])).withRolls 3)).runIn
      wheel = (.error (.rejected (.illegalPin 1 7 6)), wheel) := by
  have hthree := (Request.sampleMany_repeats_sampleOne (s := wheel) rfl (secondFrozen true)).1 3
    (by decide) (by decide)
  have hseven := (Request.sampleMany_repeats_sampleOne (s := wheel) rfl
    ((secondFrozen true).withPins (Pins.ofList [(1, 7)]))).2.2.1 3 (by decide) (.illegalPin 1 7 6)
    wheel
  have hwritable : SampleOrder.illegalPin .d6 1 7 = .rejected (.illegalPin 1 7 6) := by
    decide +kernel
  rw [← hwritable] at hseven ⊢
  exact ⟨rfl, by decide, hthree, by decide +kernel, hseven.mpr rfl⟩

/-- As many single rolls as one likes can be drawn where the table of them cannot. -/
theorem endless_ace_is_drawn_roll_by_roll :
    (∃ rolls s',
      ((List.replicate 1152921504606846976 endlessAce).mapM Request.sampleOne).runIn wheel =
        (.ok rolls, s')) ∧
    (RollTable.rows <$> Request.sampleMany (endlessAce.withRolls 1152921504606846976)).runIn wheel ≠
      ((List.replicate 1152921504606846976 endlessAce).mapM Request.sampleOne).runIn wheel := by
  have hlegal : endlessAce.Legal .d6 := ⟨rfl, by decide, by decide⟩
  obtain ⟨draw, hone, -⟩ :=
    Request.exists_drawsWith Random.Cycle (hlegal.drawable (n := 1) (by decide) (by decide))
  have hrolls := hone.mapM_replicate 1152921504606846976 (s := wheel) rfl
  have htable : (Request.sampleMany (endlessAce.withRolls 1152921504606846976)).runIn wheel =
      (.error .tableTooLarge, wheel) := rfl
  refine ⟨⟨_, _, hrolls⟩, fun heq => ?_⟩
  rw [hrolls, Request.runIn_map_eq_error_iff.mpr htable] at heq
  cases heq

end DiceOdds
