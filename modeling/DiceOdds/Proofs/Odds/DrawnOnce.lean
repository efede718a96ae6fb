import DiceOdds.Proofs.Odds.Drawn
import DiceOdds.Proofs.Odds.Isolation
import DiceOdds.Proofs.Roll.Rows
import DiceOdds.Proofs.Sweep.Points

/-!
# Requests Draw Once

A request that has a table drawn could be made in two steps: draw the table, and then make the
same request with its rolls given.  The checks that come before drawing are the same in both
steps, rolls that were drawn are read back as the table that they come from, and the second step
leaves the session alone.  So every request draws one table, no matter how many lists of drafts
it estimates or how many points it sweeps.

**Main statement**: `requests_draw_once`.
-/

namespace DiceOdds

namespace Request

variable {σ β γ : Type} {o : OpenOrder} {s s' : Session σ} {t : RollTable}

/-! ## §1 One drawing -/

/-- A request for an order answers what it answers, once the table has been drawn, for the rolls
of that table; and it leaves the session as the drawing has left it. -/
structure DrawsOnce (req : Supply → Request σ β) (o : OpenOrder) (s : Session σ) (t : RollTable)
    (s' : Session σ) : Prop where
  run_eq : (req (.drawn o)).runIn s = (req (.given (Nested.ofRows t.rows))).runIn s'
  session_eq : ((req (.drawn o)).runIn s).2 = s'

/-- A check that passes does not come between. -/
theorem DrawsOnce.of_checked (req : γ → Supply → Request σ β) {a : γ}
    (h : DrawsOnce (req a) o s t s') {x : Except Rejection γ} (hx : x = .ok a) :
    DrawsOnce (fun supply => ofChecked x >>= fun a => req a supply) o s t s' := by
  have hpass : ∀ (supply : Supply) (s : Session σ),
      (ofChecked x >>= fun a => req a supply).runIn s = (req a supply).runIn s := by
    intro supply s
    refine runIn_bind_of_ok ?_ _
    rw [hx]
    rfl
  exact ⟨by rw [hpass, hpass, h.run_eq], by rw [hpass, h.session_eq]⟩

variable [Memory] [Source σ]

/-- Drawing the order in session `s` gives the table and leaves session `s'`. -/
def Draws (o : OpenOrder) (s : Session σ) (t : RollTable) (s' : Session σ) : Prop :=
  (sampleConfigured o).runIn s = (.ok t, s')

/-- What is worked out from the table alone needs one drawing. -/
theorem drawsOnce_table (h : Draws o s t s') (f : RollTable → Except Fault β) :
    DrawsOnce (fun supply => table supply >>= fun t => ofExcept (f t)) o s t s' := by
  have hdrawn : (table (.drawn o) >>= fun t => ofExcept (f t) : Request σ β).runIn s =
      (f t, s') := runIn_bind_of_ok h _
  -- the rolls are read back as the table
  have hgiven : (table (.given (Nested.ofRows t.rows)) >>= fun t => ofExcept (f t) :
      Request σ β).runIn s' = (f t, s') := by
    rw [table, t.toTable_ofRows]
    rfl
  exact ⟨hdrawn.trans hgiven.symm, by rw [hdrawn]⟩

/-- A table is drawn from a shared source die after die, and nothing else is drawn. -/
theorem Draws.source {g : σ} (h : Draws o s t s') (hsource : s.source = some g) :
    ∃ die : Die, o.die = some die ∧
      s'.source =
        some
          (Source.collect (Source.drawFrom 1 die.faces die.faces_pos) (t.size * t.width) g).2 := by
  cases hcfg : s.cache.read.1 with
  | error e =>
    -- without settings nothing is drawn
    have hfails : (sampleConfigured o).runIn s =
        (.error (.badSettings e), { s with cache := s.cache.read.2 }) := by
      refine runIn_bind_of_error ?_ _
      rw [runIn_settings, hcfg]
      rfl
    rw [Draws, hfails] at h
    cases h
  | ok cfg =>
    rw [Draws, runIn_sampleConfigured hcfg] at h
    rcases (o.fill cfg).check_cases with ⟨f, hrefused, -⟩ | ⟨p, hplan, hfollows, -⟩
    · rw [runIn_sampleMany_of_refused hrefused] at h
      cases h
    · have hread : ({ s with cache := s.cache.read.2 } : Session σ).source = some g := hsource
      rw [runIn_sampleMany_of_legal hplan] at h
      cases hobstacle : p.obstacle? with
      | some f =>
        rw [runIn_draw_of_obstacle hread hobstacle] at h
        cases h
      | none =>
        rw [runIn_draw_of_room hread hobstacle] at h
        cases h
        refine ⟨p.die, hfollows.die, ?_⟩
        rw [p.size_draw]
        show some (p.draw g).2 = some (Source.collect p.drawDie (p.rolls * p.dice) g).2
        rw [p.source_draw, p.collect_eq_block]

/-! ## §2 All requests -/

section Requests

variable {α : Type} [Numeric α]

/-- Lists on a given table are simulated one by one. -/
theorem runIn_simulateSets_given_raised (t : RollTable) (sets : List (String × List Draft))
    (s : Session σ) :
    (simulateSets (α := α) sets (.given (Nested.ofRows t.rows)) true).runIn s =
      (sets.mapM fun set => (s.answer α set.2 (Nested.ofRows t.rows)).map fun e =>
        (set.1, Outcome.estimated e), s) := by
  rw [runIn_simulateSets_given t.toTable_ofRows, RollTable.outcomes]
  congr 2
  funext set
  rw [Session.answer_eq α t.toTable_ofRows, outcome_raised]
  cases t.simulate (α := α) set.2 <;> rfl

/-- **Requests draw once.**  Once an order can be drawn, simulations of complete drafts, simulations
of any lists side by side, and lines and grids of a complete draft answer for the order what they
answer for the drawn rolls; they fail in the same way if they do, and leave the session as one
drawing leaves it.  From a shared source this takes one number for each die of the table.  All lists
are simulated on that one table, and one list side by side with none is simulated as on its own. -/
theorem requests_draw_once (h : Draws o s t s') :
    (∀ ds cs, Draft.checkAll ds = .ok cs → DrawsOnce (simulate (α := α) ds) o s t s') ∧
    (∀ sets raise, DrawsOnce (fun supply => simulateSets (α := α) sets supply raise) o s t s') ∧
    (∀ d c, d.check true 0 = .ok c →
      (∀ axis, DrawsOnce (sweepLine (α := α) d axis) o s t s') ∧
      DrawsOnce (sweepGrid (α := α) d) o s t s') ∧
    (∀ sets, ((simulateSets (α := α) sets (.drawn o) true).runIn s).1 =
      sets.mapM fun set => (s'.answer α set.2 (Nested.ofRows t.rows)).map fun e =>
        (set.1, .estimated e)) ∧
    (∀ name ds cs, Draft.checkAll ds = .ok cs →
      (simulateSets (α := α) [(name, ds)] (.drawn o) true).runIn s =
        Prod.map (Except.map fun e => [(name, .estimated e)]) id
          ((simulate (α := α) ds (.drawn o)).runIn s)) ∧
    (∀ g, s.source = some g → ∃ die : Die, o.die = some die ∧
      s'.source = some (Source.collect (Source.drawFrom 1 die.faces die.faces_pos)
        (t.size * t.width) g).2) := by
  have hsimulate : ∀ ds cs, Draft.checkAll ds = .ok cs →
      DrawsOnce (simulate (α := α) ds) o s t s' := fun ds cs hcs =>
    DrawsOnce.of_checked (fun cs supply => table supply >>= fun t => ofExcept (t.estimate cs))
      (drawsOnce_table h fun t => t.estimate cs) hcs
  have hsets : ∀ sets raise,
      DrawsOnce (fun supply => simulateSets (α := α) sets supply raise) o s t s' :=
    fun sets raise => drawsOnce_table h fun t => t.outcomes raise sets
  refine ⟨hsimulate, hsets, fun d c hc => ⟨fun axis => ?_, ?_⟩, fun sets => ?_,
    fun name ds cs hcs => ?_, fun g hsource => h.source hsource⟩
  · exact DrawsOnce.of_checked (fun c supply => table supply >>= fun t => ofExcept (t.line c axis))
      (drawsOnce_table h fun t => t.line c axis) hc
  · exact DrawsOnce.of_checked (fun c supply => table supply >>= fun t => ofExcept (t.grid c))
      (drawsOnce_table h fun t => t.grid c) hc
  · rw [(hsets sets true).run_eq, runIn_simulateSets_given_raised]
  · rw [(hsets [(name, ds)] true).run_eq, runIn_simulateSets_given_raised,
      (hsimulate ds cs hcs).run_eq, runIn_simulate_given t.toTable_ofRows]
    simp only [List.mapM_cons, List.mapM_nil, Session.answer_eq α t.toTable_ofRows]
    cases t.simulate (α := α) ds <;> rfl

end Requests

end Request

/-- Three rolls of two dice take six numbers, and that is all that is drawn for one list, for two
of which one is rejected, and for a grid. -/
theorem three_rolls_are_drawn_once :
    ∃ (t : RollTable) (s' : Session Random.Linear) (cs : List Clause) (c : Clause),
      Request.Draws threeRolls rehearsal t s' ∧ t.rows = [[3, 4], [1, 1], [1, 6]] ∧
      rehearsal.source = some ⟨1⟩ ∧
      s'.source = some (Source.collect (Source.drawFrom 1 6 (by decide)) 6 ⟨1⟩).2 ∧
      Draft.checkAll oneAce = .ok cs ∧
      Request.DrawsOnce (Request.simulate (α := ℚ) oneAce) threeRolls rehearsal t s' ∧
      Request.DrawsOnce (fun supply => Request.simulateSets (α := ℚ) [("ace", oneAce), ("", [])]
        supply false) threeRolls rehearsal t s' ∧
      (oneAce.headD {}).check true 0 = .ok c ∧
      Request.DrawsOnce (Request.sweepGrid (α := ℚ) (oneAce.headD {})) threeRolls rehearsal
        t s' := by
  obtain ⟨t, ht⟩ : ∃ t, ((Request.sampleConfigured threeRolls).runIn rehearsal).1 = .ok t :=
    faultOf_eq_none_iff.mp (by decide +kernel)
  have h : Request.Draws threeRolls rehearsal t _ := Prod.ext ht rfl
  have hrows : t.rows = [[3, 4], [1, 1], [1, 6]] := by
    have hdrawn : ((Request.sampleConfigured threeRolls).runIn rehearsal).1.toOption.map
        RollTable.rows = some [[3, 4], [1, 1], [1, 6]] := by decide +kernel
    rw [ht] at hdrawn
    exact Option.some.inj hdrawn
  have hwidth : t.width = 2 := (t.length_of_mem [3, 4] (by simp [hrows])).symm
  obtain ⟨hsimulate, hsets, hsweeps, -, -, hsource⟩ := Request.requests_draw_once (α := ℚ) h
  obtain ⟨die, hdie, hs'⟩ := hsource ⟨1⟩ rfl
  cases hdie
  refine ⟨t, _, _, _, h, hrows, rfl, ?_, rfl, hsimulate oneAce _ rfl, hsets _ false, rfl,
    (hsweeps _ _ rfl).2⟩
  rw [hs', RollTable.size, hrows, hwidth]
  rfl

end DiceOdds
