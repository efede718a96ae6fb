import DiceOdds.Odds.Simulation
import DiceOdds.Proofs.Settings.History

/-!
# Runs of Requests

What a request answers in a session, and the session that it leaves behind.  A table that is
given is taken as it is and the session is left alone; a table that is drawn needs the
settings, a legal order and room, in this sequence, and only then is the source moved on.
-/

namespace DiceOdds

namespace Request

variable {σ α β : Type}

/-! ## §1 Steps -/

@[simp] theorem runIn_ofExcept (x : Except Fault α) (s : Session σ) :
    (ofExcept x : Request σ α).runIn s = (x, s) := rfl

/-- The next step runs in the session that the first one leaves, unless that one fails. -/
theorem runIn_bind (x : Request σ α) (next : α → Request σ β) (s : Session σ) :
    (x >>= next).runIn s =
      match x.runIn s with
      | (.error f, s') => (.error f, s')
      | (.ok a, s') => (next a).runIn s' := by
  show (match x.runIn s with
    | (r, s') => (ExceptT.bindCont next r : StateM (Session σ) _) s') = _
  obtain ⟨r, s'⟩ := x.runIn s
  cases r <;> rfl

theorem runIn_bind_of_error {x : Request σ α} {s s' : Session σ} {f : Fault}
    (h : x.runIn s = (.error f, s')) (next : α → Request σ β) :
    (x >>= next).runIn s = (.error f, s') := by
  rw [runIn_bind, h]

theorem runIn_bind_of_ok {x : Request σ α} {s s' : Session σ} {a : α}
    (h : x.runIn s = (.ok a, s')) (next : α → Request σ β) :
    (x >>= next).runIn s = (next a).runIn s' := by
  rw [runIn_bind, h]

/-- A request that succeeds does so step by step. -/
theorem runIn_bind_eq_ok {x : Request σ α} {next : α → Request σ β} {s s' : Session σ} {b : β}
    (h : (x >>= next).runIn s = (.ok b, s')) :
    ∃ a s₁, x.runIn s = (.ok a, s₁) ∧ (next a).runIn s₁ = (.ok b, s') := by
  rw [runIn_bind] at h
  split at h
  · cases h
  · next a s₁ hx => exact ⟨a, s₁, hx, h⟩

theorem runIn_map (f : α → β) (x : Request σ α) (s : Session σ) :
    (f <$> x).runIn s = ((x.runIn s).1.map f, (x.runIn s).2) := by
  rw [← bind_pure_comp, runIn_bind]
  obtain ⟨result, s'⟩ := x.runIn s
  cases result <;> rfl

theorem runIn_map_eq_error_iff {f : α → β} {x : Request σ α} {s s' : Session σ} {fault : Fault} :
    (f <$> x).runIn s = (.error fault, s') ↔ x.runIn s = (.error fault, s') := by
  rw [runIn_map]
  obtain ⟨result, s''⟩ := x.runIn s
  cases result <;> simp [Except.map]

/-- A table that has been drawn has the rolls that its run gives. -/
theorem rows_eq_of_runIn {x : Request σ RollTable} {s s' : Session σ} {t : RollTable}
    (h : x.runIn s = (.ok t, s')) {rows : List Roll}
    (hrows : (x.runIn s).1.toOption.map RollTable.rows = some rows) : t.rows = rows := by
  rw [h] at hrows
  exact Option.some.inj hrows

/-- Reading the settings answers what the cache has to say, and keeps what it keeps. -/
theorem runIn_settings (s : Session σ) :
    (settings : Request σ Settings).runIn s =
      (s.cache.read.1.mapError .badSettings, { s with cache := s.cache.read.2 }) := rfl

theorem runIn_settings_of_ok {s : Session σ} {cfg : Settings} (hcfg : s.cache.read.1 = .ok cfg) :
    (settings : Request σ Settings).runIn s = (.ok cfg, { s with cache := s.cache.read.2 }) := by
  rw [runIn_settings, hcfg]
  rfl

/-- A generator of one's own takes the seed of the settings, and else that of the session. -/
theorem runIn_generator {s : Session σ} {cfg : Settings} (hcfg : s.cache.read.1 = .ok cfg) :
    (generator none : Request σ Random.Permuted).runIn s =
      (.ok (Random.Permuted.ofSeed (cfg.seed.getD s.entropy)),
        { s with cache := s.cache.read.2 }) := by
  rw [generator, runIn_bind_of_ok (runIn_settings_of_ok hcfg)]
  rfl

/-! ## §2 Requests that draw -/

section Draws

variable {x : Request σ α} {draw : σ → α × σ}

/-- The request draws in this way from the shared source, whatever session it is made in, and does
nothing else. -/
def DrawsWith (x : Request σ α) (draw : σ → α × σ) : Prop :=
  ∀ ⦃s : Session σ⦄ ⦃g : σ⦄, s.source = some g →
    x.runIn s = (.ok (draw g).1, { s with source := some (draw g).2 })

theorem DrawsWith.map (h : DrawsWith x draw) (f : α → β) :
    DrawsWith (f <$> x) fun g => (f (draw g).1, (draw g).2) := by
  intro s g hsource
  rw [runIn_map, h hsource]
  rfl

end Draws

/-! ## §3 Drawn tables -/

section Drawn

variable [Memory] [Source σ] {s : Session σ} {g : σ}

private theorem runIn_draw (hsource : s.source = some g) (p : SamplePlan) :
    (draw p).runIn s = (ofExcept (p.carryOut g) >>= fun drawn =>
      set { s with source := some drawn.2 } >>= fun _ => pure drawn.1 :
        Request σ RollTable).runIn s := by
  -- the branch is taken once the source of the session is a value
  obtain ⟨cache, source, entropy⟩ := s
  cases show source = some g from hsource
  rfl

/-- Without room for its table a plan leaves the shared source alone. -/
theorem runIn_draw_of_obstacle (hsource : s.source = some g) {p : SamplePlan} {f : Fault}
    (h : p.obstacle? = some f) : (draw p).runIn s = (.error f, s) := by
  have hcarry : p.carryOut g = .error f := by simp only [SamplePlan.carryOut, h]
  rw [runIn_draw hsource, hcarry]
  rfl

/-- With room for its table a plan draws it from the shared source. -/
theorem runIn_draw_of_room (hsource : s.source = some g) {p : SamplePlan}
    (h : p.obstacle? = none) :
    (draw p).runIn s = (.ok (p.draw g).1, { s with source := some (p.draw g).2 }) := by
  rw [runIn_draw hsource, SamplePlan.carryOut_of_obstacle?_eq_none h]
  rfl

/-- Without a shared source a plan draws its table from a generator of its own. -/
theorem runIn_draw_of_own {cfg : Settings} (hcfg : s.cache.read.1 = .ok cfg)
    (hsource : s.source = none) {p : SamplePlan} (h : p.obstacle? = none) :
    (draw p).runIn s =
      (.ok (p.draw (Random.Permuted.ofSeed (cfg.seed.getD s.entropy))).1,
        { s with cache := s.cache.read.2 }) := by
  have hgenerator := runIn_generator hcfg
  obtain ⟨cache, source, entropy⟩ := s
  cases show source = none from hsource
  -- the generator is started first, and what becomes of it is forgotten
  show (generator none >>= fun g => ofExcept (p.carryOut g) >>= fun drawn => pure drawn.1 :
    Request σ RollTable).runIn _ = _
  rw [runIn_bind_of_ok hgenerator, SamplePlan.carryOut_of_obstacle?_eq_none h]
  rfl

/-- An illegal order is refused in any session. -/
theorem runIn_sampleMany_of_refused {o : SampleOrder} {f : Fault} (h : o.check = .error f)
    (s : Session σ) : (sampleMany o).runIn s = (.error f, s) := by
  rw [sampleMany, h]
  rfl

/-- A legal order is drawn as planned. -/
theorem runIn_sampleMany_of_legal {o : SampleOrder} {p : SamplePlan} (h : o.check = .ok p)
    (s : Session σ) : (sampleMany o).runIn s = (draw p).runIn s := by
  rw [sampleMany, h]
  exact runIn_bind_of_ok (runIn_ofExcept (.ok p) s) draw

theorem runIn_sampleConfigured {cfg : Settings} (hcfg : s.cache.read.1 = .ok cfg)
    (o : OpenOrder) :
    (sampleConfigured o).runIn s =
      (sampleMany (o.fill cfg)).runIn { s with cache := s.cache.read.2 } :=
  runIn_bind_of_ok (runIn_settings_of_ok hcfg) _

end Drawn

/-! ## §4 Simulations -/

section Simulations

variable [Memory] [Source σ] [Numeric α]

/-- A simulation on a table that is given answers for that table, in any session. -/
theorem runIn_simulate_given {rolls : Nested} {t : RollTable} (h : rolls.toTable = .ok t)
    (ds : List Draft) (s : Session σ) :
    (simulate (α := α) ds (.given rolls)).runIn s = (t.simulate ds, s) := by
  -- the drafts come first on both sides
  rw [simulate, runIn_bind, RollTable.simulate]
  cases Draft.checkAll ds with
  | error e => rfl
  | ok cs =>
    show ((table (.given rolls) >>= fun t => ofExcept (t.estimate cs)) : Request σ _).runIn s = _
    rw [table, h]
    rfl

/-- So do the simulations of several lists. -/
theorem runIn_simulateSets_given {rolls : Nested} {t : RollTable} (h : rolls.toTable = .ok t)
    (sets : List (String × List Draft)) (raise : Bool) (s : Session σ) :
    (simulateSets (α := α) sets (.given rolls) raise).runIn s = (t.outcomes raise sets, s) := by
  rw [simulateSets, table, h]
  rfl

end Simulations

end Request

/-! ## §5 Answers -/

variable [Memory] (α : Type) {σ : Type} [Source σ] [Numeric α]

/-- What a session answers to drafts on given rolls. -/
def Session.answer (s : Session σ) (ds : List Draft) (rolls : Nested) :
    Except Fault (Estimate α) :=
  ((Request.simulate ds (.given rolls)).runIn s).1

theorem Session.answer_eq {rolls : Nested} {t : RollTable} (h : rolls.toTable = .ok t)
    (s : Session σ) (ds : List Draft) : s.answer α ds rolls = t.simulate ds := by
  rw [answer, Request.runIn_simulate_given h]

end DiceOdds
