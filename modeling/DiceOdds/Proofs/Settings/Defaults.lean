import DiceOdds.Proofs.FirstSuccess
import DiceOdds.Proofs.Sampling.Orders

/-!
# Safe Defaults

Settings hold, for each field, its default or a number that has passed the check of the field
(`ofTexts_eq_ok_iff`), and the defaults would pass it as well; so whatever a cache answers lies
within the limits (`withinLimits_of_answer`).  The limits are such that a request which leaves its
choices to the settings cannot fail: an order for a die alone leaves room for its table
(`WithinLimits.drawable`), and the horizon for its rolls.  Choices that are made win over the
settings (`OpenOrder.FilledBy`).

**Main statement**: `kept_settings_are_safe_defaults`.
-/

namespace DiceOdds

namespace Settings

/-! ## §1 Fields -/

/-- Whether a number lies within the limits of a field. -/
def Field.Admits (f : Field) (n : Int) : Prop := f.least ≤ n ∧ ∀ g, f.greatest? = some g → n ≤ g

/-- A number is read if the text names one within the limits. -/
theorem readNumber_eq_ok_iff {f : Field} {s : String} {n : Int} :
    readNumber f s = .ok n ↔ readWhole s = .ok n ∧ f.Admits n := by
  unfold readNumber Field.Admits
  cases readWhole s with
  | error fault => simp
  | ok m =>
    cases hgreatest : f.greatest? with
    | none => grind
    | some g => grind

theorem readField_eq_ok_iff {α : Type} {f : Field} {text : Option String} {standard a : α}
    {read : String → Except Cause α} : readField f text standard read = .ok a ↔
      text = none ∧ a = standard ∨ ∃ s, text = some s ∧ read s = .ok a := by
  cases text with
  | none => simp [readField, eq_comm]
  | some s => cases hread : read s <;> simp [readField, hread, Except.mapError]

/-- A field whose default is within its limits holds a number within its limits. -/
theorem admits_of_readField {f : Field} {text : Option String} {standard n : Int}
    (hstandard : f.Admits standard) (h : readField f text standard (readNumber f) = .ok n) :
    f.Admits n := by
  rcases readField_eq_ok_iff.mp h with ⟨-, rfl⟩ | ⟨s, -, hread⟩
  · exact hstandard
  · exact (readNumber_eq_ok_iff.mp hread).2

/-- A seed that is read is the number that the text names. -/
theorem readSeed_eq_ok_iff {s : String} {seed : Option Nat} :
    readSeed s = .ok seed ↔ ∃ n : Nat, seed = some n ∧ readNumber .seed s = .ok (n : Int) := by
  rw [readSeed]
  cases hread : readNumber .seed s with
  | error cause => simp [Except.map]
  | ok m =>
    obtain ⟨n, rfl⟩ := Int.eq_ofNat_of_zero_le (readNumber_bounds hread).1
    simp [Except.map, eq_comm]

variable {texts : Field → Option String} {cfg : Settings}

/-- Settings are read if every field is. -/
theorem ofTexts_eq_ok_iff : ofTexts texts = .ok cfg ↔
    readField .batchSize (texts .batchSize) (TableSize.medium.rolls : Int)
      (readNumber .batchSize) = .ok cfg.batchSize ∧
    readField .diceCount (texts .diceCount) 5 (readNumber .diceCount) = .ok cfg.diceCount ∧
    readField .includeFrozen (texts .includeFrozen) true readBool = .ok cfg.includeFrozen ∧
    readField .seed (texts .seed) none readSeed = .ok cfg.seed ∧
    readField .horizon (texts .horizon) 10000 (readNumber .horizon) = .ok cfg.horizon ∧
    readField .logLevel (texts .logLevel) .info readLevel = .ok cfg.logLevel := by
  constructor
  · intro h
    unfold ofTexts at h
    dsimp only at h
    split at h
    · next hbatch hdice hfrozen hseed hhorizon hlevel =>
      cases h
      exact ⟨hbatch, hdice, hfrozen, hseed, hhorizon, hlevel⟩
    · cases h
  · rintro ⟨hbatch, hdice, hfrozen, hseed, hhorizon, hlevel⟩
    unfold ofTexts
    simp only [hbatch, hdice, hfrozen, hseed, hhorizon, hlevel]

/-- A number outside the limits of its field is refused, and the settings with it. -/
theorem ofTexts_of_not_admits {f : Field} (hf : f ∈ [.batchSize, .diceCount, .seed, .horizon])
    {text : String} {n : Int} (htext : texts f = some text) (hn : readWhole text = .ok n)
    (hout : ¬f.Admits n) : ∃ complaints, ofTexts texts = .error complaints := by
  cases hread : ofTexts texts with
  | error complaints => exact ⟨complaints, rfl⟩
  | ok cfg =>
    exfalso
    obtain ⟨hbatch, hdice, -, hseed, hhorizon, -⟩ := ofTexts_eq_ok_iff.mp hread
    have hgiven : ∀ {α : Type} {standard a : α} {read : String → Except Cause α},
        readField f (texts f) standard read = .ok a → read text = .ok a := by
      intro α standard a read h
      rw [htext] at h
      simpa using readField_eq_ok_iff.mp h
    -- what the field holds is a number that the text names, and there is one only
    have hfield : ∃ m, readNumber f text = .ok m := by
      simp only [List.mem_cons, List.not_mem_nil, or_false] at hf
      rcases hf with rfl | rfl | rfl | rfl
      · exact ⟨_, hgiven hbatch⟩
      · exact ⟨_, hgiven hdice⟩
      · obtain ⟨m, -, hm⟩ := readSeed_eq_ok_iff.mp (hgiven hseed)
        exact ⟨m, hm⟩
      · exact ⟨_, hgiven hhorizon⟩
    obtain ⟨m, hm⟩ := hfield
    obtain ⟨hwhole, hadmits⟩ := readNumber_eq_ok_iff.mp hm
    cases hn.symm.trans hwhole
    exact hout hadmits

end Settings

/-! ## §2 Limits -/

/-- The settings lie within the limits of their fields. -/
structure Settings.WithinLimits (cfg : Settings) : Prop where
  batchSize : 1000 ≤ cfg.batchSize ∧ cfg.batchSize ≤ 100000
  diceCount : 1 ≤ cfg.diceCount ∧ cfg.diceCount ≤ 100
  horizon : 10 ≤ cfg.horizon ∧ cfg.horizon ≤ 100000
  seed : ∀ n, cfg.seed = some n → (0 : Int) ≤ n

theorem Settings.withinLimits_of_ofTexts {texts : Settings.Field → Option String} {cfg : Settings}
    (h : Settings.ofTexts texts = .ok cfg) : cfg.WithinLimits := by
  obtain ⟨hbatch, hdice, -, -, hhorizon, -⟩ := Settings.ofTexts_eq_ok_iff.mp h
  have hlimits : ∀ {f : Field} {least greatest : Int} {n : Int},
      f.least = least → f.greatest? = some greatest → f.Admits n → least ≤ n ∧ n ≤ greatest := by
    rintro f least greatest n rfl hgreatest ⟨hleast, hmost⟩
    exact ⟨hleast, hmost _ hgreatest⟩
  have hstandard : Field.batchSize.Admits (TableSize.medium.rolls : Int) ∧
      Field.diceCount.Admits 5 ∧ Field.horizon.Admits 10000 := by
    simp [Field.Admits, Field.least, Field.greatest?, TableSize.rolls]
  exact {
    batchSize := hlimits rfl rfl (admits_of_readField hstandard.1 hbatch)
    diceCount := hlimits rfl rfl (admits_of_readField hstandard.2.1 hdice)
    horizon := hlimits rfl rfl (admits_of_readField hstandard.2.2 hhorizon)
    seed := fun n _ => Int.natCast_nonneg n }

/-- **Whatever a cache answers lies within the limits.** -/
theorem Settings.Cache.withinLimits_of_answer {e : Environment} {h : List Action} {cfg : Settings}
    (hanswer : answer e h = .ok cfg) : cfg.WithinLimits := by
  obtain ⟨before, -, hsettings⟩ := answer_eq_ok_iff.mp hanswer
  exact withinLimits_of_ofTexts hsettings

/-! ## §3 Open choices -/

/-- An order that names a die and leaves its shape to the settings. -/
def OpenOrder.ofDie (die : Die) (includeFrozen : Option Bool) : OpenOrder where
  die := some die
  includeFrozen := includeFrozen

theorem OpenOrder.count_fill_ofDie (die : Die) (frozen : Option Bool) (cfg : Settings) :
    ((ofDie die frozen).fill cfg).count = cfg.diceCount := by
  simp [SampleOrder.count, effectiveCount, fill, ofDie, Pins.size, Pins.empty]

/-- Within the limits, an order that leaves its shape to the settings leaves room for its table. -/
theorem Settings.WithinLimits.drawable [Memory] {cfg : Settings} (h : cfg.WithinLimits) (die : Die)
    (frozen : Option Bool) : ((OpenOrder.ofDie die frozen).fill cfg).Drawable die := by
  have hcount := OpenOrder.count_fill_ofDie die frozen cfg
  have hdice : 0 ≤ cfg.diceCount := Int.le_trans (by decide) h.diceCount.1
  have hroom : cfg.batchSize * cfg.diceCount < Memory.room := by
    have hmost : cfg.batchSize * cfg.diceCount ≤ 100000 * 100 :=
      Int.mul_le_mul h.batchSize.2 h.diceCount.2 hdice (by decide)
    exact Int.lt_of_le_of_lt hmost Memory.settings_lt_room
  exact {
    die_eq := rfl
    count_pos := hcount ▸ h.diceCount.1
    faces := fun _ he => absurd he List.not_mem_nil
    rolls_pos := Int.le_trans (by decide) h.batchSize.1
    room := hcount ▸ hroom }

/-- An open order is filled from the settings: what is given stays as it is. -/
structure OpenOrder.FilledBy (o : OpenOrder) (cfg : Settings) (order : SampleOrder) : Prop where
  die : order.die = o.die
  pins : order.pins = o.pins
  rolls : ∀ n, o.rolls = some n → order.rolls = n
  rolls_open : o.rolls = none → order.rolls = cfg.batchSize
  diceCount : ∀ n, o.diceCount = some n → order.diceCount = n
  diceCount_open : o.diceCount = none → order.diceCount = cfg.diceCount
  includeFrozen : ∀ b, o.includeFrozen = some b → order.includeFrozen = b
  includeFrozen_open : o.includeFrozen = none → order.includeFrozen = cfg.includeFrozen

theorem OpenOrder.filledBy_fill (o : OpenOrder) (cfg : Settings) : o.FilledBy cfg (o.fill cfg) := by
  constructor <;> simp +contextual [fill]

namespace Request

variable [Memory] {σ : Type} {s : Session σ} {cfg : Settings}

/-- With settings, an order for a die alone is answered with a table of the configured shape. -/
theorem exists_runIn_sampleConfigured_ofDie [Source σ] (hcfg : s.cache.read.1 = .ok cfg)
    (hlimits : cfg.WithinLimits) (die : Die) (frozen : Option Bool) : ∃ t s',
      (sampleConfigured (.ofDie die frozen)).runIn s = (.ok t, s') ∧
      (t.size : Int) = cfg.batchSize ∧ (t.width : Int) = cfg.diceCount ∧
      ∀ r ∈ t.rows, r.OfDie die := by
  have hdrawable := hlimits.drawable die frozen
  obtain ⟨p, t, s', hfollows, -, hgives, hrun⟩ := exists_runIn_sampleConfigured hcfg hdrawable
  have hdie : p.die = die := Option.some.inj (hfollows.die.symm.trans hdrawable.die_eq)
  refine ⟨t, s', hrun, ?_, ?_, hdie ▸ hgives.ofDie⟩
  · rw [hgives.size]
    exact hfollows.rolls
  · rw [hgives.width, hfollows.dice, OpenOrder.count_fill_ofDie]

variable {α : Type} [Numeric α]

/-- A chance is answered over the horizon of the settings. -/
theorem runIn_firstSuccess_open (hcfg : s.cache.read.1 = .ok cfg) (hlimits : cfg.WithinLimits)
    {p : α} (hp : Numeric.isChance p = true) :
    (firstSuccess p none).runIn s =
      (.ok (FirstSuccess.upTo p cfg.horizon.toNat), { s with cache := s.cache.read.2 }) := by
  have hchance : FirstSuccess.requireChance p = .ok () := if_pos hp
  have hpos : 10 ≤ cfg.horizon := hlimits.horizon.1
  have hmost : cfg.horizon ≤ 100000 := hlimits.horizon.2
  have hhorizon : (cfg.horizon.toNat : Int) = cfg.horizon := Int.toNat_of_nonneg (by omega)
  have hanswer : FirstSuccess.ofHorizon p cfg.horizon =
      .ok (FirstSuccess.upTo p cfg.horizon.toNat) := by
    have hroom : cfg.horizon < Storage.rowRoom :=
      Int.lt_of_le_of_lt hmost (Int.lt_trans (by decide) Storage.settings_lt_rowRoom)
    have h := FirstSuccess.ofHorizon_eq_ok p (n := cfg.horizon.toNat) (by omega) (by rwa [hhorizon])
    rwa [hhorizon] at h
  rw [firstSuccess, hchance, runIn_bind_of_ok (runIn_ofExcept _ s), ← hanswer]
  exact runIn_bind_of_ok (runIn_settings_of_ok hcfg) _

end Request

/-! ## §4 Sessions with settings -/

open Settings.Cache

/-- What settings are good for in a session: choices that are left to them cannot be wrong, and
choices that are made win over them. -/
structure Settings.SafeDefaults [Memory] (α : Type) [Numeric α] {σ : Type} [Source σ]
    (s : Session σ) (cfg : Settings) : Prop where
  /-- An order that leaves its shape to the settings is answered with a table of that shape. -/
  drawn : ∀ (die : Die) (frozen : Option Bool), ∃ t s',
    (Request.sampleConfigured (.ofDie die frozen)).runIn s = (.ok t, s') ∧
    (t.size : Int) = cfg.batchSize ∧ (t.width : Int) = cfg.diceCount ∧ ∀ r ∈ t.rows, r.OfDie die
  /-- A chance without a horizon is answered over that of the settings. -/
  covered : ∀ p : α, Numeric.isChance p = true → ∃ d s',
    (Request.firstSuccess p none).runIn s = (.ok d, s') ∧
    d.chance = p ∧ d.status = .populated ∧ (d.points.length : Int) = cfg.horizon
  /-- What an order gives is not looked up. -/
  order : ∀ o : OpenOrder, ∃ order, o.FilledBy cfg order ∧
    (Request.sampleConfigured o).runIn s =
      (Request.sampleMany order).runIn { s with cache := s.cache.read.2 }
  /-- With a horizon the settings are not looked at. -/
  horizon : ∀ (p : α) (n : Int), (Request.firstSuccess p (some n)).runIn s =
    (FirstSuccess.requireChance p >>= fun _ => FirstSuccess.ofHorizon p n, s)

theorem Settings.WithinLimits.safeDefaults [Memory] (α : Type) [Numeric α] {σ : Type} [Source σ]
    {s : Session σ} {cfg : Settings} (hlimits : cfg.WithinLimits)
    (hcfg : s.cache.read.1 = .ok cfg) : cfg.SafeDefaults α s where
  drawn := Request.exists_runIn_sampleConfigured_ofDie hcfg hlimits
  covered p hp := by
    refine ⟨_, _, Request.runIn_firstSuccess_open hcfg hlimits hp, rfl, rfl, ?_⟩
    rw [FirstSuccess.length_points]
    exact Int.toNat_of_nonneg (Int.le_trans (by decide) hlimits.horizon.1)
  order o := ⟨_, o.filledBy_fill cfg, Request.runIn_sampleConfigured hcfg o⟩
  horizon p n := Request.runIn_firstSuccess_given p n s

/-- **Kept settings are safe defaults.**  Over every history of its environment, a cache that is
read answers the settings that the environment described at the first successful reading since the
last reset.  A reading that fails tells what is wrong with the environment and changes nothing; one
fails if nothing is kept and a number is outside its limits.  Whatever is answered lies within the
limits, so that in a session with this cache an order for a die alone and a chance alone are
answered, in the configured shape and over the configured horizon; and what a request gives wins
over the settings. -/
theorem kept_settings_are_safe_defaults [Memory] (e : Settings.Environment) (h : List Action) :
    (∀ cfg, answer e h = .ok cfg ↔ ∃ before, FirstReading e (h ++ [.read]) before ∧
      (environmentAfter e before).settings = .ok cfg) ∧
    (∀ complaints, answer e h = .error complaints →
      (environmentAfter e h).settings = .error complaints ∧ (after e h).kept = none ∧
      after e (h ++ [.read]) = after e h) ∧
    (∀ f ∈ [Settings.Field.batchSize, .diceCount, .seed, .horizon], ∀ text n,
      (environmentAfter e h).texts f = some text → Settings.readWhole text = .ok n →
      ¬f.Admits n → NoneSucceeded e h → ∃ complaints, answer e h = .error complaints) ∧
    (∀ cfg, answer e h = .ok cfg → cfg.WithinLimits ∧
      ∀ (α σ : Type) [Numeric α] [Source σ] (s : Session σ), s.cache = after e h →
        cfg.SafeDefaults α s) := by
  refine ⟨fun cfg => Settings.Cache.answer_eq_ok_iff, fun complaints hanswer => ?_,
    fun f hf text n htext hn hout hfailed => ?_, fun cfg hanswer => ?_⟩
  · obtain ⟨hfailed, hsettings⟩ := Settings.Cache.answer_eq_error_iff.mp hanswer
    exact ⟨hsettings, kept_after_eq_none_iff.mpr hfailed, after_concat_read_of_error hanswer⟩
  · obtain ⟨complaints, hrefused⟩ := Settings.ofTexts_of_not_admits hf htext hn hout
    exact ⟨complaints, Settings.Cache.answer_eq_error_iff.mpr ⟨hfailed, hrefused⟩⟩
  · have hlimits := withinLimits_of_answer hanswer
    refine ⟨hlimits, fun α σ _ _ s hs => hlimits.safeDefaults α ?_⟩
    rw [hs]
    exact hanswer

/-- A variable says that no dice are rolled. -/
def noDiceSet : Settings.Environment where
  assigned := [("DEFAULT_DICE_COUNT", "0")]

/-- Settings are given in variables and in a file. -/
def threeDiceSet : Settings.Environment where
  assigned := [("default_dice_count", "3"), ("Plot_K_Max", "10"), ("DEFAULT_BATCH_SIZE", "1_000")]
  file := some "INCLUDE_FROZEN=no\n"

/-- A reading fails, the environment is mended, a reading succeeds, and the environment is wrong
again. -/
def mendedForAWhile : List Action := [.read, .change threeDiceSet, .read, .change noDiceSet]

/-- What was read while the environment was mended is answered later on, and gives a thousand rolls
of three dice.  A reset drops it, and then a reading fails as the first one did. -/
theorem three_dice_until_reset :
    answer noDiceSet mendedForAWhile =
      .ok { batchSize := 1000, diceCount := 3, includeFrozen := false, horizon := 10 } ∧
    (∀ s : Session Random.Linear, s.cache = after noDiceSet mendedForAWhile → ∃ t s',
      (Request.sampleConfigured (.ofDie .d6 none)).runIn s = (.ok t, s') ∧
      t.size = 1000 ∧ t.width = 3) ∧
    ∃ complaints, answer noDiceSet (mendedForAWhile ++ [.reset]) = .error complaints ∧
      noDiceSet.settings = .error complaints := by
  have hanswer : answer noDiceSet mendedForAWhile =
      .ok { batchSize := 1000, diceCount := 3, includeFrozen := false, horizon := 10 } := by
    decide +kernel
  have hreset : answer noDiceSet (mendedForAWhile ++ [.reset]) =
      .error [{ field := .diceCount, cause := .tooSmall 1 }] := by
    decide +kernel
  refine ⟨hanswer, fun s hs => ?_, _, hreset, ?_⟩
  · obtain ⟨-, hsafe⟩ := (kept_settings_are_safe_defaults noDiceSet mendedForAWhile).2.2.2 _ hanswer
    obtain ⟨t, s', hrun, hsize, hwidth, -⟩ := (hsafe ℚ Random.Linear s hs).drawn .d6 none
    exact ⟨t, s', hrun, Int.natCast_inj.mp hsize, Int.natCast_inj.mp hwidth⟩
  · exact ((kept_settings_are_safe_defaults noDiceSet
      (mendedForAWhile ++ [.reset])).2.1 _ hreset).1

end DiceOdds
