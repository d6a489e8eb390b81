import ManchesterArcana.Rules.Health

/-!
# `Rules.Resources` — class resources, class features and rests

Each class and level has a fixed set of pools with fixed maxima (`RuntimeResources.new`); a valid record has
exactly those pools, each filled somewhere between empty and full. Features and rests spend and refill them.
-/

namespace ManchesterArcana.Rules

open Effect

/-! ## Pools -/

structure ResourceCounter where
  kind : ResourceKind
  current : Nat
  maximum : Nat
  deriving DecidableEq

namespace ResourceCounter

def full (kind : ResourceKind) (maximum : Nat) : ResourceCounter := ⟨kind, maximum, maximum⟩

def validate (c : ResourceCounter) : RulesMatrixResult Unit :=
  rejectIf (c.maximum = 0 ∨ c.current > c.maximum) (.invalidState "resource counter is outside its maximum")

/-- Take one unit out of the pool. -/
def spend (c : ResourceCounter) : RulesMatrixResult ResourceCounter := do
  c.validate
  rejectIf (c.current = 0) (.invalidIntent "class resource is unavailable")
  return { c with current := c.current - 1 }

def restoreAll (c : ResourceCounter) : ResourceCounter := { c with current := c.maximum }

/-- The pool is the one `expected` describes, however far it is spent. -/
def Within (c expected : ResourceCounter) : Prop :=
  c.kind = expected.kind ∧ c.maximum = expected.maximum ∧ c.current ≤ c.maximum

end ResourceCounter

structure RuntimeResources where
  schemaVersion : Nat
  heroClass : HeroClass
  level : SupportedLevel
  hitDice : ResourceCounter
  secondWind : Option ResourceCounter
  actionSurge : Option ResourceCounter
  levelOneSpellSlots : Option ResourceCounter
  arcaneRecovery : Option ResourceCounter
  deriving DecidableEq

/-- Both pools absent, or both present with the same kind and maximum. -/
def optionResourceShape : Option ResourceCounter → Option ResourceCounter → Bool
  | none, none => true
  | some actual, some expected =>
    decide (actual.kind = expected.kind) && decide (actual.maximum = expected.maximum)
  | _, _ => false

namespace RuntimeResources

def new (heroClass : HeroClass) (level : SupportedLevel) : RuntimeResources :=
  let hitDice := ResourceCounter.full
    (match heroClass with | .fighter => .hitDiceD10 | .wizard => .hitDiceD6) level.value
  match heroClass with
  | .fighter =>
    { schemaVersion := rulesMatrixSchemaVersion
      heroClass, level, hitDice
      secondWind := some (.full .secondWind 1)
      actionSurge := if level = .two then some (.full .actionSurge 1) else none
      levelOneSpellSlots := none
      arcaneRecovery := none }
  | .wizard =>
    { schemaVersion := rulesMatrixSchemaVersion
      heroClass, level, hitDice
      secondWind := none
      actionSurge := none
      levelOneSpellSlots := some (.full .levelOneSpellSlots (if level = .one then 2 else 3))
      arcaneRecovery := some (.full .arcaneRecovery 1) }

/-- The class pools in the order the source lists them. -/
def pools (r : RuntimeResources) : List ResourceCounter :=
  [r.secondWind, r.actionSurge, r.levelOneSpellSlots, r.arcaneRecovery].filterMap id

def validate (r : RuntimeResources) : RulesMatrixResult Unit := do
  rejectIf (r.schemaVersion ≠ rulesMatrixSchemaVersion)
    (.invalidState "runtime resource schema version is unsupported")
  r.hitDice.validate
  checkAll ResourceCounter.validate r.pools
  let expected := new r.heroClass r.level
  rejectIf (¬ (r.hitDice.kind = expected.hitDice.kind ∧ r.hitDice.maximum = expected.hitDice.maximum ∧
      optionResourceShape r.secondWind expected.secondWind ∧
      optionResourceShape r.actionSurge expected.actionSurge ∧
      optionResourceShape r.levelOneSpellSlots expected.levelOneSpellSlots ∧
      optionResourceShape r.arcaneRecovery expected.arcaneRecovery))
    (.invalidState "runtime resources do not match class and level")

def hasSpellSlot (r : RuntimeResources) : Bool :=
  r.levelOneSpellSlots.any (·.current > 0)

def spendSpellSlot (r : RuntimeResources) : RulesMatrixResult RuntimeResources := do
  let slots ← okOr r.levelOneSpellSlots (unsupportedMechanic "resource.level-one-spell-slot")
  let slots ← slots.spend
  return { r with levelOneSpellSlots := some slots }

/-- Every present pool is full again. -/
def restorePools (r : RuntimeResources) : RuntimeResources :=
  { r with
    secondWind := r.secondWind.map .restoreAll
    actionSurge := r.actionSurge.map .restoreAll
    levelOneSpellSlots := r.levelOneSpellSlots.map .restoreAll
    arcaneRecovery := r.arcaneRecovery.map .restoreAll }

/-! ### The invariant -/

/-- Two optional pools agree in presence, and where present the first is the second, partly spent. -/
def OptionWithin : Option ResourceCounter → Option ResourceCounter → Prop
  | none, none => True
  | some actual, some expected => actual.Within expected
  | _, _ => False

structure Valid (r : RuntimeResources) : Prop where
  schema : r.schemaVersion = rulesMatrixSchemaVersion
  hitDice : r.hitDice.Within (new r.heroClass r.level).hitDice
  secondWind : OptionWithin r.secondWind (new r.heroClass r.level).secondWind
  actionSurge : OptionWithin r.actionSurge (new r.heroClass r.level).actionSurge
  levelOneSpellSlots : OptionWithin r.levelOneSpellSlots (new r.heroClass r.level).levelOneSpellSlots
  arcaneRecovery : OptionWithin r.arcaneRecovery (new r.heroClass r.level).arcaneRecovery

/-- A pool passes its own check and has the expected shape when it is the expected pool, partly spent. -/
theorem optionWithin_iff {actual expected : Option ResourceCounter}
    (hpos : ∀ e ∈ expected, e.maximum ≠ 0) :
    OptionWithin actual expected ↔
      (∀ c ∈ actual, c.validate = .ok ()) ∧ optionResourceShape actual expected = true := by
  rcases actual with _ | a <;> rcases expected with _ | e <;>
    simp [OptionWithin, optionResourceShape, ResourceCounter.Within, ResourceCounter.validate]
  have he : e.maximum ≠ 0 := hpos e rfl
  constructor
  · rintro ⟨hk, hm, hc⟩
    exact ⟨⟨by omega, hc⟩, hk, hm⟩
  · rintro ⟨⟨_, hc⟩, hk, hm⟩
    exact ⟨hk, hm, hc⟩

theorem new_pools_pos {c : HeroClass} {l : SupportedLevel} :
    (new c l).hitDice.maximum ≠ 0 ∧ (∀ e ∈ (new c l).secondWind, e.maximum ≠ 0) ∧
      (∀ e ∈ (new c l).actionSurge, e.maximum ≠ 0) ∧
      (∀ e ∈ (new c l).levelOneSpellSlots, e.maximum ≠ 0) ∧
      ∀ e ∈ (new c l).arcaneRecovery, e.maximum ≠ 0 := by
  cases c <;> cases l <;> simp [new, ResourceCounter.full, SupportedLevel.value]

theorem mem_pools {r : RuntimeResources} {c : ResourceCounter} :
    c ∈ r.pools ↔ c ∈ r.secondWind ∨ c ∈ r.actionSurge ∨ c ∈ r.levelOneSpellSlots ∨
      c ∈ r.arcaneRecovery := by
  simp [pools, Option.mem_def, eq_comm]

/-- **The check decides the invariant.** -/
theorem validate_eq_ok {r : RuntimeResources} : r.validate = .ok () ↔ r.Valid := by
  obtain ⟨hd, hsw, has, hsl, har⟩ := new_pools_pos (c := r.heroClass) (l := r.level)
  have hdice : r.hitDice.Within (new r.heroClass r.level).hitDice ↔ r.hitDice.validate = .ok () ∧
      r.hitDice.kind = (new r.heroClass r.level).hitDice.kind ∧
      r.hitDice.maximum = (new r.heroClass r.level).hitDice.maximum := by
    simp only [ResourceCounter.Within, ResourceCounter.validate, rejectIf_eq_ok, not_or, Nat.not_lt]
    exact ⟨fun ⟨hk, hm, hc⟩ => ⟨⟨by omega, hc⟩, hk, hm⟩, fun ⟨⟨_, hc⟩, hk, hm⟩ => ⟨hk, hm, hc⟩⟩
  simp only [validate, seq_eq_ok, rejectIf_eq_ok, checkAll_eq_ok, not_not, mem_pools]
  constructor
  · rintro ⟨hs, hdv, hp, hk, hm, h₁, h₂, h₃, h₄⟩
    exact ⟨hs, hdice.mpr ⟨hdv, hk, hm⟩,
      (optionWithin_iff hsw).mpr ⟨fun c hc => hp c (.inl hc), h₁⟩,
      (optionWithin_iff has).mpr ⟨fun c hc => hp c (.inr (.inl hc)), h₂⟩,
      (optionWithin_iff hsl).mpr ⟨fun c hc => hp c (.inr (.inr (.inl hc))), h₃⟩,
      (optionWithin_iff har).mpr ⟨fun c hc => hp c (.inr (.inr (.inr hc))), h₄⟩⟩
  · intro hv
    obtain ⟨hdv, hk, hm⟩ := hdice.mp hv.hitDice
    obtain ⟨p₁, h₁⟩ := (optionWithin_iff hsw).mp hv.secondWind
    obtain ⟨p₂, h₂⟩ := (optionWithin_iff has).mp hv.actionSurge
    obtain ⟨p₃, h₃⟩ := (optionWithin_iff hsl).mp hv.levelOneSpellSlots
    obtain ⟨p₄, h₄⟩ := (optionWithin_iff har).mp hv.arcaneRecovery
    refine ⟨hv.schema, hdv, ?_, hk, hm, h₁, h₂, h₃, h₄⟩
    rintro c (hc | hc | hc | hc)
    exacts [p₁ c hc, p₂ c hc, p₃ c hc, p₄ c hc]

end RuntimeResources

/-- Grants the one supported fighter bonus-action option for the current turn. -/
def grantSupportedBonusAction (resources : RuntimeResources) (economy : ActionEconomy) :
    RulesMatrixResult ActionEconomy := do
  resources.validate
  return if resources.secondWind.any (·.current > 0) then economy.grantBonusAction else economy

/-! ## Class features -/

structure SecondWindResolution where
  healingRoll : Nat
  levelBonus : Nat
  healing : HealingResolution
  deriving DecidableEq

/-- Largest value of an 8-bit counter. -/
def maxU8 : Nat := 255

/-- Ask for one die as a byte. -/
def rollByte (sides : Nat) : Rolling RulesMatrixError Nat := do
  let value ← Prog.question sides
  Prog.reject (value > maxU8) (.invalidState "dice source value overflowed")
  Prog.reject (¬ InRange sides value) (.core (.invalidDieRoll sides value))
  return value

def useSecondWind (resources : RuntimeResources) (economy : ActionEconomy) (health : HealthState) :
    Rolling (RulesMatrixError × RuntimeResources × ActionEconomy × HealthState)
      (SecondWindResolution × RuntimeResources × ActionEconomy × HealthState) := do
  -- every failure happens before the first write
  let before := (resources, economy, health)
  Prog.lift (leaving before resources.validate)
  Prog.lift (leaving before health.validate)
  Prog.reject (resources.heroClass ≠ .fighter) (unsupportedMechanic "feature.second-wind", before)
  Prog.reject (economy.bonusActionAvailable = false)
    (.invalidIntent "second wind requires the available bonus action", before)
  Prog.reject (resources.secondWind.all (·.current = 0))
    (.invalidIntent "second wind resource is unavailable", before)
  let healingRoll ← (rollByte 10).mapErr (·, before)
  let secondWind ← Prog.expect resources.secondWind
    "validated fighter resources contain second wind"
  let secondWind ← Prog.lift (leaving before secondWind.spend)
  let (healing, nextHealth) ← Prog.lift
    ((applyHealing health (healingRoll + resources.level.value)).mapError fun e => (e.1, before))
  let nextEconomy ← Prog.lift (leaving before ((economy.spend .bonusAction).mapError .core))
  return ({ healingRoll, levelBonus := resources.level.value, healing },
    { resources with secondWind := some secondWind }, nextEconomy, nextHealth)

def useActionSurge (resources : RuntimeResources) (economy : ActionEconomy) :
    Mutating (RuntimeResources × ActionEconomy) (Unit × RuntimeResources × ActionEconomy) := do
  let before := (resources, economy)
  leaving before resources.validate
  leaving before (rejectIf (economy.actionAvailable)
    (.invalidIntent "action surge is only needed after spending the action"))
  let pool ← leaving before (okOr resources.actionSurge (unsupportedMechanic "feature.action-surge"))
  let pool ← leaving before pool.spend
  return ((), { resources with actionSurge := some pool }, { economy with actionAvailable := true })

/-! ## Rests -/

structure ShortRestRequest where
  hitDiceToSpend : Nat
  useArcaneRecovery : Bool
  deriving DecidableEq

structure RestResolution where
  hitDieRolls : List Nat
  hitPointsRecovered : Nat
  hitDiceRecovered : Nat
  spellSlotsRecovered : Nat
  resultingHealth : HealthState
  resultingResources : RuntimeResources
  deriving DecidableEq

structure HitDieSpendResolution where
  hitDie : ResourceKind
  roll : Nat
  constitutionModifier : Int8
  healingTotal : Nat
  hitPointsRecovered : Nat
  conditionChanges : List HealthConditionChange
  resultingHealth : HealthState
  resultingResources : RuntimeResources
  deriving DecidableEq

def hitDieSides (resources : RuntimeResources) : RulesMatrixResult Nat :=
  match resources.hitDice.kind with
  | .hitDiceD6 => .ok 6
  | .hitDiceD10 => .ok 10
  | _ => .error (.invalidState "runtime hit-die resource has the wrong kind")

/-- The constitution modifiers a creature can have. -/
def constitutionInRange (modifier : Int8) : Prop := -5 ≤ modifier.toInt ∧ modifier.toInt ≤ 10

instance (modifier : Int8) : Decidable (constitutionInRange modifier) :=
  inferInstanceAs (Decidable (_ ∧ _))

def validateHitDieSpend (resources : RuntimeResources) (health : HealthState)
    (constitutionModifier : Int8) : RulesMatrixResult Nat := do
  resources.validate
  health.validate
  rejectIf (health.vitalStatus = .dead ∨ resources.hitDice.current = 0)
    (.invalidIntent "a living hero with an available hit die is required")
  rejectIf (¬ constitutionInRange constitutionModifier)
    (.invalidIntent "constitution modifier is outside the creature range")
  hitDieSides resources

/-- Hit points a hit die restores before the maximum caps it: face plus modifier, never negative. -/
def hitDieHealing (face : Nat) (constitutionModifier : Int8) : Nat :=
  (face + constitutionModifier.toInt).toNat

/-- Spends exactly one hit die after a validated short rest. -/
def spendHitDie (resources : RuntimeResources) (health : HealthState) (constitutionModifier : Int8) :
    Rolling (RulesMatrixError × RuntimeResources × HealthState)
      (HitDieSpendResolution × RuntimeResources × HealthState) := do
  let before := (resources, health)
  let dieSides ← Prog.lift (leaving before (validateHitDieSpend resources health constitutionModifier))
  let value ← Prog.question dieSides
  Prog.reject (¬ InRange dieSides value) (.core (.invalidDieRoll dieSides value), before)
  let healingTotal := hitDieHealing value constitutionModifier
  let nextResources := { resources with
    hitDice := { resources.hitDice with current := resources.hitDice.current - 1 } }
  let (hitPointsRecovered, conditionChanges, nextHealth) ←
    if healingTotal = 0 then pure (0, [], health)
    else do
      let (healing, next) ← Prog.lift
        ((applyHealing health healingTotal).mapError fun e => (e.1, before))
      pure (healing.effectiveHealing, healing.conditionChanges, next)
  Prog.lift (leaving before nextResources.validate)
  Prog.lift (leaving before nextHealth.validate)
  return (
    { hitDie := resources.hitDice.kind
      roll := value
      constitutionModifier, healingTotal, hitPointsRecovered, conditionChanges
      resultingHealth := nextHealth
      resultingResources := nextResources }, nextResources, nextHealth)

def validateArcaneRecoveryRequest (resources : RuntimeResources) (requested : Bool) :
    RulesMatrixResult Unit := do
  if requested = false then return ()
  let recovery ← okOr resources.arcaneRecovery (unsupportedMechanic "feature.arcane-recovery")
  let slots ← okOr resources.levelOneSpellSlots (unsupportedMechanic "resource.level-one-spell-slot")
  rejectIf (recovery.current = 0 ∨ slots.current = slots.maximum)
    (.invalidIntent "arcane recovery or a missing spell slot is unavailable")

/-- Spend `n` more hit dice one after the other, on top of the faces and hit points collected so far. -/
def spendHitDice (constitutionModifier : Int8) : Nat → List Nat → Nat → RuntimeResources → HealthState →
    Rolling RulesMatrixError (List Nat × Nat × RuntimeResources × HealthState)
  | 0, rolls, recovered, resources, health => pure (rolls, recovered, resources, health)
  | n + 1, rolls, recovered, resources, health => do
    let (spend, resources, health) ← (spendHitDie resources health constitutionModifier).mapErr Prod.fst
    Prog.reject (recovered + spend.hitPointsRecovered > maxU16) .arithmeticOverflow
    spendHitDice constitutionModifier n (rolls ++ [spend.roll]) (recovered + spend.hitPointsRecovered)
      resources health

/-- Benefits of a completed short rest. -/
def takeShortRest (resources : RuntimeResources) (health : HealthState) (constitutionModifier : Int8)
    (request : ShortRestRequest) :
    Rolling (RulesMatrixError × RuntimeResources × HealthState)
      (RestResolution × RuntimeResources × HealthState) := do
  let before := (resources, health)
  Prog.lift (leaving before resources.validate)
  Prog.lift (leaving before health.validate)
  Prog.reject (health.vitalStatus = .dead ∨ request.hitDiceToSpend > resources.hitDice.current)
    (.invalidIntent "short-rest hit dice or health state are invalid", before)
  Prog.reject (¬ constitutionInRange constitutionModifier)
    (.invalidIntent "constitution modifier is outside the creature range", before)
  let _ ← Prog.lift (leaving before (hitDieSides resources))
  Prog.lift (leaving before (validateArcaneRecoveryRequest resources request.useArcaneRecovery))
  let (hitDieRolls, hitPointsRecovered, rested, nextHealth) ←
    (spendHitDice constitutionModifier request.hitDiceToSpend [] 0 resources health).mapErr (·, before)
  let recharged := { rested with
    secondWind := rested.secondWind.map .restoreAll
    actionSurge := rested.actionSurge.map .restoreAll }
  let (spellSlotsRecovered, nextResources) ←
    if request.useArcaneRecovery then do
      let recovery ← Prog.expect recharged.arcaneRecovery
        "validated Arcane Recovery request has its resource"
      let slots ← Prog.expect recharged.levelOneSpellSlots
        "validated wizard resources contain spell slots"
      let recovery ← Prog.lift (leaving before recovery.spend)
      pure (1, { recharged with
        arcaneRecovery := some recovery
        levelOneSpellSlots := some { slots with current := slots.current + 1 } })
    else pure (0, recharged)
  Prog.lift (leaving before nextResources.validate)
  Prog.lift (leaving before nextHealth.validate)
  return (
    { hitDieRolls, hitPointsRecovered
      hitDiceRecovered := 0
      spellSlotsRecovered
      resultingHealth := nextHealth
      resultingResources := nextResources }, nextResources, nextHealth)

/-- Benefits of a completed long rest, for a hero that is up and about. -/
def takeLongRest (resources : RuntimeResources) (health : HealthState) :
    Mutating (RuntimeResources × HealthState) (RestResolution × RuntimeResources × HealthState) := do
  let before := (resources, health)
  leaving before resources.validate
  leaving before health.validate
  leaving before (rejectIf (health.vitalStatus ≠ .active)
    (.invalidIntent "the MVP long rest requires an active hero"))
  let regainLimit := max (resources.hitDice.maximum / 2) 1
  let hitDiceRecovered := min (resources.hitDice.maximum - resources.hitDice.current) regainLimit
  let spellSlotsRecovered := match resources.levelOneSpellSlots with
    | some slots => slots.maximum - slots.current
    | none => 0
  let nextResources := { resources.restorePools with
    hitDice := { resources.hitDice with current := resources.hitDice.current + hitDiceRecovered } }
  let nextHealth := { health with
    current := health.maximum
    temporary := 0
    deathSaves := {}
    vitalStatus := .active }
  leaving before nextResources.validate
  leaving before nextHealth.validate
  return (
    { hitDieRolls := []
      hitPointsRecovered := health.maximum - health.current
      hitDiceRecovered, spellSlotsRecovered
      resultingHealth := nextHealth
      resultingResources := nextResources }, nextResources, nextHealth)

end ManchesterArcana.Rules
