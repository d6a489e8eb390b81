import ManchesterArcana.Encounter.Turn

/-!
# `Encounter.Listing` — what a valid state has on offer

`legalActions` interleaves the derivation of the actions with fallible lookups. On a valid state none of the
lookups fails, and an action is listed exactly when it is `Permitted`: one condition for each kind of action,
read off the state. Resolvers are compared with `Permitted`, never with the derivation itself.
-/

namespace ManchesterArcana.Encounter

open Effect Rules
open Option (mem_unique)
open List (mem_append mem_singleton not_mem_nil)

/-! ## Permission -/

/-- A conscious actor's own turn, with nothing in its way. -/
structure OrdinaryTurn (s : EncounterState) (actor : CombatantState) (r : TurnResources) : Prop where
  active : s.status = .active
  undisturbed : s.pendingReaction = false
  current : s.currentActor = some actor
  conscious : actor.lifeStatus = .conscious
  awake : ¬ (actor.id = sootWightId ∧ s.sleeping = true)
  resources : s.turnResources = some r

/-- The hero's own turn, with a rules snapshot. -/
structure HeroTurn (s : EncounterState) (r : TurnResources) (rules : EncounterHeroRulesProfile) : Prop where
  turn : OrdinaryTurn s s.hero r
  snapshot : s.heroRules = some rules

/-- A turn on which the hero can still cast with the action. -/
structure CastingTurn (s : EncounterState) (r : TurnResources) (rules : EncounterHeroRulesProfile)
    (spellcasting : SpellcastingState) : Prop extends HeroTurn s r rules where
  action : r.actionAvailable = true
  casting : rules.spellcasting = some spellcasting

/-- The same under the live schema. -/
structure LiveCastingTurn (s : EncounterState) (r : TurnResources) (rules : EncounterHeroRulesProfile)
    (spellcasting : SpellcastingState) (live : EncounterLiveQ04State) : Prop
    extends CastingTurn s r rules spellcasting where
  schema : s.schemaVersion = encounterSchemaVersion
  runtime : s.liveQ04 = some live

/-- A boundary at which a created hero may rest. -/
structure RestBoundary (s : EncounterState) (live : EncounterLiveQ04State)
    (rules : EncounterHeroRulesProfile) : Prop where
  safe : s.isSafeRestBoundary = true
  schema : s.schemaVersion = encounterSchemaVersion
  runtime : s.liveQ04 = some live
  snapshot : s.heroRules = some rules
  constitution : rules.constitutionModifier.isSome = true

/-- Fire Bolt needs nothing but the action; Magic Missile is prepared and takes a slot. -/
def BoltReady (rules : EncounterHeroRulesProfile) (spellcasting : SpellcastingState) : SpellId → Prop
  | .fireBolt => True
  | .magicMissile => SpellId.magicMissile ∈ spellcasting.prepared ∧
      rules.runtimeResources.hasSpellSlot = true
  | _ => False

/-- **The condition of each kind of action.** -/
def Permitted (s : EncounterState) : LegalEncounterAction → Prop
  | .startEncounter => s.status = .ready
  | .move minimum maximum remaining => ∃ actor r, OrdinaryTurn s actor r ∧ 0 < r.movementRemainingFeet ∧
      minimum = max (actor.positionFeet - r.movementRemainingFeet) s.map.minimumPositionFeet ∧
      maximum = min (actor.positionFeet + r.movementRemainingFeet) s.map.maximumPositionFeet ∧
      remaining = r.movementRemainingFeet
  | .attack attackId targetId rangeFeet => ∃ actor r target attacks attack, OrdinaryTurn s actor r ∧
      r.actionAvailable = true ∧ opposingCombatant s actor.id = some target ∧ target.lifeStatus ≠ .dead ∧
      attacksForActor s actor.id = some attacks ∧ attack ∈ attacks ∧
      distance actor.positionFeet target.positionFeet ≤ attack.rangeFeet ∧ attackId = attack.attackId ∧
      targetId = target.id ∧ rangeFeet = attack.rangeFeet
  | .contextAction actionId => ∃ r, OrdinaryTurn s s.hero r ∧ r.objectInteractionAvailable = true ∧
      s.objectives.contextual.status = .pending ∧
      distance s.hero.positionFeet s.map.sluicePositionFeet ≤ s.map.contextRangeFeet ∧
      actionId = releaseSluiceActionId
  | .castSpell spell targetId rangeFeet => ∃ r rules spellcasting, CastingTurn s r rules spellcasting ∧
      distance s.hero.positionFeet s.creature.positionFeet ≤ 120 ∧ BoltReady rules spellcasting spell ∧
      targetId = s.creature.id ∧ rangeFeet = 120
  | .castLight objectId => ∃ r rules spellcasting live, LiveCastingTurn s r rules spellcasting live ∧
      ∃ object ∈ live.objects, distance s.hero.positionFeet object.positionFeet ≤ 5 ∧
        objectId = object.objectId
  | .castMageHand anchorObjectId => ∃ r rules spellcasting live, LiveCastingTurn s r rules spellcasting live ∧
      ∃ object ∈ live.objects, distance s.hero.positionFeet object.positionFeet ≤ 30 ∧
        anchorObjectId = object.objectId
  | .controlMageHand objectId => ∃ r rules spellcasting live, LiveCastingTurn s r rules spellcasting live ∧
      live.mageHand.isSome = true ∧ s.objectives.contextual.status = .pending ∧
      distance s.hero.positionFeet sluicePositionFeet ≤ 30 ∧ objectId = sluiceLeverObjectId
  | .dismissMageHand => ∃ r rules spellcasting live, LiveCastingTurn s r rules spellcasting live ∧
      live.mageHand.isSome = true
  | .castSleep => ∃ r rules spellcasting live, LiveCastingTurn s r rules spellcasting live ∧
      SpellId.sleep ∈ spellcasting.prepared ∧ live.sleep = none ∧
      distance s.hero.positionFeet s.creature.positionFeet ≤ 90 ∧ rules.runtimeResources.hasSpellSlot = true
  | .castShield => s.pendingReaction = true ∧ shieldReactionAvailable s = true
  | .declineReaction => s.pendingReaction = true
  | .secondWind => ∃ r rules, HeroTurn s r rules ∧ rules.runtimeResources.heroClass = .fighter ∧
      r.bonusActionAvailable = true ∧ rules.runtimeResources.secondWind.any (·.current > 0) = true
  | .actionSurge => ∃ r rules, HeroTurn s r rules ∧ rules.runtimeResources.heroClass = .fighter ∧
      r.actionAvailable = false ∧ rules.runtimeResources.actionSurge.any (·.current > 0) = true
  | .beginShortRest => ∃ live rules, RestBoundary s live rules ∧ live.activeShortRest = none
  | .spendHitDie => ∃ live rules rest, RestBoundary s live rules ∧ live.activeShortRest = some rest ∧
      s.hero.hitPoints.current < s.hero.hitPoints.maximum ∧ rules.runtimeResources.hitDice.current > 0
  | .useArcaneRecovery => ∃ live rules rest, RestBoundary s live rules ∧ live.activeShortRest = some rest ∧
      rest.arcaneRecoveryUsed = false ∧ rules.runtimeResources.arcaneRecovery.any (·.current > 0) = true ∧
      rules.runtimeResources.levelOneSpellSlots.any (fun slots => slots.current < slots.maximum) = true
  | .finishShortRest => ∃ live rules rest, RestBoundary s live rules ∧ live.activeShortRest = some rest
  | .takeLongRest => ∃ live rules, RestBoundary s live rules ∧ live.activeShortRest = none ∧
      longRestAvailable live = true
  | .endTurn => s.status = .active ∧ s.pendingReaction = false ∧
      ∃ actor, s.currentActor = some actor ∧ actor.lifeStatus = .conscious
  | .rollDeathSave => s.status = .active ∧ s.pendingReaction = false ∧
      ∃ actor, s.currentActor = some actor ∧ actor.lifeStatus = .unconscious

/-! ## What the rules matrix has available -/

/-- An unimpaired actor's availability is decided by the economy and the action alone. -/
theorem isActionAvailable_eq_ok (economy : ActionEconomy) (reason : String) {context : ActionContext}
    {blockers : List ActionBlocker} (h : contextBlockers context = .ok blockers) :
    ∃ b, isActionAvailable economy context reason = .ok b ∧
      (b = true ↔ economyBlockers economy {} context = [] ∧ blockers = []) := by
  obtain ⟨a, ha, hiff⟩ := @isAvailable_of_empty economy _ _ h
  refine ⟨a.isAvailable, ?_, hiff⟩
  unfold isActionAvailable
  rw [ha]
  rfl

variable {economy : ActionEconomy}

variable {reason : String} {action : LegalEncounterAction} {spell : SpellId} {target prepared slot : Bool}

/-- An offer lists its action exactly when it is available. -/
theorem offerWhen_yields {context : ActionContext} {blockers : List ActionBlocker}
    (h : contextBlockers context = .ok blockers) :
    Yields (offerWhen (isActionAvailable economy context reason) action) fun a =>
      (economyBlockers economy {} context = [] ∧ blockers = []) ∧ a = action := by
  obtain ⟨b, hb, hiff⟩ := isActionAvailable_eq_ok economy reason h
  unfold offerWhen
  rw [hb]
  refine .ok fun a => ?_
  rw [← hiff]
  cases b <;> simp

/-- A spell that takes the action. -/
theorem castSpell_blockers
    (hs : spell ≠ .shield) :
    (economyBlockers economy {} (.castSpell spell target prepared slot) = [] ∧
      blockWhen (target = false) .invalidTarget ++
        blockWhen (spell.level = 1 ∧ prepared = false) .spellNotPrepared ++
        blockWhen (spell.level = 1 ∧ slot = false) .spellSlotUnavailable = []) ↔
    economy.actionAvailable = true ∧ target = true ∧ (spell.level = 1 → prepared = true ∧ slot = true) := by
  have hres : (ActionContext.castSpell spell target prepared slot).resource = some .action := by
    cases spell <;> first | rfl | exact absurd rfl hs
  simp only [economyBlockers, hres, List.append_eq_nil_iff, blockWhen_eq_nil, Bool.not_eq_false, not_and,
    Bool.false_eq_true, not_false_eq_true, true_and]
  constructor
  · rintro ⟨ha, ⟨ht, hp⟩, hsl⟩
    exact ⟨ha, ht, fun hl => ⟨hp hl, hsl hl⟩⟩
  · rintro ⟨ha, ht, h⟩
    exact ⟨ha, ⟨ht, fun hl => (h hl).1⟩, fun hl => (h hl).2⟩

/-- An offer of a spell that takes the action. -/
theorem offerSpell_yields (hs : spell ≠ .shield) :
    Yields (offerWhen (isActionAvailable economy (.castSpell spell target prepared slot) reason) action)
      fun a => (economy.actionAvailable = true ∧ target = true ∧
        (spell.level = 1 → prepared = true ∧ slot = true)) ∧ a = action :=
  (offerWhen_yields rfl).congr fun _ => and_congr_left fun _ => castSpell_blockers hs

/-! ## The parts of the derivation -/

section Parts

variable {s : EncounterState} {actor target : CombatantState} {r : TurnResources}
  {rules : EncounterHeroRulesProfile} {spellcasting : SpellcastingState} {live : EncounterLiveQ04State}

variable {economy : ActionEconomy} {a : LegalEncounterAction}

theorem mem_moveActions : a ∈ moveActions s actor r ↔
    0 < r.movementRemainingFeet ∧
      a = .move (max (actor.positionFeet - r.movementRemainingFeet) s.map.minimumPositionFeet)
        (min (actor.positionFeet + r.movementRemainingFeet) s.map.maximumPositionFeet)
        r.movementRemainingFeet := by
  unfold moveActions
  split <;> simp_all

theorem mem_attackActions {attacks : List EncounterAttack} :
    a ∈ attackActions actor target r attacks ↔ r.actionAvailable = true ∧ target.lifeStatus ≠ .dead ∧
      ∃ attack ∈ attacks, distance actor.positionFeet target.positionFeet ≤ attack.rangeFeet ∧
        a = .attack attack.attackId target.id attack.rangeFeet := by
  unfold attackActions
  split
  · rename_i h
    simp [h, and_assoc, eq_comm]
  · rename_i h
    simp only [not_mem_nil, false_iff]
    rintro ⟨h₁, h₂, -⟩
    exact h ⟨h₁, h₂⟩

theorem mem_contextActions : a ∈ contextActions s actor r ↔
    (actor.id = canalWardenId ∧ r.objectInteractionAvailable = true ∧
      s.objectives.contextual.status = .pending ∧
      distance actor.positionFeet s.map.sluicePositionFeet ≤ s.map.contextRangeFeet) ∧
      a = .contextAction releaseSluiceActionId := by
  unfold contextActions
  split <;> simp_all

theorem boltActions_yields {spell : SpellId} (hs : spell ≠ .shield) :
    Yields (boltActions rules spellcasting actor target economy spell) fun a =>
      (economy.actionAvailable = true ∧ distance actor.positionFeet target.positionFeet ≤ 120 ∧
        (spell.level = 1 → spell ∈ spellcasting.prepared ∧ rules.runtimeResources.hasSpellSlot = true)) ∧
      a = .castSpell spell target.id 120 := by
  unfold boltActions
  refine (offerSpell_yields hs).congr fun a => and_congr_left fun _ => and_congr_right fun _ =>
    and_congr (by simp) (forall_congr' fun hl => ?_)
  simp [hl]

theorem bolts_yield :
    Yields (gather (boltActions rules spellcasting actor target economy) [.fireBolt, .magicMissile]) fun a =>
      ∃ spell, (economy.actionAvailable = true ∧ distance actor.positionFeet target.positionFeet ≤ 120 ∧
        BoltReady rules spellcasting spell) ∧ a = .castSpell spell target.id 120 := by
  have h : Yields (gather (boltActions rules spellcasting actor target economy) [.fireBolt, .magicMissile])
      fun a => ∃ spell ∈ [SpellId.fireBolt, .magicMissile], (economy.actionAvailable = true ∧
        distance actor.positionFeet target.positionFeet ≤ 120 ∧
        (spell.level = 1 → spell ∈ spellcasting.prepared ∧ rules.runtimeResources.hasSpellSlot = true)) ∧
        a = .castSpell spell target.id 120 :=
    Yields.gather fun spell hmem => boltActions_yields (by rintro rfl; simp at hmem)
  refine h.congr fun a => ?_
  constructor
  · rintro ⟨spell, hmem, ⟨ha, hd, hl⟩, rfl⟩
    refine ⟨spell, ⟨ha, hd, ?_⟩, rfl⟩
    rcases List.mem_cons.mp hmem with rfl | hmem
    · exact trivial
    · obtain rfl := mem_singleton.mp hmem
      exact hl rfl
  · rintro ⟨spell, ⟨ha, hd, hready⟩, rfl⟩
    cases spell with
    | fireBolt => exact ⟨.fireBolt, by simp, ⟨ha, hd, nofun⟩, rfl⟩
    | magicMissile => exact ⟨.magicMissile, by simp, ⟨ha, hd, fun _ => hready⟩, rfl⟩
    | light => exact hready.elim
    | mageHand => exact hready.elim
    | shield => exact hready.elim
    | sleep => exact hready.elim

theorem lights_yield (hc : SpellId.light ∈ spellcasting.cantrips) :
    Yields (gather (lightActions spellcasting actor economy) live.objects) fun a =>
      ∃ object ∈ live.objects, (economy.actionAvailable = true ∧
        distance actor.positionFeet object.positionFeet ≤ 5) ∧ a = .castLight object.objectId := by
  refine Yields.gather fun object _ => ?_
  unfold lightActions
  by_cases hd : distance actor.positionFeet object.positionFeet ≤ 5
  · rw [if_pos ⟨hc, hd⟩]
    refine (offerSpell_yields (by decide)).congr fun a => and_congr_left fun _ => ?_
    exact ⟨fun h => ⟨h.1, hd⟩, fun h => ⟨h.1, rfl, nofun⟩⟩
  · rw [if_neg fun h => hd h.2]
    refine .ok fun a => ?_
    simp only [not_mem_nil, false_iff]
    rintro ⟨⟨-, h⟩, -⟩
    exact hd h

theorem mageHandActions_yields (hc : SpellId.mageHand ∈ spellcasting.cantrips) :
    Yields (mageHandActions live spellcasting actor economy) fun a =>
      ∃ object ∈ live.objects, (economy.actionAvailable = true ∧
        distance actor.positionFeet object.positionFeet ≤ 30) ∧ a = .castMageHand object.objectId := by
  obtain ⟨b, hb, hiff⟩ := @isActionAvailable_eq_ok economy "Mage Hand availability could not be derived"
    (.castSpell .mageHand true true true) _ rfl
  rw [castSpell_blockers (by decide)] at hiff
  have havailable : b = true ↔ economy.actionAvailable = true :=
    hiff.trans ⟨fun h => h.1, fun h => ⟨h, rfl, nofun⟩⟩
  unfold mageHandActions
  rw [if_neg (not_not.mpr hc), hb]
  simp only [← havailable]
  cases b with
  | true =>
    refine .ok fun a => ?_
    simp [and_assoc, eq_comm]
  | false =>
    refine .ok fun a => ?_
    simp

theorem mem_handControlActions :
    a ∈ handControlActions s live actor economy ↔ (live.mageHand.isSome = true ∧ economy.actionAvailable = true) ∧
      ((s.objectives.contextual.status = .pending ∧ distance actor.positionFeet sluicePositionFeet ≤ 30) ∧
        a = .controlMageHand sluiceLeverObjectId ∨ a = .dismissMageHand) := by
  unfold handControlActions
  split
  · rename_i h
    simp only [mem_append, mem_singleton, h, true_and, and_self]
    split <;> simp_all
  · rename_i h
    simp only [not_mem_nil, false_iff]
    exact fun hcon => h hcon.1

theorem sleepActions_yields :
    Yields (sleepActions s live rules spellcasting actor economy) fun a =>
      (SpellId.sleep ∈ spellcasting.prepared ∧ s.creature.lifeStatus = .conscious ∧ live.sleep = none ∧
        economy.actionAvailable = true ∧ distance actor.positionFeet s.creature.positionFeet ≤ 90 ∧
        rules.runtimeResources.hasSpellSlot = true) ∧ a = .castSleep := by
  unfold sleepActions
  by_cases h : SpellId.sleep ∈ spellcasting.prepared ∧ s.creature.lifeStatus = .conscious ∧
      live.sleep.isNone = true
  · rw [if_pos h]
    obtain ⟨hp, hc, hn⟩ := h
    refine (offerSpell_yields (by decide)).congr fun a => and_congr_left fun _ => ?_
    rw [decide_eq_true_iff]
    constructor
    · rintro ⟨ha, hd, hl⟩
      exact ⟨hp, hc, Option.isNone_iff_eq_none.mp hn, ha, hd, (hl rfl).2⟩
    · rintro ⟨-, -, -, ha, hd, hs⟩
      exact ⟨ha, hd, fun _ => ⟨rfl, hs⟩⟩
  · rw [if_neg h]
    refine .ok fun a => ?_
    simp only [not_mem_nil, false_iff]
    rintro ⟨⟨hp, hc, hn, -⟩, -⟩
    exact h ⟨hp, hc, Option.isNone_iff_eq_none.mpr hn⟩

/-- The offers that the live schema adds to the spells. -/
def LiveSpellOffer (s : EncounterState) (live : EncounterLiveQ04State) (rules : EncounterHeroRulesProfile)
    (spellcasting : SpellcastingState) (actor : CombatantState) (economy : ActionEconomy)
    (a : LegalEncounterAction) : Prop :=
  (∃ object ∈ live.objects, (economy.actionAvailable = true ∧
      distance actor.positionFeet object.positionFeet ≤ 5) ∧ a = .castLight object.objectId) ∨
    (∃ object ∈ live.objects, (economy.actionAvailable = true ∧
      distance actor.positionFeet object.positionFeet ≤ 30) ∧ a = .castMageHand object.objectId) ∨
    ((live.mageHand.isSome = true ∧ economy.actionAvailable = true) ∧
      ((s.objectives.contextual.status = .pending ∧ distance actor.positionFeet sluicePositionFeet ≤ 30) ∧
        a = .controlMageHand sluiceLeverObjectId ∨ a = .dismissMageHand)) ∨
    (SpellId.sleep ∈ spellcasting.prepared ∧ s.creature.lifeStatus = .conscious ∧ live.sleep = none ∧
      economy.actionAvailable = true ∧ distance actor.positionFeet s.creature.positionFeet ≤ 90 ∧
      rules.runtimeResources.hasSpellSlot = true) ∧ a = .castSleep

theorem liveSpellActions_yields (hc : spellcasting.cantrips = SpellId.cantrips) :
    Yields (liveSpellActions s live rules spellcasting actor economy)
      (LiveSpellOffer s live rules spellcasting actor economy) := by
  have hcantrip {spell : SpellId} (h : spell ∈ SpellId.cantrips) : spell ∈ spellcasting.cantrips := by
    rw [hc]; exact h
  obtain ⟨lights, hl, hlights⟩ : Yields (gather (lightActions spellcasting actor economy) live.objects) _ :=
    lights_yield (hcantrip (by decide))
  obtain ⟨hands, hh, hhands⟩ : Yields (mageHandActions live spellcasting actor economy) _ :=
    mageHandActions_yields (hcantrip (by decide))
  obtain ⟨sleeps, hs, hsleeps⟩ : Yields (sleepActions s live rules spellcasting actor economy) _ :=
    sleepActions_yields
  refine ⟨lights ++ hands ++ handControlActions s live actor economy ++ sleeps, ?_, fun a => ?_⟩
  · unfold liveSpellActions
    rw [hl, hh, hs]
    rfl
  · rw [mem_append, mem_append, mem_append, hlights, hhands, mem_handControlActions, hsleeps,
      or_assoc, or_assoc]
    exact Iff.rfl

theorem fighterActions_yields :
    Yields (fighterActions rules economy) fun a => rules.runtimeResources.heroClass = .fighter ∧
      ((economy.bonusActionAvailable = true ∧ rules.runtimeResources.secondWind.any (·.current > 0) = true) ∧
        a = .secondWind ∨
      (economy.actionAvailable = false ∧ rules.runtimeResources.actionSurge.any (·.current > 0) = true) ∧
        a = .actionSurge) := by
  unfold fighterActions
  by_cases hf : rules.runtimeResources.heroClass = .fighter
  · rw [if_neg (not_not.mpr hf)]
    obtain ⟨winds, hw, hwinds⟩ : Yields (offerWhen (isActionAvailable economy
        (.secondWind (rules.runtimeResources.secondWind.any (·.current > 0)))
        "Second Wind availability could not be derived") .secondWind) _ := offerWhen_yields rfl
    obtain ⟨surges, hs, hsurges⟩ : Yields (offerWhen (isActionAvailable economy
        (.actionSurge (!economy.actionAvailable && rules.runtimeResources.actionSurge.any (·.current > 0)))
        "Action Surge availability could not be derived") .actionSurge) _ := offerWhen_yields rfl
    rw [hw, hs]
    refine .ok fun a => ?_
    rw [mem_append, hwinds, hsurges]
    simp [economyBlockers, ActionContext.resource, hf]
  · rw [if_pos hf]
    refine .ok fun a => ?_
    simp [hf]

/-- The spells of a caster, whatever the schema version. -/
theorem spellActions_yields (hcast : rules.spellcasting = some spellcasting)
    (hc : spellcasting.cantrips = SpellId.cantrips) :
    Yields (spellActions s rules actor target economy) fun a =>
      (∃ spell, (economy.actionAvailable = true ∧ distance actor.positionFeet target.positionFeet ≤ 120 ∧
        BoltReady rules spellcasting spell) ∧ a = .castSpell spell target.id 120) ∨
      (s.schemaVersion = encounterSchemaVersion ∧ ∃ live, s.liveQ04 = some live ∧
        LiveSpellOffer s live rules spellcasting actor economy a) := by
  obtain ⟨bolts, hb, hbolts⟩ : Yields (gather (boltActions rules spellcasting actor target economy)
    [.fireBolt, .magicMissile]) _ := bolts_yield
  unfold spellActions
  rw [hcast]
  dsimp only
  rw [hb]
  by_cases h3 : s.schemaVersion = encounterSchemaVersion
  · simp only [ok_bind, h3, ne_eq, not_true_eq_false, if_false]
    cases hlive : s.liveQ04 with
    | none => exact .ok fun a => by simp [hbolts]
    | some live =>
      obtain ⟨extra, he, hextra⟩ : Yields (liveSpellActions s live rules spellcasting actor economy) _ :=
        liveSpellActions_yields hc
      dsimp only
      rw [he]
      refine .ok fun a => ?_
      simp [hbolts, hextra]
  · simp only [ok_bind, ne_eq, h3, not_false_eq_true, if_true]
    exact .ok fun a => by simp [hbolts]

end Parts

/-! ## The hero's own actions -/

/-- The kinds of action that a rules snapshot adds. -/
def LegalEncounterAction.fromRules : LegalEncounterAction → Bool
  | .castSpell .. | .castLight _ | .castMageHand _ | .controlMageHand _ | .dismissMageHand | .castSleep
  | .secondWind | .actionSurge => true
  | _ => false

section Snapshot

variable {s : EncounterState} {r r' : TurnResources} {rules rules' : EncounterHeroRulesProfile}
  {spellcasting : SpellcastingState} {live : EncounterLiveQ04State}

theorem OrdinaryTurn.heroTurn_iff (h : OrdinaryTurn s s.hero r) :
    HeroTurn s r' rules ↔ r' = r ∧ s.heroRules = some rules := by
  constructor
  · intro ht
    exact ⟨mem_unique ht.turn.resources h.resources, ht.snapshot⟩
  · rintro ⟨rfl, hs⟩
    exact ⟨h, hs⟩

theorem OrdinaryTurn.castingTurn_iff (h : OrdinaryTurn s s.hero r) :
    CastingTurn s r' rules spellcasting ↔ r' = r ∧ s.heroRules = some rules ∧ r.actionAvailable = true ∧
      rules.spellcasting = some spellcasting := by
  constructor
  · intro ht
    obtain ⟨rfl, hs⟩ := h.heroTurn_iff.mp ht.toHeroTurn
    exact ⟨rfl, hs, ht.action, ht.casting⟩
  · rintro ⟨rfl, hs, ha, hc⟩
    exact ⟨⟨h, hs⟩, ha, hc⟩

theorem OrdinaryTurn.liveCastingTurn_iff (h : OrdinaryTurn s s.hero r) :
    LiveCastingTurn s r' rules spellcasting live ↔ r' = r ∧ s.heroRules = some rules ∧
      r.actionAvailable = true ∧ rules.spellcasting = some spellcasting ∧
      s.schemaVersion = encounterSchemaVersion ∧ s.liveQ04 = some live := by
  constructor
  · intro ht
    obtain ⟨rfl, hs, ha, hc⟩ := h.castingTurn_iff.mp ht.toCastingTurn
    exact ⟨rfl, hs, ha, hc, ht.schema, ht.runtime⟩
  · rintro ⟨rfl, hs, ha, hc, h3, hl⟩
    exact ⟨⟨⟨h, hs⟩, ha, hc⟩, h3, hl⟩

/-- The actions that a snapshot adds are the hero's, on the hero's turn. -/
theorem Permitted.heroTurn {a : LegalEncounterAction} (hp : Permitted s a) (ha : a.fromRules = true) :
    ∃ r rules, HeroTurn s r rules := by
  cases a with
  | castSpell _ _ _ =>
    obtain ⟨r, rules, c, h, -⟩ := hp
    exact ⟨r, rules, h.toHeroTurn⟩
  | castLight _ | castMageHand _ | controlMageHand _ | dismissMageHand | castSleep =>
    obtain ⟨r, rules, c, live, h, -⟩ := hp
    exact ⟨r, rules, h.toHeroTurn⟩
  | secondWind | actionSurge =>
    obtain ⟨r, rules, h, -⟩ := hp
    exact ⟨r, rules, h⟩
  | _ => cases ha

/-- **What the snapshot adds on the hero's turn is what is permitted of its kinds.** -/
theorem rulesActions_hero (hturn : OrdinaryTurn s s.hero r) (hid : s.hero.id = canalWardenId)
    (halive : s.creature.lifeStatus = .conscious) (hvalid : ∀ rules ∈ s.heroRules, rules.Valid) :
    Yields (rulesActions s s.hero s.creature r) fun a => a.fromRules = true ∧ Permitted s a := by
  have hguard : ¬ (s.hero.id ≠ canalWardenId ∨ s.creature.lifeStatus = .dead) := by
    rw [hid, halive]
    simp
  unfold rulesActions
  rw [if_neg hguard]
  cases hrules : s.heroRules with
  | none =>
    refine .ok fun a => ?_
    simp only [not_mem_nil, false_iff]
    rintro ⟨ha, hp⟩
    obtain ⟨r', rules, h⟩ := hp.heroTurn ha
    rw [h.snapshot] at hrules
    cases hrules
  | some rules =>
    obtain ⟨features, hf, hfeatures⟩ : Yields (fighterActions rules r.actionEconomy) _ := fighterActions_yields
    dsimp only
    cases hcasting : rules.spellcasting with
    | none =>
      have hspells : spellActions s rules s.hero s.creature r.actionEconomy = .ok [] := by
        unfold spellActions
        rw [hcasting]
        rfl
      rw [hspells, hf]
      refine .ok fun a => ?_
      rw [List.nil_append, hfeatures]
      cases a <;> simp only [LegalEncounterAction.fromRules, Permitted, hturn.heroTurn_iff,
        hturn.castingTurn_iff, hturn.liveCastingTurn_iff, hrules, TurnResources.actionEconomy] <;> grind
    | some c =>
      have hc : c.cantrips = SpellId.cantrips := by
        have hshape := (hvalid rules hrules).casting
        unfold EncounterHeroRulesProfile.CastingShape at hshape
        rw [hcasting] at hshape
        cases hclass : rules.runtimeResources.heroClass with
        | fighter => rw [hclass] at hshape; cases hshape
        | wizard =>
          rw [hclass] at hshape
          obtain ⟨_, h, -, hcv⟩ := hshape
          cases h
          exact hcv.cantrips
      obtain ⟨spells, hs, hspells⟩ : Yields (spellActions s rules s.hero s.creature r.actionEconomy) _ :=
        spellActions_yields hcasting hc
      rw [hs, hf]
      refine .ok fun a => ?_
      rw [mem_append, hspells, hfeatures]
      cases a <;> simp only [LegalEncounterAction.fromRules, Permitted, hturn.heroTurn_iff,
        hturn.castingTurn_iff, hturn.liveCastingTurn_iff, hrules, TurnResources.actionEconomy,
        LiveSpellOffer] <;> grind

/-- The creature has no snapshot to draw on. -/
theorem rulesActions_creature {actor target : CombatantState} (hid : actor.id ≠ canalWardenId) :
    rulesActions s actor target r = .ok [] := by
  unfold rulesActions
  rw [if_pos (.inl hid)]
  rfl

end Snapshot

/-! ## Whose turn it is -/

namespace EncounterState

variable {s : EncounterState}

theorem Valid.active (hv : s.Valid) (hs : s.status = .active) : ActiveValid s := by
  have := hv.phase
  unfold PhaseValid at this
  rw [hs] at this
  exact this

/-- In an active encounter it is the hero's turn or the creature's. -/
theorem Valid.turn_cases (hv : s.Valid) (hs : s.status = .active) :
    (s.currentActorId = some canalWardenId ∧ s.currentActor = some s.hero) ∨
      (s.currentActorId = some sootWightId ∧ s.currentActor = some s.creature) := by
  obtain ⟨actor, hactor, -⟩ := (hv.active hs).actor
  unfold currentActor at hactor ⊢
  by_cases hhero : s.currentActorId = some canalWardenId
  · exact .inl ⟨hhero, if_pos hhero⟩
  · rw [if_neg hhero] at hactor ⊢
    by_cases hwight : s.currentActorId = some sootWightId
    · exact .inr ⟨hwight, if_pos hwight⟩
    · rw [if_neg hwight] at hactor
      cases hactor

theorem Valid.creature_current (hv : s.Valid) (hs : s.status = .active) (hturn : s.currentActorId = some sootWightId) :
    s.currentActor = some s.creature := by
  rcases hv.turn_cases hs with ⟨hhero, -⟩ | ⟨-, hcurrent⟩
  · rw [hturn] at hhero
    exact absurd (Option.some.inj hhero) sootWightId_ne_canalWardenId
  · exact hcurrent

theorem Valid.turnResources (hv : s.Valid) (hs : s.status = .active) : ∃ r, s.turnResources = some r := by
  obtain ⟨-, -, r, hr, -⟩ := (hv.active hs).actor
  exact ⟨r, hr⟩

theorem pendingReaction_eq_true : s.pendingReaction = true ↔ s.schemaVersion = encounterSchemaVersion ∧
    ∃ live p, s.liveQ04 = some live ∧ live.pendingAttackReaction = some p := by
  unfold pendingReaction
  cases s.liveQ04 with
  | none => simp
  | some live => simp [Option.isSome_iff_exists]

/-- What is known of a hit that waits for its reaction. -/
theorem Valid.pending (hv : s.Valid) (hp : s.pendingReaction = true) :
    s.schemaVersion = encounterSchemaVersion ∧ ∃ live p, s.liveQ04 = some live ∧
      live.pendingAttackReaction = some p ∧ LiveValid s live ∧ PendingValid s live p := by
  obtain ⟨h3, live, p, hlive, hpend⟩ := pendingReaction_eq_true.mp hp
  obtain ⟨live', hlive', hvalid⟩ := hv.live h3
  obtain rfl : live = live' := mem_unique hlive hlive'
  exact ⟨h3, live, p, hlive, hpend, hvalid, hvalid.pending p hpend⟩

/-- A pending reaction belongs to the creature's turn. -/
theorem Valid.pending_turn (hv : s.Valid) (hp : s.pendingReaction = true) :
    s.status = .active ∧ s.currentActorId = some sootWightId := by
  obtain ⟨-, live, p, -, -, -, hpv⟩ := hv.pending hp
  exact ⟨hpv.status, hpv.turn⟩

theorem Valid.undisturbed (hv : s.Valid) (hs : s.status ≠ .active) : s.pendingReaction = false := by
  cases hp : s.pendingReaction with
  | false => rfl
  | true => exact absurd (hv.pending_turn hp).1 hs

theorem sootWight_ne_warden : sootWightId ≠ canalWardenId := by decide

theorem Valid.undisturbed_hero (hv : s.Valid) (hturn : s.currentActorId = some canalWardenId) :
    s.pendingReaction = false := by
  cases hp : s.pendingReaction with
  | false => rfl
  | true =>
    have h := (hv.pending_turn hp).2
    rw [hturn] at h
    exact absurd (Option.some.inj h).symm sootWight_ne_warden

end EncounterState

/-! ## The whole derivation -/

section Whole

variable {s : EncounterState} {actor target : CombatantState} {r : TurnResources}

variable {rules : EncounterHeroRulesProfile}

theorem RestBoundary.over {live : EncounterLiveQ04State}
    (h : RestBoundary s live rules) : s.status = .victory ∨ s.status = .defeat := by
  have hsafe := h.safe
  unfold EncounterState.isSafeRestBoundary at hsafe
  cases hs : s.status <;> simp_all

theorem OrdinaryTurn.unique (h : OrdinaryTurn s actor r) {actor' : CombatantState} {r' : TurnResources} :
    OrdinaryTurn s actor' r' ↔ actor' = actor ∧ r' = r := by
  constructor
  · intro h'
    exact ⟨mem_unique h'.current h.current,
      mem_unique h'.resources h.resources⟩
  · rintro ⟨rfl, rfl⟩
    exact h

/-- Without an ordinary turn there is no turn of the hero's either. -/
theorem no_heroTurn (h : ∀ actor r, ¬ OrdinaryTurn s actor r) :
    (∀ r rules, ¬ HeroTurn s r rules) ∧ (∀ r rules c, ¬ CastingTurn s r rules c) ∧
      ∀ r rules c live, ¬ LiveCastingTurn s r rules c live :=
  ⟨fun _ _ ht => h _ _ ht.turn, fun _ _ _ ht => h _ _ ht.turn, fun _ _ _ _ ht => h _ _ ht.turn⟩

variable {a : LegalEncounterAction}

/-- Without an ordinary turn, nothing that needs one is permitted. -/
theorem permitted_no_turn (h : ∀ actor r, ¬ OrdinaryTurn s actor r) (hs : s.status = .active)
    (hp : s.pendingReaction = false) (ha : Permitted s a) :
    a = .endTurn ∨ a = .rollDeathSave := by
  have hrest (live : EncounterLiveQ04State) (rules : EncounterHeroRulesProfile) :
      ¬ RestBoundary s live rules := fun hb => by
    rcases hb.over with ho | ho <;> rw [hs] at ho <;> cases ho
  cases a with
  | endTurn => exact .inl rfl
  | rollDeathSave => exact .inr rfl
  | startEncounter =>
    have : s.status = .ready := ha
    rw [hs] at this
    cases this
  | move _ _ _ =>
    obtain ⟨actor, r, ht, -⟩ := ha
    exact absurd ht (h actor r)
  | attack _ _ _ =>
    obtain ⟨actor, r, -, -, -, ht, -⟩ := ha
    exact absurd ht (h actor r)
  | contextAction _ =>
    obtain ⟨r, ht, -⟩ := ha
    exact absurd ht (h s.hero r)
  | castSpell _ _ _ | castLight _ | castMageHand _ | controlMageHand _ | dismissMageHand | castSleep
  | secondWind | actionSurge =>
    obtain ⟨r, rules, ht⟩ := ha.heroTurn rfl
    exact absurd ht.turn (h s.hero r)
  | castShield => exact absurd ha.1 (by rw [hp]; decide)
  | declineReaction =>
    have : s.pendingReaction = true := ha
    rw [hp] at this
    cases this
  | beginShortRest | takeLongRest =>
    obtain ⟨live, rules, hb, -⟩ := ha
    exact absurd hb (hrest live rules)
  | spendHitDie | useArcaneRecovery | finishShortRest =>
    obtain ⟨live, rules, rest, hb, -⟩ := ha
    exact absurd hb (hrest live rules)

/-- What a turn offers, given what the snapshot adds. -/
theorem ordinary_permitted {attacks : List EncounterAttack} (h : OrdinaryTurn s actor r)
    (htarget : opposingCombatant s actor.id = some target)
    (hattacks : attacksForActor s actor.id = some attacks)
    (hcontext : actor.id = canalWardenId ↔ actor = s.hero) :
    Permitted s a ↔ a ∈ moveActions s actor r ∨ a ∈ attackActions actor target r attacks ∨
      (a.fromRules = true ∧ Permitted s a) ∨ a ∈ contextActions s actor r ∨ a = .endTurn := by
  have hrest (live : EncounterLiveQ04State) (rules : EncounterHeroRulesProfile) :
      ¬ RestBoundary s live rules := fun hb => by
    rcases hb.over with ho | ho <;> rw [h.active] at ho <;> cases ho
  rw [mem_moveActions, mem_attackActions, mem_contextActions]
  cases a <;> simp only [Permitted, LegalEncounterAction.fromRules, h.unique, h.active, h.undisturbed,
    h.current, hrest] <;> grind [h.conscious]

/-- An ordinary turn lists what is permitted on it. -/
theorem turnActions_ordinary {attacks : List EncounterAttack} (h : OrdinaryTurn s actor r)
    (htarget : opposingCombatant s actor.id = some target)
    (hattacks : attacksForActor s actor.id = some attacks)
    (hcontext : actor.id = canalWardenId ↔ actor = s.hero)
    (hrules : Yields (rulesActions s actor target r) fun a => a.fromRules = true ∧ Permitted s a) :
    Yields (turnActions s) (Permitted s) := by
  obtain ⟨fromRules, hfrom, hmem⟩ := hrules
  refine ⟨moveActions s actor r ++ attackActions actor target r attacks ++ fromRules ++
    contextActions s actor r ++ [.endTurn], ?_, fun a => ?_⟩
  · unfold turnActions
    simp only [h.current, okOr_some, ok_bind, if_false, h.conscious, ne_eq, not_true_eq_false, h.awake,
      h.resources, hattacks, htarget, hfrom]
    rfl
  · rw [ordinary_permitted h htarget hattacks hcontext]
    simp only [mem_append, mem_singleton, hmem, or_assoc]

/-- **A turn lists exactly what is permitted on it.** -/
theorem turnActions_yields (hv : s.Valid) (hs : s.status = .active) (hp : s.pendingReaction = false) :
    Yields (turnActions s) (Permitted s) := by
  obtain ⟨r, hr⟩ := hv.turnResources hs
  have hactive := hv.active hs
  rcases hv.turn_cases hs with ⟨hturn, hcurrent⟩ | ⟨hturn, hcurrent⟩
  · rcases hactive.heroLife with hup | hdown
    · have h : OrdinaryTurn s s.hero r :=
        ⟨hs, hp, hcurrent, hup, fun hw => by rw [hv.fixed.heroId] at hw; exact absurd hw.1 (by decide), hr⟩
      obtain ⟨attacks, hattacks⟩ : ∃ attacks, attacksForActor s s.hero.id = some attacks := by
        unfold attacksForActor
        rw [if_pos hv.fixed.heroId]
        split <;> exact ⟨_, rfl⟩
      refine turnActions_ordinary h ?_ hattacks ⟨fun _ => rfl, fun _ => hv.fixed.heroId⟩
        (rulesActions_hero h hv.fixed.heroId hactive.creatureLife fun rules hr => (hv.rules rules hr).rules)
      unfold opposingCombatant
      rw [if_pos hv.fixed.heroId]
    · -- a dying hero can only roll a death save
      have hno (actor : CombatantState) (r : TurnResources) : ¬ OrdinaryTurn s actor r := fun h => by
        obtain rfl : actor = s.hero := mem_unique h.current hcurrent
        have := h.conscious
        rw [hdown] at this
        cases this
      have hlist : turnActions s = .ok [.rollDeathSave] := by
        unfold turnActions
        simp only [hcurrent, okOr_some, ok_bind, hdown, if_true, pure_eq]
      rw [hlist]
      refine .ok fun a => ?_
      rw [mem_singleton]
      constructor
      · rintro rfl
        exact ⟨hs, hp, s.hero, hcurrent, hdown⟩
      · intro ha
        rcases permitted_no_turn hno hs hp ha with rfl | rfl
        · obtain ⟨-, -, actor, hactor, hup⟩ := ha
          obtain rfl : actor = s.hero := mem_unique hactor hcurrent
          rw [hdown] at hup
          cases hup
        · rfl
  · have hid : s.creature.id ≠ canalWardenId := by rw [hv.fixed.creatureId]; decide
    have hup := hactive.creatureLife
    by_cases hsleep : s.sleeping = true
    · -- a sleeping creature can only end its turn
      have hno (actor : CombatantState) (r : TurnResources) : ¬ OrdinaryTurn s actor r := fun h => by
        obtain rfl : actor = s.creature := mem_unique h.current hcurrent
        exact h.awake ⟨hv.fixed.creatureId, hsleep⟩
      have hlist : turnActions s = .ok [.endTurn] := by
        unfold turnActions
        simp only [hcurrent, okOr_some, ok_bind, hup, hv.fixed.creatureId, hsleep, and_self, if_true, ne_eq,
          not_true_eq_false, if_false, reduceCtorEq, pure_eq]
      rw [hlist]
      refine .ok fun a => ?_
      rw [mem_singleton]
      constructor
      · rintro rfl
        exact ⟨hs, hp, s.creature, hcurrent, hup⟩
      · intro ha
        rcases permitted_no_turn hno hs hp ha with rfl | rfl
        · rfl
        · obtain ⟨-, -, actor, hactor, hdown⟩ := ha
          obtain rfl : actor = s.creature := mem_unique hactor hcurrent
          rw [hup] at hdown
          cases hdown
    · have h : OrdinaryTurn s s.creature r := ⟨hs, hp, hcurrent, hup, fun hw => hsleep hw.2, hr⟩
      have hother : s.creature.id = canalWardenId ↔ s.creature = s.hero := by
        refine ⟨fun he => absurd he hid, fun he => ?_⟩
        rw [he]
        exact hv.fixed.heroId
      refine @turnActions_ordinary s s.creature s.hero r [creatureAttack] h ?_ ?_ hother ?_
      · unfold opposingCombatant
        rw [if_neg hid, if_pos hv.fixed.creatureId]
      · unfold attacksForActor
        rw [if_neg hid, if_pos hv.fixed.creatureId]
      · rw [rulesActions_creature hid]
        refine .ok fun a => ?_
        simp only [not_mem_nil, false_iff]
        rintro ⟨ha, hpa⟩
        obtain ⟨r', rules, ht⟩ := hpa.heroTurn ha
        have hsame := (h.unique.mp ht.turn).1
        rw [← hsame, hv.fixed.heroId] at hid
        exact hid rfl

/-! ### Outside of a turn -/

theorem mem_shortRestActions {rest : ShortRestState} :
    a ∈ shortRestActions s rules rest ↔
      (s.hero.hitPoints.current < s.hero.hitPoints.maximum ∧ rules.runtimeResources.hitDice.current > 0) ∧
        a = .spendHitDie ∨
      (rest.arcaneRecoveryUsed = false ∧ rules.runtimeResources.arcaneRecovery.any (·.current > 0) = true ∧
        rules.runtimeResources.levelOneSpellSlots.any (fun slots => slots.current < slots.maximum) = true) ∧
        a = .useArcaneRecovery ∨ a = .finishShortRest := by
  have hoffer {c : Prop} [Decidable c] {b : LegalEncounterAction} :
      a ∈ (if c then [b] else []) ↔ c ∧ a = b := by
    split <;> simp_all
  unfold shortRestActions
  rw [mem_append, mem_append, hoffer, hoffer, mem_singleton, or_assoc]

/-- The rest actions need a safe boundary of the live schema, and a created hero. -/
theorem mem_restLegalActions (hs : s.status = .victory ∨ s.status = .defeat)
    (hp : s.pendingReaction = false) :
    a ∈ restLegalActions s ↔ Permitted s a := by
  have hactive : s.status ≠ .active := by rcases hs with h | h <;> rw [h] <;> decide
  have hready : s.status ≠ .ready := by rcases hs with h | h <;> rw [h] <;> decide
  have hno (actor : CombatantState) (r : TurnResources) : ¬ OrdinaryTurn s actor r := fun h =>
    hactive h.active
  obtain ⟨hhero, hcasting, hlive⟩ := no_heroTurn hno
  have hkinds : Permitted s a ↔ ∃ live rules, RestBoundary s live rules ∧
      ((∃ rest, live.activeShortRest = some rest ∧ a ∈ shortRestActions s rules rest) ∨
        live.activeShortRest = none ∧
          (a = .beginShortRest ∨ longRestAvailable live = true ∧ a = .takeLongRest)) := by
    cases a <;> simp only [Permitted, hno, hhero, hcasting, hlive, hready, hactive, hp,
      mem_shortRestActions] <;> grind
  rw [hkinds]
  unfold restLegalActions
  split
  · rename_i hout
    simp only [not_mem_nil, false_iff]
    rintro ⟨live, rules, hb, -⟩
    rcases hout with h | h
    · exact h hb.schema
    · rw [hb.safe] at h
      cases h
  · rename_i hin
    rw [not_or, not_not, Bool.not_eq_false] at hin
    have hiff {live : EncounterLiveQ04State} {rules : EncounterHeroRulesProfile} :
        RestBoundary s live rules ↔ s.liveQ04 = some live ∧ s.heroRules = some rules ∧
          rules.constitutionModifier.isSome = true :=
      ⟨fun h => ⟨h.runtime, h.snapshot, h.constitution⟩, fun ⟨h₁, h₂, h₃⟩ => ⟨hin.2, hin.1, h₁, h₂, h₃⟩⟩
    simp only [hiff]
    cases hl : s.liveQ04 with
    | none => simp
    | some live =>
      cases hr : s.heroRules with
      | none => simp
      | some rules =>
        cases hc : rules.constitutionModifier with
        | none => simp [hc]
        | some m =>
          cases hrest : live.activeShortRest with
          | some rest => simp [hc, hrest]
          | none =>
            cases hlong : longRestAvailable live <;> simp [hc, hrest]

/-- **On a valid state the derivation succeeds, and lists exactly the permitted actions.** -/
theorem legalActions_yields (hv : s.Valid) : Yields (legalActions s) (Permitted s) := by
  unfold legalActions
  rw [EncounterState.validate_eq_ok.mpr hv, ok_bind]
  cases hp : s.pendingReaction with
  | true =>
    obtain ⟨hs, hturn⟩ := hv.pending_turn hp
    have hno (actor : CombatantState) (r : TurnResources) : ¬ OrdinaryTurn s actor r := fun h => by
      have := h.undisturbed
      rw [hp] at this
      cases this
    obtain ⟨hhero, hcasting, hlive⟩ := no_heroTurn hno
    have hrest (live : EncounterLiveQ04State) (rules : EncounterHeroRulesProfile) :
        ¬ RestBoundary s live rules := fun hb => by
      rcases hb.over with ho | ho <;> rw [hs] at ho <;> cases ho
    refine .ok fun a => ?_
    have hmem : a ∈ (if shieldReactionAvailable s = true then [LegalEncounterAction.castShield] else []) ++
        [.declineReaction] ↔ (shieldReactionAvailable s = true ∧ a = .castShield) ∨ a = .declineReaction := by
      rw [mem_append, mem_singleton]
      split <;> simp_all
    rw [hmem]
    cases a <;> simp only [Permitted, hno, hhero, hcasting, hlive, hrest, hs, hp] <;> grind
  | false =>
    simp only [Bool.false_eq_true, if_false]
    cases hs : s.status with
    | ready =>
      have hno (actor : CombatantState) (r : TurnResources) : ¬ OrdinaryTurn s actor r := fun h => by
        have := h.active
        rw [hs] at this
        cases this
      obtain ⟨hhero, hcasting, hlive⟩ := no_heroTurn hno
      have hrest (live : EncounterLiveQ04State) (rules : EncounterHeroRulesProfile) :
          ¬ RestBoundary s live rules := fun hb => by
        rcases hb.over with ho | ho <;> rw [hs] at ho <;> cases ho
      refine .ok fun a => ?_
      rw [mem_singleton]
      cases a <;> simp only [Permitted, hno, hhero, hcasting, hlive, hrest, hs, hp] <;> grind
    | active => exact turnActions_yields hv hs hp
    | victory => exact .ok fun a => mem_restLegalActions (.inl hs) hp
    | defeat => exact .ok fun a => mem_restLegalActions (.inr hs) hp

end Whole

end ManchesterArcana.Encounter
