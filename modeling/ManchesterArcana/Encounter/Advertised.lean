import ManchesterArcana.Encounter.Movement

/-!
# `Encounter.Advertised` — when the engine stays within the actions it advertises

`resolveIntent_offered` says that whatever goes through was on offer or slipped through `Unguarded`. Here is
the other half: what `Unguarded` describes does go through, a move by its guards and an attack on a natural
one, and neither was on offer. Together they say exactly when the engine keeps to the list, and what of it a
player can reach.
-/

namespace ManchesterArcana.Encounter

open Effect Rules

/-! ## A spent action -/

namespace EncounterState

variable {s : EncounterState} {r : TurnResources}

/-- The state with the action of the turn spent. -/
def spendAction (s : EncounterState) (r : TurnResources) : EncounterState :=
  { s with turnResources := some { r with actionAvailable := false } }

theorem spendAction_stepped (hv : s.Valid) (hs : s.status = .active) : Stepped s (s.spendAction r) where
  within := rfl
  heroSkeleton := rfl
  creatureSkeleton := rfl
  rulesSkeleton := rfl
  hero := hv.hero.sound
  creature := hv.creature.sound
  pools := hv.moved.pools
  effects := ⟨hv.effects.ward, hv.effects.notFailed, hv.effects.veil, hv.effects.unveiled⟩
  core := fun h3 => by
    obtain ⟨live, hlive, hvalid⟩ := hv.live h3
    exact ⟨live, hlive, hvalid.core.step rfl rfl rfl (hv.active hs).creatureLife, hvalid.noRest hs⟩
  noLive := hv.noLive

variable {live : EncounterLiveQ04State}

/-- The runtime of a valid state is valid, whichever schema it has. -/
theorem Valid.live_of_mem (hv : s.Valid) (hlive : live ∈ s.liveQ04) :
    LiveValid s live := by
  by_cases h3 : s.schemaVersion = encounterSchemaVersion
  · obtain ⟨live', hlive', hvalid⟩ := hv.live h3
    obtain rfl : live = live' := Option.mem_unique hlive hlive'
    exact hvalid
  · rw [hv.noLive h3] at hlive
    cases hlive

/-- **A spent action leaves a valid state.** -/
theorem spendAction_moved (hv : s.Valid) (hs : s.status = .active) (hr : s.turnResources = some r) :
    (s.spendAction r).Moved := by
  have hactive := hv.active hs
  have hstep := spendAction_stepped (r := r) hv hs
  have hleft := hactive.leftOf hr
  refine hstep.moved hv hs hactive.heroLife hactive.creatureLife hr rfl
    ⟨le_rfl, hleft.grid, hleft.bonusAction, hleft.reaction, hleft.objectInteraction⟩ ?_ ?_
  · exact fun live hlive p hp => ((hv.live_of_mem hlive).pending p hp).step hstep.sameTurn rfl rfl rfl rfl
  · exact fun live hlive w hw => ((hv.live_of_mem hlive).ward w hw).step hstep.sameTurn

/-- An action that is still there means that no hit waits. -/
theorem Valid.noPending_of_action (hv : s.Valid) (hr : s.turnResources = some r) (ha : r.actionAvailable = true)
    (hlive : live ∈ s.liveQ04) : live.pendingAttackReaction = none := by
  cases hp : live.pendingAttackReaction with
  | none => rfl
  | some p =>
    obtain ⟨r', hr', hspent⟩ := ((hv.live_of_mem hlive).pending p hp).resources
    obtain rfl : r' = r := Option.mem_unique hr' hr
    rw [ha] at hspent
    cases hspent

end EncounterState

/-! ## Attack rolls -/

theorem isValid_ids : isValidOpaqueId canalWardenId = true ∧ isValidOpaqueId sootWightId = true := by decide

/-- The attack roll of a valid attack is a well-formed request. -/
theorem attackRequest_wellFormed {actorId targetId : String} {attack : EncounterAttack} {armorClass : Nat}
    (ha : attack.Valid) (hactor : isValidOpaqueId actorId = true) (htarget : isValidOpaqueId targetId = true) :
    (attackRequest actorId targetId attack armorClass).WellFormed where
  actorId := hactor
  targetId := fun id hid => by
    obtain rfl := Option.some.inj hid
    exact htarget
  actionId := fun id hid => by
    obtain rfl := Option.some.inj hid
    exact ha.attackId
  count := .inl rfl
  sides := ⟨Nat.one_le_ofNat, Nat.le_refl 20⟩
  modifiers_le := ha.modifiers_le
  modifiers_nodup := ha.modifiers_nodup
  modifierIds := ha.modifierIds
  shape := ⟨rfl, rfl, rfl, rfl, armorClass, rfl⟩

theorem missNarration_valid {outcome : AttackOutcome} {actorName targetName : String}
    (ha : IsText 120 actorName) (ht : IsText 120 targetName) :
    (missNarration outcome actorName targetName).Valid := by
  unfold missNarration
  split
  · exact narration_valid (by decide)
      ((((ha.append (b := " overcommits, and ") (n := 30) (by decide)).append ht.length_le).append
        (b := " slips clear.") (n := 30) (by decide)).mono (by decide))
      ((((ha.append (b := " misses ") (n := 30) (by decide)).append ht.length_le).append
        (b := " on a natural 1.") (n := 30) (by decide)).mono (by decide))
  · exact narration_valid (by decide)
      ((((ha.append (b := "'s strike cuts rain, not ") (n := 30) (by decide)).append ht.length_le).append
        (b := ".") (n := 30) (by decide)).mono (by decide))
      ((((ha.append (b := " misses ") (n := 30) (by decide)).append ht.length_le).append
        (b := ".") (n := 30) (by decide)).mono (by decide))

/-! ## The intents that slip through go through -/

section Converse

variable {s : EncounterState}

/-- A disturbed creature has no ordinary turn. -/
theorem no_ordinaryTurn (hv : s.Valid) (hs : s.status = .active) (hturn : s.currentActorId = some sootWightId)
    (hblocked : s.pendingReaction = true ∨ s.sleeping = true) (actor : CombatantState) (r : TurnResources) :
    ¬ OrdinaryTurn s actor r := by
  intro ht
  rcases hv.turn_cases hs with ⟨hhero, -⟩ | ⟨-, hcurrent⟩
  · rw [hturn] at hhero
    exact sootWightId_ne_canalWardenId (Option.some.inj hhero)
  · obtain rfl := Option.mem_unique ht.current hcurrent
    rcases hblocked with hp | hsleep
    · rw [ht.undisturbed] at hp
      cases hp
    · exact ht.awake ⟨hv.fixed.creatureId, hsleep⟩

/-- Neither a move nor an attack of a disturbed creature is on offer. -/
theorem not_offered (hv : s.Valid) (hs : s.status = .active) (hturn : s.currentActorId = some sootWightId)
    (hblocked : s.pendingReaction = true ∨ s.sleeping = true) {intent : EncounterIntent}
    (hu : Unguarded s intent) : ¬ Offered s intent := by
  rintro ⟨a, ha, hcovers⟩
  have hno := no_ordinaryTurn hv hs hturn hblocked
  cases intent with
  | move destination =>
    cases a with
    | move _ _ _ =>
      obtain ⟨actor, r, ht, -⟩ := ha
      exact hno actor r ht
    | _ => exact hcovers
  | attack attackId targetId =>
    cases a with
    | attack _ _ _ =>
      obtain ⟨actor, r, -, -, -, ht, -⟩ := ha
      exact hno actor r ht
    | _ => exact hcovers
  | _ => exact hu

/-- **A natural one of the creature goes through**, whether it sleeps or not. -/
theorem resolveAttack_natural_one (hv : s.Valid) (hs : s.status = .active)
    (hturn : s.currentActorId = some sootWightId) {attackId targetId : String}
    (ha : CreatureAttack s attackId targetId) (halive : s.hero.lifeStatus ≠ .dead) :
    ∃ n d, Prog.Returns (resolveAttack (.of s) attackId targetId) [(20, 1)] (n, d) ∧ Sealable s n d ∧
      ∀ r ∈ s.turnResources, d.state = s.spendAction r := by
  obtain ⟨rfl, rfl, hrange, harmor, r, hr, haction⟩ := ha
  obtain ⟨hheroId, hwightId⟩ := isValid_ids
  have hcurrent := hv.creature_current hs hturn
  have hguard : requireConsciousActiveActor s = .ok sootWightId :=
    requireConsciousActiveActor_eq_ok.mpr
      ⟨hs, s.creature, hcurrent, (hv.active hs).creatureLife, hv.fixed.creatureId.symm⟩
  have hattack : okOr (attackForActor s sootWightId sootWightAttackId)
      (EncounterError.attackUnavailable sootWightId sootWightAttackId) = .ok creatureAttack := by
    unfold attackForActor attacksForActor
    rw [if_neg sootWightId_ne_canalWardenId, if_pos rfl]
    rfl
  have hwf : (attackRequest sootWightId canalWardenId creatureAttack s.hero.armorClass).WellFormed :=
    attackRequest_wellFormed EncounterAttack.creatureAttack_valid hwightId hheroId
  have hface : InRange 20 1 := by decide
  have hroom : ([] : List RawRollFacts).length < maxU16 := by decide
  -- the roll: a natural one is an automatic miss
  have ho : (attackRequest sootWightId canalWardenId creatureAttack s.hero.armorClass).outcome
      ((attackRequest sootWightId canalWardenId creatureAttack s.hero.armorClass).naturalD20 [1])
      ((([1] : List Nat).map (Int.ofNat ·)).sum +
        (attackRequest sootWightId canalWardenId creatureAttack s.hero.armorClass).modifierTotal) =
      .ok .automaticMiss := rfl
  have hroll : ((attackRequest sootWightId canalWardenId creatureAttack s.hero.armorClass).facts 1 [1]
      .automaticMiss).Valid := hwf.facts_valid Nat.one_ne_zero rfl
    (fun v hv => by rw [List.mem_singleton.mp hv]; exact hface) ho
  have hlookup : s.combatant canalWardenId = some s.hero := if_pos rfl
  have hcreature : s.combatant sootWightId = some s.creature :=
    (if_neg sootWightId_ne_canalWardenId).trans (if_pos rfl)
  have hrecorded : Recorded s ((((Draft.of s).update fun s => s.spendAction r).withRolls
      [(attackRequest sootWightId canalWardenId creatureAttack s.hero.armorClass).facts 1 [1]
        .automaticMiss])) :=
    (Recorded.of s).update.withRoll hroom rfl hroll ⟨fun _ => rfl, fun _ => rfl⟩
  have hseal := (hrecorded.push (f := .attackResolved sootWightId canalWardenId sootWightAttackId
        (distance s.creature.positionFeet s.hero.positionFeet) creatureAttack.rangeFeet s.hero.armorClass
        ((attackRequest sootWightId canalWardenId creatureAttack s.hero.armorClass).facts 1 [1]
          .automaticMiss).total .automaticMiss) ⟨fun _ => rfl, fun _ => rfl⟩).sealable
      (@missNarration_valid .automaticMiss _ _ hv.creature.name_isText hv.hero.name_isText)
      (EncounterState.spendAction_stepped (r := r) hv hs).frame
      (EncounterState.spendAction_moved hv hs hr) Draft.push_facts_ne
  have hspent (r' : TurnResources) (hr' : r' ∈ s.turnResources) : s.spendAction r = s.spendAction r' := by
    obtain rfl : r = r' := Option.mem_unique hr hr'
    rfl
  refine ⟨_, _, ?_, hseal, hspent⟩
  unfold resolveAttack
  refine Prog.returns_lift_bind.mpr ⟨sootWightId, hguard, ?_⟩
  refine Prog.returns_lift_bind.mpr ⟨creatureAttack, hattack, ?_⟩
  refine Prog.returns_reject_bind.mpr ⟨?_, ?_⟩
  · rw [if_neg sootWightId_ne_canalWardenId]
    exact not_not.mpr rfl
  refine Prog.returns_expect_bind.mpr ⟨s.hero, hlookup, ?_⟩
  refine Prog.returns_reject_bind.mpr ⟨halive, ?_⟩
  refine Prog.returns_expect_bind.mpr ⟨s.creature, hcreature, ?_⟩
  refine Prog.returns_reject_bind.mpr ⟨Nat.not_lt.mpr hrange, ?_⟩
  refine Prog.returns_expect_bind.mpr ⟨r, hr, ?_⟩
  refine Prog.returns_reject_bind.mpr ⟨by rw [haction]; decide, ?_⟩
  refine Prog.returns_expect_bind.mpr ⟨(), if_pos harmor, ?_⟩
  refine Prog.returns_bind.mpr ⟨[(20, 1)], [], (_, _), rfl, performRoll_returns.mpr
    ⟨[1], .automaticMiss, rfl, fun v hv => by rw [List.mem_singleton.mp hv]; exact hface, rfl, ho, hroom, rfl,
      hroll, rfl⟩, ?_⟩
  exact Prog.returns_expect_bind.mpr ⟨.automaticMiss, rfl, Prog.returns_ok.mpr ⟨rfl, rfl⟩⟩

/-- **What slips through goes through**: some throw of the dice makes the engine accept the intent. -/
theorem unguarded_returns {c : EncounterCommand} (henv : Enveloped s c) (hrev : s.revision + 1 ≤ maxU64)
    (hs : s.status = .active) (hturn : s.currentActorId = some sootWightId) (hu : Unguarded s c.intent) :
    ∃ t r, Prog.Returns (resolveEncounter s c) t r := by
  have hv := henv.state
  have hactive := hv.active hs
  suffices h : ∃ t n d, Prog.Returns (resolveIntent (.of s) c.intent) t (n, d) ∧ Sealable s n d by
    obtain ⟨t, n, d, hret, hseal⟩ := h
    obtain ⟨r, hok, -⟩ := hseal.ok hv hrev
    exact ⟨t, r, resolveEncounter_returns.mpr ⟨henv, n, d, hret, hok⟩⟩
  have hcurrent := hv.creature_current hs hturn
  cases hintent : c.intent with
  | move destination =>
    rw [hintent] at hu
    obtain ⟨-, hmin, hmax, hgrid, hmoves, r, hr, hbudget⟩ := hu
    obtain ⟨n, d, heq, hseal, -⟩ := resolveMove_settles hv hs hcurrent hactive.creatureLife hr hmin hmax hgrid
      hmoves hbudget
    refine ⟨[], n, d, ?_, hseal⟩
    show Prog.Returns (resolveMove (.of s) destination) [] (n, d)
    rw [heq]
    exact .ok (n, d)
  | attack attackId targetId =>
    rw [hintent] at hu
    have halive : s.hero.lifeStatus ≠ .dead := by
      rcases hactive.heroLife with h | h <;> rw [h] <;> decide
    obtain ⟨n, d, hret, hseal, -⟩ := resolveAttack_natural_one hv hs hturn hu.2 halive
    exact ⟨[(20, 1)], n, d, hret, hseal⟩
  | _ =>
    rw [hintent] at hu
    exact hu.elim

end Converse

/-! ## Where the engine keeps to the list -/

/-- The intent is an instance of one of the derived actions. -/
def Listed (s : EncounterState) (intent : EncounterIntent) : Prop :=
  ∃ actions, legalActions s = .ok actions ∧ InstanceOf actions intent

variable {s : EncounterState}

theorem listed_iff (hv : s.Valid) {intent : EncounterIntent} :
    Listed s intent ↔ Offered s intent := by
  obtain ⟨actions, hlegal, hmem⟩ := legalActions_yields hv
  constructor
  · rintro ⟨actions', hlegal', a, ha, hcovers⟩
    obtain rfl : actions = actions' := Except.ok.inj (hlegal.symm.trans hlegal')
    exact ⟨a, (hmem a).mp ha, hcovers⟩
  · rintro ⟨a, ha, hcovers⟩
    exact ⟨actions, hlegal, a, (hmem a).mpr ha, hcovers⟩

/-- A command that passes its envelope and carries an unguarded intent of the creature, on its turn. -/
structure SlipsThrough (s : EncounterState) (c : EncounterCommand) : Prop where
  envelope : Enveloped s c
  revision : s.revision + 1 ≤ maxU64
  active : s.status = .active
  turn : s.currentActorId = some sootWightId
  unguarded : Unguarded s c.intent

variable {c : EncounterCommand}

/-- An accepted command that does not slip through was listed. -/
theorem listed_of_returns {t : List (Nat × Nat)}
    {r : EncounterResolution} (h : Prog.Returns (resolveEncounter s c) t r) (hslip : ¬ SlipsThrough s c) :
    Listed s c.intent ∧ ProperMove s c.intent := by
  obtain ⟨henv, n, d, hintent, hseal⟩ := resolveEncounter_returns.mp h
  obtain ⟨hrev, hsealed, -⟩ := sealResolution_eq_ok hseal
  rcases resolveIntent_offered henv.state hintent hsealed with ⟨ho, hp⟩ | ⟨hs, hturn, hu⟩
  · exact ⟨(listed_iff henv.state).mpr ho, hp⟩
  · exact absurd ⟨henv, hrev, hs, hturn, hu⟩ hslip

theorem SlipsThrough.not_listed (h : SlipsThrough s c) :
    ¬ Listed s c.intent := by
  have hblocked : s.pendingReaction = true ∨ s.sleeping = true := by
    have hu := h.unguarded
    unfold Unguarded at hu
    split at hu
    · exact hu.1
    · exact .inr hu.1
    · exact hu.elim
  rw [listed_iff h.envelope.state]
  exact not_offered h.envelope.state h.active h.turn hblocked h.unguarded

/-- **The engine resolves only what it lists, except for what slips through**: for every state, command and
    throw of the dice, exactly when the command is not an unguarded intent of the creature. -/
theorem resolveEncounter_listed_iff (s : EncounterState) (c : EncounterCommand) :
    (∀ t r, Prog.Returns (resolveEncounter s c) t r → Listed s c.intent ∧ ProperMove s c.intent) ↔
      ¬ SlipsThrough s c := by
  constructor
  · intro h hslip
    obtain ⟨t, r, hret⟩ := unguarded_returns hslip.envelope hslip.revision hslip.active hslip.turn
      hslip.unguarded
    exact hslip.not_listed (h t r hret).1
  · exact fun hslip t r hret => listed_of_returns hret hslip

/-! ### The creature over a waiting hit -/

/-- A created wizard with a Shield prepared. -/
def wardedWizard : EncounterHeroProfile where
  sourceCharacterId := "hero:ada"
  name := "Ada"
  armorClass := 12
  speedFeet := 30
  initiativeModifier := 2
  currentHitPoints := 8
  maximumHitPoints := 8
  attacks := [heroAttack]
  rules := some
    { runtimeResources := .new .wizard .one
      spellcasting := some
        { schemaVersion := rulesMatrixSchemaVersion, casterId := canalWardenId, spellAttackBonus := 5
          spellSaveDc := 13, cantrips := SpellId.cantrips, prepared := [.magicMissile, .shield] }
      constitutionModifier := some 1 }

/-- The creature has hit the wizard for 16 and waits; it has its movement left. -/
def suspendedHit : EncounterState :=
  let opened := (EncounterState.new .storyRecovery .runesMisread).withHeroProfile wardedWizard
  { opened with
    creature := { opened.creature with positionFeet := 5 }
    initiative := some (initiativeOf [⟨canalWardenId, 4, 2, 6, 0⟩, ⟨sootWightId, 15, 1, 16, 0⟩])
    round := 2
    currentActorIndex := some 0
    currentActorId := some sootWightId
    turnResources := some ⟨false, 25, false, true, true⟩
    status := .active
    liveQ04 := some { EncounterLiveQ04State.new with
      pendingAttackReaction := some
        { actorId := sootWightId, targetId := canalWardenId, attackId := sootWightAttackId
          naturalRoll := 13, attackTotal := 16, armorClass := 12, critical := false } } }

theorem suspendedHit_valid : suspendedHit.Valid := EncounterState.validate_eq_ok.mp (by decide)

/-- A command for the suspended state. -/
def creatureCommand (intent : EncounterIntent) : EncounterCommand where
  schemaVersion := encounterSchemaVersion
  encounterId := sootWightEncounterId
  idempotencyKey := "key:1"
  expectedRevision := 1
  intent := intent

theorem suspendedMove_slips : SlipsThrough suspendedHit (creatureCommand (.move 30)) where
  envelope := ⟨suspendedHit_valid, EncounterCommand.validate_eq_ok.mp (by decide), rfl, rfl, rfl⟩
  revision := by decide
  active := rfl
  turn := rfl
  unguarded := ⟨.inl rfl, by decide, by decide, by decide, by decide, ⟨false, 25, false, true, true⟩, rfl,
    by decide⟩

/-- **With the hit still waiting, the creature walks away**: the move resolves and was not listed. -/
theorem resolveEncounter_unlisted : ¬ ∀ t r,
    Prog.Returns (resolveEncounter suspendedHit (creatureCommand (.move 30))) t r →
      Listed suspendedHit (.move 30) ∧ ProperMove suspendedHit (.move 30) := by
  intro h
  have hslip := suspendedMove_slips
  obtain ⟨t, r, hret⟩ := unguarded_returns hslip.envelope hslip.revision hslip.active hslip.turn hslip.unguarded
  exact hslip.not_listed (h t r hret).1

/-! ## What a player can reach -/

/-- The intent is an instance of one of the actions a player may select. -/
def PlayerListed (s : EncounterState) (intent : EncounterIntent) : Prop :=
  ∃ actions, playerLegalActions s = .ok actions ∧ InstanceOf actions intent

/-- Where the player is in control of a live state, the player's list is the whole list. -/
theorem playerLegalActions_eq (h3 : s.schemaVersion = encounterSchemaVersion)
    (hcontrol : requirePlayerControl s = .ok ()) : playerLegalActions s = legalActions s := by
  obtain ⟨hv, hcontrol⟩ := seq_eq_ok.mp hcontrol
  have hnew : ¬ s.schemaVersion < encounterSchemaVersion := by rw [h3]; decide
  unfold playerLegalActions
  rw [hv, ok_bind, if_neg hnew]
  by_cases hp : s.liveQ04.any (·.pendingAttackReaction.isSome) = true
  · rw [if_pos hp]
  · rw [if_neg hp]
    cases hs : s.status with
    | ready =>
      have hundisturbed : ¬ s.pendingReaction = true := by
        unfold EncounterState.pendingReaction
        rw [h3]
        simpa using hp
      unfold legalActions
      rw [hv, ok_bind, if_neg hundisturbed, hs]
    | victory | defeat => rfl
    | active =>
      -- the guard leaves the hero's own turn
      have hboundary : s.isSafeRestBoundary = false := EncounterState.not_safe_of_active hs
      rw [if_neg (by rw [hboundary]; simp [hp])] at hcontrol
      by_cases hturn : s.currentActorId = some s.hero.id
      · exact if_pos hturn
      · rw [if_pos ⟨hs, hturn⟩] at hcontrol
        obtain ⟨_, -, herr⟩ := bind_eq_ok.mp hcontrol
        cases herr

/-- The player is in control on the creature's turn exactly while a hit waits. -/
theorem requirePlayerControl_creature (hv : s.Valid)
    (h3 : s.schemaVersion = encounterSchemaVersion) (hs : s.status = .active)
    (hturn : s.currentActorId = some sootWightId) :
    requirePlayerControl s = .ok () ↔ s.pendingReaction = true := by
  have hpending : s.pendingReaction = s.liveQ04.any (·.pendingAttackReaction.isSome) := by
    unfold EncounterState.pendingReaction
    rw [h3]
    rfl
  have hboundary : s.isSafeRestBoundary = false := EncounterState.not_safe_of_active hs
  have hother : s.currentActorId ≠ some s.hero.id := by
    rw [hturn, hv.fixed.heroId]
    exact fun h => sootWightId_ne_canalWardenId (Option.some.inj h)
  unfold requirePlayerControl
  rw [EncounterState.validate_eq_ok.mpr hv, ok_bind, hpending, hboundary]
  by_cases hp : s.liveQ04.any (·.pendingAttackReaction.isSome) = true
  · rw [if_pos ⟨h3, .inl hp⟩]
    exact ⟨fun _ => hp, fun _ => rfl⟩
  · rw [if_neg (by rintro ⟨-, h | h⟩; exacts [hp h, by cases h]), if_pos ⟨hs, hother⟩, hturn]
    exact ⟨fun h => (by cases h), fun h => absurd h hp⟩

/-- **A player's command acts for the creature in one way only**: over a waiting hit it can move the creature.
    Everything else that a player in control of a live state gets through was on the player's list. -/
theorem playerCommand_listed_iff (s : EncounterState) (c : EncounterCommand) :
    (s.schemaVersion = encounterSchemaVersion → requirePlayerControl s = .ok () →
      ∀ t r, Prog.Returns (resolveEncounter s c) t r → PlayerListed s c.intent) ↔
    ¬ (Enveloped s c ∧ s.revision + 1 ≤ maxU64 ∧ s.pendingReaction = true ∧
      ∃ destination, c.intent = .move destination ∧ CreatureMove s destination) := by
  constructor
  · rintro h ⟨henv, hrev, hp, destination, hintent, hmove⟩
    obtain ⟨hs, hturn⟩ := henv.state.pending_turn hp
    obtain ⟨h3, -⟩ := henv.state.pending hp
    have hu : Unguarded s c.intent := by
      rw [hintent]
      exact ⟨.inl hp, hmove⟩
    have hslip : SlipsThrough s c := ⟨henv, hrev, hs, hturn, hu⟩
    have hcontrol := (requirePlayerControl_creature henv.state h3 hs hturn).mpr hp
    obtain ⟨t, r, hret⟩ := unguarded_returns henv hrev hs hturn hu
    have hlisted := h h3 hcontrol t r hret
    unfold PlayerListed at hlisted
    rw [playerLegalActions_eq h3 hcontrol] at hlisted
    exact hslip.not_listed hlisted
  · intro hnot h3 hcontrol t r hret
    unfold PlayerListed
    rw [playerLegalActions_eq h3 hcontrol]
    refine (listed_of_returns hret fun hslip => hnot ?_).1
    have hv := hslip.envelope.state
    have hp := (requirePlayerControl_creature hv h3 hslip.active hslip.turn).mp hcontrol
    refine ⟨hslip.envelope, hslip.revision, hp, ?_⟩
    have hu := hslip.unguarded
    cases hintent : c.intent with
    | move destination =>
      rw [hintent] at hu
      exact ⟨destination, rfl, hu.2⟩
    | attack attackId targetId =>
      -- the claw needs the action that the waiting hit has spent
      rw [hintent] at hu
      obtain ⟨-, -, -, -, -, r', hr', haction⟩ := hu
      obtain ⟨-, live, p, hlive, hpend, -, -⟩ := hv.pending hp
      rw [hv.noPending_of_action hr' haction hlive] at hpend
      cases hpend
    | _ =>
      rw [hintent] at hu
      exact hu.elim

/-- **A player's command moves the Soot Wight**: the wizard's client may answer the hit that waits, and its
    command walks the creature thirty feet away instead. -/
theorem playerCommand_moves_creature : ¬ (suspendedHit.schemaVersion = encounterSchemaVersion →
    requirePlayerControl suspendedHit = .ok () →
    ∀ t r, Prog.Returns (resolveEncounter suspendedHit (creatureCommand (.move 30))) t r →
      PlayerListed suspendedHit (.move 30)) := by
  intro h
  have hslip := suspendedMove_slips
  have hcontrol : requirePlayerControl suspendedHit = .ok () :=
    (requirePlayerControl_creature suspendedHit_valid rfl rfl rfl).mpr rfl
  obtain ⟨t, r, hret⟩ := unguarded_returns hslip.envelope hslip.revision hslip.active hslip.turn hslip.unguarded
  have hlisted := h rfl hcontrol t r hret
  unfold PlayerListed at hlisted
  rw [playerLegalActions_eq rfl hcontrol] at hlisted
  exact hslip.not_listed hlisted

end ManchesterArcana.Encounter
