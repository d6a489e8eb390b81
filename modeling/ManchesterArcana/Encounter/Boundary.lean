import ManchesterArcana.Encounter.Passing
import ManchesterArcana.Encounter.Resolve

/-!
# `Encounter.Boundary` — the actions on offer against the intents that go through

A client picks from the listed actions, and the engine resolves whatever intent it is handed. This module
compares the two. Every resolver but two checks, in its own words, what the derivation checks; `resolveMove`
and `resolveAttack` look neither at a pending reaction nor at the creature's sleep, and `Unguarded` says
exactly which intents of the creature slip through there.
-/

namespace ManchesterArcana.Encounter

open Effect Rules
open Option (mem_unique)

/-! ## Instances of an action -/

/-- The intent is an instance of the action; a move may end anywhere in the listed range. -/
def LegalEncounterAction.Covers : LegalEncounterAction → EncounterIntent → Prop
  | .startEncounter, .startEncounter => True
  | .move minimum maximum _, .move destination => minimum ≤ destination ∧ destination ≤ maximum
  | .attack attackId targetId _, .attack id target => id = attackId ∧ target = targetId
  | .contextAction actionId, .contextAction id => id = actionId
  | .castSpell spell targetId _, .castSpell cast target => cast = spell ∧ target = targetId
  | .castLight objectId, .castLight id => id = objectId
  | .castMageHand anchorObjectId, .castMageHand id => id = anchorObjectId
  | .controlMageHand objectId, .controlMageHand id => id = objectId
  | .dismissMageHand, .dismissMageHand => True
  | .castSleep, .castSleep => True
  | .castShield, .castShield => True
  | .declineReaction, .declineReaction => True
  | .secondWind, .secondWind => True
  | .actionSurge, .actionSurge => True
  | .beginShortRest, .beginShortRest => True
  | .spendHitDie, .spendHitDie => True
  | .useArcaneRecovery, .useArcaneRecovery => True
  | .finishShortRest, .finishShortRest => True
  | .takeLongRest, .takeLongRest => True
  | .endTurn, .endTurn => True
  | .rollDeathSave, .rollDeathSave => True
  | _, _ => False

/-- The intent is an instance of one of `actions`. -/
def InstanceOf (actions : List LegalEncounterAction) (intent : EncounterIntent) : Prop :=
  ∃ a ∈ actions, a.Covers intent

/-- A move ends on the grid, and somewhere else. -/
def ProperMove (s : EncounterState) : EncounterIntent → Prop
  | .move destination => 5 ∣ destination ∧ ∀ actor ∈ s.currentActor, destination ≠ actor.positionFeet
  | _ => True

/-! ## Guards of the resolvers -/

section Guards

variable {s : EncounterState}

/-- The derivation as a guard: the action is permitted. -/
theorem requireLegal_eq_ok (hv : s.Valid) {action : LegalEncounterAction} {reason : String} {u : Unit} :
    requireLegal s action reason = .ok u ↔ Permitted s action := by
  obtain ⟨actions, hlegal, hmem⟩ := legalActions_yields hv
  unfold requireLegal
  rw [hlegal, ok_bind, rejectIf_eq_ok, not_not, hmem]

theorem requireConsciousActiveActor_eq_ok {actorId : String} :
    requireConsciousActiveActor s = .ok actorId ↔ s.status = .active ∧
      ∃ actor, s.currentActor = some actor ∧ actor.lifeStatus = .conscious ∧ actorId = actor.id := by
  simp only [requireConsciousActiveActor, bind_eq_ok, exists_unit, rejectIf_eq_ok, not_not, okOr_eq_ok, pure_eq,
    Except.ok.injEq]
  constructor
  · rintro ⟨hs, actor, hactor, hup, rfl⟩
    exact ⟨hs, actor, hactor, hup, rfl⟩
  · rintro ⟨hs, actor, hactor, hup, rfl⟩
    exact ⟨hs, actor, hactor, hup, rfl⟩

/-- What goes on after the guard goes on for a conscious actor in the active encounter. -/
theorem returns_activeActor {α : Type} {k : String → Rolling EncounterError α} {t : List (Nat × Nat)} {a : α}
    (h : Prog.Returns (Prog.lift (requireConsciousActiveActor s) >>= k) t a) : s.status = .active ∧
      ∃ actor, s.currentActor = some actor ∧ actor.lifeStatus = .conscious ∧ Prog.Returns (k actor.id) t a := by
  obtain ⟨actorId, hactor, h⟩ := h.lift
  obtain ⟨hs, actor, hcurrent, hup, rfl⟩ := requireConsciousActiveActor_eq_ok.mp hactor
  exact ⟨hs, actor, hcurrent, hup, h⟩

variable {actor : CombatantState}

/-- A conscious actor's turn is ordinary, or a hit of the creature waits, or the creature sleeps. -/
theorem EncounterState.Valid.ordinary_or (hv : s.Valid) (hs : s.status = .active)
    (hactor : s.currentActor = some actor) (hup : actor.lifeStatus = .conscious) :
    (∃ r, OrdinaryTurn s actor r) ∨
      (s.currentActorId = some sootWightId ∧ actor = s.creature ∧
        (s.pendingReaction = true ∨ s.sleeping = true)) := by
  obtain ⟨r, hr⟩ := hv.turnResources hs
  rcases hv.turn_cases hs with ⟨hturn, hcurrent⟩ | ⟨hturn, hcurrent⟩
  · obtain rfl : actor = s.hero := mem_unique hactor hcurrent
    refine .inl ⟨r, hs, hv.undisturbed_hero hturn, hactor, hup, fun h => ?_, hr⟩
    rw [hv.fixed.heroId] at h
    exact canalWardenId_ne_sootWightId h.1
  · obtain rfl : actor = s.creature := mem_unique hactor hcurrent
    cases hp : s.pendingReaction with
    | true => exact .inr ⟨hturn, rfl, .inl rfl⟩
    | false =>
      by_cases hsleep : s.sleeping = true
      · exact .inr ⟨hturn, rfl, .inr hsleep⟩
      · exact .inl ⟨r, hs, hp, hactor, hup, fun h => hsleep h.2, hr⟩

/-- The combatant with the current actor's id is the current actor. -/
theorem EncounterState.Valid.combatant_current (hv : s.Valid) (hs : s.status = .active)
    (hactor : s.currentActor = some actor) : s.combatant actor.id = some actor := by
  rcases hv.turn_cases hs with ⟨-, hcurrent⟩ | ⟨-, hcurrent⟩ <;>
    obtain rfl := mem_unique hactor hcurrent
  · rw [hv.fixed.heroId]
    exact if_pos rfl
  · rw [hv.fixed.creatureId]
    exact (if_neg sootWightId_ne_canalWardenId).trans (if_pos rfl)

end Guards

/-! ## What slips through -/

/-- A destination the creature can reach. -/
def CreatureMove (s : EncounterState) (destinationFeet : Nat) : Prop :=
  s.map.minimumPositionFeet ≤ destinationFeet ∧ destinationFeet ≤ s.map.maximumPositionFeet ∧
    5 ∣ destinationFeet ∧ destinationFeet ≠ s.creature.positionFeet ∧
    ∃ r ∈ s.turnResources, distance s.creature.positionFeet destinationFeet ≤ r.movementRemainingFeet

/-- The claw, on a hero in its reach whose armor class the engine can compare. -/
def CreatureAttack (s : EncounterState) (attackId targetId : String) : Prop :=
  attackId = sootWightAttackId ∧ targetId = canalWardenId ∧
    distance s.creature.positionFeet s.hero.positionFeet ≤ creatureAttack.rangeFeet ∧
    (s.hero.armorClass : Int) ≤ maxI16 ∧ ∃ r ∈ s.turnResources, r.actionAvailable = true

/-- **The unlisted intents that go through**: on its own turn the creature moves although a reaction is
    pending or it is asleep, and attacks although it is asleep. -/
def Unguarded (s : EncounterState) : EncounterIntent → Prop
  | .move destinationFeet => (s.pendingReaction = true ∨ s.sleeping = true) ∧ CreatureMove s destinationFeet
  | .attack attackId targetId => s.sleeping = true ∧ CreatureAttack s attackId targetId
  | _ => False

/-- The intent is an instance of a permitted action. -/
def Offered (s : EncounterState) (intent : EncounterIntent) : Prop :=
  ∃ a, Permitted s a ∧ a.Covers intent

section Soundness

variable {s : EncounterState} {t : List (Nat × Nat)} {n : DeterministicNarration} {d : Draft}

/-- A resolver that asks the derivation first resolves what is permitted. -/
theorem permitted_of_guard (hv : s.Valid) {action : LegalEncounterAction} {reason : String}
    {f : Unit → Rolling EncounterError Resolved} {r : Resolved}
    (h : Prog.Returns (Prog.lift (requireLegal s action reason) >>= f) t r) : Permitted s action := by
  obtain ⟨u, hu, -⟩ := h.lift
  exact (requireLegal_eq_ok hv).mp hu

theorem resolveMove_offered (hv : s.Valid) {destination : Nat}
    (h : Prog.Returns (resolveMove (.of s) destination) t (n, d)) :
    (Offered s (.move destination) ∧ ProperMove s (.move destination)) ∨
      (s.status = .active ∧ s.currentActorId = some sootWightId ∧ Unguarded s (.move destination)) := by
  obtain ⟨hs, actor, hcurrent, hup, h⟩ := returns_activeActor h
  obtain ⟨hbounds, h⟩ := h.reject
  replace h := h.expect_of_some (hv.combatant_current hs hcurrent)
  obtain ⟨hmoves, h⟩ := h.reject
  obtain ⟨r, hr, h⟩ := h.expect
  obtain ⟨hbudget, -⟩ := h.reject
  have hr' : s.turnResources = some r := hr
  have hbounds' : ¬ (destination < s.map.minimumPositionFeet ∨ destination > s.map.maximumPositionFeet ∨
      ¬ 5 ∣ destination) := hbounds
  rw [not_or, not_or, not_not, Nat.not_lt, Nat.not_lt] at hbounds'
  obtain ⟨hmin, hmax, hgrid⟩ := hbounds'
  have hreach : distance actor.positionFeet destination ≤ r.movementRemainingFeet := Nat.le_of_not_lt hbudget
  rcases hv.ordinary_or hs hcurrent hup with ⟨r', ht⟩ | ⟨hturn, rfl, hblocked⟩
  · obtain rfl : r' = r := mem_unique ht.resources hr'
    unfold distance absDiff at hreach
    have hoffer : Offered s (.move destination) :=
      ⟨.move (max (actor.positionFeet - r'.movementRemainingFeet) s.map.minimumPositionFeet)
          (min (actor.positionFeet + r'.movementRemainingFeet) s.map.maximumPositionFeet)
          r'.movementRemainingFeet,
        ⟨actor, r', ht, by omega, rfl, rfl, rfl⟩, by omega, by omega⟩
    refine .inl ⟨hoffer, hgrid, fun other hother => ?_⟩
    obtain rfl : actor = other := mem_unique hcurrent hother
    exact hmoves
  · exact .inr ⟨hs, hturn, hblocked, hmin, hmax, hgrid, hmoves, r, hr', hreach⟩

variable {targetId : String}

/-- The opposing combatant is the other one, as the resolver of an attack looks it up. -/
theorem opposing_lookup (hv : s.Valid) (hs : s.status = .active) {actor target : CombatantState}
    (hactor : s.currentActor = some actor)
    (htarget : targetId = if actor.id = canalWardenId then sootWightId else canalWardenId)
    (hlookup : s.combatant targetId = some target) :
    opposingCombatant s actor.id = some target ∧ targetId = target.id := by
  unfold opposingCombatant
  rcases hv.turn_cases hs with ⟨-, hcurrent⟩ | ⟨-, hcurrent⟩ <;>
    obtain rfl := mem_unique hactor hcurrent
  · rw [if_pos hv.fixed.heroId] at htarget ⊢
    subst htarget
    rw [EncounterState.combatant, if_neg sootWightId_ne_canalWardenId, if_pos rfl] at hlookup
    obtain rfl := Option.some.inj hlookup
    exact ⟨rfl, hv.fixed.creatureId.symm⟩
  · have hid : s.creature.id ≠ canalWardenId := by
      rw [hv.fixed.creatureId]
      exact sootWightId_ne_canalWardenId
    rw [if_neg hid] at htarget ⊢
    subst htarget
    rw [EncounterState.combatant, if_pos rfl] at hlookup
    obtain rfl := Option.some.inj hlookup
    exact ⟨if_pos hv.fixed.creatureId, hv.fixed.heroId.symm⟩

theorem resolveAttack_offered (hv : s.Valid) {attackId : String}
    (h : Prog.Returns (resolveAttack (.of s) attackId targetId) t (n, d)) :
    Offered s (.attack attackId targetId) ∨
      (s.status = .active ∧ s.currentActorId = some sootWightId ∧ Unguarded s (.attack attackId targetId)) := by
  obtain ⟨hs, actor, hcurrent, hup, h⟩ := returns_activeActor h
  obtain ⟨attack, hattack, h⟩ := h.lift
  obtain ⟨htarget, h⟩ := h.reject
  obtain ⟨target, hlookup, h⟩ := h.expect
  obtain ⟨halive, h⟩ := h.reject
  replace h := h.expect_of_some (hv.combatant_current hs hcurrent)
  obtain ⟨hrange, h⟩ := h.reject
  obtain ⟨r, hr, h⟩ := h.expect
  obtain ⟨haction, h⟩ := h.reject
  obtain ⟨u, harmor, -⟩ := h.expect
  have hr' : s.turnResources = some r := hr
  have haction' : r.actionAvailable = true := by simpa using haction
  have hrange' : distance actor.positionFeet target.positionFeet ≤ attack.rangeFeet := Nat.le_of_not_lt hrange
  have harmor' : (target.armorClass : Int) ≤ maxI16 := by
    by_contra hgt
    rw [if_neg hgt] at harmor
    cases harmor
  obtain ⟨hopposing, htargetId⟩ := opposing_lookup hv hs hcurrent (not_not.mp htarget) hlookup
  obtain ⟨attacks, hattacks, hfind⟩ : ∃ attacks, attacksForActor s actor.id = some attacks ∧
      attacks.find? (·.attackId = attackId) = some attack :=
    Option.bind_eq_some_iff.mp (okOr_eq_ok.mp hattack)
  have hattackId : attackId = attack.attackId := by
    have := List.find?_some hfind
    simpa [eq_comm] using this
  rcases hv.ordinary_or hs hcurrent hup with ⟨r', ht⟩ | ⟨hturn, rfl, hblocked⟩
  · obtain rfl : r' = r := mem_unique ht.resources hr'
    exact .inl ⟨.attack attack.attackId target.id attack.rangeFeet,
      ⟨actor, r', target, attacks, attack, ht, haction', hopposing, halive, hattacks,
        List.mem_of_find?_eq_some hfind, hrange', rfl, rfl, rfl⟩, hattackId, htargetId⟩
  · have hid : s.creature.id ≠ canalWardenId := by
      rw [hv.fixed.creatureId]
      exact sootWightId_ne_canalWardenId
    -- the action is spent while a hit waits, so only sleep is left
    have hsleep : s.sleeping = true := by
      rcases hblocked with hp | hsleep
      · obtain ⟨-, live, p, -, -, -, hpv⟩ := hv.pending hp
        obtain ⟨r', hspent, hnone⟩ := hpv.resources
        obtain rfl : r' = r := mem_unique hspent hr'
        rw [hnone] at haction'
        cases haction'
      · exact hsleep
    have hclaw : attack = creatureAttack := by
      rw [attacksForActor, if_neg hid, if_pos hv.fixed.creatureId] at hattacks
      obtain rfl := Option.some.inj hattacks
      exact List.mem_singleton.mp (List.mem_of_find?_eq_some hfind)
    have hhero : target = s.hero := by
      rw [opposingCombatant, if_neg hid, if_pos hv.fixed.creatureId] at hopposing
      exact (Option.some.inj hopposing).symm
    subst hclaw hhero
    exact .inr ⟨hs, hturn, hsleep, hattackId, htargetId.trans hv.fixed.heroId, hrange', harmor', r, hr', haction'⟩

/-- The hero's turn, from the id of the actor whose turn it is. -/
theorem EncounterState.Valid.hero_of_id (hv : s.Valid) (hs : s.status = .active) {actor : CombatantState}
    (hactor : s.currentActor = some actor) (hid : actor.id = canalWardenId) :
    actor = s.hero ∧ s.currentActorId = some canalWardenId := by
  rcases hv.turn_cases hs with ⟨hturn, hcurrent⟩ | ⟨-, hcurrent⟩ <;>
    obtain rfl := mem_unique hactor hcurrent
  · exact ⟨rfl, hturn⟩
  · rw [hv.fixed.creatureId] at hid
    exact absurd hid sootWightId_ne_canalWardenId

theorem resolveContextAction_offered (hv : s.Valid) {actionId : String}
    (h : Prog.Returns (resolveContextAction (.of s) actionId) t (n, d)) :
    Offered s (.contextAction actionId) := by
  obtain ⟨hs, actor, hcurrent, hup, h⟩ := returns_activeActor h
  obtain ⟨hids, h⟩ := h.reject
  rw [not_or, not_not, not_not] at hids
  obtain ⟨hpending, h⟩ := h.reject
  obtain ⟨hrange, h⟩ := h.reject
  obtain ⟨r, hr, h⟩ := h.expect
  obtain ⟨hinteraction, -⟩ := h.reject
  obtain ⟨rfl, hturn⟩ := hv.hero_of_id hs hcurrent hids.1
  have ht : OrdinaryTurn s s.hero r :=
    ⟨hs, hv.undisturbed_hero hturn, hcurrent, hup,
      fun hw => canalWardenId_ne_sootWightId (hids.1.symm.trans hw.1), hr⟩
  exact ⟨.contextAction releaseSluiceActionId,
    ⟨r, ht, by simpa using hinteraction, not_not.mp hpending, Nat.le_of_not_lt hrange, rfl⟩, hids.2⟩

theorem resolveCastSpell_offered (hv : s.Valid) {spell : SpellId}
    (h : Prog.Returns (resolveCastSpell (.of s) spell targetId) t (n, d)) :
    Offered s (.castSpell spell targetId) := by
  obtain ⟨-, h⟩ := h.reject
  obtain ⟨actorId, -, h⟩ := h.lift
  obtain ⟨-, h⟩ := h.reject
  obtain ⟨actions, hactions, h⟩ := h.lift
  obtain ⟨hany, -⟩ := h.reject
  obtain ⟨actions', hlegal, hmem⟩ := legalActions_yields hv
  obtain rfl : actions' = actions := Except.ok.inj (hlegal.symm.trans hactions)
  obtain ⟨a, ha, hmatch⟩ := List.any_eq_true.mp (not_not.mp hany)
  refine ⟨a, (hmem a).mp ha, ?_⟩
  cases a with
  | castSpell legalSpell legalTarget range =>
    obtain ⟨hspell, htarget⟩ : legalSpell = spell ∧ legalTarget = targetId := by simpa using hmatch
    exact ⟨hspell.symm, htarget.symm⟩
  | _ => cases hmatch

theorem resolveSecondWind_offered (hv : s.Valid) (h : Prog.Returns (resolveSecondWind (.of s)) t (n, d)) :
    Offered s .secondWind := by
  obtain ⟨actorId, -, h⟩ := h.lift
  obtain ⟨-, h⟩ := h.reject
  exact ⟨.secondWind, permitted_of_guard hv h, trivial⟩

theorem resolveActionSurge_offered (hv : s.Valid) (h : Prog.Returns (resolveActionSurge (.of s)) t (n, d)) :
    Offered s .actionSurge := by
  obtain ⟨actorId, -, h⟩ := h.lift
  obtain ⟨-, h⟩ := h.reject
  exact ⟨.actionSurge, permitted_of_guard hv h, trivial⟩

theorem resolveDeathSave_offered (hv : s.Valid) (h : Prog.Returns (resolveDeathSave (.of s)) t (n, d)) :
    Offered s .rollDeathSave := by
  obtain ⟨hs, hturn, hdown, -, -⟩ := resolveDeathSave_returns h
  exact ⟨.rollDeathSave, ⟨hs, hv.undisturbed_hero hturn, s.hero, if_pos hturn, hdown⟩, trivial⟩

/-- **A turn cannot be ended over a waiting hit.** The engine passes it on, but then its own check refuses
    the successor: the hit would wait on the hero's turn. -/
theorem resolveEndTurn_offered (hv : s.Valid) (h : Prog.Returns (resolveEndTurn (.of s)) t (n, d))
    (hsealed : (sealedState s d).Valid) : Offered s .endTurn := by
  obtain ⟨actorId, t', hactor, hpass⟩ := resolveEndTurn_returns h
  obtain ⟨hs, actor, hcurrent, hup, -⟩ := requireConsciousActiveActor_eq_ok.mp hactor
  obtain ⟨i, oldIndex, index, nextId, next, hn⟩ := hv.nextTurn hs
  obtain ⟨-, -, hstate⟩ := advanceTurn_returns_valid (d := .of s) hv hn hpass
  cases hp : s.pendingReaction with
  | false => exact ⟨.endTurn, ⟨hs, hp, actor, hcurrent, hup⟩, trivial⟩
  | true =>
    exfalso
    have hschema : d.state.schemaVersion = s.schemaVersion := by
      rw [hstate]
      exact (advanceTurn_returns hpass).2.2.frame.schemaVersion ▸ congrArg _ hstate.symm
    have hwaiting : (sealedState s d).pendingReaction = true := by
      have hpassed : d.state.pendingReaction = true := by
        rw [hstate, EncounterState.passTurn_pendingReaction]
        exact hp
      unfold sealedState EncounterState.pendingReaction at *
      rw [← hschema]
      exact hpassed
    have hwight := (hsealed.pending_turn hwaiting).2
    have hnext : (sealedState s d).currentActorId = some nextId := by
      show d.state.currentActorId = _
      rw [hstate]
      rfl
    rw [hnext] at hwight
    rcases hn.turn with ⟨rfl, -, -⟩ | ⟨-, -, hother⟩
    · exact canalWardenId_ne_sootWightId (Option.some.inj hwight)
    · have := (hv.pending_turn hp).2
      rw [show s.currentActorId = some canalWardenId from hother] at this
      exact canalWardenId_ne_sootWightId (Option.some.inj this)

/-- **Whatever the engine resolves was on offer, or slips through `Unguarded`.** -/
theorem resolveIntent_offered (hv : s.Valid) {intent : EncounterIntent}
    (h : Prog.Returns (resolveIntent (.of s) intent) t (n, d)) (hsealed : (sealedState s d).Valid) :
    (Offered s intent ∧ ProperMove s intent) ∨
      (s.status = .active ∧ s.currentActorId = some sootWightId ∧ Unguarded s intent) := by
  cases intent with
  | startEncounter =>
    obtain ⟨hs, -⟩ := h.reject
    exact .inl ⟨⟨.startEncounter, not_not.mp hs, trivial⟩, trivial⟩
  | move destination => exact resolveMove_offered hv h
  | attack attackId targetId => exact (resolveAttack_offered hv h).imp_left fun ho => ⟨ho, trivial⟩
  | contextAction actionId => exact .inl ⟨resolveContextAction_offered hv h, trivial⟩
  | castSpell spell targetId => exact .inl ⟨resolveCastSpell_offered hv h, trivial⟩
  | castLight objectId => exact .inl ⟨⟨.castLight objectId, permitted_of_guard hv h, rfl⟩, trivial⟩
  | castMageHand anchor => exact .inl ⟨⟨.castMageHand anchor, permitted_of_guard hv h, rfl⟩, trivial⟩
  | controlMageHand objectId => exact .inl ⟨⟨.controlMageHand objectId, permitted_of_guard hv h, rfl⟩, trivial⟩
  | dismissMageHand => exact .inl ⟨⟨.dismissMageHand, permitted_of_guard hv h, trivial⟩, trivial⟩
  | castSleep => exact .inl ⟨⟨.castSleep, permitted_of_guard hv h, trivial⟩, trivial⟩
  | castShield => exact .inl ⟨⟨.castShield, permitted_of_guard hv h, trivial⟩, trivial⟩
  | declineReaction => exact .inl ⟨⟨.declineReaction, permitted_of_guard hv h, trivial⟩, trivial⟩
  | secondWind => exact .inl ⟨resolveSecondWind_offered hv h, trivial⟩
  | actionSurge => exact .inl ⟨resolveActionSurge_offered hv h, trivial⟩
  | beginShortRest => exact .inl ⟨⟨.beginShortRest, permitted_of_guard hv h, trivial⟩, trivial⟩
  | spendHitDie => exact .inl ⟨⟨.spendHitDie, permitted_of_guard hv h, trivial⟩, trivial⟩
  | useArcaneRecovery => exact .inl ⟨⟨.useArcaneRecovery, permitted_of_guard hv h, trivial⟩, trivial⟩
  | finishShortRest => exact .inl ⟨⟨.finishShortRest, permitted_of_guard hv h, trivial⟩, trivial⟩
  | takeLongRest => exact .inl ⟨⟨.takeLongRest, permitted_of_guard hv h, trivial⟩, trivial⟩
  | endTurn => exact .inl ⟨resolveEndTurn_offered hv h hsealed, trivial⟩
  | rollDeathSave => exact .inl ⟨resolveDeathSave_offered hv h, trivial⟩

end Soundness

end ManchesterArcana.Encounter
