import ManchesterArcana.Encounter.Spectral

/-!
# `Encounter.Handling` — nothing fails over the distance of the hand

Every check that looks at the distance kept with the spectral hand passes: on the state a command is resolved
in, on what the resolver makes of it, and on the way there. A walk of the hero is refused for the hero's own
reasons alone, and a listed control or dismissal of the hand goes through.
-/

namespace ManchesterArcana.Encounter

open Effect Rules

namespace EncounterState

variable {s : EncounterState}

/-- The hand of a state passes the state's own check. -/
def HandChecked (s : EncounterState) : Prop := ∀ live, s.liveQ04 = some live → s.validateMageHand live = .ok ()

theorem handChecked_of_order (h : s.dial.HandInOrder) : s.HandChecked := by
  intro live hlive
  have hfits := h live.timed (dial_effects_of hlive)
  refine validateMageHand_eq_ok.mpr ⟨fun hand hhand => ?_, hfits.gone⟩
  obtain ⟨position, hposition, hhandFits⟩ := hfits.hand hand hhand
  exact ⟨position, hposition, hhandFits.valid, hhandFits.handId, hhandFits.casterId, hhandFits.place.1,
    hhandFits.place.2.1, hhandFits.place.2.2, hhandFits.distance⟩

theorem Valid.handInOrder (hv : s.Valid) : s.dial.HandInOrder := by
  intro e he
  obtain ⟨live, hlive, rfl⟩ := Option.map_eq_some_iff.mp he
  have hvalid := hv.live_of_mem (Option.mem_def.mpr hlive)
  refine ⟨fun hand hhand => ?_, hvalid.noHand, fun o ho => ?_⟩
  · obtain ⟨position, hposition, hfits⟩ := hvalid.hand hand hhand
    exact ⟨position, hposition, hfits.hand, hfits.handId, hfits.casterId,
      ⟨hfits.position_ge, hfits.position_le, hfits.position_grid⟩, hfits.distance⟩
  · obtain ⟨hgrid, hmin, hmax⟩ := hvalid.object_place ho
    show s.map.minimumPositionFeet ≤ _ ∧ _ ≤ s.map.maximumPositionFeet ∧ _
    rw [hv.envelope.minimum, hv.envelope.maximum]
    exact ⟨hmin, hmax, hgrid⟩

end EncounterState

variable {s : EncounterState} {hand : MageHandState}

/-- **Whatever a resolver makes of a valid state passes the check of the hand.** -/
theorem resolveIntent_handChecked (hv : s.Valid) {intent : EncounterIntent}
    {t : List (Nat × Nat)} {n : DeterministicNarration} {d : Draft}
    (h : Prog.Returns (resolveIntent (.of s) intent) t (n, d)) : d.state.HandChecked :=
  EncounterState.handChecked_of_order ((resolveIntent_turns hv h).change.handInOrder hv.handInOrder)

/-! ## The hero walks -/

/-- A destination the hero can reach: nothing in it looks at the hand. -/
def HeroReach (s : EncounterState) (destination : Nat) : Prop :=
  s.map.minimumPositionFeet ≤ destination ∧ destination ≤ s.map.maximumPositionFeet ∧ 5 ∣ destination ∧
    destination ≠ s.hero.positionFeet ∧
    ∃ r, s.turnResources = some r ∧ distance s.hero.positionFeet destination ≤ r.movementRemainingFeet

/-- **The hero's walk goes through exactly when the hero can walk there.** -/
theorem heroMove_resolves_iff {c : EncounterCommand} {destination : Nat} (hv : s.Valid)
    (hs : s.status = .active) (hturn : s.currentActorId = some canalWardenId)
    (hup : s.hero.lifeStatus = .conscious) (hintent : c.intent = .move destination) :
    (∃ t r, Prog.Returns (resolveEncounter s c) t r) ↔
      Enveloped s c ∧ s.revision + 1 ≤ maxU64 ∧ HeroReach s destination := by
  have hcurrent : s.currentActor = some s.hero := if_pos hturn
  constructor
  · rintro ⟨t, r, h⟩
    obtain ⟨henv, n, d, hresolve, hseal⟩ := resolveEncounter_returns.mp h
    rw [hintent] at hresolve
    obtain ⟨actorId, hactor, h⟩ := hresolve.lift
    obtain ⟨-, actor, hactor', -, rfl⟩ := requireConsciousActiveActor_eq_ok.mp hactor
    obtain rfl : actor = s.hero := Option.mem_unique hactor' hcurrent
    obtain ⟨hbounds, h⟩ := h.reject
    obtain ⟨actor', hlookup, h⟩ := h.expect
    obtain rfl : actor' = s.hero :=
      Option.mem_unique hlookup (hv.combatant_current hs hcurrent)
    obtain ⟨hmoves, h⟩ := h.reject
    obtain ⟨r, hr, h⟩ := h.expect
    obtain ⟨hbudget, h⟩ := h.reject
    rw [not_or, not_or, not_not, Nat.not_lt, Nat.not_lt] at hbounds
    exact ⟨henv, (sealResolution_eq_ok hseal).1, hbounds.1, hbounds.2.1, hbounds.2.2, hmoves, r, hr,
      Nat.not_lt.mp hbudget⟩
  · rintro ⟨henv, hrev, hmin, hmax, hgrid, hmoves, r, hr, hbudget⟩
    obtain ⟨n, d, hresolve, hseal, -⟩ :=
      resolveMove_settles hv hs hcurrent hup hr hmin hmax hgrid hmoves hbudget
    obtain ⟨resolution, hok, -⟩ := hseal.ok hv hrev
    refine ⟨[], resolution, resolveEncounter_returns.mpr ⟨henv, n, d, ?_, hok⟩⟩
    rw [hintent]
    show Prog.Returns (resolveMove (.of s) destination) [] (n, d)
    rw [hresolve]
    exact .ok _

/-! ## The hero acts through the hand -/

namespace EncounterState

variable {s s' : EncounterState} {r : TurnResources} {live : EncounterLiveQ04State}

/-- The action spent on the hand, which is then as given. -/
def withHand (s : EncounterState) (r : TurnResources) (live : EncounterLiveQ04State) (hand : Option MageHandState)
    (position : Option Nat) : EncounterState :=
  { s.spendAction r with liveQ04 := some { live with mageHand := hand, mageHandPositionFeet := position } }

variable {hand : Option MageHandState} {position : Option Nat}

theorem withHand_stepped (hv : s.Valid) (hs : s.status = .active) (hlive : s.liveQ04 = some live)
    (hchecked : (s.withHand r live hand position).HandChecked) : Stepped s (s.withHand r live hand position) where
  within := rfl
  heroSkeleton := rfl
  creatureSkeleton := rfl
  rulesSkeleton := rfl
  hero := hv.hero.sound
  creature := hv.creature.sound
  pools := hv.moved.pools
  effects := ⟨hv.effects.ward, hv.effects.notFailed, hv.effects.veil, hv.effects.unveiled⟩
  core := fun h3 => by
    have hvalid := hv.live_of_mem (Option.mem_def.mpr hlive)
    obtain ⟨hhand, hgone⟩ := validateMageHand_eq_ok.mp (hchecked _ rfl)
    have hcore : LiveCore (s.withHand r live hand position) live :=
      hvalid.core.step rfl rfl rfl (hv.active hs).creatureLife
    exact ⟨_, rfl, ⟨hcore.objects, hhand, hgone, hcore.sleep, hcore.awake, hcore.longRest⟩, hvalid.noRest hs⟩
  noLive := fun hne => by
    rw [hv.noLive hne] at hlive
    cases hlive

/-- The sluice takes the veil and what the creature had to spare. -/
theorem Stepped.release (h : Stepped s s') (hcreature : s'.creature.lifeStatus = .conscious) :
    Stepped s s'.releaseSluice where
  within := by
    have hw : Within s s' := h.within
    unfold Within at hw ⊢
    unfold releaseSluice
    rw [hw]
  heroSkeleton := h.heroSkeleton
  creatureSkeleton := h.creatureSkeleton
  rulesSkeleton := h.rulesSkeleton
  hero := h.hero
  creature :=
    { position_ge := h.creature.position_ge
      position_le := h.creature.position_le
      position_grid := h.creature.position_grid
      health := ⟨h.creature.health.current_le, Nat.zero_le _, h.creature.health.successes_le,
        h.creature.health.failures_le, h.creature.health.life⟩
      effects_nodup := h.creature.effects_nodup.filter _ }
  pools := h.pools
  effects :=
    { ward := h.effects.ward
      notFailed := nofun
      veil := nofun
      unveiled := fun _ => ⟨by simp [hasSootVeil, releaseSluice], rfl⟩ }
  core := fun h3 => by
    obtain ⟨live, hlive, hcore, hrest⟩ := h.core h3
    refine ⟨live, hlive, hcore.step rfl rfl ?_ hcreature, hrest⟩
    simp [creatureAsleep, releaseSluice]
  noLive := h.noLive

/-- On the hero's turn an action through the hand leaves a valid state. -/
theorem withHand_moved (hv : s.Valid) (hs : s.status = .active) (hturn : s.currentActorId = some canalWardenId)
    (hr : s.turnResources = some r) (hlive : s.liveQ04 = some live)
    (hchecked : (s.withHand r live hand position).HandChecked) :
    (s.withHand r live hand position).Moved ∧
      (s.objectives.contextual.status = .pending → (s.withHand r live hand position).releaseSluice.Moved) := by
  have hactive := hv.active hs
  have hleft := hactive.leftOf hr
  have hstep := withHand_stepped (r := r) hv hs hlive hchecked
  obtain ⟨hpending, hward⟩ := (hv.live_of_mem (Option.mem_def.mpr hlive)).quiet hturn
  have hquiet : ∀ live' ∈ (s.withHand r live hand position).liveQ04,
      live'.pendingAttackReaction = none ∧ live'.shieldWard = none := by
    intro live' hlive'
    obtain rfl := Option.some.inj hlive'
    exact ⟨hpending, hward⟩
  have hnone {u : EncounterState} (hsame : u.liveQ04 = (s.withHand r live hand position).liveQ04) :
      (∀ live' ∈ u.liveQ04, ∀ p ∈ live'.pendingAttackReaction, PendingValid u live' p) ∧
        ∀ live' ∈ u.liveQ04, ∀ w ∈ live'.shieldWard, WardValid u w := by
    rw [hsame]
    refine ⟨fun live' hlive' p hp => ?_, fun live' hlive' w hw => ?_⟩
    · rw [(hquiet live' hlive').1] at hp
      cases hp
    · rw [(hquiet live' hlive').2] at hw
      cases hw
  constructor
  · obtain ⟨hp, hw⟩ := hnone (u := s.withHand r live hand position) rfl
    exact hstep.moved hv hs hactive.heroLife hactive.creatureLife hr rfl
      ⟨Nat.le_refl _, hleft.grid, hleft.bonusAction, hleft.reaction, hleft.objectInteraction⟩ hp hw
  · intro hstatus
    obtain ⟨hp, hw⟩ := hnone (u := (s.withHand r live hand position).releaseSluice) rfl
    refine (hstep.release hactive.creatureLife).moved hv hs hactive.heroLife hactive.creatureLife hr rfl
      ⟨Nat.le_refl _, hleft.grid, hleft.bonusAction, hleft.reaction, fun h => ?_⟩ hp hw
    exact ⟨hturn, rfl⟩

end EncounterState

/-- The hand of a wizard who may act does what it is told. -/
theorem actWithHand_of_valid {live : EncounterLiveQ04State} {r : TurnResources}
    (hhand : live.mageHand = some hand) (hvalid : hand.Valid) (haction : r.actionAvailable = true)
    {intent : MageHandActionIntent} {effect : MageHandActionEffect} {after : Option MageHandState}
    (hact : hand.act intent = .ok (effect, after)) :
    actWithHand live r intent = .ok (⟨effect, after, { r.actionEconomy with actionAvailable := false }⟩, after,
      { r.actionEconomy with actionAvailable := false }) := by
  refine mapError_eq_ok.mpr ?_
  have hok := MageHandState.validate_eq_ok.mpr hvalid
  have hspend : r.actionEconomy.spend .action = .ok { r.actionEconomy with actionAvailable := false } := by
    have hthere : ¬ r.actionEconomy.available .action = false := by
      show ¬ r.actionAvailable = false
      rw [haction]
      exact nofun
    unfold ActionEconomy.spend
    rw [rejectIf_of_not hthere]
    rfl
  have hspent : (r.actionEconomy.spend .action).mapError RulesMatrixError.core =
      .ok { r.actionEconomy with actionAvailable := false } := mapError_eq_ok.mpr hspend
  have hfree : rejectIf (({} : ConditionEffects).actionsBlocked)
      (RulesMatrixError.invalidIntent "current conditions prevent controlling mage hand") = .ok () :=
    rejectIf_of_not nofun
  simp only [resolveMageHandAction, hhand, okOr_some, leaving_ok, ok_bind, leaving_of_eq_ok hok,
    ConditionSet.empty_validate, conditionEffects_empty, leaving_of_eq_ok hfree, leaving_of_eq_ok hspent,
    leaving_of_eq_ok hact]
  rfl

/-- Why the hand in range can be sent to an object in range. -/
theorem MageHandState.act_control (hvalid : hand.Valid) {objectId : String}
    {resulting weight : Nat} (hid : isValidOpaqueId objectId = true) (hrange : resulting ≤ 30)
    (hgrid : 5 ∣ resulting) (hweight : weight ≤ 10) :
    hand.act (.control ⟨objectId, absDiff hand.distanceFromCasterFeet resulting, resulting, weight, false,
      .manipulateObject⟩) =
      .ok (.controlled hand.handId objectId .manipulateObject hand.distanceFromCasterFeet
          (absDiff hand.distanceFromCasterFeet resulting) resulting,
        some { hand with distanceFromCasterFeet := resulting }) := by
  have hcurrent := hvalid.range
  have hmovement : absDiff hand.distanceFromCasterFeet resulting ≤ 30 := by
    unfold absDiff
    omega
  have hsteps : 5 ∣ absDiff hand.distanceFromCasterFeet resulting := distance_grid hvalid.grid hgrid
  have hlimits : MageHandControlTarget.WithinLimits ⟨objectId, absDiff hand.distanceFromCasterFeet resulting,
      resulting, weight, false, .manipulateObject⟩ hand :=
    ⟨hmovement, hsteps, hrange, hgrid, hweight, rfl, Nat.le_refl _⟩
  have hnext : MageHandState.validate { hand with distanceFromCasterFeet := resulting } = .ok () :=
    MageHandState.validate_eq_ok.mpr { hvalid with range := hrange, grid := hgrid }
  have hvalidId : requireId objectId "mage hand object ID is invalid" = .ok () :=
    rejectIf_of_not (by rw [hid]; exact nofun)
  simp only [MageHandState.act, hvalidId, ok_bind, rejectIf_of_not (not_not.mpr hlimits), hnext]
  rfl

/-! ### The two intents go through -/

section Resolver

variable {s : EncounterState} {c : EncounterCommand}

/-- A draft that can be sealed resolves its command. -/
theorem Sealable.resolves {n : DeterministicNarration} {d : Draft} (h : Sealable s n d) (henv : Enveloped s c)
    (hrev : s.revision + 1 ≤ maxU64) (hret : resolveIntent (.of s) c.intent = .ok (n, d)) :
    ∃ r, Prog.Returns (resolveEncounter s c) [] r := by
  obtain ⟨r, hok, -⟩ := h.ok henv.state hrev
  refine ⟨r, resolveEncounter_returns.mpr ⟨henv, n, d, ?_, hok⟩⟩
  rw [hret]
  exact .ok _

/-- **A listed dismissal goes through.** -/
theorem dismissMageHand_resolves (henv : Enveloped s c) (hrev : s.revision + 1 ≤ maxU64)
    (hintent : c.intent = .dismissMageHand) (hlisted : Listed s c.intent) :
    ∃ r, Prog.Returns (resolveEncounter s c) [] r := by
  have hv := henv.state
  rw [listed_iff hv, hintent] at hlisted
  obtain ⟨action, hpermitted, hcovers⟩ := hlisted
  cases action <;> try exact hcovers.elim
  obtain ⟨r, rules, sc, live, hcast, hsome⟩ := id hpermitted
  obtain ⟨hand, hhand⟩ := Option.isSome_iff_exists.mp hsome
  have hlive := hcast.runtime
  have hr := hcast.turn.resources
  have hs := hcast.turn.active
  obtain ⟨hacts, hturn⟩ := hcast.turn.heroActs hv
  obtain ⟨place, -, hfits⟩ := (hv.live_of_mem (Option.mem_def.mpr hlive)).hand hand hhand
  have hact := actWithHand_of_valid hhand hfits.hand hcast.action
    (show hand.act .dismiss = .ok (.dismissed hand.handId, none) from rfl)
  let d : Draft :=
    ((Draft.of s).update fun _ => s.withHand r live none none).push (.mageHandDismissed canalWardenId hand.handId)
  have hret : ∃ n, n.Valid ∧ resolveDismissMageHand (.of s) = .ok (n, d) := by
    unfold resolveDismissMageHand
    rw [Prog.lift_bind_of_ok ((requireLegal_eq_ok (u := ()) hv).mpr hpermitted)]
    dsimp only [Draft.of]
    rw [Prog.expect_bind_of_some hlive, Prog.expect_bind_of_some hr, Prog.lift_bind_of_ok hact]
    exact ⟨_, narration_valid (by decide) ⟨by decide, by decide⟩ ⟨by decide, by decide⟩, rfl⟩
  obtain ⟨n, hn, hret⟩ := hret
  have hchecked : (s.withHand r live none none).HandChecked := by
    have hreturns : Prog.Returns (resolveIntent (.of s) .dismissMageHand) [] (n, d) := by
      show Prog.Returns (resolveDismissMageHand (.of s)) [] (n, d)
      rw [hret]
      exact .ok _
    exact resolveIntent_handChecked hv hreturns
  have hstep := EncounterState.withHand_stepped (r := r) hv hs hlive hchecked
  have hseal : Sealable s n d := (((Recorded.of s).update (f := fun _ => s.withHand r live none none)).push
    (EncounterFact.fits_live hcast.schema)).sealable hn hstep.frame
      (EncounterState.withHand_moved hv hs hturn hr hlive hchecked).1 Draft.push_facts_ne
  refine hseal.resolves henv hrev ?_
  rw [hintent]
  exact hret

/-- **A listed control of the hand goes through.** -/
theorem controlMageHand_resolves {objectId : String} (henv : Enveloped s c) (hrev : s.revision + 1 ≤ maxU64)
    (hintent : c.intent = .controlMageHand objectId) (hlisted : Listed s c.intent) :
    ∃ r, Prog.Returns (resolveEncounter s c) [] r := by
  have hv := henv.state
  rw [listed_iff hv, hintent] at hlisted
  obtain ⟨action, hpermitted, hcovers⟩ := hlisted
  cases action <;> try exact hcovers.elim
  obtain rfl := hcovers
  obtain ⟨r, rules, sc, live, hcast, hsome, hpending, hrange, rfl⟩ := id hpermitted
  obtain ⟨hand, hhand⟩ := Option.isSome_iff_exists.mp hsome
  have hlive := hcast.runtime
  have hr := hcast.turn.resources
  have hs := hcast.turn.active
  obtain ⟨hacts, hturn⟩ := hcast.turn.heroActs hv
  have hvalid := hv.live_of_mem (Option.mem_def.mpr hlive)
  obtain ⟨place, -, hfits⟩ := hvalid.hand hand hhand
  obtain ⟨rune, lever, hobjects, hrune, hlever⟩ := hvalid.objects
  -- the lever, and the way of the hand to it
  have hobject : authoredObject s sluiceLeverObjectId = .ok lever := by
    refine okOr_eq_ok.mpr ?_
    rw [hlive, Option.bind_some, hobjects]
    have hne : ¬ rune.objectId = sluiceLeverObjectId := by
      rw [hrune.objectId]
      decide
    rw [List.find?_cons_of_neg (by simpa using hne), List.find?_cons_of_pos (by simpa using hlever.objectId)]
  have hdistance : distance s.hero.positionFeet lever.positionFeet ≤ 30 := by
    rw [hlever.position]
    exact hrange
  have hid : isValidOpaqueId lever.objectId = true := by
    rw [hlever.objectId]
    decide
  have hgrid : 5 ∣ distance s.hero.positionFeet lever.positionFeet := by
    have hplace := hvalid.object_place (o := lever) (by rw [hobjects]; simp)
    exact distance_grid hv.hero.position_grid hplace.1
  have hact := actWithHand_of_valid hhand hfits.hand hcast.action
    (MageHandState.act_control hfits.hand hid hdistance hgrid (Nat.le_of_eq hlever.weight))
  let after := s.withHand r live
    (some { hand with distanceFromCasterFeet := distance s.hero.positionFeet lever.positionFeet })
    (some lever.positionFeet)
  let controlled : Draft := ((Draft.of s).update fun _ => after).push (.mageHandControlled canalWardenId hand.handId
    sluiceLeverObjectId .manipulateObject (distance s.hero.positionFeet lever.positionFeet))
  have hrelease : releaseByHand controlled sluiceLeverObjectId =
      (controlled.update (·.releaseSluice)).push (.contextActionResolved canalWardenId sluiceLeverObjectId
        s.creature.hitPoints.temporary releaseSluiceObjectiveId) := if_pos ⟨rfl, hpending⟩
  have hret : ∃ n, n.Valid ∧ resolveControlMageHand (.of s) sluiceLeverObjectId =
      .ok (n, releaseByHand controlled sluiceLeverObjectId) := by
    unfold resolveControlMageHand
    rw [Prog.lift_bind_of_ok ((requireLegal_eq_ok (u := ()) hv).mpr hpermitted)]
    dsimp only [Draft.of]
    rw [Prog.lift_bind_of_ok hobject, Prog.expect_bind_of_some hlive, Prog.expect_bind_of_some hhand,
      Prog.expect_bind_of_some hr, hlever.notMagic, Prog.lift_bind_of_ok hact]
    exact ⟨_, narration_valid (by decide) ⟨by decide, by decide⟩ ⟨by decide, by decide⟩, rfl⟩
  obtain ⟨n, hn, hret⟩ := hret
  have hchecked : after.HandChecked := by
    have hreturns : Prog.Returns (resolveIntent (.of s) (.controlMageHand sluiceLeverObjectId)) []
        (n, releaseByHand controlled sluiceLeverObjectId) := by
      show Prog.Returns (resolveControlMageHand (.of s) sluiceLeverObjectId) [] _
      rw [hret]
      exact .ok _
    have h := resolveIntent_handChecked hv hreturns
    rw [hrelease] at h
    exact h
  have hstep := (EncounterState.withHand_stepped (r := r) hv hs hlive hchecked).release (hv.active hs).creatureLife
  have hseal : Sealable s n (releaseByHand controlled sluiceLeverObjectId) := by
    rw [hrelease]
    exact (((((Recorded.of s).update (f := fun _ => after)).push (EncounterFact.fits_live hcast.schema)).update
      (f := (·.releaseSluice))).push (EncounterFact.fits_live hcast.schema)).sealable hn hstep.frame
        ((EncounterState.withHand_moved hv hs hturn hr hlive hchecked).2 hpending) Draft.push_facts_ne
  refine hseal.resolves henv hrev ?_
  rw [hintent]
  exact hret

end Resolver

/-! ## The geometry of the hand -/

/-- **Nothing fails over the distance of the hand** in `s`. -/
structure FreeOfHand (s : EncounterState) : Prop where
  checked : s.HandChecked
  drafts : ∀ intent t n d, Prog.Returns (resolveIntent (.of s) intent) t (n, d) → d.state.HandChecked
  ages : ∀ hand, s.mageHand = some hand → ∃ aged, advanceMageHandDuration (some hand) = .ok aged
  walks : ∀ c destination, s.status = .active → s.currentActorId = some canalWardenId →
    s.hero.lifeStatus = .conscious → c.intent = .move destination →
      ((∃ t r, Prog.Returns (resolveEncounter s c) t r) ↔
        Enveloped s c ∧ s.revision + 1 ≤ maxU64 ∧ HeroReach s destination)
  gestures : ∀ c, (c.intent = .dismissMageHand ∨ ∃ objectId, c.intent = .controlMageHand objectId) →
    Enveloped s c → s.revision + 1 ≤ maxU64 → Listed s c.intent →
      ∃ r, Prog.Returns (resolveEncounter s c) [] r

theorem EncounterState.Valid.freeOfHand (hv : s.Valid) : FreeOfHand s where
  checked := EncounterState.handChecked_of_order hv.handInOrder
  drafts := fun intent t n d h => resolveIntent_handChecked hv h
  ages := fun hand hhand => by
    obtain ⟨-, position, -, hfits⟩ := hv.hand_valid hhand
    rw [advanceMageHandDuration_of_valid hfits.hand]
    split
    · exact ⟨_, rfl⟩
    · exact ⟨_, rfl⟩
  walks := fun c destination hs hturn hup hintent => heroMove_resolves_iff hv hs hturn hup hintent
  gestures := by
    rintro c (hdismiss | ⟨objectId, hcontrol⟩) henv hrev hlisted
    · exact dismissMageHand_resolves henv hrev hdismiss hlisted
    · exact controlMageHand_resolves henv hrev hcontrol hlisted

/-- **The geometry of the spectral hand** along every history. A hand that is cast at an object is there, where
    the object is until it is sent elsewhere, up to exactly the first step that ends it, and then gone until
    the next cast; the distance it keeps is the distance between its position and the hero's; and nothing
    fails over that distance. -/
theorem mage_hand_geometry {s₀ s : EncounterState} {as : List Turned} (hnew : NewEncounter s₀)
    (hrun : Run EncounterStep s₀ as s) :
    (∀ a s' objectId, EncounterStep s a s' → a.1.intent = .castMageHand objectId →
      ∃ live o, s.liveQ04 = some live ∧ o ∈ live.objects ∧ o.objectId = objectId ∧
        HandAt s'.round o.positionFeet s' ∧ ∀ bs u, Run (KeepsHand s'.round) s' bs u →
          (∃ position, HandAt s'.round position u) ∧
          ((∀ b ∈ bs, ∀ id, b.1.intent ≠ .controlMageHand id) → u.mageHandPosition = some o.positionFeet) ∧
          ∀ b u', EncounterStep u b u' → EndsHand s'.round u b.1.intent u' →
            u'.mageHand = none ∧ ∀ cs w, Run CastsNoHand u' cs w → w.mageHand = none) ∧
    (∀ a s' objectId, EncounterStep s a s' → a.1.intent = .controlMageHand objectId →
      ∃ live o, s.liveQ04 = some live ∧ o ∈ live.objects ∧ o.objectId = objectId ∧
        s'.mageHandPosition = some o.positionFeet) ∧
    ((∀ a ∈ as, ∀ objectId, a.1.intent ≠ .castMageHand objectId) → s.mageHand = none) ∧
    (∀ hand, s.mageHand = some hand → ∃ position, s.mageHandPosition = some position ∧
      hand.distanceFromCasterFeet = distance s.hero.positionFeet position) ∧
    FreeOfHand s := by
  have hv : s.Valid := EncounterStep.run_valid hrun hnew.valid
  refine ⟨?cast, ?control, ?uncast, ?distance, hv.freeOfHand⟩
  case cast =>
    rintro a s' objectId ⟨r, hr, rfl⟩ hintent
    obtain ⟨live, o, hlive, ho, hid, hat⟩ := Resolves.hand_cast hr hintent
    refine ⟨live, o, hlive, ho, hid, hat, fun bs u hkeeps => ?_⟩
    refine ⟨KeepsHand.run_handAt hkeeps hat, fun hcontrol => (KeepsHand.run_place hkeeps hat hcontrol).place, ?_⟩
    rintro b u' ⟨r', hr', rfl⟩ hends
    obtain ⟨place, hat'⟩ := KeepsHand.run_handAt hkeeps hat
    have hnocast : ∀ id, b.1.intent ≠ .castMageHand id := by
      intro id hcast
      have hturns := Resolves.turns hr'
      rw [hcast] at hturns hends
      obtain ⟨-, -, e, o', hand, -, -, -, -, hdial⟩ := hturns
      have hround : r'.state.round = u.round := congrArg Dial.round hdial
      obtain hdismiss | ⟨_, _, hmove, -⟩ | ⟨hlt, -⟩ | hrest | hrest := hends
      · cases hdismiss
      · cases hmove
      · omega
      · cases hrest
      · cases hrest
    have hgone := (Resolves.hand_step hr' hat' hnocast).1 hends
    exact ⟨hgone, fun cs w hcs => CastsNoHand.run_absent hcs hgone⟩
  case control =>
    rintro a s' objectId ⟨r, hr, rfl⟩ hintent
    exact Resolves.hand_control hr hintent
  case uncast =>
    intro hno
    refine CastsNoHand.run_absent (hrun.restrict hno) ?_
    cases hhand : s₀.mageHand with
    | none => rfl
    | some hand => exact absurd hnew.ready (hnew.valid.hand_valid hhand).1
  case distance =>
    intro hand hhand
    obtain ⟨-, position, hposition, hfits⟩ := hv.hand_valid hhand
    exact ⟨position, hposition, hfits.distance.symm⟩

/-- The hand that the sleep wizard calls to the rune. -/
theorem mage_hand_geometry_sleepwalk : ∃ called held,
    Run EncounterStep sleepEncounter (sleepwalk.take 5) called ∧
    EncounterStep called (turned 6 (.castMageHand viaductRuneObjectId) []) held ∧
    ∃ live o, called.liveQ04 = some live ∧ o ∈ live.objects ∧ o.objectId = viaductRuneObjectId ∧
      HandAt held.round o.positionFeet held := by
  obtain ⟨asleep, walked, called, held, _, hrun, -, hwalk, -, hpass, hcast, -⟩ := sleepwalk_stations
  have hcalled : Run EncounterStep sleepEncounter (sleepwalk.take 5) called := (hrun.snoc hwalk).append hpass
  obtain ⟨live, o, hlive, ho, hid, hat, -⟩ :=
    (mage_hand_geometry sleepEncounter_new hcalled).1 _ held viaductRuneObjectId hcast rfl
  exact ⟨called, held, hcalled, hcast, live, o, hlive, ho, hid, hat⟩

end ManchesterArcana.Encounter
