import ManchesterArcana.Encounter.Boundary
import ManchesterArcana.Encounter.Grounded

/-!
# `Encounter.Movement` — a move that passes its guards goes through

The guards of `resolveMove` ask neither whether a reaction is pending nor whether the creature sleeps, and
nothing after them does either: whoever moves, the move settles. The spectral hand is the one thing that has
to follow it.
-/

namespace ManchesterArcana.Encounter

open Effect Rules

/-! ## Narrations -/

theorem narration_valid {id authored fallback : String} (hid : isValidOpaqueId id = true)
    (ha : IsText 4000 authored) (hf : IsText 1000 fallback) : (narration id authored fallback).Valid :=
  ⟨hid, ha.visible, hf.visible, ha.length_le, hf.length_le⟩

variable {destination : Nat} {c : CombatantState} {map : EncounterMap} {s : EncounterState}

theorem CombatantState.Valid.name_isText (hv : c.Valid map) :
    IsText 120 c.name := ⟨hv.name_ne, hv.name_le⟩

theorem heroNarrativeName_isText (hv : s.Valid) : IsText 124 (heroNarrativeName s) := by
  have hname := hv.hero.name_isText
  unfold heroNarrativeName
  split
  · exact hname.prepend (a := "The ") (by decide)
  · exact hname.mono (by decide)

/-- A number in the middle of a sentence. -/
theorem isText_number {a b : String} {k m n : Nat} (ha : IsText m a) (hk : k < 10 ^ 9) (hb : b.length ≤ n) :
    IsText (m + 9 + n) (a ++ toString k ++ b) :=
  (ha.append (length_toString_le (by decide) hk)).append hb

theorem moveNarration_valid {name : String} {requested : Nat} (hname : IsText 120 name)
    (hr : requested < 10 ^ 9) (hd : destination < 10 ^ 9) : (moveNarration name requested destination).Valid := by
  have hcrosses : IsText (120 + 9) (name ++ " crosses ") := hname.append (by decide)
  have hmoves : IsText 28 "The current actor moves to " := ⟨by decide, by decide⟩
  exact narration_valid (by decide)
    ((isText_number hcrosses hr (b := " feet of the rain-slick towpath.") (n := 40) (by decide)).mono (by decide))
    ((isText_number hmoves hd (b := " feet.") (n := 6) (by decide)).mono (by decide))

/-- A combatant elsewhere on the grid. -/
theorem CombatantState.Sound.relocate (h : c.Sound map) (hmin : map.minimumPositionFeet ≤ destination)
    (hmax : destination ≤ map.maximumPositionFeet) (hgrid : 5 ∣ destination) :
    { c with positionFeet := destination }.Sound map :=
  ⟨hmin, hmax, hgrid, ⟨h.health.current_le, h.health.temporary_le, h.health.successes_le,
    h.health.failures_le, h.health.life⟩, h.effects_nodup⟩

/-! ## The hand follows -/

/-- The live runtime after the hero went to `destinationFeet`. -/
def EncounterLiveQ04State.follow (live : EncounterLiveQ04State) (destinationFeet : Nat) :
    EncounterLiveQ04State :=
  match live.mageHandPositionFeet with
  | none => live
  | some position =>
    if distance destinationFeet position > 30 then { live with mageHand := none, mageHandPositionFeet := none }
    else { live with mageHand := live.mageHand.map fun hand =>
      { hand with distanceFromCasterFeet := distance destinationFeet position } }

theorem distance_grid {a b : Nat} (ha : 5 ∣ a) (hb : 5 ∣ b) : 5 ∣ distance a b := by
  unfold distance absDiff
  omega

/-- **The hand of a valid runtime follows without fail.** -/
theorem followHand_of_valid {d : Draft} {live : EncounterLiveQ04State}
    (hv : EncounterState.LiveValid s live) (hlive : d.state.liveQ04 = some live) (hgrid : 5 ∣ destination) :
    ∃ facts, followHand d destination = .ok
      { d with
        state := { d.state with liveQ04 := some (live.follow destination) }
        facts := d.facts ++ facts } := by
  have hsame : { d.state with liveQ04 := some live } = d.state := by rw [← hlive]
  unfold followHand EncounterLiveQ04State.follow
  rw [hlive]
  dsimp only
  cases hposition : live.mageHandPositionFeet with
  | none =>
    refine ⟨[], ?_⟩
    dsimp only
    rw [hsame, List.append_nil]
    rfl
  | some position =>
    -- a hand has a position exactly when there is a hand
    cases hhand : live.mageHand with
    | none =>
      rw [hv.noHand hhand] at hposition
      cases hposition
    | some hand =>
      obtain ⟨position', hposition', hvalid⟩ := hv.hand hand hhand
      obtain rfl : position' = position := Option.mem_unique hposition' hposition
      dsimp only
      rw [reconcileMageHandDistance_of_valid hvalid.hand (distance_grid hgrid hvalid.position_grid)]
      by_cases hfar : distance destination position' > 30
      · refine ⟨[.mageHandExpired mageHandId], ?_⟩
        simp only [hfar, if_true]
        rfl
      · refine ⟨[], ?_⟩
        simp only [hfar, if_false, List.append_nil]
        rfl

namespace EncounterState

variable {s s' : EncounterState} {live : EncounterLiveQ04State}

theorem updateCombatant_hero {f : CombatantState → CombatantState} :
    s.updateCombatant canalWardenId f = { s with hero := f s.hero } := if_pos rfl

theorem updateCombatant_creature {f : CombatantState → CombatantState} :
    s.updateCombatant sootWightId f = { s with creature := f s.creature } :=
  (if_neg sootWightId_ne_canalWardenId).trans (if_pos rfl)

/-- The runtime that followed is valid for a hero at the destination. -/
theorem LiveCore.follow (h : LiveCore s live) {destination : Nat} (hgrid : 5 ∣ destination)
    (hmap : s'.map = s.map) (hpos : s'.hero.positionFeet = destination)
    (hasleep : s'.creatureAsleep = s.creatureAsleep) (hlife : s'.creature.lifeStatus = .conscious) :
    LiveCore s' (live.follow destination) := by
  have hsleep : ∀ sleep ∈ live.sleep, SleepValid s' sleep :=
    fun sleep hmem => (h.sleep sleep hmem).step hasleep hlife
  have hawake (hnone : live.sleep = none) : s'.creatureAsleep = false := hasleep.trans (h.awake hnone)
  unfold EncounterLiveQ04State.follow
  cases hposition : live.mageHandPositionFeet with
  | none =>
    refine ⟨h.objects, fun hand hmem => ?_, h.noHand, hsleep, hawake, h.longRest⟩
    obtain ⟨position, hsome, -⟩ := h.hand hand hmem
    rw [hposition] at hsome
    cases hsome
  | some position =>
    dsimp only
    by_cases hfar : distance destination position > 30
    · rw [if_pos hfar]
      exact ⟨h.objects, nofun, fun _ => rfl, hsleep, hawake, h.longRest⟩
    · rw [if_neg hfar]
      refine ⟨h.objects, fun hand hmem => ?_, fun hnone => ?_, hsleep, hawake, h.longRest⟩
      · obtain ⟨hand', hhand, rfl⟩ := Option.map_eq_some_iff.mp hmem
        obtain ⟨position', hposition', hvalid⟩ := h.hand hand' hhand
        obtain rfl : position' = position := Option.mem_unique hposition' hposition
        exact ⟨position', rfl,
          { hvalid.hand with
            range := Nat.le_of_not_lt hfar
            grid := distance_grid hgrid hvalid.position_grid },
          hvalid.handId, hvalid.casterId, by rw [hmap]; exact hvalid.position_ge,
          by rw [hmap]; exact hvalid.position_le, hvalid.position_grid, by rw [hpos]⟩
      · have hgone := h.noHand (Option.map_eq_none_iff.mp hnone)
        rw [hposition] at hgone
        cases hgone

theorem follow_unchanged {destination : Nat} :
    (live.follow destination).pendingAttackReaction = live.pendingAttackReaction ∧
      (live.follow destination).shieldWard = live.shieldWard ∧
      (live.follow destination).activeShortRest = live.activeShortRest ∧
      (live.follow destination).campaignTimeMinutes = live.campaignTimeMinutes := by
  unfold EncounterLiveQ04State.follow
  split
  · exact ⟨rfl, rfl, rfl, rfl⟩
  · split <;> exact ⟨rfl, rfl, rfl, rfl⟩

/-! ## The move -/

/-- The hero at the destination, the hand after it. -/
def heroMoved (s : EncounterState) (r : TurnResources) (destinationFeet : Nat) : EncounterState :=
  { s with
    hero := { s.hero with positionFeet := destinationFeet }
    turnResources := some { r with
      movementRemainingFeet := r.movementRemainingFeet - distance s.hero.positionFeet destinationFeet }
    liveQ04 := if s.schemaVersion = encounterSchemaVersion then s.liveQ04.map (·.follow destinationFeet)
      else s.liveQ04 }

/-- The creature at the destination. -/
def creatureMoved (s : EncounterState) (r : TurnResources) (destinationFeet : Nat) : EncounterState :=
  { s with
    creature := { s.creature with positionFeet := destinationFeet }
    turnResources := some { r with
      movementRemainingFeet := r.movementRemainingFeet - distance s.creature.positionFeet destinationFeet } }

variable {r : TurnResources} {destination : Nat}

/-- Within the budget the rest of the movement stays on the grid. -/
theorem ActiveValid.leftOf_move (hv : ActiveValid s) (hr : s.turnResources = some r) {cost : Nat}
    (hcost : 5 ∣ cost) (hturn : s'.currentActorId = s.currentActorId)
    (hbonus : s'.bonusActionReachable = s.bonusActionReachable)
    (hobjective : s'.objectives.contextual.status = s.objectives.contextual.status) :
    LeftOf s' r { r with movementRemainingFeet := r.movementRemainingFeet - cost } := by
  have hleft := hv.leftOf hr
  refine ⟨Nat.sub_le _ _, ?_, fun h => hbonus.trans (hleft.bonusAction h), hleft.reaction, fun h => ?_⟩
  · exact Nat.dvd_sub hleft.grid hcost
  · rw [hturn, hobjective]
    exact hleft.objectInteraction h

/-- The hero's position and effects are what the state's own checks look at. -/
theorem heroMoved_stepped (hv : s.Valid) (hs : s.status = .active)
    (hmin : s.map.minimumPositionFeet ≤ destination) (hmax : destination ≤ s.map.maximumPositionFeet)
    (hgrid : 5 ∣ destination) : Stepped s (s.heroMoved r destination) where
  within := rfl
  heroSkeleton := rfl
  creatureSkeleton := rfl
  rulesSkeleton := rfl
  hero := hv.hero.sound.relocate hmin hmax hgrid
  creature := hv.creature.sound
  pools := hv.moved.pools
  effects := ⟨hv.effects.ward, hv.effects.notFailed, hv.effects.veil, hv.effects.unveiled⟩
  core := fun h3 => by
    obtain ⟨live, hlive, hvalid⟩ := hv.live h3
    refine ⟨live.follow destination, ?_, ?_, follow_unchanged.2.2.1.trans (hvalid.noRest hs)⟩
    · show (if s.schemaVersion = encounterSchemaVersion then s.liveQ04.map _ else _) = _
      rw [if_pos h3, hlive]
      rfl
    · exact hvalid.core.follow hgrid rfl rfl rfl (hv.active hs).creatureLife
  noLive := fun hne => by
    show (if s.schemaVersion = encounterSchemaVersion then s.liveQ04.map _ else _) = _
    rw [if_neg hne]
    exact hv.noLive hne

/-- The live runtime of a hero who moved is the one that followed. -/
theorem heroMoved_live (hv : s.Valid) (hlive : live ∈ (s.heroMoved r destination).liveQ04) :
    ∃ before ∈ s.liveQ04, LiveValid s before ∧ live = before.follow destination := by
  have hlive' : (if s.schemaVersion = encounterSchemaVersion then s.liveQ04.map (·.follow destination)
      else s.liveQ04) = some live := hlive
  by_cases h3 : s.schemaVersion = encounterSchemaVersion
  · obtain ⟨before, hbefore, hvalid⟩ := hv.live h3
    rw [if_pos h3, hbefore] at hlive'
    obtain rfl := Option.some.inj hlive'
    exact ⟨before, hbefore, hvalid, rfl⟩
  · rw [if_neg h3, hv.noLive h3] at hlive'
    cases hlive'

/-- On the hero's turn nothing waits and nothing wards, before and after the move. -/
theorem heroMoved_quiet (hv : s.Valid) (hturn : s.currentActorId = some canalWardenId)
    (hlive : live ∈ (s.heroMoved r destination).liveQ04) :
    live.pendingAttackReaction = none ∧ live.shieldWard = none := by
  obtain ⟨before, -, hvalid, rfl⟩ := heroMoved_live hv hlive
  obtain ⟨hp, hw⟩ := hvalid.quiet hturn
  exact ⟨follow_unchanged.1.trans hp, follow_unchanged.2.1.trans hw⟩

/-- **A hero who moves within their budget leaves a valid state.** -/
theorem heroMoved_moved (hv : s.Valid) (hs : s.status = .active) (hr : s.turnResources = some r)
    (hturn : s.currentActorId = some canalWardenId) (hmin : s.map.minimumPositionFeet ≤ destination)
    (hmax : destination ≤ s.map.maximumPositionFeet) (hgrid : 5 ∣ destination) :
    (s.heroMoved r destination).Moved := by
  have hactive := hv.active hs
  refine (heroMoved_stepped hv hs hmin hmax hgrid).moved hv hs hactive.heroLife hactive.creatureLife hr rfl
    (hactive.leftOf_move hr (distance_grid hv.hero.position_grid hgrid) rfl rfl rfl) ?_ ?_
  · intro live hlive p hp
    rw [(heroMoved_quiet hv hturn hlive).1] at hp
    cases hp
  · intro live hlive w hw
    rw [(heroMoved_quiet hv hturn hlive).2] at hw
    cases hw

theorem heroMoved_grounded (hv : s.Valid) (hs : s.status = .active) (hg : Grounded s)
    (hturn : s.currentActorId = some canalWardenId) (hmin : s.map.minimumPositionFeet ≤ destination)
    (hmax : destination ≤ s.map.maximumPositionFeet) (hgrid : 5 ∣ destination) :
    Grounded (s.heroMoved r destination) := by
  refine (heroMoved_stepped hv hs hmin hmax hgrid).grounded hg (hg.dying hs) ?_ ?_ ?_
  · intro live hlive
    obtain ⟨before, hbefore, -, rfl⟩ := heroMoved_live hv hlive
    exact follow_unchanged.2.2.2.trans (hg.clock (.inl hs) before hbefore)
  · intro live hlive hward
    rw [(heroMoved_quiet hv hturn hlive).2] at hward
    cases hward
  · intro live hlive p hp
    rw [(heroMoved_quiet hv hturn hlive).1] at hp
    cases hp

theorem creatureMoved_stepped (hv : s.Valid) (hs : s.status = .active)
    (hmin : s.map.minimumPositionFeet ≤ destination) (hmax : destination ≤ s.map.maximumPositionFeet)
    (hgrid : 5 ∣ destination) : Stepped s (s.creatureMoved r destination) where
  within := rfl
  heroSkeleton := rfl
  creatureSkeleton := rfl
  rulesSkeleton := rfl
  hero := hv.hero.sound
  creature := hv.creature.sound.relocate hmin hmax hgrid
  pools := hv.moved.pools
  effects := ⟨hv.effects.ward, hv.effects.notFailed, hv.effects.veil, hv.effects.unveiled⟩
  core := fun h3 => by
    obtain ⟨live, hlive, hvalid⟩ := hv.live h3
    exact ⟨live, hlive, hvalid.core.step rfl rfl rfl (hv.active hs).creatureLife, hvalid.noRest hs⟩
  noLive := hv.noLive

/-- **A creature that moves within its budget leaves a valid state**, even over a waiting hit. -/
theorem creatureMoved_moved (hv : s.Valid) (hs : s.status = .active) (hr : s.turnResources = some r)
    (hmin : s.map.minimumPositionFeet ≤ destination) (hmax : destination ≤ s.map.maximumPositionFeet)
    (hgrid : 5 ∣ destination) : (s.creatureMoved r destination).Moved := by
  have hactive := hv.active hs
  have hstep := creatureMoved_stepped (r := r) hv hs hmin hmax hgrid
  have hlive (live : EncounterLiveQ04State) (hlive : live ∈ s.liveQ04) : LiveValid s live := by
    by_cases h3 : s.schemaVersion = encounterSchemaVersion
    · obtain ⟨live', hlive', hvalid⟩ := hv.live h3
      obtain rfl : live = live' := Option.mem_unique hlive hlive'
      exact hvalid
    · rw [hv.noLive h3] at hlive
      cases hlive
  refine hstep.moved hv hs hactive.heroLife hactive.creatureLife hr rfl
    (hactive.leftOf_move hr (distance_grid hv.creature.position_grid hgrid) rfl rfl rfl) ?_ ?_
  · -- the action that was spent on the hit stays spent
    intro live hmem p hp
    have hpv := (hlive live hmem).pending p hp
    obtain ⟨r₀, hr₀, hspent⟩ := hpv.resources
    obtain rfl : r₀ = r := Option.mem_unique hr₀ hr
    exact hpv.step hstep.sameTurn rfl rfl rfl hspent
  · exact fun live hmem w hw => ((hlive live hmem).ward w hw).step hstep.sameTurn

theorem creatureMoved_grounded (hv : s.Valid) (hs : s.status = .active) (hg : Grounded s)
    (hr : s.turnResources = some r) (hmin : s.map.minimumPositionFeet ≤ destination)
    (hmax : destination ≤ s.map.maximumPositionFeet) (hgrid : 5 ∣ destination) :
    Grounded (s.creatureMoved r destination) := by
  refine (creatureMoved_stepped hv hs hmin hmax hgrid).grounded hg (hg.dying hs) (hg.clock (.inl hs)) ?_ hg.total
  intro live hlive hward r' hr'
  obtain rfl := Option.some.inj hr'
  exact hg.warded live hlive hward r hr

end EncounterState

section Resolver

variable {s : EncounterState} {r : TurnResources} {destination : Nat}

/-- The one fact of a move, after those about the hand. -/
theorem moved_facts_fit {facts : List EncounterFact} {version : Nat}
    (hfacts : version ≠ encounterSchemaVersion → facts = []) {fact : EncounterFact} (hfact : fact.Fits version) :
    ∀ f ∈ facts ++ [fact], f.Fits version := by
  intro f hf
  by_cases h3 : version = encounterSchemaVersion
  · exact EncounterFact.fits_live h3
  · rw [hfacts h3, List.nil_append, List.mem_singleton] at hf
    rw [hf]
    exact hfact

/-- **A move that passes its guards goes through.** -/
theorem resolveMove_settles (hv : s.Valid) (hs : s.status = .active) {actor : CombatantState}
    (hactor : s.currentActor = some actor) (hup : actor.lifeStatus = .conscious)
    (hr : s.turnResources = some r) (hmin : s.map.minimumPositionFeet ≤ destination)
    (hmax : destination ≤ s.map.maximumPositionFeet) (hgrid : 5 ∣ destination)
    (hmoves : destination ≠ actor.positionFeet)
    (hbudget : distance actor.positionFeet destination ≤ r.movementRemainingFeet) :
    ∃ n d, resolveMove (.of s) destination = .ok (n, d) ∧ Sealable s n d ∧ (Grounded s → Grounded d.state) := by
  have hmap : destination < 10 ^ 9 := by
    rw [hv.envelope.maximum] at hmax
    exact hmax.trans_lt (by decide)
  have hposition : actor.positionFeet < 10 ^ 9 := by
    have hle : actor.positionFeet ≤ s.map.maximumPositionFeet := by
      rcases hv.turn_cases hs with ⟨-, hcurrent⟩ | ⟨-, hcurrent⟩ <;>
        obtain rfl := Option.mem_unique hactor hcurrent
      · exact hv.hero.position_le
      · exact hv.creature.position_le
    rw [hv.envelope.maximum] at hle
    exact hle.trans_lt (by decide)
  have hbounds : ¬ (destination < s.map.minimumPositionFeet ∨ destination > s.map.maximumPositionFeet ∨
      ¬ 5 ∣ destination) := by
    rw [not_or, not_or, not_not, Nat.not_lt, Nat.not_lt]
    exact ⟨hmin, hmax, hgrid⟩
  have hguard : requireConsciousActiveActor s = .ok actor.id :=
    requireConsciousActiveActor_eq_ok.mpr ⟨hs, actor, hactor, hup, rfl⟩
  -- what is left of a move once its successor is known
  have hseal {s' : EncounterState} {facts : List EncounterFact} (hname : IsText 120 actor.name)
      (hframe : Frame s s') (hmoved : s'.Moved) (hfacts : s.schemaVersion ≠ encounterSchemaVersion → facts = []) :
      Sealable s (moveNarration actor.name (distance actor.positionFeet destination) destination)
        ⟨s', [], facts ++ [.moved actor.id actor.positionFeet destination (distance actor.positionFeet destination)
          (r.movementRemainingFeet - distance actor.positionFeet destination)]⟩ :=
    { narration := moveNarration_valid hname (by unfold distance absDiff; omega) hmap
      frame := hframe
      moved := hmoved
      rolls := .nil
      facts_ne := by simp
      rollsFit := by simp
      factsFit := moved_facts_fit hfacts ⟨fun _ => rfl, fun _ => rfl⟩ }
  unfold resolveMove
  dsimp only [Draft.of]
  rw [Prog.lift_bind_of_ok hguard, Prog.reject_bind_of_not hbounds,
    Prog.expect_bind_of_some (hv.combatant_current hs hactor), Prog.reject_bind_of_not hmoves,
    Prog.expect_bind_of_some hr, Prog.reject_bind_of_not (Nat.not_lt.mpr hbudget)]
  rcases hv.turn_cases hs with ⟨hturn, hcurrent⟩ | ⟨hturn, hcurrent⟩ <;>
    obtain rfl := Option.mem_unique hactor hcurrent
  · have hstep := EncounterState.heroMoved_stepped (r := r) hv hs hmin hmax hgrid
    have hmoved := EncounterState.heroMoved_moved hv hs hr hturn hmin hmax hgrid
    have hgrounded : Grounded s → Grounded (s.heroMoved r destination) :=
      fun hg => EncounterState.heroMoved_grounded hv hs hg hturn hmin hmax hgrid
    rw [hv.fixed.heroId] at hseal ⊢
    by_cases h3 : s.schemaVersion = encounterSchemaVersion
    · obtain ⟨live, hlive, hvalid⟩ := hv.live h3
      rw [if_pos ⟨rfl, h3⟩]
      dsimp only [Draft.update]
      rw [EncounterState.updateCombatant_hero]
      obtain ⟨facts, hfollow⟩ := followHand_of_valid
        (d := ⟨{ s with
          hero := { s.hero with positionFeet := destination }
          turnResources := some { r with
            movementRemainingFeet := r.movementRemainingFeet - distance s.hero.positionFeet destination } },
          [], []⟩) hvalid hlive hgrid
      rw [hfollow, Prog.ok_bind]
      have hstate : s.heroMoved r destination = { s with
          hero := { s.hero with positionFeet := destination }
          turnResources := some { r with
            movementRemainingFeet := r.movementRemainingFeet - distance s.hero.positionFeet destination }
          liveQ04 := some (live.follow destination) } := by
        unfold EncounterState.heroMoved
        rw [if_pos h3, hlive]
        rfl
      rw [hstate] at hmoved hgrounded hstep
      exact ⟨_, _, rfl, hseal hv.hero.name_isText hstep.frame hmoved fun h => absurd h3 h, hgrounded⟩
    · rw [if_neg fun h => h3 h.2]
      dsimp only [Draft.update]
      rw [EncounterState.updateCombatant_hero, Prog.pure_eq, Prog.ok_bind]
      have hstate : s.heroMoved r destination = { s with
          hero := { s.hero with positionFeet := destination }
          turnResources := some { r with
            movementRemainingFeet := r.movementRemainingFeet - distance s.hero.positionFeet destination } } := by
        unfold EncounterState.heroMoved
        rw [if_neg h3]
      rw [hstate] at hmoved hgrounded hstep
      exact ⟨_, _, rfl, hseal hv.hero.name_isText hstep.frame hmoved fun _ => rfl, hgrounded⟩
  · have hstep := EncounterState.creatureMoved_stepped (r := r) hv hs hmin hmax hgrid
    have hmoved := EncounterState.creatureMoved_moved hv hs hr hmin hmax hgrid
    have hgrounded : Grounded s → Grounded (s.creatureMoved r destination) :=
      fun hg => EncounterState.creatureMoved_grounded hv hs hg hr hmin hmax hgrid
    rw [hv.fixed.creatureId] at hseal ⊢
    rw [if_neg fun h => sootWightId_ne_canalWardenId h.1]
    dsimp only [Draft.update]
    rw [EncounterState.updateCombatant_creature, Prog.pure_eq, Prog.ok_bind]
    exact ⟨_, _, rfl, hseal hv.creature.name_isText hstep.frame hmoved fun _ => rfl, hgrounded⟩

end Resolver

end ManchesterArcana.Encounter
