import ManchesterArcana.Encounter.Dial
import ManchesterArcana.Encounter.Posting

/-!
# `Encounter.Turning` — every resolver turns the dial

`resolveIntent_turns`: whatever a resolver leaves behind, its dial is where `Dial.Turns` says, and the damage to
the creature on record is what the dial was turned by. As for the accounts, there is one lemma for each
resolver, and it reads the draft off at the end.
-/

namespace ManchesterArcana.Encounter

open Effect Rules
open Option (map_some mem_def mem_unique)

/-! ## Dials of the parts -/

section Parts

variable {s : EncounterState} {d : Draft}

/-- Live runtime with the same timed effects. -/
theorem EncounterState.dial_withLive {live live' : EncounterLiveQ04State} (h : s.liveQ04 = some live)
    (ht : live'.timed = live.timed) : { s with liveQ04 := some live' }.dial = s.dial := by
  unfold EncounterState.dial
  simp only [h, map_some, ht]
  rfl

variable {live : EncounterLiveQ04State} {c : CombatantState}

theorem EncounterState.dial_effects_of (h : s.liveQ04 = some live) :
    s.dial.effects = some live.timed := by
  show s.liveQ04.map _ = _
  rw [h]
  rfl

theorem EncounterState.dial_sleep_of (h : s.liveQ04 = some live) :
    s.dial.sleep = live.sleep := by
  unfold Dial.sleep
  rw [EncounterState.dial_effects_of h]
  rfl

/-- A creature with another health. -/
theorem EncounterState.dial_creature (h : HealthChanged s.creature c) :
    { s with creature := c }.dial = { s.dial with creatureHitPoints := c.hitPoints.current } := by
  have heffects : c.statusEffects = s.creature.statusEffects := by
    rw [h]
  have hposition : c.positionFeet = s.creature.positionFeet := by
    rw [h]
  unfold EncounterState.dial EncounterState.creatureAsleep
  simp only [heffects, hposition]

/-- The creature that was woken is not asleep. -/
theorem EncounterState.clearAsleep_dial : s.clearAsleep.dial = { s.dial with asleep := false } := by
  have hawake : s.clearAsleep.creatureAsleep = false := by
    unfold EncounterState.creatureAsleep EncounterState.clearAsleep
    simp
  show ({ s.dial with asleep := s.clearAsleep.creatureAsleep } : Dial) = _
  rw [hawake]

/-- **Damage wakes the creature.** -/
theorem wakeSleepAfterDamage_dial (hl : LiveMatches d.state) {damage : Nat} :
    (wakeSleepAfterDamage d sootWightId damage).state.dial =
        (if damage = 0 then d.state.dial else d.state.dial.wake) ∧
      creatureDamage (wakeSleepAfterDamage d sootWightId damage).facts = creatureDamage d.facts := by
  unfold wakeSleepAfterDamage
  by_cases h0 : damage = 0
  · rw [if_pos (.inl h0), if_pos h0]
    exact ⟨rfl, rfl⟩
  rw [if_neg h0]
  by_cases h3 : d.state.schemaVersion = encounterSchemaVersion
  · rw [if_neg (by simp [h0, h3])]
    cases hlive : d.state.liveQ04 with
    | none =>
      refine ⟨?_, rfl⟩
      unfold Dial.wake Dial.sleep EncounterState.dial
      simp [hlive]
    | some live =>
      rw [Option.bind_some]
      cases hsleep : live.sleep with
      | none =>
        refine ⟨?_, rfl⟩
        unfold Dial.wake
        rw [EncounterState.dial_sleep_of hlive, hsleep, EncounterState.dial_effects_of hlive]
        have heffects := EncounterState.dial_effects_of hlive
        have hwoken : live.timed.wake = live.timed := by
          unfold TimedEffects.wake EncounterLiveQ04State.timed
          rw [hsleep]
        rw [map_some, hwoken, ← heffects]
        simp
      | some sleep =>
        refine ⟨?_, creatureDamage_snoc rfl⟩
        unfold Dial.wake
        rw [EncounterState.dial_sleep_of hlive, hsleep, EncounterState.dial_effects_of hlive, Option.isNone_some,
          Bool.and_false]
        show (d.state.clearAsleep.mapLive _).dial = _
        unfold EncounterState.mapLive
        rw [show d.state.clearAsleep.liveQ04 = some live from hlive]
        show { d.state.clearAsleep.dial with effects := some live.timed.wake } = _
        rw [EncounterState.clearAsleep_dial]
        rfl
  · rw [if_pos (.inr (.inr h3))]
    refine ⟨?_, rfl⟩
    unfold Dial.wake Dial.sleep EncounterState.dial
    simp [hl h3]

/-- The sluice takes temporary hit points and the soot veil alone. -/
theorem releaseSluice_dial : s.releaseSluice.dial = s.dial := by
  unfold EncounterState.releaseSluice EncounterState.dial EncounterState.creatureAsleep
  simp

/-- A hero with another health, in the same place. -/
theorem EncounterState.dial_hero (hc : c.positionFeet = s.hero.positionFeet) :
    { s with hero := c }.dial = { s.dial with heroLife := c.lifeStatus } := by
  unfold EncounterState.dial
  simp only [hc]
  rfl

/-- Damage to the hero is no damage to the creature. -/
theorem damageFact_warden {actorId attackId : String} {damageType : DamageType} {critical : Bool} {amount : Nat}
    {a : DamageApplication} :
    (damageFact actorId canalWardenId attackId damageType critical amount a).creatureDamage = 0 := by
  unfold damageFact EncounterFact.creatureDamage
  exact if_neg canalWardenId_ne_sootWightId

theorem recordLifeChange_damage {id : String} {a b : LifeStatus} {saves : DeathSaves} :
    creatureDamage (recordLifeChange d id a b saves).facts = creatureDamage d.facts := by
  unfold recordLifeChange
  split
  · exact creatureDamage_snoc rfl
  · rfl

/-- The end of the creature is a victory. -/
theorem finishForHealthTransition_dial_creature :
    ((finishForHealthTransition d sootWightId).2.state.dial = d.state.dial ∨
        (finishForHealthTransition d sootWightId).2.state.dial = d.state.dial.closed .victory) ∧
      creatureDamage (finishForHealthTransition d sootWightId).2.facts = creatureDamage d.facts := by
  unfold finishForHealthTransition
  split
  · exact ⟨.inr rfl, creatureDamage_snoc rfl⟩
  · rw [if_neg sootWightId_ne_canalWardenId]
    exact ⟨.inl rfl, rfl⟩

/-- The end of the hero is a defeat. -/
theorem finishForHealthTransition_dial_hero :
    ((finishForHealthTransition d canalWardenId).2.state.dial = d.state.dial ∨
        (finishForHealthTransition d canalWardenId).2.state.dial = d.state.dial.closed .defeat) ∧
      creatureDamage (finishForHealthTransition d canalWardenId).2.facts = creatureDamage d.facts := by
  unfold finishForHealthTransition
  rw [if_neg fun hc => sootWightId_ne_canalWardenId hc.1.symm, if_pos rfl]
  split
  · exact ⟨.inr rfl, creatureDamage_snoc rfl⟩
  · exact ⟨.inr rfl, creatureDamage_snoc rfl⟩
  · exact ⟨.inl rfl, rfl⟩

end Parts

/-! ## The passing of a turn -/

section Turns

variable {s s' : EncounterState} {d d' : Draft} {t : List (Nat × Nat)}

variable {index : Nat}

variable {actorId : String} {i : InitiativeState}

theorem setCurrentTurn_dial (hi : s.initiative = some i)
    (horder : i.order[index]? = some actorId) (h : Prog.Returns (setCurrentTurn s index) t s') :
    s'.dial = { s.dial with index := some index, turn := some actorId } := by
  simp only [setCurrentTurn, Prog.returns_lift_bind, Prog.returns_expect_bind, okOr_eq_ok] at h
  obtain ⟨actorId', hactorId, actor, -, index', hindex, resources, -, h⟩ := h
  obtain rfl : actorId' = actorId := by
    rw [hi, Option.bind_some, horder] at hactorId
    exact (Option.some.inj hactorId).symm
  obtain rfl : index' = index := by
    split at hindex
    · exact (Option.some.inj hindex).symm
    · cases hindex
  split at h
  · obtain ⟨live, hlive, h⟩ := h.expect
    obtain ⟨-, rfl⟩ := h.of_ok
    exact @EncounterState.dial_withLive { s with
      currentActorIndex := some index', currentActorId := some actorId', turnResources := some resources } _ _
      hlive rfl
  · obtain ⟨-, rfl⟩ := h.of_ok
    rfl

/-- **A round turns the dial by one.** -/
theorem ageRound_dial (hl : LiveMatches s) : { s with round := s.round + 1 }.ageRound.dial = s.dial.tick := by
  unfold EncounterState.ageRound Dial.tick
  by_cases h3 : s.schemaVersion = encounterSchemaVersion
  · rw [if_neg (not_not.mpr h3)]
    cases hlive : s.liveQ04 with
    | none =>
      dsimp only
      unfold Dial.sleep EncounterState.dial
      simp [hlive]
      rfl
    | some live =>
      rw [EncounterState.dial_sleep_of hlive, EncounterState.dial_effects_of hlive]
      dsimp only
      by_cases hwakes : live.sleep.any (·.remainingRounds = 1) = true
      · rw [if_pos hwakes, hwakes, Bool.not_true, Bool.and_false]
        show ({ (EncounterState.clearAsleep { s with round := s.round + 1 }).dial with
          effects := some live.ageRound.timed } : Dial) = _
        rw [EncounterState.clearAsleep_dial]
        rfl
      · rw [if_neg hwakes, Bool.eq_false_of_not_eq_true hwakes, Bool.not_false, Bool.and_true]
        rfl
  · rw [if_pos h3]
    unfold Dial.sleep EncounterState.dial
    simp [hl h3]
    rfl

theorem passRound_dial (hhands : d.state.HandsValid) (hl : LiveMatches d.state)
    (h : Prog.Returns (passRound d index) t d') :
    d'.state.dial = (if index = 0 then d.state.dial.tick else d.state.dial) ∧
      creatureDamage d'.facts = creatureDamage d.facts := by
  unfold passRound at h
  by_cases h0 : index = 0
  · rw [if_neg (not_not.mpr h0)] at h
    obtain ⟨-, h⟩ := h.reject
    obtain ⟨facts, haged, hexpiry, -⟩ := advanceLiveQ04Round_of_valid
      (d := d.update fun s => { s with round := s.round + 1 }) hhands
    rw [haged] at h
    obtain ⟨-, rfl⟩ := h.of_ok
    rw [if_pos h0]
    refine ⟨ageRound_dial hl, ?_⟩
    have hnone : creatureDamage facts = 0 := by
      refine creatureDamage_eq_zero fun f hf => ?_
      have := hexpiry f hf
      cases f <;> first | rfl | cases this
    show creatureDamage (d.facts ++ facts) = _
    rw [creatureDamage_append, hnone, Nat.add_zero]
  · rw [if_pos h0] at h
    obtain ⟨-, rfl⟩ := h.of_ok
    rw [if_neg h0]
    exact ⟨rfl, rfl⟩

/-- **The turn passes on the dial.** -/
theorem advanceTurn_dial {oldIndex : Nat}
    {actor : CombatantState} (hn : NextTurn s i oldIndex index actorId actor) (hhands : d.state.HandsValid)
    (hl : LiveMatches d.state) (hi : d.state.initiative = s.initiative)
    (hindex : d.state.currentActorIndex = s.currentActorIndex)
    (hturn : d.state.currentActorId = s.currentActorId) (h : Prog.Returns (advanceTurn d) t d') :
    d.state.dial.Passes d'.state.dial ∧ creatureDamage d'.facts = creatureDamage d.facts := by
  simp only [advanceTurn, Prog.returns_lift_bind, Prog.returns_expect_bind, okOr_eq_ok] at h
  obtain ⟨i', hi', oldIndex', hold', endedActorId, -, -, -, h⟩ := h
  obtain rfl : i' = i := mem_unique hi' (hi.trans hn.initiative)
  obtain rfl : oldIndex' = oldIndex := mem_unique hold' (hindex.trans hn.position)
  obtain ⟨t₁, t₂, passed, rfl, hpass, h⟩ := h.bind
  obtain ⟨-, -, hpassed⟩ := passRound_returns hpass
  obtain ⟨hdial, hdamage⟩ := passRound_dial hhands hl hpass
  obtain ⟨t₃, t₄, state, rfl, hset, h⟩ := h.bind
  obtain ⟨nextActorId, -, h⟩ := h.expect
  obtain ⟨-, rfl⟩ := h.of_ok
  have hinitiative : passed.state.initiative = some i' := by
    rw [hpassed]
    exact hi'
  have horder : i'.order[(oldIndex' + 1) % i'.order.length]? = some actorId := by
    rw [← hn.next]
    exact hn.order
  have hstate := setCurrentTurn_dial hinitiative horder hset
  refine ⟨⟨i', oldIndex', index, actorId, hi', hold', hn.next, hn.order, ?_, ?_⟩, ?_⟩
  · show (_ ∧ d.state.currentActorId = _) ∨ (_ ∧ d.state.currentActorId = _)
    rw [hturn]
    exact hn.turn.imp (fun hc => ⟨hc.1, hc.2.2⟩) (fun hc => ⟨hc.1, hc.2.2⟩)
  · show state.dial = _
    rw [hstate, hdial, ← hn.next]
  · exact (creatureDamage_snoc rfl).trans hdamage

end Turns

/-! ## Start, movement and weapon attacks -/

section Combat

variable {s : EncounterState} {t : List (Nat × Nat)} {n : DeterministicNarration} {d : Draft}

theorem resolveStart_turns (h : Prog.Returns (resolveStart (.of s)) t (n, d)) :
    s.dial.Turns d.facts .startEncounter d.state.dial := by
  obtain ⟨hready, h⟩ := h.reject
  obtain ⟨t₁, t₂, ⟨heroRoll, rolls⟩, rfl, -, h⟩ := h.bind
  obtain ⟨t₃, t₄, ⟨creatureRoll, rolls'⟩, rfl, -, h⟩ := h.bind
  obtain ⟨t₅, t₆, heroEntry, rfl, -, h⟩ := h.bind
  obtain ⟨t₇, t₈, creatureEntry, rfl, -, h⟩ := h.bind
  obtain ⟨t₉, t₁₀, state, rfl, hset, h⟩ := h.bind
  obtain ⟨currentActorId, -, h⟩ := h.expect
  obtain rfl : d = _ := h.snd_eq
  obtain ⟨actorId, horder⟩ : ∃ actorId, (initiativeOf [heroEntry, creatureEntry]).order[0]? = some actorId := by
    have hset' := hset
    simp only [setCurrentTurn, Prog.returns_lift_bind, okOr_eq_ok] at hset'
    obtain ⟨actorId, hactor, -⟩ := hset'
    exact ⟨actorId, hactor⟩
  refine ⟨not_not.mp hready, rfl, initiativeOf [heroEntry, creatureEntry], actorId, horder, ?_⟩
  exact setCurrentTurn_dial (s := { s with
    initiative := some (initiativeOf [heroEntry, creatureEntry]), status := .active, round := 1 }) rfl horder hset

theorem EncounterLiveQ04State.timed_follow (live : EncounterLiveQ04State) (destination : Nat) :
    (live.follow destination).timed = live.timed.follow destination := by
  cases hposition : live.mageHandPositionFeet with
  | none =>
    have hsame : live.timed.handPosition = none := hposition
    unfold EncounterLiveQ04State.follow TimedEffects.follow
    rw [hposition, hsame]
  | some position =>
    have hsame : live.timed.handPosition = some position := hposition
    unfold EncounterLiveQ04State.follow TimedEffects.follow
    rw [hposition, hsame]
    dsimp only
    split
    · rfl
    · unfold EncounterLiveQ04State.timed
      dsimp only

variable {destination : Nat}

/-- **The hand follows the hero on the dial.** -/
theorem followHand_dial {d d' : Draft} {live : EncounterLiveQ04State}
    (hv : EncounterState.LiveValid s live) (hlive : d.state.liveQ04 = some live) (hgrid : 5 ∣ destination)
    (h : Prog.Returns (followHand d destination) t d') :
    d'.state.dial = { d.state.dial with effects := d.state.dial.effects.map (·.follow destination) } := by
  obtain ⟨facts, hfollow⟩ := followHand_of_valid hv hlive hgrid
  rw [hfollow] at h
  obtain ⟨-, rfl⟩ := h.of_ok
  rw [EncounterState.dial_effects_of hlive, map_some, ← EncounterLiveQ04State.timed_follow]
  rfl

theorem followHand_damage {d d' : Draft} (h : Prog.Returns (followHand d destination) t d') :
    creatureDamage d'.facts = creatureDamage d.facts := by
  unfold followHand at h
  split at h
  · obtain ⟨-, rfl⟩ := h.of_ok
    rfl
  · split at h
    · obtain ⟨-, rfl⟩ := h.of_ok
      rfl
    · obtain ⟨⟨expired, hand⟩, -, h⟩ := h.lift
      dsimp only at h
      split at h
      · obtain ⟨-, rfl⟩ := h.of_ok
        exact creatureDamage_snoc rfl
      · obtain ⟨-, rfl⟩ := h.of_ok
        rfl

theorem resolveMove_turns (hv : s.Valid)
    (h : Prog.Returns (resolveMove (.of s) destination) t (n, d)) :
    s.dial.Turns d.facts (.move destination) d.state.dial := by
  obtain ⟨hs, actor, hcurrent, hup, h⟩ := returns_activeActor h
  obtain ⟨hdestination, h⟩ := h.reject
  obtain ⟨actor', hactor', h⟩ := h.expect
  obtain ⟨-, h⟩ := h.reject
  obtain ⟨r, hr, h⟩ := h.expect
  obtain ⟨-, h⟩ := h.reject
  rw [not_or, not_or, not_not] at hdestination
  refine ⟨hs, ?_⟩
  rcases hv.turn_cases hs with ⟨hturn, hcur⟩ | ⟨hturn, hcur⟩
  case inl =>
    obtain rfl : actor = s.hero := mem_unique hcurrent hcur
    rw [hv.fixed.heroId] at h
    simp only [EncounterState.updateCombatant_hero, true_and] at h
    split at h
    case isTrue h3 =>
      obtain ⟨t₁, t₂, moved, rfl, hmoved, h⟩ := h.bind
      obtain rfl : d = _ := h.snd_eq
      obtain ⟨live, hlive, hvalid⟩ := hv.live h3
      refine ⟨(creatureDamage_snoc rfl).trans (followHand_damage hmoved), .inl ⟨hturn, ?_⟩⟩
      exact ⟨hdestination.2.2, followHand_dial hvalid hlive hdestination.2.2 hmoved⟩
    case isFalse h3 =>
      obtain rfl : d = _ := h.snd_eq
      refine ⟨rfl, .inl ⟨hturn, hdestination.2.2, ?_⟩⟩
      have hnone : s.dial.effects = none := by
        show s.liveQ04.map _ = none
        rw [hv.noLive h3]
        rfl
      rw [hnone, Option.map_none, ← hnone]
      rfl
  case inr =>
    obtain rfl : actor = s.creature := mem_unique hcurrent hcur
    rw [hv.fixed.creatureId] at h
    simp only [EncounterState.updateCombatant_creature, sootWightId_ne_canalWardenId, false_and, if_false] at h
    obtain rfl : d = _ := h.snd_eq
    exact ⟨rfl, .inr ⟨hturn, rfl⟩⟩

/-- **The damage of a weapon hit** hurts the creature by what is recorded, or the hero. -/
theorem resolveWeaponDamage_dial {d d' : Draft} {actor target : CombatantState} {actorId targetId : String}
    {attack : EncounterAttack} {critical : Bool} (hl : LiveMatches d.state)
    (htarget : d.state.combatant targetId = some target)
    (h : Prog.Returns (resolveWeaponDamage d actor target actorId targetId attack critical) t (n, d')) :
    (targetId = sootWightId ∧ ∃ damage, creatureDamage d'.facts = creatureDamage d.facts + damage ∧
        d.state.dial.CreatureHurt d'.state.dial damage) ∨
      (targetId = canalWardenId ∧ creatureDamage d'.facts = creatureDamage d.facts ∧
        d.state.dial.HeroHurt d'.state.dial) := by
  obtain ⟨t₁, t₂, ⟨roll, rolls⟩, rfl, -, h⟩ := h.bind
  obtain ⟨-, h⟩ := h.reject
  obtain ⟨struck, application, happlied⟩ : ∃ c a,
      applyDamage target roll.total.toNat critical d.state.lethalityPolicy = (c, a) := ⟨_, _, rfl⟩
  have hchanged : HealthChanged target struck := by
    have := @applyDamage_changed target roll.total.toNat critical d.state.lethalityPolicy
    rw [happlied] at this
    exact this
  dsimp only at h
  rw [happlied] at h
  dsimp only at h
  -- the draft before the encounter may end
  obtain ⟨x, hx⟩ : ∃ x : Draft, x = ((d.withRolls rolls).update (·.updateCombatant targetId fun _ => struck)).push
      (damageFact actorId targetId attack.attackId attack.damageType critical roll.total.toNat application) :=
    ⟨_, rfl⟩
  rw [← hx] at h
  obtain ⟨y, hy⟩ : ∃ y : Draft, y = recordLifeChange (wakeSleepAfterDamage x targetId roll.total.toNat) targetId
      application.lifeBefore application.lifeAfter struck.hitPoints.deathSaves := ⟨_, rfl⟩
  rw [← hy] at h
  have hd : d' = (finishForHealthTransition y targetId).2 := by
    split at h <;>
    · obtain ⟨-, heq⟩ := h.of_ok
      exact congrArg Prod.snd heq
  unfold EncounterState.combatant at htarget
  rw [hd]
  by_cases hhero : targetId = canalWardenId
  case pos =>
    subst hhero
    rw [if_pos rfl] at htarget
    obtain rfl := Option.some.inj htarget
    have hposition : struck.positionFeet = d.state.hero.positionFeet := by
      rw [hchanged]
    have hstate : y.state = { d.state with hero := struck } := by
      rw [hy, recordLifeChange_state, hx]
      unfold wakeSleepAfterDamage
      rw [if_pos (.inr (.inl canalWardenId_ne_sootWightId))]
      exact @EncounterState.updateCombatant_hero d.state fun _ => struck
    have hfacts : creatureDamage y.facts = creatureDamage d.facts := by
      rw [hy, recordLifeChange_damage, hx]
      unfold wakeSleepAfterDamage
      rw [if_pos (.inr (.inl canalWardenId_ne_sootWightId))]
      exact creatureDamage_snoc damageFact_warden
    obtain ⟨hhurt, hdamage⟩ := @finishForHealthTransition_dial_hero y
    rw [hstate, EncounterState.dial_hero hposition] at hhurt
    exact .inr ⟨rfl, hdamage.trans hfacts, struck.lifeStatus, hhurt⟩
  case neg =>
    rw [if_neg hhero] at htarget
    by_cases hwight : targetId = sootWightId
    case neg =>
      rw [if_neg hwight] at htarget
      cases htarget
    subst hwight
    rw [if_pos rfl] at htarget
    obtain rfl := Option.some.inj htarget
    have hxstate : x.state = { d.state with creature := struck } := by
      rw [hx]
      exact @EncounterState.updateCombatant_creature d.state fun _ => struck
    have hlx : LiveMatches x.state := by
      rw [hxstate]
      exact hl
    obtain ⟨hwoken, hwakefacts⟩ := @wakeSleepAfterDamage_dial x hlx roll.total.toNat
    have hfacts : creatureDamage y.facts = creatureDamage d.facts + roll.total.toNat := by
      rw [hy, recordLifeChange_damage, hwakefacts, hx]
      show creatureDamage (d.facts ++ [_]) = _
      rw [creatureDamage_append]
      rfl
    have hdial : y.state.dial = { (if roll.total.toNat = 0 then d.state.dial else d.state.dial.wake) with
        creatureHitPoints := struck.hitPoints.current } := by
      rw [hy, recordLifeChange_state, hwoken, hxstate, EncounterState.dial_creature hchanged]
      split <;> rfl
    obtain ⟨hends, hdamage⟩ := @finishForHealthTransition_dial_creature y
    rw [hdial] at hends
    exact .inl ⟨rfl, roll.total.toNat, hdamage.trans hfacts, struck.hitPoints.current, hends⟩

theorem resolveAttack_turns (hv : s.Valid) {attackId targetId : String}
    (h : Prog.Returns (resolveAttack (.of s) attackId targetId) t (n, d)) :
    s.dial.Turns d.facts (.attack attackId targetId) d.state.dial := by
  obtain ⟨hs, actor, hcurrent, hup, h⟩ := returns_activeActor h
  obtain ⟨attack, hattack, h⟩ := h.lift
  obtain ⟨htargetId, h⟩ := h.reject
  obtain ⟨target, hlookup, h⟩ := h.expect
  obtain ⟨-, h⟩ := h.reject
  obtain ⟨actor', hactor', h⟩ := h.expect
  obtain ⟨-, h⟩ := h.reject
  obtain ⟨r, hr, h⟩ := h.expect
  obtain ⟨-, h⟩ := h.reject
  obtain ⟨_, -, h⟩ := h.expect
  obtain ⟨t₁, t₂, ⟨roll, rolls⟩, rfl, -, h⟩ := h.bind
  obtain ⟨outcome, -, h⟩ := h.expect
  refine ⟨hs, ?_⟩
  -- whose turn it is decides who is hit
  have hsides : (s.currentActorId = some canalWardenId ∧ targetId = sootWightId) ∨
      (s.currentActorId = some sootWightId ∧ targetId = canalWardenId) := by
    rw [not_not] at htargetId
    rcases hv.turn_cases hs with ⟨hturn, hcur⟩ | ⟨hturn, hcur⟩ <;>
      obtain rfl := mem_unique hcurrent hcur
    · rw [hv.fixed.heroId, if_pos rfl] at htargetId
      exact .inl ⟨hturn, htargetId⟩
    · rw [hv.fixed.creatureId, if_neg sootWightId_ne_canalWardenId] at htargetId
      exact .inr ⟨hturn, htargetId⟩
  have hunhurt (hdamage : creatureDamage d.facts = 0) (hdial : d.state.dial = s.dial) :
      (s.dial.turn = some canalWardenId ∧ s.dial.CreatureHurt d.state.dial (creatureDamage d.facts)) ∨
        (s.dial.turn = some sootWightId ∧ creatureDamage d.facts = 0 ∧ s.dial.HeroHurt d.state.dial) := by
    rcases hsides with ⟨hturn, -⟩ | ⟨hturn, -⟩
    · refine .inl ⟨hturn, s.dial.creatureHitPoints, .inl ?_⟩
      rw [hdial, if_pos hdamage]
    · exact .inr ⟨hturn, hdamage, s.hero.lifeStatus, .inl hdial⟩
  dsimp only at h
  split at h
  case isTrue =>
    obtain rfl : d = _ := h.snd_eq
    exact hunhurt rfl rfl
  case isFalse =>
    split at h
    case isTrue hopens =>
      obtain ⟨natural, -, h⟩ := h.expect
      obtain rfl : d = _ := h.snd_eq
      obtain ⟨live, hlive, -⟩ := hv.live hopens.1
      refine hunhurt rfl ?_
      show ((s.spendAction r).mapLive _).dial = _
      unfold EncounterState.mapLive
      rw [show (s.spendAction r).liveQ04 = some live from hlive]
      exact EncounterState.dial_withLive (s := s.spendAction r) hlive rfl
    case isFalse =>
      have hstate : (s.spendAction r).combatant targetId = some target := hlookup
      have hl : LiveMatches (s.spendAction r) := hv.liveMatches
      rcases resolveWeaponDamage_dial hl hstate h with ⟨rfl, damage, hdamage, hhurt⟩ | ⟨rfl, hdamage, hhurt⟩
      · rcases hsides with ⟨hturn, -⟩ | ⟨-, hne⟩
        · refine .inl ⟨hturn, ?_⟩
          rw [hdamage]
          show s.dial.CreatureHurt _ (0 + damage)
          rw [Nat.zero_add]
          exact hhurt
        · exact absurd hne sootWightId_ne_canalWardenId
      · rcases hsides with ⟨-, hne⟩ | ⟨hturn, -⟩
        · exact absurd hne canalWardenId_ne_sootWightId
        · exact .inr ⟨hturn, hdamage, hhurt⟩

/-- A conscious actor with the hero's id acts on the hero's turn. -/
theorem heroActs_of_id (hv : s.Valid) (hs : s.status = .active) {actor : CombatantState}
    (hcurrent : s.currentActor = some actor) (hid : actor.id = canalWardenId) : s.dial.HeroActs :=
  ⟨hs, (hv.hero_of_id hs hcurrent hid).2⟩

theorem resolveContextAction_turns (hv : s.Valid) {actionId : String}
    (h : Prog.Returns (resolveContextAction (.of s) actionId) t (n, d)) :
    s.dial.Turns d.facts (.contextAction actionId) d.state.dial := by
  obtain ⟨hs, actor, hcurrent, -, h⟩ := returns_activeActor h
  obtain ⟨hid, h⟩ := h.reject
  obtain ⟨-, h⟩ := h.reject
  obtain ⟨-, h⟩ := h.reject
  obtain ⟨r, -, h⟩ := h.expect
  obtain ⟨-, h⟩ := h.reject
  obtain rfl : d = _ := h.snd_eq
  rw [not_or, not_not] at hid
  refine ⟨heroActs_of_id hv hs hcurrent hid.1, rfl, ?_⟩
  exact releaseSluice_dial

theorem resolveEndTurn_turns (hv : s.Valid) (h : Prog.Returns (resolveEndTurn (.of s)) t (n, d)) :
    s.dial.Turns d.facts .endTurn d.state.dial := by
  obtain ⟨actorId, t', hactor, hpass⟩ := resolveEndTurn_returns h
  obtain ⟨hs, -⟩ := requireConsciousActiveActor_eq_ok.mp hactor
  obtain ⟨i, oldIndex, index, nextId, next, hn⟩ := hv.nextTurn hs
  obtain ⟨hpasses, hdamage⟩ := advanceTurn_dial (d := .of s) hn hv.handsValid hv.liveMatches rfl rfl rfl hpass
  exact ⟨hs, hdamage, hpasses⟩

theorem resolveDeathSave_turns (hv : s.Valid) (h : Prog.Returns (resolveDeathSave (.of s)) t (n, d)) :
    s.dial.Turns d.facts .rollDeathSave d.state.dial := by
  obtain ⟨hs, hturn, hdying, -⟩ := resolveDeathSave_returns h
  obtain ⟨t₁, t₂, roll, rolls, natural, rfl, -, -, hends⟩ := resolveDeathSave_drafts h
  obtain ⟨x, hx⟩ : ∃ x : Draft, x = recordDeathSave ((Draft.of s).withRolls rolls) natural := ⟨_, rfl⟩
  rw [← hx] at hends
  have hstate : x.state = { s with hero := s.hero.saveDeath natural } := by
    rw [hx]
    exact recordDeathSave_state
  have hposition : (s.hero.saveDeath natural).positionFeet = s.hero.positionFeet := by
    rw [saveDeath_changed]
  have hdial : x.state.dial = { s.dial with heroLife := (s.hero.saveDeath natural).lifeStatus } := by
    rw [hstate]
    exact EncounterState.dial_hero hposition
  have hfacts : creatureDamage x.facts = 0 := by
    rw [hx]
    unfold recordDeathSave
    rw [recordLifeChange_damage]
    rfl
  refine ⟨⟨hs, hturn⟩, hdying, ?_⟩
  rcases hends with ⟨-, rfl | ⟨reason, rfl⟩⟩ | hpass
  · exact ⟨hfacts, .inl ⟨_, .inl hdial⟩⟩
  · exact ⟨(creatureDamage_snoc rfl).trans hfacts, .inl ⟨_, .inr (congrArg (Dial.closed · .defeat) hdial)⟩⟩
  · obtain ⟨i, oldIndex, index, nextId, next, hn⟩ := hv.nextTurn hs
    have hhands : x.state.HandsValid := by
      rw [hstate]
      exact hv.handsValid
    have hl : LiveMatches x.state := by
      rw [hstate]
      exact hv.liveMatches
    obtain ⟨hpasses, hdamage⟩ := advanceTurn_dial hn hhands hl (by rw [hstate]) (by rw [hstate])
      (by rw [hstate]) hpass
    rw [hdial] at hpasses
    exact ⟨hdamage.trans hfacts, .inr ⟨_, hpasses⟩⟩

end Combat

/-! ## Spells -/

section Casting

variable {s : EncounterState} {t : List (Nat × Nat)} {n : DeterministicNarration} {d : Draft}

variable {r : TurnResources} {targetId : String} {spell : SpellId}

/-- An ordinary turn of the hero. -/
theorem OrdinaryTurn.heroActs (hv : s.Valid) (h : OrdinaryTurn s s.hero r) :
    s.dial.HeroActs :=
  ⟨h.active, h.books_turn hv⟩

/-- What a spell's dice and effects come from. -/
theorem castSupportedSpell_rolls {rules : EncounterHeroRulesProfile} {sc : SpellcastingState} {e e' : ActionEconomy}
    {intent : SupportedSpellIntent} {res : SpellCastResolution} {runtime : RuntimeResources}
    (h : Prog.Returns (castSupportedSpell rules sc e intent) t (res, runtime, e')) :
    ∃ effects, Prog.Returns (rollSpell sc effects intent) t res.toSpellRolls := by
  obtain ⟨effects, -, -, hrolls⟩ := resolveSupportedSpell_returns h.of_mapErr
  exact ⟨effects, hrolls⟩

variable {objectId : String} {o : EncounterObjectState} {live : EncounterLiveQ04State}

theorem authoredObject_eq_ok
    (h : authoredObject s objectId = .ok o) :
    ∃ live, s.liveQ04 = some live ∧ o ∈ live.objects ∧ o.objectId = objectId := by
  obtain ⟨live, hlive, hfind⟩ := Option.bind_eq_some_iff.mp (okOr_eq_ok.mp h)
  have hid := List.find?_some hfind
  exact ⟨live, hlive, List.mem_of_find?_eq_some hfind, of_decide_eq_true hid⟩

theorem resolveCastLight_turns (hv : s.Valid)
    (h : Prog.Returns (resolveCastLight (.of s) objectId) t (n, d)) :
    s.dial.Turns d.facts (.castLight objectId) d.state.dial := by
  obtain ⟨r', rules', sc', live', hcast, -⟩ := permitted_of_guard hv h
  obtain ⟨_, -, h⟩ := h.lift
  obtain ⟨object, hobject, h⟩ := h.lift
  obtain ⟨rules, -, h⟩ := h.lift
  obtain ⟨sc, -, h⟩ := h.lift
  obtain ⟨r, -, h⟩ := h.expect
  obtain ⟨t₁, t₂, ⟨res, runtime, economy⟩, rfl, hspell, h⟩ := h.bind
  obtain ⟨duration, hduration, h⟩ := h.lift
  obtain ⟨live, hlive, h⟩ := h.expect
  obtain rfl : d = _ := h.snd_eq
  have hminute : duration = 600 := by
    obtain ⟨effects, hrolls⟩ := castSupportedSpell_rolls hspell
    obtain ⟨-, hres⟩ := hrolls.of_ok
    have heffects : res.effects = [.illuminateObject sc.casterId object.objectId 20 20 600] :=
      congrArg SpellRolls.effects hres
    obtain ⟨-, -, -, hid⟩ := authoredObject_eq_ok hobject
    rw [heffects] at hduration
    simp only [List.findSome?_cons, hid, if_true, okOr_eq_ok, Option.some.injEq] at hduration
    exact hduration.symm
  subst hminute
  refine ⟨hcast.turn.heroActs hv, rfl, ?_⟩
  show ({ s.dial with effects := some (EncounterLiveQ04State.timed _) } : Dial) = _
  rw [EncounterState.dial_effects_of (s := s) hlive]
  rfl

/-- The authored objects are told apart by their ids. -/
theorem EncounterState.LiveValid.object_unique (hv : s.LiveValid live)
    {o' : EncounterObjectState} (ho : o ∈ live.objects) (ho' : o' ∈ live.objects)
    (hid : o.objectId = o'.objectId) : o = o' := by
  obtain ⟨rune, lever, hobjects, hrune, hlever⟩ := hv.objects
  have hne : viaductRuneObjectId ≠ sluiceLeverObjectId := by decide
  rw [hobjects, List.mem_pair] at ho ho'
  rcases ho with rfl | rfl <;> rcases ho' with rfl | rfl
  · rfl
  · rw [hrune.objectId, hlever.objectId] at hid
    exact absurd hid hne
  · rw [hrune.objectId, hlever.objectId] at hid
    exact absurd hid.symm hne
  · rfl

/-- The authored objects stand on the grid of the map. -/
theorem EncounterState.LiveValid.object_place (hv : s.LiveValid live) (ho : o ∈ live.objects) :
    5 ∣ o.positionFeet ∧ battlefieldMinFeet ≤ o.positionFeet ∧ o.positionFeet ≤ battlefieldMaxFeet := by
  obtain ⟨rune, lever, hobjects, hrune, hlever⟩ := hv.objects
  rw [hobjects, List.mem_pair] at ho
  rcases ho with rfl | rfl
  · rw [hrune.position]
    decide
  · rw [hlever.position]
    decide

theorem resolveCastMageHand_turns (hv : s.Valid) {anchor : String}
    (h : Prog.Returns (resolveCastMageHand (.of s) anchor) t (n, d)) :
    s.dial.Turns d.facts (.castMageHand anchor) d.state.dial := by
  obtain ⟨r', rules', sc', live', hcast, near, hnear, hrange, hanchor⟩ := permitted_of_guard hv h
  obtain ⟨_, -, h⟩ := h.lift
  obtain ⟨object, hobject, h⟩ := h.lift
  obtain ⟨rules, hrules, h⟩ := h.lift
  obtain ⟨sc, hsc, h⟩ := h.lift
  obtain ⟨r, -, h⟩ := h.expect
  obtain ⟨t₁, t₂, ⟨res, runtime, economy⟩, rfl, hspell, h⟩ := h.bind
  obtain ⟨hand, hhand, h⟩ := h.lift
  obtain ⟨live, hlive, h⟩ := h.expect
  obtain rfl : d = _ := h.snd_eq
  have hmade : hand = ⟨rulesMatrixSchemaVersion, mageHandId, sc.casterId,
      distance s.hero.positionFeet object.positionFeet, 10⟩ := by
    obtain ⟨effects, hrolls⟩ := castSupportedSpell_rolls hspell
    obtain ⟨-, hres⟩ := hrolls.of_ok
    have heffects := congrArg SpellRolls.effects hres
    dsimp only at heffects
    rw [heffects] at hhand
    simp only [List.findSome?_cons, okOr_eq_ok, Option.some.injEq] at hhand
    exact hhand.symm
  obtain ⟨live'', hlive'', hmem, hid⟩ := authoredObject_eq_ok hobject
  obtain rfl : live'' = live := mem_unique hlive'' hlive
  have hvalid : s.LiveValid live'' := hv.live_of_mem (mem_def.mpr hlive)
  have hcaster : sc.casterId = canalWardenId := by
    have hcasting := (hv.rules rules (okOr_eq_ok.mp hrules)).rules.casting
    unfold EncounterHeroRulesProfile.CastingShape at hcasting
    rw [okOr_eq_ok.mp hsc] at hcasting
    split at hcasting
    · cases hcasting
    · obtain ⟨c, hc, hcaster, -⟩ := hcasting
      rw [Option.some.inj hc]
      exact hcaster
  have hdistance : distance s.hero.positionFeet object.positionFeet ≤ 30 := by
    obtain rfl : live' = live'' := mem_unique hcast.runtime hlive
    rw [hvalid.object_unique hmem hnear (hid.trans hanchor)]
    exact hrange
  have hfresh : s.dial.FreshHand object hand := by
    rw [hmade, hcaster]
    exact
      { valid :=
          { schema := rfl
            range := hdistance
            grid := distance_grid hv.hero.position_grid (hvalid.object_place hmem).1
            rounds := ⟨show 1 ≤ 10 by decide, Nat.le_refl _⟩
            handId := show isValidOpaqueId mageHandId = true by decide
            casterId := isValid_ids.1 }
        handId := rfl
        casterId := rfl
        rounds := rfl
        distance := rfl }
  exact ⟨hcast.turn.heroActs hv, rfl, live''.timed, object, hand, EncounterState.dial_effects_of hlive, hmem, hid,
    hfresh, rfl⟩

/-- What a control of the hand leaves. -/
theorem actWithHand_control {target : MageHandControlTarget}
    {current : MageHandState} {res : MageHandActionResolution} {hand : Option MageHandState}
    {economy : ActionEconomy} (hcurrent : live.mageHand = some current)
    (h : actWithHand live r (.control target) = .ok (res, hand, economy)) :
    res.resultingHand =
        some { current with distanceFromCasterFeet := target.resultingDistanceFromCasterFeet } ∧
      target.resultingDistanceFromCasterFeet ≤ 30 := by
  have h := mapError_eq_ok.mp h
  simp only [resolveMageHandAction, bind_eq_ok, leaving_eq_ok, okOr_eq_ok, hcurrent, Option.some.injEq,
    MageHandState.act, pure_eq] at h
  obtain ⟨current', rfl, -, -, -, -, effects, -, -, -, spent, -, acted,
    ⟨-, -, _, hlimits, -, -, hacted⟩, heq⟩ := h
  have hlimits := not_not.mp (rejectIf_eq_ok.mp hlimits)
  obtain rfl := Except.ok.inj hacted
  obtain ⟨rfl, -⟩ := Prod.mk.inj (Except.ok.inj heq)
  exact ⟨rfl, hlimits.2.2.1⟩

theorem releaseByHand_dial {d : Draft} :
    (releaseByHand d objectId).state.dial = d.state.dial ∧
      creatureDamage (releaseByHand d objectId).facts = creatureDamage d.facts := by
  unfold releaseByHand
  split
  · exact ⟨releaseSluice_dial, creatureDamage_snoc rfl⟩
  · exact ⟨rfl, rfl⟩

theorem resolveControlMageHand_turns (hv : s.Valid)
    (h : Prog.Returns (resolveControlMageHand (.of s) objectId) t (n, d)) :
    s.dial.Turns d.facts (.controlMageHand objectId) d.state.dial := by
  obtain ⟨r', rules', sc', live', hcast, -⟩ := permitted_of_guard hv h
  obtain ⟨_, -, h⟩ := h.lift
  obtain ⟨object, hobject, h⟩ := h.lift
  obtain ⟨live, hlive, h⟩ := h.expect
  obtain ⟨current, hcurrent, h⟩ := h.expect
  obtain ⟨r, hr, h⟩ := h.expect
  obtain ⟨⟨res, hand, economy⟩, hact, h⟩ := h.lift
  obtain ⟨hresult, hrange⟩ := actWithHand_control hcurrent hact
  obtain ⟨live'', hlive'', hmem, hid⟩ := authoredObject_eq_ok hobject
  obtain rfl : live'' = live := mem_unique hlive'' hlive
  dsimp only at h hresult
  split at h
  · obtain rfl : d = _ := h.snd_eq
    refine ⟨hcast.turn.heroActs hv, releaseByHand_dial.2.trans rfl, live''.timed, object, current,
      EncounterState.dial_effects_of hlive, hmem, hid, hcurrent, hrange, ?_⟩
    rw [releaseByHand_dial.1]
    show ({ s.dial with effects := some (EncounterLiveQ04State.timed
      { live'' with mageHand := res.resultingHand, mageHandPositionFeet := some object.positionFeet }) } : Dial) = _
    rw [hresult]
    rfl
  · exact absurd h Prog.returns_err

theorem resolveDismissMageHand_turns (hv : s.Valid)
    (h : Prog.Returns (resolveDismissMageHand (.of s)) t (n, d)) :
    s.dial.Turns d.facts .dismissMageHand d.state.dial := by
  obtain ⟨r', rules', sc', live', hcast, hsome⟩ := permitted_of_guard hv h
  obtain ⟨_, -, h⟩ := h.lift
  obtain ⟨live, hlive, h⟩ := h.expect
  obtain ⟨r, hr, h⟩ := h.expect
  obtain ⟨⟨res, hand, economy⟩, hact, h⟩ := h.lift
  obtain rfl : live = live' := mem_unique hlive hcast.runtime
  have hhand : s.dial.hand ≠ none := by
    unfold Dial.hand
    rw [EncounterState.dial_effects_of hlive]
    exact Option.isSome_iff_ne_none.mp hsome
  dsimp only at h
  split at h
  · obtain rfl : d = _ := h.snd_eq
    refine ⟨hcast.turn.heroActs hv, rfl, hhand, ?_⟩
    rw [EncounterState.dial_effects_of (s := s) hlive]
    rfl
  · exact absurd h Prog.returns_err

/-! ### Sleep -/

/-- The pool pays for a single candidate exactly when it covers the candidate's hit points. -/
theorem takeAffordable_single {pool : Nat} {c : SleepCandidate} :
    takeAffordable pool [c] = if c.currentHitPoints ≤ pool then [c] else [] := by
  unfold takeAffordable
  by_cases h : c.currentHitPoints ≤ pool
  · rw [if_neg (by omega), if_pos h]
    rfl
  · rw [if_pos (by omega), if_neg h]

theorem mem_affectedTargets {effects : List SpellEffect} {id : String} :
    id ∈ affectedTargets effects ↔ ∃ condition, .applyCondition id condition ∈ effects := by
  unfold affectedTargets
  rw [List.mem_insertionSort, List.mem_dedup, List.mem_filterMap]
  constructor
  · rintro ⟨effect, hmem, heq⟩
    cases effect <;> cases heq
    exact ⟨_, hmem⟩
  · rintro ⟨condition, hmem⟩
    exact ⟨_, hmem, rfl⟩

theorem resolveCastSleep_turns (hv : s.Valid) (h : Prog.Returns (resolveCastSleep (.of s)) t (n, d)) :
    s.dial.Turns d.facts .castSleep d.state.dial := by
  obtain ⟨r', rules', sc', live', hcast, -, hawake, -⟩ := permitted_of_guard hv h
  obtain ⟨_, -, h⟩ := h.lift
  obtain ⟨rules, -, h⟩ := h.lift
  obtain ⟨sc, -, h⟩ := h.lift
  obtain ⟨slotsBefore, -, h⟩ := h.lift
  obtain ⟨r, -, h⟩ := h.expect
  obtain ⟨t₁, t₂, ⟨res, runtime, economy⟩, rfl, hspell, h⟩ := h.bind
  obtain ⟨pool, hpool, h⟩ := h.lift
  obtain ⟨poolRoll, -, h⟩ := h.lift
  obtain ⟨live, hlive, h⟩ := h.expect
  obtain ⟨slotsAfter, -, h⟩ := h.expect
  obtain rfl : d = _ := h.snd_eq
  obtain rfl : live = live' := mem_unique hlive hcast.runtime
  have hcovers : sootWightId ∈ affectedTargets res.effects ↔ s.creature.hitPoints.current ≤ pool := by
    obtain ⟨effects, hrolls⟩ := castSupportedSpell_rolls hspell
    obtain ⟨t₃, t₄, dice, -, -, hrest⟩ := hrolls.bind
    obtain ⟨-, hres⟩ := hrest.of_ok
    have heffects := congrArg SpellRolls.effects hres
    have htotal : res.sleepHitPointPool = some dice.total := congrArg SpellRolls.sleepHitPointPool hres
    obtain rfl : dice.total = pool := mem_unique htotal (okOr_eq_ok.mp hpool)
    dsimp only at heffects
    rw [heffects, mem_affectedTargets]
    simp only [Bool.not_false, Bool.and_self, List.filter_cons_of_pos, List.filter_nil,
      List.insertionSort_cons, List.insertionSort_nil, List.orderedInsert_nil, takeAffordable_single]
    split
    case isTrue hle => exact iff_of_true ⟨_, List.mem_cons_self ..⟩ hle
    case isFalse hlt => exact iff_of_false (by rintro ⟨_, hmem⟩; cases hmem) hlt
  refine ⟨hcast.turn.heroActs hv, rfl, live.timed, pool, affectedTargets res.effects,
    EncounterState.dial_effects_of hlive, hawake, ?_, ?_⟩
  · simp
  · show (EncounterState.afterCast (if sootWightId ∈ affectedTargets res.effects then s.fallAsleep live else s) rules
      runtime economy).dial = if s.creature.hitPoints.current ≤ pool then _ else _
    by_cases hle : s.creature.hitPoints.current ≤ pool
    · rw [if_pos (hcovers.mpr hle), if_pos hle]
      have hasleep : (s.fallAsleep live).creatureAsleep = true := by
        unfold EncounterState.creatureAsleep EncounterState.fallAsleep
        simp
      show ({ s.dial with asleep := (s.fallAsleep live).creatureAsleep, effects := _ } : Dial) = _
      rw [hasleep]
      rfl
    · rw [if_neg fun hmem => hle (hcovers.mp hmem), if_neg hle]
      rfl

/-! ### Fire Bolt and Magic Missile -/

theorem pushRolls_facts {α : Type} {record : α → Nat → RawRollFacts} (as : List α) (d : Draft) :
    (as.foldl (fun d a => d.pushRoll (record a)) d).facts = d.facts := by
  induction as generalizing d with
  | nil => rfl
  | cons a as ih => exact ih (d.pushRoll (record a))

theorem recordSpellAttack_damage {d : Draft} {attack : Option SpellAttackResolution} {distanceFeet : Nat} :
    creatureDamage (recordSpellAttack d attack targetId spell distanceFeet).facts = creatureDamage d.facts := by
  cases attack with
  | none => rfl
  | some attack => exact creatureDamage_snoc rfl

/-- **The damage of a spell** hurts the creature by what is recorded. -/
theorem applySpellDamage_dial {d : Draft} {target : CombatantState} {spell : SpellId} {damageType : DamageType}
    {critical : Bool} {damage : Nat} (hl : LiveMatches d.state)
    (htarget : d.state.combatant sootWightId = some target) :
    creatureDamage (applySpellDamage d target sootWightId spell damageType critical damage).2.facts =
        creatureDamage d.facts + damage ∧
      d.state.dial.CreatureHurt
        (applySpellDamage d target sootWightId spell damageType critical damage).2.state.dial damage := by
  obtain rfl : target = d.state.creature := by
    unfold EncounterState.combatant at htarget
    rw [if_neg sootWightId_ne_canalWardenId, if_pos rfl] at htarget
    exact (Option.some.inj htarget).symm
  obtain ⟨struck, application, happlied⟩ : ∃ c a,
      applyDamage d.state.creature damage critical d.state.lethalityPolicy = (c, a) := ⟨_, _, rfl⟩
  have hchanged : HealthChanged d.state.creature struck := by
    have := @applyDamage_changed d.state.creature damage critical d.state.lethalityPolicy
    rw [happlied] at this
    exact this
  unfold applySpellDamage
  rw [happlied]
  dsimp only
  obtain ⟨x, hx⟩ : ∃ x : Draft, x = (d.update (·.updateCombatant sootWightId fun _ => struck)).push
      (damageFact canalWardenId sootWightId spell.mechanicId damageType critical damage application) := ⟨_, rfl⟩
  rw [← hx]
  have hxstate : x.state = { d.state with creature := struck } := by
    rw [hx]
    exact @EncounterState.updateCombatant_creature d.state fun _ => struck
  have hlx : LiveMatches x.state := by
    rw [hxstate]
    exact hl
  obtain ⟨hwoken, hwakefacts⟩ := @wakeSleepAfterDamage_dial x hlx damage
  generalize hy : recordLifeChange (wakeSleepAfterDamage x sootWightId damage) _ _ _ _ = y
  have hfacts : creatureDamage y.facts = creatureDamage d.facts + damage := by
    rw [← hy, recordLifeChange_damage, hwakefacts, hx]
    show creatureDamage (d.facts ++ [_]) = _
    rw [creatureDamage_append]
    rfl
  have hdial : y.state.dial = { (if damage = 0 then d.state.dial else d.state.dial.wake) with
      creatureHitPoints := struck.hitPoints.current } := by
    rw [← hy, recordLifeChange_state, hwoken, hxstate, EncounterState.dial_creature hchanged]
    split <;> rfl
  obtain ⟨hends, hdamage⟩ := @finishForHealthTransition_dial_creature y
  rw [hdial] at hends
  exact ⟨hdamage.trans hfacts, struck.hitPoints.current, hends⟩

theorem resolveCastSpell_turns (hv : s.Valid)
    (h : Prog.Returns (resolveCastSpell (.of s) spell targetId) t (n, d)) :
    s.dial.Turns d.facts (.castSpell spell targetId) d.state.dial := by
  obtain ⟨a, hpermitted, hcovers⟩ := resolveCastSpell_offered hv h
  obtain ⟨-, h⟩ := h.reject
  obtain ⟨hs, actor, hcurrent, hup, h⟩ := returns_activeActor h
  obtain ⟨hid, h⟩ := h.reject
  obtain ⟨actions, -, h⟩ := h.lift
  obtain ⟨-, h⟩ := h.reject
  obtain ⟨-, h⟩ := h.reject
  obtain ⟨rules, hrules, h⟩ := h.lift
  obtain ⟨sc, -, h⟩ := h.lift
  obtain ⟨r, hr, h⟩ := h.expect
  obtain ⟨intent, hintent, h⟩ := h.expect
  obtain ⟨t₁, t₂, ⟨res, runtime, economy⟩, rfl, hcast, h⟩ := h.bind
  obtain ⟨⟨damageType, damage⟩, -, h⟩ := h.lift
  have hwight : targetId = sootWightId := by
    cases a <;> first | exact hcovers.elim | skip
    obtain ⟨-, -, -, -, -, -, htarget, -⟩ := hpermitted
    exact hcovers.2.trans (htarget.trans hv.fixed.creatureId)
  subst hwight
  refine ⟨heroActs_of_id hv hs hcurrent (not_not.mp hid), ?_⟩
  -- the rolls of the spell leave the state and the damage alone
  dsimp only at h
  generalize hrolled : List.foldl _ (recordSpellAttack _ _ _ _ _) res.damageRolls = rolled at h
  have hstate : rolled.state = s := by
    rw [← hrolled]
    exact (pushRolls_state _ _).trans recordSpellAttack_state
  have hfacts : creatureDamage rolled.facts = 0 := by
    rw [← hrolled, pushRolls_facts, recordSpellAttack_damage]
    rfl
  generalize hcastDraft : (rolled.update (·.afterCast rules runtime economy)).push _ = cast at h
  have hafter : cast.state = s.afterCast rules runtime economy := by
    rw [← hcastDraft, Draft.push_state, Draft.update_state, hstate]
  have hdial : cast.state.dial = s.dial := by
    rw [hafter]
    rfl
  have hunhurt : creatureDamage cast.facts = 0 := by
    rw [← hcastDraft]
    exact (creatureDamage_snoc rfl).trans hfacts
  split at h
  case isTrue =>
    obtain rfl : d = cast := h.snd_eq
    refine ⟨s.dial.creatureHitPoints, .inl ?_⟩
    rw [hdial, if_pos hunhurt]
  case isFalse =>
    obtain ⟨target, htarget, h⟩ := h.expect
    obtain ⟨damageType', -, h⟩ := h.expect
    have hl : LiveMatches cast.state := by
      rw [hafter]
      exact hv.liveMatches
    obtain ⟨hdamage, hhurt⟩ := @applySpellDamage_dial cast target spell damageType'
      ((res.attack.map spellAttackOutcome).any (·.isCritical)) damage hl htarget
    rw [hunhurt, Nat.zero_add] at hdamage
    rw [hdial] at hhurt
    split at h <;>
    · obtain rfl : d = _ := h.snd_eq
      rw [hdamage]
      exact hhurt

/-! ### Features of the fighter -/

theorem resolveSecondWind_turns (hv : s.Valid) (h : Prog.Returns (resolveSecondWind (.of s)) t (n, d)) :
    s.dial.Turns d.facts .secondWind d.state.dial := by
  obtain ⟨hs, actor, hcurrent, hup, h⟩ := returns_activeActor h
  obtain ⟨hid, h⟩ := h.reject
  obtain ⟨_, -, h⟩ := h.lift
  obtain ⟨rules, -, h⟩ := h.lift
  obtain ⟨r, -, h⟩ := h.expect
  obtain ⟨t₁, t₂, ⟨res, runtime, economy, health⟩, rfl, -, h⟩ := h.bind
  obtain rfl : d = _ := h.snd_eq
  exact ⟨heroActs_of_id hv hs hcurrent (not_not.mp hid), rfl, rfl⟩

theorem resolveActionSurge_turns (hv : s.Valid) (h : Prog.Returns (resolveActionSurge (.of s)) t (n, d)) :
    s.dial.Turns d.facts .actionSurge d.state.dial := by
  obtain ⟨hs, actor, hcurrent, hup, h⟩ := returns_activeActor h
  obtain ⟨hid, h⟩ := h.reject
  obtain ⟨_, -, h⟩ := h.lift
  obtain ⟨rules, -, h⟩ := h.lift
  obtain ⟨r, -, h⟩ := h.expect
  obtain ⟨⟨u, runtime, economy⟩, -, h⟩ := h.lift
  obtain rfl : d = _ := h.snd_eq
  exact ⟨heroActs_of_id hv hs hcurrent (not_not.mp hid), rfl, rfl⟩

end Casting

/-! ## Reactions -/

section Reactions

variable {s : EncounterState} {t : List (Nat × Nat)} {n : DeterministicNarration} {d : Draft}

variable {p : PendingAttackReaction}

/-- The waiting hit is one on the hero. -/
theorem EncounterState.Valid.pending_target (hv : s.Valid)
    (hp : s.pendingHit = some p) : p.targetId = canalWardenId := by
  obtain ⟨live, hlive, hpend⟩ := Option.bind_eq_some_iff.mp hp
  exact ((hv.live_of_mem (mem_def.mpr hlive)).pending p hpend).targetId

/-- The damage of the waiting hit hurts the hero alone. -/
theorem resolvePendingAttackDamage_dial {d d' : Draft}
    {completion : Option EncounterOutcome} (hp : p.targetId = canalWardenId)
    (h : Prog.Returns (resolvePendingAttackDamage d p) t (completion, d')) :
    creatureDamage d'.facts = creatureDamage d.facts ∧ d.state.dial.HeroHurt d'.state.dial := by
  obtain ⟨t₁, t₂, ⟨roll, rolls⟩, rfl, -, h⟩ := h.bind
  obtain ⟨-, h⟩ := h.reject
  obtain ⟨struck, application, happlied⟩ : ∃ c a,
      applyDamage d.state.hero roll.total.toNat p.critical d.state.lethalityPolicy = (c, a) := ⟨_, _, rfl⟩
  dsimp only at h
  rw [happlied, hp] at h
  obtain ⟨-, heq⟩ := h.of_ok
  obtain rfl : d' = _ := congrArg Prod.snd heq
  generalize hy : recordLifeChange _ canalWardenId _ _ _ = y
  obtain ⟨hhurt, hdamage⟩ := @finishForHealthTransition_dial_hero y
  have hposition : struck.positionFeet = d.state.hero.positionFeet := by
    have := @applyDamage_position d.state.hero roll.total.toNat p.critical d.state.lethalityPolicy
    rw [happlied] at this
    exact this
  have hdial : y.state.dial = { d.state.dial with heroLife := struck.lifeStatus } := by
    rw [← hy, recordLifeChange_state]
    exact EncounterState.dial_hero hposition
  have hfacts : creatureDamage y.facts = creatureDamage d.facts := by
    rw [← hy, recordLifeChange_damage]
    exact creatureDamage_snoc damageFact_warden
  rw [hdial] at hhurt
  exact ⟨hdamage.trans hfacts, struck.lifeStatus, hhurt⟩

theorem resolveDeclineReaction_turns (hv : s.Valid)
    (h : Prog.Returns (resolveDeclineReaction (.of s)) t (n, d)) :
    s.dial.Turns d.facts .declineReaction d.state.dial := by
  have hwaits : s.pendingReaction = true := permitted_of_guard hv h
  obtain ⟨hs, hturn⟩ := hv.pending_turn hwaits
  obtain ⟨-, live, p, hlive, -⟩ := hv.pending hwaits
  obtain ⟨_, -, h⟩ := h.lift
  obtain ⟨p', hp', h⟩ := h.expect
  obtain ⟨t₁, t₂, ⟨completion, struck⟩, rfl, hdamage, h⟩ := h.bind
  obtain rfl : d = struck := h.snd_eq
  obtain ⟨hfacts, hhurt⟩ := resolvePendingAttackDamage_dial (hv.pending_target hp') hdamage
  refine ⟨hs, hturn, hfacts, ?_⟩
  have hdeclined : (s.mapLive fun live => { live with pendingAttackReaction := none }).dial = s.dial := by
    unfold EncounterState.mapLive
    rw [hlive]
    exact EncounterState.dial_withLive hlive rfl
  rw [← hdeclined]
  exact hhurt

theorem resolveShieldReaction_turns (hv : s.Valid)
    (h : Prog.Returns (resolveShieldReaction (.of s)) t (n, d)) :
    s.dial.Turns d.facts .castShield d.state.dial := by
  obtain ⟨hwaits, -⟩ := permitted_of_guard hv h
  obtain ⟨hs, hturn⟩ := hv.pending_turn hwaits
  obtain ⟨_, -, h⟩ := h.lift
  obtain ⟨p', hp', h⟩ := h.expect
  obtain ⟨rules, -, h⟩ := h.lift
  obtain ⟨sc, -, h⟩ := h.lift
  obtain ⟨slotsBefore, -, h⟩ := h.lift
  obtain ⟨trigger, -, h⟩ := h.lift
  obtain ⟨live, hlive, h⟩ := h.expect
  obtain ⟨t₁, t₂, ⟨res, runtime, economy⟩, rfl, -, h⟩ := h.bind
  obtain ⟨⟨bonus, negated, immune⟩, -, h⟩ := h.lift
  obtain ⟨slotsAfter, -, h⟩ := h.expect
  have hwarded : { s with
      liveQ04 := some (raiseWard live bonus immune)
      heroRules := some { rules with runtimeResources := runtime } }.dial = s.dial :=
    EncounterState.dial_withLive (s := { s with heroRules := _ }) hlive rfl
  refine ⟨hs, hturn, ?_⟩
  dsimp only at h
  split at h
  · obtain rfl : d = _ := h.snd_eq
    exact ⟨rfl, s.hero.lifeStatus, .inl hwarded⟩
  · obtain ⟨t₃, t₄, ⟨completion, struck⟩, rfl, hdamage, h⟩ := h.bind
    obtain rfl : d = _ := h.snd_eq
    obtain ⟨hfacts, hhurt⟩ := resolvePendingAttackDamage_dial (hv.pending_target hp') hdamage
    have hhurt' : s.dial.HeroHurt struck.state.dial := by
      rw [← hwarded]
      exact hhurt
    dsimp only
    split
    · refine ⟨hfacts, ?_⟩
      have hsame : (struck.state.mapLive fun live => { live with shieldWard := none }).dial = struck.state.dial := by
        unfold EncounterState.mapLive EncounterState.dial
        cases struck.state.liveQ04 <;> rfl
      show s.dial.HeroHurt (struck.state.mapLive _).dial
      rw [hsame]
      exact hhurt'
    · exact ⟨hfacts, hhurt'⟩

end Reactions

/-! ## Rests -/

section Rests

variable {s : EncounterState} {t : List (Nat × Nat)} {n : DeterministicNarration} {d : Draft}

variable {live : EncounterLiveQ04State}

/-- At a boundary the encounter does not go on. -/
theorem RestBoundary.not_active {rules : EncounterHeroRulesProfile}
    (h : RestBoundary s live rules) : s.dial.status ≠ .active := by
  show s.status ≠ .active
  rcases h.over with hs | hs <;> rw [hs] <;> exact nofun

/-- **A rest ends what is timed.** -/
theorem expireEffectsForRest_dial {resting : Draft}
    {f : EncounterLiveQ04State → EncounterLiveQ04State} (h : expireEffectsForRest d live f = resting)
    (hlive : d.state.liveQ04 = some live) :
    resting.state.dial = { d.state.dial.rest with effects := some (f live.expire).timed } ∧
      creatureDamage resting.facts = creatureDamage d.facts := by
  have hexpiry : creatureDamage (expiryFacts live) = 0 := by
    refine creatureDamage_eq_zero fun g hg => ?_
    unfold expiryFacts at hg
    rw [List.mem_append, List.mem_append, List.mem_map, List.mem_map, List.mem_map] at hg
    rcases hg with (⟨_, -, rfl⟩ | ⟨_, -, rfl⟩) | ⟨_, -, rfl⟩ <;> rfl
  subst h
  constructor
  case left =>
    unfold expireEffectsForRest Dial.rest
    rw [EncounterState.dial_sleep_of hlive]
    show ({ (if live.sleep.isSome = true then d.state.clearAsleep else d.state).dial with
      effects := some (f live.expire).timed } : Dial) = _
    cases live.sleep with
    | none => rw [if_neg (by simp), Option.isNone_none, Bool.and_true]
    | some sleep =>
      rw [if_pos (show (some sleep).isSome = true from rfl), EncounterState.clearAsleep_dial, Option.isNone_some,
        Bool.and_false]
  case right =>
    show creatureDamage (d.facts ++ expiryFacts live) = _
    rw [creatureDamage_append, hexpiry, Nat.add_zero]

/-- What a rest leaves of the timed effects, when another hero takes it. -/
theorem rest_dial_hero {hero : CombatantState} (hlive : s.liveQ04 = some live)
    (hposition : hero.positionFeet = s.hero.positionFeet) :
    { { s with hero }.dial.rest with effects := some live.timed.expire } =
      { s.dial.rest with heroLife := hero.lifeStatus } := by
  rw [EncounterState.dial_hero hposition]
  unfold Dial.rest Dial.sleep
  rw [EncounterState.dial_effects_of hlive]
  rfl

theorem resolveBeginShortRest_turns (hv : s.Valid)
    (h : Prog.Returns (resolveBeginShortRest (.of s)) t (n, d)) :
    s.dial.Turns d.facts .beginShortRest d.state.dial := by
  obtain ⟨live, rules, hboundary, -⟩ := permitted_of_guard hv h
  obtain ⟨_, -, h⟩ := h.lift
  obtain ⟨s', hrecovered, h⟩ := h.lift
  obtain ⟨hero, hposition, rfl⟩ := applyStoryRecoveryBoundary_eq_ok hrecovered
  obtain ⟨live', hlive', h⟩ := h.expect
  obtain ⟨completesAt, -, h⟩ := h.lift
  obtain rfl : d = _ := h.snd_eq
  dsimp only
  generalize hresting : expireEffectsForRest _ live' _ = resting
  obtain ⟨hdial, hfacts⟩ := expireEffectsForRest_dial hresting hlive'
  refine ⟨hboundary.not_active, ?_, ?_⟩
  · exact (creatureDamage_snoc rfl).trans hfacts
  · exact ⟨hero.lifeStatus, hdial.trans (rest_dial_hero (s := s) hlive' hposition)⟩

theorem resolveSpendHitDie_turns (hv : s.Valid) (h : Prog.Returns (resolveSpendHitDie (.of s)) t (n, d)) :
    s.dial.Turns d.facts .spendHitDie d.state.dial := by
  obtain ⟨live, rules, rest, hboundary, -⟩ := permitted_of_guard hv h
  obtain ⟨_, -, h⟩ := h.lift
  obtain ⟨rules', -, h⟩ := h.lift
  obtain ⟨modifier, -, h⟩ := h.lift
  obtain ⟨t₁, t₂, ⟨res, runtime, health⟩, rfl, -, h⟩ := h.bind
  obtain ⟨sides, -, h⟩ := h.expect
  obtain ⟨live', hlive', h⟩ := h.expect
  obtain ⟨rest', -, h⟩ := h.expect
  obtain ⟨_, -, h⟩ := h.expect
  obtain rfl : d = _ := h.snd_eq
  refine ⟨hboundary.not_active, rfl, .ofVital health.vitalStatus, ?_⟩
  exact EncounterState.dial_withLive (s := { s.applyRecoveryHealth health with heroRules := _ }) hlive' rfl

theorem resolveArcaneRecovery_turns (hv : s.Valid)
    (h : Prog.Returns (resolveArcaneRecovery (.of s)) t (n, d)) :
    s.dial.Turns d.facts .useArcaneRecovery d.state.dial := by
  obtain ⟨live, rules, rest, hboundary, -⟩ := permitted_of_guard hv h
  obtain ⟨_, -, h⟩ := h.lift
  obtain ⟨rules', -, h⟩ := h.lift
  obtain ⟨slotsBefore, -, h⟩ := h.expect
  obtain ⟨recoveryBefore, -, h⟩ := h.expect
  obtain ⟨t₁, t₂, ⟨res, runtime, health⟩, rfl, -, h⟩ := h.bind
  obtain ⟨slotsAfter, -, h⟩ := h.expect
  obtain ⟨recoveryAfter, -, h⟩ := h.expect
  obtain ⟨live', hlive', h⟩ := h.expect
  obtain ⟨rest', -, h⟩ := h.expect
  obtain rfl : d = _ := h.snd_eq
  refine ⟨hboundary.not_active, rfl, s.hero.lifeStatus, ?_⟩
  exact EncounterState.dial_withLive (s := { s with heroRules := _ }) hlive' rfl

theorem resolveFinishShortRest_turns (hv : s.Valid)
    (h : Prog.Returns (resolveFinishShortRest (.of s)) t (n, d)) :
    s.dial.Turns d.facts .finishShortRest d.state.dial := by
  obtain ⟨live, rules, rest, hboundary, -⟩ := permitted_of_guard hv h
  obtain ⟨_, -, h⟩ := h.lift
  obtain ⟨rest', -, h⟩ := h.expect
  obtain ⟨rules', -, h⟩ := h.lift
  obtain ⟨t₁, t₂, ⟨res, runtime, health⟩, rfl, -, h⟩ := h.bind
  obtain ⟨live', hlive', h⟩ := h.expect
  obtain rfl : d = _ := h.snd_eq
  refine ⟨hboundary.not_active, rfl, .ofVital health.vitalStatus, ?_⟩
  exact EncounterState.dial_withLive (s := { s.applyRecoveryHealth health with heroRules := _ }) hlive' rfl

theorem resolveLongRest_turns (hv : s.Valid) (h : Prog.Returns (resolveLongRest (.of s)) t (n, d)) :
    s.dial.Turns d.facts .takeLongRest d.state.dial := by
  obtain ⟨live, rules, hboundary, -⟩ := permitted_of_guard hv h
  obtain ⟨_, -, h⟩ := h.lift
  obtain ⟨s', hrecovered, h⟩ := h.lift
  obtain ⟨hero, hposition, rfl⟩ := applyStoryRecoveryBoundary_eq_ok hrecovered
  obtain ⟨live', hlive', h⟩ := h.expect
  obtain ⟨completesAt, -, h⟩ := h.lift
  obtain ⟨rules', -, h⟩ := h.lift
  obtain ⟨⟨res, runtime, health⟩, -, h⟩ := h.lift
  obtain rfl : d = _ := h.snd_eq
  dsimp only
  generalize hresting : expireEffectsForRest _ live' _ = resting
  obtain ⟨hdial, hfacts⟩ := expireEffectsForRest_dial hresting hlive'
  refine ⟨hboundary.not_active, ?_, ?_⟩
  · exact ((creatureDamage_snoc rfl).trans (creatureDamage_snoc rfl)).trans hfacts
  · refine ⟨.ofVital health.vitalStatus, ?_⟩
    have hrested := hdial.trans (rest_dial_hero (s := s) hlive' hposition)
    show ({ resting.state.dial with heroLife := .ofVital health.vitalStatus } : Dial) = _
    rw [hrested]

end Rests

/-! ## Every intent -/

/-- **Whatever a resolver leaves behind, its dial is where its intent turns it.** -/
theorem resolveIntent_turns {s : EncounterState} {t : List (Nat × Nat)} {n : DeterministicNarration} {d : Draft}
    (hv : s.Valid) {intent : EncounterIntent} (h : Prog.Returns (resolveIntent (.of s) intent) t (n, d)) :
    s.dial.Turns d.facts intent d.state.dial := by
  cases intent with
  | startEncounter => exact resolveStart_turns h
  | move destination => exact resolveMove_turns hv h
  | attack attackId targetId => exact resolveAttack_turns hv h
  | contextAction actionId => exact resolveContextAction_turns hv h
  | castSpell spell targetId => exact resolveCastSpell_turns hv h
  | castLight objectId => exact resolveCastLight_turns hv h
  | castMageHand anchor => exact resolveCastMageHand_turns hv h
  | controlMageHand objectId => exact resolveControlMageHand_turns hv h
  | dismissMageHand => exact resolveDismissMageHand_turns hv h
  | castSleep => exact resolveCastSleep_turns hv h
  | castShield => exact resolveShieldReaction_turns hv h
  | declineReaction => exact resolveDeclineReaction_turns hv h
  | secondWind => exact resolveSecondWind_turns hv h
  | actionSurge => exact resolveActionSurge_turns hv h
  | beginShortRest => exact resolveBeginShortRest_turns hv h
  | spendHitDie => exact resolveSpendHitDie_turns hv h
  | useArcaneRecovery => exact resolveArcaneRecovery_turns hv h
  | finishShortRest => exact resolveFinishShortRest_turns hv h
  | takeLongRest => exact resolveLongRest_turns hv h
  | endTurn => exact resolveEndTurn_turns hv h
  | rollDeathSave => exact resolveDeathSave_turns hv h

end ManchesterArcana.Encounter
