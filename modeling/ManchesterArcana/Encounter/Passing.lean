import ManchesterArcana.Encounter.Command
import ManchesterArcana.Encounter.Listing
import ManchesterArcana.Encounter.Preserve

/-!
# `Encounter.Passing` — what the passing of a turn comes to

`advanceTurn` is a chain of fallible lookups. On a valid active state none of them fails: the turn goes to the
other participant with fresh resources, and when the order wraps around the live runtime ages by a round
(`EncounterState.ageRound`). The successor is valid again unless a hit was left waiting for its reaction.
-/

namespace ManchesterArcana.Encounter

open Effect Rules
open Option (any_some bind_some)

/-! ## A round, as a function -/

/-- The hand one round later. -/
def agedHand (hand : MageHandState) : Option MageHandState :=
  if hand.remainingRounds = 1 then none
  else some { hand with remainingRounds := hand.remainingRounds - 1 }

/-- The magical sleep one round later. -/
def EncounterSleepState.aged (sleep : EncounterSleepState) : Option EncounterSleepState :=
  if sleep.remainingRounds = 1 then none
  else some { sleep with remainingRounds := sleep.remainingRounds - 1 }

namespace EncounterLiveQ04State

/-- The live runtime one round later. -/
def ageRound (live : EncounterLiveQ04State) : EncounterLiveQ04State :=
  { live with
    objects := live.objects.map (·.ageLight)
    mageHand := live.mageHand.bind agedHand
    mageHandPositionFeet := match live.mageHand with
      | some hand => if hand.remainingRounds = 1 then none else live.mageHandPositionFeet
      | none => live.mageHandPositionFeet
    sleep := live.sleep.bind (·.aged) }

/-- The live runtime when the hero's turn begins. -/
def beginHeroTurn (live : EncounterLiveQ04State) : EncounterLiveQ04State :=
  { live with heroReactionAvailable := true, shieldWard := none }

end EncounterLiveQ04State

namespace EncounterState

/-- The state one round later, the round counter apart. -/
def ageRound (s : EncounterState) : EncounterState :=
  if s.schemaVersion ≠ encounterSchemaVersion then s
  else match s.liveQ04 with
    | some live =>
      { (if live.sleep.any (·.remainingRounds = 1) then s.clearAsleep else s) with
        liveQ04 := some live.ageRound }
    | none => s

/-- Every spectral hand there is has valid data. -/
def HandsValid (s : EncounterState) : Prop :=
  s.schemaVersion = encounterSchemaVersion →
    ∃ live, s.liveQ04 = some live ∧ ∀ hand ∈ live.mageHand, hand.Valid

theorem Valid.handsValid {s : EncounterState} (hv : s.Valid) : s.HandsValid := by
  intro h3
  obtain ⟨live, hlive, hvalid⟩ := hv.live h3
  refine ⟨live, hlive, fun hand hmem => ?_⟩
  obtain ⟨_, _, hhand⟩ := hvalid.hand hand hmem
  exact hhand.hand

end EncounterState

theorem ageHand_of_valid {live : EncounterLiveQ04State} (hv : ∀ hand ∈ live.mageHand, hand.Valid) :
    ∃ facts, ageHand live = .ok (live.ageRound.mageHand, live.ageRound.mageHandPositionFeet, facts) ∧
      ∀ f ∈ facts, f = .mageHandExpired mageHandId := by
  unfold ageHand EncounterLiveQ04State.ageRound
  cases hhand : live.mageHand with
  | none => exact ⟨[], rfl, by simp⟩
  | some hand =>
    have haged := advanceMageHandDuration_of_valid (hv hand hhand)
    by_cases h1 : hand.remainingRounds = 1
    · rw [if_pos h1] at haged
      refine ⟨[.mageHandExpired mageHandId], ?_, by simp⟩
      simp only [haged, agedHand, bind_some, h1, if_true]
      rfl
    · rw [if_neg h1] at haged
      refine ⟨[], ?_, by simp⟩
      simp only [haged, agedHand, bind_some, h1, if_false]
      rfl

/-- A fact that a passing turn may record: an expiry of the live schema. -/
def EncounterFact.isExpiry : EncounterFact → Bool
  | .mageHandExpired _ | .lightExpired _ | .sleepEnded .. => true
  | _ => false

variable {d : Draft} {i : InitiativeState} {index oldIndex : Nat} {actorId : String} {actor : CombatantState}

/-- **A round passes without fail, and as `ageRound` says.** -/
theorem advanceLiveQ04Round_of_valid (hv : d.state.HandsValid) :
    ∃ facts, advanceLiveQ04Round d = .ok { d with state := d.state.ageRound, facts := d.facts ++ facts } ∧
      (∀ f ∈ facts, f.isExpiry = true) ∧ (d.state.schemaVersion ≠ encounterSchemaVersion → facts = []) := by
  unfold advanceLiveQ04Round EncounterState.ageRound
  by_cases h3 : d.state.schemaVersion = encounterSchemaVersion
  · rw [if_neg (not_not.mpr h3), if_neg (not_not.mpr h3)]
    obtain ⟨live, hlive, hhand⟩ := hv h3
    obtain ⟨handFacts, haged, hfacts⟩ := ageHand_of_valid hhand
    simp only [hlive, Prog.expect, Prog.ok_bind, haged, Prog.lift_ok]
    have hlight : ∀ f ∈ expiringLights live.objects, f.isExpiry = true := by
      intro f hf
      obtain ⟨o, -, rfl⟩ := List.mem_map.mp hf
      rfl
    have hexpiry : ∀ f ∈ handFacts ++ expiringLights live.objects, f.isExpiry = true := by
      intro f hf
      rcases List.mem_append.mp hf with hf | hf
      · rw [hfacts f hf]; rfl
      · exact hlight f hf
    cases hsleep : live.sleep with
    | none =>
      refine ⟨handFacts ++ expiringLights live.objects, ?_, hexpiry, fun h => absurd h3 h⟩
      simp only [Option.any_none, Bool.false_eq_true, if_false, EncounterLiveQ04State.ageRound, hsleep,
        Option.bind_none, List.append_assoc]
      rfl
    | some sleep =>
      by_cases h1 : sleep.remainingRounds = 1
      · refine ⟨handFacts ++ expiringLights live.objects ++ [.sleepEnded sleep.targetId .durationExpired],
          ?_, ?_, fun h => absurd h3 h⟩
        · simp only [h1, if_true, any_some, decide_true, EncounterLiveQ04State.ageRound, hsleep,
            bind_some, EncounterSleepState.aged, List.append_assoc]
          rfl
        · intro f hf
          rcases List.mem_append.mp hf with hf | hf
          · exact hexpiry f hf
          · rw [List.mem_singleton.mp hf]; rfl
      · refine ⟨handFacts ++ expiringLights live.objects, ?_, hexpiry, fun h => absurd h3 h⟩
        simp only [h1, if_false, any_some, decide_false, Bool.false_eq_true,
          EncounterLiveQ04State.ageRound, hsleep, bind_some, EncounterSleepState.aged,
          List.append_assoc]
        rfl
  · rw [if_pos h3, if_pos h3]
    exact ⟨[], by rw [List.append_nil]; rfl, by simp, fun _ => rfl⟩

/-! ## A turn, as a function -/

/-- Whether the hero's Second Wind is unspent. -/
def secondWindLeft (rules : Option EncounterHeroRulesProfile) : Bool :=
  rules.any fun rules => rules.runtimeResources.secondWind.any (·.current > 0)

/-- The resources a turn starts with. -/
def TurnResources.start (speedFeet : Nat) (bonusAction : Bool) : TurnResources where
  actionAvailable := true
  movementRemainingFeet := speedFeet
  bonusActionAvailable := bonusAction
  reactionAvailable := true
  objectInteractionAvailable := true

theorem TurnResources.fresh_of_valid {speedFeet : Nat} {rules : Option EncounterHeroRulesProfile}
    (hv : ∀ r ∈ rules, r.runtimeResources.Valid) :
    TurnResources.fresh speedFeet rules = .ok (.start speedFeet (secondWindLeft rules)) := by
  unfold TurnResources.fresh secondWindLeft
  cases rules with
  | none => rfl
  | some rules =>
    have hok := RuntimeResources.validate_eq_ok.mpr (hv rules rfl)
    simp only [grantSupportedBonusAction, hok, ok_bind, any_some]
    split
    · rename_i h
      rw [h]
      rfl
    · rename_i h
      rw [Bool.not_eq_true] at h
      rw [h]
      rfl

namespace EncounterState

/-- The state when a participant's turn begins. -/
def beginTurn (s : EncounterState) (index : Nat) (actorId : String) (speedFeet : Nat) : EncounterState :=
  { s with
    currentActorIndex := some index
    currentActorId := some actorId
    turnResources := some (.start speedFeet
      (secondWindLeft (if actorId = canalWardenId then s.heroRules else none)))
    liveQ04 := if s.schemaVersion = encounterSchemaVersion ∧ actorId = canalWardenId
      then s.liveQ04.map (·.beginHeroTurn) else s.liveQ04 }

/-- When the order wraps around, a round has passed. -/
def wrapRound (s : EncounterState) (index : Nat) : EncounterState :=
  if index = 0 then { s with round := s.round + 1 }.ageRound else s

/-- The state when the turn goes to the participant at `index`. -/
def passTurn (s : EncounterState) (index : Nat) (actorId : String) (speedFeet : Nat) : EncounterState :=
  (s.wrapRound index).beginTurn index actorId speedFeet

end EncounterState

/-- The pools of a snapshot are valid, and the live schema has its runtime. -/
structure TurnReady (s : EncounterState) : Prop where
  pools : ∀ rules ∈ s.heroRules, rules.runtimeResources.Valid
  live : s.schemaVersion = encounterSchemaVersion → ∃ live, s.liveQ04 = some live

variable {s : EncounterState} {d' : Draft} {t : List (Nat × Nat)}

theorem setCurrentTurn_of_ready (hr : TurnReady s) (hi : s.initiative = some i)
    (horder : i.order[index]? = some actorId)
    (hindex : index ≤ maxU8) (hactor : s.combatant actorId = some actor) :
    setCurrentTurn s index = .ok (s.beginTurn index actorId actor.speedFeet) := by
  have hfresh : TurnResources.fresh actor.speedFeet (if actorId = canalWardenId then s.heroRules else none) =
      .ok (.start actor.speedFeet (secondWindLeft (if actorId = canalWardenId then s.heroRules else none))) := by
    refine TurnResources.fresh_of_valid fun rules hrules => ?_
    split at hrules
    · exact hr.pools rules hrules
    · cases hrules
  unfold setCurrentTurn EncounterState.beginTurn
  simp only [hi, bind_some, horder, okOr_some, Prog.lift_ok, Prog.ok_bind, hactor, hindex, if_true,
    Prog.expect, hfresh]
  by_cases h3 : s.schemaVersion = encounterSchemaVersion ∧ actorId = canalWardenId
  · obtain ⟨live, hlive⟩ := hr.live h3.1
    rw [if_pos h3, if_pos h3, hlive]
    rfl
  · rw [if_neg h3, if_neg h3]
    rfl

namespace EncounterState

variable {s : EncounterState}

@[simp] theorem ageRound_schemaVersion : s.ageRound.schemaVersion = s.schemaVersion := by
  unfold ageRound
  split
  · rfl
  · split
    · split <;> rfl
    · rfl

/-- A round ages the live runtime and may wake the creature; nothing else. -/
theorem ageRound_eq : s.ageRound = { s with
    creature := { s.creature with statusEffects := s.ageRound.creature.statusEffects }
    liveQ04 := s.ageRound.liveQ04 } := by
  unfold ageRound
  split
  · rfl
  · split
    · split <;> rfl
    · rfl

theorem ageRound_live (h3 : s.schemaVersion = encounterSchemaVersion) {live : EncounterLiveQ04State}
    (hlive : s.liveQ04 = some live) : s.ageRound.liveQ04 = some live.ageRound := by
  unfold ageRound
  rw [if_neg (not_not.mpr h3), hlive]

end EncounterState

/-! ## The next participant -/

/-- The participant whose turn comes next, with its place in the order. -/
structure NextTurn (s : EncounterState) (i : InitiativeState) (oldIndex index : Nat) (actorId : String)
    (actor : CombatantState) : Prop where
  initiative : s.initiative = some i
  length : i.order.length = 2
  position : s.currentActorIndex = some oldIndex
  next : index = (oldIndex + 1) % i.order.length
  order : i.order[index]? = some actorId
  participant : s.combatant actorId = some actor
  turn : (actorId = canalWardenId ∧ actor = s.hero ∧ s.currentActorId = some sootWightId) ∨
    (actorId = sootWightId ∧ actor = s.creature ∧ s.currentActorId = some canalWardenId)

/-- **In an active encounter the turn goes to the other participant.** -/
theorem EncounterState.Valid.nextTurn (hv : s.Valid) (hs : s.status = .active) :
    ∃ i oldIndex index actorId actor, NextTurn s i oldIndex index actorId actor := by
  obtain ⟨i, oldIndex, hi, hindex, horder⟩ := (hv.active hs).order
  have hne := sootWightId_ne_canalWardenId
  have hhero : s.combatant canalWardenId = some s.hero := if_pos rfl
  have hwight : s.combatant sootWightId = some s.creature := by
    unfold EncounterState.combatant
    rw [if_neg hne, if_pos rfl]
  have hcurrent : s.currentActorId = some canalWardenId ∨ s.currentActorId = some sootWightId :=
    (hv.turn_cases hs).imp And.left And.left
  have hlt (n : Nat) (a b : String) (h : [a, b][n]? = s.currentActorId) : n = 0 ∨ n = 1 := by
    have hsome : [a, b][n]? ≠ none := by
      rw [h]
      rcases hcurrent with hc | hc <;> rw [hc] <;> exact nofun
    have : n < 2 := by
      by_contra hge
      exact hsome (List.getElem?_eq_none (Nat.le_of_not_lt hge))
    omega
  rcases (hv.initiative i hi).order_cases with ho | ho <;> rw [ho] at horder <;>
    rcases hlt _ _ _ horder with rfl | rfl
  · exact ⟨i, 0, 1, sootWightId, s.creature, hi, by rw [ho]; rfl, hindex, by rw [ho]; rfl, by rw [ho]; rfl,
      hwight, .inr ⟨rfl, rfl, horder.symm⟩⟩
  · exact ⟨i, 1, 0, canalWardenId, s.hero, hi, by rw [ho]; rfl, hindex, by rw [ho]; rfl, by rw [ho]; rfl,
      hhero, .inl ⟨rfl, rfl, horder.symm⟩⟩
  · exact ⟨i, 0, 1, canalWardenId, s.hero, hi, by rw [ho]; rfl, hindex, by rw [ho]; rfl, by rw [ho]; rfl,
      hhero, .inl ⟨rfl, rfl, horder.symm⟩⟩
  · exact ⟨i, 1, 0, sootWightId, s.creature, hi, by rw [ho]; rfl, hindex, by rw [ho]; rfl, by rw [ho]; rfl,
      hwight, .inr ⟨rfl, rfl, horder.symm⟩⟩

/-- **Passing the turn of a valid active state is `passTurn`.** -/
theorem advanceTurn_of_valid (hv : d.state.Valid) (hn : NextTurn d.state i oldIndex index actorId actor)
    (hround : index = 0 → d.state.round < maxU32) :
    ∃ facts, advanceTurn d =
        .ok { d with state := d.state.passTurn index actorId actor.speedFeet, facts := d.facts ++ facts } ∧
      facts ≠ [] ∧ ∀ f ∈ facts, f.Fits d.state.schemaVersion := by
  have hindex : index < 2 := by
    rw [hn.next, hn.length]
    exact Nat.mod_lt _ (by decide)
  obtain ⟨endedActorId, hended⟩ : ∃ id, d.state.currentActorId = some id := by
    rcases hn.turn with ⟨-, -, h⟩ | ⟨-, -, h⟩ <;> exact ⟨_, h⟩
  have hturnEnded (a b : String) (n : Nat) : (EncounterFact.turnEnded a b n).Fits d.state.schemaVersion :=
    ⟨fun _ => rfl, fun _ => rfl⟩
  have hpools (rules : EncounterHeroRulesProfile) (hr : rules ∈ d.state.heroRules) :
      rules.runtimeResources.Valid := (hv.rules rules hr).rules.resources
  -- the round that passes first, when the order wraps around
  obtain ⟨facts, hpass, hfit⟩ : ∃ facts, passRound d index =
      .ok { d with
        state := d.state.wrapRound index
        facts := d.facts ++ facts } ∧ ∀ f ∈ facts, f.Fits d.state.schemaVersion := by
    unfold passRound
    by_cases h0 : index = 0
    · have hr := hround h0
      obtain ⟨facts, hround, hexpiry, hnone⟩ := advanceLiveQ04Round_of_valid
        (d := d.update fun s => { s with round := s.round + 1 }) hv.handsValid
      refine ⟨facts, ?_, fun f hf => ?_⟩
      · rw [if_neg (not_not.mpr h0), Prog.reject, if_neg (by omega), Prog.ok_bind, hround,
          EncounterState.wrapRound, if_pos h0]
        rfl
      · by_cases h3 : d.state.schemaVersion = encounterSchemaVersion
        · exact EncounterFact.fits_live h3
        · rw [hnone h3] at hf
          cases hf
    · refine ⟨[], ?_, by simp⟩
      rw [if_pos h0, EncounterState.wrapRound, if_neg h0, List.append_nil]
      rfl
  -- what the lookups of the new turn need of the state the round left
  have hwrapped : TurnReady (d.state.wrapRound index) ∧ (d.state.wrapRound index).initiative = some i ∧
      ∃ participant, (d.state.wrapRound index).combatant actorId = some participant ∧
        participant.speedFeet = actor.speedFeet := by
    have hlive (h3 : d.state.schemaVersion = encounterSchemaVersion) : ∃ live, d.state.liveQ04 = some live := by
      obtain ⟨live, hlive, -⟩ := hv.live h3
      exact ⟨live, hlive⟩
    unfold EncounterState.wrapRound
    split
    · have hready : TurnReady { d.state with round := d.state.round + 1 }.ageRound := by
        refine ⟨fun rules hr => ?_, fun h3 => ?_⟩
        · rw [EncounterState.ageRound_eq] at hr
          exact hpools rules hr
        · rw [EncounterState.ageRound_schemaVersion] at h3
          obtain ⟨live, hl⟩ := hlive h3
          exact ⟨_, @EncounterState.ageRound_live { d.state with round := d.state.round + 1 } h3 _ hl⟩
      refine ⟨hready, ?_, ?_⟩
      · rw [EncounterState.ageRound_eq]
        exact hn.initiative
      · rw [EncounterState.ageRound_eq]
        rcases hn.turn with ⟨rfl, rfl, -⟩ | ⟨rfl, rfl, -⟩
        · exact ⟨_, if_pos rfl, rfl⟩
        · exact ⟨_, (if_neg sootWightId_ne_canalWardenId).trans (if_pos rfl), rfl⟩
    · exact ⟨⟨hpools, hlive⟩, hn.initiative, actor, hn.participant, rfl⟩
  obtain ⟨hready, hinitiative, participant, hparticipant, hspeed⟩ := hwrapped
  have hset := setCurrentTurn_of_ready hready hinitiative hn.order (by unfold maxU8; omega) hparticipant
  rw [hspeed] at hset
  refine ⟨facts ++ [.turnEnded endedActorId actorId (d.state.wrapRound index).round], ?_, by simp, ?_⟩
  · have hnext : (oldIndex + 1) % 2 = index := by rw [hn.next, hn.length]
    unfold advanceTurn
    simp only [hn.initiative, okOr_some, Prog.lift_ok, Prog.ok_bind, hn.position, hended, hn.length,
      Prog.expect, OfNat.ofNat_ne_zero, if_false, hnext, hpass, hset]
    rw [EncounterState.passTurn, ← List.append_assoc]
    rfl
  · intro f hf
    rcases List.mem_append.mp hf with hf | hf
    · exact hfit f hf
    · rw [List.mem_singleton.mp hf]
      exact hturnEnded _ _ _

/-- A turn that was passed did not overflow the round counter. -/
theorem advanceTurn_round (hn : NextTurn d.state i oldIndex index actorId actor)
    (h : Prog.Returns (advanceTurn d) t d') : index = 0 → d.state.round < maxU32 := by
  intro h0
  simp only [advanceTurn, Prog.returns_lift_bind, Prog.returns_expect_bind, okOr_eq_ok] at h
  obtain ⟨i', hi', old', hold', _, _, _, _, h⟩ := h
  obtain rfl : i' = i := Option.mem_unique hi' hn.initiative
  obtain rfl : old' = oldIndex := Option.mem_unique hold' hn.position
  obtain ⟨_, _, passed, _, hpass, _⟩ := h.bind
  rw [← hn.next, passRound, if_neg (not_not.mpr h0)] at hpass
  obtain ⟨hround, -⟩ := hpass.reject
  omega

/-- **What a turn that was passed left behind.** -/
theorem advanceTurn_returns_valid (hv : d.state.Valid)
    (hn : NextTurn d.state i oldIndex index actorId actor) (h : Prog.Returns (advanceTurn d) t d') :
    t = [] ∧ d'.rolls = d.rolls ∧ d'.state = d.state.passTurn index actorId actor.speedFeet := by
  obtain ⟨facts, heq, -⟩ := advanceTurn_of_valid hv hn (advanceTurn_round hn h)
  rw [heq] at h
  obtain ⟨rfl, rfl⟩ := h.of_ok
  exact ⟨rfl, rfl, rfl⟩

/-! ## A round keeps a valid state valid -/

namespace EncounterState

variable {s : EncounterState}

theorem ObjectValid.aged {o : EncounterObjectState} {id : String} {position : Nat}
    (h : ObjectValid o id position) : ObjectValid o.ageLight id position := by
  unfold EncounterObjectState.ageLight
  cases hl : o.lightRemainingRounds with
  | none => exact h
  | some rounds =>
    have hr := h.light rounds hl
    refine ⟨h.objectId, h.position, h.dimension, h.weight, h.notMagic, ?_⟩
    intro left hleft
    by_cases h1 : rounds = 1
    · simp only [h1, if_true] at hleft
      cases hleft
    · simp only [h1, if_false] at hleft
      obtain rfl := Option.mem_some.mp hleft
      omega

/-- The status effects of the creature one round later. -/
def agedEffects (s : EncounterState) (live : EncounterLiveQ04State) : List CombatantStatusEffect :=
  if live.sleep.any (·.remainingRounds = 1) then s.creature.statusEffects.filter (· ≠ .magicallyAsleep)
  else s.creature.statusEffects

variable {index speedFeet : Nat} {live : EncounterLiveQ04State} {actorId : String}

theorem ageRound_of_live (h3 : s.schemaVersion = encounterSchemaVersion)
    (hlive : s.liveQ04 = some live) : s.ageRound = { s with
      creature := { s.creature with statusEffects := s.agedEffects live }
      liveQ04 := some live.ageRound } := by
  unfold ageRound agedEffects
  rw [if_neg (not_not.mpr h3), hlive]
  dsimp only
  split <;> rfl

theorem mem_agedEffects {e : CombatantStatusEffect} (he : e ≠ .magicallyAsleep) :
    e ∈ s.agedEffects live ↔ e ∈ s.creature.statusEffects := by
  unfold agedEffects
  split
  · rw [List.mem_filter]
    exact ⟨And.left, fun h => ⟨h, by simpa using he⟩⟩
  · exact Iff.rfl

theorem LiveValid.aged (hv : LiveValid s live) (hs : s.status = .active) :
    LiveValid { s with
      creature := { s.creature with statusEffects := s.agedEffects live }
      liveQ04 := some live.ageRound } live.ageRound := by
  have hnotReady : s.status ≠ .ready := by rw [hs]; decide
  refine
    { objects := ?_, hand := ?_, noHand := ?_, sleep := ?_, awake := ?_, pending := ?_, ward := ?_, rest := ?_,
      longRest := hv.longRest, ready := fun h => absurd h hnotReady }
  · obtain ⟨rune, lever, ho, hrune, hlever⟩ := hv.objects
    refine ⟨rune.ageLight, lever.ageLight, ?_, hrune.aged, hlever.aged⟩
    show live.objects.map _ = _
    rw [ho]
    rfl
  · intro hand' hmem
    obtain ⟨hand, hhand, haged⟩ := Option.bind_eq_some_iff.mp (show live.mageHand.bind agedHand = some hand' from hmem)
    obtain ⟨position, hposition, hvalid⟩ := hv.hand hand hhand
    have hrounds := hvalid.hand.rounds
    unfold agedHand at haged
    by_cases h1 : hand.remainingRounds = 1
    · rw [if_pos h1] at haged
      cases haged
    · rw [if_neg h1] at haged
      cases haged
      refine ⟨position, ?_, ?_⟩
      · simp only [EncounterLiveQ04State.ageRound, hhand, h1, if_false]
        exact hposition
      · exact ⟨{ hvalid.hand with
            rounds := by
              show 1 ≤ hand.remainingRounds - 1 ∧ hand.remainingRounds - 1 ≤ 10
              omega }, hvalid.handId, hvalid.casterId, hvalid.position_ge, hvalid.position_le,
          hvalid.position_grid, hvalid.distance⟩
  · intro hnone
    have hnone' : live.mageHand.bind agedHand = none := hnone
    show (match live.mageHand with
      | some hand => if hand.remainingRounds = 1 then none else live.mageHandPositionFeet
      | none => live.mageHandPositionFeet) = none
    cases hhand : live.mageHand with
    | none => exact hv.noHand hhand
    | some hand =>
      rw [hhand, bind_some, agedHand] at hnone'
      by_cases h1 : hand.remainingRounds = 1
      · exact if_pos h1
      · rw [if_neg h1] at hnone'
        cases hnone'
  · intro sleep' hmem
    obtain ⟨sleep, hsleep, haged⟩ := Option.bind_eq_some_iff.mp
      (show live.sleep.bind (·.aged) = some sleep' from hmem)
    have hvalid := hv.sleep sleep hsleep
    have hrounds := hvalid.rounds
    unfold EncounterSleepState.aged at haged
    by_cases h1 : sleep.remainingRounds = 1
    · rw [if_pos h1] at haged
      cases haged
    · rw [if_neg h1] at haged
      cases haged
      refine ⟨hvalid.targetId, ?_, ?_, hvalid.conscious⟩
      · show 1 ≤ sleep.remainingRounds - 1 ∧ sleep.remainingRounds - 1 ≤ 10
        omega
      · have hkeep : s.agedEffects live = s.creature.statusEffects := by
          unfold agedEffects
          rw [hsleep, if_neg]
          simpa using h1
        unfold creatureAsleep
        rw [hkeep]
        exact hvalid.asleep
  · intro hnone
    have hnone' : live.sleep.bind (·.aged) = none := hnone
    unfold creatureAsleep
    cases hsleep : live.sleep with
    | none =>
      have hkeep : s.agedEffects live = s.creature.statusEffects := by
        unfold agedEffects
        rw [hsleep]
        rfl
      rw [hkeep]
      exact hv.awake hsleep
    | some sleep =>
      rw [hsleep, bind_some, EncounterSleepState.aged] at hnone'
      by_cases h1 : sleep.remainingRounds = 1
      · have hcleared : s.agedEffects live = s.creature.statusEffects.filter (· ≠ .magicallyAsleep) := by
          unfold agedEffects
          rw [hsleep, if_pos]
          simpa using h1
        rw [hcleared, decide_eq_false_iff_not, List.mem_filter]
        exact fun h => absurd h.2 (by decide)
      · rw [if_neg h1] at hnone'
        cases hnone'
  · intro p hmem
    have hp := hv.pending p hmem
    exact ⟨hp.resources, hp.status, hp.turn, hp.actorId, hp.targetId, hp.attackId, hp.natural,
      hp.natural_ne_one, hp.hits, hp.armorClass, hp.critical, hp.noWard⟩
  · intro w hmem
    have hw := hv.ward w hmem
    exact ⟨hw.casterId, hw.bonus, hw.immune, hw.status, hw.turn⟩
  · intro r hmem
    have hr := hv.rest r hmem
    exact ⟨hr.boundary, hr.boundaryId, hr.fits, hr.started, hr.completes⟩

variable {e : List CombatantStatusEffect}

/-- The rune ward and the soot veil outlast any change of the creature's sleep. -/
theorem EffectsValid.of_effects {live : Option EncounterLiveQ04State}
    (hv : EffectsValid s) (he : CombatantStatusEffect.sootVeil ∈ e ↔ .sootVeil ∈ s.creature.statusEffects) :
    EffectsValid { s with creature := { s.creature with statusEffects := e }, liveQ04 := live } := by
  have hveil : decide (CombatantStatusEffect.sootVeil ∈ e) = s.hasSootVeil := by
    unfold hasSootVeil
    rw [decide_eq_decide]
    exact he
  refine ⟨hv.ward, hv.notFailed, fun hp => hveil.trans (hv.veil hp), fun hc => ?_⟩
  exact ⟨hveil.trans (hv.unveiled hc).1, (hv.unveiled hc).2⟩

theorem ActiveValid.of_effects {live : Option EncounterLiveQ04State}
    (hv : ActiveValid s) :
    ActiveValid { s with creature := { s.creature with statusEffects := e }, liveQ04 := live } := by
  refine ⟨hv.order, hv.round_pos, ?_, hv.creatureLife, hv.heroLife, hv.primary, hv.reward, hv.transition⟩
  obtain ⟨actor, hactor, r, hr, hmove, hgrid, hrest⟩ := hv.actor
  unfold currentActor at hactor ⊢
  by_cases hhero : s.currentActorId = some canalWardenId
  · rw [if_pos hhero] at hactor
    obtain rfl := Option.some.inj hactor
    exact ⟨_, if_pos hhero, r, hr, hmove, hgrid, hrest⟩
  · rw [if_neg hhero] at hactor
    by_cases hwight : s.currentActorId = some sootWightId
    · rw [if_pos hwight] at hactor
      obtain rfl := Option.some.inj hactor
      exact ⟨_, (if_neg hhero).trans (if_pos hwight), r, hr, hmove, hgrid, hrest⟩
    · rw [if_neg hwight] at hactor
      cases hactor

theorem PhaseValid.active (hs : s.status = .active) (h : ActiveValid s) : PhaseValid s := by
  unfold PhaseValid
  rw [hs]
  exact h

/-- **A round keeps a valid active state valid.** -/
theorem ageRound_valid (hv : s.Valid) (hs : s.status = .active) : s.ageRound.Valid := by
  by_cases h3 : s.schemaVersion = encounterSchemaVersion
  · obtain ⟨live, hlive, hvalid⟩ := hv.live h3
    rw [ageRound_of_live h3 hlive]
    have hnodup : (s.agedEffects live).Nodup := by
      unfold agedEffects
      split
      · exact hv.creature.effects_nodup.filter _
      · exact hv.creature.effects_nodup
    refine hv.of_frame rfl
      { hero := hv.hero.sound
        creature := { hv.creature.sound with
          health := ⟨hv.creature.current_le, hv.creature.temporary_le, hv.creature.successes_le,
            hv.creature.failures_le, hv.creature.life⟩
          effects_nodup := hnodup }
        pools := hv.moved.pools
        live := fun _ => ⟨live.ageRound, rfl, hvalid.aged hs⟩
        noLive := fun hne => absurd h3 hne
        effects := hv.effects.of_effects (mem_agedEffects (by decide))
        initiative := hv.initiative
        phase := .active hs (hv.active hs).of_effects }
  · have hsame : s.ageRound = s := if_pos h3
    rw [hsame]
    exact hv

/-- Another positive round number does not change what else is checked. -/
theorem Valid.withRound (hv : s.Valid) (hs : s.status = .active) {n : Nat} (hn : n ≠ 0) :
    { s with round := n }.Valid := by
  have hactive := hv.active hs
  refine hv.of_frame rfl
    { hero := hv.hero.sound
      creature := hv.creature.sound
      pools := hv.moved.pools
      live := ((@validateRuntime_eq_ok { s with round := n }).mp
        (show s.validateRuntime = .ok () from validateRuntime_eq_ok.mpr ⟨hv.live, hv.noLive⟩)).1
      noLive := hv.noLive
      effects := validateEffects_eq_ok.mp (show s.validateEffects = .ok () from
        validateEffects_eq_ok.mpr hv.effects)
      initiative := hv.initiative
      phase := .active hs ⟨hactive.order, hn, hactive.actor, hactive.creatureLife, hactive.heroLife,
        hactive.primary, hactive.reward, hactive.transition⟩ }

theorem wrapRound_valid (hv : s.Valid) (hs : s.status = .active) (index : Nat) : (s.wrapRound index).Valid := by
  unfold wrapRound
  split
  · exact ageRound_valid (hv.withRound hs (Nat.succ_ne_zero _)) hs
  · exact hv

/-! ## A turn keeps a valid state valid -/

/-- What a live runtime needs to survive the beginning of a turn: no hit waits, and a ward is the hero's. -/
theorem LiveValid.beginTurn (hv : LiveValid s live) (hs : s.status = .active)
    (hpend : live.pendingAttackReaction = none)
    (hturn : actorId = canalWardenId ∧ s.currentActorId = some sootWightId ∨
      actorId = sootWightId ∧ s.currentActorId = some canalWardenId)
    (h3 : s.schemaVersion = encounterSchemaVersion) (hlive : s.liveQ04 = some live) :
    ∃ live', (s.beginTurn index actorId speedFeet).liveQ04 = some live' ∧
      LiveValid (s.beginTurn index actorId speedFeet) live' := by
  have hnotReady : s.status ≠ .ready := by rw [hs]; decide
  have hhand (hand : MageHandState) (position : Nat) (h : HandValid s hand position) :
      HandValid (s.beginTurn index actorId speedFeet) hand position :=
    ⟨h.hand, h.handId, h.casterId, h.position_ge, h.position_le, h.position_grid, h.distance⟩
  have hsleep (sleep : EncounterSleepState) (h : SleepValid s sleep) :
      SleepValid (s.beginTurn index actorId speedFeet) sleep := ⟨h.targetId, h.rounds, h.asleep, h.conscious⟩
  have hrest (live' : EncounterLiveQ04State) (htime : live'.campaignTimeMinutes = live.campaignTimeMinutes)
      (r : ShortRestState) (h : RestValid s live r) :
      RestValid (s.beginTurn index actorId speedFeet) live' r :=
    ⟨h.boundary, h.boundaryId, h.fits, h.started, h.completes.trans htime.symm⟩
  rcases hturn with ⟨rfl, hother⟩ | ⟨rfl, hother⟩
  · refine ⟨live.beginHeroTurn, ?_, ?_⟩
    · unfold EncounterState.beginTurn
      simp only [h3, and_self, if_true, hlive, Option.map_some]
    · refine
        { objects := hv.objects, hand := ?_, noHand := hv.noHand, sleep := ?_, awake := hv.awake, pending := ?_,
          ward := nofun, rest := ?_, longRest := hv.longRest, ready := fun h => absurd h hnotReady }
      · intro hand hmem
        obtain ⟨position, hposition, h⟩ := hv.hand hand hmem
        exact ⟨position, hposition, hhand hand position h⟩
      · exact fun sleep hmem => hsleep sleep (hv.sleep sleep hmem)
      · intro p hmem
        have hmem' : live.pendingAttackReaction = some p := hmem
        rw [hpend] at hmem'
        cases hmem'
      · exact fun r hmem => hrest live.beginHeroTurn rfl r (hv.rest r hmem)
  · refine ⟨live, ?_, ?_⟩
    · unfold EncounterState.beginTurn
      simp only [sootWightId_ne_canalWardenId, and_false, if_false, hlive]
    · refine
        { objects := hv.objects, hand := ?_, noHand := hv.noHand, sleep := ?_, awake := hv.awake, pending := ?_,
          ward := ?_, rest := ?_, longRest := hv.longRest, ready := fun h => absurd h hnotReady }
      · intro hand hmem
        obtain ⟨position, hposition, h⟩ := hv.hand hand hmem
        exact ⟨position, hposition, hhand hand position h⟩
      · exact fun sleep hmem => hsleep sleep (hv.sleep sleep hmem)
      · intro p hmem
        have hmem' : live.pendingAttackReaction = some p := hmem
        rw [hpend] at hmem'
        cases hmem'
      · -- a ward stands on the creature's turn only
        intro w hmem
        have hw := (hv.ward w hmem).turn
        rw [hother] at hw
        exact absurd (Option.some.inj hw).symm sootWightId_ne_canalWardenId
      · exact fun r hmem => hrest _ rfl r (hv.rest r hmem)

/-- **A turn that begins in a valid active state leaves it valid**, unless a hit waits for its reaction. -/
theorem beginTurn_valid (hv : s.Valid) (hs : s.status = .active) (hp : s.pendingReaction = false)
    {i : InitiativeState} (hi : s.initiative = some i)
    (horder : i.order[index]? = some actorId) (hgrid : 5 ∣ speedFeet)
    (hturn : (actorId = canalWardenId ∧ speedFeet = s.hero.speedFeet ∧ s.currentActorId = some sootWightId) ∨
      (actorId = sootWightId ∧ speedFeet = s.creature.speedFeet ∧ s.currentActorId = some canalWardenId)) :
    (s.beginTurn index actorId speedFeet).Valid := by
  have hactive := hv.active hs
  have hturn' : actorId = canalWardenId ∧ s.currentActorId = some sootWightId ∨
      actorId = sootWightId ∧ s.currentActorId = some canalWardenId :=
    hturn.imp (fun h => ⟨h.1, h.2.2⟩) fun h => ⟨h.1, h.2.2⟩
  refine hv.of_frame rfl
    { hero := hv.hero.sound
      creature := hv.creature.sound
      pools := hv.moved.pools
      live := ?_
      noLive := ?_
      effects := ⟨hv.effects.ward, hv.effects.notFailed, hv.effects.veil, hv.effects.unveiled⟩
      initiative := hv.initiative
      phase := ?_ }
  · intro h3'
    have h3 : s.schemaVersion = encounterSchemaVersion := h3'
    obtain ⟨live, hlive, hvalid⟩ := hv.live h3
    refine hvalid.beginTurn hs ?_ hturn' h3 hlive
    cases hpend : live.pendingAttackReaction with
    | none => rfl
    | some p =>
      rw [pendingReaction_eq_true.mpr ⟨h3, live, p, hlive, hpend⟩] at hp
      cases hp
  · intro hne
    have hne' : ¬ (s.schemaVersion = encounterSchemaVersion ∧ actorId = canalWardenId) := fun h => hne h.1
    unfold beginTurn
    simp only [hne', if_false]
    exact hv.noLive hne
  · refine .active hs ⟨⟨i, index, hi, rfl, horder⟩, hactive.round_pos, ?_, hactive.creatureLife,
      hactive.heroLife, hactive.primary, hactive.reward, hactive.transition⟩
    have hbonus (h : (TurnResources.start speedFeet (secondWindLeft
        (if actorId = canalWardenId then s.heroRules else none))).bonusActionAvailable = true) :
        (s.beginTurn index actorId speedFeet).bonusActionReachable = true := by
      have h' : secondWindLeft (if actorId = canalWardenId then s.heroRules else none) = true := h
      rcases hturn' with ⟨rfl, -⟩ | ⟨rfl, -⟩
      · rw [if_pos rfl] at h'
        unfold bonusActionReachable beginTurn
        rw [decide_eq_true rfl, Bool.true_and]
        exact h'
      · rw [if_neg sootWightId_ne_canalWardenId] at h'
        cases h'
    have hinteraction : ¬ (TurnResources.start speedFeet (secondWindLeft
        (if actorId = canalWardenId then s.heroRules else none))).objectInteractionAvailable = false := nofun
    rcases hturn with ⟨rfl, rfl, -⟩ | ⟨rfl, rfl, -⟩
    · exact ⟨s.hero, if_pos rfl, _, rfl, le_rfl, hgrid, hbonus, rfl, fun h => absurd h hinteraction⟩
    · refine ⟨s.creature, ?_, _, rfl, le_rfl, hgrid, hbonus, rfl, fun h => absurd h hinteraction⟩
      unfold currentActor beginTurn
      rw [if_neg, if_pos rfl]
      exact fun h => sootWightId_ne_canalWardenId (Option.some.inj h)

/-- A round leaves a waiting hit waiting. -/
theorem ageRound_pendingReaction : s.ageRound.pendingReaction = s.pendingReaction := by
  unfold ageRound
  split
  · rfl
  · cases hlive : s.liveQ04 with
    | none => rfl
    | some live =>
      unfold pendingReaction
      rw [hlive]
      dsimp only
      split <;> rfl

theorem wrapRound_pendingReaction :
    (s.wrapRound index).pendingReaction = s.pendingReaction := by
  unfold wrapRound
  split
  · rw [ageRound_pendingReaction]
    rfl
  · rfl

/-- The beginning of a turn leaves it waiting as well. -/
theorem beginTurn_pendingReaction :
    (s.beginTurn index actorId speedFeet).pendingReaction = s.pendingReaction := by
  unfold pendingReaction beginTurn
  dsimp only
  split
  · cases s.liveQ04 <;> rfl
  · rfl

theorem passTurn_pendingReaction {index speedFeet : Nat} {actorId : String} :
    (s.passTurn index actorId speedFeet).pendingReaction = s.pendingReaction :=
  beginTurn_pendingReaction.trans wrapRound_pendingReaction

/-- **Passing the turn keeps a valid active state valid**, unless a hit waits for its reaction. -/
theorem passTurn_valid (hv : s.Valid) (hs : s.status = .active) (hp : s.pendingReaction = false)
    {i : InitiativeState} {oldIndex : Nat} {actor : CombatantState}
    (hn : NextTurn s i oldIndex index actorId actor) (hgrid : 5 ∣ actor.speedFeet) :
    (s.passTurn index actorId actor.speedFeet).Valid := by
  have hwrap : (s.wrapRound index).status = s.status ∧ (s.wrapRound index).initiative = s.initiative ∧
      (s.wrapRound index).currentActorId = s.currentActorId ∧ (s.wrapRound index).hero = s.hero ∧
      (s.wrapRound index).creature.speedFeet = s.creature.speedFeet := by
    unfold wrapRound
    split
    · rw [ageRound_eq]
      exact ⟨rfl, rfl, rfl, rfl, rfl⟩
    · exact ⟨rfl, rfl, rfl, rfl, rfl⟩
  obtain ⟨hstatus, hinitiative, hcurrent, hhero, hspeed⟩ := hwrap
  have hpend : (s.wrapRound index).pendingReaction = false := by
    rw [wrapRound_pendingReaction]
    exact hp
  refine beginTurn_valid (wrapRound_valid hv hs index) (hstatus.trans hs) hpend
    (hinitiative.trans hn.initiative) hn.order hgrid ?_
  rw [hcurrent, hhero, hspeed]
  exact hn.turn.imp (fun h => ⟨h.1, by rw [h.2.1], h.2.2⟩) fun h => ⟨h.1, by rw [h.2.1], h.2.2⟩

end EncounterState

end ManchesterArcana.Encounter
