import ManchesterArcana.Encounter.Movement

/-!
# `Encounter.Dial` — what the rounds of an encounter count

`Dial` is the part of a state that turns with the rounds: the order, the round and whose turn it is, the light
on the objects, the spectral hand and the magical sleep, and what can end them early. `Dial.Turns` says for
each intent how it moves and which damage to the creature is recorded on the way. That every resolver turns
it so is shown in `Encounter.Turning`.
-/

namespace ManchesterArcana.Encounter

open Effect Rules

/-- The timed effects of the live runtime. -/
structure TimedEffects where
  objects : List EncounterObjectState
  hand : Option MageHandState
  handPosition : Option Nat
  sleep : Option EncounterSleepState

structure Dial where
  map : EncounterMap
  status : EncounterStatus
  initiative : Option InitiativeState
  round : Nat
  index : Option Nat
  turn : Option String
  effects : Option TimedEffects
  asleep : Bool
  creatureHitPoints : Nat
  creaturePosition : Nat
  heroPosition : Nat
  heroLife : LifeStatus

def EncounterLiveQ04State.timed (live : EncounterLiveQ04State) : TimedEffects where
  objects := live.objects
  hand := live.mageHand
  handPosition := live.mageHandPositionFeet
  sleep := live.sleep

/-- The dial of a state. -/
def EncounterState.dial (s : EncounterState) : Dial where
  map := s.map
  status := s.status
  initiative := s.initiative
  round := s.round
  index := s.currentActorIndex
  turn := s.currentActorId
  effects := s.liveQ04.map (·.timed)
  asleep := s.creatureAsleep
  creatureHitPoints := s.creature.hitPoints.current
  creaturePosition := s.creature.positionFeet
  heroPosition := s.hero.positionFeet
  heroLife := s.hero.lifeStatus

/-! ## Damage on record -/

/-- The damage to the creature that a fact records. -/
def EncounterFact.creatureDamage : EncounterFact → Nat
  | .damageApplied _ targetId _ _ _ amount .. => if targetId = sootWightId then amount else 0
  | _ => 0

/-- The damage to the creature that a resolution records. -/
def creatureDamage (facts : List EncounterFact) : Nat := (facts.map (·.creatureDamage)).sum

theorem creatureDamage_append (fs gs : List EncounterFact) :
    creatureDamage (fs ++ gs) = creatureDamage fs + creatureDamage gs := by
  unfold creatureDamage
  rw [List.map_append, List.sum_append]

theorem creatureDamage_snoc {fs : List EncounterFact} {f : EncounterFact} (h : f.creatureDamage = 0) :
    creatureDamage (fs ++ [f]) = creatureDamage fs := by
  have hf : creatureDamage [f] = 0 := h
  rw [creatureDamage_append, hf, Nat.add_zero]

theorem creatureDamage_eq_zero {fs : List EncounterFact} (h : ∀ f ∈ fs, f.creatureDamage = 0) :
    creatureDamage fs = 0 := by
  induction fs with
  | nil => rfl
  | cons f fs ih =>
    obtain ⟨hf, hfs⟩ := List.forall_mem_cons.mp h
    show f.creatureDamage + creatureDamage fs = 0
    rw [hf, ih hfs]

/-! ## Movements of the effects -/

namespace TimedEffects

/-- One round later. -/
def age (e : TimedEffects) : TimedEffects where
  objects := e.objects.map (·.ageLight)
  hand := e.hand.bind agedHand
  handPosition := match e.hand with
    | some hand => if hand.remainingRounds = 1 then none else e.handPosition
    | none => e.handPosition
  sleep := e.sleep.bind (·.aged)

/-- The hero goes to `destinationFeet`. -/
def follow (e : TimedEffects) (destinationFeet : Nat) : TimedEffects :=
  match e.handPosition with
  | none => e
  | some position =>
    if distance destinationFeet position > 30 then { e with hand := none, handPosition := none }
    else { e with hand := e.hand.map fun hand =>
      { hand with distanceFromCasterFeet := distance destinationFeet position } }

/-- An object is lit for six hundred rounds. -/
def light (e : TimedEffects) (objectId : String) : TimedEffects :=
  { e with objects := e.objects.map fun o =>
      if o.objectId = objectId then { o with lightRemainingRounds := some 600 } else o }

/-- A hand takes shape, or is moved, to where the object is. -/
def holdAt (e : TimedEffects) (hand : MageHandState) (o : EncounterObjectState) : TimedEffects :=
  { e with hand := some hand, handPosition := some o.positionFeet }

/-- The hand is gone. -/
def dropHand (e : TimedEffects) : TimedEffects := { e with hand := none, handPosition := none }

/-- The creature is awake. -/
def wake (e : TimedEffects) : TimedEffects := { e with sleep := none }

/-- Everything ends. -/
def expire (e : TimedEffects) : TimedEffects where
  objects := e.objects.map fun o => { o with lightRemainingRounds := none }
  hand := none
  handPosition := if e.hand.isSome then none else e.handPosition
  sleep := none

end TimedEffects

/-! ## Movements of the dial -/

namespace Dial

/-- The record of the magical sleep. -/
def sleep (b : Dial) : Option EncounterSleepState := b.effects.bind (·.sleep)

/-- The spectral hand. -/
def hand (b : Dial) : Option MageHandState := b.effects.bind (·.hand)

/-- Where the spectral hand is. -/
def handPosition (b : Dial) : Option Nat := b.effects.bind (·.handPosition)

/-- A round passes. -/
def tick (b : Dial) : Dial :=
  { b with
    round := b.round + 1
    effects := b.effects.map (·.age)
    asleep := b.asleep && !b.sleep.any (·.remainingRounds = 1) }

/-- The creature wakes up, when a sleep is on record. -/
def wake (b : Dial) : Dial :=
  { b with asleep := b.asleep && b.sleep.isNone, effects := b.effects.map (·.wake) }

/-- The encounter is over. -/
def closed (b : Dial) (status : EncounterStatus) : Dial := { b with status, index := none, turn := none }

/-- The turn goes to the other participant; when the order wraps around, a round passes. -/
def Passes (b b' : Dial) : Prop :=
  ∃ i index next actorId, b.initiative = some i ∧ b.index = some index ∧
    next = (index + 1) % i.order.length ∧ i.order[next]? = some actorId ∧
    ((actorId = canalWardenId ∧ b.turn = some sootWightId) ∨
      (actorId = sootWightId ∧ b.turn = some canalWardenId)) ∧
    b' = { (if next = 0 then b.tick else b) with index := some next, turn := some actorId }

/-- The hero's health changes, which may end the encounter. -/
def HeroHurt (b b' : Dial) : Prop :=
  ∃ heroLife, b' = { b with heroLife } ∨ b' = { b with heroLife }.closed .defeat

/-- The hero recovers, or not. -/
def HeroRecovers (b b' : Dial) : Prop := ∃ heroLife, b' = { b with heroLife }

/-- Damage to the creature wakes it, and may end the encounter. -/
def CreatureHurt (b b' : Dial) (damage : Nat) : Prop :=
  ∃ hitPoints, let struck := { (if damage = 0 then b else b.wake) with creatureHitPoints := hitPoints }
    b' = struck ∨ b' = struck.closed .victory

/-- A rest begins. -/
def rest (b : Dial) : Dial :=
  { b with asleep := b.asleep && b.sleep.isNone, effects := b.effects.map (·.expire) }

/-- A hand that has just taken shape by an object. -/
structure FreshHand (b : Dial) (o : EncounterObjectState) (hand : MageHandState) : Prop where
  valid : hand.Valid
  handId : hand.handId = mageHandId
  casterId : hand.casterId = canalWardenId
  rounds : hand.remainingRounds = 10
  distance : Encounter.distance b.heroPosition o.positionFeet = hand.distanceFromCasterFeet

/-- An intent of the hero's turn. -/
def HeroActs (b : Dial) : Prop := b.status = .active ∧ b.turn = some canalWardenId

/-- **How an intent turns the dial**, with the facts it records. -/
def Turns (b : Dial) (facts : List EncounterFact) : EncounterIntent → Dial → Prop
  | .startEncounter, b' => b.status = .ready ∧ creatureDamage facts = 0 ∧
      ∃ i actorId, i.order[0]? = some actorId ∧
        b' = { b with status := .active, initiative := some i, round := 1, index := some 0, turn := some actorId }
  | .move destination, b' => b.status = .active ∧ creatureDamage facts = 0 ∧
      ((b.turn = some canalWardenId ∧ 5 ∣ destination ∧ b' =
          { b with heroPosition := destination, effects := b.effects.map (·.follow destination) }) ∨
        (b.turn = some sootWightId ∧ b' = { b with creaturePosition := destination }))
  | .attack _ _, b' => b.status = .active ∧
      ((b.turn = some canalWardenId ∧ b.CreatureHurt b' (creatureDamage facts)) ∨
        (b.turn = some sootWightId ∧ creatureDamage facts = 0 ∧ b.HeroHurt b'))
  | .castSpell _ _, b' => b.HeroActs ∧ b.CreatureHurt b' (creatureDamage facts)
  | .castLight objectId, b' => b.HeroActs ∧ creatureDamage facts = 0 ∧
      b' = { b with effects := b.effects.map (·.light objectId) }
  | .castMageHand anchorObjectId, b' => b.HeroActs ∧ creatureDamage facts = 0 ∧
      ∃ e o hand, b.effects = some e ∧ o ∈ e.objects ∧ o.objectId = anchorObjectId ∧
        b.FreshHand o hand ∧ b' = { b with effects := some (e.holdAt hand o) }
  | .controlMageHand objectId, b' => b.HeroActs ∧ creatureDamage facts = 0 ∧
      ∃ e o hand, b.effects = some e ∧ o ∈ e.objects ∧ o.objectId = objectId ∧ e.hand = some hand ∧
        distance b.heroPosition o.positionFeet ≤ 30 ∧ b' = { b with effects := some (e.holdAt
          { hand with distanceFromCasterFeet := distance b.heroPosition o.positionFeet } o) }
  | .dismissMageHand, b' => b.HeroActs ∧ creatureDamage facts = 0 ∧ b.hand ≠ none ∧
      b' = { b with effects := b.effects.map (·.dropHand) }
  | .castSleep, b' => b.HeroActs ∧ creatureDamage facts = 0 ∧ ∃ e pool affected, b.effects = some e ∧
      e.sleep = none ∧ .sleepResolved canalWardenId pool [sootWightId] affected 10 ∈ facts ∧
      b' = if b.creatureHitPoints ≤ pool
        then { b with asleep := true, effects := some { e with sleep := some ⟨sootWightId, 10⟩ } } else b
  | .castShield, b' | .declineReaction, b' => b.status = .active ∧ b.turn = some sootWightId ∧
      creatureDamage facts = 0 ∧ b.HeroHurt b'
  | .contextAction _, b' | .secondWind, b' | .actionSurge, b' => b.HeroActs ∧ creatureDamage facts = 0 ∧ b' = b
  | .beginShortRest, b' | .takeLongRest, b' => b.status ≠ .active ∧ creatureDamage facts = 0 ∧
      b.rest.HeroRecovers b'
  | .spendHitDie, b' | .useArcaneRecovery, b' | .finishShortRest, b' => b.status ≠ .active ∧
      creatureDamage facts = 0 ∧ b.HeroRecovers b'
  | .endTurn, b' => b.status = .active ∧ creatureDamage facts = 0 ∧ b.Passes b'
  | .rollDeathSave, b' => b.HeroActs ∧ b.heroLife = .unconscious ∧ creatureDamage facts = 0 ∧
      (b.HeroHurt b' ∨ ∃ heroLife, { b with heroLife }.Passes b')

/-! ## What an intent does to the timed effects -/

/-- Light, the hand, the hero's walk and the start of a rest write to the timed effects on every throw. -/
def isTimed (b : Dial) : EncounterIntent → Bool
  | .move _ => decide (b.turn = some canalWardenId)
  | .castLight _ | .castMageHand _ | .controlMageHand _ | .dismissMageHand | .beginShortRest | .takeLongRest => true
  | _ => false

/-- **What an intent does to the timed effects**, with the round, the hero's place and the damage recorded. -/
inductive Change (b : Dial) (facts : List EncounterFact) (b' : Dial) : EncounterIntent → Prop where
  | kept {intent : EncounterIntent} (timed : b.isTimed intent = false) (effects : b'.effects = b.effects)
      (round : b.status ≠ .ready → b'.round = b.round) (position : b'.heroPosition = b.heroPosition)
      (harmless : creatureDamage facts = 0)
      (map : b'.map = b.map) : Change b facts b' intent
  | walked {destination : Nat} (acts : b.HeroActs) (grid : 5 ∣ destination)
      (effects : b'.effects = b.effects.map (·.follow destination)) (round : b'.round = b.round)
      (position : b'.heroPosition = destination) (harmless : creatureDamage facts = 0)
      (map : b'.map = b.map) :
      Change b facts b' (.move destination)
  | woken {intent : EncounterIntent} (timed : b.isTimed intent = false) (active : b.status = .active)
      (effects : b'.effects = b.effects.map (·.wake)) (round : b'.round = b.round)
      (position : b'.heroPosition = b.heroPosition) (hurt : creatureDamage facts ≠ 0)
      (map : b'.map = b.map) : Change b facts b' intent
  | lit {objectId : String} (acts : b.HeroActs) (effects : b'.effects = b.effects.map (·.light objectId))
      (round : b'.round = b.round) (position : b'.heroPosition = b.heroPosition)
      (harmless : creatureDamage facts = 0)
      (map : b'.map = b.map) : Change b facts b' (.castLight objectId)
  | created {e : TimedEffects} {o : EncounterObjectState} {hand : MageHandState} (acts : b.HeroActs)
      (before : b.effects = some e) (object : o ∈ e.objects) (fresh : b.FreshHand o hand)
      (effects : b'.effects = some (e.holdAt hand o)) (round : b'.round = b.round)
      (position : b'.heroPosition = b.heroPosition) (harmless : creatureDamage facts = 0)
      (map : b'.map = b.map) :
      Change b facts b' (.castMageHand o.objectId)
  | controlled {e : TimedEffects} {o : EncounterObjectState} {hand : MageHandState} (acts : b.HeroActs)
      (before : b.effects = some e) (object : o ∈ e.objects) (held : e.hand = some hand)
      (range : distance b.heroPosition o.positionFeet ≤ 30) (effects : b'.effects = some (e.holdAt
        { hand with distanceFromCasterFeet := distance b.heroPosition o.positionFeet } o))
      (round : b'.round = b.round) (position : b'.heroPosition = b.heroPosition)
      (harmless : creatureDamage facts = 0)
      (map : b'.map = b.map) : Change b facts b' (.controlMageHand o.objectId)
  | dismissed (acts : b.HeroActs) (held : b.hand ≠ none) (effects : b'.effects = b.effects.map (·.dropHand))
      (round : b'.round = b.round) (position : b'.heroPosition = b.heroPosition)
      (harmless : creatureDamage facts = 0)
      (map : b'.map = b.map) : Change b facts b' .dismissMageHand
  | slept {e : TimedEffects} {pool : Nat} {affected : List String} (acts : b.HeroActs)
      (before : b.effects = some e) (awake : e.sleep = none)
      (recorded : .sleepResolved canalWardenId pool [sootWightId] affected 10 ∈ facts)
      (covers : b.creatureHitPoints ≤ pool)
      (effects : b'.effects = some { e with sleep := some ⟨sootWightId, 10⟩ })
      (round : b'.round = b.round) (position : b'.heroPosition = b.heroPosition)
      (harmless : creatureDamage facts = 0)
      (map : b'.map = b.map) : Change b facts b' .castSleep
  | rested {intent : EncounterIntent} (rests : intent = .beginShortRest ∨ intent = .takeLongRest)
      (ended : b.status ≠ .active) (effects : b'.effects = b.effects.map (·.expire)) (round : b'.round = b.round)
      (position : b'.heroPosition = b.heroPosition) (harmless : creatureDamage facts = 0)
      (map : b'.map = b.map) :
      Change b facts b' intent
  | aged {intent : EncounterIntent} (passes : intent = .endTurn ∨ intent = .rollDeathSave)
      (active : b.status = .active) (effects : b'.effects = b.effects.map (·.age)) (round : b'.round = b.round + 1)
      (position : b'.heroPosition = b.heroPosition) (harmless : creatureDamage facts = 0)
      (map : b'.map = b.map) :
      Change b facts b' intent

variable {b b' : Dial} {facts : List EncounterFact} {intent : EncounterIntent}

theorem HeroHurt.same (h : b.HeroHurt b') :
    b'.effects = b.effects ∧ b'.round = b.round ∧ b'.heroPosition = b.heroPosition ∧ b'.map = b.map := by
  obtain ⟨heroLife, rfl | rfl⟩ := h <;> exact ⟨rfl, rfl, rfl, rfl⟩

theorem CreatureHurt.change
    (h : b.CreatureHurt b' (creatureDamage facts)) (hs : b.status = .active) (htimed : b.isTimed intent = false) :
    Change b facts b' intent := by
  obtain ⟨hitPoints, h⟩ := h
  by_cases h0 : creatureDamage facts = 0
  · rw [if_pos h0] at h
    refine .kept htimed ?_ (fun _ => ?_) ?_ h0 ?_ <;> rcases h with rfl | rfl <;> rfl
  · rw [if_neg h0] at h
    refine .woken htimed hs ?_ ?_ ?_ h0 ?_ <;> rcases h with rfl | rfl <;> rfl

theorem Passes.change
    {heroLife : LifeStatus} (h : { b with heroLife }.Passes b') (hs : b.status = .active)
    (hintent : intent = .endTurn ∨ intent = .rollDeathSave) (hdamage : creatureDamage facts = 0) :
    Change b facts b' intent := by
  obtain ⟨i, index, next, actorId, -, -, -, -, -, rfl⟩ := h
  have htimed : b.isTimed intent = false := by
    rcases hintent with rfl | rfl <;> rfl
  by_cases h0 : next = 0
  · rw [if_pos h0]
    exact .aged hintent hs rfl rfl rfl hdamage rfl
  · rw [if_neg h0]
    exact .kept htimed rfl (fun _ => rfl) rfl hdamage rfl

/-- **Each intent changes the timed effects in one of these ways.** -/
theorem Turns.change
    (h : b.Turns facts intent b') : Change b facts b' intent := by
  cases intent with
  | startEncounter =>
    obtain ⟨hready, hdamage, i, actorId, -, rfl⟩ := h
    exact .kept rfl rfl (fun hne => absurd hready hne) rfl hdamage rfl
  | move destination =>
    obtain ⟨hs, hdamage, ⟨hturn, hgrid, rfl⟩ | ⟨hturn, rfl⟩⟩ := h
    · exact .walked ⟨hs, hturn⟩ hgrid rfl rfl rfl hdamage rfl
    · refine .kept (decide_eq_false fun hhero => ?_) rfl (fun _ => rfl) rfl hdamage rfl
      exact canalWardenId_ne_sootWightId (Option.mem_unique hhero hturn)
  | attack attackId targetId =>
    obtain ⟨hs, ⟨-, hhurt⟩ | ⟨-, hdamage, hhurt⟩⟩ := h
    · exact hhurt.change hs rfl
    · exact .kept rfl hhurt.same.1 (fun _ => hhurt.same.2.1) hhurt.same.2.2.1 hdamage hhurt.same.2.2.2
  | castSpell spell targetId => exact h.2.change h.1.1 rfl
  | castLight objectId =>
    obtain ⟨hacts, hdamage, rfl⟩ := h
    exact .lit hacts rfl rfl rfl hdamage rfl
  | castMageHand anchorObjectId =>
    obtain ⟨hacts, hdamage, e, o, hand, he, ho, rfl, hfresh, rfl⟩ := h
    exact .created hacts he ho hfresh rfl rfl rfl hdamage rfl
  | controlMageHand objectId =>
    obtain ⟨hacts, hdamage, e, o, hand, he, ho, rfl, hhand, hrange, rfl⟩ := h
    exact .controlled hacts he ho hhand hrange rfl rfl rfl hdamage rfl
  | dismissMageHand =>
    obtain ⟨hacts, hdamage, hhand, rfl⟩ := h
    exact .dismissed hacts hhand rfl rfl rfl hdamage rfl
  | castSleep =>
    obtain ⟨hacts, hdamage, e, pool, affected, he, hawake, hfact, rfl⟩ := h
    split
    case isTrue hcovers => exact .slept hacts he hawake hfact hcovers rfl rfl rfl hdamage rfl
    case isFalse => exact .kept rfl rfl (fun _ => rfl) rfl hdamage rfl
  | castShield | declineReaction =>
    obtain ⟨-, -, hdamage, hhurt⟩ := h
    exact .kept rfl hhurt.same.1 (fun _ => hhurt.same.2.1) hhurt.same.2.2.1 hdamage hhurt.same.2.2.2
  | contextAction _ | secondWind | actionSurge =>
    obtain ⟨-, hdamage, rfl⟩ := h
    exact .kept rfl rfl (fun _ => rfl) rfl hdamage rfl
  | beginShortRest =>
    obtain ⟨hover, hdamage, heroLife, rfl⟩ := h
    exact .rested (.inl rfl) hover rfl rfl rfl hdamage rfl
  | takeLongRest =>
    obtain ⟨hover, hdamage, heroLife, rfl⟩ := h
    exact .rested (.inr rfl) hover rfl rfl rfl hdamage rfl
  | spendHitDie | useArcaneRecovery | finishShortRest =>
    obtain ⟨-, hdamage, heroLife, rfl⟩ := h
    exact .kept rfl rfl (fun _ => rfl) rfl hdamage rfl
  | endTurn =>
    obtain ⟨hs, hdamage, hpasses⟩ := h
    have hpasses' : { b with heroLife := b.heroLife }.Passes b' := hpasses
    exact hpasses'.change hs (.inl rfl) hdamage
  | rollDeathSave =>
    obtain ⟨hacts, -, hdamage, hhurt | ⟨heroLife, hpasses⟩⟩ := h
    · exact .kept rfl hhurt.same.1 (fun _ => hhurt.same.2.1) hhurt.same.2.2.1 hdamage hhurt.same.2.2.2
    · exact hpasses.change hacts.1 (.inr rfl) hdamage

end Dial

end ManchesterArcana.Encounter
