import ManchesterArcana.Encounter.Boundary
import ManchesterArcana.Rules.Spending

/-!
# `Encounter.Books` — the accounts of an encounter

`Books` is what the encounter has to account for: whose turn it is and what is left of it, the hero's pools,
the reaction and the hit that waits for it, the campaign clock, how the encounter ended, and the health of
both sides. Everything else a state carries is left out. `Books.Posts` says for each intent how the accounts
change; nothing in it mentions dice, guards or drafts. That every resolver posts so is shown in
`Encounter.Posting`.
-/

namespace ManchesterArcana.Encounter

open Effect Rules

/-- The accounts of the live runtime. -/
structure LiveBooks where
  reaction : Bool
  ward : Option ShieldWardState
  pending : Option PendingAttackReaction
  clock : Nat
  longRest : Option Nat
  rest : Option ShortRestState

structure Books where
  status : EncounterStatus
  reward : RewardEligibility
  transition : Option ExplorationTransition
  turn : Option String
  resources : Option TurnResources
  pools : Option RuntimeResources
  live : Option LiveBooks
  heroPosition : Nat
  creaturePosition : Nat
  heroHitPoints : HitPoints
  heroLife : LifeStatus
  creatureHitPoints : Nat

def EncounterLiveQ04State.books (live : EncounterLiveQ04State) : LiveBooks where
  reaction := live.heroReactionAvailable
  ward := live.shieldWard
  pending := live.pendingAttackReaction
  clock := live.campaignTimeMinutes
  longRest := live.lastLongRestCompletedAtCampaignMinute
  rest := live.activeShortRest

/-- The accounts of a state. -/
def EncounterState.books (s : EncounterState) : Books where
  status := s.status
  reward := s.rewardEligibility
  transition := s.transition
  turn := s.currentActorId
  resources := s.turnResources
  pools := s.heroRules.map (·.runtimeResources)
  live := s.liveQ04.map (·.books)
  heroPosition := s.hero.positionFeet
  creaturePosition := s.creature.positionFeet
  heroHitPoints := s.hero.hitPoints
  heroLife := s.hero.lifeStatus
  creatureHitPoints := s.creature.hitPoints.current

namespace Books

/-! ## Entries -/

/-- The hit that waits for the hero. -/
def pending (b : Books) : Option PendingAttackReaction := b.live.bind (·.pending)

/-- The ward that is up. -/
def ward (b : Books) : Option ShieldWardState := b.live.bind (·.ward)

/-- Whether the hero's reaction is left. -/
def reaction (b : Books) : Bool := b.live.any (·.reaction)

/-- The campaign clock; without live runtime it stands still. -/
def clock (b : Books) : Nat := (b.live.map (·.clock)).getD 0

/-- The turn of `actorId` begins; the hero's turn brings the reaction back and takes the ward down. -/
def takeTurn (b : Books) (actorId : String) (resources : TurnResources) : Books :=
  { b with
    turn := some actorId
    resources := some resources
    live := if actorId = canalWardenId then b.live.map fun l => { l with reaction := true, ward := none }
      else b.live }

/-- The encounter is over. -/
def closed (b : Books) (status : EncounterStatus) (reward : RewardEligibility) (t : ExplorationTransition) :
    Books :=
  { b with status, reward, transition := some t, turn := none, resources := none }

/-- The encounter goes on, or the creature was destroyed. -/
def MayPrevail (b b' : Books) : Prop :=
  b' = b ∨ ∃ t, b' = b.closed .victory (.eligible .major) t

/-- The encounter goes on, or the hero was defeated. -/
def MayFall (b b' : Books) : Prop :=
  b' = b ∨ ∃ t, b' = b.closed .defeat (.ineligible .encounterDefeat) t

/-- The action of the turn is spent, and the pools pay for `spell`. -/
def Pays (b b' : Books) (spell : SpellId) : Prop :=
  b.turn = some canalWardenId ∧ ∃ r pools, b.resources = some r ∧ r.actionAvailable = true ∧
    b.pools = some pools ∧ pools.Affords spell ∧
    b' = { b with
      resources := some { r with actionAvailable := false }
      pools := some (pools.payFor spell) }

/-- The action of the turn is spent. -/
def SpendsAction (b b' : Books) : Prop :=
  ∃ r, b.resources = some r ∧ r.actionAvailable = true ∧
    b' = { b with resources := some { r with actionAvailable := false } }

/-- The turn goes to the other participant. -/
def Passes (b b' : Books) : Prop :=
  ∃ actorId resources, b.turn ≠ some actorId ∧
    (actorId = canalWardenId ∨ actorId = sootWightId) ∧ b' = b.takeTurn actorId resources

/-- The hero's health changes, and the encounter may end. -/
def HeroHealthChanges (b b' : Books) : Prop :=
  ∃ hitPoints life, { b with heroHitPoints := hitPoints, heroLife := life }.MayFall b'

/-- The creature's health changes, and the encounter may end. -/
def CreatureHealthChanges (b b' : Books) : Prop :=
  ∃ hitPoints, { b with creatureHitPoints := hitPoints }.MayPrevail b'

/-- The hero's health and pools, the transition and the live runtime after part of a rest. -/
def rested (b : Books) (pools : RuntimeResources) (hitPoints : HitPoints) (life : LifeStatus)
    (transition : Option ExplorationTransition) (live : LiveBooks) : Books :=
  { b with
    pools := some pools
    heroHitPoints := hitPoints
    heroLife := life
    transition
    live := some live }

/-- The same ending, but for the hero's health in it. -/
def SameEnding (t t' : Option ExplorationTransition) : Prop :=
  t' = t ∨ ∃ ending hitPoints life, t = some ending ∧
    t' = some { ending with heroCurrentHitPoints := hitPoints, heroLifeStatus := life }

/-! ## What each intent posts -/

/-- A hit of the creature starts to wait for the hero. -/
def Suspends (b b' : Books) : Prop :=
  ∃ live p, b.live = some live ∧ live.pending = none ∧ b.turn = some sootWightId ∧
    b' = { b with live := some { live with pending := some p } }

/-- The waiting hit is answered by a Shield: the ward goes up and the reaction and a slot are spent. -/
def Shields (b b' : Books) : Prop :=
  ∃ live pools p w, b.live = some live ∧ live.pending = some p ∧ live.reaction = true ∧
    b.pools = some pools ∧ 0 < heldIn pools.levelOneSpellSlots ∧
    b' = { b with
      pools := some pools.drawSlot
      live := some { live with pending := none, reaction := false, ward := some w } }

/-- An ended encounter has no ward. -/
def dropWard (b : Books) : Books := { b with live := b.live.map fun l => { l with ward := none } }

/-- **How an intent changes the accounts.** -/
def Posts (b : Books) : EncounterIntent → Books → Prop
  | .startEncounter, b' => b.status = .ready ∧ ∃ actorId resources,
      b' = { b with status := .active }.takeTurn actorId resources
  | .move _, b' => b.status = .active ∧ ∃ r feet position, b.resources = some r ∧
      feet ≤ r.movementRemainingFeet ∧
      ((b.turn = some canalWardenId ∧ feet = distance b.heroPosition position ∧
          b' = { b with
            resources := some { r with movementRemainingFeet := r.movementRemainingFeet - feet }
            heroPosition := position }) ∨
        (b.turn = some sootWightId ∧ feet = distance b.creaturePosition position ∧
          b' = { b with
            resources := some { r with movementRemainingFeet := r.movementRemainingFeet - feet }
            creaturePosition := position }))
  | .attack _ _, b' => b.status = .active ∧ ∃ spent, b.SpendsAction spent ∧
      (b' = spent ∨ spent.Suspends b' ∨ spent.HeroHealthChanges b' ∨ spent.CreatureHealthChanges b')
  | .contextAction _, b' => b.status = .active ∧ ∃ r, b.resources = some r ∧
      b' = { b with resources := some { r with objectInteractionAvailable := false } }
  | .castSpell spell _, b' => b.status = .active ∧ ∃ paid, b.Pays paid spell ∧
      (b' = paid ∨ paid.CreatureHealthChanges b')
  | .castLight _, b' => b.status = .active ∧ b.Pays b' .light
  | .castMageHand _, b' => b.status = .active ∧ b.Pays b' .mageHand
  | .controlMageHand _, b' => b.status = .active ∧ b.turn = some canalWardenId ∧ b.SpendsAction b'
  | .dismissMageHand, b' => b.status = .active ∧ b.turn = some canalWardenId ∧ b.SpendsAction b'
  | .castSleep, b' => b.status = .active ∧ b.Pays b' .sleep
  | .castShield, b' => b.status = .active ∧ ∃ warded, b.Shields warded ∧
      (b' = warded ∨ ∃ struck, warded.HeroHealthChanges struck ∧ (b' = struck ∨ b' = struck.dropWard))
  | .declineReaction, b' => b.status = .active ∧ ∃ live p, b.live = some live ∧ live.pending = some p ∧
      { b with live := some { live with pending := none } }.HeroHealthChanges b'
  | .secondWind, b' => b.status = .active ∧ b.turn = some canalWardenId ∧
      ∃ r pools hitPoints, b.resources = some r ∧ b.pools = some pools ∧ 0 < heldIn pools.secondWind ∧
        b' = { b with
          resources := some { r with bonusActionAvailable := false }
          pools := some { pools with secondWind := pools.secondWind.map .draw }
          heroHitPoints := hitPoints }
  | .actionSurge, b' => b.status = .active ∧ b.turn = some canalWardenId ∧
      ∃ r pools, b.resources = some r ∧ r.actionAvailable = false ∧ b.pools = some pools ∧
        0 < heldIn pools.actionSurge ∧
        b' = { b with
          resources := some { r with actionAvailable := true }
          pools := some { pools with actionSurge := pools.actionSurge.map .draw } }
  | .beginShortRest, b' => ∃ live pools hitPoints life rest, b.live = some live ∧ live.rest = none ∧
      b.pools = some pools ∧
      b' = b.rested pools hitPoints life b.transition
        { live with clock := live.clock + shortRestMinutes, rest := some rest }
  | .spendHitDie, b' => ∃ live pools hitPoints life transition rest rest', b.live = some live ∧
      live.rest = some rest ∧ b.pools = some pools ∧ 0 < pools.hitDice.current ∧
      SameEnding b.transition transition ∧
      b' = b.rested { pools with hitDice := pools.hitDice.draw } hitPoints life transition
        { live with rest := some rest' }
  | .useArcaneRecovery, b' => ∃ live pools rest rest', b.live = some live ∧ live.rest = some rest ∧
      b.pools = some pools ∧ 0 < heldIn pools.arcaneRecovery ∧ pools.levelOneSpellSlots ≠ none ∧
      b' = b.rested pools.recoverSlot b.heroHitPoints b.heroLife b.transition
        { live with rest := some rest' }
  | .finishShortRest, b' => ∃ live pools hitPoints life transition rest, b.live = some live ∧
      live.rest = some rest ∧ b.pools = some pools ∧ SameEnding b.transition transition ∧
      b' = b.rested pools.afterShortRest hitPoints life transition { live with rest := none }
  | .takeLongRest, b' => ∃ live pools hitPoints life transition, b.live = some live ∧ live.rest = none ∧
      (∀ last ∈ live.longRest, last + 24 * 60 ≤ live.clock) ∧ b.pools = some pools ∧
      SameEnding b.transition transition ∧
      b' = b.rested pools.afterLongRest hitPoints life transition
        { live with
          clock := live.clock + longRestMinutes
          longRest := some (live.clock + longRestMinutes) }
  | .endTurn, b' => b.status = .active ∧ b.Passes b'
  | .rollDeathSave, b' => b.status = .active ∧ b.turn = some canalWardenId ∧
      (b.HeroHealthChanges b' ∨
        ∃ hitPoints life, { b with heroHitPoints := hitPoints, heroLife := life }.Passes b')

/-! ## What an entry leaves alone -/

/-- Pools, live runtime and positions are as before, and the turn goes on unless the encounter is over. -/
structure Kept (b b' : Books) : Prop where
  pools : b'.pools = b.pools
  live : b'.live = b.live
  heroPosition : b'.heroPosition = b.heroPosition
  creaturePosition : b'.creaturePosition = b.creaturePosition
  turn : (b'.turn = b.turn ∧ b'.resources = b.resources) ∨ b'.turn = none

theorem HeroHealthChanges.kept {b b' : Books} (h : b.HeroHealthChanges b') : b.Kept b' := by
  obtain ⟨hitPoints, life, rfl | ⟨t, rfl⟩⟩ := h
  · exact ⟨rfl, rfl, rfl, rfl, .inl ⟨rfl, rfl⟩⟩
  · exact ⟨rfl, rfl, rfl, rfl, .inr rfl⟩

theorem CreatureHealthChanges.kept {b b' : Books} (h : b.CreatureHealthChanges b') : b.Kept b' := by
  obtain ⟨hitPoints, rfl | ⟨t, rfl⟩⟩ := h
  · exact ⟨rfl, rfl, rfl, rfl, .inl ⟨rfl, rfl⟩⟩
  · exact ⟨rfl, rfl, rfl, rfl, .inr rfl⟩

/-- The clock, and the minute the last long rest ended. -/
def calendar (b : Books) : Option (Nat × Option Nat) := b.live.map fun l => (l.clock, l.longRest)

theorem takeTurn_calendar (b : Books) (actorId : String) (resources : TurnResources) :
    (b.takeTurn actorId resources).calendar = b.calendar := by
  unfold takeTurn calendar
  dsimp only
  split
  · cases b.live <;> rfl
  · rfl

end Books

end ManchesterArcana.Encounter
