import ManchesterArcana.Encounter.Health
import ManchesterArcana.Encounter.Legal

/-!
# `Encounter.Turn` — turns, rounds, and what runs out with them

A turn starts with fresh resources. When the order wraps around a round has passed, and the timed effects of
the live runtime — light, the spectral hand, magical sleep — come one round closer to their end.
-/

namespace ManchesterArcana.Encounter

open Effect Rules

/-- How failures of the rules matrix surface in the encounter: only an impossible die keeps its cause. -/
def mapRulesResolutionError : RulesMatrixError → EncounterError
  | .core (.invalidDieRoll sides value) => .invalidRoll sides value
  | _ => .illegalIntent "the selected spell or class feature is unavailable in authoritative state"

namespace TurnResources

/-- The resources a turn starts with; a fighter's unspent Second Wind adds a bonus action. -/
def fresh (speedFeet : Nat) (rules : Option EncounterHeroRulesProfile) : EncounterResult TurnResources := do
  let economy ← match rules with
    | some rules => (grantSupportedBonusAction rules.runtimeResources (.new speedFeet)).mapError fun _ =>
        .invalidState "hero bonus-action resources are invalid"
    | none => .ok (.new speedFeet)
  return fromActionEconomy economy

end TurnResources

namespace EncounterState

/-- The combatant with an id. -/
def combatant (s : EncounterState) (id : String) : Option CombatantState :=
  if id = canalWardenId then some s.hero
  else if id = sootWightId then some s.creature
  else none

/-- Rewrite the live runtime, when there is one. -/
def mapLive (s : EncounterState) (f : EncounterLiveQ04State → EncounterLiveQ04State) : EncounterState :=
  { s with liveQ04 := s.liveQ04.map f }

/-- Wake the creature's condition up, if it is asleep. -/
def clearAsleep (s : EncounterState) : EncounterState :=
  { s with creature := { s.creature with
      statusEffects := s.creature.statusEffects.filter (· ≠ .magicallyAsleep) } }

end EncounterState

def setCurrentTurn (s : EncounterState) (index : Nat) : Rolling EncounterError EncounterState := do
  let actorId ← Prog.lift (okOr (s.initiative.bind (·.order[index]?))
    (.invalidState "current actor index is outside initiative order"))
  let actor ← Prog.lift (okOr (s.combatant actorId)
    (.invalidState "initiative actor is not a participant"))
  let index ← Prog.expect (if index ≤ maxU8 then some index else none) "two initiative entries fit u8"
  let resources ← Prog.lift
    (TurnResources.fresh actor.speedFeet (if actorId = canalWardenId then s.heroRules else none))
  let next := { s with
    currentActorIndex := some index
    currentActorId := some actorId
    turnResources := some resources }
  if s.schemaVersion = encounterSchemaVersion ∧ actorId = canalWardenId then do
    let live ← Prog.expect s.liveQ04 "schema-v3 state has live Q04 state"
    return { next with liveQ04 := some { live with heroReactionAvailable := true, shieldWard := none } }
  else return next

/-! ## Rounds -/

/-- One round less of light. -/
def EncounterObjectState.ageLight (o : EncounterObjectState) : EncounterObjectState :=
  match o.lightRemainingRounds with
  | some rounds => { o with lightRemainingRounds := if rounds = 1 then none else some (rounds - 1) }
  | none => o

/-- The objects whose light goes out this round. -/
def expiringLights (objects : List EncounterObjectState) : List EncounterFact :=
  (objects.filter (·.lightRemainingRounds = some 1)).map fun o => .lightExpired o.objectId

/-- The hand, its position, and what is recorded about it after one round. -/
def ageHand (live : EncounterLiveQ04State) :
    EncounterResult (Option MageHandState × Option Nat × List EncounterFact) :=
  match live.mageHand with
  | some hand => do
    let (expired, next) ← (advanceMageHandDuration (some hand)).mapError fun e =>
      mapRulesResolutionError e.1
    return if expired then (next, none, [.mageHandExpired mageHandId])
      else (next, live.mageHandPositionFeet, [])
  | none => .ok (none, live.mageHandPositionFeet, [])

def advanceLiveQ04Round (d : Draft) : Rolling EncounterError Draft := do
  if d.state.schemaVersion ≠ encounterSchemaVersion then return d
  let live ← Prog.expect d.state.liveQ04 "schema-v3 state has live Q04 state"
  let (mageHand, mageHandPositionFeet, handFacts) ← Prog.lift (ageHand live)
  let aged := { live with objects := live.objects.map (·.ageLight), mageHand, mageHandPositionFeet }
  let facts := d.facts ++ handFacts ++ expiringLights live.objects
  match live.sleep with
  | some sleep =>
    if sleep.remainingRounds = 1 then
      return { d with
        state := { d.state.clearAsleep with liveQ04 := some { aged with sleep := none } }
        facts := facts ++ [.sleepEnded sleep.targetId .durationExpired] }
    else
      return { d with
        state := { d.state with
          liveQ04 := some { aged with
            sleep := some { sleep with remainingRounds := sleep.remainingRounds - 1 } } }
        facts }
  | none => return { d with state := { d.state with liveQ04 := some aged }, facts }

/-- When the order wraps around, a round has passed. -/
def passRound (d : Draft) (nextIndex : Nat) : Rolling EncounterError Draft := do
  if nextIndex ≠ 0 then return d
  Prog.reject (d.state.round ≥ maxU32) .roundOverflow
  advanceLiveQ04Round (d.update fun s => { s with round := s.round + 1 })

def advanceTurn (d : Draft) : Rolling EncounterError Draft := do
  let initiative ← Prog.lift (okOr d.state.initiative
    (.invalidState "cannot advance a turn without initiative"))
  let oldIndex ← Prog.lift (okOr d.state.currentActorIndex
    (.invalidState "cannot advance a turn without a current actor"))
  let endedActorId ← Prog.lift (okOr d.state.currentActorId
    (.invalidState "cannot advance a turn without a current actor"))
  Prog.expect (if initiative.order.length = 0 then none else some ()) "remainder by zero"
  let nextIndex := (oldIndex + 1) % initiative.order.length
  let d ← passRound d nextIndex
  let state ← setCurrentTurn d.state nextIndex
  let nextActorId ← Prog.expect state.currentActorId "new current actor was set"
  return ({ d with state }).push (.turnEnded endedActorId nextActorId state.round)

/-! ## What the passing of a turn leaves alone -/

/-- Only what belongs to turns, rounds and timed effects differs. -/
def TurnPassed (s s' : EncounterState) : Prop :=
  s' = { s with
    creature := { s.creature with statusEffects := s'.creature.statusEffects }
    round := s'.round
    currentActorIndex := s'.currentActorIndex
    currentActorId := s'.currentActorId
    turnResources := s'.turnResources
    liveQ04 := s'.liveQ04 }

namespace TurnPassed

theorem refl (s : EncounterState) : TurnPassed s s := rfl

variable {s s' : EncounterState}

theorem trans {s'' : EncounterState} (h : TurnPassed s s') (h' : TurnPassed s' s'') :
    TurnPassed s s'' := by
  unfold TurnPassed at h h' ⊢
  rw [h', h]

theorem hero (h : TurnPassed s s') : s'.hero = s.hero := by
  rw [h]

theorem frame (h : TurnPassed s s') : Frame s s' := by
  unfold Frame
  rw [h]
  rfl

end TurnPassed

variable {t : List (Nat × Nat)} {d d' : Draft}

theorem setCurrentTurn_returns {s s' : EncounterState} {index : Nat}
    (h : Prog.Returns (setCurrentTurn s index) t s') : t = [] ∧ TurnPassed s s' := by
  simp only [setCurrentTurn, Prog.returns_lift_bind, Prog.returns_expect_bind, okOr_eq_ok] at h
  obtain ⟨actorId, -, actor, -, index, -, resources, -, h⟩ := h
  split at h
  · simp only [Prog.returns_expect_bind, Prog.pure_eq, Prog.returns_ok] at h
    obtain ⟨live, -, rfl, rfl⟩ := h
    exact ⟨rfl, rfl⟩
  · obtain ⟨rfl, rfl⟩ := h.of_ok
    exact ⟨rfl, rfl⟩

theorem advanceLiveQ04Round_returns
    (h : Prog.Returns (advanceLiveQ04Round d) t d') :
    t = [] ∧ d'.rolls = d.rolls ∧ TurnPassed d.state d'.state := by
  unfold advanceLiveQ04Round at h
  split at h
  · obtain ⟨rfl, rfl⟩ := h.of_ok
    exact ⟨rfl, rfl, .refl _⟩
  · simp only [Prog.returns_lift_bind, Prog.returns_expect_bind] at h
    obtain ⟨live, -, aged, -, h⟩ := h
    split at h
    · split at h <;>
      · obtain ⟨rfl, rfl⟩ := h.of_ok
        exact ⟨rfl, rfl, rfl⟩
    · obtain ⟨rfl, rfl⟩ := h.of_ok
      exact ⟨rfl, rfl, rfl⟩

theorem passRound_returns {nextIndex : Nat}
    (h : Prog.Returns (passRound d nextIndex) t d') :
    t = [] ∧ d'.rolls = d.rolls ∧ TurnPassed d.state d'.state := by
  unfold passRound at h
  split at h
  · obtain ⟨rfl, rfl⟩ := h.of_ok
    exact ⟨rfl, rfl, .refl _⟩
  · obtain ⟨-, h⟩ := h.reject
    obtain ⟨rfl, hrolls, hpassed⟩ := advanceLiveQ04Round_returns h
    have hround : TurnPassed d.state { d.state with round := d.state.round + 1 } := rfl
    exact ⟨rfl, hrolls, hround.trans hpassed⟩

/-- **Passing the turn touches neither combatants' health nor the rolls.** -/
theorem advanceTurn_returns (h : Prog.Returns (advanceTurn d) t d') :
    t = [] ∧ d'.rolls = d.rolls ∧ TurnPassed d.state d'.state := by
  simp only [advanceTurn, Prog.returns_lift_bind, Prog.returns_expect_bind] at h
  obtain ⟨initiative, -, oldIndex, -, endedActorId, -, -, -, h⟩ := h
  obtain ⟨t₁, t₂, passed, rfl, hpass, hrest⟩ := h.bind
  obtain ⟨rfl, hrolls, hp⟩ := passRound_returns hpass
  obtain ⟨t₃, t₄, state, rfl, hset, hlast⟩ := hrest.bind
  obtain ⟨rfl, hs⟩ := setCurrentTurn_returns hset
  obtain ⟨nextActorId, -, hlast⟩ := hlast.expect
  obtain ⟨rfl, rfl⟩ := hlast.of_ok
  exact ⟨rfl, hrolls, hp.trans hs⟩

end ManchesterArcana.Encounter
