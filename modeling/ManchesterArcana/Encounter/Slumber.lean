import ManchesterArcana.Encounter.Suspension
import ManchesterArcana.Encounter.Turning

/-!
# `Encounter.Slumber` — the creature under a Sleep

The sleep of the creature is kept twice, as a record with its rounds and as an effect on the creature. The two
never part. A Sleep whose pool covers the creature's hit points puts the record there, and damage, the last of
its rounds or a rest takes it away. The resolvers of a move and of an attack do not ask for it, so a sleeping
creature that is told to move or to attack does so (`Stirs`); in a history where it is never told to, it lies
still for as long as it sleeps.
-/

namespace ManchesterArcana.Encounter

open Effect Rules

/-- The resolution of a command, with the dice it was answered with. -/
def Resolves (s : EncounterState) (a : Turned) (r : EncounterResolution) : Prop :=
  Prog.Returns (resolveEncounter s a.1) a.2 r

namespace Resolves

variable {s : EncounterState} {a : Turned} {r : EncounterResolution}

theorem step (h : Resolves s a r) : EncounterStep s a r.state := ⟨r, h, rfl⟩

/-- **A resolution turns the dial**, by what it records. -/
theorem turns (h : Resolves s a r) : s.dial.Turns r.facts a.1.intent r.state.dial := by
  obtain ⟨henv, n, d, hintent, hseal⟩ := resolveEncounter_returns.mp h
  obtain ⟨-, -, hstate, -, hfacts, -⟩ := sealResolution_eq_ok hseal
  rw [hstate, hfacts]
  exact resolveIntent_turns henv.state hintent

end Resolves

/-! ## The record and the effect -/

namespace EncounterState

variable {s : EncounterState}

/-- The record of the creature's magical sleep. -/
def sleepRecord (s : EncounterState) : Option EncounterSleepState := s.liveQ04.bind (·.sleep)

theorem dial_sleep : s.dial.sleep = s.sleepRecord := by
  unfold Dial.sleep EncounterState.sleepRecord EncounterState.dial
  cases s.liveQ04 <;> rfl

theorem Valid.sleep_of_record (hv : s.Valid) {sleep : EncounterSleepState} (h : s.sleepRecord = some sleep) :
    s.schemaVersion = encounterSchemaVersion ∧ SleepValid s sleep := by
  obtain ⟨live, hlive, hsleep⟩ := Option.bind_eq_some_iff.mp h
  refine ⟨?_, (hv.live_of_mem (Option.mem_def.mpr hlive)).sleep sleep hsleep⟩
  by_contra h3
  rw [hv.noLive h3] at hlive
  cases hlive

/-- Under the live schema the record and the effect go together. -/
theorem Valid.record_iff_asleep (hv : s.Valid) (h3 : s.schemaVersion = encounterSchemaVersion) :
    s.sleepRecord ≠ none ↔ s.creatureAsleep = true := by
  obtain ⟨live, hlive, hvalid⟩ := hv.live h3
  have hrecord : s.sleepRecord = live.sleep := by
    unfold sleepRecord
    rw [hlive]
    rfl
  rw [hrecord]
  constructor
  · intro hne
    obtain ⟨sleep, hsleep⟩ := Option.ne_none_iff_exists'.mp hne
    exact (hvalid.sleep sleep hsleep).asleep
  · intro hasleep hnone
    rw [hvalid.awake hnone] at hasleep
    cases hasleep

/-- A creature that sleeps has not been destroyed. -/
theorem Valid.not_victory_of_record (hv : s.Valid) (h : s.sleepRecord ≠ none) : s.status ≠ .victory := by
  obtain ⟨sleep, hsleep⟩ := Option.ne_none_iff_exists'.mp h
  obtain ⟨-, hvalid⟩ := hv.sleep_of_record hsleep
  intro hvictory
  have hphase := hv.phase
  unfold PhaseValid at hphase
  rw [hvictory] at hphase
  obtain ⟨t, -, ht⟩ := hphase
  exact absurd (ht.creatureLife.symm.trans hvalid.conscious) nofun

end EncounterState

/-! ## One intent over a sleep -/

namespace Dial

variable {b b' : Dial} {facts : List EncounterFact} {intent : EncounterIntent}

/-- The creature is told to move or to attack. -/
def Stirs (b : Dial) (intent : EncounterIntent) : Prop :=
  b.turn = some sootWightId ∧
    ((∃ destination, intent = .move destination) ∨ ∃ attackId targetId, intent = .attack attackId targetId)

variable {damage : Nat} {e : TimedEffects}

theorem CreatureHurt.status (h : b.CreatureHurt b' damage) (hs : b.status = .active) :
    b'.status = .active ∨ b'.status = .victory := by
  obtain ⟨hitPoints, h⟩ := h
  have hwake : b.wake.status = .active := hs
  by_cases h0 : damage = 0
  · rw [if_pos h0] at h
    rcases h with rfl | rfl
    · exact .inl hs
    · exact .inr rfl
  · rw [if_neg h0] at h
    rcases h with rfl | rfl
    · exact .inl hwake
    · exact .inr rfl

theorem CreatureHurt.same (h : b.CreatureHurt b' damage) :
    b'.heroLife = b.heroLife ∧ b'.creaturePosition = b.creaturePosition ∧
      (b'.turn = b.turn ∨ b'.turn = none) := by
  obtain ⟨hitPoints, h⟩ := h
  by_cases h0 : damage = 0
  · rw [if_pos h0] at h
    rcases h with rfl | rfl
    · exact ⟨rfl, rfl, .inl rfl⟩
    · exact ⟨rfl, rfl, .inr rfl⟩
  · rw [if_neg h0] at h
    rcases h with rfl | rfl
    · exact ⟨rfl, rfl, .inl rfl⟩
    · exact ⟨rfl, rfl, .inr rfl⟩

theorem Passes.same (h : b.Passes b') : b'.status = b.status ∧ b'.heroLife = b.heroLife ∧
    b'.creaturePosition = b.creaturePosition := by
  obtain ⟨i, index, next, actorId, -, -, -, -, -, rfl⟩ := h
  by_cases h0 : next = 0
  · rw [if_pos h0]
    exact ⟨rfl, rfl, rfl⟩
  · rw [if_neg h0]
    exact ⟨rfl, rfl, rfl⟩

/-- What becomes of a fight with a conscious hero in which the creature is left alone. -/
structure Calm (b : Dial) (intent : EncounterIntent) (b' : Dial) : Prop where
  status : b'.status = .active ∨ b'.status = .victory
  heroLife : b'.heroLife = .conscious
  creaturePosition : b'.creaturePosition = b.creaturePosition
  creatureTurn : b.turn = some sootWightId → intent = .endTurn
  heroTurn : b.turn = some canalWardenId → (∃ attackId targetId, intent = .attack attackId targetId) →
    b'.turn ≠ some sootWightId

/-- An intent of the hero's turn that changes nothing but the effects. -/
theorem HeroActs.calm (h : b.HeroActs) (hlife : b.heroLife = .conscious) {effects : Option TimedEffects}
    {asleep : Bool} {heroPosition : Nat} :
    b.Calm intent { b with effects, asleep, heroPosition } where
  status := .inl h.1
  heroLife := hlife
  creaturePosition := rfl
  creatureTurn hturn := absurd (h.2.symm.trans hturn) fun heq => canalWardenId_ne_sootWightId (Option.some.inj heq)
  heroTurn hturn _ heq := canalWardenId_ne_sootWightId (Option.mem_unique hturn heq)

/-- An intent of the hero's turn at the expense of the creature. -/
theorem CreatureHurt.calm (h : b.CreatureHurt b' damage) (hs : b.status = .active)
    (hturn : b.turn = some canalWardenId) (hlife : b.heroLife = .conscious) : b.Calm intent b' where
  status := h.status hs
  heroLife := h.same.1.trans hlife
  creaturePosition := h.same.2.1
  creatureTurn hwight :=
    absurd (hturn.symm.trans hwight) fun heq => canalWardenId_ne_sootWightId (Option.some.inj heq)
  heroTurn _ _ heq := by
    rcases h.same.2.2 with hsame | hnone
    · rw [hsame, hturn] at heq
      exact canalWardenId_ne_sootWightId (Option.some.inj heq)
    · rw [hnone] at heq
      cases heq

/-- **A conscious hero before a creature that is left alone** stays conscious, the encounter ends in victory at
    most, and on the creature's turn only its end goes through. -/
theorem Turns.calm (h : b.Turns facts intent b') (hs : b.status = .active) (hlife : b.heroLife = .conscious)
    (hanswer : intent.isAnswer = false) (hstirs : ¬ b.Stirs intent) : b.Calm intent b' := by
  have hover {P : Prop} (hne : b.status ≠ .active) : P := absurd hs hne
  cases intent with
  | startEncounter => exact absurd (h.1.symm.trans hs) nofun
  | move destination =>
    obtain ⟨-, -, ⟨hturn, -, rfl⟩ | ⟨hturn, -⟩⟩ := h
    · exact HeroActs.calm ⟨hs, hturn⟩ hlife
    · exact absurd ⟨hturn, .inl ⟨_, rfl⟩⟩ hstirs
  | attack attackId targetId =>
    obtain ⟨-, ⟨hturn, hhurt⟩ | ⟨hturn, -⟩⟩ := h
    · exact hhurt.calm hs hturn hlife
    · exact absurd ⟨hturn, .inr ⟨_, _, rfl⟩⟩ hstirs
  | castSpell spell targetId => exact h.2.calm h.1.1 h.1.2 hlife
  | castLight objectId =>
    obtain ⟨hacts, -, rfl⟩ := h
    exact hacts.calm hlife
  | castMageHand anchorObjectId =>
    obtain ⟨hacts, -, e, o, hand, -, -, -, -, rfl⟩ := h
    exact hacts.calm hlife
  | controlMageHand objectId =>
    obtain ⟨hacts, -, e, o, hand, -, -, -, -, -, rfl⟩ := h
    exact hacts.calm hlife
  | dismissMageHand =>
    obtain ⟨hacts, -, -, rfl⟩ := h
    exact hacts.calm hlife
  | castSleep =>
    obtain ⟨hacts, -, e, pool, affected, -, -, -, rfl⟩ := h
    split
    · exact hacts.calm hlife
    · exact hacts.calm hlife
  | castShield | declineReaction => cases hanswer
  | contextAction _ | secondWind | actionSurge =>
    obtain ⟨hacts, -, rfl⟩ := h
    exact hacts.calm hlife
  | beginShortRest | takeLongRest | spendHitDie | useArcaneRecovery | finishShortRest => exact hover h.1
  | endTurn =>
    obtain ⟨-, -, hpasses⟩ := h
    obtain ⟨hstatus, hsame, hposition⟩ := hpasses.same
    exact ⟨.inl (hstatus.trans hs), hsame.trans hlife, hposition, fun _ => rfl,
      fun _ ⟨_, _, hattack⟩ => nomatch hattack⟩
  | rollDeathSave => exact absurd (hlife.symm.trans h.2.1) nofun

/-! ### The record -/

/-- What becomes of a record of sleep. -/
inductive SleepChange (b : Dial) (facts : List EncounterFact) (b' : Dial) : EncounterIntent → Prop where
  | kept {intent : EncounterIntent} (sleep : b'.sleep = b.sleep) (round : b.status ≠ .ready → b'.round = b.round)
      (harmless : creatureDamage facts = 0) : SleepChange b facts b' intent
  | woken {intent : EncounterIntent} (sleep : b'.sleep = none) (round : b'.round = b.round)
      (hurt : creatureDamage facts ≠ 0) : SleepChange b facts b' intent
  | slept {pool : Nat} {affected : List String} (acts : b.HeroActs) (awake : b.sleep = none)
      (recorded : .sleepResolved canalWardenId pool [sootWightId] affected 10 ∈ facts)
      (covers : b.creatureHitPoints ≤ pool) (sleep : b'.sleep = some ⟨sootWightId, 10⟩)
      (round : b'.round = b.round) (harmless : creatureDamage facts = 0) : SleepChange b facts b' .castSleep
  | rested {intent : EncounterIntent} (ended : b.status ≠ .active) (sleep : b'.sleep = none) :
      SleepChange b facts b' intent
  | aged {intent : EncounterIntent} (sleep : b'.sleep = b.sleep.bind (·.aged)) (round : b'.round = b.round + 1)
      (harmless : creatureDamage facts = 0) : SleepChange b facts b' intent

theorem sleep_of_effects {f : TimedEffects → TimedEffects} (h : b'.effects = b.effects.map f)
    (hf : ∀ e, (f e).sleep = e.sleep) : b'.sleep = b.sleep := by
  unfold sleep
  rw [h]
  cases b.effects with
  | none => rfl
  | some e => exact hf e

theorem sleep_of_some (h : b.effects = some e) : b.sleep = e.sleep := by
  unfold sleep
  rw [h]
  rfl

theorem follow_sleep {destination : Nat} : (e.follow destination).sleep = e.sleep := by
  unfold TimedEffects.follow
  split
  · rfl
  · split <;> rfl

/-- **What becomes of a record of sleep**: it stays, or damage, a Sleep, a rest or the end of a round changes
    it. -/
theorem Change.sleepChange (h : Change b facts b' intent) : SleepChange b facts b' intent := by
  cases h with
  | kept timed effects round position harmless =>
    refine .kept ?_ round harmless
    unfold sleep
    rw [effects]
  | walked acts grid effects round position harmless =>
    exact .kept (sleep_of_effects effects fun _ => follow_sleep) (fun _ => round) harmless
  | woken timed active effects round position hurt =>
    refine .woken ?_ round hurt
    unfold sleep
    rw [effects]
    cases b.effects <;> rfl
  | lit acts effects round position harmless =>
    exact .kept (sleep_of_effects effects fun _ => rfl) (fun _ => round) harmless
  | created acts before object fresh effects round position harmless =>
    exact .kept ((sleep_of_some effects).trans (sleep_of_some before).symm) (fun _ => round) harmless
  | controlled acts before object held range effects round position harmless =>
    exact .kept ((sleep_of_some effects).trans (sleep_of_some before).symm) (fun _ => round) harmless
  | dismissed acts held effects round position harmless =>
    exact .kept (sleep_of_effects effects fun _ => rfl) (fun _ => round) harmless
  | slept acts before awake recorded covers effects round position harmless =>
    exact .slept acts ((sleep_of_some before).trans awake) recorded covers (sleep_of_some effects) round harmless
  | rested rests ended effects round position harmless =>
    refine .rested ended ?_
    unfold sleep
    rw [effects]
    cases b.effects <;> rfl
  | aged passes active effects round position harmless =>
    refine .aged ?_ round harmless
    unfold sleep
    rw [effects]
    cases b.effects <;> rfl

/-- No intent sets up a live runtime. -/
theorem Change.effects_none (h : Change b facts b' intent) (hnone : b'.effects = none) : b.effects = none := by
  cases h with
  | kept timed effects => exact effects.symm.trans hnone
  | created acts before object fresh effects => exact absurd (hnone.symm.trans effects) nofun
  | controlled acts before object held range effects => exact absurd (hnone.symm.trans effects) nofun
  | slept acts before awake recorded covers effects => exact absurd (hnone.symm.trans effects) nofun
  | walked acts grid effects | woken timed active effects | lit acts effects | dismissed acts held effects
  | rested rests ended effects | aged passes active effects =>
    exact Option.map_eq_none_iff.mp (effects.symm.trans hnone)

/-- Without a live runtime nothing puts the creature to sleep. -/
theorem Turns.awake (h : b.Turns facts intent b') (hnone : b.effects = none) (hawake : b.asleep = false) :
    b'.asleep = false := by
  have hand {c : Bool} : (b.asleep && c) = false := by rw [hawake, Bool.false_and]
  have hhero (h : b.HeroHurt b') : b'.asleep = false := by
    obtain ⟨heroLife, rfl | rfl⟩ := h <;> exact hawake
  have hcreature {damage : Nat} (h : b.CreatureHurt b' damage) : b'.asleep = false := by
    obtain ⟨hitPoints, h⟩ := h
    by_cases h0 : damage = 0
    · rw [if_pos h0] at h
      rcases h with rfl | rfl <;> exact hawake
    · rw [if_neg h0] at h
      rcases h with rfl | rfl <;> exact hand
  have hpass {heroLife : LifeStatus} (h : { b with heroLife }.Passes b') : b'.asleep = false := by
    obtain ⟨i, index, next, actorId, -, -, -, -, -, rfl⟩ := h
    by_cases h0 : next = 0
    · rw [if_pos h0]
      exact hand
    · rw [if_neg h0]
      exact hawake
  cases intent with
  | startEncounter =>
    obtain ⟨-, -, i, actorId, -, rfl⟩ := h
    exact hawake
  | move destination =>
    obtain ⟨-, -, ⟨-, -, rfl⟩ | ⟨-, rfl⟩⟩ := h <;> exact hawake
  | attack attackId targetId =>
    obtain ⟨-, ⟨-, hhurt⟩ | ⟨-, -, hhurt⟩⟩ := h
    · exact hcreature hhurt
    · exact hhero hhurt
  | castSpell spell targetId => exact hcreature h.2
  | castLight objectId =>
    obtain ⟨-, -, rfl⟩ := h
    exact hawake
  | castMageHand anchorObjectId =>
    obtain ⟨-, -, e, o, hand, -, -, -, -, rfl⟩ := h
    exact hawake
  | controlMageHand objectId =>
    obtain ⟨-, -, e, o, hand, -, -, -, -, -, rfl⟩ := h
    exact hawake
  | dismissMageHand =>
    obtain ⟨-, -, -, rfl⟩ := h
    exact hawake
  | castSleep =>
    obtain ⟨-, -, e, pool, affected, he, -⟩ := h
    exact absurd (hnone.symm.trans he) nofun
  | castShield | declineReaction => exact hhero h.2.2.2
  | contextAction _ | secondWind | actionSurge =>
    obtain ⟨-, -, rfl⟩ := h
    exact hawake
  | beginShortRest | takeLongRest =>
    obtain ⟨-, -, heroLife, rfl⟩ := h
    exact hand
  | spendHitDie | useArcaneRecovery | finishShortRest =>
    obtain ⟨-, -, heroLife, rfl⟩ := h
    exact hawake
  | endTurn =>
    have hpasses : { b with heroLife := b.heroLife }.Passes b' := h.2.2
    exact hpass hpasses
  | rollDeathSave =>
    obtain ⟨-, -, -, hhurt | ⟨heroLife, hpasses⟩⟩ := h
    · exact hhero hhurt
    · exact hpass hpasses

end Dial

/-! ## A quiet history -/

/-- A sleeping creature is told to move or to attack on its own turn. -/
def StirsSleeper (s : EncounterState) (intent : EncounterIntent) : Prop :=
  s.creatureAsleep = true ∧ s.currentActorId = some sootWightId ∧
    ((∃ destination, intent = .move destination) ∨ ∃ attackId targetId, intent = .attack attackId targetId)

/-- A step in which no sleeping creature is stirred. -/
def QuietStep (s : EncounterState) (a : Turned) (s' : EncounterState) : Prop :=
  EncounterStep s a s' ∧ ¬ StirsSleeper s a.1.intent

/-- **The sleep kept in a state**: the record and the effect go together, and while they last the encounter goes
    on with a conscious hero and no hit of the creature waits. -/
structure SleepKept (s : EncounterState) : Prop where
  effect : s.sleepRecord ≠ none ↔ s.creatureAsleep = true
  active : s.sleepRecord ≠ none → s.status = .active
  conscious : s.sleepRecord ≠ none → s.hero.lifeStatus = .conscious
  unhit : s.sleepRecord ≠ none → s.pendingHit = none

/-- **What a resolution does to the sleep.** -/
structure SleepStep (s : EncounterState) (a : Turned) (r : EncounterResolution) : Prop where
  created : s.sleepRecord = none → r.state.sleepRecord ≠ none → a.1.intent = .castSleep ∧ ∃ pool affected,
    .sleepResolved canalWardenId pool [sootWightId] affected 10 ∈ r.facts ∧
      s.creature.hitPoints.current ≤ pool
  removed : ∀ sleep, s.sleepRecord = some sleep → (r.state.sleepRecord = none ↔
    1 ≤ creatureDamage r.facts ∨ (sleep.remainingRounds = 1 ∧ r.state.round = s.round + 1) ∨
      r.state.status ≠ .active ∨ a.1.intent = .beginShortRest ∨ a.1.intent = .takeLongRest)
  counted : ∀ sleep sleep', s.sleepRecord = some sleep → r.state.sleepRecord = some sleep' →
    sleep'.remainingRounds + r.state.round = sleep.remainingRounds + s.round
  still : s.sleepRecord ≠ none → r.state.creature.positionFeet = s.creature.positionFeet ∧
    r.state.pendingHit = none ∧ (s.currentActorId = some sootWightId → a.1.intent = .endTurn)

variable {s : EncounterState}

theorem NewEncounter.sleepKept (hnew : NewEncounter s) (hawake : s.creatureAsleep = false) :
    SleepKept s := by
  have hnone : s.sleepRecord = none := by
    by_contra hne
    obtain ⟨sleep, hsleep⟩ := Option.ne_none_iff_exists'.mp hne
    exact absurd (hawake.symm.trans (hnew.valid.sleep_of_record hsleep).2.asleep) nofun
  have hfalse : ¬ s.sleepRecord ≠ none := not_not.mpr hnone
  refine ⟨⟨fun h => absurd h hfalse, fun h => absurd (hawake.symm.trans h) nofun⟩, ?_, ?_, ?_⟩ <;>
    exact fun h => absurd h hfalse

namespace Resolves

variable {s : EncounterState} {a : Turned} {r : EncounterResolution}

/-- The record changes as the dial's sleep does. -/
theorem sleepChange (h : Resolves s a r) : s.dial.SleepChange r.facts r.state.dial a.1.intent :=
  h.turns.change.sleepChange

/-- While the creature sleeps and is left alone the fight is calm. -/
theorem calm (h : Resolves s a r) (hkept : SleepKept s) (hrecord : s.sleepRecord ≠ none)
    (hquiet : ¬ StirsSleeper s a.1.intent) : s.dial.Calm a.1.intent r.state.dial := by
  refine h.turns.calm (hkept.active hrecord) (hkept.conscious hrecord) ?_ fun hstirs =>
    hquiet ⟨hkept.effect.mp hrecord, hstirs⟩
  rw [← Bool.not_eq_true]
  intro hanswer
  obtain ⟨p, hp⟩ := h.step.answer_waits hanswer
  rw [hkept.unhit hrecord] at hp
  cases hp

/-- While the creature sleeps and is left alone no hit of it comes up. -/
theorem unhit (h : Resolves s a r) (hkept : SleepKept s) (hrecord : s.sleepRecord ≠ none)
    (hquiet : ¬ StirsSleeper s a.1.intent) : r.state.pendingHit = none := by
  have hv := h.step.valid
  cases hp : r.state.pendingHit with
  | none => rfl
  | some p =>
    have hattack := (h.step.opens (hkept.unhit hrecord) hp).attack
    obtain ⟨hwaits, -⟩ := h.step.valid_next.pending_of_hit hp
    have hturn := (h.step.valid_next.pending_turn hwaits).2
    rcases hv.turn_cases (hkept.active hrecord) with ⟨hhero, -⟩ | ⟨hwight, -⟩
    · exact absurd hturn ((h.calm hkept hrecord hquiet).heroTurn hhero hattack)
    · exact absurd ⟨hkept.effect.mp hrecord, hwight, .inr hattack⟩ hquiet

theorem sleepStep (h : Resolves s a r) (hkept : SleepKept s) (hquiet : ¬ StirsSleeper s a.1.intent) :
    SleepStep s a r := by
  have hchange := h.sleepChange
  refine ⟨?created, ?removed, ?counted, ?still⟩
  case created =>
    intro hnone hsome
    rw [← EncounterState.dial_sleep] at hnone hsome
    generalize hi : a.1.intent = intent at hchange
    cases hchange with
    | kept sleep => exact absurd (sleep.trans hnone) hsome
    | woken sleep => exact absurd sleep hsome
    | rested ended sleep => exact absurd sleep hsome
    | aged sleep =>
      rw [hnone] at sleep
      exact absurd sleep hsome
    | @slept pool affected acts awake recorded covers => exact ⟨rfl, pool, affected, recorded, covers⟩
  case removed =>
    intro sleep hrecord
    have hne : s.sleepRecord ≠ none := by
      rw [hrecord]
      exact nofun
    have hs := hkept.active hne
    have hcalm := h.calm hkept hne hquiet
    -- a record that is still there keeps the encounter going
    have hgoes (hstill : r.state.sleepRecord ≠ none) : r.state.status = .active :=
      hcalm.status.resolve_right (h.step.valid_next.not_victory_of_record hstill)
    have hnorest : ¬ (a.1.intent = .beginShortRest ∨ a.1.intent = .takeLongRest) := by
      have hturns := h.turns
      rintro (hi | hi) <;> rw [hi] at hturns <;> exact hturns.1 hs
    have hdial : s.dial.sleep = some sleep := EncounterState.dial_sleep.trans hrecord
    rw [or_iff_left hnorest]
    have hstays (hstill : r.state.sleepRecord ≠ none) (hdamage : creatureDamage r.facts = 0)
        (hcount : ¬ (sleep.remainingRounds = 1 ∧ r.state.round = s.round + 1)) :
        r.state.sleepRecord = none ↔ 1 ≤ creatureDamage r.facts ∨
          (sleep.remainingRounds = 1 ∧ r.state.round = s.round + 1) ∨ r.state.status ≠ .active := by
      refine iff_of_false hstill ?_
      rintro (hhurt | hexpired | hover)
      · omega
      · exact hcount hexpired
      · exact hover (hgoes hstill)
    generalize a.1.intent = intent at hchange
    cases hchange with
    | kept kept round harmless =>
      have hround : r.state.round = s.round := round (fun hready => nomatch hready.symm.trans hs)
      refine hstays ?_ harmless fun hcount => ?_
      · rw [← EncounterState.dial_sleep, kept, hdial]
        exact nofun
      · omega
    | woken woken round hurt =>
      exact iff_of_true (EncounterState.dial_sleep.symm.trans woken) (.inl (Nat.pos_of_ne_zero hurt))
    | slept acts awake => exact absurd (hdial.symm.trans awake) nofun
    | rested ended => exact absurd hs ended
    | aged aged round harmless =>
      rw [hdial, Option.bind_some, EncounterState.dial_sleep] at aged
      unfold EncounterSleepState.aged at aged
      by_cases h1 : sleep.remainingRounds = 1
      · rw [if_pos h1] at aged
        exact iff_of_true aged (.inr (.inl ⟨h1, round⟩))
      · rw [if_neg h1] at aged
        refine hstays ?_ harmless fun hcount => h1 hcount.1
        rw [aged]
        exact nofun
  case counted =>
    intro sleep sleep' hrecord hrecord'
    have hdial : s.dial.sleep = some sleep := EncounterState.dial_sleep.trans hrecord
    have hdial' : r.state.dial.sleep = some sleep' := EncounterState.dial_sleep.trans hrecord'
    have hs : s.status = .active := hkept.active fun hnone => nomatch hrecord.symm.trans hnone
    generalize a.1.intent = intent at hchange
    cases hchange with
    | kept kept round harmless =>
      have hround : r.state.round = s.round := round (fun hready => nomatch hready.symm.trans hs)
      obtain rfl := Option.mem_unique hdial' (kept.trans hdial)
      rw [hround]
    | woken woken => exact absurd (hdial'.symm.trans woken) nofun
    | slept acts awake => exact absurd (hdial.symm.trans awake) nofun
    | rested ended => exact absurd hs ended
    | aged aged round harmless =>
      have hround : r.state.round = s.round + 1 := round
      rw [hdial, Option.bind_some, hdial'] at aged
      unfold EncounterSleepState.aged at aged
      by_cases h1 : sleep.remainingRounds = 1
      · rw [if_pos h1] at aged
        cases aged
      · rw [if_neg h1] at aged
        obtain rfl := Option.some.inj aged
        have hrounds := (h.step.valid.sleep_of_record hrecord).2.rounds
        show sleep.remainingRounds - 1 + r.state.round = _
        omega
  case still =>
    intro hrecord
    have hcalm := h.calm hkept hrecord hquiet
    exact ⟨hcalm.creaturePosition, h.unhit hkept hrecord hquiet, hcalm.creatureTurn⟩

theorem sleepKept (h : Resolves s a r) (hkept : SleepKept s) (hquiet : ¬ StirsSleeper s a.1.intent) :
    SleepKept r.state := by
  have hv := h.step.valid
  have hv' := h.step.valid_next
  have heffect : r.state.sleepRecord ≠ none ↔ r.state.creatureAsleep = true := by
    by_cases hlive : r.state.liveQ04 = none
    case neg => exact hv'.record_iff_asleep (by_contra fun h3 => hlive (hv'.noLive h3))
    case pos =>
      -- without a live runtime there is no record, and nothing puts the creature to sleep
      have heffects : s.dial.effects = none := h.turns.change.effects_none (congrArg (Option.map _) hlive)
      have hnone : s.sleepRecord = none := by
        rw [← EncounterState.dial_sleep, Dial.sleep, heffects]
        rfl
      have hawake : s.creatureAsleep = false := by
        rw [← Bool.not_eq_true, ← hkept.effect, not_not]
        exact hnone
      have hawake' : r.state.creatureAsleep = false := h.turns.awake heffects hawake
      have hnone' : r.state.sleepRecord = none := by
        unfold EncounterState.sleepRecord
        rw [hlive]
        rfl
      exact iff_of_false (not_not.mpr hnone') (Bool.eq_false_iff.mp hawake')
  by_cases hrecord : s.sleepRecord = none
  case neg =>
    have hcalm := h.calm hkept hrecord hquiet
    exact
      { effect := heffect
        active := fun hstill => hcalm.status.resolve_right (hv'.not_victory_of_record hstill)
        conscious := fun _ => hcalm.heroLife
        unhit := fun _ => h.unhit hkept hrecord hquiet }
  case pos =>
    -- a record that comes up is the work of a Sleep, cast on the hero's turn
    have hcast (hsome : r.state.sleepRecord ≠ none) : r.state.status = .active ∧
        r.state.hero.lifeStatus = .conscious ∧ r.state.pendingHit = none := by
      obtain ⟨hi, -⟩ := (h.sleepStep hkept hquiet).created hrecord hsome
      have hturns := h.turns
      have hoffered := h.step.offered
      rw [hi] at hturns hoffered
      obtain ⟨⟨hs, hturn⟩, -, e, pool, affected, -, -, -, hdial⟩ := hturns
      have hs' : r.state.dial.status = s.dial.status := by
        rw [hdial]
        split <;> rfl
      have hlife : r.state.dial.heroLife = s.dial.heroLife := by
        rw [hdial]
        split <;> rfl
      have hturn' : r.state.dial.turn = s.dial.turn := by
        rw [hdial]
        split <;> rfl
      obtain ⟨action, hpermitted, hcovers⟩ | ⟨-, -, hslip⟩ := hoffered
      case inr => exact hslip.elim
      case inl =>
        cases action <;> try exact hcovers.elim
        obtain ⟨u, rules, spellcasting, live, hcasting, -⟩ := hpermitted
        refine ⟨hs'.trans hs, hlife.trans hcasting.turn.conscious, ?_⟩
        cases hp : r.state.pendingHit with
        | none => rfl
        | some p =>
          have hwight := (hv'.pending_turn (hv'.pending_of_hit hp).1).2
          exact absurd (hwight.symm.trans (hturn'.trans hturn)) fun heq =>
            canalWardenId_ne_sootWightId (Option.some.inj heq).symm
    exact
      { effect := heffect
        active := fun hsome => (hcast hsome).1
        conscious := fun hsome => (hcast hsome).2.1
        unhit := fun hsome => (hcast hsome).2.2 }

end Resolves

theorem QuietStep.run_sleepKept {s₀ : EncounterState} {as : List Turned} (hrun : Run QuietStep s₀ as s)
    (hkept : SleepKept s₀) : SleepKept s := by
  refine hrun.invariant (fun s a s' hkept hstep => ?_) hkept
  obtain ⟨⟨r, hr, rfl⟩, hquiet⟩ := hstep
  exact Resolves.sleepKept hr hkept hquiet

/-- **As long as no sleeping creature is told to move or to attack**: in every state of the history the record
    is there exactly when the creature is asleep, and the next resolution that stirs no sleeper creates it only
    by a Sleep whose pool covers the creature's hit points, removes it exactly by damage to the creature, at
    the end of its last round, with the encounter or by a rest, and lets the creature do nothing meanwhile. -/
theorem sleep_of_quiet {s₀ s : EncounterState} {as : List Turned} (hnew : NewEncounter s₀)
    (hawake : s₀.creatureAsleep = false) (hrun : Run QuietStep s₀ as s) :
    (s.sleepRecord ≠ none ↔ s.creatureAsleep = true) ∧
      ∀ a r, Resolves s a r → ¬ StirsSleeper s a.1.intent → SleepStep s a r := by
  have hkept := QuietStep.run_sleepKept hrun (hnew.sleepKept hawake)
  exact ⟨hkept.effect, fun a r hr hquiet => hr.sleepStep hkept hquiet⟩

/-! ### A sleepwalker -/

/-- A created wizard with a Sleep prepared. -/
def sleepWizard : EncounterHeroProfile :=
  { wardedWizard with
    rules := wardedWizard.rules.map fun rules => { rules with
      spellcasting := rules.spellcasting.map fun casting => { casting with
        prepared := [.magicMissile, .sleep] } } }

/-- The sleep wizard before the encounter. -/
def sleepEncounter : EncounterState :=
  { (EncounterState.new .storyRecovery .runesMisread).withHeroProfile sleepWizard with liveQ04 := some .new }

theorem sleepEncounter_new : NewEncounter sleepEncounter where
  valid := EncounterState.validate_eq_ok.mp (by decide)
  ready := rfl

/-- The wizard comes first and puts the creature to sleep, and the creature walks ten feet in its sleep. Then the
    wizard calls a hand, and dismisses it a round later. -/
def sleepwalk : List Turned :=
  [ turned 1 .startEncounter [(20, 15), (20, 4)]
  , turned 2 .castSleep [(8, 4), (8, 4), (8, 4), (8, 4), (8, 4)]
  , turned 3 .endTurn []
  , turned 4 (.move 40) []
  , turned 5 .endTurn []
  , turned 6 (.castMageHand viaductRuneObjectId) []
  , turned 7 .endTurn []
  , turned 8 .endTurn []
  , turned 9 .dismissMageHand [] ]

theorem sleepwalk_replays :
    (replayHistory sleepEncounter (sleepwalk.take 3)).any (fun s => s.creatureAsleep &&
      (replayHistory s ((sleepwalk.drop 3).take 1)).any fun s' =>
        decide (s'.creature.positionFeet ≠ s.creature.positionFeet) &&
        (replayHistory s' ((sleepwalk.drop 4).take 2)).any fun u => decide (u.round = 2) &&
          (replayHistory u (sleepwalk.drop 6)).any fun w => decide (w.round = 3)) = true := by
  decide +kernel

/-- The stations of the sleepwalk. -/
theorem sleepwalk_stations : ∃ asleep walked called held gone,
    Run EncounterStep sleepEncounter (sleepwalk.take 3) asleep ∧ asleep.creatureAsleep = true ∧
    EncounterStep asleep (turned 4 (.move 40) []) walked ∧
    walked.creature.positionFeet ≠ asleep.creature.positionFeet ∧
    Run EncounterStep walked [turned 5 .endTurn []] called ∧
    EncounterStep called (turned 6 (.castMageHand viaductRuneObjectId) []) held ∧ held.round = 2 ∧
    Run EncounterStep held [turned 7 .endTurn [], turned 8 .endTurn [], turned 9 .dismissMageHand []] gone ∧
    gone.round = 3 := by
  obtain ⟨s, hs, hrest⟩ := (Option.any_eq_true _ _).mp sleepwalk_replays
  obtain ⟨hasleep, hrest⟩ := Bool.and_eq_true_iff.mp hrest
  obtain ⟨s', hs', hrest⟩ := (Option.any_eq_true _ _).mp hrest
  obtain ⟨hwalked, hrest⟩ := Bool.and_eq_true_iff.mp hrest
  obtain ⟨u, hu, hrest⟩ := (Option.any_eq_true _ _).mp hrest
  obtain ⟨hround, hrest⟩ := Bool.and_eq_true_iff.mp hrest
  obtain ⟨w, hw, hround'⟩ := (Option.any_eq_true _ _).mp hrest
  -- one step, then two, then three
  cases run_of_replay hs' with
  | cons hwalk hstay =>
    cases hstay
    cases run_of_replay hu with
    | cons hpass hcall =>
      cases hcall with
      | cons hcast hstay =>
        cases hstay
        exact ⟨s, s', _, u, w, run_of_replay hs, hasleep, hwalk, of_decide_eq_true hwalked,
          .cons hpass (.nil _), hcast, of_decide_eq_true hround, run_of_replay hw, of_decide_eq_true hround'⟩

/-- Nobody is told to move or to attack before the creature's turn. -/
theorem sleepwalk_quiet (hrun : Run EncounterStep sleepEncounter (sleepwalk.take 3) s) :
    Run QuietStep sleepEncounter (sleepwalk.take 3) s := by
  have hplain : ∀ a ∈ sleepwalk.take 3, (∀ destination, a.1.intent ≠ .move destination) ∧
      ∀ attackId targetId, a.1.intent ≠ .attack attackId targetId := by
    intro a ha
    simp only [sleepwalk, List.take_succ_cons, List.take_zero, List.mem_cons, List.not_mem_nil, or_false] at ha
    rcases ha with rfl | rfl | rfl <;> exact ⟨fun _ => nofun, fun _ _ => nofun⟩
  refine (hrun.restrict hplain).mono fun s a s' h => ⟨h.1, ?_⟩
  rintro ⟨-, -, ⟨destination, hmove⟩ | ⟨attackId, targetId, hattack⟩⟩
  · exact h.2.1 destination hmove
  · exact h.2.2 attackId targetId hattack

/-- The sleepwalk up to the creature's turn. -/
theorem sleep_of_quiet_sleepwalk : ∃ s, Run QuietStep sleepEncounter (sleepwalk.take 3) s ∧
    s.creatureAsleep = true ∧ (s.sleepRecord ≠ none ↔ s.creatureAsleep = true) := by
  obtain ⟨s, _, _, _, _, hrun, hasleep, -⟩ := sleepwalk_stations
  have hquiet := sleepwalk_quiet hrun
  exact ⟨s, hquiet, hasleep, (sleep_of_quiet sleepEncounter_new (by decide) hquiet).1⟩

/-- **The creature walks in its sleep.** -/
theorem sleep_disturbed : ¬ ∀ s₀ s as, NewEncounter s₀ → s₀.creatureAsleep = false →
    Run EncounterStep s₀ as s → (s.sleepRecord ≠ none ↔ s.creatureAsleep = true) ∧ ∀ a r, Resolves s a r → SleepStep s a r := by
  intro h
  obtain ⟨asleep, walked, _, _, _, hrun, hasleep, ⟨r, hr, rfl⟩, hmoved, -⟩ := sleepwalk_stations
  obtain ⟨hrecord, hsteps⟩ := h _ _ _ sleepEncounter_new (by decide) hrun
  exact hmoved ((hsteps _ r hr).still (hrecord.mpr hasleep)).1

end ManchesterArcana.Encounter
