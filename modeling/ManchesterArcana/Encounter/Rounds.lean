import ManchesterArcana.Encounter.Spectral

/-!
# `Encounter.Rounds` — turns, rounds and the effects they count down

The two participants take turns in the order of their initiative, and the round goes up as often as the order
wraps around. Light, the spectral hand and the magical sleep are counted down there and nowhere else, so that
an effect of `d` rounds lasts for exactly `d` of them, whoever is first in the order and whenever it was cast.
-/

namespace ManchesterArcana.Encounter

open Effect Rules

/-! ## The effects that are counted down -/

inductive TimedEffect where
  | light (objectId : String)
  | mageHand
  | sleep

namespace TimedEffect

/-- How many rounds the effect is cast for. -/
def duration : TimedEffect → Nat
  | .light _ => 600
  | .mageHand => 10
  | .sleep => 10

theorem duration_pos (k : TimedEffect) : 0 < k.duration := by
  cases k <;> exact Nat.zero_lt_succ _

/-- The intents that cast the effect. -/
def CastBy : TimedEffect → EncounterIntent → Prop
  | .light objectId, intent => intent = .castLight objectId
  | .mageHand, intent => ∃ anchorObjectId, intent = .castMageHand anchorObjectId
  | .sleep, intent => intent = .castSleep

/-- The rounds that are left of the effect. -/
def left (e : TimedEffects) : TimedEffect → Option Nat
  | .light objectId => (e.objects.find? (·.objectId = objectId)).bind (·.lightRemainingRounds)
  | .mageHand => e.hand.map (·.remainingRounds)
  | .sleep => e.sleep.map (·.remainingRounds)

/-- The rounds that are left of the effect in a state. -/
def remaining (k : TimedEffect) (s : EncounterState) : Option Nat := (s.liveQ04.map (·.timed)).bind k.left

/-- **What ends the effect early**: a rest ends all of them, damage to the creature its sleep, and dismissal or
    a walk out of range the hand. -/
def EndsEarly (k : TimedEffect) (s : EncounterState) (intent : EncounterIntent)
    (facts : List EncounterFact) : Prop :=
  intent = .beginShortRest ∨ intent = .takeLongRest ∨
    match k with
    | .light _ => False
    | .mageHand => intent = .dismissMageHand ∨ ∃ destination position, intent = .move destination ∧
        s.currentActorId = some canalWardenId ∧ s.mageHandPosition = some position ∧
        30 < distance destination position
    | .sleep => 1 ≤ creatureDamage facts

end TimedEffect

/-- A count one round later. -/
def agedRounds (rounds : Option Nat) : Option Nat := rounds.bind fun n => if n = 1 then none else some (n - 1)

namespace TimedEffects

variable {e : TimedEffects} {k : TimedEffect}

theorem find_object {objects : List EncounterObjectState} {f : EncounterObjectState → EncounterObjectState}
    (hf : ∀ o, (f o).objectId = o.objectId) {objectId : String} :
    (objects.map f).find? (·.objectId = objectId) = (objects.find? (·.objectId = objectId)).map f := by
  have hsame : (fun o : EncounterObjectState => decide (o.objectId = objectId)) ∘ f =
      fun o => decide (o.objectId = objectId) := by
    funext o
    show decide ((f o).objectId = objectId) = _
    rw [hf]
  rw [List.find?_map, hsame]

/-- **Every effect is one round older.** -/
theorem left_age : k.left e.age = agedRounds (k.left e) := by
  cases k with
  | light objectId =>
    have hid (o : EncounterObjectState) : o.ageLight.objectId = o.objectId := by
      unfold EncounterObjectState.ageLight
      split <;> rfl
    show ((e.objects.map (·.ageLight)).find? _).bind _ = agedRounds ((e.objects.find? _).bind _)
    rw [find_object hid]
    cases e.objects.find? (·.objectId = objectId) with
    | none => rfl
    | some o =>
      show o.ageLight.lightRemainingRounds = agedRounds o.lightRemainingRounds
      unfold EncounterObjectState.ageLight agedRounds
      cases hlight : o.lightRemainingRounds with
      | none => exact hlight
      | some rounds => rfl
  | mageHand =>
    show (e.hand.bind agedHand).map _ = agedRounds (e.hand.map _)
    cases e.hand with
    | none => rfl
    | some hand =>
      show (agedHand hand).map _ = if hand.remainingRounds = 1 then none else _
      unfold agedHand
      split <;> rfl
  | sleep =>
    show (e.sleep.bind (·.aged)).map _ = agedRounds (e.sleep.map _)
    cases e.sleep with
    | none => rfl
    | some sleep =>
      show sleep.aged.map _ = if sleep.remainingRounds = 1 then none else _
      unfold EncounterSleepState.aged
      split <;> rfl

/-- A walk takes nothing but the hand. -/
theorem left_follow {destination : Nat} (hnear : k = .mageHand → ∀ position, e.handPosition = some position →
    ¬ 30 < distance destination position) : k.left (e.follow destination) = k.left e := by
  unfold TimedEffects.follow
  cases hposition : e.handPosition with
  | none => rfl
  | some position =>
    dsimp only
    cases k with
    | light objectId => split <;> rfl
    | sleep => split <;> rfl
    | mageHand =>
      rw [if_neg (hnear rfl position hposition)]
      show (e.hand.map _).map _ = e.hand.map _
      cases e.hand <;> rfl

/-- Light on one object leaves the others as they are. -/
theorem left_light {objectId : String} (hother : ¬ k.CastBy (.castLight objectId)) :
    k.left (e.light objectId) = k.left e := by
  cases k with
  | light objectId' =>
    have hne : objectId ≠ objectId' := fun heq => hother (congrArg EncounterIntent.castLight heq)
    have hid (o : EncounterObjectState) : (if o.objectId = objectId
        then { o with lightRemainingRounds := some 600 } else o).objectId = o.objectId := by
      split <;> rfl
    show ((e.objects.map _).find? _).bind _ = (e.objects.find? _).bind _
    rw [find_object hid]
    cases hfound : e.objects.find? (·.objectId = objectId') with
    | none => rfl
    | some o =>
      have hfits : o.objectId = objectId' := by simpa using List.find?_some hfound
      show (if o.objectId = objectId then _ else o).lightRemainingRounds = o.lightRemainingRounds
      rw [if_neg fun heq => hne (heq.symm.trans hfits)]
  | mageHand => rfl
  | sleep => rfl

theorem left_holdAt {o : EncounterObjectState} {hand : MageHandState}
    (hother : k = .mageHand → e.hand.map (·.remainingRounds) = some hand.remainingRounds) :
    k.left (e.holdAt hand o) = k.left e := by
  cases k with
  | light objectId => rfl
  | sleep => rfl
  | mageHand => exact (hother rfl).symm

end TimedEffects

namespace Dial

variable {b b' : Dial} {facts : List EncounterFact} {intent : EncounterIntent} {k : TimedEffect}

/-- The rounds that are left of the effect. -/
def left (b : Dial) (k : TimedEffect) : Option Nat := b.effects.bind k.left

theorem left_of_map {f : TimedEffects → TimedEffects} (h : b'.effects = b.effects.map f)
    (hf : ∀ e, b.effects = some e → k.left (f e) = k.left e) : b'.left k = b.left k := by
  unfold left
  rw [h]
  cases he : b.effects with
  | none => rfl
  | some e => exact hf e he

theorem left_of_some {e e' : TimedEffects} (h : b.effects = some e) (h' : b'.effects = some e')
    (hsame : k.left e' = k.left e) : b'.left k = b.left k := by
  unfold left
  rw [h, h']
  exact hsame

end Dial

namespace Resolves

variable {s : EncounterState} {a : Turned} {r : EncounterResolution} {k : TimedEffect}

/-- **How an effect is counted down**: a step that neither casts it nor ends it early leaves its rounds, or is
    the end of a round and takes one. -/
theorem timed (h : Resolves s a r) (hs : s.status ≠ .ready) (hcast : ¬ k.CastBy a.1.intent)
    (hearly : ¬ k.EndsEarly s a.1.intent r.facts) :
    (k.remaining r.state = k.remaining s ∧ r.state.round = s.round) ∨
      (k.remaining r.state = agedRounds (k.remaining s) ∧ r.state.round = s.round + 1) := by
  show (r.state.dial.left k = s.dial.left k ∧ r.state.dial.round = s.dial.round) ∨
    (r.state.dial.left k = agedRounds (s.dial.left k) ∧ r.state.dial.round = s.dial.round + 1)
  have hchange := h.turns.change
  generalize a.1.intent = intent at *
  cases hchange with
  | kept timed effects round =>
    refine .inl ⟨?_, round hs⟩
    unfold Dial.left
    rw [effects]
  | woken timed active effects round position hurt =>
    refine .inl ⟨Dial.left_of_map effects fun e _ => ?_, round⟩
    cases k with
    | light objectId => rfl
    | mageHand => rfl
    | sleep => exact absurd (.inr (.inr (Nat.pos_of_ne_zero hurt))) hearly
  | walked acts grid effects round =>
    refine .inl ⟨Dial.left_of_map effects fun e he => TimedEffects.left_follow fun hk position hposition hfar => ?_,
      round⟩
    subst hk
    have hplace : s.mageHandPosition = some position := by
      rw [← EncounterState.dial_handPosition, (Dial.hand_of_some he).2]
      exact hposition
    exact hearly (.inr (.inr (.inr ⟨_, position, rfl, acts.2, hplace, hfar⟩)))
  | lit acts effects round =>
    exact .inl ⟨Dial.left_of_map effects fun e _ => TimedEffects.left_light hcast, round⟩
  | created acts before object fresh effects round =>
    refine .inl ⟨Dial.left_of_some before effects (TimedEffects.left_holdAt fun hk => ?_), round⟩
    subst hk
    exact absurd ⟨_, rfl⟩ hcast
  | controlled acts before object held range effects round =>
    refine .inl ⟨Dial.left_of_some before effects (TimedEffects.left_holdAt fun _ => ?_), round⟩
    rw [held]
    rfl
  | dismissed acts held effects round =>
    refine .inl ⟨Dial.left_of_map effects fun e _ => ?_, round⟩
    cases k with
    | light objectId => rfl
    | mageHand => exact absurd (.inr (.inr (.inl rfl))) hearly
    | sleep => rfl
  | slept acts before awake recorded covers effects round =>
    refine .inl ⟨Dial.left_of_some before effects ?_, round⟩
    cases k with
    | light objectId => rfl
    | mageHand => rfl
    | sleep => exact absurd rfl hcast
  | rested rests =>
    refine absurd ?_ hearly
    rcases rests with hshort | hlong
    · exact .inl hshort
    · exact .inr (.inl hlong)
  | aged passes active effects round =>
    refine .inr ⟨?_, round⟩
    unfold Dial.left
    rw [effects]
    cases s.dial.effects with
    | none => rfl
    | some e => exact TimedEffects.left_age

/-- **What is cast is there for its whole duration**; a Sleep may not take hold. -/
theorem timed_cast (h : Resolves s a r) (hcast : k.CastBy a.1.intent) :
    s.status = .active ∧ r.state.round = s.round ∧
      ((k = .sleep ∧ k.remaining r.state = none) ∨ k.remaining r.state = some k.duration) := by
  show s.dial.status = .active ∧ r.state.dial.round = s.dial.round ∧
    ((k = .sleep ∧ r.state.dial.left k = none) ∨ r.state.dial.left k = some k.duration)
  have hturns := h.turns
  cases k with
  | light objectId =>
    have hoffered := h.step.offered
    have hintent : a.1.intent = .castLight objectId := hcast
    rw [hintent] at hturns hoffered
    obtain ⟨⟨hs, -⟩, -, hdial⟩ := hturns
    rw [hdial]
    refine ⟨hs, rfl, .inr ?_⟩
    -- the object is one of those that stand there
    obtain ⟨action, hpermitted, hcovers⟩ | ⟨-, -, hslip⟩ := hoffered
    case inr => exact hslip.elim
    cases action <;> try exact hcovers.elim
    obtain ⟨u, rules, sc, live, hcasting, o, ho, -, hid⟩ := hpermitted
    obtain rfl : objectId = o.objectId := hcovers.trans hid
    unfold Dial.left
    dsimp only
    rw [EncounterState.dial_effects_of hcasting.runtime]
    have hsame (o' : EncounterObjectState) : (if o'.objectId = o.objectId
        then { o' with lightRemainingRounds := some 600 } else o').objectId = o'.objectId := by
      split <;> rfl
    show ((live.objects.map _).find? _).bind _ = some 600
    rw [TimedEffects.find_object hsame]
    obtain ⟨o', hfound⟩ : ∃ o', live.objects.find? (·.objectId = o.objectId) = some o' :=
      Option.isSome_iff_exists.mp (List.find?_isSome.mpr ⟨o, ho, decide_eq_true rfl⟩)
    have hfits : o'.objectId = o.objectId := by simpa using List.find?_some hfound
    rw [hfound]
    show (if o'.objectId = o.objectId then _ else o').lightRemainingRounds = some 600
    rw [if_pos hfits]
  | mageHand =>
    obtain ⟨anchor, hintent⟩ := hcast
    rw [hintent] at hturns
    obtain ⟨⟨hs, -⟩, -, e, o, hand, -, -, -, hfresh, hdial⟩ := hturns
    rw [hdial]
    exact ⟨hs, rfl, .inr (congrArg some hfresh.rounds)⟩
  | sleep =>
    have hintent : a.1.intent = .castSleep := hcast
    rw [hintent] at hturns
    obtain ⟨⟨hs, -⟩, -, e, pool, affected, he, hawake, -, hdial⟩ := hturns
    rw [hdial]
    by_cases hcovers : s.dial.creatureHitPoints ≤ pool
    · rw [if_pos hcovers]
      exact ⟨hs, rfl, .inr rfl⟩
    · rw [if_neg hcovers]
      refine ⟨hs, rfl, .inl ⟨rfl, ?_⟩⟩
      unfold Dial.left
      rw [he]
      show e.sleep.map _ = none
      rw [hawake]
      rfl

end Resolves

/-! ## An effect over the rounds -/

/-- A step that neither casts the effect nor ends it early. -/
def Undisturbed (k : TimedEffect) (s : EncounterState) (a : Turned) (s' : EncounterState) : Prop :=
  ∃ r, Resolves s a r ∧ r.state = s' ∧ ¬ k.CastBy a.1.intent ∧ ¬ k.EndsEarly s a.1.intent r.facts

/-- What is left in `s` of an effect that took hold for `rounds` rounds in round `cast`. -/
structure CountsDown (k : TimedEffect) (cast rounds : Nat) (s : EncounterState) : Prop where
  started : 1 ≤ cast ∧ cast ≤ s.round
  there : s.round < cast + rounds → k.remaining s = some (cast + rounds - s.round)
  gone : cast + rounds ≤ s.round → k.remaining s = none

variable {s s' : EncounterState}

theorem EncounterState.Valid.not_ready (hv : s.Valid) (hround : 1 ≤ s.round) :
    s.status ≠ .ready := by
  intro hready
  have hphase := hv.phase
  unfold PhaseValid at hphase
  rw [hready] at hphase
  have hzero := hphase.round
  omega

theorem Undisturbed.countsDown {k : TimedEffect} {cast rounds : Nat} {a : Turned}
    (h : Undisturbed k s a s') (hs : CountsDown k cast rounds s) : CountsDown k cast rounds s' := by
  obtain ⟨r, hr, rfl, hcast, hearly⟩ := h
  obtain ⟨⟨hpos, hle⟩, hthere, hgone⟩ := hs
  have hready := hr.step.valid.not_ready (hpos.trans hle)
  rcases hr.timed hready hcast hearly with ⟨hsame, hround⟩ | ⟨haged, hround⟩
  · rw [← hsame] at hthere hgone
    rw [← hround] at hle hthere hgone
    exact ⟨⟨hpos, hle⟩, hthere, hgone⟩
  · refine ⟨⟨hpos, by omega⟩, fun hlt => ?_, fun hover => ?_⟩
    · have hbefore := hthere (by omega)
      rw [haged, hbefore]
      show (if cast + rounds - s.round = 1 then none else some (cast + rounds - s.round - 1)) = _
      rw [if_neg (by omega)]
      congr 1
      omega
    · rw [haged]
      by_cases hlast : s.round < cast + rounds
      · rw [hthere hlast]
        exact if_pos (by omega)
      · rw [hgone (by omega)]
        rfl

/-! ## Turns -/

namespace Dial

variable {b b' : Dial} {facts : List EncounterFact} {intent : EncounterIntent}

/-- The turn stays where it is. -/
def SameTurn (b b' : Dial) : Prop :=
  b'.initiative = b.initiative ∧ b'.index = b.index ∧ b'.turn = b.turn ∧ b'.round = b.round

/-- **In a fight the turn stays where it is, passes, or is nobody's any more.** -/
theorem Turns.turn (h : b.Turns facts intent b') (hs : b.status = .active) :
    b.SameTurn b' ∨ (∃ heroLife, { b with heroLife }.Passes b') ∨ b'.turn = none := by
  have hhero (h : b.HeroHurt b') :
      b.SameTurn b' ∨ (∃ heroLife, { b with heroLife }.Passes b') ∨ b'.turn = none := by
    obtain ⟨heroLife, rfl | rfl⟩ := h
    · exact .inl ⟨rfl, rfl, rfl, rfl⟩
    · exact .inr (.inr rfl)
  have hcreature {damage : Nat} (h : b.CreatureHurt b' damage) :
      b.SameTurn b' ∨ (∃ heroLife, { b with heroLife }.Passes b') ∨ b'.turn = none := by
    obtain ⟨hitPoints, h⟩ := h
    by_cases h0 : damage = 0
    · rw [if_pos h0] at h
      rcases h with rfl | rfl
      · exact .inl ⟨rfl, rfl, rfl, rfl⟩
      · exact .inr (.inr rfl)
    · rw [if_neg h0] at h
      rcases h with rfl | rfl
      · exact .inl ⟨rfl, rfl, rfl, rfl⟩
      · exact .inr (.inr rfl)
  cases intent with
  | startEncounter => exact absurd (h.1.symm.trans hs) nofun
  | move destination =>
    obtain ⟨-, -, ⟨-, -, rfl⟩ | ⟨-, rfl⟩⟩ := h <;> exact .inl ⟨rfl, rfl, rfl, rfl⟩
  | attack attackId targetId =>
    obtain ⟨-, ⟨-, hhurt⟩ | ⟨-, -, hhurt⟩⟩ := h
    · exact hcreature hhurt
    · exact hhero hhurt
  | castSpell spell targetId => exact hcreature h.2
  | castLight objectId =>
    obtain ⟨-, -, rfl⟩ := h
    exact .inl ⟨rfl, rfl, rfl, rfl⟩
  | castMageHand anchorObjectId =>
    obtain ⟨-, -, e, o, hand, -, -, -, -, rfl⟩ := h
    exact .inl ⟨rfl, rfl, rfl, rfl⟩
  | controlMageHand objectId =>
    obtain ⟨-, -, e, o, hand, -, -, -, -, -, rfl⟩ := h
    exact .inl ⟨rfl, rfl, rfl, rfl⟩
  | dismissMageHand =>
    obtain ⟨-, -, -, rfl⟩ := h
    exact .inl ⟨rfl, rfl, rfl, rfl⟩
  | castSleep =>
    obtain ⟨-, -, e, pool, affected, -, -, -, rfl⟩ := h
    split <;> exact .inl ⟨rfl, rfl, rfl, rfl⟩
  | castShield | declineReaction => exact hhero h.2.2.2
  | contextAction _ | secondWind | actionSurge =>
    obtain ⟨-, -, rfl⟩ := h
    exact .inl ⟨rfl, rfl, rfl, rfl⟩
  | beginShortRest | takeLongRest | spendHitDie | useArcaneRecovery | finishShortRest => exact absurd hs h.1
  | endTurn => exact .inr (.inl ⟨b.heroLife, h.2.2⟩)
  | rollDeathSave =>
    obtain ⟨-, -, -, hhurt | hpasses⟩ := h
    · exact hhero hhurt
    · exact .inr (.inl hpasses)

end Dial

/-- **The turn passes**: to the other participant, at the next place of the same order, and when the order wraps
    around a new round begins. -/
def TurnPasses (s s' : EncounterState) : Prop :=
  s'.initiative = s.initiative ∧ ∃ index, s.currentActorIndex = some index ∧ index < 2 ∧
    s'.currentActorIndex = some (1 - index) ∧ s'.round = s.round + index ∧
    ((s.currentActorId = some canalWardenId ∧ s'.currentActorId = some sootWightId) ∨
      (s.currentActorId = some sootWightId ∧ s'.currentActorId = some canalWardenId))

/-- The turn stays where it is. -/
def TurnStays (s s' : EncounterState) : Prop :=
  s'.initiative = s.initiative ∧ s'.currentActorIndex = s.currentActorIndex ∧
    s'.currentActorId = s.currentActorId ∧ s'.round = s.round

/-- **In a fight that goes on the turn stays where it is or passes.** -/
theorem Resolves.turn {s : EncounterState} {a : Turned} {r : EncounterResolution} (h : Resolves s a r)
    (hs : s.status = .active) (hs' : r.state.status = .active) : TurnStays s r.state ∨ TurnPasses s r.state := by
  have hv := h.step.valid
  have hv' := h.step.valid_next
  rcases h.turns.turn hs with hsame |
    ⟨heroLife, i, index, next, actorId, hi, hindex, hnext, hactor, hother, hdial⟩ | hnobody
  · exact .inl hsame
  · obtain ⟨i', oldIndex, index', actorId', actor, hnextTurn⟩ := hv.nextTurn hs
    obtain ⟨i'', oldIndex', hi', hold, horder⟩ := (hv.active hs).order
    obtain rfl : i' = i := Option.mem_unique hnextTurn.initiative hi
    obtain rfl : i'' = i' := Option.mem_unique hi' hi
    obtain rfl : oldIndex = index := Option.mem_unique hnextTurn.position hindex
    obtain rfl : oldIndex' = oldIndex := Option.mem_unique hold hindex
    have hlength := hnextTurn.length
    have hlt : oldIndex' < 2 := by
      by_contra hge
      rw [List.getElem?_eq_none (by omega)] at horder
      rcases hv.turn_cases hs with ⟨hturn, -⟩ | ⟨hturn, -⟩ <;> cases horder.trans hturn
    have hnext' : next = 1 - oldIndex' := by
      rw [hnext, hlength]
      omega
    have hround : r.state.round = s.round + oldIndex' := by
      show r.state.dial.round = _
      rw [hdial]
      by_cases h0 : next = 0
      · rw [if_pos h0]
        show s.round + 1 = _
        omega
      · rw [if_neg h0]
        show s.round = _
        omega
    have hinitiative : r.state.dial.initiative = s.initiative := by
      rw [hdial]
      split <;> rfl
    have hplace : r.state.dial.index = some next := by rw [hdial]
    have hturn : r.state.dial.turn = some actorId := by rw [hdial]
    refine .inr ⟨hinitiative, oldIndex', hold, hlt, ?_, hround, ?_⟩
    · rw [← hnext']
      exact hplace
    · rcases hother with ⟨rfl, hwight⟩ | ⟨rfl, hhero⟩
      · exact .inr ⟨hwight, hturn⟩
      · exact .inl ⟨hhero, hturn⟩
  · have hnone : r.state.currentActorId = none := hnobody
    rcases hv'.turn_cases hs' with ⟨hturn, -⟩ | ⟨hturn, -⟩ <;> cases hnone.symm.trans hturn

/-! ### Turns along a fight -/

/-- A step of a fight that goes on. -/
def FightStep (s : EncounterState) (a : Turned) (s' : EncounterState) : Prop :=
  EncounterStep s a s' ∧ s.status = .active ∧ s'.status = .active

/-- Whether the turn passed. -/
def turnsPassed (s s' : EncounterState) : Nat := if s'.currentActorId = s.currentActorId then 0 else 1

/-- How many turns there have been: two for each round, and the place in the order. -/
def turnCount (s : EncounterState) : Nat := 2 * s.round + s.currentActorIndex.getD 0

theorem FightStep.counts {a : Turned} (h : FightStep s a s') :
    turnCount s' = turnCount s + turnsPassed s s' := by
  obtain ⟨⟨r, hr, rfl⟩, hs, hs'⟩ := h
  unfold turnCount turnsPassed
  rcases Resolves.turn hr hs hs' with ⟨-, hindex, hturn, hround⟩ |
    ⟨-, index, hindex, hlt, hindex', hround, hother⟩
  · rw [hindex, hround, if_pos hturn, Nat.add_zero]
  · have hne : ¬ r.state.currentActorId = s.currentActorId := by
      rcases hother with ⟨hbefore, hafter⟩ | ⟨hbefore, hafter⟩ <;> rw [hbefore, hafter] <;> intro heq
      · exact sootWightId_ne_canalWardenId (Option.some.inj heq)
      · exact canalWardenId_ne_sootWightId (Option.some.inj heq)
    rw [if_neg hne, hindex, hindex', hround]
    show 2 * (s.round + index) + (1 - index) = 2 * s.round + index + 1
    omega

/-- **Two turns are a round**: along a fight the turns are counted by the rounds and the place in the order. -/
theorem FightStep.run_counts {as : List Turned} {n : Nat}
    (h : Tally FightStep turnsPassed s as n s') : turnCount s' = turnCount s + n := by
  induction h with
  | nil s => rfl
  | cons hstep _ ih => rw [ih, hstep.counts, Nat.add_assoc]

/-- **The order of a fight**: both participants, the higher total first, then the higher modifier, then the
    smaller identifier; it is the turn of one of them, and both are alive. -/
structure InOrder (s : EncounterState) : Prop where
  order : ∃ i first second index, s.initiative = some i ∧ i.entries = [first, second] ∧
    first.before second ∧ i.order = [first.participantId, second.participantId] ∧
    i.order.Perm [canalWardenId, sootWightId] ∧ s.currentActorIndex = some index ∧
    s.currentActorId = i.order[index]? ∧ s.currentActorId ≠ none
  hero : s.hero.lifeStatus = .conscious ∨ s.hero.lifeStatus = .unconscious
  creature : s.creature.lifeStatus = .conscious

theorem EncounterState.Valid.inOrder (hv : s.Valid) (hs : s.status = .active) : InOrder s := by
  obtain ⟨i, index, hi, hindex, horder⟩ := (hv.active hs).order
  obtain ⟨⟨first, second, hentries, hbefore, -, -, hrolled⟩, hids, -⟩ := hv.initiative i hi
  have hpair : i.order = [first.participantId, second.participantId] := by
    rw [hids, hentries]
    rfl
  have hperm : i.order.Perm [canalWardenId, sootWightId] := by
    rw [hpair]
    rcases hrolled with ⟨hfirst, hsecond⟩ | ⟨hfirst, hsecond⟩ <;>
      rw [hfirst.participantId, hsecond.participantId]
    exact .swap _ _ _
  have hturn : s.currentActorId ≠ none := by
    intro hnone
    rcases hv.turn_cases hs with ⟨hturn, -⟩ | ⟨hturn, -⟩ <;> cases hnone.symm.trans hturn
  exact ⟨⟨i, first, second, index, hi, hentries, hbefore, hpair, hperm, hindex, horder.symm, hturn⟩,
    (hv.active hs).heroLife, (hv.active hs).creatureLife⟩

/-- **Turn order and durations** along every history: in a fight the order is the participants' by initiative,
    the turn stays or passes to the other one, and two turns are a round; and an effect that took hold for `d`
    rounds is there with one round less after each, is gone after `d`, whoever came first and whenever it was
    cast, unless it is cast again or ended early. -/
theorem turn_order_and_durations {s₀ s : EncounterState} {as : List Turned} (hnew : NewEncounter s₀)
    (hrun : Run EncounterStep s₀ as s) :
    (s.status = .active → InOrder s) ∧
    (∀ a s', FightStep s a s' → TurnStays s s' ∨ TurnPasses s s') ∧
    (∀ bs n s', Tally FightStep turnsPassed s bs n s' → turnCount s' = turnCount s + n) ∧
    ∀ k a r, Resolves s a r → TimedEffect.CastBy k a.1.intent →
      ((k = .sleep ∧ k.remaining r.state = none) ∨ k.remaining r.state = some k.duration) ∧
      (k.remaining r.state ≠ none → ∀ bs u, Run (Undisturbed k) r.state bs u →
        (u.round < r.state.round + k.duration →
          k.remaining u = some (r.state.round + k.duration - u.round)) ∧
        (r.state.round + k.duration ≤ u.round → k.remaining u = none)) := by
  have hv : s.Valid := EncounterStep.run_valid hrun hnew.valid
  refine ⟨hv.inOrder, ?turns, fun bs n s' h => FightStep.run_counts h, ?effects⟩
  case turns =>
    rintro a s' ⟨⟨r, hr, rfl⟩, hs, hs'⟩
    exact Resolves.turn hr hs hs'
  case effects =>
    intro k a r hr hcast
    obtain ⟨hs, hround, htook⟩ := hr.timed_cast hcast
    refine ⟨htook, fun hthere bs u hbs => ?_⟩
    have hduration : k.remaining r.state = some k.duration :=
      htook.resolve_left fun hmissed => hthere hmissed.2
    have hstart : 1 ≤ r.state.round := by
      rw [hround]
      exact Nat.pos_of_ne_zero (hv.active hs).round_pos
    have hfirst : CountsDown k r.state.round k.duration r.state := by
      refine ⟨⟨hstart, Nat.le_refl _⟩, fun _ => ?_, fun hover => ?_⟩
      · rw [Nat.add_sub_cancel_left]
        exact hduration
      · have hpos := k.duration_pos
        omega
    have hlast := hbs.invariant (fun _ _ _ hs hstep => hstep.countsDown hs) hfirst
    exact ⟨hlast.there, hlast.gone⟩

/-- The hand that the sleep wizard calls in the second round, when it is cast. -/
theorem turn_order_and_durations_sleepwalk : ∃ called held r,
    Run EncounterStep sleepEncounter (sleepwalk.take 5) called ∧
    Resolves called (turned 6 (.castMageHand viaductRuneObjectId) []) r ∧ r.state = held ∧
    TimedEffect.mageHand.remaining held = some TimedEffect.mageHand.duration := by
  obtain ⟨asleep, walked, called, held, _, hrun, -, hwalk, -, hpass, ⟨r, hr, rfl⟩, -⟩ := sleepwalk_stations
  have hcalled : Run EncounterStep sleepEncounter (sleepwalk.take 5) called := (hrun.snoc hwalk).append hpass
  refine ⟨called, r.state, r, hcalled, hr, rfl, ?_⟩
  have hdurations := (turn_order_and_durations sleepEncounter_new hcalled).2.2.2
  exact (hdurations .mageHand _ r hr ⟨_, rfl⟩).1.resolve_left fun hsleep => nomatch hsleep.1

/-- A step that neither casts the effect nor ends it early, dismissal aside. -/
def OtherwiseUndisturbed (k : TimedEffect) (s : EncounterState) (a : Turned) (s' : EncounterState) : Prop :=
  ∃ r, Resolves s a r ∧ r.state = s' ∧ ¬ k.CastBy a.1.intent ∧
    (a.1.intent ≠ .dismissMageHand → ¬ k.EndsEarly s a.1.intent r.facts)

theorem otherwiseUndisturbed_endTurn {revision : Nat}
    (h : EncounterStep s (turned revision .endTurn []) s') :
    OtherwiseUndisturbed .mageHand s (turned revision .endTurn []) s' := by
  obtain ⟨r, hr, rfl⟩ := h
  refine ⟨r, hr, rfl, (fun ⟨_, hcast⟩ => nomatch hcast), fun _ => ?_⟩
  rintro (hrest | hrest | hdismiss | ⟨_, _, hmove, -⟩)
  · cases hrest
  · cases hrest
  · cases hdismiss
  · cases hmove

/-- **A hand that is dismissed does not last ten rounds.** -/
theorem hand_dismissed_early : ¬ ∀ s₀ s as k a r bs u, NewEncounter s₀ → Run EncounterStep s₀ as s →
    Resolves s a r → TimedEffect.CastBy k a.1.intent → k.remaining r.state ≠ none →
    Run (OtherwiseUndisturbed k) r.state bs u → u.round < r.state.round + k.duration →
      k.remaining u = some (r.state.round + k.duration - u.round) := by
  intro h
  obtain ⟨asleep, walked, called, held, gone, hrun, -, hwalk, -, hpass, ⟨r, hr, rfl⟩, hround, hlater, hround'⟩ :=
    sleepwalk_stations
  have hcalled : Run EncounterStep sleepEncounter (sleepwalk.take 5) called := (hrun.snoc hwalk).append hpass
  have hcalls : TimedEffect.mageHand.CastBy (.castMageHand viaductRuneObjectId) := ⟨_, rfl⟩
  have hthere : TimedEffect.mageHand.remaining r.state = some TimedEffect.mageHand.duration :=
    (Resolves.timed_cast hr hcalls).2.2.resolve_left fun hsleep => nomatch hsleep.1
  cases hlater with
  | cons hfirst hlater =>
    cases hlater with
    | cons hsecond hlater =>
      cases hlater with
      | cons hdismiss hstay =>
        cases hstay
        obtain ⟨r', hr', rfl⟩ := hdismiss
        have hlast : OtherwiseUndisturbed .mageHand _ (turned 9 .dismissMageHand []) r'.state :=
          ⟨r', hr', rfl, (fun ⟨_, hcast⟩ => nomatch hcast), fun hne => absurd rfl hne⟩
        have hleft := h _ _ _ .mageHand _ r _ r'.state sleepEncounter_new hcalled hr hcalls
          (by rw [hthere]; exact nofun)
          (.cons (otherwiseUndisturbed_endTurn hfirst)
            (.cons (otherwiseUndisturbed_endTurn hsecond) (.cons hlast (.nil _))))
          (by rw [hround, hround']; decide)
        -- but the hand is gone
        obtain ⟨-, -, -, hdial⟩ := Resolves.turns hr'
        have hnone : TimedEffect.mageHand.remaining r'.state = none := by
          show r'.state.dial.left .mageHand = none
          rw [hdial]
          unfold Dial.left
          dsimp only
          rename_i before
          cases before.dial.effects <;> rfl
        cases hnone.symm.trans hleft

end ManchesterArcana.Encounter
