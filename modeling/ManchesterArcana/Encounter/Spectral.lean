import ManchesterArcana.Encounter.Slumber

/-!
# `Encounter.Spectral` — the spectral hand along a history

A hand is where the object is at which it was cast, or to which it was sent last. It is there from the cast on
up to the first step that dismisses it, walks the hero out of its range, completes its tenth round or begins a
rest (`EndsHand`). The distance to its caster is kept beside the two positions; every step keeps it in time, so
that no check of it ever stands in the way of an intent.
-/

namespace ManchesterArcana.Encounter

open Effect Rules
open Option (map_eq_some_iff map_id' mem_unique)

namespace EncounterState

variable {s : EncounterState}

/-- The spectral hand. -/
def mageHand (s : EncounterState) : Option MageHandState := s.liveQ04.bind (·.mageHand)

/-- Where the spectral hand is. -/
def mageHandPosition (s : EncounterState) : Option Nat := s.liveQ04.bind (·.mageHandPositionFeet)

theorem dial_hand : s.dial.hand = s.mageHand := by
  unfold Dial.hand EncounterState.mageHand EncounterState.dial
  cases s.liveQ04 <;> rfl

theorem dial_handPosition : s.dial.handPosition = s.mageHandPosition := by
  unfold Dial.handPosition EncounterState.mageHandPosition EncounterState.dial
  cases s.liveQ04 <;> rfl

/-- A hand is somewhere, within its range, and knows how far away. -/
theorem Valid.hand_valid (hv : s.Valid) {hand : MageHandState} (h : s.mageHand = some hand) :
    s.status ≠ .ready ∧ ∃ position, s.mageHandPosition = some position ∧ HandValid s hand position := by
  obtain ⟨live, hlive, hhand⟩ := Option.bind_eq_some_iff.mp h
  have hvalid := hv.live_of_mem (Option.mem_def.mpr hlive)
  obtain ⟨position, hposition, hfits⟩ := hvalid.hand hand hhand
  refine ⟨fun hready => hvalid.ready hready (.inl ?_), position, ?_, hfits⟩
  · rw [hhand]
    rfl
  · unfold mageHandPosition
    rw [hlive]
    exact hposition

end EncounterState

/-! ## What ends a hand -/

/-- **What ends a hand** that was cast in round `cast`: its dismissal, a walk of the hero to more than thirty
    feet from it, the end of its tenth round, or a rest. -/
def EndsHand (cast : Nat) (s : EncounterState) (intent : EncounterIntent) (s' : EncounterState) : Prop :=
  intent = .dismissMageHand ∨
    (∃ destination position, intent = .move destination ∧ s.currentActorId = some canalWardenId ∧
      s.mageHandPosition = some position ∧ 30 < distance destination position) ∨
    (s.round < s'.round ∧ s'.round = cast + 10) ∨
    intent = .beginShortRest ∨ intent = .takeLongRest

/-- A hand at `position` that was cast in round `cast`. -/
structure HandAt (cast position : Nat) (s : EncounterState) : Prop where
  place : s.mageHandPosition = some position
  hand : ∃ hand, s.mageHand = some hand ∧ hand.remainingRounds + s.round = cast + 10

variable {s s' u : EncounterState} {cast position : Nat} {bs : List Turned}

variable {intent : EncounterIntent}

/-- An intent that leaves the timed effects alone, or lights an object, does not end the hand within the round. -/
theorem not_endsHand
    (hother : s.dial.isTimed intent = false ∨ ∃ objectId, intent = .castLight objectId)
    (hround : s'.round = s.round) : ¬ EndsHand cast s intent s' := by
  rintro (rfl | ⟨destination, position, rfl, hturn, -⟩ | ⟨hlt, -⟩ | rfl | rfl)
  case inr.inr.inl => exact absurd hlt (by omega)
  case inr.inl =>
    obtain hplain | ⟨objectId, hlight⟩ := hother
    · exact absurd hturn (of_decide_eq_false hplain)
    · cases hlight
  all_goals
    obtain hplain | ⟨objectId, hlight⟩ := hother
    · cases hplain
    · cases hlight

/-- Of the hero's walks within the round, those beyond thirty feet end the hand. -/
theorem endsHand_move {destination : Nat}
    (hturn : s.currentActorId = some canalWardenId) (hplace : s.mageHandPosition = some position)
    (hround : s'.round = s.round) : EndsHand cast s (.move destination) s' ↔ 30 < distance destination position := by
  constructor
  · rintro (hdismiss | ⟨destination', position', hmove, -, hplace', hfar⟩ | ⟨hlt, -⟩ | hrest | hrest)
    · cases hdismiss
    · cases hmove
      obtain rfl := mem_unique hplace hplace'
      exact hfar
    · exact absurd hlt (by omega)
    · cases hrest
    · cases hrest
  · intro hfar
    exact .inr (.inl ⟨destination, position, rfl, hturn, hplace, hfar⟩)

/-- To send the hand elsewhere does not end it. -/
theorem not_endsHand_control {objectId : String} (hround : s'.round = s.round) :
    ¬ EndsHand cast s (.controlMageHand objectId) s' := by
  rintro (hdismiss | ⟨_, _, hmove, -⟩ | ⟨hlt, -⟩ | hrest | hrest)
  · cases hdismiss
  · cases hmove
  · exact absurd hlt (by omega)
  · cases hrest
  · cases hrest

/-- Of the steps that pass a round, the one that passes the tenth ends the hand. -/
theorem endsHand_passes
    (hpasses : intent = .endTurn ∨ intent = .rollDeathSave) (hround : s'.round = s.round + 1) :
    EndsHand cast s intent s' ↔ s.round + 1 = cast + 10 := by
  constructor
  · rintro (hdismiss | ⟨_, _, hmove, -⟩ | ⟨-, hlast⟩ | hrest | hrest)
    · rcases hpasses with rfl | rfl <;> cases hdismiss
    · rcases hpasses with rfl | rfl <;> cases hmove
    · exact hround.symm.trans hlast
    · rcases hpasses with rfl | rfl <;> cases hrest
    · rcases hpasses with rfl | rfl <;> cases hrest
  · intro hlast
    exact .inr (.inr (.inl ⟨by omega, hround.trans hlast⟩))

namespace Dial

variable {b b' : Dial} {facts : List EncounterFact} {intent : EncounterIntent}

variable {f : TimedEffects → TimedEffects}

theorem hand_of_effects (h : b'.effects = b.effects.map f)
    (hf : ∀ e, (f e).hand = e.hand ∧ (f e).handPosition = e.handPosition) :
    b'.hand = b.hand ∧ b'.handPosition = b.handPosition := by
  unfold hand handPosition
  rw [h]
  cases b.effects with
  | none => exact ⟨rfl, rfl⟩
  | some e => exact hf e

theorem hand_of_some {e : TimedEffects} (h : b.effects = some e) :
    b.hand = e.hand ∧ b.handPosition = e.handPosition := by
  unfold hand handPosition
  rw [h]
  exact ⟨rfl, rfl⟩

theorem hand_gone (h : b'.effects = b.effects.map f)
    (hf : ∀ e, (f e).hand = none) : b'.hand = none := by
  unfold hand
  rw [h]
  cases b.effects with
  | none => rfl
  | some e => exact hf e

theorem effects_of_hand {hand : MageHandState} (h : b.hand = some hand) :
    ∃ e, b.effects = some e ∧ e.hand = some hand := Option.bind_eq_some_iff.mp h

end Dial

namespace Resolves

variable {s : EncounterState} {a : Turned} {r : EncounterResolution} {cast position : Nat}

/-- **One step under a hand**: what ends it takes it away, and every other step but a new cast leaves it with
    its rounds, and where it is unless it is sent to an object. -/
theorem hand_step (h : Resolves s a r) (hat : HandAt cast position s)
    (hcast : ∀ objectId, a.1.intent ≠ .castMageHand objectId) :
    (EndsHand cast s a.1.intent r.state → r.state.mageHand = none) ∧
      (¬ EndsHand cast s a.1.intent r.state → (∃ place, HandAt cast place r.state) ∧
        ((∀ objectId, a.1.intent ≠ .controlMageHand objectId) → HandAt cast position r.state)) := by
  obtain ⟨hplace, hand, hhand, hrounds⟩ := hat
  obtain ⟨hready, -⟩ := h.step.valid.hand_valid hhand
  have hb : s.dial.hand = some hand := EncounterState.dial_hand.trans hhand
  have hbplace : s.dial.handPosition = some position := EncounterState.dial_handPosition.trans hplace
  have hchange := h.turns.change
  -- a step that leaves the hand as it is and does not end it
  have hsame (heq : r.state.dial.hand = s.dial.hand ∧ r.state.dial.handPosition = s.dial.handPosition)
      (hround : r.state.round = s.round) (hno : ¬ EndsHand cast s a.1.intent r.state) :
      (EndsHand cast s a.1.intent r.state → r.state.mageHand = none) ∧
        (¬ EndsHand cast s a.1.intent r.state → (∃ place, HandAt cast place r.state) ∧
          ((∀ objectId, a.1.intent ≠ .controlMageHand objectId) → HandAt cast position r.state)) := by
    have hat' : HandAt cast position r.state := by
      refine ⟨?_, hand, ?_, ?_⟩
      · rw [← EncounterState.dial_handPosition, heq.2, hbplace]
      · rw [← EncounterState.dial_hand, heq.1, hb]
      · rw [hround]
        exact hrounds
    exact ⟨fun hends => absurd hends hno, fun _ => ⟨⟨position, hat'⟩, fun _ => hat'⟩⟩
  generalize a.1.intent = intent at *
  cases hchange with
  | kept timed effects round =>
    have hround : r.state.round = s.round := round hready
    exact hsame (Dial.hand_of_effects (f := id) (effects.trans (map_id' ▸ rfl)) fun _ => ⟨rfl, rfl⟩) hround
      (not_endsHand (.inl timed) hround)
  | woken timed active effects round =>
    exact hsame (Dial.hand_of_effects effects fun _ => ⟨rfl, rfl⟩) round (not_endsHand (.inl timed) round)
  | lit acts effects round =>
    exact hsame (Dial.hand_of_effects effects fun _ => ⟨rfl, rfl⟩) round (not_endsHand (.inr ⟨_, rfl⟩) round)
  | slept acts before awake recorded covers effects round =>
    have hbefore := Dial.hand_of_some before
    have hafter := Dial.hand_of_some effects
    exact hsame ⟨hafter.1.trans hbefore.1.symm, hafter.2.trans hbefore.2.symm⟩ round
      (not_endsHand (.inl rfl) round)
  | created => exact absurd rfl (hcast _)
  | dismissed acts held effects =>
    have hgone : r.state.mageHand = none :=
      EncounterState.dial_hand.symm.trans (Dial.hand_gone effects fun _ => rfl)
    exact ⟨fun _ => hgone, fun hno => absurd (.inl rfl) hno⟩
  | rested rests ended effects =>
    have hgone : r.state.mageHand = none :=
      EncounterState.dial_hand.symm.trans (Dial.hand_gone effects fun _ => rfl)
    exact ⟨fun _ => hgone, fun hno => absurd (.inr (.inr (.inr rests))) hno⟩
  | @walked destination acts grid effects round =>
    obtain ⟨e, he, hheld⟩ := Dial.effects_of_hand hb
    have heplace : e.handPosition = some position := (Dial.hand_of_some he).2.symm.trans hbplace
    rw [he, Option.map_some] at effects
    obtain ⟨hafter, hafterPlace⟩ := Dial.hand_of_some effects
    rw [EncounterState.dial_hand] at hafter
    rw [EncounterState.dial_handPosition] at hafterPlace
    unfold TimedEffects.follow at hafter hafterPlace
    rw [heplace] at hafter hafterPlace
    have hround : r.state.round = s.round := round
    have hends : EndsHand cast s (.move destination) r.state ↔ distance destination position > 30 :=
      endsHand_move acts.2 hplace hround
    by_cases hfar : distance destination position > 30
    · dsimp only at hafter
      rw [if_pos hfar] at hafter
      exact ⟨fun _ => hafter, fun hno => absurd (hends.mpr hfar) hno⟩
    · dsimp only at hafter hafterPlace
      rw [if_neg hfar, hheld] at hafter
      rw [if_neg hfar] at hafterPlace
      have hat' : HandAt cast position r.state := by
        refine ⟨hafterPlace, _, hafter, ?_⟩
        rw [hround]
        exact hrounds
      exact ⟨fun hends' => absurd (hends.mp hends') hfar, fun _ => ⟨⟨position, hat'⟩, fun _ => hat'⟩⟩
  | @controlled e o held acts before object held' range effects round =>
    obtain rfl := mem_unique held' ((Dial.hand_of_some before).1.symm.trans hb)
    obtain ⟨hafter, hafterPlace⟩ := Dial.hand_of_some effects
    have hround : r.state.round = s.round := round
    have hat' : HandAt cast o.positionFeet r.state := by
      refine ⟨EncounterState.dial_handPosition.symm.trans hafterPlace, _,
        EncounterState.dial_hand.symm.trans hafter, ?_⟩
      rw [hround]
      exact hrounds
    exact ⟨fun hends => absurd hends (not_endsHand_control hround),
      fun _ => ⟨⟨_, hat'⟩, fun hno => absurd rfl (hno _)⟩⟩
  | aged passes active effects round =>
    obtain ⟨e, he, hheld⟩ := Dial.effects_of_hand hb
    have heplace : e.handPosition = some position := (Dial.hand_of_some he).2.symm.trans hbplace
    have hround : r.state.round = s.round + 1 := round
    have hends : EndsHand cast s intent r.state ↔ s.round + 1 = cast + 10 := endsHand_passes passes hround
    have hpos := (h.step.valid.hand_valid hhand).2.choose_spec.2.hand.rounds
    rw [he, Option.map_some] at effects
    obtain ⟨hafter, hafterPlace⟩ := Dial.hand_of_some effects
    rw [EncounterState.dial_hand] at hafter
    rw [EncounterState.dial_handPosition] at hafterPlace
    unfold TimedEffects.age agedHand at hafter
    unfold TimedEffects.age at hafterPlace
    rw [hheld] at hafter hafterPlace
    dsimp only [Option.bind_some] at hafter hafterPlace
    by_cases hlast : hand.remainingRounds = 1
    · rw [if_pos hlast] at hafter
      exact ⟨fun _ => hafter, fun hno => absurd (hends.mpr (by omega)) hno⟩
    · rw [if_neg hlast] at hafter hafterPlace
      have hat' : HandAt cast position r.state := by
        refine ⟨hafterPlace.trans heplace, _, hafter, ?_⟩
        show hand.remainingRounds - 1 + r.state.round = _
        omega
      refine ⟨fun hends' => ?_, fun _ => ⟨⟨position, hat'⟩, fun _ => hat'⟩⟩
      have htenth := hends.mp hends'
      omega

end Resolves

namespace Resolves

variable {s : EncounterState} {a : Turned} {r : EncounterResolution}

/-- Only a cast brings a hand. -/
theorem hand_absent (h : Resolves s a r) (hnone : s.mageHand = none)
    (hcast : ∀ objectId, a.1.intent ≠ .castMageHand objectId) : r.state.mageHand = none := by
  have hb : s.dial.hand = none := EncounterState.dial_hand.trans hnone
  have hsame (heq : r.state.dial.hand = s.dial.hand) : r.state.mageHand = none :=
    EncounterState.dial_hand.symm.trans (heq.trans hb)
  have hchange := h.turns.change
  generalize a.1.intent = intent at *
  cases hchange with
  | kept timed effects =>
    exact hsame (Dial.hand_of_effects (f := id) (effects.trans (map_id' ▸ rfl)) fun _ => ⟨rfl, rfl⟩).1
  | woken timed active effects => exact hsame (Dial.hand_of_effects effects fun _ => ⟨rfl, rfl⟩).1
  | lit acts effects => exact hsame (Dial.hand_of_effects effects fun _ => ⟨rfl, rfl⟩).1
  | slept acts before awake recorded covers effects =>
    exact hsame ((Dial.hand_of_some effects).1.trans (Dial.hand_of_some before).1.symm)
  | created => exact absurd rfl (hcast _)
  | controlled acts before object held =>
    cases hb.symm.trans ((Dial.hand_of_some before).1.trans held)
  | dismissed acts held effects => exact absurd hb held
  | rested rests ended effects => exact EncounterState.dial_hand.symm.trans (Dial.hand_gone effects fun _ => rfl)
  | walked acts grid effects =>
    refine EncounterState.dial_hand.symm.trans ?_
    unfold Dial.hand at hb ⊢
    rw [effects]
    cases he : s.dial.effects with
    | none => rfl
    | some e =>
      rw [he] at hb
      have hnone : e.hand = none := hb
      show (e.follow _).hand = none
      unfold TimedEffects.follow
      split
      · exact hnone
      · split
        · rfl
        · dsimp only
          rw [hnone]
          rfl
  | aged passes active effects =>
    refine EncounterState.dial_hand.symm.trans ?_
    unfold Dial.hand at hb ⊢
    rw [effects]
    cases he : s.dial.effects with
    | none => rfl
    | some e =>
      rw [he] at hb
      have hnone : e.hand = none := hb
      show e.hand.bind agedHand = none
      rw [hnone]
      rfl

variable {objectId : String}

/-- **A cast puts a hand where the object is.** -/
theorem hand_cast (h : Resolves s a r) (hintent : a.1.intent = .castMageHand objectId) :
    ∃ live o, s.liveQ04 = some live ∧ o ∈ live.objects ∧ o.objectId = objectId ∧
      HandAt r.state.round o.positionFeet r.state := by
  have hturns := h.turns
  rw [hintent] at hturns
  obtain ⟨-, -, e, o, hand, he, ho, hid, hfresh, hdial⟩ := hturns
  obtain ⟨live, hlive, rfl⟩ := map_eq_some_iff.mp he
  obtain ⟨hafter, hplace⟩ := Dial.hand_of_some (b := r.state.dial) (by rw [hdial])
  refine ⟨live, o, hlive, ho, hid, EncounterState.dial_handPosition.symm.trans hplace, hand,
    EncounterState.dial_hand.symm.trans hafter, ?_⟩
  rw [hfresh.rounds, Nat.add_comm]

/-- **A control sends the hand to where the object is.** -/
theorem hand_control (h : Resolves s a r) (hintent : a.1.intent = .controlMageHand objectId) :
    ∃ live o, s.liveQ04 = some live ∧ o ∈ live.objects ∧ o.objectId = objectId ∧
      r.state.mageHandPosition = some o.positionFeet := by
  have hturns := h.turns
  rw [hintent] at hturns
  obtain ⟨-, -, e, o, hand, he, ho, hid, -, -, hdial⟩ := hturns
  obtain ⟨live, hlive, rfl⟩ := map_eq_some_iff.mp he
  obtain ⟨-, hplace⟩ := Dial.hand_of_some (b := r.state.dial) (by rw [hdial])
  exact ⟨live, o, hlive, ho, hid, EncounterState.dial_handPosition.symm.trans hplace⟩

end Resolves

/-! ## A hand along a history -/

/-- A step that neither ends the hand that was cast in round `cast` nor casts another. -/
def KeepsHand (cast : Nat) (s : EncounterState) (a : Turned) (s' : EncounterState) : Prop :=
  EncounterStep s a s' ∧ ¬ EndsHand cast s a.1.intent s' ∧ ∀ objectId, a.1.intent ≠ .castMageHand objectId

/-- A step that casts no hand. -/
def CastsNoHand (s : EncounterState) (a : Turned) (s' : EncounterState) : Prop :=
  EncounterStep s a s' ∧ ∀ objectId, a.1.intent ≠ .castMageHand objectId

theorem KeepsHand.run_handAt
    (hrun : Run (KeepsHand cast) s bs u) (hat : HandAt cast position s) : ∃ place, HandAt cast place u := by
  refine hrun.invariant (I := fun u => ∃ place, HandAt cast place u) (fun s a s' hs hstep => ?_) ⟨position, hat⟩
  obtain ⟨place, hat⟩ := hs
  obtain ⟨⟨r, hr, rfl⟩, hends, hcast⟩ := hstep
  exact ((Resolves.hand_step hr hat hcast).2 hends).1

/-- Until it is sent elsewhere the hand stays where it is. -/
theorem KeepsHand.run_place
    (hrun : Run (KeepsHand cast) s bs u) (hat : HandAt cast position s)
    (hcontrol : ∀ b ∈ bs, ∀ objectId, b.1.intent ≠ .controlMageHand objectId) : HandAt cast position u := by
  refine (hrun.restrict hcontrol).invariant (fun s a s' hat hstep => ?_) hat
  obtain ⟨⟨⟨r, hr, rfl⟩, hends, hcast⟩, hno⟩ := hstep
  exact ((Resolves.hand_step hr hat hcast).2 hends).2 hno

theorem CastsNoHand.run_absent (hrun : Run CastsNoHand s bs u)
    (hnone : s.mageHand = none) : u.mageHand = none := by
  refine hrun.invariant (I := fun u => u.mageHand = none) (fun s a s' hnone hstep => ?_) hnone
  obtain ⟨⟨r, hr, rfl⟩, hcast⟩ := hstep
  exact Resolves.hand_absent hr hnone hcast

/-! ## The distance is kept in time -/

/-- A hand at `position` that the checks of a state find in order, with its caster at `heroPosition`. -/
structure HandFits (map : EncounterMap) (heroPosition : Nat) (hand : MageHandState) (position : Nat) : Prop where
  valid : hand.Valid
  handId : hand.handId = mageHandId
  casterId : hand.casterId = canalWardenId
  place : map.minimumPositionFeet ≤ position ∧ position ≤ map.maximumPositionFeet ∧ 5 ∣ position
  distance : Encounter.distance heroPosition position = hand.distanceFromCasterFeet

/-- A hand in order has its caster on the grid. -/
theorem HandFits.caster_grid {map : EncounterMap} {heroPosition : Nat} {hand : MageHandState}
    (h : HandFits map heroPosition hand position) : 5 ∣ heroPosition := by
  have hdistance := h.distance
  have hgrid := h.valid.grid
  have hplace := h.place.2.2
  unfold Encounter.distance absDiff at hdistance
  omega

namespace TimedEffects

variable {map : EncounterMap} {heroPosition : Nat} {e : TimedEffects}

/-- Effects that the checks of a state find in order, as far as the hand goes. -/
structure Fits (map : EncounterMap) (heroPosition : Nat) (e : TimedEffects) : Prop where
  hand : ∀ hand, e.hand = some hand → ∃ position, e.handPosition = some position ∧
    HandFits map heroPosition hand position
  gone : e.hand = none → e.handPosition = none
  objects : ∀ o ∈ e.objects, map.minimumPositionFeet ≤ o.positionFeet ∧
    o.positionFeet ≤ map.maximumPositionFeet ∧ 5 ∣ o.positionFeet

theorem Fits.age (h : e.Fits map heroPosition) : e.age.Fits map heroPosition := by
  refine ⟨fun hand' hhand' => ?_, fun hnone => ?_, fun o ho => ?_⟩
  · obtain ⟨hand, hhand, haged⟩ := Option.bind_eq_some_iff.mp hhand'
    obtain ⟨position, hposition, hfits⟩ := h.hand hand hhand
    unfold agedHand at haged
    by_cases hlast : hand.remainingRounds = 1
    · rw [if_pos hlast] at haged
      cases haged
    · rw [if_neg hlast] at haged
      obtain rfl := Option.some.inj haged
      have hrounds := hfits.valid.rounds
      refine ⟨position, ?_, { hfits.valid with rounds := ?_ }, hfits.handId, hfits.casterId, hfits.place,
        hfits.distance⟩
      · unfold TimedEffects.age
        rw [hhand]
        dsimp only
        rw [if_neg hlast]
        exact hposition
      · show 1 ≤ hand.remainingRounds - 1 ∧ hand.remainingRounds - 1 ≤ 10
        omega
  · unfold TimedEffects.age at hnone ⊢
    cases hhand : e.hand with
    | none => exact h.gone hhand
    | some hand =>
      rw [hhand] at hnone
      unfold agedHand at hnone
      by_cases hlast : hand.remainingRounds = 1
      · exact if_pos hlast
      · dsimp only [Option.bind_some] at hnone
        rw [if_neg hlast] at hnone
        cases hnone
  · obtain ⟨o', ho', rfl⟩ := List.mem_map.mp ho
    have hsame : o'.ageLight.positionFeet = o'.positionFeet := by
      unfold EncounterObjectState.ageLight
      split <;> rfl
    rw [hsame]
    exact h.objects o' ho'

theorem Fits.follow (h : e.Fits map heroPosition) {destination : Nat} (hgrid : 5 ∣ destination) :
    (e.follow destination).Fits map destination := by
  unfold TimedEffects.follow
  cases hposition : e.handPosition with
  | none =>
    refine ⟨fun hand hhand => ?_, h.gone, h.objects⟩
    obtain ⟨position, hposition', -⟩ := h.hand hand hhand
    cases hposition.symm.trans hposition'
  | some position =>
    dsimp only
    by_cases hfar : distance destination position > 30
    · rw [if_pos hfar]
      exact ⟨nofun, fun _ => rfl, h.objects⟩
    · rw [if_neg hfar]
      refine ⟨fun hand' hhand' => ?_, fun hnone => ?_, h.objects⟩
      · obtain ⟨hand, hhand, rfl⟩ := map_eq_some_iff.mp hhand'
        obtain ⟨position', hposition', hfits⟩ := h.hand hand hhand
        obtain rfl := mem_unique hposition hposition'
        refine ⟨position, rfl, { hfits.valid with range := Nat.le_of_not_lt hfar, grid := ?_ }, hfits.handId,
          hfits.casterId, hfits.place, rfl⟩
        exact distance_grid hgrid hfits.place.2.2
      · exact absurd (h.gone (Option.map_eq_none_iff.mp hnone)) (by rw [hposition]; exact nofun)

theorem Fits.light (h : e.Fits map heroPosition) {objectId : String} : (e.light objectId).Fits map heroPosition := by
  refine ⟨h.hand, h.gone, fun o ho => ?_⟩
  obtain ⟨o', ho', rfl⟩ := List.mem_map.mp ho
  have hsame : (if o'.objectId = objectId then { o' with lightRemainingRounds := some 600 } else o').positionFeet =
      o'.positionFeet := by
    split <;> rfl
  rw [hsame]
  exact h.objects o' ho'

theorem Fits.holdAt (h : e.Fits map heroPosition) {o : EncounterObjectState} {hand : MageHandState}
    (hhand : HandFits map heroPosition hand o.positionFeet) : (e.holdAt hand o).Fits map heroPosition := by
  refine ⟨fun hand' hhand' => ?_, nofun, h.objects⟩
  obtain rfl := Option.some.inj hhand'
  exact ⟨o.positionFeet, rfl, hhand⟩

theorem Fits.dropHand (h : e.Fits map heroPosition) : e.dropHand.Fits map heroPosition :=
  ⟨nofun, fun _ => rfl, h.objects⟩

theorem Fits.expire (h : e.Fits map heroPosition) : e.expire.Fits map heroPosition := by
  refine ⟨nofun, fun _ => ?_, fun o ho => ?_⟩
  · unfold TimedEffects.expire
    cases hhand : e.hand with
    | none => exact h.gone hhand
    | some hand => rfl
  · obtain ⟨o', ho', rfl⟩ := List.mem_map.mp ho
    exact h.objects o' ho'

end TimedEffects

namespace Dial

variable {b b' : Dial} {facts : List EncounterFact} {intent : EncounterIntent}

/-- The dial's hand is in order. -/
def HandInOrder (b : Dial) : Prop := ∀ e, b.effects = some e → e.Fits b.map b.heroPosition

theorem HandInOrder.map (h : b.HandInOrder) {f : TimedEffects → TimedEffects}
    (heffects : b'.effects = b.effects.map f) (hmap : b'.map = b.map)
    (hf : ∀ e : TimedEffects, e.Fits b.map b.heroPosition → (f e).Fits b.map b'.heroPosition) :
    b'.HandInOrder := by
  intro e' he'
  obtain ⟨e, he, rfl⟩ := map_eq_some_iff.mp (heffects.symm.trans he')
  rw [hmap]
  exact hf e (h e he)

theorem HandInOrder.some (h : b.HandInOrder) {e e' : TimedEffects} (he : b.effects = some e)
    (heffects : b'.effects = some e') (hmap : b'.map = b.map)
    (hf : e.Fits b.map b.heroPosition → e'.Fits b.map b'.heroPosition) : b'.HandInOrder := by
  intro e'' he''
  obtain rfl := mem_unique heffects he''
  rw [hmap]
  exact hf (h e he)

/-- **Every intent leaves the hand in order.** -/
theorem Change.handInOrder (h : Change b facts b' intent) (hb : b.HandInOrder) : b'.HandInOrder := by
  cases h with
  | kept timed effects round position harmless map =>
    refine hb.map (f := id) (effects.trans (map_id' ▸ rfl)) map fun e he => ?_
    rw [position]
    exact he
  | woken timed active effects round position hurt map =>
    refine hb.map effects map fun e he => ?_
    rw [position]
    exact ⟨he.hand, he.gone, he.objects⟩
  | walked acts grid effects round position harmless map =>
    refine hb.map effects map fun e he => ?_
    rw [position]
    exact he.follow grid
  | lit acts effects round position harmless map =>
    refine hb.map effects map fun e he => ?_
    rw [position]
    exact he.light
  | @created e o hand acts before object fresh effects round position harmless map =>
    refine hb.some before effects map fun he => ?_
    rw [position]
    exact he.holdAt ⟨fresh.valid, fresh.handId, fresh.casterId, he.objects o object, fresh.distance⟩
  | @controlled e o hand acts before object held range effects round position harmless map =>
    refine hb.some before effects map fun he => ?_
    rw [position]
    obtain ⟨place, -, hfits⟩ := he.hand hand held
    have hobject := he.objects o object
    refine he.holdAt ⟨{ hfits.valid with range := range, grid := ?_ }, hfits.handId, hfits.casterId, hobject, rfl⟩
    have hhero : 5 ∣ b.heroPosition := hfits.caster_grid
    exact distance_grid hhero hobject.2.2
  | dismissed acts held effects round position harmless map =>
    refine hb.map effects map fun e he => ?_
    rw [position]
    exact he.dropHand
  | slept acts before awake recorded covers effects round position harmless map =>
    refine hb.some before effects map fun he => ?_
    rw [position]
    exact ⟨he.hand, he.gone, he.objects⟩
  | rested rests ended effects round position harmless map =>
    refine hb.map effects map fun e he => ?_
    rw [position]
    exact he.expire
  | aged passes active effects round position harmless map =>
    refine hb.map effects map fun e he => ?_
    rw [position]
    exact he.age

end Dial

end ManchesterArcana.Encounter
