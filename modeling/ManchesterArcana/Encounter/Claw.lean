import Mathlib.Algebra.Order.BigOperators.Group.List
import ManchesterArcana.Encounter.History

/-!
# `Encounter.Claw` — the creature's hit, with and without a pause for the hero

A hit of the creature strikes the hero at once, or waits until the hero has answered it. `clawed` is the state
the hit leaves behind; both ways end in it. What the reaction costs is whether a Shield is raised in between.
-/

namespace ManchesterArcana.Encounter

open Effect Rules

/-! ## The hit -/

/-- The faces a claw can show; a critical hit throws two dice. -/
def ClawFaces (critical : Bool) (faces : List Nat) : Prop :=
  faces.length = (if critical then 2 else 1) ∧ ∀ v ∈ faces, InRange creatureAttack.damageDieSides v

/-- The dice of a claw, as they are thrown. -/
def clawDice (faces : List Nat) : List (Nat × Nat) := faces.map (creatureAttack.damageDieSides, ·)

/-- The damage of a claw that shows `faces`. -/
def clawDamage (faces : List Nat) : Nat :=
  ((faces.map (Int.ofNat ·)).sum + creatureAttack.damageModifier.value.toInt).toNat

namespace EncounterState

/-- The state after the health of `targetId` changed: the encounter may be over. -/
def settleHealth (s : EncounterState) (targetId : String) : EncounterState :=
  (finishForHealthTransition (.of s) targetId).2.state

/-- **The claw strikes the hero.** -/
def clawed (s : EncounterState) (critical : Bool) (faces : List Nat) : EncounterState :=
  { s with hero := (applyDamage s.hero (clawDamage faces) critical s.lethalityPolicy).1 }.settleHealth
    canalWardenId

/-- The hero's reaction, left or not. -/
def withReaction (s : EncounterState) (available : Bool) : EncounterState :=
  s.mapLive fun live => { live with heroReactionAvailable := available }

/-- The waiting hit is answered. -/
def answered (s : EncounterState) : EncounterState :=
  s.mapLive fun live => { live with pendingAttackReaction := none }

variable {s : EncounterState}

/-! ### What follows a change of health asks for health alone -/

variable {targetId : String}

theorem settleHealth_of_draft {d : Draft} :
    (finishForHealthTransition d targetId).2.state = d.state.settleHealth targetId := by
  unfold settleHealth finishForHealthTransition
  dsimp only
  split
  · rfl
  · split
    · split <;> rfl
    · rfl

/-- Runtime and rules snapshot play no part in it. -/
theorem settleHealth_with {targetId : String} {live : Option EncounterLiveQ04State}
    {rules : Option EncounterHeroRulesProfile} :
    { s with liveQ04 := live, heroRules := rules }.settleHealth targetId =
      { s.settleHealth targetId with liveQ04 := live, heroRules := rules } := by
  unfold settleHealth finishForHealthTransition
  dsimp only
  split
  · rfl
  · split
    · split <;> rfl
    · rfl

theorem settleHealth_withRevision {targetId : String} {revision : Nat} :
    { s with revision }.settleHealth targetId = { s.settleHealth targetId with revision } := by
  unfold settleHealth finishForHealthTransition
  dsimp only
  split
  · rfl
  · split
    · split <;> rfl
    · rfl

theorem settleHealth_frame : Frame s (s.settleHealth targetId) :=
  (@finishForHealthTransition_spec (.of s) targetId).1

theorem clawed_with {critical : Bool} {faces : List Nat} {live : Option EncounterLiveQ04State}
    {rules : Option EncounterHeroRulesProfile} :
    { s with liveQ04 := live, heroRules := rules }.clawed critical faces =
      { s.clawed critical faces with liveQ04 := live, heroRules := rules } :=
  @settleHealth_with { s with hero := (applyDamage s.hero (clawDamage faces) critical s.lethalityPolicy).1 }
    canalWardenId live rules

variable {critical available : Bool} {faces : List Nat}

theorem clawed_withRevision {revision : Nat} :
    { s with revision }.clawed critical faces = { s.clawed critical faces with revision } :=
  @settleHealth_withRevision
    { s with hero := (applyDamage s.hero (clawDamage faces) critical s.lethalityPolicy).1 } canalWardenId revision

/-- **A claw changes the hero's health, as the damage rule says.** -/
theorem clawed_hero :
    (s.clawed critical faces).hero = (applyDamage s.hero (clawDamage faces) critical s.lethalityPolicy).1 :=
  finishForHealthTransition_spec.2.1

theorem clawed_frame {critical : Bool} {faces : List Nat} : Frame s (s.clawed critical faces) := by
  refine Frame.trans ?_ settleHealth_frame
  have hskeleton : (applyDamage s.hero (clawDamage faces) critical s.lethalityPolicy).1.skeleton = s.hero.skeleton :=
    applyDamage_changed.skeleton
  unfold Frame EncounterState.skeleton
  simp only [hskeleton]

theorem clawed_carries {critical : Bool} {faces : List Nat} :
    (s.clawed critical faces).liveQ04 = s.liveQ04 ∧ (s.clawed critical faces).heroRules = s.heroRules := by
  have h := @clawed_with s critical faces s.liveQ04 s.heroRules
  constructor
  · exact Eq.trans (congrArg (fun s' : EncounterState => s'.liveQ04) h) rfl
  · exact Eq.trans (congrArg (fun s' : EncounterState => s'.heroRules) h) rfl

theorem clawed_withReaction :
    (s.withReaction available).clawed critical faces = (s.clawed critical faces).withReaction available := by
  obtain ⟨hlive, hrules⟩ := @clawed_carries s critical faces
  unfold withReaction mapLive
  rw [hlive]
  have h := @clawed_with s critical faces (s.liveQ04.map fun live => { live with heroReactionAvailable := available })
    s.heroRules
  rw [← hrules] at h ⊢
  exact h

/-! ### The reaction is checked nowhere -/

theorem withReaction_frame : Frame s (s.withReaction available) := rfl

theorem phase_withReaction (h : PhaseValid s) : PhaseValid (s.withReaction available) := by
  have hrecovery : (s.withReaction available).recoveryEntered = s.recoveryEntered := by
    unfold recoveryEntered withReaction mapLive
    cases s.liveQ04 <;> rfl
  unfold PhaseValid at h ⊢
  have hstatus : (s.withReaction available).status = s.status := rfl
  rw [hstatus]
  cases hs : s.status <;> rw [hs] at h
  case ready =>
    exact ⟨h.initiative, h.round, h.actorIndex, h.actorId, h.resources, h.primary, h.contextual, h.reward,
      h.transition, h.heroLife, h.creatureLife, h.heroFull, h.creatureFull, h.heroTemporary, h.creatureTemporary⟩
  case active =>
    exact ⟨h.order, h.round_pos, h.actor, h.creatureLife, h.heroLife, h.primary, h.reward, h.transition⟩
  case victory =>
    obtain ⟨t, ht, hv⟩ := h
    exact ⟨t, ht, ⟨hv.initiative, hv.actorIndex, hv.actorId, hv.resources⟩, hv.creatureLife, hv.creatureDown,
      hv.primary, hv.reward, hv.outcome, hv.reason, hv.heroCurrent, hv.heroLife, hv.noRecovery, hv.conscious,
      hv.destination⟩
  case defeat =>
    obtain ⟨t, ht, hv⟩ := h
    have hhealth : DefeatHealth (s.withReaction available) t := by
      have := hv.health
      unfold DefeatHealth at this ⊢
      rw [hrecovery]
      exact this
    exact ⟨t, ht, ⟨hv.initiative, hv.actorIndex, hv.actorId, hv.resources⟩, hv.primary, hv.reward, hv.outcome,
      hv.reason, hhealth, hv.destination⟩

/-- **A state is valid whether the reaction is left or not.** -/
theorem Valid.withReaction (hv : s.Valid) (available : Bool) : (s.withReaction available).Valid := by
  have hm := hv.moved
  refine hv.of_frame withReaction_frame
    { hero := hm.hero, creature := hm.creature, pools := hm.pools, live := ?live, noLive := ?noLive
      effects := ⟨hm.effects.ward, hm.effects.notFailed, hm.effects.veil, hm.effects.unveiled⟩
      initiative := hm.initiative, phase := phase_withReaction hm.phase }
  case live =>
    intro h3
    obtain ⟨live, hlive, hl⟩ := hv.live h3
    refine ⟨{ live with heroReactionAvailable := available }, ?_, ?_⟩
    · show s.liveQ04.map _ = _
      rw [hlive]
      rfl
    · exact
        { objects := hl.objects
          hand := fun hand hmem => by
            obtain ⟨position, hposition, h⟩ := hl.hand hand hmem
            exact ⟨position, hposition, h.hand, h.handId, h.casterId, h.position_ge, h.position_le,
              h.position_grid, h.distance⟩
          noHand := hl.noHand
          sleep := fun sleep hmem =>
            have h := hl.sleep sleep hmem
            ⟨h.targetId, h.rounds, h.asleep, h.conscious⟩
          awake := hl.awake
          pending := fun p hmem =>
            have h := hl.pending p hmem
            ⟨h.resources, h.status, h.turn, h.actorId, h.targetId, h.attackId, h.natural, h.natural_ne_one,
              h.hits, h.armorClass, h.critical, h.noWard⟩
          ward := fun w hmem =>
            have h := hl.ward w hmem
            ⟨h.casterId, h.bonus, h.immune, h.status, h.turn⟩
          rest := fun r hmem =>
            have h := hl.rest r hmem
            ⟨h.boundary, h.boundaryId, h.fits, h.started, h.completes⟩
          longRest := hl.longRest
          ready := hl.ready }
  case noLive =>
    intro h3
    show s.liveQ04.map _ = none
    rw [hv.noLive h3]
    rfl

/-- Who can raise a Shield is up. -/
theorem conscious_of_ready (h : shieldSpellReady s = true) : s.hero.lifeStatus = .conscious := by
  unfold shieldSpellReady at h
  split at h
  · simp only [Bool.and_eq_true, decide_eq_true_iff] at h
    exact h.1.1.1.2
  · cases h

/-- Without the reaction there is no Shield. -/
theorem shieldSpellReady_withReaction : shieldSpellReady (s.withReaction false) = false := by
  unfold shieldSpellReady withReaction mapLive
  cases s.liveQ04 with
  | none => rfl
  | some live => cases s.heroRules <;> rfl

end EncounterState

/-! ## A claw hurts -/

theorem strike_temporary {c : CombatantState} {damage : Nat} {critical : Bool} {policy : LethalityPolicy} :
    (c.strike damage critical policy).hitPoints.temporary = c.hitPoints.temporary := by
  unfold CombatantState.strike CombatantState.strikeCreature CombatantState.strikeStoryHero
    CombatantState.strikeStanding CombatantState.strikeFallen
  split
  · rfl
  · split
    · rfl
    · split
      · split <;> rfl
      · split
        · split <;> rfl
        · rfl

theorem strike_current_lt {c : CombatantState} {damage : Nat} {critical : Bool} {policy : LethalityPolicy}
    (hk : c.kind = .hero) (hup : 0 < c.hitPoints.current) (hd : 0 < damage) :
    (c.strike damage critical policy).hitPoints.current < c.hitPoints.current := by
  unfold CombatantState.strike CombatantState.strikeStoryHero CombatantState.strikeStanding
  rw [if_neg (by rw [hk]; exact nofun)]
  split
  · show c.hitPoints.current - damage < c.hitPoints.current
    omega
  · split
    · exact hup
    · show c.hitPoints.current - damage < c.hitPoints.current
      omega

variable {critical : Bool} {faces : List Nat} {p : PendingAttackReaction} {s : EncounterState}
  {n : DeterministicNarration}

/-- **Damage to a hero who is up shows**, in the temporary or in the current hit points. -/
theorem applyDamage_ne {c : CombatantState} {damage : Nat} {policy : LethalityPolicy}
    (hk : c.kind = .hero) (hup : 0 < c.hitPoints.current) (hd : 0 < damage) :
    (applyDamage c damage critical policy).1 ≠ c := by
  intro heq
  rw [applyDamage_fst] at heq
  by_cases ht : c.hitPoints.temporary = 0
  · -- nothing is absorbed
    have hlt := @strike_current_lt (c.shielded (min damage c.hitPoints.temporary))
      (damage - min damage c.hitPoints.temporary) critical policy hk hup (by rw [ht]; omega)
    rw [heq] at hlt
    exact Nat.lt_irrefl _ hlt
  · have htemp := @strike_temporary (c.shielded (min damage c.hitPoints.temporary))
      (damage - min damage c.hitPoints.temporary) critical policy
    rw [heq] at htemp
    have hless : c.hitPoints.temporary = c.hitPoints.temporary - min damage c.hitPoints.temporary := htemp
    omega

/-- A claw deals damage on every throw. -/
theorem clawDamage_pos : 0 < clawDamage faces := by
  have hnonneg : 0 ≤ (faces.map (Int.ofNat ·)).sum := by
    refine List.sum_nonneg fun v hv => ?_
    obtain ⟨n, -, rfl⟩ := List.mem_map.mp hv
    exact Int.natCast_nonneg n
  have hmodifier : creatureAttack.damageModifier.value.toInt = 1 := by decide
  unfold clawDamage
  rw [hmodifier]
  omega

/-- At least one die is thrown. -/
theorem ClawFaces.dice_ne (h : ClawFaces critical faces) :
    clawDice faces ≠ [] := by
  intro hnil
  have hlen := h.1
  rw [List.map_eq_nil_iff.mp hnil] at hlen
  cases critical <;> cases hlen

/-! ## The damage of the waiting hit -/

variable {t : List (Nat × Nat)} {d : Draft}

theorem clawFaces_dice {rolls rolls' : List RawRollFacts}
    {roll : RawRollFacts} (h : Prog.Returns (performRoll rolls (damageRequest p.actorId p.targetId p.attackId
      p.critical creatureAttack.damageDieSides creatureAttack.damageModifier)) t (roll, rolls')) :
    ∃ faces, ClawFaces p.critical faces ∧ t = clawDice faces ∧ roll.total.toNat = clawDamage faces := by
  obtain ⟨faces, o, hlen, hin, rfl, -, -, rfl, -, -⟩ := performRoll_returns.mp h
  refine ⟨faces, ⟨hlen, hin⟩, rfl, ?_⟩
  exact congrArg (fun modifier => ((faces.map (Int.ofNat ·)).sum + modifier).toNat) (Int.add_zero _)

/-- **The waiting hit strikes as a claw does**, critically if it was recorded so. -/
theorem resolvePendingAttackDamage_returns {d' : Draft}
    {completion : Option EncounterOutcome}
    (h : Prog.Returns (resolvePendingAttackDamage d p) t (completion, d')) :
    ∃ faces, ClawFaces p.critical faces ∧ t = clawDice faces ∧ d'.state = d.state.clawed p.critical faces := by
  obtain ⟨t₁, t₂, ⟨roll, rolls⟩, rfl, hroll, h⟩ := h.bind
  obtain ⟨-, h⟩ := h.reject
  obtain ⟨rfl, heq⟩ := h.of_ok
  obtain rfl : d' = _ := congrArg Prod.snd heq
  obtain ⟨faces, hfaces, rfl, htotal⟩ := clawFaces_dice hroll
  refine ⟨faces, hfaces, List.append_nil _, ?_⟩
  rw [EncounterState.settleHealth_of_draft, recordLifeChange_state]
  unfold EncounterState.clawed
  rw [← htotal]
  rfl

/-- **Declining lets the waiting hit through.** -/
theorem resolveDeclineReaction_returns
    (h : Prog.Returns (resolveDeclineReaction (.of s)) t (n, d)) :
    ∃ p faces, s.pendingHit = some p ∧ ClawFaces p.critical faces ∧ t = clawDice faces ∧
      d.state = s.answered.clawed p.critical faces := by
  obtain ⟨_, -, h⟩ := h.lift
  obtain ⟨p, hp, h⟩ := h.expect
  obtain ⟨t₁, t₂, ⟨completion, struck⟩, rfl, hdamage, h⟩ := h.bind
  obtain ⟨rfl, heq⟩ := h.of_ok
  obtain rfl : d = struck := congrArg Prod.snd heq
  obtain ⟨faces, hfaces, rfl, hstate⟩ := resolvePendingAttackDamage_returns hdamage
  exact ⟨p, faces, hp, hfaces, List.append_nil _, hstate⟩

/-- The hit that a Shield turns aside: no natural 20, and below the armor class with the ward. -/
def PendingAttackReaction.Turned (p : PendingAttackReaction) : Prop :=
  p.naturalRoll ≠ 20 ∧ p.attackTotal < p.armorClass + 5

/-- **Shield turns the hit aside or lets it through**, by what was recorded of it; runtime and pools apart, a
    hit that goes through leaves what declining it leaves. -/
theorem resolveShieldReaction_returns
    (h : Prog.Returns (resolveShieldReaction (.of s)) t (n, d)) :
    ∃ p, s.pendingHit = some p ∧
      ((p.Turned ∧ t = [] ∧ ∃ live rules, d.state = { s with liveQ04 := live, heroRules := rules }) ∨
        (¬ p.Turned ∧ ∃ faces live rules, ClawFaces p.critical faces ∧ t = clawDice faces ∧
          d.state = { s.clawed p.critical faces with liveQ04 := live, heroRules := rules })) := by
  obtain ⟨_, -, h⟩ := h.lift
  obtain ⟨p, hp, h⟩ := h.expect
  obtain ⟨rules, -, h⟩ := h.lift
  obtain ⟨sc, -, h⟩ := h.lift
  obtain ⟨slotsBefore, -, h⟩ := h.lift
  obtain ⟨trigger, htrigger, h⟩ := h.lift
  obtain ⟨live, -, h⟩ := h.expect
  obtain ⟨t₁, t₂, ⟨res, runtime, economy⟩, rfl, hcast, h⟩ := h.bind
  obtain ⟨⟨bonus, negated, immune⟩, hward, h⟩ := h.lift
  obtain ⟨slotsAfter, -, h⟩ := h.expect
  obtain ⟨effects, hcheck, -, hrolls⟩ := resolveSupportedSpell_returns hcast.of_mapErr
  obtain ⟨ht₁, heffects⟩ := hrolls.of_ok
  refine ⟨p, hp, ?_⟩
  have hnegated : negated = true ↔ p.Turned := by
    -- the ward says whether it negates, and the trigger is what was recorded
    simp only [shieldTrigger, seq_eq_ok, rejectIf_eq_ok, pure_eq, Except.ok.injEq] at htrigger
    obtain ⟨-, -, rfl⟩ := htrigger
    have hac : p.armorClass ≤ 30 := by
      have hintent := rejectIf_eq_ok.mp (checkSpell_intent hcheck)
      omega
    rw [okOr_eq_ok, heffects] at hward
    simp only [resolveShield, shieldWardOf, List.findSome?_cons, Option.some.injEq, Prod.mk.injEq] at hward
    obtain ⟨-, hflag, -⟩ := hward
    rw [← hflag, Bool.and_eq_true, decide_eq_true_iff, decide_eq_true_iff]
    unfold PendingAttackReaction.Turned maxU8
    omega
  dsimp only at h
  split at h
  case isTrue hn =>
    obtain ⟨rfl, heq⟩ := h.of_ok
    obtain rfl : d = _ := congrArg Prod.snd heq
    exact .inl ⟨hnegated.mp hn, by rw [ht₁]; rfl, _, _, rfl⟩
  case isFalse hn =>
    obtain ⟨t₃, t₄, ⟨completion, struck⟩, rfl, hdamage, h⟩ := h.bind
    obtain ⟨rfl, heq⟩ := h.of_ok
    obtain rfl : d = _ := congrArg Prod.snd heq
    obtain ⟨faces, hfaces, rfl, hstate⟩ := resolvePendingAttackDamage_returns hdamage
    have hstruck : struck.state = { s.clawed p.critical faces with
        liveQ04 := some (raiseWard live bonus immune)
        heroRules := some { rules with runtimeResources := runtime } } :=
      hstate.trans EncounterState.clawed_with
    have hdice : t₁ ++ (clawDice faces ++ []) = clawDice faces := by
      rw [ht₁, List.nil_append, List.append_nil]
    refine .inr ⟨fun ht => hn (hnegated.mpr ht), faces, ?_⟩
    dsimp only
    split
    · refine ⟨some { raiseWard live bonus immune with shieldWard := none },
        some { rules with runtimeResources := runtime }, hfaces, hdice, ?_⟩
      show struck.state.mapLive _ = _
      unfold EncounterState.mapLive
      rw [hstruck]
      rfl
    · exact ⟨_, _, hfaces, hdice, hstruck⟩

end ManchesterArcana.Encounter
