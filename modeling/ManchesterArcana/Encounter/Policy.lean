import ManchesterArcana.Encounter.Economy
import ManchesterArcana.Encounter.Suspension

/-!
# `Encounter.Policy` — the closed policy of the Soot Wight

The driver asks `selectSootWightPolicyIntent` again and again until the hero is to move, a hit waits, or the
encounter is over. Every answer of the policy is listed and goes through on every throw, and a turn of the
creature takes seven answers at most. What can stop it is a counter: the revision of the state or the round.
-/

namespace ManchesterArcana.Encounter

open Effect Rules
open Prog (always_bind always_expect always_lift always_reject expect_bind_of_some)
open Option (bind_some isSome_iff_exists mem_unique)

/-! ## What a history keeps while the encounter goes on -/

namespace Books

variable {b b' : Books} {intent : EncounterIntent}

/-- A turn that begins raises no ward. -/
theorem takeTurn_ward {actorId : String} {resources : TurnResources}
    (h : (b.takeTurn actorId resources).ward.isSome = true) : b.ward.isSome = true := by
  unfold takeTurn Books.ward at h
  unfold Books.ward
  dsimp only at h
  split at h
  · cases hlive : b.live <;> rw [hlive] at h <;> cases h
  · exact h

theorem Kept.ward (h : b.Kept b') : b'.ward = b.ward := by
  unfold Books.ward
  rw [h.live]

/-- Whoever acts under a ward has spent the action. -/
def Spent (b : Books) : Prop := ∀ r ∈ b.resources, r.actionAvailable = false

theorem Kept.spent (h : b.Kept b') (hb : b.Spent) (hturn : b'.turn = some sootWightId) : b'.Spent := by
  rcases h.turn with ⟨-, hresources⟩ | hnone
  · unfold Spent
    rw [hresources]
    exact hb
  · rw [hnone] at hturn
    cases hturn

theorem SpendsAction.spent (h : b.SpendsAction b') : b'.Spent := by
  obtain ⟨r, -, -, rfl⟩ := h
  intro r' hr'
  obtain rfl := Option.some.inj hr'
  rfl

theorem Pays.spent {spell : SpellId} (h : b.Pays b' spell) : b'.Spent := by
  obtain ⟨-, r, pools, -, -, -, -, rfl⟩ := h
  intro r' hr'
  obtain rfl := Option.some.inj hr'
  rfl

/-- **Under a ward the action stays spent**: a ward goes up over a hit that spent it, and it falls before the
    next turn begins. -/
theorem Posts.warded (h : b.Posts intent b') (hpending : b.pending.isSome = true → b.Spent)
    (hward : b.ward.isSome = true → b.turn = some sootWightId ∧ b.Spent)
    (hready : b.status = .ready → b.ward = none)
    (hw : b'.ward.isSome = true) (hturn : b'.turn = some sootWightId) : b'.Spent := by
  have hhero : ¬ canalWardenId = sootWightId := canalWardenId_ne_sootWightId
  cases intent with
  | startEncounter =>
    obtain ⟨hs, actorId, resources, rfl⟩ := h
    have := takeTurn_ward hw
    rw [show ({ b with status := .active } : Books).ward = b.ward from rfl, hready hs] at this
    cases this
  | move destination =>
    obtain ⟨-, r, feet, position, hr, -, hmoved⟩ := h
    rcases hmoved with ⟨-, -, rfl⟩ | ⟨-, -, rfl⟩
    all_goals
      have hspent := (hward hw).2 r hr
      intro r' hr'
      obtain rfl := Option.some.inj hr'
      exact hspent
  | attack attackId targetId =>
    obtain ⟨-, spent, hspends, rfl | ⟨live, p, -, -, -, rfl⟩ | hchange | hchange⟩ := h
    · exact hspends.spent
    · exact hspends.spent
    · exact hchange.kept.spent hspends.spent hturn
    · exact hchange.kept.spent hspends.spent hturn
  | contextAction actionId =>
    obtain ⟨-, r, hr, rfl⟩ := h
    have hspent := (hward hw).2 r hr
    intro r' hr'
    obtain rfl := Option.some.inj hr'
    exact hspent
  | castSpell spell targetId =>
    obtain ⟨-, paid, hpays, rfl | hchange⟩ := h
    · exact hpays.spent
    · exact hchange.kept.spent hpays.spent hturn
  | castLight objectId | castMageHand anchor | castSleep => exact h.2.spent
  | controlMageHand objectId | dismissMageHand => exact h.2.2.spent
  | castShield =>
    obtain ⟨-, warded, ⟨live, pools, p, w, hlive, hp, -, -, -, rfl⟩, hresult⟩ := h
    have hspent : b.Spent := hpending (by unfold Books.pending; rw [hlive, bind_some, hp]; rfl)
    rcases hresult with rfl | ⟨struck, hchange, rfl | rfl⟩
    · exact hspent
    · exact hchange.kept.spent hspent hturn
    · exact hchange.kept.spent hspent hturn
  | declineReaction =>
    obtain ⟨-, live, p, hlive, hp, hchange⟩ := h
    have hspent : b.Spent := hpending (by unfold Books.pending; rw [hlive, bind_some, hp]; rfl)
    exact hchange.kept.spent hspent hturn
  | secondWind =>
    obtain ⟨-, hturn', r, pools, hitPoints, -, -, -, rfl⟩ := h
    exact absurd (mem_unique hturn' hturn) hhero
  | actionSurge =>
    obtain ⟨-, hturn', r, pools, -, -, -, -, rfl⟩ := h
    exact absurd (mem_unique hturn' hturn) hhero
  | beginShortRest =>
    obtain ⟨live, pools, hitPoints, life, rest, hlive, -, -, rfl⟩ := h
    exact (hward (by unfold Books.ward at hw ⊢; rw [hlive]; exact hw)).2
  | spendHitDie =>
    obtain ⟨live, pools, hitPoints, life, transition, rest, rest', hlive, -, -, -, -, rfl⟩ := h
    exact (hward (by unfold Books.ward at hw ⊢; rw [hlive]; exact hw)).2
  | useArcaneRecovery =>
    obtain ⟨live, pools, rest, rest', hlive, -, -, -, -, rfl⟩ := h
    exact (hward (by unfold Books.ward at hw ⊢; rw [hlive]; exact hw)).2
  | finishShortRest =>
    obtain ⟨live, pools, hitPoints, life, transition, rest, hlive, -, -, -, rfl⟩ := h
    exact (hward (by unfold Books.ward at hw ⊢; rw [hlive]; exact hw)).2
  | takeLongRest =>
    obtain ⟨live, pools, hitPoints, life, transition, hlive, -, -, -, -, rfl⟩ := h
    exact (hward (by unfold Books.ward at hw ⊢; rw [hlive]; exact hw)).2
  | endTurn =>
    obtain ⟨-, actorId, resources, hother, -, rfl⟩ := h
    -- the turn went over to the creature, and no ward was up before
    obtain rfl : actorId = sootWightId := Option.some.inj hturn
    exact absurd (hward (takeTurn_ward hw)).1 hother
  | rollDeathSave =>
    obtain ⟨-, hturn', hchange | ⟨hitPoints, life, actorId, resources, -, -, rfl⟩⟩ := h
    · rw [hchange.kept.ward] at hw
      exact absurd (mem_unique hturn' (hward hw).1) hhero
    · have hup : b.ward.isSome = true :=
        @takeTurn_ward { b with heroHitPoints := hitPoints, heroLife := life } actorId resources hw
      exact absurd (mem_unique hturn' (hward hup).1) hhero

end Books

namespace EncounterState

/-- **What a history keeps**, beyond what the engine checks: the clock stands still until the encounter is
    over, and a ward is up over a spent action alone. -/
structure Fought (s : EncounterState) : Prop where
  clock : s.isOver = false → s.books.clock = 0
  warded : s.books.ward.isSome = true → s.books.Spent

end EncounterState

namespace EncounterStep

variable {s s' : EncounterState} {a : Turned}

theorem fought (h : EncounterStep s a s') (hs : s.Fought) : s'.Fought where
  clock := by
    intro hopen
    have hnotOver : s.isOver = false := by
      cases hover : s.isOver with
      | false => rfl
      | true =>
        have hstatus : s'.status = s.status := (h.after_end hover).2.status
        unfold EncounterState.isOver at hopen hover
        rw [hstatus, hover] at hopen
        cases hopen
    have hrest : a.1.intent.isRest = false := by
      cases hr : a.1.intent.isRest with
      | false => rfl
      | true =>
        rw [h.rest_over hr] at hnotOver
        cases hnotOver
    rw [Books.clock_eq, h.posts.calendar (fun hi => by rw [hi] at hrest; cases hrest)
      (fun hi => by rw [hi] at hrest; cases hrest), ← Books.clock_eq]
    exact hs.clock hnotOver
  warded := by
    intro hw
    obtain ⟨w, hw'⟩ := isSome_iff_exists.mp hw
    refine h.posts.warded ?_ ?_ ?_ hw (h.valid_next.ward_turn hw')
    · intro hp
      rw [EncounterState.pendingHit_books] at hp
      obtain ⟨p, hp⟩ := isSome_iff_exists.mp hp
      obtain ⟨-, live, -, hpv⟩ := h.valid.pending_of_hit hp
      obtain ⟨r, hr, hspent⟩ := hpv.resources
      intro r' hr'
      obtain rfl := mem_unique hr hr'
      exact hspent
    · intro hup
      obtain ⟨w, hup'⟩ := isSome_iff_exists.mp hup
      exact ⟨h.valid.ward_turn hup', hs.warded hup⟩
    · intro hready
      cases hup : s.books.ward with
      | none => rfl
      | some w =>
        have hturn := h.valid.ward_turn hup
        have hphase := h.valid.phase
        unfold EncounterState.PhaseValid at hphase
        have hready' : s.status = .ready := hready
        rw [hready'] at hphase
        rw [hphase.actorId] at hturn
        cases hturn

end EncounterStep

variable {s : EncounterState} {n : Nat}

theorem NewEncounter.fought (h : NewEncounter s) : s.Fought := by
  have hphase := h.valid.phase
  unfold EncounterState.PhaseValid at hphase
  rw [h.ready] at hphase
  refine ⟨fun _ => ?_, fun hw => ?_⟩
  · cases hlive : s.liveQ04 with
    | none =>
      unfold Books.clock EncounterState.books
      rw [hlive]
      rfl
    | some live =>
      have hnot := (h.valid.live_of_mem (Option.mem_def.mpr hlive)).ready h.ready
      unfold Books.clock EncounterState.books
      rw [hlive]
      show live.campaignTimeMinutes = 0
      by_contra hne
      exact hnot (.inr (.inr (.inr (.inr (.inr (.inr (.inl hne)))))))
  · obtain ⟨w, hw'⟩ := isSome_iff_exists.mp hw
    have hturn := h.valid.ward_turn hw'
    rw [hphase.actorId] at hturn
    cases hturn

theorem Reachable.fought (h : Reachable s) : s.Fought := by
  obtain ⟨s₀, as, hnew, hrun⟩ := h
  exact hrun.invariant (fun _ _ _ hs hstep => hstep.fought hs) hnew.fought

/-! ## What a hit of the creature leaves behind -/

section Hit

variable {s : EncounterState} {r : TurnResources}

/-- A struck hero is up, down or dead; only the rules as written kill. -/
theorem strike_life {c : CombatantState} {damage : Nat} {critical : Bool} {policy : LethalityPolicy}
    (hk : c.kind = .hero) (hlife : c.lifeStatus = .conscious ∨ c.lifeStatus = .unconscious) :
    (c.strike damage critical policy).lifeStatus = .conscious ∨
      (c.strike damage critical policy).lifeStatus = .unconscious ∨
      (policy = .rulesAsWritten ∧ (c.strike damage critical policy).lifeStatus = .dead) := by
  unfold CombatantState.strike
  rw [if_neg (by rw [hk]; exact nofun)]
  cases policy with
  | storyRecovery =>
    rw [if_pos rfl]
    unfold CombatantState.strikeStoryHero
    by_cases h0 : c.hitPoints.current - damage = 0
    · exact .inr (.inl (if_pos h0))
    · dsimp only
      rw [if_neg h0]
      exact hlife.imp_right .inl
  | rulesAsWritten =>
    rw [if_neg nofun]
    split
    · unfold CombatantState.strikeStanding
      split
      · dsimp only
        split
        · exact .inr (.inr ⟨rfl, rfl⟩)
        · exact .inr (.inl rfl)
      · exact hlife.imp_right .inl
    · split
      · have hstable : ¬ c.lifeStatus = .stable := by
          rcases hlife with h | h <;> rw [h] <;> exact nofun
        unfold CombatantState.strikeFallen
        split
        · exact .inr (.inr ⟨rfl, rfl⟩)
        · by_cases h3 : min (c.hitPoints.deathSaves.failures + if critical then 2 else 1) 3 = 3
          · exact .inr (.inr ⟨rfl, if_pos h3⟩)
          · dsimp only
            rw [if_neg h3]
            exact hlife.imp_right .inl
      · exact hlife.imp_right .inl

theorem applyDamage_life {c : CombatantState} {amount : Nat} {critical : Bool} {policy : LethalityPolicy}
    (hk : c.kind = .hero) (hlife : c.lifeStatus = .conscious ∨ c.lifeStatus = .unconscious) :
    (applyDamage c amount critical policy).1.lifeStatus = .conscious ∨
      (applyDamage c amount critical policy).1.lifeStatus = .unconscious ∨
      (policy = .rulesAsWritten ∧ (applyDamage c amount critical policy).1.lifeStatus = .dead) := by
  rw [applyDamage_fst]
  exact strike_life hk hlife

namespace EncounterState

/-- The hero struck, before anything follows from it. -/
def struck (s : EncounterState) (critical : Bool) (faces : List Nat) : EncounterState :=
  { s with hero := (applyDamage s.hero (clawDamage faces) critical s.lethalityPolicy).1 }

theorem clawed_eq {critical : Bool} {faces : List Nat} :
    s.clawed critical faces = (s.struck critical faces).settleHealth canalWardenId := rfl

/-- The claw strikes on an action that was spent on it. -/
theorem struck_stepped (hv : s.Valid) (hs : s.status = .active) (critical : Bool) (faces : List Nat) :
    Stepped s ((s.spendAction r).struck critical faces) := by
  have hchanged : HealthChanged s.hero (applyDamage s.hero (clawDamage faces) critical s.lethalityPolicy).1 :=
    applyDamage_changed
  refine
    { within := rfl
      heroSkeleton := hchanged.skeleton
      creatureSkeleton := rfl
      rulesSkeleton := rfl
      hero := (applyDamage_valid hv.hero (clawDamage faces) critical s.lethalityPolicy).sound
      creature := hv.creature.sound
      pools := hv.moved.pools
      effects := ⟨?_, hv.effects.notFailed, hv.effects.veil, hv.effects.unveiled⟩
      core := ?_
      noLive := hv.noLive }
  · refine Eq.trans ?_ hv.effects.ward
    unfold hasRuneWard
    have heffects : ((s.spendAction r).struck critical faces).hero.statusEffects = s.hero.statusEffects := by
      show (applyDamage s.hero (clawDamage faces) critical s.lethalityPolicy).1.statusEffects = _
      rw [hchanged]
    rw [heffects]
  · intro h3
    obtain ⟨live, hlive, hvalid⟩ := hv.live h3
    refine ⟨live, hlive, hvalid.core.step rfl ?_ rfl (hv.active hs).creatureLife, hvalid.noRest hs⟩
    show (applyDamage s.hero (clawDamage faces) critical s.lethalityPolicy).1.positionFeet = s.hero.positionFeet
    rw [hchanged]

/-- **What the claw leaves behind is valid**, whether the encounter goes on or ends with it. -/
theorem clawed_moved (hv : s.Valid) (hs : s.status = .active) (hr : s.turnResources = some r)
    (hclock : ∀ live ∈ s.liveQ04, live.campaignTimeMinutes = 0)
    (hquiet : ∀ live ∈ s.liveQ04, live.pendingAttackReaction = none ∧ live.shieldWard = none)
    (critical : Bool) (faces : List Nat) : ((s.spendAction r).clawed critical faces).Moved := by
  have hactive := hv.active hs
  have hstep := struck_stepped (r := r) hv hs critical faces
  have hleft := hactive.leftOf hr
  have hgoesOn (hlife : ((s.spendAction r).struck critical faces).hero.lifeStatus = .conscious ∨
      ((s.spendAction r).struck critical faces).hero.lifeStatus = .unconscious) :
      ((s.spendAction r).struck critical faces).Moved := by
    refine hstep.moved hv hs hlife hactive.creatureLife hr rfl
      ⟨le_rfl, hleft.grid, hleft.bonusAction, hleft.reaction, hleft.objectInteraction⟩ ?_ ?_
    · intro live hlive p hp
      rw [(hquiet live hlive).1] at hp
      cases hp
    · intro live hlive w hw
      rw [(hquiet live hlive).2] at hw
      cases hw
  have hlife := @applyDamage_life s.hero (clawDamage faces) critical s.lethalityPolicy hv.fixed.heroKind
    hactive.heroLife
  rw [clawed_eq]
  unfold settleHealth finishForHealthTransition
  rw [if_neg fun h => canalWardenId_ne_sootWightId h.1, if_pos rfl]
  have hdown {reason : DefeatReason}
      (hhero : (s.lethalityPolicy = .storyRecovery ∧
          ((s.spendAction r).struck critical faces).hero.lifeStatus = .unconscious) ∨
        (s.lethalityPolicy = .rulesAsWritten ∧
          (((s.spendAction r).struck critical faces).hero.lifeStatus = .stable ∨
            ((s.spendAction r).struck critical faces).hero.lifeStatus = .dead))) :
      (((s.spendAction r).struck critical faces).defeat reason).Moved :=
    hstep.defeat hv hs hhero hclock hquiet
  rcases hlife with hup | hfallen | ⟨hpolicy, hdead⟩
  · have hup' : ((s.spendAction r).struck critical faces).hero.lifeStatus = .conscious := hup
    have hmoved := hgoesOn (.inl hup')
    split
    · next hl => exact absurd (hl.symm.trans hup') nofun
    · next hl => exact absurd (hl.symm.trans hup') nofun
    · exact hmoved
  · have hfallen' : ((s.spendAction r).struck critical faces).hero.lifeStatus = .unconscious := hfallen
    split
    · next hp hl => exact hdown (.inl ⟨hp, hfallen'⟩)
    · next hp hl => exact absurd (hl.symm.trans hfallen') nofun
    · exact hgoesOn (.inr hfallen')
  · have hdead' : ((s.spendAction r).struck critical faces).hero.lifeStatus = .dead := hdead
    split
    · next hp hl => exact absurd (hl.symm.trans hdead') nofun
    · next hp hl => exact hdown (.inr ⟨hp, .inr hdead'⟩)
    · next _ _ hno => exact absurd hdead' (hno hpolicy)

end EncounterState

end Hit

/-! ## The attack goes through on every throw -/

/-- A program that returns without a question returns whatever the answers are. -/
theorem always_of_returns_nil {ε α : Type} {p : Rolling ε α} {a : α} {Q : α → Prop} (h : Prog.Returns p [] a)
    (hQ : Q a) : Prog.Always InRange p Q := by
  cases h with
  | ok a => exact hQ

namespace Recorded

variable {s : EncounterState} {d : Draft}

theorem recordLifeChange (h : Recorded s d) {id : String} {a b : LifeStatus} {saves : DeathSaves} :
    Recorded s (Encounter.recordLifeChange d id a b saves) := by
  unfold Encounter.recordLifeChange
  split
  · exact h.push ⟨fun _ => rfl, fun _ => rfl⟩
  · exact h

theorem finish (h : Recorded s d) {targetId : String} : Recorded s (finishForHealthTransition d targetId).2 := by
  unfold finishForHealthTransition
  split
  · exact h.update.push ⟨fun _ => rfl, fun _ => rfl⟩
  · split
    · split
      · exact h.update.push ⟨fun _ => rfl, fun _ => rfl⟩
      · exact h.update.push ⟨fun _ => rfl, fun _ => rfl⟩
      · exact h
    · exact h

/-- **The damage of a claw is recorded as every schema version knows it.** -/
theorem clawDamage (h : Recorded s d) {actor target : CombatantState} {critical : Bool} {t : List (Nat × Nat)}
    {n : DeterministicNarration} {d' : Draft}
    (hret : Prog.Returns (resolveWeaponDamage d actor target sootWightId canalWardenId creatureAttack critical) t
      (n, d')) : Recorded s d' := by
  obtain ⟨t₁, t₂, ⟨roll, rolls⟩, -, hroll, hret⟩ := hret.bind
  obtain ⟨faces, o, -, -, -, -, hroom, rfl, hvalid, rfl⟩ := performRoll_returns.mp hroll
  obtain ⟨-, hret⟩ := hret.reject
  have hrolled := h.withRoll hroom rfl hvalid ⟨fun _ => rfl, fun _ => rfl⟩
  dsimp only at hret
  rw [wakeSleepAfterDamage_hero] at hret
  split at hret
  all_goals
    obtain ⟨-, heq⟩ := hret.of_ok
    obtain rfl : d' = _ := congrArg Prod.snd heq
    exact (hrolled.update.push ⟨fun _ => rfl, fun _ => rfl⟩).recordLifeChange.finish

end Recorded

/-- **The unbroken claw goes through on every throw.** -/
theorem resolveWeaponDamage_always (hv : s.Valid) {d : Draft} (hframe : Frame s d.state)
    (hrolls : d.rolls.length = 1) (hrecorded : Recorded s d) {critical : Bool}
    (hmoved : ∀ faces, ClawFaces critical faces → (d.state.clawed critical faces).Moved) :
    Prog.Always InRange
      (resolveWeaponDamage d s.creature d.state.hero sootWightId canalWardenId creatureAttack critical)
      fun resolved => Sealable s resolved.1 resolved.2 := by
  have hwf : (damageRequest sootWightId canalWardenId creatureAttack.attackId critical
      creatureAttack.damageDieSides creatureAttack.damageModifier).WellFormed := clawRequest_wellFormed
  have hroom : d.rolls.length < maxU16 := by
    rw [hrolls]
    decide
  unfold resolveWeaponDamage
  refine always_bind.mpr (performRoll_always hwf hroom fun faces o hlen hin ho hvalid => ?_)
  have hfaces : ClawFaces critical faces := ⟨hlen, hin⟩
  obtain ⟨n, d', hret, hstate, hn, -, hfacts⟩ :=
    resolveWeaponDamage_claws hv hframe hrolls hrecorded.rolls hfaces
  have hseal : Sealable s n d' := by
    refine (hrecorded.clawDamage hret).sealable hn ?_ ?_ hfacts
    · rw [hstate]
      exact hframe.trans EncounterState.clawed_frame
    · rw [hstate]
      exact hmoved faces hfaces
  -- the same throw, taken apart: after the dice nothing is asked
  obtain ⟨t₁, t₂, ⟨roll, rolls⟩, hdice, hroll, hrest⟩ := hret.bind
  obtain ⟨faces', o', hlen', -, rfl, ho', -, rfl, -, rfl⟩ := performRoll_returns.mp hroll
  have hnil : t₂ = [] := by
    have hlength := congrArg List.length hdice
    unfold clawDice at hlength
    rw [List.length_append, List.length_map, List.length_map, hlen, hlen'] at hlength
    exact List.eq_nil_of_length_eq_zero (by omega)
  subst hnil
  have hsame : faces = faces' := by
    have hvalues := congrArg (List.map Prod.snd) hdice
    simpa [clawDice, Function.comp_def] using hvalues
  subst hsame
  obtain rfl : o = o' := Except.ok.inj (ho.symm.trans ho')
  exact always_of_returns_nil hrest hseal

section Attack

variable {s : EncounterState} {r : TurnResources}

/-- What a d20 against an armor class comes to. -/
theorem ofRoll_attackOutcome (natural : Nat) (total target : Int) : ∃ outcome,
    AttackOutcome.ofRoll (RawRollFacts.attackOutcome natural total target) = some outcome ∧
      (¬ outcome.isHit = false → natural ≠ 1 ∧ (natural = 20 ∨ target ≤ total)) := by
  unfold RawRollFacts.attackOutcome
  by_cases h1 : natural = 1
  · exact ⟨.automaticMiss, by rw [if_pos h1]; rfl, fun h => absurd rfl h⟩
  · rw [if_neg h1]
    by_cases h20 : natural = 20
    · exact ⟨.criticalHit, by rw [if_pos h20]; rfl, fun _ => ⟨h1, .inl h20⟩⟩
    · rw [if_neg h20]
      by_cases hge : total ≥ target
      · exact ⟨.hit, by rw [if_pos hge]; rfl, fun _ => ⟨h1, .inr hge⟩⟩
      · exact ⟨.miss, by rw [if_neg hge]; rfl, fun h => absurd rfl h⟩

namespace EncounterState

/-- The state in which a hit waits on a spent action. -/
def suspended (s : EncounterState) (r : TurnResources) (p : PendingAttackReaction) : EncounterState :=
  (s.spendAction r).mapLive fun live => { live with pendingAttackReaction := some p }

/-- **A hit that starts to wait leaves a valid state.** -/
theorem suspended_moved (hv : s.Valid) (hs : s.status = .active) (hr : s.turnResources = some r)
    (h3 : s.schemaVersion = encounterSchemaVersion) {p : PendingAttackReaction}
    (hpending : ∀ live ∈ s.liveQ04, PendingValid (s.suspended r p) { live with pendingAttackReaction := some p } p)
    (hquiet : ∀ live ∈ s.liveQ04, live.shieldWard = none) : (s.suspended r p).Moved := by
  have hactive := hv.active hs
  have hleft := hactive.leftOf hr
  obtain ⟨live, hlive, hvalid⟩ := hv.live h3
  have hlive' : (s.suspended r p).liveQ04 = some { live with pendingAttackReaction := some p } := by
    show s.liveQ04.map _ = _
    rw [hlive]
    rfl
  have hcore := hvalid.core
  have hstep : Stepped s (s.suspended r p) :=
    { within := rfl
      heroSkeleton := rfl
      creatureSkeleton := rfl
      rulesSkeleton := rfl
      hero := hv.hero.sound
      creature := hv.creature.sound
      pools := hv.moved.pools
      effects := ⟨hv.effects.ward, hv.effects.notFailed, hv.effects.veil, hv.effects.unveiled⟩
      core := fun _ => ⟨_, hlive', ⟨hcore.objects,
        fun hand hmem => by
          obtain ⟨position, hposition, h⟩ := hcore.hand hand hmem
          exact ⟨position, hposition, h.step rfl rfl⟩,
        hcore.noHand, fun sleep hmem => (hcore.sleep sleep hmem).step rfl hactive.creatureLife, hcore.awake,
        hcore.longRest⟩, hvalid.noRest hs⟩
      noLive := fun hne => absurd h3 hne }
  refine hstep.moved hv hs hactive.heroLife hactive.creatureLife hr rfl
    ⟨le_rfl, hleft.grid, hleft.bonusAction, hleft.reaction, hleft.objectInteraction⟩ ?_ ?_
  · intro live' hmem p' hp'
    obtain rfl := mem_unique hlive' hmem
    obtain rfl := Option.some.inj hp'
    exact hpending live hlive
  · intro live' hmem w hw
    obtain rfl := mem_unique hlive' hmem
    rw [show ({ live with pendingAttackReaction := some p } : EncounterLiveQ04State).shieldWard = live.shieldWard
      from rfl, hquiet live hlive] at hw
    cases hw

end EncounterState

theorem shieldWindow_valid {actorName targetName : String} (ha : IsText 120 actorName) (ht : IsText 120 targetName) :
    (narration "encounter:reaction:shield-window"
      (actorName ++ "'s claw breaks through " ++ targetName ++
        "'s guard; a heartbeat remains to raise a Shield.")
      "The Soot Wight has hit. Shield or decline the reaction before damage is rolled.").Valid := by
  have hfallback : isBlank
      "The Soot Wight has hit. Shield or decline the reaction before damage is rolled." = false := by decide
  exact narration_valid (by decide)
    ((((ha.append (b := "'s claw breaks through ") (n := 30) (by decide)).append ht.length_le).append
      (b := "'s guard; a heartbeat remains to raise a Shield.") (n := 60) (by decide)).mono (by decide))
    ⟨hfallback, by decide⟩

/-- **The creature's claw goes through on every throw**, at whatever state of a history its guards let it. -/
theorem resolveAttack_always (hv : s.Valid) (hfought : s.Fought) (hs : s.status = .active)
    (hturn : s.currentActorId = some sootWightId)
    (ha : CreatureAttack s sootWightAttackId canalWardenId) :
    Prog.Always InRange (resolveAttack (.of s) sootWightAttackId canalWardenId)
      fun resolved => Sealable s resolved.1 resolved.2 := by
  obtain ⟨-, -, hrange, harmor, r, hr, haction⟩ := ha
  obtain ⟨hheroId, hwightId⟩ := isValid_ids
  have hactive := hv.active hs
  have hcurrent := hv.creature_current hs hturn
  have halive : s.hero.lifeStatus ≠ .dead := by
    rcases hactive.heroLife with h | h <;> rw [h] <;> exact nofun
  have hguard : requireConsciousActiveActor s = .ok sootWightId :=
    requireConsciousActiveActor_eq_ok.mpr ⟨hs, s.creature, hcurrent, hactive.creatureLife, hv.fixed.creatureId.symm⟩
  have hattack : okOr (attackForActor s sootWightId sootWightAttackId)
      (EncounterError.attackUnavailable sootWightId sootWightAttackId) = .ok creatureAttack := by
    unfold attackForActor attacksForActor
    rw [if_neg sootWightId_ne_canalWardenId, if_pos rfl]
    rfl
  have hwf : (attackRequest sootWightId canalWardenId creatureAttack s.hero.armorClass).WellFormed :=
    attackRequest_wellFormed EncounterAttack.creatureAttack_valid hwightId hheroId
  have hroom : ([] : List RawRollFacts).length < maxU16 := by decide
  have hcreature : s.combatant sootWightId = some s.creature :=
    (if_neg sootWightId_ne_canalWardenId).trans (if_pos rfl)
  -- over an action that is left nothing waits, nothing wards, and the clock stands still
  have hquiet : ∀ live ∈ s.liveQ04, live.pendingAttackReaction = none ∧ live.shieldWard = none := by
    intro live hlive
    refine ⟨hv.noPending_of_action hr haction hlive, ?_⟩
    cases hw : live.shieldWard with
    | none => rfl
    | some w =>
      have hspent := hfought.warded (by
        unfold Books.ward
        rw [EncounterState.books_live_of hlive, bind_some, show live.books.ward = live.shieldWard from rfl, hw]
        rfl) r hr
      rw [haction] at hspent
      cases hspent
  have hclock : ∀ live ∈ s.liveQ04, live.campaignTimeMinutes = 0 := by
    intro live hlive
    have hzero := hfought.clock (by unfold EncounterState.isOver; rw [hs]; rfl)
    unfold Books.clock at hzero
    rw [EncounterState.books_live_of hlive] at hzero
    exact hzero
  unfold resolveAttack
  refine always_bind.mpr (always_lift.mpr ⟨sootWightId, hguard, ?_⟩)
  refine always_bind.mpr (always_lift.mpr ⟨creatureAttack, hattack, ?_⟩)
  refine always_bind.mpr (always_reject.mpr ⟨?_, ?_⟩)
  · rw [if_neg sootWightId_ne_canalWardenId]
    exact not_not.mpr rfl
  refine always_bind.mpr (always_expect.mpr ⟨s.hero, if_pos rfl, ?_⟩)
  refine always_bind.mpr (always_reject.mpr ⟨halive, ?_⟩)
  refine always_bind.mpr (always_expect.mpr ⟨s.creature, hcreature, ?_⟩)
  refine always_bind.mpr (always_reject.mpr ⟨Nat.not_lt.mpr hrange, ?_⟩)
  refine always_bind.mpr (always_expect.mpr ⟨r, hr, ?_⟩)
  refine always_bind.mpr (always_reject.mpr ⟨by rw [haction]; exact nofun, ?_⟩)
  refine always_bind.mpr (always_expect.mpr ⟨(), if_pos harmor, ?_⟩)
  refine always_bind.mpr (performRoll_always hwf hroom fun faces o hlen hin ho hvalid => ?_)
  obtain ⟨face, rfl⟩ := List.length_eq_one_iff.mp hlen
  have hface : InRange 20 face := hin face (List.mem_singleton_self face)
  obtain ⟨outcome, houtcome, hhits⟩ := ofRoll_attackOutcome face
    ((([face] : List Nat).map (Int.ofNat ·)).sum +
      (attackRequest sootWightId canalWardenId creatureAttack s.hero.armorClass).modifierTotal) s.hero.armorClass
  obtain rfl := Except.ok.inj ho
  refine always_bind.mpr (always_expect.mpr ⟨outcome, houtcome, ?_⟩)
  have hrecorded := (((Recorded.of s).update (f := fun s => s.spendAction r)).withRoll hroom rfl hvalid
    ⟨fun _ => rfl, fun _ => rfl⟩).push (f := .attackResolved sootWightId canalWardenId sootWightAttackId
        (distance s.creature.positionFeet s.hero.positionFeet) creatureAttack.rangeFeet s.hero.armorClass
        ((([face] : List Nat).map (Int.ofNat ·)).sum +
          (attackRequest sootWightId canalWardenId creatureAttack s.hero.armorClass).modifierTotal)
        outcome) ⟨fun _ => rfl, fun _ => rfl⟩
  dsimp only
  split
  case isTrue =>
    exact hrecorded.sealable (missNarration_valid hv.creature.name_isText hv.hero.name_isText)
      (EncounterState.spendAction_stepped (r := r) hv hs).frame (EncounterState.spendAction_moved hv hs hr)
      Draft.push_facts_ne
  case isFalse hhit =>
    obtain ⟨hnot1, hhits⟩ := hhits hhit
    split
    case isTrue hopens =>
      obtain ⟨h3, -, hready⟩ := hopens
      refine always_bind.mpr (always_expect.mpr ⟨face, rfl, ?_⟩)
      have hcritical : outcome.isCritical = decide (face = 20) := isCritical_of_hit houtcome hhit
      have hmoved := EncounterState.suspended_moved (r := r) hv hs hr h3
        (p := { actorId := sootWightId, targetId := canalWardenId, attackId := sootWightAttackId
                naturalRoll := face
                attackTotal := (([face] : List Nat).map (Int.ofNat ·)).sum +
                  (attackRequest sootWightId canalWardenId creatureAttack s.hero.armorClass).modifierTotal
                armorClass := s.hero.armorClass, critical := outcome.isCritical })
        (fun live hlive => ⟨⟨_, rfl, rfl⟩, hs, hturn, rfl, rfl, rfl, hface, hnot1, hhits, rfl, hcritical,
          (hquiet live hlive).2⟩) fun live hlive => (hquiet live hlive).2
      refine (hrecorded.update.push (f := .attackReactionOpened ..) (EncounterFact.fits_live h3)).sealable
        (shieldWindow_valid hv.creature.name_isText hv.hero.name_isText) rfl hmoved Draft.push_facts_ne
    case isFalse =>
      exact resolveWeaponDamage_always hv (EncounterState.spendAction_stepped (r := r) hv hs).frame rfl hrecorded
        fun faces _ => EncounterState.clawed_moved hv hs hr hclock hquiet _ faces

end Attack

/-! ## What the policy answers -/

/-- **The Soot Wight is to act**: it is its turn, and no hit waits for the hero. -/
structure Acting (s : EncounterState) : Prop where
  active : s.status = .active
  turn : s.currentActorId = some sootWightId
  undisturbed : s.pendingReaction = false

/-- The policy closes in: a step of the creature that its movement pays for and that brings it nearer. -/
structure ClosesIn (s : EncounterState) (r : TurnResources) (destinationFeet : Nat) : Prop where
  minimum : s.map.minimumPositionFeet ≤ destinationFeet
  maximum : destinationFeet ≤ s.map.maximumPositionFeet
  grid : 5 ∣ destinationFeet
  moves : destinationFeet ≠ s.creature.positionFeet
  budget : distance s.creature.positionFeet destinationFeet ≤ r.movementRemainingFeet
  nearer : distance destinationFeet s.hero.positionFeet < distance s.creature.positionFeet s.hero.positionFeet

/-- What the policy may answer on a turn with `r` left of it. -/
def Answer (s : EncounterState) (r : TurnResources) : EncounterIntent → Prop
  | .attack attackId targetId => attackId = sootWightAttackId ∧ targetId = canalWardenId ∧
      r.actionAvailable = true ∧ distance s.creature.positionFeet s.hero.positionFeet ≤ creatureAttack.rangeFeet
  | .move destinationFeet => ClosesIn s r destinationFeet
  | .endTurn => True
  | _ => False

section Selection

variable {s : EncounterState}

namespace Acting

theorem current (h : Acting s) (hv : s.Valid) : s.currentActor = some s.creature :=
  hv.creature_current h.active h.turn

end Acting

variable {r : TurnResources}

/-- A destination between two bounds costs no more than the bounds allow. -/
theorem closesIn_of_clamp (hv : s.Valid) (hgrid : 5 ∣ r.movementRemainingFeet)
    {minimum maximum destination : Nat}
    (hmin : minimum = max (s.creature.positionFeet - r.movementRemainingFeet) s.map.minimumPositionFeet)
    (hmax : maximum = min (s.creature.positionFeet + r.movementRemainingFeet) s.map.maximumPositionFeet)
    (hdestination : destination = max minimum (min maximum (desiredPosition s)))
    (hmoves : destination ≠ s.creature.positionFeet)
    (hnearer : distance destination s.hero.positionFeet < distance s.creature.positionFeet s.hero.positionFeet) :
    ClosesIn s r destination := by
  have hminimum : s.map.minimumPositionFeet = 0 := hv.envelope.minimum
  have hmaximum : s.map.maximumPositionFeet = 60 := hv.envelope.maximum
  have hcreature := hv.creature.position_grid
  have hcreature_le := hv.creature.position_le
  have hhero := hv.hero.position_grid
  have hhero_le := hv.hero.position_le
  have hdesired : desiredPosition s ≤ 60 ∧ 5 ∣ desiredPosition s := by
    unfold desiredPosition
    dsimp only
    rw [hmaximum] at hhero_le hcreature_le ⊢
    split
    · omega
    · split
      · omega
      · exact ⟨hcreature_le, hcreature⟩
  obtain ⟨hdesired_le, hdesired_grid⟩ := hdesired
  rw [hminimum] at hmin
  rw [hmaximum] at hmax hcreature_le
  have hbounds : destination ≤ 60 ∧ 5 ∣ destination ∧
      s.creature.positionFeet - r.movementRemainingFeet ≤ destination ∧
      destination ≤ s.creature.positionFeet + r.movementRemainingFeet := by
    omega
  obtain ⟨hle, hfive, hlow, hhigh⟩ := hbounds
  refine ⟨by omega, by omega, hfive, hmoves, ?_, hnearer⟩
  unfold distance absDiff
  omega

/-- **The policy always has an answer, and it is listed.** -/
theorem policy_answers (hv : s.Valid) (ha : Acting s) (hr : s.turnResources = some r) :
    ∃ intent, selectSootWightPolicyIntent s = .ok intent ∧ Answer s r intent ∧ Listed s intent := by
  obtain ⟨actions, hlegal, hmem⟩ := legalActions_yields hv
  have hcurrent := ha.current hv
  have hlisted {a : LegalEncounterAction} {intent : EncounterIntent} (hin : a ∈ actions) (hc : a.Covers intent) :
      Listed s intent := ⟨actions, hlegal, a, hin, hc⟩
  have hguard :
      ¬ (s.status ≠ .active ∨ s.currentActorId ≠ some s.creature.id ∨ s.creature.id ≠ sootWightId) := by
    rw [hv.fixed.creatureId, not_or, not_or, not_not, not_not, not_not]
    exact ⟨ha.active, ha.turn, rfl⟩
  -- whoever the list is about is the creature, with what is left of its turn
  have hactor {actor : CombatantState} {r' : TurnResources} (ht : OrdinaryTurn s actor r') :
      actor = s.creature ∧ r' = r :=
    ⟨mem_unique ht.current hcurrent, mem_unique ht.resources hr⟩
  unfold selectSootWightPolicyIntent
  rw [EncounterState.validate_eq_ok.mpr hv, ok_bind, rejectIf_of_not hguard, ok_bind, hlegal, ok_bind]
  split
  case isTrue hattack =>
    -- the claw is on the list
    obtain ⟨a, hin, hclaw⟩ := List.any_eq_true.mp hattack
    cases a with
    | attack attackId targetId rangeFeet =>
      obtain ⟨rfl, rfl⟩ := of_decide_eq_true hclaw
      obtain ⟨actor, r', target, attacks, attack, ht, haction, htarget, -, hattacks, hone, hrange, hid, hhero, hfeet⟩ :=
        (hmem _).mp hin
      obtain ⟨rfl, rfl⟩ := hactor ht
      have hclawOnly : attack = creatureAttack := by
        unfold attacksForActor at hattacks
        rw [hv.fixed.creatureId, if_neg sootWightId_ne_canalWardenId, if_pos rfl] at hattacks
        obtain rfl := Option.some.inj hattacks
        exact List.mem_singleton.mp hone
      have hhero' : target = s.hero := by
        unfold opposingCombatant at htarget
        rw [hv.fixed.creatureId, if_neg sootWightId_ne_canalWardenId, if_pos rfl] at htarget
        exact (Option.some.inj htarget).symm
      rw [hclawOnly, hhero'] at hrange
      exact ⟨_, rfl, ⟨rfl, hv.fixed.heroId, haction, hrange⟩, hlisted hin ⟨rfl, rfl⟩⟩
    | _ => cases hclaw
  case isFalse =>
    dsimp only
    split
    case h_1 destination happroach =>
      -- a move is on the list, and it brings the creature nearer
      obtain ⟨⟨minimum, maximum⟩, hbounds, happroach⟩ := Option.bind_eq_some_iff.mp happroach
      obtain ⟨a, hin, hmove⟩ := List.exists_of_findSome?_eq_some hbounds
      dsimp only at happroach
      split at happroach
      case isTrue hgoes =>
        obtain rfl := Option.some.inj happroach
        cases a with
        | move minimum' maximum' remaining =>
          obtain ⟨rfl, rfl⟩ : minimum' = minimum ∧ maximum' = maximum := by
            have := Option.some.inj hmove
            exact ⟨congrArg Prod.fst this, congrArg Prod.snd this⟩
          obtain ⟨actor, r', ht, -, hmin, hmax, -⟩ := (hmem _).mp hin
          obtain ⟨rfl, rfl⟩ := hactor ht
          have hleft := (hv.active ha.active).leftOf hr
          have hcloses := closesIn_of_clamp hv hleft.grid hmin hmax rfl hgoes.1 hgoes.2
          have hposition := hv.creature.position_le
          have hle : minimum' ≤ maximum' := by
            rw [hmin, hmax, hv.envelope.minimum]
            show max _ 0 ≤ _
            omega
          exact ⟨_, rfl, hcloses, hlisted hin ⟨le_max_left _ _, max_le hle (min_le_left _ _)⟩⟩
        | _ => cases hmove
      case isFalse => cases happroach
    case h_2 =>
      -- the turn can be ended whatever is left of it
      have hend : LegalEncounterAction.endTurn ∈ actions :=
        (hmem _).mpr ⟨ha.active, ha.undisturbed, s.creature, hcurrent, (hv.active ha.active).creatureLife⟩
      rw [if_pos hend]
      exact ⟨_, rfl, trivial, hlisted hend trivial⟩

end Selection

/-! ## Every answer goes through while the counters last -/

/-- **What an answer needs.** A state has a revision left; the claw compares armor classes of sixteen bits; and the
    turn can be handed to a hero whose speed is on the grid, while a round is left when the order wraps around. -/
def HasRoom (s : EncounterState) (intent : EncounterIntent) : Prop :=
  s.revision + 1 ≤ maxU64 ∧
    match intent with
    | .attack _ _ => (s.hero.armorClass : Int) ≤ maxI16
    | .endTurn => 5 ∣ s.hero.speedFeet ∧ (s.currentActorIndex = some 1 → s.round < maxU32)
    | _ => True

section Answers

variable {s : EncounterState} {r : TurnResources}

/-- The move of the creature, taken through its guards. -/
theorem resolveMove_creature (hv : s.Valid) (ha : Acting s) (hr : s.turnResources = some r) {destination : Nat}
    (h : ClosesIn s r destination) : ∃ n d, resolveMove (.of s) destination = .ok (n, d) ∧ Sealable s n d ∧
      d.state = s.creatureMoved r destination := by
  have hcurrent := ha.current hv
  have hup := (hv.active ha.active).creatureLife
  obtain ⟨n, d, heq, hseal, -⟩ := resolveMove_settles hv ha.active hcurrent hup hr h.minimum h.maximum h.grid h.moves
    h.budget
  refine ⟨n, d, heq, hseal, ?_⟩
  have hguard : requireConsciousActiveActor s = .ok s.creature.id :=
    requireConsciousActiveActor_eq_ok.mpr ⟨ha.active, s.creature, hcurrent, hup, rfl⟩
  have hbounds : ¬ (destination < s.map.minimumPositionFeet ∨ destination > s.map.maximumPositionFeet ∨
      ¬ 5 ∣ destination) := by
    rw [not_or, not_or, not_not, Nat.not_lt, Nat.not_lt]
    exact ⟨h.minimum, h.maximum, h.grid⟩
  unfold resolveMove at heq
  dsimp only [Draft.of] at heq
  rw [Prog.lift_bind_of_ok hguard, Prog.reject_bind_of_not hbounds,
    expect_bind_of_some (hv.combatant_current ha.active hcurrent), Prog.reject_bind_of_not h.moves,
    expect_bind_of_some hr, Prog.reject_bind_of_not (Nat.not_lt.mpr h.budget), hv.fixed.creatureId,
    if_neg fun h => sootWightId_ne_canalWardenId h.1] at heq
  dsimp only [Draft.update] at heq
  rw [EncounterState.updateCombatant_creature, Prog.pure_eq, Prog.ok_bind] at heq
  cases heq
  rfl

/-- What a passed turn leaves alone, and what the next one starts with. -/
structure TurnTaken (s s' : EncounterState) (index speedFeet : Nat) (actorId : String) : Prop where
  status : s'.status = s.status
  hero : s'.hero = s.hero
  position : s'.currentActorIndex = some index
  turn : s'.currentActorId = some actorId
  resources : ∃ bonusAction, s'.turnResources = some (.start speedFeet bonusAction)
  round : s'.round = if index = 0 then s.round + 1 else s.round
  revision : s'.revision = s.revision
  schemaVersion : s'.schemaVersion = s.schemaVersion

theorem passTurn_taken {index speedFeet : Nat} {actorId : String} :
    TurnTaken s (s.passTurn index actorId speedFeet) index speedFeet actorId := by
  unfold EncounterState.passTurn EncounterState.wrapRound
  split
  · next h =>
    rw [EncounterState.ageRound_eq]
    exact ⟨rfl, rfl, rfl, rfl, ⟨_, rfl⟩, (if_pos h).symm, rfl, rfl⟩
  · next h => exact ⟨rfl, rfl, rfl, rfl, ⟨_, rfl⟩, (if_neg h).symm, rfl, rfl⟩

/-- The combatants of a state whose turn passed, by their ids. -/
theorem combatant_passTurn {index speedFeet : Nat} {actorId id : String}
    (hid : id = canalWardenId ∨ id = sootWightId) :
    ∃ c, (s.passTurn index actorId speedFeet).combatant id = some c ∧
      (c = (s.passTurn index actorId speedFeet).hero ∨ c = (s.passTurn index actorId speedFeet).creature) := by
  rcases hid with rfl | rfl
  · exact ⟨_, if_pos rfl, .inl rfl⟩
  · exact ⟨_, (if_neg sootWightId_ne_canalWardenId).trans (if_pos rfl), .inr rfl⟩

variable {i : InitiativeState} {oldIndex index : Nat} {nextId : String} {c : EncounterCommand}

variable {actor : CombatantState} {Q : Resolved → Prop}

/-- **A turn that is ended goes to the next participant**, as far as the round counter goes. -/
theorem resolveEndTurn_passes (hv : s.Valid) (hs : s.status = .active)
    (hcurrent : s.currentActor = some actor) (hup : actor.lifeStatus = .conscious) {next : CombatantState}
    (hn : NextTurn s i oldIndex index nextId next) (hround : index = 0 → s.round < maxU32) :
    ∃ n d, resolveEndTurn (.of s) = .ok (n, d) ∧ d.state = s.passTurn index nextId next.speedFeet ∧
      d.rolls = [] ∧ d.facts ≠ [] ∧ (∀ f ∈ d.facts, f.Fits s.schemaVersion) ∧ Frame s d.state ∧
      (d.state.Valid → n.Valid) := by
  obtain ⟨facts, hadvance, hfacts, hfit⟩ := advanceTurn_of_valid (d := .of s) hv hn hround
  have hframe : Frame s (s.passTurn index nextId next.speedFeet) := by
    have hret : Prog.Returns (advanceTurn (.of s)) [] ⟨s.passTurn index nextId next.speedFeet, [], [] ++ facts⟩ := by
      rw [hadvance]
      exact .ok _
    exact (advanceTurn_returns hret).2.2.frame
  have hguard : requireConsciousActiveActor s = .ok actor.id :=
    requireConsciousActiveActor_eq_ok.mpr ⟨hs, actor, hcurrent, hup, rfl⟩
  have hended : ∃ endedId, s.currentActorId = some endedId ∧ (endedId = canalWardenId ∨ endedId = sootWightId) := by
    rcases hv.turn_cases hs with ⟨h, -⟩ | ⟨h, -⟩
    · exact ⟨_, h, .inl rfl⟩
    · exact ⟨_, h, .inr rfl⟩
  obtain ⟨endedId, hendedId, hknown⟩ := hended
  have hnext : nextId = canalWardenId ∨ nextId = sootWightId := hn.turn.imp (·.1) (·.1)
  obtain ⟨endedActor, hlookup, hendedActor⟩ :=
    @combatant_passTurn s index next.speedFeet nextId endedId hknown
  obtain ⟨nextActor, hlookup', hnextActor⟩ := @combatant_passTurn s index next.speedFeet nextId nextId hnext
  refine ⟨narration "encounter:turn:end"
      (endedActor.name ++ " yields the moment; " ++ nextActor.name ++ " takes the next turn.")
      ("Turn ended. " ++ nextId ++ " acts next."),
    { (Draft.of s) with state := s.passTurn index nextId next.speedFeet, facts := [] ++ facts }, ?_, rfl, rfl,
    hfacts, hfit, hframe, ?_⟩
  · have hturn : (s.passTurn index nextId next.speedFeet).currentActorId = some nextId := rfl
    unfold resolveEndTurn
    rw [Prog.lift_bind_of_ok hguard, expect_bind_of_some hendedId, hadvance, Prog.ok_bind]
    dsimp only [Draft.of]
    rw [expect_bind_of_some hturn, expect_bind_of_some hlookup, expect_bind_of_some hlookup']
    rfl
  · intro hvalid
    have hname {c : CombatantState} (hc : c = (s.passTurn index nextId next.speedFeet).hero ∨
        c = (s.passTurn index nextId next.speedFeet).creature) : IsText 120 c.name := by
      rcases hc with rfl | rfl
      · exact hvalid.hero.name_isText
      · exact hvalid.creature.name_isText
    have hfallback : IsText 1000 ("Turn ended. " ++ nextId ++ " acts next.") := by
      rcases hnext with rfl | rfl <;> exact ⟨by decide, by decide⟩
    exact narration_valid (by decide)
      (((((hname hendedActor).append (b := " yields the moment; ") (n := 30) (by decide)).append
        (hname hnextActor).length_le).append (b := " takes the next turn.") (n := 30) (by decide)).mono (by decide))
      hfallback

/-- **… and it is sealed when the next participant can be given a turn.** -/
theorem resolveEndTurn_settles (hv : s.Valid) (hs : s.status = .active) (hp : s.pendingReaction = false)
    (hcurrent : s.currentActor = some actor) (hup : actor.lifeStatus = .conscious)
    {next : CombatantState}
    (hn : NextTurn s i oldIndex index nextId next) (hround : index = 0 → s.round < maxU32)
    (hgrid : 5 ∣ next.speedFeet) : ∃ n d, resolveEndTurn (.of s) = .ok (n, d) ∧ Sealable s n d ∧
      d.state = s.passTurn index nextId next.speedFeet := by
  obtain ⟨n, d, heq, hstate, hrolls, hfacts, hfit, hframe, hnarration⟩ :=
    resolveEndTurn_passes hv hs hcurrent hup hn hround
  have hvalid : d.state.Valid := by
    rw [hstate]
    exact EncounterState.passTurn_valid hv hs hp hn hgrid
  refine ⟨n, d, heq, ?_, hstate⟩
  exact
    { narration := hnarration hvalid
      frame := hframe
      moved := hvalid.moved
      rolls := by rw [hrolls]; exact .nil
      facts_ne := hfacts
      rollsFit := by rw [hrolls]; simp
      factsFit := hfit }

/-- What a resolution needs of its seal, on any throw that its resolver returns on. -/
theorem sealed_of_always {t : List (Nat × Nat)} {n : DeterministicNarration} {d : Draft}
    (h : Prog.Always InRange (resolveEncounter s c) fun _ => True)
    (hret : Prog.Returns (resolveIntent (.of s) c.intent) t (n, d)) (ht : Prog.Admissible InRange t) :
    s.revision + 1 ≤ maxU64 ∧ (sealedState s d).Valid := by
  obtain ⟨_, -, h⟩ := always_lift.mp (always_bind.mp h)
  obtain ⟨r, hseal, -⟩ := always_lift.mp ((always_bind.mp h).of_returns hret ht)
  obtain ⟨hrev, hvalid, -⟩ := sealResolution_eq_ok hseal
  exact ⟨hrev, hvalid⟩

/-- A resolver whose drafts are sealable resolves, with a revision left. -/
theorem resolves_of_sealable (hv : s.Valid) (henv : Enveloped s c)
    (hrev : s.revision + 1 ≤ maxU64)
    (h : Prog.Always InRange (resolveIntent (.of s) c.intent) fun resolved => Sealable s resolved.1 resolved.2) :
    Prog.Always InRange (resolveEncounter s c) fun _ => True := by
  refine always_bind.mpr (always_lift.mpr ⟨(), checkEnvelope_eq_ok.mpr henv, ?_⟩)
  refine always_bind.mpr (h.mono fun resolved hseal => ?_)
  obtain ⟨r, hok, -⟩ := hseal.ok hv hrev
  exact always_lift.mpr ⟨r, hok, trivial⟩

/-- A claw that goes through has compared the armor class. -/
theorem armorClass_of_always
    (h : Prog.Always InRange (resolveAttack (.of s) sootWightAttackId canalWardenId) Q) :
    (s.hero.armorClass : Int) ≤ maxI16 := by
  unfold resolveAttack at h
  obtain ⟨actorId, -, h⟩ := always_lift.mp (always_bind.mp h)
  obtain ⟨attack, -, h⟩ := always_lift.mp (always_bind.mp h)
  obtain ⟨-, h⟩ := always_reject.mp (always_bind.mp h)
  obtain ⟨target, htarget, h⟩ := always_expect.mp (always_bind.mp h)
  obtain ⟨-, h⟩ := always_reject.mp (always_bind.mp h)
  obtain ⟨actor, -, h⟩ := always_expect.mp (always_bind.mp h)
  obtain ⟨-, h⟩ := always_reject.mp (always_bind.mp h)
  obtain ⟨r, -, h⟩ := always_expect.mp (always_bind.mp h)
  obtain ⟨-, h⟩ := always_reject.mp (always_bind.mp h)
  obtain ⟨_, hfits, -⟩ := always_expect.mp (always_bind.mp h)
  obtain rfl : s.hero = target := mem_unique (if_pos rfl) htarget
  by_contra hlarge
  rw [if_neg hlarge] at hfits
  cases hfits

/-- A turn that goes through leaves the round counter its room. -/
theorem round_of_always
    {next : CombatantState} (hn : NextTurn s i oldIndex index nextId next)
    (h : Prog.Always InRange (resolveEndTurn (.of s)) Q) (h0 : index = 0) : s.round < maxU32 := by
  unfold resolveEndTurn at h
  obtain ⟨_, -, h⟩ := always_lift.mp (always_bind.mp h)
  obtain ⟨endedId, -, h⟩ := always_expect.mp (always_bind.mp h)
  have h := always_bind.mp h
  unfold advanceTurn at h
  obtain ⟨initiative, hi, h⟩ := always_lift.mp (always_bind.mp h)
  obtain ⟨old, hold, h⟩ := always_lift.mp (always_bind.mp h)
  obtain ⟨_, -, h⟩ := always_lift.mp (always_bind.mp h)
  obtain ⟨_, -, h⟩ := always_expect.mp (always_bind.mp h)
  obtain rfl : i = initiative := mem_unique hn.initiative (okOr_eq_ok.mp hi)
  obtain rfl : oldIndex = old := mem_unique hn.position (okOr_eq_ok.mp hold)
  have h := always_bind.mp h
  unfold passRound at h
  rw [← hn.next, if_neg (not_not.mpr h0)] at h
  obtain ⟨hround, -⟩ := always_reject.mp (always_bind.mp h)
  exact Nat.not_le.mp hround

/-- The creature's turn goes to the hero; the order wraps around when the creature is second. -/
theorem Acting.next (h : Acting s) (hv : s.Valid) : ∃ i oldIndex index,
    NextTurn s i oldIndex index canalWardenId s.hero ∧
    (index = 0 ↔ s.currentActorIndex = some 1) := by
  obtain ⟨i, oldIndex, index, nextId, next, hn⟩ := hv.nextTurn h.active
  rcases hn.turn with ⟨rfl, rfl, -⟩ | ⟨-, -, hother⟩
  · refine ⟨i, oldIndex, index, hn, ?_⟩
    have hnext := hn.next
    rw [hn.length] at hnext
    have hlt : oldIndex < 2 := by
      obtain ⟨i', index', hi', hindex', horder⟩ := (hv.active h.active).order
      obtain rfl : i = i' := mem_unique hn.initiative hi'
      obtain rfl : oldIndex = index' := mem_unique hn.position hindex'
      by_contra hge
      rw [List.getElem?_eq_none (by rw [hn.length]; omega), h.turn] at horder
      cases horder
    rw [hn.position, Option.some.injEq]
    omega
  · rw [h.turn] at hother
    exact absurd (Option.some.inj hother) sootWightId_ne_canalWardenId

/-- **An answer of the policy goes through on every throw exactly when there is room for it.** -/
theorem answer_resolves_iff (hv : s.Valid) (hfought : s.Fought) (ha : Acting s) (hr : s.turnResources = some r)
    (henv : Enveloped s c) (hanswer : Answer s r c.intent) :
    Prog.Always InRange (resolveEncounter s c) (fun _ => True) ↔ HasRoom s c.intent := by
  have hintent (h : Prog.Always InRange (resolveEncounter s c) fun _ => True) :
      ∃ Q, Prog.Always InRange (resolveIntent (.of s) c.intent) Q := by
    obtain ⟨_, -, h⟩ := always_lift.mp (always_bind.mp h)
    exact ⟨_, always_bind.mp h⟩
  cases hi : c.intent with
  | attack attackId targetId =>
    rw [hi] at hanswer
    obtain ⟨rfl, rfl, haction, hrange⟩ := hanswer
    constructor
    · intro h
      obtain ⟨Q, hattack⟩ := hintent h
      rw [hi] at hattack
      have harmor := armorClass_of_always hattack
      have halive : s.hero.lifeStatus ≠ .dead := by
        rcases (hv.active ha.active).heroLife with h | h <;> rw [h] <;> exact nofun
      -- one throw is enough to see the seal
      obtain ⟨n, d, hret, -⟩ := resolveAttack_natural_one hv ha.active ha.turn
        ⟨rfl, rfl, hrange, harmor, r, hr, haction⟩ halive
      have hret' : Prog.Returns (resolveIntent (.of s) c.intent) [(20, 1)] (n, d) := by
        rw [hi]
        exact hret
      refine ⟨(sealed_of_always h hret' fun x hx => ?_).1, harmor⟩
      rw [List.mem_singleton.mp hx]
      decide
    · rintro ⟨hrev, harmor⟩
      refine resolves_of_sealable hv henv hrev ?_
      rw [hi]
      exact resolveAttack_always hv hfought ha.active ha.turn ⟨rfl, rfl, hrange, harmor, r, hr, haction⟩
  | move destination =>
    rw [hi] at hanswer
    obtain ⟨n, d, heq, hseal, -⟩ := resolveMove_creature hv ha hr hanswer
    have hret : Prog.Returns (resolveIntent (.of s) c.intent) [] (n, d) := by
      rw [hi]
      show Prog.Returns (resolveMove (.of s) destination) [] (n, d)
      rw [heq]
      exact .ok _
    constructor
    · exact fun h => ⟨(sealed_of_always h hret nofun).1, trivial⟩
    · rintro ⟨hrev, -⟩
      exact resolves_of_sealable hv henv hrev (always_of_returns_nil hret hseal)
  | endTurn =>
    obtain ⟨i, oldIndex, index, hn, hwraps⟩ := ha.next hv
    have hcurrent := ha.current hv
    have hup := (hv.active ha.active).creatureLife
    constructor
    · intro h
      obtain ⟨Q, hend⟩ := hintent h
      rw [hi] at hend
      have hround := fun h0 => round_of_always hn hend h0
      obtain ⟨n, d, heq, hstate, -⟩ := resolveEndTurn_passes hv ha.active hcurrent hup hn hround
      have hret : Prog.Returns (resolveIntent (.of s) c.intent) [] (n, d) := by
        rw [hi]
        show Prog.Returns (resolveEndTurn (.of s)) [] (n, d)
        rw [heq]
        exact .ok _
      obtain ⟨hrev, hsealed⟩ := sealed_of_always h hret nofun
      refine ⟨hrev, ?_, fun hlast => hround (hwraps.mpr hlast)⟩
      -- the hero's turn begins with the speed as its movement
      have htaken := @passTurn_taken s index s.hero.speedFeet canalWardenId
      rw [← hstate] at htaken
      obtain ⟨bonusAction, hresources⟩ := htaken.resources
      have hactive : (sealedState s d).status = .active := htaken.status.trans ha.active
      exact ((hsealed.active hactive).leftOf (r := .start s.hero.speedFeet bonusAction) hresources).grid
    · rintro ⟨hrev, hgrid, hround⟩
      obtain ⟨n, d, heq, hseal, -⟩ := resolveEndTurn_settles hv ha.active ha.undisturbed hcurrent hup hn
        (fun h0 => hround (hwraps.mp h0)) hgrid
      have hret : Prog.Returns (resolveIntent (.of s) c.intent) [] (n, d) := by
        rw [hi]
        show Prog.Returns (resolveEndTurn (.of s)) [] (n, d)
        rw [heq]
        exact .ok _
      exact resolves_of_sealable hv henv hrev (always_of_returns_nil hret hseal)
  | _ =>
    rw [hi] at hanswer
    exact hanswer.elim

end Answers

/-! ## The turn of the creature ends -/

/-- **One turn of the driver's loop**: the policy is asked, and its answer resolves. -/
structure PolicyStep (s : EncounterState) (a : Turned) (s' : EncounterState) : Prop where
  acting : Acting s
  selected : selectSootWightPolicyIntent s = .ok a.1.intent
  resolves : EncounterStep s a s'

/-- Control is back with the player: it is the hero's turn, a hit waits, or the encounter is over. -/
def Returned (s : EncounterState) : Prop :=
  s.isOver = true ∨ s.pendingReaction = true ∨ (s.status = .active ∧ s.currentActorId = some canalWardenId)

/-- What is left of a turn, in answers: a step of the grid each, and the action. -/
def TurnResources.answersLeft (r : TurnResources) : Nat :=
  r.movementRemainingFeet / 5 + if r.actionAvailable then 1 else 0

section Loop

variable {s s' : EncounterState} {a : Turned} {r : TurnResources}

theorem acting_or_returned (hv : s.Valid) (hs : s.status ≠ .ready) : Acting s ∨ Returned s := by
  cases hp : s.pendingReaction with
  | true => exact .inr (.inr (.inl hp))
  | false =>
    cases hstatus : s.status with
    | ready => exact absurd hstatus hs
    | active =>
      rcases hv.turn_cases hstatus with ⟨hturn, -⟩ | ⟨hturn, -⟩
      · exact .inr (.inr (.inr ⟨hstatus, hturn⟩))
      · exact .inl ⟨hstatus, hturn, hp⟩
    | victory | defeat =>
      refine .inr (.inl ?_)
      unfold EncounterState.isOver
      rw [hstatus]
      rfl

variable {b b' : Books} {as : List Turned}

/-- A change of health ends the encounter or leaves the turn as it is. -/
theorem Books.HeroHealthChanges.goesOn (h : b.HeroHealthChanges b') :
    (b'.status = b.status ∧ b'.resources = b.resources) ∨ b'.status = .defeat := by
  obtain ⟨hitPoints, life, rfl | ⟨t, rfl⟩⟩ := h
  · exact .inl ⟨rfl, rfl⟩
  · exact .inr rfl

theorem Books.CreatureHealthChanges.goesOn (h : b.CreatureHealthChanges b') :
    (b'.status = b.status ∧ b'.resources = b.resources) ∨ b'.status = .victory := by
  obtain ⟨hitPoints, rfl | ⟨t, rfl⟩⟩ := h
  · exact .inl ⟨rfl, rfl⟩
  · exact .inr rfl

/-- **What one answer does**: it never leads away from the hero, and it uses up part of the turn. -/
theorem PolicyStep.effect (h : PolicyStep s a s') (hr : s.turnResources = some r) :
    distance s'.creature.positionFeet s'.hero.positionFeet ≤ distance s.creature.positionFeet s.hero.positionFeet ∧
      s'.status ≠ .ready ∧
      (Acting s' → ∃ r', s'.turnResources = some r' ∧ r'.answersLeft < r.answersLeft) := by
  have hv := h.resolves.valid
  have ha := h.acting
  obtain ⟨intent, hselect, hanswer, -⟩ := policy_answers hv ha hr
  obtain rfl : intent = a.1.intent := Except.ok.inj (hselect.symm.trans h.selected)
  have hposts := h.resolves.posts
  cases hi : a.1.intent with
  | attack attackId targetId =>
    rw [hi] at hposts hanswer
    obtain ⟨-, -, haction, -⟩ := hanswer
    obtain ⟨hactive, spent, ⟨r', hr', -, rfl⟩, hresult⟩ := hposts
    obtain rfl : r' = r := mem_unique hr' hr
    have hless : ({ r' with actionAvailable := false } : TurnResources).answersLeft < r'.answersLeft := by
      unfold TurnResources.answersLeft
      rw [haction]
      simp
    -- the positions are kept; the turn goes on with the action spent, or the encounter is over
    have hkept : s'.books.heroPosition = s.books.heroPosition ∧
        s'.books.creaturePosition = s.books.creaturePosition ∧
        ((s'.books.status = .active ∧ s'.books.resources = some { r' with actionAvailable := false }) ∨
          s'.books.status = .defeat ∨ s'.books.status = .victory) := by
      rcases hresult with heq | ⟨live, p, -, -, -, heq⟩ | hchange | hchange
      · rw [heq]
        exact ⟨rfl, rfl, .inl ⟨hactive, rfl⟩⟩
      · rw [heq]
        exact ⟨rfl, rfl, .inl ⟨hactive, rfl⟩⟩
      · refine ⟨hchange.kept.heroPosition, hchange.kept.creaturePosition, ?_⟩
        rcases hchange.goesOn with ⟨hs, hres⟩ | hover
        · exact .inl ⟨hs.trans hactive, hres⟩
        · exact .inr (.inl hover)
      · refine ⟨hchange.kept.heroPosition, hchange.kept.creaturePosition, ?_⟩
        rcases hchange.goesOn with ⟨hs, hres⟩ | hover
        · exact .inl ⟨hs.trans hactive, hres⟩
        · exact .inr (.inr hover)
    obtain ⟨hhero, hcreature, hgoes⟩ := hkept
    refine ⟨?_, ?_, fun ha' => ?_⟩
    · rw [show s'.hero.positionFeet = s.hero.positionFeet from hhero,
        show s'.creature.positionFeet = s.creature.positionFeet from hcreature]
    · intro hready
      rcases hgoes with ⟨hs, -⟩ | hs | hs <;> exact absurd (hs.symm.trans hready) nofun
    · rcases hgoes with ⟨-, hres⟩ | hs | hs
      · exact ⟨_, hres, hless⟩
      · exact absurd (hs.symm.trans ha'.active) nofun
      · exact absurd (hs.symm.trans ha'.active) nofun
  | move destination =>
    rw [hi] at hanswer
    obtain ⟨n, d, -, hintent, -, rfl⟩ := h.resolves.sealed
    obtain ⟨n', d', heq, -, hstate⟩ := resolveMove_creature hv ha hr hanswer
    rw [hi] at hintent
    have hmove : Prog.Returns (resolveMove (.of s) destination) a.2 (n, d) := hintent
    rw [heq] at hmove
    obtain ⟨-, hsame⟩ := hmove.of_ok
    obtain rfl : d = d' := congrArg Prod.snd hsame
    unfold sealedState
    rw [hstate]
    refine ⟨hanswer.nearer.le, ?_, fun _ => ⟨_, rfl, ?_⟩⟩
    · intro hready
      exact absurd (ha.active.symm.trans hready) nofun
    · -- the step is at least one square of the grid
      have hfive : 5 ≤ distance s.creature.positionFeet destination := by
        have hcreature := hv.creature.position_grid
        have hgrid := hanswer.grid
        have hmoves := hanswer.moves
        unfold distance absDiff
        omega
      have hbudget := hanswer.budget
      have hleft : (r.movementRemainingFeet - distance s.creature.positionFeet destination) / 5 <
          r.movementRemainingFeet / 5 := by omega
      unfold TurnResources.answersLeft
      dsimp only
      omega
  | endTurn =>
    rw [hi] at hposts
    obtain ⟨hactive, actorId, resources, hother, -, heq⟩ := hposts
    refine ⟨?_, ?_, fun ha' => ?_⟩
    · rw [show s'.hero.positionFeet = s'.books.heroPosition from rfl,
        show s'.creature.positionFeet = s'.books.creaturePosition from rfl, heq]
      exact le_rfl
    · intro hready
      have hs : s'.books.status = .active := by
        rw [heq]
        exact hactive
      exact absurd (hs.symm.trans hready) nofun
    · have hturn : s'.books.turn = some actorId := by
        rw [heq]
        rfl
      exact absurd (ha.turn.trans (ha'.turn.symm.trans hturn)) hother
  | _ =>
    rw [hi] at hanswer
    exact hanswer.elim

/-- **The loop comes to an end**: no run of the driver asks more often than the turn has answers, and once more
    to end it. -/
theorem policyRun_length (hrun : Run PolicyStep s as s') (hr : s.turnResources = some r) :
    as.length ≤ r.answersLeft + 1 := by
  induction hrun generalizing r with
  | nil => exact Nat.zero_le _
  | @cons s s₁ s' a as hstep hrest ih =>
    obtain ⟨-, -, hless⟩ := hstep.effect hr
    cases hrest with
    | nil => exact Nat.succ_le_succ (Nat.zero_le _)
    | cons hnext _ =>
      obtain ⟨r', hr', hlt⟩ := hless hnext.acting
      have hlength := ih hr'
      rw [List.length_cons]
      omega

/-- A turn of the Soot Wight has six answers at most: twenty-five feet in steps of five, and the claw. -/
theorem answersLeft_le (hv : s.Valid) (ha : Acting s) (hr : s.turnResources = some r) : r.answersLeft ≤ 6 := by
  obtain ⟨actor, hactor, r', hr', hspeed, -⟩ := (hv.active ha.active).actor
  obtain rfl : actor = s.creature := mem_unique hactor (ha.current hv)
  obtain rfl : r' = r := mem_unique hr' hr
  rw [hv.fixed.creatureSpeed] at hspeed
  unfold TurnResources.answersLeft
  split <;> omega

theorem policyRun_encounter (hrun : Run PolicyStep s as s') : Run EncounterStep s as s' := by
  induction hrun with
  | nil s => exact .nil s
  | cons hstep _ ih => exact .cons hstep.resolves ih

end Loop

/-! ## Soundness of the policy -/

/-- The driver's command for an answer. -/
def policyCommand (s : EncounterState) (intent : EncounterIntent) : EncounterCommand where
  schemaVersion := s.schemaVersion
  encounterId := s.encounterId
  idempotencyKey := "policy:1"
  expectedRevision := s.revision
  intent := intent

section Steps

variable {s s' : EncounterState} {r : TurnResources}

variable {intent : EncounterIntent}

/-- A command for an intent that every schema version knows. -/
theorem policyCommand_of_known (hv : s.Valid) (h2 : intent.requiresV2 = false)
    (h3 : intent.requiresV3 = false) (hids : intent.validateIds = .ok ()) : Enveloped s (policyCommand s intent) := by
  have henv := hv.envelope
  have hid : isValidOpaqueId s.encounterId = true := by
    rw [henv.encounterId]
    decide
  have hkey : isValidOpaqueId "policy:1" = true := by decide
  exact ⟨hv, ⟨henv.schema, fun _ => h2, fun _ => h3, hid, hkey, henv.revision_pos, hids⟩, rfl, rfl, rfl⟩

theorem policyCommand_enveloped (hv : s.Valid) (hanswer : Answer s r intent) :
    Enveloped s (policyCommand s intent) := by
  cases intent with
  | attack attackId targetId =>
    obtain ⟨rfl, rfl, -⟩ := hanswer
    exact policyCommand_of_known hv rfl rfl (by decide)
  | move destination => exact policyCommand_of_known hv rfl rfl rfl
  | endTurn => exact policyCommand_of_known hv rfl rfl rfl
  | _ => exact hanswer.elim

/-- A sealable draft is a step. -/
theorem step_of_sealable (hv : s.Valid) {c : EncounterCommand} (henv : Enveloped s c) (hrev : s.revision + 1 ≤ maxU64)
    {t : List (Nat × Nat)} {n : DeterministicNarration} {d : Draft}
    (hret : Prog.Returns (resolveIntent (.of s) c.intent) t (n, d)) (hseal : Sealable s n d) :
    EncounterStep s (c, t) { d.state with revision := s.revision + 1 } := by
  obtain ⟨res, hok, hstate⟩ := hseal.ok hv hrev
  exact ⟨res, resolveEncounter_returns.mpr ⟨henv, n, d, hret, hok⟩, hstate.trans hseal.sealedState_eq⟩

/-- **A turn is ended in one step**, whoever's it is. -/
theorem endTurn_step (hv : s.Valid) (hs : s.status = .active) (hp : s.pendingReaction = false)
    {actor : CombatantState} (hcurrent : s.currentActor = some actor) (hup : actor.lifeStatus = .conscious)
    {i : InitiativeState} {oldIndex index : Nat} {nextId : String} {next : CombatantState}
    (hn : NextTurn s i oldIndex index nextId next) (hround : index = 0 → s.round < maxU32)
    (hgrid : 5 ∣ next.speedFeet) (hrev : s.revision + 1 ≤ maxU64) :
    ∃ t, EncounterStep s (policyCommand s .endTurn, t)
      { s.passTurn index nextId next.speedFeet with revision := s.revision + 1 } := by
  obtain ⟨n, d, heq, hseal, hstate⟩ := resolveEndTurn_settles hv hs hp hcurrent hup hn hround hgrid
  have hret : Prog.Returns (resolveIntent (.of s) (policyCommand s .endTurn).intent) [] (n, d) := by
    show Prog.Returns (resolveEndTurn (.of s)) [] (n, d)
    rw [heq]
    exact .ok _
  have hstep := step_of_sealable hv (policyCommand_of_known hv rfl rfl rfl) hrev hret hseal
  rw [hstate] at hstep
  exact ⟨[], hstep⟩

/-- **With room for it, an answer is a step of the driver**; a claw that misses on a natural one and a move leave
    the Soot Wight to act. -/
theorem answer_steps (hv : s.Valid) (ha : Acting s) (hr : s.turnResources = some r)
    (hselect : selectSootWightPolicyIntent s = .ok intent) (hanswer : Answer s r intent) (hroom : HasRoom s intent) :
    ∃ a s', PolicyStep s a s' ∧ (intent = .endTurn ∨
      (Acting s' ∧ s'.currentActorIndex = s.currentActorIndex ∧ s'.round = s.round)) := by
  have henv := policyCommand_enveloped hv hanswer
  cases intent with
  | attack attackId targetId =>
    obtain ⟨rfl, rfl, haction, hrange⟩ := hanswer
    have halive : s.hero.lifeStatus ≠ .dead := by
      rcases (hv.active ha.active).heroLife with h | h <;> rw [h] <;> exact nofun
    obtain ⟨n, d, hret, hseal, hstate⟩ := resolveAttack_natural_one hv ha.active ha.turn
      ⟨rfl, rfl, hrange, hroom.2, r, hr, haction⟩ halive
    have hstep := step_of_sealable hv henv hroom.1 hret hseal
    rw [hstate r hr] at hstep
    exact ⟨_, _, ⟨ha, hselect, hstep⟩, .inr ⟨⟨ha.active, ha.turn, ha.undisturbed⟩, rfl, rfl⟩⟩
  | move destination =>
    obtain ⟨n, d, heq, hseal, hstate⟩ := resolveMove_creature hv ha hr hanswer
    have hret : Prog.Returns (resolveIntent (.of s) (policyCommand s (.move destination)).intent) [] (n, d) := by
      show Prog.Returns (resolveMove (.of s) destination) [] (n, d)
      rw [heq]
      exact .ok _
    have hstep := step_of_sealable hv henv hroom.1 hret hseal
    rw [hstate] at hstep
    exact ⟨_, _, ⟨ha, hselect, hstep⟩, .inr ⟨⟨ha.active, ha.turn, ha.undisturbed⟩, rfl, rfl⟩⟩
  | endTurn =>
    obtain ⟨i, oldIndex, index, hn, hwraps⟩ := ha.next hv
    obtain ⟨hrev, hgrid, hround⟩ := hroom
    obtain ⟨t, hstep⟩ := endTurn_step hv ha.active ha.undisturbed (ha.current hv) (hv.active ha.active).creatureLife
      hn (fun h0 => hround (hwraps.mp h0)) hgrid hrev
    exact ⟨_, _, ⟨ha, hselect, hstep⟩, .inl rfl⟩
  | _ => exact hanswer.elim

end Steps

/-- **The policy is sound, and the creature's turn ends.** In every state of a history in which the Soot Wight is to
    act, the policy answers with a listed intent, and that resolves on every throw of the dice exactly when there is
    room for it; no answer leads away from the hero; the driver asks at most seven times; and where it cannot go on,
    control is back with the player or there was no room. -/
theorem policy_is_sound {s : EncounterState} (hs : Reachable s) (ha : Acting s) :
    (∃ intent, selectSootWightPolicyIntent s = .ok intent ∧ Listed s intent ∧
      ∀ c, Enveloped s c → c.intent = intent →
        (Prog.Always InRange (resolveEncounter s c) (fun _ => True) ↔ HasRoom s intent)) ∧
    (∀ a s', PolicyStep s a s' → distance s'.creature.positionFeet s'.hero.positionFeet ≤
      distance s.creature.positionFeet s.hero.positionFeet) ∧
    (∀ as s', Run PolicyStep s as s' → as.length ≤ 7 ∧ (Acting s' ∨ Returned s')) ∧
    (∀ as s', Run PolicyStep s as s' → (∀ a s'', ¬ PolicyStep s' a s'') → Returned s' ∨
      ∃ intent, selectSootWightPolicyIntent s' = .ok intent ∧ ¬ HasRoom s' intent) := by
  have hv := hs.valid
  obtain ⟨r, hr⟩ := hv.turnResources ha.active
  have hends {as : List Turned} {s' : EncounterState} (hrun : Run PolicyStep s as s') : Acting s' ∨ Returned s' := by
    have hv' := (hs.run (policyRun_encounter hrun)).valid
    -- the last answer leaves an encounter that has begun
    rcases List.eq_nil_or_concat as with rfl | ⟨as, a, rfl⟩
    · cases hrun
      exact .inl ha
    · rw [List.concat_eq_append] at hrun
      obtain ⟨s₁, hrun₁, hlast⟩ := hrun.of_snoc
      obtain ⟨r₁, hr₁⟩ := hlast.resolves.valid.turnResources hlast.acting.active
      exact acting_or_returned hv' (hlast.effect hr₁).2.1
  refine ⟨?answers, ?nearer, ?bounded, ?back⟩
  case answers =>
    obtain ⟨intent, hselect, hanswer, hlisted⟩ := policy_answers hv ha hr
    refine ⟨intent, hselect, hlisted, fun c henv hintent => ?_⟩
    rw [← hintent] at hanswer ⊢
    exact answer_resolves_iff hv hs.fought ha hr henv hanswer
  case nearer => exact fun a s' hstep => (hstep.effect hr).1
  case bounded =>
    intro as s' hrun
    have hlength := policyRun_length hrun hr
    have hleft := answersLeft_le hv ha hr
    exact ⟨by omega, hends hrun⟩
  case back =>
    intro as s' hrun hstuck
    refine (hends hrun).symm.imp_right fun ha' => ?_
    have hv' := (hs.run (policyRun_encounter hrun)).valid
    obtain ⟨r', hr'⟩ := hv'.turnResources ha'.active
    obtain ⟨intent, hselect, hanswer, -⟩ := policy_answers hv' ha' hr'
    refine ⟨intent, hselect, fun hroom => ?_⟩
    obtain ⟨a, s'', hstep, -⟩ := answer_steps hv' ha' hr' hselect hanswer hroom
    exact hstuck a s'' hstep

/-! ### A turn that cannot be ended -/

/-- The Canal Warden before the encounter. -/
def wardenEncounter : EncounterState := .new .storyRecovery .runesUnderstood

/-- The Canal Warden comes first. -/
def wardenFirst : List Turned := [turned 1 .startEncounter [(20, 20), (20, 1)]]

/-- It is the hero's turn, first in the order, in round `n + 1`. -/
structure Waiting (n : Nat) (s : EncounterState) : Prop where
  reached : Reachable s
  active : s.status = .active
  turn : s.currentActorId = some canalWardenId
  first : s.currentActorIndex = some 0
  round : s.round = n + 1
  revision : s.revision = 2 * n + 2
  up : s.hero.lifeStatus = .conscious
  grid : 5 ∣ s.hero.speedFeet

theorem wardenFirst_waits : ∃ s, Waiting 0 s := by
  have hreplays : (replayHistory wardenEncounter wardenFirst).any (fun s => decide (s.status = .active ∧
      s.currentActorId = some canalWardenId ∧ s.currentActorIndex = some 0 ∧ s.round = 1 ∧ s.revision = 2 ∧
      s.hero.lifeStatus = .conscious ∧ 5 ∣ s.hero.speedFeet)) = true := by
    decide +kernel
  obtain ⟨s, hs, hfacts⟩ := (Option.any_eq_true _ _).mp hreplays
  obtain ⟨hactive, hturn, hfirst, hround, hrevision, hup, hgrid⟩ := of_decide_eq_true hfacts
  exact ⟨s, ⟨wardenEncounter, wardenFirst, ⟨EncounterState.new_valid, rfl⟩, run_of_replay hs⟩, hactive, hturn, hfirst,
    hround, hrevision, hup, hgrid⟩

/-- The waiting hero lets the Soot Wight act. -/
theorem Waiting.acts (h : Waiting n s) (hn : n < maxU32) :
    ∃ s', Reachable s' ∧ Acting s' ∧ s'.currentActorIndex = some 1 ∧ s'.round = n + 1 ∧
      s'.revision = 2 * n + 3 ∧ s'.hero = s.hero := by
  have hv := h.reached.valid
  have hcurrent : s.currentActor = some s.hero := by
    rcases hv.turn_cases h.active with ⟨-, hcurrent⟩ | ⟨hturn, -⟩
    · exact hcurrent
    · rw [h.turn] at hturn
      exact absurd (Option.some.inj hturn) canalWardenId_ne_sootWightId
  have hp := hv.undisturbed_hero h.turn
  obtain ⟨i, oldIndex, index, nextId, next, hnext⟩ := hv.nextTurn h.active
  obtain rfl : oldIndex = 0 := mem_unique hnext.position h.first
  obtain rfl : index = 1 := by
    rw [hnext.next, hnext.length]
  have hrev : s.revision + 1 ≤ maxU64 := by
    rw [h.revision]
    unfold maxU32 at hn
    unfold maxU64
    omega
  rcases hnext.turn with ⟨-, -, hother⟩ | ⟨rfl, rfl, -⟩
  · rw [h.turn] at hother
    exact absurd (Option.some.inj hother) canalWardenId_ne_sootWightId
  · have hgrid : 5 ∣ s.creature.speedFeet := by
      rw [hv.fixed.creatureSpeed]
      decide
    obtain ⟨t, hstep⟩ := endTurn_step hv h.active hp hcurrent h.up hnext nofun hgrid hrev
    have htaken := @passTurn_taken s 1 s.creature.speedFeet sootWightId
    refine ⟨_, h.reached.run (.cons hstep (.nil _)), ⟨htaken.status.trans h.active, htaken.turn, ?_⟩,
      htaken.position, htaken.round.trans h.round, ?_, htaken.hero⟩
    · exact (@EncounterState.passTurn_pendingReaction s 1 s.creature.speedFeet sootWightId).trans hp
    · show s.revision + 1 = _
      rw [h.revision]

/-- One more round goes by. -/
theorem Waiting.succ (h : Waiting n s) (hn : n + 1 < maxU32) :
    ∃ s', Waiting (n + 1) s' := by
  obtain ⟨s₁, hs₁, ha, hindex, hround, hrevision, hhero⟩ := h.acts (Nat.lt_of_succ_lt hn)
  have hv := hs₁.valid
  obtain ⟨i, oldIndex, index, hnext, hwraps⟩ := ha.next hv
  obtain rfl : index = 0 := hwraps.mpr hindex
  have hrev : s₁.revision + 1 ≤ maxU64 := by
    rw [hrevision]
    unfold maxU32 at hn
    unfold maxU64
    omega
  have hgrid : 5 ∣ s₁.hero.speedFeet := by
    rw [hhero]
    exact h.grid
  obtain ⟨t, hstep⟩ := endTurn_step hv ha.active ha.undisturbed (ha.current hv)
    (hv.active ha.active).creatureLife hnext (fun _ => by rw [hround]; exact hn) hgrid hrev
  have htaken := @passTurn_taken s₁ 0 s₁.hero.speedFeet canalWardenId
  have hhero' := htaken.hero.trans hhero
  refine ⟨_, hs₁.run (.cons hstep (.nil _)), htaken.status.trans ha.active, htaken.turn, htaken.position,
    ?_, ?_, ?_, ?_⟩
  · exact htaken.round.trans (by rw [if_pos rfl, hround])
  · show s₁.revision + 1 = _
    omega
  · exact (congrArg CombatantState.lifeStatus hhero').trans h.up
  · exact (congrArg CombatantState.speedFeet hhero').symm ▸ h.grid

/-- **Every round is reached.** -/
theorem waits (n : Nat) (hn : n < maxU32) : ∃ s, Waiting n s := by
  induction n with
  | zero => exact wardenFirst_waits
  | succ n ih =>
    obtain ⟨s, hs⟩ := ih (Nat.lt_of_succ_lt hn)
    exact hs.succ hn

/-- In the last round the Soot Wight, second in the order, runs out of answers that there is room for. -/
theorem last_round {r : TurnResources} (hs : Reachable s) (ha : Acting s)
    (hr : s.turnResources = some r) (hn : r.answersLeft < n) (hindex : s.currentActorIndex = some 1)
    (hround : s.round = maxU32) : ∃ s' intent, Reachable s' ∧ Acting s' ∧
      selectSootWightPolicyIntent s' = .ok intent ∧ ¬ HasRoom s' intent := by
  induction n generalizing s r with
  | zero => exact absurd hn (Nat.not_lt_zero _)
  | succ n ih =>
    obtain ⟨intent, hselect, hanswer, -⟩ := policy_answers hs.valid ha hr
    by_cases hroom : HasRoom s intent
    · obtain ⟨a, s', hstep, rfl | ⟨ha', hindex', hround'⟩⟩ := answer_steps hs.valid ha hr hselect hanswer hroom
      · have hless := hroom.2.2 hindex
        rw [hround] at hless
        exact absurd hless (Nat.lt_irrefl _)
      · obtain ⟨r', hr', hlt⟩ := (hstep.effect hr).2.2 ha'
        exact ih (hs.run (.cons hstep.resolves (.nil _))) ha' hr' (by omega) (hindex'.trans hindex)
          (hround'.trans hround)
    · exact ⟨s, intent, hs, ha, hselect, hroom⟩

/-- **The Soot Wight does not always get through**: in the last round that is counted, its turn cannot be ended. -/
theorem policy_is_refused : ¬ ∀ s, Reachable s → Acting s → ∃ intent, selectSootWightPolicyIntent s = .ok intent ∧
    Listed s intent ∧ ∀ c, Enveloped s c → c.intent = intent →
      Prog.Always InRange (resolveEncounter s c) fun _ => True := by
  intro h
  obtain ⟨s, hs⟩ := waits (maxU32 - 1) (by decide)
  obtain ⟨s₁, hs₁, ha, hindex, hround, -⟩ := hs.acts (by decide)
  obtain ⟨r, hr⟩ := hs₁.valid.turnResources ha.active
  obtain ⟨s', intent, hs', ha', hselect, hnone⟩ := last_round hs₁ ha hr (Nat.lt_succ_self _) hindex hround
  obtain ⟨r', hr'⟩ := hs'.valid.turnResources ha'.active
  obtain ⟨intent', hselect', hanswer, -⟩ := policy_answers hs'.valid ha' hr'
  obtain rfl : intent' = intent := Except.ok.inj (hselect'.symm.trans hselect)
  obtain ⟨intent'', hselect'', -, hresolves⟩ := h s' hs' ha'
  obtain rfl : intent'' = intent' := Except.ok.inj (hselect''.symm.trans hselect)
  have henv := policyCommand_enveloped hs'.valid hanswer
  exact hnone ((answer_resolves_iff hs'.valid hs'.fought ha' hr' henv hanswer).mp (hresolves _ henv rfl))

/-- The law at the first turn of the Soot Wight against the waiting Canal Warden. -/
theorem policy_is_sound_warden : ∃ s, Acting s ∧ ∀ as s', Run PolicyStep s as s' →
    as.length ≤ 7 ∧ (Acting s' ∨ Returned s') := by
  obtain ⟨s, hs⟩ := wardenFirst_waits
  obtain ⟨s₁, hs₁, ha, -⟩ := hs.acts (by decide)
  exact ⟨s₁, ha, (policy_is_sound hs₁ ha).2.2.1⟩

end ManchesterArcana.Encounter
