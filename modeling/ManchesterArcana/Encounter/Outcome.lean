import ManchesterArcana.Encounter.History

/-!
# `Encounter.Outcome` — an encounter ends once, and time runs forward

Once the encounter is over only rests are left, and a rest reopens nothing: status and reward stay, and in the
transition only the hero's health follows the hero's. Along every history the campaign clock never runs back,
two long rests keep their interval, and the reward is earned exactly by a creature that went down.
-/

namespace ManchesterArcana.Encounter

open Effect Rules

/-- The intents of a rest. -/
def EncounterIntent.isRest : EncounterIntent → Bool
  | .beginShortRest | .spendHitDie | .useArcaneRecovery | .finishShortRest | .takeLongRest => true
  | _ => false

/-! ## One step -/

namespace Books

variable {b b' : Books} {intent : EncounterIntent}

/-- **An intent that is no rest needs an encounter that is not over.** -/
theorem Posts.status (h : b.Posts intent b') (hr : intent.isRest = false) :
    b.status = .ready ∨ b.status = .active := by
  cases intent with
  | startEncounter => exact .inl h.1
  | beginShortRest | spendHitDie | useArcaneRecovery | finishShortRest | takeLongRest => cases hr
  | _ => exact .inr h.1

/-- What a rest does not touch. -/
structure Reposed (b b' : Books) : Prop where
  status : b'.status = b.status
  reward : b'.reward = b.reward
  ending : SameEnding b.transition b'.transition
  creature : b'.creatureHitPoints = b.creatureHitPoints

/-- **A rest leaves the ending of the encounter alone**, but for the hero's health in it. -/
theorem Posts.reposed (h : b.Posts intent b') (hr : intent.isRest = true) : b.Reposed b' := by
  cases intent with
  | beginShortRest =>
    obtain ⟨live, pools, hitPoints, life, rest, -, -, -, rfl⟩ := h
    exact ⟨rfl, rfl, .inl rfl, rfl⟩
  | spendHitDie =>
    obtain ⟨live, pools, hitPoints, life, transition, rest, rest', -, -, -, -, hsame, rfl⟩ := h
    exact ⟨rfl, rfl, hsame, rfl⟩
  | useArcaneRecovery =>
    obtain ⟨live, pools, rest, rest', -, -, -, -, -, rfl⟩ := h
    exact ⟨rfl, rfl, .inl rfl, rfl⟩
  | finishShortRest =>
    obtain ⟨live, pools, hitPoints, life, transition, rest, -, -, -, hsame, rfl⟩ := h
    exact ⟨rfl, rfl, hsame, rfl⟩
  | takeLongRest =>
    obtain ⟨live, pools, hitPoints, life, transition, -, -, -, -, hsame, rfl⟩ := h
    exact ⟨rfl, rfl, hsame, rfl⟩
  | _ => cases hr

theorem SameEnding.trans {t t' t'' : Option ExplorationTransition} (h : SameEnding t t') (h' : SameEnding t' t'') :
    SameEnding t t'' := by
  rcases h with rfl | ⟨ending, hitPoints, life, rfl, rfl⟩
  · exact h'
  · rcases h' with rfl | ⟨ending', hitPoints', life', heq, rfl⟩
    · exact .inr ⟨ending, hitPoints, life, rfl, rfl⟩
    · obtain rfl := Option.some.inj heq
      exact .inr ⟨ending, hitPoints', life', rfl, rfl⟩

theorem Reposed.trans {b'' : Books} (h : b.Reposed b') (h' : b'.Reposed b'') : b.Reposed b'' :=
  ⟨h'.status.trans h.status, h'.reward.trans h.reward, h.ending.trans h'.ending, h'.creature.trans h.creature⟩

/-! ### The calendar -/

theorem Kept.calendar (h : b.Kept b') : b'.calendar = b.calendar := by
  unfold Books.calendar
  rw [h.live]

/-- **Only two intents move the clock.** -/
theorem Posts.calendar (h : b.Posts intent b') (hshort : intent ≠ .beginShortRest)
    (hlong : intent ≠ .takeLongRest) : b'.calendar = b.calendar := by
  cases intent with
  | startEncounter =>
    obtain ⟨-, actorId, resources, rfl⟩ := h
    exact takeTurn_calendar _ _ _
  | move destination =>
    obtain ⟨-, r, feet, position, -, -, ⟨-, -, rfl⟩ | ⟨-, -, rfl⟩⟩ := h <;> rfl
  | attack attackId targetId =>
    obtain ⟨-, spent, ⟨r, -, -, rfl⟩, rfl | ⟨live, p, hlive, -, -, rfl⟩ | hchange | hchange⟩ := h
    · rfl
    · unfold Books.calendar
      dsimp only at hlive ⊢
      rw [hlive]
      rfl
    · exact hchange.kept.calendar
    · exact hchange.kept.calendar
  | contextAction actionId =>
    obtain ⟨-, r, -, rfl⟩ := h
    rfl
  | castSpell spell targetId =>
    obtain ⟨-, paid, ⟨-, r, pools, -, -, -, -, rfl⟩, rfl | hchange⟩ := h
    · rfl
    · exact hchange.kept.calendar
  | castLight objectId =>
    obtain ⟨-, -, r, pools, -, -, -, -, rfl⟩ := h
    rfl
  | castMageHand anchor =>
    obtain ⟨-, -, r, pools, -, -, -, -, rfl⟩ := h
    rfl
  | controlMageHand objectId =>
    obtain ⟨-, -, r, -, -, rfl⟩ := h
    rfl
  | dismissMageHand =>
    obtain ⟨-, -, r, -, -, rfl⟩ := h
    rfl
  | castSleep =>
    obtain ⟨-, -, r, pools, -, -, -, -, rfl⟩ := h
    rfl
  | castShield =>
    obtain ⟨-, warded, ⟨live, pools, p, w, hlive, -, -, -, -, rfl⟩, hresult⟩ := h
    have hwarded : Books.calendar { b with
        pools := some pools.drawSlot
        live := some { live with pending := none, reaction := false, ward := some w } } = b.calendar := by
      unfold Books.calendar
      rw [hlive]
      rfl
    rcases hresult with rfl | ⟨struck, hchange, rfl | rfl⟩
    · exact hwarded
    · exact hchange.kept.calendar.trans hwarded
    · refine Eq.trans ?_ (hchange.kept.calendar.trans hwarded)
      unfold Books.calendar dropWard
      cases struck.live <;> rfl
  | declineReaction =>
    obtain ⟨-, live, p, hlive, -, hchange⟩ := h
    refine hchange.kept.calendar.trans ?_
    unfold Books.calendar
    rw [hlive]
    rfl
  | secondWind =>
    obtain ⟨-, -, r, pools, hitPoints, -, -, -, rfl⟩ := h
    rfl
  | actionSurge =>
    obtain ⟨-, -, r, pools, -, -, -, -, rfl⟩ := h
    rfl
  | beginShortRest => exact absurd rfl hshort
  | spendHitDie =>
    obtain ⟨live, pools, hitPoints, life, transition, rest, rest', hlive, -, -, -, -, rfl⟩ := h
    unfold Books.calendar
    rw [hlive]
    rfl
  | useArcaneRecovery =>
    obtain ⟨live, pools, rest, rest', hlive, -, -, -, -, rfl⟩ := h
    unfold Books.calendar
    rw [hlive]
    rfl
  | finishShortRest =>
    obtain ⟨live, pools, hitPoints, life, transition, rest, hlive, -, -, -, rfl⟩ := h
    unfold Books.calendar
    rw [hlive]
    rfl
  | takeLongRest => exact absurd rfl hlong
  | endTurn =>
    obtain ⟨-, actorId, resources, -, -, rfl⟩ := h
    exact takeTurn_calendar _ _ _
  | rollDeathSave =>
    obtain ⟨-, -, hchange | ⟨hitPoints, life, actorId, resources, -, -, rfl⟩⟩ := h
    · exact hchange.kept.calendar
    · exact takeTurn_calendar _ _ _

/-- The minute the last long rest ended. -/
def lastLongRest (b : Books) : Option Nat := b.live.bind (·.longRest)

theorem clock_eq (b : Books) : b.clock = (b.calendar.map (·.1)).getD 0 := by
  unfold clock Books.calendar
  cases b.live <;> rfl

theorem lastLongRest_eq (b : Books) : b.lastLongRest = b.calendar.bind (·.2) := by
  unfold lastLongRest Books.calendar
  cases b.live <;> rfl

/-- **The campaign clock never runs back.** -/
theorem Posts.clock_le (h : b.Posts intent b') : b.clock ≤ b'.clock := by
  by_cases hshort : intent = .beginShortRest
  · subst hshort
    obtain ⟨live, pools, hitPoints, life, rest, hlive, -, -, rfl⟩ := h
    unfold clock
    rw [hlive]
    exact Nat.le_add_right _ _
  by_cases hlong : intent = .takeLongRest
  · subst hlong
    obtain ⟨live, pools, hitPoints, life, transition, hlive, -, -, -, -, rfl⟩ := h
    unfold clock
    rw [hlive]
    exact Nat.le_add_right _ _
  rw [clock_eq, clock_eq, h.calendar hshort hlong]

/-- A long rest ends at the minute it leaves on the clock, a day or more after the one before it. -/
theorem Posts.longRest (h : b.Posts .takeLongRest b') :
    b'.lastLongRest = some b'.clock ∧ ∀ last ∈ b.lastLongRest, last + 24 * 60 ≤ b.clock := by
  obtain ⟨live, pools, hitPoints, life, transition, hlive, -, hday, -, -, rfl⟩ := h
  refine ⟨rfl, fun last hlast => ?_⟩
  unfold lastLongRest at hlast
  unfold clock
  rw [hlive] at hlast ⊢
  exact hday last hlast

/-- No other intent touches that minute. -/
theorem Posts.lastLongRest (h : b.Posts intent b') (hlong : intent ≠ .takeLongRest) :
    b'.lastLongRest = b.lastLongRest := by
  by_cases hshort : intent = .beginShortRest
  · subst hshort
    obtain ⟨live, pools, hitPoints, life, rest, hlive, -, -, rfl⟩ := h
    unfold Books.lastLongRest
    rw [hlive]
    rfl
  rw [lastLongRest_eq, lastLongRest_eq, h.calendar hshort hlong]

/-! ### The creature -/

theorem MayPrevail.not_defeat {hitPoints : Nat} (h : { b with creatureHitPoints := hitPoints }.MayPrevail b')
    (hs : b.status = .active) : b'.status ≠ .defeat := by
  rcases h with rfl | ⟨t, rfl⟩
  · show b.status ≠ .defeat
    rw [hs]
    exact nofun
  · exact nofun

theorem HeroHealthChanges.creature (h : b.HeroHealthChanges b') :
    b'.creatureHitPoints = b.creatureHitPoints := by
  obtain ⟨hitPoints, life, rfl | ⟨t, rfl⟩⟩ := h <;> rfl

/-- The encounter is not lost by a change of the creature's health. -/
theorem Posts.lost (h : b.Posts intent b') (hs : b.status = .ready ∨ b.status = .active)
    (hlost : b'.status = .defeat) : b'.creatureHitPoints = b.creatureHitPoints := by
  have hready : b.status ≠ .defeat := by
    rcases hs with hs | hs <;> rw [hs] <;> exact nofun
  cases intent with
  | startEncounter =>
    obtain ⟨-, actorId, resources, rfl⟩ := h
    rfl
  | move destination =>
    obtain ⟨-, r, feet, position, -, -, ⟨-, -, rfl⟩ | ⟨-, -, rfl⟩⟩ := h <;> rfl
  | attack attackId targetId =>
    obtain ⟨hactive, spent, ⟨r, -, -, rfl⟩, rfl | ⟨live, p, hlive, -, -, rfl⟩ | hchange | ⟨hitPoints, hchange⟩⟩ := h
    · rfl
    · rfl
    · exact hchange.creature
    · exact absurd hlost (MayPrevail.not_defeat hchange hactive)
  | castSpell spell targetId =>
    obtain ⟨hactive, paid, ⟨-, r, pools, -, -, -, -, rfl⟩, rfl | ⟨hitPoints, hchange⟩⟩ := h
    · rfl
    · exact absurd hlost (MayPrevail.not_defeat hchange hactive)
  | castShield =>
    obtain ⟨-, warded, ⟨live, pools, p, w, hlive, -, -, -, -, rfl⟩, rfl | ⟨struck, hchange, rfl | rfl⟩⟩ := h
    · rfl
    · exact hchange.creature
    · exact hchange.creature
  | declineReaction =>
    obtain ⟨-, live, p, hlive, -, hchange⟩ := h
    exact hchange.creature
  | rollDeathSave =>
    obtain ⟨-, -, hchange | ⟨hitPoints, life, actorId, resources, -, -, rfl⟩⟩ := h
    · exact hchange.creature
    · rfl
  | contextAction actionId =>
    obtain ⟨-, r, -, rfl⟩ := h
    rfl
  | castLight objectId | castMageHand anchor | castSleep =>
    obtain ⟨-, -, r, pools, -, -, -, -, rfl⟩ := h
    rfl
  | controlMageHand objectId | dismissMageHand =>
    obtain ⟨-, -, r, -, -, rfl⟩ := h
    rfl
  | secondWind =>
    obtain ⟨-, -, r, pools, hitPoints, -, -, -, rfl⟩ := h
    rfl
  | actionSurge =>
    obtain ⟨-, -, r, pools, -, -, -, -, rfl⟩ := h
    rfl
  | endTurn =>
    obtain ⟨-, actorId, resources, -, -, rfl⟩ := h
    rfl
  | beginShortRest | spendHitDie | useArcaneRecovery | finishShortRest | takeLongRest =>
    exact absurd ((h.reposed rfl).status ▸ hlost) hready

end Books

/-! ## Every history -/

namespace EncounterStep

variable {s s' : EncounterState} {a : Turned}

theorem over_iff : s.isOver = true ↔ s.status = .victory ∨ s.status = .defeat := by
  unfold EncounterState.isOver
  rw [Bool.or_eq_true, decide_eq_true_iff, decide_eq_true_iff]

/-- **A rest goes through at a safe boundary alone.** -/
theorem rest_safe (h : EncounterStep s a s') (hrest : a.1.intent.isRest = true) :
    s.isSafeRestBoundary = true := by
  rcases h.offered with ⟨action, hpermitted, hcovers⟩ | ⟨-, -, hslips⟩
  · generalize a.1.intent = intent at hrest hcovers
    cases intent with
    | beginShortRest =>
      cases action with
      | beginShortRest => obtain ⟨live, rules, hb, -⟩ := hpermitted; exact hb.safe
      | _ => exact hcovers.elim
    | spendHitDie =>
      cases action with
      | spendHitDie => obtain ⟨live, rules, rest, hb, -⟩ := hpermitted; exact hb.safe
      | _ => exact hcovers.elim
    | useArcaneRecovery =>
      cases action with
      | useArcaneRecovery => obtain ⟨live, rules, rest, hb, -⟩ := hpermitted; exact hb.safe
      | _ => exact hcovers.elim
    | finishShortRest =>
      cases action with
      | finishShortRest => obtain ⟨live, rules, rest, hb, -⟩ := hpermitted; exact hb.safe
      | _ => exact hcovers.elim
    | takeLongRest =>
      cases action with
      | takeLongRest => obtain ⟨live, rules, hb, -⟩ := hpermitted; exact hb.safe
      | _ => exact hcovers.elim
    | _ => cases hrest
  · generalize a.1.intent = intent at hrest hslips
    cases intent with
    | move destination => cases hrest
    | attack attackId targetId => cases hrest
    | _ => exact hslips.elim

theorem rest_over (h : EncounterStep s a s') (hrest : a.1.intent.isRest = true) : s.isOver = true := by
  have hsafe := h.rest_safe hrest
  unfold EncounterState.isSafeRestBoundary at hsafe
  unfold EncounterState.isOver
  cases hs : s.status <;> simp_all

/-- **After the end only rests go through, and they leave the ending alone.** -/
theorem after_end (h : EncounterStep s a s') (hover : s.isOver = true) :
    a.1.intent.isRest = true ∧ s.books.Reposed s'.books := by
  have hrest : a.1.intent.isRest = true := by
    cases hr : a.1.intent.isRest with
    | true => rfl
    | false =>
      rcases over_iff.mp hover with ho | ho <;> rcases h.posts.status hr with hs | hs <;>
        exact absurd (ho.symm.trans hs) nofun
  exact ⟨hrest, h.posts.reposed hrest⟩

variable {as : List Turned}

/-- A run after the end. -/
theorem run_after_end (h : Run EncounterStep s as s') (hover : s.isOver = true) :
    s.books.Reposed s'.books ∧ ∀ a ∈ as, a.1.intent.isRest = true := by
  induction h with
  | nil s => exact ⟨⟨rfl, rfl, .inl rfl, rfl⟩, nofun⟩
  | @cons s s₁ s₂ a as hstep _ ih =>
    obtain ⟨hrest, hreposed⟩ := after_end hstep hover
    have hstatus : s₁.status = s.status := hreposed.status
    obtain ⟨hrun, hall⟩ := ih (by rw [over_iff, hstatus]; exact over_iff.mp hover)
    exact ⟨hreposed.trans hrun, List.forall_mem_cons.mpr ⟨hrest, hall⟩⟩

theorem run_clock (h : Run EncounterStep s as s') : s.books.clock ≤ s'.books.clock := by
  induction h with
  | nil s => exact Nat.le_refl _
  | cons hstep _ ih => exact Nat.le_trans hstep.posts.clock_le ih

/-- After a long rest, the next one waits a day from the minute the last one ended. -/
theorem run_lastLongRest (h : Run EncounterStep s as s') {minute : Nat}
    (hm : ∃ last, s.books.lastLongRest = some last ∧ minute ≤ last) (hv : s.Valid) :
    ∃ last, s'.books.lastLongRest = some last ∧ minute ≤ last := by
  induction h with
  | nil s => exact hm
  | @cons s s₁ s₂ a as hstep _ ih =>
    refine ih ?_ hstep.valid_next
    obtain ⟨last, hlast, hle⟩ := hm
    by_cases hlong : a.1.intent = .takeLongRest
    · have hposts := hstep.posts
      rw [hlong] at hposts
      obtain ⟨hended, hday⟩ := hposts.longRest
      have hclock := hposts.clock_le
      have hafter := hday last hlast
      exact ⟨_, hended, by omega⟩
    · exact ⟨last, (hstep.posts.lastLongRest hlong).trans hlast, hle⟩

end EncounterStep

variable {s : EncounterState}

/-- A conscious creature has hit points left. -/
theorem EncounterState.Valid.creature_up (hv : s.Valid)
    (hs : s.status = .ready ∨ s.status = .active) : s.creature.hitPoints.current ≠ 0 := by
  have hup : s.creature.lifeStatus = .conscious := by
    have hphase := hv.phase
    unfold EncounterState.PhaseValid at hphase
    rcases hs with hs | hs <;> rw [hs] at hphase
    · exact hphase.creatureLife
    · exact hphase.creatureLife
  have hlife := hv.creature.life
  unfold CombatantState.LifeShape at hlife
  rw [hv.fixed.creatureKind, hup] at hlife
  exact hlife.1

/-- **Only a victory has a creature without hit points.** -/
theorem Reachable.creature_down (h : Reachable s) (hdown : s.creature.hitPoints.current = 0) :
    s.status = .victory := by
  obtain ⟨s₀, as, hnew, hrun⟩ := h
  let I (s : EncounterState) : Prop := s.Valid ∧ (s.creature.hitPoints.current = 0 → s.status = .victory)
  have hstart : I s₀ := ⟨hnew.valid, fun h0 => absurd h0 (hnew.valid.creature_up (.inl hnew.ready))⟩
  have hstep : ∀ s a s', I s → EncounterStep s a s' → I s' := by
    intro s a s' hI hstep
    refine ⟨hstep.valid_next, fun h0 => ?_⟩
    by_cases hover : s.isOver = true
    · obtain ⟨-, hreposed⟩ := hstep.after_end hover
      have hsame : s'.creature.hitPoints.current = s.creature.hitPoints.current := hreposed.creature
      exact hreposed.status.trans (hI.2 (hsame ▸ h0))
    · rw [EncounterStep.over_iff, not_or] at hover
      have hs : s.status = .ready ∨ s.status = .active := by
        cases hst : s.status with
        | ready => exact .inl rfl
        | active => exact .inr rfl
        | victory => exact absurd hst hover.1
        | defeat => exact absurd hst hover.2
      cases hst : s'.status with
      | victory => rfl
      | ready => exact absurd h0 (hstep.valid_next.creature_up (.inl hst))
      | active => exact absurd h0 (hstep.valid_next.creature_up (.inr hst))
      | defeat =>
        have hsame : s'.creature.hitPoints.current = s.creature.hitPoints.current := hstep.posts.lost hs hst
        exact absurd (hsame ▸ h0) (hI.1.creature_up hs)
  exact (hrun.invariant hstep hstart).2 hdown

/-- **The reward is earned by a creature that went down, and by nothing else.** -/
theorem Reachable.eligible_iff (h : Reachable s) :
    (∃ tier, s.rewardEligibility = .eligible tier) ↔ s.creature.hitPoints.current = 0 := by
  have hphase := h.valid.phase
  unfold EncounterState.PhaseValid at hphase
  constructor
  · rintro ⟨tier, htier⟩
    cases hs : s.status <;> rw [hs] at hphase
    case ready => rw [hphase.reward] at htier; cases htier
    case active => rw [hphase.reward] at htier; cases htier
    case victory =>
      obtain ⟨t, -, hvictory⟩ := hphase
      exact hvictory.creatureDown
    case defeat =>
      obtain ⟨t, -, hdefeat⟩ := hphase
      rw [hdefeat.reward] at htier
      cases htier
  · intro h0
    have hs := h.creature_down h0
    rw [hs] at hphase
    obtain ⟨t, -, hvictory⟩ := hphase
    exact hvictory.reward

/-- **Terminal outcomes are final.** Once the encounter is over, only rests succeed, each from a safe
    boundary; status and reward stay, and so does the transition but for the hero's health in it. The clock
    never runs back, a long rest starts a day or more after the one before it ended, and a state is eligible
    for the reward exactly when the creature has no hit points left. -/
theorem encounter_outcome_final {s : EncounterState} (hs : Reachable s) :
    (s.isOver = true → ∀ as s', Run EncounterStep s as s' →
      s'.status = s.status ∧ s'.rewardEligibility = s.rewardEligibility ∧
        Books.SameEnding s.transition s'.transition ∧ ∀ a ∈ as, a.1.intent.isRest = true) ∧
    (s.isOver = true → ∀ a s', EncounterStep s a s' → s.isSafeRestBoundary = true) ∧
    (∀ as s', Run EncounterStep s as s' → s.books.clock ≤ s'.books.clock) ∧
    (∀ a as b s₁ s₂ s₃, EncounterStep s a s₁ → Run EncounterStep s₁ as s₂ → EncounterStep s₂ b s₃ →
      a.1.intent = .takeLongRest → b.1.intent = .takeLongRest →
        s₁.books.clock + 24 * 60 ≤ s₂.books.clock) ∧
    ((∃ tier, s.rewardEligibility = .eligible tier) ↔ s.creature.hitPoints.current = 0) := by
  refine ⟨?final, ?safe, ?clock, ?interval, hs.eligible_iff⟩
  case final =>
    intro hover as s' hrun
    obtain ⟨hreposed, hrests⟩ := EncounterStep.run_after_end hrun hover
    exact ⟨hreposed.status, hreposed.reward, hreposed.ending, hrests⟩
  case safe =>
    intro hover a s' hstep
    exact hstep.rest_safe (hstep.after_end hover).1
  case clock =>
    intro as s' hrun
    exact EncounterStep.run_clock hrun
  case interval =>
    intro a as b s₁ s₂ s₃ hfirst hrun hsecond ha hb
    have hposts := hfirst.posts
    rw [ha] at hposts
    have hended := hposts.longRest.1
    obtain ⟨last, hlast, hle⟩ := EncounterStep.run_lastLongRest hrun
      ⟨_, hended, Nat.le_refl _⟩ hfirst.valid_next
    have hposts' := hsecond.posts
    rw [hb] at hposts'
    have hday := hposts'.longRest.2 last hlast
    omega

/-! ### A victory, and the rest after it -/

/-- A created fighter. -/
def bargeFighter : EncounterHeroProfile where
  sourceCharacterId := "hero:bargee"
  name := "Bargee"
  armorClass := 16
  speedFeet := 30
  initiativeModifier := 1
  currentHitPoints := 12
  maximumHitPoints := 12
  attacks := [heroAttack]
  rules := some
    { runtimeResources := .new .fighter .one
      spellcasting := none
      constitutionModifier := some 2 }

/-- The fighter before the encounter. -/
def fighterEncounter : EncounterState :=
  { (EncounterState.new .storyRecovery .runesUnderstood).withHeroProfile bargeFighter with
    liveQ04 := some .new }

theorem fighterEncounter_new : NewEncounter fighterEncounter where
  valid := EncounterState.validate_eq_ok.mp (by decide)
  ready := rfl

def turned (revision : Nat) (intent : EncounterIntent) (dice : List (Nat × Nat)) : Turned :=
  ({ schemaVersion := encounterSchemaVersion
     encounterId := sootWightEncounterId
     expectedRevision := revision
     idempotencyKey := "key:1"
     intent }, dice)

/-- The creature comes first and wounds the fighter, who cuts it down and sits down to rest. -/
def woundedVictory : List Turned :=
  [ turned 1 .startEncounter [(20, 1), (20, 20)]
  , turned 2 (.move 5) []
  , turned 3 (.attack sootWightAttackId canalWardenId) [(20, 19), (6, 6)]
  , turned 4 .endTurn []
  , turned 5 (.attack canalWardenAttackId sootWightId) [(20, 20), (8, 8), (8, 8)]
  , turned 6 .beginShortRest [] ]

/-- The history ends in a victory, and a hit die that is spent then rewrites the transition. -/
theorem woundedVictory_healed : (replayHistory fighterEncounter woundedVictory).any (fun s => s.isOver &&
    (replayHistory s [turned 7 .spendHitDie [(10, 3)]]).any fun s' => decide (s'.transition ≠ s.transition)) =
      true := by
  decide +kernel

theorem woundedVictory_replays : (replayHistory fighterEncounter woundedVictory).isSome = true := by
  obtain ⟨s, hs, -⟩ := (Option.any_eq_true _ _).mp woundedVictory_healed
  rw [hs]
  rfl

/-- The law of endings at a history that ends in a victory and a rest. -/
theorem encounter_outcome_final_woundedVictory : ∃ s, Run EncounterStep fighterEncounter woundedVictory s ∧
    (s.isOver = true → ∀ as s', Run EncounterStep s as s' →
      s'.status = s.status ∧ s'.rewardEligibility = s.rewardEligibility ∧
        Books.SameEnding s.transition s'.transition ∧ ∀ a ∈ as, a.1.intent.isRest = true) := by
  obtain ⟨s, hs⟩ := Option.isSome_iff_exists.mp woundedVictory_replays
  have hrun := run_of_replay hs
  exact ⟨s, hrun, (encounter_outcome_final ⟨_, _, fighterEncounter_new, hrun⟩).1⟩

/-- **A hit die spent after the victory rewrites the transition**, which follows the hero's hit points. -/
theorem transition_not_final : ¬ ∀ s, Reachable s → s.isOver = true → ∀ a s', EncounterStep s a s' →
    s'.transition = s.transition := by
  intro h
  obtain ⟨s, hs, hhealed⟩ := (Option.any_eq_true _ _).mp woundedVictory_healed
  obtain ⟨hover, hnext⟩ := Bool.and_eq_true_iff.mp hhealed
  obtain ⟨s', hs', hchanged⟩ := (Option.any_eq_true _ _).mp hnext
  cases run_of_replay hs' with
  | cons hstep hrest =>
    cases hrest with
    | nil =>
      exact of_decide_eq_true hchanged
        (h s ⟨_, _, fighterEncounter_new, run_of_replay hs⟩ hover _ _ hstep)

end ManchesterArcana.Encounter
