import ManchesterArcana.Encounter.Claw
import ManchesterArcana.Encounter.Outcome

/-!
# `Encounter.Suspension` — a hit that waits, along a history

The attack of the creature is split over two commands when the hero could still raise a Shield: the first
records the roll, the second answers it. The pause is transparent. Declining ends where the unbroken attack
ends on the same dice, Shield decides by what was recorded, and until then the hit neither changes nor gets
lost: every hit that was opened is answered once, or still waits.
-/

namespace ManchesterArcana.Encounter

open Effect Rules
open Option (mem_def mem_unique)

/-! ## Narrations of a hit -/

variable {d : Draft} {s : EncounterState} {critical : Bool}

variable {actorName targetId attackId : String} {damage : Nat} {faces : List Nat}

theorem hitNarration_valid {targetName : String}
    (ha : IsText 120 actorName) (ht : IsText 120 targetName) (hd : damage < 10 ^ 9) :
    (hitNarration critical actorName targetName damage).Valid := by
  unfold hitNarration
  split
  · have hblow : IsText (120 + 60 + 120 + 6)
        (actorName ++ " finds the opening and lands a devastating blow on " ++ targetName ++ " for ") :=
      ((ha.append (by decide)).append ht.length_le).append (by decide)
    have htakes : IsText (14 + 120 + 8) ("Critical hit: " ++ targetName ++ " takes ") :=
      (ht.prepend (a := "Critical hit: ") (by decide)).append (by decide)
    exact narration_valid (by decide)
      ((isText_number hblow hd (b := " damage.") (n := 8) (by decide)).mono (by decide))
      ((isText_number htakes hd (b := " damage.") (n := 8) (by decide)).mono (by decide))
  · have hstrikes : IsText (120 + 10 + 120 + 6) (actorName ++ " strikes " ++ targetName ++ " for ") :=
      ((ha.append (by decide)).append ht.length_le).append (by decide)
    have htakes : IsText (5 + 120 + 8) ("Hit: " ++ targetName ++ " takes ") :=
      (ht.prepend (a := "Hit: ") (by decide)).append (by decide)
    exact narration_valid (by decide)
      ((isText_number hstrikes hd (b := " damage.") (n := 8) (by decide)).mono (by decide))
      ((isText_number htakes hd (b := " damage.") (n := 8) (by decide)).mono (by decide))

theorem completionNarration_valid {outcome : EncounterOutcome} {heroName : String}
    (ha : IsText 120 actorName) (hh : IsText 124 heroName) :
    (completionNarration outcome actorName heroName).Valid := by
  have htext {text : String} (h1 : isBlank text = false) (h2 : text.length ≤ 1000) : IsText 1000 text := ⟨h1, h2⟩
  cases outcome with
  | victory =>
    exact narration_valid (by decide) ((ha.append (n := 100) (by decide)).mono (by decide))
      (htext (by decide) (by decide))
  | defeat =>
    exact narration_valid (by decide) ((hh.append (n := 100) (by decide)).mono (by decide))
      ((hh.append (n := 100) (by decide)).mono (by decide))

/-! ## The unbroken hit -/

/-- The claw's damage dice are a well-formed request. -/
theorem clawRequest_wellFormed :
    (damageRequest sootWightId canalWardenId sootWightAttackId critical creatureAttack.damageDieSides
      creatureAttack.damageModifier).WellFormed where
  actorId := isValid_ids.2
  targetId := fun id hid => by
    obtain rfl := Option.some.inj hid
    exact isValid_ids.1
  actionId := fun id hid => by
    obtain rfl := Option.some.inj hid
    exact EncounterAttack.creatureAttack_valid.attackId
  count := by
    show (if critical then 2 else 1) = 1 ∨ (if critical then 2 else 1) = 2
    cases critical
    · exact .inl rfl
    · exact .inr rfl
  sides := ⟨show 1 ≤ 6 by decide, show 6 ≤ 20 by decide⟩
  modifiers_le := show 1 ≤ 4 by decide
  modifiers_nodup := List.nodup_singleton _
  modifierIds := fun m hm => by
    rw [List.mem_singleton.mp hm]
    decide
  shape := ⟨rfl, rfl, show (6 : Nat) ≠ 20 by decide, rfl⟩

/-- A claw is far from every limit. -/
theorem ClawFaces.damage_le (h : ClawFaces critical faces) :
    (faces.map (Int.ofNat ·)).sum + creatureAttack.damageModifier.value.toInt ≤ 13 := by
  obtain ⟨hlen, hin⟩ := h
  have hmodifier : creatureAttack.damageModifier.value.toInt = 1 := by decide
  have hsix {v : Nat} (hv : InRange creatureAttack.damageDieSides v) : v ≤ 6 := hv.2
  rw [hmodifier]
  match faces, hlen with
  | [], _ => decide
  | [a], _ =>
    have := hsix (hin a (by simp))
    simp only [List.map_cons, List.map_nil, List.sum_cons, List.sum_nil, Int.ofNat_eq_natCast]
    omega
  | [a, b], _ =>
    have := hsix (hin a (by simp))
    have := hsix (hin b (by simp))
    simp only [List.map_cons, List.map_nil, List.sum_cons, List.sum_nil, Int.ofNat_eq_natCast]
    omega
  | _ :: _ :: _ :: _, hlen => cases critical <;> simp at hlen

theorem wakeSleepAfterDamage_hero :
    wakeSleepAfterDamage d canalWardenId damage = d := by
  unfold wakeSleepAfterDamage
  rw [if_pos (.inr (.inl canalWardenId_ne_sootWightId))]

theorem recordLifeChange_facts {id : String} {a b : LifeStatus} {saves : DeathSaves}
    (h : d.facts ≠ []) : (recordLifeChange d id a b saves).facts ≠ [] := by
  unfold recordLifeChange
  split
  · exact Draft.push_facts_ne
  · exact h

theorem finishForHealthTransition_facts (h : d.facts ≠ []) :
    (finishForHealthTransition d targetId).2.facts ≠ [] := by
  unfold finishForHealthTransition
  split
  · exact Draft.push_facts_ne
  · split
    · split
      · exact Draft.push_facts_ne
      · exact Draft.push_facts_ne
      · exact h
    · exact h

theorem heroNarrativeName_frame {s' : EncounterState} (h : Frame s s') :
    heroNarrativeName s' = heroNarrativeName s := by
  have hname : s'.hero.skeleton.name = s.hero.skeleton.name := congrArg (·.name) h.hero
  have hsource : s'.hero.skeleton.sourceCharacterId = s.hero.skeleton.sourceCharacterId :=
    congrArg (·.sourceCharacterId) h.hero
  unfold heroNarrativeName
  rw [show s'.hero.name = s.hero.name from hname,
    show s'.hero.sourceCharacterId = s.hero.sourceCharacterId from hsource]

/-- How a hit is told, whether it ends the encounter or not. -/
theorem returns_conclude {completion : Option EncounterOutcome}
    {ended : EncounterOutcome → DeterministicNarration} {hit : DeterministicNarration} :
    Prog.Returns (match completion with
      | some outcome => (return (ended outcome, d) : Rolling EncounterError Resolved)
      | none => return (hit, d)) [] ((completion.map ended).getD hit, d) := by
  cases completion <;> exact .ok _

/-- **The unbroken hit of the claw goes through on every throw.** -/
theorem resolveWeaponDamage_claws (hv : s.Valid) (hframe : Frame s d.state)
    (hrolls : d.rolls.length = 1) (hvalid : EncounterResolution.RollsValid d.rolls)
    (hfaces : ClawFaces critical faces) :
    ∃ n d', Prog.Returns
        (resolveWeaponDamage d s.creature d.state.hero sootWightId canalWardenId creatureAttack critical)
        (clawDice faces) (n, d') ∧
      d'.state = d.state.clawed critical faces ∧ n.Valid ∧ EncounterResolution.RollsValid d'.rolls ∧
      d'.facts ≠ [] := by
  have hbound := hfaces.damage_le
  obtain ⟨hlen, hin⟩ := hfaces
  let q := damageRequest sootWightId canalWardenId sootWightAttackId critical creatureAttack.damageDieSides
    creatureAttack.damageModifier
  have hwf : q.WellFormed := clawRequest_wellFormed
  have hroom : d.rolls.length < maxU16 := by rw [hrolls]; decide
  obtain ⟨o, ho⟩ := hwf.outcome_ok hlen ((faces.map (Int.ofNat ·)).sum + q.modifierTotal)
  -- the throw
  obtain ⟨roll, hroll⟩ : ∃ roll, roll = q.facts (d.rolls.length + 1) faces o := ⟨_, rfl⟩
  have hrollValid : roll.Valid := by
    rw [hroll]
    exact hwf.facts_valid (Nat.succ_ne_zero _) hlen hin ho
  have htotal : roll.total = (faces.map (Int.ofNat ·)).sum + creatureAttack.damageModifier.value.toInt := by
    rw [hroll]
    exact congrArg ((faces.map (Int.ofNat ·)).sum + ·) (Int.add_zero _)
  have hperform : Prog.Returns (performRoll d.rolls q) (clawDice faces) (roll, d.rolls ++ [roll]) :=
    performRoll_returns.mpr ⟨faces, o, hlen, hin, rfl, ho, hroom, hroll, hrollValid, rfl⟩
  have hfits : ¬ roll.total > maxU16 := by
    rw [htotal]
    unfold maxU16
    omega
  have hdamage : roll.total.toNat = clawDamage faces := congrArg Int.toNat htotal
  have hrollsValid : EncounterResolution.RollsValid (d.rolls ++ [roll]) :=
    hvalid.snoc hroom (by rw [hroll]; rfl) hrollValid
  -- the draft before the encounter may end
  let application := (applyDamage d.state.hero roll.total.toNat critical d.state.lethalityPolicy).2
  let struck := (applyDamage d.state.hero roll.total.toNat critical d.state.lethalityPolicy).1
  let x := recordLifeChange
    (wakeSleepAfterDamage
      (((d.withRolls (d.rolls ++ [roll])).update (·.updateCombatant canalWardenId fun _ => struck)).push
        (damageFact sootWightId canalWardenId sootWightAttackId creatureAttack.damageType critical
          roll.total.toNat application))
      canalWardenId roll.total.toNat)
    canalWardenId application.lifeBefore application.lifeAfter struck.hitPoints.deathSaves
  have hxfacts : x.facts ≠ [] := by
    refine recordLifeChange_facts ?_
    rw [wakeSleepAfterDamage_hero]
    exact Draft.push_facts_ne
  have hxrolls : x.rolls = d.rolls ++ [roll] := by
    refine recordLifeChange_rolls.trans ?_
    rw [wakeSleepAfterDamage_hero]
    rfl
  have hxstate : x.state = { d.state with hero := struck } := by
    refine recordLifeChange_state.trans ?_
    rw [wakeSleepAfterDamage_hero]
    exact @EncounterState.updateCombatant_hero d.state fun _ => struck
  have hstate : (finishForHealthTransition x canalWardenId).2.state = d.state.clawed critical faces := by
    rw [EncounterState.settleHealth_of_draft, hxstate]
    unfold EncounterState.clawed
    rw [← hdamage]
  have hname : IsText 124 (heroNarrativeName (finishForHealthTransition x canalWardenId).2.state) := by
    rw [hstate, heroNarrativeName_frame (hframe.trans EncounterState.clawed_frame)]
    exact heroNarrativeName_isText hv
  have htarget : IsText 120 d.state.hero.name := by
    have hname : d.state.hero.skeleton.name = s.hero.skeleton.name := congrArg (·.name) hframe.hero
    rw [show d.state.hero.name = s.hero.name from hname]
    exact hv.hero.name_isText
  have hsmall : roll.total.toNat < 10 ^ 9 := by omega
  refine ⟨((finishForHealthTransition x canalWardenId).1.map fun outcome =>
      completionNarration outcome s.creature.name
        (heroNarrativeName (finishForHealthTransition x canalWardenId).2.state)).getD
      (hitNarration critical s.creature.name d.state.hero.name roll.total.toNat),
    (finishForHealthTransition x canalWardenId).2,
    Prog.returns_bind.mpr ⟨_, [], (_, _), (List.append_nil _).symm, hperform,
      Prog.returns_reject_bind.mpr ⟨hfits, returns_conclude⟩⟩, hstate, ?narration, ?rolls, ?facts⟩
  case narration =>
    cases (finishForHealthTransition x canalWardenId).1 with
    | some outcome => exact completionNarration_valid hv.creature.name_isText hname
    | none => exact hitNarration_valid hv.creature.name_isText htarget hsmall
  case rolls =>
    rw [finishForHealthTransition_spec.2.2.2, hxrolls]
    exact hrollsValid
  case facts => exact finishForHealthTransition_facts hxfacts

/-! ## The attack that opens a reaction -/

namespace EncounterState

theorem pendingHit_books {s : EncounterState} : s.books.pending = s.pendingHit := by
  unfold Books.pending books pendingHit
  cases s.liveQ04 <;> rfl

/-- Recording a hit and answering it leaves what was there before. -/
theorem answered_recorded {s : EncounterState} (hnone : s.pendingHit = none) (p : PendingAttackReaction) :
    (s.mapLive fun live => { live with pendingAttackReaction := some p }).answered = s := by
  have hsame : (s.liveQ04.map fun live => { live with pendingAttackReaction := some p }).map
      (fun live => { live with pendingAttackReaction := none }) = s.liveQ04 := by
    unfold pendingHit at hnone
    cases hlive : s.liveQ04 with
    | none => rfl
    | some live =>
      rw [hlive] at hnone
      have hp : live.pendingAttackReaction = none := hnone
      show some { live with pendingAttackReaction := none } = some live
      rw [← hp]
  unfold answered mapLive
  rw [show ({ s with liveQ04 := s.liveQ04.map fun live => { live with pendingAttackReaction := some p } } :
    EncounterState).liveQ04.map (fun live => { live with pendingAttackReaction := none }) = s.liveQ04 from hsame]

end EncounterState

/-- What the roll of the attack recorded of the hit. -/
structure RecordedRoll (p : PendingAttackReaction) (t : List (Nat × Nat)) : Prop where
  dice : t = [(20, p.naturalRoll)]
  total : p.attackTotal = p.naturalRoll + (creatureAttack.attackModifiers.map (·.value.toInt)).sum
  critical : p.critical = decide (p.naturalRoll = 20)

theorem attackForActor_creature {attack : EncounterAttack}
    (h : attackForActor s sootWightId attackId = some attack) : creatureAttack = attack := by
  unfold attackForActor attacksForActor at h
  rw [if_neg sootWightId_ne_canalWardenId, if_pos rfl, Option.bind_some] at h
  exact (List.mem_singleton.mp (List.mem_of_find?_eq_some h)).symm

/-- A hit is critical on a natural 20. -/
theorem isCritical_of_hit {natural : Nat} {total target : Int} {outcome : AttackOutcome}
    (h : AttackOutcome.ofRoll (RawRollFacts.attackOutcome natural total target) = some outcome)
    (hhit : ¬ outcome.isHit = false) : outcome.isCritical = decide (natural = 20) := by
  unfold RawRollFacts.attackOutcome at h
  by_cases h1 : natural = 1
  · rw [if_pos h1] at h
    obtain rfl := Option.some.inj h
    exact absurd rfl hhit
  · rw [if_neg h1] at h
    by_cases h20 : natural = 20
    · rw [if_pos h20] at h
      obtain rfl := Option.some.inj h
      exact (decide_eq_true h20).symm
    · rw [if_neg h20] at h
      rw [decide_eq_false h20]
      split at h <;> obtain rfl := Option.some.inj h
      · rfl
      · exact absurd rfl hhit

/-- **An attack that opens a reaction** is the creature's claw; it records its roll, and with the reaction gone
    the same roll strikes at once. -/
theorem resolveAttack_opens (hv : s.Valid)
    {t : List (Nat × Nat)} {n : DeterministicNarration} {p : PendingAttackReaction}
    (h : Prog.Returns (resolveAttack (.of s) attackId targetId) t (n, d)) (hp : d.state.pendingHit = some p) :
    s.schemaVersion = encounterSchemaVersion ∧ RecordedRoll p t ∧ s.pendingHit = none ∧ ∃ r,
      d.state = (s.spendAction r).mapLive (fun live => { live with pendingAttackReaction := some p }) ∧
      ∀ faces, ClawFaces p.critical faces → ∃ n' d',
        Prog.Returns (resolveAttack (.of (s.withReaction false)) attackId targetId) (t ++ clawDice faces)
          (n', d') ∧
        d'.state = ((s.spendAction r).withReaction false).clawed p.critical faces ∧ n'.Valid ∧
        EncounterResolution.RollsValid d'.rolls ∧ d'.facts ≠ [] := by
  obtain ⟨hs, actor, hcurrent, hup, h⟩ := returns_activeActor h
  obtain ⟨attack, hattack, h⟩ := h.lift
  obtain ⟨htarget, h⟩ := h.reject
  obtain ⟨target, hlookup, h⟩ := h.expect
  obtain ⟨halive, h⟩ := h.reject
  obtain ⟨actor', hactor', h⟩ := h.expect
  obtain ⟨hrange, h⟩ := h.reject
  obtain ⟨r, hr, h⟩ := h.expect
  obtain ⟨haction, h⟩ := h.reject
  obtain ⟨_, hfits, h⟩ := h.expect
  obtain ⟨t₁, t₂, ⟨roll, rolls⟩, rfl, hroll, h⟩ := h.bind
  obtain ⟨outcome, houtcome, h⟩ := h.expect
  have hr' : s.turnResources = some r := hr
  have hnone : s.pendingHit = none := by
    unfold EncounterState.pendingHit
    cases hlive : s.liveQ04 with
    | none => rfl
    | some live => exact hv.noPending_of_action hr' (by simpa using haction) (mem_def.mpr hlive)
  dsimp only at h
  split at h
  case isTrue =>
    -- a miss opens nothing
    obtain rfl : d = _ := h.snd_eq
    exact absurd (hp.symm.trans hnone) nofun
  case isFalse hhit =>
    split at h
    case isFalse =>
      -- nor does a hit that strikes at once
      have hstate : (s.spendAction r).combatant targetId = some target := hlookup
      have hlive : d.state.books.live = s.books.live := by
        rcases resolveWeaponDamage_books hstate h with hchange | hchange <;> exact hchange.kept.live
      rw [← EncounterState.pendingHit_books, Books.pending, hlive] at hp
      rw [← EncounterState.pendingHit_books, Books.pending] at hnone
      exact absurd (hp.symm.trans hnone) nofun
    case isTrue hopens =>
      obtain ⟨natural, hnatural, h⟩ := h.expect
      obtain ⟨rfl, heq⟩ := h.of_ok
      obtain rfl : d = _ := congrArg Prod.snd heq
      obtain ⟨h3, hwight, -⟩ := hopens
      -- it is the creature's claw, at the hero
      obtain rfl : actor = s.creature := by
        rcases hv.turn_cases hs with ⟨-, hcur⟩ | ⟨-, hcur⟩
        · obtain rfl : actor = s.hero := mem_unique hcurrent hcur
          rw [hv.fixed.heroId] at hwight
          exact absurd hwight canalWardenId_ne_sootWightId
        · exact mem_unique hcurrent hcur
      have hactorId : s.creature.id = sootWightId := hwight
      rw [hactorId] at hattack htarget hactor' hroll
      obtain rfl : targetId = canalWardenId := by
        rw [if_neg sootWightId_ne_canalWardenId] at htarget
        exact not_not.mp htarget
      obtain rfl : s.creature = actor' :=
        mem_unique ((if_neg sootWightId_ne_canalWardenId).trans (if_pos rfl)) hactor'
      obtain rfl : s.hero = target := mem_unique (if_pos rfl) hlookup
      obtain rfl : creatureAttack = attack := attackForActor_creature (okOr_eq_ok.mp hattack)
      obtain ⟨faces, o, hlen, hin, rfl, ho, hroom, rfl, hrollValid, rfl⟩ := performRoll_returns.mp hroll
      obtain ⟨face, rfl⟩ := List.length_eq_one_iff.mp hlen
      obtain rfl : face = natural := Option.some.inj hnatural
      obtain ⟨live, hlive, -⟩ := hv.live h3
      let q := attackRequest sootWightId canalWardenId creatureAttack s.hero.armorClass
      have hrecorded : some
          { actorId := s.creature.id, targetId := canalWardenId, attackId := creatureAttack.attackId
            naturalRoll := face, attackTotal := ([face].map (Int.ofNat ·)).sum + q.modifierTotal
            armorClass := s.hero.armorClass, critical := outcome.isCritical } = some p := by
        refine Eq.trans ?_ hp
        show _ = ((s.spendAction r).mapLive _).liveQ04.bind (·.pendingAttackReaction)
        unfold EncounterState.mapLive
        rw [show (s.spendAction r).liveQ04 = some live from hlive]
        rfl
      obtain rfl := Option.some.inj hrecorded
      have hcritical : outcome.isCritical = decide (face = 20) := by
        obtain rfl := Except.ok.inj ho
        exact isCritical_of_hit houtcome hhit
      refine ⟨h3, ⟨rfl, ?total, hcritical⟩, hnone, r, rfl, fun faces hfaces => ?direct⟩
      case total =>
        show ([face].map (Int.ofNat ·)).sum + q.modifierTotal = _
        simp only [List.map_cons, List.map_nil, List.sum_cons, List.sum_nil, Int.add_zero]
        rfl
      case direct =>
        let u := s.withReaction false
        let d₁ := (((Draft.of u).update fun s => s.spendAction r).withRolls [q.facts 1 [face] o]).push
          (.attackResolved sootWightId canalWardenId creatureAttack.attackId
            (distance s.creature.positionFeet s.hero.positionFeet) creatureAttack.rangeFeet s.hero.armorClass
            (q.facts 1 [face] o).total outcome)
        have hu : u.Valid := hv.withReaction false
        have hframe : Frame u d₁.state := rfl
        have hrolls : EncounterResolution.RollsValid d₁.rolls :=
          EncounterResolution.RollsValid.nil.snoc (by decide) rfl hrollValid
        obtain ⟨n', d', hret, hstate, hn, hrolls', hfacts⟩ :=
          resolveWeaponDamage_claws hu hframe rfl hrolls hfaces
        refine ⟨n', d', ?_, hstate, hn, hrolls', hfacts⟩
        have hready : shieldSpellReady d₁.state = false :=
          @EncounterState.shieldSpellReady_withReaction (s.spendAction r)
        -- the same guards, the same roll, and then the damage at once
        rw [List.append_nil]
        unfold resolveAttack
        refine Prog.returns_lift_bind.mpr ⟨s.creature.id,
          requireConsciousActiveActor_eq_ok.mpr ⟨hs, s.creature, hcurrent, hup, rfl⟩, ?_⟩
        rw [hactorId]
        refine Prog.returns_lift_bind.mpr ⟨creatureAttack, hattack, ?_⟩
        refine Prog.returns_reject_bind.mpr ⟨htarget, ?_⟩
        refine Prog.returns_expect_bind.mpr ⟨s.hero, hlookup, ?_⟩
        refine Prog.returns_reject_bind.mpr ⟨halive, ?_⟩
        refine Prog.returns_expect_bind.mpr ⟨s.creature, hactor', ?_⟩
        refine Prog.returns_reject_bind.mpr ⟨hrange, ?_⟩
        refine Prog.returns_expect_bind.mpr ⟨r, hr, ?_⟩
        refine Prog.returns_reject_bind.mpr ⟨haction, ?_⟩
        refine Prog.returns_expect_bind.mpr ⟨_, hfits, ?_⟩
        refine Prog.returns_bind.mpr ⟨_, clawDice faces, (_, _), rfl, performRoll_returns.mpr
          ⟨[face], o, hlen, hin, rfl, ho, hroom, rfl, hrollValid, rfl⟩, ?_⟩
        refine Prog.returns_expect_bind.mpr ⟨outcome, houtcome, ?_⟩
        dsimp only
        rw [if_neg hhit, if_neg fun hc => by
          have hc' : shieldSpellReady d₁.state = true := hc.2.2
          rw [hready] at hc'
          cases hc']
        exact hret

/-! ## Steps around a waiting hit -/

namespace Books

variable {b b' : Books} {intent : EncounterIntent}

theorem Kept.pending (h : b.Kept b') : b'.pending = b.pending := by
  unfold Books.pending
  rw [h.live]

theorem takeTurn_pending {actorId : String} {resources : TurnResources} :
    (b.takeTurn actorId resources).pending = b.pending := by
  unfold takeTurn Books.pending
  dsimp only
  split
  · cases b.live <;> rfl
  · rfl

/-- **Only the creature's attack and the hero's answer touch the waiting hit.** -/
theorem Posts.pending (h : b.Posts intent b') (hattack : ∀ attackId targetId, intent ≠ .attack attackId targetId)
    (hshield : intent ≠ .castShield) (hdecline : intent ≠ .declineReaction) : b'.pending = b.pending := by
  cases intent with
  | startEncounter =>
    obtain ⟨-, actorId, resources, rfl⟩ := h
    exact takeTurn_pending
  | move destination =>
    obtain ⟨-, r, feet, position, -, -, ⟨-, -, rfl⟩ | ⟨-, -, rfl⟩⟩ := h <;> rfl
  | attack attackId targetId => exact absurd rfl (hattack attackId targetId)
  | contextAction actionId =>
    obtain ⟨-, r, -, rfl⟩ := h
    rfl
  | castSpell spell targetId =>
    obtain ⟨-, paid, ⟨-, r, pools, -, -, -, -, rfl⟩, rfl | hchange⟩ := h
    · rfl
    · exact hchange.kept.pending
  | castLight objectId | castMageHand anchor | castSleep =>
    obtain ⟨-, -, r, pools, -, -, -, -, rfl⟩ := h
    rfl
  | controlMageHand objectId | dismissMageHand =>
    obtain ⟨-, -, r, -, -, rfl⟩ := h
    rfl
  | castShield => exact absurd rfl hshield
  | declineReaction => exact absurd rfl hdecline
  | secondWind =>
    obtain ⟨-, -, r, pools, hitPoints, -, -, -, rfl⟩ := h
    rfl
  | actionSurge =>
    obtain ⟨-, -, r, pools, -, -, -, -, rfl⟩ := h
    rfl
  | beginShortRest =>
    obtain ⟨live, pools, hitPoints, life, rest, hlive, -, -, rfl⟩ := h
    unfold Books.pending
    rw [hlive]
    rfl
  | spendHitDie =>
    obtain ⟨live, pools, hitPoints, life, transition, rest, rest', hlive, -, -, -, -, rfl⟩ := h
    unfold Books.pending
    rw [hlive]
    rfl
  | useArcaneRecovery =>
    obtain ⟨live, pools, rest, rest', hlive, -, -, -, -, rfl⟩ := h
    unfold Books.pending
    rw [hlive]
    rfl
  | finishShortRest =>
    obtain ⟨live, pools, hitPoints, life, transition, rest, hlive, -, -, -, rfl⟩ := h
    unfold Books.pending
    rw [hlive]
    rfl
  | takeLongRest =>
    obtain ⟨live, pools, hitPoints, life, transition, hlive, -, -, -, -, rfl⟩ := h
    unfold Books.pending
    rw [hlive]
    rfl
  | endTurn =>
    obtain ⟨-, actorId, resources, -, -, rfl⟩ := h
    exact takeTurn_pending
  | rollDeathSave =>
    obtain ⟨-, -, hchange | ⟨hitPoints, life, actorId, resources, -, -, rfl⟩⟩ := h
    · exact hchange.kept.pending
    · exact takeTurn_pending

/-- **An answer takes the waiting hit away.** -/
theorem Posts.answered (h : b.Posts intent b') (hi : intent = .castShield ∨ intent = .declineReaction) :
    b'.pending = none := by
  rcases hi with rfl | rfl
  · obtain ⟨-, warded, ⟨live, pools, p, w, -, -, -, -, -, rfl⟩, rfl | ⟨struck, hchange, rfl | rfl⟩⟩ := h
    · rfl
    · exact hchange.kept.pending
    · refine Eq.trans ?_ hchange.kept.pending
      unfold Books.pending dropWard
      cases struck.live <;> rfl
  · obtain ⟨-, live, p, -, -, hchange⟩ := h
    exact hchange.kept.pending

end Books

/-- The hero answers the waiting hit. -/
def EncounterIntent.isAnswer : EncounterIntent → Bool
  | .castShield | .declineReaction => true
  | _ => false

namespace EncounterState.Valid

variable {s : EncounterState}

theorem pending_of_hit (hv : s.Valid) {p : PendingAttackReaction} (hp : s.pendingHit = some p) :
    s.pendingReaction = true ∧ ∃ live, s.liveQ04 = some live ∧ PendingValid s live p := by
  obtain ⟨live, hlive, hpend⟩ := Option.bind_eq_some_iff.mp hp
  have hvalid := hv.live_of_mem (mem_def.mpr hlive)
  refine ⟨pendingReaction_eq_true.mpr ⟨?_, live, p, hlive, hpend⟩, live, hlive, hvalid.pending p hpend⟩
  by_contra h3
  rw [hv.noLive h3] at hlive
  cases hlive

end EncounterState.Valid

namespace EncounterStep

variable {s s' : EncounterState} {a : Turned} {p : PendingAttackReaction}

/-- Over a waiting hit the creature walks or the hero answers. -/
theorem over_hit (h : EncounterStep s a s') (hp : s.pendingHit = some p) :
    (∃ destination, a.1.intent = .move destination) ∨ a.1.intent.isAnswer = true := by
  have hv := h.valid
  obtain ⟨hwaits, live, hlive, hpv⟩ := hv.pending_of_hit hp
  have hbusy {actor : CombatantState} {r : TurnResources} (ht : OrdinaryTurn s actor r) : False := by
    have := ht.undisturbed
    rw [hwaits] at this
    cases this
  have hawake {live' : EncounterLiveQ04State} {rules : EncounterHeroRulesProfile}
      (hb : RestBoundary s live' rules) : False := by
    have := hb.safe
    rw [EncounterState.not_safe_of_active hpv.status] at this
    cases this
  rcases h.offered with ⟨action, hpermitted, hcovers⟩ | ⟨-, -, hslips⟩
  · generalize a.1.intent = intent at hcovers
    cases action with
    | startEncounter => exact absurd (hpermitted.symm.trans hpv.status) nofun
    | move => obtain ⟨actor, r, ht, -⟩ := hpermitted; exact (hbusy ht).elim
    | attack => obtain ⟨actor, r, -, -, -, ht, -⟩ := hpermitted; exact (hbusy ht).elim
    | contextAction => obtain ⟨r, ht, -⟩ := hpermitted; exact (hbusy ht).elim
    | castSpell => obtain ⟨r, rules, sc, ht, -⟩ := hpermitted; exact (hbusy ht.turn).elim
    | castLight => obtain ⟨r, rules, sc, live', ht, -⟩ := hpermitted; exact (hbusy ht.turn).elim
    | castMageHand => obtain ⟨r, rules, sc, live', ht, -⟩ := hpermitted; exact (hbusy ht.turn).elim
    | controlMageHand => obtain ⟨r, rules, sc, live', ht, -⟩ := hpermitted; exact (hbusy ht.turn).elim
    | dismissMageHand => obtain ⟨r, rules, sc, live', ht, -⟩ := hpermitted; exact (hbusy ht.turn).elim
    | castSleep => obtain ⟨r, rules, sc, live', ht, -⟩ := hpermitted; exact (hbusy ht.turn).elim
    | secondWind => obtain ⟨r, rules, ht, -⟩ := hpermitted; exact (hbusy ht.turn).elim
    | actionSurge => obtain ⟨r, rules, ht, -⟩ := hpermitted; exact (hbusy ht.turn).elim
    | beginShortRest => obtain ⟨live', rules, hb, -⟩ := hpermitted; exact (hawake hb).elim
    | spendHitDie => obtain ⟨live', rules, rest, hb, -⟩ := hpermitted; exact (hawake hb).elim
    | useArcaneRecovery => obtain ⟨live', rules, rest, hb, -⟩ := hpermitted; exact (hawake hb).elim
    | finishShortRest => obtain ⟨live', rules, rest, hb, -⟩ := hpermitted; exact (hawake hb).elim
    | takeLongRest => obtain ⟨live', rules, hb, -⟩ := hpermitted; exact (hawake hb).elim
    | endTurn => exact absurd (hwaits.symm.trans hpermitted.2.1) nofun
    | rollDeathSave => exact absurd (hwaits.symm.trans hpermitted.2.1) nofun
    | castShield =>
      cases intent with
      | castShield => exact .inr rfl
      | _ => exact hcovers.elim
    | declineReaction =>
      cases intent with
      | declineReaction => exact .inr rfl
      | _ => exact hcovers.elim
  · generalize a.1.intent = intent at hslips
    cases intent with
    | move destination => exact .inl ⟨destination, rfl⟩
    | attack attackId targetId =>
      -- a second attack would need the action that the first one took
      obtain ⟨-, -, -, -, -, r, hr, haction⟩ := hslips
      obtain ⟨r', hr', hspent⟩ := hpv.resources
      obtain rfl : r' = r := mem_unique hr' hr
      rw [haction] at hspent
      cases hspent
    | _ => exact hslips.elim

end EncounterStep

theorem sealedState_of_schema (h : d.state.schemaVersion = s.schemaVersion) :
    sealedState s d = { d.state with revision := s.revision + 1 } := by
  unfold sealedState
  rw [← h]

/-- **A hit waits**: the creature moves, and neither the hit nor the hero's health changes. -/
structure Waits (p : PendingAttackReaction) (s : EncounterState) (a : Turned) (s' : EncounterState) : Prop where
  step : EncounterStep s a s'
  move : ∃ destination, a.1.intent = .move destination
  before : s.pendingHit = some p
  after : s'.pendingHit = some p
  hitPoints : s'.hero.hitPoints = s.hero.hitPoints
  life : s'.hero.lifeStatus = s.hero.lifeStatus

/-- What declining a hit does. -/
def Declined (p : PendingAttackReaction) (s : EncounterState) (a : Turned) (s' : EncounterState) : Prop :=
  ∃ faces, ClawFaces p.critical faces ∧ a.2 = clawDice faces ∧
    s' = { s.answered.clawed p.critical faces with revision := s.revision + 1 }

/-- What a Shield against a hit does: it turns the hit aside, or the hit goes through as if declined. -/
def Shielded (p : PendingAttackReaction) (s : EncounterState) (a : Turned) (s' : EncounterState) : Prop :=
  (p.Turned ∧ a.2 = [] ∧ ∃ live rules, s' = { s with
    revision := s.revision + 1, liveQ04 := live, heroRules := rules }) ∨
  (¬ p.Turned ∧ ∃ faces live rules, ClawFaces p.critical faces ∧ a.2 = clawDice faces ∧
    s' = { s.clawed p.critical faces with revision := s.revision + 1, liveQ04 := live, heroRules := rules })

/-- **A hit is answered**: it strikes as recorded or is turned aside, and no longer waits. -/
structure Answers (p : PendingAttackReaction) (s : EncounterState) (a : Turned) (s' : EncounterState) : Prop where
  step : EncounterStep s a s'
  before : s.pendingHit = some p
  after : s'.pendingHit = none
  outcome : (a.1.intent = .declineReaction ∧ Declined p s a s') ∨ (a.1.intent = .castShield ∧ Shielded p s a s')

/-- **A hit is opened**: the roll of the creature's attack is recorded. -/
structure Opens (p : PendingAttackReaction) (s : EncounterState) (a : Turned) (s' : EncounterState) : Prop where
  step : EncounterStep s a s'
  attack : ∃ attackId targetId, a.1.intent = .attack attackId targetId
  before : s.pendingHit = none
  after : s'.pendingHit = some p
  recorded : RecordedRoll p a.2

namespace EncounterStep

variable {s s' s₁ s₂ : EncounterState} {a b : Turned} {p : PendingAttackReaction}

theorem waits_or_answers (h : EncounterStep s a s') (hp : s.pendingHit = some p) :
    Waits p s a s' ∨ Answers p s a s' := by
  have hv := h.valid
  have hposts := h.posts
  obtain ⟨hwaits, live, hlive, hpv⟩ := hv.pending_of_hit hp
  rcases h.over_hit hp with ⟨destination, hmove⟩ | hanswer
  · refine .inl ⟨h, ⟨destination, hmove⟩, hp, ?_, ?_, ?_⟩
    · rw [hmove] at hposts
      rw [← EncounterState.pendingHit_books, hposts.pending nofun nofun nofun, EncounterState.pendingHit_books]
      exact hp
    all_goals
      rw [hmove] at hposts
      obtain ⟨-, r, feet, position, -, -, ⟨-, -, hbooks⟩ | ⟨-, -, hbooks⟩⟩ := hposts
    · exact congrArg Books.heroHitPoints hbooks
    · exact congrArg Books.heroHitPoints hbooks
    · exact congrArg Books.heroLife hbooks
    · exact congrArg Books.heroLife hbooks
  · obtain ⟨n, d, -, hintent, -, hs'⟩ := h.sealed
    refine .inr ⟨h, hp, ?after, ?outcome⟩
    case after =>
      rw [← EncounterState.pendingHit_books]
      refine hposts.answered ?_
      cases hi : a.1.intent <;> rw [hi] at hanswer <;> cases hanswer
      · exact .inl rfl
      · exact .inr rfl
    case outcome =>
      cases hi : a.1.intent with
      | declineReaction =>
        rw [hi] at hintent
        obtain ⟨p', faces, hp', hfaces, hdice, hstate⟩ := resolveDeclineReaction_returns hintent
        obtain rfl : p' = p := mem_unique hp' hp
        have hschema : d.state.schemaVersion = s.schemaVersion := by
          rw [hstate]
          exact EncounterState.clawed_frame.schemaVersion
        refine .inl ⟨rfl, faces, hfaces, hdice, ?_⟩
        rw [hs', sealedState_of_schema hschema, hstate]
      | castShield =>
        rw [hi] at hintent
        obtain ⟨p', hp', hresult⟩ := resolveShieldReaction_returns hintent
        obtain rfl : p' = p := mem_unique hp' hp
        refine .inr ⟨rfl, ?_⟩
        rcases hresult with ⟨hturned, hdice, live, rules, hstate⟩ |
          ⟨hturned, faces, live, rules, hfaces, hdice, hstate⟩
        · have hschema : d.state.schemaVersion = s.schemaVersion := by rw [hstate]
          refine .inl ⟨hturned, hdice, live, rules, ?_⟩
          rw [hs', sealedState_of_schema hschema, hstate]
        · have hschema : d.state.schemaVersion = s.schemaVersion := by
            rw [hstate]
            exact EncounterState.clawed_frame.schemaVersion
          refine .inr ⟨hturned, faces, live, rules, hfaces, hdice, ?_⟩
          rw [hs', sealedState_of_schema hschema, hstate]
      | _ =>
        rw [hi] at hanswer
        cases hanswer

/-- **A hit that comes up was opened by the creature's attack.** -/
theorem opens (h : EncounterStep s a s') (hnone : s.pendingHit = none) (hp : s'.pendingHit = some p) :
    Opens p s a s' := by
  have hposts := h.posts
  obtain ⟨n, d, -, hintent, -, hs'⟩ := h.sealed
  have hpd : d.state.pendingHit = some p := by
    rw [hs'] at hp
    exact hp
  have hattack : ∃ attackId targetId, a.1.intent = .attack attackId targetId := by
    by_contra hno
    have hkept (hnot : a.1.intent.isAnswer = false) : s'.books.pending = s.books.pending := by
      refine hposts.pending (fun x y hxy => hno ⟨x, y, hxy⟩) ?_ ?_ <;>
      · intro hi
        rw [hi] at hnot
        cases hnot
    rw [EncounterState.pendingHit_books, EncounterState.pendingHit_books, hp, hnone] at hkept
    cases hi : a.1.intent.isAnswer with
    | false => exact absurd (hkept hi) nofun
    | true =>
      have hanswered := hposts.answered (by
        cases hintent' : a.1.intent <;> rw [hintent'] at hi <;> cases hi
        · exact .inl rfl
        · exact .inr rfl)
      rw [EncounterState.pendingHit_books, hp] at hanswered
      cases hanswered
  obtain ⟨attackId, targetId, hi⟩ := hattack
  rw [hi] at hintent
  obtain ⟨-, hrecorded, -⟩ := resolveAttack_opens h.valid hintent hpd
  exact ⟨h, ⟨attackId, targetId, hi⟩, hnone, hp, hrecorded⟩

/-- **The pause is transparent.** With the reaction gone, the attack on the dice of both commands ends in one
    step where attack and decline ended in two; only the revision and the reaction differ. -/
theorem declined_direct (hopen : EncounterStep s a s₁) (hnone : s.pendingHit = none)
    (hp : s₁.pendingHit = some p) (hdecline : EncounterStep s₁ b s₂) (hb : b.1.intent = .declineReaction) :
    EncounterStep (s.withReaction false) (a.1, a.2 ++ b.2)
      { s₂.withReaction false with revision := s₁.revision } := by
  have hv := hopen.valid
  obtain ⟨attackId, targetId, hi⟩ := (hopen.opens hnone hp).attack
  obtain ⟨n, d, henv, hintent, -, hs₁⟩ := hopen.sealed
  have hpd : d.state.pendingHit = some p := by
    rw [hs₁] at hp
    exact hp
  rw [hi] at hintent
  obtain ⟨h3, -, -, r, hstate, hdirect⟩ := resolveAttack_opens hv hintent hpd
  -- the decline strikes the state that the attack started from
  obtain ⟨faces, hfaces, hdice, hs₂⟩ : Declined p s₁ b s₂ := by
    rcases hdecline.waits_or_answers hp with hwaits | hanswers
    · obtain ⟨destination, hmove⟩ := hwaits.move
      exact absurd (hmove.symm.trans hb) nofun
    · rcases hanswers.outcome with ⟨-, hdeclined⟩ | ⟨hshield, -⟩
      · exact hdeclined
      · exact absurd (hshield.symm.trans hb) nofun
  obtain ⟨X, hX⟩ : ∃ X, X = (s.spendAction r).clawed p.critical faces := ⟨_, rfl⟩
  have hframe : Frame s X := by
    rw [hX]
    exact @EncounterState.clawed_frame (s.spendAction r) p.critical faces
  have hspend : (s.spendAction r).pendingHit = none := hnone
  have hanswered : s₁.answered = { s.spendAction r with revision := s.revision + 1 } := by
    have hschema : d.state.schemaVersion = s.schemaVersion := by
      rw [hstate]
      rfl
    have hback := EncounterState.answered_recorded hspend p
    rw [hs₁, sealedState_of_schema hschema, hstate]
    exact congrArg (fun x : EncounterState => { x with revision := s.revision + 1 }) hback
  have hrev₁ : s₁.revision = s.revision + 1 := by rw [hs₁]; rfl
  have hs₂' : s₂ = { X with revision := s.revision + 2 } := by
    rw [hs₂, hanswered, EncounterState.clawed_withRevision, hrev₁, hX]
  -- the same draft, struck at once
  obtain ⟨n', d', hret, hstate', hn, hrolls, hfacts⟩ := hdirect faces hfaces
  have hd' : d'.state = X.withReaction false := by
    rw [hstate', hX]
    exact EncounterState.clawed_withReaction
  have hvalid' : d'.state.Valid := by
    have hv₂ := (hdecline.valid_next.withReaction false).withRevision hv.envelope.revision_pos
    have hsame : d'.state = { s₂.withReaction false with revision := s.revision } := by
      rw [hd', hs₂', ← hframe.revision]
      rfl
    rw [hsame]
    exact hv₂
  have hschema' : d'.state.schemaVersion = (s.withReaction false).schemaVersion := by
    rw [hd']
    exact hframe.schemaVersion
  have hseal : Sealable (s.withReaction false) n' d' :=
    { narration := hn
      frame := by
        rw [hd']
        exact hframe
      moved := hvalid'.moved
      rolls := hrolls
      facts_ne := hfacts
      rollsFit := fun roll _ => RawRollFacts.fits_live h3
      factsFit := fun f _ => EncounterFact.fits_live h3 }
  obtain ⟨res, hres, hresState⟩ := hseal.ok (hv.withReaction false) hopen.revision_le
  refine ⟨res, resolveEncounter_returns.mpr ⟨⟨hv.withReaction false, henv.command, henv.encounterId,
    henv.revision, henv.schemaVersion⟩, n', d', ?_, hres⟩, ?_⟩
  · rw [hi, hdice]
    exact hret
  · rw [hresState, sealedState_of_schema hschema', hd', hs₂', hrev₁]
    rfl

end EncounterStep

/-! ## Every history -/

/-- The hits that wait: one, or none. -/
def waitingHits (s : EncounterState) : Nat := if s.pendingHit.isSome then 1 else 0

/-- The hits that a step opens. -/
def openedHits (s s' : EncounterState) : Nat := if s.pendingHit.isNone ∧ s'.pendingHit.isSome then 1 else 0

/-- The answers the hero gave along a history. -/
def answersGiven (as : List Turned) : Nat := (as.map fun a => if a.1.intent.isAnswer then 1 else 0).sum

namespace EncounterStep

variable {s s' : EncounterState} {a : Turned}

/-- There is nothing to answer unless a hit waits. -/
theorem answer_waits (h : EncounterStep s a s') (ha : a.1.intent.isAnswer = true) : ∃ p, s.pendingHit = some p := by
  obtain ⟨n, d, -, hintent, -⟩ := h.sealed
  cases hi : a.1.intent <;> rw [hi] at ha hintent <;> cases ha
  · obtain ⟨p, hp, -⟩ := resolveShieldReaction_returns hintent
    exact ⟨p, hp⟩
  · obtain ⟨p, faces, hp, -⟩ := resolveDeclineReaction_returns hintent
    exact ⟨p, hp⟩

/-- **A step opens a hit, answers one, or leaves what waits as it is.** -/
theorem hits_balance (h : EncounterStep s a s') :
    waitingHits s + openedHits s s' = waitingHits s' + if a.1.intent.isAnswer then 1 else 0 := by
  unfold waitingHits openedHits
  cases hp : s.pendingHit with
  | none =>
    have hno : a.1.intent.isAnswer = false := by
      by_contra hyes
      obtain ⟨p, hp'⟩ := h.answer_waits (Bool.not_eq_false _ ▸ hyes)
      rw [hp] at hp'
      cases hp'
    rw [hno]
    cases s'.pendingHit <;> rfl
  | some p =>
    rcases h.waits_or_answers hp with hwaits | hanswers
    · obtain ⟨destination, hmove⟩ := hwaits.move
      rw [hwaits.after, hmove]
      rfl
    · have hyes : a.1.intent.isAnswer = true := by
        rcases hanswers.outcome with ⟨hi, -⟩ | ⟨hi, -⟩ <;> rw [hi] <;> rfl
      rw [hanswers.after, hyes]
      rfl

/-- **Where a waiting hit comes from**: the creature's attack opened it, and since then it has waited. -/
theorem run_opened {s₀ : EncounterState} {as : List Turned} (hrun : Run EncounterStep s₀ as s)
    (h₀ : s₀.pendingHit = none) {p : PendingAttackReaction} (hp : s.pendingHit = some p) :
    ∃ as₁ a as₂ s₁ s₂, as = as₁ ++ a :: as₂ ∧ Run EncounterStep s₀ as₁ s₁ ∧ Opens p s₁ a s₂ ∧
      Run (Waits p) s₂ as₂ s := by
  induction as using List.reverseRecOn generalizing s with
  | nil =>
    cases hrun with
    | nil => exact absurd (hp.symm.trans h₀) nofun
  | append_singleton as a ih =>
    obtain ⟨s', hrun', hlast⟩ := hrun.of_snoc
    cases hp' : s'.pendingHit with
    | none => exact ⟨as, a, [], s', s, rfl, hrun', hlast.opens hp' hp, .nil s⟩
    | some q =>
      rcases hlast.waits_or_answers hp' with hwaits | hanswers
      · obtain rfl : q = p := mem_unique hwaits.after hp
        obtain ⟨as₁, a₁, as₂, s₁, s₂, rfl, hrun₁, hopens, hwait⟩ := ih hrun' hp'
        exact ⟨as₁, a₁, as₂ ++ [a], s₁, s₂, by simp, hrun₁, hopens, hwait.snoc hwaits⟩
      · exact absurd (hp.symm.trans hanswers.after) nofun

end EncounterStep

namespace EncounterStep

variable {s s' : EncounterState} {a : Turned} {p : PendingAttackReaction}

theorem shields (h : EncounterStep s a s') (hi : a.1.intent = .castShield) :
    ∃ p, s.pendingHit = some p ∧ Shielded p s a s' := by
  obtain ⟨p, hp⟩ := h.answer_waits (by rw [hi]; rfl)
  refine ⟨p, hp, ?_⟩
  rcases h.waits_or_answers hp with hwaits | hanswers
  · obtain ⟨destination, hmove⟩ := hwaits.move
    exact absurd (hmove.symm.trans hi) nofun
  · rcases hanswers.outcome with ⟨hdecline, -⟩ | ⟨-, hshielded⟩
    · exact absurd (hdecline.symm.trans hi) nofun
    · exact hshielded

/-- **Shield turns a hit aside exactly when the recorded roll allows it**, and then the hero is unhurt. -/
theorem shielded_iff (h : EncounterStep s a s') (hi : a.1.intent = .castShield) (hp : s.pendingHit = some p)
    (hshielded : Shielded p s a s') :
    (a.2 = [] ↔ p.naturalRoll ≠ 20 ∧ p.attackTotal < s.hero.armorClass + 5) ∧
      (a.2 = [] ↔ s'.hero = s.hero) := by
  have hv := h.valid
  obtain ⟨-, live, -, hpv⟩ := hv.pending_of_hit hp
  rw [← hpv.armorClass]
  rcases hshielded with ⟨hturned, hdice, live', rules, rfl⟩ | ⟨hturned, faces, live', rules, hfaces, hdice, rfl⟩
  · exact ⟨iff_of_true hdice hturned, iff_of_true hdice rfl⟩
  · have hne : a.2 ≠ [] := by
      rw [hdice]
      exact hfaces.dice_ne
    refine ⟨iff_of_false hne hturned, iff_of_false hne ?_⟩
    -- the hero who raised the ward was up, so the claw shows
    obtain ⟨n, d, -, hintent, -⟩ := h.sealed
    rw [hi] at hintent
    obtain ⟨-, havailable⟩ := permitted_of_guard hv hintent
    have hup := EncounterState.conscious_of_ready (Bool.and_eq_true_iff.mp havailable).2
    have hlife := hv.hero.life
    unfold CombatantState.LifeShape at hlife
    rw [hv.fixed.heroKind, hup] at hlife
    show (s.clawed p.critical faces).hero ≠ s.hero
    rw [EncounterState.clawed_hero]
    exact applyDamage_ne hv.fixed.heroKind (Nat.pos_of_ne_zero hlife.1) clawDamage_pos

end EncounterStep

theorem NewEncounter.pendingHit (h : NewEncounter s) : s.pendingHit = none := by
  cases hp : s.pendingHit with
  | none => rfl
  | some p =>
    obtain ⟨hwaits, -⟩ := h.valid.pending_of_hit hp
    exact absurd ((h.valid.pending_turn hwaits).1.symm.trans h.ready) nofun

/-- The warded wizard before the encounter. -/
def wizardEncounter : EncounterState :=
  { (EncounterState.new .storyRecovery .runesMisread).withHeroProfile wardedWizard with liveQ04 := some .new }

theorem wizardEncounter_new : NewEncounter wizardEncounter where
  valid := EncounterState.validate_eq_ok.mp (by decide)
  ready := rfl

/-- The creature comes first, runs up and hits for 16; the wizard lets it. -/
def clawedWizard : List Turned :=
  [ turned 1 .startEncounter [(20, 4), (20, 15)]
  , turned 2 (.move 5) []
  , turned 3 (.attack sootWightAttackId canalWardenId) [(20, 13)]
  , turned 4 .declineReaction [(6, 5)] ]

theorem clawedWizard_replays :
    (replayHistory wizardEncounter (clawedWizard.take 3)).any (fun s => s.pendingHit.isSome &&
      (replayHistory s (clawedWizard.drop 3)).isSome) = true := by
  decide +kernel

end ManchesterArcana.Encounter
