import ManchesterArcana.Effect.Run
import ManchesterArcana.Encounter.Alteration
import ManchesterArcana.Encounter.Turning

/-!
# `Encounter.Tally` — what the facts record of rolls and hit points

`EncounterFact.Shows` says what each fact claims to have happened to the hit points of the two participants, and
`Tally` collects the results of dice that facts and raw rolls speak of. A draft is `Accounted` from where it
started when its facts, one after the other, show how the hit points got to where they are, and speak of the
same results as its rolls. The parts that the resolvers share keep it so; the resolvers follow in
`Encounter.Wounds`.
-/

namespace ManchesterArcana.Encounter

open Effect Rules

/-! ## Hit points -/

/-- Current and temporary hit points. -/
structure Body where
  current : Nat
  temporary : Nat

/-- The hit points of the two participants. -/
structure Bodies where
  hero : Body
  creature : Body

def CombatantState.body (c : CombatantState) : Body := ⟨c.hitPoints.current, c.hitPoints.temporary⟩

def EncounterState.bodies (s : EncounterState) : Bodies := ⟨s.hero.body, s.creature.body⟩

namespace Body

/-- Damage goes to the temporary hit points first. -/
def struck (b : Body) (amount : Nat) : Body := ⟨b.current - (amount - b.temporary), b.temporary - amount⟩

def healed (b : Body) (amount : Nat) : Body := { b with current := b.current + amount }

/-- Temporary hit points before, absorbed and after, and current ones before and after, as damage leaves them. -/
def ShowsDamage (b : Body) (amount temporaryBefore absorbed temporaryAfter currentBefore currentAfter : Nat) : Prop :=
  temporaryBefore = b.temporary ∧ absorbed = min amount b.temporary ∧ temporaryAfter = (b.struck amount).temporary ∧
    currentBefore = b.current ∧ currentAfter = (b.struck amount).current

end Body

/-- **What a fact says of the hit points.** -/
def EncounterFact.Shows (before : Bodies) (fact : EncounterFact) (after : Bodies) : Prop :=
  match fact with
  | .damageApplied _ targetId _ _ _ amount temporaryBefore absorbed temporaryAfter currentBefore currentAfter =>
    (targetId = canalWardenId ∧
        before.hero.ShowsDamage amount temporaryBefore absorbed temporaryAfter currentBefore currentAfter ∧
        after = { before with hero := before.hero.struck amount }) ∨
      (targetId = sootWightId ∧
        before.creature.ShowsDamage amount temporaryBefore absorbed temporaryAfter currentBefore currentAfter ∧
        after = { before with creature := before.creature.struck amount })
  | .healingApplied _ _ requested effective currentBefore currentAfter =>
    effective ≤ requested ∧ currentBefore = before.hero.current ∧ currentAfter = currentBefore + effective ∧
      after = { before with hero := before.hero.healed effective }
  | .hitDieSpent _ _ _ _ healingTotal effective _ _ =>
    effective ≤ healingTotal ∧ after = { before with hero := before.hero.healed effective }
  | .restCompleted _ kind _ _ recovered _ _ =>
    after = { before with hero :=
      { before.hero.healed recovered with temporary := if kind = .long then 0 else before.hero.temporary } }
  | .contextActionResolved _ _ removed _ =>
    removed = before.creature.temporary ∧ after = { before with creature := { before.creature with temporary := 0 } }
  | .deathSaveResolved _ natural .. =>
    -- the one hit point of a natural twenty
    before.hero.current = 0 ∧
      after = if natural = 20 then { before with hero := before.hero.healed 1 } else before
  | _ => after = before

/-! ## Results of dice -/

/-- What was rolled: attacks with their totals and outcomes, the naturals of death saves, pools of hit points, damage
    and healing. -/
structure Tally where
  attacks : List (Int × RawRollOutcome) := []
  saves : List Nat := []
  pools : List Nat := []
  damage : Nat := 0
  healing : Nat := 0

namespace Tally

def add (a b : Tally) : Tally where
  attacks := a.attacks ++ b.attacks
  saves := a.saves ++ b.saves
  pools := a.pools ++ b.pools
  damage := a.damage + b.damage
  healing := a.healing + b.healing

@[simp] theorem add_empty (a : Tally) : a.add {} = a := by
  simp [add]

@[simp] theorem empty_add (a : Tally) : ({} : Tally).add a = a := by
  simp [add]

theorem add_assoc (a b c : Tally) : (a.add b).add c = a.add (b.add c) := by
  simp [add, Nat.add_assoc]

end Tally

/-- The tally of a list. -/
def tallyOf {α : Type} (f : α → Tally) (l : List α) : Tally := (l.map f).foldr Tally.add {}

section

variable {α : Type} {f : α → Tally}

@[simp] theorem tallyOf_nil : tallyOf f [] = {} := rfl

variable {l : List α} {a : α}

theorem tallyOf_cons : tallyOf f (a :: l) = (f a).add (tallyOf f l) := rfl

theorem tallyOf_singleton : tallyOf f [a] = f a := Tally.add_empty _

theorem tallyOf_append {l' : List α} : tallyOf f (l ++ l') = (tallyOf f l).add (tallyOf f l') := by
  induction l with
  | nil => exact (Tally.empty_add _).symm
  | cons a l ih =>
    show (f a).add (tallyOf f (l ++ l')) = _
    rw [ih, ← Tally.add_assoc]
    rfl

theorem tallyOf_eq_empty (h : ∀ a ∈ l, f a = {}) : tallyOf f l = {} := by
  induction l with
  | nil => rfl
  | cons a l ih =>
    obtain ⟨ha, hl⟩ := List.forall_mem_cons.mp h
    rw [tallyOf_cons, ha, ih hl, Tally.empty_add]

end

/-- The results of dice that a fact speaks of. -/
def EncounterFact.tally : EncounterFact → Tally
  | .attackResolved _ _ _ _ _ _ attackTotal outcome => { attacks := [(attackTotal, outcome.toRaw)] }
  | .damageApplied _ _ _ _ _ amount .. => { damage := amount }
  | .healingApplied _ _ requested .. => { healing := requested }
  | .hitDieSpent _ _ _ _ healingTotal .. => { healing := healingTotal }
  | .deathSaveResolved _ natural .. => { saves := [natural] }
  | .sleepResolved _ pool .. => { pools := [pool] }
  | _ => {}

/-- The result of a raw roll. -/
def RawRollFacts.tally (r : RawRollFacts) : Tally :=
  match r.purpose with
  | .initiative => {}
  | .attack => { attacks := [(r.total, r.outcome)] }
  | .damage => { damage := r.total.toNat }
  | .healing | .hitDie => { healing := r.total.toNat }
  | .sleepHitPoints => { pools := [r.total.toNat] }
  | .deathSave => { saves := r.naturalD20.toList }

/-! ## Accounts -/

/-- **The facts account for the hit points and for the rolls.** -/
structure Accounted (start : Bodies) (d : Draft) : Prop where
  bodies : Run EncounterFact.Shows start d.facts d.state.bodies
  tally : tallyOf EncounterFact.tally d.facts = tallyOf RawRollFacts.tally d.rolls

/-- A fact that speaks neither of hit points nor of dice. -/
def EncounterFact.Idle (f : EncounterFact) : Prop := f.tally = {} ∧ ∀ b, f.Shows b b

/-- Nothing happened to the hit points, and no dice were thrown. -/
structure Keeps (d d' : Draft) : Prop where
  bodies : d'.state.bodies = d.state.bodies
  rolls : d'.rolls = d.rolls
  facts : ∃ fs, d'.facts = d.facts ++ fs ∧ ∀ f ∈ fs, f.Idle

namespace Keeps

variable {d d' d'' : Draft}

theorem refl (d : Draft) : Keeps d d := ⟨rfl, rfl, [], (List.append_nil _).symm, by simp⟩

theorem trans (h : Keeps d d') (h' : Keeps d' d'') : Keeps d d'' := by
  obtain ⟨fs, hfs, hidle⟩ := h.facts
  obtain ⟨gs, hgs, hidle'⟩ := h'.facts
  refine ⟨h'.bodies.trans h.bodies, h'.rolls.trans h.rolls, fs ++ gs, ?_, ?_⟩
  · rw [hgs, hfs, List.append_assoc]
  · intro f hf
    exact (List.mem_append.mp hf).elim (hidle f) (hidle' f)

/-- An idle fact is pushed, and the state rewritten beside the hit points. -/
theorem of_push {f : EncounterFact} (hbodies : d'.state.bodies = d.state.bodies) (hrolls : d'.rolls = d.rolls)
    (hfacts : d'.facts = d.facts ++ [f]) (hf : f.Idle) : Keeps d d' :=
  ⟨hbodies, hrolls, [f], hfacts, by simpa using hf⟩

/-- The state is rewritten beside the hit points. -/
theorem of_state (hbodies : d'.state.bodies = d.state.bodies) (hrolls : d'.rolls = d.rolls)
    (hfacts : d'.facts = d.facts) : Keeps d d' :=
  ⟨hbodies, hrolls, [], by rw [hfacts, List.append_nil], by simp⟩

end Keeps

namespace Accounted

variable {start : Bodies} {d d' : Draft}

theorem of (s : EncounterState) : Accounted s.bodies (.of s) := ⟨.nil _, rfl⟩

/-- What is added speaks of the same dice on both sides, and shows how the hit points moved. -/
theorem extend (h : Accounted start d) (fs : List EncounterFact) (rs : List RawRollFacts)
    (hfacts : d'.facts = d.facts ++ fs) (hrolls : d'.rolls = d.rolls ++ rs)
    (hbodies : Run EncounterFact.Shows d.state.bodies fs d'.state.bodies)
    (htally : tallyOf EncounterFact.tally fs = tallyOf RawRollFacts.tally rs) : Accounted start d' where
  bodies := by
    rw [hfacts]
    exact h.bodies.append hbodies
  tally := by
    rw [hfacts, hrolls, tallyOf_append, tallyOf_append, h.tally, htally]

variable {f : EncounterFact}

/-- One fact and one roll. -/
theorem snoc (h : Accounted start d) {r : RawRollFacts} (hfacts : d'.facts = d.facts ++ [f])
    (hrolls : d'.rolls = d.rolls ++ [r]) (hbodies : f.Shows d.state.bodies d'.state.bodies)
    (htally : f.tally = r.tally) : Accounted start d' := by
  refine h.extend [f] [r] hfacts hrolls (.cons hbodies (.nil _)) ?_
  rw [tallyOf_singleton, tallyOf_singleton, htally]

/-- A fact that no die decided. -/
theorem push (h : Accounted start d) (hfacts : d'.facts = d.facts ++ [f])
    (hrolls : d'.rolls = d.rolls) (hbodies : f.Shows d.state.bodies d'.state.bodies) (htally : f.tally = {}) :
    Accounted start d' := by
  refine h.extend [f] [] hfacts (hrolls.trans (List.append_nil _).symm) (.cons hbodies (.nil _)) ?_
  rw [tallyOf_singleton, htally]
  rfl

theorem keeps (h : Accounted start d) (hk : Keeps d d') : Accounted start d' := by
  obtain ⟨fs, hfs, hidle⟩ := hk.facts
  refine h.extend fs [] hfs (hk.rolls.trans (List.append_nil _).symm) ?_ ?_
  · rw [hk.bodies]
    have hrun (l : List EncounterFact) (hl : ∀ f ∈ l, f.Idle) :
        Run EncounterFact.Shows d.state.bodies l d.state.bodies := by
      induction l with
      | nil => exact .nil _
      | cons f l ih =>
        obtain ⟨hf, hl⟩ := List.forall_mem_cons.mp hl
        exact .cons (hf.2 _) (ih hl)
    exact hrun fs hidle
  · exact tallyOf_eq_empty fun f hf => (hidle f hf).1

end Accounted

/-! ## What the resolvers share -/

section Parts

variable {s : EncounterState} {d d' : Draft} {t : List (Nat × Nat)}

theorem recordLifeChange_keeps {id : String} {a b : LifeStatus} {saves : DeathSaves} :
    Keeps d (recordLifeChange d id a b saves) := by
  unfold recordLifeChange
  split
  · exact .of_push rfl rfl rfl ⟨rfl, fun _ => rfl⟩
  · exact .refl d

variable {targetId actorId attackId : String} {critical : Bool}

theorem wakeSleepAfterDamage_keeps {damage : Nat} :
    Keeps d (wakeSleepAfterDamage d targetId damage) := by
  unfold wakeSleepAfterDamage
  split
  · exact .refl d
  · split
    · exact .of_push rfl rfl rfl ⟨rfl, fun _ => rfl⟩
    · exact .refl d

theorem completeDefeat_keeps {reason : DefeatReason} : Keeps d (completeDefeat d reason) :=
  .of_push rfl rfl rfl ⟨rfl, fun _ => rfl⟩

theorem finishForHealthTransition_keeps : Keeps d (finishForHealthTransition d targetId).2 := by
  unfold finishForHealthTransition
  split
  · exact .of_push rfl rfl rfl ⟨rfl, fun _ => rfl⟩
  · split
    · split
      · exact completeDefeat_keeps
      · exact completeDefeat_keeps
      · exact .refl d
    · exact .refl d

/-- The passing of a turn leaves the hit points alone. -/
theorem TurnPassed.bodies {s' : EncounterState} (h : TurnPassed s s') : s'.bodies = s.bodies := by
  rw [h]
  rfl

theorem passRound_keeps (hhands : d.state.HandsValid) {index : Nat} (h : Prog.Returns (passRound d index) t d') :
    Keeps d d' := by
  obtain ⟨-, hrolls, hpassed⟩ := passRound_returns h
  refine ⟨hpassed.bodies, hrolls, ?_⟩
  unfold passRound at h
  split at h
  · obtain ⟨-, rfl⟩ := h.of_ok
    exact ⟨[], (List.append_nil _).symm, by simp⟩
  · obtain ⟨-, h⟩ := h.reject
    obtain ⟨facts, haged, hexpiry, -⟩ := advanceLiveQ04Round_of_valid
      (d := d.update fun s => { s with round := s.round + 1 }) hhands
    rw [haged] at h
    obtain ⟨-, rfl⟩ := h.of_ok
    refine ⟨facts, rfl, fun f hf => ?_⟩
    have := hexpiry f hf
    cases f <;> first | exact ⟨rfl, fun _ => rfl⟩ | cases this

theorem advanceTurn_keeps (hhands : d.state.HandsValid) (h : Prog.Returns (advanceTurn d) t d') : Keeps d d' := by
  simp only [advanceTurn, Prog.returns_lift_bind, Prog.returns_expect_bind] at h
  obtain ⟨initiative, -, oldIndex, -, endedActorId, -, -, -, h⟩ := h
  obtain ⟨t₁, t₂, passed, rfl, hpass, h⟩ := h.bind
  obtain ⟨t₃, t₄, state, rfl, hset, h⟩ := h.bind
  obtain ⟨-, hs⟩ := setCurrentTurn_returns hset
  obtain ⟨nextActorId, -, h⟩ := h.expect
  obtain ⟨-, rfl⟩ := h.of_ok
  exact (passRound_keeps hhands hpass).trans (.of_push hs.bodies rfl rfl ⟨rfl, fun _ => rfl⟩)

theorem followHand_keeps {destination : Nat} (h : Prog.Returns (followHand d destination) t d') : Keeps d d' := by
  unfold followHand at h
  split at h
  · obtain ⟨-, rfl⟩ := h.of_ok
    exact .refl _
  · split at h
    · obtain ⟨-, rfl⟩ := h.of_ok
      exact .refl _
    · obtain ⟨⟨expired, hand⟩, -, h⟩ := h.lift
      dsimp only at h
      split at h
      · obtain ⟨-, rfl⟩ := h.of_ok
        exact .of_push rfl rfl rfl ⟨rfl, fun _ => rfl⟩
      · obtain ⟨-, rfl⟩ := h.of_ok
        exact .of_state rfl rfl rfl

/-- The end of timed effects leaves the hit points alone. -/
theorem expireEffectsForRest_keeps {live : EncounterLiveQ04State}
    {f : EncounterLiveQ04State → EncounterLiveQ04State} : Keeps d (expireEffectsForRest d live f) := by
  refine ⟨?_, rfl, expiryFacts live, rfl, fun g hg => ?_⟩
  · unfold expireEffectsForRest
    split <;> rfl
  · unfold expiryFacts at hg
    rw [List.mem_append, List.mem_append, List.mem_map, List.mem_map, List.mem_map] at hg
    rcases hg with (⟨_, -, rfl⟩ | ⟨_, -, rfl⟩) | ⟨_, -, rfl⟩ <;> exact ⟨rfl, fun _ => rfl⟩

/-! ### Damage -/

/-- **Damage strikes the body**, whatever the rules make of a hero who goes down. -/
theorem applyDamage_body {c : CombatantState} {amount : Nat} {critical : Bool} {policy : LethalityPolicy} :
    (applyDamage c amount critical policy).1.body = c.body.struck amount := by
  have htemporary : c.hitPoints.temporary - min amount c.hitPoints.temporary = c.hitPoints.temporary - amount := by
    omega
  have hrest : amount - min amount c.hitPoints.temporary = amount - c.hitPoints.temporary := by
    omega
  rw [applyDamage_fst, hrest]
  generalize hshield : c.shielded (min amount c.hitPoints.temporary) = shielded
  have hbody : shielded.body = ⟨c.hitPoints.current, c.hitPoints.temporary - amount⟩ := by
    rw [← hshield, ← htemporary]
    rfl
  obtain ⟨hcurrent, htemp⟩ := Body.mk.inj hbody
  have hstrike (c' : CombatantState) (h : c'.hitPoints.current = shielded.hitPoints.current -
      (amount - c.hitPoints.temporary)) (h' : c'.hitPoints.temporary = shielded.hitPoints.temporary) :
      c'.body = c.body.struck amount := by
    unfold CombatantState.body Body.struck
    rw [h, h', hcurrent, htemp]
  unfold CombatantState.strike
  split
  case isTrue => exact hstrike _ rfl rfl
  case isFalse =>
    split
    case isTrue => exact hstrike _ rfl rfl
    case isFalse =>
      split
      case isTrue =>
        unfold CombatantState.strikeStanding
        split
        case isTrue hover => exact hstrike _ (Nat.sub_eq_zero_of_le hover).symm rfl
        case isFalse => exact hstrike _ rfl rfl
      case isFalse hdown =>
        -- a hero who is down has nothing left to lose
        have hzero : shielded.hitPoints.current = 0 := Nat.eq_zero_of_not_pos hdown
        split
        case isTrue =>
          unfold CombatantState.strikeFallen
          split <;> exact hstrike _ (by rw [hzero, Nat.zero_sub]) rfl
        case isFalse => exact hstrike _ (by rw [hzero, Nat.zero_sub]) rfl

/-- The record of a hit shows what it did to its target. -/
theorem applyDamage_shows {c : CombatantState} {amount : Nat} {critical : Bool} {policy : LethalityPolicy} :
    let a := (applyDamage c amount critical policy).2
    c.body.ShowsDamage amount a.temporaryBefore a.temporaryAbsorbed a.temporaryAfter a.currentBefore
      a.currentAfter := by
  have hbody := @applyDamage_body c amount critical policy
  exact ⟨rfl, rfl, congrArg Body.temporary hbody, rfl, congrArg Body.current hbody⟩

/-- **A hit is accounted for**, whoever it is on. -/
theorem damageFact_shows {actorId targetId attackId : String} {damageType : DamageType} {critical : Bool}
    {amount : Nat} {policy : LethalityPolicy} {target struck : CombatantState} {a : DamageApplication}
    (htarget : s.combatant targetId = some target) (h : applyDamage target amount critical policy = (struck, a)) :
    (damageFact actorId targetId attackId damageType critical amount a).Shows s.bodies
      (s.updateCombatant targetId fun _ => struck).bodies := by
  have hbody := @applyDamage_body target amount critical policy
  have hshows := @applyDamage_shows target amount critical policy
  rw [h] at hbody hshows
  unfold EncounterState.combatant at htarget
  by_cases hhero : targetId = canalWardenId
  case pos =>
    subst hhero
    rw [if_pos rfl] at htarget
    obtain rfl := Option.some.inj htarget
    refine .inl ⟨rfl, hshows, ?_⟩
    rw [EncounterState.updateCombatant_hero]
    unfold EncounterState.bodies
    rw [hbody]
  case neg =>
    by_cases hwight : targetId = sootWightId
    case neg =>
      rw [if_neg hhero, if_neg hwight] at htarget
      cases htarget
    case pos =>
      subst hwight
      rw [if_neg hhero, if_pos rfl] at htarget
      obtain rfl := Option.some.inj htarget
      refine .inr ⟨rfl, hshows, ?_⟩
      rw [EncounterState.updateCombatant_creature]
      unfold EncounterState.bodies
      rw [hbody]

/-- **A hit on the hero is accounted for.** -/
theorem damageFact_shows_hero {damageType : DamageType} {amount : Nat}
    {policy : LethalityPolicy} {struck : CombatantState} {a : DamageApplication}
    (h : applyDamage s.hero amount critical policy = (struck, a)) :
    (damageFact actorId canalWardenId attackId damageType critical amount a).Shows s.bodies
      { s with hero := struck }.bodies :=
  @damageFact_shows s actorId canalWardenId attackId damageType critical amount policy s.hero struck a (if_pos rfl) h

/-- The damage dice of a request are its damage. -/
theorem damageRequest_tally {sides : Nat}
    {modifier : RollModifierFact} {sequence : Nat} {faces : List Nat} {o : RawRollOutcome} {roll : RawRollFacts}
    (h : roll = (damageRequest actorId targetId attackId critical sides modifier).facts sequence faces o) :
    roll.tally = { damage := roll.total.toNat } := by
  rw [h]
  rfl

end Parts

end ManchesterArcana.Encounter
