import ManchesterArcana.Encounter.Correspondence
import ManchesterArcana.Encounter.Slumber
import ManchesterArcana.Encounter.Tally
import ManchesterArcana.Rules.ShortRest

/-!
# `Encounter.Wounds` — every resolver accounts for the hit points

`resolveIntent_accounted`: whatever a resolver leaves behind, its facts show how the hit points moved from where
they were when the resolver set out, and speak of the dice that its rolls record. Only the first rest after a
defeat under story recovery sets out from elsewhere (`EncounterState.startOf`): the hero gets up first.
-/

namespace ManchesterArcana.Encounter

open Effect Rules

/-- The hit points once the hero has got up from a defeat under story recovery, with what the transition promised. -/
def EncounterState.recoveredBodies (s : EncounterState) : Bodies :=
  if s.status = .defeat ∧ s.lethalityPolicy = .storyRecovery ∧ s.hero.lifeStatus = .unconscious then
    { s.bodies with hero :=
      { s.bodies.hero with current := (s.transition.map (·.heroCurrentHitPoints)).getD 0 } }
  else s.bodies

/-- The hit points with which an intent sets out. -/
def EncounterState.startOf (s : EncounterState) : EncounterIntent → Bodies
  | .beginShortRest | .takeLongRest => s.recoveredBodies
  | _ => s.bodies

/-! ## Start, movement and weapon attacks -/

section Combat

variable {s : EncounterState} {d : Draft} {t : List (Nat × Nat)} {n : DeterministicNarration} {start : Bodies}

theorem resolveStart_accounted (h : Prog.Returns (resolveStart (.of s)) t (n, d)) : Accounted s.bodies d := by
  obtain ⟨-, h⟩ := h.reject
  obtain ⟨t₁, t₂, ⟨heroRoll, rolls⟩, rfl, hhero, h⟩ := h.bind
  obtain ⟨t₃, t₄, ⟨creatureRoll, rolls'⟩, rfl, hcreature, h⟩ := h.bind
  obtain ⟨t₅, t₆, heroEntry, rfl, -, h⟩ := h.bind
  obtain ⟨t₇, t₈, creatureEntry, rfl, -, h⟩ := h.bind
  obtain ⟨t₉, t₁₀, state, rfl, hset, h⟩ := h.bind
  obtain ⟨currentActorId, -, h⟩ := h.expect
  obtain rfl : d = _ := h.snd_eq
  obtain ⟨faces, o, -, -, -, -, -, hroll, -, hrolls⟩ := performRoll_returns.mp hhero
  obtain ⟨faces', o', -, -, -, -, -, hroll', -, hrolls'⟩ := performRoll_returns.mp hcreature
  obtain ⟨-, hpassed⟩ := setCurrentTurn_returns hset
  refine (Accounted.of s).extend [_] [heroRoll, creatureRoll] rfl ?_ (.cons hpassed.bodies (.nil _)) ?_
  · show rolls' = [heroRoll, creatureRoll]
    rw [hrolls', hrolls]
    rfl
  · rw [hroll, hroll']
    rfl

theorem resolveMove_accounted {destination : Nat} (h : Prog.Returns (resolveMove (.of s) destination) t (n, d)) :
    Accounted s.bodies d := by
  obtain ⟨actorId, -, h⟩ := h.lift
  obtain ⟨-, h⟩ := h.reject
  obtain ⟨actor, -, h⟩ := h.expect
  obtain ⟨-, h⟩ := h.reject
  obtain ⟨r, -, h⟩ := h.expect
  obtain ⟨-, h⟩ := h.reject
  dsimp only at h
  generalize hx : (Draft.of s).update _ = x at h
  have hmoved : Keeps (.of s) x := by
    rw [← hx]
    refine .of_state ?_ rfl rfl
    show (EncounterState.updateCombatant _ actorId _).bodies = _
    unfold EncounterState.updateCombatant
    split
    · rfl
    · split <;> rfl
  have hstep (moved : Draft) (hkeeps : Keeps x moved) (f : EncounterFact) (hf : f.Idle) :
      Accounted s.bodies (moved.push f) :=
    ((Accounted.of s).keeps (hmoved.trans hkeeps)).keeps (.of_push rfl rfl rfl hf)
  split at h
  · obtain ⟨t₁, t₂, moved, rfl, hfollow, h⟩ := h.bind
    obtain rfl : d = _ := h.snd_eq
    exact hstep moved (followHand_keeps hfollow) _ ⟨rfl, fun _ => rfl⟩
  · obtain rfl : d = _ := h.snd_eq
    exact hstep x (.refl x) _ ⟨rfl, fun _ => rfl⟩

/-- **The damage of a weapon hit is accounted for.** -/
theorem resolveWeaponDamage_accounted {x : Draft} {actor target : CombatantState} {actorId targetId : String}
    {attack : EncounterAttack} {critical : Bool} (hx : Accounted start x)
    (htarget : x.state.combatant targetId = some target)
    (h : Prog.Returns (resolveWeaponDamage x actor target actorId targetId attack critical) t (n, d)) :
    Accounted start d := by
  obtain ⟨t₁, t₂, ⟨roll, rolls⟩, rfl, hroll, h⟩ := h.bind
  obtain ⟨-, h⟩ := h.reject
  obtain ⟨faces, o, -, -, -, -, -, hfacts, -, hrolls⟩ := performRoll_returns.mp hroll
  obtain ⟨struck, application, happlied⟩ : ∃ c a,
      applyDamage target roll.total.toNat critical x.state.lethalityPolicy = (c, a) := ⟨_, _, rfl⟩
  dsimp only at h
  rw [happlied] at h
  dsimp only at h
  have htally : (damageFact actorId targetId attack.attackId attack.damageType critical roll.total.toNat
      application).tally = roll.tally := (damageRequest_tally hfacts).symm
  have hhit : Accounted start (((x.withRolls rolls).update (·.updateCombatant targetId fun _ => struck)).push
      (damageFact actorId targetId attack.attackId attack.damageType critical roll.total.toNat application)) := by
    exact hx.snoc (r := roll) rfl hrolls (damageFact_shows htarget happlied) htally
  split at h <;>
  · obtain rfl : d = _ := h.snd_eq
    exact ((hhit.keeps wakeSleepAfterDamage_keeps).keeps recordLifeChange_keeps).keeps
      finishForHealthTransition_keeps

/-- An attack outcome is the outcome of its roll. -/
theorem AttackOutcome.toRaw_of_ofRoll {o : RawRollOutcome} {outcome : AttackOutcome}
    (h : AttackOutcome.ofRoll o = some outcome) : outcome.toRaw = o := by
  cases o <;> cases h <;> rfl

theorem resolveAttack_accounted {attackId targetId : String}
    (h : Prog.Returns (resolveAttack (.of s) attackId targetId) t (n, d)) : Accounted s.bodies d := by
  obtain ⟨actorId, -, h⟩ := h.lift
  obtain ⟨attack, -, h⟩ := h.lift
  obtain ⟨-, h⟩ := h.reject
  obtain ⟨target, htarget, h⟩ := h.expect
  obtain ⟨-, h⟩ := h.reject
  obtain ⟨actor, -, h⟩ := h.expect
  obtain ⟨-, h⟩ := h.reject
  obtain ⟨r, -, h⟩ := h.expect
  obtain ⟨-, h⟩ := h.reject
  obtain ⟨_, -, h⟩ := h.expect
  obtain ⟨t₁, t₂, ⟨roll, rolls⟩, rfl, hroll, h⟩ := h.bind
  obtain ⟨outcome, houtcome, h⟩ := h.expect
  obtain ⟨faces, o, -, -, -, -, -, hfacts, -, hrolls⟩ := performRoll_returns.mp hroll
  dsimp only at h
  generalize hx : ((((Draft.of s).update _).withRolls rolls).push _) = x at h
  have hattacked : Accounted s.bodies x := by
    rw [← hx]
    refine (Accounted.of s).snoc (r := roll) rfl hrolls rfl ?_
    show ({ attacks := [(roll.total, outcome.toRaw)] } : Tally) = _
    rw [AttackOutcome.toRaw_of_ofRoll houtcome, hfacts]
    rfl
  split at h
  case isTrue =>
    obtain rfl : d = _ := h.snd_eq
    exact hattacked
  case isFalse =>
    split at h
    case isTrue =>
      obtain ⟨natural, -, h⟩ := h.expect
      obtain rfl : d = _ := h.snd_eq
      exact hattacked.keeps (.of_push rfl rfl rfl ⟨rfl, fun _ => rfl⟩)
    case isFalse =>
      refine resolveWeaponDamage_accounted hattacked ?_ h
      rw [← hx]
      exact htarget

theorem resolveContextAction_accounted {actionId : String}
    (h : Prog.Returns (resolveContextAction (.of s) actionId) t (n, d)) : Accounted s.bodies d := by
  obtain ⟨actorId, -, h⟩ := h.lift
  obtain ⟨-, h⟩ := h.reject
  obtain ⟨-, h⟩ := h.reject
  obtain ⟨-, h⟩ := h.reject
  obtain ⟨r, -, h⟩ := h.expect
  obtain ⟨-, h⟩ := h.reject
  obtain rfl : d = _ := h.snd_eq
  exact (Accounted.of s).push rfl rfl ⟨rfl, rfl⟩ rfl

theorem resolveEndTurn_accounted (hv : s.Valid) (h : Prog.Returns (resolveEndTurn (.of s)) t (n, d)) :
    Accounted s.bodies d := by
  obtain ⟨actorId, t', -, hpass⟩ := resolveEndTurn_returns h
  exact (Accounted.of s).keeps (advanceTurn_keeps (d := .of s) hv.handsValid hpass)

/-- A natural twenty brings a hero who is down back to one hit point; other faces leave the body alone. -/
theorem saveDeath_body {c : CombatantState} (hdown : c.hitPoints.current = 0) (natural : Nat) :
    (c.saveDeath natural).body = if natural = 20 then c.body.healed 1 else c.body := by
  have hsettle (c : CombatantState) : c.settleDeathSaves.body = c.body := by
    unfold CombatantState.settleDeathSaves
    split
    · rfl
    · split <;> rfl
  unfold CombatantState.saveDeath
  rw [hsettle]
  unfold CombatantState.countDeathSave
  by_cases h20 : natural = 20
  · rw [if_pos h20, if_pos h20]
    unfold CombatantState.body Body.healed
    rw [hdown]
  · rw [if_neg h20, if_neg h20]
    split
    · rfl
    · split <;> rfl

/-- A dying hero has no hit points left. -/
theorem EncounterState.Valid.dying_hero (hv : s.Valid) (h : s.hero.lifeStatus = .unconscious) :
    s.hero.hitPoints.current = 0 := by
  have hlife := hv.hero.health.life
  unfold CombatantState.LifeShape at hlife
  rw [hv.fixed.heroKind, h] at hlife
  exact hlife.1

theorem resolveDeathSave_accounted (hv : s.Valid) (h : Prog.Returns (resolveDeathSave (.of s)) t (n, d)) :
    Accounted s.bodies d := by
  obtain ⟨-, -, hdying, -⟩ := resolveDeathSave_returns h
  obtain ⟨t₁, t₂, roll, rolls, natural, rfl, hroll, hnatural, hends⟩ := resolveDeathSave_drafts h
  obtain ⟨faces, o, -, -, -, -, -, hfacts, -, hrolls⟩ := performRoll_returns.mp hroll
  obtain ⟨x, hx⟩ : ∃ x : Draft, x = recordDeathSave ((Draft.of s).withRolls rolls) natural := ⟨_, rfl⟩
  rw [← hx] at hends
  have hdown := hv.dying_hero hdying
  have hstate : x.state = { s with hero := s.hero.saveDeath natural } := by
    rw [hx]
    exact recordDeathSave_state
  have hsaved : Accounted s.bodies x := by
    rw [hx]
    unfold recordDeathSave
    refine Accounted.keeps ?_ recordLifeChange_keeps
    refine (Accounted.of s).snoc (r := roll) rfl hrolls ⟨hdown, ?_⟩ ?_
    · show (⟨(s.hero.saveDeath natural).body, s.creature.body⟩ : Bodies) = _
      rw [saveDeath_body hdown]
      split <;> rfl
    · show ({ saves := [natural] } : Tally) = _
      have hdeath : roll.purpose = .deathSave := by rw [hfacts]; rfl
      unfold RawRollFacts.tally
      rw [hdeath]
      dsimp only
      rw [hnatural]
      rfl
  rcases hends with ⟨-, rfl | ⟨reason, rfl⟩⟩ | hpass
  · exact hsaved
  · exact hsaved.keeps completeDefeat_keeps
  · have hhands : x.state.HandsValid := by
      rw [hstate]
      exact hv.handsValid
    exact hsaved.keeps (advanceTurn_keeps hhands hpass)

end Combat

/-! ## Spells and features -/

section Casting

variable {s : EncounterState} {d : Draft} {t : List (Nat × Nat)} {n : DeterministicNarration}

variable {objectId : String} {distanceFeet : Nat}

theorem resolveCastLight_accounted
    (h : Prog.Returns (resolveCastLight (.of s) objectId) t (n, d)) : Accounted s.bodies d := by
  obtain ⟨_, -, h⟩ := h.lift
  obtain ⟨object, -, h⟩ := h.lift
  obtain ⟨rules, -, h⟩ := h.lift
  obtain ⟨sc, -, h⟩ := h.lift
  obtain ⟨r, -, h⟩ := h.expect
  obtain ⟨t₁, t₂, ⟨res, runtime, economy⟩, rfl, -, h⟩ := h.bind
  obtain ⟨duration, -, h⟩ := h.lift
  obtain ⟨live, -, h⟩ := h.expect
  obtain rfl : d = _ := h.snd_eq
  exact (Accounted.of s).extend [_, _] [] rfl rfl (.cons rfl (.cons rfl (.nil _))) rfl

theorem resolveCastMageHand_accounted {anchor : String}
    (h : Prog.Returns (resolveCastMageHand (.of s) anchor) t (n, d)) : Accounted s.bodies d := by
  obtain ⟨_, -, h⟩ := h.lift
  obtain ⟨object, -, h⟩ := h.lift
  obtain ⟨rules, -, h⟩ := h.lift
  obtain ⟨sc, -, h⟩ := h.lift
  obtain ⟨r, -, h⟩ := h.expect
  obtain ⟨t₁, t₂, ⟨res, runtime, economy⟩, rfl, -, h⟩ := h.bind
  obtain ⟨hand, -, h⟩ := h.lift
  obtain ⟨live, -, h⟩ := h.expect
  obtain rfl : d = _ := h.snd_eq
  exact (Accounted.of s).extend [_, _] [] rfl rfl (.cons rfl (.cons rfl (.nil _))) rfl

theorem resolveControlMageHand_accounted
    (h : Prog.Returns (resolveControlMageHand (.of s) objectId) t (n, d)) : Accounted s.bodies d := by
  obtain ⟨_, -, h⟩ := h.lift
  obtain ⟨object, -, h⟩ := h.lift
  obtain ⟨live, -, h⟩ := h.expect
  obtain ⟨current, -, h⟩ := h.expect
  obtain ⟨r, -, h⟩ := h.expect
  obtain ⟨⟨res, hand, economy⟩, -, h⟩ := h.lift
  dsimp only at h
  split at h
  · obtain rfl : d = _ := h.snd_eq
    unfold releaseByHand
    split
    · exact (Accounted.of s).extend [_, _] [] rfl rfl (.cons rfl (.cons ⟨rfl, rfl⟩ (.nil _))) rfl
    · exact (Accounted.of s).push rfl rfl rfl rfl
  · exact absurd h Prog.returns_err

theorem resolveDismissMageHand_accounted (h : Prog.Returns (resolveDismissMageHand (.of s)) t (n, d)) :
    Accounted s.bodies d := by
  obtain ⟨_, -, h⟩ := h.lift
  obtain ⟨live, -, h⟩ := h.expect
  obtain ⟨r, -, h⟩ := h.expect
  obtain ⟨⟨res, hand, economy⟩, -, h⟩ := h.lift
  dsimp only at h
  split at h
  · obtain rfl : d = _ := h.snd_eq
    exact (Accounted.of s).push rfl rfl rfl rfl
  · exact absurd h Prog.returns_err

/-- **The pool of Sleep is the sum of its dice**, and the spell hurts nobody. -/
theorem resolveCastSleep_accounted (h : Prog.Returns (resolveCastSleep (.of s)) t (n, d)) :
    Accounted s.bodies d := by
  obtain ⟨_, -, h⟩ := h.lift
  obtain ⟨rules, -, h⟩ := h.lift
  obtain ⟨sc, -, h⟩ := h.lift
  obtain ⟨slotsBefore, -, h⟩ := h.lift
  obtain ⟨r, -, h⟩ := h.expect
  obtain ⟨t₁, t₂, ⟨res, runtime, economy⟩, rfl, hspell, h⟩ := h.bind
  obtain ⟨pool, hpool, h⟩ := h.lift
  obtain ⟨poolRoll, hpoolRoll, h⟩ := h.lift
  obtain ⟨live, -, h⟩ := h.expect
  obtain ⟨slotsAfter, -, h⟩ := h.expect
  obtain rfl : d = _ := h.snd_eq
  have htotal : poolRoll.total = pool := by
    obtain ⟨effects, hrolls⟩ := castSupportedSpell_rolls hspell
    obtain ⟨t₃, t₄, dice, -, -, hrest⟩ := hrolls.bind
    obtain ⟨-, hres⟩ := hrest.of_ok
    have hsum : res.sleepHitPointPool = some dice.total := congrArg SpellRolls.sleepHitPointPool hres
    have hdice : res.damageRolls = [dice] := congrArg SpellRolls.damageRolls hres
    rw [okOr_eq_ok, hsum] at hpool
    rw [okOr_eq_ok, hdice] at hpoolRoll
    rw [← Option.some.inj hpool, ← Option.some.inj hpoolRoll]
  have hbodies : (if sootWightId ∈ affectedTargets res.effects then s.fallAsleep live else s).bodies = s.bodies := by
    split <;> rfl
  refine (Accounted.of s).extend [_, _] [sleepRoll 1 poolRoll] rfl rfl (.cons hbodies (.cons rfl (.nil _))) ?_
  show ({ pools := [pool] } : Tally) = { pools := [(poolRoll.total : Int).toNat] }
  rw [Int.toNat_natCast, htotal]

/-! ### Fire Bolt and Magic Missile -/

/-- The damage of an effect. -/
def effectDamage : SpellEffect → Nat
  | .damage _ _ _ _ effectiveDamage => effectiveDamage
  | _ => 0

variable {targetId : String} {spell : SpellId}

/-- The damage of a spell is the damage of its effects. -/
theorem spellDamage_total {effects : List SpellEffect} {damageType : Option DamageType}
    {applied : Nat} {out : Option DamageType × Nat} (h : spellDamage targetId effects damageType applied = .ok out) :
    out.2 = applied + (effects.map effectDamage).sum := by
  induction effects generalizing damageType applied with
  | nil =>
    obtain rfl := Except.ok.inj h
    rfl
  | cons effect effects ih =>
    rw [List.map_cons, List.sum_cons]
    cases effect with
    | damage effectTarget effectType rolled interaction effective =>
      unfold spellDamage at h
      obtain ⟨_, -, h⟩ := bind_eq_ok.mp h
      have hrest (mapped : DamageType) (e e' : EncounterError)
          (h : (do
            rejectIf (∃ existing ∈ damageType, existing ≠ mapped) e
            rejectIf (applied + effective > maxU16) e'
            spellDamage targetId effects (some mapped) (applied + effective)) = .ok out) :
          out.2 = applied + (effective + (effects.map effectDamage).sum) := by
        obtain ⟨_, -, h⟩ := bind_eq_ok.mp h
        obtain ⟨_, -, h⟩ := bind_eq_ok.mp h
        rw [ih h, Nat.add_assoc]
      -- only fire and force come through
      cases effectType <;> first | exact hrest _ _ _ h | cases h
    | _ =>
      unfold spellDamage at h
      rw [ih h]
      show _ = applied + (0 + _)
      rw [Nat.zero_add]

theorem resolveDart_damage {target : MagicMissileTarget} {damage : DamageDiceResolution} {effect : SpellEffect}
    (hshield : target.shielded = false) (hprofile : target.damageProfile = .normal)
    (h : Prog.Returns (resolveDart target) t (damage, effect)) : effectDamage effect = damage.total := by
  obtain ⟨t₁, t₂, dice, rfl, -, h⟩ := h.bind
  rw [if_neg (by rw [hshield]; exact Bool.false_ne_true), hprofile] at h
  obtain ⟨interaction, hinteraction, h⟩ := h.lift
  obtain ⟨effective, heffective, h⟩ := h.lift
  obtain ⟨-, heq⟩ := h.of_ok
  obtain ⟨rfl, rfl⟩ := Prod.mk.inj heq
  obtain rfl : DamageInteraction.normal = interaction := Except.ok.inj hinteraction
  exact (Except.ok.inj heffective).symm

/-- **The effects of a bolt do what its dice show.** -/
theorem rollSpell_damage {sc : SpellcastingState} {effects : ConditionEffects} {armorClass : Nat}
    {intent : SupportedSpellIntent} {rolls : SpellRolls}
    (hintent : boltIntent spell targetId distanceFeet armorClass = some intent)
    (h : Prog.Returns (rollSpell sc effects intent) t rolls) :
    (rolls.effects.map effectDamage).sum = (rolls.damageRolls.map (·.total)).sum := by
  cases spell with
  | fireBolt =>
    obtain rfl := Option.some.inj hintent
    obtain ⟨targetEffects, -, h⟩ := h.lift
    obtain ⟨t₁, t₂, roll, rfl, -, h⟩ := h.bind
    obtain ⟨-, h⟩ := h.reject
    dsimp only at h
    split at h
    case isTrue =>
      obtain ⟨-, rfl⟩ := h.of_ok
      rfl
    case isFalse =>
      obtain ⟨t₃, t₄, damage, rfl, -, h⟩ := h.bind
      obtain ⟨interaction, hinteraction, h⟩ := h.lift
      obtain ⟨effective, heffective, h⟩ := h.lift
      obtain ⟨-, rfl⟩ := h.of_ok
      obtain rfl : DamageInteraction.normal = interaction := Except.ok.inj hinteraction
      obtain rfl : damage.total = effective := Except.ok.inj heffective
      rfl
  | magicMissile =>
    obtain rfl := Option.some.inj hintent
    obtain ⟨t₁, t₂, ⟨d₁, e₁⟩, rfl, h₁, h⟩ := h.bind
    obtain ⟨t₃, t₄, ⟨d₂, e₂⟩, rfl, h₂, h⟩ := h.bind
    obtain ⟨t₅, t₆, ⟨d₃, e₃⟩, rfl, h₃, h⟩ := h.bind
    obtain ⟨-, rfl⟩ := h.of_ok
    simp only [List.map_cons, List.map_nil, resolveDart_damage rfl rfl h₁, resolveDart_damage rfl rfl h₂,
      resolveDart_damage rfl rfl h₃]
  | _ => cases hintent

/-- The damage dice of a spell, as raw rolls. -/
theorem pushDamageRolls_tally (targetId : String) (spell : SpellId) (damages : List DamageDiceResolution) (x : Draft) :
    ∃ rs, (damages.foldl (fun d damage => d.pushRoll fun sequence => spellDamageRoll sequence damage targetId spell)
        x).rolls = x.rolls ++ rs ∧
      tallyOf RawRollFacts.tally rs = { damage := (damages.map (·.total)).sum } := by
  induction damages generalizing x with
  | nil => exact ⟨[], (List.append_nil _).symm, rfl⟩
  | cons damage damages ih =>
    obtain ⟨rs, hrs, htally⟩ := ih (x.pushRoll fun sequence => spellDamageRoll sequence damage targetId spell)
    refine ⟨spellDamageRoll (x.rolls.length + 1) damage targetId spell :: rs, ?_, ?_⟩
    · rw [List.foldl_cons, hrs]
      show (x.rolls ++ [_]) ++ rs = _
      rw [List.append_assoc]
      rfl
    · rw [tallyOf_cons, htally, List.map_cons, List.sum_cons]
      show ({ damage := (damage.total : Int).toNat } : Tally).add _ = _
      rw [Int.toNat_natCast]
      rfl

/-- The attack of a spell is accounted for. -/
theorem recordSpellAttack_accounted {start : Bodies} {x : Draft} (hx : Accounted start x)
    {attack : Option SpellAttackResolution} :
    Accounted start (recordSpellAttack x attack targetId spell distanceFeet) := by
  cases attack with
  | none => exact hx
  | some attack => exact hx.snoc rfl rfl rfl rfl

theorem resolveCastSpell_accounted
    (h : Prog.Returns (resolveCastSpell (.of s) spell targetId) t (n, d)) : Accounted s.bodies d := by
  obtain ⟨-, h⟩ := h.reject
  obtain ⟨actorId, -, h⟩ := h.lift
  obtain ⟨-, h⟩ := h.reject
  obtain ⟨actions, -, h⟩ := h.lift
  obtain ⟨-, h⟩ := h.reject
  obtain ⟨-, h⟩ := h.reject
  obtain ⟨rules, -, h⟩ := h.lift
  obtain ⟨sc, -, h⟩ := h.lift
  obtain ⟨r, -, h⟩ := h.expect
  obtain ⟨intent, hintent, h⟩ := h.expect
  obtain ⟨t₁, t₂, ⟨res, runtime, economy⟩, rfl, hspell, h⟩ := h.bind
  obtain ⟨⟨damageType, damage⟩, hdamage, h⟩ := h.lift
  -- the damage is what the dice show
  have hdice : damage = (res.damageRolls.map (·.total)).sum := by
    obtain ⟨effects, hrolls⟩ := castSupportedSpell_rolls hspell
    have htotal := spellDamage_total hdamage
    rw [Nat.zero_add] at htotal
    exact htotal.trans (rollSpell_damage hintent hrolls)
  dsimp only at h
  generalize hattack : recordSpellAttack _ _ _ _ _ = attacked at h
  have hattacked : Accounted s.bodies attacked := by
    rw [← hattack]
    exact recordSpellAttack_accounted (.of s)
  have hunmoved : attacked.state = s := by
    rw [← hattack]
    exact recordSpellAttack_state
  obtain ⟨rs, hrs, htally⟩ := pushDamageRolls_tally targetId spell res.damageRolls attacked
  generalize hrolled : List.foldl _ attacked res.damageRolls = rolled at h hrs
  have hfacts : rolled.facts = attacked.facts := by
    rw [← hrolled, pushRolls_facts]
  have hstate : rolled.state = s := by
    rw [← hrolled]
    exact (pushRolls_state _ _).trans hunmoved
  generalize hspellCast : EncounterFact.spellCastResolved actorId targetId spell _ _ damage = spellCast at h
  have hidle : spellCast.Idle := by
    rw [← hspellCast]
    exact ⟨rfl, fun _ => rfl⟩
  generalize hcast : (rolled.update (·.afterCast rules runtime economy)).push spellCast = cast at h
  have hcastState : cast.state = s.afterCast rules runtime economy := by
    rw [← hcast, Draft.push_state, Draft.update_state, hstate]
  have hcastFacts : cast.facts = attacked.facts ++ [spellCast] := by
    rw [← hcast, Draft.push_facts, Draft.update_facts, hfacts]
  have hcastRolls : cast.rolls = attacked.rolls ++ rs := by
    rw [← hcast]
    exact hrs
  have hquiet : spellCast.Shows attacked.state.bodies cast.state.bodies := by
    rw [hunmoved, hcastState]
    exact hidle.2 s.bodies
  split at h
  case isTrue hzero =>
    obtain rfl : d = cast := h.snd_eq
    refine hattacked.extend [spellCast] rs hcastFacts hcastRolls (.cons hquiet (.nil _)) ?_
    rw [tallyOf_singleton, hidle.1, htally, ← hdice, hzero]
  case isFalse =>
    obtain ⟨target, htarget, h⟩ := h.expect
    obtain ⟨damageType', -, h⟩ := h.expect
    generalize happlied : applySpellDamage cast target targetId spell damageType'
      ((res.attack.map spellAttackOutcome).any (·.isCritical)) damage = applied at h
    have hdone : Accounted s.bodies applied.2 := by
      rw [← happlied]
      unfold applySpellDamage
      obtain ⟨struck, application, hstruck⟩ : ∃ c a, applyDamage target damage
          ((res.attack.map spellAttackOutcome).any (·.isCritical)) cast.state.lethalityPolicy = (c, a) := ⟨_, _, rfl⟩
      rw [hstruck]
      dsimp only
      refine ((Accounted.keeps ?_ wakeSleepAfterDamage_keeps).keeps recordLifeChange_keeps).keeps
        finishForHealthTransition_keeps
      refine hattacked.extend [spellCast, damageFact canalWardenId targetId spell.mechanicId damageType'
          ((res.attack.map spellAttackOutcome).any (·.isCritical)) damage application] rs ?_ hcastRolls
        (.cons hquiet (.cons (damageFact_shows htarget hstruck) (.nil _))) ?_
      · rw [Draft.push_facts, Draft.update_facts, hcastFacts, List.append_assoc]
        rfl
      · rw [tallyOf_cons, hidle.1, tallyOf_singleton, htally, Tally.empty_add, ← hdice]
        rfl
    split at h <;>
    · obtain rfl : d = _ := h.snd_eq
      exact hdone

/-! ### Features of the fighter -/

/-- What healing does. -/
theorem applyHealing_heals {h h' : HealthState} {amount : Nat} {resolution : HealingResolution}
    (hok : applyHealing h amount = .ok (resolution, h')) :
    resolution.requestedHealing = amount ∧ resolution.effectiveHealing ≤ amount ∧
      h'.current = h.current + resolution.effectiveHealing ∧ h'.temporary = h.temporary := by
  obtain ⟨_, -, hok⟩ := bind_eq_ok.mp hok
  obtain ⟨_, -, hok⟩ := bind_eq_ok.mp hok
  obtain ⟨_, -, hok⟩ := bind_eq_ok.mp hok
  obtain ⟨_, -, hok⟩ := bind_eq_ok.mp hok
  obtain ⟨rfl, rfl⟩ := Prod.mk.inj (Except.ok.inj hok)
  refine ⟨rfl, Nat.min_le_right _ _, ?_, ?_⟩
  · dsimp only
    split <;> rfl
  · dsimp only
    split <;> rfl

/-- **Second Wind heals what its die and the level say**, up to the maximum. -/
theorem resolveSecondWind_accounted (h : Prog.Returns (resolveSecondWind (.of s)) t (n, d)) :
    Accounted s.bodies d := by
  obtain ⟨actorId, -, h⟩ := h.lift
  obtain ⟨-, h⟩ := h.reject
  obtain ⟨_, -, h⟩ := h.lift
  obtain ⟨rules, -, h⟩ := h.lift
  obtain ⟨r, -, h⟩ := h.expect
  obtain ⟨t₁, t₂, ⟨res, runtime, economy, health⟩, rfl, hwind, h⟩ := h.bind
  obtain rfl : d = _ := h.snd_eq
  have hbreath := useSecondWind_meets.of_returns hwind.of_mapErr fun _ _ => trivial
  obtain ⟨-, hle, hcurrent, -⟩ := applyHealing_heals hbreath.healed
  have hcurrent' : health.current = s.hero.hitPoints.current + res.healing.effectiveHealing := hcurrent
  have hrequested : res.healing.effectiveHealing ≤ res.healing.requestedHealing := by
    rw [(applyHealing_heals hbreath.healed).1]
    exact hle
  refine (Accounted.of s).extend [_, _] [secondWindRoll 1 res actorId] rfl rfl
    (.cons rfl (.cons ⟨hrequested, rfl, hcurrent', ?_⟩ (.nil _))) ?_
  · show (⟨⟨health.current, s.hero.hitPoints.temporary⟩, s.creature.body⟩ : Bodies) = _
    rw [hcurrent']
    rfl
  · rw [tallyOf_cons, tallyOf_singleton, tallyOf_singleton]
    show Tally.add {} { healing := res.healing.requestedHealing } =
      { healing := (res.healing.requestedHealing : Int).toNat }
    rw [Tally.empty_add, Int.toNat_natCast]

theorem resolveActionSurge_accounted (h : Prog.Returns (resolveActionSurge (.of s)) t (n, d)) :
    Accounted s.bodies d := by
  obtain ⟨actorId, -, h⟩ := h.lift
  obtain ⟨-, h⟩ := h.reject
  obtain ⟨_, -, h⟩ := h.lift
  obtain ⟨rules, -, h⟩ := h.lift
  obtain ⟨r, -, h⟩ := h.expect
  obtain ⟨⟨u, runtime, economy⟩, -, h⟩ := h.lift
  obtain rfl : d = _ := h.snd_eq
  exact (Accounted.of s).push rfl rfl rfl rfl

end Casting

/-! ## Reactions -/

section Reactions

variable {s : EncounterState} {d : Draft} {t : List (Nat × Nat)} {n : DeterministicNarration}

/-- **The damage of the waiting hit is accounted for.** -/
theorem resolvePendingAttackDamage_accounted {start : Bodies} {x : Draft} {p : PendingAttackReaction}
    {completion : Option EncounterOutcome} (hx : Accounted start x) (hp : p.targetId = canalWardenId)
    (h : Prog.Returns (resolvePendingAttackDamage x p) t (completion, d)) : Accounted start d := by
  obtain ⟨t₁, t₂, ⟨roll, rolls⟩, rfl, hroll, h⟩ := h.bind
  obtain ⟨-, h⟩ := h.reject
  obtain ⟨faces, o, -, -, -, -, -, hfacts, -, hrolls⟩ := performRoll_returns.mp hroll
  obtain ⟨struck, application, happlied⟩ : ∃ c a,
      applyDamage x.state.hero roll.total.toNat p.critical x.state.lethalityPolicy = (c, a) := ⟨_, _, rfl⟩
  dsimp only at h
  rw [happlied, hp] at h
  obtain ⟨-, heq⟩ := h.of_ok
  obtain rfl : d = _ := congrArg Prod.snd heq
  refine (Accounted.keeps ?_ recordLifeChange_keeps).keeps finishForHealthTransition_keeps
  exact hx.snoc (r := roll) rfl hrolls (damageFact_shows_hero happlied) (damageRequest_tally hfacts).symm

theorem resolveDeclineReaction_accounted (hv : s.Valid)
    (h : Prog.Returns (resolveDeclineReaction (.of s)) t (n, d)) : Accounted s.bodies d := by
  obtain ⟨_, -, h⟩ := h.lift
  obtain ⟨p, hp, h⟩ := h.expect
  obtain ⟨t₁, t₂, ⟨completion, struck⟩, rfl, hdamage, h⟩ := h.bind
  obtain rfl : d = struck := h.snd_eq
  refine resolvePendingAttackDamage_accounted ?_ (hv.pending_target hp) hdamage
  exact (Accounted.of s).push rfl rfl rfl rfl

theorem resolveShieldReaction_accounted (hv : s.Valid)
    (h : Prog.Returns (resolveShieldReaction (.of s)) t (n, d)) : Accounted s.bodies d := by
  obtain ⟨_, -, h⟩ := h.lift
  obtain ⟨p, hp, h⟩ := h.expect
  obtain ⟨rules, -, h⟩ := h.lift
  obtain ⟨sc, -, h⟩ := h.lift
  obtain ⟨slotsBefore, -, h⟩ := h.lift
  obtain ⟨trigger, -, h⟩ := h.lift
  obtain ⟨live, -, h⟩ := h.expect
  obtain ⟨t₁, t₂, ⟨res, runtime, economy⟩, rfl, -, h⟩ := h.bind
  obtain ⟨⟨bonus, negated, immune⟩, -, h⟩ := h.lift
  obtain ⟨slotsAfter, -, h⟩ := h.expect
  dsimp only at h
  generalize hwarded : Draft.push (Draft.push _ _) _ = warded at h
  have hx : Accounted s.bodies warded := by
    rw [← hwarded]
    exact (Accounted.of s).extend [_, _] [] rfl rfl (.cons rfl (.cons rfl (.nil _))) rfl
  split at h
  · obtain rfl : d = _ := h.snd_eq
    exact hx
  · obtain ⟨t₃, t₄, ⟨completion, struck⟩, rfl, hdamage, h⟩ := h.bind
    obtain rfl : d = _ := h.snd_eq
    have hstruck := resolvePendingAttackDamage_accounted hx (hv.pending_target hp) hdamage
    dsimp only
    split
    · exact hstruck.keeps (.of_state rfl rfl rfl)
    · exact hstruck

end Reactions

/-! ## Rests -/

section Rests

variable {s : EncounterState} {d : Draft} {t : List (Nat × Nat)} {n : DeterministicNarration}

/-- What the first rest after a defeat under story recovery sets out with. -/
theorem applyStoryRecoveryBoundary_bodies {s' : EncounterState} (h : s.applyStoryRecoveryBoundary = .ok s') :
    s'.bodies = s.recoveredBodies := by
  unfold EncounterState.applyStoryRecoveryBoundary at h
  unfold EncounterState.recoveredBodies
  split at h
  case isTrue hdown =>
    obtain ⟨transition, htransition, heq⟩ := bind_eq_ok.mp h
    obtain rfl := Except.ok.inj heq
    rw [if_pos hdown, okOr_eq_ok.mp htransition]
    rfl
  case isFalse hup =>
    obtain rfl := Except.ok.inj h
    rw [if_neg hup]

/-- Recovery writes the hit points of the record to the hero. -/
theorem applyRecoveryHealth_bodies (health : HealthState) :
    (s.applyRecoveryHealth health).bodies = { s.bodies with hero := ⟨health.current, health.temporary⟩ } := rfl

theorem resolveBeginShortRest_accounted (h : Prog.Returns (resolveBeginShortRest (.of s)) t (n, d)) :
    Accounted s.recoveredBodies d := by
  obtain ⟨_, -, h⟩ := h.lift
  obtain ⟨s', hrecovered, h⟩ := h.lift
  obtain ⟨live, -, h⟩ := h.expect
  obtain ⟨completesAt, -, h⟩ := h.lift
  obtain rfl : d = _ := h.snd_eq
  rw [← applyStoryRecoveryBoundary_bodies hrecovered]
  have hstart : Accounted s'.bodies { Draft.of s with state := s' } := .of s'
  exact (hstart.keeps expireEffectsForRest_keeps).keeps (.of_push rfl rfl rfl ⟨rfl, fun _ => rfl⟩)

variable {health : HealthState}

variable {r r' : RuntimeResources} {health' : HealthState}

/-- What a hit die does: it heals by face and modifier, as far as there is something to heal. -/
theorem spendHitDie_heals {modifier : Int8}
    {resolution : HitDieSpendResolution}
    (h : Prog.Returns (spendHitDie r health modifier) t (resolution, r', health')) :
    resolution.healingTotal = hitDieHealing resolution.roll resolution.constitutionModifier ∧
      resolution.hitPointsRecovered ≤ resolution.healingTotal ∧
      health'.current = health.current + resolution.hitPointsRecovered ∧ health'.temporary = health.temporary := by
  obtain ⟨sides, -, h⟩ := h.lift
  obtain ⟨t₁, t₂, value, rfl, -, h⟩ := h.bind
  obtain ⟨-, h⟩ := h.reject
  dsimp only at h
  split at h
  case isTrue =>
    obtain ⟨_, -, h⟩ := h.lift
    obtain ⟨_, -, h⟩ := h.lift
    obtain ⟨-, heq⟩ := h.of_ok
    simp only [Prod.mk.injEq] at heq
    obtain ⟨rfl, rfl, rfl⟩ := heq
    exact ⟨rfl, Nat.zero_le _, rfl, rfl⟩
  case isFalse =>
    obtain ⟨⟨healing, next⟩, hhealed, h⟩ := h.lift
    obtain ⟨_, -, h⟩ := h.lift
    obtain ⟨_, -, h⟩ := h.lift
    obtain ⟨-, heq⟩ := h.of_ok
    simp only [Prod.mk.injEq] at heq
    obtain ⟨rfl, rfl, rfl⟩ := heq
    obtain ⟨-, hle, hcurrent, htemporary⟩ := applyHealing_heals (mapError_eq_ok.mp hhealed)
    exact ⟨rfl, hle, hcurrent, htemporary⟩

/-- **A hit die heals what it shows and Constitution add.** -/
theorem resolveSpendHitDie_accounted (h : Prog.Returns (resolveSpendHitDie (.of s)) t (n, d)) :
    Accounted s.bodies d := by
  obtain ⟨_, -, h⟩ := h.lift
  obtain ⟨rules, -, h⟩ := h.lift
  obtain ⟨modifier, -, h⟩ := h.lift
  obtain ⟨t₁, t₂, ⟨res, runtime, health⟩, rfl, hdie, h⟩ := h.bind
  obtain ⟨sides, -, h⟩ := h.expect
  obtain ⟨live, -, h⟩ := h.expect
  obtain ⟨rest, -, h⟩ := h.expect
  obtain ⟨_, -, h⟩ := h.expect
  obtain rfl : d = _ := h.snd_eq
  obtain ⟨htotal, hle, hcurrent, htemporary⟩ := spendHitDie_heals hdie.of_mapErr
  refine (Accounted.of s).snoc (r := hitDieRoll 1 res sides) rfl rfl ⟨hle, ?_⟩ ?_
  · show (⟨⟨health.current, health.temporary⟩, s.creature.body⟩ : Bodies) = _
    rw [hcurrent, htemporary]
    rfl
  · show ({ healing := res.healingTotal } : Tally) = _
    rw [htotal]
    rfl

theorem resolveArcaneRecovery_accounted (h : Prog.Returns (resolveArcaneRecovery (.of s)) t (n, d)) :
    Accounted s.bodies d := by
  obtain ⟨_, -, h⟩ := h.lift
  obtain ⟨rules, -, h⟩ := h.lift
  obtain ⟨slotsBefore, -, h⟩ := h.expect
  obtain ⟨recoveryBefore, -, h⟩ := h.expect
  obtain ⟨t₁, t₂, ⟨res, runtime, health⟩, rfl, -, h⟩ := h.bind
  obtain ⟨slotsAfter, -, h⟩ := h.expect
  obtain ⟨recoveryAfter, -, h⟩ := h.expect
  obtain ⟨live, -, h⟩ := h.expect
  obtain ⟨rest, -, h⟩ := h.expect
  obtain rfl : d = _ := h.snd_eq
  exact (Accounted.of s).push rfl rfl rfl rfl

/-- The hour itself heals nothing. -/
theorem completeShortRest_heals {rules : EncounterHeroRulesProfile} {useArcaneRecovery : Bool}
    {res : RestResolution} {runtime : RuntimeResources}
    (h : Prog.Returns (completeShortRest s rules useArcaneRecovery) t (res, runtime, health)) :
    res.hitPointsRecovered = 0 ∧ health = recoveryHealth s := by
  obtain ⟨modifier, -, h⟩ := h.expect
  obtain ⟨-, t₁, t₂, spent, -, hdice, hclose⟩ := takeShortRest_returns_iff.mp h.of_mapErr
  obtain ⟨-, rfl⟩ := hdice.of_ok
  unfold closeRest at hclose
  cases useArcaneRecovery with
  | false =>
    obtain ⟨_, -, hclose⟩ := hclose.lift
    obtain ⟨_, -, hclose⟩ := hclose.lift
    obtain ⟨-, heq⟩ := hclose.of_ok
    simp only [Prod.mk.injEq] at heq
    obtain ⟨rfl, rfl, rfl⟩ := heq
    exact ⟨rfl, rfl⟩
  | true =>
    obtain ⟨recovery, -, hclose⟩ := hclose.expect
    obtain ⟨slots, -, hclose⟩ := hclose.expect
    obtain ⟨drawn, -, hclose⟩ := hclose.lift
    obtain ⟨_, -, hclose⟩ := hclose.lift
    obtain ⟨_, -, hclose⟩ := hclose.lift
    obtain ⟨-, heq⟩ := hclose.of_ok
    simp only [Prod.mk.injEq] at heq
    obtain ⟨rfl, rfl, rfl⟩ := heq
    exact ⟨rfl, rfl⟩

theorem resolveFinishShortRest_accounted (h : Prog.Returns (resolveFinishShortRest (.of s)) t (n, d)) :
    Accounted s.bodies d := by
  obtain ⟨_, -, h⟩ := h.lift
  obtain ⟨rest, -, h⟩ := h.expect
  obtain ⟨rules, -, h⟩ := h.lift
  obtain ⟨t₁, t₂, ⟨res, runtime, health⟩, rfl, hrest, h⟩ := h.bind
  obtain ⟨live, -, h⟩ := h.expect
  obtain rfl : d = _ := h.snd_eq
  obtain ⟨hrecovered, rfl⟩ := completeShortRest_heals hrest
  refine (Accounted.of s).push rfl rfl ?_ rfl
  dsimp only
  rw [hrecovered]
  rfl

/-- **A long rest heals what is missing**, and takes the temporary hit points. -/
theorem takeLongRest_heals {resolution : RestResolution}
    (h : takeLongRest r health = .ok (resolution, r', health')) :
    health'.current = health.current + resolution.hitPointsRecovered ∧ health'.temporary = 0 := by
  obtain ⟨_, -, h⟩ := bind_eq_ok.mp h
  obtain ⟨_, hvalid, h⟩ := bind_eq_ok.mp h
  obtain ⟨_, -, h⟩ := bind_eq_ok.mp h
  obtain ⟨_, -, h⟩ := bind_eq_ok.mp h
  obtain ⟨_, -, h⟩ := bind_eq_ok.mp h
  have heq := Except.ok.inj h
  simp only [Prod.mk.injEq] at heq
  obtain ⟨rfl, rfl, rfl⟩ := heq
  have hle := (HealthState.validate_eq_ok.mp (leaving_eq_ok.mp hvalid)).current_le
  exact ⟨(Nat.add_sub_of_le hle).symm, rfl⟩

theorem resolveLongRest_accounted (h : Prog.Returns (resolveLongRest (.of s)) t (n, d)) :
    Accounted s.recoveredBodies d := by
  obtain ⟨_, -, h⟩ := h.lift
  obtain ⟨s', hrecovered, h⟩ := h.lift
  obtain ⟨live, -, h⟩ := h.expect
  obtain ⟨completesAt, -, h⟩ := h.lift
  obtain ⟨rules, -, h⟩ := h.lift
  obtain ⟨⟨res, runtime, health⟩, hrest, h⟩ := h.lift
  obtain rfl : d = _ := h.snd_eq
  rw [← applyStoryRecoveryBoundary_bodies hrecovered]
  have hstart : Accounted s'.bodies { Draft.of s with state := s' } := .of s'
  obtain ⟨hcurrent, htemporary⟩ := takeLongRest_heals (mapError_eq_ok.mp hrest)
  dsimp only
  generalize hexpired : expireEffectsForRest _ live _ = expired
  have hkept : Keeps { Draft.of s with state := s' } expired := by
    rw [← hexpired]
    exact expireEffectsForRest_keeps
  refine (hstart.keeps hkept).extend [_, _] [] (List.append_assoc ..) (List.append_nil _).symm ?_ rfl
  have hhero : (⟨health.current, health.temporary⟩ : Body) =
      { s'.bodies.hero.healed res.hitPointsRecovered with temporary := 0 } := by
    rw [hcurrent, htemporary]
    rfl
  have hbodies : ((expired.state.applyRecoveryHealth health).bodies) =
      { s'.bodies with hero := { s'.bodies.hero.healed res.hitPointsRecovered with temporary := 0 } } := by
    rw [applyRecoveryHealth_bodies, hkept.bodies, hhero]
  rw [hkept.bodies]
  exact .cons rfl (.cons hbodies (.nil _))

end Rests

/-! ## Every intent -/

/-- **Whatever a resolver leaves behind, its facts account for it.** -/
theorem resolveIntent_accounted {s : EncounterState} {t : List (Nat × Nat)} {n : DeterministicNarration} {d : Draft}
    (hv : s.Valid) {intent : EncounterIntent} (h : Prog.Returns (resolveIntent (.of s) intent) t (n, d)) :
    Accounted (s.startOf intent) d := by
  cases intent with
  | startEncounter => exact resolveStart_accounted h
  | move destination => exact resolveMove_accounted h
  | attack attackId targetId => exact resolveAttack_accounted h
  | contextAction actionId => exact resolveContextAction_accounted h
  | castSpell spell targetId => exact resolveCastSpell_accounted h
  | castLight objectId => exact resolveCastLight_accounted h
  | castMageHand anchor => exact resolveCastMageHand_accounted h
  | controlMageHand objectId => exact resolveControlMageHand_accounted h
  | dismissMageHand => exact resolveDismissMageHand_accounted h
  | castSleep => exact resolveCastSleep_accounted h
  | castShield => exact resolveShieldReaction_accounted hv h
  | declineReaction => exact resolveDeclineReaction_accounted hv h
  | secondWind => exact resolveSecondWind_accounted h
  | actionSurge => exact resolveActionSurge_accounted h
  | beginShortRest => exact resolveBeginShortRest_accounted h
  | spendHitDie => exact resolveSpendHitDie_accounted h
  | useArcaneRecovery => exact resolveArcaneRecovery_accounted h
  | finishShortRest => exact resolveFinishShortRest_accounted h
  | takeLongRest => exact resolveLongRest_accounted h
  | endTurn => exact resolveEndTurn_accounted hv h
  | rollDeathSave => exact resolveDeathSave_accounted hv h

/-! ## The record of a resolution -/

/-- **The raw rolls and the facts of a resolution agree with the dice and with each other.** Every roll passes its own
    check and repeats what its dice, mode and modifiers say; altered in one field it fails the check, unless that
    field says something the record says only once. The facts show, one after the other, how the hit points got to
    where they are, and speak of the results that the rolls record. -/
theorem resolution_accounts {s : EncounterState} {a : Turned} {r : EncounterResolution} (h : Resolves s a r) :
    (∀ roll ∈ r.rolls, roll.validate = .ok () ∧ roll.Recomputed ∧ ∀ alteration, roll.altered alteration ≠ roll →
      ((roll.altered alteration).validate = .ok () ↔ roll.Unnoticed alteration)) ∧
    Run EncounterFact.Shows (s.startOf a.1.intent) r.facts r.state.bodies ∧
    tallyOf EncounterFact.tally r.facts = tallyOf RawRollFacts.tally r.rolls := by
  obtain ⟨henv, n, d, hintent, hseal⟩ := resolveEncounter_returns.mp h
  obtain ⟨-, -, hstate, hrolls, hfacts, hvalid⟩ := sealResolution_eq_ok hseal
  have haccounted := resolveIntent_accounted henv.state hintent
  refine ⟨fun roll hroll => ?_, ?_, ?_⟩
  · have hv := hvalid.rolls.valid roll hroll
    refine ⟨RawRollFacts.validate_eq_ok.mpr hv, hv.recomputed, fun alteration hne => ?_⟩
    rw [RawRollFacts.validate_eq_ok]
    exact hv.altered_iff hne
  · rw [hfacts, hstate]
    exact haccounted.bodies
  · rw [hfacts, hrolls]
    exact haccounted.tally

/-- The fighter of `fighterEncounter`, defeated under story recovery. -/
def fallenFighter : EncounterState :=
  EncounterState.defeat { fighterEncounter with
    initiative := some (initiativeOf [⟨canalWardenId, 15, 1, 16, 0⟩, ⟨sootWightId, 9, 1, 10, 0⟩])
    round := 1
    hero := { fighterEncounter.hero with
      hitPoints := { fighterEncounter.hero.hitPoints with current := 0 }
      lifeStatus := .unconscious } } .heroUnconscious

/-- Sitting down for a short rest the fighter gets up to one hit point, of which the only fact says nothing. -/
theorem fallenFighter_rises : ((resolveEncounter fallenFighter (turned 1 .beginShortRest []).1).replay []).any
    (fun r => decide (r.state.hero.hitPoints.current = 1) &&
      r.facts.all fun f => match f with | .restStarted .. => true | _ => false) = true := by
  decide +kernel

/-- A death save of fifteen, which beats eleven as well as ten. -/
theorem dyingWarden_saves : ((resolveEncounter dyingWarden (turned 1 .rollDeathSave []).1).replay [(20, 15)]).any
    (fun r => r.rolls.any fun roll =>
      let altered := roll.altered (.comparison (some ⟨.deathSaveDifficultyClass, 11⟩))
      decide (altered ≠ roll) && decide (altered.validate = .ok ())) = true := by
  decide +kernel

/-- The account of a resolution, at a death save. -/
theorem resolution_accounts_dyingWarden : ∃ r, Resolves dyingWarden (turned 1 .rollDeathSave [(20, 15)]) r ∧
    (∀ roll ∈ r.rolls, roll.validate = .ok () ∧ roll.Recomputed ∧ ∀ alteration, roll.altered alteration ≠ roll →
      ((roll.altered alteration).validate = .ok () ↔ roll.Unnoticed alteration)) ∧
    Run EncounterFact.Shows (dyingWarden.startOf .rollDeathSave) r.facts r.state.bodies ∧
    tallyOf EncounterFact.tally r.facts = tallyOf RawRollFacts.tally r.rolls := by
  obtain ⟨r, hr, -⟩ := (Option.any_eq_true _ _).mp dyingWarden_saves
  have h : Resolves dyingWarden (turned 1 .rollDeathSave [(20, 15)]) r := Prog.replay_eq_some.mp hr
  exact ⟨r, h, resolution_accounts h⟩

/-- **The number to beat is said only once, and getting up is not said at all.** A death save is accepted with another
    difficulty class, and a short rest after a defeat under story recovery moves the hit points without a record. -/
theorem record_incomplete :
    (¬ ∀ s a r, Resolves s a r → ∀ roll ∈ r.rolls, ∀ alteration, roll.altered alteration ≠ roll →
      (roll.altered alteration).validate ≠ .ok ()) ∧
    ¬ ∀ s a r, Resolves s a r → Run EncounterFact.Shows s.bodies r.facts r.state.bodies := by
  constructor
  · intro hall
    obtain ⟨r, hr, hany⟩ := (Option.any_eq_true _ _).mp dyingWarden_saves
    obtain ⟨roll, hroll, haltered⟩ := List.any_eq_true.mp hany
    obtain ⟨hne, hok⟩ := Bool.and_eq_true_iff.mp haltered
    exact hall dyingWarden (turned 1 .rollDeathSave [(20, 15)]) r (Prog.replay_eq_some.mp hr) roll hroll _
      (of_decide_eq_true hne) (of_decide_eq_true hok)
  · intro hall
    obtain ⟨r, hr, hrises⟩ := (Option.any_eq_true _ _).mp fallenFighter_rises
    obtain ⟨hcurrent, hfacts⟩ := Bool.and_eq_true_iff.mp hrises
    have hrun := hall fallenFighter (turned 1 .beginShortRest []) r (Prog.replay_eq_some.mp hr)
    -- a rest that begins is no news of the hit points
    have hsame : r.state.bodies = fallenFighter.bodies := by
      have hstill := hrun.restrict fun f hf => List.all_eq_true.mp hfacts f hf
      refine hstill.invariant (I := fun b => b = fallenFighter.bodies) (fun b f b' hb hshows => ?_) rfl
      obtain ⟨hshows, hstarted⟩ := hshows
      rw [← hb]
      cases f <;> first | exact hshows | cases hstarted
    have hdown : fallenFighter.bodies.hero.current = 0 := rfl
    have hup : r.state.bodies.hero.current = 1 := of_decide_eq_true hcurrent
    rw [hsame, hdown] at hup
    cases hup

end ManchesterArcana.Encounter
