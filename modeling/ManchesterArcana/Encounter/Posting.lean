import ManchesterArcana.Encounter.Advertised
import ManchesterArcana.Encounter.Books

/-!
# `Encounter.Posting` — every resolver keeps the books

`resolveIntent_posts`: whatever a resolver leaves behind, its accounts are those that `Books.Posts` says. One
lemma for each resolver takes its guards apart in the order of the source and reads the draft off at the end.
-/

namespace ManchesterArcana.Encounter

open Effect Rules

/-! ## Accounts of the parts -/

section Parts

variable {s : EncounterState} {d : Draft}

theorem EncounterState.books_live_of {live : EncounterLiveQ04State} (h : s.liveQ04 = some live) :
    s.books.live = some live.books := by
  show s.liveQ04.map _ = _
  rw [h]
  rfl

theorem EncounterState.books_pools_of {rules : EncounterHeroRulesProfile} (h : s.heroRules = some rules) :
    s.books.pools = some rules.runtimeResources := by
  show s.heroRules.map _ = _
  rw [h]
  rfl

/-- The turn of an ordinary hero is the hero's. -/
theorem OrdinaryTurn.books_turn (hv : s.Valid) {r : TurnResources} (h : OrdinaryTurn s s.hero r) :
    s.books.turn = some canalWardenId :=
  (hv.hero_of_id h.active h.current hv.fixed.heroId).2

/-- Damage rewrites hit points and life, and leaves the combatant where it stands. -/
theorem applyDamage_position {c : CombatantState} {amount : Nat} {critical : Bool} {policy : LethalityPolicy} :
    (applyDamage c amount critical policy).1.positionFeet = c.positionFeet := by
  rw [applyDamage_changed]

variable {c : CombatantState}

/-- A hero with another health. -/
theorem EncounterState.books_hero (hc : c.positionFeet = s.hero.positionFeet) :
    { s with hero := c }.books =
      { s.books with heroHitPoints := c.hitPoints, heroLife := c.lifeStatus } := by
  unfold EncounterState.books
  simp only [hc]

/-- A creature with other hit points. -/
theorem EncounterState.books_creature (hc : c.positionFeet = s.creature.positionFeet) :
    { s with creature := c }.books = { s.books with creatureHitPoints := c.hitPoints.current } := by
  unfold EncounterState.books
  simp only [hc]

/-- Waking the creature up is not accounted for. -/
theorem wakeSleepAfterDamage_books {targetId : String} {damage : Nat} :
    (wakeSleepAfterDamage d targetId damage).state.books = d.state.books := by
  unfold wakeSleepAfterDamage
  split
  · rfl
  · split
    · show ({ d.state.clearAsleep with liveQ04 := _ } : EncounterState).books = _
      cases hlive : d.state.liveQ04 with
      | none =>
        unfold EncounterState.books EncounterState.clearAsleep
        simp only [hlive, Option.map_none]
      | some live =>
        unfold EncounterState.books EncounterState.clearAsleep
        simp only [hlive, Option.map_some]
        rfl
    · rfl

/-- **The end of the creature closes the accounts.** -/
theorem finishForHealthTransition_creature :
    d.state.books.MayPrevail (finishForHealthTransition d sootWightId).2.state.books := by
  unfold finishForHealthTransition
  split
  · exact .inr ⟨_, rfl⟩
  · rw [if_neg sootWightId_ne_canalWardenId]
    exact .inl rfl

/-- **So does the end of the hero.** -/
theorem finishForHealthTransition_hero :
    d.state.books.MayFall (finishForHealthTransition d canalWardenId).2.state.books := by
  unfold finishForHealthTransition
  rw [if_neg fun hc => sootWightId_ne_canalWardenId hc.1.symm, if_pos rfl]
  split
  · exact .inr ⟨_, rfl⟩
  · exact .inr ⟨_, rfl⟩
  · exact .inl rfl

end Parts

/-! ## The passing of a turn -/

section Turns

variable {s s' : EncounterState} {d d' : Draft} {t : List (Nat × Nat)}

/-- Live accounts exist under the live schema alone. -/
def LiveMatches (s : EncounterState) : Prop :=
  s.schemaVersion ≠ encounterSchemaVersion → s.liveQ04 = none

variable {index : Nat}

variable {actorId : String} {i : InitiativeState}

theorem setCurrentTurn_books (hl : LiveMatches s)
    (hi : s.initiative = some i) (horder : i.order[index]? = some actorId)
    (h : Prog.Returns (setCurrentTurn s index) t s') :
    (actorId = canalWardenId ∨ actorId = sootWightId) ∧
      ∃ resources, s'.books = s.books.takeTurn actorId resources := by
  simp only [setCurrentTurn, Prog.returns_lift_bind, Prog.returns_expect_bind, okOr_eq_ok] at h
  obtain ⟨actorId', hactorId, actor, hactor, index', -, resources, -, h⟩ := h
  obtain rfl : actorId' = actorId := by
    rw [hi, Option.bind_some, horder] at hactorId
    exact (Option.some.inj hactorId).symm
  refine ⟨?_, resources, ?_⟩
  · unfold EncounterState.combatant at hactor
    by_cases hhero : actorId' = canalWardenId
    · exact .inl hhero
    · by_cases hwight : actorId' = sootWightId
      · exact .inr hwight
      · rw [if_neg hhero, if_neg hwight] at hactor
        cases hactor
  · unfold Books.takeTurn
    by_cases hhero : actorId' = canalWardenId
    · rw [if_pos hhero]
      by_cases h3 : s.schemaVersion = encounterSchemaVersion
      · rw [if_pos ⟨h3, hhero⟩] at h
        obtain ⟨live, hlive, h⟩ := h.expect
        obtain ⟨-, rfl⟩ := h.of_ok
        rw [EncounterState.books_live_of hlive]
        rfl
      · rw [if_neg fun hc => h3 hc.1] at h
        obtain ⟨-, rfl⟩ := h.of_ok
        unfold EncounterState.books
        simp only [hl h3, Option.map_none]
    · rw [if_neg fun hc => hhero hc.2] at h
      obtain ⟨-, rfl⟩ := h.of_ok
      rw [if_neg hhero]
      rfl

/-- Light, hand and sleep are not accounted for. -/
theorem advanceLiveQ04Round_books (h : Prog.Returns (advanceLiveQ04Round d) t d') :
    d'.state.books = d.state.books := by
  unfold advanceLiveQ04Round at h
  split at h
  · obtain ⟨-, rfl⟩ := h.of_ok
    rfl
  · simp only [Prog.returns_lift_bind, Prog.returns_expect_bind] at h
    obtain ⟨live, hlive, aged, -, h⟩ := h
    have hbooks : d.state.books = { d.state.books with live := some live.books } := by
      rw [← EncounterState.books_live_of hlive]
    rw [hbooks]
    split at h
    · split at h
      · obtain ⟨-, rfl⟩ := h.of_ok
        rfl
      · obtain ⟨-, rfl⟩ := h.of_ok
        rfl
    · obtain ⟨-, rfl⟩ := h.of_ok
      rfl

theorem passRound_books (h : Prog.Returns (passRound d index) t d') :
    d'.state.books = d.state.books := by
  unfold passRound at h
  split at h
  · obtain ⟨-, rfl⟩ := h.of_ok
    rfl
  · obtain ⟨-, h⟩ := h.reject
    exact (advanceLiveQ04Round_books h).trans rfl

/-- **The turn passes to the participant that comes next in the order.** -/
theorem advanceTurn_books {oldIndex : Nat}
    {actor : CombatantState} (hn : NextTurn s i oldIndex index actorId actor) (hl : LiveMatches d.state)
    (hi : d.state.initiative = s.initiative) (hindex : d.state.currentActorIndex = s.currentActorIndex)
    (hturn : d.state.currentActorId = s.currentActorId) (h : Prog.Returns (advanceTurn d) t d') :
    d.state.books.Passes d'.state.books := by
  simp only [advanceTurn, Prog.returns_lift_bind, Prog.returns_expect_bind, okOr_eq_ok] at h
  obtain ⟨i', hi', oldIndex', hold', endedActorId, -, -, -, h⟩ := h
  obtain rfl : i' = i := Option.mem_unique hi' (hi.trans hn.initiative)
  obtain rfl : oldIndex' = oldIndex := Option.mem_unique hold' (hindex.trans hn.position)
  obtain ⟨t₁, t₂, passed, rfl, hpass, h⟩ := h.bind
  obtain ⟨-, -, hpassed⟩ := passRound_returns hpass
  obtain ⟨t₃, t₄, state, rfl, hset, h⟩ := h.bind
  obtain ⟨nextActorId, -, h⟩ := h.expect
  obtain ⟨-, rfl⟩ := h.of_ok
  have hinitiative : passed.state.initiative = some i' := by
    rw [hpassed]
    exact hi'
  have hlive : LiveMatches passed.state := by
    intro h3
    have hschema : passed.state.schemaVersion = d.state.schemaVersion := by rw [hpassed]
    rw [hschema] at h3
    cases hpl : passed.state.liveQ04 with
    | none => rfl
    | some live =>
      have hbooks := passRound_books hpass
      have hmap : passed.state.liveQ04.map (·.books) = d.state.liveQ04.map (·.books) :=
        congrArg Books.live hbooks
      rw [hpl, hl h3] at hmap
      cases hmap
  have horder : i'.order[(oldIndex' + 1) % i'.order.length]? = some actorId := by
    rw [← hn.next]
    exact hn.order
  obtain ⟨hactor, resources, hbooks⟩ := setCurrentTurn_books hlive hinitiative horder hset
  refine ⟨actorId, resources, ?_, hactor, ?_⟩
  · show d.state.currentActorId ≠ some actorId
    rw [hturn]
    rcases hn.turn with ⟨rfl, -, hother⟩ | ⟨rfl, -, hother⟩ <;> rw [hother]
    · exact fun h => sootWightId_ne_canalWardenId (Option.some.inj h)
    · exact fun h => sootWightId_ne_canalWardenId (Option.some.inj h).symm
  · show state.books = _
    rw [hbooks, passRound_books hpass]

end Turns

/-! ## Start, movement and weapon attacks -/

section Combat

variable {s : EncounterState} {t : List (Nat × Nat)} {n : DeterministicNarration} {d : Draft}

theorem EncounterState.Valid.liveMatches (hv : s.Valid) : LiveMatches s := hv.noLive

theorem resolveStart_posts (hv : s.Valid) (h : Prog.Returns (resolveStart (.of s)) t (n, d)) :
    s.books.Posts .startEncounter d.state.books := by
  obtain ⟨hready, h⟩ := h.reject
  obtain ⟨t₁, t₂, ⟨heroRoll, rolls⟩, rfl, -, h⟩ := h.bind
  obtain ⟨t₃, t₄, ⟨creatureRoll, rolls'⟩, rfl, -, h⟩ := h.bind
  obtain ⟨t₅, t₆, heroEntry, rfl, -, h⟩ := h.bind
  obtain ⟨t₇, t₈, creatureEntry, rfl, -, h⟩ := h.bind
  obtain ⟨t₉, t₁₀, state, rfl, hset, h⟩ := h.bind
  obtain ⟨currentActorId, -, h⟩ := h.expect
  obtain rfl : d = _ := h.snd_eq
  refine ⟨not_not.mp hready, ?_⟩
  show ∃ actorId resources, state.books = _
  have horder : ∃ actorId, (initiativeOf [heroEntry, creatureEntry]).order[0]? = some actorId := by
    have hset' := hset
    simp only [setCurrentTurn, Prog.returns_lift_bind, okOr_eq_ok] at hset'
    obtain ⟨actorId, hactor, -⟩ := hset'
    exact ⟨actorId, hactor⟩
  obtain ⟨actorId, horder⟩ := horder
  obtain ⟨-, resources, hbooks⟩ := setCurrentTurn_books (s := { s with
    initiative := some (initiativeOf [heroEntry, creatureEntry]), status := .active, round := 1 })
    hv.liveMatches rfl horder hset
  exact ⟨actorId, resources, hbooks⟩

variable {destination : Nat}

/-- The hand that follows the hero is not accounted for. -/
theorem followHand_books {d d' : Draft} (h : Prog.Returns (followHand d destination) t d') :
    d'.state.books = d.state.books := by
  unfold followHand at h
  split at h
  · obtain ⟨-, rfl⟩ := h.of_ok
    rfl
  · next live hlive =>
    split at h
    · obtain ⟨-, rfl⟩ := h.of_ok
      rfl
    · obtain ⟨⟨expired, hand⟩, -, h⟩ := h.lift
      have hbooks : d.state.books = { d.state.books with live := some live.books } := by
        rw [← EncounterState.books_live_of hlive]
      rw [hbooks]
      dsimp only at h
      split at h
      · obtain ⟨-, rfl⟩ := h.of_ok
        rfl
      · obtain ⟨-, rfl⟩ := h.of_ok
        rfl

theorem resolveMove_posts (hv : s.Valid)
    (h : Prog.Returns (resolveMove (.of s) destination) t (n, d)) :
    s.books.Posts (.move destination) d.state.books := by
  obtain ⟨hs, actor, hcurrent, hup, h⟩ := returns_activeActor h
  obtain ⟨-, h⟩ := h.reject
  replace h := h.expect_of_some (hv.combatant_current hs hcurrent)
  obtain ⟨-, h⟩ := h.reject
  obtain ⟨r, hr, h⟩ := h.expect
  obtain ⟨hbudget, h⟩ := h.reject
  refine ⟨hs, r, distance actor.positionFeet destination, destination, hr, Nat.le_of_not_lt hbudget, ?_⟩
  rcases hv.turn_cases hs with ⟨hturn, hcur⟩ | ⟨hturn, hcur⟩
  case inl =>
    obtain rfl : actor = s.hero := Option.mem_unique hcurrent hcur
    refine .inl ⟨hturn, rfl, ?_⟩
    have hupdate (x : EncounterState) : x.updateCombatant s.hero.id
        (fun c => { c with positionFeet := destination }) =
          { x with hero := { x.hero with positionFeet := destination } } := by
      rw [hv.fixed.heroId]
      exact if_pos rfl
    dsimp only at h
    split at h
    · obtain ⟨t₁, t₂, moved, rfl, hmoved, h⟩ := h.bind
      obtain rfl : d = _ := h.snd_eq
      exact (followHand_books hmoved).trans (congrArg EncounterState.books (hupdate _))
    · obtain rfl : d = _ := h.snd_eq
      exact congrArg EncounterState.books (hupdate _)
  case inr =>
    obtain rfl : actor = s.creature := Option.mem_unique hcurrent hcur
    refine .inr ⟨hturn, rfl, ?_⟩
    have hwight : s.creature.id ≠ canalWardenId := by
      rw [hv.fixed.creatureId]
      exact sootWightId_ne_canalWardenId
    have hupdate (x : EncounterState) : x.updateCombatant s.creature.id
        (fun c => { c with positionFeet := destination }) =
          { x with creature := { x.creature with positionFeet := destination } } := by
      rw [hv.fixed.creatureId]
      exact (if_neg sootWightId_ne_canalWardenId).trans (if_pos rfl)
    dsimp only at h
    rw [if_neg fun hc => hwight hc.1] at h
    obtain rfl : d = _ := h.snd_eq
    exact congrArg EncounterState.books (hupdate _)

/-- The damage of a weapon hit changes the health of its target alone. -/
theorem resolveWeaponDamage_books {d d' : Draft} {actor target : CombatantState} {actorId targetId : String}
    {attack : EncounterAttack} {critical : Bool} (htarget : d.state.combatant targetId = some target)
    (h : Prog.Returns (resolveWeaponDamage d actor target actorId targetId attack critical) t (n, d')) :
    d.state.books.HeroHealthChanges d'.state.books ∨ d.state.books.CreatureHealthChanges d'.state.books := by
  obtain ⟨t₁, t₂, ⟨roll, rolls⟩, rfl, -, h⟩ := h.bind
  obtain ⟨-, h⟩ := h.reject
  obtain ⟨struck, hstruck⟩ : ∃ c, c = (applyDamage target roll.total.toNat critical d.state.lethalityPolicy).1 :=
    ⟨_, rfl⟩
  have hposition : struck.positionFeet = target.positionFeet := by
    rw [hstruck]
    exact applyDamage_position
  -- the draft before the encounter may end
  obtain ⟨x, hx, hd⟩ : ∃ x : Draft, x.state.books = (d.state.updateCombatant targetId fun _ => struck).books ∧
      d'.state = (finishForHealthTransition x targetId).2.state := by
    dsimp only at h
    have hdamaged (y : Draft) (hy : y.state = d.state.updateCombatant targetId fun _ => struck) (a b : LifeStatus)
        (saves : DeathSaves) : (recordLifeChange (wakeSleepAfterDamage y targetId roll.total.toNat) targetId a b
          saves).state.books = (d.state.updateCombatant targetId fun _ => struck).books := by
      rw [recordLifeChange_state, wakeSleepAfterDamage_books, hy]
    refine ⟨_, hdamaged (((d.withRolls rolls).update (·.updateCombatant targetId fun _ => struck)).push
      (damageFact actorId targetId attack.attackId attack.damageType critical roll.total.toNat
        (applyDamage target roll.total.toNat critical d.state.lethalityPolicy).2)) rfl
      (applyDamage target roll.total.toNat critical d.state.lethalityPolicy).2.lifeBefore
      (applyDamage target roll.total.toNat critical d.state.lethalityPolicy).2.lifeAfter
      struck.hitPoints.deathSaves, ?_⟩
    rw [hstruck]
    split at h <;>
    · obtain ⟨-, heq⟩ := h.of_ok
      exact congrArg (fun p : Resolved => p.2.state) heq
  unfold EncounterState.combatant at htarget
  unfold EncounterState.updateCombatant at hx
  rw [hd]
  by_cases hhero : targetId = canalWardenId
  · subst hhero
    rw [if_pos rfl] at htarget hx
    obtain rfl := Option.some.inj htarget
    rw [EncounterState.books_hero hposition] at hx
    refine .inl ⟨struck.hitPoints, struck.lifeStatus, ?_⟩
    rw [← hx]
    exact finishForHealthTransition_hero
  · rw [if_neg hhero] at htarget hx
    by_cases hwight : targetId = sootWightId
    · subst hwight
      rw [if_pos rfl] at htarget hx
      obtain rfl := Option.some.inj htarget
      rw [EncounterState.books_creature hposition] at hx
      refine .inr ⟨struck.hitPoints.current, ?_⟩
      rw [← hx]
      exact finishForHealthTransition_creature
    · rw [if_neg hwight] at htarget
      cases htarget

theorem resolveAttack_posts (hv : s.Valid) {attackId targetId : String}
    (h : Prog.Returns (resolveAttack (.of s) attackId targetId) t (n, d)) :
    s.books.Posts (.attack attackId targetId) d.state.books := by
  obtain ⟨hs, actor, hcurrent, hup, h⟩ := returns_activeActor h
  obtain ⟨attack, hattack, h⟩ := h.lift
  obtain ⟨-, h⟩ := h.reject
  obtain ⟨target, hlookup, h⟩ := h.expect
  obtain ⟨-, h⟩ := h.reject
  obtain ⟨actor', hactor', h⟩ := h.expect
  obtain ⟨-, h⟩ := h.reject
  obtain ⟨r, hr, h⟩ := h.expect
  obtain ⟨haction, h⟩ := h.reject
  obtain ⟨_, -, h⟩ := h.expect
  obtain ⟨t₁, t₂, ⟨roll, rolls⟩, rfl, -, h⟩ := h.bind
  obtain ⟨outcome, -, h⟩ := h.expect
  have hr' : s.turnResources = some r := hr
  have hspends : s.books.SpendsAction (s.spendAction r).books :=
    ⟨r, hr', by simpa using haction, rfl⟩
  refine ⟨hs, _, hspends, ?_⟩
  dsimp only at h
  split at h
  case isTrue =>
    obtain rfl : d = _ := h.snd_eq
    exact .inl rfl
  case isFalse =>
    split at h
    case isTrue hopens =>
      obtain ⟨natural, -, h⟩ := h.expect
      obtain rfl : d = _ := h.snd_eq
      obtain ⟨live, hlive, hvalid⟩ := hv.live hopens.1
      have hturn : s.currentActorId = some sootWightId := by
        rcases hv.turn_cases hs with ⟨-, hcur⟩ | ⟨hturn, -⟩
        · obtain rfl : actor = s.hero := Option.mem_unique hcurrent hcur
          have hid := hopens.2.1
          rw [hv.fixed.heroId] at hid
          exact absurd hid canalWardenId_ne_sootWightId
        · exact hturn
      have hnone : live.pendingAttackReaction = none :=
        hv.noPending_of_action hr' (by simpa using haction) (Option.mem_def.mpr hlive)
      let p : PendingAttackReaction :=
        { actorId := actor.id, targetId, attackId := attack.attackId, naturalRoll := natural
          attackTotal := roll.total, armorClass := target.armorClass, critical := outcome.isCritical }
      refine .inr (.inl ⟨live.books, p, EncounterState.books_live_of hlive, hnone, hturn, ?_⟩)
      show ((s.spendAction r).mapLive fun live => { live with pendingAttackReaction := some p }).books = _
      unfold EncounterState.mapLive
      rw [show (s.spendAction r).liveQ04 = some live from hlive]
      rfl
    case isFalse =>
      have hstate : (s.spendAction r).combatant targetId = some target := hlookup
      exact .inr (.inr (resolveWeaponDamage_books hstate h))

theorem resolveContextAction_posts {actionId : String}
    (h : Prog.Returns (resolveContextAction (.of s) actionId) t (n, d)) :
    s.books.Posts (.contextAction actionId) d.state.books := by
  obtain ⟨hs, actor, -, -, h⟩ := returns_activeActor h
  obtain ⟨-, h⟩ := h.reject
  obtain ⟨-, h⟩ := h.reject
  obtain ⟨-, h⟩ := h.reject
  obtain ⟨r, hr, h⟩ := h.expect
  obtain ⟨-, h⟩ := h.reject
  obtain rfl : d = _ := h.snd_eq
  exact ⟨hs, r, hr, rfl⟩

theorem resolveEndTurn_posts (hv : s.Valid) (h : Prog.Returns (resolveEndTurn (.of s)) t (n, d)) :
    s.books.Posts .endTurn d.state.books := by
  obtain ⟨actorId, t', hactor, hpass⟩ := resolveEndTurn_returns h
  obtain ⟨hs, -⟩ := requireConsciousActiveActor_eq_ok.mp hactor
  obtain ⟨i, oldIndex, index, nextId, next, hn⟩ := hv.nextTurn hs
  exact ⟨hs, advanceTurn_books (d := .of s) hn hv.liveMatches rfl rfl rfl hpass⟩

theorem resolveDeathSave_posts (hv : s.Valid) (h : Prog.Returns (resolveDeathSave (.of s)) t (n, d)) :
    s.books.Posts .rollDeathSave d.state.books := by
  obtain ⟨hs, hturn, -⟩ := resolveDeathSave_returns h
  obtain ⟨t₁, t₂, roll, rolls, natural, rfl, -, -, hends⟩ := resolveDeathSave_drafts h
  have hstate : (recordDeathSave ((Draft.of s).withRolls rolls) natural).state =
      { s with hero := s.hero.saveDeath natural } := recordDeathSave_state
  have hposition : (s.hero.saveDeath natural).positionFeet = s.hero.positionFeet := by
    rw [saveDeath_changed]
  have hbooks := congrArg EncounterState.books hstate
  rw [EncounterState.books_hero hposition] at hbooks
  refine ⟨hs, hturn, ?_⟩
  have hsaved (b : Books) (hb : (recordDeathSave ((Draft.of s).withRolls rolls) natural).state.books.MayFall b) :
      s.books.HeroHealthChanges b :=
    ⟨(s.hero.saveDeath natural).hitPoints, (s.hero.saveDeath natural).lifeStatus, hbooks ▸ hb⟩
  rcases hends with ⟨-, rfl | ⟨reason, rfl⟩⟩ | hpass
  · exact .inl (hsaved _ (.inl rfl))
  · exact .inl (hsaved _ (.inr ⟨_, rfl⟩))
  · obtain ⟨i, oldIndex, index, nextId, next, hn⟩ := hv.nextTurn hs
    have hl : LiveMatches (recordDeathSave ((Draft.of s).withRolls rolls) natural).state := by
      rw [hstate]
      exact hv.liveMatches
    refine .inr ⟨(s.hero.saveDeath natural).hitPoints, (s.hero.saveDeath natural).lifeStatus, ?_⟩
    rw [← hbooks]
    refine advanceTurn_books hn hl ?_ ?_ ?_ hpass <;> rw [hstate]

end Combat

/-! ## Spells -/

section Casting

variable {s : EncounterState} {t : List (Nat × Nat)} {n : DeterministicNarration} {d : Draft}

/-- Live runtime with the same accounts. -/
theorem EncounterState.books_withLive {live live' : EncounterLiveQ04State} (h : s.liveQ04 = some live)
    (hb : live'.books = live.books) : { s with liveQ04 := some live' }.books = s.books := by
  unfold EncounterState.books
  simp only [h, Option.map_some, hb]

variable {r : TurnResources} {economy : ActionEconomy} {objectId : String}

/-- **Casting with the action pays for the spell.** -/
theorem castSupportedSpell_pays {rules : EncounterHeroRulesProfile} {sc : SpellcastingState}
    {intent : SupportedSpellIntent} {res : SpellCastResolution} {runtime : RuntimeResources}
    (hturn : s.books.turn = some canalWardenId) (hr : s.turnResources = some r)
    (hrules : s.heroRules = some rules)
    (h : Prog.Returns (castSupportedSpell rules sc r.actionEconomy intent) t (res, runtime, economy))
    (hspell : intent.spell ≠ .shield) :
    s.books.Pays (s.afterCast rules runtime economy).books intent.spell := by
  obtain ⟨effects, -, hspend, -⟩ := resolveSupportedSpell_returns h.of_mapErr
  obtain ⟨hafford, rfl, haction, rfl⟩ := spendSpellActionAndSlot_eq_ok hspend
  rw [if_neg hspell] at haction ⊢
  exact ⟨hturn, r, rules.runtimeResources, hr, haction, EncounterState.books_pools_of hrules, hafford, rfl⟩

theorem resolveCastLight_posts (hv : s.Valid)
    (h : Prog.Returns (resolveCastLight (.of s) objectId) t (n, d)) :
    s.books.Posts (.castLight objectId) d.state.books := by
  obtain ⟨r', rules', sc', live', hcast, -⟩ := permitted_of_guard hv h
  obtain ⟨_, -, h⟩ := h.lift
  obtain ⟨object, -, h⟩ := h.lift
  obtain ⟨rules, hrules, h⟩ := h.lift
  obtain ⟨sc, -, h⟩ := h.lift
  obtain ⟨r, hr, h⟩ := h.expect
  obtain ⟨t₁, t₂, ⟨res, runtime, economy⟩, rfl, hspell, h⟩ := h.bind
  obtain ⟨duration, -, h⟩ := h.lift
  obtain ⟨live, hlive, h⟩ := h.expect
  obtain rfl : d = _ := h.snd_eq
  have hpays := castSupportedSpell_pays (hcast.turn.books_turn hv) hr (okOr_eq_ok.mp hrules) hspell
    (show SpellId.light ≠ .shield by decide)
  refine ⟨hcast.turn.active, ?_⟩
  rw [← EncounterState.books_withLive (s := s.afterCast rules runtime economy) hlive] at hpays
  · exact hpays
  · rfl

theorem resolveCastMageHand_posts (hv : s.Valid) {anchor : String}
    (h : Prog.Returns (resolveCastMageHand (.of s) anchor) t (n, d)) :
    s.books.Posts (.castMageHand anchor) d.state.books := by
  obtain ⟨r', rules', sc', live', hcast, -⟩ := permitted_of_guard hv h
  obtain ⟨_, -, h⟩ := h.lift
  obtain ⟨object, -, h⟩ := h.lift
  obtain ⟨rules, hrules, h⟩ := h.lift
  obtain ⟨sc, -, h⟩ := h.lift
  obtain ⟨r, hr, h⟩ := h.expect
  obtain ⟨t₁, t₂, ⟨res, runtime, economy⟩, rfl, hspell, h⟩ := h.bind
  obtain ⟨hand, -, h⟩ := h.lift
  obtain ⟨live, hlive, h⟩ := h.expect
  obtain rfl : d = _ := h.snd_eq
  have hpays := castSupportedSpell_pays (hcast.turn.books_turn hv) hr (okOr_eq_ok.mp hrules) hspell
    (show SpellId.mageHand ≠ .shield by decide)
  refine ⟨hcast.turn.active, ?_⟩
  rw [← EncounterState.books_withLive (s := s.afterCast rules runtime economy) hlive] at hpays
  · exact hpays
  · rfl

variable {live : EncounterLiveQ04State} {hand : Option MageHandState} {targetId : String} {spell : SpellId}

/-- The hand acts with the action. -/
theorem actWithHand_spends {intent : MageHandActionIntent}
    {res : MageHandActionResolution}
    (h : actWithHand live r intent = .ok (res, hand, economy)) :
    r.actionAvailable = true ∧ TurnResources.fromActionEconomy economy = { r with actionAvailable := false } := by
  obtain ⟨haction, rfl⟩ := resolveMageHandAction_economy (mapError_eq_ok.mp h)
  exact ⟨haction, rfl⟩

/-- In the books, what the hand does is the action alone. -/
theorem EncounterState.books_hand {position : Option Nat}
    (hlive : s.liveQ04 = some live)
    (h : TurnResources.fromActionEconomy economy = r) :
    ({ s with
        liveQ04 := some { live with mageHand := hand, mageHandPositionFeet := position }
        turnResources := some (TurnResources.fromActionEconomy economy) } : EncounterState).books =
      { s with turnResources := some r }.books := by
  rw [h]
  exact EncounterState.books_withLive (s := { s with turnResources := some r }) hlive rfl

/-- Releasing the sluice takes temporary hit points alone. -/
theorem releaseByHand_books {d : Draft} :
    (releaseByHand d objectId).state.books = d.state.books := by
  unfold releaseByHand
  split <;> rfl

theorem resolveControlMageHand_posts (hv : s.Valid)
    (h : Prog.Returns (resolveControlMageHand (.of s) objectId) t (n, d)) :
    s.books.Posts (.controlMageHand objectId) d.state.books := by
  obtain ⟨r', rules', sc', live', hcast, -⟩ := permitted_of_guard hv h
  obtain ⟨_, -, h⟩ := h.lift
  obtain ⟨object, -, h⟩ := h.lift
  obtain ⟨live, hlive, h⟩ := h.expect
  obtain ⟨current, -, h⟩ := h.expect
  obtain ⟨r, hr, h⟩ := h.expect
  obtain ⟨⟨res, hand, economy⟩, hact, h⟩ := h.lift
  obtain ⟨haction, heconomy⟩ := actWithHand_spends hact
  refine ⟨hcast.turn.active, hcast.turn.books_turn hv, r, hr, haction, ?_⟩
  dsimp only at h
  split at h
  · obtain rfl : d = _ := h.snd_eq
    rw [releaseByHand_books]
    exact EncounterState.books_hand hlive heconomy
  · exact absurd h Prog.returns_err

theorem resolveDismissMageHand_posts (hv : s.Valid)
    (h : Prog.Returns (resolveDismissMageHand (.of s)) t (n, d)) :
    s.books.Posts .dismissMageHand d.state.books := by
  obtain ⟨r', rules', sc', live', hcast, -⟩ := permitted_of_guard hv h
  obtain ⟨_, -, h⟩ := h.lift
  obtain ⟨live, hlive, h⟩ := h.expect
  obtain ⟨r, hr, h⟩ := h.expect
  obtain ⟨⟨res, hand, economy⟩, hact, h⟩ := h.lift
  obtain ⟨haction, heconomy⟩ := actWithHand_spends hact
  refine ⟨hcast.turn.active, hcast.turn.books_turn hv, r, hr, haction, ?_⟩
  dsimp only at h
  split at h
  · obtain rfl : d = _ := h.snd_eq
    exact EncounterState.books_hand hlive heconomy
  · exact absurd h Prog.returns_err

theorem resolveCastSleep_posts (hv : s.Valid) (h : Prog.Returns (resolveCastSleep (.of s)) t (n, d)) :
    s.books.Posts .castSleep d.state.books := by
  obtain ⟨r', rules', sc', live', hcast, -⟩ := permitted_of_guard hv h
  obtain ⟨_, -, h⟩ := h.lift
  obtain ⟨rules, hrules, h⟩ := h.lift
  obtain ⟨sc, -, h⟩ := h.lift
  obtain ⟨slotsBefore, -, h⟩ := h.lift
  obtain ⟨r, hr, h⟩ := h.expect
  obtain ⟨t₁, t₂, ⟨res, runtime, economy⟩, rfl, hspell, h⟩ := h.bind
  obtain ⟨pool, -, h⟩ := h.lift
  obtain ⟨poolRoll, -, h⟩ := h.lift
  obtain ⟨live, hlive, h⟩ := h.expect
  obtain ⟨slotsAfter, -, h⟩ := h.expect
  obtain rfl : d = _ := h.snd_eq
  have hpays := castSupportedSpell_pays (hcast.turn.books_turn hv) hr (okOr_eq_ok.mp hrules) hspell
    (show SpellId.sleep ≠ .shield by decide)
  refine ⟨hcast.turn.active, ?_⟩
  show s.books.Pays (EncounterState.afterCast (if _ then s.fallAsleep live else s) rules runtime economy).books .sleep
  split
  · have hslept : ((s.fallAsleep live).afterCast rules runtime economy).books =
        (s.afterCast rules runtime economy).books := by
      rw [← @EncounterState.books_withLive (s.afterCast rules runtime economy) live
        { live with sleep := some ⟨sootWightId, 10⟩ } hlive rfl]
      rfl
    rw [hslept]
    exact hpays
  · exact hpays

/-! ### Fire Bolt and Magic Missile -/

theorem pushRolls_state {α : Type} {record : α → Nat → RawRollFacts} (as : List α) (d : Draft) :
    (as.foldl (fun d a => d.pushRoll (record a)) d).state = d.state := by
  induction as generalizing d with
  | nil => rfl
  | cons a as ih => exact ih (d.pushRoll (record a))

theorem recordSpellAttack_state {d : Draft} {attack : Option SpellAttackResolution} {distanceFeet : Nat} :
    (recordSpellAttack d attack targetId spell distanceFeet).state = d.state := by
  cases attack <;> rfl

/-- The damage of a spell changes the health of the creature alone. -/
theorem applySpellDamage_books {d : Draft} {target : CombatantState} {spell : SpellId} {damageType : DamageType}
    {critical : Bool} {damage : Nat} (htarget : d.state.combatant sootWightId = some target) :
    d.state.books.CreatureHealthChanges
      (applySpellDamage d target sootWightId spell damageType critical damage).2.state.books := by
  obtain rfl : target = d.state.creature := by
    unfold EncounterState.combatant at htarget
    rw [if_neg sootWightId_ne_canalWardenId, if_pos rfl] at htarget
    exact (Option.some.inj htarget).symm
  refine ⟨(applyDamage d.state.creature damage critical d.state.lethalityPolicy).1.hitPoints.current, ?_⟩
  have hstruck : (d.state.updateCombatant sootWightId fun _ =>
      (applyDamage d.state.creature damage critical d.state.lethalityPolicy).1).books =
        { d.state.books with creatureHitPoints :=
          (applyDamage d.state.creature damage critical d.state.lethalityPolicy).1.hitPoints.current } := by
    unfold EncounterState.updateCombatant
    rw [if_neg sootWightId_ne_canalWardenId, if_pos rfl]
    exact EncounterState.books_creature applyDamage_position
  rw [← hstruck]
  unfold applySpellDamage
  dsimp only
  refine Eq.subst (motive := fun b : Books => b.MayPrevail _) ?_ finishForHealthTransition_creature
  rw [recordLifeChange_state, wakeSleepAfterDamage_books]
  rfl

theorem resolveCastSpell_posts (hv : s.Valid)
    (h : Prog.Returns (resolveCastSpell (.of s) spell targetId) t (n, d)) :
    s.books.Posts (.castSpell spell targetId) d.state.books := by
  obtain ⟨a, hpermitted, hcovers⟩ := resolveCastSpell_offered hv h
  obtain ⟨hspellId, h⟩ := h.reject
  obtain ⟨hs, actor, hcurrent, hup, h⟩ := returns_activeActor h
  obtain ⟨hid, h⟩ := h.reject
  obtain ⟨actions, -, h⟩ := h.lift
  obtain ⟨-, h⟩ := h.reject
  obtain ⟨-, h⟩ := h.reject
  obtain ⟨rules, hrules, h⟩ := h.lift
  obtain ⟨sc, -, h⟩ := h.lift
  obtain ⟨r, hr, h⟩ := h.expect
  obtain ⟨intent, hintent, h⟩ := h.expect
  obtain ⟨t₁, t₂, ⟨res, runtime, economy⟩, rfl, hcast, h⟩ := h.bind
  obtain ⟨⟨damageType, damage⟩, -, h⟩ := h.lift
  have hturn : s.books.turn = some canalWardenId := (hv.hero_of_id hs hcurrent (not_not.mp hid)).2
  have hwight : targetId = sootWightId := by
    cases a <;> first | exact hcovers.elim | skip
    obtain ⟨-, -, -, -, -, -, htarget, -⟩ := hpermitted
    exact hcovers.2.trans (htarget.trans hv.fixed.creatureId)
  subst hwight
  have hsame : intent.spell = spell := by
    cases spell <;> first | exact (Option.some.inj hintent) ▸ rfl | cases hintent
  have hnotShield : intent.spell ≠ .shield := by
    rw [hsame]
    rintro rfl
    exact hspellId ⟨by decide, by decide⟩
  have hpays := castSupportedSpell_pays hturn hr (okOr_eq_ok.mp hrules) hcast hnotShield
  rw [hsame] at hpays
  refine ⟨hs, _, hpays, ?_⟩
  -- the rolls of the spell leave the state alone
  dsimp only at h
  generalize hrolled : List.foldl _ (recordSpellAttack _ _ _ _ _) res.damageRolls = rolled at h
  have hstate : rolled.state = s := by
    rw [← hrolled]
    exact (pushRolls_state _ _).trans recordSpellAttack_state
  generalize hcastDraft : (rolled.update (·.afterCast rules runtime economy)).push _ = cast at h
  have hafter : cast.state = s.afterCast rules runtime economy := by
    rw [← hcastDraft, Draft.push_state, Draft.update_state, hstate]
  rw [← hafter]
  split at h
  · obtain rfl : d = cast := h.snd_eq
    exact .inl rfl
  · obtain ⟨target, htarget, h⟩ := h.expect
    obtain ⟨damageType', -, h⟩ := h.expect
    refine .inr ?_
    have hchange := @applySpellDamage_books cast target spell damageType'
      ((res.attack.map spellAttackOutcome).any (·.isCritical)) damage htarget
    split at h
    · obtain rfl : d = _ := h.snd_eq
      exact hchange
    · obtain rfl : d = _ := h.snd_eq
      exact hchange

/-! ### Features of the fighter -/

theorem resolveSecondWind_posts (hv : s.Valid) (h : Prog.Returns (resolveSecondWind (.of s)) t (n, d)) :
    s.books.Posts .secondWind d.state.books := by
  obtain ⟨hs, actor, hcurrent, hup, h⟩ := returns_activeActor h
  obtain ⟨hid, h⟩ := h.reject
  obtain ⟨_, -, h⟩ := h.lift
  obtain ⟨rules, hrules, h⟩ := h.lift
  obtain ⟨r, hr, h⟩ := h.expect
  obtain ⟨t₁, t₂, ⟨res, runtime, economy, health⟩, rfl, hwind, h⟩ := h.bind
  obtain rfl : d = _ := h.snd_eq
  obtain ⟨hpos, rfl, rfl⟩ := useSecondWind_returns hwind.of_mapErr
  exact ⟨hs, (hv.hero_of_id hs hcurrent (not_not.mp hid)).2, r, rules.runtimeResources, _, hr,
    EncounterState.books_pools_of (okOr_eq_ok.mp hrules), hpos, rfl⟩

theorem resolveActionSurge_posts (hv : s.Valid) (h : Prog.Returns (resolveActionSurge (.of s)) t (n, d)) :
    s.books.Posts .actionSurge d.state.books := by
  obtain ⟨hs, actor, hcurrent, hup, h⟩ := returns_activeActor h
  obtain ⟨hid, h⟩ := h.reject
  obtain ⟨_, -, h⟩ := h.lift
  obtain ⟨rules, hrules, h⟩ := h.lift
  obtain ⟨r, hr, h⟩ := h.expect
  obtain ⟨⟨u, runtime, economy⟩, hsurge, h⟩ := h.lift
  obtain rfl : d = _ := h.snd_eq
  obtain ⟨hpos, rfl, hspent, rfl⟩ := useActionSurge_eq_ok (mapError_eq_ok.mp hsurge)
  exact ⟨hs, (hv.hero_of_id hs hcurrent (not_not.mp hid)).2, r, rules.runtimeResources, hr, hspent,
    EncounterState.books_pools_of (okOr_eq_ok.mp hrules), hpos, rfl⟩

end Casting

/-! ## Reactions -/

section Reactions

variable {s : EncounterState} {t : List (Nat × Nat)} {n : DeterministicNarration} {d : Draft}

/-- The damage of the waiting hit changes the health of the hero alone. -/
theorem resolvePendingAttackDamage_books {d d' : Draft} {p : PendingAttackReaction}
    {completion : Option EncounterOutcome}
    (h : Prog.Returns (resolvePendingAttackDamage d p) t (completion, d')) :
    d.state.books.HeroHealthChanges d'.state.books := by
  obtain ⟨t₁, t₂, ⟨roll, rolls⟩, rfl, -, h⟩ := h.bind
  obtain ⟨-, h⟩ := h.reject
  obtain ⟨-, heq⟩ := h.of_ok
  obtain rfl : d' = _ := congrArg Prod.snd heq
  refine ⟨(applyDamage d.state.hero roll.total.toNat p.critical d.state.lethalityPolicy).1.hitPoints,
    (applyDamage d.state.hero roll.total.toNat p.critical d.state.lethalityPolicy).1.lifeStatus, ?_⟩
  rw [← EncounterState.books_hero applyDamage_position]
  refine Eq.subst (motive := fun b : Books => b.MayFall _) ?_ finishForHealthTransition_hero
  rw [recordLifeChange_state]
  rfl

theorem resolveDeclineReaction_posts (hv : s.Valid)
    (h : Prog.Returns (resolveDeclineReaction (.of s)) t (n, d)) :
    s.books.Posts .declineReaction d.state.books := by
  have hwaits : s.pendingReaction = true := permitted_of_guard hv h
  obtain ⟨-, live, p, hlive, hp, -, -⟩ := hv.pending hwaits
  obtain ⟨_, -, h⟩ := h.lift
  obtain ⟨p', -, h⟩ := h.expect
  obtain ⟨t₁, t₂, ⟨completion, struck⟩, rfl, hdamage, h⟩ := h.bind
  obtain rfl : d = struck := h.snd_eq
  refine ⟨(hv.pending_turn hwaits).1, live.books, p, EncounterState.books_live_of hlive, hp, ?_⟩
  have hchange := resolvePendingAttackDamage_books hdamage
  have hdeclined : (s.mapLive fun live => { live with pendingAttackReaction := none }).books =
      { s.books with live := some { live.books with pending := none } } := by
    unfold EncounterState.mapLive
    rw [hlive]
    rfl
  rw [← hdeclined]
  exact hchange

theorem resolveShieldReaction_posts (hv : s.Valid)
    (h : Prog.Returns (resolveShieldReaction (.of s)) t (n, d)) :
    s.books.Posts .castShield d.state.books := by
  obtain ⟨hwaits, -⟩ := permitted_of_guard hv h
  obtain ⟨-, live, p, hlive, hp, -, -⟩ := hv.pending hwaits
  obtain ⟨_, -, h⟩ := h.lift
  obtain ⟨p', -, h⟩ := h.expect
  obtain ⟨rules, hrules, h⟩ := h.lift
  obtain ⟨sc, -, h⟩ := h.lift
  obtain ⟨slotsBefore, -, h⟩ := h.lift
  obtain ⟨trigger, -, h⟩ := h.lift
  replace h := h.expect_of_some hlive
  obtain ⟨t₁, t₂, ⟨res, runtime, economy⟩, rfl, hcast, h⟩ := h.bind
  obtain ⟨⟨bonus, negated, immune⟩, -, h⟩ := h.lift
  obtain ⟨slotsAfter, -, h⟩ := h.expect
  obtain ⟨effects, -, hspend, -⟩ := resolveSupportedSpell_returns hcast.of_mapErr
  obtain ⟨hafford, rfl, hreaction, -⟩ := spendSpellActionAndSlot_eq_ok hspend
  let w : ShieldWardState :=
    { casterId := canalWardenId, armorClassBonus := bonus, immuneToMagicMissile := immune
      expiry := .startOfCasterTurn }
  have hshields : s.books.Shields
      { s.books with
        pools := some rules.runtimeResources.drawSlot
        live := some { live.books with pending := none, reaction := false, ward := some w } } :=
    ⟨live.books, rules.runtimeResources, p, w, EncounterState.books_live_of hlive, hp, hreaction,
      EncounterState.books_pools_of (okOr_eq_ok.mp hrules), hafford rfl, rfl⟩
  refine ⟨(hv.pending_turn hwaits).1, _, hshields, ?_⟩
  dsimp only at h
  split at h
  · obtain rfl : d = _ := h.snd_eq
    exact .inl rfl
  · obtain ⟨t₃, t₄, ⟨completion, struck⟩, rfl, hdamage, h⟩ := h.bind
    obtain rfl : d = _ := h.snd_eq
    refine .inr ⟨struck.state.books, resolvePendingAttackDamage_books hdamage, ?_⟩
    dsimp only
    split
    · refine .inr ?_
      show (struck.state.mapLive _).books = struck.state.books.dropWard
      unfold EncounterState.mapLive EncounterState.books Books.dropWard
      cases struck.state.liveQ04 <;> rfl
    · exact .inl rfl

end Reactions

/-! ## Rests -/

section Rests

variable {s : EncounterState} {t : List (Nat × Nat)} {n : DeterministicNarration} {d : Draft}

/-- Story recovery touches the hero's health alone. -/
theorem applyStoryRecoveryBoundary_eq_ok {s' : EncounterState} (h : s.applyStoryRecoveryBoundary = .ok s') :
    ∃ hero : CombatantState, hero.positionFeet = s.hero.positionFeet ∧ s' = { s with hero } := by
  unfold EncounterState.applyStoryRecoveryBoundary at h
  split at h
  · obtain ⟨transition, -, heq⟩ := bind_eq_ok.mp h
    obtain rfl := Except.ok.inj heq
    refine ⟨_, ?_, rfl⟩
    rfl
  · obtain rfl := Except.ok.inj h
    exact ⟨s.hero, rfl, rfl⟩

/-- The health of a record, in the hero and in the transition. -/
theorem applyRecoveryHealth_books (health : HealthState) :
    ∃ hitPoints life transition, Books.SameEnding s.transition transition ∧
      (s.applyRecoveryHealth health).books =
        { s.books with heroHitPoints := hitPoints, heroLife := life, transition } := by
  refine ⟨(s.hero.withHealth health).hitPoints, (s.hero.withHealth health).lifeStatus,
    (s.applyRecoveryHealth health).transition, ?_, rfl⟩
  show Books.SameEnding s.transition (if s.isOver then _ else _)
  split
  · cases htransition : s.transition with
    | none => exact .inl rfl
    | some ending => exact .inr ⟨ending, _, _, rfl, rfl⟩
  · exact .inl rfl

variable {live : EncounterLiveQ04State} {rules : EncounterHeroRulesProfile}

/-- The live runtime decides the live accounts, and the snapshot the pools. -/
theorem EncounterState.books_rested :
    { s with heroRules := some rules, liveQ04 := some live }.books =
      { s.books with pools := some rules.runtimeResources, live := some live.books } := rfl

theorem expireEffectsForRest_books
    {f : EncounterLiveQ04State → EncounterLiveQ04State} :
    (expireEffectsForRest d live f).state.books = { d.state.books with live := some (f live.expire).books } := by
  unfold expireEffectsForRest
  dsimp only
  split <;> rfl

theorem completionMinute_eq_ok {startedAt minutes completesAt : Nat}
    (h : completionMinute startedAt minutes = .ok completesAt) : completesAt = startedAt + minutes := by
  simp only [completionMinute, seq_eq_ok] at h
  exact (Except.ok.inj h.2).symm

theorem resolveBeginShortRest_posts (hv : s.Valid) (h : Prog.Returns (resolveBeginShortRest (.of s)) t (n, d)) :
    s.books.Posts .beginShortRest d.state.books := by
  obtain ⟨live, rules, hboundary, hidle⟩ := permitted_of_guard hv h
  obtain ⟨_, -, h⟩ := h.lift
  obtain ⟨s', hrecovered, h⟩ := h.lift
  obtain ⟨hero, hposition, rfl⟩ := applyStoryRecoveryBoundary_eq_ok hrecovered
  replace h := h.expect_of_some hboundary.runtime
  obtain ⟨completesAt, hminute, h⟩ := h.lift
  obtain rfl := completionMinute_eq_ok hminute
  obtain rfl : d = _ := h.snd_eq
  have hpools := EncounterState.books_pools_of hboundary.snapshot
  let rest : ShortRestState :=
    { boundaryId := postEncounterRestBoundaryId
      startedAtCampaignMinute := live.campaignTimeMinutes
      completesAtCampaignMinute := live.campaignTimeMinutes + shortRestMinutes
      hitDiceSpent := 0
      arcaneRecoveryUsed := false }
  refine ⟨live.books, rules.runtimeResources, hero.hitPoints, hero.lifeStatus, rest,
    EncounterState.books_live_of hboundary.runtime, hidle, hpools, ?_⟩
  rw [Draft.push_state, expireEffectsForRest_books, EncounterState.books_hero hposition]
  unfold Books.rested
  rw [← hpools]
  rfl

theorem resolveSpendHitDie_posts (hv : s.Valid) (h : Prog.Returns (resolveSpendHitDie (.of s)) t (n, d)) :
    s.books.Posts .spendHitDie d.state.books := by
  obtain ⟨live, rules, rest, hboundary, hrest, -⟩ := permitted_of_guard hv h
  obtain ⟨_, -, h⟩ := h.lift
  replace h := h.lift_of_ok (okOr_eq_ok.mpr hboundary.snapshot)
  obtain ⟨modifier, -, h⟩ := h.lift
  obtain ⟨t₁, t₂, ⟨res, runtime, health⟩, rfl, hspend, h⟩ := h.bind
  obtain ⟨sides, -, h⟩ := h.expect
  replace h := h.expect_of_some hboundary.runtime
  replace h := h.expect_of_some hrest
  obtain ⟨_, -, h⟩ := h.expect
  obtain rfl : d = _ := h.snd_eq
  obtain ⟨hpos, rfl⟩ := spendHitDie_returns hspend.of_mapErr
  obtain ⟨hitPoints, life, transition, hsame, hbooks⟩ := @applyRecoveryHealth_books s health
  refine ⟨live.books, rules.runtimeResources, hitPoints, life, transition, rest,
    { rest with hitDiceSpent := rest.hitDiceSpent + 1 }, EncounterState.books_live_of hboundary.runtime, hrest,
    EncounterState.books_pools_of hboundary.snapshot, hpos, hsame, ?_⟩
  show ({ s.applyRecoveryHealth health with heroRules := _, liveQ04 := _ } : EncounterState).books = _
  rw [EncounterState.books_rested, hbooks]
  unfold Books.rested EncounterLiveQ04State.updateRest EncounterLiveQ04State.books
  dsimp only
  rw [hrest]
  rfl

theorem completeShortRest_returns {useArcaneRecovery : Bool}
    {res : RestResolution} {runtime : RuntimeResources} {health : HealthState}
    (h : Prog.Returns (completeShortRest s rules useArcaneRecovery) t (res, runtime, health)) :
    rules.runtimeResources.Valid ∧ (useArcaneRecovery = true →
        0 < heldIn rules.runtimeResources.arcaneRecovery ∧ rules.runtimeResources.levelOneSpellSlots ≠ none) ∧
      runtime = if useArcaneRecovery then rules.runtimeResources.afterShortRest.recoverSlot
        else rules.runtimeResources.afterShortRest := by
  obtain ⟨modifier, -, h⟩ := h.expect
  obtain ⟨-, hvalid, -, hrecovery, hruntime⟩ := takeShortRest_returns h.of_mapErr
  exact ⟨hvalid, hrecovery, hruntime⟩

theorem resolveArcaneRecovery_posts (hv : s.Valid) (h : Prog.Returns (resolveArcaneRecovery (.of s)) t (n, d)) :
    s.books.Posts .useArcaneRecovery d.state.books := by
  obtain ⟨live, rules, rest, hboundary, hrest, -⟩ := permitted_of_guard hv h
  obtain ⟨_, -, h⟩ := h.lift
  replace h := h.lift_of_ok (okOr_eq_ok.mpr hboundary.snapshot)
  obtain ⟨slotsBefore, -, h⟩ := h.expect
  obtain ⟨recoveryBefore, -, h⟩ := h.expect
  obtain ⟨t₁, t₂, ⟨res, runtime, health⟩, rfl, hshort, h⟩ := h.bind
  obtain ⟨slotsAfter, -, h⟩ := h.expect
  obtain ⟨recoveryAfter, -, h⟩ := h.expect
  replace h := h.expect_of_some hboundary.runtime
  replace h := h.expect_of_some hrest
  obtain rfl : d = _ := h.snd_eq
  obtain ⟨hvalid, hrecovery, hruntime⟩ := completeShortRest_returns hshort
  obtain ⟨hpos, hslots⟩ := hrecovery rfl
  rw [if_pos rfl, hvalid.afterShortRest_wizard (hvalid.wizard_of_recovery (ne_none_of_heldIn hpos))] at hruntime
  subst hruntime
  refine ⟨live.books, rules.runtimeResources, rest, { rest with arcaneRecoveryUsed := true },
    EncounterState.books_live_of hboundary.runtime, hrest, EncounterState.books_pools_of hboundary.snapshot,
    hpos, hslots, ?_⟩
  show ({ s with heroRules := _, liveQ04 := _ } : EncounterState).books = _
  rw [EncounterState.books_rested]
  unfold Books.rested EncounterLiveQ04State.updateRest EncounterLiveQ04State.books
  dsimp only
  rw [hrest]
  rfl

theorem resolveFinishShortRest_posts (hv : s.Valid)
    (h : Prog.Returns (resolveFinishShortRest (.of s)) t (n, d)) :
    s.books.Posts .finishShortRest d.state.books := by
  obtain ⟨live, rules, rest, hboundary, hrest⟩ := permitted_of_guard hv h
  obtain ⟨_, -, h⟩ := h.lift
  obtain ⟨rest', -, h⟩ := h.expect
  replace h := h.lift_of_ok (okOr_eq_ok.mpr hboundary.snapshot)
  obtain ⟨t₁, t₂, ⟨res, runtime, health⟩, rfl, hshort, h⟩ := h.bind
  replace h := h.expect_of_some hboundary.runtime
  obtain rfl : d = _ := h.snd_eq
  obtain ⟨-, -, hruntime⟩ := completeShortRest_returns hshort
  rw [if_neg Bool.false_ne_true] at hruntime
  subst hruntime
  obtain ⟨hitPoints, life, transition, hsame, hbooks⟩ := @applyRecoveryHealth_books s health
  refine ⟨live.books, rules.runtimeResources, hitPoints, life, transition, rest,
    EncounterState.books_live_of hboundary.runtime, hrest, EncounterState.books_pools_of hboundary.snapshot,
    hsame, ?_⟩
  show ({ s.applyRecoveryHealth health with heroRules := _, liveQ04 := _ } : EncounterState).books = _
  rw [EncounterState.books_rested, hbooks]
  rfl

theorem resolveLongRest_posts (hv : s.Valid) (h : Prog.Returns (resolveLongRest (.of s)) t (n, d)) :
    s.books.Posts .takeLongRest d.state.books := by
  obtain ⟨live, rules, hboundary, hidle, hday⟩ := permitted_of_guard hv h
  obtain ⟨_, -, h⟩ := h.lift
  obtain ⟨s', hrecovered, h⟩ := h.lift
  obtain ⟨hero, hposition, rfl⟩ := applyStoryRecoveryBoundary_eq_ok hrecovered
  replace h := h.expect_of_some hboundary.runtime
  obtain ⟨completesAt, hminute, h⟩ := h.lift
  obtain rfl := completionMinute_eq_ok hminute
  replace h := h.lift_of_ok (okOr_eq_ok.mpr hboundary.snapshot)
  obtain ⟨⟨res, runtime, health⟩, hlong, h⟩ := h.lift
  obtain rfl : d = _ := h.snd_eq
  obtain ⟨rfl, -, -⟩ := takeLongRest_eq_ok (mapError_eq_ok.mp hlong)
  have hinterval : ∀ last ∈ live.books.longRest, last + 24 * 60 ≤ live.books.clock := by
    intro last hlast
    have hlast' : live.lastLongRestCompletedAtCampaignMinute = some last := hlast
    unfold longRestAvailable at hday
    rw [hlast'] at hday
    have : live.campaignTimeMinutes - last ≥ 24 * 60 := by simpa using hday
    show last + 24 * 60 ≤ live.campaignTimeMinutes
    omega
  generalize hexpired : expireEffectsForRest _ live _ = expired
  have hstate := congrArg (·.state) hexpired
  have htransition : expired.state.transition = s.transition := by
    rw [← hstate]
    unfold expireEffectsForRest
    dsimp only
    split <;> rfl
  obtain ⟨hitPoints, life, transition, hsame, hbooks⟩ := @applyRecoveryHealth_books expired.state health
  rw [htransition] at hsame
  refine ⟨live.books, rules.runtimeResources, hitPoints, life, transition,
    EncounterState.books_live_of hboundary.runtime, hidle, hinterval,
    EncounterState.books_pools_of hboundary.snapshot, hsame, ?_⟩
  show ({ expired.state.applyRecoveryHealth health with heroRules := _ } : EncounterState).books = _
  have hpools (x : EncounterState) (rules : EncounterHeroRulesProfile) :
      { x with heroRules := some rules }.books = { x.books with pools := some rules.runtimeResources } := rfl
  rw [hpools, hbooks, ← hexpired, expireEffectsForRest_books, EncounterState.books_hero hposition]
  rfl

end Rests

/-! ## Every intent -/

/-- **Whatever a resolver leaves behind, its accounts are those its intent posts.** -/
theorem resolveIntent_posts {s : EncounterState} {t : List (Nat × Nat)} {n : DeterministicNarration} {d : Draft}
    (hv : s.Valid) {intent : EncounterIntent} (h : Prog.Returns (resolveIntent (.of s) intent) t (n, d)) :
    s.books.Posts intent d.state.books := by
  cases intent with
  | startEncounter => exact resolveStart_posts hv h
  | move destination => exact resolveMove_posts hv h
  | attack attackId targetId => exact resolveAttack_posts hv h
  | contextAction actionId => exact resolveContextAction_posts h
  | castSpell spell targetId => exact resolveCastSpell_posts hv h
  | castLight objectId => exact resolveCastLight_posts hv h
  | castMageHand anchor => exact resolveCastMageHand_posts hv h
  | controlMageHand objectId => exact resolveControlMageHand_posts hv h
  | dismissMageHand => exact resolveDismissMageHand_posts hv h
  | castSleep => exact resolveCastSleep_posts hv h
  | castShield => exact resolveShieldReaction_posts hv h
  | declineReaction => exact resolveDeclineReaction_posts hv h
  | secondWind => exact resolveSecondWind_posts hv h
  | actionSurge => exact resolveActionSurge_posts hv h
  | beginShortRest => exact resolveBeginShortRest_posts hv h
  | spendHitDie => exact resolveSpendHitDie_posts hv h
  | useArcaneRecovery => exact resolveArcaneRecovery_posts hv h
  | finishShortRest => exact resolveFinishShortRest_posts hv h
  | takeLongRest => exact resolveLongRest_posts hv h
  | endTurn => exact resolveEndTurn_posts hv h
  | rollDeathSave => exact resolveDeathSave_posts hv h

end ManchesterArcana.Encounter
