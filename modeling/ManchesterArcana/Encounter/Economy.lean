import ManchesterArcana.Encounter.Outcome

/-!
# `Encounter.Economy` — one action a turn, one speed, one reaction

What a turn may spend is an account with a potential: the action that is left, the movement that is left, the
hero's reaction. A step never takes more out of it than is there, and only Action Surge puts an action back. So
the totals over a turn are bounded by what the turn started with.
-/

namespace ManchesterArcana.Encounter

open Effect Rules

/-- The intents that take the action of a turn. -/
def EncounterIntent.takesAction : EncounterIntent → Bool
  | .attack .. | .castSpell .. | .castLight _ | .castMageHand _ | .controlMageHand _ | .dismissMageHand
  | .castSleep => true
  | _ => false

/-! ## Accounts of a turn -/

namespace Books

variable {b b' : Books} {intent : EncounterIntent} {x : String}

/-- The actions left in the turn of `x`. -/
def actionsLeft (b : Books) (x : String) : Nat :=
  if b.turn = some x ∧ b.resources.any (·.actionAvailable) = true then 1 else 0

/-- The movement left in the turn of `x`. -/
def movementLeft (b : Books) (x : String) : Nat :=
  if b.turn = some x then (b.resources.map (·.movementRemainingFeet)).getD 0 else 0

/-- Uses of Action Surge left. -/
def surgesLeft (b : Books) : Nat := (b.pools.map fun pools => heldIn pools.actionSurge).getD 0

/-- The hero's reactions left. -/
def reactionsLeft (b : Books) : Nat := if b.reaction then 1 else 0

/-- Feet that both participants have moved. -/
def travelled (b b' : Books) : Nat :=
  distance b.heroPosition b'.heroPosition + distance b.creaturePosition b'.creaturePosition

theorem distance_self (a : Nat) : distance a a = 0 := by
  unfold distance absDiff
  omega

theorem actionsLeft_le (b : Books) (x : String) : b.actionsLeft x ≤ 1 := by
  unfold actionsLeft
  split <;> omega

/-- What happens to a turn that an entry does not spend from. -/
theorem Kept.actionsLeft (h : b.Kept b') : b'.actionsLeft x ≤ b.actionsLeft x := by
  unfold Books.actionsLeft
  rcases h.turn with ⟨hturn, hresources⟩ | hturn
  · rw [hturn, hresources]
  · rw [if_neg fun hc => by rw [hturn] at hc; cases hc.1]
    exact Nat.zero_le _

theorem Kept.movementLeft (h : b.Kept b') : b'.movementLeft x ≤ b.movementLeft x := by
  unfold Books.movementLeft
  rcases h.turn with ⟨hturn, hresources⟩ | hturn
  · rw [hturn, hresources]
  · rw [if_neg fun hc => by rw [hturn] at hc; cases hc]
    exact Nat.zero_le _

/-- Spending the action leaves none. -/
theorem SpendsAction.actionsLeft (h : b.SpendsAction b') (hturn : b.turn = some x) :
    b.actionsLeft x = 1 ∧ b'.actionsLeft x = 0 := by
  obtain ⟨r, hr, haction, rfl⟩ := h
  unfold Books.actionsLeft
  constructor
  · rw [if_pos ⟨hturn, by rw [hr]; exact haction⟩]
  · exact if_neg fun hc => Bool.false_ne_true hc.2

theorem Pays.spends {spell : SpellId} (h : b.Pays b' spell) (hturn : b.turn = some x) :
    b.actionsLeft x = 1 ∧ b'.actionsLeft x = 0 := by
  obtain ⟨-, r, pools, hr, haction, -, -, rfl⟩ := h
  unfold Books.actionsLeft
  constructor
  · rw [if_pos ⟨hturn, by rw [hr]; exact haction⟩]
  · exact if_neg fun hc => Bool.false_ne_true hc.2

/-- The turn of `x` is over when it passes. -/
theorem Passes.left (h : b.Passes b') (hturn : b.turn = some x) :
    b'.actionsLeft x = 0 ∧ b'.movementLeft x = 0 := by
  obtain ⟨actorId, resources, hother, -, rfl⟩ := h
  have hne : ¬ (b.takeTurn actorId resources).turn = some x := by
    intro hc
    have hactor : actorId = x := Option.some.inj hc
    exact hother (hactor ▸ hturn)
  unfold actionsLeft movementLeft
  exact ⟨if_neg fun hc => hne hc.1, if_neg hne⟩

/-- Resources of which the action is untouched. -/
theorem actionsLeft_congr (hturn : b'.turn = b.turn)
    (hr : b'.resources.any (·.actionAvailable) = b.resources.any (·.actionAvailable)) :
    b'.actionsLeft x = b.actionsLeft x := by
  unfold actionsLeft
  rw [hturn, hr]

theorem movementLeft_congr (hturn : b'.turn = b.turn)
    (hr : b'.resources.map (·.movementRemainingFeet) = b.resources.map (·.movementRemainingFeet)) :
    b'.movementLeft x = b.movementLeft x := by
  unfold movementLeft
  rw [hturn, hr]

/-- **Actions come out of the turn's budget, which only Action Surge adds to.** -/
theorem Posts.actions (h : b.Posts intent b') (hs : b.status = .active) (hturn : b.turn = some x)
    (hrest : intent.isRest = false) :
    (if intent.takesAction then 1 else 0) + b'.actionsLeft x ≤
      b.actionsLeft x + if intent = .actionSurge then 1 else 0 := by
  cases intent with
  | startEncounter => exact absurd (h.1.symm.trans hs) nofun
  | move destination =>
    obtain ⟨-, r, feet, position, hr, -, ⟨-, -, rfl⟩ | ⟨-, -, rfl⟩⟩ := h <;>
    · refine (Nat.zero_add _).trans_le (Nat.le_of_eq ?_)
      exact actionsLeft_congr rfl (by rw [hr]; rfl)
  | attack attackId targetId =>
    obtain ⟨-, spent, hspends, hresult⟩ := h
    obtain ⟨hone, hzero⟩ := hspends.actionsLeft hturn
    have hle : b'.actionsLeft x ≤ spent.actionsLeft x := by
      rcases hresult with rfl | ⟨live, p, -, -, -, rfl⟩ | hchange | hchange
      · exact Nat.le_refl _
      · exact Nat.le_of_eq rfl
      · exact hchange.kept.actionsLeft
      · exact hchange.kept.actionsLeft
    show 1 + _ ≤ _ + 0
    omega
  | contextAction actionId =>
    obtain ⟨-, r, hr, rfl⟩ := h
    refine (Nat.zero_add _).trans_le (Nat.le_of_eq ?_)
    exact actionsLeft_congr rfl (by rw [hr]; rfl)
  | castSpell spell targetId =>
    obtain ⟨-, paid, hpays, hresult⟩ := h
    obtain ⟨hone, hzero⟩ := hpays.spends hturn
    have hle : b'.actionsLeft x ≤ paid.actionsLeft x := by
      rcases hresult with rfl | hchange
      · exact Nat.le_refl _
      · exact hchange.kept.actionsLeft
    show 1 + _ ≤ _ + 0
    omega
  | castLight objectId | castMageHand anchor | castSleep =>
    obtain ⟨hone, hzero⟩ := h.2.spends hturn
    show 1 + _ ≤ _ + 0
    omega
  | controlMageHand objectId | dismissMageHand =>
    obtain ⟨hone, hzero⟩ := h.2.2.actionsLeft hturn
    show 1 + _ ≤ _ + 0
    omega
  | castShield =>
    obtain ⟨-, warded, ⟨live, pools, p, w, -, -, -, -, -, rfl⟩, rfl | ⟨struck, hchange, rfl | rfl⟩⟩ := h
    · exact (Nat.zero_add _).le
    · exact (Nat.zero_add _).trans_le hchange.kept.actionsLeft
    · exact (Nat.zero_add _).trans_le hchange.kept.actionsLeft
  | declineReaction =>
    obtain ⟨-, live, p, -, -, hchange⟩ := h
    exact (Nat.zero_add _).trans_le hchange.kept.actionsLeft
  | secondWind =>
    obtain ⟨-, -, r, pools, hitPoints, hr, -, -, rfl⟩ := h
    refine (Nat.zero_add _).trans_le (Nat.le_of_eq ?_)
    exact actionsLeft_congr rfl (by rw [hr]; rfl)
  | actionSurge =>
    have := b'.actionsLeft_le x
    show 0 + _ ≤ _ + 1
    omega
  | endTurn =>
    have := (h.2.left hturn).1
    show 0 + _ ≤ _ + 0
    omega
  | rollDeathSave =>
    obtain ⟨-, -, hchange | ⟨hitPoints, life, hpasses⟩⟩ := h
    · exact (Nat.zero_add _).trans_le hchange.kept.actionsLeft
    · have := (hpasses.left hturn).1
      show 0 + _ ≤ _ + 0
      omega
  | beginShortRest | spendHitDie | useArcaneRecovery | finishShortRest | takeLongRest => cases hrest

/-- **Movement comes out of what is left of the speed.** -/
theorem Posts.movement (h : b.Posts intent b') (hs : b.status = .active) (hturn : b.turn = some x)
    (hrest : intent.isRest = false) : b.travelled b' + b'.movementLeft x ≤ b.movementLeft x := by
  have hstill {c : Books} (hp : c.heroPosition = b.heroPosition) (hq : c.creaturePosition = b.creaturePosition)
      (hm : c.movementLeft x ≤ b.movementLeft x) : b.travelled c + c.movementLeft x ≤ b.movementLeft x := by
    unfold Books.travelled
    rw [hp, hq, distance_self, distance_self]
    omega
  cases intent with
  | startEncounter => exact absurd (h.1.symm.trans hs) nofun
  | move destination =>
    obtain ⟨-, r, feet, position, hr, hle, ⟨-, hfeet, rfl⟩ | ⟨-, hfeet, rfl⟩⟩ := h <;>
    · unfold Books.travelled Books.movementLeft
      dsimp only
      rw [if_pos hturn, if_pos hturn, hr, distance_self, ← hfeet]
      show _ + (r.movementRemainingFeet - feet) ≤ r.movementRemainingFeet
      omega
  | attack attackId targetId =>
    obtain ⟨-, spent, ⟨r, hr, -, rfl⟩, hresult⟩ := h
    have hspent : Books.movementLeft { b with resources := some { r with actionAvailable := false } } x =
        b.movementLeft x := movementLeft_congr rfl (by rw [hr]; rfl)
    rcases hresult with rfl | ⟨live, p, -, -, -, rfl⟩ | hchange | hchange
    · exact hstill rfl rfl hspent.le
    · exact hstill rfl rfl hspent.le
    · exact hstill hchange.kept.heroPosition hchange.kept.creaturePosition (hchange.kept.movementLeft.trans hspent.le)
    · exact hstill hchange.kept.heroPosition hchange.kept.creaturePosition (hchange.kept.movementLeft.trans hspent.le)
  | contextAction actionId =>
    obtain ⟨-, r, hr, rfl⟩ := h
    exact hstill rfl rfl (Nat.le_of_eq (movementLeft_congr rfl (by rw [hr]; rfl)))
  | castSpell spell targetId =>
    obtain ⟨-, paid, ⟨-, r, pools, hr, -, -, -, rfl⟩, hresult⟩ := h
    have hpaid : Books.movementLeft { b with
        resources := some { r with actionAvailable := false }, pools := some (pools.payFor spell) } x =
        b.movementLeft x := movementLeft_congr rfl (by rw [hr]; rfl)
    rcases hresult with rfl | hchange
    · exact hstill rfl rfl hpaid.le
    · exact hstill hchange.kept.heroPosition hchange.kept.creaturePosition (hchange.kept.movementLeft.trans hpaid.le)
  | castLight objectId | castMageHand anchor | castSleep =>
    obtain ⟨-, -, r, pools, hr, -, -, -, rfl⟩ := h
    exact hstill rfl rfl (Nat.le_of_eq (movementLeft_congr rfl (by rw [hr]; rfl)))
  | controlMageHand objectId | dismissMageHand =>
    obtain ⟨-, -, r, hr, -, rfl⟩ := h
    exact hstill rfl rfl (Nat.le_of_eq (movementLeft_congr rfl (by rw [hr]; rfl)))
  | castShield =>
    obtain ⟨-, warded, ⟨live, pools, p, w, -, -, -, -, -, rfl⟩, rfl | ⟨struck, hchange, rfl | rfl⟩⟩ := h
    · exact hstill rfl rfl (Nat.le_refl _)
    · exact hstill hchange.kept.heroPosition hchange.kept.creaturePosition hchange.kept.movementLeft
    · exact hstill hchange.kept.heroPosition hchange.kept.creaturePosition hchange.kept.movementLeft
  | declineReaction =>
    obtain ⟨-, live, p, -, -, hchange⟩ := h
    exact hstill hchange.kept.heroPosition hchange.kept.creaturePosition hchange.kept.movementLeft
  | secondWind =>
    obtain ⟨-, -, r, pools, hitPoints, hr, -, -, rfl⟩ := h
    exact hstill rfl rfl (Nat.le_of_eq (movementLeft_congr rfl (by rw [hr]; rfl)))
  | actionSurge =>
    obtain ⟨-, -, r, pools, hr, -, -, -, rfl⟩ := h
    exact hstill rfl rfl (Nat.le_of_eq (movementLeft_congr rfl (by rw [hr]; rfl)))
  | endTurn =>
    have hleft := (h.2.left hturn).2
    obtain ⟨-, actorId, resources, -, -, rfl⟩ := h
    exact hstill rfl rfl (hleft.le.trans (Nat.zero_le _))
  | rollDeathSave =>
    obtain ⟨-, -, hchange | ⟨hitPoints, life, hpasses⟩⟩ := h
    · exact hstill hchange.kept.heroPosition hchange.kept.creaturePosition hchange.kept.movementLeft
    · have hleft := (hpasses.left hturn).2
      obtain ⟨actorId, resources, -, -, rfl⟩ := hpasses
      exact hstill rfl rfl (hleft.le.trans (Nat.zero_le _))
  | beginShortRest | spendHitDie | useArcaneRecovery | finishShortRest | takeLongRest => cases hrest

/-- **Action Surge comes out of its pool, and nothing refills that before a rest.** -/
theorem Posts.surges (h : b.Posts intent b') (hrest : intent.isRest = false) :
    (if intent = .actionSurge then 1 else 0) + b'.surgesLeft ≤ b.surgesLeft := by
  have hsame {c : Books} (hp : c.pools = b.pools) : 0 + c.surgesLeft ≤ b.surgesLeft := by
    unfold surgesLeft
    rw [hp, Nat.zero_add]
  have hslots {pools : RuntimeResources} {c : Books} {spell : SpellId} (hb : b.pools = some pools)
      (hp : c.pools = some (pools.payFor spell)) : 0 + c.surgesLeft ≤ b.surgesLeft := by
    unfold surgesLeft RuntimeResources.payFor at *
    rw [hp, hb, Nat.zero_add]
    split <;> exact Nat.le_refl _
  cases intent with
  | startEncounter =>
    obtain ⟨-, actorId, resources, rfl⟩ := h
    exact hsame rfl
  | move destination =>
    obtain ⟨-, r, feet, position, -, -, ⟨-, -, rfl⟩ | ⟨-, -, rfl⟩⟩ := h <;> exact hsame rfl
  | attack attackId targetId =>
    obtain ⟨-, spent, ⟨r, -, -, rfl⟩, rfl | ⟨live, p, -, -, -, rfl⟩ | hchange | hchange⟩ := h
    · exact hsame rfl
    · exact hsame rfl
    · exact hsame hchange.kept.pools
    · exact hsame hchange.kept.pools
  | contextAction actionId =>
    obtain ⟨-, r, -, rfl⟩ := h
    exact hsame rfl
  | castSpell spell targetId =>
    obtain ⟨-, paid, ⟨-, r, pools, -, -, hpools, -, rfl⟩, rfl | hchange⟩ := h
    · exact hslots hpools rfl
    · exact hslots hpools hchange.kept.pools
  | castLight objectId | castMageHand anchor | castSleep =>
    obtain ⟨-, -, r, pools, -, -, hpools, -, rfl⟩ := h
    exact hslots hpools rfl
  | controlMageHand objectId | dismissMageHand =>
    obtain ⟨-, -, r, -, -, rfl⟩ := h
    exact hsame rfl
  | castShield =>
    obtain ⟨-, warded, ⟨live, pools, p, w, -, -, -, hpools, -, rfl⟩, rfl | ⟨struck, hchange, rfl | rfl⟩⟩ := h
    · exact @hslots _ _ .shield hpools rfl
    · exact @hslots _ _ .shield hpools hchange.kept.pools
    · exact @hslots _ _ .shield hpools hchange.kept.pools
  | declineReaction =>
    obtain ⟨-, live, p, -, -, hchange⟩ := h
    exact hsame hchange.kept.pools
  | secondWind =>
    obtain ⟨-, -, r, pools, hitPoints, -, hpools, -, rfl⟩ := h
    unfold surgesLeft
    rw [hpools]
    exact (Nat.zero_add _).le
  | actionSurge =>
    obtain ⟨-, -, r, pools, -, -, hpools, hpos, rfl⟩ := h
    unfold surgesLeft
    rw [hpools]
    show 1 + heldIn (pools.actionSurge.map .draw) ≤ heldIn pools.actionSurge
    rw [heldIn_draw]
    omega
  | endTurn =>
    obtain ⟨-, actorId, resources, -, -, rfl⟩ := h
    exact hsame rfl
  | rollDeathSave =>
    obtain ⟨-, -, hchange | ⟨hitPoints, life, actorId, resources, -, -, rfl⟩⟩ := h
    · exact hsame hchange.kept.pools
    · exact hsame rfl
  | beginShortRest | spendHitDie | useArcaneRecovery | finishShortRest | takeLongRest => cases hrest

/-- The hero's turn begins. -/
def StartsHeroTurn (b b' : Books) : Prop :=
  b.turn ≠ some canalWardenId ∧ b'.turn = some canalWardenId

theorem reactionsLeft_congr (h : b'.reaction = b.reaction) : 0 + b'.reactionsLeft ≤ b.reactionsLeft := by
  unfold reactionsLeft
  rw [h, Nat.zero_add]

theorem Kept.reaction (h : b.Kept b') : b'.reaction = b.reaction := by
  unfold Books.reaction
  rw [h.live]

theorem takeTurn_reaction {actorId : String} {resources : TurnResources} (h : actorId ≠ canalWardenId) :
    (b.takeTurn actorId resources).reaction = b.reaction := by
  unfold reaction takeTurn
  rw [if_neg h]

/-- **A Shield takes the reaction, and only the start of the hero's turn brings it back.** -/
theorem Posts.reactions (h : b.Posts intent b') (hready : b.status = .ready → b.turn = none)
    (hstart : ¬ b.StartsHeroTurn b') :
    (if intent = .castShield then 1 else 0) + b'.reactionsLeft ≤ b.reactionsLeft := by
  cases intent with
  | startEncounter =>
    obtain ⟨hs, actorId, resources, rfl⟩ := h
    refine reactionsLeft_congr (takeTurn_reaction ?_)
    rintro rfl
    exact hstart ⟨by rw [hready hs]; exact nofun, rfl⟩
  | move destination =>
    obtain ⟨-, r, feet, position, -, -, ⟨-, -, rfl⟩ | ⟨-, -, rfl⟩⟩ := h <;> exact reactionsLeft_congr rfl
  | attack attackId targetId =>
    obtain ⟨-, spent, ⟨r, -, -, rfl⟩, rfl | ⟨live, p, hlive, -, -, rfl⟩ | hchange | hchange⟩ := h
    · exact reactionsLeft_congr rfl
    · refine reactionsLeft_congr ?_
      have hlive' : b.live = some live := hlive
      unfold Books.reaction
      rw [hlive']
      rfl
    · exact reactionsLeft_congr hchange.kept.reaction
    · exact reactionsLeft_congr hchange.kept.reaction
  | contextAction actionId =>
    obtain ⟨-, r, -, rfl⟩ := h
    exact reactionsLeft_congr rfl
  | castSpell spell targetId =>
    obtain ⟨-, paid, ⟨-, r, pools, -, -, -, -, rfl⟩, rfl | hchange⟩ := h
    · exact reactionsLeft_congr rfl
    · exact reactionsLeft_congr hchange.kept.reaction
  | castLight objectId | castMageHand anchor | castSleep =>
    obtain ⟨-, -, r, pools, -, -, -, -, rfl⟩ := h
    exact reactionsLeft_congr rfl
  | controlMageHand objectId | dismissMageHand =>
    obtain ⟨-, -, r, -, -, rfl⟩ := h
    exact reactionsLeft_congr rfl
  | castShield =>
    obtain ⟨-, warded, ⟨live, pools, p, w, hlive, -, hreaction, -, -, rfl⟩, hresult⟩ := h
    have hone : b.reactionsLeft = 1 := by
      unfold reactionsLeft Books.reaction
      rw [hlive]
      exact if_pos hreaction
    have hzero : b'.reaction = false := by
      rcases hresult with rfl | ⟨struck, hchange, rfl | rfl⟩
      · rfl
      · exact hchange.kept.reaction
      · refine Eq.trans ?_ hchange.kept.reaction
        unfold Books.reaction dropWard
        cases struck.live <;> rfl
    unfold reactionsLeft at hone ⊢
    rw [hzero, hone]
    exact Nat.le_refl 1
  | declineReaction =>
    obtain ⟨-, live, p, hlive, -, hchange⟩ := h
    refine reactionsLeft_congr (hchange.kept.reaction.trans ?_)
    unfold Books.reaction
    rw [hlive]
    rfl
  | secondWind =>
    obtain ⟨-, -, r, pools, hitPoints, -, -, -, rfl⟩ := h
    exact reactionsLeft_congr rfl
  | actionSurge =>
    obtain ⟨-, -, r, pools, -, -, -, -, rfl⟩ := h
    exact reactionsLeft_congr rfl
  | beginShortRest =>
    obtain ⟨live, pools, hitPoints, life, rest, hlive, -, -, rfl⟩ := h
    refine reactionsLeft_congr ?_
    unfold Books.reaction
    rw [hlive]
    rfl
  | spendHitDie =>
    obtain ⟨live, pools, hitPoints, life, transition, rest, rest', hlive, -, -, -, -, rfl⟩ := h
    refine reactionsLeft_congr ?_
    unfold Books.reaction
    rw [hlive]
    rfl
  | useArcaneRecovery =>
    obtain ⟨live, pools, rest, rest', hlive, -, -, -, -, rfl⟩ := h
    refine reactionsLeft_congr ?_
    unfold Books.reaction
    rw [hlive]
    rfl
  | finishShortRest =>
    obtain ⟨live, pools, hitPoints, life, transition, rest, hlive, -, -, -, rfl⟩ := h
    refine reactionsLeft_congr ?_
    unfold Books.reaction
    rw [hlive]
    rfl
  | takeLongRest =>
    obtain ⟨live, pools, hitPoints, life, transition, hlive, -, -, -, -, rfl⟩ := h
    refine reactionsLeft_congr ?_
    unfold Books.reaction
    rw [hlive]
    rfl
  | endTurn =>
    obtain ⟨-, actorId, resources, hother, -, rfl⟩ := h
    refine reactionsLeft_congr (takeTurn_reaction ?_)
    rintro rfl
    exact hstart ⟨hother, rfl⟩
  | rollDeathSave =>
    obtain ⟨-, -, hchange | ⟨hitPoints, life, actorId, resources, hother, -, rfl⟩⟩ := h
    · exact reactionsLeft_congr hchange.kept.reaction
    · refine reactionsLeft_congr (takeTurn_reaction ?_)
      rintro rfl
      exact hstart ⟨hother, rfl⟩

end Books

/-! ## Turns of a history -/

/-- A step of the turn of `actorId`; the last one may end it. -/
def TurnStep (actorId : String) (s : EncounterState) (a : Turned) (s' : EncounterState) : Prop :=
  EncounterStep s a s' ∧ s.currentActorId = some actorId

/-- A step with which no turn of the hero begins. -/
def BetweenHeroTurns (s : EncounterState) (a : Turned) (s' : EncounterState) : Prop :=
  EncounterStep s a s' ∧ ¬ (s.currentActorId ≠ some canalWardenId ∧ s'.currentActorId = some canalWardenId)

/-- Steps that take an action. -/
def actionsTaken (as : List Turned) : Nat := as.countP (·.1.intent.takesAction)

/-- Steps that resolve the intent. -/
def timesResolved (intent : EncounterIntent) (as : List Turned) : Nat :=
  as.countP fun a => decide (a.1.intent = intent)

/-- Feet moved in a step. -/
def feetMoved (s s' : EncounterState) : Nat := s.books.travelled s'.books

/-- A count is a sum of ones. -/
theorem countP_eq_sum {α : Type} (p : α → Bool) (as : List α) :
    as.countP p = (as.map fun a => if p a then 1 else 0).sum := by
  induction as with
  | nil => rfl
  | cons a as ih =>
    rw [List.countP_cons, List.map_cons, List.sum_cons, ih, Nat.add_comm]

section Turns

variable {s s' : EncounterState} {a : Turned} {x : String} {as : List Turned}

/-- Whoever has the turn has it in an active encounter. -/
theorem EncounterState.Valid.active_of_turn (hv : s.Valid) (hturn : s.currentActorId = some x) :
    s.status = .active := by
  have hphase := hv.phase
  unfold EncounterState.PhaseValid at hphase
  cases hs : s.status <;> rw [hs] at hphase
  case ready => rw [hphase.actorId] at hturn; cases hturn
  case victory =>
    obtain ⟨t, -, hvictory⟩ := hphase
    rw [hvictory.actorId] at hturn
    cases hturn
  case defeat =>
    obtain ⟨t, -, hdefeat⟩ := hphase
    rw [hdefeat.actorId] at hturn
    cases hturn

theorem TurnStep.active (h : TurnStep x s a s') : s.status = .active := h.1.valid.active_of_turn h.2

/-- No rest is taken in a turn. -/
theorem TurnStep.noRest (h : TurnStep x s a s') : a.1.intent.isRest = false := by
  cases hr : a.1.intent.isRest with
  | false => rfl
  | true =>
    have hover := EncounterStep.over_iff.mp (h.1.rest_over hr)
    rcases hover with ho | ho <;> exact absurd (ho.symm.trans h.active) nofun

/-- **The actions of a turn.** -/
theorem turn_actions (h : Run (TurnStep x) s as s') :
    actionsTaken as ≤ 1 + timesResolved .actionSurge as := by
  have hrun := @Run.budget _ _ (TurnStep x) (fun a => if a.1.intent.takesAction then 1 else 0)
    (fun a => if decide (a.1.intent = .actionSurge) then 1 else 0) (fun s => s.books.actionsLeft x)
    (fun s a s' hstep => by
      have := hstep.1.posts.actions hstep.active hstep.2 hstep.noRest
      simpa only [decide_eq_true_eq] using this) s s' as h
  have hle := s.books.actionsLeft_le x
  unfold actionsTaken timesResolved
  rw [countP_eq_sum, countP_eq_sum]
  omega

/-- A valid hero has at most one use of Action Surge. -/
theorem EncounterState.Valid.surgesLeft_le (hv : s.Valid) : s.books.surgesLeft ≤ 1 := by
  unfold Books.surgesLeft
  cases hrules : s.heroRules with
  | none =>
    have : s.books.pools = none := by
      show s.heroRules.map _ = none
      rw [hrules]
      rfl
    rw [this]
    exact Nat.zero_le 1
  | some rules =>
    rw [EncounterState.books_pools_of hrules]
    have hpools := (hv.rules rules hrules).rules.resources.actionSurge
    show heldIn rules.runtimeResources.actionSurge ≤ 1
    unfold RuntimeResources.new at hpools
    cases hsurge : rules.runtimeResources.actionSurge with
    | none => exact Nat.zero_le 1
    | some pool =>
      rw [hsurge] at hpools
      have hone : pool.maximum = 1 ∧ pool.current ≤ pool.maximum := by
        cases hc : rules.runtimeResources.heroClass <;> cases hl : rules.runtimeResources.level <;>
          simp only [hc, hl] at hpools <;> first | exact hpools.elim | exact ⟨hpools.2.1, hpools.2.2⟩
      show pool.current ≤ 1
      omega

/-- **Action Surge is used once in a turn at most, and by the hero alone.** -/
theorem turn_surges (h : Run (TurnStep x) s as s') (hv : s.Valid) :
    timesResolved .actionSurge as ≤ if x = canalWardenId then 1 else 0 := by
  have hrun := @Run.budget _ _ (TurnStep x) (fun a => if decide (a.1.intent = .actionSurge) then 1 else 0)
    (fun _ => 0) (fun s => s.books.surgesLeft)
    (fun s a s' hstep => by
      have := hstep.1.posts.surges hstep.noRest
      simpa only [decide_eq_true_eq, Nat.add_zero] using this) s s' as h
  have hzero : (as.map fun _ => 0).sum = 0 := by simp
  have hle := hv.surgesLeft_le
  unfold timesResolved
  by_cases hx : x = canalWardenId
  · rw [if_pos hx, countP_eq_sum]
    omega
  · rw [if_neg hx, Nat.le_zero, List.countP_eq_zero]
    intro a ha hsurge
    -- a surge is the hero's, whose turn it is not
    have hnone : ∀ s as s', Run (TurnStep x) s as s' → ∀ a ∈ as, a.1.intent ≠ .actionSurge := by
      intro s as s' h
      induction h with
      | nil s => exact nofun
      | @cons s s₁ s₂ a as hstep _ ih =>
        refine List.forall_mem_cons.mpr ⟨fun heq => ?_, ih⟩
        have hposts := hstep.1.posts
        rw [heq] at hposts
        exact hx (Option.mem_unique hstep.2 hposts.2.1)
    exact hnone s as s' h a ha (of_decide_eq_true hsurge)

/-- **The movement of a turn.** -/
theorem turn_movement {n : Nat} (h : Tally (TurnStep x) feetMoved s as n s') (hv : s.Valid)
    {actor : CombatantState} (hactor : s.currentActor = some actor) : n ≤ actor.speedFeet := by
  have htotal := @Tally.total_le _ _ (TurnStep x) feetMoved (fun s => s.books.movementLeft x)
    (fun s a s' hstep => hstep.1.posts.movement hstep.active hstep.2 hstep.noRest) s s' as n h
  have hleft : s.books.movementLeft x ≤ actor.speedFeet := by
    unfold Books.movementLeft
    split
    case isTrue hturn =>
      obtain ⟨actor', hactor', r, hr, hmove, -⟩ := (hv.active (hv.active_of_turn hturn)).actor
      obtain rfl : actor' = actor := Option.mem_unique hactor' hactor
      have hr' : s.books.resources = some r := hr
      rw [hr']
      exact hmove
    case isFalse => exact Nat.zero_le _
  omega

/-- **One Shield between two turns of the hero.** -/
theorem one_shield (h : Run BetweenHeroTurns s as s') : timesResolved .castShield as ≤ 1 := by
  have hrun := @Run.budget _ _ BetweenHeroTurns (fun a => if decide (a.1.intent = .castShield) then 1 else 0)
    (fun _ => 0) (fun s => s.books.reactionsLeft)
    (fun s a s' hstep => by
      have hready : s.books.status = .ready → s.books.turn = none := by
        intro hs
        have hphase := hstep.1.valid.phase
        unfold EncounterState.PhaseValid at hphase
        rw [show s.status = .ready from hs] at hphase
        exact hphase.actorId
      have := hstep.1.posts.reactions hready hstep.2
      simpa only [decide_eq_true_eq, Nat.add_zero] using this) s s' as h
  have hzero : (as.map fun _ => 0).sum = 0 := by simp
  have hle : s.books.reactionsLeft ≤ 1 := by
    unfold Books.reactionsLeft
    split <;> omega
  unfold timesResolved
  rw [countP_eq_sum]
  omega

/-- **A ward is up in the creature's turn alone.** -/
theorem EncounterState.Valid.ward_turn (hv : s.Valid) {w : ShieldWardState} (hw : s.books.ward = some w) :
    s.currentActorId = some sootWightId := by
  cases hlive : s.liveQ04 with
  | none =>
    unfold Books.ward EncounterState.books at hw
    rw [hlive] at hw
    cases hw
  | some live =>
    obtain ⟨live', hlive', hvalid⟩ := hv.live (by
      by_contra h3
      rw [hv.noLive h3] at hlive
      cases hlive)
    obtain rfl : live = live' := Option.mem_unique hlive hlive'
    have hup : live.shieldWard = some w := by
      unfold Books.ward at hw
      rw [EncounterState.books_live_of hlive] at hw
      exact hw
    exact (hvalid.ward w hup).turn

end Turns

/-- **The economy of a history.** In a turn at most one action is taken, and one more for every Action Surge,
    which only the hero has and at most once; nobody moves further than their speed; between two starts of
    the hero's turn at most one Shield is cast; and no ward is left when the hero's turn has started. -/
theorem encounter_economy {s : EncounterState} (hs : Reachable s) :
    (∀ x as s', Run (TurnStep x) s as s' →
      actionsTaken as ≤ 1 + timesResolved .actionSurge as ∧
        timesResolved .actionSurge as ≤ if x = canalWardenId then 1 else 0) ∧
    (∀ x actor as n s', s.currentActor = some actor → Tally (TurnStep x) feetMoved s as n s' →
      n ≤ actor.speedFeet) ∧
    (∀ as s', Run BetweenHeroTurns s as s' → timesResolved .castShield as ≤ 1) ∧
    (s.currentActorId = some canalWardenId → s.books.ward = none) := by
  refine ⟨?actions, ?movement, ?shield, ?ward⟩
  case actions =>
    intro x as s' hrun
    exact ⟨turn_actions hrun, turn_surges hrun hs.valid⟩
  case movement =>
    intro x actor as n s' hactor htally
    exact turn_movement htally hs.valid hactor
  case shield =>
    intro as s' hrun
    exact one_shield hrun
  case ward =>
    intro hturn
    cases hw : s.books.ward with
    | none => rfl
    | some w =>
      have := hs.valid.ward_turn hw
      rw [hturn] at this
      exact absurd (Option.some.inj this) canalWardenId_ne_sootWightId

/-- The law at the history of the wounded victor, up to the creature's first blow. -/
theorem encounter_economy_woundedVictory : ∃ s, Run EncounterStep fighterEncounter (woundedVictory.take 2) s ∧
    ∀ x as s', Run (TurnStep x) s as s' →
      actionsTaken as ≤ 1 + timesResolved .actionSurge as ∧
        timesResolved .actionSurge as ≤ if x = canalWardenId then 1 else 0 := by
  obtain ⟨s, hs⟩ := replayHistory_take woundedVictory_replays 2
  have hrun := run_of_replay hs
  exact ⟨s, hrun, (encounter_economy ⟨_, _, fighterEncounter_new, hrun⟩).1⟩

end ManchesterArcana.Encounter
