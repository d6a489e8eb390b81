import ManchesterArcana.Rules.Spells

/-!
# `Rules.Spending` — what the rules take out of the pools, and what they put back

Each feature, spell and rest of the matrix, read off as a change of the pools and of the action economy. The
callers' bookkeeping rests on these laws alone.
-/

namespace ManchesterArcana.Rules

open Effect

/-! ## Drawing from a pool -/

namespace ResourceCounter

/-- The pool with one unit less. -/
def draw (c : ResourceCounter) : ResourceCounter := { c with current := c.current - 1 }

/-- The pool with one unit more. -/
def refill (c : ResourceCounter) : ResourceCounter := { c with current := c.current + 1 }

@[simp] theorem draw_current (c : ResourceCounter) : c.draw.current = c.current - 1 := rfl
@[simp] theorem refill_current (c : ResourceCounter) : c.refill.current = c.current + 1 := rfl
@[simp] theorem restoreAll_current (c : ResourceCounter) : c.restoreAll.current = c.maximum := rfl

theorem spend_eq_ok {c c' : ResourceCounter} : c.spend = .ok c' → 0 < c.current ∧ c' = c.draw := by
  intro h
  simp only [spend, seq_eq_ok, rejectIf_eq_ok, pure_eq, Except.ok.injEq] at h
  obtain ⟨-, hne, rfl⟩ := h
  exact ⟨Nat.pos_of_ne_zero hne, rfl⟩

end ResourceCounter

/-- How much a pool that may be absent holds. -/
def heldIn (pool : Option ResourceCounter) : Nat := (pool.map (·.current)).getD 0

@[simp] theorem heldIn_none : heldIn none = 0 := rfl
@[simp] theorem heldIn_some (c : ResourceCounter) : heldIn (some c) = c.current := rfl

variable {r r' : RuntimeResources} {e e' : ActionEconomy} {t : List (Nat × Nat)} {health health' : HealthState}
  {pool : Option ResourceCounter} {conditions : ConditionSet}

theorem heldIn_draw : heldIn (pool.map .draw) = heldIn pool - 1 := by
  cases pool <;> rfl

theorem heldIn_refill (h : pool ≠ none) :
    heldIn (pool.map .refill) = heldIn pool + 1 := by
  cases pool with
  | none => exact absurd rfl h
  | some c => rfl

theorem ne_none_of_heldIn (h : 0 < heldIn pool) : pool ≠ none := by
  rintro rfl
  exact absurd h (Nat.lt_irrefl 0)

namespace RuntimeResources

/-- One level-one slot less. -/
def drawSlot (r : RuntimeResources) : RuntimeResources :=
  { r with levelOneSpellSlots := r.levelOneSpellSlots.map .draw }

/-- What finishing a short rest restores. -/
def afterShortRest (r : RuntimeResources) : RuntimeResources :=
  { r with
    secondWind := r.secondWind.map .restoreAll
    actionSurge := r.actionSurge.map .restoreAll }

/-- What one use of Arcane Recovery does. -/
def recoverSlot (r : RuntimeResources) : RuntimeResources :=
  { r with
    arcaneRecovery := r.arcaneRecovery.map .draw
    levelOneSpellSlots := r.levelOneSpellSlots.map .refill }

/-- Hit dice that a long rest gives back: at most half of them, but at least one. -/
def hitDiceRegained (r : RuntimeResources) : Nat :=
  min (r.hitDice.maximum - r.hitDice.current) (max (r.hitDice.maximum / 2) 1)

/-- What a long rest restores. -/
def afterLongRest (r : RuntimeResources) : RuntimeResources :=
  { r.restorePools with hitDice := { r.hitDice with current := r.hitDice.current + r.hitDiceRegained } }

variable {r : RuntimeResources}

theorem spendSpellSlot_eq_ok {r' : RuntimeResources} (h : r.spendSpellSlot = .ok r') :
    0 < heldIn r.levelOneSpellSlots ∧ r' = r.drawSlot := by
  simp only [spendSpellSlot, bind_eq_ok, okOr_eq_ok, pure_eq, Except.ok.injEq] at h
  obtain ⟨slots, hslots, spent, hspent, rfl⟩ := h
  obtain ⟨hpos, rfl⟩ := ResourceCounter.spend_eq_ok hspent
  unfold drawSlot
  rw [hslots]
  exact ⟨hpos, rfl⟩

/-- Wizards have neither Second Wind nor Action Surge, so a short rest restores nothing of theirs. -/
theorem Valid.afterShortRest_wizard (hv : r.Valid) (hw : r.heroClass = .wizard) :
    r.afterShortRest = r := by
  have hwind := hv.secondWind
  have hsurge := hv.actionSurge
  rw [hw] at hwind hsurge
  have hnoWind : r.secondWind = none := by
    cases h : r.secondWind with
    | none => rfl
    | some c => rw [h] at hwind; exact hwind.elim
  have hnoSurge : r.actionSurge = none := by
    cases h : r.actionSurge with
    | none => rfl
    | some c => rw [h] at hsurge; exact hsurge.elim
  obtain ⟨schema, heroClass, level, dice, wind, surge, slots, recovery⟩ := r
  obtain rfl : wind = none := hnoWind
  obtain rfl : surge = none := hnoSurge
  rfl

/-- Only wizards have Arcane Recovery. -/
theorem Valid.wizard_of_recovery (hv : r.Valid) (h : r.arcaneRecovery ≠ none) :
    r.heroClass = .wizard := by
  have hshape := hv.arcaneRecovery
  cases hc : r.heroClass with
  | wizard => rfl
  | fighter =>
    rw [hc] at hshape
    cases har : r.arcaneRecovery with
    | none => exact absurd har h
    | some c => rw [har] at hshape; exact hshape.elim

end RuntimeResources

/-! ## The economy of a turn -/

theorem ActionEconomy.spend_eq_ok {resource : TurnResource} :
    e.spend resource = .ok e' ↔ e.available resource = true ∧ e' = e.withoutResource resource := by
  simp only [ActionEconomy.spend, seq_eq_ok, rejectIf_eq_ok, pure_eq, Except.ok.injEq, Bool.not_eq_false,
    eq_comm (a := e')]

/-! ## Spells -/

namespace RuntimeResources

/-- The pools after a spell: a level-one spell takes a slot. -/
def payFor (r : RuntimeResources) (spell : SpellId) : RuntimeResources :=
  if spell.level = 1 then r.drawSlot else r

/-- The pools hold what the spell takes. -/
def Affords (r : RuntimeResources) (spell : SpellId) : Prop :=
  spell.level = 1 → 0 < heldIn r.levelOneSpellSlots

end RuntimeResources

theorem spendSpellActionAndSlot_eq_ok {spell : SpellId}
    (h : spendSpellActionAndSlot spell r e = .ok (r', e')) :
    r.Affords spell ∧ r' = r.payFor spell ∧
      e.available (if spell = .shield then .reaction else .action) = true ∧
      e' = e.withoutResource (if spell = .shield then .reaction else .action) := by
  simp only [spendSpellActionAndSlot, bind_eq_ok, mapError_eq_ok, ActionEconomy.spend_eq_ok] at h
  obtain ⟨spent, ⟨havail, rfl⟩, h⟩ := h
  unfold RuntimeResources.Affords RuntimeResources.payFor
  by_cases h1 : spell.level = 1
  · rw [if_pos h1, bind_eq_ok] at h
    obtain ⟨charged, hslot, heq⟩ := h
    obtain ⟨rfl, rfl⟩ := Prod.mk.inj (Except.ok.inj heq)
    obtain ⟨hpos, rfl⟩ := RuntimeResources.spendSpellSlot_eq_ok hslot
    rw [if_pos h1]
    exact ⟨fun _ => hpos, rfl, havail, rfl⟩
  · rw [if_neg h1] at h
    obtain ⟨rfl, rfl⟩ := Prod.mk.inj (Except.ok.inj h)
    rw [if_neg h1]
    exact ⟨fun h => absurd h h1, rfl, havail, rfl⟩

variable {sc : SpellcastingState} {components : SpellComponentAccess} {intent : SupportedSpellIntent}
  {modifier : Int8} {resolution : RestResolution}

/-- **A spell that was cast was checked, paid for and rolled.** -/
theorem resolveSupportedSpell_returns {resolution : SpellCastResolution}
    (h : Prog.Returns (resolveSupportedSpell sc r e conditions components intent) t (resolution, r', e')) :
    ∃ effects, checkSpell sc r conditions components intent = .ok effects ∧
      spendSpellActionAndSlot intent.spell r e = .ok (r', e') ∧
      Prog.Returns (rollSpell sc effects intent) t resolution.toSpellRolls := by
  obtain ⟨effects, hcheck, h⟩ := h.lift
  obtain ⟨⟨r₁, e₁⟩, hspend, h⟩ := h.lift
  obtain ⟨t₁, t₂, rolls, rfl, hrolls, h⟩ := h.bind
  obtain ⟨u, -, h⟩ := h.lift
  obtain ⟨rfl, heq⟩ := h.of_ok
  obtain ⟨rfl, hpair⟩ := Prod.mk.inj heq
  obtain ⟨rfl, rfl⟩ := Prod.mk.inj hpair
  rw [List.append_nil]
  exact ⟨effects, leaving_eq_ok.mp hcheck, leaving_eq_ok.mp hspend, hrolls.of_mapErr⟩

/-- What was checked of a spell holds of its intent. -/
theorem checkSpell_intent {effects : ConditionEffects}
    (h : checkSpell sc r conditions components intent = .ok effects) : intent.validate = .ok () := by
  simp only [checkSpell, seq_eq_ok] at h
  exact h.2.2.2.1

/-! ## The spectral hand -/

theorem resolveMageHandAction_economy {hand hand' : Option MageHandState} {intent : MageHandActionIntent}
    {resolution : MageHandActionResolution}
    (h : resolveMageHandAction hand e conditions intent = .ok (resolution, hand', e')) :
    e.available .action = true ∧ e' = e.withoutResource .action := by
  simp only [resolveMageHandAction, bind_eq_ok, leaving_eq_ok, mapError_eq_ok, ActionEconomy.spend_eq_ok] at h
  obtain ⟨current, -, _, -, _, -, effects, -, _, -, spent, ⟨havail, rfl⟩, acted, -, heq⟩ := h
  obtain ⟨-, hpair⟩ := Prod.mk.inj (Except.ok.inj heq)
  exact ⟨havail, (Prod.mk.inj hpair).2.symm⟩

/-! ## Features of the fighter -/

/-- **Second Wind takes the bonus action and one use of its pool.** -/
theorem useSecondWind_returns {resolution : SecondWindResolution}
    (h : Prog.Returns (useSecondWind r e health) t (resolution, r', e', health')) :
    0 < heldIn r.secondWind ∧ r' = { r with secondWind := r.secondWind.map .draw } ∧
      e' = e.withoutResource .bonusAction := by
  obtain ⟨_, -, h⟩ := h.lift
  obtain ⟨_, -, h⟩ := h.lift
  obtain ⟨-, h⟩ := h.reject
  obtain ⟨-, h⟩ := h.reject
  obtain ⟨-, h⟩ := h.reject
  obtain ⟨t₁, t₂, face, rfl, -, h⟩ := h.bind
  obtain ⟨pool, hpool, h⟩ := h.expect
  obtain ⟨spent, hspent, h⟩ := h.lift
  obtain ⟨healed, -, h⟩ := h.lift
  obtain ⟨economy, heconomy, h⟩ := h.lift
  obtain ⟨rfl, heq⟩ := h.of_ok
  simp only [Prod.mk.injEq] at heq
  obtain ⟨-, rfl, rfl, -⟩ := heq
  obtain ⟨hpos, rfl⟩ := ResourceCounter.spend_eq_ok (leaving_eq_ok.mp hspent)
  obtain ⟨-, rfl⟩ := ActionEconomy.spend_eq_ok.mp (mapError_eq_ok.mp (leaving_eq_ok.mp heconomy))
  rw [hpool]
  exact ⟨hpos, rfl, rfl⟩

/-- **Action Surge takes one use of its pool and gives a spent action back.** -/
theorem useActionSurge_eq_ok {u : Unit}
    (h : useActionSurge r e = .ok (u, r', e')) :
    0 < heldIn r.actionSurge ∧ r' = { r with actionSurge := r.actionSurge.map .draw } ∧
      e.actionAvailable = false ∧ e' = { e with actionAvailable := true } := by
  simp only [useActionSurge, bind_eq_ok, leaving_eq_ok, rejectIf_eq_ok, okOr_eq_ok, Bool.not_eq_true] at h
  obtain ⟨_, -, _, hspent, pool, hpool, drawn, hdraw, heq⟩ := h
  obtain ⟨-, hpair⟩ := Prod.mk.inj (Except.ok.inj heq)
  obtain ⟨rfl, rfl⟩ := Prod.mk.inj hpair
  obtain ⟨hpos, rfl⟩ := ResourceCounter.spend_eq_ok hdraw
  rw [hpool]
  exact ⟨hpos, rfl, hspent, rfl⟩

/-! ## Rests -/

/-- **A hit die that was spent is one hit die less.** -/
theorem spendHitDie_returns {resolution : HitDieSpendResolution}
    (h : Prog.Returns (spendHitDie r health modifier) t (resolution, r', health')) :
    0 < r.hitDice.current ∧ r' = { r with hitDice := r.hitDice.draw } := by
  obtain ⟨sides, hsides, h⟩ := h.lift
  have hpos : 0 < r.hitDice.current := by
    have hcheck := leaving_eq_ok.mp hsides
    simp only [validateHitDieSpend, seq_eq_ok, rejectIf_eq_ok, not_or] at hcheck
    exact Nat.pos_of_ne_zero hcheck.2.2.1.2
  obtain ⟨t₁, t₂, value, rfl, -, h⟩ := h.bind
  obtain ⟨-, h⟩ := h.reject
  -- a die that heals nothing is spent all the same
  dsimp only at h
  split at h <;>
  · simp only [Prog.pure_eq, Prog.ok_bind, Prog.returns_lift_bind, Prog.returns_ok, Prod.mk.injEq] at h
    grind [ResourceCounter.draw]

/-- A short rest without further hit dice leaves health alone; with Arcane Recovery it turns one use of it
    into a slot. -/
theorem takeShortRest_returns
    {useArcaneRecovery : Bool}
    (h : Prog.Returns (takeShortRest r health modifier ⟨0, useArcaneRecovery⟩) t (resolution, r', health')) :
    t = [] ∧ r.Valid ∧ health' = health ∧
      (useArcaneRecovery = true → 0 < heldIn r.arcaneRecovery ∧ r.levelOneSpellSlots ≠ none) ∧
      r' = if useArcaneRecovery then r.afterShortRest.recoverSlot else r.afterShortRest := by
  obtain ⟨_, hvalid, h⟩ := h.lift
  obtain ⟨_, -, h⟩ := h.lift
  obtain ⟨-, h⟩ := h.reject
  obtain ⟨-, h⟩ := h.reject
  obtain ⟨_, -, h⟩ := h.lift
  obtain ⟨_, -, h⟩ := h.lift
  obtain ⟨t₁, t₂, ⟨rolls, recovered, rested, next⟩, rfl, hdice, h⟩ := h.bind
  obtain ⟨rfl, heq⟩ := hdice.of_ok
  simp only [Prod.mk.injEq] at heq
  obtain ⟨rfl, rfl, rfl, rfl⟩ := heq
  have hv := RuntimeResources.validate_eq_ok.mp (leaving_eq_ok.mp hvalid)
  cases useArcaneRecovery with
  | false =>
    obtain ⟨_, -, h⟩ := h.lift
    obtain ⟨_, -, h⟩ := h.lift
    obtain ⟨rfl, heq⟩ := h.of_ok
    simp only [Prod.mk.injEq] at heq
    obtain ⟨-, rfl, rfl⟩ := heq
    exact ⟨rfl, hv, rfl, nofun, rfl⟩
  | true =>
    obtain ⟨recovery, hrecovery, h⟩ := h.expect
    obtain ⟨slots', hslots, h⟩ := h.expect
    obtain ⟨spent, hspent, h⟩ := h.lift
    obtain ⟨_, -, h⟩ := h.lift
    obtain ⟨_, -, h⟩ := h.lift
    obtain ⟨rfl, heq⟩ := h.of_ok
    simp only [Prod.mk.injEq] at heq
    obtain ⟨-, rfl, rfl⟩ := heq
    obtain ⟨hpos, rfl⟩ := ResourceCounter.spend_eq_ok (leaving_eq_ok.mp hspent)
    have hrecovery' : rested.arcaneRecovery = some recovery := hrecovery
    have hslots' : rested.levelOneSpellSlots = some slots' := hslots
    refine ⟨rfl, hv, rfl, fun _ => ⟨?_, ?_⟩, ?_⟩
    · rw [hrecovery']; exact hpos
    · rw [hslots']; exact nofun
    · rw [if_pos rfl]
      unfold RuntimeResources.recoverSlot RuntimeResources.afterShortRest
      simp only [hrecovery', hslots', Option.map_some]
      rfl

/-- **A long rest fills the pools and gives hit dice back; only an active hero can take one.** -/
theorem takeLongRest_eq_ok (h : takeLongRest r health = .ok (resolution, r', health')) :
    r' = r.afterLongRest ∧ health.vitalStatus = .active ∧ health'.vitalStatus = .active := by
  simp only [takeLongRest, bind_eq_ok, leaving_eq_ok, rejectIf_eq_ok, not_not] at h
  obtain ⟨_, -, _, -, _, hactive, _, -, _, -, heq⟩ := h
  obtain ⟨-, hpair⟩ := Prod.mk.inj (Except.ok.inj heq)
  obtain ⟨rfl, rfl⟩ := Prod.mk.inj hpair
  exact ⟨rfl, hactive, rfl⟩

end ManchesterArcana.Rules
