import ManchesterArcana.Effect.Contract
import ManchesterArcana.Rules.Spending

/-!
# `Rules.Contracts` — spending exactly once, or not at all

Each function of the matrix that spends something keeps one contract on every stream of dice: it never
panics, a failure leaves every argument as it was, and a success has taken exactly what the intent names. The
failures carry the arguments at the point of failure, so the second part is read off the errors alone.
-/

namespace ManchesterArcana.Rules

open Effect
open Prog (meets_bind meets_lift_bind meets_reject_bind)

/-- Any answer: a dice source may show every number there is. -/
def AnyFace (_ _ : Nat) : Prop := True

section Checks

variable {σ α β : Type} {s : σ} {x : RulesMatrixResult α} {f : α → Rolling (RulesMatrixError × σ) β}
  {Q : β → Prop}

/-- A check made while the arguments are untouched leaves them so. -/
theorem meets_leaving_bind :
    Prog.Meets AnyFace (Prog.lift (leaving s x) >>= f) Q (fun e => e.2 = s) ↔
      ∀ a, x = .ok a → Prog.Meets AnyFace (f a) Q fun e => e.2 = s := by
  rw [meets_lift_bind]
  refine ⟨fun h a ha => h.1 a (leaving_eq_ok.mpr ha), fun h => ⟨fun a ha => h a (leaving_eq_ok.mp ha), ?_⟩⟩
  intro e he
  cases x with
  | ok a => cases he
  | error e' =>
    obtain rfl := Except.error.inj he
    rfl

theorem meets_refusing_bind {c : Prop} [Decidable c] {e : RulesMatrixError}
    {f : Unit → Rolling (RulesMatrixError × σ) β} :
    Prog.Meets AnyFace (Prog.reject c (e, s) >>= f) Q (fun e => e.2 = s) ↔
      (¬ c → Prog.Meets AnyFace (f ()) Q fun e => e.2 = s) := by
  rw [meets_reject_bind]
  exact and_iff_left fun _ => rfl

/-- What fails on its own account fails with the arguments it was entered with. -/
theorem meets_before_bind {p : Rolling RulesMatrixError α} {P : α → Prop}
    (h : Prog.Meets AnyFace p P fun _ => True)
    (hf : ∀ a, P a → Prog.Meets AnyFace (f a) Q fun e => e.2 = s) :
    Prog.Meets AnyFace (p.mapErr (·, s) >>= f) Q fun e => e.2 = s := by
  rw [meets_bind, Prog.meets_mapErr]
  exact h.mono hf fun _ _ => rfl

end Checks

/-! ## Dice -/

variable {r : RuntimeResources} {health : HealthState} {sides : Nat} {e : ActionEconomy}

theorem rollByte_meets :
    Prog.Meets AnyFace (rollByte sides) (InRange sides) fun _ => True := by
  unfold rollByte
  simp only [Prog.question, Prog.ask_bind, Prog.ok_bind, Prog.meets_ask, meets_reject_bind, Prog.pure_eq,
    Prog.meets_ok, not_not]
  exact fun face _ => ⟨fun _ => ⟨id, fun _ => trivial⟩, fun _ => trivial⟩

theorem rollBytes_meets {n : Nat} :
    Prog.Meets AnyFace (rollBytes sides n) (fun _ => True) fun _ => True := by
  induction n with
  | zero => exact trivial
  | succ n ih =>
    unfold rollBytes
    rw [meets_bind]
    refine rollByte_meets.mono (fun face _ => ?_) fun _ h => h
    rw [meets_bind]
    exact ih.mono (fun _ _ => trivial) fun _ h => h

theorem resolveDamageDice_meets {count : Nat} {constant : Int8} {critical : Bool} :
    Prog.Meets AnyFace (resolveDamageDice count sides constant critical) (fun _ => True) fun _ => True := by
  unfold resolveDamageDice
  refine meets_reject_bind.mpr ⟨fun _ => ?_, fun _ => trivial⟩
  refine meets_reject_bind.mpr ⟨fun _ => ?_, fun _ => trivial⟩
  rw [meets_bind]
  refine rollBytes_meets.mono (fun dice _ => ?_) fun _ h => h
  exact meets_reject_bind.mpr ⟨fun _ => trivial, fun _ => trivial⟩

theorem resolveD20_meets {context : RollContext} :
    Prog.Meets AnyFace (resolveD20 context) (fun _ => True) fun _ => True := by
  have hdie : Prog.Meets AnyFace (rollValidated 20) (fun _ => True) fun _ => True := by
    unfold rollValidated
    simp only [Prog.question, Prog.ask_bind, Prog.ok_bind, Prog.meets_ask, meets_reject_bind, Prog.pure_eq,
      Prog.meets_ok]
    exact fun _ _ => ⟨fun _ => trivial, fun _ => trivial⟩
  have hsecond : Prog.Meets AnyFace (some <$> rollValidated 20 : Rolling GameCoreError (Option Nat))
      (fun _ => True) fun _ => True := by
    show Prog.Meets AnyFace (rollValidated 20 >>= fun face => pure (some face)) _ _
    rw [meets_bind]
    exact hdie.mono (fun _ _ => trivial) fun _ h => h
  unfold resolveD20
  rw [meets_bind]
  refine hdie.mono (fun first _ => ?_) fun _ h => h
  dsimp only
  split
  · exact trivial
  · rw [meets_bind]
    exact hsecond.mono (fun _ _ => trivial) fun _ h => h
  · rw [meets_bind]
    exact hsecond.mono (fun _ _ => trivial) fun _ h => h

/-! ## Spells -/

theorem resolveDart_meets {target : MagicMissileTarget} :
    Prog.Meets AnyFace (resolveDart target) (fun _ => True) fun _ => True := by
  unfold resolveDart
  rw [meets_bind]
  refine resolveDamageDice_meets.mono (fun damage _ => ?_) fun _ h => h
  split
  · exact trivial
  · refine meets_lift_bind.mpr ⟨fun interaction _ => ?_, fun _ _ => trivial⟩
    exact meets_lift_bind.mpr ⟨fun _ _ => trivial, fun _ _ => trivial⟩

variable {sc : SpellcastingState} {intent : SupportedSpellIntent} {σ α : Type}

/-- **The dice of a spell may refuse, but never panic.** -/
theorem rollSpell_meets {effects : ConditionEffects} :
    Prog.Meets AnyFace (rollSpell sc effects intent) (fun _ => True) fun _ => True := by
  cases intent with
  | fireBolt target context =>
    refine meets_lift_bind.mpr ⟨fun targetEffects _ => ?_, fun _ _ => trivial⟩
    rw [meets_bind, Prog.meets_mapErr]
    refine resolveD20_meets.mono (fun roll _ => ?_) fun _ h => h
    refine meets_reject_bind.mpr ⟨fun _ => ?_, fun _ => trivial⟩
    dsimp only
    split
    · exact trivial
    · rw [meets_bind]
      refine resolveDamageDice_meets.mono (fun damage _ => ?_) fun _ h => h
      refine meets_lift_bind.mpr ⟨fun interaction _ => ?_, fun _ _ => trivial⟩
      exact meets_lift_bind.mpr ⟨fun _ _ => trivial, fun _ _ => trivial⟩
  | light target =>
    show Prog.Meets AnyFace (resolveLight sc target) _ _
    unfold resolveLight
    dsimp only
    split
    · rw [meets_bind, Prog.meets_mapErr]
      exact resolveD20_meets.mono (fun _ _ => trivial) fun _ h => h
    · exact trivial
  | mageHand target => exact trivial
  | magicMissile first second third =>
    show Prog.Meets AnyFace (resolveMagicMissile first second third) _ _
    unfold resolveMagicMissile
    rw [meets_bind]
    refine resolveDart_meets.mono (fun _ _ => ?_) fun _ h => h
    rw [meets_bind]
    refine resolveDart_meets.mono (fun _ _ => ?_) fun _ h => h
    rw [meets_bind]
    exact resolveDart_meets.mono (fun _ _ => trivial) fun _ h => h
  | shield trigger => exact trivial
  | sleep distance candidates =>
    show Prog.Meets AnyFace (resolveSleep sc candidates) _ _
    unfold resolveSleep
    rw [meets_bind]
    exact resolveDamageDice_meets.mono (fun _ _ => trivial) fun _ h => h

/-- What the turn pays for a spell: the reaction for a Shield, and the action for any other. -/
def castingResource (spell : SpellId) : TurnResource :=
  if spell = .shield then .reaction else .action

/-- **The price of a spell**: the action or the reaction, and a slot for a spell of the first level. -/
structure PaysForSpell (r : RuntimeResources) (e : ActionEconomy) (spell : SpellId) (r' : RuntimeResources)
    (e' : ActionEconomy) : Prop where
  affords : r.Affords spell
  slot : r' = r.payFor spell
  available : e.available (castingResource spell) = true
  economy : e' = e.withoutResource (castingResource spell)

theorem resolveSupportedSpell_meets
    {conditions : ConditionSet} {components : SpellComponentAccess} :
    Prog.Meets AnyFace (resolveSupportedSpell sc r e conditions components intent)
      (fun x => PaysForSpell r e intent.spell x.2.1 x.2.2) fun x => x.2 = (r, e) := by
  refine meets_leaving_bind.mpr fun effects _ => ?_
  refine meets_leaving_bind.mpr fun ⟨r', e'⟩ hspend => ?_
  obtain ⟨haffords, rfl, havailable, rfl⟩ := spendSpellActionAndSlot_eq_ok hspend
  refine meets_before_bind rollSpell_meets fun rolls _ => ?_
  exact meets_leaving_bind.mpr fun _ _ => ⟨haffords, rfl, havailable, rfl⟩

/-! ## Class features -/

/-- **The price of Second Wind**: the bonus action and one use. Health is healed by the roll and the level. -/
structure CatchesBreath (r : RuntimeResources) (e : ActionEconomy) (health : HealthState)
    (resolution : SecondWindResolution) (r' : RuntimeResources) (e' : ActionEconomy) (health' : HealthState) :
    Prop where
  held : 0 < heldIn r.secondWind
  uses : r' = { r with secondWind := r.secondWind.map .draw }
  available : e.bonusActionAvailable = true
  economy : e' = { e with bonusActionAvailable := false }
  healed : applyHealing health (resolution.healingRoll + r.level.value) = .ok (resolution.healing, health')

theorem useSecondWind_meets :
    Prog.Meets AnyFace (useSecondWind r e health)
      (fun x => CatchesBreath r e health x.1 x.2.1 x.2.2.1 x.2.2.2) fun x => x.2 = (r, e, health) := by
  refine meets_leaving_bind.mpr fun _ _ => ?_
  refine meets_leaving_bind.mpr fun _ _ => ?_
  refine meets_refusing_bind.mpr fun _ => ?_
  refine meets_refusing_bind.mpr fun havailable => ?_
  refine meets_refusing_bind.mpr fun hheld => ?_
  refine meets_before_bind rollByte_meets fun face _ => ?_
  -- the pool is there, for an absent one counts as empty
  cases hpool : r.secondWind with
  | none =>
    rw [hpool] at hheld
    exact absurd rfl hheld
  | some pool =>
    refine Prog.meets_expect_bind.mpr ⟨pool, rfl, ?_⟩
    refine meets_leaving_bind.mpr fun spent hspent => ?_
    obtain ⟨hpos, rfl⟩ := ResourceCounter.spend_eq_ok hspent
    refine meets_lift_bind.mpr ⟨fun ⟨healing, health'⟩ hhealed => ?_, fun x hx => ?_⟩
    · refine meets_leaving_bind.mpr fun e' he => ?_
      obtain ⟨-, rfl⟩ := ActionEconomy.spend_eq_ok.mp (mapError_eq_ok.mp he)
      exact
        { held := by rw [hpool]; exact hpos
          uses := by rw [hpool]; rfl
          available := Bool.not_eq_false _ ▸ havailable
          economy := rfl
          healed := mapError_eq_ok.mp hhealed }
    · cases hh : applyHealing health (face + r.level.value) with
      | ok y => rw [hh] at hx; cases hx
      | error y =>
        rw [hh] at hx
        obtain rfl := Except.error.inj hx
        rfl

/-- A failure of it leaves the argument at `s`. -/
def LeavesOnError {σ α : Type} (s : σ) (x : Mutating σ α) : Prop := ∀ e, x = .error e → e.2 = s

theorem leavesOnError_ok {s : σ} {a : α} : LeavesOnError s (.ok a) := by
  intro e h
  cases h

/-- **A check leaves the argument alone**, and what comes after it may. -/
theorem leavesOnError_bind {β : Type} {s : σ} {x : RulesMatrixResult α} {f : α → Mutating σ β}
    (hf : ∀ a, LeavesOnError s (f a)) : LeavesOnError s (leaving s x >>= f) := by
  intro e h
  cases x with
  | ok a => exact hf a e h
  | error e' =>
    obtain rfl := Except.error.inj h
    rfl

/-- **The price of Action Surge**: one use, for which a spent action comes back. -/
structure Surges (r : RuntimeResources) (e : ActionEconomy) (r' : RuntimeResources) (e' : ActionEconomy) : Prop where
  held : 0 < heldIn r.actionSurge
  uses : r' = { r with actionSurge := r.actionSurge.map .draw }
  spent : e.actionAvailable = false
  economy : e' = { e with actionAvailable := true }

theorem useActionSurge_error
    {x : RulesMatrixError × RuntimeResources × ActionEconomy} (h : useActionSurge r e = .error x) :
    x.2 = (r, e) := by
  have hleaves : LeavesOnError (r, e) (useActionSurge r e) := by
    refine leavesOnError_bind fun _ => ?_
    refine leavesOnError_bind fun _ => ?_
    refine leavesOnError_bind fun pool => ?_
    refine leavesOnError_bind fun spent => ?_
    exact leavesOnError_ok
  exact hleaves x h

/-! ## Rests -/

/-- **The price of a hit die**: one of them. Health is healed by the face and the modifier, if that is anything. -/
structure SpendsDie (r : RuntimeResources) (health : HealthState) (resolution : HitDieSpendResolution)
    (r' : RuntimeResources) (health' : HealthState) : Prop where
  held : 0 < r.hitDice.current
  uses : r' = { r with hitDice := r.hitDice.draw }
  unhealed : resolution.healingTotal = 0 → health' = health
  healed : resolution.healingTotal ≠ 0 →
    ∃ healing, applyHealing health resolution.healingTotal = .ok (healing, health')

theorem spendHitDie_meets {modifier : Int8} :
    Prog.Meets AnyFace (spendHitDie r health modifier) (fun x => SpendsDie r health x.1 x.2.1 x.2.2)
      fun x => x.2 = (r, health) := by
  refine meets_leaving_bind.mpr fun sides hsides => ?_
  have hpos : 0 < r.hitDice.current := by
    simp only [validateHitDieSpend, seq_eq_ok, rejectIf_eq_ok, not_or] at hsides
    exact Nat.pos_of_ne_zero hsides.2.2.1.2
  intro face _
  refine meets_refusing_bind.mpr fun _ => ?_
  dsimp only
  split
  · next hzero =>
    refine meets_leaving_bind.mpr fun _ _ => ?_
    refine meets_leaving_bind.mpr fun _ _ => ?_
    exact ⟨hpos, rfl, fun _ => rfl, fun hne => absurd hzero hne⟩
  · next hne =>
    rw [meets_bind, Prog.meets_lift]
    refine ⟨fun y hhealed => ?_, fun x hx => ?_⟩
    · refine meets_leaving_bind.mpr fun _ _ => ?_
      refine meets_leaving_bind.mpr fun _ _ => ?_
      exact ⟨hpos, rfl, fun hzero => absurd hzero hne, fun _ => ⟨y.1, mapError_eq_ok.mp hhealed⟩⟩
    · cases hh : applyHealing health (hitDieHealing face modifier) with
      | ok y => rw [hh] at hx; cases hx
      | error y =>
        rw [hh] at hx
        obtain rfl := Except.error.inj hx
        rfl

theorem takeLongRest_error
    {x : RulesMatrixError × RuntimeResources × HealthState} (h : takeLongRest r health = .error x) :
    x.2 = (r, health) := by
  have hleaves : LeavesOnError (r, health) (takeLongRest r health) := by
    refine leavesOnError_bind fun _ => ?_
    refine leavesOnError_bind fun _ => ?_
    refine leavesOnError_bind fun _ => ?_
    refine leavesOnError_bind fun _ => ?_
    refine leavesOnError_bind fun _ => ?_
    exact leavesOnError_ok
  exact hleaves x h

/-- A long rest takes nothing out of the pools. -/
structure TakesNothing (r r' : RuntimeResources) : Prop where
  hitDice : r.hitDice.current ≤ r'.hitDice.current
  secondWind : heldIn r.secondWind ≤ heldIn r'.secondWind
  actionSurge : heldIn r.actionSurge ≤ heldIn r'.actionSurge
  levelOneSpellSlots : heldIn r.levelOneSpellSlots ≤ heldIn r'.levelOneSpellSlots
  arcaneRecovery : heldIn r.arcaneRecovery ≤ heldIn r'.arcaneRecovery

/-- Filling a pool that is within its maximum takes nothing out of it. -/
theorem heldIn_restoreAll {pool expected : Option ResourceCounter} (h : RuntimeResources.OptionWithin pool expected) :
    heldIn pool ≤ heldIn (pool.map .restoreAll) := by
  cases pool with
  | none => exact le_rfl
  | some c =>
    cases expected with
    | none => exact h.elim
    | some e => exact h.2.2

theorem RuntimeResources.Valid.afterLongRest_takes (hv : r.Valid) :
    TakesNothing r r.afterLongRest where
  hitDice := Nat.le_add_right _ _
  secondWind := heldIn_restoreAll hv.secondWind
  actionSurge := heldIn_restoreAll hv.actionSurge
  levelOneSpellSlots := heldIn_restoreAll hv.levelOneSpellSlots
  arcaneRecovery := heldIn_restoreAll hv.arcaneRecovery

theorem takeLongRest_takes
    {x : RestResolution × RuntimeResources × HealthState} (h : takeLongRest r health = .ok x) :
    x.2.1 = r.afterLongRest ∧ TakesNothing r x.2.1 := by
  obtain ⟨resolution, r', health'⟩ := x
  obtain ⟨rfl, -⟩ := takeLongRest_eq_ok h
  obtain ⟨_, hvalid, -⟩ := bind_eq_ok.mp h
  exact ⟨rfl, (RuntimeResources.validate_eq_ok.mp (leaving_eq_ok.mp hvalid)).afterLongRest_takes⟩

/-! ## The contract -/

/-- **Spells, features and rests spend exactly once or not at all.** Whatever the arguments and the dice are, a
    spell, Second Wind, Action Surge, a hit die and a long rest leave every argument as it was when they fail, and
    have taken their price and nothing else when they succeed. -/
theorem spends_exactly_once (r : RuntimeResources) (e : ActionEconomy) (health : HealthState) :
    (∀ sc conditions components intent,
      Prog.Meets AnyFace (resolveSupportedSpell sc r e conditions components intent)
        (fun x => PaysForSpell r e intent.spell x.2.1 x.2.2) fun x => x.2 = (r, e)) ∧
    Prog.Meets AnyFace (useSecondWind r e health)
      (fun x => CatchesBreath r e health x.1 x.2.1 x.2.2.1 x.2.2.2) (fun x => x.2 = (r, e, health)) ∧
    ((∀ x, useActionSurge r e = .ok x → Surges r e x.2.1 x.2.2) ∧
      ∀ x, useActionSurge r e = .error x → x.2 = (r, e)) ∧
    (∀ modifier, Prog.Meets AnyFace (spendHitDie r health modifier)
      (fun x => SpendsDie r health x.1 x.2.1 x.2.2) fun x => x.2 = (r, health)) ∧
    (∀ x, takeLongRest r health = .ok x → x.2.1 = r.afterLongRest ∧ TakesNothing r x.2.1) ∧
      ∀ x, takeLongRest r health = .error x → x.2 = (r, health) := by
  refine ⟨?spell, useSecondWind_meets, ⟨?surge, fun x => useActionSurge_error⟩, ?die, fun x => takeLongRest_takes,
    fun x => takeLongRest_error⟩
  case spell => exact fun sc conditions components intent => resolveSupportedSpell_meets
  case surge =>
    rintro ⟨u, r', e'⟩ h
    obtain ⟨hheld, huses, hspent, heconomy⟩ := useActionSurge_eq_ok h
    exact ⟨hheld, huses, hspent, heconomy⟩
  case die => exact fun modifier => spendHitDie_meets

end ManchesterArcana.Rules
