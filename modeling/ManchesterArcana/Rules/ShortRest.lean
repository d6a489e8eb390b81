import ManchesterArcana.Effect.Run
import ManchesterArcana.Rules.Vitality

/-!
# `Rules.ShortRest` — a short rest is its hit dice, one after the other

A short rest may spend several hit dice at once. It is then what spending them one at a time comes to, closed
by a rest that spends none; and where one of the dice fails, nothing at all has happened.
-/

namespace ManchesterArcana.Rules

open Effect
open Prog (returns_lift_bind)

/-! ## One hit die -/

namespace HealthState

/-- Healing of nothing is no healing. -/
theorem healed_zero (h : HealthState) : h.healed 0 = h := by
  unfold healed
  rw [Nat.min_zero, if_neg fun hc => absurd hc.1 (Nat.lt_irrefl 0)]
  rfl

theorem healed_current (h : HealthState) (amount : Nat) :
    (h.healed amount).current = h.current + min (h.maximum - h.current) amount := by
  unfold healed
  dsimp only
  split <;> rfl

theorem healed_maximum (h : HealthState) (amount : Nat) : (h.healed amount).maximum = h.maximum := by
  unfold healed
  dsimp only
  split <;> rfl

end HealthState

/-- The resources with one hit die less. -/
def RuntimeResources.drawDie (r : RuntimeResources) : RuntimeResources := { r with hitDice := r.hitDice.draw }

variable {h h' : HealthState} {modifier : Int8} {r r' : RuntimeResources} {t : List (Nat × Nat)}
  {faces rolls : List Nat} {n recovered : Nat} {useArcaneRecovery : Bool}

/-- A pool drawn from is still the pool it was, further spent. -/
theorem RuntimeResources.Valid.drawDie (hv : r.Valid) : r.drawDie.Valid where
  schema := hv.schema
  hitDice := ⟨hv.hitDice.1, hv.hitDice.2.1, (Nat.sub_le _ _).trans hv.hitDice.2.2⟩
  secondWind := hv.secondWind
  actionSurge := hv.actionSurge
  levelOneSpellSlots := hv.levelOneSpellSlots
  arcaneRecovery := hv.arcaneRecovery

/-- One hit die of the resting hero, as a step on resources and health that shows `face`. -/
def HitDieStep (modifier : Int8) (s : RuntimeResources × HealthState) (face : Nat)
    (s' : RuntimeResources × HealthState) : Prop :=
  ∃ sides resolution, Prog.Returns (spendHitDie s.1 s.2 modifier) [(sides, face)] (resolution, s')

/-- What a hit die that was spent amounts to. -/
structure DieSpent (r : RuntimeResources) (h : HealthState) (modifier : Int8) (face : Nat)
    (resolution : HitDieSpendResolution) (s' : RuntimeResources × HealthState) : Prop where
  resources : s'.1 = r.drawDie
  health : s'.2 = h.healed (hitDieHealing face modifier)
  valid : r.Valid ∧ h.Valid ∧ s'.2.Valid
  living : h.vitalStatus ≠ .dead
  available : 0 < r.hitDice.current
  modifier : constitutionInRange modifier
  inRange : ∃ sides, hitDieSides r = .ok sides ∧ InRange sides face
  roll : resolution.roll = face
  recovered : h.current + resolution.hitPointsRecovered = s'.2.current

variable {s' s : RuntimeResources × HealthState}

/-- **A hit die asks for one face, heals by it and is gone.** -/
theorem spendHitDie_spent
    {resolution : HitDieSpendResolution}
    (hret : Prog.Returns (spendHitDie r h modifier) t (resolution, s')) :
    ∃ sides face, t = [(sides, face)] ∧ DieSpent r h modifier face resolution s' := by
  obtain ⟨sides, hsides, hret⟩ := hret.lift
  have hcheck := leaving_eq_ok.mp hsides
  simp only [validateHitDieSpend, seq_eq_ok, rejectIf_eq_ok, not_or, not_not] at hcheck
  obtain ⟨hvalid, hhealth, ⟨hlive, hheld⟩, hmodifier, hkind⟩ := hcheck
  have hv := HealthState.validate_eq_ok.mp hhealth
  have hr := RuntimeResources.validate_eq_ok.mp hvalid
  obtain ⟨t₁, t₂, face, ht, hasked, hret⟩ := hret.bind
  obtain ⟨_, _, rfl, hanswer⟩ := Prog.returns_ask.mp hasked
  obtain ⟨rfl, rfl⟩ := hanswer.of_ok
  obtain ⟨hface, hret⟩ := hret.reject
  have hrange : InRange sides face := not_not.mp hface
  dsimp only at hret
  split at hret
  · next hzero =>
    simp only [Prog.pure_eq, Prog.ok_bind, returns_lift_bind] at hret
    obtain ⟨_, -, _, -, hret⟩ := hret
    obtain ⟨rfl, heq⟩ := hret.of_ok
    obtain ⟨rfl, rfl⟩ := Prod.mk.inj heq
    refine ⟨sides, face, ht, rfl, ?_, ⟨hr, hv, hv⟩, hlive, Nat.pos_of_ne_zero hheld, hmodifier, ⟨sides, hkind, hrange⟩,
      rfl, rfl⟩
    rw [hzero, HealthState.healed_zero]
  · next hne =>
    obtain ⟨⟨healing, next⟩, hhealed, hret⟩ := hret.lift
    simp only [Prog.pure_eq, Prog.ok_bind, returns_lift_bind] at hret
    obtain ⟨_, -, _, -, hret⟩ := hret
    obtain ⟨rfl, heq⟩ := hret.of_ok
    obtain ⟨rfl, rfl⟩ := Prod.mk.inj heq
    have hok := mapError_eq_ok.mp hhealed
    obtain ⟨-, rfl⟩ := (applyHealing_closes h _).of_ok hok
    have heffective : healing.effectiveHealing = min (h.maximum - h.current) (hitDieHealing face modifier) := by
      obtain ⟨_, -, hok⟩ := bind_eq_ok.mp hok
      obtain ⟨_, -, hok⟩ := bind_eq_ok.mp hok
      obtain ⟨_, -, hok⟩ := bind_eq_ok.mp hok
      obtain ⟨_, -, hok⟩ := bind_eq_ok.mp hok
      obtain ⟨rfl, -⟩ := Prod.mk.inj (Except.ok.inj hok)
      rfl
    refine ⟨sides, face, ht, rfl, rfl, ⟨hr, hv, hv.healed hlive hne⟩, hlive, Nat.pos_of_ne_zero hheld, hmodifier,
      ⟨sides, hkind, hrange⟩, rfl, ?_⟩
    show h.current + healing.effectiveHealing = (h.healed _).current
    rw [heffective, HealthState.healed_current]

theorem HitDieStep.spent {face : Nat}
    (hstep : HitDieStep modifier s face s') : ∃ resolution, DieSpent s.1 s.2 modifier face resolution s' := by
  obtain ⟨sides, resolution, hret⟩ := hstep
  obtain ⟨sides', face', ht, hspent⟩ := spendHitDie_spent hret
  obtain ⟨-, rfl⟩ := Prod.mk.inj (List.cons.inj ht).1
  exact ⟨resolution, hspent⟩

/-! ## Many hit dice -/

/-- What the dice spent so far leave out of account. -/
theorem spendHitDice_steps {recovered' : Nat} {rolls' : List Nat}
    (hret : Prog.Returns (spendHitDice modifier n rolls recovered r h) t (rolls', recovered', r', h')) :
    Run (HitDieStep modifier) (r, h) (t.map Prod.snd) (r', h') ∧ t.length = n ∧ rolls' = rolls ++ t.map Prod.snd ∧
      h.current + recovered' = h'.current + recovered := by
  induction n generalizing rolls recovered r h t with
  | zero =>
    obtain ⟨rfl, heq⟩ := hret.of_ok
    simp only [Prod.mk.injEq] at heq
    obtain ⟨rfl, rfl, rfl, rfl⟩ := heq
    exact ⟨.nil _, rfl, (List.append_nil _).symm, rfl⟩
  | succ n ih =>
    obtain ⟨t₁, t₂, ⟨spend, r₁, h₁⟩, rfl, hdie, hrest⟩ := hret.bind
    have hdie' := hdie.of_mapErr
    obtain ⟨sides, face, rfl, hspent⟩ := spendHitDie_spent hdie'
    obtain ⟨-, hrest⟩ := hrest.reject
    obtain ⟨hrun, hlength, hrolls, hpoints⟩ := ih hrest
    have hrecovered : h.current + spend.hitPointsRecovered = h₁.current := hspent.recovered
    refine ⟨.cons ⟨sides, spend, hdie'⟩ hrun, ?_, ?_, by omega⟩
    · rw [List.length_append, hlength, List.length_singleton, Nat.add_comm]
    · rw [hrolls, hspent.roll, List.append_assoc]
      rfl

/-- A hero's hit points never exceed the maximum, so that the dice of a rest never heal too much to count. -/
theorem spendHitDice_of_steps (rolls : List Nat) (recovered : Nat) (hv : h.Valid) (hmaximum : h.maximum ≤ maxU16)
    (hrecovered : recovered ≤ h.current) (hrun : Run (HitDieStep modifier) (r, h) faces (r', h')) :
    ∃ t, t.map Prod.snd = faces ∧ Prog.Returns (spendHitDice modifier faces.length rolls recovered r h) t
      (rolls ++ faces, recovered + (h'.current - h.current), r', h') ∧ h.current ≤ h'.current := by
  generalize hs : (r, h) = s at hrun
  generalize hs' : (r', h') = s' at hrun
  induction hrun generalizing r h rolls recovered with
  | nil s =>
    obtain rfl := hs
    obtain ⟨rfl, rfl⟩ := Prod.mk.inj hs'
    refine ⟨[], rfl, ?_, Nat.le_refl _⟩
    rw [List.append_nil, Nat.sub_self]
    exact Prog.returns_ok.mpr ⟨rfl, rfl⟩
  | @cons s s₁ s₂ face faces hstep _ ih =>
    obtain ⟨sides, spend, hdie⟩ := hstep
    obtain ⟨r₁, h₁⟩ := s₁
    obtain rfl := hs
    obtain ⟨_, _, ht, hspent⟩ := spendHitDie_spent hdie
    obtain ⟨-, rfl⟩ := Prod.mk.inj (List.cons.inj ht).1
    have hpoints : h.current + spend.hitPointsRecovered = h₁.current := hspent.recovered
    have hhealed : h₁ = h.healed (hitDieHealing face modifier) := hspent.health
    have hv₁ : h₁.Valid := hspent.valid.2.2
    have hmaximum₁ : h₁.maximum = h.maximum := by rw [hhealed, HealthState.healed_maximum]
    have hle₁ := hv₁.current_le
    obtain ⟨t, rfl, hret, hgrown⟩ := ih (rolls ++ [spend.roll])
      (recovered + spend.hitPointsRecovered) hv₁ (hmaximum₁ ▸ hmaximum) (by omega) rfl hs'
    refine ⟨(sides, face) :: t, rfl, ?_, by omega⟩
    refine Prog.returns_bind.mpr ⟨[(sides, face)], t, (spend, r₁, h₁), rfl, Prog.returns_mapErr.mpr hdie, ?_⟩
    refine Prog.returns_reject_bind.mpr ⟨by omega, ?_⟩
    have htotal : recovered + spend.hitPointsRecovered + (h'.current - h₁.current) =
        recovered + (h'.current - h.current) := by omega
    rw [htotal, List.append_assoc, hspent.roll] at hret
    rw [hspent.roll]
    exact hret

/-! ## The rest around the dice -/

/-- What a rest checks before it spends anything. -/
structure RestAdmitted (r : RuntimeResources) (h : HealthState) (modifier : Int8) (n : Nat) (useArcaneRecovery : Bool) :
    Prop where
  resources : r.Valid
  health : h.Valid
  living : h.vitalStatus ≠ .dead
  dice : n ≤ r.hitDice.current
  modifier : constitutionInRange modifier
  kind : ∃ sides, hitDieSides r = .ok sides
  recovery : validateArcaneRecoveryRequest r useArcaneRecovery = .ok ()

/-- What a rest does once its dice are spent. -/
def closeRest (before : RuntimeResources × HealthState) (useArcaneRecovery : Bool)
    (spent : List Nat × Nat × RuntimeResources × HealthState) :
    Rolling (RulesMatrixError × RuntimeResources × HealthState)
      (RestResolution × RuntimeResources × HealthState) := do
  let (hitDieRolls, hitPointsRecovered, rested, nextHealth) := spent
  let recharged := { rested with
    secondWind := rested.secondWind.map .restoreAll
    actionSurge := rested.actionSurge.map .restoreAll }
  let (spellSlotsRecovered, nextResources) ←
    if useArcaneRecovery then do
      let recovery ← Prog.expect recharged.arcaneRecovery
        "validated Arcane Recovery request has its resource"
      let slots ← Prog.expect recharged.levelOneSpellSlots
        "validated wizard resources contain spell slots"
      let recovery ← Prog.lift (leaving before recovery.spend)
      pure (1, { recharged with
        arcaneRecovery := some recovery
        levelOneSpellSlots := some { slots with current := slots.current + 1 } })
    else pure (0, recharged)
  Prog.lift (leaving before nextResources.validate)
  Prog.lift (leaving before nextHealth.validate)
  return (
    { hitDieRolls, hitPointsRecovered
      hitDiceRecovered := 0
      spellSlotsRecovered
      resultingHealth := nextHealth
      resultingResources := nextResources }, nextResources, nextHealth)

/-- What closes a rest depends on the resources and the health that the dice have left, and on nothing else. -/
theorem closeRest_transfer {before : RuntimeResources × HealthState} (before' : RuntimeResources × HealthState)
    (rolls' : List Nat) (recovered' : Nat) {rested : RuntimeResources} {resolution : RestResolution}
    (hret : Prog.Returns (closeRest before useArcaneRecovery (rolls, recovered, rested, h)) t (resolution, r', h')) :
    t = [] ∧ Prog.Returns (closeRest before' useArcaneRecovery (rolls', recovered', rested, h)) []
      ({ resolution with hitDieRolls := rolls', hitPointsRecovered := recovered' }, r', h') := by
  cases useArcaneRecovery with
  | false =>
    obtain ⟨_, hresources, hret⟩ := hret.lift
    obtain ⟨_, hhealth, hret⟩ := hret.lift
    obtain ⟨rfl, heq⟩ := hret.of_ok
    simp only [Prod.mk.injEq] at heq
    obtain ⟨rfl, rfl, rfl⟩ := heq
    refine ⟨rfl, ?_⟩
    refine returns_lift_bind.mpr ⟨(), leaving_of_eq_ok (leaving_eq_ok.mp hresources), ?_⟩
    refine returns_lift_bind.mpr ⟨(), leaving_of_eq_ok (leaving_eq_ok.mp hhealth), ?_⟩
    exact Prog.returns_ok.mpr ⟨rfl, rfl⟩
  | true =>
    obtain ⟨recovery, hrecovery, hret⟩ := hret.expect
    obtain ⟨slots, hslots, hret⟩ := hret.expect
    obtain ⟨spent, hspent, hret⟩ := hret.lift
    obtain ⟨_, hresources, hret⟩ := hret.lift
    obtain ⟨_, hhealth, hret⟩ := hret.lift
    obtain ⟨rfl, heq⟩ := hret.of_ok
    simp only [Prod.mk.injEq] at heq
    obtain ⟨rfl, rfl, rfl⟩ := heq
    refine ⟨rfl, ?_⟩
    refine Prog.returns_expect_bind.mpr ⟨recovery, hrecovery, ?_⟩
    refine Prog.returns_expect_bind.mpr ⟨slots, hslots, ?_⟩
    refine returns_lift_bind.mpr ⟨spent, leaving_of_eq_ok (leaving_eq_ok.mp hspent), ?_⟩
    refine returns_lift_bind.mpr ⟨(), leaving_of_eq_ok (leaving_eq_ok.mp hresources), ?_⟩
    refine returns_lift_bind.mpr ⟨(), leaving_of_eq_ok (leaving_eq_ok.mp hhealth), ?_⟩
    exact Prog.returns_ok.mpr ⟨rfl, rfl⟩

/-- **A rest that goes through was admitted, spent its dice and was closed.** -/
theorem takeShortRest_returns_iff {out : RestResolution × RuntimeResources × HealthState} :
    Prog.Returns (takeShortRest r h modifier ⟨n, useArcaneRecovery⟩) t out ↔
      RestAdmitted r h modifier n useArcaneRecovery ∧ ∃ t₁ t₂ spent, t = t₁ ++ t₂ ∧
        Prog.Returns (spendHitDice modifier n [] 0 r h) t₁ spent ∧
          Prog.Returns (closeRest (r, h) useArcaneRecovery spent) t₂ out := by
  constructor
  · intro hret
    obtain ⟨_, hresources, hret⟩ := hret.lift
    obtain ⟨_, hhealth, hret⟩ := hret.lift
    obtain ⟨hlive, hret⟩ := hret.reject
    obtain ⟨hmodifier, hret⟩ := hret.reject
    obtain ⟨sides, hkind, hret⟩ := hret.lift
    obtain ⟨_, hrecovery, hret⟩ := hret.lift
    obtain ⟨t₁, t₂, spent, ht, hdice, hclose⟩ := hret.bind
    refine ⟨⟨RuntimeResources.validate_eq_ok.mp (leaving_eq_ok.mp hresources),
      HealthState.validate_eq_ok.mp (leaving_eq_ok.mp hhealth), fun hd => hlive (.inl hd),
      Nat.le_of_not_lt fun hgt => hlive (.inr hgt), not_not.mp hmodifier, ⟨sides, leaving_eq_ok.mp hkind⟩,
      leaving_eq_ok.mp hrecovery⟩, t₁, t₂, spent, ht, hdice.of_mapErr, hclose⟩
  · rintro ⟨ha, t₁, t₂, spent, ht, hdice, hclose⟩
    obtain ⟨sides, hkind⟩ := ha.kind
    refine returns_lift_bind.mpr
      ⟨(), leaving_of_eq_ok (RuntimeResources.validate_eq_ok.mpr ha.resources), ?_⟩
    refine returns_lift_bind.mpr ⟨(), leaving_of_eq_ok (HealthState.validate_eq_ok.mpr ha.health), ?_⟩
    refine Prog.returns_reject_bind.mpr ⟨?_, ?_⟩
    · rintro (hd | hgt)
      · exact ha.living hd
      · exact absurd ha.dice (Nat.not_le_of_lt hgt)
    refine Prog.returns_reject_bind.mpr ⟨not_not.mpr ha.modifier, ?_⟩
    refine returns_lift_bind.mpr ⟨sides, leaving_of_eq_ok hkind, ?_⟩
    refine returns_lift_bind.mpr ⟨(), leaving_of_eq_ok ha.recovery, ?_⟩
    exact Prog.returns_bind.mpr ⟨t₁, t₂, spent, ht, Prog.returns_mapErr.mpr hdice, hclose⟩

/-- What a run of hit dice leaves of what a rest checks. -/
structure DiceSpent (r : RuntimeResources) (h : HealthState) (faces : List Nat) (r' : RuntimeResources)
    (h' : HealthState) : Prop where
  kind : hitDieSides r' = hitDieSides r
  recovery : ∀ b, validateArcaneRecoveryRequest r' b = validateArcaneRecoveryRequest r b
  dice : r'.hitDice.current + faces.length = r.hitDice.current
  inRange : ∀ face ∈ faces, ∃ sides, hitDieSides r = .ok sides ∧ InRange sides face
  living : h.vitalStatus ≠ .dead → h'.vitalStatus ≠ .dead
  valid : r.Valid → h.Valid → r'.Valid ∧ h'.Valid

theorem healed_living {amount : Nat} (hlive : h.vitalStatus ≠ .dead) :
    (h.healed amount).vitalStatus ≠ .dead := by
  unfold HealthState.healed
  dsimp only
  split
  · exact nofun
  · exact hlive

theorem diceSpent_of_run
    (hrun : Run (HitDieStep modifier) s faces s') : DiceSpent s.1 s.2 faces s'.1 s'.2 := by
  induction hrun with
  | nil s => exact ⟨rfl, fun _ => rfl, rfl, nofun, id, fun hr hh => ⟨hr, hh⟩⟩
  | @cons s s₁ s₂ face faces hstep _ ih =>
    obtain ⟨resolution, hspent⟩ := hstep.spent
    have hresources := hspent.resources
    have hkind : hitDieSides s₁.1 = hitDieSides s.1 := by
      rw [hresources]
      rfl
    have hdrawn : s₁.1.hitDice.current = s.1.hitDice.current - 1 := by
      rw [hresources]
      rfl
    have hpos := hspent.available
    have hrest := ih.dice
    refine ⟨ih.kind.trans hkind, fun b => ?_, ?_, ?_, fun hlive => ?_, fun hr _ => ?_⟩
    · rw [ih.recovery, hresources]
      rfl
    · rw [List.length_cons]
      omega
    · refine List.forall_mem_cons.mpr ⟨hspent.inRange, fun f hf => ?_⟩
      rw [← hkind]
      exact ih.inRange f hf
    · refine ih.living ?_
      rw [hspent.health]
      exact healed_living hlive
    · refine ih.valid ?_ hspent.valid.2.2
      rw [hresources]
      exact hr.drawDie

/-! ## The rest as its dice -/

/-- The rest with `faces`, against those dice one by one and a rest without any. -/
theorem takeShortRest_steps (hr : r.Valid) (hh : h.Valid)
    (hmaximum : h.maximum ≤ maxU16) :
    (∃ t resolution, t.map Prod.snd = faces ∧
        Prog.Returns (takeShortRest r h modifier ⟨faces.length, useArcaneRecovery⟩) t (resolution, r', h')) ↔
      ∃ s, Run (HitDieStep modifier) (r, h) faces s ∧ ∃ resolution,
        Prog.Returns (takeShortRest s.1 s.2 modifier ⟨0, useArcaneRecovery⟩) [] (resolution, r', h') := by
  constructor
  · rintro ⟨t, resolution, rfl, hret⟩
    obtain ⟨ha, t₁, t₂, ⟨rolls, recovered, r₁, h₁⟩, rfl, hdice, hclose⟩ := takeShortRest_returns_iff.mp hret
    obtain ⟨rfl, hclosed⟩ := closeRest_transfer (r₁, h₁) [] 0 hclose
    obtain ⟨hrun, -⟩ := spendHitDice_steps hdice
    rw [List.append_nil]
    obtain ⟨hkind, hrecovery, -, -, hliving, hvalid⟩ := diceSpent_of_run hrun
    obtain ⟨hr₁, hh₁⟩ := hvalid hr hh
    refine ⟨(r₁, h₁), hrun, _, takeShortRest_returns_iff.mpr ⟨?_, [], [], _, rfl, .ok _, hclosed⟩⟩
    exact ⟨hr₁, hh₁, hliving ha.living, Nat.zero_le _, ha.modifier, hkind ▸ ha.kind, (hrecovery _).trans ha.recovery⟩
  · rintro ⟨⟨r₁, h₁⟩, hrun, resolution, hret⟩
    obtain ⟨ha, t₁, t₂, spent, ht, hdice, hclose⟩ := takeShortRest_returns_iff.mp hret
    obtain ⟨rfl, rfl⟩ := hdice.of_ok
    obtain ⟨t, hfaces, hdice, -⟩ := spendHitDice_of_steps [] 0 hh hmaximum (Nat.zero_le _) hrun
    obtain ⟨rfl, hclosed⟩ := closeRest_transfer (r, h) ([] ++ faces) (0 + (h₁.current - h.current)) hclose
    obtain ⟨hkind, hrecovery, hdrawn, -, -, -⟩ := diceSpent_of_run hrun
    refine ⟨t, _, hfaces, takeShortRest_returns_iff.mpr ⟨?_, t, [], _, (List.append_nil _).symm, hdice, hclosed⟩⟩
    have hliving : h.vitalStatus ≠ .dead := by
      -- the first die asks for a living hero, and without dice the rest does
      cases hrun with
      | nil => exact ha.living
      | cons hstep _ => exact hstep.spent.choose_spec.living
    exact ⟨hr, hh, hliving, hdrawn ▸ Nat.le_add_left _ _, ha.modifier, hkind ▸ ha.kind,
      (hrecovery _).symm.trans ha.recovery⟩

/-- Dice do not touch what Arcane Recovery draws on. -/
theorem spendHitDice_meets :
    Prog.Meets AnyFace (spendHitDice modifier n rolls recovered r h)
      (fun spent => spent.2.2.1.arcaneRecovery = r.arcaneRecovery ∧
        spent.2.2.1.levelOneSpellSlots = r.levelOneSpellSlots) fun _ => True := by
  induction n generalizing rolls recovered r h with
  | zero => exact ⟨rfl, rfl⟩
  | succ n ih =>
    unfold spendHitDice
    rw [Prog.meets_bind, Prog.meets_mapErr]
    refine spendHitDie_meets.mono (fun ⟨spend, r₁, h₁⟩ hspends => ?_) fun _ _ => trivial
    refine Prog.meets_reject_bind.mpr ⟨fun _ => ih.mono (fun spent hkeeps => ?_) fun _ _ => trivial, fun _ => trivial⟩
    have huses : r₁ = _ := hspends.uses
    rw [huses] at hkeeps
    exact hkeeps

/-- **A short rest goes through, or leaves everything as it was.** -/
theorem takeShortRest_meets (r : RuntimeResources) (h : HealthState) (modifier : Int8) (n : Nat)
    (useArcaneRecovery : Bool) :
    Prog.Meets AnyFace (takeShortRest r h modifier ⟨n, useArcaneRecovery⟩) (fun _ => True) fun e => e.2 = (r, h) := by
  refine meets_leaving_bind.mpr fun _ _ => ?_
  refine meets_leaving_bind.mpr fun _ _ => ?_
  refine meets_refusing_bind.mpr fun _ => ?_
  refine meets_refusing_bind.mpr fun _ => ?_
  refine meets_leaving_bind.mpr fun _ _ => ?_
  refine meets_leaving_bind.mpr fun _ hrecovery => ?_
  refine meets_before_bind spendHitDice_meets fun ⟨rolls, recovered, rested, next⟩ hkeeps => ?_
  cases useArcaneRecovery with
  | false =>
    refine meets_leaving_bind.mpr fun _ _ => ?_
    exact meets_leaving_bind.mpr fun _ _ => trivial
  | true =>
    -- the request was checked to have both of its pools
    obtain ⟨recovery, hpool, hrecovery⟩ := bind_eq_ok.mp hrecovery
    obtain ⟨slots, hslots, -⟩ := bind_eq_ok.mp hrecovery
    refine Prog.meets_expect_bind.mpr ⟨recovery, hkeeps.1.trans (okOr_eq_ok.mp hpool), ?_⟩
    refine Prog.meets_expect_bind.mpr ⟨slots, hkeeps.2.trans (okOr_eq_ok.mp hslots), ?_⟩
    refine meets_leaving_bind.mpr fun _ _ => ?_
    refine meets_leaving_bind.mpr fun _ _ => ?_
    exact meets_leaving_bind.mpr fun _ _ => trivial

/-- A source that shows the dice of a list, in order. -/
def listDice (faces : List Nat) (_ : Nat) : Nat × List Nat := (faces.headD 0, faces.tail)

theorem faces_of_feeds {rest : List Nat} (hfeeds : Prog.Feeds listDice faces t rest)
    (hlength : t.length = faces.length) : t.map Prod.snd = faces := by
  induction t generalizing faces with
  | nil => exact (List.length_eq_zero_iff.mp hlength.symm).symm
  | cons x t ih =>
    obtain ⟨sides, face⟩ := x
    obtain ⟨hface, hfeeds⟩ := Prog.feeds_cons.mp hfeeds
    cases faces with
    | nil => cases hlength
    | cons f faces =>
      have hshown : face = f := hface
      have htail : t.map Prod.snd = faces := ih hfeeds (Nat.succ.inj hlength)
      rw [List.map_cons, htail, hshown]

/-- **A short rest equals its steps.** With the dice of a list it goes through exactly when spending them one at a
    time and closing with a rest that spends none does, and to the same resources and health. With a die that is out
    of range, or one more than there are, it changes nothing. -/
theorem short_rest_equals_steps {r : RuntimeResources} {h : HealthState} (hr : r.Valid) (hh : h.Valid)
    (hmaximum : h.maximum ≤ maxU16) (modifier : Int8) (useArcaneRecovery : Bool) (faces : List Nat) :
    (∀ r' h', (∃ t resolution, t.map Prod.snd = faces ∧
        Prog.Returns (takeShortRest r h modifier ⟨faces.length, useArcaneRecovery⟩) t (resolution, r', h')) ↔
      ∃ s, Run (HitDieStep modifier) (r, h) faces s ∧ ∃ resolution,
        Prog.Returns (takeShortRest s.1 s.2 modifier ⟨0, useArcaneRecovery⟩) [] (resolution, r', h')) ∧
    ((∃ face ∈ faces, ∀ sides, hitDieSides r = .ok sides → ¬ InRange sides face) ∨ r.hitDice.current < faces.length →
      ∃ e, ((takeShortRest r h modifier ⟨faces.length, useArcaneRecovery⟩).run listDice faces).1 = .err (e, r, h)) := by
  refine ⟨fun r' h' => takeShortRest_steps hr hh hmaximum, fun hbad => ?_⟩
  have hwithin : Outcome.Within (fun _ => True) (fun e => e.2 = (r, h))
      ((takeShortRest r h modifier ⟨faces.length, useArcaneRecovery⟩).run listDice faces).1 :=
    (takeShortRest_meets r h modifier faces.length useArcaneRecovery).run (fun _ _ => trivial) faces
  generalize hrun : (takeShortRest r h modifier ⟨faces.length, useArcaneRecovery⟩).run listDice faces = out at hwithin ⊢
  obtain ⟨out, rest⟩ := out
  cases out with
  | panic w => exact hwithin.elim
  | err e =>
    obtain ⟨e, r', h'⟩ := e
    obtain ⟨rfl, rfl⟩ := Prod.mk.inj (show (r', h') = (r, h) from hwithin)
    exact ⟨e, rfl⟩
  | ok x =>
    -- it would have spent every die of the list
    obtain ⟨t, hret, hfeeds⟩ := Prog.run_eq_ok.mp hrun
    obtain ⟨ha, t₁, t₂, ⟨rolls, recovered, r₁, h₁⟩, rfl, hdice, hclose⟩ := takeShortRest_returns_iff.mp hret
    obtain ⟨rfl, -⟩ := closeRest_transfer (r, h) [] 0 hclose
    obtain ⟨hsteps, hlength, -⟩ := spendHitDice_steps hdice
    rw [List.append_nil] at hfeeds
    rw [faces_of_feeds hfeeds hlength] at hsteps
    have hspent := diceSpent_of_run hsteps
    rcases hbad with ⟨face, hmem, hout⟩ | hmore
    · obtain ⟨sides, hkind, hin⟩ := hspent.inRange face hmem
      exact absurd hin (hout sides hkind)
    · exact absurd ha.dice (Nat.not_le_of_lt hmore)

/-- A fighter of the second level, badly hurt. -/
def hurtFighter : HealthState :=
  { maximum := 20, current := 5, temporary := 0, vitalStatus := .active, deathSaves := {} }

/-- An eleven on a d10 undoes the six before it. -/
theorem eleven_undoes_six : ∃ e, ((takeShortRest (.new .fighter .two) hurtFighter 2 ⟨2, false⟩).run listDice [6, 11]).1 =
    .err (e, .new .fighter .two, hurtFighter) := by
  have hr : (RuntimeResources.new .fighter .two).Valid := RuntimeResources.validate_eq_ok.mp rfl
  have hh : hurtFighter.Valid := HealthState.validate_eq_ok.mp rfl
  refine (short_rest_equals_steps hr hh (by decide) 2 false [6, 11]).2 (.inl ⟨11, by decide, fun sides hsides => ?_⟩)
  obtain rfl : 10 = sides := Except.ok.inj hsides
  decide

end ManchesterArcana.Rules
