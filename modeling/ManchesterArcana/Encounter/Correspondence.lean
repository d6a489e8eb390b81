import ManchesterArcana.Effect.Run
import ManchesterArcana.Encounter.Combat
import ManchesterArcana.Encounter.Opening

/-!
# `Encounter.Correspondence` — the encounter's health rules against the rules matrix

The encounter has its own damage rule and its own death save; the rules matrix has both again, on its own
record of health. `toHealth` reads a combatant as such a record. Under the rules as written the two damage
rules part ways on a hero who is down: the matrix counts damage that temporary hit points absorb, starts a
stable hero's tally afresh and knows no instant death; `DamageAgrees` says exactly when none of this shows.
The death saves agree face by face, so the two machines stay together for as long as every hit agrees.
-/

namespace ManchesterArcana.Encounter

open Effect Rules

/-! ## Reading a combatant as health of the rules matrix -/

def LifeStatus.toVital : LifeStatus → VitalStatus
  | .conscious => .active
  | .unconscious => .dying
  | .stable => .stable
  | .dead => .dead

def toHealth (c : CombatantState) : HealthState where
  maximum := c.hitPoints.maximum
  current := c.hitPoints.current
  temporary := c.hitPoints.temporary
  vitalStatus := c.lifeStatus.toVital
  deathSaves := ⟨c.hitPoints.deathSaves.successes, c.hitPoints.deathSaves.failures⟩

variable {c : CombatantState} {amount : Nat} {h : HealthState}

/-- A valid hero reads as valid health, unless stable with a third failure on record. -/
theorem toHealth_valid (hh : HealthValid c) (hk : c.kind = .hero)
    (hmax : c.hitPoints.maximum ≠ 0) (hstable : c.lifeStatus = .stable → c.hitPoints.deathSaves.failures < 3) :
    (toHealth c).Valid := by
  have hlife := hh.life
  refine ⟨rfl, hmax, hh.current_le, hh.successes_le, hh.failures_le, ?_⟩
  unfold HealthState.StatusShape toHealth
  unfold CombatantState.LifeShape at hlife
  rw [hk] at hlife
  cases hl : c.lifeStatus <;> rw [hl] at hlife
  case conscious =>
    refine ⟨hlife.1, ?_⟩
    rw [hlife.2]
  case unconscious => exact hlife
  case stable => exact ⟨hlife.1, hlife.2, hstable hl⟩
  case dead => exact hlife

/-- A stable hero with a third failure on record does not read as valid health. -/
theorem toHealth_invalid (hl : c.lifeStatus = .stable)
    (hf : c.hitPoints.deathSaves.failures = 3) : ¬ (toHealth c).Valid := by
  intro hv
  have hshape := hv.shape
  unfold HealthState.StatusShape toHealth at hshape
  rw [hl] at hshape
  have hlt : c.hitPoints.deathSaves.failures < 3 := hshape.2.2
  omega

/-! ## Damage -/

/-- The health that accepted damage of the normal interaction leaves behind. -/
def damagedHealth (h : HealthState) (amount : Nat) (critical : Bool) : HealthState :=
  let absorbed := min h.temporary amount
  let lost := min h.current (amount - absorbed)
  ({ h with temporary := h.temporary - absorbed, current := h.current - lost }.settleDamage h.current amount
    (amount - absorbed - lost) critical).1

/-- Damage that the rules matrix accepts. -/
theorem healthAfter_damage {request : DamageRequest} (hv : h.Valid)
    (ha : request.amount ≠ 0) (hd : h.vitalStatus ≠ .dead) :
    healthAfter (Rules.applyDamage h .normal request) =
      damagedHealth h request.amount request.criticalHit := by
  have hok := HealthState.validate_eq_ok.mpr hv
  simp only [Rules.applyDamage, leaving_of_eq_ok hok, DamageProfile.normal_validate, leaving_ok, ok_bind,
    leaving_of_eq_ok (rejectIf_of_not ha), leaving_of_eq_ok (rejectIf_of_not hd),
    DamageProfile.normal_interaction, interactedDamage, damagedHealth]
  -- whether or not the exit check passes, the settled health is what is left
  rcases hsettle : HealthState.settleDamage _ _ _ _ _ with ⟨next, added, changes⟩
  rcases hexit : next.validate with e | u <;> rfl

/-- Damage that the rules matrix refuses leaves health as it is. -/
theorem healthAfter_refused {request : DamageRequest}
    (hno : ¬ h.Valid ∨ request.amount = 0) : healthAfter (Rules.applyDamage h .normal request) = h := by
  by_cases hv : h.Valid
  · have hok := HealthState.validate_eq_ok.mpr hv
    have ha : request.amount = 0 := hno.resolve_left (not_not.mpr hv)
    have hrefuse : rejectIf (request.amount = 0) (RulesMatrixError.invalidIntent "damage must be positive") =
        .error (.invalidIntent "damage must be positive") := rejectIf_eq_error.mpr ⟨ha, rfl⟩
    simp only [Rules.applyDamage, leaving_of_eq_ok hok, DamageProfile.normal_validate, leaving_ok, ok_bind,
      hrefuse]
    rfl
  · have herr : ∃ e, h.validate = .error e := by
      cases hval : h.validate with
      | error e => exact ⟨e, rfl⟩
      | ok u => exact absurd (HealthState.validate_eq_ok.mp hval) hv
    obtain ⟨e, he⟩ := herr
    simp only [Rules.applyDamage, he]
    rfl

/-- **When a hit on a hero agrees in both machines.** Either it does nothing, or the hero is up; or the hero
    is dying, some of it gets past the temporary hit points, and it does not kill outright — unless the count
    of failures does so anyway; or the hero is stable without a failure on record. -/
def DamageAgrees (c : CombatantState) (amount : Nat) (critical : Bool) : Prop :=
  let past := amount - min amount c.hitPoints.temporary
  match c.lifeStatus with
  | .conscious => True
  | .unconscious => amount = 0 ∨ (0 < past ∧
      (past < c.hitPoints.maximum ∨ 3 ≤ c.hitPoints.deathSaves.failures + if critical then 2 else 1))
  | .stable => amount = 0 ∨ (0 < past ∧ past < c.hitPoints.maximum ∧ c.hitPoints.deathSaves.failures = 0)
  | .dead => amount = 0

instance {c : CombatantState} {amount : Nat} {critical : Bool} : Decidable (DamageAgrees c amount critical) := by
  unfold DamageAgrees
  cases c.lifeStatus <;> infer_instance

/-- The encounter's damage under the rules as written, read as health. -/
theorem toHealth_applyDamage (hk : c.kind = .hero) {critical : Bool} :
    toHealth (applyDamage c amount critical .rulesAsWritten).1 =
      let past := amount - min amount c.hitPoints.temporary
      let shielded := c.shielded (min amount c.hitPoints.temporary)
      toHealth (if c.hitPoints.current > 0 then shielded.strikeStanding past
        else if past > 0 then shielded.strikeFallen past critical else shielded) := by
  rw [applyDamage_fst]
  unfold CombatantState.strike
  have hkind : (c.shielded (min amount c.hitPoints.temporary)).kind ≠ .creature := by
    show c.kind ≠ .creature
    rw [hk]; decide
  rw [if_neg hkind, if_neg (by decide)]
  rfl

/-- A hero who is up takes the same damage in both machines. -/
theorem damage_conscious (hh : HealthValid c) (hk : c.kind = .hero)
    (hup : c.lifeStatus = .conscious) (amount : Nat) (critical : Bool) :
    toHealth (applyDamage c amount critical .rulesAsWritten).1 = damagedHealth (toHealth c) amount critical := by
  have hlife := hh.life
  unfold CombatantState.LifeShape at hlife
  rw [hk, hup] at hlife
  obtain ⟨hpos, hclear⟩ := hlife
  rw [toHealth_applyDamage hk, damagedHealth]
  dsimp only [toHealth]
  rw [if_pos (show c.hitPoints.current > 0 by omega), Nat.min_comm c.hitPoints.temporary amount]
  generalize amount - min amount c.hitPoints.temporary = past
  by_cases hdown : past ≥ c.hitPoints.current
  · rw [HealthState.settleDamage_falls (by omega) (by show _ - min _ _ = 0; omega)]
    unfold CombatantState.strikeStanding CombatantState.shielded
    dsimp only
    rw [if_pos hdown, Nat.min_eq_left hdown, Nat.sub_self]
    by_cases hmassive : past - c.hitPoints.current ≥ c.hitPoints.maximum
    · simp only [hmassive, if_true, LifeStatus.toVital]
    · simp only [hmassive, if_false, LifeStatus.toVital]
  · have hlost : min c.hitPoints.current past = past := by omega
    rw [hlost, HealthState.settleDamage_stands (by omega) (by show _ - _ ≠ 0; omega)]
    unfold CombatantState.strikeStanding CombatantState.shielded
    dsimp only
    rw [if_neg hdown]

/-- A dying hero takes the same damage exactly when some of it gets past the temporary hit points and it does
    not kill outright, or the failures do. -/
theorem damage_dying (hh : HealthValid c) (hk : c.kind = .hero)
    (hdying : c.lifeStatus = .unconscious) (ha : amount ≠ 0) (critical : Bool) :
    toHealth (applyDamage c amount critical .rulesAsWritten).1 = damagedHealth (toHealth c) amount critical ↔
      DamageAgrees c amount critical := by
  have hlife := hh.life
  unfold CombatantState.LifeShape at hlife
  rw [hk, hdying] at hlife
  obtain ⟨hdown, hs, hf⟩ := hlife
  rw [toHealth_applyDamage hk, damagedHealth]
  dsimp only [toHealth, DamageAgrees]
  rw [if_neg (show ¬ c.hitPoints.current > 0 by omega), Nat.min_comm c.hitPoints.temporary amount, hdown,
    HealthState.settleDamage_dying (by omega) (by rw [hdying]; rfl), hdying]
  generalize amount - min amount c.hitPoints.temporary = past
  unfold CombatantState.strikeFallen CombatantState.shielded
  dsimp only
  by_cases hpast : past > 0
  · by_cases hmassive : past ≥ c.hitPoints.maximum
    · rw [if_pos hpast, if_pos hmassive]
      -- killed outright: the matrix agrees only when the failures kill as well
      generalize c.hitPoints.deathSaves.failures + (if critical = true then 2 else 1) = counted
      by_cases h3 : 3 ≤ counted
      · have hthree : min counted 3 = 3 := Nat.min_eq_right h3
        simp only [hthree, hdown, Nat.zero_sub, if_true, LifeStatus.toVital, h3, hpast, and_self, or_true]
      · have hless : min counted 3 ≠ 3 := by omega
        simp only [HealthState.mk.injEq, LifeStatus.toVital, hless, if_false, reduceCtorEq, false_and, and_false,
          h3, ha, Nat.not_lt.mpr hmassive, or_self]
    · rw [if_pos hpast, if_neg hmassive]
      simp only [HealthState.mk.injEq, hdown, hdying, Nat.zero_sub, true_and, ha, hpast, false_or,
        Nat.not_le.mp hmassive, true_or, iff_true, reduceCtorEq, if_false, and_true]
      rw [apply_ite LifeStatus.toVital]
      rfl
  · rw [if_neg hpast]
    simp only [HealthState.mk.injEq, DeathSaveTally.mk.injEq, hdown, hdying, Nat.zero_sub, true_and, ha, hpast,
      false_or, false_and, iff_false, not_and]
    intro _ hfail
    split at hfail <;> omega

/-- A stable hero takes the same damage exactly when it gets past the temporary hit points, does not kill
    outright, and no failure is on record. -/
theorem damage_stable (hh : HealthValid c) (hk : c.kind = .hero)
    (hstable : c.lifeStatus = .stable) (hf : c.hitPoints.deathSaves.failures < 3)
    (ha : amount ≠ 0) (critical : Bool) :
    toHealth (applyDamage c amount critical .rulesAsWritten).1 = damagedHealth (toHealth c) amount critical ↔
      DamageAgrees c amount critical := by
  have hlife := hh.life
  unfold CombatantState.LifeShape at hlife
  rw [hk, hstable] at hlife
  obtain ⟨hdown, hs⟩ := hlife
  rw [toHealth_applyDamage hk, damagedHealth]
  dsimp only [toHealth, DamageAgrees]
  rw [if_neg (show ¬ c.hitPoints.current > 0 by omega), Nat.min_comm c.hitPoints.temporary amount, hdown,
    HealthState.settleDamage_stable (by omega) (by rw [hstable]; rfl), hstable]
  generalize amount - min amount c.hitPoints.temporary = past
  unfold CombatantState.strikeFallen CombatantState.shielded
  dsimp only
  by_cases hpast : past > 0
  · by_cases hmassive : past ≥ c.hitPoints.maximum
    · rw [if_pos hpast, if_pos hmassive]
      simp only [HealthState.mk.injEq, LifeStatus.toVital, ha, hpast, false_or, Nat.not_lt.mpr hmassive,
        false_and, and_false, reduceCtorEq]
    · rw [if_pos hpast, if_neg hmassive]
      simp only [HealthState.mk.injEq, DeathSaveTally.mk.injEq, hdown, hstable, Nat.zero_sub, true_and, ha,
        hpast, false_or, Nat.not_le.mp hmassive, if_true]
      constructor
      · rintro ⟨-, hfail⟩
        split at hfail <;> omega
      · intro h0
        rw [h0]
        cases critical <;> exact ⟨rfl, rfl⟩
  · rw [if_neg hpast]
    simp only [HealthState.mk.injEq, hstable, LifeStatus.toVital, ha, hpast, false_or, false_and, and_false,
      reduceCtorEq]

/-- A stable hero with a third failure on record takes damage that the rules matrix refuses. -/
theorem damage_refused (hh : HealthValid c) (hk : c.kind = .hero)
    (hstable : c.lifeStatus = .stable) (ha : amount ≠ 0) (critical : Bool) :
    toHealth (applyDamage c amount critical .rulesAsWritten).1 ≠ toHealth c := by
  have hlife := hh.life
  unfold CombatantState.LifeShape at hlife
  rw [hk, hstable] at hlife
  rw [toHealth_applyDamage hk]
  dsimp only
  rw [if_neg (show ¬ c.hitPoints.current > 0 by omega)]
  intro heq
  by_cases hpast : amount - min amount c.hitPoints.temporary > 0
  · rw [if_pos hpast] at heq
    have hvital := congrArg HealthState.vitalStatus heq
    unfold CombatantState.strikeFallen CombatantState.shielded toHealth at hvital
    dsimp only at hvital
    rw [hstable] at hvital
    split at hvital
    · cases hvital
    · dsimp only at hvital
      rw [apply_ite LifeStatus.toVital, if_pos rfl] at hvital
      have hnot (p : Prop) [Decidable p] : (if p then VitalStatus.dead else VitalStatus.dying) ≠ .stable := by
        split <;> nofun
      exact hnot _ hvital
  · rw [if_neg hpast] at heq
    have htemporary : c.hitPoints.temporary - min amount c.hitPoints.temporary = c.hitPoints.temporary :=
      congrArg HealthState.temporary heq
    omega

/-- No damage changes nothing. -/
theorem toHealth_applyDamage_zero (hk : c.kind = .hero) (critical : Bool) :
    toHealth (applyDamage c 0 critical .rulesAsWritten).1 = toHealth c := by
  rw [toHealth_applyDamage hk]
  dsimp only
  rw [Nat.zero_min, if_neg (show ¬ (0 - 0 > 0) by decide)]
  split
  · next hup =>
    have hstand : ¬ (0 - 0 ≥ (c.shielded 0).hitPoints.current) := by
      show ¬ (0 - 0 ≥ c.hitPoints.current)
      omega
    rw [CombatantState.strikeStanding, if_neg hstand]
    rfl
  · rfl

/-- **The two damage rules agree exactly under `DamageAgrees`**: for every hero who is not dead, under the
    rules as written, for every damage and every damage type. -/
theorem applyDamage_agrees_iff {c : CombatantState} {map : EncounterMap} (hv : c.Valid map)
    (hk : c.kind = .hero) (hd : c.lifeStatus ≠ .dead) (amount : Nat) (critical : Bool)
    (damageType : ManchesterArcana.DamageType) :
    toHealth (applyDamage c amount critical .rulesAsWritten).1 =
        healthAfter (Rules.applyDamage (toHealth c) .normal ⟨amount, damageType, critical⟩) ↔
      DamageAgrees c amount critical := by
  have hh := hv.health
  by_cases ha : amount = 0
  · subst ha
    rw [healthAfter_refused (.inr rfl), toHealth_applyDamage_zero hk]
    unfold DamageAgrees
    cases hl : c.lifeStatus <;> simp
  have hlive : (toHealth c).vitalStatus ≠ .dead := by
    show c.lifeStatus.toVital ≠ .dead
    cases hl : c.lifeStatus
    case dead => exact absurd hl hd
    all_goals nofun
  have hcounts (hno3 : c.lifeStatus = .stable → c.hitPoints.deathSaves.failures < 3) :
      healthAfter (Rules.applyDamage (toHealth c) .normal ⟨amount, damageType, critical⟩) =
        damagedHealth (toHealth c) amount critical :=
    healthAfter_damage (toHealth_valid hh hk hv.maximum_pos hno3) ha hlive
  cases hl : c.lifeStatus
  case conscious =>
    rw [hcounts (fun h => absurd (hl.symm.trans h) (by decide)), damage_conscious hh hk hl]
    simp only [DamageAgrees, hl]
  case unconscious =>
    rw [hcounts (fun h => absurd (hl.symm.trans h) (by decide))]
    exact damage_dying hh hk hl ha critical
  case stable =>
    by_cases h3 : c.hitPoints.deathSaves.failures = 3
    · rw [healthAfter_refused (.inl (toHealth_invalid hl h3))]
      refine iff_of_false (damage_refused hh hk hl ha critical) ?_
      unfold DamageAgrees
      rw [hl]
      rintro (h0 | ⟨-, -, hnone⟩)
      · exact ha h0
      · omega
    · have hf := hh.failures_le
      rw [hcounts fun _ => by omega]
      exact damage_stable hh hk hl (by omega) ha critical
  case dead => exact absurd hl hd

/-- The Canal Warden on the warden's turn, dying with one success and one failure. -/
def dyingWarden : EncounterState :=
  let opened := EncounterState.new .rulesAsWritten .runesMisread
  { opened with
    hero := { opened.hero with
      hitPoints := ⟨0, heroMaximumHitPoints, 0, ⟨1, 1⟩⟩
      lifeStatus := .unconscious }
    initiative := some (initiativeOf [⟨canalWardenId, 15, 2, 17, 0⟩, ⟨sootWightId, 9, 1, 10, 0⟩])
    round := 2
    currentActorIndex := some 0
    currentActorId := some canalWardenId
    turnResources := some ⟨true, 30, false, true, true⟩
    status := .active }

theorem dyingWarden_valid : dyingWarden.Valid := EncounterState.validate_eq_ok.mp (by decide)

/-- A hit of eight neither kills outright nor is absorbed. -/
theorem applyDamage_agrees_eight :
    toHealth (applyDamage dyingWarden.hero 8 false .rulesAsWritten).1 =
      healthAfter (Rules.applyDamage (toHealth dyingWarden.hero) .normal ⟨8, .slashing, false⟩) :=
  (applyDamage_agrees_iff dyingWarden_valid.hero rfl (by decide) 8 false .slashing).mpr (by decide)

/-- **A massive hit on a dying hero parts the two rules**: twelve damage against a maximum of twelve kills in
    the encounter, and is one more failure in the rules matrix. -/
theorem applyDamage_massive_disagrees :
    ¬ ∀ (c : CombatantState) (map : EncounterMap) (amount : Nat) (critical : Bool)
      (damageType : ManchesterArcana.DamageType), c.Valid map → c.kind = .hero → c.lifeStatus ≠ .dead →
      toHealth (applyDamage c amount critical .rulesAsWritten).1 =
        healthAfter (Rules.applyDamage (toHealth c) .normal ⟨amount, damageType, critical⟩) := by
  intro h
  have hagree := h dyingWarden.hero _ 12 false .slashing dyingWarden_valid.hero rfl (by decide)
  exact absurd hagree (by decide)

/-! ## Death saves -/

/-- What happens to a dying hero: a death save with its face, a hit, or a turn that passes. -/
inductive DyingEvent where
  | save (face : Nat)
  | hit (amount : Nat) (critical : Bool)
  | turn

/-- The encounter's answer to an event, on the state. A hit is the damage rule with what follows from it. -/
inductive DyingStep : EncounterState → DyingEvent → EncounterState → Prop where
  | save {d : Draft} {face : Nat} {r : Resolved} :
      Prog.Returns (resolveDeathSave d) [(20, face)] r → DyingStep d.state (.save face) r.2.state
  | hit {d : Draft} {amount : Nat} {critical : Bool} :
      d.state.hero.lifeStatus = .unconscious →
      DyingStep d.state (.hit amount critical)
        (finishForHealthTransition
          (d.update fun s => { s with hero := (applyDamage s.hero amount critical s.lethalityPolicy).1 })
          canalWardenId).2.state
  | turn {d d' : Draft} : Prog.Returns (advanceTurn d) [] d' → DyingStep d.state .turn d'.state

/-- The rules matrix's answer to the same event, on health. -/
def rulesHealth (h : HealthState) : DyingEvent → HealthState
  | .save face =>
    match (Rules.resolveDeathSave h).run (fun _ _ => (face, ())) () with
    | (.ok (_, h'), _) | (.err (_, h'), _) => h'
    | (.panic _, _) => h
  | .hit amount critical => healthAfter (Rules.applyDamage h .normal ⟨amount, .slashing, critical⟩)
  | .turn => h

/-- A face settles the rules matrix's health as the source's transition says. -/
theorem rulesHealth_save (hv : h.Valid) (hd : h.vitalStatus = .dying) {face : Nat}
    (hf : InRange 20 face) : rulesHealth h (.save face) = (h.settleDeathSave face).1 := by
  obtain ⟨r, hr⟩ := Rules.resolveDeathSave_returns hv hd hf
  have hfeeds : Prog.Feeds (fun (_ : Unit) (_ : Nat) => (face, ())) () [(20, face)] () :=
    .cons () 20 (.nil ())
  have hrun := hfeeds.run hr
  unfold rulesHealth
  dsimp only
  rw [hrun]

/-- **Face by face, the two death saves are one.** -/
theorem toHealth_saveDeath (hh : HealthValid c) (hk : c.kind = .hero)
    (hdying : c.lifeStatus = .unconscious) (face : Nat) :
    toHealth (c.saveDeath face) = ((toHealth c).settleDeathSave face).1 := by
  have hlife := hh.life
  unfold CombatantState.LifeShape at hlife
  rw [hk, hdying] at hlife
  obtain ⟨hdown, hs, hf⟩ := hlife
  unfold CombatantState.saveDeath CombatantState.countDeathSave HealthState.settleDeathSave
  by_cases h20 : face = 20
  · rw [if_pos h20, if_pos h20]
    rfl
  rw [if_neg h20, if_neg h20]
  unfold CombatantState.settleDeathSaves
  by_cases h1 : face = 1
  · rw [if_pos h1, if_pos h1]
    dsimp only [toHealth]
    by_cases h3 : min (c.hitPoints.deathSaves.failures + 2) 3 = 3
    · simp only [h3, if_true, LifeStatus.toVital]
    · simp only [h3, if_false, if_neg (show c.hitPoints.deathSaves.successes ≠ 3 by omega)]
  rw [if_neg h1, if_neg h1]
  by_cases hsucc : 10 ≤ face ∧ face ≤ 19
  · rw [if_pos hsucc, if_pos hsucc]
    dsimp only [toHealth]
    have hmin : min (c.hitPoints.deathSaves.successes + 1) 3 = c.hitPoints.deathSaves.successes + 1 := by omega
    rw [if_neg (show c.hitPoints.deathSaves.failures ≠ 3 by omega), hmin]
    by_cases h3 : c.hitPoints.deathSaves.successes + 1 = 3
    · simp only [h3, if_true, LifeStatus.toVital]
    · simp only [h3, if_false]
  · rw [if_neg hsucc, if_neg hsucc]
    dsimp only [toHealth]
    have hmin : min (c.hitPoints.deathSaves.failures + 1) 3 = c.hitPoints.deathSaves.failures + 1 := by omega
    rw [hmin]
    by_cases h3 : c.hitPoints.deathSaves.failures + 1 = 3
    · simp only [h3, if_true, LifeStatus.toVital]
    · simp only [h3, if_false, if_neg (show c.hitPoints.deathSaves.successes ≠ 3 by omega)]

/-! ## Runs -/

/-- A hero of the rules as written whose health is valid. -/
structure RawHero (s : EncounterState) : Prop where
  policy : s.lethalityPolicy = .rulesAsWritten
  kind : s.hero.kind = .hero
  valid : ∃ map, s.hero.Valid map

/-- The condition on one event: a hit agrees. -/
def DyingEvent.Agrees (s : EncounterState) : DyingEvent → Prop
  | .hit amount critical => DamageAgrees s.hero amount critical
  | _ => True

/-- **One event, both machines**: the invariant is kept, and the rules matrix arrives where the encounter's
    hero is. -/
theorem dyingStep_mirrors {s s' : EncounterState} {e : DyingEvent} (hs : RawHero s) (hstep : DyingStep s e s')
    (hagree : e.Agrees s) : RawHero s' ∧ toHealth s'.hero = rulesHealth (toHealth s.hero) e := by
  obtain ⟨hpolicy, hk, map, hv⟩ := hs
  cases hstep with
  | @save d face r hr =>
    obtain ⟨-, -, hdying, -, natural, ht, hin, hhero, hframe⟩ := resolveDeathSave_returns hr
    obtain rfl : face = natural := by simpa using ht
    have hchanged : HealthChanged d.state.hero (d.state.hero.saveDeath face) := saveDeath_changed
    have hvital : (toHealth d.state.hero).vitalStatus = .dying := by
      show d.state.hero.lifeStatus.toVital = .dying
      rw [hdying]; rfl
    have hvalid := toHealth_valid hv.health hk hv.maximum_pos (fun h => absurd (hdying.symm.trans h) (by decide))
    refine ⟨⟨hframe.lethalityPolicy.trans hpolicy, ?_, map, ?_⟩, ?_⟩
    · rw [hhero, hchanged]
      exact hk
    · rw [hhero]
      exact hv.of_changed hchanged (saveDeath_health hv.health hk hdying hv.maximum_pos face)
    · rw [hhero, rulesHealth_save hvalid hvital hin]
      exact toHealth_saveDeath hv.health hk hdying face
  | @hit d amount critical hdying =>
    obtain ⟨hframe, hhero, -, -⟩ := @finishForHealthTransition_spec
      (d.update fun s => { s with hero := (applyDamage s.hero amount critical s.lethalityPolicy).1 })
      canalWardenId
    have hchanged : HealthChanged d.state.hero
        (applyDamage d.state.hero amount critical d.state.lethalityPolicy).1 := applyDamage_changed
    have hnot : d.state.hero.lifeStatus ≠ .dead := fun h => absurd (hdying.symm.trans h) (by decide)
    refine ⟨⟨hframe.lethalityPolicy.trans hpolicy, ?_, map, ?_⟩, ?_⟩
    · rw [hhero]
      show (applyDamage d.state.hero amount critical d.state.lethalityPolicy).1.kind = .hero
      rw [hchanged]
      exact hk
    · rw [hhero]
      exact applyDamage_valid hv amount critical d.state.lethalityPolicy
    · rw [hhero]
      show toHealth (applyDamage d.state.hero amount critical d.state.lethalityPolicy).1 = _
      rw [hpolicy]
      exact (applyDamage_agrees_iff hv hk hnot amount critical .slashing).mpr hagree
  | @turn d d' ht =>
    obtain ⟨-, -, hpassed⟩ := advanceTurn_returns ht
    have hhero := hpassed.hero
    refine ⟨⟨hpassed.frame.lethalityPolicy.trans hpolicy, ?_, map, ?_⟩, ?_⟩
    · rw [hhero]; exact hk
    · rw [hhero]; exact hv
    · rw [hhero]; rfl

/-- **Over any sequence of death saves, hits and passing turns, the two machines stay together for as long as
    every hit agrees.** -/
theorem dyingRun_mirrors {s s' : EncounterState} {es : List DyingEvent} (hs : s.Valid)
    (hpolicy : s.lethalityPolicy = .rulesAsWritten)
    (hrun : Run (fun s e s' => DyingStep s e s' ∧ e.Agrees s) s es s') :
    toHealth s'.hero = es.foldl rulesHealth (toHealth s.hero) := by
  have hraw : RawHero s := ⟨hpolicy, hs.fixed.heroKind, s.map, hs.hero⟩
  have hstep : ∀ s e s' h, (RawHero s ∧ toHealth s.hero = h) → (DyingStep s e s' ∧ e.Agrees s) →
      RawHero s' ∧ toHealth s'.hero = rulesHealth h e := by
    rintro s e s' _ ⟨hinv, rfl⟩ ⟨hst, hagree⟩
    exact dyingStep_mirrors hinv hst hagree
  exact (hrun.mirrors hstep ⟨hraw, rfl⟩).2

/-- A success on the warden's turn, then a hit of three on the creature's. -/
theorem dyingRun_mirrors_save_hit :
    ∃ s', Run (fun s e s' => DyingStep s e s' ∧ e.Agrees s) dyingWarden [.save 12, .hit 3 false] s' ∧
      toHealth s'.hero = [.save 12, .hit 3 false].foldl rulesHealth (toHealth dyingWarden.hero) := by
  have hsome : ((resolveDeathSave ⟨dyingWarden, [], []⟩).replay [(20, 12)]).isSome := by decide
  obtain ⟨r, hr⟩ := Option.isSome_iff_exists.mp hsome
  have hreturns := Prog.replay_eq_some.mp hr
  obtain ⟨-, -, -, -, natural, ht, -, hhero, -⟩ := resolveDeathSave_returns hreturns
  obtain rfl : 12 = natural := by simpa using ht
  have hdying : r.2.state.hero.lifeStatus = .unconscious := by
    rw [hhero]; decide
  have hagree : DamageAgrees r.2.state.hero 3 false := by
    rw [hhero]; decide
  have hrun : Run (fun s e s' => DyingStep s e s' ∧ e.Agrees s) dyingWarden [.save 12, .hit 3 false] _ :=
    .cons ⟨.save (d := ⟨dyingWarden, [], []⟩) hreturns, trivial⟩ (.cons ⟨.hit hdying, hagree⟩ (.nil _))
  exact ⟨_, hrun, dyingRun_mirrors dyingWarden_valid rfl hrun⟩

/-- **A massive hit parts the machines**: the encounter's hero is dead, the rules matrix's is dying. -/
theorem dyingRun_massive_parts :
    ¬ ∀ (s s' : EncounterState) (es : List DyingEvent), s.Valid → s.lethalityPolicy = .rulesAsWritten →
      s.hero.lifeStatus = .unconscious → Run DyingStep s es s' →
      toHealth s'.hero = es.foldl rulesHealth (toHealth s.hero) := by
  intro h
  have hstep : DyingStep dyingWarden (.hit 12 false) _ := .hit (d := ⟨dyingWarden, [], []⟩) rfl
  have hmirror := h _ _ [.hit 12 false] dyingWarden_valid rfl rfl (.cons hstep (.nil _))
  exact absurd hmirror (by decide)

end ManchesterArcana.Encounter
