import ManchesterArcana.Rules.Durations
import ManchesterArcana.Rules.Contracts

/-!
# `Rules.Vitality` — health stays valid

Damage, healing, death saves, stabilization and the recovery from a defeat each check a health at the entry
and once more before they return. The second check never fires: what the first one lets through is brought
to a valid health, in closed form (`struck`, `healed`, `stabilized`, `recovered`). Only the recovery of the
story policy brings the dead back.
-/

namespace ManchesterArcana.Rules

open Effect

/-! ## Recovery from a defeat, and temporary hit points -/

structure DefeatRecoveryResolution where
  policy : LethalityPolicy
  storyRecoveryApplied : Bool
  conditionChanges : List HealthConditionChange
  resultingHealth : HealthState
  deriving DecidableEq

def applyDefeatRecovery (policy : LethalityPolicy) (health : HealthState) :
    Mutating HealthState (DefeatRecoveryResolution × HealthState) := do
  leaving health health.validate
  let storyRecoveryApplied := decide (policy = .storyRecovery) && decide (health.vitalStatus ≠ .active)
  let next := if storyRecoveryApplied
    then { health with current := 1, vitalStatus := .active, deathSaves := {} } else health
  leaving next next.validate
  return (
    { policy, storyRecoveryApplied
      conditionChanges := if storyRecoveryApplied then [.removeZeroHitPointConditions] else []
      resultingHealth := next }, next)

/-- Temporary hit points do not add up: the larger amount stays. -/
def grantTemporaryHitPoints (health : HealthState) (offered : Nat) : Mutating HealthState (Nat × HealthState) := do
  leaving health health.validate
  leaving health (rejectIf (offered = 0) (.invalidIntent "temporary hit point offer must be positive"))
  let next := if offered > health.temporary then { health with temporary := offered } else health
  return (next.temporary - health.temporary, next)

/-! ## The transitions in closed form -/

namespace HealthState

/-- Health after `effective` points of damage: temporary hit points first, then hit points, then the toll. -/
def struck (h : HealthState) (effective : Nat) (critical : Bool) : HealthState :=
  let absorbed := min h.temporary effective
  let lost := min h.current (effective - absorbed)
  (settleDamage { h with temporary := h.temporary - absorbed, current := h.current - lost } h.current effective
    (effective - absorbed - lost) critical).1

/-- Health after an amount of healing; whoever was down is up. -/
def healed (h : HealthState) (amount : Nat) : HealthState :=
  let restored := { h with current := h.current + min (h.maximum - h.current) amount }
  if 0 < min (h.maximum - h.current) amount ∧ h.vitalStatus ≠ .active
  then { restored with vitalStatus := .active, deathSaves := {} } else restored

/-- Three successes at once; the failures stay on record. -/
def stabilized (h : HealthState) : HealthState :=
  { h with vitalStatus := .stable, deathSaves := ⟨3, h.deathSaves.failures⟩ }

/-- Up again with one hit point. -/
def revived (h : HealthState) : HealthState :=
  { h with current := 1, vitalStatus := .active, deathSaves := {} }

/-- The story policy revives whoever is down, the dead included. -/
def recovered (h : HealthState) (policy : LethalityPolicy) : HealthState :=
  if policy = .storyRecovery ∧ h.vitalStatus ≠ .active then h.revived else h

variable {h : HealthState}

theorem Valid.active_of_current (hv : h.Valid) (hup : h.current ≠ 0) : h.vitalStatus = .active := by
  have hshape := hv.shape
  unfold StatusShape at hshape
  cases hs : h.vitalStatus with
  | active => rfl
  | dying => rw [hs] at hshape; exact absurd hshape.1 hup
  | stable => rw [hs] at hshape; exact absurd hshape.1 hup
  | dead => rw [hs] at hshape; exact absurd hshape.1 hup

/-- Temporary hit points are no part of the invariant. -/
theorem Valid.withTemporary (hv : h.Valid) (temporary : Nat) : { h with temporary }.Valid :=
  ⟨hv.schema, hv.maximum_pos, hv.current_le, hv.successes_le, hv.failures_le, hv.shape⟩

variable {effective : Nat} {critical : Bool}

/-- What the toll of the damage never touches. -/
theorem settleDamage_points {before excess : Nat} :
    (h.settleDamage before effective excess critical).1.current = h.current ∧
      (h.settleDamage before effective excess critical).1.temporary = h.temporary := by
  unfold settleDamage
  split
  · split <;> exact ⟨rfl, rfl⟩
  · split
    · by_cases hstable : h.vitalStatus = .stable
      · rw [if_pos hstable]
        dsimp only
        split <;> exact ⟨rfl, rfl⟩
      · rw [if_neg hstable]
        dsimp only
        split <;> exact ⟨rfl, rfl⟩
    · exact ⟨rfl, rfl⟩

/-- **Hit points and temporary hit points together drop by the damage, or to nothing.** -/
theorem struck_points :
    (h.struck effective critical).current + (h.struck effective critical).temporary =
      h.current + h.temporary - min effective (h.current + h.temporary) := by
  unfold struck
  rw [settleDamage_points.1, settleDamage_points.2]
  dsimp only
  omega

/-- **Damage keeps the health of the living valid.** -/
theorem Valid.struck (hv : h.Valid) (hlive : h.vitalStatus ≠ .dead) :
    (h.struck effective critical).Valid := by
  have hshape := hv.shape
  unfold StatusShape at hshape
  unfold HealthState.struck
  dsimp only
  by_cases hup : h.current = 0
  · rw [hup, Nat.zero_min, Nat.sub_zero]
    rcases Nat.eq_zero_or_pos effective with rfl | heff
    · -- no damage: nothing but the temporary hit points could change, and they do not
      rw [settleDamage, if_neg fun hc => absurd hc.1 (Nat.lt_irrefl 0), if_neg fun hc => absurd hc.2 (Nat.lt_irrefl 0)]
      exact (hup ▸ hv : ({ h with current := 0 } : HealthState).Valid).withTemporary _
    · cases hs : h.vitalStatus with
      | active => rw [hs] at hshape; exact absurd hup hshape.1
      | dead => exact absurd hs hlive
      | dying =>
        rw [settleDamage_dying heff rfl]
        rw [hs] at hshape
        -- the third failure kills
        generalize hf : min (h.deathSaves.failures + if critical then 2 else 1) 3 = failures
        have hle : failures ≤ 3 := hf ▸ Nat.min_le_right _ _
        dsimp only
        by_cases h3 : failures = 3
        · rw [if_pos h3]
          exact ⟨hv.schema, hv.maximum_pos, Nat.zero_le _, hv.successes_le, hle, rfl, h3⟩
        · rw [if_neg h3]
          exact ⟨hv.schema, hv.maximum_pos, Nat.zero_le _, hv.successes_le, hle, rfl, hshape.2.1,
            Nat.lt_of_le_of_ne hle h3⟩
      | stable =>
        rw [settleDamage_stable heff rfl]
        have hless : (if critical then 2 else 1) < 3 := by cases critical <;> decide
        exact ⟨hv.schema, hv.maximum_pos, Nat.zero_le _, Nat.zero_le _, Nat.le_of_lt hless, rfl, Nat.succ_pos _, hless⟩
  · have hactive := hv.active_of_current hup
    rw [hactive] at hshape
    have hpos : 0 < h.current := Nat.pos_of_ne_zero hup
    by_cases hdown : h.current - min h.current (effective - min h.temporary effective) = 0
    · rw [settleDamage_falls hpos hdown]
      split
      · exact ⟨hv.schema, hv.maximum_pos, Nat.sub_le_of_le_add (Nat.le_add_right_of_le hv.current_le), Nat.zero_le _,
          Nat.le_refl _, hdown, rfl⟩
      · exact ⟨hv.schema, hv.maximum_pos, Nat.sub_le_of_le_add (Nat.le_add_right_of_le hv.current_le), Nat.zero_le _,
          Nat.zero_le _, hdown, Nat.succ_pos _, Nat.succ_pos _⟩
    · rw [settleDamage_stands hpos hdown]
      refine ⟨hv.schema, hv.maximum_pos, Nat.sub_le_of_le_add (Nat.le_add_right_of_le hv.current_le), hv.successes_le,
        hv.failures_le, ?_⟩
      unfold StatusShape
      rw [hactive]
      exact ⟨hdown, hshape.2⟩

/-- **Healing keeps health valid.** -/
theorem Valid.healed (hv : h.Valid) (hlive : h.vitalStatus ≠ .dead) {amount : Nat} (hamount : amount ≠ 0) :
    (h.healed amount).Valid := by
  have hle := hv.current_le
  have hmax := hv.maximum_pos
  have hwithin : h.current + min (h.maximum - h.current) amount ≤ h.maximum := by omega
  unfold HealthState.healed
  dsimp only
  split
  · next hrevives =>
    refine ⟨hv.schema, hmax, hwithin, Nat.zero_le _, Nat.zero_le _, ?_, rfl⟩
    show h.current + min (h.maximum - h.current) amount ≠ 0
    omega
  · next hsame =>
    refine ⟨hv.schema, hmax, hwithin, hv.successes_le, hv.failures_le, ?_⟩
    have hshape := hv.shape
    unfold StatusShape at hshape ⊢
    cases hs : h.vitalStatus with
    | active =>
      rw [hs] at hshape
      refine ⟨?_, hshape.2⟩
      show h.current + min (h.maximum - h.current) amount ≠ 0
      omega
    | dead => exact absurd hs hlive
    | dying =>
      rw [hs] at hshape hsame
      have hdown := hshape.1
      exact absurd ⟨by omega, nofun⟩ hsame
    | stable =>
      rw [hs] at hshape hsame
      have hdown := hshape.1
      exact absurd ⟨by omega, nofun⟩ hsame

theorem Valid.stabilized (hv : h.Valid) (hdying : h.vitalStatus = .dying) : h.stabilized.Valid := by
  have hshape := hv.shape
  unfold StatusShape at hshape
  rw [hdying] at hshape
  exact ⟨hv.schema, hv.maximum_pos, hv.current_le, Nat.le_refl _, hv.failures_le, hshape.1, rfl, hshape.2.2⟩

theorem Valid.revived (hv : h.Valid) : h.revived.Valid :=
  ⟨hv.schema, hv.maximum_pos, Nat.one_le_iff_ne_zero.mpr hv.maximum_pos, Nat.zero_le _, Nat.zero_le _,
    Nat.one_ne_zero, rfl⟩

theorem Valid.recovered (hv : h.Valid) {policy : LethalityPolicy} : (h.recovered policy).Valid := by
  unfold HealthState.recovered
  split
  · exact hv.revived
  · exact hv

end HealthState

/-! ## What the entry checks let through -/

/-- A check in front of the rest: passed, or failed with the argument untouched. -/
theorem leaving_bind_cases {σ α β : Type} {s : σ} (x : RulesMatrixResult α) (f : α → Mutating σ β) :
    (∃ a, x = .ok a ∧ (leaving s x >>= f) = f a) ∨ ∃ e, x = .error e ∧ (leaving s x >>= f) = .error (e, s) := by
  cases x with
  | ok a => exact .inl ⟨a, rfl, rfl⟩
  | error e => exact .inr ⟨e, rfl, rfl⟩

/-- A transition goes through exactly when `admitted` holds, to `next`, which is valid; what is refused leaves
    the health as it was. -/
structure Closes {α : Type} (h : HealthState) (x : Mutating HealthState (α × HealthState)) (admitted : Prop)
    (next : HealthState) : Prop where
  goes : admitted → ∃ resolution, x = .ok (resolution, next)
  refused : ¬ admitted → ∃ e, x = .error (e, h)
  valid : admitted → next.Valid

namespace Closes

variable {α : Type} {h next : HealthState} {x : Mutating HealthState (α × HealthState)} {admitted P : Prop}

/-- Past the last check nothing is left to fail. -/
theorem of_eq {resolution : α} (hx : x = .ok (resolution, next)) (hv : next.Valid) : Closes h x True next :=
  ⟨fun _ => ⟨resolution, hx⟩, fun hn => absurd trivial hn, fun _ => hv⟩

/-- One entry check more. -/
theorem guard {check : RulesMatrixResult Unit} {f : Unit → Mutating HealthState (α × HealthState)}
    (hcheck : check = .ok () ↔ P) (hf : P → Closes h (f ()) admitted next) :
    Closes h (leaving h check >>= f) (P ∧ admitted) next := by
  cases hc : check with
  | ok u =>
    have hp := hcheck.mp hc
    exact ⟨fun ha => (hf hp).goes ha.2, fun hn => (hf hp).refused fun ha => hn ⟨hp, ha⟩, fun ha => (hf hp).valid ha.2⟩
  | error e =>
    have hp : ¬ P := fun hp => nomatch hc.symm.trans (hcheck.mpr hp)
    exact ⟨fun ha => absurd ha.1 hp, fun _ => ⟨e, rfl⟩, fun ha => absurd ha.1 hp⟩

/-- What went through was admitted. -/
theorem of_ok (hx : Closes h x admitted next) {y : α × HealthState} (hy : x = .ok y) : admitted ∧ y.2 = next := by
  by_cases ha : admitted
  · obtain ⟨resolution, hok⟩ := hx.goes ha
    obtain rfl := Except.ok.inj (hy.symm.trans hok)
    exact ⟨ha, rfl⟩
  · obtain ⟨e, herror⟩ := hx.refused ha
    rw [herror] at hy
    cases hy

end Closes

/-- The damage that a request comes to on a creature of this profile. -/
def DamageProfile.Adjusts (profile : DamageProfile) (request : DamageRequest) (effective : Nat) : Prop :=
  ∃ interaction, profile.interaction request.damageType = .ok interaction ∧
    interactedDamage request.amount interaction = .ok effective

/-- What the entry checks of a damage transition let through. -/
structure DamageAdmitted (h : HealthState) (profile : DamageProfile) (request : DamageRequest) (effective : Nat) :
    Prop where
  health : h.Valid
  positive : request.amount ≠ 0
  living : h.vitalStatus ≠ .dead
  adjusts : profile.Adjusts request effective

/-- What a list of condition changes may be after damage. -/
def DamageChanges (changes : List HealthConditionChange) : Prop :=
  changes = [] ∨ changes = [.wakeFromSleep] ∨
    changes = [.wakeFromSleep, .applyZeroHitPointUnconscious, .applyProne]

theorem HealthState.settleDamage_changes (h : HealthState) (before effective excess : Nat) (critical : Bool) :
    (h.settleDamage before effective excess critical).2.2 = [] ∨
      (0 < before ∧ h.current = 0) ∧
        (h.settleDamage before effective excess critical).2.2 = [.applyZeroHitPointUnconscious, .applyProne] := by
  unfold settleDamage
  by_cases hfalls : before > 0 ∧ h.current = 0
  · rw [if_pos hfalls]
    by_cases hmassive : excess ≥ h.maximum
    · rw [if_pos hmassive]
      exact .inl rfl
    · rw [if_neg hmassive]
      exact .inr ⟨hfalls, rfl⟩
  · rw [if_neg hfalls]
    left
    by_cases hhit : before = 0 ∧ effective > 0
    · rw [if_pos hhit]
      by_cases hstable : h.vitalStatus = .stable
      · rw [if_pos hstable]
        rfl
      · rw [if_neg hstable]
        dsimp only
        split <;> rfl
    · rw [if_neg hhit]

/-- **Damage goes through exactly for what its entry checks admit**, and then strikes. -/
theorem applyDamage_cases (h : HealthState) (profile : DamageProfile) (request : DamageRequest) :
    (∃ effective resolution, DamageAdmitted h profile request effective ∧
        applyDamage h profile request = .ok (resolution, h.struck effective request.criticalHit) ∧
        resolution.effectiveDamage = effective ∧ DamageChanges resolution.conditionChanges) ∨
      (¬ ∃ effective, DamageAdmitted h profile request effective) ∧
        ∃ e, applyDamage h profile request = .error (e, h) := by
  unfold applyDamage
  rcases leaving_bind_cases h.validate _ with ⟨_, hvalid, heq⟩ | ⟨e, hvalid, heq⟩
  case inr =>
    refine .inr ⟨fun ⟨_, ha⟩ => ?_, e, heq⟩
    rw [HealthState.validate_eq_ok.mpr ha.health] at hvalid
    cases hvalid
  rw [heq]
  rcases leaving_bind_cases profile.validate _ with ⟨_, hprofile, heq⟩ | ⟨e, hprofile, heq⟩
  case inr =>
    refine .inr ⟨fun ⟨_, ha⟩ => ?_, e, heq⟩
    obtain ⟨interaction, hi, -⟩ := ha.adjusts
    unfold DamageProfile.interaction at hi
    rw [hprofile] at hi
    cases hi
  rw [heq]
  rcases leaving_bind_cases (rejectIf (request.amount = 0) (.invalidIntent "damage must be positive")) _ with
    ⟨_, hpositive, heq⟩ | ⟨e, hzero, heq⟩
  case inr =>
    refine .inr ⟨fun ⟨_, ha⟩ => ?_, e, heq⟩
    rw [rejectIf_of_not ha.positive] at hzero
    cases hzero
  rw [heq]
  rcases leaving_bind_cases (rejectIf (h.vitalStatus = .dead)
      (.invalidIntent "dead targets cannot receive this MVP damage transition")) _ with
    ⟨_, hliving, heq⟩ | ⟨e, hdead, heq⟩
  case inr =>
    refine .inr ⟨fun ⟨_, ha⟩ => ?_, e, heq⟩
    rw [rejectIf_of_not ha.living] at hdead
    cases hdead
  rw [heq]
  rcases leaving_bind_cases (profile.interaction request.damageType) _ with
    ⟨interaction, hinteraction, heq⟩ | ⟨e, hnone, heq⟩
  case inr =>
    refine .inr ⟨fun ⟨_, ha⟩ => ?_, e, heq⟩
    obtain ⟨interaction, hi, -⟩ := ha.adjusts
    rw [hi] at hnone
    cases hnone
  rw [heq]
  rcases leaving_bind_cases (interactedDamage request.amount interaction) _ with
    ⟨effective, heffective, heq⟩ | ⟨e, hnone, heq⟩
  case inr =>
    refine .inr ⟨fun ⟨_, ha⟩ => ?_, e, heq⟩
    obtain ⟨interaction', hi, he⟩ := ha.adjusts
    rw [hinteraction] at hi
    obtain rfl := Except.ok.inj hi
    rw [he] at hnone
    cases hnone
  rw [heq]
  refine .inl ⟨effective, ?_⟩
  have hv := HealthState.validate_eq_ok.mp hvalid
  have hlive := rejectIf_eq_ok.mp hliving
  have hnext : (h.struck effective request.criticalHit).Valid := hv.struck hlive
  have hchanges := HealthState.settleDamage_changes
    { h with
      temporary := h.temporary - min h.temporary effective
      current := h.current - min h.current (effective - min h.temporary effective) } h.current effective
    (effective - min h.temporary effective - min h.current (effective - min h.temporary effective))
    request.criticalHit
  unfold HealthState.struck at hnext ⊢
  dsimp only at hnext hchanges ⊢
  generalize HealthState.settleDamage _ _ _ _ _ = settled at hnext hchanges ⊢
  obtain ⟨next, added, changes⟩ := settled
  dsimp only at hnext hchanges ⊢
  rw [leaving_of_eq_ok (HealthState.validate_eq_ok.mpr hnext), ok_bind]
  refine ⟨_, ⟨hv, rejectIf_eq_ok.mp hpositive, hlive, interaction, hinteraction, heffective⟩, rfl, rfl, ?_⟩
  dsimp only
  rcases hchanges with rfl | ⟨⟨hup, hdown⟩, rfl⟩
  · split
    · exact .inr (.inl rfl)
    · exact .inl rfl
  · -- a fall takes damage
    rw [if_pos (show effective > 0 by omega)]
    exact .inr (.inr rfl)

/-- **Healing goes through exactly for what its entry checks admit.** -/
theorem applyHealing_closes (h : HealthState) (amount : Nat) :
    Closes h (applyHealing h amount) (h.Valid ∧ amount ≠ 0 ∧ h.vitalStatus ≠ .dead ∧ True) (h.healed amount) := by
  refine Closes.guard HealthState.validate_eq_ok fun hv => ?_
  refine Closes.guard rejectIf_eq_ok fun hamount => ?_
  refine Closes.guard rejectIf_eq_ok fun hlive => ?_
  have hnext := hv.healed hlive hamount
  have hhealed : h.healed amount =
      if decide (min (h.maximum - h.current) amount > 0) && decide (h.vitalStatus ≠ .active)
      then { h with
        current := h.current + min (h.maximum - h.current) amount, vitalStatus := .active, deathSaves := {} }
      else { h with current := h.current + min (h.maximum - h.current) amount } := by
    simp only [HealthState.healed, Bool.and_eq_true, decide_eq_true_eq]
  rw [hhealed] at hnext ⊢
  dsimp only
  rw [leaving_of_eq_ok (HealthState.validate_eq_ok.mpr hnext), ok_bind]
  exact Closes.of_eq rfl hnext

/-- **Healing takes nothing but the conditions of zero hit points away.** -/
theorem applyHealing_changes {h h' : HealthState} {amount : Nat} {resolution : HealingResolution}
    (hok : applyHealing h amount = .ok (resolution, h')) :
    resolution.conditionChanges = [] ∨ resolution.conditionChanges = [.removeZeroHitPointConditions] := by
  obtain ⟨_, -, hok⟩ := bind_eq_ok.mp hok
  obtain ⟨_, -, hok⟩ := bind_eq_ok.mp hok
  obtain ⟨_, -, hok⟩ := bind_eq_ok.mp hok
  obtain ⟨_, -, hok⟩ := bind_eq_ok.mp hok
  obtain ⟨rfl, -⟩ := Prod.mk.inj (Except.ok.inj hok)
  dsimp only
  split
  · exact .inr rfl
  · exact .inl rfl

theorem stabilize_closes (h : HealthState) :
    Closes h (stabilize h) (h.Valid ∧ h.vitalStatus = .dying ∧ True) h.stabilized := by
  refine Closes.guard HealthState.validate_eq_ok fun hv => ?_
  refine Closes.guard (rejectIf_eq_ok.trans not_not) fun hdying => ?_
  have hnext := hv.stabilized hdying
  unfold HealthState.stabilized at hnext ⊢
  dsimp only
  rw [leaving_of_eq_ok (HealthState.validate_eq_ok.mpr hnext), ok_bind]
  exact Closes.of_eq rfl hnext

theorem applyDefeatRecovery_closes (policy : LethalityPolicy) (h : HealthState) :
    Closes h (applyDefeatRecovery policy h) (h.Valid ∧ True) (h.recovered policy) := by
  refine Closes.guard HealthState.validate_eq_ok fun hv => ?_
  have hnext : (h.recovered policy).Valid := hv.recovered
  have hrecovered : h.recovered policy =
      if decide (policy = .storyRecovery) && decide (h.vitalStatus ≠ .active)
      then { h with current := 1, vitalStatus := .active, deathSaves := {} } else h := by
    simp only [HealthState.recovered, HealthState.revived, Bool.and_eq_true, decide_eq_true_eq]
  rw [hrecovered] at hnext ⊢
  dsimp only
  rw [leaving_of_eq_ok (HealthState.validate_eq_ok.mpr hnext), ok_bind]
  exact Closes.of_eq rfl hnext

/-- Of two amounts of temporary hit points the larger stays. -/
theorem grantTemporaryHitPoints_closes (h : HealthState) (offered : Nat) :
    Closes h (grantTemporaryHitPoints h offered) (h.Valid ∧ offered ≠ 0 ∧ True)
      { h with temporary := max h.temporary offered } := by
  refine Closes.guard HealthState.validate_eq_ok fun hv => ?_
  refine Closes.guard rejectIf_eq_ok fun _ => ?_
  have hmax : { h with temporary := max h.temporary offered } =
      if offered > h.temporary then { h with temporary := offered } else h := by
    split
    · next hgt => rw [Nat.max_eq_right (Nat.le_of_lt hgt)]
    · next hle => rw [Nat.max_eq_left (Nat.le_of_not_lt hle)]
  have hnext := hv.withTemporary (max h.temporary offered)
  rw [hmax] at hnext ⊢
  exact Closes.of_eq rfl hnext

/-- **A death save settles a dying creature by its face**, and leaves the health of any other alone. -/
theorem resolveDeathSave_meets (h : HealthState) :
    Prog.Meets AnyFace (resolveDeathSave h) (fun x => h.vitalStatus = .dying ∧ x.2.Valid ∧
      (x.1.conditionChanges = [] ∨ x.1.conditionChanges = [.removeZeroHitPointConditions])) fun e => e.2 = h := by
  refine meets_leaving_bind.mpr fun _ hvalid => ?_
  refine meets_leaving_bind.mpr fun _ hdying => ?_
  rw [Prog.meets_bind, Prog.meets_mapErr]
  refine resolveD20_meets.mono (fun roll _ => ?_) fun _ _ => rfl
  have hv := HealthState.validate_eq_ok.mp hvalid
  have hd := not_not.mp (rejectIf_eq_ok.mp hdying)
  have hnext := HealthState.settleDeathSave_valid hv hd roll.selected
  have hchanges : (h.settleDeathSave roll.selected).2.2 = [] ∨
      (h.settleDeathSave roll.selected).2.2 = [.removeZeroHitPointConditions] := by
    unfold HealthState.settleDeathSave
    split
    · exact .inr rfl
    · left
      split
      · dsimp only
        split <;> rfl
      · split
        · dsimp only
          split <;> rfl
        · dsimp only
          split <;> rfl
  dsimp only
  rw [leaving_of_eq_ok (HealthState.validate_eq_ok.mpr hnext)]
  exact ⟨hd, hnext, hchanges⟩

/-! ## Health stays valid -/

/-- **Health stays valid.** Every transition of a valid health that goes through yields a valid one and leaves the
    health as it was otherwise; what the entry checks admit never fails afterwards. Damage costs exactly what it
    comes to, or all the hit points there are. The conditions that go with a transition end up valid too. The dead
    stay dead, unless the story policy recovers them. -/
theorem health_stays_valid {h : HealthState} (hv : h.Valid) :
    -- damage
    (∀ profile request,
      (∀ effective, DamageAdmitted h profile request effective →
        ∃ resolution, applyDamage h profile request = .ok (resolution, h.struck effective request.criticalHit)) ∧
      (∀ resolution h', applyDamage h profile request = .ok (resolution, h') →
        h'.Valid ∧ profile.Adjusts request resolution.effectiveDamage ∧
          h'.current + h'.temporary =
            h.current + h.temporary - min resolution.effectiveDamage (h.current + h.temporary)) ∧
      ∀ e h', applyDamage h profile request = .error (e, h') → h' = h) ∧
    -- healing, stabilization, recovery and temporary hit points
    (∀ amount, Closes h (applyHealing h amount) (h.Valid ∧ amount ≠ 0 ∧ h.vitalStatus ≠ .dead ∧ True)
      (h.healed amount)) ∧
    Closes h (stabilize h) (h.Valid ∧ h.vitalStatus = .dying ∧ True) h.stabilized ∧
    (∀ policy, Closes h (applyDefeatRecovery policy h) (h.Valid ∧ True) (h.recovered policy)) ∧
    (∀ offered, Closes h (grantTemporaryHitPoints h offered) (h.Valid ∧ offered ≠ 0 ∧ True)
      { h with temporary := max h.temporary offered }) ∧
    -- death saves
    (h.vitalStatus = .dying → ∀ face, InRange 20 face →
      ∃ resolution, Prog.Returns (resolveDeathSave h) [(20, face)] (resolution, (h.settleDeathSave face).1)) ∧
    Prog.Meets AnyFace (resolveDeathSave h) (fun x => h.vitalStatus = .dying ∧ x.2.Valid) (fun e => e.2 = h) ∧
    -- the conditions updated with them
    (∀ actorId s changes, isValidOpaqueId actorId = true → s.Valid →
      applyHealthConditionChanges actorId s changes = applyChangesInTurn actorId s changes ∧
        ∀ s', applyHealthConditionChanges actorId s changes = .ok ((), s') → s'.Valid) ∧
    -- the dead
    (h.vitalStatus = .dead →
      (∀ profile request, ∃ e, applyDamage h profile request = .error (e, h)) ∧
      (∀ amount, ∃ e, applyHealing h amount = .error (e, h)) ∧ (∃ e, stabilize h = .error (e, h)) ∧
      Prog.Meets AnyFace (resolveDeathSave h) (fun _ => False) (fun e => e.2 = h) ∧
      (h.recovered .rulesAsWritten).vitalStatus = .dead ∧ h.recovered .storyRecovery = h.revived) := by
  refine ⟨fun profile request => ⟨?admitted, ?struck, ?refused⟩, applyHealing_closes h, stabilize_closes h,
    fun policy => applyDefeatRecovery_closes policy h, grantTemporaryHitPoints_closes h,
    fun hd face hf => resolveDeathSave_returns hv hd hf, ?saves, ?conditions, ?dead⟩
  case admitted =>
    intro effective ha
    rcases applyDamage_cases h profile request with ⟨effective', resolution, ha', hok, -⟩ | ⟨hnot, -⟩
    · obtain ⟨i, hi, he⟩ := ha.adjusts
      obtain ⟨i', hi', he'⟩ := ha'.adjusts
      obtain rfl := Except.ok.inj (hi.symm.trans hi')
      obtain rfl := Except.ok.inj (he.symm.trans he')
      exact ⟨resolution, hok⟩
    · exact absurd ⟨effective, ha⟩ hnot
  case struck =>
    intro resolution h' hok
    rcases applyDamage_cases h profile request with ⟨effective, resolution', ha, hok', rfl, -⟩ | ⟨-, e, herror⟩
    · obtain ⟨rfl, rfl⟩ := Prod.mk.inj (Except.ok.inj (hok.symm.trans hok'))
      exact ⟨hv.struck ha.living, ha.adjusts, HealthState.struck_points⟩
    · rw [herror] at hok
      cases hok
  case refused =>
    intro e h' herror
    rcases applyDamage_cases h profile request with ⟨effective, resolution, -, hok, -⟩ | ⟨-, e', herror'⟩
    · rw [hok] at herror
      cases herror
    · exact (Prod.mk.inj (Except.error.inj (herror.symm.trans herror'))).2
  case saves => exact (resolveDeathSave_meets h).mono (fun x hx => ⟨hx.1, hx.2.1⟩) fun _ he => he
  case conditions =>
    intro actorId s changes hid hs
    have heq := applyHealthConditionChanges_eq hid hs changes
    exact ⟨heq, fun s' hok => (applyChangesInTurn_valid hid hs (heq ▸ hok)).1⟩
  case dead =>
    intro hdead
    refine ⟨fun profile request => ?_, fun amount => ?_, ?_, ?_, ?_, ?_⟩
    · rcases applyDamage_cases h profile request with ⟨_, _, ha, -⟩ | ⟨-, herror⟩
      · exact absurd hdead ha.living
      · exact herror
    · exact (applyHealing_closes h amount).refused fun ha => ha.2.2.1 hdead
    · refine (stabilize_closes h).refused fun ha => ?_
      rw [hdead] at ha
      cases ha.2.1
    · refine (resolveDeathSave_meets h).mono (fun x hx => ?_) fun _ he => he
      rw [hdead] at hx
      cases hx.1
    · unfold HealthState.recovered
      rw [if_neg fun hc => nomatch hc.1]
      exact hdead
    · unfold HealthState.recovered
      rw [if_pos ⟨rfl, by rw [hdead]; exact nofun⟩]

/-- A hero of ten hit points who has failed three death saves. -/
def deadHero : HealthState :=
  { maximum := 10, current := 0, temporary := 0, vitalStatus := .dead, deathSaves := ⟨0, 3⟩ }

/-- The dead hero rises under the story policy, with one hit point. -/
theorem story_recovers_dead :
    deadHero.validate = .ok () ∧ ∃ resolution h',
      applyDefeatRecovery .storyRecovery deadHero = .ok (resolution, h') ∧ h'.vitalStatus = .active :=
  ⟨rfl, _, _, rfl, rfl⟩

theorem dead_hero_stays_valid : ∃ e, applyHealing deadHero 5 = .error (e, deadHero) := by
  have hv : deadHero.Valid := HealthState.validate_eq_ok.mp rfl
  obtain ⟨-, -, -, -, -, -, -, -, hdead⟩ := health_stays_valid hv
  exact (hdead rfl).2.1 5

end ManchesterArcana.Rules
