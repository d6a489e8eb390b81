import ManchesterArcana.Rules.Vitality

/-!
# `Rules.ConditionChanges` — the changes of a fall may stop halfway

A transition of health emits a list of condition changes, and the set they are applied to is changed in place.
Every list but one is made in full or not at all. The list of a fall adds two conditions: in a set with room for
one of them the first stays behind when the second is refused.
-/

namespace ManchesterArcana.Rules

open Effect

/-! ## The lists that transitions emit -/

/-- The condition changes of some transition of health that went through. -/
inductive Implied : List HealthConditionChange → Prop where
  | damage {h h' : HealthState} {profile : DamageProfile} {request : DamageRequest} {resolution : DamageResolution}
      (hok : applyDamage h profile request = .ok (resolution, h')) : Implied resolution.conditionChanges
  | healing {h h' : HealthState} {amount : Nat} {resolution : HealingResolution}
      (hok : applyHealing h amount = .ok (resolution, h')) : Implied resolution.conditionChanges
  | deathSave {h h' : HealthState} {t : List (Nat × Nat)} {resolution : DeathSaveResolution}
      (hok : Prog.Returns (resolveDeathSave h) t (resolution, h')) : Implied resolution.conditionChanges
  | recovery {h h' : HealthState} {policy : LethalityPolicy} {resolution : DefeatRecoveryResolution}
      (hok : applyDefeatRecovery policy h = .ok (resolution, h')) : Implied resolution.conditionChanges

/-- What a fall brings about: the bearer wakes, loses consciousness and drops prone. -/
def fallChanges : List HealthConditionChange := [.wakeFromSleep, .applyZeroHitPointUnconscious, .applyProne]

variable {changes : List HealthConditionChange}

theorem Implied.cases (h : Implied changes) :
    changes = [] ∨ changes = [.wakeFromSleep] ∨ changes = fallChanges ∨ changes = [.removeZeroHitPointConditions] := by
  cases h with
  | @damage h h' profile request resolution hok =>
    rcases applyDamage_cases h profile request with ⟨effective, resolution', -, hok', -, hchanges⟩ | ⟨-, e, herror⟩
    · obtain ⟨rfl, -⟩ := Prod.mk.inj (Except.ok.inj (hok.symm.trans hok'))
      rcases hchanges with hnone | hwake | hfall
      · exact .inl hnone
      · exact .inr (.inl hwake)
      · exact .inr (.inr (.inl hfall))
    · rw [herror] at hok
      cases hok
  | healing hok =>
    rcases applyHealing_changes hok with hnone | hremove
    · exact .inl hnone
    · exact .inr (.inr (.inr hremove))
  | @deathSave h h' t resolution hok =>
    have hmeets := (resolveDeathSave_meets h).of_returns hok fun _ _ => trivial
    rcases hmeets.2.2 with hnone | hremove
    · exact .inl hnone
    · exact .inr (.inr (.inr hremove))
  | recovery hok =>
    obtain ⟨_, -, hok⟩ := bind_eq_ok.mp hok
    obtain ⟨_, -, hok⟩ := bind_eq_ok.mp hok
    obtain ⟨rfl, -⟩ := Prod.mk.inj (Except.ok.inj hok)
    dsimp only
    split
    · exact .inr (.inr (.inr rfl))
    · exact .inl rfl

/-! ## What damage ends -/

/-- The magical sleep of `actorId`, which any damage to it ends. -/
def ActiveCondition.sleepOf (actorId : String) (c : ActiveCondition) : Bool :=
  match c.duration with
  | .untilDamagedOrAwakened _ sleeper => decide (sleeper = actorId)
  | _ => false

/-- The conditions that are left once damage has woken the actor. -/
def ConditionSet.awake (s : ConditionSet) (actorId : String) : List ActiveCondition :=
  s.active.filter (!·.sleepOf actorId)

variable {s : ConditionSet} {actorId : String}

theorem ConditionSet.ticked_damaged :
    s.ticked (.damaged actorId) = { s with active := s.awake actorId } := by
  have htick (c : ActiveCondition) : c.tick (.damaged actorId) = (c, c.sleepOf actorId) := by
    unfold ActiveCondition.tick ActiveCondition.sleepOf
    cases c.duration <;> rfl
  unfold ConditionSet.ticked ConditionSet.awake
  simp only [htick, List.filter_map, List.map_map, Function.comp_def]
  rw [List.map_id']

/-- Zero hit points bring no magical sleep. -/
theorem ConditionSet.Valid.hasZeroHitPoint_awake (hv : s.Valid) (actorId : String)
    (condition : ConditionId) :
    ConditionSet.hasZeroHitPoint { s with active := s.awake actorId } condition = s.hasZeroHitPoint condition := by
  rw [Bool.eq_iff_iff, ConditionSet.hasZeroHitPoint_eq_true, ConditionSet.hasZeroHitPoint_eq_true]
  constructor
  · rintro ⟨c, hc, hkind⟩
    exact ⟨c, (List.mem_filter.mp hc).1, hkind⟩
  · rintro ⟨c, hc, hkind⟩
    refine ⟨c, List.mem_filter.mpr ⟨hc, ?_⟩, hkind⟩
    have hduration := (ActiveCondition.validate_eq_ok.mp (hv.conditions c hc)).2
    unfold ActiveCondition.DurationValid at hduration
    unfold ActiveCondition.sleepOf
    cases hd : c.duration with
    | permanent => rfl
    | rounds remaining boundary other => rfl
    | untilDamagedOrAwakened remaining other =>
      -- only the spell may carry this duration
      rw [hd, hkind.2] at hduration
      exact absurd hduration.2.2.2 (by decide)

/-! ## All or nothing -/

/-- The set is changed in full, or the changes are refused and it stays as it was. -/
def ChangesAtomically (actorId : String) (s : ConditionSet) (changes : List HealthConditionChange) : Prop :=
  applyHealthConditionChanges actorId s changes =
      .ok ((), changes.foldl (fun s change => change.effect actorId s) s) ∨
    ∃ e, applyHealthConditionChanges actorId s changes = .error (e, s)

/-- A fall finds room for exactly one of the two conditions it brings: neither is there yet, and thirty-one
    conditions remain once damage has woken the actor. -/
structure RoomForOne (actorId : String) (s : ConditionSet) : Prop where
  actor : isValidOpaqueId actorId = true
  valid : s.Valid
  conscious : s.hasZeroHitPoint .unconscious = false
  upright : s.hasZeroHitPoint .prone = false
  crowded : (s.awake actorId).length + 1 = maxActiveConditions

/-- A list of at most one change is made in full or not at all. -/
theorem changesAtomically_of_le_one (hid : isValidOpaqueId actorId = true)
    (hv : s.Valid) (hle : changes.length ≤ 1) :
    ChangesAtomically actorId s changes := by
  unfold ChangesAtomically
  rw [applyHealthConditionChanges_eq hid hv]
  match changes, hle with
  | [], _ => exact .inl rfl
  | [change], _ =>
    unfold applyChangesInTurn
    rcases applyHealthConditionChange_cases hid hv change with ⟨-, hok⟩ | ⟨-, e, herror⟩
    · rw [hok, ok_bind]
      exact .inl rfl
    · rw [herror]
      exact .inr ⟨e, rfl⟩

/-- A full set has nobody asleep to wake. -/
theorem awake_eq_of_full (hv : s.Valid)
    (hfull : (s.awake actorId).length = maxActiveConditions) : { s with active := s.awake actorId } = s := by
  have hsub : (s.awake actorId).Sublist s.active := List.filter_sublist
  have hactive := hsub.eq_of_length_le (hv.length_le.trans (Nat.le_of_eq hfull.symm))
  rw [hactive]

/-- What zero hit points bring for one condition is not what they bring for another. -/
theorem hasZeroHitPoint_withZeroHitPoint {added condition : ConditionId} (hne : added ≠ condition) :
    (s.withZeroHitPoint added).hasZeroHitPoint condition = s.hasZeroHitPoint condition := by
  unfold ConditionSet.withZeroHitPoint
  by_cases hhas : s.hasZeroHitPoint added = true
  · rw [if_pos hhas]
  · rw [if_neg hhas]
    unfold ConditionSet.hasZeroHitPoint zeroHitPointCondition
    rw [List.any_append, List.any_cons, List.any_nil, Bool.or_false,
      decide_eq_false (fun hc => hne hc.1), Bool.or_false]

/-- **A fall is applied in full or not at all exactly when it does not find room for one.** -/
theorem fall_atomic_iff (hid : isValidOpaqueId actorId = true) (hv : s.Valid) :
    ChangesAtomically actorId s fallChanges ↔ ¬ RoomForOne actorId s := by
  have hfold : fallChanges.foldl (fun s change => change.effect actorId s) s =
      ((s.ticked (.damaged actorId)).withZeroHitPoint .unconscious).withZeroHitPoint .prone := rfl
  have hunconscious := hv.hasZeroHitPoint_awake actorId .unconscious
  have hprone := hv.hasZeroHitPoint_awake actorId .prone
  have hawake : ConditionSet.Valid { s with active := s.awake actorId } := hv.sublist List.filter_sublist
  obtain ⟨resolution, hwake⟩ := processDurations_eq_ok hv (.damaged actorId) hid
  have hrun : applyHealthConditionChanges actorId s fallChanges =
      (ConditionSet.applyZeroHitPoint { s with active := s.awake actorId } .unconscious >>= fun x =>
        x.2.applyZeroHitPoint .prone >>= fun y => .ok ((), y.2)) := by
    rw [applyHealthConditionChanges_eq hid hv, ← ConditionSet.ticked_damaged]
    show (processDurations s (.damaged actorId) >>= _) >>= _ = _
    rw [hwake]
    rfl
  unfold ChangesAtomically
  rw [hfold, hrun, ConditionSet.ticked_damaged]
  generalize hw : ({ s with active := s.awake actorId } : ConditionSet) = w at *
  have hlength : (s.awake actorId).length = w.active.length := by rw [← hw]
  rcases ConditionSet.applyZeroHitPoint_cases hawake .unconscious with
    ⟨hroom, hok⟩ | ⟨hfresh, hfull, e, herror⟩
  case inr =>
    -- there is no room at all, hence nobody was woken
    rw [herror]
    refine ⟨fun _ hone => ?_, fun _ => .inr ⟨e, ?_⟩⟩
    · have := hone.crowded
      omega
    · rw [← hw, awake_eq_of_full hv (hlength.trans hfull)]
      rfl
  rw [hok, ok_bind]
  dsimp only
  have hnext := hawake.withZeroHitPoint hroom
  have hstill : (w.withZeroHitPoint .unconscious).hasZeroHitPoint .prone = w.hasZeroHitPoint .prone :=
    hasZeroHitPoint_withZeroHitPoint (by decide)
  rcases ConditionSet.applyZeroHitPoint_cases hnext .prone with
    ⟨hroom', hok'⟩ | ⟨hfresh', hfull', e, herror'⟩
  · rw [hok', ok_bind]
    refine ⟨fun _ hone => ?_, fun _ => .inl rfl⟩
    -- with neither condition there, the first one has filled the set
    have hneither : w.hasZeroHitPoint .unconscious = false := hunconscious.trans hone.conscious
    have hgrown : (w.withZeroHitPoint .unconscious).active.length = w.active.length + 1 := by
      unfold ConditionSet.withZeroHitPoint
      rw [hneither, if_neg Bool.false_ne_true]
      exact List.length_append
    rw [hstill, hprone, hone.upright] at hroom'
    have := hroom'.resolve_left Bool.false_ne_true
    have := hone.crowded
    omega
  · rw [herror']
    rw [hstill, hprone] at hfresh'
    cases hthere : w.hasZeroHitPoint .unconscious with
    | true =>
      have hsame : w.withZeroHitPoint .unconscious = w := by
        unfold ConditionSet.withZeroHitPoint
        rw [if_pos hthere]
      rw [hsame] at hfull' ⊢
      refine ⟨fun _ hone => ?_, fun _ => .inr ⟨e, ?_⟩⟩
      · have := hone.crowded
        omega
      · rw [← hw, awake_eq_of_full hv (hlength.trans hfull')]
        rfl
    | false =>
      have hgrown : (w.withZeroHitPoint .unconscious).active.length = w.active.length + 1 := by
        unfold ConditionSet.withZeroHitPoint
        rw [hthere, if_neg Bool.false_ne_true]
        exact List.length_append
      have hone : RoomForOne actorId s :=
        ⟨hid, hv, hunconscious.symm.trans hthere, hfresh', by omega⟩
      refine ⟨fun hatomic => ?_, fun hnot => absurd hone hnot⟩
      rcases hatomic with hall | ⟨e', hnone⟩
      · cases hall
      · -- the first condition has stayed behind
        have hsame : w.withZeroHitPoint .unconscious = s := (Prod.mk.inj (Except.error.inj hnone)).2
        have hhas : (w.withZeroHitPoint .unconscious).hasZeroHitPoint .unconscious = true := by
          refine ConditionSet.hasZeroHitPoint_eq_true.mpr ⟨zeroHitPointCondition .unconscious, ?_, rfl, rfl⟩
          unfold ConditionSet.withZeroHitPoint
          rw [hthere, if_neg Bool.false_ne_true]
          exact List.mem_append_right _ (List.mem_singleton_self _)
        rw [hsame, hone.conscious] at hhas
        cases hhas

/-- **The changes of a transition are made in full or not at all**, unless they are those of a fall that finds room
    for one. -/
theorem health_changes_atomic_iff {changes : List HealthConditionChange} (hchanges : Implied changes)
    (actorId : String) (s : ConditionSet) :
    ChangesAtomically actorId s changes ↔ ¬ (changes = fallChanges ∧ RoomForOne actorId s) := by
  by_cases hentry : isValidOpaqueId actorId = true ∧ s.Valid
  case neg =>
    -- refused at the entry
    refine ⟨fun _ hone => hentry ⟨hone.2.actor, hone.2.valid⟩, fun _ => .inr ?_⟩
    exact applyHealthConditionChanges_refused hentry
  obtain ⟨hid, hv⟩ := hentry
  rcases hchanges.cases with rfl | rfl | rfl | rfl
  · exact ⟨fun _ hone => absurd hone.1 (by decide), fun _ => changesAtomically_of_le_one hid hv (Nat.zero_le _)⟩
  · exact ⟨fun _ hone => absurd hone.1 (by decide), fun _ => changesAtomically_of_le_one hid hv (Nat.le_refl _)⟩
  · rw [fall_atomic_iff hid hv]
    exact not_congr ⟨fun hone => ⟨rfl, hone⟩, fun hone => hone.2⟩
  · exact ⟨fun _ hone => absurd hone.1 (by decide), fun _ => changesAtomically_of_le_one hid hv (Nat.le_refl _)⟩

/-- Every spell at once: thirty-one conditions of one caster, none of them from zero hit points. -/
def crowdedConditions : ConditionSet where
  schemaVersion := rulesMatrixSchemaVersion
  active := (([.prone, .restrained, .grappled, .incapacitated, .unconscious, .poisoned] : List ConditionId).flatMap
    fun condition => ([.fireBolt, .light, .mageHand, .magicMissile, .shield, .sleep] : List SpellId).map
      fun spell => (⟨condition, .spell spell "caster", .permanent⟩ : ActiveCondition)).take 31

/-- A blow of twelve fells a hero of ten hit points; in the crowded set one of the two conditions stays behind. -/
theorem crowded_fall_stops_halfway :
    (∃ resolution h', applyDamage ⟨rulesMatrixSchemaVersion, 10, 10, 0, .active, {}⟩ .normal ⟨12, .slashing, false⟩ =
      .ok (resolution, h') ∧ resolution.conditionChanges = fallChanges) ∧
    crowdedConditions.validate = .ok () ∧
    applyHealthConditionChanges "hero" crowdedConditions fallChanges =
      .error (.invalidState "condition set is full",
        { crowdedConditions with active := crowdedConditions.active ++ [zeroHitPointCondition .unconscious] }) := by
  refine ⟨⟨_, _, rfl, rfl⟩, by decide, ?_⟩
  decide

theorem single_change_atomic : ChangesAtomically "hero" .empty [.removeZeroHitPointConditions] := by
  have hdying : applyDefeatRecovery .storyRecovery deadHero = .ok (_, _) := rfl
  exact (health_changes_atomic_iff (.recovery hdying) "hero" .empty).mpr fun hone => absurd hone.1 (by decide)

end ManchesterArcana.Rules
