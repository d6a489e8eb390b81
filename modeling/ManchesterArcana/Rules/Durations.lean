import ManchesterArcana.Rules.Conditions
import ManchesterArcana.Rules.Health

/-!
# `Rules.Durations` — how a condition set changes

Conditions are added one at a time, end when their duration runs out, and follow the health of their bearer:
falling to zero hit points adds two, rising again takes them away, and any damage ends magical sleep. A list
of such changes is applied in place, one after the other. The list that a fall implies can therefore stop
halfway, in a set that has room for one condition but not for two.
-/

namespace ManchesterArcana.Rules

open Effect

/-! ## Valid conditions -/

/-- The caster or the mechanic a condition comes from. -/
def ConditionSource.originId : ConditionSource → String
  | .spell _ casterId => casterId
  | .mechanic mechanicId => mechanicId

/-- A duration that has not run out; the one that damage ends is reserved for magical sleep. -/
def ActiveCondition.DurationValid (c : ActiveCondition) : Prop :=
  match c.duration with
  | .permanent => True
  | .rounds remaining _ actorId => (remaining ≠ 0 ∧ remaining ≤ 600) ∧ isValidOpaqueId actorId = true
  | .untilDamagedOrAwakened remainingRounds actorId => (remainingRounds ≠ 0 ∧ remainingRounds ≤ 10) ∧
      isValidOpaqueId actorId = true ∧ c.condition = .unconscious ∧ c.source.isSleepSpell = true

variable {c : ActiveCondition} {changes : List HealthConditionChange}

theorem ActiveCondition.validate_eq_ok :
    c.validate = .ok () ↔ isValidOpaqueId c.source.originId = true ∧ c.DurationValid := by
  obtain ⟨condition, source, duration⟩ := c
  unfold validate DurationValid
  cases source <;> cases duration <;>
    simp [requireId, rejectIf_eq_ok, ConditionSource.originId, not_or]

/-! ## Valid sets -/

namespace ConditionSet

/-- What the set recognises a condition by. -/
def identity (c : ActiveCondition) : ConditionId × String := (c.condition, c.sourceText)

structure Valid (s : ConditionSet) : Prop where
  schema : s.schemaVersion = rulesMatrixSchemaVersion
  length_le : s.active.length ≤ maxActiveConditions
  conditions : ∀ c ∈ s.active, c.validate = .ok ()
  identities_nodup : (s.active.map identity).Nodup

theorem validateFrom_eq_ok {seen : List (ConditionId × String)} {cs : List ActiveCondition} :
    validateFrom seen cs = .ok () ↔ (∀ c ∈ cs, c.validate = .ok ()) ∧ (cs.map identity).Nodup ∧
      ∀ c ∈ cs, identity c ∉ seen := by
  induction cs generalizing seen with
  | nil => simp [validateFrom]
  | cons c cs ih =>
    simp only [validateFrom, seq_eq_ok, rejectIf_eq_ok, ih, List.forall_mem_cons, List.map_cons, List.nodup_cons]
    simp only [List.mem_cons, not_or]
    constructor
    · rintro ⟨hc, hseen, hcs, hnodup, hfresh⟩
      refine ⟨⟨hc, hcs⟩, ⟨fun hmem => ?_, hnodup⟩, hseen, fun c' hc' => (hfresh c' hc').2⟩
      obtain ⟨c', hc', heq⟩ := List.mem_map.mp hmem
      exact (hfresh c' hc').1 heq
    · rintro ⟨⟨hc, hcs⟩, ⟨hnotin, hnodup⟩, hseen, hrest⟩
      exact ⟨hc, hseen, hcs, hnodup, fun c' hc' => ⟨fun heq => hnotin (List.mem_map.mpr ⟨c', hc', heq⟩), hrest c' hc'⟩⟩

theorem validate_eq_ok {s : ConditionSet} : s.validate = .ok () ↔ s.Valid := by
  simp only [validate, seq_eq_ok, rejectIf_eq_ok, validateFrom_eq_ok, not_or, not_not, Nat.not_lt]
  constructor
  · rintro ⟨⟨hschema, hlength⟩, hconditions, hnodup, -⟩
    exact ⟨hschema, hlength, hconditions, hnodup⟩
  · intro hv
    exact ⟨⟨hv.schema, hv.length_le⟩, hv.conditions, hv.identities_nodup, fun _ _ => List.not_mem_nil⟩

/-- Fewer conditions are valid too. -/
theorem Valid.sublist {s : ConditionSet} (hv : s.Valid) {active : List ActiveCondition}
    (h : active.Sublist s.active) : { s with active }.Valid :=
  ⟨hv.schema, h.length_le.trans hv.length_le, fun c hc => hv.conditions c (h.subset hc),
    hv.identities_nodup.sublist (h.map identity)⟩

/-! ## Adding a condition -/

def apply (s : ConditionSet) (condition : ActiveCondition) : Mutating ConditionSet (Unit × ConditionSet) := do
  leaving s s.validate
  leaving s condition.validate
  leaving s (rejectIf (s.active.length = maxActiveConditions) (.invalidState "condition set is full"))
  leaving s (rejectIf (∃ active ∈ s.active,
      active.condition = condition.condition ∧ active.source = condition.source)
    (.invalidIntent "the same condition source is already active"))
  let next := { s with active := s.active ++ [condition] }
  leaving next next.validate
  return ((), next)

end ConditionSet

/-! ## Durations -/

inductive DurationEvent where
  | turnBoundary (actorId : String) (boundary : TurnBoundary)
  | damaged (actorId : String)
  | awakenedByAction (actorId : String)
  deriving DecidableEq

def DurationEvent.actorId : DurationEvent → String
  | turnBoundary actorId _ => actorId
  | damaged actorId => actorId
  | awakenedByAction actorId => actorId

structure DurationResolution where
  expired : List ActiveCondition
  deriving DecidableEq

/-- What an event makes of a condition, and whether it ends it. -/
def ActiveCondition.tick (c : ActiveCondition) : DurationEvent → ActiveCondition × Bool
  | .turnBoundary eventActor eventBoundary =>
    match c.duration with
    | .rounds remaining boundary actorId =>
      if actorId = eventActor ∧ boundary = eventBoundary
      then ({ c with duration := .rounds (remaining - 1) boundary actorId }, decide (remaining - 1 = 0))
      else (c, false)
    | .untilDamagedOrAwakened remainingRounds actorId =>
      if eventBoundary = .end ∧ actorId = eventActor
      then ({ c with duration := .untilDamagedOrAwakened (remainingRounds - 1) actorId },
        decide (remainingRounds - 1 = 0))
      else (c, false)
    | .permanent => (c, false)
  | .damaged eventActor | .awakenedByAction eventActor =>
    match c.duration with
    | .untilDamagedOrAwakened _ actorId => (c, decide (actorId = eventActor))
    | _ => (c, false)

/-- The conditions that go on after an event, and the ones that end with it. -/
def ConditionSet.ticked (s : ConditionSet) (event : DurationEvent) : ConditionSet :=
  { s with active := ((s.active.map (·.tick event)).filter (!·.2)).map (·.1) }

def processDurations (conditions : ConditionSet) (event : DurationEvent) :
    Mutating ConditionSet (DurationResolution × ConditionSet) := do
  leaving conditions conditions.validate
  leaving conditions (requireId event.actorId "duration event actor ID is invalid")
  let expired := ((conditions.active.map (·.tick event)).filter (·.2)).map (·.1)
  let next := conditions.ticked event
  leaving next next.validate
  return (⟨expired⟩, next)

/-- A tick changes nothing but the duration. -/
theorem ActiveCondition.tick_identity (c : ActiveCondition) (event : DurationEvent) :
    ConditionSet.identity (c.tick event).1 = ConditionSet.identity c := by
  have hduration (d : EffectDuration) : ConditionSet.identity { c with duration := d } = ConditionSet.identity c := rfl
  unfold tick
  cases event with
  | turnBoundary actor boundary =>
    cases hd : c.duration with
    | permanent => rfl
    | rounds remaining b actorId => dsimp only; split <;> [exact hduration _; rfl]
    | untilDamagedOrAwakened remaining actorId => dsimp only; split <;> [exact hduration _; rfl]
  | damaged actor => cases c.duration <;> rfl
  | awakenedByAction actor => cases c.duration <;> rfl

/-- **A condition that an event leaves in force is valid.** -/
theorem ActiveCondition.tick_validate {event : DurationEvent} (hc : c.validate = .ok ())
    (hstays : (c.tick event).2 = false) : (c.tick event).1.validate = .ok () := by
  obtain ⟨condition, source, duration⟩ := c
  cases event with
  | damaged actor => cases duration <;> exact hc
  | awakenedByAction actor => cases duration <;> exact hc
  | turnBoundary actor boundary =>
    obtain ⟨horigin, hduration⟩ := validate_eq_ok.mp hc
    cases duration with
    | permanent => exact hc
    | rounds remaining b actorId =>
      obtain ⟨⟨-, hle⟩, hactor⟩ := hduration
      unfold tick at hstays ⊢
      dsimp only at hstays ⊢
      by_cases hits : actorId = actor ∧ b = boundary
      · rw [if_pos hits] at hstays ⊢
        exact validate_eq_ok.mpr ⟨horigin, ⟨of_decide_eq_false hstays, (Nat.sub_le _ _).trans hle⟩, hactor⟩
      · rw [if_neg hits]
        exact hc
    | untilDamagedOrAwakened remaining actorId =>
      obtain ⟨⟨-, hle⟩, hactor⟩ := hduration
      unfold tick at hstays ⊢
      dsimp only at hstays ⊢
      by_cases hits : boundary = .end ∧ actorId = actor
      · rw [if_pos hits] at hstays ⊢
        exact validate_eq_ok.mpr ⟨horigin, ⟨of_decide_eq_false hstays, (Nat.sub_le _ _).trans hle⟩, hactor⟩
      · rw [if_neg hits]
        exact hc

variable {s : ConditionSet} {actorId : String}

/-- **An event leaves a valid set valid.** -/
theorem ConditionSet.Valid.ticked (hv : s.Valid) (event : DurationEvent) :
    (s.ticked event).Valid := by
  have hlength : (s.ticked event).active.length ≤ s.active.length := by
    unfold ConditionSet.ticked
    rw [List.length_map]
    exact (List.length_filter_le _ _).trans (List.length_map _).le
  refine ⟨hv.schema, hlength.trans hv.length_le, fun c hc => ?_, ?_⟩
  · obtain ⟨x, hx, rfl⟩ := List.mem_map.mp hc
    obtain ⟨hmem, hstays⟩ := List.mem_filter.mp hx
    obtain ⟨c₀, hc₀, rfl⟩ := List.mem_map.mp hmem
    rw [Bool.not_eq_true'] at hstays
    exact ActiveCondition.tick_validate (hv.conditions c₀ hc₀) hstays
  · have hidentities : s.active.map ConditionSet.identity =
        (s.active.map (·.tick event)).map fun x => ConditionSet.identity x.1 := by
      rw [List.map_map]
      exact List.map_congr_left fun c _ => (c.tick_identity event).symm
    have hnodup := hv.identities_nodup
    rw [hidentities] at hnodup
    unfold ConditionSet.ticked
    rw [List.map_map]
    exact hnodup.sublist (List.filter_sublist.map _)

/-- **Processing an event fails only at the entry.** -/
theorem processDurations_eq_ok (hv : s.Valid) (event : DurationEvent)
    (hactor : isValidOpaqueId event.actorId = true) :
    ∃ resolution, processDurations s event = .ok (resolution, s.ticked event) := by
  refine ⟨⟨((s.active.map (·.tick event)).filter (·.2)).map (·.1)⟩, ?_⟩
  have hid : requireId event.actorId "duration event actor ID is invalid" = .ok () :=
    rejectIf_of_not (by rw [hactor]; decide)
  unfold processDurations
  rw [leaving_of_eq_ok (ConditionSet.validate_eq_ok.mpr hv), ok_bind, leaving_of_eq_ok hid, ok_bind]
  dsimp only
  rw [leaving_of_eq_ok (ConditionSet.validate_eq_ok.mpr (hv.ticked event)), ok_bind]
  rfl

/-! ## Conditions that follow the health of their bearer -/

/-- What a bearer at zero hit points suffers. -/
def zeroHitPointCondition (condition : ConditionId) : ActiveCondition :=
  ⟨condition, .mechanic "health.zero-hit-points", .permanent⟩

namespace ConditionSet

/-- The condition is already there on account of zero hit points. -/
def hasZeroHitPoint (s : ConditionSet) (condition : ConditionId) : Bool :=
  s.active.any fun c => decide (c.condition = condition ∧ c.source = .mechanic "health.zero-hit-points")

def withoutZeroHitPoint (s : ConditionSet) : ConditionSet :=
  { s with active := s.active.filter fun c => decide (c.source ≠ .mechanic "health.zero-hit-points") }

/-- Add what zero hit points bring, unless it is there. -/
def applyZeroHitPoint (s : ConditionSet) (condition : ConditionId) : Mutating ConditionSet (Unit × ConditionSet) :=
  if s.hasZeroHitPoint condition then .ok ((), s) else s.apply (zeroHitPointCondition condition)

end ConditionSet

/-- One change of the list. -/
def applyHealthConditionChange (actorId : String) (conditions : ConditionSet) :
    HealthConditionChange → Mutating ConditionSet (Unit × ConditionSet)
  | .applyZeroHitPointUnconscious => conditions.applyZeroHitPoint .unconscious
  | .applyProne => conditions.applyZeroHitPoint .prone
  | .removeZeroHitPointConditions => .ok ((), conditions.withoutZeroHitPoint)
  | .wakeFromSleep => do
    let (_, next) ← processDurations conditions (.damaged actorId)
    return ((), next)

/-- The changes one after the other; an error carries the set as the changes before it have left it. -/
def applyChangesInTurn (actorId : String) : ConditionSet → List HealthConditionChange →
    Mutating ConditionSet (Unit × ConditionSet)
  | conditions, [] => .ok ((), conditions)
  | conditions, change :: changes => do
    let (_, next) ← applyHealthConditionChange actorId conditions change
    applyChangesInTurn actorId next changes

def applyHealthConditionChanges (actorId : String) (conditions : ConditionSet)
    (changes : List HealthConditionChange) : Mutating ConditionSet (Unit × ConditionSet) := do
  leaving conditions (requireId actorId "health-condition actor ID is invalid")
  leaving conditions conditions.validate
  let (_, next) ← applyChangesInTurn actorId conditions changes
  leaving next next.validate
  return ((), next)

/-! ## The changes as pure effects -/

theorem requireId_eq_ok {value detail : String} : requireId value detail = .ok () ↔ isValidOpaqueId value = true := by
  unfold requireId
  rw [rejectIf_eq_ok, Bool.not_eq_false]

namespace ConditionSet

variable {s : ConditionSet} {condition : ConditionId}

/-- The text of a source names it, when the source is a mechanic. -/
theorem sourceText_eq_mechanic {c : ActiveCondition} {mechanicId : String}
    (h : c.sourceText = "mechanic:" ++ mechanicId) : c.source = .mechanic mechanicId := by
  obtain ⟨kind, source, duration⟩ := c
  cases source with
  | mechanic other =>
    have happend : "mechanic:" ++ other = "mechanic:" ++ mechanicId := h
    have htoList := congrArg String.toList happend
    rw [String.toList_append, String.toList_append] at htoList
    rw [String.toList_inj.mp (List.append_cancel_left htoList)]
  | spell spell casterId =>
    have hlist := congrArg String.toList (show "spell:" ++ spell.debugName ++ ":" ++ casterId = _ from h)
    simp only [String.toList_append] at hlist
    exact absurd (congrArg List.head? hlist) (by simp)

theorem zeroHitPointCondition_validate : (zeroHitPointCondition condition).validate = .ok () := by
  have hid : isValidOpaqueId "health.zero-hit-points" = true := by decide
  exact ActiveCondition.validate_eq_ok.mpr ⟨hid, trivial⟩

/-- The set with what zero hit points bring. -/
def withZeroHitPoint (s : ConditionSet) (condition : ConditionId) : ConditionSet :=
  if s.hasZeroHitPoint condition then s else { s with active := s.active ++ [zeroHitPointCondition condition] }

theorem hasZeroHitPoint_eq_true :
    s.hasZeroHitPoint condition = true ↔
      ∃ c ∈ s.active, c.condition = condition ∧ c.source = .mechanic "health.zero-hit-points" := by
  unfold hasZeroHitPoint
  simp only [List.any_eq_true, decide_eq_true_eq]

/-- A set that has room stays valid with what zero hit points bring. -/
theorem Valid.withZeroHitPoint (hv : s.Valid) (hroom : s.hasZeroHitPoint condition = true ∨ s.active.length < maxActiveConditions) :
    (s.withZeroHitPoint condition).Valid := by
  unfold ConditionSet.withZeroHitPoint
  by_cases hhas : s.hasZeroHitPoint condition = true
  · rw [if_pos hhas]
    exact hv
  · rw [if_neg hhas]
    have hlength := hroom.resolve_left hhas
    refine ⟨hv.schema, ?_, ?_, ?_⟩
    · show (s.active ++ [zeroHitPointCondition condition]).length ≤ maxActiveConditions
      rw [List.length_append]
      exact hlength
    · intro c hc
      rcases List.mem_append.mp hc with hc | hc
      · exact hv.conditions c hc
      · rw [List.mem_singleton.mp hc]
        exact zeroHitPointCondition_validate
    · show ((s.active ++ [zeroHitPointCondition condition]).map identity).Nodup
      rw [List.map_append]
      refine List.nodup_append.mpr ⟨hv.identities_nodup, List.nodup_singleton _, ?_⟩
      rintro x hx y hy rfl
      obtain ⟨c, hc, hidentity⟩ := List.mem_map.mp hx
      rw [List.mem_singleton.mp hy] at hidentity
      have hcondition : c.condition = condition := congrArg Prod.fst hidentity
      have hsource : c.source = .mechanic "health.zero-hit-points" :=
        sourceText_eq_mechanic (congrArg Prod.snd hidentity)
      exact hhas (hasZeroHitPoint_eq_true.mpr ⟨c, hc, hcondition, hsource⟩)

/-- **What zero hit points bring is added where there is room**, and otherwise refused with the set as it was. -/
theorem applyZeroHitPoint_cases (hv : s.Valid) (condition : ConditionId) :
    (s.hasZeroHitPoint condition = true ∨ s.active.length < maxActiveConditions) ∧
        s.applyZeroHitPoint condition = .ok ((), s.withZeroHitPoint condition) ∨
      s.hasZeroHitPoint condition = false ∧ s.active.length = maxActiveConditions ∧
        ∃ e, s.applyZeroHitPoint condition = .error (e, s) := by
  cases hhas : s.hasZeroHitPoint condition with
  | true =>
    left
    refine ⟨.inl rfl, ?_⟩
    unfold applyZeroHitPoint ConditionSet.withZeroHitPoint
    rw [if_pos hhas, if_pos hhas]
  | false =>
    have happly : s.applyZeroHitPoint condition = s.apply (zeroHitPointCondition condition) := by
      unfold applyZeroHitPoint
      rw [hhas]
      rfl
    rcases Nat.lt_or_ge s.active.length maxActiveConditions with hroom | hfull
    · left
      refine ⟨.inr hroom, ?_⟩
      have hnext : (s.withZeroHitPoint condition).Valid := hv.withZeroHitPoint (.inr hroom)
      have hadded : s.withZeroHitPoint condition = { s with active := s.active ++ [zeroHitPointCondition condition] } := by
        unfold ConditionSet.withZeroHitPoint
        rw [hhas]
        rfl
      have hfresh : ¬ ∃ active ∈ s.active, active.condition = (zeroHitPointCondition condition).condition ∧
          active.source = (zeroHitPointCondition condition).source := by
        rw [← Bool.not_eq_true] at hhas
        exact fun h => hhas (hasZeroHitPoint_eq_true.mpr h)
      rw [happly, hadded]
      rw [hadded] at hnext
      unfold ConditionSet.apply
      rw [leaving_of_eq_ok (validate_eq_ok.mpr hv), ok_bind, leaving_of_eq_ok zeroHitPointCondition_validate, ok_bind,
        leaving_of_eq_ok (rejectIf_of_not (Nat.ne_of_lt hroom)), ok_bind, leaving_of_eq_ok (rejectIf_of_not hfresh),
        ok_bind]
      dsimp only
      rw [leaving_of_eq_ok (validate_eq_ok.mpr hnext), ok_bind]
      rfl
    · right
      have hlength : s.active.length = maxActiveConditions := Nat.le_antisymm hv.length_le hfull
      refine ⟨rfl, hlength, ⟨.invalidState "condition set is full", ?_⟩⟩
      rw [happly]
      unfold ConditionSet.apply
      rw [leaving_of_eq_ok (validate_eq_ok.mpr hv), ok_bind, leaving_of_eq_ok zeroHitPointCondition_validate, ok_bind,
        rejectIf, if_pos hlength]
      rfl

end ConditionSet

/-- What one change makes of a set that has room for it. -/
def HealthConditionChange.effect (actorId : String) (s : ConditionSet) : HealthConditionChange → ConditionSet
  | .applyZeroHitPointUnconscious => s.withZeroHitPoint .unconscious
  | .applyProne => s.withZeroHitPoint .prone
  | .removeZeroHitPointConditions => s.withoutZeroHitPoint
  | .wakeFromSleep => s.ticked (.damaged actorId)

/-- **A single change is made in full, or refused with the set as it was**, and keeps the set valid. -/
theorem applyHealthConditionChange_cases (hid : isValidOpaqueId actorId = true) (hv : s.Valid)
    (change : HealthConditionChange) :
    (change.effect actorId s).Valid ∧
        applyHealthConditionChange actorId s change = .ok ((), change.effect actorId s) ∨
      s.active.length = maxActiveConditions ∧ ∃ e, applyHealthConditionChange actorId s change = .error (e, s) := by
  cases change with
  | applyZeroHitPointUnconscious =>
    rcases ConditionSet.applyZeroHitPoint_cases hv .unconscious with ⟨hroom, h⟩ | ⟨-, hfull, h⟩
    · exact .inl ⟨hv.withZeroHitPoint hroom, h⟩
    · exact .inr ⟨hfull, h⟩
  | applyProne =>
    rcases ConditionSet.applyZeroHitPoint_cases hv .prone with ⟨hroom, h⟩ | ⟨-, hfull, h⟩
    · exact .inl ⟨hv.withZeroHitPoint hroom, h⟩
    · exact .inr ⟨hfull, h⟩
  | removeZeroHitPointConditions => exact .inl ⟨hv.sublist List.filter_sublist, rfl⟩
  | wakeFromSleep =>
    obtain ⟨resolution, h⟩ := processDurations_eq_ok hv (.damaged actorId) hid
    refine .inl ⟨hv.ticked _, ?_⟩
    unfold applyHealthConditionChange
    rw [h]
    rfl

/-- **Whatever a list of changes makes of a valid set is valid.** -/
theorem applyChangesInTurn_valid (hid : isValidOpaqueId actorId = true) {s' : ConditionSet} (hv : s.Valid)
    (h : applyChangesInTurn actorId s changes = .ok ((), s')) :
    s'.Valid ∧ s' = changes.foldl (fun s change => change.effect actorId s) s := by
  induction changes generalizing s with
  | nil =>
    cases h
    exact ⟨hv, rfl⟩
  | cons change changes ih =>
    rcases applyHealthConditionChange_cases hid hv change with ⟨hnext, hok⟩ | ⟨-, e, herror⟩
    · unfold applyChangesInTurn at h
      rw [hok, ok_bind] at h
      exact ih hnext h
    · unfold applyChangesInTurn at h
      rw [herror] at h
      cases h

/-- **The check at the end never fails**: past the entry, the list alone decides. -/
theorem applyHealthConditionChanges_eq (hid : isValidOpaqueId actorId = true) (hv : s.Valid)
    (changes : List HealthConditionChange) :
    applyHealthConditionChanges actorId s changes = applyChangesInTurn actorId s changes := by
  have hentry : requireId actorId "health-condition actor ID is invalid" = .ok () := requireId_eq_ok.mpr hid
  unfold applyHealthConditionChanges
  rw [leaving_of_eq_ok hentry, ok_bind, leaving_of_eq_ok (ConditionSet.validate_eq_ok.mpr hv), ok_bind]
  cases h : applyChangesInTurn actorId s changes with
  | error x => rfl
  | ok x =>
    have hnext := (applyChangesInTurn_valid hid hv h).1
    rw [ok_bind]
    dsimp only
    rw [leaving_of_eq_ok (ConditionSet.validate_eq_ok.mpr hnext), ok_bind]
    rfl

/-- At the entry the set is as it was. -/
theorem applyHealthConditionChanges_refused
    (h : ¬ (isValidOpaqueId actorId = true ∧ s.Valid)) :
    ∃ e, applyHealthConditionChanges actorId s changes = .error (e, s) := by
  unfold applyHealthConditionChanges
  cases hid : requireId actorId "health-condition actor ID is invalid" with
  | error e => exact ⟨e, rfl⟩
  | ok u =>
    cases hs : s.validate with
    | error e => exact ⟨e, rfl⟩
    | ok u' => exact absurd ⟨requireId_eq_ok.mp hid, ConditionSet.validate_eq_ok.mp hs⟩ h

end ManchesterArcana.Rules
