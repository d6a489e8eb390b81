import ManchesterArcana.Rules.Contracts
import ManchesterArcana.Rules.Durations

/-!
# `Rules.Exploration` — objectives, clocks and attitudes of a scene

Between encounters a scene keeps objectives that advance towards a target, clocks that fill, and the attitudes of
the characters in it. A command changes one of them, in a copy that replaces the scene only if it is valid; so a
scene that is played is valid throughout (`Plays.valid`). What a command has done is told by the fact it emits,
and `ExplorationSocialFact.replay` does it again: the facts of a run rebuild the scene (`play_replays`).
-/

namespace ManchesterArcana.Rules

open Effect
open List (forall₂_same map_cons mem_map)

def maxClockSegments : Nat := 12

/-- `u32::MAX`, the last turn. -/
def maxTurn : Nat := 2 ^ 32 - 1

inductive ProgressStatus where
  | active
  | completed
  | failed
  deriving DecidableEq

structure ObjectiveProgress where
  objectiveId : String
  progress : Nat
  target : Nat
  status : ProgressStatus
  deriving DecidableEq

def ObjectiveProgress.validate (o : ObjectiveProgress) : RulesMatrixResult Unit := do
  requireId o.objectiveId "objective ID is invalid"
  rejectIf (o.target = 0 ∨ o.target > maxClockSegments ∨ o.progress > o.target)
    (.invalidState "objective progress bounds are invalid")
  rejectIf (decide (o.progress = o.target) ≠ decide (o.status = .completed))
    (.invalidState "objective completion and progress disagree")

inductive ClockKind where
  | progress
  | threat
  deriving DecidableEq

structure SceneClock where
  clockId : String
  kind : ClockKind
  filled : Nat
  segments : Nat
  deriving DecidableEq

namespace SceneClock

def validate (c : SceneClock) : RulesMatrixResult Unit := do
  requireId c.clockId "clock ID is invalid"
  rejectIf (c.segments = 0 ∨ c.segments > maxClockSegments ∨ c.filled > c.segments)
    (.invalidState "clock bounds are invalid")

/-- Fill some segments, as far as there are any left; returns how many. -/
def advance (c : SceneClock) (segments : Nat) : RulesMatrixResult (Nat × SceneClock) := do
  c.validate
  rejectIf (segments = 0) (.invalidIntent "clock advance must be positive")
  let applied := min segments (c.segments - c.filled)
  return (applied, { c with filled := c.filled + applied })

end SceneClock

inductive NpcAttitude where
  | hostile
  | indifferent
  | friendly
  deriving DecidableEq

structure NpcSocialState where
  npcId : String
  attitude : NpcAttitude
  deriving DecidableEq

inductive AttitudeShift where
  | oneStepWorse
  | noChange
  | oneStepBetter
  deriving DecidableEq

def NpcAttitude.shift : NpcAttitude → AttitudeShift → NpcAttitude
  | .hostile, .oneStepBetter => .indifferent
  | .indifferent, .oneStepBetter => .friendly
  | .friendly, .oneStepWorse => .indifferent
  | .indifferent, .oneStepWorse => .hostile
  | attitude, _ => attitude

def NpcSocialState.applyShift (n : NpcSocialState) (shift : AttitudeShift) :
    RulesMatrixResult (NpcAttitude × NpcSocialState) := do
  requireId n.npcId "NPC ID is invalid"
  return (n.attitude.shift shift, { n with attitude := n.attitude.shift shift })

structure ExplorationSocialState where
  schemaVersion : Nat
  turn : Nat
  objectives : List ObjectiveProgress
  clocks : List SceneClock
  npcs : List NpcSocialState
  deriving DecidableEq

/-- Validate entries in order and collect their keys, none of which may have been seen before. -/
def validateKeyed {α : Type} (check : α → RulesMatrixResult Unit) (key : α → String) (duplicate : String) :
    List String → List α → RulesMatrixResult (List String)
  | seen, [] => .ok seen
  | seen, a :: as => do
    check a
    rejectIf (key a ∈ seen) (.invalidState duplicate)
    validateKeyed check key duplicate (key a :: seen) as

def ExplorationSocialState.validate (s : ExplorationSocialState) : RulesMatrixResult Unit := do
  rejectIf (s.schemaVersion ≠ rulesMatrixSchemaVersion ∨ s.turn = 0)
    (.invalidState "exploration state schema or turn is invalid")
  let ids ← validateKeyed ObjectiveProgress.validate (fun o => "objective:" ++ o.objectiveId)
    "duplicate objective ID" [] s.objectives
  let ids ← validateKeyed SceneClock.validate (fun c => "clock:" ++ c.clockId) "duplicate clock ID" ids s.clocks
  let _ ← validateKeyed (fun n => requireId n.npcId "NPC ID is invalid") (fun n : NpcSocialState => "npc:" ++ n.npcId)
    "duplicate NPC ID" ids s.npcs
  return ()

inductive ExplorationSocialCommand where
  | advanceObjective (objectiveId : String) (amount : Nat)
  | failObjective (objectiveId : String)
  | advanceClock (clockId : String) (amount : Nat)
  | shiftNpcAttitude (npcId : String) (shift : AttitudeShift)
  | endTurn
  deriving DecidableEq

inductive ExplorationSocialFact where
  | objectiveAdvanced (objectiveId : String) (applied : Nat) (completed : Bool)
  | objectiveFailed (objectiveId : String)
  | clockAdvanced (clockId : String) (applied : Nat) (filled : Bool)
  | npcAttitudeChanged (npcId : String) (attitude : NpcAttitude)
  | turnEnded (nextTurn : Nat)
  deriving DecidableEq

/-- `iter_mut().find(..)`: change the first entry that is meant, or fail for want of one. -/
def modifyFirst {α β ε : Type} (p : α → Bool) (absent : ε) (f : α → Except ε (β × α)) :
    List α → Except ε (β × List α)
  | [] => .error absent
  | a :: as =>
    if p a then do
      let (b, a') ← f a
      return (b, a' :: as)
    else do
      let (b, as') ← modifyFirst p absent f as
      return (b, a :: as')

/-- Advance an active objective towards its target; the fact of it. -/
def ObjectiveProgress.advance (o : ObjectiveProgress) (amount : Nat) :
    RulesMatrixResult (ExplorationSocialFact × ObjectiveProgress) := do
  rejectIf (o.status ≠ .active) (.invalidIntent "only an active objective can advance")
  let applied := min amount (o.target - o.progress)
  let progress := o.progress + applied
  let status := if progress = o.target then .completed else o.status
  return (.objectiveAdvanced o.objectiveId applied (decide (status = .completed)), { o with progress, status })

def ObjectiveProgress.fail (o : ObjectiveProgress) : RulesMatrixResult (ExplorationSocialFact × ObjectiveProgress) := do
  rejectIf (o.status ≠ .active) (.invalidIntent "only an active objective can fail")
  return (.objectiveFailed o.objectiveId, { o with status := .failed })

/-- What a command makes of a scene, and the fact of it. -/
def ExplorationSocialState.after (s : ExplorationSocialState) :
    ExplorationSocialCommand → RulesMatrixResult (ExplorationSocialFact × ExplorationSocialState)
  | .advanceObjective objectiveId amount => do
    requireId objectiveId "objective command ID is invalid"
    rejectIf (amount = 0) (.invalidIntent "objective advance must be positive")
    let (fact, objectives) ← modifyFirst (·.objectiveId = objectiveId)
      (.invalidIntent "objective is not in the current scene") (·.advance amount) s.objectives
    return (fact, { s with objectives })
  | .failObjective objectiveId => do
    requireId objectiveId "objective command ID is invalid"
    let (fact, objectives) ← modifyFirst (·.objectiveId = objectiveId)
      (.invalidIntent "objective is not in the current scene") (·.fail) s.objectives
    return (fact, { s with objectives })
  | .advanceClock clockId amount => do
    requireId clockId "clock command ID is invalid"
    let (fact, clocks) ← modifyFirst (·.clockId = clockId) (.invalidIntent "clock is not in the current scene")
      (fun c => do
        let (applied, next) ← c.advance amount
        return (ExplorationSocialFact.clockAdvanced clockId applied (decide (next.filled = next.segments)), next))
      s.clocks
    return (fact, { s with clocks })
  | .shiftNpcAttitude npcId shift => do
    requireId npcId "NPC command ID is invalid"
    let (fact, npcs) ← modifyFirst (·.npcId = npcId) (.invalidIntent "NPC is not in the current scene")
      (fun n => do
        let (attitude, next) ← n.applyShift shift
        return (ExplorationSocialFact.npcAttitudeChanged npcId attitude, next))
      s.npcs
    return (fact, { s with npcs })
  | .endTurn => do
    rejectIf (s.turn ≥ maxTurn) .arithmeticOverflow
    return (.turnEnded (s.turn + 1), { s with turn := s.turn + 1 })

/-- The scene is replaced by a valid one or stays as it is. -/
def applyExplorationSocialCommand (s : ExplorationSocialState) (command : ExplorationSocialCommand) :
    Mutating ExplorationSocialState (ExplorationSocialFact × ExplorationSocialState) := do
  leaving s s.validate
  let (fact, next) ← leaving s (s.after command)
  leaving s next.validate
  return (fact, next)

/-! ## Valid scenes -/

variable {α : Type} {facts : List ExplorationSocialFact} {o o' : ObjectiveProgress} {fact : ExplorationSocialFact}

variable {as bs : List α} {key : α → String} {R : α → α → Prop} {c c' : SceneClock} {tag id : String}
  {facts' : List ExplorationSocialFact} {command : ExplorationSocialCommand}

theorem validateKeyed_eq_ok {check : α → RulesMatrixResult Unit} {duplicate : String}
    {seen ids : List String} :
    validateKeyed check key duplicate seen as = .ok ids ↔
      (∀ a ∈ as, check a = .ok ()) ∧ (as.map key).Nodup ∧ (∀ a ∈ as, key a ∉ seen) ∧
        ids = (as.map key).reverse ++ seen := by
  induction as generalizing seen with
  | nil => simp [validateKeyed, eq_comm]
  | cons a as ih =>
    simp only [validateKeyed, seq_eq_ok, rejectIf_eq_ok, ih, List.forall_mem_cons, map_cons, List.nodup_cons,
      List.reverse_cons, List.append_assoc, List.singleton_append]
    simp only [List.mem_cons, not_or]
    constructor
    · rintro ⟨ha, hfresh, has, hnodup, hseen, hids⟩
      refine ⟨⟨ha, has⟩, ⟨fun hmem => ?_, hnodup⟩, ⟨hfresh, fun b hb => (hseen b hb).2⟩, hids⟩
      obtain ⟨b, hb, heq⟩ := mem_map.mp hmem
      exact (hseen b hb).1 heq
    · rintro ⟨⟨ha, has⟩, ⟨hnotin, hnodup⟩, ⟨hfresh, hseen⟩, hids⟩
      exact ⟨ha, hfresh, has, hnodup, fun b hb => ⟨fun heq => hnotin (heq ▸ List.mem_map_of_mem hb), hseen b hb⟩, hids⟩

/-- Keys of one kind differ as their ids do. -/
theorem nodup_map_prefixed {id : α → String} :
    (as.map fun a => tag ++ id a).Nodup ↔ (as.map id).Nodup := by
  have hmap : (as.map fun a => tag ++ id a) = (as.map id).map (tag ++ ·) := by
    rw [List.map_map]
    rfl
  rw [hmap]
  refine List.nodup_map_iff fun a b h => ?_
  have hlist := congrArg String.toList h
  simp only [String.toList_append] at hlist
  exact String.toList_inj.mp (List.append_cancel_left hlist)

/-- Keys of different kinds differ in their first letter. -/
theorem prefixed_ne {tag' a b : String} {x y : Char} {xs ys : List Char} (hx : tag.toList = x :: xs)
    (hy : tag'.toList = y :: ys) (hne : x ≠ y) : tag ++ a ≠ tag' ++ b := by
  intro h
  have hlist := congrArg String.toList h
  rw [String.toList_append, String.toList_append, hx, hy] at hlist
  exact hne (List.cons.inj hlist).1

namespace ExplorationSocialState

structure Valid (s : ExplorationSocialState) : Prop where
  schema : s.schemaVersion = rulesMatrixSchemaVersion
  turn : s.turn ≠ 0
  objectives : ∀ o ∈ s.objectives, o.validate = .ok ()
  clocks : ∀ c ∈ s.clocks, c.validate = .ok ()
  npcs : ∀ n ∈ s.npcs, isValidOpaqueId n.npcId = true
  objectiveIds : (s.objectives.map (·.objectiveId)).Nodup
  clockIds : (s.clocks.map (·.clockId)).Nodup
  npcIds : (s.npcs.map (·.npcId)).Nodup

theorem validate_eq_ok {s : ExplorationSocialState} : s.validate = .ok () ↔ s.Valid := by
  have hclock (c : SceneClock) (o : ObjectiveProgress) : "clock:" ++ c.clockId ≠ "objective:" ++ o.objectiveId :=
    prefixed_ne rfl rfl (show 'c' ≠ 'o' by decide)
  have hnpc (n : NpcSocialState) (o : ObjectiveProgress) : "npc:" ++ n.npcId ≠ "objective:" ++ o.objectiveId :=
    prefixed_ne rfl rfl (show 'n' ≠ 'o' by decide)
  have hnpc' (n : NpcSocialState) (c : SceneClock) : "npc:" ++ n.npcId ≠ "clock:" ++ c.clockId :=
    prefixed_ne rfl rfl (show 'n' ≠ 'c' by decide)
  simp only [validate, bind_eq_ok, exists_unit, rejectIf_eq_ok, validateKeyed_eq_ok, nodup_map_prefixed,
    requireId_eq_ok, not_or, not_not, pure_eq]
  constructor
  · rintro ⟨⟨hschema, hturn⟩, _, ⟨ho, hon, -, -⟩, _, ⟨hc, hcn, -, -⟩, _, ⟨hn, hnn, -, -⟩, -⟩
    exact ⟨hschema, hturn, ho, hc, hn, hon, hcn, hnn⟩
  · intro hv
    refine ⟨⟨hv.schema, hv.turn⟩, _, ⟨hv.objectives, hv.objectiveIds, fun _ _ => List.not_mem_nil, rfl⟩, _,
      ⟨hv.clocks, hv.clockIds, fun c _ hmem => ?_, rfl⟩, _, ⟨hv.npcs, hv.npcIds, fun n _ hmem => ?_, rfl⟩, trivial⟩
    · rw [List.append_nil, List.mem_reverse] at hmem
      obtain ⟨o, -, heq⟩ := mem_map.mp hmem
      exact hclock c o heq.symm
    · rcases List.mem_append.mp hmem with hmem | hmem
      · obtain ⟨c, -, heq⟩ := mem_map.mp (List.mem_reverse.mp hmem)
        exact hnpc' n c heq.symm
      · rw [List.append_nil, List.mem_reverse] at hmem
        obtain ⟨o, -, heq⟩ := mem_map.mp hmem
        exact hnpc n o heq.symm

end ExplorationSocialState

/-! ## One entry changes -/

/-- Change the entries of a list that have a given key; where keys are unique, at most one. -/
def mapKeyed {α : Type} (key : α → String) (id : String) (g : α → α) (as : List α) : List α :=
  as.map fun a => if key a = id then g a else a

/-- With unique keys, changing the first entry meant changes the one entry there is. -/
theorem modifyFirst_eq_ok {β ε : Type} {absent : ε} {f : α → Except ε (β × α)}
    {as' : List α} {b : β} (hnodup : (as.map key).Nodup)
    (h : modifyFirst (fun a => decide (key a = id)) absent f as = .ok (b, as')) :
    ∃ a ∈ as, key a = id ∧ ∃ a', f a = .ok (b, a') ∧ as' = mapKeyed key id (fun _ => a') as := by
  induction as generalizing as' with
  | nil => cases h
  | cons a as ih =>
    obtain ⟨hnotin, hrest⟩ := List.nodup_cons.mp hnodup
    by_cases ha : key a = id
    · have hothers : ∀ x ∈ as, key x ≠ id := fun x hx heq =>
        hnotin (mem_map.mpr ⟨x, hx, heq.trans ha.symm⟩)
      simp only [modifyFirst, ha, decide_true, ↓reduceIte, bind_eq_ok, Prod.exists, pure_eq, Except.ok.injEq,
        Prod.mk.injEq] at h
      obtain ⟨b', a', hf, rfl, rfl⟩ := h
      refine ⟨a, List.mem_cons_self, ha, a', hf, ?_⟩
      show _ = List.map _ (a :: as)
      rw [map_cons, if_pos ha]
      congr 1
      exact (List.map_id'' (fun x => rfl) as).symm.trans
        (List.map_congr_left fun x hx => (if_neg (hothers x hx)).symm)
    · simp only [modifyFirst, ha, decide_false, Bool.false_eq_true, ↓reduceIte, bind_eq_ok, Prod.exists, pure_eq,
        Except.ok.injEq, Prod.mk.injEq] at h
      obtain ⟨b', as'', hf, rfl, rfl⟩ := h
      obtain ⟨x, hx, hkey, x', hfx, rfl⟩ := ih hrest hf
      refine ⟨x, List.mem_cons_of_mem a hx, hkey, x', hfx, ?_⟩
      show _ = List.map _ (a :: as)
      rw [map_cons, if_neg ha]
      rfl

/-- The entry that has a key is the only one that has it. -/
theorem mapKeyed_of_mem (hnodup : (as.map key).Nodup) {a : α}
    (ha : a ∈ as) (g : α → α) : mapKeyed key (key a) (fun _ => g a) as = mapKeyed key (key a) g as := by
  refine List.map_congr_left fun x hx => ?_
  by_cases hkey : key x = key a
  · rw [if_pos hkey, if_pos hkey, List.inj_on_of_nodup_map hnodup hx ha hkey]
  · rw [if_neg hkey, if_neg hkey]

/-- A relation between entries, on a list and what becomes of it. -/
theorem forall₂_mapKeyed {g : α → α}
    (hhit : ∀ a ∈ as, key a = id → R a (g a)) (hmiss : ∀ a, key a ≠ id → R a a) :
    List.Forall₂ R as (mapKeyed key id g as) := by
  induction as with
  | nil => exact .nil
  | cons a as ih =>
    refine .cons ?_ (ih fun x hx => hhit x (List.mem_cons_of_mem a hx))
    show R a (if key a = id then g a else a)
    by_cases hkey : key a = id
    · rw [if_pos hkey]
      exact hhit a List.mem_cons_self hkey
    · rw [if_neg hkey]
      exact hmiss a hkey

/-! ## What a fact tells -/

namespace ExplorationSocialFact

/-- What a fact applies to an objective. -/
def objectiveGain (objectiveId : String) : ExplorationSocialFact → Nat
  | .objectiveAdvanced id applied _ => if id = objectiveId then applied else 0
  | _ => 0

/-- What a fact applies to a clock. -/
def clockGain (clockId : String) : ExplorationSocialFact → Nat
  | .clockAdvanced id applied _ => if id = clockId then applied else 0
  | _ => 0

/-- Do to a scene what a fact tells. -/
def replay (s : ExplorationSocialState) : ExplorationSocialFact → ExplorationSocialState
  | .objectiveAdvanced id applied completed =>
    { s with
      objectives := mapKeyed (·.objectiveId) id
        (fun o => { o with progress := o.progress + applied, status := if completed then .completed else o.status })
        s.objectives }
  | .objectiveFailed id =>
    { s with objectives := mapKeyed (·.objectiveId) id (fun o => { o with status := .failed }) s.objectives }
  | .clockAdvanced id applied _ =>
    { s with clocks := mapKeyed (·.clockId) id (fun c => { c with filled := c.filled + applied }) s.clocks }
  | .npcAttitudeChanged id attitude =>
    { s with npcs := mapKeyed (·.npcId) id (fun n => { n with attitude }) s.npcs }
  | .turnEnded nextTurn => { s with turn := nextTurn }

end ExplorationSocialFact

open ExplorationSocialFact

/-- An objective after some facts: what they applied is added, and one that is settled stays. -/
structure ObjectiveProgress.Leads (facts : List ExplorationSocialFact) (o o' : ObjectiveProgress) : Prop where
  id : o'.objectiveId = o.objectiveId
  target : o'.target = o.target
  progress : o'.progress = o.progress + (facts.map (objectiveGain o.objectiveId)).sum
  settled : o.status ≠ .active → o' = o

/-- A clock after some facts. -/
structure SceneClock.Leads (facts : List ExplorationSocialFact) (c c' : SceneClock) : Prop where
  id : c'.clockId = c.clockId
  kind : c'.kind = c.kind
  segments : c'.segments = c.segments
  filled : c'.filled = c.filled + (facts.map (clockGain c.clockId)).sum

/-- A scene after some facts. -/
structure ExplorationSocialState.Leads (facts : List ExplorationSocialFact) (s s' : ExplorationSocialState) : Prop where
  turn : s.turn ≤ s'.turn
  objectives : List.Forall₂ (ObjectiveProgress.Leads facts) s.objectives s'.objectives
  clocks : List.Forall₂ (SceneClock.Leads facts) s.clocks s'.clocks
  npcs : s'.npcs.map (·.npcId) = s.npcs.map (·.npcId)

theorem ObjectiveProgress.Leads.same
    (h : (facts.map (objectiveGain o.objectiveId)).sum = 0) : Leads facts o o :=
  ⟨rfl, rfl, by rw [h]; rfl, fun _ => rfl⟩

theorem SceneClock.Leads.same
    (h : (facts.map (clockGain c.clockId)).sum = 0) : Leads facts c c :=
  ⟨rfl, rfl, rfl, by rw [h]; rfl⟩

theorem ObjectiveProgress.Leads.trans {o'' : ObjectiveProgress}
    (h : Leads facts o o') (h' : Leads facts' o' o'') : Leads (facts ++ facts') o o'' where
  id := h'.id.trans h.id
  target := h'.target.trans h.target
  progress := by
    rw [h'.progress, h.progress, h.id, List.map_append, List.sum_append, Nat.add_assoc]
  settled hs := by
    have heq := h.settled hs
    rw [← heq] at hs
    exact (h'.settled hs).trans heq

theorem SceneClock.Leads.trans {c'' : SceneClock}
    (h : Leads facts c c') (h' : Leads facts' c' c'') : Leads (facts ++ facts') c c'' where
  id := h'.id.trans h.id
  kind := h'.kind.trans h.kind
  segments := h'.segments.trans h.segments
  filled := by
    rw [h'.filled, h.filled, h.id, List.map_append, List.sum_append, Nat.add_assoc]

theorem forall₂_trans {S T : α → α → Prop} (hRST : ∀ a b c, R a b → S b c → T a c) {cs : List α}
    (h : List.Forall₂ R as bs) (h' : List.Forall₂ S bs cs) : List.Forall₂ T as cs := by
  induction h generalizing cs with
  | nil =>
    cases h'
    exact .nil
  | cons hab _ ih =>
    cases h' with
    | cons hbc hrest => exact .cons (hRST _ _ _ hab hbc) (ih hrest)

namespace ExplorationSocialState

theorem Leads.refl (s : ExplorationSocialState) : Leads [] s s :=
  ⟨Nat.le_refl _, forall₂_same.mpr fun _ _ => .same rfl, forall₂_same.mpr fun _ _ => .same rfl, rfl⟩

theorem Leads.trans {facts facts' : List ExplorationSocialFact} {s s' s'' : ExplorationSocialState}
    (h : Leads facts s s') (h' : Leads facts' s' s'') : Leads (facts ++ facts') s s'' :=
  ⟨h.turn.trans h'.turn, forall₂_trans (fun _ _ _ => .trans) h.objectives h'.objectives,
    forall₂_trans (fun _ _ _ => .trans) h.clocks h'.clocks, h'.npcs.trans h.npcs⟩

end ExplorationSocialState

/-! ## One command -/

theorem ObjectiveProgress.advance_eq_ok {amount : Nat} :
    o.advance amount = .ok (fact, o') ↔
      o.status = .active ∧
        o' = { o with
          progress := o.progress + min amount (o.target - o.progress),
          status := if o.progress + min amount (o.target - o.progress) = o.target then .completed else o.status } ∧
        fact = .objectiveAdvanced o.objectiveId (min amount (o.target - o.progress))
          (decide (o'.status = .completed)) := by
  simp only [advance, seq_eq_ok, rejectIf_eq_ok, not_not, pure_eq, Except.ok.injEq, Prod.mk.injEq]
  refine and_congr_right fun _ => ⟨fun ⟨hfact, ho⟩ => ?_, fun ⟨ho, hfact⟩ => ?_⟩
  · subst ho
    exact ⟨rfl, hfact.symm⟩
  · subst ho
    exact ⟨hfact.symm, rfl⟩

theorem ObjectiveProgress.fail_eq_ok :
    o.fail = .ok (fact, o') ↔
      o.status = .active ∧ o' = { o with status := .failed } ∧ fact = .objectiveFailed o.objectiveId := by
  simp only [fail, seq_eq_ok, rejectIf_eq_ok, not_not, pure_eq, Except.ok.injEq, Prod.mk.injEq]
  exact and_congr_right fun _ => ⟨fun ⟨hfact, ho⟩ => ⟨ho.symm, hfact.symm⟩, fun ⟨ho, hfact⟩ => ⟨hfact.symm, ho.symm⟩⟩

theorem SceneClock.advance_returns {segments applied : Nat}
    (h : c.advance segments = .ok (applied, c')) : c' = { c with filled := c.filled + applied } := by
  simp only [advance, seq_eq_ok, rejectIf_eq_ok, pure_eq, Except.ok.injEq, Prod.mk.injEq] at h
  obtain ⟨-, -, rfl, rfl⟩ := h
  rfl

theorem NpcSocialState.applyShift_returns {n n' : NpcSocialState} {shift : AttitudeShift} {attitude : NpcAttitude}
    (h : n.applyShift shift = .ok (attitude, n')) : n' = { n with attitude } := by
  simp only [applyShift, seq_eq_ok, pure_eq, Except.ok.injEq, Prod.mk.injEq] at h
  obtain ⟨-, rfl, rfl⟩ := h
  rfl

namespace ExplorationSocialState

variable {s next : ExplorationSocialState} {command : ExplorationSocialCommand} {fact : ExplorationSocialFact}

/-- A change of one active objective that its fact tells. -/
theorem objective_changes {f : ObjectiveProgress → RulesMatrixResult (ExplorationSocialFact × ObjectiveProgress)}
    {id : String} {absent : RulesMatrixError} {objectives : List ObjectiveProgress} (hv : s.Valid)
    (hf : ∀ o ∈ s.objectives, ∀ o', f o = .ok (fact, o') → o.status = .active ∧ o'.objectiveId = o.objectiveId ∧
      o'.target = o.target ∧ o'.progress = o.progress + fact.objectiveGain o.objectiveId ∧
      fact.replay s = { s with objectives := mapKeyed (·.objectiveId) o.objectiveId (fun _ => o') s.objectives } ∧
      (∀ id', id' ≠ o.objectiveId → fact.objectiveGain id' = 0) ∧ ∀ id', fact.clockGain id' = 0)
    (h : modifyFirst (fun o => decide (o.objectiveId = id)) absent f s.objectives = .ok (fact, objectives)) :
    { s with objectives } = fact.replay s ∧ Leads [fact] s { s with objectives } := by
  obtain ⟨o, ho, rfl, o', hfo, rfl⟩ := modifyFirst_eq_ok hv.objectiveIds h
  obtain ⟨hactive, hid, htarget, hprogress, hreplay, hothers, hclocks⟩ := hf o ho o' hfo
  refine ⟨hreplay.symm, Nat.le_refl _, forall₂_mapKeyed (fun x hx hkey => ?_) (fun x hkey => .same ?_),
    forall₂_same.mpr fun c _ => .same ?_, rfl⟩
  · rw [List.inj_on_of_nodup_map hv.objectiveIds hx ho hkey]
    exact ⟨hid, htarget, by simpa using hprogress, fun hs => absurd hactive hs⟩
  · simpa using hothers x.objectiveId hkey
  · simpa using hclocks c.clockId

/-- **Step.** In a valid scene a command does what its fact tells. -/
theorem after_leads (hv : s.Valid) (h : s.after command = .ok (fact, next)) :
    next = fact.replay s ∧ Leads [fact] s next := by
  cases command with
  | advanceObjective objectiveId amount =>
    simp only [after, bind_eq_ok, exists_unit, rejectIf_eq_ok, Prod.exists, pure_eq, Except.ok.injEq,
      Prod.mk.injEq] at h
    obtain ⟨-, -, fact', objectives, hmodify, rfl, rfl⟩ := h
    refine objective_changes hv (fun o ho o' hf => ?_) hmodify
    obtain ⟨hactive, rfl, rfl⟩ := ObjectiveProgress.advance_eq_ok.mp hf
    refine ⟨hactive, rfl, rfl, by simp [objectiveGain], ?_, fun id' hne => if_neg hne.symm, fun _ => rfl⟩
    show { s with objectives := _ } = _
    congr 1
    rw [← mapKeyed_of_mem hv.objectiveIds ho]
    congr
    split <;> simp [hactive]
  | failObjective objectiveId =>
    simp only [after, bind_eq_ok, exists_unit, Prod.exists, pure_eq, Except.ok.injEq, Prod.mk.injEq] at h
    obtain ⟨-, fact', objectives, hmodify, rfl, rfl⟩ := h
    refine objective_changes hv (fun o ho o' hf => ?_) hmodify
    obtain ⟨hactive, rfl, rfl⟩ := ObjectiveProgress.fail_eq_ok.mp hf
    refine ⟨hactive, rfl, rfl, rfl, ?_, fun _ _ => rfl, fun _ => rfl⟩
    show { s with objectives := _ } = _
    rw [← mapKeyed_of_mem hv.objectiveIds ho]
  | advanceClock clockId amount =>
    simp only [after, bind_eq_ok, exists_unit, Prod.exists, pure_eq, Except.ok.injEq, Prod.mk.injEq] at h
    obtain ⟨-, fact', clocks, hmodify, rfl, rfl⟩ := h
    obtain ⟨c, hc, rfl, c', hf, rfl⟩ := modifyFirst_eq_ok hv.clockIds hmodify
    simp only [bind_eq_ok, Prod.exists, Except.ok.injEq, Prod.mk.injEq] at hf
    obtain ⟨applied, c'', hadvance, rfl, rfl⟩ := hf
    obtain rfl := SceneClock.advance_returns hadvance
    refine ⟨?_, Nat.le_refl _, forall₂_same.mpr fun o _ => .same rfl,
      forall₂_mapKeyed (fun x hx hkey => ?_) (fun x hkey => .same ?_), rfl⟩
    · show _ = { s with clocks := _ }
      rw [← mapKeyed_of_mem hv.clockIds hc (fun c => { c with filled := c.filled + applied })]
    · rw [List.inj_on_of_nodup_map hv.clockIds hx hc hkey]
      exact ⟨rfl, rfl, rfl, by simp [clockGain]⟩
    · simpa [clockGain] using fun heq : c.clockId = x.clockId => absurd heq.symm hkey
  | shiftNpcAttitude npcId shift =>
    simp only [after, bind_eq_ok, exists_unit, Prod.exists, pure_eq, Except.ok.injEq, Prod.mk.injEq] at h
    obtain ⟨-, fact', npcs, hmodify, rfl, rfl⟩ := h
    obtain ⟨n, hn, rfl, n', hf, rfl⟩ := modifyFirst_eq_ok hv.npcIds hmodify
    simp only [bind_eq_ok, Prod.exists, Except.ok.injEq, Prod.mk.injEq] at hf
    obtain ⟨attitude, n'', hshift, rfl, rfl⟩ := hf
    obtain rfl := NpcSocialState.applyShift_returns hshift
    refine ⟨?_, Nat.le_refl _, forall₂_same.mpr fun o _ => .same rfl,
      forall₂_same.mpr fun c _ => .same rfl, ?_⟩
    · show _ = { s with npcs := _ }
      rw [← mapKeyed_of_mem hv.npcIds hn (fun n => { n with attitude })]
    · show (mapKeyed _ _ _ s.npcs).map _ = _
      unfold mapKeyed
      rw [List.map_map]
      refine List.map_congr_left fun x _ => ?_
      show (if x.npcId = n.npcId then _ else x).npcId = x.npcId
      split
      · exact Eq.symm ‹_›
      · rfl
  | endTurn =>
    simp only [after, seq_eq_ok, rejectIf_eq_ok, pure_eq, Except.ok.injEq, Prod.mk.injEq] at h
    obtain ⟨-, rfl, rfl⟩ := h
    exact ⟨rfl, Nat.le_succ _, forall₂_same.mpr fun o _ => .same rfl,
      forall₂_same.mpr fun c _ => .same rfl, rfl⟩

end ExplorationSocialState

theorem applyExplorationSocialCommand_returns {s next : ExplorationSocialState}
    (h : applyExplorationSocialCommand s command = .ok (fact, next)) :
    s.Valid ∧ s.after command = .ok (fact, next) ∧ next.Valid := by
  simp only [applyExplorationSocialCommand, bind_eq_ok, exists_unit, leaving_eq_ok, Prod.exists, pure_eq,
    Except.ok.injEq, Prod.mk.injEq] at h
  obtain ⟨hs, fact', next', hafter, hnext, rfl, rfl⟩ := h
  exact ⟨ExplorationSocialState.validate_eq_ok.mp hs, hafter, ExplorationSocialState.validate_eq_ok.mp hnext⟩

/-- A command that fails leaves the scene as it was. -/
theorem applyExplorationSocialCommand_fails {s left : ExplorationSocialState}
    {e : RulesMatrixError} (h : applyExplorationSocialCommand s command = .error (e, left)) : left = s := by
  have hleaves : LeavesOnError s (applyExplorationSocialCommand s command) := by
    refine leavesOnError_bind fun _ => ?_
    refine leavesOnError_bind fun after => ?_
    refine leavesOnError_bind fun _ => ?_
    exact leavesOnError_ok
  exact hleaves _ h

/-! ## Runs -/

/-- Commands in order, skipping those that fail; the facts of those that do not. -/
def playExploration (s : ExplorationSocialState) :
    List ExplorationSocialCommand → ExplorationSocialState × List ExplorationSocialFact
  | [] => (s, [])
  | command :: commands =>
    match applyExplorationSocialCommand s command with
    | .ok (fact, next) => ((playExploration next commands).1, fact :: (playExploration next commands).2)
    | .error (_, left) => playExploration left commands

theorem playExploration_append (s : ExplorationSocialState) (earlier later : List ExplorationSocialCommand) :
    playExploration s (earlier ++ later) =
      ((playExploration (playExploration s earlier).1 later).1,
        (playExploration s earlier).2 ++ (playExploration (playExploration s earlier).1 later).2) := by
  induction earlier generalizing s with
  | nil => rfl
  | cons command earlier ih =>
    cases h : applyExplorationSocialCommand s command with
    | error left => simp only [List.cons_append, playExploration, h, ih]
    | ok result => simp only [List.cons_append, playExploration, h, ih]

/-- **Run.** A valid scene stays valid, and its facts tell all that happens to it. -/
theorem playExploration_leads {s : ExplorationSocialState} (hv : s.Valid)
    (commands : List ExplorationSocialCommand) :
    (playExploration s commands).1.Valid ∧
      (playExploration s commands).2.foldl replay s = (playExploration s commands).1 ∧
      ExplorationSocialState.Leads (playExploration s commands).2 s (playExploration s commands).1 := by
  induction commands generalizing s with
  | nil => exact ⟨hv, rfl, .refl s⟩
  | cons command commands ih =>
    cases h : applyExplorationSocialCommand s command with
    | error left =>
      obtain ⟨e, left⟩ := left
      obtain rfl := applyExplorationSocialCommand_fails h
      simp only [playExploration, h]
      exact ih hv
    | ok result =>
      obtain ⟨fact, next⟩ := result
      obtain ⟨-, hafter, hnext⟩ := applyExplorationSocialCommand_returns h
      obtain ⟨hreplay, hleads⟩ := ExplorationSocialState.after_leads hv hafter
      obtain ⟨hvalid, hfacts, hrest⟩ := ih hnext
      simp only [playExploration, h]
      refine ⟨hvalid, ?_, hleads.trans hrest⟩
      rw [List.foldl_cons, ← hreplay]
      exact hfacts

theorem forall₂_map_eq {β : Type} {f : α → β} (hR : ∀ a b, R a b → f b = f a)
    (h : List.Forall₂ R as bs) : bs.map f = as.map f := by
  induction h with
  | nil => rfl
  | cons hab _ ih => rw [map_cons, map_cons, hR _ _ hab, ih]

/-- **Scenes that are played.** Wherever a run of a valid scene stands after its `earlier` commands, the `later` ones
    keep it valid and its ids as they are, and turn nothing back: progress, fill and turn only grow, and an objective
    completed or failed is left alone. All that is gained is what the facts say was applied, from which the scene can
    be rebuilt. A command that fails changes nothing. -/
theorem exploration_runs (s : ExplorationSocialState) (earlier later : List ExplorationSocialCommand)
    (hv : s.validate = .ok ()) :
    let before := playExploration s earlier
    let after := playExploration s (earlier ++ later)
    (before.1.validate = .ok () ∧ after.1.validate = .ok ()) ∧
      (after.1.objectives.map (·.objectiveId) = s.objectives.map (·.objectiveId) ∧
        after.1.clocks.map (·.clockId) = s.clocks.map (·.clockId) ∧
        after.1.npcs.map (·.npcId) = s.npcs.map (·.npcId)) ∧
      (before.1.turn ≤ after.1.turn ∧
        List.Forall₂ (fun o o' => o.progress ≤ o'.progress ∧
          (o.status ≠ .active → o'.status = o.status ∧ o'.progress = o.progress))
          before.1.objectives after.1.objectives ∧
        List.Forall₂ (fun c c' => c.filled ≤ c'.filled) before.1.clocks after.1.clocks) ∧
      (List.Forall₂ (fun o o' => o'.progress = o.progress + (after.2.map (objectiveGain o.objectiveId)).sum)
          s.objectives after.1.objectives ∧
        List.Forall₂ (fun c c' => c'.filled = c.filled + (after.2.map (clockGain c.clockId)).sum)
          s.clocks after.1.clocks ∧
        after.2.foldl replay s = after.1) ∧
      ∀ command e left, applyExplorationSocialCommand after.1 command = .error (e, left) → left = after.1 := by
  intro before after
  rw [ExplorationSocialState.validate_eq_ok] at hv
  obtain ⟨hbefore, -, -⟩ := playExploration_leads hv earlier
  obtain ⟨hafter, hfacts, hleads⟩ := playExploration_leads hv (earlier ++ later)
  obtain ⟨-, -, hlater⟩ := playExploration_leads hbefore later
  have hsplit : after.1 = (playExploration before.1 later).1 :=
    congrArg (·.1) (playExploration_append s earlier later)
  rw [← hsplit] at hlater
  refine ⟨⟨ExplorationSocialState.validate_eq_ok.mpr hbefore, ExplorationSocialState.validate_eq_ok.mpr hafter⟩,
    ⟨forall₂_map_eq (fun _ _ h => h.id) hleads.objectives, forall₂_map_eq (fun _ _ h => h.id) hleads.clocks,
      hleads.npcs⟩,
    ⟨hlater.turn, hlater.objectives.imp ?objective, hlater.clocks.imp ?clock⟩,
    ⟨hleads.objectives.imp fun _ _ h => h.progress, hleads.clocks.imp fun _ _ h => h.filled, hfacts⟩,
    fun command e left => applyExplorationSocialCommand_fails⟩
  case objective =>
    intro o o' h
    refine ⟨?_, fun hs => ?_⟩
    · rw [h.progress]
      exact Nat.le_add_right _ _
    · rw [h.settled hs]
      exact ⟨rfl, rfl⟩
  case clock =>
    intro c c' h
    rw [h.filled]
    exact Nat.le_add_right _ _

/-- A locked door, and an alarm that may ring while it is forced. -/
def lockedDoor : ExplorationSocialState where
  schemaVersion := rulesMatrixSchemaVersion
  turn := 1
  objectives := [{ objectiveId := "objective:door", progress := 1, target := 3, status := .active }]
  clocks := [{ clockId := "clock:alarm", kind := .threat, filled := 0, segments := 4 }]
  npcs := [{ npcId := "npc:porter", attitude := .indifferent }]

theorem lockedDoor_opens :
    let commands := [.advanceObjective "objective:door" 5, .failObjective "objective:door"]
    (playExploration lockedDoor commands).2 = [.objectiveAdvanced "objective:door" 2 true] ∧
      (playExploration lockedDoor commands).2.foldl replay lockedDoor = (playExploration lockedDoor commands).1 :=
  ⟨by decide, (exploration_runs lockedDoor [.advanceObjective "objective:door" 5] [.failObjective "objective:door"]
    (by decide)).2.2.2.1.2.2⟩

end ManchesterArcana.Rules
