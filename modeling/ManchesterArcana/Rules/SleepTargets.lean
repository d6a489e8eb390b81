import ManchesterArcana.Effect.Greedy
import ManchesterArcana.Rules.Contracts

/-!
# `Rules.SleepTargets` — whom Sleep puts to sleep

Sleep rolls a pool of hit points and spends it on the candidates that can be put to sleep at all, the weakest
first and equals by id. Whom it reaches is therefore a question of buying the cheapest first with a budget
(`Effect.Greedy`), and its answer does not depend on the order in which the candidates were listed.
-/

namespace ManchesterArcana.Rules

open Effect

/-! ## The order of the candidates -/

namespace SleepCandidate

theorem before_total (a b : SleepCandidate) : a.before b ∨ b.before a := by
  rcases Nat.lt_trichotomy a.currentHitPoints b.currentHitPoints with h | h | h
  · exact .inl (.inl h)
  · rcases String.le_total a.targetId b.targetId with hid | hid
    · exact .inl (.inr ⟨h, hid⟩)
    · exact .inr (.inr ⟨h.symm, hid⟩)
  · exact .inr (.inl h)

variable {a b : SleepCandidate}

theorem before_trans {c : SleepCandidate} (h : a.before b) (h' : b.before c) : a.before c := by
  rcases h with hlt | ⟨heq, hid⟩
  · rcases h' with hlt' | ⟨heq', -⟩
    · exact .inl (hlt.trans hlt')
    · exact .inl (heq' ▸ hlt)
  · rcases h' with hlt' | ⟨heq', hid'⟩
    · exact .inl (heq ▸ hlt')
    · exact .inr ⟨heq.trans heq', String.le_trans hid hid'⟩

/-- Candidates that stand in both orders have one id. -/
theorem targetId_eq_of_before (h : a.before b) (h' : b.before a) : a.targetId = b.targetId := by
  rcases h with hlt | ⟨heq, hid⟩ <;> rcases h' with hlt' | ⟨heq', hid'⟩
  · exact absurd hlt' hlt.asymm
  · exact absurd heq' hlt.ne'
  · exact absurd heq hlt'.ne'
  · exact String.le_antisymm hid hid'

theorem le_of_before (h : a.before b) : a.currentHitPoints ≤ b.currentHitPoints := by
  rcases h with hlt | ⟨heq, -⟩
  · exact hlt.le
  · exact heq.le

instance : Std.Total SleepCandidate.before := ⟨before_total⟩
instance : IsTrans SleepCandidate SleepCandidate.before := ⟨fun _ _ _ => before_trans⟩

/-- The candidate can be put to sleep. -/
def Eligible (c : SleepCandidate) : Prop := c.alreadyUnconscious = false ∧ c.immuneToMagicalSleep = false

instance (c : SleepCandidate) : Decidable c.Eligible := inferInstanceAs (Decidable (_ ∧ _))

end SleepCandidate

/-- The candidates that can be put to sleep. -/
def eligibleCandidates (candidates : List SleepCandidate) : List SleepCandidate :=
  candidates.filter fun c => decide c.Eligible

/-- … weakest first. -/
def sleepOrder (candidates : List SleepCandidate) : List SleepCandidate :=
  (eligibleCandidates candidates).insertionSort SleepCandidate.before

section Order

variable {candidates candidates' : List SleepCandidate}

theorem sleepOrder_perm (candidates : List SleepCandidate) :
    (sleepOrder candidates).Perm (eligibleCandidates candidates) :=
  List.perm_insertionSort _ _

theorem sleepOrder_sorted (candidates : List SleepCandidate) :
    (sleepOrder candidates).Pairwise SleepCandidate.before :=
  List.pairwise_insertionSort _ _

theorem sleepOrder_cheapest (candidates : List SleepCandidate) :
    (sleepOrder candidates).Pairwise fun a b => a.currentHitPoints ≤ b.currentHitPoints :=
  (sleepOrder_sorted candidates).imp SleepCandidate.le_of_before

theorem sleepOrder_ids_nodup (hids : (candidates.map (·.targetId)).Nodup) :
    ((sleepOrder candidates).map (·.targetId)).Nodup := by
  have hfilter : ((eligibleCandidates candidates).map (·.targetId)).Nodup :=
    hids.sublist (List.filter_sublist.map _)
  exact ((sleepOrder_perm candidates).map _).nodup_iff.mpr hfilter

/-- **Distinct ids leave one order.** -/
theorem eq_sleepOrder (hids : (candidates.map (·.targetId)).Nodup) {order : List SleepCandidate}
    (hperm : order.Perm (eligibleCandidates candidates)) (hsorted : order.Pairwise SleepCandidate.before) :
    order = sleepOrder candidates := by
  refine (hperm.trans (sleepOrder_perm candidates).symm).eq_of_pairwise (fun a b ha hb hab hba => ?_) hsorted
    (sleepOrder_sorted candidates)
  have ha' := (hperm.trans (sleepOrder_perm candidates).symm).mem_iff.mp ha
  exact List.inj_on_of_nodup_map (sleepOrder_ids_nodup hids) ha' hb (SleepCandidate.targetId_eq_of_before hab hba)

theorem sleepOrder_congr (hids : (candidates.map (·.targetId)).Nodup) (h : candidates.Perm candidates') :
    sleepOrder candidates' = sleepOrder candidates :=
  eq_sleepOrder hids ((sleepOrder_perm candidates').trans (h.symm.filter _)) (sleepOrder_sorted candidates')

end Order

/-! ## Spending the pool -/

/-- Taking candidates in order is buying them at their hit points. -/
theorem takeAffordable_eq (pool : Nat) (candidates : List SleepCandidate) :
    takeAffordable pool candidates = affordable SleepCandidate.currentHitPoints pool candidates := by
  induction candidates generalizing pool with
  | nil => rfl
  | cons c cs ih =>
    unfold takeAffordable affordable
    rw [ih]

/-- Hit points of a list of candidates, together. -/
abbrev totalHitPoints (candidates : List SleepCandidate) : Nat := cost SleepCandidate.currentHitPoints candidates

/-- **Whom a pool puts to sleep**: the longest stretch of the order, from its start, that the pool covers; and no
    other choice among the eligible is larger. -/
structure PutToSleep (candidates : List SleepCandidate) (pool : Nat) (affected : List SleepCandidate) : Prop where
  ordered : ∃ order, order.Perm (eligibleCandidates candidates) ∧ order.Pairwise SleepCandidate.before ∧
    affected <+: order ∧ ∀ p, p <+: order → (totalHitPoints p ≤ pool ↔ p.length ≤ affected.length)
  most : ∀ chosen : List SleepCandidate, chosen.Subperm (eligibleCandidates candidates) →
    totalHitPoints chosen ≤ pool → chosen.length ≤ affected.length

theorem putToSleep_takeAffordable (candidates : List SleepCandidate) (pool : Nat) :
    PutToSleep candidates pool (takeAffordable pool (sleepOrder candidates)) := by
  rw [takeAffordable_eq]
  refine ⟨⟨sleepOrder candidates, sleepOrder_perm candidates, sleepOrder_sorted candidates, affordable_isPrefix _ _,
    fun p hp => ?_⟩, fun chosen hchosen hle => ?_⟩
  · rw [prefix_affordable_iff hp]
    exact ⟨List.IsPrefix.length_le, List.prefix_of_prefix_length_le hp (affordable_isPrefix _ _)⟩
  · exact length_le_affordable (sleepOrder_cheapest candidates)
      (hchosen.trans (sleepOrder_perm candidates).symm.subperm) hle

/-! ## What the affected receive -/

/-- The conditions that effects put on a target. -/
def conditionsOn (targetId : String) (effects : List SpellEffect) : List ActiveCondition :=
  effects.filterMap fun
    | .applyCondition id condition => if id = targetId then some condition else none
    | _ => none

theorem conditionsOn_append (targetId : String) (es es' : List SpellEffect) :
    conditionsOn targetId (es ++ es') = conditionsOn targetId es ++ conditionsOn targetId es' :=
  List.filterMap_append

theorem conditionsOn_sleepConditions (casterId targetId id : String) :
    conditionsOn id (sleepConditions casterId targetId) =
      if targetId = id then
        [ ⟨.unconscious, .spell .sleep casterId, .untilDamagedOrAwakened 10 targetId⟩
        , ⟨.prone, .spell .sleep casterId, .permanent⟩ ]
      else [] := by
  by_cases h : targetId = id <;> simp [conditionsOn, sleepConditions, h]

section Effects

variable {casterId : String} {affected : List SleepCandidate}

/-- Who is not affected receives nothing. -/
theorem conditionsOn_of_not_mem {id : String} (h : id ∉ affected.map (·.targetId)) :
    conditionsOn id (affected.flatMap fun c => sleepConditions casterId c.targetId) = [] := by
  induction affected with
  | nil => rfl
  | cons c cs ih =>
    rw [List.map_cons, List.mem_cons, not_or] at h
    rw [List.flatMap_cons, conditionsOn_append, conditionsOn_sleepConditions, if_neg (Ne.symm h.1), ih h.2]
    rfl

/-- **Who is affected falls unconscious and prone, once each.** -/
theorem conditionsOn_of_mem (hids : (affected.map (·.targetId)).Nodup) {c : SleepCandidate} (hc : c ∈ affected) :
    conditionsOn c.targetId (affected.flatMap fun c => sleepConditions casterId c.targetId) =
      [ ⟨.unconscious, .spell .sleep casterId, .untilDamagedOrAwakened 10 c.targetId⟩
      , ⟨.prone, .spell .sleep casterId, .permanent⟩ ] := by
  induction affected with
  | nil => cases hc
  | cons d ds ih =>
    rw [List.map_cons, List.nodup_cons] at hids
    rw [List.flatMap_cons, conditionsOn_append, conditionsOn_sleepConditions]
    rcases List.mem_cons.mp hc with rfl | hc
    · rw [if_pos rfl, conditionsOn_of_not_mem hids.1]
      rfl
    · have hne : d.targetId ≠ c.targetId := fun heq => hids.1 (heq ▸ List.mem_map_of_mem hc)
      rw [if_neg hne, ih hids.2 hc]
      rfl

end Effects

/-! ## The spell -/

/-- **What Sleep comes to**: a pool of five eight-sided dice, whom it puts to sleep, and the two conditions that
    each of them and nobody else receives, in the order in which they fell. -/
structure SleepOutcome (casterId : String) (candidates : List SleepCandidate) (rolls : SpellRolls) : Prop where
  exists_affected : ∃ roll affected, rolls.damageRolls = [roll] ∧ rolls.sleepHitPointPool = some roll.total ∧
    PutToSleep candidates roll.total affected ∧
    rolls.effects = affected.flatMap (fun c => sleepConditions casterId c.targetId) ∧
    (∀ c ∈ affected, conditionsOn c.targetId rolls.effects =
      [ ⟨.unconscious, .spell .sleep casterId, .untilDamagedOrAwakened 10 c.targetId⟩
      , ⟨.prone, .spell .sleep casterId, .permanent⟩ ]) ∧
    ∀ id, id ∉ affected.map (·.targetId) → conditionsOn id rolls.effects = []

theorem resolveSleep_eq (sc : SpellcastingState) (candidates : List SleepCandidate) :
    resolveSleep sc candidates = (do
      let poolRoll ← resolveDamageDice 5 8 0 false
      return {
        damageRolls := [poolRoll]
        sleepHitPointPool := some poolRoll.total
        effects := (takeAffordable poolRoll.total (sleepOrder candidates)).flatMap fun c =>
          sleepConditions sc.casterId c.targetId }) := by
  have hfilter : (candidates.filter fun c => !c.alreadyUnconscious && !c.immuneToMagicalSleep) =
      eligibleCandidates candidates := by
    refine List.filter_congr fun c _ => ?_
    rw [Bool.eq_iff_iff, decide_eq_true_iff, Bool.and_eq_true, Bool.not_eq_true', Bool.not_eq_true']
    exact Iff.rfl
  unfold resolveSleep sleepOrder
  rw [hfilter]

variable {candidates candidates' : List SleepCandidate} {sc : SpellcastingState} {distance : Nat}

theorem resolveSleep_outcome
    (hids : (candidates.map (·.targetId)).Nodup) {t : List (Nat × Nat)} {rolls : SpellRolls}
    (h : Prog.Returns (resolveSleep sc candidates) t rolls) : SleepOutcome sc.casterId candidates rolls := by
  rw [resolveSleep_eq] at h
  simp only [Prog.returns_bind, Prog.pure_eq, Prog.returns_ok] at h
  obtain ⟨_, _, roll, -, -, -, rfl⟩ := h
  have hslept := putToSleep_takeAffordable candidates roll.total
  have hinitial : takeAffordable roll.total (sleepOrder candidates) <+: sleepOrder candidates := by
    rw [takeAffordable_eq]
    exact affordable_isPrefix _ _
  have hnodup := (sleepOrder_ids_nodup hids).sublist (hinitial.sublist.map _)
  exact ⟨⟨roll, _, rfl, rfl, hslept, rfl, fun c hc => conditionsOn_of_mem hnodup hc,
    fun id hid => conditionsOn_of_not_mem hid⟩⟩

/-- **Listing the candidates otherwise changes nothing**, not even the program. -/
theorem resolveSleep_perm
    (hids : (candidates.map (·.targetId)).Nodup) (h : candidates.Perm candidates') :
    resolveSleep sc candidates' = resolveSleep sc candidates := by
  rw [resolveSleep_eq, resolveSleep_eq, sleepOrder_congr hids h]

/-! ## The check on the candidates -/

/-- A candidate that stands in the area with hit points left. -/
def SleepCandidate.InArea (c : SleepCandidate) : Prop :=
  isValidOpaqueId c.targetId = true ∧ c.distanceFromPointFeet ≤ 20 ∧ 5 ∣ c.distanceFromPointFeet ∧
    c.currentHitPoints ≠ 0

theorem validateCandidates_eq_ok {ids : List String} :
    SupportedSpellIntent.validateCandidates ids candidates = .ok () ↔
      (∀ c ∈ candidates, c.InArea) ∧ (candidates.map (·.targetId)).Nodup ∧
        ∀ c ∈ candidates, c.targetId ∉ ids := by
  induction candidates generalizing ids with
  | nil => simp [SupportedSpellIntent.validateCandidates]
  | cons c cs ih =>
    simp only [SupportedSpellIntent.validateCandidates, seq_eq_ok, requireId, rejectIf_eq_ok, ih, List.forall_mem_cons,
      List.map_cons, List.nodup_cons, Bool.not_eq_false]
    simp only [List.mem_cons, not_or, Nat.not_lt, not_not]
    constructor
    · rintro ⟨hid, ⟨hfresh, hdistance, hfive, hpoints⟩, hcs, hnodup, hrest⟩
      refine ⟨⟨⟨hid, hdistance, hfive, hpoints⟩, hcs⟩, ⟨fun hmem => ?_, hnodup⟩, hfresh, fun d hd => (hrest d hd).2⟩
      obtain ⟨d, hd, heq⟩ := List.mem_map.mp hmem
      exact (hrest d hd).1 heq
    · rintro ⟨⟨⟨hid, hdistance, hfive, hpoints⟩, hcs⟩, ⟨hnotin, hnodup⟩, hfresh, hrest⟩
      refine ⟨hid, ⟨hfresh, hdistance, hfive, hpoints⟩, hcs, hnodup, fun d hd => ⟨fun heq => ?_, hrest d hd⟩⟩
      exact hnotin (heq ▸ List.mem_map_of_mem hd)

theorem validate_sleep_eq_ok :
    (SupportedSpellIntent.sleep distance candidates).validate = .ok () ↔
      (distance ≤ 90 ∧ 5 ∣ distance ∧ candidates.length ≤ 32) ∧ (∀ c ∈ candidates, c.InArea) ∧
        (candidates.map (·.targetId)).Nodup := by
  simp only [SupportedSpellIntent.validate, seq_eq_ok, rejectIf_eq_ok, validateCandidates_eq_ok, not_or, Nat.not_lt,
    not_not]
  constructor
  · rintro ⟨harea, hcs, hnodup, -⟩
    exact ⟨harea, hcs, hnodup⟩
  · rintro ⟨harea, hcs, hnodup⟩
    exact ⟨harea, hcs, hnodup, fun _ _ => List.not_mem_nil⟩

/-- A check that does not look at the order of the candidates. -/
theorem validate_sleep_perm
    (h : candidates.Perm candidates') :
    (SupportedSpellIntent.sleep distance candidates').validate = .ok () ↔
      (SupportedSpellIntent.sleep distance candidates).validate = .ok () := by
  rw [validate_sleep_eq_ok, validate_sleep_eq_ok, h.length_eq, (h.map _).nodup_iff]
  exact and_congr_right fun _ => and_congr_left fun _ => forall_congr' fun c => by rw [h.mem_iff]

theorem checkSpell_sleep_perm {r : RuntimeResources} {conditions : ConditionSet}
    {components : SpellComponentAccess}
    {effects : ConditionEffects} (h : candidates.Perm candidates')
    (hok : checkSpell sc r conditions components (.sleep distance candidates) = .ok effects) :
    checkSpell sc r conditions components (.sleep distance candidates') = .ok effects := by
  unfold checkSpell at hok ⊢
  obtain ⟨_, h₁, hok⟩ := bind_eq_ok.mp hok
  obtain ⟨_, h₂, hok⟩ := bind_eq_ok.mp hok
  obtain ⟨_, h₃, hok⟩ := bind_eq_ok.mp hok
  obtain ⟨_, h₄, hok⟩ := bind_eq_ok.mp hok
  rw [h₁, ok_bind, h₂, ok_bind, h₃, ok_bind, (validate_sleep_perm h).mpr h₄, ok_bind]
  exact hok

end ManchesterArcana.Rules
