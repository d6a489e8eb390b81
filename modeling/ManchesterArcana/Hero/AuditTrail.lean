import ManchesterArcana.Hero.Progression

/-!
# `Hero.AuditTrail` — the audits account for the hero

A reward and a level each leave an audit, the counters of an encounter none. The audits of any calls, read in order and
without the hero, tell how far the hero has come (`audit_trail_replays`).
-/

namespace ManchesterArcana.Hero

open Effect HeroCharacter
open Attempt (ends_lift_bind ends_reading_bind)

/-- The audits of a hero; those of its creation belong to the draft. -/
inductive HeroAuditPayload where
  | rewardAwarded (reward : RewardAwardAudit)
  | levelUp (levelUp : LevelUpAudit)

def HeroAuditPayload.validate : HeroAuditPayload → HeroResult Unit
  | rewardAwarded audit => audit.validate
  | levelUp audit => audit.validate

/-- A call, with the audit it returns. -/
def HeroCall.audited : HeroCall → Changing (Option HeroAuditPayload)
  | reward command policy context => do
    let audit ← applyReward command policy context
    return some (.rewardAwarded audit)
  | levelUp command context => do
    let audit ← HeroCharacter.levelUp command context
    return some (.levelUp audit)
  | synchronize currentHitPoints resourceCurrents => do
    synchronizeEncounterRuntime currentHitPoints resourceCurrents
    return none

/-- The audits that some calls leave, and the hero; those that fail leave none. -/
def HeroCharacter.audited (h : HeroCharacter) : List HeroCall → List HeroAuditPayload × HeroCharacter
  | [] => ([], h)
  | call :: calls =>
    let (result, h) := call.audited.run h
    let (audits, h) := h.audited calls
    ((result.toOption.bind id).toList ++ audits, h)

/-! ## Replay -/

/-- How far a hero has come. -/
structure HeroProgress where
  revision : Nat
  experiencePoints : Nat
  level : SupportedLevel
  deriving DecidableEq

def HeroCharacter.progress (h : HeroCharacter) : HeroProgress := ⟨h.revision, h.experiencePoints, h.level⟩

/-- The progress after an audit that goes on from it; encounters may have passed in between. -/
def HeroAuditPayload.next (p : HeroProgress) : HeroAuditPayload → Option HeroProgress
  | rewardAwarded audit =>
    if p.revision ≤ audit.revisionBefore ∧ p.experiencePoints = audit.experienceBefore ∧ p.level = audit.level then
      some ⟨audit.revisionAfter, audit.experienceAfter, audit.level⟩
    else none
  | levelUp audit =>
    if p.revision ≤ audit.revisionBefore ∧ p.level = audit.levelBefore then
      some ⟨audit.revisionAfter, p.experiencePoints, audit.levelAfter⟩
    else none

/-- The hero is where the progress tells, encounters since aside. -/
def HeroProgress.Tells (p : HeroProgress) (h : HeroCharacter) : Prop :=
  p.revision ≤ h.revision ∧ p.experiencePoints = h.experiencePoints ∧ p.level = h.level

/-- What is told of one hero is told of the other. -/
def Unmoved (h h' : HeroCharacter) : Prop := ∀ p : HeroProgress, p.Tells h → p.Tells h'

/-- What the audits tell of one hero leads to the other. -/
def HeroAuditPayload.Leads (audit : HeroAuditPayload) (h h' : HeroCharacter) : Prop :=
  audit.validate = .ok () ∧ ∀ p : HeroProgress, p.Tells h → audit.next p = some h'.progress

section Calls

variable {h : HeroCharacter} {context : TrustedMutationContext}

theorem applyReward_audited (command : RewardAwardCommand) (policy : TrustedRewardPolicy) :
    Attempt.Ends (applyReward command policy context) h
      (fun audit h' => (HeroAuditPayload.rewardAwarded audit).Leads h h') (· = h) := by
  unfold applyReward
  rw [ends_reading_bind]
  iterate 9 refine ends_lift_bind rfl fun _ _ => ?_
  refine ends_lift_bind rfl fun _ haudit => ⟨haudit, fun p hp => ?_⟩
  exact if_pos ⟨hp.1, hp.2.1, hp.2.2⟩

theorem levelUp_audited (command : LevelUpCommand) :
    Attempt.Ends (levelUp command context) h (fun audit h' => (HeroAuditPayload.levelUp audit).Leads h h') (· = h) := by
  unfold levelUp
  rw [ends_reading_bind]
  iterate 5 refine ends_lift_bind rfl fun _ _ => ?_
  refine ends_lift_bind rfl fun _ heligible => ?_
  iterate 2 refine ends_lift_bind rfl fun _ _ => ?_
  refine ends_lift_bind rfl fun candidate hadvanced => ?_
  refine ends_lift_bind rfl fun _ _ => ?_
  refine ends_lift_bind rfl fun _ haudit => ⟨haudit, fun p hp => ?_⟩
  obtain ⟨-, next, -, rfl⟩ := advanced_eq_ok hadvanced
  rw [rejectIf_eq_ok, Bool.not_eq_false, levelUpEligible_iff] at heligible
  show ite _ (some (HeroProgress.mk _ p.experiencePoints _)) _ = _
  rw [if_pos ⟨hp.1, hp.2.2.trans heligible.1⟩, hp.2.1]
  rfl

theorem writeCurrents_unmoved (seen : List ResourceKind) (currents : List (ResourceKind × Nat)) :
    Attempt.Ends (writeCurrents seen currents) h (fun _ h' => Unmoved h h') (Unmoved h) := by
  have hself : Unmoved h h := fun _ hp => hp
  induction currents generalizing h seen with
  | nil => exact hself
  | cons entry rest ih =>
    unfold writeCurrents
    refine ends_lift_bind hself fun _ _ => ?_
    rw [ends_reading_bind]
    refine ends_lift_bind hself fun _ _ => ?_
    refine ends_lift_bind hself fun _ _ => ?_
    rw [Attempt.ends_writing_bind]
    exact ih _ fun _ hp => hp

/-- However far an encounter's counters are written, the hero has come no further. -/
theorem synchronizeEncounterRuntime_unmoved (currentHitPoints : Nat) (currents : List (ResourceKind × Nat)) :
    Attempt.Ends (synchronizeEncounterRuntime currentHitPoints currents) h (fun _ h' => Unmoved h h') (Unmoved h) := by
  have hself : Unmoved h h := fun _ hp => hp
  unfold synchronizeEncounterRuntime
  rw [ends_reading_bind]
  iterate 3 refine ends_lift_bind hself fun _ _ => ?_
  refine Attempt.ends_bind (writeCurrents_unmoved [] currents) fun _ written hwritten => ?_
  rw [Attempt.ends_writing_bind, ends_reading_bind]
  refine ends_lift_bind hwritten fun revision hrevision => ?_
  rw [Attempt.ends_writing_bind, ends_reading_bind]
  obtain ⟨-, rfl⟩ := nextRevision_eq_ok.mp hrevision
  have hnext : Unmoved h { written with
      sheet := { written.sheet with currentHitPoints }, revision := written.revision + 1 } :=
    fun p hp => ⟨Nat.le_succ_of_le (hwritten p hp).1, (hwritten p hp).2⟩
  exact Attempt.ends_lift hnext fun _ _ => hnext

/-- **Step.** An audit leads on; a call without one leaves the hero where it was told to be. -/
theorem HeroCall.audited_ends (call : HeroCall) :
    Attempt.Ends call.audited h (fun audit h' => (audit = none ∧ Unmoved h h') ∨ ∃ a, audit = some a ∧ a.Leads h h')
      (Unmoved h) := by
  have hstays {h' : HeroCharacter} (heq : h' = h) : Unmoved h h' := heq ▸ fun _ hp => hp
  cases call with
  | reward command policy context =>
    refine Attempt.ends_bind ((applyReward_audited command policy).mono (fun _ _ hq => hq) fun _ => hstays) ?_
    exact fun audit h' hleads => .inr ⟨_, rfl, hleads⟩
  | levelUp command context =>
    refine Attempt.ends_bind ((levelUp_audited command).mono (fun _ _ hq => hq) fun _ => hstays) ?_
    exact fun audit h' hleads => .inr ⟨_, rfl, hleads⟩
  | synchronize currentHitPoints currents =>
    exact Attempt.ends_bind (synchronizeEncounterRuntime_unmoved currentHitPoints currents)
      fun _ h' hunmoved => .inl ⟨rfl, hunmoved⟩

end Calls

/-- **The audits account for the hero**, whatever is called on it and however often that fails: each passes its own
    check, and read in order they lead from where the hero was to where it is, no audit missing between two. -/
theorem audit_trail_replays (h : HeroCharacter) (calls : List HeroCall) :
    (∀ audit ∈ (h.audited calls).1, audit.validate = .ok ()) ∧
    ∃ p, (h.audited calls).1.foldlM HeroAuditPayload.next h.progress = some p ∧ p.Tells (h.audited calls).2 := by
  suffices hrun : ∀ p : HeroProgress, p.Tells h → (∀ audit ∈ (h.audited calls).1, audit.validate = .ok ()) ∧
      ∃ p', (h.audited calls).1.foldlM HeroAuditPayload.next p = some p' ∧ p'.Tells (h.audited calls).2 from
    hrun h.progress ⟨Nat.le_refl _, rfl, rfl⟩
  induction calls generalizing h with
  | nil => exact fun p hp => ⟨List.forall_mem_nil _, p, rfl, hp⟩
  | cons call calls ih =>
    intro p hp
    have hends := HeroCall.audited_ends (h := h) call
    unfold Attempt.Ends at hends
    unfold HeroCharacter.audited
    split at hends
    · next audit h' hcall =>
      rw [hcall]
      rcases hends with ⟨rfl, hunmoved⟩ | ⟨a, rfl, hvalid, hnext⟩
      · exact ih h' p (hunmoved p hp)
      · obtain ⟨hrest, p', hp', htells⟩ := ih h' h'.progress ⟨Nat.le_refl _, rfl, rfl⟩
        refine ⟨List.forall_mem_cons.mpr ⟨hvalid, hrest⟩, p', ?_, htells⟩
        show (a.next p).bind _ = _
        rw [hnext p hp]
        exact hp'
    · next e h' hcall =>
      rw [hcall]
      exact ih h' p (hends p hp)

end ManchesterArcana.Hero
