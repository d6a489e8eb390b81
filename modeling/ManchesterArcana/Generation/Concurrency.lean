import ManchesterArcana.Generation.Lease

/-!
# `Generation.Concurrency` — how many jobs of a campaign are worked on

A claim counts the other jobs whose lease runs. `concurrency_limit` says that the count holds afterwards: leases only run
out as time passes, and a heartbeat extends only a lease that runs.
-/

namespace ManchesterArcana.Generation

open Effect Store

/-- The jobs of a kind that are worked on. -/
def GenerationStore.activeOf (s : GenerationStore) (kind : GenerationJobDocument → Bool) (now : DateTime) : Nat :=
  s.jobs.countP fun job => kind job && job.isActive now

/-- The jobs of a campaign. -/
def inCampaign (campaignId : String) (job : GenerationJobDocument) : Bool :=
  job.campaignId = campaignId

/-- The illustrations of a campaign. -/
def illustratesCampaign (campaignId : String) (job : GenerationJobDocument) : Bool :=
  job.campaignId = campaignId ∧ job.purpose = .illustration

section Call

variable {now later : DateTime} {digests : Digests} {s : GenerationStore} {op : Operation}
  {job job' : GenerationJobDocument} {jobs : List GenerationJobDocument} {kind : GenerationJobDocument → Bool}

/-- Leases only run out. -/
theorem isActive_mono (hle : now ≤ later) (h : job.isActive later = true) : job.isActive now = true := by
  unfold GenerationJobDocument.isActive at h ⊢
  rw [decide_eq_true_eq] at h ⊢
  obtain ⟨hstate, hexpires⟩ := h
  refine ⟨hstate, ?_⟩
  obtain ⟨expires, hsome, hlt⟩ := (Option.any_eq_true _ _).mp hexpires
  exact (Option.any_eq_true _ _).mpr ⟨expires, hsome, decide_eq_true (hle.trans_lt (of_decide_eq_true hlt))⟩

theorem activeOf_mono (hle : now ≤ later) : s.activeOf kind later ≤ s.activeOf kind now := by
  refine List.countP_mono_left fun job _ h => ?_
  rw [Bool.and_eq_true] at h ⊢
  exact ⟨h.1, isActive_mono hle h.2⟩

theorem not_isActive_of_state (h : job.state ≠ .running) : job.isActive now = false := by
  unfold GenerationJobDocument.isActive
  exact decide_eq_false fun hactive => h hactive.1

/-- A change keeps the campaign of a job, its purpose and its limit. -/
theorem JobChange.same (h : JobChange now digests s op job job') : job'.campaignId = job.campaignId ∧
    job'.purpose = job.purpose ∧ job'.campaignConcurrencyLimit = job.campaignConcurrencyLimit := by
  cases h with
  | terminalized => exact ⟨rfl, rfl, rfl⟩
  | leased => exact ⟨rfl, rfl, rfl⟩
  | extended => exact ⟨rfl, rfl, rfl⟩
  | cancelled => exact ⟨rfl, rfl, rfl⟩
  | completed lease e attempt =>
    unfold GenerationJobDocument.complete
    dsimp only
    split
    · split <;> exact ⟨rfl, rfl, rfl⟩
    · split <;> exact ⟨rfl, rfl, rfl⟩

/-- A change leaves a job active only if its lease ran before, or if there was room for a new one. -/
theorem JobChange.isActive (h : JobChange now digests s op job job') (hactive : job'.isActive now = true) :
    job.isActive now = true ∨ (s.isFullFor job now = false ∧ job.campaignConcurrencyLimit ≠ 0) := by
  cases h with
  | terminalized =>
    rw [not_isActive_of_state (by simp [GenerationJobDocument.terminalizeExpired])] at hactive
    cases hactive
  | leased claim attemptId digest hready hroom hlimit => exact .inr ⟨hroom, hlimit⟩
  | extended lease duration hleased =>
    rw [GenerationJobDocument.isLeasedTo, decide_eq_true_eq] at hleased
    exact .inl hleased.2.2.2
  | completed lease e attempt =>
    rw [not_isActive_of_state complete_fields.2.2.1] at hactive
    cases hactive
  | cancelled =>
    rw [not_isActive_of_state (by simp [GenerationJobDocument.cancel])] at hactive
    cases hactive

/-- **A call keeps the jobs of a kind within a bound** that a new lease leaves room in. -/
theorem JobsAfter.activeOf_le {bound : Nat} (h : JobsAfter now digests s op jobs) (hs : s.IsSound)
    (hkind : ∀ {job job'}, JobChange now digests s op job job' → kind job' = kind job)
    (hbound : s.activeOf kind now ≤ bound)
    (hroom : ∀ job ∈ s.jobs, kind job = true → s.isFullFor job now = false → job.campaignConcurrencyLimit ≠ 0 →
      s.jobs.countP (fun j => (kind j && j.isActive now) && decide (j.id ≠ job.id)) < bound) :
    jobs.countP (fun job => kind job && job.isActive now) ≤ bound := by
  cases h with
  | same => exact hbound
  | added job hnew hfresh =>
    have hidle : (kind job && job.isActive now) = false := by
      rw [not_isActive_of_state (by rw [hnew.state]; decide), Bool.and_false]
    rw [List.countP_append, List.countP_singleton, hidle]
    exact hbound
  | changed job job' hmem hid hchange =>
    rw [countP_updateById hs.unique hmem rfl]
    have hbefore := countP_of_mem (fun j => kind j && j.isActive now) hs.unique hmem
    unfold GenerationStore.activeOf at hbound
    by_cases hactive : (kind job' && job'.isActive now) = true
    · rw [if_pos hactive]
      rw [Bool.and_eq_true] at hactive
      have hjob : kind job = true := (hkind hchange).symm.trans hactive.1
      rcases hchange.isActive hactive.2 with hran | ⟨hfull, hlimit⟩
      · rw [if_pos (by rw [hjob, hran]; rfl)] at hbefore
        omega
      · exact hroom job hmem hjob hfull hlimit
    · rw [if_neg hactive]
      omega

end Call

/-! ## Every run -/

section Runs

variable {digests : Digests} {q q' : QueueState} {event : QueueEvent}

/-- The limits hold: where all jobs of a campaign carry one limit, and for illustrations. -/
structure QueueState.WithinLimits (q : QueueState) : Prop where
  sound : q.store.IsSound
  campaign : ∀ (campaignId : String) (limit : Nat),
    (∀ job ∈ q.store.jobs, job.campaignId = campaignId → job.campaignConcurrencyLimit = limit) →
    q.store.activeOf (inCampaign campaignId) q.clock ≤ limit
  illustrations : ∀ campaignId : String, q.store.activeOf (illustratesCampaign campaignId) q.clock ≤ 1

variable {s : GenerationStore} {now : DateTime}

/-- What leaves room for a job of a campaign. -/
theorem isFullFor_eq_false {job : GenerationJobDocument}
    (h : s.isFullFor job now = false) : s.activeBeside job now < job.campaignConcurrencyLimit ∧
      (job.purpose = .illustration → s.activeIllustrationsBeside job now = 0) := by
  unfold GenerationStore.isFullFor at h
  rw [decide_eq_false_iff_not] at h
  exact ⟨by omega, fun hpurpose => by
    by_contra hne
    exact h (.inr ⟨hpurpose, Nat.pos_of_ne_zero hne⟩)⟩

/-- The jobs of a store are still there after a call, with the limits that they carried. -/
theorem JobsAfter.limit {op : Operation} {jobs : List GenerationJobDocument}
    {campaignId : String} {limit : Nat} (h : JobsAfter now digests s op jobs) (hs : s.IsSound)
    (hjobs : ∀ job ∈ jobs, job.campaignId = campaignId → job.campaignConcurrencyLimit = limit) :
    ∀ job ∈ s.jobs, job.campaignId = campaignId → job.campaignConcurrencyLimit = limit := by
  intro x hx hcampaign
  cases h with
  | same => exact hjobs x hx hcampaign
  | added job => exact hjobs x (List.mem_append_left _ hx) hcampaign
  | changed job job' hmem hid hchange =>
    by_cases heq : x.id = job.id
    · obtain rfl := List.inj_on_of_nodup_map hs.unique hx hmem heq
      obtain ⟨hsame, -, hlimit⟩ := hchange.same
      rw [← hlimit]
      exact hjobs job' (mem_updateById.mpr (.inl ⟨x, hx, rfl, rfl⟩)) (hsame.trans hcampaign)
    · exact hjobs x (mem_updateById.mpr (.inr ⟨hx, heq⟩)) hcampaign

/-- **Every step keeps the limits.** -/
theorem QueueState.WithinLimits.step (hq : q.WithinLimits) (h : q.Step digests event q') : q'.WithinLimits := by
  have hsound' := h.isSound hq.sound
  cases event with
  | elsewhere =>
    obtain ⟨hclock, -, -, slot, hjobs⟩ := h
    have hactive : ∀ kind : GenerationJobDocument → Bool,
        (∀ job artifact, kind { job with pendingArtifactId := artifact } = kind job) →
        q'.store.activeOf kind q'.clock = q.store.activeOf kind q.clock := by
      intro kind hkind
      unfold GenerationStore.activeOf
      rw [hjobs, hclock, List.countP_map]
      refine List.countP_congr fun job _ => ?_
      show (kind _ && job.isActive q.clock) = true ↔ _
      rw [hkind]
    refine ⟨hsound', fun campaignId limit hlimit => ?_, fun campaignId => ?_⟩
    · rw [hactive _ fun _ _ => rfl]
      refine hq.campaign campaignId limit fun job hjob => ?_
      exact hlimit { job with pendingArtifactId := slot job } (by rw [hjobs]; exact List.mem_map.mpr ⟨job, hjob, rfl⟩)
    · rw [hactive _ fun _ _ => rfl]
      exact hq.illustrations campaignId
  | call op now =>
    obtain ⟨hclock, rfl⟩ := h
    have hafter := op.run_jobs now digests q.store
    refine ⟨hsound', fun campaignId limit hlimit => ?_, fun campaignId => ?_⟩
    · have hbefore := hafter.limit hq.sound hlimit
      refine hafter.activeOf_le hq.sound (fun hchange => ?_)
        ((activeOf_mono hclock).trans (hq.campaign campaignId limit hbefore)) ?_
      · unfold inCampaign
        rw [hchange.same.1]
      · intro job hmem hjob hfull hne
        have hcampaign : job.campaignId = campaignId := of_decide_eq_true hjob
        have hroom := (isFullFor_eq_false hfull).1
        rw [hbefore job hmem hcampaign] at hroom
        refine lt_of_le_of_lt (List.countP_mono_left fun j _ hj => ?_) hroom
        simp only [inCampaign, Bool.and_eq_true, decide_eq_true_eq] at hj ⊢
        exact ⟨hj.1.1.trans hcampaign.symm, hj.2, hj.1.2⟩
    · refine hafter.activeOf_le hq.sound (fun hchange => ?_) ((activeOf_mono hclock).trans (hq.illustrations campaignId)) ?_
      · unfold illustratesCampaign
        rw [hchange.same.1, hchange.same.2.1]
      · intro job hmem hjob hfull hne
        have hkind : job.campaignId = campaignId ∧ job.purpose = .illustration := of_decide_eq_true hjob
        have hroom := (isFullFor_eq_false hfull).2 hkind.2
        refine Nat.lt_one_iff.mpr (Nat.le_zero.mp (hroom ▸ List.countP_mono_left fun j _ hj => ?_))
        simp only [illustratesCampaign, Bool.and_eq_true, decide_eq_true_eq] at hj ⊢
        exact ⟨hj.1.1.1.trans hkind.1.symm, hj.2, hj.1.1.2, hj.1.2⟩

/-- **The concurrency limits.** However calls interleave, the jobs of a campaign that are worked on are no more than the
limit that all its jobs carry, and at most one of them is an illustration. -/
theorem concurrency_limit (digests : Digests) {q q' : QueueState} {events : List QueueEvent} (hstart : q.store.jobs = [])
    (hrun : Run (QueueState.Step digests) q events q') (campaignId : String) (now : DateTime) (hnow : q'.clock ≤ now) :
    (∀ limit, (∀ job ∈ q'.store.jobs, job.campaignId = campaignId → job.campaignConcurrencyLimit = limit) →
        q'.store.activeOf (inCampaign campaignId) now ≤ limit) ∧
      q'.store.activeOf (illustratesCampaign campaignId) now ≤ 1 := by
  have hempty : ∀ kind, q.store.activeOf kind q.clock = 0 := by
    intro kind
    unfold GenerationStore.activeOf
    rw [hstart]
    rfl
  have hlimits : q'.WithinLimits := by
    refine hrun.invariant (fun _ _ _ (hq : QueueState.WithinLimits _) h => hq.step h)
      ⟨isSound_of_no_jobs hstart, fun campaignId limit _ => ?_, fun campaignId => ?_⟩
    · rw [hempty]
      exact Nat.zero_le _
    · rw [hempty]
      exact Nat.zero_le _
  exact ⟨fun limit hlimit => (activeOf_mono hnow).trans (hlimits.campaign campaignId limit hlimit),
    (activeOf_mono hnow).trans (hlimits.illustrations campaignId)⟩

/-- One job that is claimed, of a campaign whose jobs carry no other limit. -/
theorem concurrency_limit_claimed : claimedStore.activeOf (inCampaign "campaign-1") 2000 = 1 ∧
    claimedStore.activeOf (inCampaign "campaign-1") 2000 ≤ 2 ^ 31 - 1 := by
  refine ⟨by decide, ?_⟩
  exact (concurrency_limit plainDigests rfl run_claimedStore "campaign-1" 2000 (by decide)).1 _ (by decide)

end Runs

end ManchesterArcana.Generation
