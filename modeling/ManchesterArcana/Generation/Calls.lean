import ManchesterArcana.Effect.Run
import ManchesterArcana.Generation.Jobs

/-!
# `Generation.Calls` — what a call can do

`Operation.run` is one call, and `Operation.run_jobs` says all that it can do to the jobs: it changes none, it adds a
queued one, or it makes a `JobChange` to one. What is to be known of the jobs is derived from that.

A run interleaves calls, at times that do not decrease, with what the rest of the server does to the documents that the
queue shares with it.
-/

namespace ManchesterArcana.Generation

open Effect Store

/-! ## Calls -/

inductive Operation where
  | enqueue (requested : NewGenerationJob)
  | claim (request : GenerationClaim) (filter : ClaimFilter) (attemptId token : String)
  | heartbeat (lease : GenerationLease) (duration : Nat)
  | succeed (lease : GenerationLease) (success : GenerationSuccess)
  | fail (lease : GenerationLease) (failure : GenerationAttemptFailure)
  | cancel (campaignId jobId : String)
  deriving DecidableEq, Repr

inductive Answer where
  | enqueued (outcome : EnqueueGenerationJobOutcome)
  | claimed (claimed : Option ClaimedGenerationJob)
  | job (job : GenerationJobDocument)
  | finished (outcome : GenerationAttemptFinishOutcome)
  deriving DecidableEq, Repr

def Operation.run (now : DateTime) (digests : Digests) (op : Operation) (s : GenerationStore) :
    Except GenerationJobStoreError Answer × GenerationStore :=
  match op with
  | .enqueue requested => (enqueueGenerationJob now digests requested s).map (·.map .enqueued) id
  | .claim request filter attemptId token =>
    (claimGenerationJob now digests request filter attemptId token s).map (·.map .claimed) id
  | .heartbeat lease duration => (heartbeatGenerationJob now digests lease duration s).map (·.map .job) id
  | .succeed lease success => (succeedGenerationJob now digests lease success s).map (·.map .job) id
  | .fail lease failure => (failGenerationAttempt now digests lease failure s).map (·.map .finished) id
  | .cancel campaignId jobId => (cancelGenerationJob now campaignId jobId s).map (·.map .job) id

/-- The call holds the lease of an attempt. -/
def Operation.HoldsLease (digests : Digests) (op : Operation) (a : GenerationAttemptDocument) : Prop :=
  ∃ lease : GenerationLease, a.leaseOwner = lease.workerId ∧ a.leaseTokenDigest = digests.leaseToken lease.leaseToken ∧
    ((∃ success, op = .succeed lease success) ∨ ∃ failure, op = .fail lease failure)

/-- **What a call can do to a job.** -/
inductive JobChange (now : DateTime) (digests : Digests) (s : GenerationStore) (op : Operation)
    (job : GenerationJobDocument) : GenerationJobDocument → Prop where
  /-- The lease of the last attempt has run out. -/
  | terminalized (previous : GenerationAttemptDocument) : job.isExpired now = true →
      job.attempts.getLast? = some previous → previous.state = .running → job.maxAttempts ≤ job.attemptCount →
      JobChange now digests s op job (job.terminalizeExpired now)
  /-- A worker gets a lease, where the campaign has room. -/
  | leased (claim : GenerationClaim) (attemptId digest : String) :
      (job.isAvailable now = true ∨ job.isExpired now = true) → s.isFullFor job now = false →
      job.campaignConcurrencyLimit ≠ 0 → job.attemptCount < job.maxAttempts →
      JobChange now digests s op job (job.lease claim now attemptId digest)
  | extended (lease : GenerationLease) (duration : Nat) : job.isLeasedTo digests lease now = true →
      JobChange now digests s op job (job.extendLease digests lease now duration)
  | completed (lease : GenerationLease) (e : AttemptEnd) (attempt : GenerationAttemptDocument) :
      ((∃ success, op = .succeed lease success) ∨ ∃ failure, op = .fail lease failure) →
      job.isLeasedTo digests lease now = true → job.attempts.find? (·.id = lease.attemptId) = some attempt →
      attempt.isLeasedTo digests lease = true → JobChange now digests s op job (job.complete now lease.attemptId e).1
  | cancelled (campaignId : String) : op = .cancel campaignId job.id → job.state.terminal = false →
      JobChange now digests s op job (job.cancel now)

/-- The document of a job that has just been admitted. -/
structure GenerationJobDocument.IsNew (job : GenerationJobDocument) : Prop where
  loaded : validateLoadedJob job = .ok ()
  state : job.state = .queued
  attempts : job.attempts = []
  attemptCount : job.attemptCount = 0
  leaseOwner : job.leaseOwner = none
  leaseTokenDigest : job.leaseTokenDigest = none
  leaseExpiresAt : job.leaseExpiresAt = none

/-- The jobs after a call. -/
inductive JobsAfter (now : DateTime) (digests : Digests) (s : GenerationStore) (op : Operation) :
    List GenerationJobDocument → Prop where
  | same : JobsAfter now digests s op s.jobs
  | added (job : GenerationJobDocument) : job.IsNew → (∀ j ∈ s.jobs, j.id ≠ job.id) →
      (∃ requested, op = .enqueue requested) → JobsAfter now digests s op (s.jobs ++ [job])
  | changed (job job' : GenerationJobDocument) : job ∈ s.jobs → job'.id = job.id → JobChange now digests s op job job' →
      JobsAfter now digests s op (updateById (·.id) job.id (fun _ => job') s.jobs)

/-! ## The parts of a call that leave the jobs alone -/

section Parts

variable {now : DateTime} {digests : Digests} {s t : GenerationStore} {job : GenerationJobDocument}

/-- Recording changes reservations alone. -/
theorem recordDimensions_frame {terminal : Bool} {increment : GenerationBudgetDimension → Option Nat}
    {documents : List GenerationBudgetReservationDocument} :
    ∃ ds, (recordDimensions now terminal increment documents s).2 = { s with reservations := ds } := by
  induction documents generalizing s with
  | nil => exact ⟨_, rfl⟩
  | cons d rest ih =>
    unfold recordDimensions
    split
    · exact ⟨_, rfl⟩
    · exact ih

theorem recordGenerationAttemptUsage_frame {jobId : String} {usage : GenerationUsage} {terminal : Bool} :
    ∃ ds, (recordGenerationAttemptUsage now jobId usage terminal s).2 = { s with reservations := ds } := by
  unfold recordGenerationAttemptUsage
  split
  · exact ⟨_, rfl⟩
  · split
    · exact ⟨_, rfl⟩
    · exact recordDimensions_frame

theorem recordGenerationAttemptUsage_jobs {jobId : String} {usage : GenerationUsage} {terminal : Bool} :
    (recordGenerationAttemptUsage now jobId usage terminal s).2.jobs = s.jobs := by
  obtain ⟨ds, h⟩ := @recordGenerationAttemptUsage_frame now s jobId usage terminal
  rw [h]

theorem settleUnknownGenerationUsage_frame {jobId : String} :
    ∃ ds, settleUnknownGenerationUsage now jobId s = { s with reservations := ds } := by
  unfold settleUnknownGenerationUsage
  generalize s.loadReservations _ = documents
  induction documents generalizing s with
  | nil => exact ⟨_, rfl⟩
  | cons d rest ih =>
    rw [List.foldl_cons]
    exact ih

/-- Retiring and publishing an artifact change assets alone. -/
theorem retirePendingArtifact_frame {purgeAt : DateTime} (h : retirePendingArtifact now job purgeAt s = .ok t) :
    ∃ assets, t = { s with assets } := by
  unfold retirePendingArtifact at h
  split at h
  · cases h
    exact ⟨_, rfl⟩
  · split at h
    · cases h
      exact ⟨_, rfl⟩
    · cases h

theorem publishArtifact_frame {e : AttemptEnd} (h : publishArtifact now e job s = .ok t) :
    ∃ assets, t = { s with assets } := by
  unfold publishArtifact at h
  split at h
  · cases h
    exact ⟨_, rfl⟩
  · split at h
    · cases h
      exact ⟨_, rfl⟩
    · cases h

theorem insertGenerationGovernanceReceipt_jobs {requested : NewGenerationJob} {g : NewGenerationGovernanceReceipt}
    (h : insertGenerationGovernanceReceipt now requested g s = .ok t) : t.jobs = s.jobs := by
  unfold insertGenerationGovernanceReceipt at h
  obtain ⟨-, h⟩ := seq_eq_ok.mp h
  obtain ⟨-, h⟩ := seq_eq_ok.mp h
  cases h
  rfl

theorem replaceJob_jobs : (s.replaceJob job).jobs = updateById (·.id) job.id (fun _ => job) s.jobs := rfl

end Parts

/-! ## One call -/

section Call

variable {now : DateTime} {digests : Digests} {s t : GenerationStore} {op : Operation} {job : GenerationJobDocument}

theorem checkRunningAttempt_eq_ok {missing mismatch : String} (h : job.checkRunningAttempt missing mismatch = .ok ()) :
    ∃ previous, job.attempts.getLast? = some previous ∧ previous.state = .running := by
  unfold GenerationJobDocument.checkRunningAttempt at h
  split at h
  · cases h
  · next previous hlast =>
    have := rejectIf_eq_ok.mp h
    exact ⟨previous, hlast, by simpa using fun hstate => this (.inl hstate)⟩

theorem JobsAfter.replace {job' : GenerationJobDocument} (hmem : job ∈ s.jobs) (hid : job'.id = job.id)
    (hchange : JobChange now digests s op job job') (ht : t.jobs = s.jobs) :
    JobsAfter now digests s op (t.replaceJob job').jobs := by
  rw [replaceJob_jobs, ht, hid]
  exact .changed job job' hmem hid hchange

theorem JobsAfter.of_eq (h : t.jobs = s.jobs) : JobsAfter now digests s op t.jobs := by
  rw [h]
  exact .same

variable {u : GenerationStore} {attemptId token : String}
  {a : Except GenerationJobStoreError (Option ClaimedGenerationJob)} {claim : GenerationClaim}
  {lease : GenerationLease} {e : AttemptEnd} {requested : NewGenerationJob}

theorem terminalizeClosure_jobs
    (hs : t.jobs = s.jobs) (hmem : job ∈ s.jobs)
    (hchange : JobChange now digests s op job (job.terminalizeExpired now))
    (h : terminalizeClosure now job t = .ok (a, u)) : JobsAfter now digests s op u.jobs := by
  unfold terminalizeClosure at h
  dsimp only at h
  split at h
  · cases h
  next retired hretired =>
  obtain ⟨assets, rfl⟩ := retirePendingArtifact_frame hretired
  have hjobs : JobsAfter now digests s op (recordGenerationAttemptUsage now job.id .default true
      (GenerationStore.replaceJob { t with assets } (job.terminalizeExpired now))).2.jobs := by
    rw [recordGenerationAttemptUsage_jobs]
    exact .replace hmem rfl hchange hs
  split at h
  all_goals
    next hrecord =>
    cases h
    rw [hrecord] at hjobs
    exact hjobs

theorem leaseClosure_jobs (hs : t.jobs = s.jobs) (hmem : job ∈ s.jobs)
    (hready : job.isAvailable now = true ∨ job.isExpired now = true) (hroom : s.isFullFor job now = false)
    (hlimit : job.campaignConcurrencyLimit ≠ 0)
    (h : leaseClosure now digests claim attemptId token job t = .ok (a, u)) : JobsAfter now digests s op u.jobs := by
  unfold leaseClosure at h
  split at h
  · cases h
    exact .of_eq hs
  next hcount =>
  have hreplaced : JobsAfter now digests s op
      (t.replaceJob (job.lease claim now attemptId (digests.leaseToken token))).jobs :=
    .replace hmem rfl (.leased claim attemptId _ hready hroom hlimit (by omega)) hs
  dsimp only at h
  split at h
  · have hjobs : JobsAfter now digests s op (recordGenerationAttemptUsage now job.id .default false
        (t.replaceJob (job.lease claim now attemptId (digests.leaseToken token)))).2.jobs := by
      rw [recordGenerationAttemptUsage_jobs]
      exact hreplaced
    split at h
    all_goals
      next hrecord =>
      cases h
      rw [hrecord] at hjobs
      exact hjobs
  · cases h
    exact hreplaced

theorem takeClosure_jobs (hs : t.jobs = s.jobs) (hmem : job ∈ s.jobs)
    (hready : job.isAvailable now = true ∨ job.isExpired now = true) (hroom : s.isFullFor job now = false)
    (hlimit : job.campaignConcurrencyLimit ≠ 0)
    (h : takeClosure now digests claim attemptId token job t = .ok (a, u)) : JobsAfter now digests s op u.jobs := by
  unfold takeClosure at h
  split at h
  · next hrunning =>
    split at h
    · cases h
      exact .of_eq hs
    next hcheck =>
    split at h
    · next hcount =>
      obtain ⟨previous, hlast, hstate⟩ := checkRunningAttempt_eq_ok hcheck
      have hexpired : job.isExpired now = true := by
        refine hready.resolve_left fun havailable => ?_
        rw [GenerationJobDocument.isAvailable, decide_eq_true_eq, hrunning] at havailable
        exact absurd havailable.1 (by decide)
      exact terminalizeClosure_jobs hs hmem (.terminalized previous hexpired hlast hstate hcount) h
    · exact leaseClosure_jobs hs hmem hready hroom hlimit h
  · exact leaseClosure_jobs hs hmem hready hroom hlimit h

theorem scanCandidates_jobs {candidates : List GenerationJobDocument}
    (hcandidates : ∀ job ∈ candidates, job ∈ s.jobs ∧ (job.isAvailable now = true ∨ job.isExpired now = true))
    (hs : t.jobs = s.jobs) (h : scanCandidates now digests claim attemptId token candidates t = .ok (a, u)) :
    JobsAfter now digests s op u.jobs := by
  induction candidates generalizing t with
  | nil =>
    cases h
    exact .of_eq hs
  | cons job rest ih =>
    obtain ⟨⟨hmem, hready⟩, hrest⟩ := List.forall_mem_cons.mp hcandidates
    unfold scanCandidates at h
    split at h
    · have htouched : (t.touchClaim job.campaignId).jobs = s.jobs := hs
      dsimp only at h
      split at h
      · cases h
        exact .of_eq htouched
      next hlimit =>
      split at h
      · exact ih hrest htouched h
      next hfull =>
      have hroom : s.isFullFor job now = false := by
        rw [Bool.not_eq_true] at hfull
        rw [← hfull]
        unfold GenerationStore.isFullFor GenerationStore.activeBeside GenerationStore.activeIllustrationsBeside
        rw [htouched]
      exact takeClosure_jobs htouched hmem hready hroom hlimit h
    · cases h
      exact .of_eq hs

theorem mem_claimCandidates {filter : ClaimFilter} (h : job ∈ s.claimCandidates now filter) :
    job ∈ s.jobs ∧ (job.isAvailable now = true ∨ job.isExpired now = true) := by
  have hsorted := List.mem_of_mem_take h
  rw [List.mem_insertionSort, List.mem_filter, Bool.and_eq_true, Bool.or_eq_true] at hsorted
  exact ⟨hsorted.1, hsorted.2.1⟩

/-- What holds of the store that a closure commits, and of the store that an abort leaves, holds after the
transaction. -/
theorem withTransaction_jobs {α : Type} {body : GenerationStore → Closure α}
    (h : ∀ a u, body s = .ok (a, u) → JobsAfter now digests s op u.jobs) :
    JobsAfter now digests s op (withTransaction body s).2.jobs := by
  unfold withTransaction
  split
  · exact .same
  · next committed hbody => exact h _ _ hbody

theorem claimGenerationJob_jobs {filter : ClaimFilter} :
    JobsAfter now digests s op (claimGenerationJob now digests claim filter attemptId token s).2.jobs := by
  unfold claimGenerationJob
  split
  · exact .same
  · refine withTransaction_jobs fun a u h => ?_
    exact scanCandidates_jobs (fun job hjob => mem_claimCandidates hjob) rfl h

theorem heartbeatGenerationJob_jobs {duration : Nat} :
    JobsAfter now digests s op (heartbeatGenerationJob now digests lease duration s).2.jobs := by
  unfold heartbeatGenerationJob
  split
  · exact .same
  · split
    · exact .same
    · next job hfind =>
      have hjob := List.find?_some hfind
      rw [Bool.and_eq_true] at hjob
      exact .replace (List.mem_of_find?_eq_some hfind) rfl (.extended lease duration hjob.1) rfl

theorem checkCompletion_eq_ok (h : checkCompletion digests lease e job s = .ok ()) :
    ∃ attempt, job.attempts.find? (·.id = lease.attemptId) = some attempt ∧ attempt.isLeasedTo digests lease = true := by
  unfold checkCompletion at h
  obtain ⟨-, h⟩ := seq_eq_ok.mp h
  obtain ⟨-, h⟩ := seq_eq_ok.mp h
  obtain ⟨-, h⟩ := seq_eq_ok.mp h
  obtain ⟨attempt, hattempt, h⟩ := bind_eq_ok.mp h
  obtain ⟨hleased, -⟩ := seq_eq_ok.mp h
  exact ⟨attempt, okOr_eq_ok.mp hattempt, by simpa using rejectIf_eq_ok.mp hleased⟩

theorem complete_id : (job.complete now attemptId e).1.id = job.id := by
  unfold GenerationJobDocument.complete
  dsimp only
  split
  · split <;> rfl
  · split <;> rfl

theorem completeLeasedJobInTransaction_jobs
    {a : Except GenerationJobStoreError (GenerationJobDocument × GenerationAttemptFinishOutcome)}
    (hop : (∃ success, op = .succeed lease success) ∨ ∃ failure, op = .fail lease failure)
    (h : completeLeasedJobInTransaction now digests lease e s = .ok (a, u)) : JobsAfter now digests s op u.jobs := by
  unfold completeLeasedJobInTransaction at h
  split at h
  · cases h
    exact .same
  next job hfind =>
  split at h
  · cases h
    exact .same
  next hcheck =>
  obtain ⟨attempt, hattempt, hleased⟩ := checkCompletion_eq_ok hcheck
  dsimp only at h
  split at h
  · cases h
  next retired hretired =>
  have hjobs : retired.jobs = s.jobs := by
    split at hretired
    · obtain ⟨assets, rfl⟩ := retirePendingArtifact_frame hretired
      rfl
    · cases hretired
      rfl
  have hrecorded := @recordGenerationAttemptUsage_jobs now retired job.id e.usage (job.complete now lease.attemptId e).2.1
  split at h
  · next hrecord =>
    cases h
    rw [hrecord] at hrecorded
    exact .of_eq (hrecorded.trans hjobs)
  · next t hrecord =>
    rw [hrecord] at hrecorded
    split at h
    · cases h
    next published hpublished =>
    cases h
    obtain ⟨assets, rfl⟩ := publishArtifact_frame hpublished
    show JobsAfter now digests s op (GenerationStore.replaceJob _ _).jobs
    exact .replace (List.mem_of_find?_eq_some hfind) complete_id
      (.completed lease e attempt hop (by simpa using List.find?_some hfind) hattempt hleased) (hrecorded.trans hjobs)

theorem cancelOpen_jobs {a : Except GenerationJobStoreError GenerationJobDocument}
    (hmem : job ∈ s.jobs) (hchange : JobChange now digests s op job (job.cancel now)) (hs : t.jobs = s.jobs)
    (h : cancelOpen now job t = .ok (a, u)) : JobsAfter now digests s op u.jobs := by
  unfold cancelOpen at h
  dsimp only at h
  split at h
  · cases h
  · next retired hretired =>
    cases h
    obtain ⟨assets, rfl⟩ := retirePendingArtifact_frame hretired
    exact .replace hmem rfl hchange hs

theorem cancelClosure_jobs {campaignId jobId : String} {a : Except GenerationJobStoreError GenerationJobDocument}
    (h : cancelClosure now campaignId jobId s = .ok (a, u)) :
    JobsAfter now digests s (.cancel campaignId jobId) u.jobs := by
  unfold cancelClosure at h
  split at h
  · cases h
    exact .same
  next job hfind =>
  have hmem := List.mem_of_find?_eq_some hfind
  have hid := List.find?_some hfind
  rw [decide_eq_true_eq] at hid
  have hchange : job.state.terminal = false →
      JobChange now digests s (.cancel campaignId jobId) job (job.cancel now) :=
    fun hopen => .cancelled campaignId (by rw [hid.1]) hopen
  split at h
  · cases h
    exact .same
  · cases h
    exact .same
  · cases h
    exact .same
  · next hqueued => 
    have hreleased : (releaseGenerationBudget now job.id s).jobs = s.jobs := rfl
    exact cancelOpen_jobs hmem (hchange (by rw [hqueued]; rfl)) hreleased h
  · next hrunning =>
    split at h
    · cases h
      exact .same
    · obtain ⟨ds, hsettled⟩ := @settleUnknownGenerationUsage_frame now s job.id
      exact cancelOpen_jobs hmem (hchange (by rw [hrunning]; rfl)) (by rw [hsettled]) h

theorem document_isNew {requested : NewGenerationJob} (h : validateNewJob requested = .ok ()) :
    (requested.document now digests).IsNew := by
  refine ⟨?_, rfl, rfl, rfl, rfl, rfl, rfl⟩
  unfold validateNewJob at h
  obtain ⟨hid, h⟩ := seq_eq_ok.mp h
  obtain ⟨hcampaign, h⟩ := seq_eq_ok.mp h
  obtain ⟨hkey, h⟩ := seq_eq_ok.mp h
  obtain ⟨-, h⟩ := seq_eq_ok.mp h
  obtain ⟨horigin, h⟩ := seq_eq_ok.mp h
  obtain ⟨-, h⟩ := seq_eq_ok.mp h
  obtain ⟨hrevision, h⟩ := seq_eq_ok.mp h
  obtain ⟨hattempts, -⟩ := seq_eq_ok.mp h
  have hrevision := rejectIf_eq_ok.mp hrevision
  have hattempts := rejectIf_eq_ok.mp hattempts
  unfold validateIdentifier at hid hcampaign hkey
  unfold validateLoadedJob validateIdentifier
  refine seq_eq_ok.mpr ⟨rejectIf_eq_ok.mpr (rejectIf_eq_ok.mp hid), seq_eq_ok.mpr
    ⟨rejectIf_eq_ok.mpr (rejectIf_eq_ok.mp hcampaign), seq_eq_ok.mpr
    ⟨rejectIf_eq_ok.mpr (rejectIf_eq_ok.mp hkey), seq_eq_ok.mpr
    ⟨rejectIf_eq_ok.mpr ?_, rejectIf_eq_ok.mpr (rejectIf_eq_ok.mp horigin)⟩⟩⟩⟩
  show ¬ (requested.originCampaignRevision = 0 ∨ requested.maxAttempts < 1 ∨ maxAttemptsAllowed < requested.maxAttempts ∨
    requested.maxAttempts < 0)
  omega

theorem insertReservations_jobs (h : insertReservations now requested s = .ok t) :
    t.jobs = s.jobs := by
  unfold insertReservations at h
  split at h
  · exact insertGenerationGovernanceReceipt_jobs h
  · cases h
    rfl

theorem insertGenerationJob_eq_ok (h : insertGenerationJob now digests requested s = .ok t) :
    (∀ job ∈ s.jobs, job.id ≠ requested.id) ∧ t.jobs = s.jobs ++ [requested.document now digests] := by
  unfold insertGenerationJob at h
  obtain ⟨hid, h⟩ := seq_eq_ok.mp h
  obtain ⟨u, hinsert, h⟩ := bind_eq_ok.mp h
  obtain ⟨-, h⟩ := seq_eq_ok.mp h
  cases h
  exact ⟨fun job hjob heq => rejectIf_eq_ok.mp hid ⟨job, hjob, heq⟩, insertReservations_jobs hinsert⟩

theorem enqueueGenerationJob_jobs :
    JobsAfter now digests s (.enqueue requested) (enqueueGenerationJob now digests requested s).2.jobs := by
  unfold enqueueGenerationJob
  split
  · exact .same
  next hvalid =>
  refine withTransaction_jobs fun a u h => ?_
  unfold enqueueClosure at h
  split at h
  · split at h
    · cases h
    · cases h
      exact .same
  split at h
  · split at h
    all_goals
      cases h
      exact .same
  split at h
  · cases h
    exact .same
  next campaign hcampaign =>
  dsimp only at h
  split at h
  · cases h
    exact .same
  · split at h
    · cases h
    · next t hinsert =>
      cases h
      obtain ⟨hfresh, hjobs⟩ := insertGenerationJob_eq_ok hinsert
      rw [hjobs]
      exact .added _ (document_isNew (seq_eq_ok.mp hvalid).1) hfresh ⟨requested, rfl⟩

/-- **All that a call can do to the jobs.** -/
theorem Operation.run_jobs (now : DateTime) (digests : Digests) (op : Operation) (s : GenerationStore) :
    JobsAfter now digests s op (op.run now digests s).2.jobs := by
  cases op with
  | enqueue requested => exact enqueueGenerationJob_jobs
  | claim request filter attemptId token => exact claimGenerationJob_jobs
  | heartbeat lease duration => exact heartbeatGenerationJob_jobs
  | succeed lease success =>
    show JobsAfter now digests s _ (succeedGenerationJob now digests lease success s).2.jobs
    unfold succeedGenerationJob
    split
    · exact .same
    · exact withTransaction_jobs fun a u h => completeLeasedJobInTransaction_jobs (.inl ⟨success, rfl⟩) h
  | fail lease failure =>
    show JobsAfter now digests s _ (failGenerationAttempt now digests lease failure s).2.jobs
    unfold failGenerationAttempt
    split
    · exact .same
    · exact withTransaction_jobs fun a u h => completeLeasedJobInTransaction_jobs (.inr ⟨failure, rfl⟩) h
  | cancel campaignId jobId =>
    show JobsAfter now digests s _ (cancelGenerationJob now campaignId jobId s).2.jobs
    unfold cancelGenerationJob
    split
    · exact .same
    · exact withTransaction_jobs fun a u h => cancelClosure_jobs h

end Call

/-! ## Runs -/

/-- The queue, and the time of the last call. -/
structure QueueState where
  clock : DateTime
  store : GenerationStore

inductive QueueEvent where
  | call (op : Operation) (now : DateTime)
  | elsewhere

/-- What the rest of the server does: it changes campaigns, turns and assets, and the artifact that a job waits for. -/
def GenerationStore.Elsewhere (s t : GenerationStore) : Prop :=
  t.reservations = s.reservations ∧ t.receipts = s.receipts ∧
    ∃ slot : GenerationJobDocument → Option String, t.jobs = s.jobs.map fun job => { job with pendingArtifactId := slot job }

/-- Calls are atomic, at times that do not decrease. -/
def QueueState.Step (digests : Digests) (q : QueueState) (event : QueueEvent) (q' : QueueState) : Prop :=
  match event with
  | .call op now => q.clock ≤ now ∧ q' = ⟨now, (op.run now digests q.store).2⟩
  | .elsewhere => q'.clock = q.clock ∧ q.store.Elsewhere q'.store

end ManchesterArcana.Generation
