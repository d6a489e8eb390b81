import ManchesterArcana.Core.Text
import ManchesterArcana.Generation.Concurrency

/-!
# `Generation.Scan` — which job a claim takes

A claim looks at the first jobs of the queue, no more than `claimScanLimit`, and takes the first one whose campaign has
room. No job that could be claimed stands in front of the one that is taken; and one is missed only behind a whole window
of jobs that must wait for their campaigns (`claim_misses_none`).
-/

namespace ManchesterArcana.Generation

open Effect Store

/-! ## The order of the queue -/

instance : Std.Total claimOrder where
  total a b := by
    unfold claimOrder
    rcases lt_trichotomy a.purpose.priority b.purpose.priority with hpriority | hpriority | hpriority
    · exact .inr (.inl hpriority)
    · rcases lt_trichotomy a.availableAt b.availableAt with hat | hat | hat
      · exact .inl (.inr ⟨hpriority, .inl hat⟩)
      · rcases le_total a.id b.id with hid | hid
        · exact .inl (.inr ⟨hpriority, .inr ⟨hat, hid⟩⟩)
        · exact .inr (.inr ⟨hpriority.symm, .inr ⟨hat.symm, hid⟩⟩)
      · exact .inr (.inr ⟨hpriority.symm, .inl hat⟩)
    · exact .inl (.inl hpriority)

instance : IsTrans GenerationJobDocument claimOrder where
  trans a b c := by
    unfold claimOrder
    rintro (hab | ⟨hab, hab'⟩) (hbc | ⟨hbc, hbc'⟩)
    · exact .inl (hbc.trans hab)
    · exact .inl (hbc ▸ hab)
    · exact .inl (hab ▸ hbc)
    · refine .inr ⟨hab.trans hbc, ?_⟩
      rcases hab' with hab' | ⟨hab', hid⟩
      · rcases hbc' with hbc' | ⟨hbc', -⟩
        · exact .inl (hab'.trans hbc')
        · exact .inl (hbc' ▸ hab')
      · rcases hbc' with hbc' | ⟨hbc', hid'⟩
        · exact .inl (hab' ▸ hbc')
        · exact .inr ⟨hab'.trans hbc', hid.trans hid'⟩

section Scan

variable {now : DateTime} {digests : Digests} {s t : GenerationStore} {job : GenerationJobDocument}
  {claim : GenerationClaim} {filter : ClaimFilter} {attemptId token : String} {found : Option ClaimedGenerationJob}

/-- The job is looked for: it waits, or its lease has run out, and it is of those that are asked for. -/
def ClaimFilter.seeks (filter : ClaimFilter) (now : DateTime) (job : GenerationJobDocument) : Bool :=
  (job.isAvailable now || job.isExpired now) && filter.matches job

/-- **The job can be claimed**: it is looked for, it has an attempt left, and its campaign has room. -/
structure GenerationStore.CanClaim (s : GenerationStore) (now : DateTime) (filter : ClaimFilter)
    (job : GenerationJobDocument) : Prop where
  sought : filter.seeks now job = true
  attempts : job.attemptCount < job.maxAttempts
  room : s.isFullFor job now = false

/-- All the jobs that are looked for, in the order of the queue. -/
def GenerationStore.queue (s : GenerationStore) (now : DateTime) (filter : ClaimFilter) : List GenerationJobDocument :=
  (s.jobs.filter (filter.seeks now)).insertionSort claimOrder

theorem claimCandidates_eq : s.claimCandidates now filter = (s.queue now filter).take claimScanLimit := rfl

theorem mem_queue : job ∈ s.queue now filter ↔ job ∈ s.jobs ∧ filter.seeks now job = true := by
  unfold GenerationStore.queue
  rw [List.mem_insertionSort, List.mem_filter]

theorem queue_sorted : (s.queue now filter).Pairwise claimOrder := List.pairwise_insertionSort _ _

/-! ## What a scan takes -/

/-- A job that is leased is given to the worker. -/
theorem leaseClosure_found (h : leaseClosure now digests claim attemptId token job s = .ok (.ok found, t)) :
    job.attemptCount < job.maxAttempts ∧ ∃ claimed, found = some claimed ∧ claimed.job.id = job.id := by
  have hanswer : (do
        validateLoadedJob (job.lease claim now attemptId (digests.leaseToken token))
        return some ⟨job.lease claim now attemptId (digests.leaseToken token),
          ⟨job.id, attemptId, claim.workerId, token⟩⟩ : Except GenerationJobStoreError (Option ClaimedGenerationJob)) =
        .ok found → ∃ claimed, found = some claimed ∧ claimed.job.id = job.id := by
    intro hanswer
    obtain ⟨-, hfound⟩ := seq_eq_ok.mp hanswer
    cases hfound
    exact ⟨_, rfl, rfl⟩
  unfold leaseClosure at h
  split at h
  · cases h
  · next hattempts =>
    refine ⟨by omega, ?_⟩
    dsimp only at h
    split at h
    · split at h
      · cases h
      · exact hanswer (Prod.mk.inj (Except.ok.inj h)).1
    · exact hanswer (Prod.mk.inj (Except.ok.inj h)).1

/-- **The job that is taken** is given to the worker; or it has no attempt left, and is failed. -/
theorem takeClosure_found (h : takeClosure now digests claim attemptId token job s = .ok (.ok found, t)) :
    (job.attemptCount < job.maxAttempts ∧ ∃ claimed, found = some claimed ∧ claimed.job.id = job.id) ∨
      (found = none ∧ job.state = .running ∧ t.jobs = updateById (·.id) job.id (fun _ => job.terminalizeExpired now) s.jobs) := by
  unfold takeClosure at h
  split at h
  · next hrunning =>
    split at h
    · cases h
    · split at h
      · unfold terminalizeClosure at h
        dsimp only at h
        split at h
        · cases h
        · next retired hretired =>
          split at h
          · cases h
          · next settled hsettled =>
            obtain ⟨hfound, rfl⟩ := Prod.mk.inj (Except.ok.inj h)
            cases hfound
            have hjobs := @recordGenerationAttemptUsage_jobs now (retired.replaceJob (job.terminalizeExpired now)) job.id
              .default true
            rw [hsettled] at hjobs
            refine .inr ⟨rfl, hrunning, hjobs.trans ?_⟩
            show updateById (·.id) job.id _ retired.jobs = _
            obtain ⟨assets, rfl⟩ := retirePendingArtifact_frame hretired
            rfl
      · exact .inl (leaseClosure_found h)
  · exact .inl (leaseClosure_found h)

/-- **What a scan comes to**: all campaigns are full, or the first job that has room is taken. -/
theorem scanCandidates_found {candidates : List GenerationJobDocument}
    (h : scanCandidates now digests claim attemptId token candidates s = .ok (.ok found, t)) :
    ((∀ job ∈ candidates, s.isFullFor job now = true) ∧ found = none ∧ t.jobs = s.jobs) ∨
      ∃ passed job rest touched, candidates = passed ++ job :: rest ∧ (∀ other ∈ passed, s.isFullFor other now = true) ∧
        s.isFullFor job now = false ∧ touched.jobs = s.jobs ∧
        takeClosure now digests claim attemptId token job touched = .ok (.ok found, t) := by
  have hfull : ∀ {u : GenerationStore} {other : GenerationJobDocument}, u.jobs = s.jobs →
      u.isFullFor other now = s.isFullFor other now := by
    intro u other hu
    unfold GenerationStore.isFullFor GenerationStore.activeBeside GenerationStore.activeIllustrationsBeside
    rw [hu]
  suffices hscan : ∀ u : GenerationStore, u.jobs = s.jobs →
      scanCandidates now digests claim attemptId token candidates u = .ok (.ok found, t) →
      ((∀ job ∈ candidates, s.isFullFor job now = true) ∧ found = none ∧ t.jobs = s.jobs) ∨
      ∃ passed job rest touched, candidates = passed ++ job :: rest ∧ (∀ other ∈ passed, s.isFullFor other now = true) ∧
        s.isFullFor job now = false ∧ touched.jobs = s.jobs ∧
        takeClosure now digests claim attemptId token job touched = .ok (.ok found, t) from hscan s rfl h
  clear h
  induction candidates with
  | nil =>
    intro u hu h
    cases h
    exact .inl ⟨fun job hjob => (nomatch hjob), rfl, hu⟩
  | cons job rest ih =>
    intro u hu h
    unfold scanCandidates at h
    split at h
    · have htouched : (u.touchClaim job.campaignId).jobs = s.jobs := hu
      dsimp only at h
      split at h
      · cases h
      · split at h
        · next hjob =>
          rw [hfull htouched] at hjob
          rcases ih _ htouched h with ⟨hrest, hnone, hsame⟩ | ⟨passed, taken, behind, touched, rfl, hpassed, htaken⟩
          · exact .inl ⟨List.forall_mem_cons.mpr ⟨hjob, hrest⟩, hnone, hsame⟩
          · exact .inr ⟨job :: passed, taken, behind, touched, rfl, List.forall_mem_cons.mpr ⟨hjob, hpassed⟩, htaken⟩
        · next hjob =>
          rw [hfull htouched, Bool.not_eq_true] at hjob
          exact .inr ⟨[], job, rest, _, rfl, fun other hother => (nomatch hother), hjob, htouched, h⟩
    · cases h

/-- The jobs that wait for their campaign, and stand in front of another. -/
def GenerationStore.fullBefore (s : GenerationStore) (now : DateTime) (filter : ClaimFilter)
    (job : GenerationJobDocument) : Nat :=
  s.jobs.countP fun other => filter.seeks now other && s.isFullFor other now && decide (claimOrder other job)

/-- What stands behind a full window has the window in front of it. -/
theorem claimScanLimit_le_fullBefore (hmem : job ∈ s.queue now filter) (hroom : s.isFullFor job now = false)
    (hfull : ∀ other ∈ s.claimCandidates now filter, s.isFullFor other now = true) :
    claimScanLimit ≤ s.fullBefore now filter job := by
  rw [claimCandidates_eq] at hfull
  have hbehind : job ∈ (s.queue now filter).drop claimScanLimit := by
    rw [← List.take_append_drop claimScanLimit (s.queue now filter), List.mem_append] at hmem
    refine hmem.resolve_left fun hwindow => ?_
    rw [hfull job hwindow] at hroom
    cases hroom
  have hwindow : ((s.queue now filter).take claimScanLimit).length = claimScanLimit := by
    refine List.length_take_of_le ?_
    by_contra hshort
    rw [List.drop_eq_nil_of_le (Nat.le_of_lt (not_le.mp hshort))] at hbehind
    cases hbehind
  have hsorted := @queue_sorted now s filter
  rw [← List.take_append_drop claimScanLimit (s.queue now filter), List.pairwise_append] at hsorted
  have hall : ∀ other ∈ (s.queue now filter).take claimScanLimit,
      (filter.seeks now other && s.isFullFor other now && decide (claimOrder other job)) = true := by
    intro other hother
    rw [(mem_queue.mp (List.mem_of_mem_take hother)).2, hfull other hother,
      decide_eq_true (hsorted.2.2 other hother job hbehind)]
    rfl
  have hcount := (List.take_sublist claimScanLimit (s.queue now filter)).countP_le
    (p := fun other => filter.seeks now other && s.isFullFor other now && decide (claimOrder other job))
  rw [List.countP_eq_length.mpr hall, hwindow] at hcount
  refine hcount.trans ?_
  unfold GenerationStore.queue GenerationStore.fullBefore
  rw [(List.perm_insertionSort claimOrder _).countP_eq]
  exact List.filter_sublist.countP_le

/-- **No job is missed.** A job that could be claimed is missed by a call that gives none and fails none only if a whole
window of jobs that wait for their campaigns stands in front of it; and one that is given stands in front of every other
that could be claimed. -/
theorem claim_misses_none (hids : (s.jobs.map (·.id)).Nodup)
    (h : claimGenerationJob now digests claim filter attemptId token s = (.ok found, t)) :
    (found = none → t.jobs = s.jobs → ∀ job ∈ s.jobs, s.CanClaim now filter job →
        claimScanLimit ≤ s.fullBefore now filter job) ∧
      ∀ claimed ∈ found, ∃ job ∈ s.jobs, job.id = claimed.job.id ∧ s.CanClaim now filter job ∧
        ∀ other ∈ s.jobs, s.CanClaim now filter other → claimOrder job other := by
  have hscan : scanCandidates now digests claim attemptId token (s.claimCandidates now filter) s = .ok (.ok found, t) := by
    unfold claimGenerationJob at h
    split at h
    · cases h
    · unfold withTransaction at h
      split at h
      · cases h
      · next committed hbody =>
        rw [← h]
        exact hbody
  rcases scanCandidates_found hscan with ⟨hfull, rfl, -⟩ | ⟨passed, taken, rest, touched, heq, hpassed, hroom, htouched, htake⟩
  · refine ⟨fun _ _ job hmem hclaim => ?_, fun claimed hclaimed => (nomatch hclaimed)⟩
    exact claimScanLimit_le_fullBefore (mem_queue.mpr ⟨hmem, hclaim.sought⟩) hclaim.room hfull
  · have htaken : taken ∈ s.claimCandidates now filter := by
      rw [heq]
      exact List.mem_append_right _ List.mem_cons_self
    obtain ⟨hmem, hsought⟩ := mem_queue.mp (List.mem_of_mem_take htaken)
    rcases takeClosure_found htake with ⟨hattempts, claimed, rfl, hid⟩ | ⟨rfl, hrunning, hjobs⟩
    · refine ⟨fun hnone => (nomatch hnone), fun claimed' hclaimed => ?_⟩
      obtain rfl := Option.some.inj hclaimed
      refine ⟨taken, hmem, hid.symm, ⟨hsought, hattempts, hroom⟩, fun other hother hclaim => ?_⟩
      have hsorted := @queue_sorted now s filter
      have hqueue := mem_queue.mpr ⟨hother, hclaim.sought⟩
      rw [← List.take_append_drop claimScanLimit (s.queue now filter), ← claimCandidates_eq, heq] at hsorted hqueue
      rw [List.append_assoc] at hsorted hqueue
      rcases List.mem_append.mp hqueue with hfront | hbehind
      · have hfull := hpassed other hfront
        rw [hclaim.room] at hfull
        cases hfull
      · rcases List.mem_cons.mp hbehind with rfl | hbehind
        · exact refl_of claimOrder other
        · exact (List.pairwise_cons.mp (List.pairwise_append.mp hsorted).2.1).1 other hbehind
    · refine ⟨fun _ hsame => ?_, fun claimed hclaimed => (nomatch hclaimed)⟩
      -- The job that was failed has changed.
      have hfailed : taken.terminalizeExpired now ∈ t.jobs := by
        rw [hjobs, htouched]
        exact mem_updateById.mpr (.inl ⟨taken, hmem, rfl, rfl⟩)
      rw [hsame] at hfailed
      have hstill := List.inj_on_of_nodup_map hids hfailed hmem rfl
      have hstate := congrArg GenerationJobDocument.state hstill
      rw [hrunning] at hstate
      cases hstate

theorem withTransaction_of_ok {α : Type} {body : GenerationStore → Closure α}
    {committed : Except GenerationJobStoreError α × GenerationStore} (h : body s = .ok committed) :
    withTransaction body s = committed := by
  unfold withTransaction
  rw [h]

/-- The campaigns of the candidates are there, and allow a job at a time. -/
def GenerationStore.Houses (s : GenerationStore) (candidates : List GenerationJobDocument) : Prop :=
  ∀ job ∈ candidates, (∃ c ∈ s.campaigns, c.id = job.campaignId) ∧ job.campaignConcurrencyLimit ≠ 0

/-- A scan of nothing but full campaigns gives none. -/
theorem scanCandidates_of_full {candidates : List GenerationJobDocument} (hhouses : s.Houses candidates)
    (hfull : ∀ job ∈ candidates, s.isFullFor job now = true) :
    ∃ t, scanCandidates now digests claim attemptId token candidates s = .ok (.ok none, t) ∧ t.jobs = s.jobs := by
  induction candidates generalizing s with
  | nil => exact ⟨s, rfl, rfl⟩
  | cons job rest ih =>
    obtain ⟨⟨hcampaign, hlimit⟩, hrest⟩ := List.forall_mem_cons.mp hhouses
    obtain ⟨hjob, hothers⟩ := List.forall_mem_cons.mp hfull
    unfold scanCandidates
    rw [if_pos hcampaign]
    dsimp only
    have htouched : (s.touchClaim job.campaignId).isFullFor job now = true := hjob
    rw [if_neg hlimit, if_pos htouched]
    refine ih (fun other hother => ?_) hothers
    obtain ⟨⟨c, hc, hid⟩, hlimit'⟩ := hrest other hother
    refine ⟨?_, hlimit'⟩
    by_cases hsame : c.id = job.campaignId
    · exact ⟨_, mem_updateById.mpr (.inl ⟨c, hc, hsame, rfl⟩), hid⟩
    · exact ⟨c, mem_updateById.mpr (.inr ⟨hc, hsame⟩), hid⟩

end Scan

/-! ## A crowded queue -/

def anyJob : ClaimFilter := ⟨none, none⟩

/-- A job that waits since a time, of a campaign that allows one at a time. -/
def waitingJob (campaignId : String) (since : Nat) : GenerationJobDocument :=
  { (intentRequest.document since plainDigests) with
    id := toString since
    campaignId
    campaignConcurrencyLimit := 1 }

/-- The job of the first campaign that is worked on. -/
def busyJob : GenerationJobDocument := (waitingJob "campaign-1" 100).lease workerClaim 1000 "attempt-1" "digest-1"

/-- The jobs of the first campaign that wait for it, as many as a claim looks at, and one of another campaign behind. -/
def waitingJobs : List GenerationJobDocument :=
  (List.range (claimScanLimit + 1)).map fun i => waitingJob (if i < claimScanLimit then "campaign-1" else "campaign-2") i

def crowdedQueue : GenerationStore :=
  ⟨[⟨"campaign-1", 1, 0, 0⟩, ⟨"campaign-2", 1, 0, 0⟩], [], busyJob :: waitingJobs, [], [], []⟩

theorem queue_crowded : crowdedQueue.queue 2000 anyJob = waitingJobs := by
  have hsought : ∀ job ∈ waitingJobs, anyJob.seeks 2000 job = true := by
    intro job hjob
    obtain ⟨i, hi, rfl⟩ := List.mem_map.mp hjob
    have hat : (i : Int) ≤ 2000 := by
      have := List.mem_range.mp hi
      unfold claimScanLimit at this
      omega
    unfold ClaimFilter.seeks
    rw [show (waitingJob _ i).isAvailable 2000 = true from decide_eq_true ⟨rfl, hat⟩]
    rfl
  have hfilter : (busyJob :: waitingJobs).filter (anyJob.seeks 2000) = waitingJobs := by
    rw [List.filter_cons_of_neg (by decide), List.filter_eq_self]
    exact hsought
  unfold GenerationStore.queue
  show List.insertionSort claimOrder ((busyJob :: waitingJobs).filter _) = _
  rw [hfilter]
  refine List.Pairwise.insertionSort_eq ?_
  unfold waitingJobs
  rw [List.pairwise_map]
  refine List.pairwise_lt_range.imp fun hlt => ?_
  exact .inr ⟨rfl, .inl (Int.ofNat_lt.mpr hlt)⟩

theorem full_crowded : ∀ job ∈ crowdedQueue.claimCandidates 2000 anyJob, job.campaignId = "campaign-1" ∧
    job.campaignConcurrencyLimit = 1 ∧ crowdedQueue.isFullFor job 2000 = true := by
  rw [claimCandidates_eq, queue_crowded]
  unfold waitingJobs
  rw [← List.map_take, List.take_range, Nat.min_eq_left (Nat.le_succ _)]
  intro job hjob
  obtain ⟨i, hi, rfl⟩ := List.mem_map.mp hjob
  have hi := List.mem_range.mp hi
  rw [if_pos hi]
  refine ⟨rfl, rfl, decide_eq_true (.inl ?_)⟩
  refine List.countP_pos_iff.mpr ⟨busyJob, List.mem_cons_self, decide_eq_true ⟨rfl, fun hid => ?_, by decide⟩⟩
  have hsame : 100 = i := toString_nat_injective hid
  unfold claimScanLimit at hi
  omega

/-- The job of the other campaign could be claimed. -/
theorem canClaim_crowded : waitingJob "campaign-2" claimScanLimit ∈ crowdedQueue.jobs ∧
    crowdedQueue.CanClaim 2000 anyJob (waitingJob "campaign-2" claimScanLimit) := by
  refine ⟨?_, by decide, by decide, ?_⟩
  · refine List.mem_cons_of_mem _ (List.mem_map.mpr ⟨claimScanLimit, List.mem_range.mpr (Nat.lt_succ_self _), ?_⟩)
    rw [if_neg (Nat.lt_irrefl _)]
  · have hidle : crowdedQueue.activeBeside (waitingJob "campaign-2" claimScanLimit) 2000 = 0 := by
      refine List.countP_eq_zero.mpr fun j hj => ?_
      rw [decide_eq_true_eq]
      rintro ⟨hcampaign, -, hactive⟩
      rcases List.mem_cons.mp hj with rfl | hj
      · exact absurd hcampaign (by decide)
      · obtain ⟨i, -, rfl⟩ := List.mem_map.mp hj
        rw [not_isActive_of_state (by rw [show (waitingJob _ i).state = .queued from rfl]; decide)] at hactive
        cases hactive
    unfold GenerationStore.isFullFor
    rw [hidle]
    decide

theorem claim_crowded : ∃ t,
    claimGenerationJob 2000 plainDigests workerClaim anyJob "attempt-2" "token-2" crowdedQueue = (.ok none, t) ∧
      t.jobs = crowdedQueue.jobs := by
  have hhouses : crowdedQueue.Houses (crowdedQueue.claimCandidates 2000 anyJob) := by
    intro job hjob
    obtain ⟨hcampaign, hlimit, -⟩ := full_crowded job hjob
    rw [hcampaign, hlimit]
    exact ⟨⟨_, List.mem_cons_self, rfl⟩, Nat.one_ne_zero⟩
  obtain ⟨t, hscan, hjobs⟩ := @scanCandidates_of_full 2000 plainDigests crowdedQueue workerClaim "attempt-2" "token-2" _
    hhouses fun job hjob => (full_crowded job hjob).2.2
  have hvalid : (do
      validateOptionalIdentifier (anyJob.exactJob.map Prod.fst) "campaign id is invalid"
      validateOptionalIdentifier (anyJob.exactJob.map Prod.snd) "job id is invalid"
      validateClaim workerClaim) = .ok () := by
    decide
  refine ⟨t, ?_, hjobs⟩
  have hclosure : claimGenerationJob 2000 plainDigests workerClaim anyJob "attempt-2" "token-2" crowdedQueue =
      withTransaction (claimClosure 2000 plainDigests workerClaim anyJob "attempt-2" "token-2") crowdedQueue := by
    unfold claimGenerationJob
    rw [hvalid]
  rw [hclosure]
  exact withTransaction_of_ok hscan

theorem nodup_crowded : (crowdedQueue.jobs.map (·.id)).Nodup := by
  have hids : waitingJobs.map (·.id) = (List.range (claimScanLimit + 1)).map toString := by
    unfold waitingJobs
    rw [List.map_map]
    rfl
  show (busyJob.id :: waitingJobs.map (·.id)).Nodup
  rw [hids, List.nodup_cons]
  refine ⟨fun hmem => ?_, List.nodup_range.map fun _ _ hsame => toString_nat_injective hsame⟩
  obtain ⟨i, hi, hid⟩ := List.mem_map.mp hmem
  have hsame : i = 100 := toString_nat_injective hid
  have hi := List.mem_range.mp hi
  unfold claimScanLimit at hi
  omega

/-- What is missed in the crowded queue has a whole window in front of it. -/
theorem claim_misses_none_crowded :
    claimScanLimit ≤ crowdedQueue.fullBefore 2000 anyJob (waitingJob "campaign-2" claimScanLimit) := by
  obtain ⟨t, hclaim, hjobs⟩ := claim_crowded
  exact (claim_misses_none nodup_crowded hclaim).1 rfl hjobs _ canClaim_crowded.1 canClaim_crowded.2

/-- A worker has let the lease of a job without another attempt run out, and another job waits behind it. -/
def lapsedQueue : GenerationStore :=
  ((Operation.enqueue { intentRequest with id := "generation-job-2", idempotencyKey := "generation-key-2" }).run 2000
    plainDigests claimedStore).2

/-- **A job is missed** behind a window of jobs that must wait, and behind one that has no attempt left. -/
theorem jobs_missed :
    ((∃ job ∈ crowdedQueue.jobs, crowdedQueue.CanClaim 2000 anyJob job) ∧
      (claimGenerationJob 2000 plainDigests workerClaim anyJob "attempt-2" "token-2" crowdedQueue).1 = .ok none) ∧
    (∃ job ∈ lapsedQueue.jobs, lapsedQueue.CanClaim 100000 anyJob job) ∧
      (claimGenerationJob 100000 plainDigests workerClaim anyJob "attempt-2" "token-2" lapsedQueue).1 = .ok none := by
  refine ⟨⟨⟨_, canClaim_crowded⟩, ?_⟩, ⟨lapsedQueue.jobs.getLast (by decide), List.getLast_mem _, ?_, ?_, ?_⟩, by decide⟩
  · obtain ⟨t, hclaim, -⟩ := claim_crowded
    rw [hclaim]
  all_goals decide

end ManchesterArcana.Generation
