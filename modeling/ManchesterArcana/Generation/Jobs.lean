import ManchesterArcana.Generation.Governance

/-!
# `Generation.Jobs` — the calls of the generation queue

A job is enqueued once for a key. Workers claim it under a lease, extend the lease, and finish the attempt; a lease that
has run out is claimed again. Each call is one transaction, at the time that it reads from the clock.
-/

namespace ManchesterArcana.Generation

open Effect Store

/-! ## Enqueueing -/

/-- The fields that the fingerprint of a request is taken of. -/
def NewGenerationJob.fields (job : NewGenerationJob) : List String :=
  [job.campaignSessionId, job.originTurnId.getD "", toString job.originCampaignRevision, job.purpose.asStr,
    job.idempotencyKey, job.inputDigest, job.promptDigest, job.policyDigest, job.configDigest, toString job.maxAttempts,
    job.successRetention.asStr, (job.governance.map (·.governanceFingerprint)).getD "",
    toString ((job.governance.map (·.reservedRequests)).getD 0), toString ((job.governance.map (·.reservedTokens)).getD 0),
    toString ((job.governance.map (·.reservedLatencyMilliseconds)).getD 0),
    toString ((job.governance.map (·.reservedCostMicrousd)).getD 0)]

/-- The job of a campaign, purpose and key. -/
def GenerationJobDocument.isOf (job : GenerationJobDocument) (requested : NewGenerationJob) : Bool :=
  job.campaignId = requested.campaignSessionId ∧ job.purpose = requested.purpose ∧
    job.idempotencyKey = requested.idempotencyKey

def EnqueueReceiptDocument.isOf (r : EnqueueReceiptDocument) (requested : NewGenerationJob) : Bool :=
  r.purpose = requested.purpose ∧ r.scopeId = requested.campaignSessionId ∧
    r.idempotencyKey = requested.idempotencyKey

def ensureMatchingReplay (existing : GenerationJobDocument) (requested : NewGenerationJob) :
    Except GenerationJobStoreError Unit :=
  rejectIf (existing.campaignId ≠ requested.campaignSessionId ∨ existing.originEventId ≠ requested.originTurnId ∨
    existing.originCampaignRevision ≠ requested.originCampaignRevision ∨ existing.purpose ≠ requested.purpose ∨
    existing.idempotencyKey ≠ requested.idempotencyKey ∨ existing.inputDigest ≠ requested.inputDigest ∨
    existing.promptDigest ≠ requested.promptDigest ∨ existing.policyDigest ≠ requested.policyDigest ∨
    existing.configDigest ≠ requested.configDigest ∨ existing.maxAttempts ≠ requested.maxAttempts ∨
    existing.successRetention ≠ requested.successRetention) .idempotencyConflict

inductive EnqueueGenerationJobOutcome where
  | enqueued (job : GenerationJobDocument)
  | existing (job : GenerationJobDocument)
  deriving DecidableEq, Repr

/-- The budget of the job and the one that is requested now. -/
def ensureMatchingGovernance (job : GenerationJobDocument) (requested : NewGenerationJob) :
    Option GenerationGovernanceReceipt → Except GenerationJobStoreError Unit
  | some existing =>
    match requested.governance with
    | some governance =>
      if existing.jobId = job.id then ensureMatchingGovernanceReceipt existing governance
      else .error .idempotencyConflict
    | none => .error .idempotencyConflict
  | none => rejectIf (requested.governance ≠ none) .idempotencyConflict

/-- The answer for a key whose job is stored. -/
def replayGenerationJob (job : GenerationJobDocument) (requested : NewGenerationJob) (s : GenerationStore) :
    Except PersistenceError (Except GenerationJobStoreError EnqueueGenerationJobOutcome) :=
  match (do validateLoadedJob job; ensureMatchingReplay job requested) with
  | .error e => .ok (.error e)
  | .ok () => do
    let governance ← loadGovernanceReceiptByKey s requested.campaignSessionId requested.purpose requested.idempotencyKey
    return do
      ensureMatchingGovernance job requested governance
      return .existing job

def preflightIllustrationRequestLimits (now : DateTime) (s : GenerationStore) (campaignId : String)
    (originTurnId : Option String) : Except GenerationJobStoreError Unit := do
  let turnId ← okOr originTurnId (.invalidInput "illustration jobs require an origin turn")
  let committed := s.receipts.filter fun r => r.purpose = .illustration ∧ r.scopeId = campaignId
  rejectIf (imageRequestsPerCampaignLifetime ≤ committed.length ∨
    imageRequestsPerRollingDay ≤ committed.countP (fun r => now - dayMilliseconds < r.createdAt))
    (.budgetExceeded .campaign .requests)
  rejectIf (imageRequestsPerTurn ≤ committed.countP (fun r => r.originEventId = some turnId))
    (.budgetExceeded .turn .requests)

/-- The revision that a job starts from. -/
def checkOrigin (s : GenerationStore) (campaign : CampaignReference) (requested : NewGenerationJob) :
    Except GenerationJobStoreError Unit :=
  match requested.originTurnId with
  | some turnId => do
    let turn ← okOr (s.turns.find? fun t => t.id = turnId ∧ t.campaignId = requested.campaignSessionId)
      (.invalidInput "origin turn does not belong to the campaign")
    let committedRevision ← checkedAdd turn.sequence 1
    rejectIf (committedRevision ≠ requested.originCampaignRevision ∨
      campaign.revision < requested.originCampaignRevision)
      (.originRevisionConflict requested.originCampaignRevision campaign.revision)
  | none =>
    rejectIf (campaign.revision ≠ requested.originCampaignRevision)
      (.originRevisionConflict requested.originCampaignRevision campaign.revision)

/-- The requests for an illustration are counted over the campaign, the last day and the turn. -/
def checkIllustrationRequests (now : DateTime) (s : GenerationStore) (requested : NewGenerationJob) :
    Except GenerationJobStoreError Unit :=
  if requested.purpose = .illustration then
    preflightIllustrationRequestLimits now s requested.campaignSessionId requested.originTurnId
  else .ok ()

def checkBudget (s : GenerationStore) (requested : NewGenerationJob) : Except GenerationJobStoreError Unit :=
  match requested.governance with
  | some governance => preflightGenerationGovernance s requested.campaignSessionId governance
  | none => .ok ()

/-- What a new job must meet. -/
def admitGenerationJob (now : DateTime) (s : GenerationStore) (campaign : CampaignReference)
    (requested : NewGenerationJob) : Except GenerationJobStoreError Unit := do
  checkIllustrationRequests now s requested
  checkOrigin s campaign requested
  checkBudget s requested
  rejectIf (maxI64 < requested.originCampaignRevision) .numericRange

/-- The document of a new job. -/
def NewGenerationJob.document (requested : NewGenerationJob) (now : DateTime) (digests : Digests) :
    GenerationJobDocument where
  id := requested.id
  campaignId := requested.campaignSessionId
  originEventId := requested.originTurnId
  originCampaignRevision := requested.originCampaignRevision
  purpose := requested.purpose
  idempotencyKey := requested.idempotencyKey
  requestFingerprint := digests.enqueue requested.fields
  state := .queued
  availableAt := now
  inputDigest := requested.inputDigest
  promptDigest := requested.promptDigest
  policyDigest := requested.policyDigest
  configDigest := requested.configDigest
  outputDigest := none
  correlationId := requested.correlationId
  attemptCount := 0
  maxAttempts := requested.maxAttempts
  campaignConcurrencyLimit := (requested.governance.map (·.limits.maxCampaignConcurrency)).getD (2 ^ 31 - 1)
  attempts := []
  leaseOwner := none
  leaseTokenDigest := none
  leaseExpiresAt := none
  lastFailureClass := none
  lastFailureCode := none
  artifactId := none
  successRetention := requested.successRetention
  retentionClass := .pending
  purgeAt := none
  createdAt := now
  updatedAt := now
  completedAt := none
  pendingArtifactId := none

/-- The receipt of a new job. -/
def NewGenerationJob.receipt (requested : NewGenerationJob) (now : DateTime) (digests : Digests) :
    EnqueueReceiptDocument where
  purpose := requested.purpose
  scopeId := requested.campaignSessionId
  idempotencyKey := requested.idempotencyKey
  requestFingerprint := digests.enqueue requested.fields
  resultJobId := requested.id
  originEventId := requested.originTurnId
  createdAt := now

def insertReservations (now : DateTime) (requested : NewGenerationJob) (s : GenerationStore) :
    Except PersistenceError GenerationStore :=
  match requested.governance with
  | some governance => insertGenerationGovernanceReceipt now requested governance s
  | none => .ok s

/-- The documents of an admitted job: the job, its reservations and its receipt. -/
def insertGenerationJob (now : DateTime) (digests : Digests) (requested : NewGenerationJob) (s : GenerationStore) :
    Except PersistenceError GenerationStore := do
  rejectIf (∃ job ∈ s.jobs, job.id = requested.id) .duplicateKey
  let t ← insertReservations now requested { s with jobs := s.jobs ++ [requested.document now digests] }
  rejectIf (∃ r ∈ t.receipts, r.resultJobId = requested.id) .duplicateKey
  return { t with receipts := t.receipts ++ [requested.receipt now digests] }

def GenerationStore.touchQueue (s : GenerationStore) (campaignId : String) : GenerationStore :=
  { s with campaigns := updateById (·.id) campaignId (fun c =>
      { c with generationQueueRevision := c.generationQueueRevision + 1 }) s.campaigns }

def enqueueClosure (now : DateTime) (digests : Digests) (requested : NewGenerationJob) (s : GenerationStore) :
    Closure EnqueueGenerationJobOutcome :=
  match s.jobs.find? (·.isOf requested) with
  | some existing =>
    match replayGenerationJob existing requested s with
    | .error e => .error e
    | .ok answer => .ok (answer, s)
  | none =>
    match s.receipts.find? (·.isOf requested) with
    | some receipt =>
      if receipt.requestFingerprint = digests.enqueue requested.fields then .ok (.error .idempotencyReceiptClosed, s)
      else .ok (.error .idempotencyConflict, s)
    | none =>
      match s.campaigns.find? (·.id = requested.campaignSessionId) with
      | none => .ok (.error (.notFound requested.id), s)
      | some campaign =>
        let touched := s.touchQueue campaign.id
        match admitGenerationJob now touched campaign requested with
        | .error e => .ok (.error e, touched)
        | .ok () =>
          match insertGenerationJob now digests requested touched with
          | .error e => .error e
          | .ok t =>
            let document := requested.document now digests
            .ok (do validateLoadedJob document; return .enqueued document, t)

def validateGovernance (digests : Digests) : Option NewGenerationGovernanceReceipt → Except GenerationJobStoreError Unit
  | some governance => validateNewGovernance digests governance
  | none => .ok ()

def enqueueGenerationJob (now : DateTime) (digests : Digests) (requested : NewGenerationJob) (s : GenerationStore) :
    Except GenerationJobStoreError EnqueueGenerationJobOutcome × GenerationStore :=
  match (do validateNewJob requested; validateGovernance digests requested.governance) with
  | .error e => (.error e, s)
  | .ok () => withTransaction (enqueueClosure now digests requested) s

/-! ## Artifacts -/

def GeneratedAssetDocument.isStagedFor (a : GeneratedAssetDocument) (artifactId : String) (job : GenerationJobDocument) :
    Bool :=
  a.id = artifactId ∧ a.jobId = job.id ∧ a.campaignId = job.campaignId ∧ a.entityKind = "turn_scene_image" ∧
    a.state = .staged

def retirePendingArtifact (now : DateTime) (job : GenerationJobDocument) (purgeAt : DateTime) (s : GenerationStore) :
    Except PersistenceError GenerationStore :=
  match job.pendingArtifactId with
  | none => .ok s
  | some artifactId =>
    if s.assets.any (·.isStagedFor artifactId job) then
      .ok { s with assets := updateWhere (·.isStagedFor artifactId job) (fun a =>
        { a with state := .superseded, selected := false, purgeAt := some purgeAt, updatedAt := now }) s.assets }
    else .error (.schemaDrift "pending generation artifact is missing or no longer staged")

/-! ## Claiming -/

/-- The lease has run out. -/
def GenerationJobDocument.isExpired (job : GenerationJobDocument) (now : DateTime) : Bool :=
  job.state = .running ∧ job.leaseExpiresAt.any (· ≤ now)

/-- The job is worked on: its lease runs. -/
def GenerationJobDocument.isActive (job : GenerationJobDocument) (now : DateTime) : Bool :=
  job.state = .running ∧ job.leaseExpiresAt.any (now < ·)

def GenerationJobDocument.isAvailable (job : GenerationJobDocument) (now : DateTime) : Bool :=
  job.state = .queued ∧ job.availableAt ≤ now

/-- The jobs that a worker asks for: one by its id, those of a purpose, or any. -/
structure ClaimFilter where
  exactJob : Option (String × String)
  purpose : Option GenerationPurpose
  deriving DecidableEq, Repr

def ClaimFilter.matches (f : ClaimFilter) (job : GenerationJobDocument) : Bool :=
  (∀ x ∈ f.exactJob, job.campaignId = x.1 ∧ job.id = x.2) ∧ ∀ p ∈ f.purpose, job.purpose = p

/-- By priority, then by the time that the job became available, then by id. -/
def claimOrder (a b : GenerationJobDocument) : Prop :=
  b.purpose.priority < a.purpose.priority ∨ (a.purpose.priority = b.purpose.priority ∧
    (a.availableAt < b.availableAt ∨ (a.availableAt = b.availableAt ∧ a.id ≤ b.id)))

instance : DecidableRel claimOrder := fun _ _ => inferInstanceAs (Decidable (_ ∨ _))

def GenerationStore.claimCandidates (s : GenerationStore) (now : DateTime) (f : ClaimFilter) :
    List GenerationJobDocument :=
  ((s.jobs.filter fun job => (job.isAvailable now || job.isExpired now) && f.matches job).insertionSort claimOrder).take
    claimScanLimit

/-- The other jobs of the campaign that are worked on. -/
def GenerationStore.activeBeside (s : GenerationStore) (job : GenerationJobDocument) (now : DateTime) : Nat :=
  s.jobs.countP fun j => j.campaignId = job.campaignId ∧ j.id ≠ job.id ∧ j.isActive now = true

def GenerationStore.activeIllustrationsBeside (s : GenerationStore) (job : GenerationJobDocument) (now : DateTime) :
    Nat :=
  s.jobs.countP fun j => j.campaignId = job.campaignId ∧ j.id ≠ job.id ∧ j.purpose = .illustration ∧
    j.isActive now = true

/-- The limits of the campaign leave no room for the job. -/
def GenerationStore.isFullFor (s : GenerationStore) (job : GenerationJobDocument) (now : DateTime) : Bool :=
  job.campaignConcurrencyLimit ≤ s.activeBeside job now ∨
    (job.purpose = .illustration ∧ 0 < s.activeIllustrationsBeside job now)

def GenerationAttemptDocument.expire (a : GenerationAttemptDocument) (now : DateTime) : GenerationAttemptDocument :=
  { a with
    state := .failed
    failureClass := some .transient
    failureCode := some .leaseExpired
    heartbeatAt := now
    finishedAt := some now }

/-- The attempts with the last one changed. -/
def changeLast (f : GenerationAttemptDocument → GenerationAttemptDocument) :
    List GenerationAttemptDocument → List GenerationAttemptDocument
  | [] => []
  | [a] => [f a]
  | a :: rest => a :: changeLast f rest

/-- A job whose last attempt has outlived its lease, and that has no attempt left. -/
def GenerationJobDocument.terminalizeExpired (job : GenerationJobDocument) (now : DateTime) : GenerationJobDocument :=
  { job with
    attempts := changeLast (·.expire now) job.attempts
    state := .failed
    leaseOwner := none
    leaseTokenDigest := none
    leaseExpiresAt := none
    lastFailureClass := some .transient
    lastFailureCode := some .leaseExpired
    retentionClass := .failedMetadata7Days
    purgeAt := some (addDuration now failedRetention)
    completedAt := some now
    updatedAt := now }

/-- The attempt that a claim starts. -/
def GenerationClaim.attempt (claim : GenerationClaim) (now : DateTime) (attemptId leaseDigest : String) (number : Nat) :
    GenerationAttemptDocument where
  id := attemptId
  attemptNumber := number
  state := .running
  leaseOwner := claim.workerId
  leaseTokenDigest := leaseDigest
  provider := claim.provider
  model := claim.model
  usage := .default
  failureClass := none
  failureCode := none
  providerStatus := none
  providerRequestId := none
  artifactId := none
  outputDigest := none
  startedAt := now
  heartbeatAt := now
  finishedAt := none

/-- The job under its new lease. -/
def GenerationJobDocument.lease (job : GenerationJobDocument) (claim : GenerationClaim) (now : DateTime)
    (attemptId leaseDigest : String) : GenerationJobDocument :=
  let ended := if job.state = .running then changeLast (·.expire now) job.attempts else job.attempts
  { job with
    attempts := ended ++ [claim.attempt now attemptId leaseDigest (job.attemptCount + 1)]
    state := .running
    attemptCount := job.attemptCount + 1
    availableAt := now
    leaseOwner := some claim.workerId
    leaseTokenDigest := some leaseDigest
    leaseExpiresAt := some (addDuration now claim.leaseDuration)
    lastFailureClass := none
    lastFailureCode := none
    updatedAt := now }

/-- The last attempt is the one that runs under the lease of the job. -/
def GenerationJobDocument.checkRunningAttempt (job : GenerationJobDocument) (missing mismatch : String) :
    Except GenerationJobStoreError Unit :=
  match job.attempts.getLast? with
  | none => .error (.invalidStoredData missing)
  | some previous =>
    rejectIf (previous.state ≠ .running ∨ job.leaseTokenDigest ≠ some previous.leaseTokenDigest)
      (.invalidStoredData mismatch)

/-- The new lease of a claim, with the token that only the worker is told. -/
structure ClaimedGenerationJob where
  job : GenerationJobDocument
  lease : GenerationLease
  deriving DecidableEq, Repr

def GenerationStore.replaceJob (s : GenerationStore) (job : GenerationJobDocument) : GenerationStore :=
  { s with jobs := updateById (·.id) job.id (fun _ => job) s.jobs }

/-- The expired job is failed, when it has no attempt left. -/
def terminalizeClosure (now : DateTime) (job : GenerationJobDocument) (s : GenerationStore) :
    Closure (Option ClaimedGenerationJob) :=
  let candidate := job.terminalizeExpired now
  match retirePendingArtifact now candidate (addDuration now failedRetention) s with
  | .error e => .error e
  | .ok retired =>
    match recordGenerationAttemptUsage now job.id .default true (retired.replaceJob candidate) with
    | (.error e, t) => .ok (.error e, t)
    | (.ok (), t) => .ok (.ok none, t)

/-- The job is leased to the worker. -/
def leaseClosure (now : DateTime) (digests : Digests) (claim : GenerationClaim) (attemptId token : String)
    (job : GenerationJobDocument) (s : GenerationStore) : Closure (Option ClaimedGenerationJob) :=
  if job.maxAttempts < job.attemptCount + 1 then .ok (.error .numericRange, s)
  else
    let candidate := job.lease claim now attemptId (digests.leaseToken token)
    let answer : Except GenerationJobStoreError (Option ClaimedGenerationJob) := do
      validateLoadedJob candidate
      return some ⟨candidate, ⟨job.id, attemptId, claim.workerId, token⟩⟩
    if job.state = .running then
      match recordGenerationAttemptUsage now job.id .default false (s.replaceJob candidate) with
      | (.error e, t) => .ok (.error e, t)
      | (.ok (), t) => .ok (answer, t)
    else .ok (answer, s.replaceJob candidate)

/-- The candidate that has been chosen. -/
def takeClosure (now : DateTime) (digests : Digests) (claim : GenerationClaim) (attemptId token : String)
    (job : GenerationJobDocument) (s : GenerationStore) : Closure (Option ClaimedGenerationJob) :=
  if job.state = .running then
    match job.checkRunningAttempt "expired job has no running attempt" "expired job attempt does not match its lease" with
    | .error e => .ok (.error e, s)
    | .ok () =>
      if job.maxAttempts ≤ job.attemptCount then terminalizeClosure now job s
      else leaseClosure now digests claim attemptId token job s
  else leaseClosure now digests claim attemptId token job s

def GenerationStore.touchClaim (s : GenerationStore) (campaignId : String) : GenerationStore :=
  { s with campaigns := updateById (·.id) campaignId (fun c =>
      { c with generationClaimRevision := c.generationClaimRevision + 1 }) s.campaigns }

/-- The candidates one after the other, until one has room in its campaign. -/
def scanCandidates (now : DateTime) (digests : Digests) (claim : GenerationClaim) (attemptId token : String) :
    List GenerationJobDocument → GenerationStore → Closure (Option ClaimedGenerationJob)
  | [], s => .ok (.ok none, s)
  | job :: rest, s =>
    if ∃ c ∈ s.campaigns, c.id = job.campaignId then
      let touched := s.touchClaim job.campaignId
      if job.campaignConcurrencyLimit = 0 then
        .ok (.error (.invalidStoredData "campaign concurrency limit is invalid"), touched)
      else if touched.isFullFor job now then scanCandidates now digests claim attemptId token rest touched
      else takeClosure now digests claim attemptId token job touched
    else .ok (.error (.invalidStoredData "generation job references a missing campaign"), s)

def claimClosure (now : DateTime) (digests : Digests) (claim : GenerationClaim) (filter : ClaimFilter)
    (attemptId token : String) (s : GenerationStore) : Closure (Option ClaimedGenerationJob) :=
  scanCandidates now digests claim attemptId token (s.claimCandidates now filter) s

def claimGenerationJob (now : DateTime) (digests : Digests) (claim : GenerationClaim) (filter : ClaimFilter)
    (attemptId token : String) (s : GenerationStore) :
    Except GenerationJobStoreError (Option ClaimedGenerationJob) × GenerationStore :=
  match (do
    validateOptionalIdentifier (filter.exactJob.map Prod.fst) "campaign id is invalid"
    validateOptionalIdentifier (filter.exactJob.map Prod.snd) "job id is invalid"
    validateClaim claim) with
  | .error e => (.error e, s)
  | .ok () => withTransaction (claimClosure now digests claim filter attemptId token) s

/-! ## Leased jobs -/

/-- The lease is current. -/
def GenerationJobDocument.isLeasedTo (job : GenerationJobDocument) (digests : Digests) (lease : GenerationLease)
    (now : DateTime) : Bool :=
  job.id = lease.jobId ∧ job.leaseOwner = some lease.workerId ∧
    job.leaseTokenDigest = some (digests.leaseToken lease.leaseToken) ∧ job.isActive now = true

/-- The attempt runs under the lease. -/
def GenerationAttemptDocument.isLeasedTo (a : GenerationAttemptDocument) (digests : Digests) (lease : GenerationLease) :
    Bool :=
  a.state = .running ∧ a.leaseOwner = lease.workerId ∧ a.leaseTokenDigest = digests.leaseToken lease.leaseToken

def GenerationJobDocument.extendLease (job : GenerationJobDocument) (digests : Digests) (lease : GenerationLease)
    (now : DateTime) (duration : Nat) : GenerationJobDocument :=
  { job with
    leaseExpiresAt := some (addDuration now duration)
    attempts := updateWhere (fun a => a.id = lease.attemptId ∧ a.state = .running ∧
      a.leaseTokenDigest = digests.leaseToken lease.leaseToken) (fun a => { a with heartbeatAt := now }) job.attempts
    updatedAt := now }

def heartbeatGenerationJob (now : DateTime) (digests : Digests) (lease : GenerationLease) (duration : Nat)
    (s : GenerationStore) : Except GenerationJobStoreError GenerationJobDocument × GenerationStore :=
  match (do validateLease lease; validateLeaseDuration duration) with
  | .error e => (.error e, s)
  | .ok () =>
    match s.jobs.find? fun job => job.isLeasedTo digests lease now &&
        job.attempts.any (fun a => a.id = lease.attemptId && a.isLeasedTo digests lease) with
    | none => (.error .lostLease, s)
    | some job =>
      let updated := job.extendLease digests lease now duration
      (do validateLoadedJob updated; return updated, s.replaceJob updated)

inductive GenerationAttemptFinishOutcome where
  | succeeded
  | retryScheduled
  | failed
  deriving DecidableEq, Repr

/-- How an attempt ends. -/
structure AttemptEnd where
  artifactId : Option String
  outputDigest : String
  usage : GenerationUsage
  failure : Option GenerationAttemptFailure
  allowRetry : Bool
  deriving DecidableEq, Repr

def GenerationAttemptDocument.finish (a : GenerationAttemptDocument) (now : DateTime) (e : AttemptEnd) :
    GenerationAttemptDocument :=
  let settled := { a with
    usage := e.usage
    heartbeatAt := now
    finishedAt := some now
    artifactId := e.artifactId
    outputDigest := some ((e.failure.bind (·.outputDigest)).getD e.outputDigest) }
  match e.failure with
  | some failure => { settled with
      state := .failed
      failureClass := some failure.code.class
      failureCode := some failure.code
      providerStatus := failure.providerStatus
      providerRequestId := failure.providerRequestId }
  | none => { settled with state := .succeeded }

/-- The attempt, and the job without its lease. -/
def GenerationJobDocument.endLease (job : GenerationJobDocument) (now : DateTime) (attemptId : String) (e : AttemptEnd) :
    GenerationJobDocument :=
  { job with
    attempts := updateFirst (·.id = attemptId) (·.finish now e) job.attempts
    leaseOwner := none
    leaseTokenDigest := none
    leaseExpiresAt := none
    updatedAt := now }

/-- The time to wait for the next attempt, where the job has one left. -/
def GenerationJobDocument.retryAfter (job : GenerationJobDocument) (e : AttemptEnd) (code : GenerationFailureCode) :
    Option Nat :=
  if e.allowRetry = true ∧ job.attemptCount < job.maxAttempts then job.purpose.retryDelay code job.attemptCount else none

/-- The job after the attempt, whether the attempt was its last, and what is answered. -/
def GenerationJobDocument.complete (job : GenerationJobDocument) (now : DateTime) (attemptId : String) (e : AttemptEnd) :
    GenerationJobDocument × Bool × GenerationAttemptFinishOutcome :=
  let ended := job.endLease now attemptId e
  match e.failure with
  | some failure =>
    let failed := { ended with
      lastFailureClass := some failure.code.class
      lastFailureCode := some failure.code
      outputDigest := failure.outputDigest }
    match job.retryAfter e failure.code with
    | some delay => ({ failed with state := .queued, availableAt := addDuration now (delay * 1000) }, false, .retryScheduled)
    | none => ({ failed with
        state := .failed
        retentionClass := .failedMetadata7Days
        purgeAt := some (addDuration now failedRetention)
        completedAt := some now }, true, .failed)
  | none =>
    let succeeded := { ended with
      state := .succeeded
      outputDigest := some e.outputDigest
      artifactId := e.artifactId
      completedAt := some now
      pendingArtifactId := none }
    let kept := if e.artifactId ≠ none ∧ job.successRetention = .campaignLifetime then
        { succeeded with retentionClass := .campaignLifetime, purgeAt := none }
      else { succeeded with
        retentionClass := .unselectedPresentation30Days
        purgeAt := some (addDuration now unselectedRetention) }
    (kept, true, .succeeded)

/-- What is checked before anything is written. -/
def checkCompletion (digests : Digests) (lease : GenerationLease) (e : AttemptEnd) (job : GenerationJobDocument)
    (s : GenerationStore) : Except GenerationJobStoreError Unit := do
  rejectIf (job.purpose = .illustration ∧ e.failure = none ∧ e.artifactId = none)
    (.invalidInput "illustration success requires a validated artifact")
  rejectIf (job.purpose = .illustration ∧ e.artifactId ≠ none ∧ job.pendingArtifactId ≠ e.artifactId)
    (.invalidInput "illustration artifact does not own the job publication slot")
  rejectIf (∃ artifactId ∈ e.artifactId, s.assets.any (·.isStagedFor artifactId job) = false)
    (.invalidInput "artifact does not belong to the generation campaign")
  let attempt ← okOr (job.attempts.find? (·.id = lease.attemptId)) .lostLease
  rejectIf (attempt.isLeasedTo digests lease = false) .lostLease
  validateUsage e.usage

/-- The artifact of the attempt is published. -/
def publishArtifact (now : DateTime) (e : AttemptEnd) (job : GenerationJobDocument) (s : GenerationStore) :
    Except PersistenceError GenerationStore :=
  match e.artifactId with
  | none => .ok s
  | some artifactId =>
    if s.assets.any (·.isStagedFor artifactId job) then
      .ok { s with assets := updateWhere (·.isStagedFor artifactId job) (fun a =>
        { a with state := .published, updatedAt := now }) s.assets }
    else .error (.schemaDrift "validated artifact disappeared during generation settlement")

def completeLeasedJobInTransaction (now : DateTime) (digests : Digests) (lease : GenerationLease) (e : AttemptEnd)
    (s : GenerationStore) : Closure (GenerationJobDocument × GenerationAttemptFinishOutcome) :=
  match s.jobs.find? (·.isLeasedTo digests lease now) with
  | none => .ok (.error .lostLease, s)
  | some job =>
    match checkCompletion digests lease e job s with
    | .error error => .ok (.error error, s)
    | .ok () =>
      let (completed, terminal, outcome) := job.complete now lease.attemptId e
      match if e.failure ≠ none ∧ terminal = true then
          retirePendingArtifact now completed (addDuration now failedRetention) s
        else .ok s with
      | .error error => .error error
      | .ok retired =>
        match recordGenerationAttemptUsage now job.id e.usage terminal retired with
        | (.error error, t) => .ok (.error error, t)
        | (.ok (), t) =>
          match publishArtifact now e job (t.replaceJob completed) with
          | .error error => .error error
          | .ok t => .ok (.ok (completed, outcome), t)

def zeroDigest : String := "sha256:0000000000000000000000000000000000000000000000000000000000000000"

def GenerationSuccess.attemptEnd (success : GenerationSuccess) : AttemptEnd :=
  ⟨success.artifactId, success.outputDigest, success.usage, none, false⟩

def GenerationAttemptFailure.attemptEnd (failure : GenerationAttemptFailure) : AttemptEnd :=
  ⟨none, failure.outputDigest.getD zeroDigest, failure.usage, some failure, true⟩

def succeedGenerationJob (now : DateTime) (digests : Digests) (lease : GenerationLease) (success : GenerationSuccess)
    (s : GenerationStore) : Except GenerationJobStoreError GenerationJobDocument × GenerationStore :=
  match (do
    validateLease lease
    validateOptionalIdentifier success.artifactId "artifact id is invalid"
    validateUsage success.usage) with
  | .error e => (.error e, s)
  | .ok () =>
    let (answer, t) := withTransaction (completeLeasedJobInTransaction now digests lease success.attemptEnd) s
    (do
      let (job, _) ← answer
      validateLoadedJob job
      return job, t)

def failGenerationAttempt (now : DateTime) (digests : Digests) (lease : GenerationLease)
    (failure : GenerationAttemptFailure) (s : GenerationStore) :
    Except GenerationJobStoreError GenerationAttemptFinishOutcome × GenerationStore :=
  match (do validateLease lease; validateFailure failure) with
  | .error e => (.error e, s)
  | .ok () =>
    let (answer, t) := withTransaction (completeLeasedJobInTransaction now digests lease failure.attemptEnd) s
    (answer.map (·.2), t)

/-! ## Cancelling -/

def GenerationAttemptDocument.cancel (a : GenerationAttemptDocument) (now : DateTime) : GenerationAttemptDocument :=
  { a with
    state := .cancelled
    failureClass := some .permanent
    failureCode := some .cancelled
    heartbeatAt := now
    finishedAt := some now }

def GenerationJobDocument.cancel (job : GenerationJobDocument) (now : DateTime) : GenerationJobDocument :=
  { job with
    attempts := if job.state = .running then changeLast (·.cancel now) job.attempts else job.attempts
    state := .cancelled
    leaseOwner := none
    leaseTokenDigest := none
    leaseExpiresAt := none
    lastFailureClass := some .permanent
    lastFailureCode := some .cancelled
    retentionClass := .failedMetadata7Days
    purgeAt := some (addDuration now failedRetention)
    completedAt := some now
    updatedAt := now }

/-- The job is cancelled, once its budget is released or settled. -/
def cancelOpen (now : DateTime) (job : GenerationJobDocument) (s : GenerationStore) : Closure GenerationJobDocument :=
  let cancelled := job.cancel now
  match retirePendingArtifact now cancelled (addDuration now failedRetention) s with
  | .error e => .error e
  | .ok t => .ok (.ok cancelled, t.replaceJob cancelled)

def cancelClosure (now : DateTime) (campaignId jobId : String) (s : GenerationStore) : Closure GenerationJobDocument :=
  match s.jobs.find? fun job => job.id = jobId ∧ job.campaignId = campaignId with
  | none => .ok (.error (.notFound jobId), s)
  | some job =>
    match job.state with
    | .cancelled => .ok (.ok job, s)
    | .succeeded | .failed => .ok (.error (.invalidTransition jobId job.state), s)
    | .queued => cancelOpen now job (releaseGenerationBudget now job.id s)
    | .running =>
      match job.checkRunningAttempt "running job has no matching attempt" "running job has no matching attempt" with
      | .error e => .ok (.error e, s)
      | .ok () => cancelOpen now job (settleUnknownGenerationUsage now job.id s)

def cancelGenerationJob (now : DateTime) (campaignId jobId : String) (s : GenerationStore) :
    Except GenerationJobStoreError GenerationJobDocument × GenerationStore :=
  match (do
    validateIdentifier campaignId "campaign id is invalid"
    validateIdentifier jobId "job id is invalid") with
  | .error e => (.error e, s)
  | .ok () =>
    let (answer, t) := withTransaction (cancelClosure now campaignId jobId) s
    (do
      let job ← answer
      validateLoadedJob job
      return job, t)

end ManchesterArcana.Generation
