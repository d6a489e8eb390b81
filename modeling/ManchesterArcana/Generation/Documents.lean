import Mathlib.Data.List.Sort
import Mathlib.Data.String.Basic
import ManchesterArcana.Core.Identifier
import ManchesterArcana.Effect.Guard
import ManchesterArcana.Store.Update

/-!
# `Generation.Documents` — what the generation queue stores

A job carries its lease and the list of its attempts; four reservations, one for each dimension of the budget, carry
what it may spend. A receipt stays behind when the job is cleaned up.

Every call is a transaction with two ways to fail: a `PersistenceError` aborts it, and a `GenerationJobStoreError` is
the value that it commits with.
-/

namespace ManchesterArcana.Generation

open Effect Store

/-! ## Vocabulary -/

inductive GenerationPurpose where
  | intentParsing
  | gmPlanning
  | narration
  | illustration
  deriving DecidableEq, Repr

def GenerationPurpose.asStr : GenerationPurpose → String
  | .intentParsing => "intent_parsing"
  | .gmPlanning => "gm_planning"
  | .narration => "narration"
  | .illustration => "illustration"

def GenerationPurpose.requiresOriginTurn : GenerationPurpose → Bool
  | .narration | .illustration => true
  | _ => false

def GenerationPurpose.priority : GenerationPurpose → Int
  | .intentParsing => 400
  | .gmPlanning => 300
  | .narration => 200
  | .illustration => 100

def GenerationPurpose.defaultMaxAttempts : GenerationPurpose → Nat
  | .intentParsing => 1
  | .gmPlanning => 2
  | .narration => 3
  | .illustration => 5

inductive GenerationFailureClass where
  | transient
  | permanent
  deriving DecidableEq, Repr

inductive GenerationFailureCode where
  | timeout
  | providerUnavailable
  | rateLimited
  | providerRejected
  | malformedResponse
  | unsafeOutput
  | contradiction
  | invalidArtifact
  | budgetExceeded
  | leaseExpired
  | cancelled
  deriving DecidableEq, Repr

def GenerationFailureCode.class : GenerationFailureCode → GenerationFailureClass
  | .timeout | .providerUnavailable | .rateLimited | .leaseExpired => .transient
  | _ => .permanent

def GenerationFailureCode.retryable (code : GenerationFailureCode) : Bool :=
  code.class = .transient

/-- The seconds to wait before the next attempt, where there is one. -/
def GenerationPurpose.retryDelay (purpose : GenerationPurpose) (code : GenerationFailureCode) (attemptNumber : Nat) :
    Option Nat :=
  if code.retryable = false ∨ purpose.defaultMaxAttempts ≤ attemptNumber then none
  else
    let baseSeconds : Option Nat := match purpose, code with
      | .intentParsing, _ => none
      | .gmPlanning, .rateLimited => some 30
      | .gmPlanning, _ => some 5
      | .narration, .rateLimited => some 20
      | .narration, .leaseExpired => some 1
      | .narration, _ => some 3
      | .illustration, .rateLimited => some 60
      | .illustration, .leaseExpired => some 5
      | .illustration, _ => some 15
    baseSeconds.map fun base => min (base * 2 ^ min (attemptNumber - 1) 5) 3600

inductive GenerationJobState where
  | queued
  | running
  | succeeded
  | failed
  | cancelled
  deriving DecidableEq, Repr

def GenerationJobState.terminal : GenerationJobState → Bool
  | .succeeded | .failed | .cancelled => true
  | _ => false

inductive GenerationAttemptState where
  | running
  | succeeded
  | failed
  | cancelled
  deriving DecidableEq, Repr

inductive SuccessRetention where
  | campaignLifetime
  | unselectedPresentation30Days
  deriving DecidableEq, Repr

def SuccessRetention.asStr : SuccessRetention → String
  | .campaignLifetime => "campaign_lifetime"
  | .unselectedPresentation30Days => "unselected_presentation_30d"

inductive GenerationRetentionClass where
  | pending
  | failedMetadata7Days
  | unselectedPresentation30Days
  | campaignLifetime
  deriving DecidableEq, Repr

inductive GenerationBudgetScope where
  | turn
  | campaign
  | concurrency
  deriving DecidableEq, Repr

inductive GenerationBudgetDimension where
  | requests
  | tokens
  | latency
  | cost
  | concurrency
  deriving DecidableEq, Repr

def GenerationBudgetDimension.asStr : GenerationBudgetDimension → String
  | .requests => "requests"
  | .tokens => "tokens"
  | .latency => "latency"
  | .cost => "cost"
  | .concurrency => "concurrency"

inductive GenerationGovernanceState where
  | reserved
  | settled
  | released
  deriving DecidableEq, Repr

inductive GenerationJobStoreError where
  | invalidInput (reason : String)
  | notFound (jobId : String)
  | originRevisionConflict (expected actual : Nat)
  | idempotencyConflict
  | idempotencyReceiptClosed
  | budgetExceeded (scope : GenerationBudgetScope) (dimension : GenerationBudgetDimension)
  | invalidTransition (jobId : String) (state : GenerationJobState)
  | lostLease
  | invalidStoredData (reason : String)
  | numericRange
  | database (detail : String)
  deriving DecidableEq, Repr

inductive PersistenceError where
  | schemaDrift (detail : String)
  | duplicateKey
  deriving DecidableEq, Repr

def mapDatabase : PersistenceError → GenerationJobStoreError
  | .duplicateKey => .idempotencyConflict
  | .schemaDrift detail => .database detail

/-! ## Numbers and dates -/

/-- The largest number that a document holds. -/
def maxI64 : Nat := 2 ^ 63 - 1

def toI64 (value : Nat) : Except GenerationJobStoreError Nat := do
  rejectIf (maxI64 < value) .numericRange
  return value

def checkedAdd (left right : Nat) : Except GenerationJobStoreError Nat := do
  rejectIf (2 ^ 64 ≤ left + right) .numericRange
  return left + right

/-- A date, in milliseconds. -/
abbrev DateTime := Int

def addDuration (value : DateTime) (milliseconds : Nat) : DateTime :=
  min (value + milliseconds) maxI64

def maxAttemptsAllowed : Nat := 5
def minLease : Nat := 1000
def maxLease : Nat := 5 * 60 * 1000
def dayMilliseconds : Nat := 24 * 60 * 60 * 1000
def failedRetention : Nat := 7 * dayMilliseconds
def unselectedRetention : Nat := 30 * dayMilliseconds
def reservationRetention : Nat := 30 * dayMilliseconds
def activeReservationHorizon : Nat := 365 * dayMilliseconds
def claimScanLimit : Nat := 64
def imageRequestsPerRollingDay : Nat := 3
def imageRequestsPerCampaignLifetime : Nat := 10
def imageRequestsPerTurn : Nat := 2

/-! ## Documents -/

structure GenerationUsage where
  promptTokens : Option Nat
  completionTokens : Option Nat
  totalTokens : Option Nat
  costMicrousd : Option Nat
  latencyMilliseconds : Option Nat
  deriving DecidableEq, Repr

def GenerationUsage.default : GenerationUsage := ⟨none, none, none, none, none⟩

structure GenerationAttemptDocument where
  id : String
  attemptNumber : Nat
  state : GenerationAttemptState
  leaseOwner : String
  leaseTokenDigest : String
  provider : String
  model : String
  usage : GenerationUsage
  failureClass : Option GenerationFailureClass
  failureCode : Option GenerationFailureCode
  providerStatus : Option Nat
  providerRequestId : Option String
  artifactId : Option String
  outputDigest : Option String
  startedAt : DateTime
  heartbeatAt : DateTime
  finishedAt : Option DateTime
  deriving DecidableEq, Repr

structure GenerationJobDocument where
  id : String
  campaignId : String
  originEventId : Option String
  originCampaignRevision : Nat
  purpose : GenerationPurpose
  idempotencyKey : String
  requestFingerprint : String
  state : GenerationJobState
  availableAt : DateTime
  inputDigest : String
  promptDigest : String
  policyDigest : String
  configDigest : String
  outputDigest : Option String
  correlationId : Option String
  attemptCount : Nat
  maxAttempts : Nat
  campaignConcurrencyLimit : Nat
  attempts : List GenerationAttemptDocument
  leaseOwner : Option String
  leaseTokenDigest : Option String
  leaseExpiresAt : Option DateTime
  lastFailureClass : Option GenerationFailureClass
  lastFailureCode : Option GenerationFailureCode
  artifactId : Option String
  successRetention : SuccessRetention
  retentionClass : GenerationRetentionClass
  purgeAt : Option DateTime
  createdAt : DateTime
  updatedAt : DateTime
  completedAt : Option DateTime
  pendingArtifactId : Option String
  deriving DecidableEq, Repr

structure GenerationBudgetReservationDocument where
  id : String
  jobId : String
  campaignId : String
  purpose : GenerationPurpose
  idempotencyKey : String
  turnScopeKey : String
  dimension : GenerationBudgetDimension
  state : GenerationGovernanceState
  requestFingerprint : String
  policyFingerprint : String
  configFingerprint : String
  governanceFingerprint : String
  reservedValue : Nat
  spentValue : Nat
  overage : Bool
  expiresAt : DateTime
  purgeAt : DateTime
  createdAt : DateTime
  updatedAt : DateTime
  settledAt : Option DateTime
  deriving DecidableEq, Repr

inductive GeneratedAssetState where
  | staged
  | published
  | superseded
  deriving DecidableEq, Repr

structure GeneratedAssetDocument where
  id : String
  jobId : String
  campaignId : String
  entityKind : String
  state : GeneratedAssetState
  selected : Bool
  purgeAt : Option DateTime
  updatedAt : DateTime
  deriving DecidableEq, Repr

structure EnqueueReceiptDocument where
  purpose : GenerationPurpose
  scopeId : String
  idempotencyKey : String
  requestFingerprint : String
  resultJobId : String
  originEventId : Option String
  createdAt : DateTime
  deriving DecidableEq, Repr

structure CampaignReference where
  id : String
  revision : Nat
  generationQueueRevision : Nat
  generationClaimRevision : Nat
  deriving DecidableEq, Repr

structure TurnReference where
  id : String
  campaignId : String
  sequence : Nat
  deriving DecidableEq, Repr

structure GenerationStore where
  campaigns : List CampaignReference
  turns : List TurnReference
  jobs : List GenerationJobDocument
  reservations : List GenerationBudgetReservationDocument
  assets : List GeneratedAssetDocument
  receipts : List EnqueueReceiptDocument
  deriving DecidableEq, Repr

/-! ## Requests -/

structure GenerationBudgetAllowance where
  requests : Nat
  tokens : Nat
  latencyMilliseconds : Nat
  costMicrousd : Nat
  deriving DecidableEq, Repr

structure GenerationGovernanceConfig where
  campaign : GenerationBudgetAllowance
  turn : GenerationBudgetAllowance
  maxCampaignConcurrency : Nat
  workerBatchSize : Nat
  deriving DecidableEq, Repr

structure NewGenerationGovernanceReceipt where
  turnScopeKey : String
  requestFingerprint : String
  policyFingerprint : String
  configFingerprint : String
  governanceFingerprint : String
  reservedRequests : Nat
  reservedTokens : Nat
  reservedLatencyMilliseconds : Nat
  reservedCostMicrousd : Nat
  limits : GenerationGovernanceConfig
  deriving DecidableEq, Repr

structure NewGenerationJob where
  id : String
  campaignSessionId : String
  originTurnId : Option String
  originCampaignRevision : Nat
  purpose : GenerationPurpose
  idempotencyKey : String
  inputDigest : String
  promptDigest : String
  policyDigest : String
  configDigest : String
  correlationId : Option String
  maxAttempts : Nat
  successRetention : SuccessRetention
  governance : Option NewGenerationGovernanceReceipt
  deriving DecidableEq, Repr

structure GenerationClaim where
  workerId : String
  provider : String
  model : String
  leaseDuration : Nat
  deriving DecidableEq, Repr

structure GenerationLease where
  jobId : String
  attemptId : String
  workerId : String
  leaseToken : String
  deriving DecidableEq, Repr

structure GenerationAttemptFailure where
  code : GenerationFailureCode
  providerStatus : Option Nat
  providerRequestId : Option String
  usage : GenerationUsage
  outputDigest : Option String
  deriving DecidableEq, Repr

structure GenerationSuccess where
  artifactId : Option String
  outputDigest : String
  usage : GenerationUsage
  deriving DecidableEq, Repr

/-- The digests that the queue takes: of a lease token, of the fields of a request, of a configuration. -/
structure Digests where
  leaseToken : String → String
  enqueue : List String → String
  governance : GenerationGovernanceConfig → String

/-! ## Checks -/

def validateIdentifier (value reason : String) : Except GenerationJobStoreError Unit :=
  rejectIf (isValidOpaqueId value = false) (.invalidInput reason)

def validateOptionalIdentifier (value : Option String) (reason : String) : Except GenerationJobStoreError Unit :=
  match value with
  | some value => validateIdentifier value reason
  | none => .ok ()

def validateUsage (usage : GenerationUsage) : Except GenerationJobStoreError Unit := do
  rejectIf (∃ value ∈ [usage.promptTokens, usage.completionTokens, usage.totalTokens, usage.costMicrousd,
    usage.latencyMilliseconds].filterMap id, maxI64 < value) .numericRange
  match usage.promptTokens, usage.completionTokens, usage.totalTokens with
  | some prompt, some completion, some total => do
    let minimum ← checkedAdd prompt completion
    rejectIf (total < minimum) (.invalidInput "total tokens cannot be less than prompt plus completion tokens")
  | _, _, _ => .ok ()

def validateLeaseDuration (duration : Nat) : Except GenerationJobStoreError Unit :=
  rejectIf (duration < minLease ∨ maxLease < duration)
    (.invalidInput "lease duration must be between one second and five minutes")

/-- `value.trim() == value`. -/
def isTrimmed (value : String) : Bool :=
  !value.toList.head?.any isWhiteSpace && !value.toList.getLast?.any isWhiteSpace

/-- `char::is_control`. -/
def isControl (c : Char) : Bool :=
  c.toNat < 32 || (127 ≤ c.toNat && c.toNat < 160)

def validateClaim (claim : GenerationClaim) : Except GenerationJobStoreError Unit := do
  validateIdentifier claim.workerId "worker id is invalid"
  validateIdentifier claim.provider "provider id is invalid"
  rejectIf (isTrimmed claim.model = false ∨ claim.model = "" ∨ 256 < claim.model.utf8ByteSize ∨
    claim.model.toList.any isControl = true)
    (.invalidInput "model name must be bounded and control-free")
  validateLeaseDuration claim.leaseDuration

def validateLease (lease : GenerationLease) : Except GenerationJobStoreError Unit := do
  validateIdentifier lease.jobId "lease job id is invalid"
  validateIdentifier lease.attemptId "lease attempt id is invalid"
  validateIdentifier lease.workerId "lease worker id is invalid"
  validateIdentifier lease.leaseToken "lease token is invalid"

def validateFailure (failure : GenerationAttemptFailure) : Except GenerationJobStoreError Unit := do
  validateUsage failure.usage
  rejectIf (∃ status ∈ failure.providerStatus, status < 100 ∨ 599 < status) (.invalidInput "provider status is invalid")
  validateOptionalIdentifier failure.providerRequestId "provider request id is invalid"

def validateNewJob (job : NewGenerationJob) : Except GenerationJobStoreError Unit := do
  validateIdentifier job.id "job id is invalid"
  validateIdentifier job.campaignSessionId "campaign id is invalid"
  validateIdentifier job.idempotencyKey "idempotency key is invalid"
  validateOptionalIdentifier job.originTurnId "origin turn id is invalid"
  rejectIf (job.purpose.requiresOriginTurn = true ∧ job.originTurnId = none)
    (.invalidInput "narration and illustration jobs require an origin turn")
  rejectIf (job.purpose = .illustration ∧ job.governance = none)
    (.invalidInput "illustration jobs require durable budget governance")
  rejectIf (job.originCampaignRevision = 0) (.invalidInput "origin campaign revision must be positive")
  rejectIf (job.maxAttempts < 1 ∨ maxAttemptsAllowed < job.maxAttempts)
    (.invalidInput "max attempts must be between one and five")
  validateOptionalIdentifier job.correlationId "correlation id is invalid"

def validateNewGovernance (digests : Digests) (requested : NewGenerationGovernanceReceipt) :
    Except GenerationJobStoreError Unit := do
  validateIdentifier requested.turnScopeKey "turn scope key is invalid"
  rejectIf (∃ value ∈ [requested.reservedTokens, requested.reservedLatencyMilliseconds, requested.reservedCostMicrousd,
    requested.limits.campaign.requests, requested.limits.campaign.tokens, requested.limits.campaign.latencyMilliseconds,
    requested.limits.campaign.costMicrousd, requested.limits.turn.requests, requested.limits.turn.tokens,
    requested.limits.turn.latencyMilliseconds, requested.limits.turn.costMicrousd], maxI64 < value) .numericRange
  rejectIf (5 < requested.reservedRequests ∨ requested.limits.maxCampaignConcurrency = 0 ∨
    32 < requested.limits.maxCampaignConcurrency ∨ requested.limits.workerBatchSize = 0 ∨
    1000 < requested.limits.workerBatchSize ∨ requested.governanceFingerprint ≠ digests.governance requested.limits)
    (.invalidInput "generation governance bounds are invalid")

/-- The checks of a stored job that every read makes. -/
def validateLoadedJob (job : GenerationJobDocument) : Except GenerationJobStoreError Unit := do
  validateIdentifier job.id "stored job id is invalid"
  validateIdentifier job.campaignId "stored campaign id is invalid"
  validateIdentifier job.idempotencyKey "stored idempotency key is invalid"
  rejectIf (job.originCampaignRevision = 0 ∨ job.maxAttempts < 1 ∨ maxAttemptsAllowed < job.maxAttempts ∨
    job.maxAttempts < job.attemptCount) (.invalidStoredData "stored job bounds are invalid")
  rejectIf (job.purpose.requiresOriginTurn = true ∧ job.originEventId = none)
    (.invalidStoredData "stored job is missing its required origin turn")

/-! ## Transactions -/

/-- What a transaction closure returns: an abort, or an answer with the store that is committed. -/
abbrev Closure (α : Type) := Except PersistenceError (Except GenerationJobStoreError α × GenerationStore)

/-- `MongoStore::with_transaction`: an abort leaves the store as it was. -/
def withTransaction {α : Type} (body : GenerationStore → Closure α) (s : GenerationStore) :
    Except GenerationJobStoreError α × GenerationStore :=
  match body s with
  | .error e => (.error (mapDatabase e), s)
  | .ok committed => committed

end ManchesterArcana.Generation
