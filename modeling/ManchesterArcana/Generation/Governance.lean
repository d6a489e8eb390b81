import ManchesterArcana.Generation.Documents

/-!
# `Generation.Governance` — the budget of a campaign and of a turn

A job reserves a value in each dimension. What is reserved or spent counts against the allowances of the campaign and of
the turn; what an attempt has spent is recorded over the reservations one by one.
-/

namespace ManchesterArcana.Generation

open Effect Store

/-! ## Totals -/

structure GenerationBudgetTotals where
  requests : Nat
  tokens : Nat
  latencyMilliseconds : Nat
  costMicrousd : Nat
  deriving DecidableEq, Repr

def GenerationBudgetTotals.zero : GenerationBudgetTotals := ⟨0, 0, 0, 0⟩

def GenerationBudgetTotals.value (t : GenerationBudgetTotals) : GenerationBudgetDimension → Nat
  | .requests => t.requests
  | .tokens => t.tokens
  | .latency => t.latencyMilliseconds
  | .cost => t.costMicrousd
  | .concurrency => 0

def GenerationBudgetAllowance.value (a : GenerationBudgetAllowance) : GenerationBudgetDimension → Nat
  | .requests => a.requests
  | .tokens => a.tokens
  | .latency => a.latencyMilliseconds
  | .cost => a.costMicrousd
  | .concurrency => 0

def NewGenerationGovernanceReceipt.addition (g : NewGenerationGovernanceReceipt) : GenerationBudgetTotals where
  requests := g.reservedRequests
  tokens := g.reservedTokens
  latencyMilliseconds := g.reservedLatencyMilliseconds
  costMicrousd := g.reservedCostMicrousd

def saturatingAdd (left right : Nat) : Nat :=
  min (left + right) (2 ^ 64 - 1)

/-- What a reservation counts for. -/
def GenerationBudgetReservationDocument.committed (d : GenerationBudgetReservationDocument) : Nat :=
  match d.state with
  | .reserved => max d.reservedValue d.spentValue
  | .settled => d.spentValue
  | .released => 0

def GenerationBudgetTotals.add (t : GenerationBudgetTotals) (d : GenerationBudgetReservationDocument) :
    GenerationBudgetTotals :=
  match d.dimension with
  | .requests => { t with requests := saturatingAdd t.requests d.committed }
  | .tokens => { t with tokens := saturatingAdd t.tokens d.committed }
  | .latency => { t with latencyMilliseconds := saturatingAdd t.latencyMilliseconds d.committed }
  | .cost => { t with costMicrousd := saturatingAdd t.costMicrousd d.committed }
  | .concurrency => t

def totalsFromDocuments (documents : List GenerationBudgetReservationDocument) : GenerationBudgetTotals :=
  documents.foldl GenerationBudgetTotals.add .zero

/-- The order that reservations are read in. -/
def byDimension (a b : GenerationBudgetReservationDocument) : Prop :=
  a.dimension.asStr ≤ b.dimension.asStr

instance : DecidableRel byDimension := fun _ _ => inferInstanceAs (Decidable (_ ≤ _))

def GenerationStore.loadReservations (s : GenerationStore) (p : GenerationBudgetReservationDocument → Bool) :
    List GenerationBudgetReservationDocument :=
  (s.reservations.filter p).insertionSort byDimension

/-- The reservation counts for the campaign, or for a turn of it. -/
def GenerationBudgetReservationDocument.isInScope (d : GenerationBudgetReservationDocument) (campaignId : String)
    (turnScopeKey : Option String) : Bool :=
  d.campaignId = campaignId ∧ ∀ key ∈ turnScopeKey, d.turnScopeKey = key

def GenerationStore.loadTotals (s : GenerationStore) (campaignId : String) (turnScopeKey : Option String) :
    GenerationBudgetTotals :=
  totalsFromDocuments (s.loadReservations fun d =>
    (d.state = .reserved ∨ d.state = .settled) && d.isInScope campaignId turnScopeKey)

/-! ## Admission -/

def exceedsIn (current addition : GenerationBudgetTotals) (limits : GenerationBudgetAllowance) :
    List GenerationBudgetDimension → Except GenerationJobStoreError (Option GenerationBudgetDimension)
  | [] => return none
  | dimension :: rest => do
    let total ← checkedAdd (current.value dimension) (addition.value dimension)
    if limits.value dimension < total then return some dimension else exceedsIn current addition limits rest

def exceeds (current addition : GenerationBudgetTotals) (limits : GenerationBudgetAllowance) :
    Except GenerationJobStoreError (Option GenerationBudgetDimension) :=
  exceedsIn current addition limits [.requests, .tokens, .latency, .cost]

def checkScope (scope : GenerationBudgetScope) (current addition : GenerationBudgetTotals)
    (limits : GenerationBudgetAllowance) : Except GenerationJobStoreError Unit := do
  match ← exceeds current addition limits with
  | some dimension => .error (.budgetExceeded scope dimension)
  | none => .ok ()

def preflightGenerationGovernance (s : GenerationStore) (campaignId : String)
    (requested : NewGenerationGovernanceReceipt) : Except GenerationJobStoreError Unit := do
  let activeProviderJobs := s.reservations.countP fun d =>
    d.campaignId = campaignId ∧ d.dimension = .requests ∧ d.state = .reserved ∧ 0 < d.reservedValue
  rejectIf (0 < requested.reservedRequests ∧ requested.limits.maxCampaignConcurrency ≤ activeProviderJobs)
    (.budgetExceeded .concurrency .concurrency)
  checkScope .campaign (s.loadTotals campaignId none) requested.addition requested.limits.campaign
  checkScope .turn (s.loadTotals campaignId (some requested.turnScopeKey)) requested.addition requested.limits.turn

/-- The reservation of one dimension. -/
def NewGenerationJob.reservation (job : NewGenerationJob) (g : NewGenerationGovernanceReceipt) (now : DateTime)
    (dimension : GenerationBudgetDimension) : GenerationBudgetReservationDocument where
  id := "budget-reservation:" ++ job.id ++ ":" ++ dimension.asStr
  jobId := job.id
  campaignId := job.campaignSessionId
  purpose := job.purpose
  idempotencyKey := job.idempotencyKey
  turnScopeKey := g.turnScopeKey
  dimension := dimension
  state := .reserved
  requestFingerprint := g.requestFingerprint
  policyFingerprint := g.policyFingerprint
  configFingerprint := g.configFingerprint
  governanceFingerprint := g.governanceFingerprint
  reservedValue := g.addition.value dimension
  spentValue := 0
  overage := false
  expiresAt := addDuration now activeReservationHorizon
  purgeAt := addDuration now activeReservationHorizon
  createdAt := now
  updatedAt := now
  settledAt := none

def budgetDimensions : List GenerationBudgetDimension := [.requests, .tokens, .latency, .cost]

/-- A job and a dimension have one reservation, and a reservation one id. -/
def insertGenerationGovernanceReceipt (now : DateTime) (job : NewGenerationJob) (g : NewGenerationGovernanceReceipt)
    (s : GenerationStore) : Except PersistenceError GenerationStore := do
  rejectIf (maxI64 < g.reservedTokens ∨ maxI64 < g.reservedLatencyMilliseconds ∨ maxI64 < g.reservedCostMicrousd)
    (.schemaDrift "generation numeric value is outside BSON range")
  let documents := budgetDimensions.map (job.reservation g now)
  rejectIf (∃ d ∈ documents, ∃ x ∈ s.reservations, x.id = d.id ∨ (x.jobId = d.jobId ∧ x.dimension = d.dimension))
    .duplicateKey
  return { s with reservations := s.reservations ++ documents }

/-! ## What attempts spend -/

/-- Change a reservation that is still open. -/
def GenerationStore.updateReserved (s : GenerationStore) (id : String)
    (f : GenerationBudgetReservationDocument → GenerationBudgetReservationDocument) : GenerationStore :=
  { s with reservations := updateWhere (fun d => d.id = id ∧ d.state = .reserved) f s.reservations }

/-- What is spent after an attempt: an amount that is not known counts as all that was reserved. -/
def GenerationBudgetReservationDocument.charge (d : GenerationBudgetReservationDocument) (increment : Option Nat) :
    Except GenerationJobStoreError Nat :=
  match increment with
  | some value => do toI64 (← checkedAdd d.spentValue value)
  | none => toI64 (max d.spentValue d.reservedValue)

def GenerationBudgetReservationDocument.settle (d : GenerationBudgetReservationDocument) (now : DateTime) :
    GenerationBudgetReservationDocument :=
  { d with
    state := .settled
    settledAt := some now
    expiresAt := addDuration now reservationRetention
    purgeAt := addDuration now reservationRetention }

/-- The reservation with what is spent, which is settled when the attempt ends its job. -/
def GenerationBudgetReservationDocument.record (d : GenerationBudgetReservationDocument) (now : DateTime)
    (terminal overage : Bool) (spent : Nat) : GenerationBudgetReservationDocument :=
  let recorded := { d with spentValue := spent, overage := overage, updatedAt := now }
  if terminal then recorded.settle now else recorded

/-- The dimensions one after the other: what was recorded stays when a later one fails. -/
def recordDimensions (now : DateTime) (terminal : Bool) (increment : GenerationBudgetDimension → Option Nat) :
    List GenerationBudgetReservationDocument → GenerationStore → Except GenerationJobStoreError Unit × GenerationStore
  | [], s => (.ok (), s)
  | d :: rest, s =>
    match d.charge (increment d.dimension) with
    | .error e => (.error e, s)
    | .ok spent =>
      recordDimensions now terminal increment rest
        (s.updateReserved d.id fun x => x.record now terminal (d.overage || d.reservedValue < spent) spent)

/-- What an attempt adds to each dimension. The request is counted where the first reservation, in the order of the
dimensions' names, has reserved something. -/
def attemptIncrement (first : GenerationBudgetReservationDocument) (usage : GenerationUsage) :
    GenerationBudgetDimension → Option Nat
  | .requests => some (if 0 < first.reservedValue then 1 else 0)
  | .tokens => usage.totalTokens
  | .latency => usage.latencyMilliseconds
  | .cost => usage.costMicrousd
  | .concurrency => none

def recordGenerationAttemptUsage (now : DateTime) (jobId : String) (usage : GenerationUsage) (terminal : Bool)
    (s : GenerationStore) : Except GenerationJobStoreError Unit × GenerationStore :=
  match s.loadReservations fun d => d.jobId = jobId with
  | [] => (.ok (), s)
  | first :: rest =>
    if ∃ d ∈ first :: rest, d.state ≠ .reserved then
      (.error (.invalidStoredData "generation governance receipt was already settled"), s)
    else recordDimensions now terminal (attemptIncrement first usage) (first :: rest) s

/-- The reservation settled at all that was reserved. -/
def GenerationBudgetReservationDocument.settleUnknown (x d : GenerationBudgetReservationDocument) (now : DateTime) :
    GenerationBudgetReservationDocument :=
  { x with spentValue := max d.spentValue d.reservedValue, updatedAt := now }.settle now

def settleUnknownGenerationUsage (now : DateTime) (jobId : String) (s : GenerationStore) : GenerationStore :=
  (s.loadReservations fun d => d.jobId = jobId ∧ d.state = .reserved).foldl (fun s d =>
    s.updateReserved d.id fun x => x.settleUnknown d now) s

def releaseGenerationBudget (now : DateTime) (jobId : String) (s : GenerationStore) : GenerationStore :=
  { s with reservations := updateWhere (fun d => d.jobId = jobId ∧ d.state = .reserved) (fun d =>
      { d.settle now with state := .released, updatedAt := now }) s.reservations }

/-! ## The receipt of a key -/

structure GenerationGovernanceReceipt where
  jobId : String
  turnScopeKey : String
  requestFingerprint : String
  policyFingerprint : String
  configFingerprint : String
  governanceFingerprint : String
  state : GenerationGovernanceState
  reservedRequests : Nat
  reservedTokens : Nat
  reservedLatencyMilliseconds : Nat
  reservedCostMicrousd : Nat
  spentRequests : Nat
  deriving DecidableEq, Repr

/-- Two reservations are dimensions of one receipt. -/
def GenerationBudgetReservationDocument.isWith (d first : GenerationBudgetReservationDocument) : Bool :=
  d.jobId = first.jobId ∧ d.campaignId = first.campaignId ∧ d.purpose = first.purpose ∧
    d.idempotencyKey = first.idempotencyKey ∧ d.turnScopeKey = first.turnScopeKey ∧
    d.requestFingerprint = first.requestFingerprint ∧ d.policyFingerprint = first.policyFingerprint ∧
    d.configFingerprint = first.configFingerprint ∧ d.governanceFingerprint = first.governanceFingerprint ∧
    d.state = first.state

/-- The last reservation of a dimension. -/
def dimensionDocument (documents : List GenerationBudgetReservationDocument) (dimension : GenerationBudgetDimension) :
    Except PersistenceError GenerationBudgetReservationDocument :=
  okOr (documents.reverse.find? (·.dimension = dimension)) (.schemaDrift "generation reservation value is invalid")

def toU8 (value : Nat) (detail : String) : Except PersistenceError Nat := do
  rejectIf (255 < value) (.schemaDrift detail)
  return value

def receiptFromReservations (documents : List GenerationBudgetReservationDocument) :
    Except PersistenceError (Option GenerationGovernanceReceipt) :=
  match documents with
  | [] => return none
  | first :: rest => do
    rejectIf ((first :: rest).length ≠ 4 ∨ ∃ d ∈ first :: rest, d.isWith first = false)
      (.schemaDrift "generation reservation dimensions do not form one receipt")
    let requests ← dimensionDocument (first :: rest) .requests
    let reservedRequests ← toU8 requests.reservedValue "reserved request value is invalid"
    let tokens ← dimensionDocument (first :: rest) .tokens
    let latency ← dimensionDocument (first :: rest) .latency
    let cost ← dimensionDocument (first :: rest) .cost
    let spentRequests ← toU8 requests.spentValue "spent request value is invalid"
    return some {
      jobId := first.jobId
      turnScopeKey := first.turnScopeKey
      requestFingerprint := first.requestFingerprint
      policyFingerprint := first.policyFingerprint
      configFingerprint := first.configFingerprint
      governanceFingerprint := first.governanceFingerprint
      state := first.state
      reservedRequests := reservedRequests
      reservedTokens := tokens.reservedValue
      reservedLatencyMilliseconds := latency.reservedValue
      reservedCostMicrousd := cost.reservedValue
      spentRequests := spentRequests }

def loadGovernanceReceiptByKey (s : GenerationStore) (campaignId : String) (purpose : GenerationPurpose)
    (idempotencyKey : String) : Except PersistenceError (Option GenerationGovernanceReceipt) :=
  receiptFromReservations (s.loadReservations fun d =>
    d.campaignId = campaignId ∧ d.purpose = purpose ∧ d.idempotencyKey = idempotencyKey)

def ensureMatchingGovernanceReceipt (existing : GenerationGovernanceReceipt)
    (requested : NewGenerationGovernanceReceipt) : Except GenerationJobStoreError Unit :=
  rejectIf (existing.turnScopeKey ≠ requested.turnScopeKey ∨
    existing.requestFingerprint ≠ requested.requestFingerprint ∨
    existing.policyFingerprint ≠ requested.policyFingerprint ∨
    existing.configFingerprint ≠ requested.configFingerprint ∨
    existing.governanceFingerprint ≠ requested.governanceFingerprint ∨
    existing.reservedRequests ≠ requested.reservedRequests ∨ existing.reservedTokens ≠ requested.reservedTokens ∨
    existing.reservedLatencyMilliseconds ≠ requested.reservedLatencyMilliseconds ∨
    existing.reservedCostMicrousd ≠ requested.reservedCostMicrousd) .idempotencyConflict

end ManchesterArcana.Generation
