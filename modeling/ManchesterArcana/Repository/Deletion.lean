import ManchesterArcana.Repository.Collections

/-!
# `Repository.Deletion` — deleting an archived campaign

The deletion checks its authority, the state of the campaign and the export prepared for it, stores its own
receipt and a tombstone, and then sweeps the collections of the store with a list of filters of its own. Of
the command receipts it sweeps those scoped to the campaign only, while the export also selects those that
merely carry the campaign's id.

Digests and the JSON of exports come from a `DeletionHost`, with the time and the fresh identifiers.
-/

namespace ManchesterArcana.Repository

open Effect Store

structure CampaignLifecycleCommand where
  schemaVersion : Nat
  campaignSessionId : String
  expectedLifecycleRevision : Nat
  idempotencyKey : String
  deriving DecidableEq, Repr

structure DeleteCampaignCommand where
  lifecycle : CampaignLifecycleCommand
  deletionId : String
  confirmPermanentDelete : Bool
  deriving DecidableEq, Repr

def CampaignLifecycleCommand.validate (command : CampaignLifecycleCommand) :
    Except RepositoryError Unit := do
  rejectIf (command.schemaVersion ≠ campaignLifecycleSchemaVersion)
    (.unsupportedSchemaVersion "campaign lifecycle command" command.schemaVersion
      campaignLifecycleSchemaVersion)
  rejectIf (isValidOpaqueId command.campaignSessionId = false ∨
      isValidOpaqueId command.idempotencyKey = false ∨ command.expectedLifecycleRevision = 0)
    (.invalidDomainState "campaign lifecycle command" command.campaignSessionId
      "ids and expected lifecycle revision must be valid")

inductive CampaignLifecycleState where
  | active
  | archived
  deriving DecidableEq, Repr

structure CampaignLifecycleOutcome where
  schemaVersion : Nat
  campaignSessionId : String
  lifecycleRevision : Nat
  lifecycleState : Option CampaignLifecycleState
  playSessionId : Option String
  deleted : Bool
  deriving DecidableEq, Repr

def CampaignLifecycleState.name : CampaignLifecycleState → String
  | .active => "active"
  | .archived => "archived"

def CampaignLifecycleState.ofName (name : String) : Option CampaignLifecycleState :=
  if name = "active" then some .active else if name = "archived" then some .archived else none

def optionalString : Option String → Bson
  | some s => .string s
  | none => .scalar .null

def CampaignLifecycleOutcome.document (outcome : CampaignLifecycleOutcome) : Document :=
  [("schema_version", .integer outcome.schemaVersion),
    ("campaign_session_id", .string outcome.campaignSessionId),
    ("lifecycle_revision", .integer outcome.lifecycleRevision),
    ("lifecycle_state", optionalString (outcome.lifecycleState.map (·.name))),
    ("play_session_id", optionalString outcome.playSessionId), ("deleted", .boolean outcome.deleted)]

def CampaignLifecycleOutcome.decode (d : Document) : Option CampaignLifecycleOutcome := do
  d.onlyKeys ["schema_version", "campaign_session_id", "lifecycle_revision", "lifecycle_state",
    "play_session_id", "deleted"]
  let schemaVersion ← d.getInt "schema_version"
  let campaignSessionId ← d.getStr "campaign_session_id"
  let lifecycleRevision ← d.getInt "lifecycle_revision"
  let stateName ← d.getOptionalStr "lifecycle_state"
  let lifecycleState ← match stateName with
    | none => some none
    | some name => (CampaignLifecycleState.ofName name).map some
  let playSessionId ← d.getOptionalStr "play_session_id"
  let deleted ← d.getBool "deleted"
  if schemaVersion < 0 ∨ 2 ^ 16 ≤ schemaVersion ∨ lifecycleRevision < 0 then none
  else return ⟨schemaVersion.toNat, campaignSessionId, lifecycleRevision.toNat, lifecycleState,
    playSessionId, deleted⟩

/-! ## Stored receipts, preparations and tombstones -/

/-- `sha256:` and 64 lowercase hexadecimal digits. -/
def isSha256Digest (value : String) : Bool :=
  value.startsWith "sha256:" && value.length == 71 &&
    (value.toList.drop 7).all fun c => c.isDigit || ('a' ≤ c && c ≤ 'f')

structure LifecycleReceiptDocument where
  id : String
  schemaVersion : Int
  scopeKind : String
  scopeId : String
  campaignId : String
  actorAccountId : String
  commandKind : String
  idempotencyKey : String
  requestFingerprint : String
  expectedRevision : Int
  resultRevision : Int
  response : Document
  state : String
  retainAfterDelete : Bool
  createdAt : Int
  purgeAt : Option Int

def LifecycleReceiptDocument.document (receipt : LifecycleReceiptDocument) : Document :=
  [("_id", .string receipt.id), ("schema_version", .integer receipt.schemaVersion),
    ("scope_kind", .string receipt.scopeKind), ("scope_id", .string receipt.scopeId),
    ("campaign_id", .string receipt.campaignId), ("actor_account_id", .string receipt.actorAccountId),
    ("command_kind", .string receipt.commandKind), ("idempotency_key", .string receipt.idempotencyKey),
    ("request_fingerprint", .string receipt.requestFingerprint),
    ("expected_revision", .integer receipt.expectedRevision),
    ("result_revision", .integer receipt.resultRevision), ("response", .document receipt.response),
    ("state", .string receipt.state), ("retain_after_delete", .boolean receipt.retainAfterDelete),
    ("created_at", .dateTime receipt.createdAt),
    ("purge_at", match receipt.purgeAt with
      | some ms => .dateTime ms
      | none => .scalar .null)]

def LifecycleReceiptDocument.decode (d : Document) : Option LifecycleReceiptDocument := do
  d.onlyKeys ["_id", "schema_version", "scope_kind", "scope_id", "campaign_id", "actor_account_id",
    "command_kind", "idempotency_key", "request_fingerprint", "expected_revision", "result_revision",
    "response", "state", "retain_after_delete", "created_at", "purge_at"]
  let receipt : LifecycleReceiptDocument := {
    id := ← d.getStr "_id"
    schemaVersion := ← d.getInt "schema_version"
    scopeKind := ← d.getStr "scope_kind"
    scopeId := ← d.getStr "scope_id"
    campaignId := ← d.getStr "campaign_id"
    actorAccountId := ← d.getStr "actor_account_id"
    commandKind := ← d.getStr "command_kind"
    idempotencyKey := ← d.getStr "idempotency_key"
    requestFingerprint := ← d.getStr "request_fingerprint"
    expectedRevision := ← d.getInt "expected_revision"
    resultRevision := ← d.getInt "result_revision"
    response := ← d.getDocument "response"
    state := ← d.getStr "state"
    retainAfterDelete := ← d.getBool "retain_after_delete"
    createdAt := ← d.getDateTime "created_at"
    purgeAt := ← d.getOptionalDateTime "purge_at" }
  if isSha256Digest receipt.requestFingerprint then some receipt else none

structure DeletionPreparationDocument where
  id : String
  schemaVersion : Int
  deletionId : String
  ownerAccountId : String
  scopeKind : String
  scopeId : String
  campaignRevision : Int
  lifecycleRevision : Int
  digest : String
  canonicalExportJson : String
  expiresAt : Int
  purgeAt : Int
  createdAt : Int

def DeletionPreparationDocument.decode (d : Document) : Option DeletionPreparationDocument := do
  d.onlyKeys ["_id", "schema_version", "deletion_id", "owner_account_id", "scope_kind", "scope_id",
    "campaign_revision", "lifecycle_revision", "digest", "canonical_export_json", "expires_at", "purge_at",
    "created_at"]
  let preparation : DeletionPreparationDocument := {
    id := ← d.getStr "_id"
    schemaVersion := ← d.getInt "schema_version"
    deletionId := ← d.getStr "deletion_id"
    ownerAccountId := ← d.getStr "owner_account_id"
    scopeKind := ← d.getStr "scope_kind"
    scopeId := ← d.getStr "scope_id"
    campaignRevision := ← d.getInt "campaign_revision"
    lifecycleRevision := ← d.getInt "lifecycle_revision"
    digest := ← d.getStr "digest"
    canonicalExportJson := ← d.getStr "canonical_export_json"
    expiresAt := ← d.getDateTime "expires_at"
    purgeAt := ← d.getDateTime "purge_at"
    createdAt := ← d.getDateTime "created_at" }
  if isSha256Digest preparation.digest then some preparation else none

def deletionTombstoneSeconds : Int := 35 * 24 * 60 * 60

/-- What the deletion takes from outside: digests, the JSON of exports, the time and fresh identifiers. -/
structure DeletionHost where
  fingerprint : DeleteCampaignCommand → String
  digest : String → String
  /-- The `exported_at` of a stored canonical export, when it parses. -/
  exportedAt : String → Option String
  /-- The canonical digest of an export that validates. -/
  exportDigest : String → String → CampaignDocument → List (String × List Document) →
    Except RepositoryError String
  now : Int
  receiptId : String
  tombstoneId : String

/-! ## The steps of the deletion -/

/-- The receipt that a retry of the command finds. -/
def lifecycleReceiptFilter (ownerKey campaignId idempotencyKey : String) : Filter :=
  .allOf [("scope_kind", .equals (.string "campaign")), ("scope_id", .equals (.string campaignId)),
    ("actor_account_id", .equals (.string ownerKey)), ("idempotency_key", .equals (.string idempotencyKey)),
    ("state", .equals (.string "committed"))]

def decodeLifecycleReplay (receipt : LifecycleReceiptDocument) (commandKind fingerprint : String) :
    Except RepositoryError CampaignLifecycleOutcome := do
  rejectIf (receipt.commandKind ≠ commandKind ∨ receipt.requestFingerprint ≠ fingerprint)
    (.alreadyExists "campaign lifecycle idempotency key" receipt.idempotencyKey)
  okOr (CampaignLifecycleOutcome.decode receipt.response) (.bsonDecoding "campaign lifecycle outcome")

def loadLifecycleReplay (db : Database) (ownerKey campaignId idempotencyKey commandKind fingerprint : String) :
    Except RepositoryError (Option CampaignLifecycleOutcome) :=
  match findOne (lifecycleReceiptFilter ownerKey campaignId idempotencyKey) (db.docs .commandReceipts) with
  | none => .ok none
  | some d => do
    let receipt ← okOr (LifecycleReceiptDocument.decode d) (.bsonDecoding "load lifecycle receipt")
    let outcome ← decodeLifecycleReplay receipt commandKind fingerprint
    return some outcome

def loadOwnedGmCampaign (db : Database) (ownerKey campaignId : String) :
    Except RepositoryError CampaignDocument :=
  okOr (db.campaigns.find? fun campaign => campaign.id == campaignId &&
      campaign.ownerAccountId == ownerKey && campaign.members.any fun member =>
        member.accountId == ownerKey && member.role == "game_master" && member.state == "active")
    (.notFound "campaign_session" campaignId)

def requireNoOpenCampaignRuntime (db : Database) (campaignId : String) : Except RepositoryError Unit := do
  rejectIf ((findOne (.both (campaignFilter campaignId)
      (.field "state" (.oneOf [.string "waiting", .string "active"]))) (db.docs .playSessions)).isSome = true)
    (.alreadyExists "campaign_play_session" campaignId)
  rejectIf ((findOne (.both (campaignFilter campaignId) (.field "status" (.equals (.string "active"))))
      (db.docs .encounters)).isSome = true) (.alreadyExists "campaign_encounter" campaignId)

/-- The identifiers of the campaign's generation jobs, as far as they are strings. -/
def generationJobIds (db : Database) (campaignId : String) : List String :=
  (findDocs (campaignFilter campaignId) (db.docs .generationJobs)).filterMap (·.getStr "_id")

def requireExternalCleanupComplete (db : Database) (campaignId : String) : Except RepositoryError Unit := do
  rejectIf ((findOne (.both (campaignFilter campaignId) (.both (.field "object_key" .isString)
      (.field "state" (.noneOf [.string "erased", .string "deleted"])))) (db.docs .generatedAssets)).isSome =
        true) (.alreadyExists "campaign_external_asset_cleanup" campaignId)
  let jobIds := generationJobIds db campaignId
  rejectIf (jobIds ≠ [] ∧ (findOne (.both (.field "job_id" (.oneOf (jobIds.map .string)))
      (.either (.field "object_key" .isString) (.field "storage_key" .isString)))
        (db.docs .quarantinedAssets)).isSome = true)
    (.alreadyExists "campaign_external_asset_cleanup" campaignId)

def deletionPreparationFilter (command : DeleteCampaignCommand) (ownerKey campaignId : String) (now : Int) :
    Filter :=
  .allOf [("deletion_id", .equals (.string command.deletionId)),
    ("owner_account_id", .equals (.string ownerKey)), ("scope_kind", .equals (.string "campaign")),
    ("scope_id", .equals (.string campaignId)), ("expires_at", .greaterThan now)]

/-- The collections that are swept by the campaign's id alone. -/
def cascadedCollections : List CollectionName :=
  [.campaignInvitations, .campaignCharacterInstances, .campaignEnemyInstances, .campaignEvents,
    .playSessions, .encounters, .turnEvents, .bdeLedger, .generationJobs, .generatedPresentations,
    .generatedAssets, .privateInspirationParticipants, .privateInspirationSources,
    .privateInspirationConsents, .privateInspirationVetoes, .privateInspirationSelections,
    .privateInspirationWork]

/-- What `cascade_campaign_documents` deletes, in its order. -/
def cascadeSpecs (campaignId retainedReceiptKey : String) (jobIds : List String) :
    List (CollectionName × Filter) :=
  (if jobIds = [] then []
    else [(.quarantinedAssets, .field "job_id" (.oneOf (jobIds.map .string)))]) ++
  cascadedCollections.map (fun collection => (collection, campaignFilter campaignId)) ++
  [(.generationBudgetReservations, .either (campaignScopeFilter campaignId)
      (.field "job_id" (.oneOf (jobIds.map .string)))),
    (.deletionPreparations, campaignScopeFilter campaignId),
    (.auditEvents, .either (campaignFilter campaignId) (campaignScopeFilter campaignId)),
    (.commandReceipts, .both (campaignScopeFilter campaignId)
      (.both (.field "idempotency_key" (.notEquals (.string retainedReceiptKey)))
        (.field "retain_after_delete" (.notEquals (.boolean true)))))]

def cascadeCampaignDocuments (db : Database) (campaignId retainedReceiptKey : String) : Database :=
  let jobIds := generationJobIds db campaignId
  { db with docs := sweep db.docs (cascadeSpecs campaignId retainedReceiptKey jobIds) }

def Database.insert (db : Database) (collection : CollectionName) (d : Document) : Database :=
  { db with docs := Function.update db.docs collection (db.docs collection ++ [d]) }

def deletionReceipt (host : DeletionHost) (ownerKey : String) (command : DeleteCampaignCommand)
    (outcome : CampaignLifecycleOutcome) : LifecycleReceiptDocument where
  id := "command-receipt:" ++ host.receiptId
  schemaVersion := 1
  scopeKind := "campaign"
  scopeId := command.lifecycle.campaignSessionId
  campaignId := command.lifecycle.campaignSessionId
  actorAccountId := ownerKey
  commandKind := "campaign_delete"
  idempotencyKey := command.lifecycle.idempotencyKey
  requestFingerprint := host.fingerprint command
  expectedRevision := command.lifecycle.expectedLifecycleRevision
  resultRevision := outcome.lifecycleRevision
  response := outcome.document
  state := "committed"
  retainAfterDelete := true
  createdAt := host.now
  purgeAt := none

def deletionTombstone (host : DeletionHost) (ownerKey : String) (command : DeleteCampaignCommand)
    (digest : String) (campaignId : String) (resultRevision : Int) : Document :=
  [("_id", .string ("deletion-tombstone:" ++ host.tombstoneId)), ("schema_version", .integer 1),
    ("entity_kind", .string "campaign"), ("entity_id", .string campaignId),
    ("deletion_id", .string command.deletionId), ("digest", .string digest),
    ("owner_account_id", .string ownerKey), ("deleted_lifecycle_revision", .integer resultRevision),
    ("deleted_at", .dateTime host.now),
    ("purge_at", .dateTime (host.now + deletionTombstoneSeconds * 1000))]

/-- The transaction of a deletion that is not a replay. -/
def deleteCampaignTransaction (host : DeletionHost) (db : Database) (ownerKey : String)
    (command : DeleteCampaignCommand) : Except RepositoryError (CampaignLifecycleOutcome × Database) := do
  let campaign ← loadOwnedGmCampaign db ownerKey command.lifecycle.campaignSessionId
  rejectIf (campaign.lifecycleRevision.toNat ≠ command.lifecycle.expectedLifecycleRevision)
    (.revisionConflict "campaign_lifecycle" campaign.id command.lifecycle.expectedLifecycleRevision
      campaign.lifecycleRevision.toNat)
  rejectIf (campaign.lifecycleState ≠ "archived" ∨ campaign.currentPlaySessionId.isSome = true)
    (.alreadyExists "campaign_deletion" campaign.id)
  requireNoOpenCampaignRuntime db campaign.id
  let found ← okOr (findOne (deletionPreparationFilter command ownerKey campaign.id host.now)
    (db.docs .deletionPreparations)) (.notFound "campaign_deletion_preparation" command.deletionId)
  let preparation ← okOr (DeletionPreparationDocument.decode found)
    (.bsonDecoding "load campaign deletion preparation")
  rejectIf (preparation.campaignRevision ≠ campaign.revision ∨
      preparation.lifecycleRevision ≠ campaign.lifecycleRevision ∨
      host.digest preparation.canonicalExportJson ≠ preparation.digest)
    (.revisionConflict "campaign_deletion_preparation" command.deletionId
      preparation.lifecycleRevision.toNat campaign.lifecycleRevision.toNat)
  requireExternalCleanupComplete db campaign.id
  let exportedAt ← okOr (host.exportedAt preparation.canonicalExportJson)
    (.persistence "stored canonical campaign export is invalid")
  let currentDigest ← host.exportDigest ownerKey exportedAt campaign (loadExportDocuments db campaign.id)
  rejectIf (currentDigest ≠ preparation.digest)
    (.alreadyExists "stale_campaign_deletion_preparation" command.deletionId)
  rejectIf (¬ (campaign.lifecycleRevision + 1 ≤ i64Max ∧ 0 < campaign.lifecycleRevision + 1))
    (.persistence "lifecycle revision overflowed")
  let resultRevision := campaign.lifecycleRevision + 1
  let outcome : CampaignLifecycleOutcome := {
    schemaVersion := campaignLifecycleSchemaVersion, campaignSessionId := campaign.id
    lifecycleRevision := resultRevision.toNat, lifecycleState := none, playSessionId := none
    deleted := true }
  rejectIf (i64Max < command.lifecycle.expectedLifecycleRevision) (.persistence "lifecycle revision")
  let db := db.insert .commandReceipts (deletionReceipt host ownerKey command outcome).document
  let db := db.insert .deletionTombstones
    (deletionTombstone host ownerKey command preparation.digest campaign.id resultRevision)
  let db := cascadeCampaignDocuments db campaign.id command.lifecycle.idempotencyKey
  -- The root is deleted by id, owner, revision and state; identifiers are unique.
  return (outcome, { db with campaigns := db.campaigns.filter fun root => root.id != campaign.id })

/-- `delete_archived_campaign`. The replay is looked up once more inside the transaction; on one state of the
    store both lookups agree. -/
def deleteArchivedCampaign (host : DeletionHost) (db : Database) (ownerKey : String)
    (command : DeleteCampaignCommand) : Except RepositoryError (CampaignLifecycleOutcome × Database) := do
  rejectIf (isValidOpaqueId ownerKey = false)
    (.invalidDomainState "campaign owner" ownerKey "owner account identifier is invalid")
  command.lifecycle.validate
  rejectIf (command.confirmPermanentDelete = false ∨ isValidOpaqueId command.deletionId = false)
    (.invalidDomainState "campaign deletion" command.deletionId
      "explicit confirmation and a valid deletion id are required")
  let replay ← loadLifecycleReplay db ownerKey command.lifecycle.campaignSessionId
    command.lifecycle.idempotencyKey "campaign_delete" (host.fingerprint command)
  match replay with
  | some outcome => return (outcome, db)
  | none => deleteCampaignTransaction host db ownerKey command

end ManchesterArcana.Repository
