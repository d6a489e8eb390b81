import ManchesterArcana.Repository.TurnHistory

/-!
# `Repository.Collections` — the collections of the store and what a campaign exports of them

The campaign root is read and written only through its struct, so it is kept as one; every other collection
is a list of documents.
-/

namespace ManchesterArcana.Repository

open Store

/-- The collections that the lifecycle of a campaign reads or writes. -/
inductive CollectionName where
  | campaignInvitations
  | campaignCharacterInstances
  | campaignEnemyInstances
  | campaignEvents
  | playSessions
  | encounters
  | turnEvents
  | commandReceipts
  | auditEvents
  | bdeLedger
  | generationJobs
  | generationBudgetReservations
  | generatedPresentations
  | generatedAssets
  | quarantinedAssets
  | privateInspirationParticipants
  | privateInspirationSources
  | privateInspirationConsents
  | privateInspirationVetoes
  | privateInspirationSelections
  | privateInspirationWork
  | deletionPreparations
  | deletionTombstones
  deriving DecidableEq, Repr

/-- The root document of a campaign; what the deletion does not look into is its `content`. -/
structure CampaignDocument where
  id : String
  revision : Int
  lifecycleRevision : Int
  ownerAccountId : String
  lifecycleState : String
  members : List CampaignMember
  currentPlaySessionId : Option String
  content : Document

structure Database where
  campaigns : List CampaignDocument
  docs : CollectionName → List Document

/-- `{ "campaign_id": campaign_id }` -/
def campaignFilter (campaignId : String) : Filter := .field "campaign_id" (.equals (.string campaignId))

/-- `{ "scope_kind": "campaign", "scope_id": campaign_id }` -/
def campaignScopeFilter (campaignId : String) : Filter :=
  .both (.field "scope_kind" (.equals (.string "campaign")))
    (.field "scope_id" (.equals (.string campaignId)))

structure ExportSpec where
  key : String
  collection : CollectionName
  filter : Filter
  sort : List String

/-- `export_collection_specs` -/
def exportCollectionSpecs (campaignId : String) : List ExportSpec :=
  let ofCampaign : Filter := campaignFilter campaignId
  [⟨"character_instances", .campaignCharacterInstances, ofCampaign, ["_id"]⟩,
    ⟨"play_sessions", .playSessions, ofCampaign, ["opened_at", "_id"]⟩,
    ⟨"turn_events", .turnEvents, ofCampaign, ["sequence", "_id"]⟩,
    ⟨"command_receipts", .commandReceipts,
      .both (.field "state" (.equals (.string "committed")))
        (.either ofCampaign (campaignScopeFilter campaignId)), ["created_at", "_id"]⟩,
    ⟨"audit_events", .auditEvents, .either ofCampaign (campaignScopeFilter campaignId), ["created_at", "_id"]⟩,
    ⟨"campaign_enemy_instances", .campaignEnemyInstances, ofCampaign, ["_id"]⟩,
    ⟨"campaign_events", .campaignEvents, ofCampaign, ["_id"]⟩,
    ⟨"encounters", .encounters, ofCampaign, ["_id"]⟩,
    ⟨"bde_ledger", .bdeLedger, ofCampaign, ["created_at", "_id"]⟩,
    ⟨"private_inspiration_participants", .privateInspirationParticipants, ofCampaign, ["_id"]⟩,
    ⟨"private_inspiration_sources", .privateInspirationSources, ofCampaign, ["_id"]⟩,
    ⟨"private_inspiration_consents", .privateInspirationConsents, ofCampaign, ["_id"]⟩,
    ⟨"private_inspiration_vetoes", .privateInspirationVetoes, ofCampaign, ["_id"]⟩,
    ⟨"private_inspiration_selections", .privateInspirationSelections, ofCampaign, ["_id"]⟩,
    ⟨"private_inspiration_work", .privateInspirationWork, ofCampaign, ["_id"]⟩,
    ⟨"selected_generated_presentations", .generatedPresentations,
      .both ofCampaign (.field "selected" (.equals (.boolean true))), ["created_at", "_id"]⟩,
    ⟨"selected_generated_assets", .generatedAssets,
      .both ofCampaign (.field "state" (.oneOf [.string "published", .string "selected", .string "ready"])),
      ["created_at", "_id"]⟩]

/-- The order of a sort on several fields: earlier fields decide first, missing fields come first. -/
def sortOrder (keys : List String) (a b : Document) : Bool :=
  match keys with
  | [] => true
  | key :: rest =>
    let rank (d : Document) : Int := (d.getDateTime key).getD ((d.getInt key).getD 0)
    let text (d : Document) : String := (d.getStr key).getD ""
    decide (rank a < rank b) || (rank a == rank b && decide (text a < text b)) ||
      (rank a == rank b && text a == text b && sortOrder rest a b)

/-- `load_export_documents` -/
def loadExportDocuments (db : Database) (campaignId : String) : List (String × List Document) :=
  (exportCollectionSpecs campaignId).map fun spec =>
    (spec.key, (findDocs spec.filter (db.docs spec.collection)).mergeSort (sortOrder spec.sort))

end ManchesterArcana.Repository
