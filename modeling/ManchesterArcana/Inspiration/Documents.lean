import ManchesterArcana.Effect.Guard
import ManchesterArcana.Store.Snapshot
import ManchesterArcana.Store.Update

/-!
# `Inspiration.Documents` — what is stored of private inspiration, and how it is written

Participants are verified, sources are registered in versions and reviewed, consents are granted to a campaign and
vetoes withdraw a part of it. A selection draws a source for a turn, and derived work is registered for a selection.

A transaction writes by a few operations on documents of known ids (`Write`). `Write.keys` says which documents
these are, and `applyAll_framed` that nothing else changes.
-/

namespace ManchesterArcana.Inspiration

open Effect Store
open List (mem_cons_self)

/-! ## Documents -/

inductive InspirationAudience where
  | privateCampaign
  deriving DecidableEq, Repr

inductive InspirationMedia where
  | text
  | image
  | recap
  deriving DecidableEq, Repr

inductive InspirationTransformation where
  | highFictionDistanceV1
  deriving DecidableEq, Repr

inductive SourceReviewState where
  | pending
  | approved
  | rejected
  | quarantined
  deriving DecidableEq, Repr

inductive DerivedArtifactPolicy where
  | deleteDerived
  | redactDerived
  | retainMinimalAudit
  deriving DecidableEq, Repr

def artifactPolicyRank : DerivedArtifactPolicy → Nat
  | .deleteDerived => 3
  | .redactDerived => 2
  | .retainMinimalAudit => 1

inductive ConsentGrantState where
  | active
  | expired
  | revoked
  deriving DecidableEq, Repr

inductive InspirationVetoScope where
  | campaign
  | category (categoryId : String)
  | sourceVersion (sourceId : String) (sourceVersion : Nat) (sourceDigest : String)
  deriving DecidableEq, Repr

structure GlobalInspirationControl where
  revision : Nat
  generationDisabled : Bool
  deriving DecidableEq, Repr

def defaultGlobalControl : GlobalInspirationControl := ⟨1, false⟩

structure CampaignSafetyDocument where
  revision : Nat
  enabled : Bool
  generationPaused : Bool
  safetySetupComplete : Bool
  rngCursor : Nat
  allowedSensitivities : List String
  lines : List String
  veils : List String
  excludedTopics : List String
  excludedParticipantIds : List String
  deriving DecidableEq, Repr

/-- The part of a campaign document that inspiration looks at. Its revision is one more than the last sequence. -/
structure InspirationCampaignDocument where
  id : String
  themeId : String
  sessionActive : Bool
  lastEventSequence : Nat
  safety : Option CampaignSafetyDocument
  deriving DecidableEq, Repr

def InspirationCampaignDocument.revision (c : InspirationCampaignDocument) : Nat := c.lastEventSequence + 1

inductive EncounterStatus where
  | active
  | victory
  | defeat
  deriving DecidableEq, Repr

/-- What kind of event it is, with what is looked at of it. -/
inductive SessionEventPayload where
  | sessionStarted
  | playerIntent
  | diceResolved
  | abilityCheckResolved
  | explorationSocialResolved
  | gmNarration
  | experienceAwarded
  | aiProposalAccepted
  | aiProposalRejected
  | encounterResolved (status : EncounterStatus) (storyRecoveryApplied : Bool)
  | sessionEnded
  deriving DecidableEq, Repr

/-- A turn is a window for inspiration after these events. -/
def SessionEventPayload.isSafe : SessionEventPayload → Bool
  | .abilityCheckResolved | .explorationSocialResolved | .gmNarration | .experienceAwarded | .aiProposalAccepted
  | .aiProposalRejected => true
  | .encounterResolved .victory _ => true
  | .encounterResolved .defeat storyRecoveryApplied => storyRecoveryApplied
  | .encounterResolved .active _ => false
  | .sessionStarted | .playerIntent | .diceResolved | .sessionEnded => false

structure TurnEventDocument where
  campaignId : String
  sequence : Nat
  payload : SessionEventPayload
  deriving DecidableEq, Repr

/-- A character instance of a campaign. -/
structure PartyCharacter where
  campaignId : String
  isActive : Bool
  level : Nat
  deriving DecidableEq, Repr

structure ParticipantDocument where
  id : String
  isVerified : Bool
  deriving DecidableEq, Repr

structure RuntimeEventPrompt where
  selectionWeightNanounits : Nat
  minimumLevel : Nat
  maximumLevel : Option Nat
  cooldownTurns : Nat
  enabled : Bool
  neutralFacts : List String
  deriving DecidableEq, Repr

/-- A version of a source. Registration asks for its participants, so there are some. -/
structure SourceDocument where
  logicalId : String
  revision : Nat
  sourceDigest : String
  categoryId : String
  reviewState : SourceReviewState
  q11Screened : Bool
  participants : List String
  participants_ne_nil : participants ≠ []
  sensitivities : List String
  media : List InspirationMedia
  themes : List String
  expiresAtEpoch : Option Nat
  runtimeProjection : RuntimeEventPrompt
  deriving DecidableEq, Repr

structure ConsentDocument where
  id : String
  campaignId : String
  sourceId : String
  sourceRevision : Nat
  sourceDigest : String
  participantId : String
  version : Nat
  audience : InspirationAudience
  media : InspirationMedia
  transformation : InspirationTransformation
  artifactPolicy : DerivedArtifactPolicy
  sensitivities : List String
  state : ConsentGrantState
  expiresAtEpoch : Nat
  deriving DecidableEq, Repr

/-- A veto stays active. -/
structure VetoDocument where
  id : String
  campaignId : String
  actorParticipantId : String
  scope : InspirationVetoScope
  deriving DecidableEq, Repr

inductive DurableNoSelectionReason where
  | deploymentDisabled
  | globalKillSwitch
  | campaignDisabled
  | campaignPaused
  | safetyIncomplete
  | noEligibleSources
  deriving DecidableEq, Repr

/-- What a selection selected: all of it is there or none. -/
structure SourceBinding where
  sourceId : String
  sourceVersion : Nat
  sourceDigest : String
  nextEligibleTurn : Nat
  deriving DecidableEq, Repr

structure SelectionDocument where
  id : String
  campaignId : String
  idempotencyKey : String
  requestFingerprint : String
  campaignRevision : Nat
  settingsRevision : Nat
  turnNumber : Nat
  audience : InspirationAudience
  media : InspirationMedia
  eligibleSources : List String
  selected : Option SourceBinding
  noSelectionReason : Option DurableNoSelectionReason
  sampleNumerator : Option Nat
  cursorBefore : Nat
  cursorAfter : Nat
  deriving DecidableEq, Repr

/-- A work has an artifact as long as it is completed or redacted. -/
inductive WorkState where
  | pending
  | cancellationRequested
  | completed (artifactId : String)
  | redacted (artifactId : String)
  | deleted
  deriving DecidableEq, Repr

def WorkState.completedArtifactId : WorkState → Option String
  | .completed artifactId | .redacted artifactId => some artifactId
  | .pending | .cancellationRequested | .deleted => none

structure WorkDocument where
  id : String
  campaignId : String
  /-- The unique storage binding: the selection for its first work, the work itself for any other. -/
  selectionId : String
  sourceSelectionId : String
  sourceId : String
  sourceRevision : Nat
  sourceDigest : String
  workKind : InspirationMedia
  state : WorkState
  artifactPolicy : DerivedArtifactPolicy
  deriving DecidableEq, Repr

structure PresentationDocument where
  id : String
  campaignId : String
  privateInspirationWorkId : Option String
  body : String
  isRedacted : Bool
  deriving DecidableEq, Repr

/-- A participant that was deleted cannot be verified again while this is kept. -/
structure TombstoneDocument where
  id : String
  participantId : String
  deleteAfterEpoch : Nat
  deriving DecidableEq, Repr

/-! ## Receipts -/

inductive PrivateInspirationError where
  | idempotencyConflict
  | revisionConflict (expected current : Nat)
  | scopeDenied
  | notFound
  | deploymentDisabled
  | invalid (code : String)
  deriving DecidableEq, Repr

inductive PresentationPrivacyAction where
  | veil
  | vetoSource
  | vetoCategory
  | report
  deriving DecidableEq, Repr

structure ParticipantDeletionOutcome where
  participantId : String
  revokedGrantCount : Nat
  quarantinedSourceCount : Nat
  pendingWorkCancellationIds : List String
  affectedCompletedArtifactCount : Nat
  effectiveAtEpoch : Nat
  tombstoneDeleteAfterEpoch : Nat
  deriving DecidableEq, Repr

inductive InspirationResponse where
  | control (control : GlobalInspirationControl)
  | settings (safety : CampaignSafetyDocument)
  | participant (participant : ParticipantDocument)
  | source (sourceId : String) (sourceVersion : Nat) (reviewState : SourceReviewState)
  | consent (consent : ConsentDocument)
  | transition (subjectId : String) (pendingWorkCancellationIds : List String)
  | selection (selection : SelectionDocument)
  | work (work : WorkDocument)
  | turn (sequence : Nat)
  | presentation (presentationId : String) (action : PresentationPrivacyAction) (settingsRevision : Option Nat)
  | deletion (outcome : ParticipantDeletionOutcome)
  deriving DecidableEq, Repr

/-- A receipt is kept for a campaign, or globally. -/
structure ReceiptDocument where
  scopeId : Option String
  idempotencyKey : String
  commandKind : String
  requestFingerprint : String
  response : InspirationResponse
  deriving DecidableEq, Repr

structure InspirationStore where
  control : Option GlobalInspirationControl
  campaigns : List InspirationCampaignDocument
  turnEvents : List TurnEventDocument
  party : List PartyCharacter
  participants : List ParticipantDocument
  sources : List SourceDocument
  consents : List ConsentDocument
  vetoes : List VetoDocument
  selections : List SelectionDocument
  work : List WorkDocument
  presentations : List PresentationDocument
  receipts : List ReceiptDocument
  tombstones : List TombstoneDocument

/-- Nothing of inspiration yet. -/
def InspirationStore.new (campaigns : List InspirationCampaignDocument) (party : List PartyCharacter) :
    InspirationStore :=
  { control := none, campaigns, turnEvents := [], party, participants := [], sources := [], consents := [],
    vetoes := [], selections := [], work := [], presentations := [], receipts := [], tombstones := [] }

/-! ## Writes -/

def privateInspirationRedactionBody : String := 
  "Private inspiration removed at a participant request. The committed game mechanics are unchanged."

inductive InspirationKey where
  | control
  | campaign (id : String)
  | turnEvent (campaignId : String) (sequence : Nat)
  | participant (id : String)
  | source (logicalId : String) (revision : Nat)
  | consent (id : String)
  /-- The unique index on the versions of a participant's consents. -/
  | consentVersion (campaignId sourceId participantId : String) (version : Nat)
  | veto (id : String)
  | selection (id : String)
  | selectionKey (campaignId idempotencyKey : String)
  | work (id : String)
  | workSelection (selectionId : String)
  | presentation (id : String)
  | receipt (scopeId : Option String) (idempotencyKey : String)
  | tombstone (id : String)
  deriving DecidableEq, Repr

/-- The consent is the one of this version. -/
def ConsentDocument.IsVersion (c : ConsentDocument) (campaignId sourceId participantId : String) (version : Nat) :
    Prop :=
  c.campaignId = campaignId ∧ c.sourceId = sourceId ∧ c.participantId = participantId ∧ c.version = version

/-- The stores have the same documents under a key; of an index, the same entries. -/
def InspirationStore.agree : InspirationKey → InspirationStore → InspirationStore → Prop
  | .control, s, s' => s.control = s'.control
  | .campaign id, s, s' => ∀ x : InspirationCampaignDocument, x.id = id → (x ∈ s.campaigns ↔ x ∈ s'.campaigns)
  | .turnEvent campaignId sequence, s, s' => ∀ x : TurnEventDocument, x.campaignId = campaignId ∧
      x.sequence = sequence → (x ∈ s.turnEvents ↔ x ∈ s'.turnEvents)
  | .participant id, s, s' => ∀ x : ParticipantDocument, x.id = id → (x ∈ s.participants ↔ x ∈ s'.participants)
  | .source logicalId revision, s, s' => ∀ x : SourceDocument, x.logicalId = logicalId ∧ x.revision = revision →
      (x ∈ s.sources ↔ x ∈ s'.sources)
  | .consent id, s, s' => ∀ x : ConsentDocument, x.id = id → (x ∈ s.consents ↔ x ∈ s'.consents)
  | .consentVersion campaignId sourceId participantId version, s, s' =>
      (∃ c ∈ s.consents, c.IsVersion campaignId sourceId participantId version) ↔
        ∃ c ∈ s'.consents, c.IsVersion campaignId sourceId participantId version
  | .veto id, s, s' => ∀ x : VetoDocument, x.id = id → (x ∈ s.vetoes ↔ x ∈ s'.vetoes)
  | .selection id, s, s' => ∀ x : SelectionDocument, x.id = id → (x ∈ s.selections ↔ x ∈ s'.selections)
  | .work id, s, s' => ∀ x : WorkDocument, x.id = id → (x ∈ s.work ↔ x ∈ s'.work)
  | .presentation id, s, s' => ∀ x : PresentationDocument, x.id = id → (x ∈ s.presentations ↔ x ∈ s'.presentations)
  | .receipt scopeId key, s, s' => ∀ x : ReceiptDocument, x.scopeId = scopeId ∧ x.idempotencyKey = key →
      (x ∈ s.receipts ↔ x ∈ s'.receipts)
  | .selectionKey campaignId key, s, s' =>
      (∃ x ∈ s.selections, x.campaignId = campaignId ∧ x.idempotencyKey = key) ↔
        ∃ x ∈ s'.selections, x.campaignId = campaignId ∧ x.idempotencyKey = key
  | .tombstone id, s, s' => ∀ x : TombstoneDocument, x.id = id → (x ∈ s.tombstones ↔ x ∈ s'.tombstones)
  | .workSelection _, _, _ => True

/-- An operation on documents, in a transaction. -/
inductive Write where
  | control (control : GlobalInspirationControl)
  | safety (campaignId : String) (safety : CampaignSafetyDocument)
  | rngCursor (campaignId : String) (cursor : Nat)
  | turn (campaignId : String) (sessionActive : Bool) (event : TurnEventDocument)
  | participant (participant : ParticipantDocument)
  | insertSource (source : SourceDocument)
  | review (logicalId : String) (revision : Nat) (state : SourceReviewState) (q11Screened : Bool)
  | insertConsent (consent : ConsentDocument)
  | consentState (ids : List String) (state : ConsentGrantState)
  | insertVeto (veto : VetoDocument)
  | insertSelection (selection : SelectionDocument)
  | insertWork (work : WorkDocument)
  | cancelWork (ids : List String)
  | workState (id : String) (state : WorkState)
  | redactPresentation (id : String)
  | deletePresentation (id : String)
  | insertReceipt (receipt : ReceiptDocument)
  | insertTombstone (tombstone : TombstoneDocument)
  | deleteTombstones (ids : List String)

namespace Write

def keys : Write → List InspirationKey
  | .control _ => [.control]
  | .safety campaignId _ | .rngCursor campaignId _ => [.campaign campaignId]
  | .turn campaignId _ event => [.campaign campaignId, .turnEvent event.campaignId event.sequence]
  | .participant p => [.participant p.id]
  | .insertSource d => [.source d.logicalId d.revision]
  | .review logicalId revision _ _ => [.source logicalId revision]
  | .insertConsent c => [.consent c.id, .consentVersion c.campaignId c.sourceId c.participantId c.version]
  | .consentState ids _ => ids.map .consent
  | .insertVeto v => [.veto v.id]
  | .insertSelection x => [.selection x.id, .selectionKey x.campaignId x.idempotencyKey]
  | .insertWork w => [.work w.id, .workSelection w.selectionId]
  | .cancelWork ids => ids.map .work
  | .workState id _ => [.work id]
  | .redactPresentation id | .deletePresentation id => [.presentation id]
  | .insertReceipt r => [.receipt r.scopeId r.idempotencyKey]
  | .insertTombstone t => [.tombstone t.id]
  | .deleteTombstones ids => ids.map .tombstone

def apply : Write → InspirationStore → InspirationStore
  | .control c, s => { s with control := some c }
  | .safety campaignId settings, s => { s with
      campaigns := updateById (·.id) campaignId (fun c => { c with safety := some settings }) s.campaigns }
  | .rngCursor campaignId cursor, s => { s with
      campaigns := updateById (·.id) campaignId
        (fun c => { c with safety := c.safety.map fun x => { x with rngCursor := cursor } }) s.campaigns }
  | .turn campaignId sessionActive event, s => { s with
      campaigns := updateById (·.id) campaignId
        (fun c => { c with sessionActive, lastEventSequence := event.sequence }) s.campaigns
      turnEvents := s.turnEvents ++ [event] }
  | .participant p, s => { s with participants := s.participants.filter (·.id ≠ p.id) ++ [p] }
  | .insertSource d, s => { s with sources := s.sources ++ [d] }
  | .review logicalId revision state q11Screened, s => { s with
      sources := updateWhere (fun d => d.logicalId = logicalId ∧ d.revision = revision)
        (fun d => { d with reviewState := state, q11Screened }) s.sources }
  | .insertConsent c, s => { s with consents := s.consents ++ [c] }
  | .consentState ids state, s => { s with
      consents := updateWhere (fun c => ids.contains c.id) (fun c => { c with state }) s.consents }
  | .insertVeto v, s => { s with vetoes := s.vetoes ++ [v] }
  | .insertSelection x, s => { s with selections := s.selections ++ [x] }
  | .insertWork w, s => { s with work := s.work ++ [w] }
  | .cancelWork ids, s => { s with
      work := updateWhere (fun w => ids.contains w.id) (fun w => { w with state := .cancellationRequested }) s.work }
  | .workState id state, s => { s with work := updateById (·.id) id (fun w => { w with state }) s.work }
  | .redactPresentation id, s => { s with
      presentations := updateById (·.id) id
        (fun p => { p with body := privateInspirationRedactionBody, isRedacted := true }) s.presentations }
  | .deletePresentation id, s => { s with presentations := s.presentations.filter (·.id ≠ id) }
  | .insertReceipt r, s => { s with receipts := s.receipts ++ [r] }
  | .insertTombstone t, s => { s with tombstones := s.tombstones ++ [t] }
  | .deleteTombstones ids, s => { s with tombstones := s.tombstones.filter fun t => !ids.contains t.id }

end Write

/-- The writes of a transaction, in order. -/
def applyAll (writes : List Write) (s : InspirationStore) : InspirationStore := writes.foldl (fun s w => w.apply s) s

abbrev InspirationDecision := Decision InspirationStore InspirationKey (Except PrivateInspirationError InspirationResponse)

/-- What a transaction has decided that makes these writes. An error that is an answer does not undo them. -/
def decided (writes : List Write) (answer : Except PrivateInspirationError InspirationResponse) :
    InspirationDecision where
  writes := writes.flatMap Write.keys
  apply := applyAll writes
  answer := answer

/-! ## Frames -/

theorem applyAll_cons (w : Write) (writes : List Write) (s : InspirationStore) :
    applyAll (w :: writes) s = applyAll writes (w.apply s) := rfl

theorem applyAll_append (writes writes' : List Write) (s : InspirationStore) :
    applyAll (writes ++ writes') s = applyAll writes' (applyAll writes s) := List.foldl_append

namespace InspirationStore

theorem agree_refl (k : InspirationKey) (s : InspirationStore) : agree k s s := by
  cases k <;> simp [agree]

theorem agree_trans (k : InspirationKey) {s s' s'' : InspirationStore} (h : agree k s s') (h' : agree k s' s'') :
    agree k s s'' := by
  cases k
  case control => exact Eq.trans h h'
  case consentVersion => exact Iff.trans h h'
  case selectionKey => exact Iff.trans h h'
  case workSelection => trivial
  all_goals exact fun x hx => (h x hx).trans (h' x hx)

end InspirationStore

/-- **A write changes its documents only.** -/
theorem Write.framed {w : Write} {k : InspirationKey} (hk : k ∉ w.keys) (s : InspirationStore) :
    InspirationStore.agree k s (w.apply s) := by
  cases w
  case control c =>
    cases k
    case control => exact absurd mem_cons_self hk
    all_goals simp [InspirationStore.agree, Write.apply]
  case safety campaignId safety =>
    cases k
    case campaign id =>
      rintro x rfl
      exact mem_updateById_of_unwritten hk mem_cons_self fun _ => by rfl
    all_goals simp [InspirationStore.agree, Write.apply]
  case rngCursor campaignId cursor =>
    cases k
    case campaign id =>
      rintro x rfl
      exact mem_updateById_of_unwritten hk mem_cons_self fun _ => by rfl
    all_goals simp [InspirationStore.agree, Write.apply]
  case turn campaignId active event =>
    cases k
    case campaign id =>
      rintro x rfl
      exact mem_updateById_of_unwritten hk mem_cons_self fun _ => by rfl
    case turnEvent id sequence =>
      rintro x ⟨rfl, rfl⟩
      refine (mem_append_of_ne ?_).symm
      rintro rfl
      exact hk (List.mem_cons_of_mem _ mem_cons_self)
    all_goals simp [InspirationStore.agree, Write.apply]
  case participant p =>
    cases k
    case participant id =>
      rintro x rfl
      have hne : x.id ≠ p.id := fun heq => hk (by rw [heq]; exact mem_cons_self)
      have hp : x ≠ p := fun heq => hne (congrArg _ heq)
      show x ∈ s.participants ↔ x ∈ s.participants.filter (·.id ≠ p.id) ++ [p]
      rw [mem_append_of_ne hp, List.mem_filter]
      exact ⟨fun h => ⟨h, decide_eq_true hne⟩, fun h => h.1⟩
    all_goals simp [InspirationStore.agree, Write.apply]
  case insertSource d =>
    cases k
    case source id revision =>
      rintro x ⟨rfl, rfl⟩
      refine (mem_append_of_ne ?_).symm
      rintro rfl
      exact hk mem_cons_self
    all_goals simp [InspirationStore.agree, Write.apply]
  case review logicalId revision state q11 =>
    cases k
    case source id revision' =>
      rintro x ⟨rfl, rfl⟩
      have hnot : ¬ (x.logicalId = logicalId ∧ x.revision = revision) := by
        rintro ⟨rfl, rfl⟩
        exact hk mem_cons_self
      show x ∈ s.sources ↔ x ∈ updateWhere _ _ s.sources
      rw [mem_updateWhere]
      constructor
      · exact fun h => .inr ⟨h, decide_eq_false hnot⟩
      · rintro (⟨y, -, hy, rfl⟩ | ⟨h, -⟩)
        · exact absurd (of_decide_eq_true hy) hnot
        · exact h
    all_goals simp [InspirationStore.agree, Write.apply]
  case insertConsent c =>
    cases k
    case consent id =>
      rintro x rfl
      refine (mem_append_of_ne ?_).symm
      rintro rfl
      exact hk mem_cons_self
    case consentVersion campaignId sourceId participantId version =>
      constructor
      · rintro ⟨x, hx, hversion⟩
        exact ⟨x, List.mem_append_left _ hx, hversion⟩
      · rintro ⟨x, hx, hversion⟩
        rcases List.mem_append.mp hx with hx | hx
        · exact ⟨x, hx, hversion⟩
        · obtain rfl := List.mem_singleton.mp hx
          obtain ⟨rfl, rfl, rfl, rfl⟩ := hversion
          exact absurd (List.mem_cons_of_mem _ mem_cons_self) hk
    all_goals simp [InspirationStore.agree, Write.apply]
  case consentState ids state =>
    cases k
    case consent id =>
      rintro x rfl
      refine (@mem_updateWhere_of_not _ ConsentDocument.id _ _ _ _ (fun _ => by rfl) ?_ ?_).symm
      · exact fun y hy => by rw [hy]
      · rw [List.contains_eq_mem, decide_eq_false_iff_not]
        exact fun hmem => hk (List.mem_map_of_mem hmem)
    case consentVersion campaignId sourceId participantId version =>
      constructor
      · rintro ⟨x, hx, hversion⟩
        by_cases hp : ids.contains x.id = true
        · exact ⟨{ x with state }, mem_updateWhere.mpr (.inl ⟨x, hx, hp, rfl⟩), hversion⟩
        · exact ⟨x, mem_updateWhere.mpr (.inr ⟨hx, Bool.not_eq_true _ ▸ hp⟩), hversion⟩
      · rintro ⟨x, hx, hversion⟩
        rcases mem_updateWhere.mp hx with ⟨y, hy, -, rfl⟩ | ⟨hx, -⟩
        · exact ⟨y, hy, hversion⟩
        · exact ⟨x, hx, hversion⟩
    all_goals simp [InspirationStore.agree, Write.apply]
  case insertVeto v =>
    cases k
    case veto id =>
      rintro x rfl
      refine (mem_append_of_ne ?_).symm
      rintro rfl
      exact hk mem_cons_self
    all_goals simp [InspirationStore.agree, Write.apply]
  case insertSelection x =>
    cases k
    case selection id =>
      rintro x rfl
      refine (mem_append_of_ne ?_).symm
      rintro rfl
      exact hk mem_cons_self
    case selectionKey campaignId key =>
      constructor
      · rintro ⟨y, hy, hkey⟩
        exact ⟨y, List.mem_append_left _ hy, hkey⟩
      · rintro ⟨y, hy, hkey⟩
        rcases List.mem_append.mp hy with hy | hy
        · exact ⟨y, hy, hkey⟩
        · obtain rfl := List.mem_singleton.mp hy
          obtain ⟨rfl, rfl⟩ := hkey
          exact absurd (List.mem_cons_of_mem _ mem_cons_self) hk
    all_goals simp [InspirationStore.agree, Write.apply]
  case insertWork w =>
    cases k
    case work id =>
      rintro x rfl
      refine (mem_append_of_ne ?_).symm
      rintro rfl
      exact hk mem_cons_self
    all_goals simp [InspirationStore.agree, Write.apply]
  case cancelWork ids =>
    cases k
    case work id =>
      rintro x rfl
      refine (@mem_updateWhere_of_not _ WorkDocument.id _ _ _ _ (fun _ => by rfl) ?_ ?_).symm
      · exact fun y hy => by rw [hy]
      · rw [List.contains_eq_mem, decide_eq_false_iff_not]
        exact fun hmem => hk (List.mem_map_of_mem hmem)
    all_goals simp [InspirationStore.agree, Write.apply]
  case workState id state =>
    cases k
    case work id' =>
      rintro x rfl
      exact mem_updateById_of_unwritten hk mem_cons_self fun _ => by rfl
    all_goals simp [InspirationStore.agree, Write.apply]
  case redactPresentation id =>
    cases k
    case presentation id' =>
      rintro x rfl
      exact mem_updateById_of_unwritten hk mem_cons_self fun _ => by rfl
    all_goals simp [InspirationStore.agree, Write.apply]
  case deletePresentation id =>
    cases k
    case presentation id' =>
      rintro x rfl
      have hne : x.id ≠ id := fun heq => hk (by rw [heq]; exact mem_cons_self)
      show x ∈ s.presentations ↔ x ∈ s.presentations.filter (·.id ≠ id)
      rw [List.mem_filter]
      exact ⟨fun h => ⟨h, decide_eq_true hne⟩, fun h => h.1⟩
    all_goals simp [InspirationStore.agree, Write.apply]
  case insertReceipt r =>
    cases k
    case receipt scopeId key =>
      rintro x ⟨rfl, rfl⟩
      refine (mem_append_of_ne ?_).symm
      rintro rfl
      exact hk mem_cons_self
    all_goals simp [InspirationStore.agree, Write.apply]
  case insertTombstone t =>
    cases k
    case tombstone id =>
      rintro x rfl
      refine (mem_append_of_ne ?_).symm
      rintro rfl
      exact hk mem_cons_self
    all_goals simp [InspirationStore.agree, Write.apply]
  case deleteTombstones ids =>
    cases k
    case tombstone id =>
      rintro x rfl
      have hnot : x.id ∉ ids := fun hmem => hk (List.mem_map_of_mem hmem)
      show x ∈ s.tombstones ↔ x ∈ s.tombstones.filter fun t => !ids.contains t.id
      rw [List.mem_filter]
      exact ⟨fun h => ⟨h, by simpa using hnot⟩, fun h => h.1⟩
    all_goals simp [InspirationStore.agree, Write.apply]

/-- **A transaction changes the documents that it writes only.** -/
theorem applyAll_framed {writes : List Write} {k : InspirationKey} (hk : k ∉ writes.flatMap Write.keys)
    (s : InspirationStore) : InspirationStore.agree k s (applyAll writes s) := by
  induction writes generalizing s with
  | nil => exact InspirationStore.agree_refl k s
  | cons w writes ih =>
    rw [List.flatMap_cons, List.mem_append] at hk
    rw [applyAll_cons]
    exact InspirationStore.agree_trans k (w.framed (fun h => hk (.inl h)) s)
      (ih (fun h => hk (.inr h)) (w.apply s))

end ManchesterArcana.Inspiration
