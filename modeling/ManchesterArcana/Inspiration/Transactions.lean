import ManchesterArcana.Inspiration.Selection

/-!
# `Inspiration.Transactions` — the commands on private inspiration

Every command is one transaction. It loads the campaign, repeats an earlier answer that a receipt has kept for its
key, and otherwise decides on its snapshot which documents it writes. A refusal is an answer like any other: the
transaction that gives it commits, with the writes made so far.

Switching inspiration off, vetoes and revocations sweep the derived work in their scope: pending work is cancelled, and
the artifacts of completed work are redacted or deleted as the work's policy says.
-/

namespace ManchesterArcana.Inspiration

open Effect Store

/-! ## Receipts -/

/-- What comes with every command. -/
structure Request where
  campaignId : String
  idempotencyKey : String
  requestFingerprint : String
  now : Nat
  deriving DecidableEq, Repr

/-- Repeat the answer that was given for the key, or refuse the key for another command. -/
def receipted (r : Request) (scopeId : Option String) (commandKind : String) (s : InspirationStore)
    (body : Except PersistenceError InspirationDecision) : Except PersistenceError InspirationDecision :=
  match s.receipts.find? fun x => x.scopeId = scopeId ∧ x.idempotencyKey = r.idempotencyKey with
  | some x =>
    if x.commandKind = commandKind ∧ x.requestFingerprint = r.requestFingerprint then .ok (decided [] (.ok x.response))
    else .ok (decided [] (.error .idempotencyConflict))
  | none => body

/-- The writes of a command that was carried out, with its receipt. -/
def carriedOut (r : Request) (scopeId : Option String) (commandKind : String) (writes : List Write)
    (response : InspirationResponse) : InspirationDecision :=
  decided (writes ++ [.insertReceipt ⟨scopeId, r.idempotencyKey, commandKind, r.requestFingerprint, response⟩])
    (.ok response)

def refused (e : PrivateInspirationError) : InspirationDecision := decided [] (.error e)

/-! ## Sweeps -/

namespace InspirationStore

/-- The pending work in a scope, by id. -/
def pendingWork (s : InspirationStore) (inScope : WorkDocument → Bool) : List String :=
  ((s.work.filter fun w => inScope w ∧ w.state = .pending).map (·.id)).insertionSort (· ≤ ·)

def hasPresentation (s : InspirationStore) (w : WorkDocument) (artifactId : String) : Bool :=
  s.presentations.any fun p => p.id = artifactId ∧ p.campaignId = w.campaignId ∧ p.privateInspirationWorkId = some w.id

/-- `apply_completed_work_policy` for one work. -/
def completedWorkPolicy (s : InspirationStore) (w : WorkDocument) : List Write :=
  match w.state.completedArtifactId with
  | none => []
  | some artifactId =>
    match w.artifactPolicy with
    | .redactDerived =>
      if s.hasPresentation w artifactId then [.redactPresentation artifactId, .workState w.id (.redacted artifactId)]
      else [.workState w.id .deleted]
    | .deleteDerived | .retainMinimalAudit =>
      (if s.hasPresentation w artifactId then [.deletePresentation artifactId] else []) ++ [.workState w.id .deleted]

/-- Cancel what is pending in a scope and withdraw what is completed. -/
def sweepWork (s : InspirationStore) (inScope : WorkDocument → Bool) : List Write :=
  .cancelWork (s.pendingWork inScope) :: (s.work.filter inScope).flatMap s.completedWorkPolicy

/-- Completed work whose presentation is there is redacted, whatever its policy. -/
def quarantineWork (s : InspirationStore) (w : WorkDocument) : List Write :=
  match w.state.completedArtifactId with
  | none => []
  | some artifactId =>
    if s.hasPresentation w artifactId then [.redactPresentation artifactId, .workState w.id (.redacted artifactId)]
    else []

def quarantineAll (s : InspirationStore) : List Write :=
  .cancelWork (s.pendingWork fun _ => true) :: s.work.flatMap s.quarantineWork

/-- `revoke_campaign_consents`: the active ones. -/
def revokeCampaignConsents (s : InspirationStore) (campaignId : String) : Write :=
  .consentState ((s.consents.filter fun c => c.campaignId = campaignId ∧ c.state = .active).map (·.id)) .revoked

/-- `work_filter_for_scope`: the work that a veto reaches. -/
def workInScope (s : InspirationStore) (campaignId : String) (scope : InspirationVetoScope) (w : WorkDocument) : Bool :=
  w.campaignId = campaignId &&
    match scope with
    | .campaign => true
    | .sourceVersion sourceId revision _ => w.sourceId = sourceId ∧ w.sourceRevision = revision
    | .category categoryId => s.sources.any fun d => d.categoryId = categoryId ∧ d.logicalId = w.sourceId ∧
        d.revision = w.sourceRevision

end InspirationStore

/-! ## Switches -/

def setGlobalInspirationControl (r : Request) (expectedRevision : Nat) (generationDisabled : Bool)
    (s : InspirationStore) : Except PersistenceError InspirationDecision :=
  receipted r none "global_control_set" s <|
    let current := s.control.getD defaultGlobalControl
    if current.revision ≠ expectedRevision then .ok (refused (.revisionConflict expectedRevision current.revision))
    else
      let control : GlobalInspirationControl := ⟨current.revision + 1, generationDisabled⟩
      .ok (carriedOut r none "global_control_set"
        (.control control :: if generationDisabled then s.quarantineAll else []) (.control control))

/-- What is asked for when a campaign's safety is set up. -/
structure SafetySetupEvidence where
  allowedSensitivityCodes : List String
  lineCodes : List String
  veilCodes : List String
  excludedTopicCodes : List String
  excludedParticipantIds : List String
  deriving DecidableEq, Repr

def maxCampaignSafetyCodes : Nat := 64

namespace CampaignSafetyDocument

/-- `CampaignSafetyDocument::from_command`. -/
def fromCommand (enabled : Bool) (setup : Option SafetySetupEvidence) (revision : Nat) : CampaignSafetyDocument where
  revision := revision
  enabled := enabled
  generationPaused := false
  safetySetupComplete := setup.isSome
  rngCursor := 0
  allowedSensitivities := (setup.map (·.allowedSensitivityCodes)).getD []
  lines := (setup.map (·.lineCodes)).getD []
  veils := (setup.map (·.veilCodes)).getD []
  excludedTopics := (setup.map (·.excludedTopicCodes)).getD []
  excludedParticipantIds := (setup.map (·.excludedParticipantIds)).getD []

/-- `CampaignSafetyDocument::projection` refuses settings that break the policy. -/
def checked (x : CampaignSafetyDocument) : Except PersistenceError Unit := do
  let sets := [x.allowedSensitivities, x.lines, x.veils, x.excludedTopics, x.excludedParticipantIds]
  rejectIf (¬ ((sets.all fun values => values.Nodup ∧ values.length ≤ maxCampaignSafetyCodes) = true ∧
    isDisjoint x.lines x.veils ∧ isDisjoint x.lines x.excludedTopics ∧ isDisjoint x.veils x.excludedTopics ∧
    (x.safetySetupComplete = false → sets.all (·.isEmpty) = true))) (.schema "stored_settings_policy")

end CampaignSafetyDocument

def configureCampaign (r : Request) (deploymentEnabled : Bool) (expectedRevision : Nat) (enabled : Bool)
    (setup : Option SafetySetupEvidence) (s : InspirationStore) : Except PersistenceError InspirationDecision := do
  -- The service checks the command before it opens the transaction.
  if expectedRevision = 0 ∧ enabled then return refused (.invalid "new_settings_must_start_disabled")
  if enabled ∧ deploymentEnabled = false then return refused .deploymentDisabled
  if enabled ∧ setup.isNone then return refused (.invalid "enabled_campaign_requires_safety_setup")
  let campaign ← s.loadCampaign r.campaignId
  receipted r (some r.campaignId) "settings_change" s do
    let currentRevision := (campaign.safety.map (·.revision)).getD 0
    if currentRevision ≠ expectedRevision then return refused (.revisionConflict expectedRevision currentRevision)
    let safety := { CampaignSafetyDocument.fromCommand enabled setup (currentRevision + 1) with
      rngCursor := (campaign.safety.map (·.rngCursor)).getD 0 }
    safety.checked
    return carriedOut r (some r.campaignId) "settings_change"
      (.safety campaign.id safety :: if enabled then [] else
        s.revokeCampaignConsents campaign.id :: s.sweepWork fun w => w.campaignId = campaign.id) (.settings safety)

def setCampaignPause (r : Request) (expectedRevision : Nat) (paused : Bool) (s : InspirationStore) :
    Except PersistenceError InspirationDecision := do
  let campaign ← s.loadCampaign r.campaignId
  receipted r (some r.campaignId) "settings_pause" s <|
    match campaign.safety with
    | none => return refused .notFound
    | some safety => do
      if safety.revision ≠ expectedRevision then return refused (.revisionConflict expectedRevision safety.revision)
      let safety := { safety with revision := safety.revision + 1, generationPaused := paused }
      safety.checked
      return carriedOut r (some r.campaignId) "settings_pause" [.safety campaign.id safety] (.settings safety)

def disableCampaign (r : Request) (expectedRevision : Nat) (s : InspirationStore) :
    Except PersistenceError InspirationDecision := do
  let campaign ← s.loadCampaign r.campaignId
  receipted r (some r.campaignId) "settings_disable" s <|
    match campaign.safety with
    | none => return refused .notFound
    | some safety => do
      if safety.revision ≠ expectedRevision then return refused (.revisionConflict expectedRevision safety.revision)
      let safety := { safety with revision := safety.revision + 1, enabled := false, generationPaused := false }
      safety.checked
      return carriedOut r (some r.campaignId) "settings_disable"
        (.safety campaign.id safety :: s.revokeCampaignConsents campaign.id ::
          s.sweepWork fun w => w.campaignId = campaign.id) (.settings safety)

/-! ## Participants and sources -/

def verifyParticipant (r : Request) (participantId : String) (s : InspirationStore) :
    Except PersistenceError InspirationDecision := do
  let _ ← s.loadCampaign r.campaignId
  receipted r (some r.campaignId) "participant_verify" s do
    let expired := (s.tombstones.filter fun t => t.participantId = participantId ∧ t.deleteAfterEpoch ≤ r.now).map (·.id)
    -- The expired tombstones have been deleted when this refuses.
    if (s.tombstones.any fun t => t.participantId = participantId ∧ r.now < t.deleteAfterEpoch) = true then
      return decided [.deleteTombstones expired] (.error .scopeDenied)
    let participant : ParticipantDocument := ⟨participantId, true⟩
    return carriedOut r (some r.campaignId) "participant_verify" [.deleteTombstones expired, .participant participant]
      (.participant participant)

/-- A source version as it is registered: pending, and not screened. -/
def registerSource (r : Request) (source : SourceDocument) (s : InspirationStore) :
    Except PersistenceError InspirationDecision := do
  let _ ← s.loadCampaign r.campaignId
  receipted r (some r.campaignId) "source_register" s do
    if s.allSourceParticipantsVerified source = false then return refused .scopeDenied
    if (s.loadSource source.logicalId source.revision).isSome then return refused .scopeDenied
    return carriedOut r (some r.campaignId) "source_register"
      [.insertSource { source with reviewState := .pending, q11Screened := false }]
      (.source source.logicalId source.revision .pending)

def reviewSource (r : Request) (sourceId : String) (sourceVersion : Nat) (sourceDigest : String)
    (decision : SourceReviewState) (q11Screened : Bool) (s : InspirationStore) :
    Except PersistenceError InspirationDecision := do
  -- The service checks the decision before it opens the transaction.
  if decision = .pending ∨ (decision = .approved ∧ q11Screened = false) then
    return refused (.invalid "invalid_source_review_decision")
  let _ ← s.loadCampaign r.campaignId
  receipted r (some r.campaignId) "source_review" s <|
    match s.loadSource sourceId sourceVersion with
    | none => return refused .notFound
    | some source => do
      source.stored
      if source.sourceDigest ≠ sourceDigest ∨ source.reviewState ≠ .pending then return refused .scopeDenied
      return carriedOut r (some r.campaignId) "source_review" [.review sourceId sourceVersion decision q11Screened]
        (.source sourceId sourceVersion decision)

/-! ## Consents and vetoes -/

structure GrantConsentCommand where
  sourceId : String
  sourceVersion : Nat
  sourceDigest : String
  participantId : String
  audience : InspirationAudience
  media : InspirationMedia
  transformation : InspirationTransformation
  artifactPolicy : DerivedArtifactPolicy
  sensitivityCodes : List String
  expiresAtEpoch : Nat
  deriving DecidableEq, Repr

/-- The exact scope of a consent, in which one at a time is active. -/
def ConsentDocument.hasScope (c : ConsentDocument) (campaignId sourceId : String) (sourceRevision : Nat)
    (participantId : String) (audience : InspirationAudience) (media : InspirationMedia)
    (transformation : InspirationTransformation) : Bool :=
  c.campaignId = campaignId ∧ c.sourceId = sourceId ∧ c.sourceRevision = sourceRevision ∧
    c.participantId = participantId ∧ c.audience = audience ∧ c.media = media ∧ c.transformation = transformation

/-- The version after the latest one of the participant's consents to the source. -/
def InspirationStore.nextVersion (s : InspirationStore) (campaignId sourceId participantId : String) : Nat :=
  (((s.consents.filter fun c => c.campaignId = campaignId ∧ c.sourceId = sourceId ∧
    c.participantId = participantId).map (·.version)).max?).getD 0 + 1

def grantConsent (r : Request) (grantId : String) (command : GrantConsentCommand) (s : InspirationStore) :
    Except PersistenceError InspirationDecision := do
  let campaign ← s.loadCampaign r.campaignId
  receipted r (some r.campaignId) "consent_grant" s <|
    match campaign.safety, s.loadSource command.sourceId command.sourceVersion with
    | none, _ => return refused .scopeDenied
    | some safety, source => do
    safety.checked
    if safety.enabled = false ∨ safety.safetySetupComplete = false then return refused .scopeDenied
    if s.participantIsVerified command.participantId = false then return refused .scopeDenied
    match source with
    | none => return refused .notFound
    | some source =>
    source.stored
    if source.sourceDigest ≠ command.sourceDigest ∨ source.reviewState ≠ .approved ∨ source.q11Screened = false ∨
        (source.expiresAtEpoch.any fun expiry => expiry ≤ r.now) = true ∨
        source.participants.contains command.participantId = false ∨ source.media.contains command.media = false ∨
        sameSet source.sensitivities command.sensitivityCodes = false ∨
        (source.sensitivities.all (safety.allowedSensitivities.contains ·)) = false ∨
        s.sourceIsVetoed r.campaignId source = true then return refused .scopeDenied
    let stale := (s.consents.filter fun c => c.campaignId = r.campaignId ∧ c.state = .active ∧
      c.expiresAtEpoch ≤ r.now).map (·.id)
    -- The stale consents have been written as expired when this refuses.
    if (s.consents.any fun c => c.state = .active ∧ r.now < c.expiresAtEpoch ∧ c.hasScope r.campaignId command.sourceId
        command.sourceVersion command.participantId command.audience command.media command.transformation) = true then
      return decided [.consentState stale .expired] (.error .scopeDenied)
    rejectIf (∃ c ∈ s.consents, c.id = grantId) (.duplicateKey "grant inspiration consent")
    let consent : ConsentDocument :=
      { id := grantId, campaignId := r.campaignId, sourceId := command.sourceId
        sourceRevision := command.sourceVersion, sourceDigest := command.sourceDigest
        participantId := command.participantId
        version := s.nextVersion r.campaignId command.sourceId command.participantId
        audience := command.audience, media := command.media, transformation := command.transformation
        artifactPolicy := command.artifactPolicy, sensitivities := command.sensitivityCodes, state := .active
        expiresAtEpoch := command.expiresAtEpoch }
    return carriedOut r (some r.campaignId) "consent_grant" [.consentState stale .expired, .insertConsent consent]
      (.consent consent)

def revokeConsent (r : Request) (grantId requesterParticipantId : String) (s : InspirationStore) :
    Except PersistenceError InspirationDecision := do
  let _ ← s.loadCampaign r.campaignId
  receipted r (some r.campaignId) "consent_revoke" s <|
    match s.consents.find? (·.id = grantId) with
    | none => return refused .notFound
    | some consent => do
      if consent.campaignId ≠ r.campaignId ∨ consent.participantId ≠ requesterParticipantId ∨
          consent.state = .revoked then return refused .scopeDenied
      let inScope (w : WorkDocument) : Bool := w.campaignId = r.campaignId ∧ w.sourceId = consent.sourceId ∧
        w.sourceRevision = consent.sourceRevision
      return carriedOut r (some r.campaignId) "consent_revoke"
        (.consentState [grantId] .revoked :: s.sweepWork inScope) (.transition grantId (s.pendingWork inScope))

def applyVeto (r : Request) (vetoId participantId : String) (scope : InspirationVetoScope) (s : InspirationStore) :
    Except PersistenceError InspirationDecision := do
  let _ ← s.loadCampaign r.campaignId
  receipted r (some r.campaignId) "veto_apply" s do
    if s.participantIsVerified participantId = false then return refused .scopeDenied
    if let .sourceVersion sourceId revision sourceDigest := scope then
      match s.loadSource sourceId revision with
      | none => return refused .notFound
      | some source =>
        source.stored
        if source.sourceDigest ≠ sourceDigest ∨ source.participants.contains participantId = false then
          return refused .scopeDenied
    rejectIf (∃ v ∈ s.vetoes, v.id = vetoId) (.duplicateKey "insert inspiration veto")
    return carriedOut r (some r.campaignId) "veto_apply"
      (.insertVeto ⟨vetoId, r.campaignId, participantId, scope⟩ :: s.sweepWork (s.workInScope r.campaignId scope))
      (.transition vetoId (s.pendingWork (s.workInScope r.campaignId scope)))

/-! ## Derived work -/

structure RegisterDerivedWorkCommand where
  workId : String
  selectionId : String
  kind : InspirationMedia
  artifactPolicy : DerivedArtifactPolicy
  deriving DecidableEq, Repr

def registerDerivedWork (r : Request) (command : RegisterDerivedWorkCommand) (s : InspirationStore) :
    Except PersistenceError InspirationDecision := do
  let _ ← s.loadCampaign r.campaignId
  receipted r (some r.campaignId) "derived_work_register" s <|
    match s.selections.find? fun x => x.id = command.selectionId ∧ x.campaignId = r.campaignId ∧ x.selected.isSome with
    | none => return refused .notFound
    | some selection =>
    match selection.selected with
    | none => return refused .notFound
    | some binding => do
    if selection.media ≠ command.kind then return refused .scopeDenied
    match s.loadSource binding.sourceId binding.sourceVersion with
    | none => return refused .notFound
    | some source =>
    source.stored
    if source.sourceDigest ≠ binding.sourceDigest ∨ s.sourceIsVetoed r.campaignId source = true then
      return refused .scopeDenied
    let policies := (s.consents.filter (·.grants r.campaignId source selection.media r.now)).map (·.artifactPolicy)
    if policies.length ≠ source.participants.length ∨
        (policies.any fun stored => artifactPolicyRank command.artifactPolicy < artifactPolicyRank stored) = true then
      return refused .scopeDenied
    let storageSelectionId := if s.work.any fun w => w.selectionId = command.selectionId then command.workId
      else command.selectionId
    rejectIf (∃ w ∈ s.work, w.id = command.workId ∨ w.selectionId = storageSelectionId)
      (.duplicateKey "register private inspiration work")
    let work : WorkDocument :=
      { id := command.workId, campaignId := r.campaignId, selectionId := storageSelectionId
        sourceSelectionId := command.selectionId, sourceId := binding.sourceId
        sourceRevision := binding.sourceVersion, sourceDigest := binding.sourceDigest, workKind := command.kind
        state := .pending, artifactPolicy := command.artifactPolicy }
    return carriedOut r (some r.campaignId) "derived_work_register" [.insertWork work] (.work work)

/-! ## Gameplay -/

/-- Of a gameplay commit, what it does to the campaign document: the revision is checked and one event is added. -/
def commitSessionEvent (campaignId : String) (expectedRevision : Nat) (sessionActive : Bool)
    (payload : SessionEventPayload) (s : InspirationStore) : Except PersistenceError InspirationDecision := do
  let campaign ← s.loadCampaign campaignId
  rejectIf (campaign.revision ≠ expectedRevision)
    (.revisionConflict "campaign" campaignId expectedRevision campaign.revision)
  let sequence := campaign.lastEventSequence + 1
  rejectIf (∃ e ∈ s.turnEvents, e.campaignId = campaignId ∧ e.sequence = sequence) (.duplicateKey "insert turn event")
  return decided [.turn campaign.id sessionActive ⟨campaignId, sequence, payload⟩] (.ok (.turn sequence))

/-- A command, with the ids that it has drawn and what it was given. -/
inductive InspirationJob where
  | setGlobalInspirationControl (r : Request) (expectedRevision : Nat) (generationDisabled : Bool)
  | configureCampaign (r : Request) (deploymentEnabled : Bool) (expectedRevision : Nat) (enabled : Bool)
      (setup : Option SafetySetupEvidence)
  | setCampaignPause (r : Request) (expectedRevision : Nat) (paused : Bool)
  | disableCampaign (r : Request) (expectedRevision : Nat)
  | verifyParticipant (r : Request) (participantId : String)
  | registerSource (r : Request) (source : SourceDocument)
  | reviewSource (r : Request) (sourceId : String) (sourceVersion : Nat) (sourceDigest : String)
      (decision : SourceReviewState) (q11Screened : Bool)
  | grantConsent (r : Request) (grantId : String) (command : GrantConsentCommand)
  | revokeConsent (r : Request) (grantId requesterParticipantId : String)
  | applyVeto (r : Request) (vetoId participantId : String) (scope : InspirationVetoScope)
  | reserveSelection (words : WordStream) (deploymentEnabled : Bool) (selectionId : String)
      (command : RequestInspirationSelectionCommand) (prompts : List EventPrompt) (now : Nat)
  | registerDerivedWork (r : Request) (command : RegisterDerivedWorkCommand)
  | commitSessionEvent (campaignId : String) (expectedRevision : Nat) (sessionActive : Bool)
      (payload : SessionEventPayload)

/-- What a command decides on its snapshot. -/
def transact (draw : WeightedDraw) : InspirationJob → InspirationStore → Except PersistenceError InspirationDecision
  | .setGlobalInspirationControl r expected disabled => setGlobalInspirationControl r expected disabled
  | .configureCampaign r deployment expected enabled setup => configureCampaign r deployment expected enabled setup
  | .setCampaignPause r expected paused => setCampaignPause r expected paused
  | .disableCampaign r expected => disableCampaign r expected
  | .verifyParticipant r participantId => verifyParticipant r participantId
  | .registerSource r source => registerSource r source
  | .reviewSource r sourceId version digest decision q11 => reviewSource r sourceId version digest decision q11
  | .grantConsent r grantId command => grantConsent r grantId command
  | .revokeConsent r grantId requester => revokeConsent r grantId requester
  | .applyVeto r vetoId participantId scope => applyVeto r vetoId participantId scope
  | .reserveSelection words deployment selectionId command prompts now =>
    reserveSelection draw words deployment selectionId command prompts now
  | .registerDerivedWork r command => registerDerivedWork r command
  | .commitSessionEvent campaignId expected active payload => commitSessionEvent campaignId expected active payload

end ManchesterArcana.Inspiration
