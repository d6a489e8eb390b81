import ManchesterArcana.Inspiration.Transactions

/-!
# `Inspiration.Keeping` — what commands decide, and what every run keeps

`Decides` lists what a command can decide, with the checks behind it; it is all that is used of the commands
(`transact_decides`). From it follows what the documents keep in every run, whatever commands overlap: source versions
stay as they were registered, consents are numbered and one at a time is active in a scope.
-/

namespace ManchesterArcana.Inspiration

open Effect Store
open List (forall_mem_cons mem_append mem_append_left mem_cons mem_cons_self mem_filter mem_singleton)

/-! ## What a command decides -/

/-- The writes of a sweep: work leaves the pending state, and presentations go. -/
def Write.isSweep : Write → Bool
  | .cancelWork _ | .redactPresentation _ | .deletePresentation _ => true
  | .workState _ state => state ≠ .pending
  | _ => false

/-- No receipt has been kept for the key. -/
def Request.IsFresh (r : Request) (scopeId : Option String) (s : InspirationStore) : Prop :=
  ∀ x ∈ s.receipts, ¬ (x.scopeId = scopeId ∧ x.idempotencyKey = r.idempotencyKey)

/-- Inspiration is enabled in the campaign. -/
def InspirationCampaignDocument.isEnabled (c : InspirationCampaignDocument) : Bool := c.safety.any (·.enabled)

/-- The checks of a grant that are about the source version. -/
structure SourceDocument.IsOpenTo (d : SourceDocument) (command : GrantConsentCommand) : Prop where
  logicalId : d.logicalId = command.sourceId
  revision : d.revision = command.sourceVersion
  digest : d.sourceDigest = command.sourceDigest
  participant : command.participantId ∈ d.participants

/-- The checks of a grant. -/
structure InspirationStore.MayGrant (s : InspirationStore) (r : Request) (command : GrantConsentCommand)
    (campaign : InspirationCampaignDocument) (safety : CampaignSafetyDocument) (d : SourceDocument) : Prop where
  found : campaign ∈ s.campaigns ∧ campaign.id = r.campaignId
  switched : campaign.safety = some safety ∧ safety.enabled = true ∧ safety.safetySetupComplete = true
  verified : s.participantIsVerified command.participantId = true
  source : d ∈ s.sources ∧ d.IsOpenTo command
  approved : d.reviewState = .approved ∧ d.q11Screened = true
  unexpired : (d.expiresAtEpoch.any fun expiry => expiry ≤ r.now) = false
  media : d.media.contains command.media = true
  sensitivities : sameSet d.sensitivities command.sensitivityCodes = true ∧
    d.sensitivities.all (safety.allowedSensitivities.contains ·) = true
  notVetoed : s.sourceIsVetoed r.campaignId d = false
  alone : ∀ c ∈ s.consents, c.state = .active → c.hasScope r.campaignId command.sourceId command.sourceVersion
    command.participantId command.audience command.media command.transformation = true → c.expiresAtEpoch ≤ r.now

/-- The participant may withdraw the consent. -/
def ConsentDocument.IsRevocableBy (c : ConsentDocument) (campaignId participantId : String) : Prop :=
  c.campaignId = campaignId ∧ c.participantId = participantId ∧ c.state ≠ .revoked

/-- The veto is about something that the participant takes part in. -/
def InspirationStore.VetoIsOpen (s : InspirationStore) (participantId : String) (scope : InspirationVetoScope) : Prop :=
  s.participantIsVerified participantId = true ∧
    ∀ sourceId revision digest, scope = .sourceVersion sourceId revision digest →
      ∃ d ∈ s.sources, d.logicalId = sourceId ∧ d.revision = revision ∧ d.sourceDigest = digest

/-- The checks of a registration of work: its source, from the selection, is not vetoed, and as many consents as there
    are participants allow the policy. -/
structure InspirationStore.MayDerive (s : InspirationStore) (r : Request) (command : RegisterDerivedWorkCommand)
    (x : SelectionDocument) (binding : SourceBinding) (d : SourceDocument) : Prop where
  selection : x ∈ s.selections ∧ x.id = command.selectionId ∧ x.campaignId = r.campaignId
  selected : x.selected = some binding
  media : x.media = command.kind
  source : d ∈ s.sources ∧ d.logicalId = binding.sourceId ∧ d.revision = binding.sourceVersion
  stored : d.participants.Nodup
  notVetoed : s.sourceIsVetoed r.campaignId d = false
  counted : (s.consents.filter (·.grants r.campaignId d x.media r.now)).length = d.participants.length
  policies : ∀ c ∈ s.consents, c.grants r.campaignId d x.media r.now = true →
    artifactPolicyRank c.artifactPolicy ≤ artifactPolicyRank command.artifactPolicy

/-- **What a command can decide on a snapshot.** -/
inductive Decides (draw : WeightedDraw) (s : InspirationStore) : InspirationJob → List Write → Prop where
  | nothing (job : InspirationJob) : Decides draw s job []
  | setGlobalInspirationControl (r : Request) (expected : Nat) (disabled : Bool) (control : GlobalInspirationControl)
      (receipt : ReceiptDocument) :
      r.IsFresh none s → (s.control.getD defaultGlobalControl).revision = expected →
      control.generationDisabled = disabled →
      Decides draw s (.setGlobalInspirationControl r expected disabled)
        (.control control :: (if disabled then s.quarantineAll else []) ++ [.insertReceipt receipt])
  | configureCampaign (r : Request) (deployment : Bool) (expected : Nat) (enabled : Bool)
      (setup : Option SafetySetupEvidence) (campaign : InspirationCampaignDocument) (safety : CampaignSafetyDocument)
      (receipt : ReceiptDocument) :
      campaign ∈ s.campaigns → campaign.id = r.campaignId → r.IsFresh (some r.campaignId) s →
      (campaign.safety.map (·.revision)).getD 0 = expected → safety.enabled = enabled →
      safety.rngCursor = (campaign.safety.map (·.rngCursor)).getD 0 →
      Decides draw s (.configureCampaign r deployment expected enabled setup)
        (.safety r.campaignId safety :: (if enabled then [] else
          s.revokeCampaignConsents r.campaignId :: s.sweepWork fun w => w.campaignId = r.campaignId) ++
          [.insertReceipt receipt])
  | setCampaignPause (r : Request) (expected : Nat) (paused : Bool) (campaign : InspirationCampaignDocument)
      (safety safety' : CampaignSafetyDocument) (receipt : ReceiptDocument) :
      campaign ∈ s.campaigns → campaign.id = r.campaignId → campaign.safety = some safety →
      safety'.enabled = safety.enabled → safety'.rngCursor = safety.rngCursor →
      Decides draw s (.setCampaignPause r expected paused) [.safety r.campaignId safety', .insertReceipt receipt]
  | disableCampaign (r : Request) (expected : Nat) (campaign : InspirationCampaignDocument)
      (safety safety' : CampaignSafetyDocument) (receipt : ReceiptDocument) :
      campaign ∈ s.campaigns → campaign.id = r.campaignId → r.IsFresh (some r.campaignId) s →
      campaign.safety = some safety → safety.revision = expected → safety'.enabled = false →
      safety'.rngCursor = safety.rngCursor →
      Decides draw s (.disableCampaign r expected)
        (.safety r.campaignId safety' :: s.revokeCampaignConsents r.campaignId ::
          (s.sweepWork fun w => w.campaignId = r.campaignId) ++ [.insertReceipt receipt])
  | verifyParticipant (r : Request) (participantId : String) (participant : ParticipantDocument)
      (expired : List String) (receipt : ReceiptDocument) :
      Decides draw s (.verifyParticipant r participantId)
        [.deleteTombstones expired, .participant participant, .insertReceipt receipt]
  | clearTombstones (r : Request) (participantId : String) (expired : List String) :
      Decides draw s (.verifyParticipant r participantId) [.deleteTombstones expired]
  | registerSource (r : Request) (source source' : SourceDocument) (receipt : ReceiptDocument) :
      s.loadSource source'.logicalId source'.revision = none →
      Decides draw s (.registerSource r source) [.insertSource source', .insertReceipt receipt]
  | reviewSource (r : Request) (sourceId : String) (version : Nat) (digest : String) (decision : SourceReviewState)
      (q11 : Bool) (receipt : ReceiptDocument) :
      Decides draw s (.reviewSource r sourceId version digest decision q11)
        [.review sourceId version decision q11, .insertReceipt receipt]
  | expire (r : Request) (grantId : String) (command : GrantConsentCommand) (stale : List String) :
      (∀ id ∈ stale, ∃ c ∈ s.consents, c.id = id ∧ c.campaignId = r.campaignId ∧ c.state = .active) →
      Decides draw s (.grantConsent r grantId command) [.consentState stale .expired]
  | grantConsent (r : Request) (grantId : String) (command : GrantConsentCommand) (stale : List String)
      (campaign : InspirationCampaignDocument) (safety : CampaignSafetyDocument) (source : SourceDocument)
      (consent : ConsentDocument) (receipt : ReceiptDocument) :
      r.IsFresh (some r.campaignId) s → s.MayGrant r command campaign safety source →
      (∀ id ∈ stale, ∃ c ∈ s.consents, c.id = id ∧ c.campaignId = r.campaignId ∧ c.state = .active) →
      (∀ c ∈ s.consents, c.state = .active → c.hasScope r.campaignId command.sourceId command.sourceVersion
        command.participantId command.audience command.media command.transformation = true → c.id ∈ stale) →
      (∀ c ∈ s.consents, c.id ≠ grantId) →
      consent = { id := grantId, campaignId := r.campaignId, sourceId := command.sourceId
                  sourceRevision := command.sourceVersion, sourceDigest := command.sourceDigest
                  participantId := command.participantId
                  version := s.nextVersion r.campaignId command.sourceId command.participantId
                  audience := command.audience, media := command.media, transformation := command.transformation
                  artifactPolicy := command.artifactPolicy, sensitivities := command.sensitivityCodes, state := .active
                  expiresAtEpoch := command.expiresAtEpoch } →
      Decides draw s (.grantConsent r grantId command)
        [.consentState stale .expired, .insertConsent consent, .insertReceipt receipt]
  | revokeConsent (r : Request) (grantId requester : String) (consent : ConsentDocument) (receipt : ReceiptDocument) :
      r.IsFresh (some r.campaignId) s → consent ∈ s.consents → consent.id = grantId →
      consent.IsRevocableBy r.campaignId requester →
      Decides draw s (.revokeConsent r grantId requester)
        (.consentState [grantId] .revoked :: (s.sweepWork fun w => w.campaignId = r.campaignId ∧
          w.sourceId = consent.sourceId ∧ w.sourceRevision = consent.sourceRevision) ++ [.insertReceipt receipt])
  | applyVeto (r : Request) (vetoId participantId : String) (scope : InspirationVetoScope)
      (receipt : ReceiptDocument) :
      r.IsFresh (some r.campaignId) s → s.VetoIsOpen participantId scope →
      Decides draw s (.applyVeto r vetoId participantId scope)
        (.insertVeto ⟨vetoId, r.campaignId, participantId, scope⟩ :: s.sweepWork (s.workInScope r.campaignId scope) ++
          [.insertReceipt receipt])
  | reserveSelection (words : WordStream) (deployment : Bool) (selectionId : String)
      (command : RequestInspirationSelectionCommand) (prompts : List EventPrompt) (now : Nat)
      (campaign : InspirationCampaignDocument) (safety : CampaignSafetyDocument) (turnNumber : Nat) (drawn : Drawn)
      (selection : SelectionDocument) :
      campaign ∈ s.campaigns → campaign.id = command.campaignSessionId → campaign.safety = some safety →
      (∀ x ∈ s.selections, ¬ (x.campaignId = command.campaignSessionId ∧ x.idempotencyKey = command.idempotencyKey)) →
      campaign.revision = command.expectedCampaignRevision → safety.revision = command.expectedSettingsRevision →
      s.trustedTriggerWindow campaign = .ok (some turnNumber) →
      s.drawUnlessOff draw words deployment command campaign.themeId safety prompts turnNumber now = .ok drawn →
      (∀ x ∈ s.selections, x.id ≠ selectionId) →
      selection = { id := selectionId, campaignId := command.campaignSessionId
                    idempotencyKey := command.idempotencyKey, requestFingerprint := command.requestFingerprint
                    campaignRevision := command.expectedCampaignRevision
                    settingsRevision := command.expectedSettingsRevision, turnNumber, audience := command.audience
                    media := command.media, eligibleSources := drawn.eligibleSources, selected := drawn.selected
                    noSelectionReason := drawn.noSelectionReason, sampleNumerator := drawn.sampleNumerator
                    cursorBefore := safety.rngCursor, cursorAfter := drawn.cursorAfter } →
      Decides draw s (.reserveSelection words deployment selectionId command prompts now)
        [.insertSelection selection, .rngCursor command.campaignSessionId drawn.cursorAfter]
  | registerDerivedWork (r : Request) (command : RegisterDerivedWorkCommand) (x : SelectionDocument)
      (binding : SourceBinding) (d : SourceDocument) (work : WorkDocument) (receipt : ReceiptDocument) :
      r.IsFresh (some r.campaignId) s → s.MayDerive r command x binding d →
      work.campaignId = r.campaignId → work.sourceSelectionId = x.id → work.sourceId = d.logicalId →
      work.sourceRevision = d.revision → work.artifactPolicy = command.artifactPolicy →
      Decides draw s (.registerDerivedWork r command) [.insertWork work, .insertReceipt receipt]
  | commitSessionEvent (campaignId : String) (expected : Nat) (active : Bool) (payload : SessionEventPayload)
      (event : TurnEventDocument) :
      Decides draw s (.commitSessionEvent campaignId expected active payload) [.turn campaignId active event]

section Inversion

variable {draw : WeightedDraw} {s : InspirationStore} {d : InspirationDecision} {r : Request}

/-- The decision is one that the job may take here. -/
abbrev Decided (draw : WeightedDraw) (s : InspirationStore) (job : InspirationJob) (d : InspirationDecision) : Prop :=
  ∃ writes answer, d = decided writes answer ∧ Decides draw s job writes

variable {expected : Nat} {job : InspirationJob} {campaignId : String}

theorem Decided.nothing {answer : Except PrivateInspirationError InspirationResponse}
    (h : (.ok (decided [] answer) : Except PersistenceError InspirationDecision) = .ok d) : Decided draw s job d :=
  ⟨[], answer, (Except.ok.inj h).symm, .nothing job⟩

variable {scopeId : Option String} {kind sourceId participantId grantId : String} {source : SourceDocument}
  {deployment : Bool}

/-- A command is repeated or refused by its receipt, or decides afresh. -/
theorem receipted_eq_ok
    {body : Except PersistenceError InspirationDecision} (h : receipted r scopeId kind s body = .ok d) :
    (¬ r.IsFresh scopeId s ∧ ∃ answer, d = decided [] answer) ∨ (r.IsFresh scopeId s ∧ body = .ok d) := by
  unfold receipted at h
  split at h
  · next x hfind =>
    have hstale : ¬ r.IsFresh scopeId s := fun hfresh =>
      hfresh x (List.mem_of_find?_eq_some hfind) (by simpa using List.find?_some hfind)
    split at h
    · exact .inl ⟨hstale, _, (Except.ok.inj h).symm⟩
    · exact .inl ⟨hstale, _, (Except.ok.inj h).symm⟩
  · next hnone =>
    refine .inr ⟨fun x hx hkey => ?_, h⟩
    have := List.find?_eq_none.mp hnone x hx
    simp only [decide_eq_true_eq] at this
    exact this hkey

theorem loadCampaign_eq_ok {campaign : InspirationCampaignDocument}
    (h : s.loadCampaign campaignId = .ok campaign) : campaign ∈ s.campaigns ∧ campaign.id = campaignId := by
  have hfind := okOr_eq_ok.mp h
  exact ⟨List.mem_of_find?_eq_some hfind, by simpa using List.find?_some hfind⟩

theorem loadSource_eq_some {revision : Nat}
    (h : s.loadSource sourceId revision = some source) :
    source ∈ s.sources ∧ source.logicalId = sourceId ∧ source.revision = revision := by
  refine ⟨List.mem_of_find?_eq_some h, ?_⟩
  simpa using List.find?_some h

/-- A command on a campaign is repeated or refused by its receipt, or decides afresh. -/
theorem Decided.command
    {body : InspirationCampaignDocument → Except PersistenceError InspirationDecision}
    (h : (s.loadCampaign campaignId >>= fun campaign => receipted r scopeId kind s (body campaign)) = .ok d)
    (hbody : ∀ campaign ∈ s.campaigns, campaign.id = campaignId → r.IsFresh scopeId s → body campaign = .ok d →
      Decided draw s job d) : Decided draw s job d := by
  obtain ⟨campaign, hload, h⟩ := bind_eq_ok.mp h
  obtain ⟨hmem, hid⟩ := loadCampaign_eq_ok hload
  rcases receipted_eq_ok h with ⟨-, answer, rfl⟩ | ⟨hfresh, h⟩
  · exact ⟨_, _, rfl, .nothing _⟩
  · exact hbody campaign hmem hid hfresh h

theorem setGlobalInspirationControl_decides {disabled : Bool}
    (h : setGlobalInspirationControl r expected disabled s = .ok d) :
    Decided draw s (.setGlobalInspirationControl r expected disabled) d := by
  rcases receipted_eq_ok h with ⟨-, answer, rfl⟩ | ⟨hfresh, h⟩
  · exact ⟨_, _, rfl, .nothing _⟩
  · simp only at h
    split at h
    · exact .nothing h
    · next hrevision =>
      exact ⟨_, _, (Except.ok.inj h).symm,
        .setGlobalInspirationControl r expected disabled _ _ hfresh (not_not.mp hrevision) rfl⟩

theorem configureCampaign_decides {enabled : Bool} {setup : Option SafetySetupEvidence}
    (h : configureCampaign r deployment expected enabled setup s = .ok d) :
    Decided draw s (.configureCampaign r deployment expected enabled setup) d := by
  unfold configureCampaign at h
  split at h
  · exact .nothing h
  split at h
  · exact .nothing h
  split at h
  · exact .nothing h
  refine .command h fun campaign hmem hid hfresh h => ?_
  simp only at h
  split at h
  · exact .nothing h
  next hrevision =>
  obtain ⟨-, -, h⟩ := bind_eq_ok.mp h
  rw [hid] at h
  exact ⟨_, _, (Except.ok.inj h).symm,
    .configureCampaign r deployment expected enabled setup campaign _ _ hmem hid hfresh (not_not.mp hrevision) rfl rfl⟩

theorem setCampaignPause_decides {paused : Bool} (h : setCampaignPause r expected paused s = .ok d) :
    Decided draw s (.setCampaignPause r expected paused) d := by
  refine .command h fun campaign hmem hid _ h => ?_
  split at h
  · exact .nothing h
  · next safety hsafety =>
    split at h
    · exact .nothing h
    obtain ⟨-, -, h⟩ := bind_eq_ok.mp h
    rw [hid] at h
    exact ⟨_, _, (Except.ok.inj h).symm, .setCampaignPause r expected paused campaign safety _ _ hmem hid hsafety rfl rfl⟩

theorem disableCampaign_decides (h : disableCampaign r expected s = .ok d) :
    Decided draw s (.disableCampaign r expected) d := by
  refine .command h fun campaign hmem hid hfresh h => ?_
  split at h
  · exact .nothing h
  · next safety hsafety =>
    split at h
    · exact .nothing h
    next hrevision =>
    obtain ⟨-, -, h⟩ := bind_eq_ok.mp h
    rw [hid] at h
    exact ⟨_, _, (Except.ok.inj h).symm,
      .disableCampaign r expected campaign safety _ _ hmem hid hfresh hsafety (not_not.mp hrevision) rfl rfl⟩

theorem verifyParticipant_decides (h : verifyParticipant r participantId s = .ok d) :
    Decided draw s (.verifyParticipant r participantId) d := by
  refine .command h fun campaign _ _ _ h => ?_
  split at h
  · exact ⟨_, _, (Except.ok.inj h).symm, .clearTombstones r participantId _⟩
  · exact ⟨_, _, (Except.ok.inj h).symm, .verifyParticipant r participantId _ _ _⟩

theorem registerSource_decides (h : registerSource r source s = .ok d) :
    Decided draw s (.registerSource r source) d := by
  refine .command h fun campaign _ _ _ h => ?_
  split at h
  · exact .nothing h
  split at h
  · exact .nothing h
  · next hnone =>
    exact ⟨_, _, (Except.ok.inj h).symm, .registerSource r source _ _ (by simpa using hnone)⟩

theorem reviewSource_decides {digest : String} {version : Nat} {decision : SourceReviewState} {q11 : Bool}
    (h : reviewSource r sourceId version digest decision q11 s = .ok d) :
    Decided draw s (.reviewSource r sourceId version digest decision q11) d := by
  unfold reviewSource at h
  split at h
  · exact .nothing h
  refine .command h fun campaign _ _ _ h => ?_
  split at h
  · exact .nothing h
  obtain ⟨-, -, h⟩ := bind_eq_ok.mp h
  split at h
  · exact .nothing h
  · exact ⟨_, _, (Except.ok.inj h).symm, .reviewSource r sourceId version digest decision q11 _⟩

theorem grantConsent_decides {command : GrantConsentCommand}
    (h : grantConsent r grantId command s = .ok d) :
    Decided draw s (.grantConsent r grantId command) d := by
  refine .command h fun campaign hmem hid hfresh h => ?_
  split at h
  · exact .nothing h
  · next safety hsafety =>
    obtain ⟨-, -, h⟩ := bind_eq_ok.mp h
    split at h
    · exact .nothing h
    next hswitch =>
    split at h
    · exact .nothing h
    next hverified =>
    split at h
    · exact .nothing h
    next source hsource =>
    obtain ⟨hsmem, hlogical, hrevision⟩ := loadSource_eq_some hsource
    obtain ⟨-, -, h⟩ := bind_eq_ok.mp h
    split at h
    · exact .nothing h
    next hopen =>
    simp only at h
    have hstale : ∀ id ∈ (s.consents.filter fun c => c.campaignId = r.campaignId ∧ c.state = .active ∧
        c.expiresAtEpoch ≤ r.now).map (·.id), ∃ c ∈ s.consents, c.id = id ∧ c.campaignId = r.campaignId ∧
        c.state = .active := by
      intro id hmem
      obtain ⟨c, hc, rfl⟩ := List.mem_map.mp hmem
      rw [mem_filter, decide_eq_true_eq] at hc
      exact ⟨c, hc.1, rfl, hc.2.1, hc.2.2.1⟩
    split at h
    · exact ⟨_, _, (Except.ok.inj h).symm, .expire r grantId command _ hstale⟩
    next hscope =>
    obtain ⟨hdup, h⟩ := seq_eq_ok.mp h
    simp only [not_or, not_not, Bool.not_eq_false, Bool.not_eq_true] at hopen hswitch
    obtain ⟨hdigest, happroved, hq11, hunexpired, hparticipant, hmedia, hsame, hallowed, hvetoed⟩ := hopen
    have hmay : s.MayGrant r command campaign safety source :=
      { found := ⟨hmem, hid⟩
        switched := ⟨hsafety, hswitch⟩
        verified := by simpa using hverified
        source := ⟨hsmem, hlogical, hrevision, hdigest, by simpa using hparticipant⟩
        approved := ⟨happroved, hq11⟩
        unexpired := hunexpired
        media := hmedia
        sensitivities := ⟨hsame, hallowed⟩
        notVetoed := hvetoed
        alone := fun c hc hactive hsame => by
          by_contra hlate
          exact hscope (List.any_eq_true.mpr ⟨c, hc, decide_eq_true ⟨hactive, Nat.lt_of_not_le hlate, hsame⟩⟩) }
    refine ⟨_, _, (Except.ok.inj h).symm, .grantConsent r grantId command _ campaign safety source _ _ hfresh hmay hstale
      (fun c hc hactive hsame => ?_) (fun c hc heq => ?_) rfl⟩
    · have hcampaign : c.campaignId = r.campaignId := (of_decide_eq_true hsame).1
      exact List.mem_map_of_mem (mem_filter.mpr
        ⟨hc, decide_eq_true ⟨hcampaign, hactive, hmay.alone c hc hactive hsame⟩⟩)
    · rw [rejectIf_eq_ok] at hdup
      exact hdup ⟨c, hc, heq⟩

theorem revokeConsent_decides {requester : String} (h : revokeConsent r grantId requester s = .ok d) :
    Decided draw s (.revokeConsent r grantId requester) d := by
  refine .command h fun campaign _ _ hfresh h => ?_
  split at h
  · exact .nothing h
  next consent hfind =>
  split at h
  · exact .nothing h
  next hallowed =>
  have hid : consent.id = grantId := by simpa using List.find?_some hfind
  have hrevocable : consent.IsRevocableBy r.campaignId requester := by
    refine ⟨?_, ?_, fun heq => hallowed (.inr (.inr heq))⟩
    · by_contra hne
      exact hallowed (.inl hne)
    · by_contra hne
      exact hallowed (.inr (.inl hne))
  exact ⟨_, _, (Except.ok.inj h).symm,
    .revokeConsent r grantId requester consent _ hfresh (List.mem_of_find?_eq_some hfind) hid hrevocable⟩

theorem applyVeto_decides {vetoId : String} {scope : InspirationVetoScope}
    (h : applyVeto r vetoId participantId scope s = .ok d) :
    Decided draw s (.applyVeto r vetoId participantId scope) d := by
  refine .command h fun campaign _ _ hfresh h => ?_
  split at h
  · exact .nothing h
  next hverified =>
  have hverified' : s.participantIsVerified participantId = true := by simpa using hverified
  split at h
  · next sourceId revision digest =>
    split at h
    · exact .nothing h
    next source hsource =>
    obtain ⟨hsmem, hlogical, hrevision⟩ := loadSource_eq_some hsource
    obtain ⟨-, -, h⟩ := bind_eq_ok.mp h
    split at h
    · exact .nothing h
    next hopen =>
    obtain ⟨-, -, h⟩ := bind_eq_ok.mp h
    refine ⟨_, _, (Except.ok.inj h).symm, .applyVeto r vetoId participantId _ _ hfresh ⟨hverified', ?_⟩⟩
    intro sourceId' revision' digest' heq
    cases heq
    refine ⟨source, hsmem, hlogical, hrevision, ?_⟩
    by_contra hne
    exact hopen (.inl hne)
  · next hscope =>
    obtain ⟨-, -, h⟩ := bind_eq_ok.mp h
    refine ⟨_, _, (Except.ok.inj h).symm, .applyVeto r vetoId participantId _ _ hfresh ⟨hverified', ?_⟩⟩
    intro sourceId revision digest heq
    exact absurd heq (hscope sourceId revision digest)

theorem reserveSelection_decides {words : WordStream} {selectionId : String}
    {command : RequestInspirationSelectionCommand} {prompts : List EventPrompt} {now : Nat}
    (h : reserveSelection draw words deployment selectionId command prompts now s = .ok d) :
    Decided draw s (.reserveSelection words deployment selectionId command prompts now) d := by
  obtain ⟨campaign, hload, h⟩ := bind_eq_ok.mp h
  obtain ⟨hmem, hid⟩ := loadCampaign_eq_ok hload
  split at h
  · split at h
    · exact .nothing h
    · exact .nothing h
  next hfresh =>
  split at h
  · exact .nothing h
  next hrevision =>
  split at h
  · exact .nothing h
  next safety hsafety =>
  split at h
  · exact .nothing h
  next hsettings =>
  obtain ⟨window, hwindow, h⟩ := bind_eq_ok.mp h
  split at h
  · exact .nothing h
  next turnNumber =>
  obtain ⟨drawn, hdrawn, h⟩ := bind_eq_ok.mp h
  obtain ⟨hdup, h⟩ := seq_eq_ok.mp h
  refine ⟨_, _, (Except.ok.inj h).symm, .reserveSelection words deployment selectionId command prompts now campaign
    safety turnNumber drawn _ hmem hid hsafety (fun x hx hkey => ?_) (not_not.mp hrevision) (not_not.mp hsettings)
    hwindow hdrawn (fun x hx heq => ?_) rfl⟩
  · exact List.find?_eq_none.mp hfresh x hx (decide_eq_true hkey)
  · rw [rejectIf_eq_ok] at hdup
    exact hdup ⟨x, hx, heq⟩

theorem registerDerivedWork_decides {command : RegisterDerivedWorkCommand}
    (h : registerDerivedWork r command s = .ok d) :
    Decided draw s (.registerDerivedWork r command) d := by
  refine .command h fun campaign _ _ hfresh h => ?_
  split at h
  · exact .nothing h
  next x hfind =>
  split at h
  · exact .nothing h
  next binding hselected =>
  split at h
  · exact .nothing h
  next hmedia =>
  split at h
  · exact .nothing h
  next source hsource =>
  obtain ⟨hsmem, hlogical, hrevision⟩ := loadSource_eq_some hsource
  obtain ⟨hstored, h⟩ := seq_eq_ok.mp h
  split at h
  · exact .nothing h
  next hopen =>
  simp only at h
  split at h
  · exact .nothing h
  next hpolicies =>
  obtain ⟨-, -, h⟩ := bind_eq_ok.mp h
  have hx : x.id = command.selectionId ∧ x.campaignId = r.campaignId ∧ x.selected.isSome = true := by
    simpa using List.find?_some hfind
  have hnodup : source.participants.Nodup := by
    unfold SourceDocument.stored at hstored
    rw [rejectIf_eq_ok, not_not] at hstored
    exact hstored.1
  have hcount : (s.consents.filter (·.grants r.campaignId source x.media r.now)).length =
      source.participants.length := by
    by_contra hne
    exact hpolicies (.inl (by rw [List.length_map]; exact hne))
  have hvetoed : s.sourceIsVetoed r.campaignId source = false := by
    rw [← Bool.not_eq_true]
    exact fun hv => hopen (.inr hv)
  refine ⟨_, _, (Except.ok.inj h).symm, .registerDerivedWork r command x binding source _ _ hfresh
    ⟨⟨List.mem_of_find?_eq_some hfind, hx.1, hx.2.1⟩, hselected, not_not.mp hmedia, ⟨hsmem, hlogical, hrevision⟩, hnodup,
      hvetoed, hcount, fun c hc hgrants => ?_⟩ rfl hx.1.symm hlogical.symm hrevision.symm rfl⟩
  by_contra hrank
  refine hpolicies (.inr (List.any_eq_true.mpr ⟨c.artifactPolicy, ?_, decide_eq_true (Nat.lt_of_not_le hrank)⟩))
  exact List.mem_map_of_mem (mem_filter.mpr ⟨hc, hgrants⟩)

theorem commitSessionEvent_decides {active : Bool}
    {payload : SessionEventPayload} (h : commitSessionEvent campaignId expected active payload s = .ok d) :
    Decided draw s (.commitSessionEvent campaignId expected active payload) d := by
  obtain ⟨campaign, hload, h⟩ := bind_eq_ok.mp h
  obtain ⟨-, -, h⟩ := bind_eq_ok.mp h
  obtain ⟨-, -, h⟩ := bind_eq_ok.mp h
  rw [(loadCampaign_eq_ok hload).2] at h
  exact ⟨_, _, (Except.ok.inj h).symm, .commitSessionEvent campaignId expected active payload _⟩

/-- **Whatever is decided is one of these.** -/
theorem transact_decides (h : transact draw job s = .ok d) :
    Decided draw s job d := by
  cases job with
  | setGlobalInspirationControl r expected disabled => exact setGlobalInspirationControl_decides h
  | configureCampaign r deployment expected enabled setup => exact configureCampaign_decides h
  | setCampaignPause r expected paused => exact setCampaignPause_decides h
  | disableCampaign r expected => exact disableCampaign_decides h
  | verifyParticipant r participantId => exact verifyParticipant_decides h
  | registerSource r source => exact registerSource_decides h
  | reviewSource r sourceId version digest decision q11 => exact reviewSource_decides h
  | grantConsent r grantId command => exact grantConsent_decides h
  | revokeConsent r grantId requester => exact revokeConsent_decides h
  | applyVeto r vetoId participantId scope => exact applyVeto_decides h
  | reserveSelection words deployment selectionId command prompts now => exact reserveSelection_decides h
  | registerDerivedWork r command => exact registerDerivedWork_decides h
  | commitSessionEvent campaignId expected active payload => exact commitSessionEvent_decides h

end Inversion

/-! ## What every run keeps -/

/-- The work is derived from this version. -/
def WorkDocument.IsOf (w : WorkDocument) (d : SourceDocument) : Prop :=
  d.logicalId = w.sourceId ∧ d.revision = w.sourceRevision

/-- The consents are to the same, by the same participant. -/
def ConsentDocument.SameScope (c c' : ConsentDocument) : Prop :=
  c'.hasScope c.campaignId c.sourceId c.sourceRevision c.participantId c.audience c.media c.transformation = true

/-- **What is kept**: source versions and consents are told apart by their keys, a consent is by a participant of its
    source, the consents of a participant to a source are numbered from one on, and one at a time is active in a
    scope. -/
structure InspirationStore.Kept (s : InspirationStore) : Prop where
  sourceKeys : (s.sources.map fun d => (d.logicalId, d.revision)).Nodup
  consentIds : (s.consents.map (·.id)).Nodup
  consentOf : ∀ c ∈ s.consents, ∃ d ∈ s.sources, d.logicalId = c.sourceId ∧ d.revision = c.sourceRevision ∧
    c.participantId ∈ d.participants
  positive : ∀ c ∈ s.consents, 1 ≤ c.version
  numbered : ∀ c ∈ s.consents, ∀ n, 1 ≤ n → n ≤ c.version →
    ∃ c' ∈ s.consents, c'.IsVersion c.campaignId c.sourceId c.participantId n
  versions : ∀ c ∈ s.consents, ∀ c' ∈ s.consents, c'.IsVersion c.campaignId c.sourceId c.participantId c.version →
    c.id = c'.id
  oneActive : ∀ c ∈ s.consents, ∀ c' ∈ s.consents, c.state = .active → c'.state = .active → c.SameScope c' →
    c.id = c'.id
  workOf : ∀ w ∈ s.work, ∃ d ∈ s.sources, w.IsOf d

/-- **How a store grows**: a source version is only reviewed, a consent is only withdrawn. -/
structure InspirationStore.Grown (s s' : InspirationStore) : Prop where
  sources : ∀ d ∈ s.sources, ∃ d' ∈ s'.sources,
    d' = { d with reviewState := d'.reviewState, q11Screened := d'.q11Screened }
  consents : ∀ c ∈ s.consents, ∃ c' ∈ s'.consents, c' = { c with state := c'.state } ∧
    (c'.state = .active → c.state = .active)
  vetoes : ∀ v ∈ s.vetoes, v ∈ s'.vetoes
  selections : ∀ x ∈ s.selections, x ∈ s'.selections

namespace InspirationStore

theorem Grown.refl (s : InspirationStore) : s.Grown s where
  sources := fun d hd => ⟨d, hd, rfl⟩
  consents := fun c hc => ⟨c, hc, rfl, id⟩
  vetoes := fun _ h => h
  selections := fun _ h => h

theorem Grown.trans {s s' s'' : InspirationStore} (h : s.Grown s') (h' : s'.Grown s'') : s.Grown s'' where
  sources := fun d hd => by
    obtain ⟨d', hd', heq⟩ := h.sources d hd
    obtain ⟨d'', hd'', heq'⟩ := h'.sources d' hd'
    exact ⟨d'', hd'', by rw [heq', heq]⟩
  consents := fun c hc => by
    obtain ⟨c', hc', heq, hactive⟩ := h.consents c hc
    obtain ⟨c'', hc'', heq', hactive'⟩ := h'.consents c' hc'
    exact ⟨c'', hc'', by rw [heq', heq], fun hc => hactive (hactive' hc)⟩
  vetoes := fun v hv => h'.vetoes v (h.vetoes v hv)
  selections := fun x hx => h'.selections x (h.selections x hx)

/-- What is kept does not look at anything but sources, consents and work. -/
theorem Kept.same {s t : InspirationStore} (h : s.Kept) (hsources : t.sources = s.sources)
    (hconsents : t.consents = s.consents)
    (hwork : ∀ w ∈ t.work, ∃ w' ∈ s.work, w' = { w with state := w'.state }) : t.Kept where
  sourceKeys := hsources ▸ h.sourceKeys
  consentIds := hconsents ▸ h.consentIds
  consentOf := by rw [hsources, hconsents]; exact h.consentOf
  positive := by rw [hconsents]; exact h.positive
  numbered := by rw [hconsents]; exact h.numbered
  versions := by rw [hconsents]; exact h.versions
  oneActive := by rw [hconsents]; exact h.oneActive
  workOf := fun w hw => by
    obtain ⟨w', hw', heq⟩ := hwork w hw
    obtain ⟨d, hd, hof⟩ := h.workOf w' hw'
    rw [heq] at hof
    exact ⟨d, hsources ▸ hd, hof⟩

end InspirationStore

variable {state : WorkState} {work : List WorkDocument}

theorem mem_work_updateWhere {p : WorkDocument → Bool}
    {w : WorkDocument} (h : w ∈ updateWhere p (fun w => { w with state }) work) :
    ∃ w' ∈ work, w' = { w with state := w'.state } := by
  rcases mem_updateWhere.mp h with ⟨w', hw', -, rfl⟩ | ⟨hw, -⟩
  · exact ⟨w', hw', rfl⟩
  · exact ⟨w, hw, rfl⟩

theorem mem_work_updateById {id : String} {w : WorkDocument}
    (h : w ∈ updateById (·.id) id (fun w => { w with state }) work) : ∃ w' ∈ work, w' = { w with state := w'.state } := by
  rcases mem_updateById.mp h with ⟨w', hw', -, rfl⟩ | ⟨hw, -⟩
  · exact ⟨w', hw', rfl⟩
  · exact ⟨w, hw, rfl⟩

/-- A write that needs nothing to be known for what is kept: it adds no source, consent or work. -/
def Write.isPlain : Write → Bool
  | .insertSource _ | .insertConsent _ | .insertWork _ => false
  | .consentState _ state => state ≠ .active
  | _ => true

namespace InspirationStore

variable {s : InspirationStore} {c : ConsentDocument}

theorem Kept.review (h : s.Kept) (logicalId : String) (revision : Nat)
    (state : SourceReviewState) (q11 : Bool) :
    ((Write.review logicalId revision state q11).apply s).Kept ∧
      s.Grown ((Write.review logicalId revision state q11).apply s) := by
  have hgrown : s.Grown ((Write.review logicalId revision state q11).apply s) :=
    { Grown.refl s with
      sources := fun d hd => by
        by_cases hp : decide (d.logicalId = logicalId ∧ d.revision = revision) = true
        · exact ⟨{ d with reviewState := state, q11Screened := q11 },
            mem_updateWhere.mpr (.inl ⟨d, hd, hp, rfl⟩), rfl⟩
        · exact ⟨d, mem_updateWhere.mpr (.inr ⟨hd, Bool.not_eq_true _ ▸ hp⟩), rfl⟩ }
  have hfind : ∀ d ∈ s.sources, ∃ d' ∈ ((Write.review logicalId revision state q11).apply s).sources,
      d'.logicalId = d.logicalId ∧ d'.revision = d.revision ∧ d'.participants = d.participants := fun d hd => by
    obtain ⟨d', hd', heq⟩ := hgrown.sources d hd
    exact ⟨d', hd', by rw [heq], by rw [heq], by rw [heq]⟩
  refine ⟨{ h with sourceKeys := ?_, consentOf := fun c hc => ?_, workOf := fun w hw => ?_ }, hgrown⟩
  · have hkeys : (updateWhere (fun d : SourceDocument => decide (d.logicalId = logicalId ∧ d.revision = revision))
        (fun d => { d with reviewState := state, q11Screened := q11 }) s.sources).map
        (fun d => (d.logicalId, d.revision)) = s.sources.map fun d => (d.logicalId, d.revision) := by
      unfold updateWhere
      rw [List.map_map]
      refine List.map_congr_left fun d _ => ?_
      simp only [Function.comp]
      split <;> rfl
    exact hkeys ▸ h.sourceKeys
  · obtain ⟨d, hd, hlogical, hrevision, hparticipant⟩ := h.consentOf c hc
    obtain ⟨d', hd', hl, hr, hp⟩ := hfind d hd
    exact ⟨d', hd', hl.trans hlogical, hr.trans hrevision, hp ▸ hparticipant⟩
  · obtain ⟨d, hd, hof⟩ := h.workOf w hw
    obtain ⟨d', hd', hl, hr, -⟩ := hfind d hd
    exact ⟨d', hd', hl.trans hof.1, hr.trans hof.2⟩

theorem Kept.consentState (h : s.Kept) (ids : List String) {state : ConsentGrantState}
    (hstate : state ≠ .active) :
    ((Write.consentState ids state).apply s).Kept ∧ s.Grown ((Write.consentState ids state).apply s) := by
  have hback : ∀ c ∈ ((Write.consentState ids state).apply s).consents, ∃ c' ∈ s.consents,
      c' = { c with state := c'.state } ∧ (c.state = .active → c = c') := fun c hc => by
    rcases mem_updateWhere.mp hc with ⟨c', hc', -, rfl⟩ | ⟨hc, -⟩
    · exact ⟨c', hc', rfl, fun hactive => absurd hactive hstate⟩
    · exact ⟨c, hc, rfl, fun _ => rfl⟩
  have hgrown : s.Grown ((Write.consentState ids state).apply s) :=
    { Grown.refl s with
      consents := fun c hc => by
        by_cases hp : ids.contains c.id = true
        · exact ⟨{ c with state }, mem_updateWhere.mpr (.inl ⟨c, hc, hp, rfl⟩), rfl,
            fun hactive => absurd hactive hstate⟩
        · exact ⟨c, mem_updateWhere.mpr (.inr ⟨hc, Bool.not_eq_true _ ▸ hp⟩), rfl, id⟩ }
  refine ⟨⟨h.sourceKeys, ?_, fun c hc => ?_, fun c hc => ?_, fun c hc n hn hle => ?_, fun c hc c' hc' hversion => ?_,
    fun c hc c' hc' hactive hactive' hscope => ?_, h.workOf⟩, hgrown⟩
  · have hids : (updateWhere (fun c : ConsentDocument => ids.contains c.id) (fun c => { c with state }) s.consents).map
        ConsentDocument.id = s.consents.map ConsentDocument.id := map_id_updateWhere fun _ => by rfl
    exact hids ▸ h.consentIds
  · obtain ⟨c', hc', heq, -⟩ := hback c hc
    have := h.consentOf c' hc'
    rw [heq] at this
    exact this
  · obtain ⟨c', hc', heq, -⟩ := hback c hc
    have := h.positive c' hc'
    rw [heq] at this
    exact this
  · obtain ⟨c₀, hc₀, heq, -⟩ := hback c hc
    have hnum := h.numbered c₀ hc₀ n hn (by rw [heq]; exact hle)
    rw [heq] at hnum
    obtain ⟨c₁, hc₁, hversion⟩ := hnum
    obtain ⟨c₂, hc₂, heq₂, -⟩ := hgrown.consents c₁ hc₁
    exact ⟨c₂, hc₂, by rw [heq₂]; exact hversion⟩
  · obtain ⟨c₀, hc₀, heq, -⟩ := hback c hc
    obtain ⟨c₁, hc₁, heq₁, -⟩ := hback c' hc'
    have := h.versions c₀ hc₀ c₁ hc₁ (by rw [heq, heq₁]; exact hversion)
    rw [heq, heq₁] at this
    exact this
  · obtain ⟨c₀, hc₀, -, hsame⟩ := hback c hc
    obtain ⟨c₁, hc₁, -, hsame₁⟩ := hback c' hc'
    obtain rfl := hsame hactive
    obtain rfl := hsame₁ hactive'
    exact h.oneActive c hc₀ c' hc₁ hactive hactive' hscope

theorem Kept.write (h : s.Kept) {w : Write} (hplain : w.isPlain = true) :
    (w.apply s).Kept ∧ s.Grown (w.apply s) := by
  cases w with
  | control c => exact ⟨h.same rfl rfl fun w hw => ⟨w, hw, rfl⟩, { Grown.refl s with }⟩
  | safety campaignId settings => exact ⟨h.same rfl rfl fun w hw => ⟨w, hw, rfl⟩, { Grown.refl s with }⟩
  | rngCursor campaignId cursor => exact ⟨h.same rfl rfl fun w hw => ⟨w, hw, rfl⟩, { Grown.refl s with }⟩
  | turn campaignId active event => exact ⟨h.same rfl rfl fun w hw => ⟨w, hw, rfl⟩, { Grown.refl s with }⟩
  | participant p => exact ⟨h.same rfl rfl fun w hw => ⟨w, hw, rfl⟩, { Grown.refl s with }⟩
  | insertSource d => cases hplain
  | review logicalId revision state q11 => exact h.review logicalId revision state q11
  | insertConsent c => cases hplain
  | consentState ids state => exact h.consentState ids (of_decide_eq_true hplain)
  | insertVeto v =>
    exact ⟨h.same rfl rfl fun w hw => ⟨w, hw, rfl⟩,
      { Grown.refl s with vetoes := fun _ hv => mem_append_left _ hv }⟩
  | insertSelection x =>
    exact ⟨h.same rfl rfl fun w hw => ⟨w, hw, rfl⟩,
      { Grown.refl s with selections := fun _ hx => mem_append_left _ hx }⟩
  | insertWork w => cases hplain
  | cancelWork ids => exact ⟨h.same rfl rfl fun w hw => mem_work_updateWhere hw, { Grown.refl s with }⟩
  | workState id state => exact ⟨h.same rfl rfl fun w hw => mem_work_updateById hw, { Grown.refl s with }⟩
  | redactPresentation id => exact ⟨h.same rfl rfl fun w hw => ⟨w, hw, rfl⟩, { Grown.refl s with }⟩
  | deletePresentation id => exact ⟨h.same rfl rfl fun w hw => ⟨w, hw, rfl⟩, { Grown.refl s with }⟩
  | insertReceipt x => exact ⟨h.same rfl rfl fun w hw => ⟨w, hw, rfl⟩, { Grown.refl s with }⟩
  | insertTombstone t => exact ⟨h.same rfl rfl fun w hw => ⟨w, hw, rfl⟩, { Grown.refl s with }⟩
  | deleteTombstones ids => exact ⟨h.same rfl rfl fun w hw => ⟨w, hw, rfl⟩, { Grown.refl s with }⟩

theorem Kept.writes (h : s.Kept) {writes : List Write}
    (hplain : ∀ w ∈ writes, w.isPlain = true) : (applyAll writes s).Kept ∧ s.Grown (applyAll writes s) := by
  induction writes generalizing s with
  | nil => exact ⟨h, Grown.refl s⟩
  | cons w writes ih =>
    obtain ⟨hkept, hgrown⟩ := h.write (hplain w mem_cons_self)
    obtain ⟨hkept', hgrown'⟩ := ih hkept fun w hw => hplain w (List.mem_cons_of_mem _ hw)
    exact ⟨hkept', hgrown.trans hgrown'⟩

/-! ## Insertions -/

theorem Kept.insertSource (h : s.Kept) {d : SourceDocument}
    (hfresh : ∀ d' ∈ s.sources, ¬ (d'.logicalId = d.logicalId ∧ d'.revision = d.revision)) :
    ((Write.insertSource d).apply s).Kept ∧ s.Grown ((Write.insertSource d).apply s) := by
  refine ⟨{ h with sourceKeys := ?_, consentOf := fun c hc => ?_, workOf := fun w hw => ?_ },
    { Grown.refl s with sources := fun d' hd' => ⟨d', mem_append_left _ hd', rfl⟩ }⟩
  · refine nodup_map_append h.sourceKeys fun d' hd' heq => hfresh d' hd' ?_
    exact ⟨congrArg Prod.fst heq, congrArg Prod.snd heq⟩
  · obtain ⟨d', hd', hof⟩ := h.consentOf c hc
    exact ⟨d', mem_append_left _ hd', hof⟩
  · obtain ⟨d', hd', hof⟩ := h.workOf w hw
    exact ⟨d', mem_append_left _ hd', hof⟩

theorem Kept.insertWork (h : s.Kept) {w : WorkDocument} (hof : ∃ d ∈ s.sources, w.IsOf d) :
    ((Write.insertWork w).apply s).Kept ∧ s.Grown ((Write.insertWork w).apply s) := by
  refine ⟨{ h with workOf := fun w' hw' => ?_ }, { Grown.refl s with }⟩
  rcases mem_append.mp hw' with hw' | hw'
  · exact h.workOf w' hw'
  · rw [mem_singleton.mp hw']
    exact hof

/-- What is to be known of a consent that is added. -/
structure Admits (s : InspirationStore) (c : ConsentDocument) : Prop where
  fresh : ∀ c' ∈ s.consents, c'.id ≠ c.id
  source : ∃ d ∈ s.sources, d.logicalId = c.sourceId ∧ d.revision = c.sourceRevision ∧ c.participantId ∈ d.participants
  positive : 1 ≤ c.version
  earlier : ∀ n, 1 ≤ n → n < c.version → ∃ c' ∈ s.consents, c'.IsVersion c.campaignId c.sourceId c.participantId n
  latest : ∀ c' ∈ s.consents, c'.IsVersion c.campaignId c.sourceId c.participantId c'.version → c'.version < c.version
  alone : ∀ c' ∈ s.consents, c'.state = .active → ¬ c.SameScope c'

theorem SameScope_symm {c' : ConsentDocument} (h : c.SameScope c') : c'.SameScope c := by
  unfold ConsentDocument.SameScope ConsentDocument.hasScope at h ⊢
  rw [decide_eq_true_eq] at h ⊢
  obtain ⟨h₁, h₂, h₃, h₄, h₅, h₆, h₇⟩ := h
  exact ⟨h₁.symm, h₂.symm, h₃.symm, h₄.symm, h₅.symm, h₆.symm, h₇.symm⟩

theorem Kept.insertConsent (h : s.Kept) (hadmits : s.Admits c) :
    ((Write.insertConsent c).apply s).Kept ∧ s.Grown ((Write.insertConsent c).apply s) := by
  have hmem : ∀ x, x ∈ ((Write.insertConsent c).apply s).consents → x ∈ s.consents ∨ x = c := fun x hx => by
    rcases mem_append.mp hx with hx | hx
    · exact .inl hx
    · exact .inr (mem_singleton.mp hx)
  refine ⟨⟨h.sourceKeys, nodup_map_append h.consentIds hadmits.fresh, fun x hx => ?_, fun x hx => ?_, fun x hx n hn hle => ?_,
    fun x hx y hy hversion => ?_, fun x hx y hy hactive hactive' hscope => ?_, h.workOf⟩,
    { Grown.refl s with consents := fun x hx => ⟨x, mem_append_left _ hx, rfl, id⟩ }⟩
  · rcases hmem x hx with hx | rfl
    · exact h.consentOf x hx
    · exact hadmits.source
  · rcases hmem x hx with hx | rfl
    · exact h.positive x hx
    · exact hadmits.positive
  · rcases hmem x hx with hx | rfl
    · obtain ⟨x', hx', hversion⟩ := h.numbered x hx n hn hle
      exact ⟨x', mem_append_left _ hx', hversion⟩
    · by_cases heq : n = x.version
      · exact ⟨x, List.mem_append_right _ mem_cons_self, rfl, rfl, rfl, heq.symm⟩
      · obtain ⟨x', hx', hversion⟩ := hadmits.earlier n hn (by omega)
        exact ⟨x', mem_append_left _ hx', hversion⟩
  · rcases hmem x hx with hxs | hxc
    · rcases hmem y hy with hys | rfl
      · exact h.versions x hxs y hys hversion
      · obtain ⟨h₁, h₂, h₃, h₄⟩ := hversion
        have := hadmits.latest x hxs ⟨h₁.symm, h₂.symm, h₃.symm, rfl⟩
        omega
    · subst hxc
      rcases hmem y hy with hys | rfl
      · obtain ⟨h₁, h₂, h₃, h₄⟩ := hversion
        have := hadmits.latest y hys ⟨h₁, h₂, h₃, rfl⟩
        omega
      · rfl
  · rcases hmem x hx with hxs | hxc
    · rcases hmem y hy with hys | rfl
      · exact h.oneActive x hxs y hys hactive hactive' hscope
      · exact absurd (SameScope_symm hscope) (hadmits.alone x hxs hactive)
    · subst hxc
      rcases hmem y hy with hys | rfl
      · exact absurd hscope (hadmits.alone y hys hactive')
      · rfl

/-- The next version is the one after all that there are. -/
theorem nextVersion_spec (h : s.Kept) (campaignId sourceId participantId : String) :
    (∀ n, 1 ≤ n → n < s.nextVersion campaignId sourceId participantId →
      ∃ c ∈ s.consents, c.IsVersion campaignId sourceId participantId n) ∧
    ∀ c ∈ s.consents, c.IsVersion campaignId sourceId participantId c.version →
      c.version < s.nextVersion campaignId sourceId participantId := by
  unfold nextVersion
  cases hmax : ((s.consents.filter fun c => c.campaignId = campaignId ∧ c.sourceId = sourceId ∧
      c.participantId = participantId).map (·.version)).max? with
  | none =>
    rw [List.max?_eq_none_iff, List.map_eq_nil_iff, List.filter_eq_nil_iff] at hmax
    constructor
    · intro n hn hlt
      simp only [Option.getD_none] at hlt
      omega
    · rintro c hc ⟨h₁, h₂, h₃, -⟩
      exact absurd (decide_eq_true ⟨h₁, h₂, h₃⟩) (hmax c hc)
  | some m =>
    obtain ⟨hm, hle⟩ := List.max?_eq_some_iff.mp hmax
    obtain ⟨c, hc, rfl⟩ := List.mem_map.mp hm
    rw [mem_filter, decide_eq_true_eq] at hc
    obtain ⟨hc, rfl, rfl, rfl⟩ := hc
    rw [Option.getD_some]
    constructor
    · intro n hn hlt
      exact h.numbered c hc n hn (by omega)
    · rintro c' hc' ⟨h₁, h₂, h₃, -⟩
      have := hle c'.version (List.mem_map_of_mem (mem_filter.mpr ⟨hc', decide_eq_true ⟨h₁, h₂, h₃⟩⟩))
      omega

variable {s' : InspirationStore} {campaignId sourceId participantId : String}

/-- **The next version of a snapshot is still the next one** where it can be written. -/
theorem nextVersion_agrees (h : s.Kept) (h' : s'.Kept) (hgrown : s.Grown s')
    (hagree : agree (.consentVersion campaignId sourceId participantId
      (s.nextVersion campaignId sourceId participantId)) s s') :
    (∀ n, 1 ≤ n → n < s.nextVersion campaignId sourceId participantId →
      ∃ c ∈ s'.consents, c.IsVersion campaignId sourceId participantId n) ∧
    ∀ c ∈ s'.consents, c.IsVersion campaignId sourceId participantId c.version →
      c.version < s.nextVersion campaignId sourceId participantId := by
  obtain ⟨hearlier, hlatest⟩ := nextVersion_spec h campaignId sourceId participantId
  constructor
  · intro n hn hlt
    obtain ⟨c, hc, hversion⟩ := hearlier n hn hlt
    obtain ⟨c', hc', heq, -⟩ := hgrown.consents c hc
    exact ⟨c', hc', by rw [heq]; exact hversion⟩
  · rintro c hc ⟨rfl, rfl, rfl, -⟩
    by_contra hge
    obtain ⟨c', hc', hversion⟩ := h'.numbered c hc _ (Nat.succ_le_succ (Nat.zero_le _)) (Nat.le_of_not_lt hge)
    obtain ⟨c₀, hc₀, h₁, h₂, h₃, h₄⟩ := (show _ ↔ _ from hagree).mpr ⟨c', hc', hversion⟩
    have := hlatest c₀ hc₀ ⟨h₁, h₂, h₃, rfl⟩
    omega

/-- A consent of a participant to a source that a snapshot has not seen would have the next version. -/
theorem consent_seen (h : s.Kept) (h' : s'.Kept) (hgrown : s.Grown s')
    (hagree : agree (.consentVersion campaignId sourceId participantId
      (s.nextVersion campaignId sourceId participantId)) s s') (hc : c ∈ s'.consents)
    (hof : c.IsVersion campaignId sourceId participantId c.version) :
    ∃ c₀ ∈ s.consents, c = { c₀ with state := c.state } ∧ (c.state = .active → c₀.state = .active) := by
  have hlt := (nextVersion_agrees h h' hgrown hagree).2 c hc hof
  obtain ⟨c₀, hc₀, hversion⟩ := (nextVersion_spec h campaignId sourceId participantId).1 c.version (h'.positive c hc) hlt
  obtain ⟨c', hc', heq, hactive⟩ := hgrown.consents c₀ hc₀
  have hid : c.id = c'.id := by
    refine h'.versions c hc c' hc' ?_
    obtain ⟨h₁, h₂, h₃, h₄⟩ := hof
    rw [heq, h₁, h₂, h₃]
    exact hversion
  obtain rfl := List.inj_on_of_nodup_map h'.consentIds hc hc' hid
  exact ⟨c₀, hc₀, heq, hactive⟩

end InspirationStore

/-! ## Sweeps only sweep -/

variable {w : Write} {s : InspirationStore}

theorem isPlain_of_isSweep (h : w.isSweep = true) : w.isPlain = true := by
  cases w <;> first | rfl | cases h

theorem completedWorkPolicy_isSweep {x : WorkDocument}
    (hw : w ∈ s.completedWorkPolicy x) : w.isSweep = true := by
  unfold InspirationStore.completedWorkPolicy at hw
  split at hw
  · cases hw
  split at hw
  · split at hw <;> simp only [mem_cons, List.not_mem_nil, or_false] at hw
    · rcases hw with rfl | rfl <;> rfl
    · rw [hw]
      rfl
  all_goals
    rw [mem_append, mem_singleton] at hw
    rcases hw with hw | rfl
    · split at hw
      · rw [mem_singleton.mp hw]
        rfl
      · cases hw
    · rfl

theorem sweepWork_isSweep {inScope : WorkDocument → Bool}
    (hw : w ∈ s.sweepWork inScope) : w.isSweep = true := by
  rcases mem_cons.mp hw with rfl | hw
  · rfl
  · obtain ⟨x, -, hx⟩ := List.mem_flatMap.mp hw
    exact completedWorkPolicy_isSweep hx

theorem quarantineAll_isSweep (hw : w ∈ s.quarantineAll) : w.isSweep = true := by
  rcases mem_cons.mp hw with rfl | hw
  · rfl
  obtain ⟨x, -, hx⟩ := List.mem_flatMap.mp hw
  unfold InspirationStore.quarantineWork at hx
  split at hx
  · cases hx
  split at hx
  · simp only [mem_cons, List.not_mem_nil, or_false] at hx
    rcases hx with rfl | rfl <;> rfl
  · cases hx

/-- Most commands write nothing that has to be checked against other documents. -/
theorem forall_isPlain_append {writes : List Write} {x : ReceiptDocument} (h : ∀ w ∈ writes, w.isPlain = true) :
    ∀ w ∈ writes ++ [.insertReceipt x], w.isPlain = true := by
  intro w hw
  rcases mem_append.mp hw with hw | hw
  · exact h w hw
  · rw [mem_singleton.mp hw]
    rfl

/-! ## Commits -/

section Commits

variable {draw : WeightedDraw} {s s' : InspirationStore} {job : InspirationJob} {writes : List Write}

theorem admits_grant (h : s.Kept) (h' : s'.Kept) (hgrown : s.Grown s') {r : Request} {grantId : String}
    {command : GrantConsentCommand} {stale : List String} {source : SourceDocument} {consent : ConsentDocument}
    (hsource : source ∈ s.sources) (hopen : source.IsOpenTo command)
    (hscope : ∀ c ∈ s.consents, c.state = .active → c.hasScope r.campaignId command.sourceId command.sourceVersion
      command.participantId command.audience command.media command.transformation = true → c.id ∈ stale)
    (hfresh : ∀ c ∈ s.consents, c.id ≠ grantId)
    (hconsent : consent = { id := grantId, campaignId := r.campaignId, sourceId := command.sourceId
                            sourceRevision := command.sourceVersion, sourceDigest := command.sourceDigest
                            participantId := command.participantId
                            version := s.nextVersion r.campaignId command.sourceId command.participantId
                            audience := command.audience, media := command.media
                            transformation := command.transformation, artifactPolicy := command.artifactPolicy
                            sensitivities := command.sensitivityCodes, state := .active
                            expiresAtEpoch := command.expiresAtEpoch })
    (hid : InspirationStore.agree (.consent grantId) s s')
    (hversion : InspirationStore.agree (.consentVersion r.campaignId command.sourceId command.participantId
      (s.nextVersion r.campaignId command.sourceId command.participantId)) s s') :
    ((Write.consentState stale .expired).apply s').Admits consent := by
  obtain ⟨hearlier, hlatest⟩ := InspirationStore.nextVersion_agrees h h' hgrown hversion
  have hback : ∀ c ∈ ((Write.consentState stale .expired).apply s').consents, ∃ c' ∈ s'.consents,
      c' = { c with state := c'.state } ∧ (c.state = .active → c = c' ∧ c.id ∉ stale) := fun c hc => by
    rcases mem_updateWhere.mp hc with ⟨c', hc', -, rfl⟩ | ⟨hc, hstale⟩
    · exact ⟨c', hc', rfl, fun hactive => nomatch hactive⟩
    · exact ⟨c, hc, rfl, fun _ => ⟨rfl, by simpa using hstale⟩⟩
  subst hconsent
  refine ⟨fun c hc heq => ?_, ?_, Nat.succ_le_succ (Nat.zero_le _), fun n hn hlt => ?_, fun c hc hof => ?_,
    fun c hc hactive hsame => ?_⟩
  · obtain ⟨c', hc', hc'eq, -⟩ := hback c hc
    have hid' : c'.id = grantId := by rw [hc'eq]; exact heq
    exact hfresh c' ((hid c' hid').mpr hc') hid'
  · obtain ⟨d, hd, heq⟩ := hgrown.sources source hsource
    exact ⟨d, hd, by rw [heq]; exact hopen.logicalId, by rw [heq]; exact hopen.revision,
      by rw [heq]; exact hopen.participant⟩
  · obtain ⟨c, hc, hof⟩ := hearlier n hn hlt
    obtain ⟨c', hc', heq, -⟩ := (h'.consentState stale (by decide : ConsentGrantState.expired ≠ .active)).2.consents c hc
    exact ⟨c', hc', by rw [heq]; exact hof⟩
  · obtain ⟨c', hc', heq, -⟩ := hback c hc
    have := hlatest c' hc' (by rw [heq]; exact hof)
    rw [heq] at this
    exact this
  · obtain ⟨c', hc', -, hsame'⟩ := hback c hc
    obtain ⟨rfl, hstale⟩ := hsame' hactive
    unfold ConsentDocument.SameScope ConsentDocument.hasScope at hsame
    rw [decide_eq_true_eq] at hsame
    obtain ⟨h₁, h₂, h₃, h₄, h₅, h₆, h₇⟩ := hsame
    obtain ⟨c₀, hc₀, heq, hactive₀⟩ := InspirationStore.consent_seen h h' hgrown hversion hc' ⟨h₁, h₂, h₄, rfl⟩
    refine hstale ?_
    have hmem := hscope c₀ hc₀ (hactive₀ hactive) ?_
    · rw [heq]
      exact hmem
    · rw [heq] at h₁ h₂ h₃ h₄ h₅ h₆ h₇
      exact decide_eq_true ⟨h₁, h₂, h₃, h₄, h₅, h₆, h₇⟩

/-- **Every commit keeps it**, and the store grows. -/
theorem Decides.kept (h : s.Kept) (h' : s'.Kept) (hgrown : s.Grown s') (hdecides : Decides draw s job writes)
    (hagree : ∀ k ∈ writes.flatMap Write.keys, InspirationStore.agree k s s') :
    (applyAll writes s').Kept ∧ s'.Grown (applyAll writes s') := by
  cases hdecides
  case nothing => exact ⟨h', InspirationStore.Grown.refl s'⟩
  case setGlobalInspirationControl r expected disabled control receipt _ _ hdisabled =>
    refine h'.writes (forall_mem_cons.mpr ⟨rfl, forall_isPlain_append fun w hw => ?_⟩)
    split at hw
    · exact isPlain_of_isSweep (quarantineAll_isSweep hw)
    · cases hw
  case configureCampaign r deployment expected enabled setup campaign safety receipt _ _ _ _ _ _ =>
    refine h'.writes (forall_mem_cons.mpr ⟨rfl, forall_isPlain_append fun w hw => ?_⟩)
    split at hw
    · cases hw
    · rcases mem_cons.mp hw with rfl | hw
      · rfl
      · exact isPlain_of_isSweep (sweepWork_isSweep hw)
  case setCampaignPause => exact h'.writes (by simp [Write.isPlain])
  case disableCampaign =>
    refine h'.writes (forall_mem_cons.mpr ⟨rfl, forall_mem_cons.mpr
      ⟨rfl, forall_isPlain_append fun w hw => isPlain_of_isSweep (sweepWork_isSweep hw)⟩⟩)
  case verifyParticipant => exact h'.writes (by simp [Write.isPlain])
  case clearTombstones => exact h'.writes (by simp [Write.isPlain])
  case registerSource r source source' receipt hnone =>
    have hfresh : ∀ d ∈ s'.sources, ¬ (d.logicalId = source'.logicalId ∧ d.revision = source'.revision) := by
      intro d hd hkey
      have hd' := (hagree (.source source'.logicalId source'.revision) mem_cons_self d hkey).mpr hd
      have := List.find?_eq_none.mp hnone d hd'
      exact this (decide_eq_true hkey)
    obtain ⟨hkept, hg⟩ := h'.insertSource hfresh
    obtain ⟨hkept', hg'⟩ := hkept.write (show Write.isPlain (.insertReceipt receipt) = true from rfl)
    exact ⟨hkept', hg.trans hg'⟩
  case reviewSource => exact h'.writes (by simp [Write.isPlain])
  case expire => exact h'.writes (by simp [Write.isPlain])
  case grantConsent r grantId command stale campaign safety source consent receipt _ hmay hstale hscope hfresh
      hconsent =>
    obtain ⟨hkept, hg⟩ := h'.consentState stale (by decide : ConsentGrantState.expired ≠ .active)
    have hkeys : ∀ k ∈ (Write.insertConsent consent).keys, InspirationStore.agree k s s' := fun k hk =>
      hagree k (List.mem_append_right _ (mem_append_left _ hk))
    have hid : InspirationStore.agree (.consent grantId) s s' := by
      refine hkeys _ ?_
      rw [hconsent]
      exact mem_cons_self
    have hversion : InspirationStore.agree (.consentVersion r.campaignId command.sourceId command.participantId
        (s.nextVersion r.campaignId command.sourceId command.participantId)) s s' := by
      refine hkeys _ ?_
      rw [hconsent]
      exact List.mem_cons_of_mem _ mem_cons_self
    obtain ⟨hkept₁, hg₁⟩ := hkept.insertConsent
      (admits_grant h h' hgrown hmay.source.1 hmay.source.2 hscope hfresh hconsent hid hversion)
    obtain ⟨hkept₂, hg₂⟩ := hkept₁.write (show Write.isPlain (.insertReceipt receipt) = true from rfl)
    exact ⟨hkept₂, (hg.trans hg₁).trans hg₂⟩
  case revokeConsent =>
    exact h'.writes (forall_mem_cons.mpr
      ⟨rfl, forall_isPlain_append fun w hw => isPlain_of_isSweep (sweepWork_isSweep hw)⟩)
  case applyVeto =>
    exact h'.writes (forall_mem_cons.mpr
      ⟨rfl, forall_isPlain_append fun w hw => isPlain_of_isSweep (sweepWork_isSweep hw)⟩)
  case reserveSelection => exact h'.writes (by simp [Write.isPlain])
  case registerDerivedWork r command x binding d work receipt _ hmay hcampaign _ hsource hrevision _ =>
    have hof : ∃ d' ∈ s'.sources, work.IsOf d' := by
      obtain ⟨d', hd', heq⟩ := hgrown.sources d hmay.source.1
      exact ⟨d', hd', by rw [heq]; exact hsource.symm, by rw [heq]; exact hrevision.symm⟩
    obtain ⟨hkept, hg⟩ := h'.insertWork hof
    obtain ⟨hkept', hg'⟩ := hkept.write (show Write.isPlain (.insertReceipt receipt) = true from rfl)
    exact ⟨hkept', hg.trans hg'⟩
  case commitSessionEvent => exact h'.writes (by simp [Write.isPlain])

end Commits

theorem kept_new (campaigns : List InspirationCampaignDocument) (party : List PartyCharacter) :
    (InspirationStore.new campaigns party).Kept where
  sourceKeys := List.nodup_nil
  consentIds := List.nodup_nil
  consentOf := fun c hc => by cases hc
  positive := fun c hc => by cases hc
  numbered := fun c hc => by cases hc
  versions := fun c hc => by cases hc
  oneActive := fun c hc => by cases hc
  workOf := fun w hw => by cases hw

/-- **The transactions, for what is kept.** -/
theorem transact_isolated (draw : WeightedDraw) : Isolated (transact draw) InspirationStore.agree (fun _ => True)
    InspirationStore.Kept InspirationStore.Grown where
  agree_refl := InspirationStore.agree_refl
  agree_trans := InspirationStore.agree_trans
  framed := fun hbody k hk s' => by
    obtain ⟨writes, answer, rfl, -⟩ := transact_decides hbody
    exact applyAll_framed hk s'
  later_refl := InspirationStore.Grown.refl
  later_trans := InspirationStore.Grown.trans
  commit := fun h h' hgrown _ hbody hagree => by
    obtain ⟨writes, answer, rfl, hdecides⟩ := transact_decides hbody
    exact hdecides.kept h h' hgrown hagree

end ManchesterArcana.Inspiration
