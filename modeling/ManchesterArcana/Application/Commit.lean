import ManchesterArcana.Application.Projection
import ManchesterArcana.Effect.Pool

/-!
# `Application.Commit` — committing one encounter mutation

`commitEncounterMutation` is the one path by which an encounter changes: a player's command or a step of the
creature's policy. It reads the campaign, the hero and a possible receipt, projects the encounter from the
stored events, resolves the command, and asks the repository to commit session, event, hero and receipt in
one transaction. Every read and the transaction are questions to the store, between which other attempts may
have theirs answered; the gate that keeps attempts of one process apart is left out, so that several processes
are covered.

The hero document enters through three functions of it, and the wire formats through an `Encoding`.
-/

namespace ManchesterArcana.Application

open Effect Encounter Repository

def encounterCommandKind : String := "commit-encounter-command"
def npcAdvanceCommandKind : String := "advance-npc-turn"

/-! ## Mutations -/

inductive EncounterMutation where
  | player (command : CommitEncounterCommand)
  | deterministicNpc (command : AdvanceNpcTurnCommand)
  deriving DecidableEq

/-- What the fingerprint of a player's command covers: everything but the idempotency key. -/
structure NormalizedEncounterCommand where
  schemaVersion : Nat
  campaignSessionId : String
  expectedCampaignRevision : Nat
  encounterSchemaVersion : Nat
  encounterId : String
  expectedEncounterRevision : Nat
  intent : EncounterIntent
  deriving DecidableEq

structure NormalizedNpcAdvanceCommand where
  schemaVersion : Nat
  campaignSessionId : String
  expectedCampaignRevision : Nat
  expectedEncounterRevision : Nat
  deriving DecidableEq

/-- The serializer and the digest: JSON text is a `τ`, a digest a `δ`. -/
structure Encoding (τ δ : Type) where
  encounterToVec : NormalizedEncounterCommand → List UInt8
  npcToVec : NormalizedNpcAdvanceCommand → List UInt8
  sha256 : List UInt8 → δ
  outcomeToString : CommittedEncounterOutcomeDto → τ
  outcomeFromStr : τ → Option CommittedEncounterOutcomeDto

/-- Reading back what was written yields nothing else than what was written. -/
def Encoding.RoundTrips {τ δ : Type} (encoding : Encoding τ δ) : Prop :=
  ∀ outcome read, encoding.outcomeFromStr (encoding.outcomeToString outcome) = some read → read = outcome

namespace EncounterMutation

def validate : EncounterMutation → Except ApplicationError Unit
  | player command => command.validate.mapError .invalidCommand
  | deterministicNpc command => command.validate.mapError .invalidCommand

def campaignSessionId : EncounterMutation → String
  | player command => command.campaignSessionId
  | deterministicNpc command => command.campaignSessionId

def expectedCampaignRevision : EncounterMutation → Nat
  | player command => command.expectedCampaignRevision
  | deterministicNpc command => command.expectedCampaignRevision

def expectedEncounterRevision : EncounterMutation → Nat
  | player command => command.command.expectedRevision
  | deterministicNpc command => command.expectedEncounterRevision

def idempotencyKey : EncounterMutation → String
  | player command => command.command.idempotencyKey
  | deterministicNpc command => command.idempotencyKey

def commandKind : EncounterMutation → String
  | player _ => encounterCommandKind
  | deterministicNpc _ => npcAdvanceCommandKind

variable {τ δ : Type}

def fingerprint (encoding : Encoding τ δ) : EncounterMutation → δ
  | player command => encoding.sha256 (encoding.encounterToVec
      { schemaVersion := command.schemaVersion
        campaignSessionId := command.campaignSessionId
        expectedCampaignRevision := command.expectedCampaignRevision
        encounterSchemaVersion := command.command.schemaVersion
        encounterId := command.command.encounterId
        expectedEncounterRevision := command.command.expectedRevision
        intent := command.command.intent })
  | deterministicNpc command => encoding.sha256 (encoding.npcToVec
      { schemaVersion := command.schemaVersion
        campaignSessionId := command.campaignSessionId
        expectedCampaignRevision := command.expectedCampaignRevision
        expectedEncounterRevision := command.expectedEncounterRevision })

end EncounterMutation

def mapEncounterError : EncounterError → ApplicationError
  | .playerControlUnavailable _ => .notPlayerTurn
  | .deterministicPolicyUnavailable _ => .npcTurnUnavailable
  | .revisionConflict expected actual => .encounterRevisionConflict expected actual
  | .invalidCommand reason => .invalidEncounterCommand (.invalidCommand reason)
  | .wrongEncounter expected actual => .invalidEncounterCommand (.wrongEncounter expected actual)
  | .illegalIntent reason => .invalidEncounterCommand (.illegalIntent reason)
  | .attackUnavailable actorId attackId => .invalidEncounterCommand (.attackUnavailable actorId attackId)
  | .invalidTarget actorId targetId => .invalidEncounterCommand (.invalidTarget actorId targetId)
  | .targetOutOfRange distance range => .invalidEncounterCommand (.targetOutOfRange distance range)
  | .invalidDestination destination => .invalidEncounterCommand (.invalidDestination destination)
  | .insufficientMovement requested remaining =>
    .invalidEncounterCommand (.insufficientMovement requested remaining)
  | error => .encounterRules error

/-- The campaign and its revisions are the ones that the command was issued against. -/
def validateRevisions (campaignSessionId : String) (expectedCampaignRevision : Nat)
    (session : StoredDocument SessionDto) : Except ApplicationError Unit := do
  rejectIf (campaignSessionId ≠ session.id) .wrongCampaign
  rejectIf (session.value.status ≠ .active) .campaignCompleted
  rejectIf (expectedCampaignRevision ≠ session.revision)
    (.revisionConflict expectedCampaignRevision session.revision)

def validateLocalEncounterCommand (command : CommitEncounterCommand) (session : StoredDocument SessionDto)
    (encounter : EncounterViewDto) : Except ApplicationError Unit := do
  validateRevisions command.campaignSessionId command.expectedCampaignRevision session
  rejectIf (command.command.encounterId ≠ sootWightEncounterId)
    (.invalidEncounterCommand (.wrongEncounter sootWightEncounterId command.command.encounterId))
  rejectIf (command.command.expectedRevision ≠ encounter.state.revision)
    (.encounterRevisionConflict command.command.expectedRevision encounter.state.revision)

def validateLocalNpcAdvanceCommand (command : AdvanceNpcTurnCommand) (session : StoredDocument SessionDto)
    (encounter : EncounterViewDto) : Except ApplicationError Unit := do
  validateRevisions command.campaignSessionId command.expectedCampaignRevision session
  rejectIf (command.expectedEncounterRevision ≠ encounter.state.revision)
    (.encounterRevisionConflict command.expectedEncounterRevision encounter.state.revision)

/-- `EncounterCommand::new`: a command of the current schema for the one authored encounter. -/
def newEncounterCommand (expectedRevision : Nat) (idempotencyKey : String) (intent : EncounterIntent) :
    EncounterCommand :=
  { schemaVersion := encounterSchemaVersion, encounterId := sootWightEncounterId, expectedRevision,
    idempotencyKey, intent }

/-- The command to resolve, and who issued it. -/
def EncounterMutation.deriveCommand (session : StoredDocument SessionDto) (encounter : EncounterViewDto) :
    EncounterMutation → Except ApplicationError (CommitEncounterCommand × EncounterCommandOrigin)
  | player command => do
    validateLocalEncounterCommand command session encounter
    (requirePlayerControl encounter.state).mapError mapEncounterError
    return (command, .player)
  | deterministicNpc command => do
    validateLocalNpcAdvanceCommand command session encounter
    let intent ← (selectSootWightPolicyIntent encounter.state).mapError mapEncounterError
    return ({
      schemaVersion := encounterCommitSchemaVersion
      campaignSessionId := command.campaignSessionId
      expectedCampaignRevision := command.expectedCampaignRevision
      command := newEncounterCommand command.expectedEncounterRevision command.idempotencyKey intent },
      .deterministicPolicy sootWightPolicyId)

/-! ## Receipts -/

structure CommandReceipt (τ δ : Type) where
  actorAccountId : String
  campaignSessionId : String
  idempotencyKey : String
  commandKind : String
  requestFingerprint : δ
  expectedRevision : Nat
  resultRevision : Nat
  auditId : String
  responseJson : τ

variable {H τ δ : Type} [DecidableEq δ]

/-- `serde_json::from_str`: what is read must also be a valid outcome. -/
def readOutcome (encoding : Encoding τ δ) (json : τ) : Except ApplicationError CommittedEncounterOutcomeDto := do
  let outcome ← okOr (encoding.outcomeFromStr json) .storedResponse
  outcome.validate.mapError fun _ => .storedResponse
  return outcome

/-- The answer that a receipt holds for a mutation, with the actions that are open to the player. -/
def encounterOutcomeFromMutationReceipt (encoding : Encoding τ δ) (mutation : EncounterMutation)
    (fingerprint : δ) (receipt : CommandReceipt τ δ) :
    Except ApplicationError CommittedEncounterOutcomeDto := do
  rejectIf (receipt.requestFingerprint ≠ fingerprint) .idempotencyConflict
  rejectIf (receipt.commandKind ≠ mutation.commandKind ∨
      receipt.campaignSessionId ≠ mutation.campaignSessionId ∨
      receipt.idempotencyKey ≠ mutation.idempotencyKey ∨
      receipt.expectedRevision ≠ mutation.expectedCampaignRevision ∨
      maxU64 < receipt.expectedRevision + 1 ∨ receipt.expectedRevision + 1 ≠ receipt.resultRevision)
    .invalidStoredState
  let outcome ← readOutcome encoding receipt.responseJson
  rejectIf (outcome.campaignSessionId ≠ mutation.campaignSessionId ∨
      outcome.resultCampaignRevision ≠ receipt.resultRevision ∨
      outcome.resolution.encounterId ≠ sootWightEncounterId ∨
      outcome.resolution.previousRevision ≠ mutation.expectedEncounterRevision) .invalidStoredState
  publicOutcome outcome

/-! ## The hero -/

/-- The functions of the hero document that the commit uses. -/
structure HeroBinding (H : Type) where
  revision : H → Nat
  encounterProfileFromHero : H → Except ApplicationError EncounterHeroProfile
  synchronizeHeroAfterEncounter :
    StoredDocument H → EncounterState → Except ApplicationError (Option H × Option Nat)

/-- The hero document still is what the encounter carries of it. -/
def ensureHeroRuntimeMatchesEncounter (heroes : HeroBinding H) (hero : H) (encounter : EncounterState) :
    Except ApplicationError Unit := do
  let profile ← heroes.encounterProfileFromHero hero
  let projected ← okOr encounter.heroProfile .invalidStoredState
  rejectIf (projected ≠ profile) .invalidStoredState

/-- A bound encounter agrees with the hero document; an unbound one has no hero. -/
def checkHeroBinding (heroes : HeroBinding H) (hero : Option (StoredDocument H)) (encounter : EncounterState) :
    Except ApplicationError Unit :=
  match hero with
  | some stored => ensureHeroRuntimeMatchesEncounter heroes stored.value encounter
  | none => rejectIf (encounter.hero.sourceCharacterId.isSome = true) .invalidStoredState

/-! ## What the application is made of -/

structure ApplicationService (H τ δ : Type) where
  localMode : Bool
  /-- The words of a campaign's seed, and the public reference to it. -/
  deriveCampaignSeed : String → Except ApplicationError (WordStream × String)
  encoding : Encoding τ δ
  heroes : HeroBinding H

/-- What one transaction is asked to write. -/
structure EncounterCommit (H τ δ : Type) where
  session : SessionDto
  expectedRevision : Nat
  event : SessionEventDto SessionEventPayload
  /-- The candidate document, and the revision that the stored one must have. -/
  hero : Option (H × Nat)
  receipt : CommandReceipt τ δ
  correlationId : String

structure CommitOutcome where
  sessionRevision : Nat
  heroRevision : Option Nat

inductive Query (H τ δ : Type) where
  | loadOrCreateLocalCampaign
  | requireSealedCampaignPins (session : StoredDocument SessionDto)
  | loadLocalAuthoritativeHero
  | loadCommandReceipt (actorAccountId campaignSessionId idempotencyKey : String)
  | listSessionEvents (actorAccountId campaignSessionId : String)
  | nowUnixMs
  | newAuditId
  | commitEncounterEvent (request : EncounterCommit H τ δ)

inductive Answer (H τ δ : Type) where
  | campaign (r : Except ApplicationError (StoredDocument SessionDto))
  | pins (r : Except ApplicationError Unit)
  | hero (r : Except ApplicationError (Option (StoredDocument H)))
  | receipt (r : Except StoreError (Option (CommandReceipt τ δ)))
  | events (r : Except StoreError (List StoredEvent))
  | time (nowUnixMs : Nat)
  | auditId (id : String)
  | committed (r : Except StoreError CommitOutcome)

/-- A computation of the application that consults the repository and the clock. -/
abbrev Action (H τ δ α : Type) := Prog (Query H τ δ) (Answer H τ δ) ApplicationError α

namespace Action

/-- An answer to another question than was asked. -/
def mismatch {α : Type} : Action H τ δ α := .panic "the repository answered another question"

def loadOrCreateLocalCampaign : Action H τ δ (StoredDocument SessionDto) :=
  .ask .loadOrCreateLocalCampaign fun | .campaign r => .lift r | _ => mismatch

def requireSealedCampaignPins (session : StoredDocument SessionDto) : Action H τ δ Unit :=
  .ask (.requireSealedCampaignPins session) fun | .pins r => .lift r | _ => mismatch

def loadLocalAuthoritativeHero : Action H τ δ (Option (StoredDocument H)) :=
  .ask .loadLocalAuthoritativeHero fun | .hero r => .lift r | _ => mismatch

def loadCommandReceipt (mutation : EncounterMutation) : Action H τ δ (Option (CommandReceipt τ δ)) :=
  .ask (.loadCommandReceipt localHeroOwnerKey mutation.campaignSessionId mutation.idempotencyKey)
    fun | .receipt r => .lift (r.mapError .repository) | _ => mismatch

def listSessionEvents (session : StoredDocument SessionDto) : Action H τ δ (List StoredEvent) :=
  .ask (.listSessionEvents localHeroOwnerKey session.id)
    fun | .events r => .lift (r.mapError .repository) | _ => mismatch

def nowUnixMs : Action H τ δ Nat := .ask .nowUnixMs fun | .time now => .ok now | _ => mismatch

def newAuditId : Action H τ δ String := .ask .newAuditId fun | .auditId id => .ok id | _ => mismatch

/-- The transaction; its failure is examined by the caller. -/
def commitEncounterEvent (request : EncounterCommit H τ δ) : Action H τ δ (Except StoreError CommitOutcome) :=
  .ask (.commitEncounterEvent request) fun | .committed r => .ok r | _ => mismatch

end Action

/-! ## One mutation -/

/-- Current encounter, the stream of its dice, and the command that the mutation stands for. -/
structure DerivedMutation where
  projected : ProjectedEncounter
  words : WordStream
  seedReference : String
  command : CommitEncounterCommand
  origin : EncounterCommandOrigin

/-- Project the encounter and derive the command. -/
def deriveMutation (app : ApplicationService H τ δ) (mutation : EncounterMutation)
    (session : StoredDocument SessionDto) (hero : Option (StoredDocument H))
    (currentHeroProfile : Option EncounterHeroProfile) (events : List StoredEvent) :
    Except ApplicationError DerivedMutation := do
  validateEventStream session events
  let latestCheck ← okOr (← latestExplorationCheck events) .encounterUnavailable
  let (words, seedReference) ← app.deriveCampaignSeed session.id
  let projected ← projectEncounter session latestCheck events words seedReference currentHeroProfile
  rejectIf (projected.view.state.schemaVersion ≠ encounterSchemaVersion) .encounterUnavailable
  checkHeroBinding app.heroes hero projected.view.state
  let (command, origin) ← mutation.deriveCommand session projected.view
  return { projected, words, seedReference, command, origin }

/-- Resolve a command with the campaign's own dice; a failed die takes precedence over what became of it. -/
def resolveLive (words : WordStream) (cursor : Nat) (state : EncounterState) (command : EncounterCommand) :
    Except ApplicationError (EncounterResolution × List DieCursorSpan) :=
  match (resolveEncounter state command).run (EncounterRngAdapter.rollDie words) (.new cursor) with
  | (.ok resolution, source) =>
    match source.error with
    | none => .ok (resolution, source.spans)
    | some error => .error (.roll error)
  | (.err error, source) =>
    match source.error with
    | none => .error (mapEncounterError error)
    | some error => .error (.roll error)
  | (.panic why, _) => .error (.aborted why)

/-- The outcome, and all that is written with it but the receipt. -/
structure PreparedMutation (H : Type) where
  outcome : CommittedEncounterOutcomeDto
  session : SessionDto
  event : SessionEventDto SessionEventPayload
  hero : Option H

/-- Resolve the command and put together what is to be committed. -/
def prepareMutation (app : ApplicationService H τ δ) (session : StoredDocument SessionDto)
    (hero : Option (StoredDocument H)) (derived : DerivedMutation) (now : Nat) :
    Except ApplicationError (PreparedMutation H) := do
  rejectIf (maxU64 < session.revision + 1 ∨ maxU64 < session.value.lastEventSequence + 1) .invalidStoredState
  let nextSequence := session.value.lastEventSequence + 1
  let occurredAtUnixMs := max now session.value.updatedAtUnixMs
  let (resolution, spans) ← resolveLive derived.words derived.projected.nextCursor derived.projected.view.state
    derived.command.command
  let rollRecords ← canonicalRollRecords session.id nextSequence derived.seedReference resolution.rolls spans
  let legalActions ← (playerLegalActions resolution.state).mapError mapEncounterError
  let (heroCandidate, resultHeroRevision) ← match hero with
    | some stored => app.heroes.synchronizeHeroAfterEncounter stored resolution.state
    | none => .ok (none, none)
  let outcome : CommittedEncounterOutcomeDto :=
    { schemaVersion := encounterCommitSchemaVersion
      campaignSessionId := session.id
      resultCampaignRevision := session.revision + 1
      eventSequence := nextSequence
      resultHeroRevision
      resolution
      rollRecords
      legalActions }
  outcome.validatePlayerActionBoundary.mapError .invalidOutcome
  let event : SessionEventDto SessionEventPayload :=
    { schemaVersion := sessionSchemaVersion
      sessionId := session.id
      sequence := nextSequence
      occurredAtUnixMs := occurredAtUnixMs
      actor := .system
      payload := .encounterResolved derived.command outcome derived.origin }
  (validateSessionEventDto event).mapError .invalidOutcome
  return {
    outcome
    session := { session.value with
      updatedAtUnixMs := occurredAtUnixMs, lastEventSequence := nextSequence }
    event
    hero := heroCandidate }

/-- The transaction's request, with the receipt of the mutation. -/
def encounterCommit (app : ApplicationService H τ δ) (mutation : EncounterMutation) (correlationId : String)
    (session : StoredDocument SessionDto) (hero : Option (StoredDocument H)) (prepared : PreparedMutation H)
    (auditId : String) : EncounterCommit H τ δ where
  session := prepared.session
  expectedRevision := mutation.expectedCampaignRevision
  event := prepared.event
  hero := prepared.hero.bind fun candidate =>
    hero.map fun stored => (candidate, app.heroes.revision stored.value)
  receipt :=
    { actorAccountId := localHeroOwnerKey
      campaignSessionId := session.id
      idempotencyKey := mutation.idempotencyKey
      commandKind := mutation.commandKind
      requestFingerprint := mutation.fingerprint app.encoding
      expectedRevision := mutation.expectedCampaignRevision
      resultRevision := session.revision + 1
      auditId := auditId
      responseJson := app.encoding.outcomeToString prepared.outcome }
  correlationId := correlationId

/-- The transaction reports the revisions that were to be written. -/
def confirmsCommit (heroes : HeroBinding H) (session : StoredDocument SessionDto) (candidate : Option H)
    (committed : CommitOutcome) : Bool :=
  committed.sessionRevision == session.revision + 1 &&
    match candidate, committed.heroRevision with
    | some candidate, some saved => heroes.revision candidate + 1 == saved
    | none, none => true
    | _, _ => false

/-- What the answer of the transaction means for the client: a lost race may turn out to be a replay. -/
def concludeCommit (app : ApplicationService H τ δ) (mutation : EncounterMutation)
    (session : StoredDocument SessionDto) (prepared : PreparedMutation H) :
    Except StoreError CommitOutcome → Action H τ δ CommittedEncounterOutcomeDto
  | .ok committed =>
    if confirmsCommit app.heroes session prepared.hero committed then .ok prepared.outcome
    else .err .invalidStoredState
  | .error (.repository (.revisionConflict _ _ _ actual)) => do
    match ← Action.loadCommandReceipt mutation with
    | some stored => Prog.lift (encounterOutcomeFromMutationReceipt app.encoding mutation
        (mutation.fingerprint app.encoding) stored)
    | none => .err (.revisionConflict mutation.expectedCampaignRevision actual)
  | .error (.repository (.alreadyExists entity id)) =>
    if entity = "command receipt" then do
      match ← Action.loadCommandReceipt mutation with
      | some stored => Prog.lift (encounterOutcomeFromMutationReceipt app.encoding mutation
          (mutation.fingerprint app.encoding) stored)
      | none => .err .invalidStoredState
    else .err (.repository (.repository (.alreadyExists entity id)))
  | .error error => .err (.repository error)

/-- The part of the commit after no receipt was found. -/
def commitFresh (app : ApplicationService H τ δ) (mutation : EncounterMutation) (correlationId : String)
    (session : StoredDocument SessionDto) (hero : Option (StoredDocument H))
    (currentHeroProfile : Option EncounterHeroProfile) : Action H τ δ CommittedEncounterOutcomeDto := do
  let events ← Action.listSessionEvents session
  let derived ← Prog.lift (deriveMutation app mutation session hero currentHeroProfile events)
  let now ← Action.nowUnixMs
  let prepared ← Prog.lift (prepareMutation app session hero derived now)
  let auditId ← Action.newAuditId
  let committed ← Action.commitEncounterEvent
    (encounterCommit app mutation correlationId session hero prepared auditId)
  concludeCommit app mutation session prepared committed

/-- The combat profile of the hero, if there is one. -/
def heroProfileOf (heroes : HeroBinding H) :
    Option (StoredDocument H) → Except ApplicationError (Option EncounterHeroProfile)
  | some stored => some <$> heroes.encounterProfileFromHero stored.value
  | none => .ok none

def commitEncounterMutation (app : ApplicationService H τ δ) (mutation : EncounterMutation)
    (correlationId : String) : Action H τ δ CommittedEncounterOutcomeDto := do
  Prog.reject (app.localMode = false) .hostedAccessDenied
  Prog.reject (isValidOpaqueId correlationId = false) .invalidStoredState
  Prog.lift mutation.validate
  let session ← Action.loadOrCreateLocalCampaign
  Action.requireSealedCampaignPins session
  let hero ← Action.loadLocalAuthoritativeHero
  let currentHeroProfile ← Prog.lift (heroProfileOf app.heroes hero)
  match ← Action.loadCommandReceipt mutation with
  | some receipt => Prog.lift (encounterOutcomeFromMutationReceipt app.encoding mutation
      (mutation.fingerprint app.encoding) receipt)
  | none => commitFresh app mutation correlationId session hero currentHeroProfile

/-! A service for a campaign without a hero, whose JSON text is the outcome itself and whose digest is the text. -/

def plainEncoding : Encoding CommittedEncounterOutcomeDto (List UInt8) where
  encounterToVec c := (c.campaignSessionId ++ ":" ++ toString c.expectedCampaignRevision ++ ":" ++
    toString c.expectedEncounterRevision).toUTF8.toList
  npcToVec c := (c.campaignSessionId ++ ":" ++ toString c.expectedCampaignRevision).toUTF8.toList
  sha256 bytes := bytes
  outcomeToString outcome := outcome
  outcomeFromStr outcome := some outcome

def plainService : ApplicationService Empty CommittedEncounterOutcomeDto (List UInt8) where
  localMode := true
  deriveCampaignSeed _ := .ok (fun _ => 0, "seed:local")
  encoding := plainEncoding
  heroes :=
    { revision := nofun
      encounterProfileFromHero := nofun
      synchronizeHeroAfterEncounter := fun _ _ => .ok (none, none) }

end ManchesterArcana.Application
