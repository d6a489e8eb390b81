import ManchesterArcana.TypedGm.Safety

/-!
# `TypedGm.Request` — what the game master is asked

A request is checked and pinned before any provider sees it: to the prompt, the policy and the configuration, and to the
id that its proposal must carry. The id is cut from a digest of the request.
-/

namespace ManchesterArcana.TypedGm

open Effect

def typedGmPromptTemplateId : String := "prompt:typed-gm-turn:v1"

def maxPublicFacts : Nat := 64

def maxPublicFactChars : Nat := 500

def maxPlayerIntentChars : Nat := 4000

def maxThemeGuidanceChars : Nat := 1000

def maxToneTags : Nat := 16

def maxAttempts : Nat := 2

def maxAbsentCharacterSummaryChars : Nat := 2000

def maxSafeFallbackActionIds : Nat := 16

inductive TypedGmPurpose where
  | interpretPlayerIntent
  | narrateCommittedFacts
  | chooseAbsentPlayerAction
  deriving DecidableEq, Repr

/-- The types of proposal that a purpose asks for. -/
def requiredOutputAllowedTypes : TypedGmPurpose → List String
  | .chooseAbsentPlayerAction => ["action"]
  | .interpretPlayerIntent | .narrateCommittedFacts => ["action", "check", "scene", "narration", "clarification"]

/-! ## Policies -/

/-- `value.trim() == value`. -/
def isTrimmed (value : String) : Bool :=
  value.toList.head?.all (!isWhiteSpace ·) && value.toList.getLast?.all (!isWhiteSpace ·)

def boundedText (value : String) (minimum maximum : Nat) : Bool :=
  isTrimmed value && decide (minimum ≤ value.length ∧ value.length ≤ maximum)

def validPolicyToken (value : String) : Bool :=
  boundedText value 1 64 && value.toList.all fun c => c.isLower || c.isDigit || c == '-' || c == '_'

def GmSafetyPolicy.validate (policy : GmSafetyPolicy) : Bool :=
  policy.audience = .adultsOnly ∧
    (policy.privateInspiration = .excluded ∨ policy.privateInspiration = .minimizedHighDistanceV1) ∧
    0 < policy.maxOutputChars ∧ policy.maxOutputChars ≤ 12000 ∧
    ∀ category ∈ [SafetyCategory.currentPersonalCrisis, .imminentHarm, .privatePersonalData, .realPersonLikeness,
      .sexualContentInvolvingMinors], category ∈ policy.prohibitedCategories

structure GmThemePolicy where
  themeId : String
  toneTags : List String
  presentationGuidance : String
  deriving DecidableEq

structure GmPromptPolicy where
  policyId : String
  safety : GmSafetyPolicy
  theme : GmThemePolicy
  deriving DecidableEq

def GmPromptPolicy.validate (policy : GmPromptPolicy) : Bool :=
  isValidOpaqueId policy.policyId ∧ policy.safety.validate ∧ isValidOpaqueId policy.theme.themeId ∧
    policy.theme.toneTags ≠ [] ∧ policy.theme.toneTags.length ≤ maxToneTags ∧ policy.theme.toneTags.Nodup ∧
    (∀ tag ∈ policy.theme.toneTags, validPolicyToken tag = true) ∧
    boundedText policy.theme.presentationGuidance 1 maxThemeGuidanceChars

/-! ## Requests -/

structure CommittedPublicFact where
  factId : String
  summary : String
  deriving DecidableEq

structure TypedGmTurnInput where
  purpose : TypedGmPurpose
  acceptance : ProposalAcceptanceContext
  publicFacts : List CommittedPublicFact
  playerIntent : Option String
  privateInspiration : Option PrivateInspirationBrief
  policy : GmPromptPolicy
  absentCharacterSummary : Option String
  safeFallbackActionIds : List String
  deriving DecidableEq

structure TypedGmServiceConfig where
  providerConfigFingerprint : Sha256Digest
  purposeDeadlineMilliseconds : Nat
  maxConcurrency : Nat
  maxRequestBytes : Nat
  maxResponseBytes : Nat
  maxOutputTokens : Nat
  maxTotalTokens : Nat
  circuitFailureThreshold : Nat
  circuitOpenMilliseconds : Nat

structure TypedGmFingerprints where
  prompt : Sha256Digest
  policy : Sha256Digest
  config : Sha256Digest
  deriving DecidableEq, Repr

inductive TypedGmServiceError where
  | invalidConfiguration
  | invalidInput
  | requestSerialization
  | fallbackInvariant
  deriving DecidableEq, Repr

structure ChatMessage where
  role : String
  content : String
  deriving DecidableEq, Repr

structure TextGenerationRequest where
  messages : List ChatMessage
  responseFormat : String
  maxOutputTokens : Option Nat
  deriving DecidableEq, Repr

structure PreparedTypedGmRequest where
  expectedBase : ProposalBase
  request : TextGenerationRequest
  requestFingerprint : Sha256Digest
  fingerprints : TypedGmFingerprints
  deriving DecidableEq, Repr

/-- **The serializer, the digest and the prompt**, which are no code of the service: the digests of a policy, of a turn, of
a request and of a proposal, the text of a prompt and of a repair, and how a response is read. -/
structure Wire where
  prompt : String
  fingerprints : TypedGmServiceConfig → GmPromptPolicy → TypedGmFingerprints
  turnHash : TypedGmTurnInput → TypedGmFingerprints → Vector UInt8 32
  envelope : TypedGmTurnInput → ProposalBase → TypedGmFingerprints → String
  repair : TextGenerationRequest → String → GenerationFailureClass → Option String
  requestFingerprint : TextGenerationRequest → Sha256Digest
  proposalFingerprint : TypedGmProposal → Sha256Digest
  parse : String → Option TypedGmProposal

/-! ## Digests -/

def hexDigits : List Char := ['0', '1', '2', '3', '4', '5', '6', '7', '8', '9', 'a', 'b', 'c', 'd', 'e', 'f']

/-- The two digits of a byte. -/
def hexByte (byte : UInt8) : List Char :=
  [hexDigits.getD (byte.toNat / 16) '0', hexDigits.getD (byte.toNat % 16) '0']

def Sha256Digest.fromBytes (bytes : Vector UInt8 32) : Sha256Digest :=
  ⟨"sha256:" ++ String.ofList (bytes.toList.flatMap hexByte)⟩

/-- The first 32 digits of a digest. -/
def Sha256Digest.shortened (digest : Sha256Digest) : String :=
  String.ofList ((digest.value.toList.drop "sha256:".length).take 32)

/-! ## Checking and preparing -/

def validatePublicFacts (facts : List CommittedPublicFact) : Bool :=
  facts.length ≤ maxPublicFacts ∧ (facts.map (·.factId)).Nodup ∧
    (∀ fact ∈ facts, isValidOpaqueId fact.factId = true ∧ boundedText fact.summary 1 maxPublicFactChars = true) ∧
    (facts.map fun fact => fact.summary.length).sum ≤ 16000

def validateIntent : TypedGmPurpose → Option String → Bool
  | .interpretPlayerIntent, some intent => boundedText intent 1 maxPlayerIntentChars
  | .narrateCommittedFacts, none => true
  | .narrateCommittedFacts, some intent => boundedText intent 1 maxPlayerIntentChars
  | .chooseAbsentPlayerAction, none => true
  | _, _ => false

/-- What is given only where an action is chosen for an absent player. -/
def validateAbsence (input : TypedGmTurnInput) : Bool :=
  if input.purpose = .chooseAbsentPlayerAction then
    (∃ summary ∈ input.absentCharacterSummary, boundedText summary 1 maxAbsentCharacterSummaryChars = true ∧
      unsafeText summary = false) ∧
    input.acceptance.legalActionIds ≠ ∅ ∧
    input.safeFallbackActionIds ≠ [] ∧ input.safeFallbackActionIds.length ≤ maxSafeFallbackActionIds ∧
    (∀ actionId ∈ input.safeFallbackActionIds, isOffered input.acceptance.legalActionIds actionId = true) ∧
    input.safeFallbackActionIds.Nodup
  else input.absentCharacterSummary = none ∧ input.safeFallbackActionIds = []

def validateBrief (purpose : TypedGmPurpose) (brief : PrivateInspirationBrief) : Bool :=
  purpose = .narrateCommittedFacts ∧ isValidOpaqueId brief.selectionId ∧ isValidOpaqueId brief.sourceId ∧
    0 < brief.sourceVersion ∧ brief.transformation = .highFictionDistanceV1 ∧
    1 ≤ brief.minimizedFacts.length ∧ brief.minimizedFacts.length ≤ 4 ∧
    (∀ fact ∈ brief.minimizedFacts, boundedText fact 1 240 = true ∧ '\r' ∉ fact.toList ∧ '\n' ∉ fact.toList) ∧
    brief.forbiddenIdentifiers ≠ ∅ ∧
    (∀ identifier ∈ brief.forbiddenIdentifiers, isValidOpaqueId identifier = true) ∧
    brief.sourceId ∈ brief.forbiddenIdentifiers

def validatePrivateInspiration (purpose : TypedGmPurpose) :
    PrivateInspirationPolicy → Option PrivateInspirationBrief → Bool
  | .excluded, none => true
  | .minimizedHighDistanceV1, some brief => validateBrief purpose brief
  | _, _ => false

def validateInput (input : TypedGmTurnInput) (fingerprints : TypedGmFingerprints) : Except TypedGmServiceError Unit := do
  rejectIf (input.acceptance.validate ≠ .ok () ∨ input.acceptance.promptTemplateId ≠ typedGmPromptTemplateId ∨
    input.acceptance.policyId ≠ input.policy.policyId ∨ input.acceptance.configFingerprint ≠ fingerprints.config ∨
    input.policy.validate = false) .invalidInput
  rejectIf (validatePublicFacts input.publicFacts = false) .invalidInput
  rejectIf (validateIntent input.purpose input.playerIntent = false) .invalidInput
  rejectIf (validateAbsence input = false) .invalidInput
  rejectIf (validatePrivateInspiration input.purpose input.policy.safety.privateInspiration
    input.privateInspiration = false) .invalidInput

def requestSize (request : TextGenerationRequest) : Nat :=
  (request.messages.map fun message => message.content.utf8ByteSize).sum

/-- A request to the provider, which answers with one JSON object. -/
def providerRequest (wire : Wire) (config : TypedGmServiceConfig) (userContent : String) : TextGenerationRequest where
  messages := [⟨"system", wire.prompt⟩, ⟨"user", userContent⟩]
  responseFormat := "json_object"
  maxOutputTokens := some config.maxOutputTokens

def expectedBase (wire : Wire) (input : TypedGmTurnInput) (fingerprints : TypedGmFingerprints) : ProposalBase where
  schemaVersion := typedAiProposalSchemaVersion
  proposalId := "typed-gm:" ++ (Sha256Digest.fromBytes (wire.turnHash input fingerprints)).shortened
  sessionId := input.acceptance.sessionId
  basedOnRevision := input.acceptance.revision
  basedOnEventSequence := input.acceptance.eventSequence
  promptTemplateId := typedGmPromptTemplateId
  policyId := input.policy.policyId
  configFingerprint := fingerprints.config

def fingerprintsOf (wire : Wire) (config : TypedGmServiceConfig) (policy : GmPromptPolicy) :
    Except TypedGmServiceError TypedGmFingerprints := do
  rejectIf (policy.validate = false) .invalidInput
  return wire.fingerprints config policy

def prepareRequest (wire : Wire) (config : TypedGmServiceConfig) (input : TypedGmTurnInput) :
    Except TypedGmServiceError PreparedTypedGmRequest := do
  let fingerprints ← fingerprintsOf wire config input.policy
  validateInput input fingerprints
  let base := expectedBase wire input fingerprints
  let request := providerRequest wire config (wire.envelope input base fingerprints)
  rejectIf (config.maxRequestBytes < requestSize request) .invalidInput
  return ⟨base, request, wire.requestFingerprint request, fingerprints⟩

/-! ## What a prepared request has -/

section Prepared

variable {wire : Wire} {config : TypedGmServiceConfig} {input : TypedGmTurnInput} {prepared : PreparedTypedGmRequest}

theorem hexDigits_getD (i : Nat) : hexDigits.getD i '0' ∈ hexDigits := by
  rw [List.getD_eq_getElem?_getD]
  cases h : hexDigits[i]? with
  | none => decide
  | some c => exact List.mem_of_getElem? h

theorem mem_hexByte {byte : UInt8} {c : Char} (h : c ∈ hexByte byte) : c ∈ hexDigits := by
  unfold hexByte at h
  rcases List.mem_cons.mp h with rfl | h
  · exact hexDigits_getD _
  · rw [List.mem_singleton] at h
    rw [h]
    exact hexDigits_getD _

theorem toList_fromBytes (bytes : Vector UInt8 32) :
    (Sha256Digest.fromBytes bytes).value.toList.drop "sha256:".length = bytes.toList.flatMap hexByte := by
  unfold Sha256Digest.fromBytes
  rw [String.toList_append, @String.toList_ofList (bytes.toList.flatMap hexByte)]
  exact List.drop_left' rfl

/-- **The digits of an id are 32 hexadecimal digits.** -/
theorem shortened_fromBytes (bytes : Vector UInt8 32) :
    (Sha256Digest.fromBytes bytes).shortened.length = 32 ∧
      ∀ c ∈ (Sha256Digest.fromBytes bytes).shortened.toList, c ∈ hexDigits := by
  unfold Sha256Digest.shortened
  rw [toList_fromBytes]
  constructor
  · rw [String.length_ofList, List.length_take_of_le]
    have hlength : ∀ l : List UInt8, (l.flatMap hexByte).length = 2 * l.length := by
      intro l
      induction l with
      | nil => rfl
      | cons b l ih =>
        rw [List.flatMap_cons, List.length_append, ih, List.length_cons]
        show 2 + 2 * l.length = 2 * (l.length + 1)
        omega
    rw [hlength, Vector.length_toList]
    decide
  · rw [String.toList_ofList]
    intro c hc
    obtain ⟨byte, -, hc⟩ := List.mem_flatMap.mp (List.mem_of_mem_take hc)
    exact mem_hexByte hc

/-- An accepted request, check by check. -/
structure TypedGmTurnInput.IsAccepted (input : TypedGmTurnInput) (fingerprints : TypedGmFingerprints) : Prop where
  acceptance : input.acceptance.validate = .ok ()
  template : input.acceptance.promptTemplateId = typedGmPromptTemplateId
  policyId : input.acceptance.policyId = input.policy.policyId
  config : input.acceptance.configFingerprint = fingerprints.config
  policy : input.policy.validate = true
  absence : validateAbsence input = true
  privateInspiration : validatePrivateInspiration input.purpose input.policy.safety.privateInspiration
    input.privateInspiration = true

/-- **What `prepare_request` has checked, and what it gives.** -/
theorem prepareRequest_eq_ok (h : prepareRequest wire config input = .ok prepared) :
    input.IsAccepted prepared.fingerprints ∧
      prepared.expectedBase = expectedBase wire input prepared.fingerprints := by
  unfold prepareRequest at h
  obtain ⟨fingerprints, -, h⟩ := bind_eq_ok.mp h
  obtain ⟨hinput, h⟩ := seq_eq_ok.mp h
  obtain ⟨-, h⟩ := seq_eq_ok.mp h
  cases h
  unfold validateInput at hinput
  obtain ⟨hpins, hinput⟩ := seq_eq_ok.mp hinput
  obtain ⟨-, hinput⟩ := seq_eq_ok.mp hinput
  obtain ⟨-, hinput⟩ := seq_eq_ok.mp hinput
  obtain ⟨habsence, hprivate⟩ := seq_eq_ok.mp hinput
  have hpins := rejectIf_eq_ok.mp hpins
  have habsence := rejectIf_eq_ok.mp habsence
  have hprivate := rejectIf_eq_ok.mp hprivate
  simp only [ne_eq, not_or, not_not, Bool.not_eq_false] at hpins habsence hprivate
  obtain ⟨hacceptance, htemplate, hpolicyId, hconfig, hpolicy⟩ := hpins
  exact ⟨⟨hacceptance, htemplate, hpolicyId, hconfig, hpolicy, habsence, hprivate⟩, rfl⟩

end Prepared

end ManchesterArcana.TypedGm
