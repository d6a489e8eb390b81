import ManchesterArcana.TypedGm.Request

/-!
# `TypedGm.Service` — asking a provider, and answering without it

A provider is asked once, or twice when its first proposal can be repaired and no private source is at stake. Whatever it
does, the answer is a proposal: the one it gave, if that passes every check, or the authored one.
-/

namespace ManchesterArcana.TypedGm

open Effect

def maxU64 : Nat := 2 ^ 64 - 1

inductive GenerationError where
  | disabled (capability : String)
  | invalidConfiguration (detail : String)
  | timeout
  | transport
  | httpStatus (status : Nat)
  | invalidResponse (endpoint reason : String)
  deriving DecidableEq, Repr

structure TokenUsage where
  promptTokens : Option Nat
  completionTokens : Option Nat
  totalTokens : Option Nat
  deriving DecidableEq, Repr

structure TextGenerationResponse where
  text : String
  model : Option String
  finishReason : Option String
  usage : TokenUsage
  deriving DecidableEq, Repr

inductive TypedProposalSource where
  | provider
  | authoredFallback
  deriving DecidableEq, Repr

structure TypedGmTurnResult where
  proposal : TypedGmProposal
  disposition : ProposalDisposition
  source : TypedProposalSource
  failure : Option GenerationFailureClass
  attempts : Nat
  requestFingerprints : List Sha256Digest
  promptFingerprint : Sha256Digest
  policyFingerprint : Sha256Digest
  configFingerprint : Sha256Digest
  proposalFingerprint : Sha256Digest
  model : Option String
  finishReason : Option String
  usage : TokenUsage
  deriving DecidableEq, Repr

/-! ## Usage -/

def saturatingAdd (a b : Nat) : Nat := min (a + b) maxU64

def addOptional : Option Nat → Option Nat → Option Nat
  | none, none => none
  | left, right => some (saturatingAdd (left.getD 0) (right.getD 0))

def addUsage (total next : TokenUsage) : TokenUsage where
  promptTokens := addOptional total.promptTokens next.promptTokens
  completionTokens := addOptional total.completionTokens next.completionTokens
  totalTokens := addOptional total.totalTokens next.totalTokens

def usageTotal (usage : TokenUsage) : Nat :=
  usage.totalTokens.getD (saturatingAdd (usage.promptTokens.getD 0) (usage.completionTokens.getD 0))

/-! ## Attempts -/

def classifyGenerationError : GenerationError → GenerationFailureClass
  | .timeout => .timeout
  | .httpStatus status => if status = 429 then .rateLimit else if status = 408 then .timeout else .unavailable
  | .invalidResponse _ _ => .malformed
  | .disabled _ | .invalidConfiguration _ | .transport => .unavailable

def classifyProposalError : TypedProposalError → GenerationFailureClass
  | .invalid _ => .malformed
  | .stale | .contradiction => .contradiction
  | .unsupported => .unsafeOutput

structure AttemptSummary where
  attempts : Nat
  requestFingerprints : List Sha256Digest
  model : Option String
  finishReason : Option String
  usage : TokenUsage

def AttemptSummary.default : AttemptSummary := ⟨0, [], none, none, ⟨none, none, none⟩⟩

def AttemptSummary.asked (summary : AttemptSummary) (fingerprint : Sha256Digest) : AttemptSummary :=
  { summary with
    requestFingerprints := summary.requestFingerprints ++ [fingerprint]
    attempts := summary.attempts + 1 }

def AttemptSummary.answered (summary : AttemptSummary) (response : TextGenerationResponse) : AttemptSummary :=
  { summary with
    model := response.model
    finishReason := response.finishReason
    usage := addUsage summary.usage response.usage }

/-- What a service is made of, besides its circuit. -/
structure TypedGmService where
  wire : Wire
  unicode : UnicodeTables
  config : TypedGmServiceConfig

/-- What a provider answers to a request, at its first and at its second call. -/
abbrev Provider := Nat → TextGenerationRequest → Except GenerationError TextGenerationResponse

section Attempts

variable (service : TypedGmService) (input : TypedGmTurnInput) (prepared : PreparedTypedGmRequest)

def validateCandidate (response : TextGenerationResponse) :
    Except GenerationFailureClass (TypedGmProposal × ProposalDisposition) := do
  rejectIf (service.config.maxResponseBytes < response.text.utf8ByteSize ∨
    service.config.maxTotalTokens < usageTotal response.usage) .malformed
  let proposal ← okOr (service.wire.parse response.text) .malformed
  rejectIf (proposal.base.proposalId ≠ prepared.expectedBase.proposalId) .malformed
  let disposition ← (proposal.validateAgainst input.acceptance).mapError classifyProposalError
  validateProposalSafety service.unicode proposal input.policy.safety input.privateInspiration
  return (proposal, disposition)

def buildRepairRequest (candidate : String) (failure : GenerationFailureClass) : Option TextGenerationRequest := do
  let userContent ← service.wire.repair prepared.request candidate failure
  let request := providerRequest service.wire service.config userContent
  if requestSize request ≤ service.config.maxRequestBytes then some request else none

inductive ProviderAttemptResult where
  | accepted (result : TypedGmTurnResult)
  | failed (failure : GenerationFailureClass) (summary : AttemptSummary)

def acceptedResult (proposal : TypedGmProposal) (disposition : ProposalDisposition) (summary : AttemptSummary) :
    TypedGmTurnResult where
  proposal := proposal
  disposition := disposition
  source := .provider
  failure := none
  attempts := summary.attempts
  requestFingerprints := summary.requestFingerprints
  promptFingerprint := prepared.fingerprints.prompt
  policyFingerprint := prepared.fingerprints.policy
  configFingerprint := prepared.fingerprints.config
  proposalFingerprint := service.wire.proposalFingerprint proposal
  model := summary.model
  finishReason := summary.finishReason
  usage := summary.usage

/-- The attempts that are left, from the one with this index on. -/
def attemptProvider (provider : Provider) : Nat → Nat → TextGenerationRequest → AttemptSummary →
    Option GenerationFailureClass → ProviderAttemptResult
  | 0, _, _, summary, semanticFailure => .failed (semanticFailure.getD .malformed) summary
  | left + 1, attemptIndex, request, summary, _ =>
    let asked := summary.asked (service.wire.requestFingerprint request)
    match provider attemptIndex request with
    | .error e => .failed (classifyGenerationError e) asked
    | .ok response =>
      let answered := asked.answered response
      if service.config.maxTotalTokens < usageTotal answered.usage then .failed .malformed answered
      else match validateCandidate service input prepared response with
        | .ok (proposal, disposition) => .accepted (acceptedResult service prepared proposal disposition answered)
        | .error failure =>
          -- the last attempt is not repaired
          if left = 0 ∨ service.config.maxTotalTokens < usageTotal answered.usage then .failed failure answered
          else match buildRepairRequest service prepared response.text failure with
            | none => .failed failure answered
            | some repair => attemptProvider provider left (attemptIndex + 1) repair answered (some failure)

def maximumAttempts : Nat := if input.privateInspiration.isSome then 1 else maxAttempts

/-! ## The authored answer -/

def interpretFallbackText : String :=
  "The intent could not be interpreted safely. The committed state is unchanged; choose an available action or restate the intent."

def narrateFallbackText : String :=
  "The committed result stands. The scene continues from the recorded facts without changing any mechanic."

/-- The digits of the id of the request. -/
def fallbackSuffix : String :=
  if "typed-gm:".toList <+: prepared.expectedBase.proposalId.toList then
    String.ofList (prepared.expectedBase.proposalId.toList.drop "typed-gm:".length)
  else "fallback"

def fallbackNarration (text : String) : TypedGmProposal :=
  .narration ⟨prepared.expectedBase, "fallback:" ++ fallbackSuffix prepared, text, input.acceptance.authoritativeFacts⟩

def fallbackProposal : Except TypedGmServiceError TypedGmProposal :=
  match input.purpose with
  | .interpretPlayerIntent => .ok (fallbackNarration input prepared interpretFallbackText)
  | .narrateCommittedFacts => .ok (fallbackNarration input prepared narrateFallbackText)
  | .chooseAbsentPlayerAction => do
    let actionId ← okOr input.safeFallbackActionIds.head? .fallbackInvariant
    return .action ⟨prepared.expectedBase, actionId, none,
      "fallback:" ++ fallbackSuffix prepared ++ ":absent-player-safe-default-action"⟩

def fallbackResult (failure : GenerationFailureClass) (summary : AttemptSummary) :
    Except TypedGmServiceError TypedGmTurnResult := do
  let proposal ← fallbackProposal input prepared
  let disposition ← (proposal.validateAgainst input.acceptance).mapError fun _ => .fallbackInvariant
  (validateProposalSafety service.unicode proposal input.policy.safety input.privateInspiration).mapError
    fun _ => .fallbackInvariant
  return {
    proposal := proposal
    disposition := disposition
    source := .authoredFallback
    failure := some failure
    attempts := summary.attempts
    requestFingerprints := summary.requestFingerprints
    promptFingerprint := prepared.fingerprints.prompt
    policyFingerprint := prepared.fingerprints.policy
    configFingerprint := prepared.fingerprints.config
    proposalFingerprint := service.wire.proposalFingerprint proposal
    model := summary.model
    finishReason := summary.finishReason
    usage := summary.usage }

end Attempts

/-! ## The circuit, and the whole call -/

structure CircuitState where
  consecutiveFailures : Nat
  openUntil : Option Nat
  deriving DecidableEq, Repr

def CircuitState.default : CircuitState := ⟨0, none⟩

/-- Whether the circuit is open; one whose time is over is closed again. -/
def circuitIsOpen (now : Nat) (circuit : CircuitState) : Bool × CircuitState :=
  match circuit.openUntil with
  | some until_ => if now < until_ then (true, circuit) else (false, .default)
  | none => (false, circuit)

def circuitFailed (config : TypedGmServiceConfig) (now : Nat) (circuit : CircuitState) : CircuitState :=
  let failures := min (circuit.consecutiveFailures + 1) (2 ^ 32 - 1)
  if config.circuitFailureThreshold ≤ failures then ⟨failures, some (now + config.circuitOpenMilliseconds)⟩
  else { circuit with consecutiveFailures := failures }

/-- What a call meets: the clock when it starts and when it ends, whether it gets a permit, whether the deadline passes
before the provider is done, the circuit when it starts and when it ends, as other calls leave it, and the provider. -/
structure CallConditions where
  startedAt : Nat
  endedAt : Nat
  permitted : Bool
  timesOut : Bool
  circuit : CircuitState
  circuitAtEnd : CircuitState
  provider : Provider

/-- A failed call is answered with the authored proposal. -/
def answerFailure (service : TypedGmService) (input : TypedGmTurnInput) (prepared : PreparedTypedGmRequest)
    (conditions : CallConditions) (failure : GenerationFailureClass) (summary : AttemptSummary) :
    Except TypedGmServiceError TypedGmTurnResult × CircuitState :=
  (fallbackResult service input prepared failure summary,
    circuitFailed service.config conditions.endedAt conditions.circuitAtEnd)

/-- A call, with the circuit that it leaves. -/
def generate (service : TypedGmService) (input : TypedGmTurnInput) (conditions : CallConditions) :
    Except TypedGmServiceError TypedGmTurnResult × CircuitState :=
  match prepareRequest service.wire service.config input with
  | .error e => (.error e, conditions.circuit)
  | .ok prepared =>
    if (circuitIsOpen conditions.startedAt conditions.circuit).1 then
      (fallbackResult service input prepared .unavailable .default,
        (circuitIsOpen conditions.startedAt conditions.circuit).2)
    else if conditions.timesOut then
      answerFailure service input prepared conditions .timeout
        { AttemptSummary.default with attempts := 1, requestFingerprints := [prepared.requestFingerprint] }
    else if conditions.permitted = false then
      answerFailure service input prepared conditions .unavailable .default
    else match attemptProvider service input prepared conditions.provider (maximumAttempts input) 0 prepared.request
        .default none with
      | .accepted result => (.ok result, .default)
      | .failed failure summary => answerFailure service input prepared conditions failure summary

/-! ## What an answer is -/

section Answers

variable {service : TypedGmService} {input : TypedGmTurnInput} {prepared : PreparedTypedGmRequest}
  {conditions : CallConditions} {result : TypedGmTurnResult} {proposal : TypedGmProposal}
  {disposition : ProposalDisposition} {response : TextGenerationResponse}

/-- The response passes as this proposal. -/
def Passes (service : TypedGmService) (input : TypedGmTurnInput) (prepared : PreparedTypedGmRequest)
    (response : TextGenerationResponse) (proposal : TypedGmProposal) (disposition : ProposalDisposition) : Prop :=
  validateCandidate service input prepared response = .ok (proposal, disposition)

/-- **What a response that passes has been checked for.** -/
theorem Passes.checked (h : Passes service input prepared response proposal disposition) :
    service.wire.parse response.text = some proposal ∧ proposal.validateAgainst input.acceptance = .ok disposition ∧
      validateProposalSafety service.unicode proposal input.policy.safety input.privateInspiration = .ok () := by
  unfold Passes validateCandidate at h
  obtain ⟨-, h⟩ := seq_eq_ok.mp h
  obtain ⟨p, hparse, h⟩ := bind_eq_ok.mp h
  obtain ⟨-, h⟩ := seq_eq_ok.mp h
  obtain ⟨d, hdisposition, h⟩ := bind_eq_ok.mp h
  obtain ⟨hsafety, h⟩ := seq_eq_ok.mp h
  cases h
  exact ⟨okOr_eq_ok.mp hparse, mapError_eq_ok.mp hdisposition, hsafety⟩

/-- The tokens of a response that passes are within the limit. -/
theorem Passes.usage_le (h : Passes service input prepared response proposal disposition) :
    usageTotal response.usage ≤ service.config.maxTotalTokens := by
  unfold Passes validateCandidate at h
  obtain ⟨hlimits, -⟩ := seq_eq_ok.mp h
  have hlimits := rejectIf_eq_ok.mp hlimits
  rw [not_or] at hlimits
  exact Nat.le_of_not_lt hlimits.2

/-- **An accepted result is one of the provider's responses, which passes.** By induction on the attempts that are left. -/
theorem attemptProvider_accepted {provider : Provider} {left attemptIndex : Nat} {request : TextGenerationRequest}
    {summary : AttemptSummary} {semanticFailure : Option GenerationFailureClass}
    (h : attemptProvider service input prepared provider left attemptIndex request summary semanticFailure =
      .accepted result) :
    ∃ i request response, provider i request = .ok response ∧
      Passes service input prepared response result.proposal result.disposition ∧ result.source = .provider := by
  induction left generalizing attemptIndex request summary semanticFailure with
  | zero => cases h
  | succ left ih =>
    unfold attemptProvider at h
    dsimp only at h
    split at h
    · cases h
    next response hresponse =>
    split at h
    · cases h
    split at h
    · next proposal disposition hpasses =>
      cases h
      exact ⟨attemptIndex, request, response, hresponse, hpasses, rfl⟩
    · split at h
      · cases h
      split at h
      · cases h
      · exact ih h

/-- **An answer is the authored proposal, or a response of the provider that passes.** -/
theorem generate_cases (hprepared : prepareRequest service.wire service.config input = .ok prepared)
    (conditions : CallConditions) :
    (∃ failure summary, (generate service input conditions).1 = fallbackResult service input prepared failure summary) ∨
      ∃ result i request response, (generate service input conditions).1 = .ok result ∧
        conditions.provider i request = .ok response ∧
        Passes service input prepared response result.proposal result.disposition ∧ result.source = .provider := by
  unfold generate
  rw [hprepared]
  dsimp only
  split
  · exact .inl ⟨_, _, rfl⟩
  split
  · exact .inl ⟨_, _, rfl⟩
  split
  · exact .inl ⟨_, _, rfl⟩
  split
  · next result haccepted =>
    obtain ⟨i, request, response, hresponse, hpasses, hsource⟩ := attemptProvider_accepted haccepted
    exact .inr ⟨result, i, request, response, rfl, hresponse, hpasses, hsource⟩
  · exact .inl ⟨_, _, rfl⟩

/-- A call that times out is answered with the authored proposal. -/
def timeout : CallConditions where
  startedAt := 0
  endedAt := 0
  permitted := true
  timesOut := true
  circuit := .default
  circuitAtEnd := .default
  provider := fun _ _ => .error .timeout

theorem generate_timeout (hprepared : prepareRequest service.wire service.config input = .ok prepared) :
    ∃ summary, (generate service input timeout).1 = fallbackResult service input prepared .timeout summary := by
  unfold generate
  rw [hprepared]
  exact ⟨_, rfl⟩

/-- A provider that answers with this response at once. -/
def answering (response : TextGenerationResponse) : CallConditions :=
  { timeout with timesOut := false, provider := fun _ _ => .ok response }

theorem usageTotal_first_le (usage : TokenUsage) : usageTotal (addUsage ⟨none, none, none⟩ usage) ≤ usageTotal usage := by
  obtain ⟨prompt, completion, total⟩ := usage
  have hadd : ∀ x : Option Nat, (addOptional none x).getD 0 ≤ x.getD 0 := by
    rintro (- | x)
    · exact le_rfl
    · show min (0 + x) maxU64 ≤ x
      rw [Nat.zero_add]
      exact min_le_left _ _
  cases total with
  | some total => exact hadd (some total)
  | none =>
    show saturatingAdd ((addOptional none prompt).getD 0) ((addOptional none completion).getD 0) ≤
      saturatingAdd (prompt.getD 0) (completion.getD 0)
    unfold saturatingAdd
    exact min_le_min (Nat.add_le_add (hadd prompt) (hadd completion)) le_rfl

/-- **A response that passes is the answer, when the provider gives it at once.** -/
theorem generate_answering (hprepared : prepareRequest service.wire service.config input = .ok prepared)
    (hpasses : Passes service input prepared response proposal disposition) :
    ∃ result, (generate service input (answering response)).1 = .ok result ∧ result.proposal = proposal ∧
      result.disposition = disposition ∧ result.source = .provider := by
  have hattempts : ∃ left, maximumAttempts input = left + 1 := by
    unfold maximumAttempts
    split
    · exact ⟨0, rfl⟩
    · exact ⟨1, rfl⟩
  obtain ⟨left, hleft⟩ := hattempts
  have husage : ¬ service.config.maxTotalTokens <
      usageTotal ((AttemptSummary.default.asked (service.wire.requestFingerprint prepared.request)).answered response).usage :=
    Nat.not_lt.mpr ((usageTotal_first_le response.usage).trans hpasses.usage_le)
  have haccepted : attemptProvider service input prepared (answering response).provider (maximumAttempts input) 0
      prepared.request .default none = .accepted (acceptedResult service prepared proposal disposition
        ((AttemptSummary.default.asked (service.wire.requestFingerprint prepared.request)).answered response)) := by
    rw [hleft]
    unfold attemptProvider
    have hanswer : (answering response).provider 0 prepared.request = .ok response := rfl
    have hpasses : validateCandidate service input prepared response = .ok (proposal, disposition) := hpasses
    rw [hanswer]
    dsimp only
    rw [if_neg husage, hpasses]
  unfold generate
  rw [hprepared]
  dsimp only
  rw [haccepted]
  exact ⟨_, rfl, rfl, rfl, rfl⟩

end Answers

end ManchesterArcana.TypedGm
