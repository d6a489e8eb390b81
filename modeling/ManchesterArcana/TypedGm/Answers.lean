import ManchesterArcana.Core.Text
import ManchesterArcana.TypedGm.Service

/-!
# `TypedGm.Answers` — what is answered, whatever the provider does

The authored answer is always well pinned, and names nothing that the engine does not offer. It is held to the limits of
the request all the same: to its length, and to the identifiers and facts of its private source. `always_answers_iff` says
that the game master always answers exactly when the authored text is within them.
-/

namespace ManchesterArcana.TypedGm

open Effect

/-! ## Ids of plain characters -/

/-- A word and some digits make an id. -/
theorem isValidOpaqueId_prepend {word digits : String} (hword : isValidOpaqueId word = true) (hshort : word.length ≤ 96)
    (hlength : digits.length = 32) (hdigits : ∀ c ∈ digits.toList, c ∈ hexDigits) :
    isValidOpaqueId (word ++ digits) = true := by
  refine isValidOpaqueId_of_chars ?_ ?_ ?_
  · intro h
    have h := congrArg String.length h
    rw [String.length_append, hlength] at h
    have h : word.length + 32 = 0 := h
    omega
  · rw [String.length_append, hlength]
    exact Nat.add_le_add_right hshort 32
  · intro c hc
    rw [String.toList_append] at hc
    rcases List.mem_append.mp hc with hc | hc
    · exact (isValidOpaqueId_iff.mp hword).2.2 c hc
    · exact List.all_eq_true.mp (by decide : hexDigits.all isOpaqueIdChar = true) c (hdigits c hc)

/-! ## The authored proposal -/

/-- How long the authored text is. -/
def fallbackChars : TypedGmPurpose → Nat
  | .interpretPlayerIntent => interpretFallbackText.length
  | .narrateCommittedFacts => narrateFallbackText.length
  | .chooseAbsentPlayerAction => "fallback:".length + 32 + ":absent-player-safe-default-action".length

/-- **The authored text is within the limits of the request**: short enough, and free of what its private source forbids. -/
def FallbackFits (unicode : UnicodeTables) (input : TypedGmTurnInput) : Prop :=
  fallbackChars input.purpose ≤ input.policy.safety.maxOutputChars ∧
    ∀ brief ∈ input.privateInspiration, privateInspirationOutputIsUnsafe unicode narrateFallbackText brief = false

/-- The characters of the authored texts. -/
def isAuthoredChar (c : Char) : Bool :=
  c ∈ hexDigits || c ∈ "fallback::absent-player-safe-default-action".toList

section Fallback

variable {service : TypedGmService} {input : TypedGmTurnInput} {prepared : PreparedTypedGmRequest}
  {failure : GenerationFailureClass} {summary : AttemptSummary} {text : String} {result : TypedGmTurnResult}

/-- **The id of a prepared request**: 32 digits stand after `typed-gm:`. -/
theorem fallbackSuffix_spec (h : prepareRequest service.wire service.config input = .ok prepared) :
    (fallbackSuffix prepared).length = 32 ∧ (∀ c ∈ (fallbackSuffix prepared).toList, c ∈ hexDigits) ∧
      prepared.expectedBase.proposalId = "typed-gm:" ++ fallbackSuffix prepared := by
  obtain ⟨-, hbase⟩ := prepareRequest_eq_ok h
  have hid : prepared.expectedBase.proposalId = "typed-gm:" ++
      (Sha256Digest.fromBytes (service.wire.turnHash input prepared.fingerprints)).shortened := by
    rw [hbase]
    rfl
  obtain ⟨hlength, hdigits⟩ := shortened_fromBytes (service.wire.turnHash input prepared.fingerprints)
  generalize (Sha256Digest.fromBytes (service.wire.turnHash input prepared.fingerprints)).shortened = digits
    at hid hlength hdigits
  have hdrop : List.drop "typed-gm:".length ("typed-gm:".toList ++ digits.toList) = digits.toList := List.drop_left' rfl
  have hsuffix : fallbackSuffix prepared = digits := by
    unfold fallbackSuffix
    rw [hid, String.toList_append, if_pos (List.prefix_append _ _), hdrop, String.ofList_toList]
  rw [hsuffix]
  exact ⟨hlength, hdigits, hid⟩

/-- The base that a proposal must carry is accepted. -/
theorem expectedBase_validateAgainst (h : prepareRequest service.wire service.config input = .ok prepared) :
    prepared.expectedBase.validateAgainst input.acceptance = .ok () := by
  obtain ⟨haccepted, hbase⟩ := prepareRequest_eq_ok h
  obtain ⟨hlength, hdigits, hid⟩ := fallbackSuffix_spec h
  have hvalid : isValidOpaqueId prepared.expectedBase.proposalId = true := by
    rw [hid]
    exact isValidOpaqueId_prepend (by decide) (by decide) hlength hdigits
  rw [hbase] at hvalid ⊢
  exact ProposalBase.validateAgainst_of_pinned haccepted.acceptance rfl hvalid rfl rfl rfl haccepted.template.symm
    haccepted.policyId.symm haccepted.config.symm

/-- A narration of exactly the facts that stand is accepted. -/
theorem narration_validateAgainst {value : NarrationProposal} {context : ProposalAcceptanceContext}
    (hcontext : context.validate = .ok ()) (hid : isValidOpaqueId value.narrationId = true)
    (htext : validateText value.text 12000 = .ok ()) (hfacts : value.claimedFacts = context.authoritativeFacts) :
    value.validateAgainst context = .ok .presentationOnly := by
  obtain ⟨hlength, hvalid, hcard⟩ := context.facts_of_valid hcontext
  unfold NarrationProposal.validateAgainst
  refine seq_eq_ok.mpr ⟨htext, seq_eq_ok.mpr ⟨rejectIf_of_not ?_, seq_eq_ok.mpr ⟨rejectIf_of_not ?_, rfl⟩⟩⟩
  · rw [hid, hfacts]
    rintro (h | h | ⟨fact, hfact, h⟩)
    · cases h
    · exact Nat.not_lt.mpr hlength h
    · exact h (hvalid fact hfact)
  · rw [hfacts]
    rintro (h | h)
    · exact h hcard
    · exact h rfl

theorem fallbackNarration_validateAgainst (h : prepareRequest service.wire service.config input = .ok prepared)
    (htext : validateText text 12000 = .ok ()) :
    (fallbackNarration input prepared text).validateAgainst input.acceptance = .ok .presentationOnly := by
  obtain ⟨hlength, hdigits, -⟩ := fallbackSuffix_spec h
  refine seq_eq_ok.mpr ⟨expectedBase_validateAgainst h, ?_⟩
  refine narration_validateAgainst (prepareRequest_eq_ok h).1.acceptance ?_ htext rfl
  exact isValidOpaqueId_prepend (by decide) (by decide) hlength hdigits

/-- What is authored for an absent player. -/
theorem absentRationale_spec (h : prepareRequest service.wire service.config input = .ok prepared) :
    ("fallback:" ++ fallbackSuffix prepared ++ ":absent-player-safe-default-action").length =
        fallbackChars .chooseAbsentPlayerAction ∧
      unsafeText ("fallback:" ++ fallbackSuffix prepared ++ ":absent-player-safe-default-action") = false ∧
      validateText ("fallback:" ++ fallbackSuffix prepared ++ ":absent-player-safe-default-action") 1000 = .ok () := by
  obtain ⟨hlength, hdigits, -⟩ := fallbackSuffix_spec h
  have hchars : ("fallback:" ++ fallbackSuffix prepared ++ ":absent-player-safe-default-action").length =
      fallbackChars .chooseAbsentPlayerAction := by
    rw [String.length_append, String.length_append, hlength]
    rfl
  refine ⟨hchars, ?_, rejectIf_of_not ?_⟩
  · refine @unsafeText_eq_false _ isAuthoredChar (by decide) (by decide) fun c hc => ?_
    rw [toAsciiLowercase, String.toList_map] at hc
    obtain ⟨x, hx, rfl⟩ := List.mem_map.mp hc
    rw [String.toList_append, String.toList_append] at hx
    rcases List.mem_append.mp hx with hx | hx
    · rcases List.mem_append.mp hx with hx | hx
      · exact List.all_eq_true.mp (by decide : "fallback:".toList.all (isAuthoredChar ·.toLower) = true) x hx
      · exact List.all_eq_true.mp (by decide : hexDigits.all (isAuthoredChar ·.toLower) = true) x (hdigits x hx)
    · exact List.all_eq_true.mp
        (by decide : ":absent-player-safe-default-action".toList.all (isAuthoredChar ·.toLower) = true) x hx
  · rw [isBlank_append, hchars]
    rintro (hblank | hlong)
    · rw [Bool.and_eq_true] at hblank
      exact absurd hblank.2 (by decide)
    · exact absurd hlong (by decide)

/-- **The authored proposal is always accepted by the engine**, and says one thing. -/
theorem fallbackProposal_spec (h : prepareRequest service.wire service.config input = .ok prepared) :
    ∃ proposal disposition text, fallbackProposal input prepared = .ok proposal ∧
      proposal.validateAgainst input.acceptance = .ok disposition ∧ proposal.texts = [text] ∧
      text.length = fallbackChars input.purpose ∧ unsafeText text = false ∧
      (input.purpose = .narrateCommittedFacts → text = narrateFallbackText) := by
  unfold fallbackProposal
  cases hpurpose : input.purpose with
  | interpretPlayerIntent =>
    refine ⟨_, _, interpretFallbackText, rfl, fallbackNarration_validateAgainst h (by decide +kernel), rfl, rfl, ?_, ?_⟩
    · decide +kernel
    · exact nofun
  | narrateCommittedFacts =>
    refine ⟨_, _, narrateFallbackText, rfl, fallbackNarration_validateAgainst h (by decide), rfl, rfl, ?_, ?_⟩
    · decide +kernel
    · exact fun _ => rfl
  | chooseAbsentPlayerAction =>
    obtain ⟨hlength, hsafe, htext⟩ := absentRationale_spec h
    -- the first of the actions that the request names is one that the engine offers
    have habsence := (prepareRequest_eq_ok h).1.absence
    unfold validateAbsence at habsence
    rw [if_pos hpurpose, decide_eq_true_eq] at habsence
    obtain ⟨-, -, hne, -, hoffered, -⟩ := habsence
    obtain ⟨actionId, rest, hactions⟩ := List.exists_cons_of_ne_nil hne
    rw [hactions]
    refine ⟨_, .convertToEngineCommand, _, rfl, ?_, rfl, hlength, hsafe, nofun⟩
    refine seq_eq_ok.mpr ⟨expectedBase_validateAgainst h, seq_eq_ok.mpr ⟨htext, seq_eq_ok.mpr ⟨rejectIf_of_not ?_, rfl⟩⟩⟩
    rintro (hnot | ⟨target, htarget, -⟩)
    · rw [hoffered actionId (hactions ▸ List.mem_cons_self)] at hnot
      cases hnot
    · cases htarget

/-- Only a narration has a private source. -/
theorem purpose_of_brief (h : prepareRequest service.wire service.config input = .ok prepared)
    {brief : PrivateInspirationBrief} (hbrief : brief ∈ input.privateInspiration) :
    input.purpose = .narrateCommittedFacts := by
  have hprivate := (prepareRequest_eq_ok h).1.privateInspiration
  rw [Option.mem_def.mp hbrief] at hprivate
  unfold validatePrivateInspiration at hprivate
  split at hprivate
  · next heq => cases heq
  · next heq =>
    cases heq
    rw [validateBrief, decide_eq_true_eq] at hprivate
    exact hprivate.1
  · cases hprivate

/-- The answer is a proposal that passes every check of the request. -/
def IsAnswer (service : TypedGmService) (input : TypedGmTurnInput)
    (answer : Except TypedGmServiceError TypedGmTurnResult) : Prop :=
  ∃ result, answer = .ok result ∧ result.proposal.validateAgainst input.acceptance = .ok result.disposition ∧
    validateProposalSafety service.unicode result.proposal input.policy.safety input.privateInspiration = .ok ()

/-- **The authored proposal is an answer exactly when it fits.** -/
theorem isAnswer_fallback_iff (h : prepareRequest service.wire service.config input = .ok prepared) :
    IsAnswer service input (fallbackResult service input prepared failure summary) ↔
      FallbackFits service.unicode input := by
  obtain ⟨proposal, disposition, text, hproposal, haccepted, htexts, hlength, hsafe, hnarrate⟩ := fallbackProposal_spec h
  have hsafety : validateProposalSafety service.unicode proposal input.policy.safety input.privateInspiration = .ok () ↔
      FallbackFits service.unicode input := by
    have hsum : ([text].map String.length).sum = fallbackChars input.purpose := by
      rw [List.map_singleton, List.sum_singleton, hlength]
    rw [validateProposalSafety_eq_ok, htexts, hsum]
    unfold FallbackFits
    refine and_congr_right fun _ => ?_
    constructor
    · rintro ⟨-, hprivate⟩ brief hbrief
      rw [← hnarrate (purpose_of_brief h hbrief)]
      exact hprivate brief hbrief text (List.mem_singleton_self _)
    · intro hprivate
      refine ⟨fun x hx => ?_, fun brief hbrief x hx => ?_⟩
      · rw [List.mem_singleton.mp hx]
        exact hsafe
      · rw [List.mem_singleton.mp hx, hnarrate (purpose_of_brief h hbrief)]
        exact hprivate brief hbrief
  unfold fallbackResult
  rw [hproposal, ok_bind, haccepted]
  show IsAnswer service input (do
    (validateProposalSafety service.unicode proposal input.policy.safety input.privateInspiration).mapError
      fun _ => TypedGmServiceError.fallbackInvariant
    _) ↔ _
  constructor
  · rintro ⟨result, hresult, -⟩
    obtain ⟨hok, -⟩ := seq_eq_ok.mp hresult
    exact hsafety.mp (mapError_eq_ok.mp hok)
  · intro hfits
    have hok := hsafety.mpr hfits
    rw [hok]
    exact ⟨_, rfl, haccepted, hok⟩

end Fallback

/-- **The game master always answers, exactly when its authored text is within the limits of the request.** Whatever the
provider and the circuit do, an answer passes every check; without that, a call that times out is not answered. -/
theorem always_answers_iff (service : TypedGmService) {input : TypedGmTurnInput} {prepared : PreparedTypedGmRequest}
    (h : prepareRequest service.wire service.config input = .ok prepared) :
    (∀ conditions, IsAnswer service input (generate service input conditions).1) ↔
      FallbackFits service.unicode input := by
  constructor
  · intro hall
    obtain ⟨summary, htimeout⟩ := generate_timeout h
    have hanswer := hall timeout
    rw [htimeout] at hanswer
    exact (isAnswer_fallback_iff h).mp hanswer
  · intro hfits conditions
    rcases generate_cases h conditions with ⟨failure, summary, hanswer⟩ | ⟨result, i, request, response, hanswer, -, hpasses, -⟩
    · rw [hanswer]
      exact (isAnswer_fallback_iff h).mpr hfits
    · obtain ⟨-, haccepted, hsafety⟩ := hpasses.checked
      exact ⟨result, hanswer, haccepted, hsafety⟩

/-! ## A request that is too short for its answer -/

section Story

/-- The tables on plain characters. -/
def plainUnicode : UnicodeTables := ⟨Char.isAlphanum, fun word => word.map Char.toLower⟩

def plainDigest : Sha256Digest := .fromBytes (Vector.replicate 32 0)

/-- A serializer that knows one response. -/
def plainWire (text : String) (proposal : Option TypedGmProposal) : Wire where
  prompt := "You are the game master."
  fingerprints _ _ := ⟨plainDigest, plainDigest, plainDigest⟩
  turnHash _ _ := Vector.replicate 32 0
  envelope input _ _ := input.policy.theme.presentationGuidance
  repair _ candidate _ := some candidate
  requestFingerprint _ := plainDigest
  proposalFingerprint _ := plainDigest
  parse candidate := if candidate = text then proposal else none

/-- The configuration of the private release. -/
def privateMvp : TypedGmServiceConfig := ⟨plainDigest, 20000, 4, 65536, 65536, 2048, 16384, 3, 30000⟩

def plainPolicy (privateInspiration : PrivateInspirationPolicy) (maxOutputChars : Nat) : GmPromptPolicy where
  policyId := "policy-1"
  safety := ⟨.adultsOnly, {.currentPersonalCrisis, .imminentHarm, .privatePersonalData, .realPersonLikeness,
    .sexualContentInvolvingMinors}, privateInspiration, maxOutputChars⟩
  theme := ⟨"theme-1", ["gritty"], "Rain and brick."⟩

def plainContext : ProposalAcceptanceContext where
  sessionId := "session-1"
  revision := 1
  eventSequence := 0
  promptTemplateId := typedGmPromptTemplateId
  policyId := "policy-1"
  configFingerprint := plainDigest
  legalActionIds := {"action-wait"}
  legalCheckIds := ∅
  legalTargetIds := ∅
  legalSceneIds := ∅
  legalObjectiveIds := ∅
  authoritativeFacts := []

/-- A request to choose an action for an absent player. -/
def absentInput (maxOutputChars : Nat) : TypedGmTurnInput where
  purpose := .chooseAbsentPlayerAction
  acceptance := plainContext
  publicFacts := []
  playerIntent := none
  privateInspiration := none
  policy := plainPolicy .excluded maxOutputChars
  absentCharacterSummary := some "A canal warden."
  safeFallbackActionIds := ["action-wait"]

def plainService : TypedGmService := ⟨plainWire "" none, plainUnicode, privateMvp⟩

def preparedFor (service : TypedGmService) (input : TypedGmTurnInput) : PreparedTypedGmRequest :=
  let fingerprints := service.wire.fingerprints service.config input.policy
  let base := expectedBase service.wire input fingerprints
  let request := providerRequest service.wire service.config (service.wire.envelope input base fingerprints)
  ⟨base, request, service.wire.requestFingerprint request, fingerprints⟩

/-- With room for the authored text, every call for an absent player is answered. -/
theorem always_answers_absent : FallbackFits plainService.unicode (absentInput 12000) ∧
    ∀ conditions, IsAnswer plainService (absentInput 12000) (generate plainService (absentInput 12000) conditions).1 := by
  have hfits : FallbackFits plainService.unicode (absentInput 12000) := ⟨by decide, fun _ h => nomatch h⟩
  exact ⟨hfits, (@always_answers_iff plainService (absentInput 12000) (preparedFor plainService (absentInput 12000))
    (by with_unfolding_all decide)).mpr hfits⟩

/-- **A request that allows one character is accepted, and not answered** when the provider times out. -/
theorem short_request_unanswered :
    prepareRequest plainService.wire plainService.config (absentInput 1) = .ok (preparedFor plainService (absentInput 1)) ∧
      (generate plainService (absentInput 1) timeout).1 = .error .fallbackInvariant :=
  ⟨by with_unfolding_all decide, by with_unfolding_all decide⟩

end Story

end ManchesterArcana.TypedGm
