import ManchesterArcana.TypedGm.Answers

/-!
# `TypedGm.Acceptance` — which proposals are let through

The checks of a candidate do not look at what was asked for: `proposals_fit_iff` says that a proposal of another type is
let through for an absent player wherever one can be written. Nor do they look at the ids that a proposal makes up:
`accepted_leaks_nothing_iff` says that what an accepted proposal gives away of a private source, it gives away there.
-/

namespace ManchesterArcana.TypedGm

open Effect

/-! ## Types and purposes -/

def TypedGmProposal.typeName : TypedGmProposal → String
  | .action _ => "action"
  | .check _ => "check"
  | .scene _ => "scene"
  | .narration _ => "narration"
  | .clarification _ => "clarification"

/-- **The proposal fits the purpose**: its type is one that the purpose asks for, and for an absent player it is an action
that the engine offers, on a target that it offers. -/
def FitsPurpose (input : TypedGmTurnInput) (proposal : TypedGmProposal) : Prop :=
  proposal.typeName ∈ requiredOutputAllowedTypes input.purpose ∧
    (input.purpose = .chooseAbsentPlayerAction → ∃ value, proposal = .action value ∧
      value.actionId ∈ input.acceptance.legalActionIds ∧ ∀ target ∈ value.targetId, target ∈ input.acceptance.legalTargetIds)

/-- No response reads as a proposal of another type that passes. -/
def OnlyActionsPass (service : TypedGmService) (input : TypedGmTurnInput) (prepared : PreparedTypedGmRequest) : Prop :=
  ∀ response proposal disposition, Passes service input prepared response proposal disposition →
    proposal.typeName = "action"

/-- The shortest narration of the facts that stand. -/
def shortNarration (input : TypedGmTurnInput) (prepared : PreparedTypedGmRequest) : TypedGmProposal :=
  .narration ⟨prepared.expectedBase, "n", "?", input.acceptance.authoritativeFacts⟩

section Purposes

variable {service : TypedGmService} {input : TypedGmTurnInput} {prepared : PreparedTypedGmRequest}
  {proposal : TypedGmProposal} {disposition : ProposalDisposition} {text : String}

theorem eq_action_of_typeName (h : proposal.typeName = "action") : ∃ value, proposal = .action value := by
  cases proposal with
  | action value => exact ⟨value, rfl⟩
  | check value => exact absurd (show "check" = "action" from h) (by decide)
  | scene value => exact absurd (show "scene" = "action" from h) (by decide)
  | narration value => exact absurd (show "narration" = "action" from h) (by decide)
  | clarification value => exact absurd (show "clarification" = "action" from h) (by decide)

theorem typeName_mem (proposal : TypedGmProposal) :
    proposal.typeName ∈ ["action", "check", "scene", "narration", "clarification"] := by
  cases proposal with
  | action value => exact (by decide : "action" ∈ ["action", "check", "scene", "narration", "clarification"])
  | check value => exact (by decide : "check" ∈ ["action", "check", "scene", "narration", "clarification"])
  | scene value => exact (by decide : "scene" ∈ ["action", "check", "scene", "narration", "clarification"])
  | narration value => exact (by decide : "narration" ∈ ["action", "check", "scene", "narration", "clarification"])
  | clarification value => exact (by decide : "clarification" ∈ ["action", "check", "scene", "narration", "clarification"])

/-- Where the player is there, every type is asked for. -/
theorem fitsPurpose_of_present (h : input.purpose ≠ .chooseAbsentPlayerAction) (proposal : TypedGmProposal) :
    FitsPurpose input proposal := by
  refine ⟨?_, fun hchoose => absurd hchoose h⟩
  cases hpurpose : input.purpose with
  | chooseAbsentPlayerAction => exact absurd hpurpose h
  | interpretPlayerIntent => exact typeName_mem proposal
  | narrateCommittedFacts => exact typeName_mem proposal

/-- An accepted action fits every purpose. -/
theorem fitsPurpose_of_action (haction : proposal.typeName = "action")
    (h : proposal.validateAgainst input.acceptance = .ok disposition) : FitsPurpose input proposal := by
  obtain ⟨value, rfl⟩ := eq_action_of_typeName haction
  constructor
  · cases input.purpose with
    | interpretPlayerIntent => exact typeName_mem (.action value)
    | narrateCommittedFacts => exact typeName_mem (.action value)
    | chooseAbsentPlayerAction => exact List.mem_singleton_self "action"
  · intro _
    obtain ⟨-, hvalue⟩ := seq_eq_ok.mp h
    obtain ⟨hactionId, htarget⟩ := ActionProposal.offered_of_validateAgainst hvalue
    exact ⟨value, rfl, hactionId, htarget⟩

/-- What is authored for an absent player is an action. -/
theorem fallback_fits {failure : GenerationFailureClass} {summary : AttemptSummary} {result : TypedGmTurnResult}
    (hresult : fallbackResult service input prepared failure summary = .ok result) :
    FitsPurpose input result.proposal := by
  by_cases hpurpose : input.purpose = .chooseAbsentPlayerAction
  · unfold fallbackResult at hresult
    obtain ⟨proposal, hproposal, hresult⟩ := bind_eq_ok.mp hresult
    obtain ⟨disposition, hdisposition, hresult⟩ := bind_eq_ok.mp hresult
    obtain ⟨-, hresult⟩ := seq_eq_ok.mp hresult
    cases hresult
    refine fitsPurpose_of_action ?_ (mapError_eq_ok.mp hdisposition)
    unfold fallbackProposal at hproposal
    rw [hpurpose] at hproposal
    obtain ⟨actionId, -, hproposal⟩ := bind_eq_ok.mp hproposal
    cases hproposal
    rfl
  · exact fitsPurpose_of_present hpurpose _

/-- **A narration passes, whatever the purpose.** -/
theorem shortNarration_passes (h : prepareRequest service.wire service.config input = .ok prepared)
    (hsize : text.utf8ByteSize ≤ service.config.maxResponseBytes)
    (hreads : service.wire.parse text = some (shortNarration input prepared))
    (hprivate : input.privateInspiration = none) :
    Passes service input prepared ⟨text, none, none, ⟨some 0, none, none⟩⟩ (shortNarration input prepared)
      .presentationOnly := by
  have haccepted := (prepareRequest_eq_ok h).1
  have hvalid : (shortNarration input prepared).validateAgainst input.acceptance = .ok .presentationOnly := by
    refine seq_eq_ok.mpr ⟨expectedBase_validateAgainst h, ?_⟩
    have hid : isValidOpaqueId "n" = true := by decide
    have htext : validateText "?" 12000 = .ok () := by decide
    exact narration_validateAgainst haccepted.acceptance hid htext rfl
  have hlimit : 1 ≤ input.policy.safety.maxOutputChars := by
    have hpolicy := haccepted.policy
    rw [GmPromptPolicy.validate, decide_eq_true_eq] at hpolicy
    have hsafety := hpolicy.2.1
    rw [GmSafetyPolicy.validate, decide_eq_true_eq] at hsafety
    exact hsafety.2.2.1
  have hsafety : validateProposalSafety service.unicode (shortNarration input prepared) input.policy.safety
      input.privateInspiration = .ok () := by
    have hsum : ((shortNarration input prepared).texts.map String.length).sum = 1 := by
      show (["?"].map String.length).sum = 1
      decide
    refine validateProposalSafety_eq_ok.mpr ⟨hsum.le.trans hlimit, fun x hx => ?_, fun brief hbrief => ?_⟩
    · rw [List.mem_singleton.mp hx]
      show unsafeText "?" = false
      with_unfolding_all decide
    · rw [hprivate] at hbrief
      cases hbrief
  have hlimits : ¬ (service.config.maxResponseBytes < text.utf8ByteSize ∨
      service.config.maxTotalTokens < usageTotal ⟨some 0, none, none⟩) := by
    rintro (hlarge | htokens)
    · exact Nat.not_lt.mpr hsize hlarge
    · exact Nat.not_lt_zero _ htokens
  unfold Passes validateCandidate
  refine seq_eq_ok.mpr ⟨rejectIf_of_not hlimits, ?_⟩
  rw [hreads, okOr_some, ok_bind]
  refine seq_eq_ok.mpr ⟨rejectIf_of_not (not_not.mpr rfl), ?_⟩
  rw [hvalid, hsafety]
  rfl

/-- A purpose other than narrating has no private source. -/
theorem no_brief_of_absent (h : prepareRequest service.wire service.config input = .ok prepared)
    (hpurpose : input.purpose = .chooseAbsentPlayerAction) : input.privateInspiration = none := by
  refine Option.eq_none_iff_forall_not_mem.mpr fun brief hbrief => ?_
  rw [purpose_of_brief h hbrief] at hpurpose
  cases hpurpose

end Purposes

/-- **When every proposal fits its purpose**: the player is there, or no response that passes is of another type than an
action. A response that holds a narration of the facts that stand is one, so that where it can be written the purpose
alone decides. -/
theorem proposals_fit_iff (service : TypedGmService) {input : TypedGmTurnInput} {prepared : PreparedTypedGmRequest}
    (h : prepareRequest service.wire service.config input = .ok prepared) :
    ((∀ conditions result, (generate service input conditions).1 = .ok result → FitsPurpose input result.proposal) ↔
      input.purpose ≠ .chooseAbsentPlayerAction ∨ OnlyActionsPass service input prepared) ∧
    ((∃ text, text.utf8ByteSize ≤ service.config.maxResponseBytes ∧
        service.wire.parse text = some (shortNarration input prepared)) →
      ((∀ conditions result, (generate service input conditions).1 = .ok result → FitsPurpose input result.proposal) ↔
        input.purpose ≠ .chooseAbsentPlayerAction)) := by
  have hiff : (∀ conditions result, (generate service input conditions).1 = .ok result →
      FitsPurpose input result.proposal) ↔
      input.purpose ≠ .chooseAbsentPlayerAction ∨ OnlyActionsPass service input prepared := by
    constructor
    · intro hall
      by_cases hpurpose : input.purpose = .chooseAbsentPlayerAction
      · refine .inr fun response proposal disposition hpasses => ?_
        obtain ⟨result, hresult, rfl, -⟩ := generate_answering h hpasses
        obtain ⟨value, hvalue, -⟩ := (hall _ result hresult).2 hpurpose
        rw [hvalue]
        rfl
      · exact .inl hpurpose
    · rintro (hpurpose | honly) conditions result hresult
      · exact fitsPurpose_of_present hpurpose _
      · rcases generate_cases h conditions with
          ⟨failure, summary, hanswer⟩ | ⟨result', i, request, response, hanswer, -, hpasses, -⟩
        · rw [hanswer] at hresult
          exact fallback_fits hresult
        · rw [hanswer] at hresult
          cases hresult
          exact fitsPurpose_of_action (honly _ _ _ hpasses) hpasses.checked.2.1
  refine ⟨hiff, ?_⟩
  rintro ⟨text, hsize, hreads⟩
  refine hiff.trans ⟨fun hor hpurpose => ?_, .inl⟩
  rcases hor with hpresent | honly
  · exact hpresent hpurpose
  · have hpasses := shortNarration_passes h hsize hreads (no_brief_of_absent h hpurpose)
    exact absurd (show "narration" = "action" from honly _ _ _ hpasses) (by decide)

/-! ## What an accepted proposal gives away -/

/-- The ids that a proposal makes up: those of a narration and of its choices. Every other id is one of the request. -/
def TypedGmProposal.madeUpIds : TypedGmProposal → List String
  | .narration value => [value.narrationId]
  | .clarification value => value.choices.map (·.choiceId)
  | _ => []

/-- The strings that are the provider's own. -/
def TypedGmProposal.providerStrings (proposal : TypedGmProposal) : List String :=
  proposal.texts ++ proposal.madeUpIds

/-- **Nothing of the private source is given away**: no string of the provider names an identifier of it, and no text
shares a run of four words with a fact of it, or the whole of a shorter fact. -/
def LeaksNothing (unicode : UnicodeTables) (proposal : TypedGmProposal) (brief : PrivateInspirationBrief) : Prop :=
  (∀ value ∈ proposal.providerStrings, ∀ identifier ∈ brief.forbiddenIdentifiers, mentions value identifier = false) ∧
    ∀ text ∈ proposal.texts, ∀ fact ∈ brief.minimizedFacts, ¬ ∃ run,
      run.length = min (normalizedWords unicode fact).length 4 ∧ run <:+: normalizedWords unicode fact ∧
        run <:+: normalizedWords unicode text

/-- The ids that the proposal makes up name nothing of the private source. -/
def IdsAreClean (proposal : TypedGmProposal) (brief : PrivateInspirationBrief) : Prop :=
  ∀ id ∈ proposal.madeUpIds, ∀ identifier ∈ brief.forbiddenIdentifiers, mentions id identifier = false

section Leaks

variable {service : TypedGmService} {input : TypedGmTurnInput} {prepared : PreparedTypedGmRequest}
  {proposal : TypedGmProposal} {disposition : ProposalDisposition} {response : TextGenerationResponse}
  {brief : PrivateInspirationBrief}

/-- **A proposal that passes leaks nothing in its texts.** -/
theorem Passes.leaksNothing_iff (h : Passes service input prepared response proposal disposition)
    (hbrief : brief ∈ input.privateInspiration) :
    LeaksNothing service.unicode proposal brief ↔ IdsAreClean proposal brief := by
  obtain ⟨-, -, hsafety⟩ := h.checked
  obtain ⟨-, -, hprivate⟩ := validateProposalSafety_eq_ok.mp hsafety
  have htexts := fun text htext => privateInspirationOutputIsUnsafe_eq_false (hprivate brief hbrief text htext)
  constructor
  · rintro ⟨hstrings, -⟩ id hid
    exact hstrings id (List.mem_append_right _ hid)
  · intro hclean
    refine ⟨fun value hvalue => ?_, fun text htext fact hfact hrun => ?_⟩
    · rcases List.mem_append.mp hvalue with htext | hid
      · exact (htexts value htext).1
      · exact hclean value hid
    · have hechoes := (htexts text htext).2 fact hfact
      rw [echoes_iff.mpr hrun] at hechoes
      cases hechoes

end Leaks

/-- **What an accepted response gives away.** A result of the provider is one of its responses, read; it leaks nothing of
the private source exactly when the ids that it makes up are clean. -/
theorem accepted_leaks_nothing_iff (service : TypedGmService) {input : TypedGmTurnInput}
    {prepared : PreparedTypedGmRequest} {conditions : CallConditions} {result : TypedGmTurnResult}
    {brief : PrivateInspirationBrief} (h : prepareRequest service.wire service.config input = .ok prepared)
    (hbrief : brief ∈ input.privateInspiration) (hresult : (generate service input conditions).1 = .ok result)
    (hsource : result.source = .provider) :
    ∃ i request response proposal, conditions.provider i request = .ok response ∧
      service.wire.parse response.text = some proposal ∧ result.proposal = proposal ∧
      (LeaksNothing service.unicode result.proposal brief ↔ IdsAreClean proposal brief) := by
  rcases generate_cases h conditions with
    ⟨failure, summary, hanswer⟩ | ⟨result', i, request, response, hanswer, hresponse, hpasses, -⟩
  · rw [hanswer] at hresult
    unfold fallbackResult at hresult
    obtain ⟨proposal, -, hresult⟩ := bind_eq_ok.mp hresult
    obtain ⟨disposition, -, hresult⟩ := bind_eq_ok.mp hresult
    obtain ⟨-, hresult⟩ := seq_eq_ok.mp hresult
    cases hresult
    cases hsource
  · rw [hanswer] at hresult
    cases hresult
    exact ⟨i, request, response, _, hresponse, hpasses.checked.1, rfl, hpasses.leaksNothing_iff hbrief⟩

/-! ## Two responses that are let through -/

section Story

/-- The base that the story's proposals carry. -/
def plainBase : ProposalBase :=
  ⟨1, "typed-gm:00000000000000000000000000000000", "session-1", 1, 0, typedGmPromptTemplateId, "policy-1", plainDigest⟩

/-- The base, as it is written. -/
def plainBaseText : String :=
  "\"base\":\x7b\"schema_version\":1,\"proposal_id\":\"typed-gm:00000000000000000000000000000000\"," ++
    "\"session_id\":\"session-1\",\"based_on_revision\":1,\"based_on_event_sequence\":0," ++
    "\"prompt_template_id\":\"prompt:typed-gm-turn:v1\",\"policy_id\":\"policy-1\",\"config_fingerprint\":" ++
    "\"sha256:0000000000000000000000000000000000000000000000000000000000000000\"\x7d,"

def askingText : String :=
  "\x7b\"type\":\"clarification\"," ++ plainBaseText ++ "\"question\":\"Stay or go?\",\"choices\":" ++
    "[\x7b\"choice_id\":\"stay\",\"label\":\"Stay\",\"action_id\":null\x7d]\x7d"

/-- A question to a player who is not there. -/
def asking : TypedGmProposal := .clarification ⟨plainBase, "Stay or go?", [⟨"stay", "Stay", none⟩]⟩

def askingService : TypedGmService := ⟨plainWire askingText (some asking), plainUnicode, privateMvp⟩

def plainResponse (text : String) : TextGenerationResponse := ⟨text, none, none, ⟨some 500, none, none⟩⟩

set_option maxRecDepth 20000 in
/-- **An absent player is asked a question**: the request allows actions only. -/
theorem absent_player_asked :
    prepareRequest askingService.wire askingService.config (absentInput 12000) =
        .ok (preparedFor askingService (absentInput 12000)) ∧
      requiredOutputAllowedTypes (absentInput 12000).purpose = ["action"] ∧
      (generate askingService (absentInput 12000) (answering (plainResponse askingText))).1.toOption.map
        (fun result => (result.proposal, result.source)) = some (asking, .provider) :=
  ⟨by with_unfolding_all decide, rfl, by with_unfolding_all decide⟩

/-- A request to narrate, for a player who is there. -/
def presentInput (privateInspiration : Option PrivateInspirationBrief) : TypedGmTurnInput where
  purpose := .narrateCommittedFacts
  acceptance := plainContext
  publicFacts := []
  playerIntent := none
  privateInspiration := privateInspiration
  policy := plainPolicy (if privateInspiration.isSome then .minimizedHighDistanceV1 else .excluded) 12000
  absentCharacterSummary := none
  safeFallbackActionIds := []

/-- Every proposal fits the purpose of a request to narrate. -/
theorem proposals_fit_present : (presentInput none).purpose ≠ .chooseAbsentPlayerAction ∧ ∀ conditions result,
    (generate plainService (presentInput none) conditions).1 = .ok result → FitsPurpose (presentInput none) result.proposal :=
  ⟨by decide, (@proposals_fit_iff plainService (presentInput none) (preparedFor plainService (presentInput none))
    (by decide)).1.mpr (.inl (by decide))⟩

def plainBrief : PrivateInspirationBrief where
  selectionId := "selection-1"
  sourceId := "source-7"
  sourceVersion := 1
  sourceDigest := plainDigest
  minimizedFacts := ["The bridge was closed after the flood"]
  forbiddenIdentifiers := {"source-7"}
  transformation := .highFictionDistanceV1

def narrationText (narrationId : String) : String :=
  "\x7b\"type\":\"narration\"," ++ plainBaseText ++ "\"narration_id\":\"" ++ narrationId ++
    "\",\"text\":\"Rain falls.\",\"claimed_facts\":[]\x7d"

def narrating (narrationId : String) : TypedGmProposal := .narration ⟨plainBase, narrationId, "Rain falls.", []⟩

def narratingService (narrationId : String) : TypedGmService :=
  ⟨plainWire (narrationText narrationId) (some (narrating narrationId)), plainUnicode, privateMvp⟩

set_option maxRecDepth 20000 in
/-- **The id of the private source stands in the id of an accepted narration.** -/
theorem source_named_in_id :
    prepareRequest (narratingService "Source-7").wire (narratingService "Source-7").config (presentInput (some plainBrief)) =
        .ok (preparedFor (narratingService "Source-7") (presentInput (some plainBrief))) ∧
      (generate (narratingService "Source-7") (presentInput (some plainBrief))
        (answering (plainResponse (narrationText "Source-7")))).1.toOption.map
          (fun result => (result.proposal, result.source)) = some (narrating "Source-7", .provider) ∧
      ¬ LeaksNothing plainUnicode (narrating "Source-7") plainBrief := by
  refine ⟨by with_unfolding_all decide, by with_unfolding_all decide, fun h => ?_⟩
  have hnamed := h.1 "Source-7" (by decide) "source-7" (by decide)
  exact absurd hnamed (by with_unfolding_all decide)

set_option maxRecDepth 20000 in
/-- The result of a call that is answered at once with a clean narration. -/
theorem clean_narration_leaks_nothing : ∃ result,
    (generate (narratingService "rain-1") (presentInput (some plainBrief))
      (answering (plainResponse (narrationText "rain-1")))).1 = .ok result ∧
    ∃ i request response proposal, (answering (plainResponse (narrationText "rain-1"))).provider i request = .ok response ∧
      (narratingService "rain-1").wire.parse response.text = some proposal ∧ result.proposal = proposal ∧
      (LeaksNothing plainUnicode result.proposal plainBrief ↔ IdsAreClean proposal plainBrief) := by
  cases hresult : (generate (narratingService "rain-1") (presentInput (some plainBrief))
      (answering (plainResponse (narrationText "rain-1")))).1 with
  | error e =>
    have hok : ((generate (narratingService "rain-1") (presentInput (some plainBrief))
      (answering (plainResponse (narrationText "rain-1")))).1.toOption.isSome) = true := by with_unfolding_all decide
    rw [hresult] at hok
    cases hok
  | ok result =>
    have hsource : (generate (narratingService "rain-1") (presentInput (some plainBrief))
      (answering (plainResponse (narrationText "rain-1")))).1.toOption.map (·.source) = some .provider := by with_unfolding_all decide
    rw [hresult] at hsource
    exact ⟨result, rfl, @accepted_leaks_nothing_iff (narratingService "rain-1") (presentInput (some plainBrief))
      (preparedFor (narratingService "rain-1") (presentInput (some plainBrief))) _ result plainBrief (by decide)
      rfl hresult (Option.some.inj hsource)⟩

end Story

end ManchesterArcana.TypedGm
