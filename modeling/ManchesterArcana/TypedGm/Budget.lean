import Mathlib.Algebra.BigOperators.Group.List.Basic
import ManchesterArcana.TypedGm.Acceptance

/-!
# `TypedGm.Budget` — the tokens of a call

Every attempt's usage is added to that of the attempts before it, figure by figure, and the sum is held against the
limit. The total of a sum is its sum of totals as soon as one response reports a total, and what a response without one
reports in parts is then not in it. So two attempts can cost more than the limit (`limit_exceeded`), and the usage that
is recorded accounts for every attempt when the responses report alike (`token_budget_iff`).
-/

namespace ManchesterArcana.TypedGm

open Effect

/-- `TypedGmServiceConfig::validate`, which a service's configuration has passed. -/
def TypedGmServiceConfig.validate (config : TypedGmServiceConfig) : Bool :=
  0 < config.purposeDeadlineMilliseconds ∧ config.purposeDeadlineMilliseconds ≤ 120000 ∧
    1 ≤ config.maxConcurrency ∧ config.maxConcurrency ≤ 32 ∧
    1024 ≤ config.maxRequestBytes ∧ config.maxRequestBytes ≤ 256 * 1024 ∧
    1024 ≤ config.maxResponseBytes ∧ config.maxResponseBytes ≤ 256 * 1024 ∧
    64 ≤ config.maxOutputTokens ∧ config.maxOutputTokens ≤ 4096 ∧
    config.maxOutputTokens ≤ config.maxTotalTokens ∧ config.maxTotalTokens ≤ 128000 ∧
    1 ≤ config.circuitFailureThreshold ∧ config.circuitFailureThreshold ≤ 100 ∧
    0 < config.circuitOpenMilliseconds ∧ config.circuitOpenMilliseconds ≤ 600000

/-! ## Sums of usage -/

/-- The tokens that a response reports: its total, or its parts where it has none. -/
def TokenUsage.reported (usage : TokenUsage) : Nat :=
  usage.totalTokens.getD (usage.promptTokens.getD 0 + usage.completionTokens.getD 0)

/-- The tokens of all of them. -/
def reportedTokens (usages : List TokenUsage) : Nat := (usages.map (·.reported)).sum

/-- **The responses report alike**: none has a total, or what has none reports no tokens. -/
def ReportAlike (usages : List TokenUsage) : Prop :=
  (∀ usage ∈ usages, usage.totalTokens = none) ∨ ∀ usage ∈ usages, usage.totalTokens = none → usage.reported = 0

instance (usages : List TokenUsage) : Decidable (ReportAlike usages) := inferInstanceAs (Decidable (_ ∨ _))

/-- What the service records of them. -/
def addUsages (usage : TokenUsage) (usages : List TokenUsage) : TokenUsage := usages.foldl addUsage usage

theorem addOptional_eq_none {x y : Option Nat} : addOptional x y = none ↔ x = none ∧ y = none := by
  cases x <;> cases y <;> simp [addOptional]

theorem getD_addOptional (x y : Option Nat) : (addOptional x y).getD 0 = saturatingAdd (x.getD 0) (y.getD 0) := by
  cases x <;> cases y <;> rfl

/-- **A figure of the sum** is the sum of the figures, or the largest number. -/
theorem getD_foldl_addOptional {start : Option Nat} (hstart : start.getD 0 ≤ maxU64) (xs : List (Option Nat)) :
    (xs.foldl addOptional start).getD 0 = min (start.getD 0 + (xs.map (·.getD 0)).sum) maxU64 := by
  induction xs generalizing start with
  | nil =>
    show start.getD 0 = min (start.getD 0 + 0) maxU64
    omega
  | cons x xs ih =>
    have hnext : (addOptional start x).getD 0 ≤ maxU64 := by
      rw [getD_addOptional]
      exact Nat.min_le_right _ _
    rw [List.foldl_cons, ih hnext, getD_addOptional, List.map_cons, List.sum_cons]
    unfold saturatingAdd
    omega

theorem foldl_addOptional_eq_none {start : Option Nat} (xs : List (Option Nat)) :
    xs.foldl addOptional start = none ↔ start = none ∧ ∀ x ∈ xs, x = none := by
  induction xs generalizing start with
  | nil => simp
  | cons x xs ih => rw [List.foldl_cons, ih, addOptional_eq_none, List.forall_mem_cons, and_assoc]

/-- The figures are added up one by one. -/
theorem addUsages_eq (usage : TokenUsage) (usages : List TokenUsage) : addUsages usage usages =
    ⟨(usages.map (·.promptTokens)).foldl addOptional usage.promptTokens,
      (usages.map (·.completionTokens)).foldl addOptional usage.completionTokens,
      (usages.map (·.totalTokens)).foldl addOptional usage.totalTokens⟩ := by
  induction usages generalizing usage with
  | nil => rfl
  | cons next usages ih => exact ih (addUsage usage next)

theorem sum_map_getD (f : TokenUsage → Option Nat) (usages : List TokenUsage) :
    ((usages.map f).map (·.getD 0)).sum = (usages.map fun usage => (f usage).getD 0).sum := by
  rw [List.map_map]
  rfl

variable {usages : List TokenUsage} {limit : Nat}

/-- Where no response has a total, the parts are all there is. -/
theorem usageTotal_of_parts (hlimit : limit < maxU64)
    (htotal : usageTotal (addUsages ⟨none, none, none⟩ usages) ≤ limit)
    (hparts : ∀ usage ∈ usages, usage.totalTokens = none) :
    usageTotal (addUsages ⟨none, none, none⟩ usages) = reportedTokens usages := by
  have hnone : (usages.map (·.totalTokens)).foldl addOptional none = none := by
    refine (foldl_addOptional_eq_none _).mpr ⟨rfl, fun x hx => ?_⟩
    obtain ⟨usage, husage, rfl⟩ := List.mem_map.mp hx
    exact hparts usage husage
  have hreported : reportedTokens usages = (usages.map fun usage => usage.promptTokens.getD 0).sum +
      (usages.map fun usage => usage.completionTokens.getD 0).sum := by
    unfold reportedTokens
    rw [← List.sum_map_add]
    refine congrArg List.sum (List.map_congr_left fun usage husage => ?_)
    show usage.totalTokens.getD _ = _
    rw [hparts usage husage]
    rfl
  rw [hreported]
  rw [addUsages_eq] at htotal ⊢
  unfold usageTotal at htotal ⊢
  simp only [hnone, Option.getD_none] at htotal ⊢
  rw [getD_foldl_addOptional (Nat.zero_le _), getD_foldl_addOptional (Nat.zero_le _), sum_map_getD,
    sum_map_getD] at htotal ⊢
  unfold saturatingAdd at htotal ⊢
  simp only [Option.getD_none] at htotal ⊢
  omega

/-- **What has no total is left out** of a sum that has one. -/
theorem usageTotal_of_total (hlimit : limit < maxU64)
    (htotal : usageTotal (addUsages ⟨none, none, none⟩ usages) ≤ limit) {usage : TokenUsage} (husage : usage ∈ usages)
    (hsome : usage.totalTokens ≠ none) :
    usageTotal (addUsages ⟨none, none, none⟩ usages) +
      (usages.map fun usage => if usage.totalTokens = none then usage.reported else 0).sum = reportedTokens usages := by
  have hreported : reportedTokens usages = (usages.map fun usage => usage.totalTokens.getD 0).sum +
      (usages.map fun usage => if usage.totalTokens = none then usage.reported else 0).sum := by
    unfold reportedTokens
    rw [← List.sum_map_add]
    refine congrArg List.sum (List.map_congr_left fun usage _ => ?_)
    unfold TokenUsage.reported
    cases usage.totalTokens with
    | none => exact (Nat.zero_add _).symm
    | some total => rfl
  have hfold : (usages.map (·.totalTokens)).foldl addOptional none ≠ none := by
    intro hnone
    refine hsome (((foldl_addOptional_eq_none _).mp hnone).2 _ ?_)
    exact List.mem_map_of_mem husage
  obtain ⟨total, hfold⟩ := Option.ne_none_iff_exists'.mp hfold
  have hsum := @getD_foldl_addOptional none (Nat.zero_le _) (usages.map (·.totalTokens))
  rw [sum_map_getD, hfold, Option.getD_some, Option.getD_none] at hsum
  rw [addUsages_eq] at htotal ⊢
  unfold usageTotal at htotal ⊢
  simp only [hfold, Option.getD_some] at htotal ⊢
  omega

/-- **The usage that is recorded accounts for every response exactly if they report alike**, within the limit. -/
theorem usageTotal_addUsages_iff (hlimit : limit < maxU64)
    (htotal : usageTotal (addUsages ⟨none, none, none⟩ usages) ≤ limit) :
    usageTotal (addUsages ⟨none, none, none⟩ usages) = reportedTokens usages ↔ ReportAlike usages := by
  by_cases hparts : ∀ usage ∈ usages, usage.totalTokens = none
  · exact iff_of_true (usageTotal_of_parts hlimit htotal hparts) (.inl hparts)
  · have hsome := hparts
    push Not at hsome
    obtain ⟨usage, husage, hsome⟩ := hsome
    rw [← usageTotal_of_total hlimit htotal husage hsome, left_eq_add, List.sum_eq_zero_iff_forall_eq_nat,
      List.forall_mem_map]
    unfold ReportAlike
    rw [or_iff_right hparts]
    refine forall₂_congr fun next _ => ?_
    by_cases hnone : next.totalTokens = none
    · rw [if_pos hnone, imp_iff_right hnone]
    · rw [if_neg hnone]
      exact iff_of_true rfl fun h => absurd h hnone

/-! ## The responses of a call -/

section Attempts

variable (service : TypedGmService) (input : TypedGmTurnInput) (prepared : PreparedTypedGmRequest)

/-- The responses that the attempts that are left get, as `attemptProvider` makes them. -/
def attemptResponses (provider : Provider) : Nat → Nat → TextGenerationRequest → AttemptSummary →
    List TextGenerationResponse
  | 0, _, _, _ => []
  | left + 1, attemptIndex, request, summary =>
    match provider attemptIndex request with
    | .error _ => []
    | .ok response =>
      let answered := (summary.asked (service.wire.requestFingerprint request)).answered response
      response :: (
        if service.config.maxTotalTokens < usageTotal answered.usage then []
        else match validateCandidate service input prepared response with
          | .ok _ => []
          | .error failure =>
            if left = 0 ∨ service.config.maxTotalTokens < usageTotal answered.usage then []
            else match buildRepairRequest service prepared response.text failure with
              | none => []
              | some repair => attemptResponses provider left (attemptIndex + 1) repair answered)

/-- The responses of a call. -/
def callResponses (conditions : CallConditions) : List TextGenerationResponse :=
  attemptResponses service input prepared conditions.provider (maximumAttempts input) 0 prepared.request .default

end Attempts

section Budget

variable {service : TypedGmService} {input : TypedGmTurnInput} {prepared : PreparedTypedGmRequest}
  {conditions : CallConditions} {result : TypedGmTurnResult}

/-- **An accepted result records the usage of every response**, and one attempt for each. By induction on the attempts
that are left. -/
theorem attemptProvider_usage {provider : Provider} {left attemptIndex : Nat} {request : TextGenerationRequest}
    {summary : AttemptSummary} {semanticFailure : Option GenerationFailureClass}
    (h : attemptProvider service input prepared provider left attemptIndex request summary semanticFailure =
      .accepted result) :
    result.usage = addUsages summary.usage
        ((attemptResponses service input prepared provider left attemptIndex request summary).map (·.usage)) ∧
      result.attempts = summary.attempts +
        (attemptResponses service input prepared provider left attemptIndex request summary).length ∧
      usageTotal result.usage ≤ service.config.maxTotalTokens := by
  induction left generalizing attemptIndex request summary semanticFailure with
  | zero => cases h
  | succ left ih =>
    unfold attemptProvider at h
    unfold attemptResponses
    dsimp only at h ⊢
    cases hresponse : provider attemptIndex request with
    | error e =>
      rw [hresponse] at h
      cases h
    | ok response =>
      rw [hresponse] at h
      dsimp only at h ⊢
      by_cases hover : service.config.maxTotalTokens <
          usageTotal ((summary.asked (service.wire.requestFingerprint request)).answered response).usage
      · rw [if_pos hover] at h
        cases h
      rw [if_neg hover] at h ⊢
      cases hverdict : validateCandidate service input prepared response with
      | ok verdict =>
        rw [hverdict] at h
        cases h
        exact ⟨rfl, rfl, Nat.not_lt.mp hover⟩
      | error failure =>
        rw [hverdict] at h
        dsimp only at h ⊢
        by_cases hleft : left = 0 ∨ service.config.maxTotalTokens <
            usageTotal ((summary.asked (service.wire.requestFingerprint request)).answered response).usage
        · rw [if_pos hleft] at h
          cases h
        rw [if_neg hleft] at h ⊢
        cases hrepair : buildRepairRequest service prepared response.text failure with
        | none =>
          rw [hrepair] at h
          cases h
        | some repair =>
          rw [hrepair] at h
          obtain ⟨husage, hattempts, hlimit⟩ := ih h
          refine ⟨husage, ?_, hlimit⟩
          rw [hattempts, List.length_cons]
          exact Nat.add_right_comm _ 1 _

/-- A result of the provider is one that its attempts end with. -/
theorem attemptProvider_of_generate (h : prepareRequest service.wire service.config input = .ok prepared)
    (hresult : (generate service input conditions).1 = .ok result) (hsource : result.source = .provider) :
    attemptProvider service input prepared conditions.provider (maximumAttempts input) 0 prepared.request .default
      none = .accepted result := by
  have hauthored : ∀ failure summary, fallbackResult service input prepared failure summary ≠ .ok result := by
    intro failure summary hanswer
    unfold fallbackResult at hanswer
    obtain ⟨proposal, -, hanswer⟩ := bind_eq_ok.mp hanswer
    obtain ⟨disposition, -, hanswer⟩ := bind_eq_ok.mp hanswer
    obtain ⟨-, hanswer⟩ := seq_eq_ok.mp hanswer
    cases hanswer
    cases hsource
  unfold generate at hresult
  rw [h] at hresult
  dsimp only at hresult
  split at hresult
  · exact absurd hresult (hauthored _ _)
  split at hresult
  · exact absurd hresult (hauthored _ _)
  split at hresult
  · exact absurd hresult (hauthored _ _)
  split at hresult
  · next result' haccepted =>
    cases hresult
    exact haccepted
  · exact absurd hresult (hauthored _ _)

/-- **The budget of an accepted result**: the tokens of all responses are within the limit, and the recorded usage is
of them all. -/
structure WithinBudget (service : TypedGmService) (responses : List TextGenerationResponse)
    (result : TypedGmTurnResult) : Prop where
  within : reportedTokens (responses.map (·.usage)) ≤ service.config.maxTotalTokens
  accounted : usageTotal result.usage = reportedTokens (responses.map (·.usage))
  attempts : result.attempts = responses.length

/-- **An accepted result keeps the budget exactly if its responses report alike.** -/
theorem token_budget_iff (hvalid : service.config.validate = true)
    (h : prepareRequest service.wire service.config input = .ok prepared)
    (hresult : (generate service input conditions).1 = .ok result) (hsource : result.source = .provider) :
    WithinBudget service (callResponses service input prepared conditions) result ↔
      ReportAlike ((callResponses service input prepared conditions).map (·.usage)) := by
  have hlimit : service.config.maxTotalTokens < maxU64 := by
    rw [TypedGmServiceConfig.validate, decide_eq_true_eq] at hvalid
    unfold maxU64
    omega
  obtain ⟨husage, hattempts, hwithin⟩ := attemptProvider_usage (attemptProvider_of_generate h hresult hsource)
  rw [show AttemptSummary.default.usage = ⟨none, none, none⟩ from rfl] at husage
  rw [husage] at hwithin
  refine Iff.trans ?_ (usageTotal_addUsages_iff hlimit hwithin)
  constructor
  · intro hbudget
    rw [← hbudget.accounted, husage]
    rfl
  · intro haccounted
    refine ⟨?_, ?_, ?_⟩
    · rw [← haccounted]
      exact hwithin
    · rw [husage]
      exact haccounted
    · rw [hattempts]
      exact Nat.zero_add _

variable {proposal : TypedGmProposal} {disposition : ProposalDisposition}

/-- A response that passes, passes with any usage within the limit. -/
theorem Passes.of_usage {response : TextGenerationResponse}
    (h : Passes service input prepared response proposal disposition)
    {usage : TokenUsage} (husage : usageTotal usage ≤ service.config.maxTotalTokens) :
    Passes service input prepared { response with usage } proposal disposition := by
  unfold Passes validateCandidate at h ⊢
  obtain ⟨hlimits, hrest⟩ := seq_eq_ok.mp h
  rw [rejectIf_eq_ok, not_or] at hlimits
  exact seq_eq_ok.mpr ⟨rejectIf_eq_ok.mpr (not_or.mpr ⟨hlimits.1, Nat.not_lt.mpr husage⟩), hrest⟩

section Attempt

variable {provider : Provider} {left attemptIndex : Nat} {request : TextGenerationRequest}
  {summary answered : AttemptSummary} {semanticFailure : Option GenerationFailureClass}
  {response : TextGenerationResponse}

/-- An attempt that is repaired. -/
theorem attempt_repaired {failure : GenerationFailureClass} {repair : TextGenerationRequest}
    (hask : provider attemptIndex request = .ok response)
    (hanswered : (summary.asked (service.wire.requestFingerprint request)).answered response = answered)
    (hwithin : usageTotal answered.usage ≤ service.config.maxTotalTokens) (hleft : left ≠ 0)
    (hfailed : validateCandidate service input prepared response = .error failure)
    (hrepair : buildRepairRequest service prepared response.text failure = some repair) :
    attemptProvider service input prepared provider (left + 1) attemptIndex request summary semanticFailure =
        attemptProvider service input prepared provider left (attemptIndex + 1) repair answered (some failure) ∧
      attemptResponses service input prepared provider (left + 1) attemptIndex request summary =
        response :: attemptResponses service input prepared provider left (attemptIndex + 1) repair answered := by
  have hgoes : ¬ (left = 0 ∨ service.config.maxTotalTokens < usageTotal answered.usage) :=
    not_or.mpr ⟨hleft, Nat.not_lt.mpr hwithin⟩
  subst hanswered
  constructor
  · rw [attemptProvider, hask]
    dsimp only
    rw [if_neg (Nat.not_lt.mpr hwithin), hfailed]
    dsimp only
    rw [if_neg hgoes, hrepair]
  · rw [attemptResponses, hask]
    dsimp only
    rw [if_neg (Nat.not_lt.mpr hwithin), hfailed]
    dsimp only
    rw [if_neg hgoes, hrepair]

/-- An attempt that is accepted. -/
theorem attempt_accepted {proposal : TypedGmProposal} {disposition : ProposalDisposition}
    (hask : provider attemptIndex request = .ok response)
    (hanswered : (summary.asked (service.wire.requestFingerprint request)).answered response = answered)
    (hwithin : usageTotal answered.usage ≤ service.config.maxTotalTokens)
    (hpasses : Passes service input prepared response proposal disposition) :
    attemptProvider service input prepared provider (left + 1) attemptIndex request summary semanticFailure =
        .accepted (acceptedResult service prepared proposal disposition answered) ∧
      attemptResponses service input prepared provider (left + 1) attemptIndex request summary = [response] := by
  have hpasses : validateCandidate service input prepared response = .ok (proposal, disposition) := hpasses
  subst hanswered
  constructor
  · rw [attemptProvider, hask]
    dsimp only
    rw [if_neg (Nat.not_lt.mpr hwithin), hpasses]
  · rw [attemptResponses, hask]
    dsimp only
    rw [if_neg (Nat.not_lt.mpr hwithin), hpasses]

end Attempt

/-- A provider with a first and a second response. -/
def secondTry (first second : TextGenerationResponse) : CallConditions :=
  { timeout with timesOut := false, provider := fun attempt _ => .ok (if attempt = 0 then first else second) }

/-- **The second response is the answer** when the first is repaired and the recorded usage stays within the limit. -/
theorem generate_secondTry {first second : TextGenerationResponse} {failure : GenerationFailureClass}
    {repair : TextGenerationRequest}
    (h : prepareRequest service.wire service.config input = .ok prepared) (hpublic : input.privateInspiration = none)
    (hfirst : validateCandidate service input prepared first = .error failure)
    (hrepair : buildRepairRequest service prepared first.text failure = some repair)
    (hsecond : Passes service input prepared second proposal disposition)
    (hone : usageTotal (addUsages ⟨none, none, none⟩ [first.usage]) ≤ service.config.maxTotalTokens)
    (htwo : usageTotal (addUsages ⟨none, none, none⟩ [first.usage, second.usage]) ≤ service.config.maxTotalTokens) :
    ∃ result, (generate service input (secondTry first second)).1 = .ok result ∧ result.source = .provider ∧
      callResponses service input prepared (secondTry first second) = [first, second] := by
  have hmaximum : maximumAttempts input = 2 := by
    unfold maximumAttempts
    rw [hpublic]
    rfl
  let asked := AttemptSummary.default.asked (service.wire.requestFingerprint prepared.request)
  let askedAgain := (asked.answered first).asked (service.wire.requestFingerprint repair)
  obtain ⟨hrepaired, hresponses⟩ := @attempt_repaired service input prepared (secondTry first second).provider 1 0
    prepared.request .default (asked.answered first) none first failure repair rfl rfl hone Nat.one_ne_zero hfirst
    hrepair
  obtain ⟨haccepted, hlast⟩ := @attempt_accepted service input prepared (secondTry first second).provider 0 1 repair
    (asked.answered first) (askedAgain.answered second) (some failure) second proposal disposition rfl rfl htwo hsecond
  refine ⟨acceptedResult service prepared proposal disposition (askedAgain.answered second), ?_, rfl, ?_⟩
  · unfold generate
    rw [h, hmaximum]
    dsimp only
    rw [hrepaired, haccepted]
    rfl
  · unfold callResponses
    rw [hmaximum, hresponses, hlast]

end Budget

/-! ## A call over the limit -/

section Story

/-- A response that does not read, and reports its tokens in parts. -/
def inParts : TextGenerationResponse := ⟨"", none, none, ⟨some 9000, some 500, none⟩⟩

/-- A response that reads. -/
def shortResponse (usage : TokenUsage) : TextGenerationResponse := ⟨"?", none, none, usage⟩

def tersePrepared : PreparedTypedGmRequest := preparedFor plainService (presentInput none)

/-- A service that reads the shortest narration. -/
def terseService : TypedGmService :=
  ⟨plainWire "?" (some (shortNarration (presentInput none) tersePrepared)), plainUnicode, privateMvp⟩

theorem terse_prepares : prepareRequest terseService.wire terseService.config (presentInput none) =
    .ok tersePrepared := by
  with_unfolding_all decide

/-- What two attempts end with when the first reports parts. -/
theorem terse_second_try {usage : TokenUsage} (husage : usageTotal usage ≤ 16384)
    (htwo : usageTotal (addUsages ⟨none, none, none⟩ [inParts.usage, usage]) ≤ 16384) :
    ∃ result, (generate terseService (presentInput none) (secondTry inParts (shortResponse usage))).1 = .ok result ∧
      result.source = .provider ∧
      callResponses terseService (presentInput none) tersePrepared (secondTry inParts (shortResponse usage)) =
        [inParts, shortResponse usage] := by
  have hfirst : validateCandidate terseService (presentInput none) tersePrepared inParts = .error .malformed := by
    with_unfolding_all decide
  have hrepair : buildRepairRequest terseService tersePrepared inParts.text .malformed =
      some (providerRequest terseService.wire terseService.config "") := by
    with_unfolding_all decide
  have hreads : terseService.wire.parse "?" = some (shortNarration (presentInput none) tersePrepared) := rfl
  have hsecond : Passes terseService (presentInput none) tersePrepared (shortResponse usage)
      (shortNarration (presentInput none) tersePrepared) .presentationOnly :=
    (shortNarration_passes terse_prepares (by decide) hreads rfl).of_usage husage
  exact generate_secondTry terse_prepares rfl hfirst hrepair hsecond (by decide) htwo

/-- **Two attempts cost more than the limit**: 9,500 tokens in parts, and a total of 9,000 that alone is recorded. -/
theorem limit_exceeded : ¬ ∀ (service : TypedGmService) input prepared conditions result,
    service.config.validate = true → prepareRequest service.wire service.config input = .ok prepared →
      (generate service input conditions).1 = .ok result → result.source = .provider →
      WithinBudget service (callResponses service input prepared conditions) result := by
  intro hclaim
  obtain ⟨result, hresult, hsource, hresponses⟩ := @terse_second_try ⟨none, none, some 9000⟩ (by decide) (by decide)
  have hbudget := hclaim terseService (presentInput none) tersePrepared _ result (by decide) terse_prepares hresult
    hsource
  have hwithin := hbudget.within
  rw [hresponses] at hwithin
  exact absurd hwithin (by decide)

/-- Two attempts that both report parts keep the budget. -/
theorem token_budget_iff_terse : ∃ result,
    (generate terseService (presentInput none)
      (secondTry inParts (shortResponse ⟨some 4000, some 90, none⟩))).1 = .ok result ∧
    WithinBudget terseService (callResponses terseService (presentInput none) tersePrepared
      (secondTry inParts (shortResponse ⟨some 4000, some 90, none⟩))) result := by
  obtain ⟨result, hresult, hsource, hresponses⟩ := @terse_second_try ⟨some 4000, some 90, none⟩ (by decide) (by decide)
  refine ⟨result, hresult, (token_budget_iff (by decide) terse_prepares hresult hsource).mpr ?_⟩
  rw [hresponses]
  decide

end Story

end ManchesterArcana.TypedGm
