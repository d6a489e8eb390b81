import ManchesterArcana.Core.DieStream
import ManchesterArcana.Core.Text
import ManchesterArcana.Effect.Shares
import ManchesterArcana.Events.Prompt

/-!
# `Events.Selection` — the event that is drawn

The eligible prompts are put in the order of their ids, and a sample of the unit interval is weighed against them: the
prompt is drawn whose share of the total weight it falls into (`selects_proportionally`). The arithmetic is exact here. The
draw fails where more than ten thousand prompts are eligible, or one of them has metadata that are not valid
(`unselected_prompts`).
-/

namespace ManchesterArcana.Events

open Effect
open TypedGm (Sha256Digest)

inductive EventPromptError where
  | invalidRuntimeMetadata (reason : String)
  | tooManyPrompts (found maximum : Nat)
  | invalidTotalWeight
  | invalidRandomSample (numerator denominator : Nat)
  | deterministicRandom (error : RollError)
  deriving DecidableEq

/-! ## Random sources -/

structure EventRandomSample where
  numerator : Nat
  denominator : Nat
  deriving DecidableEq

def EventRandomSample.unitInterval (sample : EventRandomSample) : Except EventPromptError ℚ := do
  rejectIf (sample.denominator = 0 ∨ sample.denominator ≤ sample.numerator)
    (.invalidRandomSample sample.numerator sample.denominator)
  return sample.numerator / sample.denominator

class RandomSource (ρ : Type) where
  algorithm : ρ → RollAlgorithm
  cursor : ρ → Nat
  sampleUnit : Attempt ρ EventPromptError EventRandomSample

/-- The generator behind the dice, as a random source. -/
structure DeterministicEventRandom (streams : WordStreams) where
  rng : DeterministicRng

def DeterministicEventRandom.new (streams : WordStreams) (seed : RollSeed) (cursor : Nat) :
    DeterministicEventRandom streams := ⟨.atCursor seed cursor⟩

/-- One value of the largest die is a sample. -/
instance (streams : WordStreams) : RandomSource (DeterministicEventRandom streams) where
  algorithm _ := .chaCha20V1
  cursor random := random.rng.cursor
  sampleUnit := ⟨fun random =>
    match (DeterministicRng.rollDie streams maxDieSides).run random.rng with
    | (.ok value, rng) => (.ok ⟨value - 1, maxDieSides⟩, ⟨rng⟩)
    | (.error e, rng) => (.error (.deterministicRandom e), ⟨rng⟩)⟩

/-! ## Selection -/

inductive EventNoSelectionReason where
  | campaignDisabled
  | noEligibleSources
  deriving DecidableEq

structure EventSelectionAudit where
  schemaVersion : Nat
  eligibleSetDigest : Sha256Digest
  eligibleSourceCount : Nat
  selectedSourceId : Option String
  selectedSourceDigest : Option Sha256Digest
  noSelectionReason : Option EventNoSelectionReason
  sampleNumerator : Option Nat
  sampleDenominator : Option Nat
  algorithm : RollAlgorithm
  cursorBefore : Nat
  cursorAfter : Nat
  deriving DecidableEq

structure AuditedEventSelection where
  prompt : Option EventPrompt
  audit : EventSelectionAudit
  deriving DecidableEq

/-- `u64::to_le_bytes`. -/
def leBytes (n : Nat) : List UInt8 := (List.range 8).map fun i => UInt8.ofNat (n / 256 ^ i % 256)

def hashField (value : String) : List UInt8 := leBytes value.utf8ByteSize ++ value.toByteArray.data.toList

/-- The digest of the bytes of the eligible set: its size, and the digests of its sources in their order. -/
def digestEligibleSet (sha256 : List UInt8 → Vector UInt8 32) (prompts : List EventPrompt) : Sha256Digest :=
  .fromBytes (sha256 (hashField "private-event-eligible-set/v1" ++ leBytes prompts.length ++
    prompts.flatMap fun prompt => hashField prompt.sourceDigest.value))

/-- The eligible prompts in the order of their ids. -/
def eligiblePrompts (prompts : List EventPrompt) (context : EventEligibility) : List EventPrompt :=
  (prompts.filter (·.isEligible context)).insertionSort (·.privacySourceId ≤ ·.privacySourceId)

/-- What a prompt weighs. -/
def EventPrompt.weight (prompt : EventPrompt) : ℚ := prompt.metadata.weight

def checkEligible (eligible : List EventPrompt) : Except EventPromptError Unit := do
  rejectIf (maxEventPrompts < eligible.length) (.tooManyPrompts eligible.length maxEventPrompts)
  checkAll (fun prompt => (validateMetadataFields prompt.metadata).mapError .invalidRuntimeMetadata) eligible
  rejectIf (totalWeight EventPrompt.weight eligible ≤ 0) .invalidTotalWeight

section Select

variable {ρ : Type} [RandomSource ρ] (sha256 : List UInt8 → Vector UInt8 32)

/-- `EventPromptLoader::select_with_audit`. -/
def selectWithAudit (prompts : List EventPrompt) (context : EventEligibility) :
    Attempt ρ EventPromptError AuditedEventSelection := do
  let cursorBefore ← Attempt.reading (RandomSource.cursor (ρ := ρ))
  let eligible := eligiblePrompts prompts context
  let eligibleSetDigest := digestEligibleSet sha256 eligible
  match eligible.getLast? with
  | none =>
    let random ← Attempt.reading (id : ρ → ρ)
    return {
      prompt := none
      audit := {
        schemaVersion := 1
        eligibleSetDigest
        eligibleSourceCount := 0
        selectedSourceId := none
        selectedSourceDigest := none
        noSelectionReason := some (if context.inspirationEnabled then .noEligibleSources else .campaignDisabled)
        sampleNumerator := none
        sampleDenominator := none
        algorithm := RandomSource.algorithm random
        cursorBefore
        cursorAfter := RandomSource.cursor random } }
  | some last =>
    Attempt.lift (checkEligible eligible)
    let sample ← RandomSource.sampleUnit (ρ := ρ)
    let unit ← Attempt.lift sample.unitInterval
    let selected := drawShare EventPrompt.weight last eligible (unit * totalWeight EventPrompt.weight eligible)
    let random ← Attempt.reading (id : ρ → ρ)
    return {
      prompt := some selected
      audit := {
        schemaVersion := 1
        eligibleSetDigest
        eligibleSourceCount := min eligible.length (2 ^ 32 - 1)
        selectedSourceId := some selected.privacySourceId
        selectedSourceDigest := some selected.sourceDigest
        noSelectionReason := none
        sampleNumerator := some sample.numerator
        sampleDenominator := some sample.denominator
        algorithm := RandomSource.algorithm random
        cursorBefore
        cursorAfter := RandomSource.cursor random } }

/-! ## The eligible prompts -/

variable {prompts listed : List EventPrompt} {context : EventEligibility}

theorem mem_eligiblePrompts {prompt : EventPrompt} :
    prompt ∈ eligiblePrompts prompts context ↔ prompt ∈ prompts ∧ prompt.isEligible context = true := by
  unfold eligiblePrompts
  rw [List.mem_insertionSort, List.mem_filter]

theorem length_eligiblePrompts : (eligiblePrompts prompts context).length = prompts.countP (·.isEligible context) := by
  unfold eligiblePrompts
  rw [List.length_insertionSort, List.countP_eq_length_filter]

/-- **The order of the list does not matter** where the ids are distinct. -/
theorem eligiblePrompts_eq_of_perm (h : listed.Perm prompts) (hids : (prompts.map (·.privacySourceId)).Nodup) :
    eligiblePrompts listed context = eligiblePrompts prompts context := by
  unfold eligiblePrompts
  refine (insertionSort_eq_of_perm (h.filter _).symm ?_).symm
  exact hids.sublist (List.filter_sublist.map _)

theorem eligiblePrompts_eq_nil :
    eligiblePrompts prompts context = [] ↔ ∀ prompt ∈ prompts, prompt.isEligible context = false := by
  rw [List.eq_nil_iff_forall_not_mem]
  constructor
  · intro h prompt hprompt
    exact Bool.not_eq_true _ ▸ fun heligible => h prompt (mem_eligiblePrompts.mpr ⟨hprompt, heligible⟩)
  · intro h prompt hprompt
    obtain ⟨hprompt, heligible⟩ := mem_eligiblePrompts.mp hprompt
    rw [h prompt hprompt] at heligible
    cases heligible

/-- What valid prompts weigh together is positive. -/
theorem checkEligible_eq_ok {eligible : List EventPrompt} (hne : eligible ≠ []) :
    checkEligible eligible = .ok () ↔
      eligible.length ≤ maxEventPrompts ∧ ∀ prompt ∈ eligible, validateMetadataFields prompt.metadata = .ok () := by
  unfold checkEligible
  rw [seq_eq_ok, seq_eq_ok, rejectIf_eq_ok, rejectIf_eq_ok, checkAll_eq_ok, not_lt, not_le]
  simp only [mapError_eq_ok]
  constructor
  · rintro ⟨hlength, hvalid, -⟩
    exact ⟨hlength, hvalid⟩
  · rintro ⟨hlength, hvalid⟩
    refine ⟨hlength, hvalid, totalWeight_pos (fun prompt hprompt => ?_) hne⟩
    exact (validateMetadataFields_eq_ok.mp (hvalid prompt hprompt)).weight.1

/-! ## What is selected -/

variable {random left next : ρ} {sample : EventRandomSample} {selection : AuditedEventSelection}

/-- **Where nothing is eligible, nothing is drawn.** -/
theorem select_of_none (random : ρ) (h : eligiblePrompts prompts context = []) :
    ∃ audit : EventSelectionAudit, (selectWithAudit sha256 prompts context).run random = (.ok ⟨none, audit⟩, random) ∧
      audit.eligibleSetDigest = digestEligibleSet sha256 [] ∧ audit.eligibleSourceCount = 0 ∧
      audit.selectedSourceId = none ∧ audit.selectedSourceDigest = none ∧
      audit.noSelectionReason =
        some (if context.inspirationEnabled then .noEligibleSources else .campaignDisabled) ∧
      audit.sampleNumerator = none ∧ audit.cursorAfter = RandomSource.cursor random := by
  unfold selectWithAudit
  simp only [h, List.getLast?_nil]
  exact ⟨_, rfl, rfl, rfl, rfl, rfl, rfl, rfl, rfl⟩

/-- A draw that comes off takes its sample and weighs it. -/
theorem select_of_some {last : EventPrompt} (hlast : (eligiblePrompts prompts context).getLast? = some last)
    (hcheck : checkEligible (eligiblePrompts prompts context) = .ok ())
    (hsample : RandomSource.sampleUnit.Returns random sample next) (hunit : sample.numerator < sample.denominator) :
    ∃ selected audit, (selectWithAudit sha256 prompts context).run random = (.ok ⟨some selected, audit⟩, next) ∧
      selected = drawShare EventPrompt.weight last (eligiblePrompts prompts context)
        (sample.numerator / sample.denominator * totalWeight EventPrompt.weight (eligiblePrompts prompts context)) ∧
      audit.eligibleSetDigest = digestEligibleSet sha256 (eligiblePrompts prompts context) ∧
      audit.eligibleSourceCount = min (eligiblePrompts prompts context).length (2 ^ 32 - 1) ∧
      audit.selectedSourceId = some selected.privacySourceId ∧
      audit.selectedSourceDigest = some selected.sourceDigest ∧ audit.noSelectionReason = none ∧
      audit.sampleNumerator = some sample.numerator ∧ audit.sampleDenominator = some sample.denominator := by
  have hinterval : sample.unitInterval = .ok (sample.numerator / sample.denominator) := by
    unfold EventRandomSample.unitInterval
    rw [rejectIf_of_not (by omega)]
    rfl
  have hrun : RandomSource.sampleUnit.run random = (.ok sample, next) := hsample
  unfold selectWithAudit
  simp only [hlast, Attempt.bind_run, Attempt.reading, Attempt.lift, hcheck, hrun, hinterval]
  exact ⟨_, _, rfl, rfl, rfl, rfl, rfl, rfl, rfl, rfl, rfl⟩

/-- Past the checks there is a last prompt, and they have passed. -/
theorem checked_of_returns (hne : eligiblePrompts prompts context ≠ [])
    (h : (selectWithAudit sha256 prompts context).Returns random selection left) :
    ∃ last, (eligiblePrompts prompts context).getLast? = some last ∧
      checkEligible (eligiblePrompts prompts context) = .ok () := by
  refine ⟨_, List.getLast?_eq_some_getLast hne, ?_⟩
  unfold selectWithAudit at h
  simp only [List.getLast?_eq_some_getLast hne] at h
  obtain ⟨_, _, -, h⟩ := Attempt.returns_bind.mp h
  obtain ⟨_, _, hcheck, -⟩ := Attempt.returns_bind.mp h
  exact (Attempt.returns_lift.mp hcheck).1

/-- **When a prompt is selected.** -/
theorem selects_iff (hsample : RandomSource.sampleUnit.Returns random sample next)
    (hunit : sample.numerator < sample.denominator) :
    (∃ selection left prompt, (selectWithAudit sha256 prompts context).Returns random selection left ∧
        selection.prompt = some prompt) ↔
      (∃ prompt ∈ prompts, prompt.isEligible context = true) ∧
        prompts.countP (·.isEligible context) ≤ maxEventPrompts ∧
        ∀ prompt ∈ prompts, prompt.isEligible context = true → validateMetadataFields prompt.metadata = .ok () := by
  have hchecked (hne : eligiblePrompts prompts context ≠ []) :
      checkEligible (eligiblePrompts prompts context) = .ok () ↔
        prompts.countP (·.isEligible context) ≤ maxEventPrompts ∧
        ∀ prompt ∈ prompts, prompt.isEligible context = true → validateMetadataFields prompt.metadata = .ok () := by
    rw [checkEligible_eq_ok hne, length_eligiblePrompts]
    simp only [mem_eligiblePrompts, and_imp]
  have hsome : eligiblePrompts prompts context ≠ [] ↔ ∃ prompt ∈ prompts, prompt.isEligible context = true := by
    rw [Ne, eligiblePrompts_eq_nil]
    push Not
    simp only [ne_eq, Bool.not_eq_false]
  constructor
  · rintro ⟨selection, left, prompt, hreturns, hprompt⟩
    by_cases hne : eligiblePrompts prompts context = []
    · obtain ⟨audit, hrun, -⟩ := select_of_none sha256 random hne
      rw [Attempt.Returns, hrun] at hreturns
      cases hreturns
      cases hprompt
    · obtain ⟨-, -, hcheck⟩ := checked_of_returns sha256 hne hreturns
      exact ⟨hsome.mp hne, (hchecked hne).mp hcheck⟩
  · rintro ⟨heligible, hvalid⟩
    have hne := hsome.mpr heligible
    obtain ⟨selected, audit, hrun, -⟩ := select_of_some sha256 (List.getLast?_eq_some_getLast hne)
      ((hchecked hne).mpr hvalid) hsample hunit
    exact ⟨_, _, selected, hrun, rfl⟩

/-- **Weighted event selection.** A prompt is selected if some prompt is eligible, ten thousand at most are, and their
metadata are valid; it is the one whose share of the total weight, in the order of ids, the sample falls into; the audit
is about the eligible prompts, in whichever order all prompts were listed; and where none is eligible, no sample is
taken. -/
theorem selects_proportionally (prompts : List EventPrompt) (context : EventEligibility) (random next : ρ)
    (sample : EventRandomSample) (hids : (prompts.map (·.privacySourceId)).Nodup)
    (hsample : RandomSource.sampleUnit.Returns random sample next) (hunit : sample.numerator < sample.denominator) :
    ((∃ selection left prompt, (selectWithAudit sha256 prompts context).Returns random selection left ∧
          selection.prompt = some prompt) ↔
        (∃ prompt ∈ prompts, prompt.isEligible context = true) ∧
          prompts.countP (·.isEligible context) ≤ maxEventPrompts ∧
          ∀ prompt ∈ prompts, prompt.isEligible context = true → validateMetadataFields prompt.metadata = .ok ()) ∧
      (∀ selection left, (selectWithAudit sha256 prompts context).Returns random selection left →
        selection.audit.eligibleSourceCount = prompts.countP (·.isEligible context) ∧
          selection.audit.eligibleSetDigest = digestEligibleSet sha256 (eligiblePrompts prompts context) ∧
          selection.audit.selectedSourceId = selection.prompt.map (·.privacySourceId) ∧
          selection.audit.selectedSourceDigest = selection.prompt.map (·.sourceDigest) ∧
          ∀ prompt, selection.prompt = some prompt → left = next ∧
            selection.audit.sampleNumerator = some sample.numerator ∧
            selection.audit.sampleDenominator = some sample.denominator ∧
            ∀ other, HasShare EventPrompt.weight (eligiblePrompts prompts context) (sample.numerator /
              sample.denominator * totalWeight EventPrompt.weight (eligiblePrompts prompts context)) other ↔
                other = prompt) ∧
      (∀ listed, listed.Perm prompts →
        (selectWithAudit sha256 listed context).run random = (selectWithAudit sha256 prompts context).run random) ∧
      ((∀ prompt ∈ prompts, prompt.isEligible context = false) →
        ∃ selection, (selectWithAudit sha256 prompts context).Returns random selection random ∧
          selection.prompt = none ∧ selection.audit.cursorAfter = RandomSource.cursor random) := by
  refine ⟨selects_iff sha256 hsample hunit, fun selection left hreturns => ?_, fun listed hlisted => ?_, fun hnone => ?_⟩
  · by_cases hne : eligiblePrompts prompts context = []
    · obtain ⟨audit, hrun, hdigest, hcount, hid, hsource, -⟩ := select_of_none sha256 random hne
      rw [Attempt.Returns, hrun] at hreturns
      cases hreturns
      refine ⟨?_, hne ▸ hdigest, hid, hsource, fun prompt hprompt => ?_⟩
      · rw [hcount, ← length_eligiblePrompts, hne]
        rfl
      · cases hprompt
    · obtain ⟨last, hlast, hcheck⟩ := checked_of_returns sha256 hne hreturns
      obtain ⟨hlength, hvalid⟩ := (checkEligible_eq_ok hne).mp hcheck
      have hpos : ∀ prompt ∈ eligiblePrompts prompts context, 0 < prompt.weight := fun prompt hprompt =>
        (validateMetadataFields_eq_ok.mp (hvalid prompt hprompt)).weight.1
      obtain ⟨selected, audit, hrun, hselected, hdigest, hcount, hid, hsource, -, hnumerator, hdenominator⟩ :=
        select_of_some sha256 hlast hcheck hsample hunit
      rw [Attempt.Returns, hrun] at hreturns
      cases hreturns
      refine ⟨?_, hdigest, hid, hsource, fun prompt hprompt => ?_⟩
      · rw [hcount, length_eligiblePrompts]
        rw [length_eligiblePrompts] at hlength
        exact min_eq_left (hlength.trans (by decide))
      · cases hprompt
        refine ⟨rfl, hnumerator, hdenominator, fun other => ?_⟩
        -- The sample is a point of the line.
        have hdenominator : (0 : ℚ) < sample.denominator := Nat.cast_pos.mpr (Nat.zero_lt_of_lt hunit)
        have hshare : HasShare EventPrompt.weight (eligiblePrompts prompts context)
            (sample.numerator / sample.denominator * totalWeight EventPrompt.weight (eligiblePrompts prompts context))
            (drawShare EventPrompt.weight last (eligiblePrompts prompts context) (sample.numerator / sample.denominator *
              totalWeight EventPrompt.weight (eligiblePrompts prompts context))) :=
          hasShare_drawShare
            (mul_nonneg (div_nonneg (Nat.cast_nonneg _) hdenominator.le) (totalWeight_pos hpos hne).le)
            (mul_lt_of_lt_one_left (totalWeight_pos hpos hne)
              ((div_lt_one hdenominator).mpr (Nat.cast_lt.mpr hunit)))
        rw [← hselected] at hshare
        constructor
        · intro hother
          exact hother.unique (fun prompt hprompt => (hpos prompt hprompt).le) hshare
        · rintro rfl
          exact hshare
  · unfold selectWithAudit
    rw [eligiblePrompts_eq_of_perm hlisted hids]
  · obtain ⟨audit, hrun, -, -, -, -, -, -, hcursor⟩ :=
      select_of_none sha256 random (eligiblePrompts_eq_nil.mpr hnone)
    exact ⟨_, hrun, rfl, hcursor⟩

end Select

/-! ## Samples of the generator -/

/-- The generator's samples are in the unit interval. -/
theorem DeterministicEventRandom.sample_lt {streams : WordStreams} {random next : DeterministicEventRandom streams}
    {sample : EventRandomSample} (h : RandomSource.sampleUnit.Returns random sample next) :
    sample.numerator < sample.denominator := by
  obtain ⟨rng⟩ := random
  unfold Attempt.Returns at h
  simp only [RandomSource.sampleUnit] at h
  split at h
  · next value rng' hroll =>
    cases h
    rw [DeterministicRng.eq_atCursor rng] at hroll
    obtain ⟨behind, hdraw, -⟩ := DeterministicRng.rollDie_returns.mp hroll
    obtain ⟨hsides, hvalue, -⟩ := drawDie_eq_ok hdraw
    show value - 1 < maxDieSides
    have := hvalue.1
    have := hvalue.2
    omega
  · cases h

/-! ## A story -/

/-- A source of one sample. -/
structure FixedRandom where
  sample : EventRandomSample
  cursor : Nat

instance : RandomSource FixedRandom where
  algorithm _ := .chaCha20V1
  cursor random := random.cursor
  sampleUnit := ⟨fun random => (.ok random.sample, { random with cursor := random.cursor + 1 })⟩

def FixedRandom.half : FixedRandom := ⟨⟨1, 2⟩, 0⟩

def plainParticipant : String := "participant:11111111111111111111111111111111"

def plainPrompt (id : String) (weight : ℚ) : EventPrompt where
  metadata := {
    schemaVersion := 1
    id := id
    title := id
    weight := weight
    minimumLevel := 1
    maximumLevel := none
    cooldownTurns := 1
    sensitivityTags := ["general"]
    participantAliases := [plainParticipant]
    enabled := true }
  privacySourceId := id
  sourceDigest := .fromBytes (Vector.replicate 32 0)
  inspiration := ⟨["A harmless delay changed a journey."]⟩
  transformationPolicy := .highFictionDistanceV1

/-- The participant consents, and nothing was triggered so far. -/
def plainContext : EventEligibility where
  inspirationEnabled := true
  partyLevel := 1
  currentTurn := 1
  allowedSensitivityTags := {"general"}
  consentingParticipantAliases := {plainParticipant}
  lastTriggeredTurn _ := none

theorem isEligible_plainPrompt (id : String) (weight : ℚ) : (plainPrompt id weight).isEligible plainContext = true := by
  have htag : normalizeLabel "general" = "general" := by decide
  have halias : normalizeLabel plainParticipant = plainParticipant := by decide
  simp [EventPrompt.isEligible, plainPrompt, plainContext, htag, halias]

theorem valid_plainPrompt {id : String} {weight : ℚ} (hid : validId id = true)
    (htitle : isBlank id = false ∧ id.length ≤ maxEventTitleChars) (hweight : 0 < weight ∧ weight ≤ maxEventWeight) :
    validateMetadataFields (plainPrompt id weight).metadata = .ok () := by
  have htags : validateLabels "sensitivity_tags" ["general"] = .ok () := by decide
  have haliases : validateLabels "participant_aliases" [plainParticipant] = .ok () := by decide
  have hreference : validParticipantReference (normalizeLabel plainParticipant) = true := by decide
  have hminimum : 1 ≤ 1 ∧ 1 ≤ 20 := by decide
  have hcooldown : 1 ≤ maxEventCooldownTurns := by decide
  refine validateMetadataFields_eq_ok.mpr ⟨rfl, hid, htitle, hweight, hminimum, ?_, hcooldown, htags, haliases, ?_,
    fun _ => List.cons_ne_nil _ _, fun _ => List.cons_ne_nil _ _, fun _ => Nat.one_ne_zero⟩
  · intro maximum hmaximum
    cases hmaximum
  · intro label hlabel
    rw [List.mem_singleton.mp hlabel]
    exact hreference

def zeroHash : List UInt8 → Vector UInt8 32 := fun _ => Vector.replicate 32 0

/-- Of two prompts, of weight one and three, the second has the middle. -/
theorem selects_proportionally_two : ∃ selection left,
    (selectWithAudit zeroHash [plainPrompt "b" 3, plainPrompt "a" 1] plainContext).Returns FixedRandom.half selection
      left ∧ selection.prompt = some (plainPrompt "b" 3) := by
  have hmain := selects_proportionally zeroHash [plainPrompt "b" 3, plainPrompt "a" 1] plainContext FixedRandom.half
    ⟨⟨1, 2⟩, 1⟩ ⟨1, 2⟩ (by decide : ["b", "a"].Nodup) rfl (by decide)
  obtain ⟨selection, left, prompt, hreturns, hprompt⟩ := hmain.1.mpr <| by
    refine ⟨⟨_, List.mem_cons_self, isEligible_plainPrompt "b" 3⟩, List.countP_le_length.trans (by decide), ?_⟩
    intro prompt hprompt _
    rcases List.mem_cons.mp hprompt with rfl | hprompt
    · exact valid_plainPrompt (by decide) (by decide) (by unfold maxEventWeight; norm_num)
    · rw [List.mem_singleton.mp hprompt]
      exact valid_plainPrompt (by decide) (by decide) (by unfold maxEventWeight; norm_num)
  have hsorted : eligiblePrompts [plainPrompt "b" 3, plainPrompt "a" 1] plainContext =
      [plainPrompt "a" 1, plainPrompt "b" 3] := by
    unfold eligiblePrompts
    have hfilter : [plainPrompt "b" 3, plainPrompt "a" 1].filter (·.isEligible plainContext) =
        [plainPrompt "b" 3, plainPrompt "a" 1] := List.filter_eq_self.mpr (by simp [isEligible_plainPrompt])
    rw [hfilter]
    have hlt : ¬ (plainPrompt "b" 3).privacySourceId ≤ (plainPrompt "a" 1).privacySourceId := by
      show ¬ "b" ≤ "a"
      decide
    rw [List.insertionSort_cons, List.insertionSort_cons, List.insertionSort_nil, List.orderedInsert_nil,
      List.orderedInsert_cons, if_neg hlt, List.orderedInsert_nil]
  have hshare : HasShare EventPrompt.weight [plainPrompt "a" 1, plainPrompt "b" 3]
      (((1 : Nat) : ℚ) / ((2 : Nat) : ℚ) * totalWeight EventPrompt.weight [plainPrompt "a" 1, plainPrompt "b" 3])
      (plainPrompt "b" 3) := by
    refine ⟨[plainPrompt "a" 1], [], rfl, ?_, ?_⟩ <;> norm_num [totalWeight, EventPrompt.weight, plainPrompt]
  obtain ⟨-, -, -, hother⟩ := (hmain.2.1 selection left hreturns).2.2.2.2 prompt hprompt
  rw [hsorted] at hother
  exact ⟨selection, left, hreturns, hprompt.trans (congrArg some ((hother _).mp hshare).symm)⟩

/-- Ten thousand and one prompts. -/
def manyPrompts : List EventPrompt := (List.range 10001).map fun i => plainPrompt (toString i) 1

theorem validId_toString {i : Nat} (hi : i < 10 ^ 128) : validId (toString i) = true := by
  have hdigits : ∀ c ∈ (toString i).toList, c.isDigit = true := by
    intro c hc
    rw [Nat.toString_eq_repr, Nat.toList_repr] at hc
    exact Nat.isDigit_of_mem_toDigits (by decide) (by decide) hc
  have hne : (toString i).toList ≠ [] := by
    rw [Nat.toString_eq_repr, Nat.toList_repr]
    exact Nat.toDigits_ne_nil
  have hvalidId : isValidOpaqueId (toString i) = true := by
    refine isValidOpaqueId_of_chars (fun h => hne (by rw [h]; rfl)) (length_toString_le (by decide) hi) fun c hc => ?_
    simp [isOpaqueIdChar, Char.isAlphanum, hdigits c hc]
  unfold validId
  rw [hvalidId, Bool.true_and, Bool.and_eq_true, List.all_eq_true]
  refine ⟨fun c hc => by simp [hdigits c hc], ?_⟩
  cases hcs : (toString i).toList with
  | nil => exact absurd hcs hne
  | cons c cs =>
    show c.isAlphanum = true
    simp [Char.isAlphanum, hdigits c (hcs ▸ List.mem_cons_self)]

theorem validId_isValidOpaqueId {id : String} (h : validId id = true) : isValidOpaqueId id = true := by
  unfold validId at h
  rw [Bool.and_eq_true, Bool.and_eq_true] at h
  exact h.1.1

/-- **No prompt is selected** where too many are eligible, though their metadata are valid; nor where one is eligible
that weighs nothing. -/
theorem unselected_prompts :
    ((manyPrompts.map (·.privacySourceId)).Nodup ∧
      (∀ prompt ∈ manyPrompts, prompt.isEligible plainContext = true ∧ validateMetadataFields prompt.metadata = .ok ()) ∧
      plainPrompt (toString 0) 1 ∈ manyPrompts ∧
      ¬ ∃ selection left prompt, (selectWithAudit zeroHash manyPrompts plainContext).Returns FixedRandom.half selection
        left ∧ selection.prompt = some prompt) ∧
      (plainPrompt "a" 0).isEligible plainContext = true ∧
      ¬ ∃ selection left prompt, (selectWithAudit zeroHash [plainPrompt "a" 0] plainContext).Returns FixedRandom.half
        selection left ∧ selection.prompt = some prompt := by
  have hsample : RandomSource.sampleUnit.Returns FixedRandom.half ⟨1, 2⟩ ⟨⟨1, 2⟩, 1⟩ := rfl
  have hmem : ∀ prompt ∈ manyPrompts, ∃ i < 10001, plainPrompt (toString i) 1 = prompt := by
    intro prompt hprompt
    obtain ⟨i, hi, heq⟩ := List.mem_map.mp hprompt
    exact ⟨i, List.mem_range.mp hi, heq⟩
  have heligible : ∀ prompt ∈ manyPrompts, prompt.isEligible plainContext = true := by
    intro prompt hprompt
    obtain ⟨i, -, rfl⟩ := hmem prompt hprompt
    exact isEligible_plainPrompt _ _
  refine ⟨⟨?_, fun prompt hprompt => ⟨heligible prompt hprompt, ?_⟩, List.mem_map_of_mem (List.mem_range.mpr (by decide)),
    ?_⟩, isEligible_plainPrompt _ _, ?_⟩
  · unfold manyPrompts
    rw [List.map_map]
    exact List.nodup_range.map fun i j hij => toString_nat_injective hij
  · obtain ⟨i, hi, rfl⟩ := hmem prompt hprompt
    have hsmall : i < 10 ^ 128 := hi.trans (by norm_num)
    have hid := validId_toString hsmall
    have hlength : (toString i).length ≤ maxEventTitleChars := (length_toString_le (by decide) hsmall).trans (by decide)
    exact valid_plainPrompt hid ⟨not_isBlank_of_isValidOpaqueId (validId_isValidOpaqueId hid), hlength⟩ (by unfold maxEventWeight; norm_num)
  · rw [selects_iff zeroHash hsample (by decide)]
    rintro ⟨-, hcount, -⟩
    rw [List.countP_eq_length.mpr heligible] at hcount
    unfold manyPrompts at hcount
    rw [List.length_map, List.length_range] at hcount
    exact absurd hcount (by decide)
  · rw [selects_iff zeroHash hsample (by decide)]
    rintro ⟨-, -, hvalid⟩
    have hvalid := hvalid _ List.mem_cons_self (isEligible_plainPrompt "a" 0)
    exact absurd (validateMetadataFields_eq_ok.mp hvalid).weight.1 (lt_irrefl 0)

end ManchesterArcana.Events
