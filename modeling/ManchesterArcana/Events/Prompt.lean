import ManchesterArcana.Core.Casing
import ManchesterArcana.Core.Spacing
import ManchesterArcana.TypedGm.Request

/-!
# `Events.Prompt` — event prompts

What a reviewed source is kept as, which metadata are valid, and when the prompt is eligible. A weight is a double: it is
read from JSON, which has the finite numbers only, so a rational stands for it and `is_finite` does not appear.
-/

namespace ManchesterArcana.Events

open Effect
open TypedGm (Sha256Digest EventTransformationPolicy)

def maxEventPrompts : Nat := 10000

def maxEventWeight : ℚ := 1000000

def maxEventLabels : Nat := 64

def maxEventTitleChars : Nat := 200

def maxEventCooldownTurns : Nat := 1000000

structure EventPromptMetadata where
  schemaVersion : Nat
  id : String
  title : String
  weight : ℚ
  minimumLevel : Nat
  maximumLevel : Option Nat
  cooldownTurns : Nat
  sensitivityTags : List String
  participantAliases : List String
  enabled : Bool
  deriving DecidableEq

structure InspirationFactBrief where
  facts : List String
  deriving DecidableEq

structure EventPrompt where
  metadata : EventPromptMetadata
  privacySourceId : String
  sourceDigest : Sha256Digest
  inspiration : InspirationFactBrief
  transformationPolicy : EventTransformationPolicy
  deriving DecidableEq

/-- `format!("event-source-{}", &hex[..24])`. -/
def privacySourceId (sourceDigest : Sha256Digest) : String :=
  "event-source-" ++ String.ofList ((sourceDigest.value.toList.drop "sha256:".length).take 24)

/-! ## Labels -/

def normalizeLabel (label : String) : String := CaseTables.asciiLowercase (String.ofList (trim label.toList))

/-- The labels one by one, against those seen before. -/
def validateLabelsFrom (field : String) (seen : List String) : List String → Except String Unit
  | [] => return ()
  | label :: rest => do
    rejectIf (isValidOpaqueId (normalizeLabel label) = false) (field ++ " entries must be valid opaque identifiers")
    rejectIf (normalizeLabel label ∈ seen) (field ++ " must not contain duplicates")
    validateLabelsFrom field (normalizeLabel label :: seen) rest

def validateLabels (field : String) (labels : List String) : Except String Unit := do
  rejectIf (maxEventLabels < labels.length) (field ++ " may contain at most 64 entries")
  validateLabelsFrom field [] labels

def isAsciiLowercase (c : Char) : Bool := 'a' ≤ c && c ≤ 'z'

def validId (id : String) : Bool :=
  isValidOpaqueId id && (id.toList.all fun c => isAsciiLowercase c || c.isDigit || c == '-' || c == '_') &&
    id.toList.head?.any Char.isAlphanum

def isLowercaseHexDigit (c : Char) : Bool := c.isDigit || ('a' ≤ c && c ≤ 'f')

/-- `participant:` and 32 digits. -/
def validParticipantReference (value : String) : Bool :=
  let suffix := value.toList.drop "participant:".length
  "participant:".toList.isPrefixOf value.toList && suffix.length == 32 && suffix.all isLowercaseHexDigit

/-! ## Metadata -/

def validateMetadataFields (metadata : EventPromptMetadata) : Except String Unit := do
  rejectIf (metadata.schemaVersion ≠ 1) "schema_version must be 1"
  rejectIf (validId metadata.id = false)
    "id must use lowercase ASCII letters, digits, hyphens, or underscores"
  rejectIf (isBlank metadata.title = true ∨ maxEventTitleChars < metadata.title.length)
    "title must contain between 1 and 200 characters"
  rejectIf (metadata.weight ≤ 0 ∨ maxEventWeight < metadata.weight)
    "weight must be finite, greater than zero, and at most 1000000"
  rejectIf (metadata.minimumLevel < 1 ∨ 20 < metadata.minimumLevel) "minimum_level must be between 1 and 20"
  rejectIf (∃ maximum ∈ metadata.maximumLevel, maximum < metadata.minimumLevel ∨ 20 < maximum)
    "maximum_level must be between minimum_level and 20"
  rejectIf (maxEventCooldownTurns < metadata.cooldownTurns) "cooldown_turns must not exceed 1000000"
  validateLabels "sensitivity_tags" metadata.sensitivityTags
  validateLabels "participant_aliases" metadata.participantAliases
  rejectIf (∃ label ∈ metadata.participantAliases, validParticipantReference (normalizeLabel label) = false)
    "participant_aliases entries must use the explicit participant: opaque namespace"
  rejectIf (metadata.enabled = true ∧ metadata.sensitivityTags = [])
    "enabled private events must declare at least one sensitivity tag"
  rejectIf (metadata.enabled = true ∧ metadata.participantAliases = [])
    "enabled private events must declare at least one consenting participant alias"
  rejectIf (metadata.enabled = true ∧ metadata.cooldownTurns = 0)
    "enabled private events must declare a positive cooldown"

/-- **Valid metadata**, field by field. -/
structure EventPromptMetadata.IsValid (metadata : EventPromptMetadata) : Prop where
  schemaVersion : metadata.schemaVersion = 1
  id : validId metadata.id = true
  title : isBlank metadata.title = false ∧ metadata.title.length ≤ maxEventTitleChars
  weight : 0 < metadata.weight ∧ metadata.weight ≤ maxEventWeight
  minimumLevel : 1 ≤ metadata.minimumLevel ∧ metadata.minimumLevel ≤ 20
  maximumLevel : ∀ maximum ∈ metadata.maximumLevel, metadata.minimumLevel ≤ maximum ∧ maximum ≤ 20
  cooldownTurns : metadata.cooldownTurns ≤ maxEventCooldownTurns
  sensitivityTags : validateLabels "sensitivity_tags" metadata.sensitivityTags = .ok ()
  participantAliases : validateLabels "participant_aliases" metadata.participantAliases = .ok ()
  references : ∀ label ∈ metadata.participantAliases, validParticipantReference (normalizeLabel label) = true
  tagged : metadata.enabled = true → metadata.sensitivityTags ≠ []
  aliased : metadata.enabled = true → metadata.participantAliases ≠ []
  cooled : metadata.enabled = true → metadata.cooldownTurns ≠ 0

theorem validateMetadataFields_eq_ok {metadata : EventPromptMetadata} :
    validateMetadataFields metadata = .ok () ↔ metadata.IsValid := by
  unfold validateMetadataFields
  simp only [seq_eq_ok, rejectIf_eq_ok, not_or, not_not, not_lt, not_le, not_exists, not_and, ne_eq,
    Bool.not_eq_false, Bool.not_eq_true]
  constructor
  · rintro ⟨hschema, hid, htitle, hweight, hminimum, hmaximum, hcooldown, htags, haliases, hreferences, htagged, haliased,
      hcooled⟩
    exact ⟨hschema, hid, htitle, hweight, hminimum, hmaximum, hcooldown, htags, haliases, hreferences, htagged,
      haliased, hcooled⟩
  · intro h
    exact ⟨h.schemaVersion, h.id, h.title, h.weight, h.minimumLevel, h.maximumLevel, h.cooldownTurns,
      h.sensitivityTags, h.participantAliases, h.references, h.tagged, h.aliased, h.cooled⟩

/-! ## Eligibility -/

structure EventEligibility where
  inspirationEnabled : Bool
  partyLevel : Nat
  currentTurn : Nat
  allowedSensitivityTags : Finset String
  consentingParticipantAliases : Finset String
  lastTriggeredTurn : String → Option Nat

def EventPrompt.isEligible (prompt : EventPrompt) (context : EventEligibility) : Bool :=
  context.inspirationEnabled && prompt.metadata.enabled &&
    decide (prompt.metadata.minimumLevel ≤ context.partyLevel) &&
    (prompt.metadata.maximumLevel.all fun maximum => context.partyLevel ≤ maximum) &&
    (prompt.metadata.sensitivityTags.all fun tag => normalizeLabel tag ∈ context.allowedSensitivityTags) &&
    (prompt.metadata.participantAliases.all fun label =>
      normalizeLabel label ∈ context.consentingParticipantAliases) &&
    ((context.lastTriggeredTurn prompt.privacySourceId).all fun lastTurn =>
      lastTurn ≤ context.currentTurn && prompt.metadata.cooldownTurns ≤ context.currentTurn - lastTurn)

end ManchesterArcana.Events
