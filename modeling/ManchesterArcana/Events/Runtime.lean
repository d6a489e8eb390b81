import ManchesterArcana.Campaign.Addresses
import ManchesterArcana.Core.Double
import ManchesterArcana.Core.Text
import ManchesterArcana.Events.Review
import ManchesterArcana.Generation.Documents

/-!
# `Events.Runtime` — what of a source crosses into the game

An approved prompt is projected onto what the game stores: its weight in whole nanounits, and its facts. The projection is
validated by rules of its own, and a prompt is rebuilt from it. All of this goes well for an approved prompt
unless its weight rounds to no nanounit or a fact has a control character that is no white space, which the review lets
through (`survives_boundary_iff`).
-/

namespace ManchesterArcana.Events

open Effect
open TypedGm (Sha256Digest)
open Generation (isControl)

def eventWeightNanounits : ℚ := 1000000000

def maxEventWeightNanounits : Nat := 1000000000000000

structure RuntimeEventPrompt where
  schemaVersion : Nat
  selectionWeightNanounits : Nat
  minimumLevel : Nat
  maximumLevel : Option Nat
  cooldownTurns : Nat
  enabled : Bool
  neutralFacts : List String
  deriving DecidableEq

def isBadFact (fact : String) : Bool :=
  trim fact.toList != fact.toList || fact == "" || maxInspirationFactChars < fact.length ||
    fact.toList.any isControl || fact.toList.contains '\n' || fact.toList.contains '\r'

def RuntimeEventPrompt.validate (p : RuntimeEventPrompt) : Except String Unit := do
  rejectIf (p.schemaVersion ≠ 1) "runtime prompt schema is unsupported"
  rejectIf (p.selectionWeightNanounits < 1 ∨ maxEventWeightNanounits < p.selectionWeightNanounits)
    "runtime prompt weight is invalid"
  rejectIf ((p.minimumLevel < 1 ∨ 20 < p.minimumLevel) ∨
      (∃ maximum ∈ p.maximumLevel, maximum < p.minimumLevel ∨ 20 < maximum) ∨
      maxEventCooldownTurns < p.cooldownTurns ∨ (p.enabled = true ∧ p.cooldownTurns = 0))
    "runtime prompt eligibility is invalid"
  rejectIf (p.neutralFacts = [] ∨ maxInspirationFacts < p.neutralFacts.length ∨
      p.neutralFacts.any isBadFact = true)
    "runtime prompt facts are invalid"

/-- `as u64`. -/
def asU64 (n : ℤ) : Nat := min n.toNat (2 ^ 64 - 1)

/-- The product is a double, and so is what it is rounded to. -/
def EventPrompt.runtimeProjection (prompt : EventPrompt) : RuntimeEventPrompt where
  schemaVersion := 1
  selectionWeightNanounits := asU64 (roundHalfAway (toDouble (prompt.metadata.weight * eventWeightNanounits)))
  minimumLevel := prompt.metadata.minimumLevel
  maximumLevel := prompt.metadata.maximumLevel
  cooldownTurns := prompt.metadata.cooldownTurns
  enabled := prompt.metadata.enabled
  neutralFacts := prompt.inspiration.facts

/-- What is built again from a projection. -/
def rebuiltPrompt (sourceId : String) (sourceDigest : Sha256Digest) (participantAliases sensitivityTags : List String)
    (projection : RuntimeEventPrompt) : EventPrompt where
  metadata := {
    schemaVersion := 1
    id := sourceId
    title := "Approved private inspiration"
    weight := toDouble (toDouble projection.selectionWeightNanounits / eventWeightNanounits)
    minimumLevel := projection.minimumLevel
    maximumLevel := projection.maximumLevel
    cooldownTurns := projection.cooldownTurns
    sensitivityTags
    participantAliases
    enabled := projection.enabled }
  privacySourceId := sourceId
  sourceDigest
  inspiration := ⟨projection.neutralFacts⟩
  transformationPolicy := .highFictionDistanceV1

def fromRuntimeProjection (sourceId : String) (sourceDigest : Sha256Digest)
    (participantAliases sensitivityTags : List String) (projection : RuntimeEventPrompt) : Except String EventPrompt := do
  projection.validate
  rejectIf (sourceId ≠ privacySourceId sourceDigest ∨ participantAliases = [] ∨ sensitivityTags = [])
    "runtime prompt source binding is invalid"
  let prompt := rebuiltPrompt sourceId sourceDigest participantAliases sensitivityTags projection
  (validateMetadataFields prompt.metadata).mapError fun _ => "runtime prompt metadata is invalid"
  return prompt

/-- **An approved event survives the boundary**: its projection is valid, and, when it is enabled, the same prompt is built
from it, in whichever order its aliases and tags were stored. -/
def EventPrompt.SurvivesBoundary (prompt : EventPrompt) : Prop :=
  prompt.runtimeProjection.validate = .ok () ∧
    (prompt.metadata.enabled = true → ∀ aliases tags, aliases.Perm prompt.metadata.participantAliases →
      tags.Perm prompt.metadata.sensitivityTags →
        ∃ rebuilt, fromRuntimeProjection prompt.privacySourceId prompt.sourceDigest aliases tags
            prompt.runtimeProjection = .ok rebuilt ∧
          rebuilt.privacySourceId = prompt.privacySourceId ∧ rebuilt.inspiration = prompt.inspiration ∧
          0 < rebuilt.metadata.weight ∧ ∀ context, rebuilt.isEligible context = prompt.isEligible context)

/-! ## Weights -/

section Weights

variable {weight : ℚ}

/-- The double of the weight in nanounits is within its bounds. -/
theorem toDouble_weight_le (hpos : 0 < weight) (hle : weight ≤ maxEventWeight) :
    toDouble (weight * eventWeightNanounits) ≤ maxEventWeightNanounits := by
  have hpos : 0 < weight * eventWeightNanounits := mul_pos hpos (by unfold eventWeightNanounits; norm_num)
  have hbound : weight * eventWeightNanounits ≤ ((maxEventWeightNanounits : Nat) : ℚ) := by
    unfold eventWeightNanounits maxEventWeightNanounits
    unfold maxEventWeight at hle
    norm_num
    linarith
  exact (toDouble_mono hpos hbound).trans (toDouble_natCast (by decide) (by decide)).le

theorem toDouble_nonneg {x : ℚ} (hx : 0 < x) : 0 ≤ toDouble x := by
  unfold toDouble
  refine mul_nonneg (Int.cast_nonneg ?_) (two_zpow_pos _).le
  exact (Int.floor_nonneg.mpr (div_nonneg hx.le (two_zpow_pos _).le)).trans (floor_le_roundTiesEven _)

/-- **The nanounits of a weight** are in bounds, but for a weight that is too small. -/
theorem nanounits_spec (hpos : 0 < weight) (hle : weight ≤ maxEventWeight) :
    let nanounits := asU64 (roundHalfAway (toDouble (weight * eventWeightNanounits)))
    nanounits ≤ maxEventWeightNanounits ∧
      (1 ≤ nanounits ↔ 1 / 2 - 1 / 2 ^ 55 ≤ weight * eventWeightNanounits) := by
  have hproduct : 0 < weight * eventWeightNanounits := mul_pos hpos (by unfold eventWeightNanounits; norm_num)
  have hbound := toDouble_weight_le hpos hle
  rw [← half_le_toDouble hproduct]
  unfold asU64 roundHalfAway
  rw [if_pos (toDouble_nonneg hproduct)]
  have hfloor : ⌊toDouble (weight * eventWeightNanounits) + 1 / 2⌋ < maxEventWeightNanounits + 1 := by
    refine Int.floor_lt.mpr ?_
    push_cast
    linarith
  have hone : 1 ≤ ⌊toDouble (weight * eventWeightNanounits) + 1 / 2⌋ ↔
      1 / 2 ≤ toDouble (weight * eventWeightNanounits) := by
    rw [Int.le_floor, Int.cast_one]
    constructor <;> intro h <;> linarith
  rw [← hone]
  dsimp only
  unfold maxEventWeightNanounits at hfloor ⊢
  omega

/-- The weight that is rebuilt is a positive one, and in bounds. -/
theorem rebuiltWeight_spec {nanounits : Nat} (hlower : 1 ≤ nanounits) (hupper : nanounits ≤ maxEventWeightNanounits) :
    0 < toDouble (toDouble nanounits / eventWeightNanounits) ∧
      toDouble (toDouble nanounits / eventWeightNanounits) ≤ maxEventWeight := by
  have hsmall : nanounits < 2 ^ 53 := hupper.trans_lt (by decide)
  rw [toDouble_natCast hlower hsmall]
  have hlower : (1 : ℚ) ≤ nanounits := by exact_mod_cast hlower
  have hupper : (nanounits : ℚ) ≤ 1000000000000000 := by exact_mod_cast hupper
  unfold eventWeightNanounits maxEventWeight
  constructor
  · have hpower : (2 : ℚ) ^ (-30 : ℤ) ≤ nanounits / 1000000000 := by
      rw [le_div_iff₀ (by norm_num)]
      norm_num
      linarith
    have hmono := toDouble_mono (two_zpow_pos _) hpower
    rw [toDouble_zpow (by norm_num)] at hmono
    exact (two_zpow_pos _).trans_le hmono
  · have hle : (nanounits : ℚ) / 1000000000 ≤ ((1000000 : Nat) : ℚ) := by
      rw [div_le_iff₀ (by norm_num)]
      push_cast
      linarith
    have hmono := toDouble_mono (by positivity) hle
    rw [toDouble_natCast (by decide) (by decide)] at hmono
    norm_num at hmono
    exact hmono

end Weights

/-! ## Facts -/

section Facts

variable {context : ReviewContext} {bytes : ByteArray} {line : List Char}

theorem sourceFactLines_trimmed (h : line ∈ sourceFactLines context bytes) :
    line ≠ [] ∧ ∃ whole, trim whole = line := by
  unfold sourceFactLines at h
  split at h
  · cases h
  · split at h
    · cases h
    · obtain ⟨hne, whole, -, heq⟩ := mem_factLines h
      exact ⟨hne, whole, heq⟩

/-- A fact line respaced, with its visible ends. -/
theorem respaced_of_factLine (h : line ∈ sourceFactLines context bytes) : Respaced line (collapse line) := by
  obtain ⟨hne, whole, rfl⟩ := sourceFactLines_trimmed h
  exact respaced_collapse hne (trim_visible whole).1 (trim_visible whole).2

/-- **A fact is bad only for a control character.** -/
theorem isBadFact_iff (h : line ∈ sourceFactLines context bytes)
    (hshort : (collapse line).length ≤ maxInspirationFactChars) :
    isBadFact (String.ofList (collapse line)) = true ↔ ∃ c ∈ line, isControl c = true ∧ isWhiteSpace c = false := by
  have hrespaced := respaced_of_factLine h
  obtain ⟨hne, whole, rfl⟩ := sourceFactLines_trimmed h
  obtain ⟨hfirst, hlast⟩ := trim_visible whole
  have htrim : trim (collapse (trim whole)) = collapse (trim whole) := by
    refine trim_of_visible ?_ ?_
    · rw [hrespaced.head?_eq hfirst]
      exact hfirst
    · rw [hrespaced.getLast?_eq hlast]
      exact hlast
  have hfact : collapse (trim whole) ≠ [] := by
    intro hempty
    have hsame := hrespaced.head?_eq hfirst
    rw [hempty, eq_comm, List.head?_eq_none_iff.mpr rfl, List.head?_eq_none_iff] at hsame
    exact hne hsame
  have hstring : (String.ofList (collapse (trim whole)) == "") = false := by
    rw [beq_eq_false_iff_ne]
    intro hempty
    exact hfact (by simpa using congrArg String.toList hempty)
  have hspaces : ∀ c, c ≠ ' ' → isWhiteSpace c = true → (collapse (trim whole)).contains c = false := by
    intro c hc hspace
    rw [← Bool.not_eq_true, List.contains_iff_mem]
    intro hmem
    rcases mem_collapse hmem with rfl | ⟨-, hvisible⟩
    · exact hc rfl
    · rw [hspace] at hvisible
      cases hvisible
  unfold isBadFact
  rw [String.toList_ofList, String.length_ofList, htrim, hstring, hspaces '\n' (by decide) rfl, hspaces '\r' (by decide) rfl,
    decide_eq_false (not_lt.mpr hshort), bne_self_eq_false]
  simp only [Bool.false_or, Bool.or_false, List.any_eq_true]
  constructor
  · rintro ⟨c, hc, hcontrol⟩
    rcases mem_collapse hc with rfl | ⟨hc, hvisible⟩
    · exact absurd hcontrol (by decide)
    · exact ⟨c, hc, hcontrol, hvisible⟩
  · rintro ⟨c, hc, hcontrol, hvisible⟩
    obtain ⟨before, after, heq⟩ := List.append_of_mem hc
    obtain ⟨before', after', heq', -⟩ := hrespaced.split heq hvisible
    refine ⟨c, ?_, hcontrol⟩
    rw [heq']
    exact List.mem_append_right _ List.mem_cons_self

end Facts

/-! ## The boundary -/

section Boundary

variable {context : ReviewContext} {bytes : ByteArray} {prompt : EventPrompt} {content body : List Char}

/-- **When the projection of an approved prompt is valid.** -/
theorem ApprovedSource.validate_runtimeProjection (h : ApprovedSource context bytes prompt content body) :
    prompt.runtimeProjection.validate = .ok () ↔
      1 / 2 - 1 / 2 ^ 55 ≤ prompt.metadata.weight * eventWeightNanounits ∧
        ∀ line ∈ sourceFactLines context bytes, ∀ c ∈ line, isControl c = true → isWhiteSpace c = true := by
  obtain ⟨hbound, hone⟩ := nanounits_spec h.metadata.weight.1 h.metadata.weight.2
  have heligibility : ¬ ((prompt.metadata.minimumLevel < 1 ∨ 20 < prompt.metadata.minimumLevel) ∨
      (∃ maximum ∈ prompt.metadata.maximumLevel, maximum < prompt.metadata.minimumLevel ∨ 20 < maximum) ∨
      maxEventCooldownTurns < prompt.metadata.cooldownTurns ∨
      (prompt.metadata.enabled = true ∧ prompt.metadata.cooldownTurns = 0)) := by
    rintro (hminimum | ⟨maximum, hmem, hmaximum⟩ | hcooldown | ⟨henabled, hcooldown⟩)
    · have := h.metadata.minimumLevel
      omega
    · have := h.metadata.maximumLevel maximum hmem
      omega
    · exact absurd hcooldown (not_lt.mpr h.metadata.cooldownTurns)
    · exact h.metadata.cooled henabled hcooldown
  have hfacts : prompt.inspiration.facts.any isBadFact = true ↔
      ∃ line ∈ sourceFactLines context bytes, ∃ c ∈ line, isControl c = true ∧ isWhiteSpace c = false := by
    rw [h.facts, List.any_map, List.any_eq_true]
    simp only [Function.comp_apply]
    exact exists_congr fun line => and_congr_right fun hline => isBadFact_iff hline (h.short line hline)
  unfold RuntimeEventPrompt.validate EventPrompt.runtimeProjection
  simp only [seq_eq_ok, rejectIf_eq_ok, not_true_eq_false, not_false_eq_true, heligibility, true_and, ne_eq]
  rw [hfacts, ← hone]
  have hsome := h.some
  have hfew := h.few
  constructor
  · rintro ⟨hweight, hrest⟩
    refine ⟨by omega, fun line hline c hc hcontrol => ?_⟩
    by_contra hvisible
    exact hrest (.inr (.inr ⟨line, hline, c, hc, hcontrol, Bool.not_eq_true _ ▸ hvisible⟩))
  · rintro ⟨hweight, hcontrols⟩
    refine ⟨by omega, ?_⟩
    rintro (hempty | hmany | ⟨line, hline, c, hc, hcontrol, hvisible⟩)
    · exact hsome hempty
    · exact absurd hmany (not_lt.mpr hfew)
    · rw [hcontrols line hline c hc hcontrol] at hvisible
      cases hvisible

theorem validateLabelsFrom_eq_ok {field : String} {labels seen : List String} :
    validateLabelsFrom field seen labels = .ok () ↔
      (∀ label ∈ labels, isValidOpaqueId (normalizeLabel label) = true ∧ normalizeLabel label ∉ seen) ∧
        (labels.map normalizeLabel).Nodup := by
  induction labels generalizing seen with
  | nil => simp [validateLabelsFrom]
  | cons label labels ih =>
    unfold validateLabelsFrom
    rw [seq_eq_ok, seq_eq_ok, rejectIf_eq_ok, rejectIf_eq_ok, Bool.not_eq_false, ih, List.forall_mem_cons, List.map_cons,
      List.nodup_cons]
    simp only [List.mem_cons, not_or, List.mem_map, not_exists, not_and]
    constructor
    · rintro ⟨hvalid, hunseen, hrest, hnodup⟩
      exact ⟨⟨⟨hvalid, hunseen⟩, fun other hother => ⟨(hrest other hother).1, (hrest other hother).2.2⟩⟩,
        fun other hother heq => (hrest other hother).2.1 heq, hnodup⟩
    · rintro ⟨⟨⟨hvalid, hunseen⟩, hrest⟩, hdistinct, hnodup⟩
      exact ⟨hvalid, hunseen, fun other hother => ⟨(hrest other hother).1, hdistinct other hother,
        (hrest other hother).2⟩, hnodup⟩

/-- Labels are as valid in any other order. -/
theorem validateLabels_perm {field : String} {labels labels' : List String} (h : labels'.Perm labels)
    (hvalid : validateLabels field labels = .ok ()) : validateLabels field labels' = .ok () := by
  unfold validateLabels at hvalid ⊢
  rw [seq_eq_ok, rejectIf_eq_ok, validateLabelsFrom_eq_ok] at hvalid ⊢
  obtain ⟨hlength, hlabels, hnodup⟩ := hvalid
  refine ⟨h.length_eq ▸ hlength, fun label hlabel => hlabels label (h.mem_iff.mp hlabel), ?_⟩
  exact (h.map _).nodup_iff.mpr hnodup

/-- **The id of a source is valid**: lower-case letters, hyphens and hexadecimal digits. -/
theorem validId_privacySourceId (digest : Vector UInt8 32) : validId (privacySourceId (.fromBytes digest)) = true := by
  have hplain : ∀ c ∈ TypedGm.hexDigits ++ "event-source-".toList, isOpaqueIdChar c = true ∧
      (isAsciiLowercase c || c.isDigit || c == '-' || c == '_') = true := by
    intro c hc
    rw [← Bool.and_eq_true]
    refine List.all_eq_true.mp (?_ : List.all _ (fun c => isOpaqueIdChar c &&
      (isAsciiLowercase c || c.isDigit || c == '-' || c == '_')) = true) c hc
    decide
  unfold privacySourceId
  rw [TypedGm.toList_fromBytes]
  generalize htail : (digest.toList.flatMap TypedGm.hexByte).take 24 = tail
  have hlength : tail.length ≤ 24 := htail ▸ List.length_take_le _ _
  have htail : ∀ c ∈ tail, c ∈ TypedGm.hexDigits := by
    intro c hc
    rw [← htail] at hc
    obtain ⟨byte, -, hc⟩ := List.mem_flatMap.mp (List.mem_of_mem_take hc)
    exact TypedGm.mem_hexByte hc
  have hlist : ("event-source-" ++ String.ofList tail).toList = "event-source-".toList ++ tail := by
    rw [String.toList_append, @String.toList_ofList tail]
  have hchars : ∀ c ∈ ("event-source-" ++ String.ofList tail).toList, isOpaqueIdChar c = true ∧
      (isAsciiLowercase c || c.isDigit || c == '-' || c == '_') = true := by
    intro c hc
    rw [hlist] at hc
    rcases List.mem_append.mp hc with hc | hc
    · exact hplain c (List.mem_append_right _ hc)
    · exact hplain c (List.mem_append_left _ (htail c hc))
  have hvalid : isValidOpaqueId ("event-source-" ++ String.ofList tail) = true := by
    refine isValidOpaqueId_of_chars ?_ ?_ fun c hc => (hchars c hc).1
    · intro hempty
      have hempty := congrArg String.toList hempty
      rw [hlist] at hempty
      cases hempty
    · rw [String.length_append, @String.length_ofList tail]
      have hbound : "event-source-".length + 24 ≤ maxOpaqueIdLen := by decide
      exact (Nat.add_le_add_left hlength _).trans hbound
  unfold validId
  rw [hvalid, List.all_eq_true.mpr fun c hc => (hchars c hc).2, hlist]
  rfl

/-- The prompt that is rebuilt from a valid projection has valid metadata. -/
theorem ApprovedSource.rebuilt_valid (h : ApprovedSource context bytes prompt content body)
    (hvalid : prompt.runtimeProjection.validate = .ok ()) {aliases tags : List String}
    (haliases : aliases.Perm prompt.metadata.participantAliases) (htags : tags.Perm prompt.metadata.sensitivityTags) :
    (rebuiltPrompt prompt.privacySourceId prompt.sourceDigest aliases tags
      prompt.runtimeProjection).metadata.IsValid := by
  have hid : validId prompt.privacySourceId = true := by
    rw [h.sourceId, h.digest]
    exact validId_privacySourceId _
  have hone : 1 ≤ prompt.runtimeProjection.selectionWeightNanounits :=
    (nanounits_spec h.metadata.weight.1 h.metadata.weight.2).2.mpr (h.validate_runtimeProjection.mp hvalid).1
  have htitle : isBlank "Approved private inspiration" = false ∧
      "Approved private inspiration".length ≤ maxEventTitleChars := by decide
  have hnonempty : ∀ {stored own : List String}, stored.Perm own → own ≠ [] → stored ≠ [] := by
    rintro stored own hperm hown rfl
    exact hown hperm.nil_eq.symm
  exact {
    schemaVersion := rfl
    id := hid
    title := htitle
    weight := rebuiltWeight_spec hone (nanounits_spec h.metadata.weight.1 h.metadata.weight.2).1
    minimumLevel := h.metadata.minimumLevel
    maximumLevel := h.metadata.maximumLevel
    cooldownTurns := h.metadata.cooldownTurns
    sensitivityTags := validateLabels_perm htags h.metadata.sensitivityTags
    participantAliases := validateLabels_perm haliases h.metadata.participantAliases
    references := fun label hlabel => h.metadata.references label (haliases.mem_iff.mp hlabel)
    tagged := fun henabled => hnonempty htags (h.metadata.tagged henabled)
    aliased := fun henabled => hnonempty haliases (h.metadata.aliased henabled)
    cooled := h.metadata.cooled }

theorem all_eq_of_perm {α : Type} {p : α → Bool} {xs ys : List α} (h : xs.Perm ys) : xs.all p = ys.all p := by
  rw [Bool.eq_iff_iff, List.all_eq_true, List.all_eq_true]
  exact ⟨fun hall x hx => hall x (h.mem_iff.mpr hx), fun hall x hx => hall x (h.mem_iff.mp hx)⟩

/-- **Approved events survive the runtime boundary** if and only if their weight comes to a nanounit when it is rounded,
and no fact line has a control character other than white space. -/
theorem survives_boundary_iff (h : reviewSourceBytes context bytes = .approved prompt) :
    prompt.SurvivesBoundary ↔
      1 / 2 - 1 / 2 ^ 55 ≤ prompt.metadata.weight * 1000000000 ∧
        ∀ line ∈ sourceFactLines context bytes, ∀ c ∈ line, isControl c = true → isWhiteSpace c = true := by
  obtain ⟨content, body, happroved⟩ := reviewSourceBytes_eq_approved h
  have hvalidate := happroved.validate_runtimeProjection
  constructor
  · intro hsurvives
    exact hvalidate.mp hsurvives.1
  · intro hconditions
    have hvalid := hvalidate.mpr hconditions
    refine ⟨hvalid, fun henabled aliases tags haliases htags => ?_⟩
    have hrebuilt := happroved.rebuilt_valid hvalid haliases htags
    refine ⟨rebuiltPrompt prompt.privacySourceId prompt.sourceDigest aliases tags prompt.runtimeProjection, ?_, rfl, rfl,
      hrebuilt.weight.1, fun eligibility => ?_⟩
    · have hbinding : ¬ (prompt.privacySourceId ≠ privacySourceId prompt.sourceDigest ∨ aliases = [] ∨ tags = []) := by
        rintro (hid | hempty | hempty)
        · exact hid happroved.sourceId
        · exact happroved.metadata.aliased henabled (hempty ▸ haliases).nil_eq.symm
        · exact happroved.metadata.tagged henabled (hempty ▸ htags).nil_eq.symm
      unfold fromRuntimeProjection
      rw [hvalid, rejectIf_of_not hbinding]
      dsimp only
      rw [validateMetadataFields_eq_ok.mpr hrebuilt]
      rfl
    · unfold EventPrompt.isEligible
      show (eligibility.inspirationEnabled && prompt.metadata.enabled &&
        decide (prompt.metadata.minimumLevel ≤ eligibility.partyLevel) && _ && tags.all _ && aliases.all _ && _) = _
      rw [all_eq_of_perm htags, all_eq_of_perm haliases]
      rfl

end Boundary

/-! ## A story -/

theorem isAlpha_of_isWhiteSpace {c : Char} (h : isWhiteSpace c = true) : c.isAlpha = false := by
  by_contra halpha
  rw [Bool.not_eq_false] at halpha
  have hplain : isOpaqueIdChar c = true := by simp [isOpaqueIdChar, Char.isAlphanum, halpha]
  rw [not_isWhiteSpace_of_isOpaqueIdChar hplain] at h
  cases h

/-- Tables with a few letters beyond ASCII. -/
def latinCharTables : CharTables where
  toCaseTables := Membership.latinTables
  isAlphabetic c := c.isAlpha || c = 'É' || c = 'é' || c = 'Σ' || c = 'σ' || c = 'ς'
  isAlphanumeric c := c.isAlphanum || c = 'É' || c = 'é' || c = 'Σ' || c = 'σ' || c = 'ς'
  alphabetic_visible c h := by
    simp only [Bool.or_eq_true, decide_eq_true_eq] at h
    rcases h with ((((h | rfl) | rfl) | rfl) | rfl) | rfl
    · exact not_isWhiteSpace_of_isOpaqueIdChar (by simp [isOpaqueIdChar, Char.isAlphanum, h])
    all_goals decide
  alphanumeric_visible c h := by
    simp only [Bool.or_eq_true, decide_eq_true_eq] at h
    rcases h with ((((h | rfl) | rfl) | rfl) | rfl) | rfl
    · exact not_isWhiteSpace_of_isOpaqueIdChar (by simp [isOpaqueIdChar, h])
    all_goals decide
  lower_space c h := by
    have hlower : c.toLower = c := (CaseTables.toLower_eq_iff (isAlpha_of_isWhiteSpace h)).mpr rfl
    show (if c = 'É' then ['é'] else if c = 'Σ' then ['σ'] else [c.toLower]) = [c]
    rw [if_neg, if_neg, hlower]
    · rintro rfl
      cases h
    · rintro rfl
      cases h
  lower_visible c h d hd := by
    have hd : d ∈ if c = 'É' then ['é'] else if c = 'Σ' then ['σ'] else [c.toLower] := hd
    split at hd
    · rw [List.mem_singleton.mp hd]
      rfl
    · split at hd
      · rw [List.mem_singleton.mp hd]
        rfl
      · rw [List.mem_singleton.mp hd, ← Bool.not_eq_true]
        intro hspace
        have hsame := (CaseTables.toLower_eq_iff (isAlpha_of_isWhiteSpace hspace)).mp rfl
        rw [← hsame, h] at hspace
        cases hspace
  space_uncased c h := by
    have hforeign : ∀ d, isWhiteSpace d = false → decide (c = d) = false := by
      intro d hd
      refine decide_eq_false ?_
      rintro rfl
      rw [h] at hd
      cases hd
    constructor
    · show (c.isAlpha || decide (c = 'É') || decide (c = 'é') || decide (c = 'Σ') || decide (c = 'σ') ||
        decide (c = 'ς')) = false
      rw [isAlpha_of_isWhiteSpace h, hforeign 'É' rfl, hforeign 'é' rfl, hforeign 'Σ' rfl, hforeign 'σ' rfl,
        hforeign 'ς' rfl]
      rfl
    · show (decide (c = '.') || decide (c = ':') || decide (c = '^')) = false
      rw [hforeign '.' rfl, hforeign ':' rfl, hforeign '^' rfl]
      rfl

/-- The metadata that are read from `{"id":"tram","title":"Tram"}`. -/
def tramMetadata : EventPromptMetadata where
  schemaVersion := 1
  id := "tram"
  title := "Tram"
  weight := 1
  minimumLevel := 1
  maximumLevel := none
  cooldownTurns := 0
  sensitivityTags := []
  participantAliases := []
  enabled := false

def tramReview : ReviewContext where
  tables := latinCharTables
  sha256 _ := Vector.replicate 32 0
  parse text := if text = "\x7b\"id\":\"tram\",\"title\":\"Tram\"\x7d" then some tramMetadata else none

def tramSource (line : String) : String :=
  "---\n\x7b\"id\":\"tram\",\"title\":\"Tram\"\x7d\n---\n## Inspiration\n" ++ line

def tramPrompt (fact : String) : EventPrompt where
  metadata := tramMetadata
  privacySourceId := privacySourceId (.fromBytes (Vector.replicate 32 0))
  sourceDigest := .fromBytes (Vector.replicate 32 0)
  inspiration := ⟨[fact]⟩
  transformationPolicy := .highFictionDistanceV1

theorem fromUTF8?_tramSource (line : String) :
    String.fromUTF8? (tramSource line).toByteArray = some (tramSource line) :=
  dif_pos (tramSource line).isValidUTF8

theorem reviewSourceBytes_tram {line fact : String}
    (h : reviewContent tramReview (stripMark (tramSource line).toList) = (∅, some (tramMetadata, ⟨[fact]⟩))) :
    reviewSourceBytes tramReview (tramSource line).toByteArray = .approved (tramPrompt fact) := by
  unfold reviewSourceBytes
  rw [fromUTF8?_tramSource]
  dsimp only
  rw [h]
  rfl

theorem sourceFactLines_tram : sourceFactLines tramReview (tramSource "A late tram.").toByteArray =
    ["A late tram.".toList] := by
  have hparsed : parseMarkdownDocument tramReview.parse (stripMark (tramSource "A late tram.").toList) =
      .ok (tramMetadata, "## Inspiration\nA late tram.".toList) := by
    decide +kernel
  unfold sourceFactLines
  rw [fromUTF8?_tramSource]
  dsimp only
  rw [hparsed]
  decide +kernel

/-- The late tram is approved and crosses the boundary. -/
theorem late_tram_survives : (tramPrompt "A late tram.").SurvivesBoundary := by
  have hreviewed : reviewContent tramReview (stripMark (tramSource "A late tram.").toList) =
      (∅, some (tramMetadata, ⟨["A late tram."]⟩)) := by
    decide +kernel
  refine (survives_boundary_iff (reviewSourceBytes_tram hreviewed)).mpr ⟨?_, ?_⟩
  · show 1 / 2 - 1 / 2 ^ 55 ≤ (1 : ℚ) * 1000000000
    norm_num
  · rw [sourceFactLines_tram]
    have hplain : "A late tram.".toList.all fun c => !isControl c := by decide +kernel
    intro line hline c hc hcontrol
    rw [List.mem_singleton.mp hline] at hc
    have hfree := List.all_eq_true.mp hplain c hc
    rw [hcontrol] at hfree
    cases hfree

/-- **A tram that rings**: the review lets the bell character pass, and the projection is refused for it. -/
theorem ringing_tram_lost : ∃ context bytes prompt, reviewSourceBytes context bytes = .approved prompt ∧
    ¬ prompt.SurvivesBoundary := by
  have hreviewed : reviewContent tramReview (stripMark (tramSource "A late\x07 tram.").toList) =
      (∅, some (tramMetadata, ⟨["A late\x07 tram."]⟩)) := by
    decide +kernel
  refine ⟨_, _, _, reviewSourceBytes_tram hreviewed, fun hsurvives => ?_⟩
  have hbad : [("A late\x07 tram.")].any isBadFact = true := by decide +kernel
  have hvalid := hsurvives.1
  unfold RuntimeEventPrompt.validate at hvalid
  simp only [seq_eq_ok, rejectIf_eq_ok] at hvalid
  exact hvalid.2.2.2 (.inr (.inr hbad))

end ManchesterArcana.Events
