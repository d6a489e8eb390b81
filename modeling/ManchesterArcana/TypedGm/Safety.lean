import ManchesterArcana.TypedGm.Proposals
import Mathlib.Data.List.Infix

/-!
# `TypedGm.Safety` — what the texts of a proposal may say

The texts of a proposal are bounded together, and searched for instructions, for markup, and, where the request has a
private source, for its identifiers and for the words of its facts.
-/

namespace ManchesterArcana.TypedGm

open Effect

inductive GenerationFailureClass where
  | timeout
  | unavailable
  | rateLimit
  | malformed
  | unsafeOutput
  | contradiction
  deriving DecidableEq, Repr

inductive SafetyCategory where
  | currentPersonalCrisis
  | imminentHarm
  | privatePersonalData
  | realPersonLikeness
  | sexualContentInvolvingMinors
  deriving DecidableEq, Repr

inductive AudiencePolicy where
  | adultsOnly
  deriving DecidableEq, Repr

inductive PrivateInspirationPolicy where
  | excluded
  | minimizedHighDistanceV1
  deriving DecidableEq, Repr

structure GmSafetyPolicy where
  audience : AudiencePolicy
  prohibitedCategories : Finset SafetyCategory
  privateInspiration : PrivateInspirationPolicy
  maxOutputChars : Nat
  deriving DecidableEq

inductive EventTransformationPolicy where
  | highFictionDistanceV1
  deriving DecidableEq, Repr

structure PrivateInspirationBrief where
  selectionId : String
  sourceId : String
  sourceVersion : Nat
  sourceDigest : Sha256Digest
  minimizedFacts : List String
  forbiddenIdentifiers : Finset String
  transformation : EventTransformationPolicy
  deriving DecidableEq

/-- The tables of the Unicode standard that the standard library has: which characters are alphanumeric, and how a word
is written in lower case. -/
structure UnicodeTables where
  isAlphanumeric : Char → Bool
  toLowercase : String → String

/-! ## Searching -/

section Search

variable {α : Type} {n : Nat} {xs ys : List α}

/-- The stretches of `n` elements. -/
def windows (n : Nat) (xs : List α) : List (List α) :=
  (xs.tails.filter (n ≤ ·.length)).map (·.take n)

theorem mem_windows : ys ∈ windows n xs ↔ ys <:+: xs ∧ ys.length = n := by
  unfold windows
  rw [List.mem_map]
  constructor
  · rintro ⟨tail, htail, rfl⟩
    obtain ⟨htail, hlength⟩ := List.mem_filter.mp htail
    refine ⟨(List.take_prefix n tail).isInfix.trans ((List.mem_tails tail xs).mp htail).isInfix, ?_⟩
    exact List.length_take_of_le (of_decide_eq_true hlength)
  · rintro ⟨⟨before, after, rfl⟩, rfl⟩
    refine ⟨ys ++ after, List.mem_filter.mpr ⟨(List.mem_tails _ _).mpr ?_, ?_⟩, List.take_left⟩
    · exact ⟨before, (List.append_assoc before ys after).symm⟩
    · rw [decide_eq_true_eq, List.length_append]
      exact Nat.le_add_right _ _

end Search

/-- `str::contains`. -/
def containsText (value part : String) : Bool := part.toList <:+: value.toList

def toAsciiLowercase (value : String) : String := value.map Char.toLower

def normalizedWords (unicode : UnicodeTables) (value : String) : List String :=
  ((value.toList.splitOnP fun c => !unicode.isAlphanumeric c).filter (· ≠ [])).map fun word =>
    unicode.toLowercase (String.ofList word)

/-- The identifier stands in the text, in any letter case. -/
def mentions (text identifier : String) : Bool :=
  containsText (toAsciiLowercase text) (toAsciiLowercase identifier)

/-- Four words in a row of the fact, or the whole of a shorter one, stand in the text. -/
def echoes (unicode : UnicodeTables) (text fact : String) : Bool :=
  let factWords := normalizedWords unicode fact
  let window := min factWords.length 4
  (windows window factWords).any fun needle =>
    (windows window (normalizedWords unicode text)).any (· = needle)

def privateInspirationOutputIsUnsafe (unicode : UnicodeTables) (text : String) (brief : PrivateInspirationBrief) : Bool :=
  decide (∃ identifier ∈ brief.forbiddenIdentifiers, mentions text identifier = true) ||
    brief.minimizedFacts.any fun fact => (normalizedWords unicode fact).isEmpty || echoes unicode text fact

def unsafeMarkers : List String :=
  ["ignore previous instructions", "ignore all previous", "system prompt", "developer message", "api_key", "api key",
    "authorization: bearer", "password", "tool call", "execute command", "javascript:", "<script", "<iframe", "<!doctype",
    "\x7b\x7b", "\x7b%"]

/-- A tag is closed within so many bytes. -/
def closesTag : List Char → Nat → Bool
  | [], _ => false
  | c :: rest, budget => 0 < budget && (c == '>' || closesTag rest (budget - c.utf8Size))

def opensTag : List Char → Bool
  | [] => false
  | next :: rest => (next.isAlpha || next == '/' || next == '!') && closesTag (next :: rest) 128

/-- A `<` that a letter, `/` or `!` follows, and a `>` in the next 128 bytes. -/
def containsHtmlTag : List Char → Bool
  | [] => false
  | c :: rest => (c == '<' && opensTag rest) || containsHtmlTag rest

def unsafeText (value : String) : Bool :=
  let lower := toAsciiLowercase value
  unsafeMarkers.any (containsText lower ·) || containsHtmlTag lower.toList

/-! ## The texts of a proposal -/

def TypedGmProposal.texts : TypedGmProposal → List String
  | .action value => [value.rationale]
  | .check value => [value.rationale]
  | .scene value => [value.rationale]
  | .narration value => [value.text]
  | .clarification value => value.question :: value.choices.map (·.label)

def validateProposalSafety (unicode : UnicodeTables) (proposal : TypedGmProposal) (policy : GmSafetyPolicy)
    (privateInspiration : Option PrivateInspirationBrief) : Except GenerationFailureClass Unit :=
  rejectIf (policy.maxOutputChars < (proposal.texts.map String.length).sum ∨
    (∃ text ∈ proposal.texts, unsafeText text = true) ∨
    ∃ brief ∈ privateInspiration, ∃ text ∈ proposal.texts, privateInspirationOutputIsUnsafe unicode text brief = true)
    .unsafeOutput

/-! ## What passes -/

section Passes

variable {unicode : UnicodeTables} {proposal : TypedGmProposal} {policy : GmSafetyPolicy} {text : String}
  {privateInspiration : Option PrivateInspirationBrief} {brief : PrivateInspirationBrief}

theorem validateProposalSafety_eq_ok : validateProposalSafety unicode proposal policy privateInspiration = .ok () ↔
    (proposal.texts.map String.length).sum ≤ policy.maxOutputChars ∧ (∀ text ∈ proposal.texts, unsafeText text = false) ∧
      ∀ brief ∈ privateInspiration, ∀ text ∈ proposal.texts, privateInspirationOutputIsUnsafe unicode text brief = false := by
  unfold validateProposalSafety
  rw [rejectIf_eq_ok]
  push Not
  simp only [Bool.not_eq_true]

/-- **What a text that passes does not say.** -/
theorem privateInspirationOutputIsUnsafe_eq_false (h : privateInspirationOutputIsUnsafe unicode text brief = false) :
    (∀ identifier ∈ brief.forbiddenIdentifiers, mentions text identifier = false) ∧
      ∀ fact ∈ brief.minimizedFacts, echoes unicode text fact = false := by
  unfold privateInspirationOutputIsUnsafe at h
  rw [Bool.or_eq_false_iff, decide_eq_false_iff_not] at h
  obtain ⟨hidentifiers, hfacts⟩ := h
  refine ⟨fun identifier hmem => ?_, fun fact hmem => ?_⟩
  · rw [← Bool.not_eq_true]
    exact fun hmentions => hidentifiers ⟨identifier, hmem, hmentions⟩
  · have hfact := List.any_eq_false.mp hfacts fact hmem
    rw [Bool.not_eq_true, Bool.or_eq_false_iff] at hfact
    exact hfact.2

/-- **Echoing is sharing a run of words.** -/
theorem echoes_iff {fact : String} : echoes unicode text fact = true ↔
    ∃ run, run.length = min (normalizedWords unicode fact).length 4 ∧ run <:+: normalizedWords unicode fact ∧
      run <:+: normalizedWords unicode text := by
  unfold echoes
  dsimp only
  rw [List.any_eq_true]
  constructor
  · rintro ⟨needle, hneedle, hfound⟩
    obtain ⟨candidate, hcandidate, heq⟩ := List.any_eq_true.mp hfound
    obtain ⟨hfact, hlength⟩ := mem_windows.mp hneedle
    rw [decide_eq_true_eq] at heq
    subst heq
    exact ⟨candidate, hlength, hfact, (mem_windows.mp hcandidate).1⟩
  · rintro ⟨run, hlength, hfact, htext⟩
    refine ⟨run, mem_windows.mpr ⟨hfact, hlength⟩, List.any_eq_true.mpr ⟨run, mem_windows.mpr ⟨htext, hlength⟩, ?_⟩⟩
    exact decide_eq_true rfl

/-- A text without `<` has no tag. -/
theorem containsHtmlTag_eq_false {chars : List Char} (h : '<' ∉ chars) : containsHtmlTag chars = false := by
  induction chars with
  | nil => rfl
  | cons c rest ih =>
    have hc : (c == '<') = false := by
      rw [beq_eq_false_iff_ne]
      rintro rfl
      exact h List.mem_cons_self
    unfold containsHtmlTag
    rw [hc, Bool.false_and, Bool.false_or]
    exact ih fun hmem => h (List.mem_cons_of_mem c hmem)

/-- **A text is safe where it is written without some character of every marker.** -/
theorem unsafeText_eq_false {allowed : Char → Bool}
    (hmarkers : unsafeMarkers.all (fun marker => marker.toList.any (!allowed ·)) = true)
    (htag : allowed '<' = false) (htext : ∀ c ∈ (toAsciiLowercase text).toList, allowed c = true) :
    unsafeText text = false := by
  unfold unsafeText
  dsimp only
  rw [Bool.or_eq_false_iff]
  constructor
  · rw [List.any_eq_false]
    intro marker hmarker hcontains
    obtain ⟨c, hc, hnot⟩ := List.any_eq_true.mp (List.all_eq_true.mp hmarkers marker hmarker)
    rw [containsText, decide_eq_true_eq] at hcontains
    rw [htext c (hcontains.subset hc)] at hnot
    cases hnot
  · refine containsHtmlTag_eq_false fun hmem => ?_
    rw [htext '<' hmem] at htag
    cases htag

end Passes

end ManchesterArcana.TypedGm
