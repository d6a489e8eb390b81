import ManchesterArcana.Events.Prompt

/-!
# `Events.Review` — the review of a source

A source is Markdown with metadata in front. It is scanned in lower case for links, instructions, addresses and sensitive
terms; its body is searched for quotations; and what stands under its inspiration heading is kept, line by line, with the
words of each line one space apart. A source without a finding is approved.
-/

namespace ManchesterArcana.Events

open Effect
open TypedGm (Sha256Digest EventTransformationPolicy)

def maxInspirationFacts : Nat := 4

def maxInspirationFactChars : Nat := 240

def maxInspirationBriefChars : Nat := 600

/-- Which characters are letters and which are numbers, beside the case tables, and what can be relied on: white space is
neither, has no case, and lower case leaves it alone and makes none. -/
structure CharTables extends CaseTables where
  isAlphabetic : Char → Bool
  isAlphanumeric : Char → Bool
  alphabetic_visible : ∀ c, isAlphabetic c = true → isWhiteSpace c = false
  alphanumeric_visible : ∀ c, isAlphanumeric c = true → isWhiteSpace c = false
  lower_space : ∀ c, isWhiteSpace c = true → lower c = [c]
  lower_visible : ∀ c, isWhiteSpace c = false → ∀ d ∈ lower c, isWhiteSpace d = false
  space_uncased : ∀ c, isWhiteSpace c = true → cased c = false ∧ caseIgnorable c = false

inductive EventSourceFindingCode where
  | invalidUtf8
  | missingFrontmatter
  | invalidFrontmatter
  | invalidMetadata
  | missingInspiration
  | invalidInspirationFormat
  | inspirationLimitExceeded
  | activeContentOrLink
  | promptOrToolInjection
  | likelyContactOrIdentifier
  | directQuotation
  | prohibitedSensitiveCategory
  | duplicateSourceId
  deriving DecidableEq

/-! ## Scanning -/

def activeMarkers : List String := ["```", "~~~", "](", "![", "http://", "https://", "mailto:", "www.", "<!--",
  "<!doctype", "<?xml", "<script", "<iframe", "<object", "<embed", "<img", "<link", "<style", "<svg", "<a "]

def injectionMarkers : List String := ["ignore previous", "ignore all previous", "ignore the above",
  "ignore instructions", "override instructions", "system prompt", "developer message", "assistant:", "system:",
  "you are chatgpt", "you are an ai", "jailbreak", "call a tool", "call the tool", "invoke a tool", "invoke the tool",
  "use the tool", "tool call", "function call", "run command", "prompt injection", "roleplay as", "<|system",
  "<|assistant", "[inst]"]

def contactMarkers : List String := ["phone number", "email address", "e-mail address", "postcode", "postal code",
  "zip code", "home address", "street address", "contact details", "contact information", "instagram", "linkedin",
  "facebook", "discord", "whatsapp", "telegram", "tiktok", "twitter handle", "lives at", "live at", "works at",
  "worked at", "employed by", "employer", "workplace", "company office", "my employer", "their employer", "our office"]

def streetSuffixes : List String := [" street", " st.", " road", " rd.", " avenue", " ave.", " lane", " drive",
  " boulevard", " close", " crescent", " terrace"]

def sensitiveTerms : List String := ["minor", "child", "children", "teen", "teenager", "underage", "baby",
  "school pupil", "diagnosis", "health", "medical", "health condition", "illness", "cancer", "medication",
  "medical condition", "mental health", "depression", "suicide", "self-harm", "trauma", "hospital", "pregnancy", "sexual",
  "intimate", "affair", "divorce", "relationship secret", "relationship", "crime", "criminal", "arrest", "addiction",
  "overdose", "debt", "bank account", "salary", "financial hardship", "financial", "employment", "abuse",
  "domestic violence", "current crisis", "religion", "ethnicity", "racial", "disability", "sexual orientation",
  "gender identity"]

/-- `str::contains`. -/
def containsPart (text : List Char) (part : String) : Bool := part.toList <:+: text

/-- A text at each of its characters: what stands before it, backwards, the character, and what stands behind. -/
def placesFrom (before : List Char) : List Char → List (List Char × Char × List Char)
  | [] => []
  | c :: after => (before, c, after) :: placesFrom (c :: before) after

def places (text : List Char) : List (List Char × Char × List Char) := placesFrom [] text

def stripSlash : List Char → List Char
  | '/' :: tail => tail
  | tail => tail

def containsHtmlTag (t : CharTables) (text : List Char) : Bool :=
  (places text).any fun (_, c, after) =>
    c == '<' && (stripSlash after).head?.any t.isAlphabetic && (stripSlash after).contains '>'

def containsActiveContentOrLink (t : CharTables) (text : List Char) : Bool :=
  activeMarkers.any (containsPart text) || containsHtmlTag t text

def containsPromptOrToolInjection (text : List Char) : Bool := injectionMarkers.any (containsPart text)

/-- The characters in front of an `@`. -/
def isLocalChar (c : Char) : Bool := c.isAlphanum || c == '.' || c == '_' || c == '+' || c == '-'

/-- The characters behind an `@`. -/
def isHostChar (c : Char) : Bool := c.isAlphanum || c == '.' || c == '-' || c == '_'

def containsEmailOrHandle (text : List Char) : Bool :=
  (places text).any fun (before, c, after) =>
    c == '@' && (0 < (before.takeWhile isLocalChar).length || before.head?.all fun d => !d.isAlphanum) &&
      2 ≤ (after.takeWhile isHostChar).length

def isPhoneSeparator (c : Char) : Bool := c == ' ' || c == '-' || c == '(' || c == ')' || c == '+'

/-- The loop over the characters, with the digits and separators counted so far; a letter closes the text. -/
def phoneFrom (digits separators : Nat) : List Char → Bool
  | [] => 7 ≤ digits && 0 < separators
  | c :: rest =>
    if c.isDigit then phoneFrom (digits + 1) separators rest
    else if 0 < digits && isPhoneSeparator c then phoneFrom digits (separators + 1) rest
    else (7 ≤ digits && 0 < separators) || phoneFrom 0 0 rest

def containsLikelyPhone (text : List Char) : Bool := phoneFrom 0 0 text

/-- The token is a `u32` between what is no digit. -/
def isNumberToken (token : List Char) : Bool :=
  let trimmed := (token.dropWhile (!·.isDigit)).rdropWhile (!·.isDigit)
  trimmed != [] && trimmed.all Char.isDigit && Nat.ofDigitChars 10 trimmed 0 < 2 ^ 32

def containsLikelyStreetAddress (text : List Char) : Bool :=
  (splitWhitespace text).any isNumberToken && streetSuffixes.any (containsPart text)

def containsLikelyContactOrIdentifier (text : List Char) : Bool :=
  contactMarkers.any (containsPart text) || containsEmailOrHandle text || containsLikelyPhone text ||
    containsLikelyStreetAddress text

/-- What stands behind the part where the text begins with it. -/
def stripPart : List Char → List Char → Option (List Char)
  | [], text => some text
  | _ :: _, [] => none
  | c :: part, d :: text => if c = d then stripPart part text else none

/-- The term stands in the text, and no letter or number next to it. Matches are searched one behind the other, but a term
that begins inside a match has a letter in front. -/
def containsBoundedTerm (t : CharTables) (text : List Char) (term : String) : Bool :=
  ((places text).any fun (before, c, after) =>
    (stripPart term.toList (c :: after)).any fun rest =>
      before.head?.all (fun d => !t.isAlphanumeric d) && rest.head?.all (fun d => !t.isAlphanumeric d))

def containsProhibitedSensitiveCategory (t : CharTables) (text : List Char) : Bool :=
  sensitiveTerms.any (containsBoundedTerm t text)

/-- The lower case of a text. -/
def lowercase (t : CharTables) (content : List Char) : List Char := t.lowerFrom [] content

def scanSource (t : CharTables) (content : List Char) : Finset EventSourceFindingCode :=
  let normalized := lowercase t content
  (if containsActiveContentOrLink t normalized then {.activeContentOrLink} else ∅) ∪
    (if containsPromptOrToolInjection normalized then {.promptOrToolInjection} else ∅) ∪
    (if containsLikelyContactOrIdentifier normalized then {.likelyContactOrIdentifier} else ∅) ∪
    if containsProhibitedSensitiveCategory t normalized then {.prohibitedSensitiveCategory} else ∅

/-! ## The document -/

/-- The text behind a byte order mark. -/
def stripMark (content : List Char) : List Char := if content.head? = some '\uFEFF' then content.tail else content

/-- The metadata and the body; `parse` is the JSON parser for metadata. -/
def parseMarkdownDocument (parse : String → Option EventPromptMetadata) (content : List Char) :
    Except EventSourceFindingCode (EventPromptMetadata × List Char) :=
  match lines (stripMark content) with
  | [] => .error .missingFrontmatter
  | first :: rest =>
    if trim first ≠ "---".toList then .error .missingFrontmatter
    else
      match rest.dropWhile fun line => trim line ≠ "---".toList with
      | [] => .error .missingFrontmatter
      | _ :: body => do
        let frontmatter := rest.takeWhile fun line => trim line ≠ "---".toList
        let metadata ← okOr (parse (String.ofList (['\n'].intercalate frontmatter))) .invalidFrontmatter
        return (metadata, ['\n'].intercalate body)

def quotationMarks : List Char := ['“', '”', '„', '‟', '«', '»']

def containsDirectQuotation (body : List Char) : Bool :=
  ((lines body).any fun line => (line.dropWhile isWhiteSpace).head? = some '>') ||
    (body.any quotationMarks.contains) || 2 ≤ body.count '"'

/-- `split_once(". ")`: what stands before the first full stop with a space behind it. -/
def beforeStop : List Char → Option (List Char)
  | [] => none
  | c :: rest => if c = '.' ∧ rest.head? = some ' ' then some [] else (beforeStop rest).map (c :: ·)

def markupChars : List Char := ['`', '*', '_', '~', '#', '[', ']', '<', '>', '|']

def isPlainFactLine (line : List Char) : Bool :=
  let startsWithMarkup := line.head? = some '#' || line.head? = some '>' || "- ".toList.isPrefixOf line ||
    "* ".toList.isPrefixOf line || "+ ".toList.isPrefixOf line || (beforeStop line).any (·.all Char.isDigit)
  !startsWithMarkup && !line.any markupChars.contains

/-- The lines one by one, in the inspiration section or out of it. -/
def extractFrom (inInspiration sawInspiration : Bool) (facts : List String) :
    List (List Char) → Except EventSourceFindingCode InspirationFactBrief
  | [] =>
    if sawInspiration = false ∨ facts = [] then .error .missingInspiration
    else if maxInspirationFacts < facts.length ∨ maxInspirationBriefChars < (facts.map String.length).sum then
      .error .inspirationLimitExceeded
    else .ok ⟨facts⟩
  | line :: rest =>
    let trimmed := trim line
    if "## ".toList.isPrefixOf trimmed then
      if trimmed = "## Inspiration".toList then
        if sawInspiration then .error .invalidInspirationFormat else extractFrom true true facts rest
      else extractFrom false sawInspiration facts rest
    else if inInspiration = false ∨ trimmed = [] then extractFrom inInspiration sawInspiration facts rest
    else if isPlainFactLine trimmed = false then .error .invalidInspirationFormat
    else
      let fact := String.ofList (collapse trimmed)
      if maxInspirationFactChars < fact.length then .error .inspirationLimitExceeded
      else extractFrom inInspiration sawInspiration (facts ++ [fact]) rest

def extractInspirationBrief (body : List Char) : Except EventSourceFindingCode InspirationFactBrief :=
  extractFrom false false [] (lines body)

/-! ## The review -/

/-- What is no code of the game: the tables, the digest, and the parser of metadata. -/
structure ReviewContext where
  tables : CharTables
  sha256 : ByteArray → Vector UInt8 32
  parse : String → Option EventPromptMetadata

structure EventSourceQuarantine where
  sourceId : String
  sourceDigest : Sha256Digest
  findingCodes : Finset EventSourceFindingCode
  deriving DecidableEq

inductive ReviewedEventSource where
  | approved (prompt : EventPrompt)
  | quarantined (summary : EventSourceQuarantine)
  deriving DecidableEq

def quarantineSummary (sourceDigest : Sha256Digest) (findingCodes : Finset EventSourceFindingCode) :
    EventSourceQuarantine := ⟨privacySourceId sourceDigest, sourceDigest, findingCodes⟩

/-- The findings of the content, and what is kept of it. -/
def reviewContent (context : ReviewContext) (content : List Char) :
    Finset EventSourceFindingCode × Option (EventPromptMetadata × InspirationFactBrief) :=
  let findings := scanSource context.tables content
  match parseMarkdownDocument context.parse content with
  | .error code => (insert code findings, none)
  | .ok (metadata, body) =>
    let findings := if validateMetadataFields metadata ≠ .ok () then insert .invalidMetadata findings else findings
    let findings := if containsDirectQuotation body then insert .directQuotation findings else findings
    match extractInspirationBrief body with
    | .error code => (insert code findings, none)
    | .ok brief => (findings, some (metadata, brief))

def reviewSourceBytes (context : ReviewContext) (bytes : ByteArray) : ReviewedEventSource :=
  let digest := Sha256Digest.fromBytes (context.sha256 bytes)
  match String.fromUTF8? bytes with
  | none => .quarantined (quarantineSummary digest {.invalidUtf8})
  | some text =>
    match reviewContent context (stripMark text.toList) with
    | (findings, some (metadata, inspiration)) =>
      if findings = ∅ then
        .approved {
          metadata
          privacySourceId := privacySourceId digest
          sourceDigest := digest
          inspiration
          transformationPolicy := .highFictionDistanceV1 }
      else .quarantined (quarantineSummary digest findings)
    | (findings, none) => .quarantined (quarantineSummary digest findings)

/-! ## What is kept -/

/-- The lines of the inspiration section that are kept, trimmed. -/
def factLines (inInspiration : Bool) : List (List Char) → List (List Char)
  | [] => []
  | line :: rest =>
    if "## ".toList.isPrefixOf (trim line) then factLines (trim line = "## Inspiration".toList) rest
    else if inInspiration = false ∨ trim line = [] then factLines inInspiration rest
    else trim line :: factLines inInspiration rest

/-- The fact lines of a source. -/
def sourceFactLines (context : ReviewContext) (bytes : ByteArray) : List (List Char) :=
  match String.fromUTF8? bytes with
  | none => []
  | some text =>
    match parseMarkdownDocument context.parse (stripMark text.toList) with
    | .error _ => []
    | .ok (_, body) => factLines false (lines body)

variable {inInspiration : Bool} {ls : List (List Char)}

theorem mem_factLines {line : List Char}
    (h : line ∈ factLines inInspiration ls) : line ≠ [] ∧ ∃ whole ∈ ls, trim whole = line := by
  induction ls generalizing inInspiration with
  | nil => cases h
  | cons first ls ih =>
    have hlater : ∀ {inside}, line ∈ factLines inside ls → line ≠ [] ∧ ∃ whole ∈ first :: ls, trim whole = line := by
      intro inside h
      obtain ⟨hne, whole, hwhole, heq⟩ := ih h
      exact ⟨hne, whole, List.mem_cons_of_mem _ hwhole, heq⟩
    unfold factLines at h
    split at h
    · exact hlater h
    · split at h
      · exact hlater h
      · next hkept =>
        rcases List.mem_cons.mp h with rfl | h
        · exact ⟨fun hempty => hkept (.inr hempty), first, List.mem_cons_self, rfl⟩
        · exact hlater h

/-- **What is extracted**: the fact lines with single spaces, and they are plain and short enough. -/
theorem extractFrom_eq_ok {sawInspiration : Bool} {facts : List String}
    {brief : InspirationFactBrief} (h : extractFrom inInspiration sawInspiration facts ls = .ok brief) :
    brief.facts = facts ++ (factLines inInspiration ls).map (fun line => String.ofList (collapse line)) ∧
      brief.facts ≠ [] ∧ brief.facts.length ≤ maxInspirationFacts ∧
      ∀ line ∈ factLines inInspiration ls, (collapse line).length ≤ maxInspirationFactChars := by
  induction ls generalizing inInspiration sawInspiration facts with
  | nil =>
    unfold extractFrom at h
    split at h
    · cases h
    · next hfound =>
      split at h
      · cases h
      · next hbounded =>
        cases h
        refine ⟨(List.append_nil _).symm, fun hempty => hfound (.inr hempty), ?_, fun line hline => nomatch hline⟩
        exact not_lt.mp (not_or.mp hbounded).1
  | cons first ls ih =>
    unfold extractFrom at h
    unfold factLines
    dsimp only at h
    split at h
    · next hheading =>
      rw [if_pos hheading]
      split at h
      · next hinspiration =>
        split at h
        · cases h
        · rw [decide_eq_true hinspiration]
          exact ih h
      · next hother =>
        rw [decide_eq_false hother]
        exact ih h
    · next hheading =>
      rw [if_neg hheading]
      split at h
      · next hskipped =>
        rw [if_pos hskipped]
        exact ih h
      · next hkept =>
        rw [if_neg hkept]
        split at h
        · cases h
        · split at h
          · cases h
          · next hlength =>
            obtain ⟨hfacts, hne, hcount, hrest⟩ := ih h
            rw [String.length_ofList, not_lt] at hlength
            refine ⟨?_, hne, hcount, List.forall_mem_cons.mpr ⟨hlength, hrest⟩⟩
            rw [hfacts, List.append_assoc]
            rfl

/-- **An approved source**: nothing was found in it, and the prompt has its metadata and its fact lines. -/
structure ApprovedSource (context : ReviewContext) (bytes : ByteArray) (prompt : EventPrompt) (content body : List Char) :
    Prop where
  scanned : scanSource context.tables content = ∅
  parsed : parseMarkdownDocument context.parse content = .ok (prompt.metadata, body)
  metadata : prompt.metadata.IsValid
  factLines : sourceFactLines context bytes = factLines false (lines body)
  facts : prompt.inspiration.facts = (sourceFactLines context bytes).map fun line => String.ofList (collapse line)
  some : prompt.inspiration.facts ≠ []
  few : prompt.inspiration.facts.length ≤ maxInspirationFacts
  short : ∀ line ∈ sourceFactLines context bytes, (collapse line).length ≤ maxInspirationFactChars
  digest : prompt.sourceDigest = .fromBytes (context.sha256 bytes)
  sourceId : prompt.privacySourceId = privacySourceId prompt.sourceDigest

theorem reviewSourceBytes_eq_approved {context : ReviewContext} {bytes : ByteArray} {prompt : EventPrompt}
    (h : reviewSourceBytes context bytes = .approved prompt) :
    ∃ content body, ApprovedSource context bytes prompt content body := by
  unfold reviewSourceBytes at h
  dsimp only at h
  split at h
  · cases h
  · next text htext =>
    split at h
    · next findings metadata inspiration hreview =>
      split at h
      · next hempty =>
        subst hempty
        obtain rfl := ReviewedEventSource.approved.inj h
        unfold reviewContent at hreview
        dsimp only at hreview
        split at hreview
        · exact nomatch (Prod.mk.inj hreview).2
        · next parsed body hparsed =>
          split at hreview
          · exact nomatch (Prod.mk.inj hreview).2
          · next brief hbrief =>
            obtain ⟨hfindings, hkept⟩ := Prod.mk.inj hreview
            cases hkept
            have hlines : sourceFactLines context bytes = factLines false (lines body) := by
              unfold sourceFactLines
              rw [htext]
              dsimp only
              rw [hparsed]
            -- No finding was inserted.
            have hquotation : containsDirectQuotation body = false := by
              by_contra hfound
              rw [Bool.not_eq_false] at hfound
              rw [if_pos hfound] at hfindings
              exact Finset.insert_ne_empty _ _ hfindings
            rw [hquotation, if_neg Bool.false_ne_true] at hfindings
            have hvalid : validateMetadataFields metadata = .ok () := by
              by_contra hinvalid
              rw [if_pos hinvalid] at hfindings
              exact Finset.insert_ne_empty _ _ hfindings
            rw [if_neg (not_not.mpr hvalid)] at hfindings
            obtain ⟨hfacts, hne, hcount, hshort⟩ := extractFrom_eq_ok hbrief
            refine ⟨stripMark text.toList, body, hfindings, hparsed, validateMetadataFields_eq_ok.mp hvalid, hlines, ?_,
              hne, hcount, hlines ▸ hshort, rfl, rfl⟩
            rw [hlines]
            exact hfacts
      · cases h
    · cases h

end ManchesterArcana.Events
