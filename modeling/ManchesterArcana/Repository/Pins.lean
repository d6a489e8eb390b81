import ManchesterArcana.Encounter.Types
import ManchesterArcana.Hero.Creation
import ManchesterArcana.Repository.TurnHistory
import ManchesterArcana.Store.Script
import Mathlib.Logic.Function.Basic

/-!
# `Repository.Pins` — what a campaign is sealed to

A campaign is created unsealed. The choice of a theme seals it to the rules, the content, the prompt and the schemas of
that day, in a transaction that writes only while nothing is sealed. Whatever else is done to campaigns meanwhile, each
is sealed once (`campaigns_sealed_once`).
-/

namespace ManchesterArcana.Repository

open Effect Hero Store
open TypedGm (Sha256Digest)

/-! ## Pins -/

structure CampaignPromptPin where
  templateId : String
  templateDigest : Sha256Digest
  policyId : String
  deriving DecidableEq

structure CampaignSchemaPins where
  session : Nat
  heroDraft : Nat
  heroCharacter : Nat
  encounter : Nat
  rulesMatrix : Nat
  typedAiProposal : Nat
  contentPack : String
  typedGmRequest : String
  deriving DecidableEq

def CampaignSchemaPins.current : CampaignSchemaPins where
  session := sessionSchemaVersion
  heroDraft := heroDraftSchemaVersion
  heroCharacter := heroCharacterSchemaVersion
  encounter := Encounter.encounterSchemaVersion
  rulesMatrix := Rules.rulesMatrixSchemaVersion
  typedAiProposal := TypedGm.typedAiProposalSchemaVersion
  contentPack := "content-pack/v1"
  typedGmRequest := "typed-gm-request/v1"

structure CampaignContentPins where
  schemaVersion : Nat
  hero : HeroPins
  prompt : CampaignPromptPin
  schemas : CampaignSchemaPins
  activeCatalogFingerprint : Sha256Digest
  deriving DecidableEq

def campaignPinsSchemaVersion : Nat := 1
def campaignPromptTemplateId : String := "prompt:typed-gm-turn:v1"
def campaignPromptPolicyId : String := "policy:private-mvp:v1"

/-- The error is the reason that is given. -/
def CampaignContentPins.validate (p : CampaignContentPins) : Except String Unit := do
  rejectIf (p.schemaVersion ≠ campaignPinsSchemaVersion) "campaign pin schema version is unsupported"
  p.hero.validate.mapError fun _ => "hero rules/content/theme pins are invalid"
  rejectIf (p.prompt.templateId ≠ campaignPromptTemplateId ∨ p.prompt.policyId ≠ campaignPromptPolicyId ∨
    isValidOpaqueId p.prompt.templateId = false ∨ isValidOpaqueId p.prompt.policyId = false)
    "prompt template or policy pin is unsupported"
  rejectIf (p.schemas ≠ .current) "one or more schema pins are unsupported"

inductive CampaignPinSealReason where
  | selectedTheme
  | legacySelectedTheme
  | legacyDigestAlias
  | legacyDefaultRainbound
  deriving DecidableEq

structure SealedCampaignPins where
  sealReason : CampaignPinSealReason
  pins : CampaignContentPins
  legacySource : Option HeroPins
  deriving DecidableEq

def SealedCampaignPins.validate (e : SealedCampaignPins) : Except String Unit := do
  e.pins.validate
  if e.sealReason = .legacyDigestAlias then
    rejectIf (¬ ∃ source ∈ e.legacySource, source.isLegacyDevAlias = true ∧ source.themeId = e.pins.hero.themeId ∧
      e.pins.hero = .mvp source.themeId) "legacy digest migration evidence is absent or unsupported"
  else rejectIf (e.legacySource.isSome = true) "legacy digest evidence requires the matching seal reason"

/-! ## Sealing and loading -/

/-- A campaign with the pins of its rules snapshot and the date of their seal. -/
structure PinnedCampaign extends Campaign where
  revision : Nat
  campaignPins : Option SealedCampaignPins
  sealedAt : Option Nat

structure StoredCampaignPins where
  campaignSessionId : String
  evidence : SealedCampaignPins
  createdAt : Nat
  deriving DecidableEq

abbrev PinStore := String → Option PinnedCampaign

def invalidPins (campaignSessionId reason : String) : RepositoryError :=
  .invalidDomainState "campaign content pins" campaignSessionId reason

def validatePinScope (actorAccountId campaignSessionId : String) : Except RepositoryError Unit := do
  validateOpaque "account" actorAccountId
  rejectIf (isValidOpaqueId campaignSessionId = false)
    (invalidPins campaignSessionId "campaign id must be a valid opaque identifier")

/-- What is asked of evidence when it is sealed and when it is loaded. -/
def checkEvidence (campaignSessionId invalid retired : String) (e : SealedCampaignPins) :
    Except RepositoryError Unit := do
  e.validate.mapError fun _ => invalidPins campaignSessionId invalid
  rejectIf (e.sealReason ≠ .selectedTheme ∨ e.legacySource.isSome = true) (invalidPins campaignSessionId retired)

def validateSeal (actorAccountId campaignSessionId : String) (evidence : SealedCampaignPins) :
    Except RepositoryError Unit := do
  validatePinScope actorAccountId campaignSessionId
  checkEvidence campaignSessionId "campaign pins failed domain validation"
    "greenfield campaigns accept selected-theme evidence only" evidence

namespace PinStore

variable (s : PinStore) (actorAccountId campaignSessionId : String)

def findActive : Option PinnedCampaign :=
  (s campaignSessionId).filter fun c => c.accessible actorAccountId campaignSessionId

def loadCampaignPins : Except RepositoryError (Option StoredCampaignPins) := do
  validatePinScope actorAccountId campaignSessionId
  match (s.findActive actorAccountId campaignSessionId).bind fun c => c.campaignPins.map fun pins => (c, pins) with
  | none => return none
  | some (campaign, evidence) => do
    checkEvidence campaign.id "stored campaign pins failed domain validation"
      "stored campaign pins contain retired compatibility evidence" evidence
    let sealedAt ← okOr campaign.sealedAt
      (invalidPins campaign.id "stored campaign pins are missing their BSON seal date")
    return some ⟨campaign.id, evidence, sealedAt⟩

def write (campaign : PinnedCampaign) : PinStore := Function.update s campaignSessionId (some campaign)

/-- The transaction answers with the date of the seal, which is `now` or was then. -/
def sealCampaignPins (evidence : SealedCampaignPins) (now : Nat) :
    Except RepositoryError (Decision PinStore String Nat) := do
  validateSeal actorAccountId campaignSessionId evidence
  let campaign ← okOr (s.findActive actorAccountId campaignSessionId) (.notFound "campaign" campaignSessionId)
  match campaign.campaignPins with
  | some stored =>
    rejectIf (stored ≠ evidence)
      (.revisionConflict "campaign content pins" campaignSessionId campaign.revision campaign.revision)
    return ⟨[], id, ← okOr campaign.sealedAt (.persistence "campaigns")⟩
  | none =>
    let campaign := { campaign with
      revision := campaign.revision + 1, campaignPins := some evidence, sealedAt := some now }
    return ⟨[campaignSessionId], fun s => s.write campaignSessionId campaign, now⟩

end PinStore

/-- A seal, or another write to a campaign: one that is created is unsealed, one that is there keeps its snapshot. No
    campaign is deleted here. -/
inductive PinJob where
  | sealPins (actorAccountId campaignSessionId : String) (evidence : SealedCampaignPins) (now : Nat)
  | write (campaignSessionId : String) (change : Option PinnedCampaign → PinnedCampaign)

def PinJob.body : PinJob → PinStore → Except RepositoryError (Decision PinStore String Nat)
  | sealPins actorAccountId campaignSessionId evidence now, s =>
    s.sealCampaignPins actorAccountId campaignSessionId evidence now
  | write id change, s =>
    let written := { change (s id) with
      campaignPins := (s id).bind (·.campaignPins), sealedAt := (s id).bind (·.sealedAt) }
    .ok ⟨[id], fun s => s.write id written, written.revision⟩

/-! ## Sealed once -/

/-- A seal is dated, and its evidence is what a seal asks for. -/
def PinnedCampaign.Lawful (campaign : PinnedCampaign) : Prop :=
  ∀ evidence, campaign.campaignPins = some evidence → campaign.sealedAt.isSome = true ∧
    ∀ id invalid retired, checkEvidence id invalid retired evidence = .ok ()

/-- Written over the other, the campaign leaves its seal as it is. -/
def PinnedCampaign.Keeps (written old : PinnedCampaign) : Prop :=
  old.campaignPins = none ∨ (written.campaignPins = old.campaignPins ∧ written.sealedAt = old.sealedAt)

namespace PinStore

def Lawful (s : PinStore) : Prop := ∀ id campaign, s id = some campaign → campaign.Lawful

/-- The campaign is sealed to this evidence since this date. -/
def IsSealed (s : PinStore) (id : String) (evidence : SealedCampaignPins) (sealedAt : Nat) : Prop :=
  ∃ campaign, s id = some campaign ∧ campaign.campaignPins = some evidence ∧ campaign.sealedAt = some sealedAt

/-- Seals stay. -/
def Later (s s' : PinStore) : Prop :=
  ∀ id evidence sealedAt, s.IsSealed id evidence sealedAt → s'.IsSealed id evidence sealedAt

/-- What the campaign that the account sees is sealed to. -/
def shown (s : PinStore) (account id : String) : Option StoredCampaignPins :=
  (s.findActive account id).bind fun campaign =>
    campaign.campaignPins.bind fun evidence => campaign.sealedAt.map fun sealedAt => ⟨id, evidence, sealedAt⟩

end PinStore

section Steps

variable {s s' : PinStore} {account campaignId : String} {evidence : SealedCampaignPins} {now : Nat}
  {campaign written : PinnedCampaign} {d : Decision PinStore String Nat} {job : PinJob}

theorem findActive_eq_some (h : s.findActive account campaignId = some campaign) :
    s campaignId = some campaign ∧ campaign.id = campaignId := by
  obtain ⟨hfound, haccess⟩ := Option.filter_eq_some_iff.mp h
  unfold Campaign.accessible at haccess
  simp only [Bool.and_eq_true, beq_iff_eq] at haccess
  exact ⟨hfound, haccess.1.1⟩

/-- **A seal that succeeds** finds its evidence stored, or nothing and writes it. -/
theorem sealCampaignPins_eq_ok (h : s.sealCampaignPins account campaignId evidence now = .ok d) :
    (s.IsSealed campaignId evidence d.answer ∧ d = ⟨[], id, d.answer⟩) ∨
      ∃ old written, s campaignId = some old ∧ old.campaignPins = none ∧ written.Lawful ∧
        written.campaignPins = some evidence ∧ written.sealedAt = some now ∧
        d = ⟨[campaignId], fun s => s.write campaignId written, now⟩ := by
  unfold PinStore.sealCampaignPins at h
  obtain ⟨hvalid, h⟩ := seq_eq_ok.mp h
  obtain ⟨campaign, hactive, h⟩ := bind_eq_ok.mp h
  have hcampaign := (findActive_eq_some (okOr_eq_ok.mp hactive)).1
  split at h
  · next stored hstored =>
    obtain ⟨hsame, h⟩ := seq_eq_ok.mp h
    obtain ⟨sealedAt, hsealedAt, h⟩ := bind_eq_ok.mp h
    cases h
    rw [rejectIf_eq_ok, not_not] at hsame
    exact .inl ⟨⟨campaign, hcampaign, hsame ▸ hstored, okOr_eq_ok.mp hsealedAt⟩, rfl⟩
  · next hopen =>
    cases h
    refine .inr ⟨campaign, _, hcampaign, hopen, fun evidence' hevidence => ?_, rfl, rfl, rfl⟩
    obtain rfl := Option.some.inj hevidence
    refine ⟨rfl, fun id invalid retired => ?_⟩
    simp only [validateSeal, checkEvidence, seq_eq_ok, mapError_eq_ok, rejectIf_eq_ok] at hvalid ⊢
    exact hvalid.2

/-- **What any job writes**: nothing, or one campaign that keeps the seal it finds. -/
theorem PinJob.body_eq_ok (h : job.body s = .ok d) : (d.writes = [] ∧ ∀ s', d.apply s' = s') ∨
    ∃ id written, d.writes = [id] ∧ (∀ s', d.apply s' = s'.write id written) ∧
      (s.Lawful → written.Lawful) ∧ ∀ old, s id = some old → written.Keeps old := by
  cases job with
  | sealPins account campaignId evidence now =>
    obtain ⟨-, heq⟩ | ⟨old, written, hold, hopen, hwritten, -, -, rfl⟩ := sealCampaignPins_eq_ok h
    · rw [heq]
      exact .inl ⟨rfl, fun _ => rfl⟩
    · refine .inr ⟨_, _, rfl, fun _ => rfl, fun _ => hwritten, fun old' hold' => .inl ?_⟩
      obtain rfl := Option.some.inj (hold.symm.trans hold')
      exact hopen
  | write id change =>
    cases h
    refine .inr ⟨_, _, rfl, fun _ => rfl, fun hs evidence hevidence => ?_, fun old hold => .inr ?_⟩
    · obtain ⟨old, hold, hpins⟩ := Option.bind_eq_some_iff.mp hevidence
      rw [hold]
      exact hs id old hold evidence hpins
    · rw [hold]
      exact ⟨rfl, rfl⟩

/-- **Such a write** keeps the store lawful and all seals. -/
theorem PinStore.Lawful.write (hs : s.Lawful) (hwritten : written.Lawful)
    (hkeeps : ∀ old, s campaignId = some old → written.Keeps old) :
    (s.write campaignId written).Lawful ∧ s.Later (s.write campaignId written) := by
  unfold PinStore.write
  constructor
  · intro id campaign hcampaign
    by_cases hid : id = campaignId
    · rw [hid, Function.update_self, Option.some.injEq] at hcampaign
      exact hcampaign ▸ hwritten
    · rw [Function.update_of_ne hid] at hcampaign
      exact hs id campaign hcampaign
  · rintro id evidence sealedAt ⟨old, hold, hpins, hdate⟩
    by_cases hid : id = campaignId
    · subst hid
      rcases hkeeps old hold with hopen | ⟨hsame, hsameDate⟩
      · rw [hopen] at hpins
        cases hpins
      · exact ⟨written, Function.update_self .., hsame.trans hpins, hsameDate.trans hdate⟩
    · exact ⟨old, by rw [Function.update_of_ne hid, hold], hpins, hdate⟩

/-- **A committed seal is there**, on whatever later store it was committed. -/
theorem seal_commit (hlater : s.Later s') (h : s.sealCampaignPins account campaignId evidence now = .ok d) :
    PinStore.IsSealed (d.apply s') campaignId evidence d.answer := by
  obtain ⟨hsealed, heq⟩ | ⟨_, written, -, -, -, hpins, hdate, rfl⟩ := sealCampaignPins_eq_ok h
  · rw [heq]
    exact hlater _ _ _ hsealed
  · exact ⟨written, Function.update_self .., hpins, hdate⟩

/-- **What is loaded is what is shown**, and loading it never fails. -/
theorem PinStore.Lawful.load (hs : s.Lawful) (hscope : validatePinScope account campaignId = .ok ()) :
    s.loadCampaignPins account campaignId = .ok (s.shown account campaignId) := by
  unfold PinStore.loadCampaignPins PinStore.shown
  rw [hscope, ok_bind]
  cases hactive : s.findActive account campaignId with
  | none => rfl
  | some campaign =>
    obtain ⟨hcampaign, rfl⟩ := findActive_eq_some hactive
    cases hpins : campaign.campaignPins with
    | none => simp [hpins]
    | some evidence =>
      obtain ⟨hdated, hevidence⟩ := hs _ _ hcampaign _ hpins
      obtain ⟨sealedAt, hdate⟩ := Option.isSome_iff_exists.mp hdated
      simp [hpins, hevidence, hdate]

end Steps

theorem pins_isolated : Isolated PinJob.body (fun k s s' => s k = s' k) (fun _ => True) PinStore.Lawful
    PinStore.Later where
  agree_refl _ _ := rfl
  agree_trans _ _ _ _ := Eq.trans
  framed := by
    intro job s d h k hk s'
    obtain ⟨-, happly⟩ | ⟨id, written, hwrites, happly, -⟩ := PinJob.body_eq_ok h
    · rw [happly]
    · rw [hwrites] at hk
      rw [happly]
      exact (Function.update_of_ne (List.ne_of_not_mem_cons hk) _ _).symm
  later_refl _ _ _ _ := fun h => h
  later_trans h h' _ _ _ := fun hsealed => h' _ _ _ (h _ _ _ hsealed)
  commit := by
    intro job s s' d hs hs' _ _ h hagree
    obtain ⟨-, happly⟩ | ⟨id, written, hwrites, happly, hwritten, hkeeps⟩ := PinJob.body_eq_ok h
    · rw [happly]
      exact ⟨hs', fun _ _ _ h => h⟩
    · -- The campaign was not written since the snapshot.
      rw [happly]
      rw [hagree id (hwrites ▸ List.mem_singleton_self id)] at hkeeps
      exact hs'.write (hwritten hs) hkeeps

/-- **A campaign is sealed once**, however calls and other writes interleave: every seal that was committed came with
    the evidence that is stored now and answered with the date that is stored now, so no two of them differ. A load
    never fails on what is stored, and shows it. -/
theorem campaigns_sealed_once {events : List (Event PinJob PinStore)} {db : Store.Database PinStore String PinJob}
    (hrun : Run (Store.Database.Step PinJob.body) (Store.Database.quiet fun _ => none) events db) :
    (∀ c ∈ commitsOf events, ∀ account campaignId evidence now d, c.job = .sealPins account campaignId evidence now →
      c.job.body c.snapshot = .ok d → db.store.IsSealed campaignId evidence d.answer) ∧
    ∀ account campaignId, validatePinScope account campaignId = .ok () →
      db.store.loadCampaignPins account campaignId = .ok (db.store.shown account campaignId) := by
  have hempty : Sound (fun k s s' => s k = s' k) PinStore.Lawful PinStore.Later
      (Store.Database.quiet fun _ => none : Store.Database PinStore String PinJob) :=
    sound_quiet fun _ _ h => by cases h
  have hadmits : Admitted (fun _ => True) events := fun _ _ => trivial
  refine ⟨?calls, fun _ _ => PinStore.Lawful.load (pins_isolated.sound hrun hadmits hempty).1.store⟩
  have hhistory := pins_isolated.history (J := fun past s => ∀ c ∈ past, ∀ account campaignId evidence now d,
    c.job = .sealPins account campaignId evidence now → c.job.body c.snapshot = .ok d →
      PinStore.IsSealed s campaignId evidence d.answer) ?step hrun hadmits hempty (List.forall_mem_nil _)
  · exact hhistory
  · intro past job s s' d hs hs' hlater _ hbody hagree hpast c hc account campaignId evidence now d' hjob hd'
    rcases List.mem_append.mp hc with hold | hlast
    · exact (pins_isolated.commit hs hs' hlater trivial hbody hagree).2 _ _ _ (hpast c hold _ _ _ _ _ hjob hd')
    · obtain rfl := List.mem_singleton.mp hlast
      obtain rfl : job = .sealPins account campaignId evidence now := hjob
      obtain rfl := Except.ok.inj (hbody.symm.trans hd')
      exact seal_commit hlater hbody

/-! ### A run -/

def themeEvidence : SealedCampaignPins where
  sealReason := .selectedTheme
  pins := ⟨campaignPinsSchemaVersion, .mvp .rainboundBorough,
    ⟨campaignPromptTemplateId, ⟨"prompt"⟩, campaignPromptPolicyId⟩, .current, ⟨"catalog"⟩⟩
  legacySource := none

/-- One campaign, created and sealed twice by its owner. -/
def sealedTwice : List PinJob :=
  [.write "campaign:one" fun _ => ⟨⟨"campaign:one", "account:one", [], "open", 1,
      ⟨1, "campaign:one", "srd-5.1", "Canals", .active, [], 0, 0, 0⟩⟩, 1, none, none⟩,
    .sealPins "account:one" "campaign:one" themeEvidence 1000,
    .sealPins "account:one" "campaign:one" themeEvidence 2000]

theorem campaigns_sealed_once_sealedTwice : ∃ events db, Run (Store.Database.Step PinJob.body)
    (Store.Database.quiet fun _ => none) events db ∧
    db.store.loadCampaignPins "account:one" "campaign:one" = .ok (some ⟨"campaign:one", themeEvidence, 1000⟩) := by
  have hcomputed : (inTurn PinJob.body sealedTwice fun _ => none).map (fun s => decide
      (s.shown "account:one" "campaign:one" = some ⟨"campaign:one", themeEvidence, 1000⟩)) = some true := by
    decide +kernel
  obtain ⟨t, hscript, hshown⟩ := Option.map_eq_some_iff.mp hcomputed
  obtain ⟨events, db, -, rfl, hrun, -⟩ := (idle_quiet fun _ => none).inTurn hscript
  refine ⟨events, db, hrun, ?_⟩
  rw [(campaigns_sealed_once hrun).2 _ _ (by decide +kernel), of_decide_eq_true hshown]

end ManchesterArcana.Repository
