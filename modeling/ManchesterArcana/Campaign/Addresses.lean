import ManchesterArcana.Campaign.Membership
import ManchesterArcana.Core.Casing
import ManchesterArcana.Core.Identifier

/-!
# `Campaign.Addresses` — the address invited and the address of an account

An invitation is for an address as the game master spells it, of which only a digest is kept; it is accepted under the
address of an account, which is normalized by `EmailCrypto.normalize`. Both trim the spelling and write it in lower
case, but the invitation only its ASCII capitals. So an invitation reaches the account of its address just when the
spelling has no other capitals (`invitation_reaches_iff`): `É@x.fr` invites nobody (`capitalAccent_reaches_nobody`).
-/

namespace ManchesterArcana.Membership

open Effect CaseTables

/-- `str::trim`. -/
def trimText (value : String) : String :=
  String.ofList ((value.toList.dropWhile isWhiteSpace).rdropWhile isWhiteSpace)

/-- `value.chars().any(char::is_whitespace)`. -/
def hasWhiteSpace (value : String) : Bool := value.toList.any isWhiteSpace

def maxEmailLen : Nat := 320

/-! ## Accounts -/

inductive EmailCryptoError where
  | invalidEmail | invalidEncryptionKey | invalidLookupKey | invalidKeyId | encryption | decryption
  | invalidCiphertext | randomness
  deriving DecidableEq

/-- `EmailCrypto::normalize`. -/
def normalizeEmail (t : CaseTables) (raw : String) : Except EmailCryptoError String := do
  let normalized := t.toLowercase (trimText raw)
  rejectIf (¬ ((3 ≤ normalized.utf8ByteSize ∧ normalized.utf8ByteSize ≤ 320) ∧ hasWhiteSpace normalized = false ∧
    normalized.toList.count '@' = 1 ∧ ∀ part ∈ normalized.toList.splitOn '@', part ≠ [])) .invalidEmail
  return normalized

/-- The address of an account: some spelling of it was normalized when the account was made. -/
def AccountAddress (t : CaseTables) (address : String) : Prop := ∃ raw, normalizeEmail t raw = .ok address

/-! ## Invitations -/

def validateEmail (email : String) : Except MembershipError Unit :=
  let normalized := asciiLowercase (trimText email)
  rejectIf (normalized = "" ∨ maxEmailLen < normalized.utf8ByteSize ∨ '@' ∉ normalized.toList ∨
    hasWhiteSpace normalized = true) (.invalid "campaign_invitation" email "invitee email is invalid")

/-- What is hashed of an address invited to a campaign. -/
def invitationEmailInput (campaignId email : String) : String :=
  "campaign-invitation-email/v1\x00" ++ campaignId ++ "\x00" ++ asciiLowercase (trimText email)

/-- The hash is that of the input's bytes, in hexadecimal digits. -/
def invitationEmailDigest (sha256 : String → String) (campaignId email : String) : String :=
  "sha256:" ++ sha256 (invitationEmailInput campaignId email)

variable (sha256 : String → String)

def inviteByEmail (invitationId gmAccountId campaignId inviteeEmail : String) (expiresAt now : Int)
    (s : CampaignStore) : Except MembershipError MembershipDecision := do
  validateEmail inviteeEmail
  createCampaignInvitation invitationId gmAccountId campaignId (invitationEmailDigest sha256 campaignId inviteeEmail)
    expiresAt now s

def acceptByEmail (accountId invitationId inviteeEmail : String) (claimed now : Int) (s : CampaignStore) :
    Except MembershipError MembershipDecision := do
  validateEmail inviteeEmail
  acceptCampaignInvitation accountId invitationId (invitationEmailDigest sha256 · inviteeEmail) claimed now s

/-! ## Addresses in their normal form -/

variable {t : CaseTables} {sha256} {address spelling campaignId : String}

theorem normalizeEmail_eq_ok {raw : String} :
    normalizeEmail t raw = .ok address ↔
      address = t.toLowercase (trimText raw) ∧ (3 ≤ address.utf8ByteSize ∧ address.utf8ByteSize ≤ 320) ∧
        hasWhiteSpace address = false ∧ address.toList.count '@' = 1 ∧
        ∀ part ∈ address.toList.splitOn '@', part ≠ [] := by
  simp only [normalizeEmail, seq_eq_ok, rejectIf_eq_ok, not_not, pure_eq, Except.ok.injEq]
  constructor
  · rintro ⟨hvalid, rfl⟩
    exact ⟨rfl, hvalid⟩
  · rintro ⟨rfl, hvalid⟩
    exact ⟨hvalid, rfl⟩

theorem trimText_of_none {value : String} (h : hasWhiteSpace value = false) : trimText value = value := by
  have hnone : ∀ c ∈ value.toList, isWhiteSpace c = false := by
    simpa [hasWhiteSpace, List.any_eq_false] using h
  have hdrop : value.toList.dropWhile isWhiteSpace = value.toList := by
    cases hv : value.toList with
    | nil => rfl
    | cons c cs =>
      rw [List.dropWhile_cons_of_neg]
      rw [hnone c (hv ▸ List.mem_cons_self)]
      exact Bool.false_ne_true
  have hrdrop : value.toList.rdropWhile isWhiteSpace = value.toList := by
    rw [List.rdropWhile_eq_self_iff]
    intro hne
    rw [hnone _ (List.getLast_mem hne)]
    exact Bool.false_ne_true
  rw [trimText, hdrop, hrdrop, String.ofList_toList]

/-- An address in normal form is trimmed and in lower case, by either measure. -/
theorem AccountAddress.normal (h : AccountAddress t address) :
    trimText address = address ∧ t.toLowercase address = address ∧ asciiLowercase address = address := by
  obtain ⟨raw, hraw⟩ := h
  obtain ⟨hlower, -, hspace, -⟩ := normalizeEmail_eq_ok.mp hraw
  have hstable : t.toLowercase address = address := by
    rw [hlower, toLowercase_toLowercase]
  refine ⟨trimText_of_none hspace, hstable, (asciiLowercase_eq_toLowercase.mpr fun c hc _ => ?_).trans hstable⟩
  rw [hlower, toLowercase, String.toList_ofList] at hc
  exact lowerFrom_lowered c hc

theorem AccountAddress.validateEmail_eq_ok (h : AccountAddress t address) : validateEmail address = .ok () := by
  obtain ⟨htrim, -, hascii⟩ := h.normal
  obtain ⟨raw, hraw⟩ := h
  obtain ⟨-, ⟨hlong, hshort⟩, hspace, hat, -⟩ := normalizeEmail_eq_ok.mp hraw
  unfold validateEmail
  rw [htrim, hascii, rejectIf_eq_ok]
  rintro (rfl | hlength | hno | hspace')
  · exact absurd hlong (by decide)
  · exact absurd hshort (not_le.mpr hlength)
  · rw [List.count_eq_zero_of_not_mem hno] at hat
    cases hat
  · rw [hspace] at hspace'
    cases hspace'

/-- What is hashed of a spelling is what is hashed of an account's address, if its ASCII lower case is that address. -/
theorem invitationEmailInput_eq_iff (ha : AccountAddress t address) :
    invitationEmailInput campaignId spelling = invitationEmailInput campaignId address ↔
      asciiLowercase (trimText spelling) = address := by
  obtain ⟨htrim, -, hascii⟩ := ha.normal
  unfold invitationEmailInput
  rw [htrim, hascii]
  exact String.append_right_inj _

/-- The same, for a spelling that names an account's address: lower case has nothing to do beyond ASCII. -/
theorem invitationEmailInput_eq_iff_of_named (hs : normalizeEmail t spelling = .ok address) :
    invitationEmailInput campaignId spelling = invitationEmailInput campaignId address ↔
      ∀ c ∈ (trimText spelling).toList, 128 ≤ c.toNat → t.lower c = [c] := by
  rw [invitationEmailInput_eq_iff ⟨spelling, hs⟩, (normalizeEmail_eq_ok.mp hs).1]
  exact asciiLowercase_eq_toLowercase

/-- **Only the address named**: what is hashed of another account's is another text. -/
theorem invitationEmailInput_names (ha : AccountAddress t address)
    (h : invitationEmailInput campaignId spelling = invitationEmailInput campaignId address) :
    normalizeEmail t spelling = .ok address := by
  rw [invitationEmailInput_eq_iff ha] at h
  have hlower : address = t.toLowercase (trimText spelling) := by
    rw [← toLowercase_asciiLowercase, h]
    exact ha.normal.2.1.symm
  obtain ⟨raw, hraw⟩ := ha
  exact normalizeEmail_eq_ok.mpr ⟨hlower, (normalizeEmail_eq_ok.mp hraw).2⟩

/-! ## Acceptance -/

variable {accountId invitationId : String} {claimed now : Int} {s : CampaignStore} {i : CampaignInvitationDocument}

/-- An invitation for another address is not there. -/
theorem acceptByEmail_refused (ha : AccountAddress t address)
    (hfound : s.invitations.find? (fun i => i.id = invitationId ∧ i.state = .active ∧ claimed < i.expiresAt) = some i)
    (hdigest : i.inviteeEmailLookupHmac ≠ invitationEmailDigest sha256 i.campaignId address) :
    acceptByEmail sha256 accountId invitationId address claimed now s =
      .error (.notFound "campaign_invitation" invitationId) := by
  unfold acceptByEmail acceptCampaignInvitation
  rw [ha.validateEmail_eq_ok, hfound]
  show (rejectIf (i.inviteeEmailLookupHmac ≠ _) _ >>= fun _ => _) = _
  rw [rejectIf, if_pos hdigest]
  rfl

/-- **Invitations reach the account of their address**, whatever the spelling, and no other: unless the spelling names
    an account's address and has a character beyond ASCII that lower case changes. For those that are met, the digests
    agree for every campaign, and the account may accept as the spelling itself might; any other account is told that
    there is no such invitation. The hash is taken not to collide on what is hashed here. -/
theorem invitation_reaches_iff (t : CaseTables) (sha256 : String → String) (spelling : String)
    (hspelling : validateEmail spelling = .ok ())
    (hsha : ∀ campaignId address, AccountAddress t address →
      sha256 (invitationEmailInput campaignId spelling) = sha256 (invitationEmailInput campaignId address) →
        invitationEmailInput campaignId spelling = invitationEmailInput campaignId address) :
    (∀ address, AccountAddress t address →
      (normalizeEmail t spelling = .ok address → ∀ campaignId,
        invitationEmailDigest sha256 campaignId spelling = invitationEmailDigest sha256 campaignId address) ∧
      (∀ other, normalizeEmail t spelling = .ok other → other ≠ address → ∀ campaignId,
        invitationEmailInput campaignId spelling ≠ invitationEmailInput campaignId address) ∧
      ∀ accountId invitationId claimed now (s : CampaignStore) i,
        s.invitations.find? (fun i => i.id = invitationId ∧ i.state = .active ∧ claimed < i.expiresAt) = some i →
        i.inviteeEmailLookupHmac = invitationEmailDigest sha256 i.campaignId spelling →
          (normalizeEmail t spelling = .ok address →
            acceptByEmail sha256 accountId invitationId address claimed now s =
              acceptByEmail sha256 accountId invitationId spelling claimed now s) ∧
          (normalizeEmail t spelling ≠ .ok address →
            acceptByEmail sha256 accountId invitationId address claimed now s =
              .error (.notFound "campaign_invitation" invitationId))) ↔
      ((∃ address, normalizeEmail t spelling = .ok address) →
        ∀ c ∈ (trimText spelling).toList, 128 ≤ c.toNat → t.lower c = [c]) := by
  have hinput (campaignId : String) {address : String} (ha : AccountAddress t address)
      (h : invitationEmailDigest sha256 campaignId spelling = invitationEmailDigest sha256 campaignId address) :
      invitationEmailInput campaignId spelling = invitationEmailInput campaignId address :=
    hsha campaignId address ha ((String.append_right_inj _).mp h)
  constructor
  · rintro hreaches ⟨address, hnamed⟩
    have hdigest := (hreaches address ⟨spelling, hnamed⟩).1 hnamed ""
    exact (invitationEmailInput_eq_iff_of_named hnamed).mp (hinput "" ⟨spelling, hnamed⟩ hdigest)
  · intro hplain address ha
    have hdigest (hnamed : normalizeEmail t spelling = .ok address) (campaignId : String) :
        invitationEmailDigest sha256 campaignId spelling = invitationEmailDigest sha256 campaignId address :=
      congrArg ("sha256:" ++ sha256 ·)
        ((invitationEmailInput_eq_iff_of_named hnamed).mpr (hplain ⟨address, hnamed⟩))
    refine ⟨hdigest, fun other hother hne campaignId heq => ?_,
      fun accountId invitationId claimed now s i hfound hi => ⟨fun hnamed => ?_, fun hnamed => ?_⟩⟩
    · exact hne (Except.ok.inj (hother.symm.trans (invitationEmailInput_names ha heq)))
    · unfold acceptByEmail
      rw [ha.validateEmail_eq_ok, hspelling, funext (hdigest hnamed)]
    · refine acceptByEmail_refused ha hfound fun heq => hnamed ?_
      exact invitationEmailInput_names ha (hinput i.campaignId ha (hi.symm.trans heq))

/-- A part of the tables: ASCII, a French and a Greek letter. -/
def latinTables : CaseTables where
  lower c := if c = 'É' then ['é'] else if c = 'Σ' then ['σ'] else [c.toLower]
  cased c := c.isAlpha || c = 'É' || c = 'é' || c = 'Σ' || c = 'σ' || c = 'ς'
  caseIgnorable c := c = '.' || c = ':' || c = '^'
  lower_ascii c h := by
    rw [if_neg, if_neg]
    · rintro rfl
      exact absurd h (by decide)
    · rintro rfl
      exact absurd h (by decide)
  lower_ne_nil c := by
    split
    · exact List.cons_ne_nil _ _
    · split <;> exact List.cons_ne_nil _ _
  lower_stable c d hd := by
    split at hd
    · rw [List.mem_singleton.mp hd]
      rfl
    · split at hd
      · rw [List.mem_singleton.mp hd]
        rfl
      · rename_i haccent hsigma
        rw [List.mem_singleton.mp hd, if_neg (mt (toLower_eq_iff rfl).mp haccent),
          if_neg (mt (toLower_eq_iff rfl).mp hsigma), Char.toLower_toLower_eq_toLower]
  lower_capitalSigma := rfl
  lower_finalSigma := rfl
  letter_cased c h := by
    refine ⟨by simp [h], ?_⟩
    simp only [Bool.or_eq_false_iff, decide_eq_false_iff_not]
    refine ⟨⟨?_, ?_⟩, ?_⟩ <;> rintro rfl <;> cases h

/-- A game master who writes in capitals reaches the player. -/
theorem capitals_reach_player :
    invitationEmailDigest id "campaign-1" "P@X.FR" = invitationEmailDigest id "campaign-1" "p@x.fr" := by
  have hnamed : normalizeEmail latinTables "P@X.FR" = .ok "p@x.fr" := by decide +kernel
  have hascii : (trimText "P@X.FR").toList.all (fun c => decide (c.toNat < 128)) = true := by decide +kernel
  exact ((invitation_reaches_iff latinTables id "P@X.FR" (by decide +kernel) fun _ _ _ h => h).mpr
    (fun _ c hc hbeyond => absurd (of_decide_eq_true (List.all_eq_true.mp hascii c hc)) (not_lt.mpr hbeyond))
    "p@x.fr" ⟨_, hnamed⟩).1 hnamed "campaign-1"

/-- A campaign of one game master. -/
def gmCampaigns : CampaignStore where
  campaigns := [⟨"campaign-1", 1, 1, "account-1", "title", "theme", .active,
    [⟨"account-1", .gameMaster, .active, none, 0, none, 0, 0⟩], none⟩]
  invitations := []
  instances := []
  playerCharacters := []

/-- An invitation to `É@x.fr`: the spelling is let through and names the account `é@x.fr`, but the digests differ, and
    that account is told that there is no such invitation. -/
theorem capitalAccent_reaches_nobody :
    normalizeEmail latinTables "É@x.fr" = .ok "é@x.fr" ∧
      invitationEmailDigest id "campaign-1" "É@x.fr" ≠ invitationEmailDigest id "campaign-1" "é@x.fr" ∧
      ∃ d, inviteByEmail id "invitation-1" "account-1" "campaign-1" "É@x.fr" 100 2 gmCampaigns = .ok d ∧
        acceptByEmail id "account-2" "invitation-1" "é@x.fr" 3 3 (d.apply gmCampaigns) =
          .error (.notFound "campaign_invitation" "invitation-1") := by
  have hnamed : normalizeEmail latinTables "É@x.fr" = .ok "é@x.fr" := by decide +kernel
  have hdigest :
      invitationEmailDigest id "campaign-1" "É@x.fr" ≠ invitationEmailDigest id "campaign-1" "é@x.fr" := by
    decide +kernel
  exact ⟨hnamed, hdigest, _, rfl, acceptByEmail_refused ⟨_, hnamed⟩ rfl hdigest⟩

end ManchesterArcana.Membership
