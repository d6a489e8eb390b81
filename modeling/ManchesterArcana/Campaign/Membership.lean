import ManchesterArcana.Effect.Guard
import ManchesterArcana.Store.Snapshot
import ManchesterArcana.Store.Update

/-!
# `Campaign.Membership` — members, invitations and assigned characters of a campaign

A campaign document carries its members. Invitations and character instances are documents of their own, that
name the campaign. Every operation is one transaction, given as what it decides on its snapshot (`transact`);
some only read the campaign that they depend on.

Identifiers are taken to be well formed, as each operation checks first. Of a change of lifecycle, the part that
concerns the campaign document is here: the receipts and the open runtime that it looks for make it refuse, or
repeat an earlier answer.
-/

namespace ManchesterArcana.Membership

open Effect Store

/-! ## Documents -/

def maxCampaignMembers : Nat := 16

/-- Seven days, in milliseconds. -/
def invitationTtl : Int := 7 * 24 * 60 * 60 * 1000

inductive MembershipRole where
  | gameMaster
  | player
  deriving DecidableEq, Repr

inductive MembershipState where
  | invited
  | active
  | left
  | removed
  deriving DecidableEq, Repr

structure CampaignMemberDocument where
  accountId : String
  role : MembershipRole
  state : MembershipState
  inviterAccountId : Option String
  joinedAt : Int
  leftAt : Option Int
  createdAt : Int
  updatedAt : Int
  deriving DecidableEq, Repr

inductive CampaignLifecycleState where
  | active
  | archived
  deriving DecidableEq, Repr

structure CampaignDocument where
  id : String
  revision : Nat
  lifecycleRevision : Nat
  ownerAccountId : String
  titleNormalized : String
  themeId : String
  lifecycle : CampaignLifecycleState
  members : List CampaignMemberDocument
  currentPlaySessionId : Option String
  deriving DecidableEq, Repr

inductive InvitationState where
  | active
  | expired
  | revoked
  | accepted
  deriving DecidableEq, Repr

structure CampaignInvitationDocument where
  id : String
  campaignId : String
  inviterAccountId : String
  inviteeEmailLookupHmac : String
  state : InvitationState
  expiresAt : Int
  acceptedAccountId : Option String
  acceptedAt : Option Int
  revokedAt : Option Int
  deriving DecidableEq, Repr

inductive CharacterInstanceState where
  | active
  | retired
  deriving DecidableEq, Repr

structure CampaignCharacterInstanceDocument where
  id : String
  revision : Nat
  campaignId : String
  accountId : String
  sourcePlayerCharacterId : String
  runtimeHeroCharacterId : String
  state : CharacterInstanceState
  retiredAt : Option Int
  deriving DecidableEq, Repr

structure PlayerCharacterDocument where
  id : String
  ownerAccountId : String
  revision : Nat
  deriving DecidableEq, Repr

structure CampaignStore where
  campaigns : List CampaignDocument
  invitations : List CampaignInvitationDocument
  instances : List CampaignCharacterInstanceDocument
  playerCharacters : List PlayerCharacterDocument

/-- No campaigns yet. -/
def CampaignStore.new (characters : List PlayerCharacterDocument) : CampaignStore := ⟨[], [], [], characters⟩

inductive CampaignCollection where
  | campaigns
  | invitations
  | instances
  deriving DecidableEq, Repr

/-- The unique indexes. -/
inductive CampaignIndex where
  | ownerTitle
  | activeInvitationEmail
  | activeInstanceAccount
  deriving DecidableEq, Repr

inductive CampaignKey where
  | document (collection : CampaignCollection) (id : String)
  | index (name : CampaignIndex) (values : List String)
  deriving DecidableEq, Repr

/-- The store has the same documents of an id. -/
def CampaignStore.agree : CampaignKey → CampaignStore → CampaignStore → Prop
  | .document .campaigns id, s, s' => ∀ x, x.id = id → (x ∈ s.campaigns ↔ x ∈ s'.campaigns)
  | .document .invitations id, s, s' => ∀ x, x.id = id → (x ∈ s.invitations ↔ x ∈ s'.invitations)
  | .document .instances id, s, s' => ∀ x, x.id = id → (x ∈ s.instances ↔ x ∈ s'.instances)
  | .index _ _, _, _ => True

/-! ## Requests -/

inductive MembershipError where
  | notFound (entity id : String)
  | alreadyExists (entity id : String)
  | duplicateKey (operation : String)
  | revisionConflict (entity id : String) (expected actual : Nat)
  | invalid (entity id reason : String)
  deriving DecidableEq, Repr

/-- An operation, with the ids that it has drawn and the clock that it reads. -/
inductive MembershipJob where
  | createCampaignWithOwner (campaignId accountId titleNormalized themeId : String) (now : Int)
  | createCampaignInvitation (invitationId gmAccountId campaignId emailDigest : String) (expiresAt now : Int)
  | revokeCampaignInvitation (gmAccountId invitationId : String) (now : Int)
  /-- The digest of the invitee's address is one for each campaign. The caller's time comes first. -/
  | acceptCampaignInvitation (accountId invitationId : String) (emailDigest : String → String) (claimed now : Int)
  | removeCampaignMember (gmAccountId campaignId memberAccountId : String) (now : Int)
  | assignCharacterToCampaign (instanceId runtimeHeroId accountId campaignId characterId themeId : String)
      (sourceRevision : Nat)
  | changeCampaignLifecycle (ownerKey campaignId : String) (expectedLifecycleRevision : Nat)
      (required target : CampaignLifecycleState) (replayed openRuntime : Bool)

abbrev MembershipDecision := Decision CampaignStore CampaignKey Unit

/-! ## The campaign -/

namespace CampaignDocument

def hasActiveMember (c : CampaignDocument) (accountId : String) : Bool :=
  c.members.any fun m => m.accountId = accountId ∧ m.state = .active

def hasActiveGameMaster (c : CampaignDocument) (accountId : String) : Bool :=
  c.members.any fun m => m.accountId = accountId ∧ m.role = .gameMaster ∧ m.state = .active

/-- Owned by the account, as its active game master. -/
def ownedBy (c : CampaignDocument) (accountId : String) : Bool :=
  c.ownerAccountId = accountId ∧ c.hasActiveGameMaster accountId

end CampaignDocument

def createCampaignWithOwner (campaignId accountId titleNormalized themeId : String) (now : Int) (s : CampaignStore) :
    Except MembershipError MembershipDecision := do
  rejectIf (∃ c ∈ s.campaigns, c.id = campaignId ∨
      (c.ownerAccountId = accountId ∧ c.titleNormalized = titleNormalized)) (.duplicateKey "create owned campaign")
  let campaign : CampaignDocument :=
    { id := campaignId, revision := 1, lifecycleRevision := 1, ownerAccountId := accountId, titleNormalized, themeId
      lifecycle := .active
      members := [⟨accountId, .gameMaster, .active, some accountId, now, none, now, now⟩]
      currentPlaySessionId := none }
  return {
    writes := [.document .campaigns campaignId, .index .ownerTitle [accountId, titleNormalized]]
    apply := fun s => { s with campaigns := s.campaigns ++ [campaign] }
    answer := () }

/-- What a change of lifecycle does to the campaign document. -/
def changeCampaignLifecycle (ownerKey campaignId : String) (expectedLifecycleRevision : Nat)
    (required target : CampaignLifecycleState) (replayed openRuntime : Bool) (s : CampaignStore) :
    Except MembershipError MembershipDecision := do
  if replayed then return { writes := [], apply := id, answer := () }
  let campaign ← okOr (s.campaigns.find? fun c => c.id = campaignId ∧ c.ownedBy ownerKey)
    (.notFound "campaign" campaignId)
  rejectIf (campaign.lifecycleRevision ≠ expectedLifecycleRevision)
    (.revisionConflict "campaign_lifecycle" campaignId expectedLifecycleRevision campaign.lifecycleRevision)
  rejectIf (campaign.lifecycle ≠ required ∨ campaign.currentPlaySessionId.isSome)
    (.alreadyExists "campaign_lifecycle" campaign.id)
  rejectIf (openRuntime = true) (.alreadyExists "campaign_runtime" campaign.id)
  return {
    writes := [.document .campaigns campaign.id]
    apply := fun s => { s with
      campaigns := updateById (·.id) campaign.id
        (fun c => { c with lifecycle := target, lifecycleRevision := c.lifecycleRevision + 1 }) s.campaigns }
    answer := () }

/-! ## Invitations -/

def createCampaignInvitation (invitationId gmAccountId campaignId emailDigest : String) (expiresAt now : Int)
    (s : CampaignStore) : Except MembershipError MembershipDecision := do
  rejectIf (expiresAt ≤ now ∨ now + invitationTtl < expiresAt) (.invalid "campaign_invitation" campaignId
    "invitation expiry must be in the future and within the configured TTL")
  rejectIf (¬ ∃ c ∈ s.campaigns, c.id = campaignId ∧ c.ownedBy gmAccountId ∧ c.lifecycle = .active)
    (.notFound "campaign_membership" campaignId)
  let stale (i : CampaignInvitationDocument) : Bool :=
    i.campaignId = campaignId ∧ i.inviteeEmailLookupHmac = emailDigest ∧ i.state = .active ∧ i.expiresAt ≤ now
  rejectIf (∃ i ∈ s.invitations, i.id = invitationId ∨ (i.campaignId = campaignId ∧
      i.inviteeEmailLookupHmac = emailDigest ∧ i.state = .active ∧ stale i = false))
    (.duplicateKey "create campaign invitation")
  let expired := (s.invitations.filter stale).map (·.id)
  let invitation : CampaignInvitationDocument :=
    { id := invitationId, campaignId, inviterAccountId := gmAccountId, inviteeEmailLookupHmac := emailDigest
      state := .active, expiresAt, acceptedAccountId := none, acceptedAt := none, revokedAt := none }
  return {
    writes := [.document .invitations invitationId, .index .activeInvitationEmail [campaignId, emailDigest]] ++
      expired.map (.document .invitations)
    apply := fun s => { s with
      invitations := updateWhere (fun i => expired.contains i.id) (fun i => { i with state := .expired })
        s.invitations ++ [invitation] }
    answer := () }

def revokeCampaignInvitation (gmAccountId invitationId : String) (now : Int) (s : CampaignStore) :
    Except MembershipError MembershipDecision := do
  let invitation ← okOr (s.invitations.find? fun i => i.id = invitationId ∧ i.state = .active)
    (.notFound "campaign_invitation" invitationId)
  rejectIf (¬ ∃ c ∈ s.campaigns, c.id = invitation.campaignId ∧ c.ownedBy gmAccountId)
    (.notFound "campaign_invitation" invitationId)
  return {
    writes := [.document .invitations invitationId,
      .index .activeInvitationEmail [invitation.campaignId, invitation.inviteeEmailLookupHmac]]
    apply := fun s => { s with
      invitations := updateById (·.id) invitationId (fun i => { i with state := .revoked, revokedAt := some now })
        s.invitations }
    answer := () }

/-- The members once an account has accepted: its membership is taken up again, or a new one is added while
    there is room. -/
def admitMember (c : CampaignDocument) (accountId inviterAccountId : String) (now : Int) :
    Except MembershipError (List CampaignMemberDocument) :=
  match c.members.find? fun m => m.accountId = accountId with
  | some member =>
    if member.state = .active then .error (.alreadyExists "campaign_membership" c.id)
    else .ok (updateFirst (fun m => m.accountId = accountId) (fun m => { m with
      role := .player, state := .active, inviterAccountId := some inviterAccountId, joinedAt := now, leftAt := none,
      updatedAt := now }) c.members)
  | none =>
    if maxCampaignMembers ≤ c.members.length then .error (.alreadyExists "campaign_membership_capacity" c.id)
    else .ok (c.members ++ [⟨accountId, .player, .active, some inviterAccountId, now, none, now, now⟩])

def acceptCampaignInvitation (accountId invitationId : String) (emailDigest : String → String) (claimed now : Int)
    (s : CampaignStore) : Except MembershipError MembershipDecision := do
  let invitation ← okOr (s.invitations.find? fun i => i.id = invitationId ∧ i.state = .active ∧ claimed < i.expiresAt)
    (.notFound "campaign_invitation" invitationId)
  rejectIf (invitation.inviteeEmailLookupHmac ≠ emailDigest invitation.campaignId)
    (.notFound "campaign_invitation" invitationId)
  let campaign ← okOr (s.campaigns.find? fun c => c.id = invitation.campaignId ∧
    c.ownedBy invitation.inviterAccountId ∧ c.lifecycle = .active) (.notFound "campaign_invitation" invitation.id)
  let members ← admitMember campaign accountId invitation.inviterAccountId now
  -- The invitation is consumed under its filter once more, at the transaction's own reading of the clock.
  rejectIf (invitation.expiresAt ≤ now) (.notFound "campaign_invitation" invitation.id)
  return {
    writes := [.document .campaigns campaign.id, .document .invitations invitation.id,
      .index .activeInvitationEmail [invitation.campaignId, invitation.inviteeEmailLookupHmac]]
    apply := fun s => { s with
      campaigns := updateById (·.id) campaign.id (fun c => { c with members, revision := c.revision + 1 }) s.campaigns
      invitations := updateById (·.id) invitation.id (fun i => { i with
        state := .accepted, acceptedAccountId := some accountId, acceptedAt := some now }) s.invitations }
    answer := () }

/-! ## Members and their characters -/

/-- An active instance of the account in the campaign. -/
def CampaignCharacterInstanceDocument.activeOf (campaignId accountId : String)
    (x : CampaignCharacterInstanceDocument) : Bool :=
  x.campaignId = campaignId ∧ x.accountId = accountId ∧ x.state = .active

def removeCampaignMember (gmAccountId campaignId memberAccountId : String) (now : Int) (s : CampaignStore) :
    Except MembershipError MembershipDecision := do
  rejectIf (gmAccountId = memberAccountId) (.invalid "campaign_membership" campaignId
    "a game master cannot remove their own ownership membership")
  let campaign ← okOr (s.campaigns.find? fun c => c.id = campaignId ∧ c.ownedBy gmAccountId)
    (.notFound "campaign_membership" campaignId)
  rejectIf (campaign.hasActiveMember memberAccountId = false) (.notFound "campaign_membership" memberAccountId)
  let members := updateFirst (fun m => m.accountId = memberAccountId ∧ m.state = .active)
    (fun m => { m with state := .removed, leftAt := some now, updatedAt := now }) campaign.members
  let retired := (s.instances.filter (·.activeOf campaignId memberAccountId)).map (·.id)
  return {
    writes := .document .campaigns campaign.id :: retired.flatMap fun id =>
      [.document .instances id, .index .activeInstanceAccount [campaignId, memberAccountId]]
    apply := fun s => { s with
      campaigns := updateById (·.id) campaign.id (fun c => { c with members, revision := c.revision + 1 }) s.campaigns
      instances := updateWhere (fun x => retired.contains x.id)
        (fun x => { x with state := .retired, retiredAt := some now, revision := x.revision + 1 }) s.instances }
    answer := () }

def assignCharacterToCampaign (instanceId runtimeHeroId accountId campaignId characterId themeId : String)
    (sourceRevision : Nat) (s : CampaignStore) : Except MembershipError MembershipDecision := do
  rejectIf (¬ ∃ c ∈ s.campaigns, c.id = campaignId ∧ c.lifecycle = .active ∧ c.themeId = themeId ∧
      c.hasActiveMember accountId) (.notFound "campaign_membership" campaignId)
  rejectIf (¬ ∃ p ∈ s.playerCharacters, p.id = characterId ∧ p.ownerAccountId = accountId ∧
      p.revision = sourceRevision) (.notFound "player_character" characterId)
  rejectIf (∃ x ∈ s.instances, x.id = instanceId ∨ x.activeOf campaignId accountId)
    (.duplicateKey "assign campaign character")
  let instance' : CampaignCharacterInstanceDocument :=
    { id := instanceId, revision := 1, campaignId, accountId, sourcePlayerCharacterId := characterId
      runtimeHeroCharacterId := runtimeHeroId, state := .active, retiredAt := none }
  return {
    writes := [.document .instances instanceId, .index .activeInstanceAccount [campaignId, accountId]]
    apply := fun s => { s with instances := s.instances ++ [instance'] }
    answer := () }

/-- What an operation decides on its snapshot. -/
def transact : MembershipJob → CampaignStore → Except MembershipError MembershipDecision
  | .createCampaignWithOwner campaignId accountId title themeId now =>
    createCampaignWithOwner campaignId accountId title themeId now
  | .createCampaignInvitation invitationId gm campaignId digest expiresAt now =>
    createCampaignInvitation invitationId gm campaignId digest expiresAt now
  | .revokeCampaignInvitation gm invitationId now => revokeCampaignInvitation gm invitationId now
  | .acceptCampaignInvitation accountId invitationId digest claimed now =>
    acceptCampaignInvitation accountId invitationId digest claimed now
  | .removeCampaignMember gm campaignId member now => removeCampaignMember gm campaignId member now
  | .assignCharacterToCampaign instanceId runtimeHeroId accountId campaignId characterId themeId revision =>
    assignCharacterToCampaign instanceId runtimeHeroId accountId campaignId characterId themeId revision
  | .changeCampaignLifecycle owner campaignId expected required target replayed openRuntime =>
    changeCampaignLifecycle owner campaignId expected required target replayed openRuntime

end ManchesterArcana.Membership
