import ManchesterArcana.Campaign.Membership

/-!
# `Campaign.MembershipLaws` — what holds of memberships in every run

The campaign document carries its members, so whatever changes them conflicts with whatever else does, and the
laws about members and invitations hold in every run. A character is assigned under a campaign that is only
read, though, and a removal retires the instances that it sees: the two can pass each other
(`removed_member_keeps_character`). `membership_laws` says which commits keep the characters with the members.
-/

namespace ManchesterArcana.Membership

open Effect Store
open List (inj_on_of_nodup_map mem_append mem_append_left mem_cons_self mem_singleton)

/-! ## Laws -/

/-- **The members of a campaign**: distinct, at most sixteen, with the owner as the one game master. -/
structure CampaignDocument.WellFormed (c : CampaignDocument) : Prop where
  distinct : (c.members.map (·.accountId)).Nodup
  atMost : c.members.length ≤ maxCampaignMembers
  owner : c.hasActiveGameMaster c.ownerAccountId = true
  onlyOwner : ∀ m ∈ c.members, m.role = .gameMaster → m.accountId = c.ownerAccountId

structure CampaignStore.WellFormed (s : CampaignStore) : Prop where
  campaignIds : (s.campaigns.map (·.id)).Nodup
  invitationIds : (s.invitations.map (·.id)).Nodup
  campaigns : ∀ c ∈ s.campaigns, c.WellFormed

/-- The account is an active member of the campaign. -/
def CampaignStore.ActiveMember (s : CampaignStore) (campaignId accountId : String) : Prop :=
  ∃ c ∈ s.campaigns, c.id = campaignId ∧ c.hasActiveMember accountId = true

/-- **Every assigned character is of a member.** -/
def CampaignStore.AssignedToMembers (s : CampaignStore) : Prop :=
  ∀ x ∈ s.instances, x.state = .active → s.ActiveMember x.campaignId x.accountId

abbrev InvitationSpent (id : String) (s : CampaignStore) : Prop :=
  Spent CampaignInvitationDocument.id (·.state = .active) id s.invitations

variable {s s' : CampaignStore} {d : MembershipDecision} {now : Int} {accountId invitationId gm campaignId : String}
  {campaign c : CampaignDocument}

theorem CampaignDocument.hasActiveMember_iff :
    c.hasActiveMember accountId = true ↔ ∃ m ∈ c.members, m.accountId = accountId ∧ m.state = .active := by
  simp [hasActiveMember]

theorem CampaignDocument.hasActiveGameMaster_iff :
    c.hasActiveGameMaster accountId = true ↔
      ∃ m ∈ c.members, m.accountId = accountId ∧ m.role = .gameMaster ∧ m.state = .active := by
  simp [hasActiveGameMaster]

/-! ## What each operation decides -/

/-- What becomes of the members when one accepts. -/
structure Admits (c : CampaignDocument) (accountId : String) (members : List CampaignMemberDocument) : Prop where
  absent : c.hasActiveMember accountId = false
  wellFormed : c.WellFormed → ({ c with members } : CampaignDocument).WellFormed
  active : ∀ account, ({ c with members } : CampaignDocument).hasActiveMember account = true ↔
    c.hasActiveMember account = true ∨ account = accountId

theorem admitMember_admits {inviter : String}
    {members : List CampaignMemberDocument} (hc : (c.members.map (·.accountId)).Nodup)
    (h : admitMember c accountId inviter now = .ok members) : Admits c accountId members := by
  unfold admitMember at h
  split at h
  · next member hfound =>
    split at h
    · cases h
    · next hinactive =>
      obtain rfl := Except.ok.inj h
      have hmember := List.mem_of_find?_eq_some hfound
      have hid : member.accountId = accountId := by simpa using List.find?_some hfound
      have habsent : c.hasActiveMember accountId = false := by
        rw [← Bool.not_eq_true, CampaignDocument.hasActiveMember_iff]
        rintro ⟨m, hm, hmid, hactive⟩
        obtain rfl := inj_on_of_nodup_map hc hm hmember (hmid.trans hid.symm)
        exact hinactive hactive
      refine ⟨habsent, fun hw => ?_, fun account => ?_⟩
      · constructor
        · show ((updateFirst _ _ c.members).map _).Nodup
          rw [map_updateFirst fun _ => by rfl]
          exact hc
        · show (updateFirst _ _ c.members).length ≤ _
          rw [← List.length_map (·.accountId), map_updateFirst (fun _ => by rfl), List.length_map]
          exact hw.atMost
        · obtain ⟨m, hm, hmid, hrole, hactive⟩ := CampaignDocument.hasActiveGameMaster_iff.mp hw.owner
          refine CampaignDocument.hasActiveGameMaster_iff.mpr ⟨m, mem_updateFirst_of_not hm ?_, hmid, hrole, hactive⟩
          -- The owner is active, so it is not the one who accepts.
          rw [decide_eq_false_iff_not]
          intro hsame
          obtain rfl := inj_on_of_nodup_map hc hm hmember (hsame.trans hid.symm)
          exact hinactive hactive
        · intro m hm hrole
          rcases mem_of_mem_updateFirst hm with ⟨x, -, -, rfl⟩ | hm
          · cases hrole
          · exact hw.onlyOwner m hm hrole
      · rw [CampaignDocument.hasActiveMember_iff, CampaignDocument.hasActiveMember_iff]
        constructor
        · rintro ⟨m, hm, hmid, hactive⟩
          rcases mem_of_mem_updateFirst hm with ⟨x, -, hx, rfl⟩ | hm
          · exact .inr (hmid.symm.trans (by simpa using hx))
          · exact .inl ⟨m, hm, hmid, hactive⟩
        · rintro (⟨m, hm, hmid, hactive⟩ | rfl)
          · refine ⟨m, mem_updateFirst_of_not hm ?_, hmid, hactive⟩
            rw [decide_eq_false_iff_not]
            intro hsame
            obtain rfl := inj_on_of_nodup_map hc hm hmember (hsame.trans hid.symm)
            exact hinactive hactive
          · obtain ⟨x, -, hx, hmem⟩ := exists_mem_updateFirst (p := fun m => decide (m.accountId = account)) ⟨member, hmember, decide_eq_true hid⟩
            exact ⟨_, hmem, by simpa using hx, rfl⟩
  · next hnone =>
    split at h
    · cases h
    · next hroom =>
      obtain rfl := Except.ok.inj h
      rw [List.find?_eq_none] at hnone
      have hnew : ∀ m ∈ c.members, m.accountId ≠ accountId := fun m hm => by simpa using hnone m hm
      refine ⟨?_, fun hw => ?_, fun account => ?_⟩
      · rw [← Bool.not_eq_true, CampaignDocument.hasActiveMember_iff]
        rintro ⟨m, hm, hmid, -⟩
        exact hnew m hm hmid
      · constructor
        · exact nodup_map_append hc hnew
        · show (c.members ++ [_]).length ≤ _
          rw [List.length_append]
          exact Nat.lt_of_not_le hroom
        · obtain ⟨m, hm, hgm⟩ := CampaignDocument.hasActiveGameMaster_iff.mp hw.owner
          exact CampaignDocument.hasActiveGameMaster_iff.mpr ⟨m, mem_append_left _ hm, hgm⟩
        · intro m hm hrole
          rcases mem_append.mp hm with hm | hm
          · exact hw.onlyOwner m hm hrole
          · rw [mem_singleton.mp hm] at hrole
            cases hrole
      · rw [CampaignDocument.hasActiveMember_iff, CampaignDocument.hasActiveMember_iff]
        constructor
        · rintro ⟨m, hm, hmid, hactive⟩
          rcases mem_append.mp hm with hm | hm
          · exact .inl ⟨m, hm, hmid, hactive⟩
          · rw [mem_singleton.mp hm] at hmid
            exact .inr hmid.symm
        · rintro (⟨m, hm, hmid, hactive⟩ | rfl)
          · exact ⟨m, mem_append_left _ hm, hmid, hactive⟩
          · exact ⟨_, List.mem_append_right _ (List.mem_singleton_self _), rfl, rfl⟩

theorem createCampaignInvitation_eq_ok {digest : String} {expiresAt : Int}
    (h : createCampaignInvitation invitationId gm campaignId digest expiresAt now s = .ok d) :
    ∃ expired : List String, ∃ invitation : CampaignInvitationDocument,
      (∀ id ∈ expired, ∃ i ∈ s.invitations, i.id = id ∧ i.state = .active) ∧
      (∀ i ∈ s.invitations, i.id ≠ invitationId) ∧ invitation.id = invitationId ∧ invitation.state = .active ∧
      d.writes = [.document .invitations invitationId, .index .activeInvitationEmail [campaignId, digest]] ++
        expired.map (.document .invitations) ∧
      d.apply = fun s => { s with
        invitations := updateWhere (fun i => expired.contains i.id) (fun i => { i with state := .expired })
          s.invitations ++ [invitation] } := by
  simp only [createCampaignInvitation, bind_eq_ok, exists_unit, rejectIf_eq_ok, pure_eq, Except.ok.injEq] at h
  obtain ⟨-, -, hfresh, rfl⟩ := h
  refine ⟨_, _, fun id hid => ?_, fun i hi hsame => hfresh ⟨i, hi, .inl hsame⟩, rfl, rfl, rfl, rfl⟩
  obtain ⟨i, hi, rfl⟩ := List.mem_map.mp hid
  rw [List.mem_filter, decide_eq_true_eq] at hi
  exact ⟨i, hi.1, rfl, hi.2.2.2.1⟩

theorem revokeCampaignInvitation_eq_ok (h : revokeCampaignInvitation gm invitationId now s = .ok d) :
    ∃ invitation ∈ s.invitations, invitation.id = invitationId ∧ invitation.state = .active ∧
      d.writes = [.document .invitations invitationId,
        .index .activeInvitationEmail [invitation.campaignId, invitation.inviteeEmailLookupHmac]] ∧
      d.apply = fun s => { s with
        invitations := updateById (·.id) invitationId (fun i => { i with state := .revoked, revokedAt := some now })
          s.invitations } := by
  simp only [revokeCampaignInvitation, bind_eq_ok, exists_unit, okOr_eq_ok, rejectIf_eq_ok, pure_eq,
    Except.ok.injEq] at h
  obtain ⟨invitation, hfound, -, rfl⟩ := h
  have hactive := List.find?_some hfound
  rw [decide_eq_true_eq] at hactive
  exact ⟨invitation, List.mem_of_find?_eq_some hfound, hactive.1, hactive.2, rfl, rfl⟩

variable {digest : String → String} {claimed : Int} {job : MembershipJob} {f : CampaignDocument → CampaignDocument}

theorem acceptCampaignInvitation_eq_ok
    (h : acceptCampaignInvitation accountId invitationId digest claimed now s = .ok d) :
    ∃ invitation ∈ s.invitations, ∃ campaign ∈ s.campaigns, ∃ members,
      s.invitations.find? (fun i => i.id = invitationId ∧ i.state = .active ∧ claimed < i.expiresAt) =
        some invitation ∧
      invitation.id = invitationId ∧ invitation.state = .active ∧ claimed < invitation.expiresAt ∧
      now < invitation.expiresAt ∧ campaign.id = invitation.campaignId ∧
      admitMember campaign accountId invitation.inviterAccountId now = .ok members ∧
      d.writes = [.document .campaigns campaign.id, .document .invitations invitation.id,
        .index .activeInvitationEmail [invitation.campaignId, invitation.inviteeEmailLookupHmac]] ∧
      d.apply = fun s => { s with
        campaigns := updateById (·.id) campaign.id (fun c => { c with members, revision := c.revision + 1 })
          s.campaigns
        invitations := updateById (·.id) invitation.id (fun i => { i with
          state := .accepted, acceptedAccountId := some accountId, acceptedAt := some now }) s.invitations } := by
  simp only [acceptCampaignInvitation, bind_eq_ok, exists_unit, okOr_eq_ok, rejectIf_eq_ok, pure_eq,
    Except.ok.injEq] at h
  obtain ⟨invitation, hfound, -, campaign, hcampaign, members, hmembers, hunexpired, rfl⟩ := h
  have hactive := List.find?_some hfound
  have hof := List.find?_some hcampaign
  rw [decide_eq_true_eq] at hactive hof
  exact ⟨invitation, List.mem_of_find?_eq_some hfound, campaign, List.mem_of_find?_eq_some hcampaign, members, hfound,
    hactive.1, hactive.2.1, hactive.2.2, Int.not_le.mp hunexpired, hof.1, hmembers, rfl, rfl⟩

theorem removeCampaignMember_eq_ok {member : String} (h : removeCampaignMember gm campaignId member now s = .ok d) :
    gm ≠ member ∧ ∃ campaign ∈ s.campaigns, campaign.id = campaignId ∧ campaign.ownerAccountId = gm ∧
      d.writes = .document .campaigns campaign.id ::
        ((s.instances.filter (·.activeOf campaignId member)).map (·.id)).flatMap (fun id =>
          [.document .instances id, .index .activeInstanceAccount [campaignId, member]]) ∧
      d.apply = fun s' => { s' with
        campaigns := updateById (·.id) campaign.id (fun c => { c with
          members := updateFirst (fun m => m.accountId = member ∧ m.state = .active)
            (fun m => { m with state := .removed, leftAt := some now, updatedAt := now }) campaign.members,
          revision := c.revision + 1 }) s'.campaigns
        instances := updateWhere
          (fun x => ((s.instances.filter (·.activeOf campaignId member)).map (·.id)).contains x.id)
          (fun x => { x with state := .retired, retiredAt := some now, revision := x.revision + 1 }) s'.instances } := by
  simp only [removeCampaignMember, bind_eq_ok, exists_unit, okOr_eq_ok, rejectIf_eq_ok, pure_eq,
    Except.ok.injEq] at h
  obtain ⟨hne, campaign, hfound, -, rfl⟩ := h
  have hof := List.find?_some hfound
  simp only [CampaignDocument.ownedBy, decide_eq_true_eq] at hof
  exact ⟨hne, campaign, List.mem_of_find?_eq_some hfound, hof.1, hof.2.1, rfl, rfl⟩

theorem changeCampaignLifecycle_eq_ok {owner : String} {expected : Nat}
    {required target : CampaignLifecycleState} {replayed openRuntime : Bool}
    (h : changeCampaignLifecycle owner campaignId expected required target replayed openRuntime s = .ok d) :
    (d.writes = [] ∧ d.apply = id) ∨ ∃ id, d.writes = [.document .campaigns id] ∧
      d.apply = fun s => { s with
        campaigns := updateById (·.id) id
          (fun c => { c with lifecycle := target, lifecycleRevision := c.lifecycleRevision + 1 }) s.campaigns } := by
  unfold changeCampaignLifecycle at h
  split at h
  · obtain rfl := Except.ok.inj h
    exact .inl ⟨rfl, rfl⟩
  · simp only [bind_eq_ok, exists_unit, okOr_eq_ok, rejectIf_eq_ok, pure_eq, Except.ok.injEq] at h
    obtain ⟨campaign, -, -, -, -, rfl⟩ := h
    exact .inr ⟨campaign.id, rfl, rfl⟩

/-! ## What each operation writes -/

theorem agree_of_collections {writes : List CampaignKey}
    (hcampaigns : ∀ x : CampaignDocument, .document .campaigns x.id ∉ writes → (x ∈ s.campaigns ↔ x ∈ s'.campaigns))
    (hinvitations : ∀ x : CampaignInvitationDocument, .document .invitations x.id ∉ writes →
      (x ∈ s.invitations ↔ x ∈ s'.invitations))
    (hinstances : ∀ x : CampaignCharacterInstanceDocument, .document .instances x.id ∉ writes →
      (x ∈ s.instances ↔ x ∈ s'.instances)) : ∀ k ∉ writes, CampaignStore.agree k s s' := by
  intro k hk
  cases k with
  | index name values => trivial
  | document collection id =>
    cases collection with
    | campaigns =>
      rintro x rfl
      exact hcampaigns x hk
    | invitations =>
      rintro x rfl
      exact hinvitations x hk
    | instances =>
      rintro x rfl
      exact hinstances x hk

/-- **No operation touches a document that it does not write.** -/
theorem transact_framed
    (h : transact job s = .ok d) : ∀ k ∉ d.writes, ∀ s', CampaignStore.agree k s' (d.apply s') := by
  intro k hk s'
  revert k
  cases job with
  | createCampaignWithOwner campaignId accountId title themeId now =>
    simp only [transact, createCampaignWithOwner, bind_eq_ok, exists_unit, pure_eq, Except.ok.injEq] at h
    obtain ⟨-, rfl⟩ := h
    refine agree_of_collections (fun x hx => ?_) (fun _ _ => Iff.rfl) fun _ _ => Iff.rfl
    refine (mem_append_of_ne ?_).symm
    rintro rfl
    exact hx mem_cons_self
  | createCampaignInvitation invitationId gm campaignId digest expiresAt now =>
    obtain ⟨expired, invitation, -, -, hid, -, hwrites, happly⟩ := createCampaignInvitation_eq_ok h
    rw [hwrites, happly]
    refine agree_of_collections (fun _ _ => Iff.rfl) (fun x hx => ?_) fun _ _ => Iff.rfl
    have hne : x ≠ invitation := by
      rintro rfl
      exact hx (by rw [hid]; exact mem_cons_self)
    have hkept : expired.contains x.id = false := by
      rw [← Bool.not_eq_true, List.contains_iff_mem]
      exact fun hmem => hx (List.mem_append_right _ (List.mem_map_of_mem hmem))
    rw [mem_append_of_ne hne]
    exact (@mem_updateWhere_of_not _ CampaignInvitationDocument.id _ _ _ _ (fun _ => by rfl)
      (fun z hsame => by rw [hsame]) hkept).symm
  | revokeCampaignInvitation gm invitationId now =>
    obtain ⟨invitation, -, -, -, hwrites, happly⟩ := revokeCampaignInvitation_eq_ok h
    rw [hwrites, happly]
    refine agree_of_collections (fun _ _ => Iff.rfl) (fun x hx => ?_) fun _ _ => Iff.rfl
    exact mem_updateById_of_unwritten hx mem_cons_self fun _ => by rfl
  | acceptCampaignInvitation accountId invitationId digest claimed now =>
    obtain ⟨invitation, -, campaign, -, members, -, -, -, -, -, -, -, hwrites, happly⟩ :=
      acceptCampaignInvitation_eq_ok h
    rw [hwrites, happly]
    refine agree_of_collections (fun x hx => ?_) (fun x hx => ?_) fun _ _ => Iff.rfl
    · exact mem_updateById_of_unwritten hx mem_cons_self fun _ => by rfl
    · exact mem_updateById_of_unwritten hx (List.mem_cons_of_mem _ mem_cons_self) fun _ => by rfl
  | removeCampaignMember gm campaignId member now =>
    obtain ⟨-, campaign, -, -, -, hwrites, happly⟩ := removeCampaignMember_eq_ok h
    rw [hwrites, happly]
    refine agree_of_collections (fun x hx => ?_) (fun _ _ => Iff.rfl) fun x hx => ?_
    · exact mem_updateById_of_unwritten hx mem_cons_self fun _ => by rfl
    · have hkept : ((s.instances.filter (·.activeOf campaignId member)).map (·.id)).contains x.id = false := by
        rw [← Bool.not_eq_true, List.contains_iff_mem]
        refine fun hmem => hx (List.mem_cons_of_mem _ (List.mem_flatMap.mpr ⟨x.id, hmem, ?_⟩))
        exact mem_cons_self
      exact (@mem_updateWhere_of_not _ CampaignCharacterInstanceDocument.id _ _ _ _ (fun _ => by rfl)
        (fun z hsame => by rw [hsame]) hkept).symm
  | assignCharacterToCampaign instanceId runtimeHeroId accountId campaignId characterId themeId revision =>
    simp only [transact, assignCharacterToCampaign, bind_eq_ok, exists_unit, pure_eq, Except.ok.injEq] at h
    obtain ⟨-, -, -, rfl⟩ := h
    refine agree_of_collections (fun _ _ => Iff.rfl) (fun _ _ => Iff.rfl) fun x hx => ?_
    refine (mem_append_of_ne ?_).symm
    rintro rfl
    exact hx mem_cons_self
  | changeCampaignLifecycle owner campaignId expected required target replayed openRuntime =>
    rcases changeCampaignLifecycle_eq_ok h with ⟨hwrites, happly⟩ | ⟨id, hwrites, happly⟩
    · rw [happly]
      exact agree_of_collections (fun _ _ => Iff.rfl) (fun _ _ => Iff.rfl) fun _ _ => Iff.rfl
    · rw [hwrites, happly]
      refine agree_of_collections (fun x hx => ?_) (fun _ _ => Iff.rfl) fun _ _ => Iff.rfl
      exact mem_updateById_of_unwritten hx (List.mem_singleton_self _) fun _ => by rfl

theorem CampaignStore.agree_refl (k : CampaignKey) (s : CampaignStore) : CampaignStore.agree k s s := by
  cases k with
  | index name values => trivial
  | document collection id => cases collection <;> exact fun _ _ => Iff.rfl

theorem CampaignStore.agree_trans (k : CampaignKey) {s'' : CampaignStore} (h : CampaignStore.agree k s s')
    (h' : CampaignStore.agree k s' s'') : CampaignStore.agree k s s'' := by
  cases k with
  | index name values => trivial
  | document collection id => cases collection <;> exact fun x hx => (h x hx).trans (h' x hx)

/-- The campaign that a commit writes first is as it was in the snapshot. -/
theorem CampaignStore.campaign_kept {ks rest : List CampaignKey}
    (hagree : ∀ k ∈ ks, CampaignStore.agree k s s') (hks : ks = .document .campaigns campaign.id :: rest)
    (h : campaign ∈ s.campaigns) : campaign ∈ s'.campaigns := by
  subst hks
  exact (hagree _ mem_cons_self campaign rfl).mp h

/-! ## One commit -/

/-- A change of one campaign, as its snapshot was, keeps the campaigns well formed. -/
theorem campaigns_updated
    (h : s.WellFormed) (hmem : campaign ∈ s.campaigns) (hid : ∀ c, (f c).id = c.id)
    (hf : campaign.WellFormed → (f campaign).WellFormed) :
    ((updateById (·.id) campaign.id f s.campaigns).map (·.id)).Nodup ∧
      ∀ c ∈ updateById (·.id) campaign.id f s.campaigns, c.WellFormed := by
  refine ⟨by rw [map_id_updateById hid]; exact h.campaignIds, fun c hc => ?_⟩
  rcases mem_updateById.mp hc with ⟨x, hx, hsame, rfl⟩ | ⟨hc, -⟩
  · obtain rfl := inj_on_of_nodup_map h.campaignIds hx hmem hsame
    exact hf (h.campaigns x hx)
  · exact h.campaigns c hc

/-- **One commit keeps the store well formed**, and what is spent stays spent. -/
theorem transact_wellFormed
    (h : transact job s = .ok d) (hagree : ∀ k ∈ d.writes, CampaignStore.agree k s s') (hw : s'.WellFormed) :
    (d.apply s').WellFormed ∧ ∀ id, InvitationSpent id s' → InvitationSpent id (d.apply s') := by
  cases job with
  | createCampaignWithOwner campaignId accountId title themeId now =>
    simp only [transact, createCampaignWithOwner, bind_eq_ok, exists_unit, rejectIf_eq_ok, pure_eq,
      Except.ok.injEq] at h
    obtain ⟨hfresh, rfl⟩ := h
    refine ⟨⟨nodup_map_append hw.campaignIds fun c hc hid => ?_, hw.invitationIds, fun c hc => ?_⟩, fun _ hs => hs⟩
    · exact hfresh ⟨c, (hagree _ mem_cons_self c hid).mpr hc, .inl hid⟩
    · rcases mem_append.mp hc with hc | hc
      · exact hw.campaigns c hc
      · rw [mem_singleton.mp hc]
        refine ⟨by simp, Nat.le_of_ble_eq_true rfl, by simp [CampaignDocument.hasActiveGameMaster], fun m hm _ => ?_⟩
        rw [mem_singleton.mp hm]
  | createCampaignInvitation invitationId gm campaignId digest expiresAt now =>
    obtain ⟨expired, invitation, -, hfresh, hid, hactive, hwrites, happly⟩ := createCampaignInvitation_eq_ok h
    have hkey : CampaignKey.document .invitations invitationId ∈ d.writes := by
      rw [hwrites]
      exact mem_cons_self
    have hnew : ∀ i ∈ s'.invitations, i.id ≠ invitationId := fun i hi hsame =>
      hfresh i ((hagree _ hkey i hsame).mpr hi) hsame
    rw [happly]
    refine ⟨⟨hw.campaignIds, ?_, hw.campaigns⟩, fun id hs => ?_⟩
    · refine nodup_map_append (by rw [map_id_updateWhere fun _ => by rfl]; exact hw.invitationIds) fun i hi => ?_
      rw [hid]
      rcases mem_updateWhere.mp hi with ⟨x, hx, -, rfl⟩ | ⟨hi, -⟩
      · exact hnew x hx
      · exact hnew i hi
    · refine (hs.updateWhere (fun _ => by rfl) fun _ hx => by cases hx).append ?_
      rw [hid]
      rintro rfl
      obtain ⟨x, hx, hxid⟩ := hs.1
      exact hnew x hx hxid
  | revokeCampaignInvitation gm invitationId now =>
    obtain ⟨invitation, -, -, -, -, happly⟩ := revokeCampaignInvitation_eq_ok h
    rw [happly]
    refine ⟨⟨hw.campaignIds, ?_, hw.campaigns⟩, fun id hs => hs.update (fun _ => by rfl) fun _ hx => by cases hx⟩
    rw [map_id_updateById fun _ => by rfl]
    exact hw.invitationIds
  | acceptCampaignInvitation accountId invitationId digest claimed now =>
    obtain ⟨invitation, -, campaign, hcampaign, members, -, -, -, -, -, -, hadmits, hwrites, happly⟩ :=
      acceptCampaignInvitation_eq_ok h
    have hmem := CampaignStore.campaign_kept hagree hwrites hcampaign
    have hadmitted := admitMember_admits (hw.campaigns campaign hmem).distinct hadmits
    obtain ⟨hids, hwell⟩ := campaigns_updated hw hmem
      (f := fun c => { c with members, revision := c.revision + 1 }) (fun _ => by rfl) fun hc =>
        ⟨(hadmitted.wellFormed hc).distinct, (hadmitted.wellFormed hc).atMost, (hadmitted.wellFormed hc).owner,
          (hadmitted.wellFormed hc).onlyOwner⟩
    rw [happly]
    refine ⟨⟨hids, ?_, hwell⟩, fun id hs => hs.update (fun _ => by rfl) fun _ hx => by cases hx⟩
    rw [map_id_updateById fun _ => by rfl]
    exact hw.invitationIds
  | removeCampaignMember gm campaignId member now =>
    obtain ⟨hne, campaign, hcampaign, -, howner, hwrites, happly⟩ := removeCampaignMember_eq_ok h
    have hmem := CampaignStore.campaign_kept hagree hwrites hcampaign
    obtain ⟨hids, hwell⟩ := campaigns_updated hw hmem
      (f := fun c => { c with
          members := updateFirst (fun m => m.accountId = member ∧ m.state = .active)
            (fun m => { m with state := .removed, leftAt := some now, updatedAt := now }) campaign.members,
          revision := c.revision + 1 }) (fun _ => by rfl) fun hc => by
        constructor
        · show ((updateFirst _ _ campaign.members).map _).Nodup
          rw [map_updateFirst fun _ => by rfl]
          exact hc.distinct
        · show (updateFirst _ _ campaign.members).length ≤ _
          rw [← List.length_map (·.accountId), map_updateFirst (fun _ => by rfl), List.length_map]
          exact hc.atMost
        · obtain ⟨m, hm, hmid, hgm⟩ := CampaignDocument.hasActiveGameMaster_iff.mp hc.owner
          refine CampaignDocument.hasActiveGameMaster_iff.mpr ⟨m, mem_updateFirst_of_not hm ?_, hmid, hgm⟩
          -- The game master, who is the owner, is not the one removed.
          rw [decide_eq_false_iff_not]
          exact fun hsame => hne (howner.symm.trans (hmid.symm.trans hsame.1))
        · intro m hm hrole
          rcases mem_of_mem_updateFirst hm with ⟨x, hx, -, rfl⟩ | hm
          · exact hc.onlyOwner x hx hrole
          · exact hc.onlyOwner m hm hrole
    rw [happly]
    exact ⟨⟨hids, hw.invitationIds, hwell⟩, fun _ hs => hs⟩
  | assignCharacterToCampaign instanceId runtimeHeroId accountId campaignId characterId themeId revision =>
    simp only [transact, assignCharacterToCampaign, bind_eq_ok, exists_unit, pure_eq, Except.ok.injEq] at h
    obtain ⟨-, -, -, rfl⟩ := h
    exact ⟨⟨hw.campaignIds, hw.invitationIds, hw.campaigns⟩, fun _ hs => hs⟩
  | changeCampaignLifecycle owner campaignId expected required target replayed openRuntime =>
    rcases changeCampaignLifecycle_eq_ok h with ⟨-, happly⟩ | ⟨id, -, happly⟩
    · rw [happly]
      exact ⟨hw, fun _ hs => hs⟩
    · rw [happly]
      refine ⟨⟨?_, hw.invitationIds, fun c hc => ?_⟩, fun _ hs => hs⟩
      · rw [map_id_updateById fun _ => by rfl]
        exact hw.campaignIds
      · rcases mem_updateById.mp hc with ⟨x, hx, -, rfl⟩ | ⟨hc, -⟩
        · have hx := hw.campaigns x hx
          exact ⟨hx.distinct, hx.atMost, hx.owner, hx.onlyOwner⟩
        · exact hw.campaigns c hc

/-- The memberships, as a snapshot-isolated database. -/
theorem transact_isolated : Isolated transact CampaignStore.agree (fun _ => True) CampaignStore.WellFormed
    fun s s' => ∀ id, InvitationSpent id s → InvitationSpent id s' where
  agree_refl := CampaignStore.agree_refl
  agree_trans k _ _ _ h h' := CampaignStore.agree_trans k h h'
  framed h := transact_framed h
  later_refl _ := fun _ h => h
  later_trans h h' := fun id hs => h' id (h id hs)
  commit _ hw _ _ hbody hagree := transact_wellFormed hbody hagree hw

/-! ## Acceptances -/

/-- An acceptance that committed, with the stores before and after it. -/
structure Acceptance where
  invitationId : String
  campaignId : String
  accountId : String
  claimed : Int
  now : Int
  before : CampaignStore
  after : CampaignStore

/-- The acceptance that a commit is. -/
def acceptanceOf (c : Committed MembershipJob CampaignStore) : Option Acceptance :=
  match c.job with
  | .acceptCampaignInvitation accountId invitationId _ claimed now => do
    let invitation ← c.snapshot.invitations.find? fun i =>
      i.id = invitationId ∧ i.state = .active ∧ claimed < i.expiresAt
    let d ← (transact c.job c.snapshot).toOption
    return ⟨invitation.id, invitation.campaignId, accountId, claimed, now, c.before, d.apply c.before⟩
  | _ => none

def acceptancesOf (commits : List (Committed MembershipJob CampaignStore)) : List Acceptance :=
  commits.filterMap acceptanceOf

/-- **What an acceptance does**: it finds its invitation active and unexpired, makes one account an active member
    that was not one, and changes no other membership. -/
structure Acceptance.Activates (a : Acceptance) : Prop where
  invitation : ∃ i ∈ a.before.invitations, i.id = a.invitationId ∧ i.campaignId = a.campaignId ∧ i.state = .active ∧
    a.claimed < i.expiresAt ∧ a.now < i.expiresAt
  absent : ¬ a.before.ActiveMember a.campaignId a.accountId
  members : ∀ campaignId accountId, a.after.ActiveMember campaignId accountId ↔
    a.before.ActiveMember campaignId accountId ∨ (campaignId = a.campaignId ∧ accountId = a.accountId)

/-- Whether an account is an active member, of a campaign that is updated. -/
theorem activeMember_updated (hids : (s.campaigns.map (·.id)).Nodup) (hmem : campaign ∈ s.campaigns)
    (hid : ∀ c, (f c).id = c.id) (invitations : List CampaignInvitationDocument)
    (instances : List CampaignCharacterInstanceDocument) (characters : List PlayerCharacterDocument)
    (campaignId accountId : String) :
    (CampaignStore.mk (updateById (·.id) campaign.id f s.campaigns) invitations instances characters).ActiveMember
      campaignId accountId ↔
    if campaignId = campaign.id then (f campaign).hasActiveMember accountId = true
    else s.ActiveMember campaignId accountId := by
  constructor
  · rintro ⟨c, hc, rfl, hactive⟩
    rcases mem_updateById.mp hc with ⟨x, hx, hsame, rfl⟩ | ⟨hc, hne⟩
    · obtain rfl := inj_on_of_nodup_map hids hx hmem hsame
      rw [if_pos (hid x)]
      exact hactive
    · rw [if_neg hne]
      exact ⟨c, hc, rfl, hactive⟩
  · intro h
    split at h
    · next heq =>
      exact ⟨f campaign, mem_updateById.mpr (.inl ⟨campaign, hmem, rfl, rfl⟩), (hid campaign).trans heq.symm, h⟩
    · next hne =>
      obtain ⟨c, hc, rfl, hactive⟩ := h
      exact ⟨c, mem_updateById.mpr (.inr ⟨hc, hne⟩), rfl, hactive⟩

/-- In a well-formed store a campaign has the members of its document. -/
theorem activeMember_iff (hids : (s.campaigns.map (·.id)).Nodup)
    (hmem : campaign ∈ s.campaigns) (accountId : String) :
    s.ActiveMember campaign.id accountId ↔ campaign.hasActiveMember accountId = true := by
  constructor
  · rintro ⟨c, hc, hid, hactive⟩
    obtain rfl := inj_on_of_nodup_map hids hc hmem hid
    exact hactive
  · exact fun h => ⟨campaign, hmem, rfl, h⟩

theorem acceptCampaignInvitation_activates
    (h : transact (.acceptCampaignInvitation accountId invitationId digest claimed now) s = .ok d)
    (hagree : ∀ k ∈ d.writes, CampaignStore.agree k s s') (hw : s'.WellFormed) :
    ∃ a, acceptanceOf ⟨.acceptCampaignInvitation accountId invitationId digest claimed now, s, s'⟩ = some a ∧
      a.invitationId = invitationId ∧ a.accountId = accountId ∧ a.before = s' ∧ a.Activates ∧
      ∃ i ∈ s'.invitations, i.id = invitationId ∧ i.state = .active ∧
        (d.apply s').invitations = updateById (·.id) invitationId (fun i => { i with
          state := .accepted, acceptedAccountId := some accountId, acceptedAt := some now }) s'.invitations := by
  have hdecided := h
  obtain ⟨invitation, hinvitation, campaign, hcampaign, members, hfound, hid, hactive, hclaimed, hnow, hof, hadmits,
    hwrites, happly⟩ := acceptCampaignInvitation_eq_ok h
  subst hid
  have hmem := CampaignStore.campaign_kept hagree hwrites hcampaign
  have hinvitation' : invitation ∈ s'.invitations := by
    refine (hagree (.document .invitations invitation.id) ?_ invitation rfl).mp hinvitation
    rw [hwrites]
    exact List.mem_cons_of_mem _ mem_cons_self
  have hadmitted := admitMember_admits (hw.campaigns campaign hmem).distinct hadmits
  refine ⟨⟨invitation.id, invitation.campaignId, accountId, claimed, now, s', d.apply s'⟩, ?_, rfl, rfl, rfl, ?_,
    invitation, hinvitation', rfl, hactive, by rw [happly]⟩
  · simp only [acceptanceOf, hfound, hdecided, Except.toOption, Option.bind_eq_bind, Option.bind_some, Option.pure_def]
  · refine ⟨⟨invitation, hinvitation', rfl, rfl, hactive, hclaimed, hnow⟩, ?_, fun campaignId account => ?_⟩
    · show ¬ s'.ActiveMember invitation.campaignId accountId
      rw [← hof, activeMember_iff hw.campaignIds hmem, hadmitted.absent]
      exact Bool.false_ne_true
    · show (d.apply s').ActiveMember campaignId account ↔ s'.ActiveMember campaignId account ∨
        (campaignId = invitation.campaignId ∧ account = accountId)
      have hupdated := activeMember_updated hw.campaignIds hmem
        (f := fun c => { c with members, revision := c.revision + 1 }) (fun _ => by rfl)
        (d.apply s').invitations s'.instances s'.playerCharacters campaignId account
      rw [happly] at hupdated ⊢
      rw [hupdated, ← hof]
      split
      · next heq =>
        subst heq
        rw [activeMember_iff hw.campaignIds hmem]
        show ({ campaign with members } : CampaignDocument).hasActiveMember account = true ↔ _
        rw [hadmitted.active account]
        simp
      · next hne => simp [hne]

/-! ## Runs -/

/-- **A commit that keeps characters with members**: an assignment finds its account still an active member, and
    a removal has seen every active character of the member that there is. -/
structure Undisturbed (c : Committed MembershipJob CampaignStore) : Prop where
  assignment : ∀ instanceId runtimeHeroId accountId campaignId characterId themeId revision,
    c.job = .assignCharacterToCampaign instanceId runtimeHeroId accountId campaignId characterId themeId revision →
    c.before.ActiveMember campaignId accountId
  removal : ∀ gm campaignId member now, c.job = .removeCampaignMember gm campaignId member now →
    ∀ x ∈ c.before.instances, x.activeOf campaignId member = true →
      ∃ y ∈ c.snapshot.instances, y.id = x.id ∧ y.activeOf campaignId member = true

/-- What the commits of a run leave behind. -/
structure MembershipHistory (commits : List (Committed MembershipJob CampaignStore)) (s : CampaignStore) : Prop where
  activates : ∀ a ∈ acceptancesOf commits, a.Activates
  once : ((acceptancesOf commits).map (·.invitationId)).Nodup
  recorded : ∀ a ∈ acceptancesOf commits, ∃ i ∈ s.invitations, i.id = a.invitationId ∧ i.state = .accepted ∧
    i.acceptedAccountId = some a.accountId
  accepted : ∀ i ∈ s.invitations, i.state = .accepted → ∃ a ∈ acceptancesOf commits, a.invitationId = i.id
  assigned : (∀ c ∈ commits, Undisturbed c) → s.AssignedToMembers

theorem acceptancesOf_append (commits : List (Committed MembershipJob CampaignStore))
    (c : Committed MembershipJob CampaignStore) :
    acceptancesOf (commits ++ [c]) = acceptancesOf commits ++ (acceptanceOf c).toList := by
  unfold acceptancesOf
  rw [List.filterMap_append]
  cases h : acceptanceOf c with
  | none => rw [List.filterMap_cons_none h]; rfl
  | some a => rw [List.filterMap_cons_some h]; rfl

/-- A commit that accepts nothing leaves what was accepted. -/
theorem MembershipHistory.keep {commits : List (Committed MembershipJob CampaignStore)}
    {c : Committed MembershipJob CampaignStore} (h : MembershipHistory commits s)
    (hnone : acceptanceOf c = none) (hkeeps : ∀ i, i.state = .accepted → (i ∈ s'.invitations ↔ i ∈ s.invitations))
    (hassigned : s.AssignedToMembers → Undisturbed c → s'.AssignedToMembers) :
    MembershipHistory (commits ++ [c]) s' := by
  have hsame : acceptancesOf (commits ++ [c]) = acceptancesOf commits := by
    rw [acceptancesOf_append, hnone]
    exact List.append_nil _
  constructor
  · rw [hsame]
    exact h.activates
  · rw [hsame]
    exact h.once
  · rw [hsame]
    intro a ha
    obtain ⟨i, hi, hid, hstate, haccount⟩ := h.recorded a ha
    exact ⟨i, (hkeeps i hstate).mpr hi, hid, hstate, haccount⟩
  · rw [hsame]
    exact fun i hi hstate => h.accepted i ((hkeeps i hstate).mp hi) hstate
  · intro hall
    refine hassigned (h.assigned fun c' hc' => hall c' (mem_append_left _ hc')) ?_
    exact hall c (List.mem_append_right _ (List.mem_singleton_self _))

/-- Characters stay with members when nobody loses a membership and nothing is assigned. -/
theorem assigned_grow (h : s.AssignedToMembers)
    (hinstances : ∀ x ∈ s'.instances, x.state = .active → x ∈ s.instances)
    (hmembers : ∀ campaignId accountId, s.ActiveMember campaignId accountId → s'.ActiveMember campaignId accountId) :
    s'.AssignedToMembers :=
  fun x hx hactive => hmembers _ _ (h x (hinstances x hx hactive) hactive)

/-- An update by id that finds an active invitation leaves the accepted ones. -/
theorem accepted_updateById {invitations : List CampaignInvitationDocument} {invitation i : CampaignInvitationDocument}
    {f : CampaignInvitationDocument → CampaignInvitationDocument} (hids : (invitations.map (·.id)).Nodup)
    (hmem : invitation ∈ invitations) (hactive : invitation.state = .active) (hf : ∀ x, (f x).state ≠ .accepted)
    (hi : i.state = .accepted) : i ∈ updateById (·.id) invitation.id f invitations ↔ i ∈ invitations := by
  rw [mem_updateById]
  constructor
  · rintro (⟨x, -, -, rfl⟩ | ⟨hmem, -⟩)
    · exact absurd hi (hf x)
    · exact hmem
  · intro h
    refine .inr ⟨h, fun hsame => ?_⟩
    obtain rfl := inj_on_of_nodup_map hids h hmem hsame
    rw [hactive] at hi
    cases hi

/-- **One more commit.** -/
theorem MembershipHistory.commit {commits : List (Committed MembershipJob CampaignStore)} {job : MembershipJob}
    {s s' : CampaignStore} {d : MembershipDecision} (h : MembershipHistory commits s')
    (hbody : transact job s = .ok d) (hagree : ∀ k ∈ d.writes, CampaignStore.agree k s s') (hw : s'.WellFormed) :
    MembershipHistory (commits ++ [⟨job, s, s'⟩]) (d.apply s') := by
  cases job with
  | createCampaignWithOwner campaignId accountId title themeId now =>
    refine h.keep rfl ?_ fun hassigned _ => ?_
    · simp only [transact, createCampaignWithOwner, bind_eq_ok, exists_unit, pure_eq, Except.ok.injEq] at hbody
      obtain ⟨-, rfl⟩ := hbody
      exact fun _ _ => Iff.rfl
    · simp only [transact, createCampaignWithOwner, bind_eq_ok, exists_unit, pure_eq, Except.ok.injEq] at hbody
      obtain ⟨-, rfl⟩ := hbody
      refine assigned_grow hassigned (fun _ hx _ => hx) fun _ _ hactive => ?_
      obtain ⟨c, hc, hmember⟩ := hactive
      exact ⟨c, mem_append_left _ hc, hmember⟩
  | createCampaignInvitation invitationId gm campaignId digest expiresAt now =>
    obtain ⟨expired, invitation, hexpired, -, -, hactive, hwrites, happly⟩ := createCampaignInvitation_eq_ok hbody
    rw [happly]
    refine h.keep rfl (fun i hi => ?_) fun hassigned _ => assigned_grow hassigned (fun _ hx _ => hx) fun _ _ hmember => hmember
    have hne : i ≠ invitation := by
      rintro rfl
      rw [hactive] at hi
      cases hi
    -- What expires was active, and accepted invitations are not.
    have hkept : i ∈ s'.invitations → expired.contains i.id = false := by
      intro hmem
      rw [← Bool.not_eq_true, List.contains_iff_mem]
      intro hid
      obtain ⟨x, hx, hsame, hstate⟩ := hexpired _ hid
      have hkey : CampaignKey.document .invitations i.id ∈ d.writes := by
        rw [hwrites]
        exact List.mem_append_right _ (List.mem_map_of_mem hid)
      obtain rfl := inj_on_of_nodup_map hw.invitationIds ((hagree _ hkey x hsame).mp hx) hmem hsame
      rw [hstate] at hi
      cases hi
    show i ∈ updateWhere _ _ s'.invitations ++ [invitation] ↔ _
    rw [mem_append_of_ne hne, mem_updateWhere]
    constructor
    · rintro (⟨x, -, -, rfl⟩ | ⟨hmem, -⟩)
      · cases hi
      · exact hmem
    · exact fun hmem => .inr ⟨hmem, hkept hmem⟩
  | revokeCampaignInvitation gm invitationId now =>
    obtain ⟨invitation, hinvitation, rfl, hactive, hwrites, happly⟩ := revokeCampaignInvitation_eq_ok hbody
    rw [happly]
    refine h.keep rfl (fun i hi => ?_) fun hassigned _ => assigned_grow hassigned (fun _ hx _ => hx) fun _ _ hmember => hmember
    have hmem : invitation ∈ s'.invitations := by
      refine (hagree (.document .invitations invitation.id) ?_ invitation rfl).mp hinvitation
      rw [hwrites]
      exact mem_cons_self
    exact accepted_updateById hw.invitationIds hmem hactive (fun _ hx => by cases hx) hi
  | removeCampaignMember gm campaignId member now =>
    obtain ⟨hne, campaign, hcampaign, hid, howner, hwrites, happly⟩ := removeCampaignMember_eq_ok hbody
    refine h.keep rfl (fun i _ => by rw [happly]) fun hassigned hundisturbed => ?_
    have hmem := CampaignStore.campaign_kept hagree hwrites hcampaign
    intro x hx hactive
    rw [happly] at hx
    rcases mem_updateWhere.mp hx with ⟨y, -, -, rfl⟩ | ⟨hx, hkept⟩
    · cases hactive
    · obtain ⟨c, hc, hcid, hmember⟩ := hassigned x hx hactive
      have hupdated := activeMember_updated hw.campaignIds hmem
        (f := fun c => { c with
          members := updateFirst (fun m => m.accountId = member ∧ m.state = .active)
            (fun m => { m with state := .removed, leftAt := some now, updatedAt := now }) campaign.members,
          revision := c.revision + 1 }) (fun _ => by rfl)
        s'.invitations (d.apply s').instances s'.playerCharacters x.campaignId x.accountId
      rw [happly] at hupdated ⊢
      rw [hupdated]
      split
      · next heq =>
        -- The removal has retired every character of the one who is removed.
        have hother : x.accountId ≠ member := by
          intro hsame
          obtain ⟨y, hy, hyid, hyactive⟩ := hundisturbed.removal gm campaignId member now rfl x hx (by
            simp only [CampaignCharacterInstanceDocument.activeOf, decide_eq_true_eq]
            exact ⟨heq.trans hid, hsame, hactive⟩)
          rw [← Bool.not_eq_true, List.contains_iff_mem] at hkept
          exact hkept (List.mem_map.mpr ⟨y, List.mem_filter.mpr ⟨hy, hyactive⟩, hyid⟩)
        obtain rfl := inj_on_of_nodup_map hw.campaignIds hc hmem (hcid.trans heq)
        obtain ⟨m, hm, hmid, hmactive⟩ := CampaignDocument.hasActiveMember_iff.mp hmember
        refine CampaignDocument.hasActiveMember_iff.mpr ⟨m, mem_updateFirst_of_not hm ?_, hmid, hmactive⟩
        rw [decide_eq_false_iff_not]
        exact fun hsame => hother (hmid.symm.trans hsame.1)
      · exact ⟨c, hc, hcid, hmember⟩
  | assignCharacterToCampaign instanceId runtimeHeroId accountId campaignId characterId themeId revision =>
    refine h.keep rfl ?_ fun hassigned hundisturbed => ?_
    · simp only [transact, assignCharacterToCampaign, bind_eq_ok, exists_unit, pure_eq, Except.ok.injEq] at hbody
      obtain ⟨-, -, -, rfl⟩ := hbody
      exact fun _ _ => Iff.rfl
    · simp only [transact, assignCharacterToCampaign, bind_eq_ok, exists_unit, pure_eq, Except.ok.injEq] at hbody
      obtain ⟨-, -, -, rfl⟩ := hbody
      intro x hx hactive
      rcases mem_append.mp hx with hx | hx
      · exact hassigned x hx hactive
      · rw [mem_singleton.mp hx]
        exact hundisturbed.assignment _ _ _ _ _ _ _ rfl
  | changeCampaignLifecycle owner campaignId expected required target replayed openRuntime =>
    rcases changeCampaignLifecycle_eq_ok hbody with ⟨-, happly⟩ | ⟨id, -, happly⟩
    · rw [happly]
      exact h.keep rfl (fun _ _ => Iff.rfl) fun hassigned _ => hassigned
    · rw [happly]
      refine h.keep rfl (fun _ _ => Iff.rfl) fun hassigned _ => assigned_grow hassigned (fun _ hx _ => hx) ?_
      rintro campaignId' accountId ⟨c, hc, rfl, hmember⟩
      by_cases hid : c.id = id
      · exact ⟨_, mem_updateById.mpr (.inl ⟨c, hc, hid, rfl⟩), rfl, hmember⟩
      · exact ⟨c, mem_updateById.mpr (.inr ⟨hc, hid⟩), rfl, hmember⟩
  | acceptCampaignInvitation accountId invitationId digest claimed now =>
    obtain ⟨a, haccept, hid, haccount, hbefore, hactivates, i, hi, hiid, hiactive, hinvitations⟩ :=
      acceptCampaignInvitation_activates hbody hagree hw
    subst hid haccount
    have hinstances : (d.apply s').instances = s'.instances := by
      obtain ⟨_, -, _, -, _, -, -, -, -, -, -, -, -, happly⟩ := acceptCampaignInvitation_eq_ok hbody
      rw [happly]
    have hafter : a.after = d.apply s' := by
      have hdecided := haccept
      simp only [acceptanceOf, hbody, Except.toOption, Option.bind_eq_bind, Option.bind_some, Option.pure_def,
        Option.bind_eq_some_iff] at hdecided
      obtain ⟨_, -, ha⟩ := hdecided
      exact (Acceptance.mk.inj (Option.some.inj ha)).2.2.2.2.2.2.symm
    have hall : acceptancesOf (commits ++ [⟨.acceptCampaignInvitation a.accountId a.invitationId digest claimed now, s, s'⟩]) =
        acceptancesOf commits ++ [a] := by
      rw [acceptancesOf_append, haccept]
      rfl
    have hkeeps : ∀ j, j.state = .accepted → j.id ≠ a.invitationId →
        (j ∈ (d.apply s').invitations ↔ j ∈ s'.invitations) := by
      intro j _ hne
      rw [hinvitations]
      exact mem_updateById_of_ne (fun _ => by rfl) hne
    have hnew : ∀ b ∈ acceptancesOf commits, b.invitationId ≠ a.invitationId := by
      intro b hb hsame
      obtain ⟨j, hj, hjid, hjstate, -⟩ := h.recorded b hb
      obtain rfl := inj_on_of_nodup_map hw.invitationIds hj hi (hjid.trans (hsame.trans hiid.symm))
      rw [hiactive] at hjstate
      cases hjstate
    constructor
    · rw [hall]
      intro b hb
      rcases mem_append.mp hb with hb | hb
      · exact h.activates b hb
      · rw [mem_singleton.mp hb]
        exact hactivates
    · rw [hall]
      exact nodup_map_append h.once hnew
    · rw [hall]
      intro b hb
      rcases mem_append.mp hb with hb | hb
      · obtain ⟨j, hj, hjid, hjstate, hjaccount⟩ := h.recorded b hb
        refine ⟨j, (hkeeps j hjstate ?_).mpr hj, hjid, hjstate, hjaccount⟩
        rw [hjid]
        exact hnew b hb
      · rw [mem_singleton.mp hb, hinvitations]
        exact ⟨_, mem_updateById.mpr (.inl ⟨i, hi, hiid, rfl⟩), hiid, rfl, rfl⟩
    · rw [hall]
      intro j hj hjstate
      by_cases hsame : j.id = a.invitationId
      · exact ⟨a, List.mem_append_right _ (List.mem_singleton_self _), hsame.symm⟩
      · obtain ⟨b, hb, hbid⟩ := h.accepted j ((hkeeps j hjstate hsame).mp hj) hjstate
        exact ⟨b, mem_append_left _ hb, hbid⟩
    · intro hundisturbed
      refine assigned_grow (h.assigned fun c hc => hundisturbed c (mem_append_left _ hc)) (fun x hx _ => ?_) ?_
      · rwa [hinstances] at hx
      · intro campaignId account hmember
        rw [← hafter]
        rw [← hbefore] at hmember
        exact (hactivates.members campaignId account).mpr (.inl hmember)

/-- **The membership laws.** In every run from a repository without campaigns,
    * each campaign's members are distinct and at most sixteen, and its owner is its one active game master;
    * every acceptance activated one membership, on an invitation that was active and unexpired;
    * every accepted invitation is accounted for by one acceptance, and no other invitation is;
    * and if every commit was undisturbed, every active assigned character is of an active member. -/
theorem membership_laws (characters : List PlayerCharacterDocument) {events : List (Event MembershipJob CampaignStore)}
    {db : Database CampaignStore CampaignKey MembershipJob}
    (hrun : Run (Database.Step transact) (.quiet (.new characters)) events db) :
    (∀ c ∈ db.store.campaigns, (c.members.map (·.accountId)).Nodup ∧ c.members.length ≤ 16 ∧
      c.hasActiveGameMaster c.ownerAccountId = true ∧
      ∀ accountId, c.hasActiveGameMaster accountId = true → accountId = c.ownerAccountId) ∧
    (∀ a ∈ acceptancesOf (commitsOf events), a.Activates) ∧
    ((acceptancesOf (commitsOf events)).map (·.invitationId)).Nodup ∧
    (∀ i ∈ db.store.invitations, i.state = .accepted ↔
      ∃ a ∈ acceptancesOf (commitsOf events), a.invitationId = i.id ∧ i.acceptedAccountId = some a.accountId) ∧
    (Admitted Undisturbed events → db.store.AssignedToMembers) := by
  have hstart : Sound CampaignStore.agree CampaignStore.WellFormed
      (fun s s' => ∀ id, InvitationSpent id s → InvitationSpent id s')
      (Database.quiet (.new characters) : Database CampaignStore CampaignKey MembershipJob) :=
    sound_quiet ⟨List.nodup_nil, List.nodup_nil, nofun⟩
  have hadmits : Admitted (fun _ => True) events := fun _ _ => trivial
  have hempty : MembershipHistory [] (.new characters) := ⟨nofun, List.nodup_nil, nofun, nofun, fun _ => nofun⟩
  have hhistory : MembershipHistory (commitsOf events) db.store :=
    transact_isolated.history (J := MembershipHistory)
      (fun _ hw _ _ hbody hagree hpast => hpast.commit hbody hagree hw) hrun hadmits hstart hempty
  have hw := (transact_isolated.sound hrun hadmits hstart).1.store
  refine ⟨fun c hc => ?_, hhistory.activates, hhistory.once, fun i hi => ⟨fun hstate => ?_, ?_⟩, hhistory.assigned⟩
  · have hc := hw.campaigns c hc
    refine ⟨hc.distinct, hc.atMost, hc.owner, fun accountId hgm => ?_⟩
    obtain ⟨m, hm, hmid, hrole, -⟩ := CampaignDocument.hasActiveGameMaster_iff.mp hgm
    exact hmid.symm.trans (hc.onlyOwner m hm hrole)
  · obtain ⟨a, ha, hid⟩ := hhistory.accepted i hi hstate
    obtain ⟨j, hj, hjid, -, haccount⟩ := hhistory.recorded a ha
    obtain rfl := inj_on_of_nodup_map hw.invitationIds hj hi (hjid.trans hid)
    exact ⟨a, ha, hid, haccount⟩
  · rintro ⟨a, ha, hid, -⟩
    obtain ⟨j, hj, hjid, hstate, -⟩ := hhistory.recorded a ha
    obtain rfl := inj_on_of_nodup_map hw.invitationIds hj hi (hjid.trans hid)
    exact hstate

/-! ## A campaign of two -/

def partyCharacters : List PlayerCharacterDocument := [⟨"character-1", "account-2", 1⟩]

/-- One account owns the campaign, the other has accepted its invitation. -/
def partyStore : CampaignStore where
  campaigns := [{
    id := "campaign-1", revision := 2, lifecycleRevision := 1, ownerAccountId := "account-1"
    titleNormalized := "the canal", themeId := "theme-1", lifecycle := .active
    members := [⟨"account-1", .gameMaster, .active, some "account-1", 1, none, 1, 1⟩,
      ⟨"account-2", .player, .active, some "account-1", 3, none, 3, 3⟩]
    currentPlaySessionId := none }]
  invitations := [⟨"invitation-1", "campaign-1", "account-1", "digest-2", .accepted, 100, some "account-2", some 3, none⟩]
  instances := []
  playerCharacters := partyCharacters

theorem party_runs : ∃ events, ∃ db : Database CampaignStore CampaignKey MembershipJob, Idle db ∧
    db.store = partyStore ∧ Run (Database.Step transact) (.quiet (.new partyCharacters)) events db := by
  have hempty : Idle (Database.quiet (.new partyCharacters) : Database CampaignStore CampaignKey MembershipJob) :=
    idle_quiet _
  obtain ⟨db₁, hidle₁, hstore₁, hrun₁⟩ := hempty.serial (show transact
    (.createCampaignWithOwner "campaign-1" "account-1" "the canal" "theme-1" 1) _ = .ok _ from rfl)
  obtain ⟨db₂, hidle₂, hstore₂, hrun₂⟩ := hidle₁.serial (show transact
    (.createCampaignInvitation "invitation-1" "account-1" "campaign-1" "digest-2" 100 2) _ = .ok _ by
      rw [hstore₁]
      rfl)
  obtain ⟨db₃, hidle₃, hstore₃, hrun₃⟩ := hidle₂.serial (show transact
    (.acceptCampaignInvitation "account-2" "invitation-1" (fun _ => "digest-2") 3 3) _ = .ok _ by
      rw [hstore₂, hstore₁]
      rfl)
  refine ⟨_, db₃, hidle₃, ?_, (hrun₁.append hrun₂).append hrun₃⟩
  rw [hstore₃, hstore₂, hstore₁]
  rfl

theorem membership_laws_party : ∃ events, ∃ db : Database CampaignStore CampaignKey MembershipJob,
    Run (Database.Step transact) (.quiet (.new partyCharacters)) events db ∧ db.store = partyStore ∧
    (∀ a ∈ acceptancesOf (commitsOf events), a.Activates) ∧
    ∃ a ∈ acceptancesOf (commitsOf events), a.invitationId = "invitation-1" ∧ a.accountId = "account-2" := by
  obtain ⟨events, db, -, hstore, hrun⟩ := party_runs
  obtain ⟨-, hactivates, -, haccepted, -⟩ := membership_laws partyCharacters hrun
  rw [hstore] at haccepted
  obtain ⟨a, ha, hid, haccount⟩ := (haccepted _ (List.mem_singleton_self _)).mp rfl
  exact ⟨events, db, hrun, hstore, hactivates, a, ha, hid, (Option.some.inj haccount).symm⟩

/-- **A removed member can keep a character**: it is assigned while the removal looks for characters to retire. -/
theorem removed_member_keeps_character : ¬ ∀ characters events, ∀ db : Database CampaignStore CampaignKey MembershipJob,
    Run (Database.Step transact) (.quiet (.new characters)) events db → db.store.AssignedToMembers := by
  intro hclaim
  obtain ⟨events, db₁, hidle, hstore, hrun⟩ := party_runs
  obtain ⟨db, -, hstore₂, hpassed⟩ := hidle.skew
    (show transact (.assignCharacterToCampaign "instance-1" "runtime-1" "account-2" "campaign-1" "character-1"
      "theme-1" 1) _ = .ok _ by
        rw [hstore]
        rfl)
    (show transact (.removeCampaignMember "account-1" "campaign-1" "account-2" 5) _ = .ok _ by
        rw [hstore]
        rfl) (by decide)
  have hassigned := hclaim _ _ db (hrun.append hpassed)
  rw [hstore₂, hstore] at hassigned
  obtain ⟨c, hc, -, hmember⟩ := hassigned _ mem_cons_self rfl
  rw [mem_singleton.mp hc] at hmember
  revert hmember
  decide

end ManchesterArcana.Membership
