import ManchesterArcana.Inspiration.Privacy
import ManchesterArcana.Inspiration.Switches

/-!
# `Inspiration.Deletion` — consents, and the deletion of their participants

The deletion of a participant writes the participant's document and revokes the consents that it sees. A grant reads
the document and writes a consent of its own. Nothing that the one writes is written by the other, so that a grant that
began before the deletion commits after it (`consent_after_deletion`). `consents_lawful` is about all runs in which no
grant has missed a deletion. What it says of versions and of revoked consents does not rest on that: it comes from the
index on versions, and from the key of each consent.
-/

namespace ManchesterArcana.Inspiration

open Effect Store
open List (append_inj' cons_append forall_mem_cons mem_append mem_cons mem_map mem_singleton not_mem_nil)

/-! ## Commands -/

/-- The commands on private inspiration, with the two that are not a campaign's routine. -/
inductive PrivateJob where
  | command (job : InspirationJob)
  | presentationControl (r : Request) (vetoId presentationId : String) (action : PresentationPrivacyAction)
  | deleteParticipant (r : Request) (deletionId participantId : String)

def transactPrivate (draw : WeightedDraw) : PrivateJob → InspirationStore → Except PersistenceError InspirationDecision
  | .command job => transact draw job
  | .presentationControl r vetoId presentationId action => applyPresentationControl r vetoId presentationId action
  | .deleteParticipant r deletionId participantId => deleteParticipant r deletionId participantId

/-! ## The law -/

/-- The commit has written the document, so that it was carried out and neither repeated nor refused. -/
def HasWritten (draw : WeightedDraw) (c : Committed PrivateJob InspirationStore) (k : InspirationKey) : Prop :=
  ∃ d, transactPrivate draw c.job c.snapshot = .ok d ∧ k ∈ d.writes

def Deletes (draw : WeightedDraw) (c : Committed PrivateJob InspirationStore) (participantId : String) : Prop :=
  (∃ r deletionId, c.job = .deleteParticipant r deletionId participantId) ∧ HasWritten draw c (.participant participantId)

def Verifies (draw : WeightedDraw) (c : Committed PrivateJob InspirationStore) (participantId : String) : Prop :=
  (∃ r, c.job = .command (.verifyParticipant r participantId)) ∧ HasWritten draw c (.participant participantId)

/-- After these commits the participant is deleted, and not verified again. -/
def IsDeleted (draw : WeightedDraw) (past : List (Committed PrivateJob InspirationStore)) (participantId : String) :
    Prop :=
  ∃ earlier c later, past = earlier ++ c :: later ∧ Deletes draw c participantId ∧
    ∀ c' ∈ later, ¬ Verifies draw c' participantId

/-- The versions of a participant's consents to a source, in a campaign. -/
def InspirationStore.versionsOf (s : InspirationStore) (campaignId sourceId participantId : String) : List Nat :=
  (s.consents.filter fun c => c.campaignId = campaignId ∧ c.sourceId = sourceId ∧
    c.participantId = participantId).map (·.version)

/-- **The law of consents**, for the commits of a run and the store that they have led to. -/
structure ConsentLaw (draw : WeightedDraw) (past : List (Committed PrivateJob InspirationStore))
    (s : InspirationStore) : Prop where
  oneActive : ∀ c ∈ s.consents, ∀ c' ∈ s.consents, c.state = .active → c'.state = .active → c.SameScope c' → c = c'
  versions : ∀ campaignId sourceId participantId, ∃ n,
    (s.versionsOf campaignId sourceId participantId).Perm (List.range' 1 n)
  revoked : ∀ c ∈ past, ∀ x ∈ c.before.consents, x.state = .revoked →
    x ∈ s.consents ∧ ∀ y ∈ s.consents, y.id = x.id → y.state = .revoked
  deleted : ∀ earlier c later, past = earlier ++ c :: later → ∀ d, transactPrivate draw c.job c.snapshot = .ok d →
    ∀ x ∈ (d.apply c.before).consents, x.state = .active →
      (∀ y ∈ c.before.consents, y.id = x.id → y.state ≠ .active) → ¬ IsDeleted draw earlier x.participantId

/-- **A grant has missed no deletion**: where it passes its checks, the participant's document is still the one that
    it has read. -/
def Unmissed (c : Committed PrivateJob InspirationStore) : Prop :=
  ∀ r grantId command, c.job = .command (.grantConsent r grantId command) →
    r.IsFresh (some r.campaignId) c.snapshot → (∃ campaign safety d, c.snapshot.MayGrant r command campaign safety d) →
    InspirationStore.agree (.participant command.participantId) c.snapshot c.before

/-! ## Writes that only withdraw -/

/-- The write verifies nobody and deletes nobody, and a consent that it changes it revokes. -/
def Write.isWithdrawal : Write → Bool
  | .participant _ | .insertConsent _ => false
  | .consentState _ state => state = .revoked
  | _ => true

/-- Consents are as they were or revoked, and the participants are the same. -/
structure InspirationStore.WithdrawnTo (s t : InspirationStore) : Prop where
  participants : t.participants = s.participants
  active : ∀ x ∈ t.consents, x.state = .active → x ∈ s.consents
  revoked : ∀ x ∈ s.consents, x.state = .revoked → x ∈ t.consents

theorem InspirationStore.WithdrawnTo.refl (s : InspirationStore) : s.WithdrawnTo s := ⟨rfl, fun _ hx _ => hx, fun _ hx _ => hx⟩

variable {s t : InspirationStore} {w : Write} {writes : List Write}

theorem InspirationStore.WithdrawnTo.trans {u : InspirationStore} (h : s.WithdrawnTo t) (h' : t.WithdrawnTo u) :
    s.WithdrawnTo u where
  participants := h'.participants.trans h.participants
  active := fun x hx hactive => h.active x (h'.active x hx hactive) hactive
  revoked := fun x hx hrevoked => h'.revoked x (h.revoked x hx hrevoked) hrevoked

/-- Writes to other documents. -/
theorem InspirationStore.WithdrawnTo.same (hparticipants : t.participants = s.participants)
    (hconsents : t.consents = s.consents) : s.WithdrawnTo t where
  participants := hparticipants
  active := fun _ hx _ => hconsents ▸ hx
  revoked := fun _ hx _ => hconsents ▸ hx

theorem Write.isWithdrawal_withdraws (h : w.isWithdrawal = true) (s : InspirationStore) :
    s.WithdrawnTo (w.apply s) := by
  cases w
  case participant p => cases h
  case insertConsent c => cases h
  case consentState ids state =>
    obtain rfl : state = .revoked := of_decide_eq_true h
    refine ⟨rfl, fun x hx hactive => (active_of_consentState (by decide) hx hactive).1, fun x hx hrevoked => ?_⟩
    by_cases hids : ids.contains x.id = true
    · refine mem_updateWhere.mpr (.inl ⟨x, hx, hids, ?_⟩)
      rw [← hrevoked]
    · exact mem_updateWhere.mpr (.inr ⟨hx, Bool.not_eq_true _ ▸ hids⟩)
  all_goals exact InspirationStore.WithdrawnTo.same rfl rfl

theorem applyAll_withdraws (h : ∀ w ∈ writes, w.isWithdrawal = true) (s : InspirationStore) :
    s.WithdrawnTo (applyAll writes s) := by
  induction writes generalizing s with
  | nil => exact InspirationStore.WithdrawnTo.refl s
  | cons w writes ih =>
    rw [applyAll_cons]
    have hhead := Write.isWithdrawal_withdraws (h w List.mem_cons_self) s
    exact hhead.trans (ih (fun w hw => h w (List.mem_cons_of_mem _ hw)) (w.apply s))

theorem isWithdrawal_of_isSweep (h : w.isSweep = true) : w.isWithdrawal = true := by
  cases w <;> first | rfl | cases h

/-- They write no participant. -/
theorem participant_not_mem_keys (h : ∀ w ∈ writes, w.isWithdrawal = true) (participantId : String) :
    .participant participantId ∉ writes.flatMap Write.keys := by
  intro hmem
  obtain ⟨w, hw, hk⟩ := List.mem_flatMap.mp hmem
  have hw := h w hw
  cases w
  case participant p => cases hw
  case insertConsent c => cases hw
  all_goals simp [Write.keys] at hk

/-! ## What a command does to consents and participants -/

/-- **The commands, as far as consents and participants are concerned.** -/
inductive Touches (s : InspirationStore) : PrivateJob → List Write → Prop where
  | withdraws (job : PrivateJob) (writes : List Write) : (∀ w ∈ writes, w.isWithdrawal = true) → Touches s job writes
  | verifyParticipant (r : Request) (participantId : String) (expired : List String) (receipt : ReceiptDocument) :
      Touches s (.command (.verifyParticipant r participantId))
        [.deleteTombstones expired, .participant ⟨participantId, true⟩, .insertReceipt receipt]
  | deleteParticipant (r : Request) (deletionId participantId : String) (writes : List Write) :
      (∀ w ∈ writes, w.isWithdrawal = true) →
      Touches s (.deleteParticipant r deletionId participantId) (.participant ⟨participantId, false⟩ :: writes)
  | expire (r : Request) (grantId : String) (command : GrantConsentCommand) (stale : List String) :
      (∀ id ∈ stale, ∃ c ∈ s.consents, c.id = id ∧ c.state = .active) →
      Touches s (.command (.grantConsent r grantId command)) [.consentState stale .expired]
  | grantConsent (r : Request) (grantId : String) (command : GrantConsentCommand) (stale : List String)
      (campaign : InspirationCampaignDocument) (safety : CampaignSafetyDocument) (source : SourceDocument)
      (consent : ConsentDocument) (receipt : ReceiptDocument) :
      r.IsFresh (some r.campaignId) s → s.MayGrant r command campaign safety source →
      (∀ id ∈ stale, ∃ c ∈ s.consents, c.id = id ∧ c.state = .active) →
      consent.participantId = command.participantId →
      Touches s (.command (.grantConsent r grantId command))
        [.consentState stale .expired, .insertConsent consent, .insertReceipt receipt]

section Inversion

variable {draw : WeightedDraw} {s : InspirationStore} {d : InspirationDecision} {r : Request}

variable {participantId : String} {writes : List Write}

theorem verifyParticipant_touches (h : verifyParticipant r participantId s = .ok d) :
    ∃ writes answer, d = decided writes answer ∧ Touches s (.command (.verifyParticipant r participantId)) writes := by
  obtain ⟨campaign, -, h⟩ := bind_eq_ok.mp h
  rcases receipted_eq_ok h with ⟨-, answer, rfl⟩ | ⟨-, h⟩
  · exact ⟨[], answer, rfl, .withdraws _ _ fun _ hw => by cases hw⟩
  split at h
  · obtain rfl := Except.ok.inj h
    refine ⟨_, _, rfl, .withdraws _ _ fun w hw => ?_⟩
    rw [mem_singleton.mp hw]
    rfl
  · obtain rfl := Except.ok.inj h
    exact ⟨_, _, rfl, .verifyParticipant r participantId _ _⟩

theorem deleteParticipant_touches {deletionId : String}
    (h : deleteParticipant r deletionId participantId s = .ok d) :
    ∃ writes answer, d = decided writes answer ∧ (∀ w ∈ writes, w.isPlain = true) ∧
      Touches s (.deleteParticipant r deletionId participantId) writes := by
  obtain ⟨campaign, -, h⟩ := bind_eq_ok.mp h
  have hnothing : ∀ answer, ∃ writes answer', decided [] answer = decided writes answer' ∧
      (∀ w ∈ writes, w.isPlain = true) ∧ Touches s (.deleteParticipant r deletionId participantId) writes := fun answer =>
    ⟨[], answer, rfl, (fun _ hw => by cases hw), .withdraws _ _ fun _ hw => by cases hw⟩
  rcases receipted_eq_ok h with ⟨-, answer, rfl⟩ | ⟨-, h⟩
  · exact hnothing answer
  split at h
  · obtain rfl := Except.ok.inj h
    exact hnothing _
  split at h
  · obtain rfl := Except.ok.inj h
    exact hnothing _
  obtain ⟨-, -, h⟩ := bind_eq_ok.mp h
  obtain ⟨-, -, h⟩ := bind_eq_ok.mp h
  obtain rfl := Except.ok.inj h
  refine ⟨_, _, rfl, fun w hw => ?_, ?_⟩
  · simp only [cons_append, mem_cons, mem_append, mem_map, not_mem_nil, or_false] at hw
    rcases hw with rfl | rfl | ((⟨source, -, rfl⟩ | hw) | rfl) | rfl
    all_goals first | rfl | exact isPlain_of_isSweep (sweepWork_isSweep hw)
  -- After the participant: consents, sources, derived work, the tombstone and the receipt.
  simp only [cons_append]
  refine .deleteParticipant r deletionId participantId _ fun w hw => ?_
  simp only [mem_cons, mem_append, mem_map, not_mem_nil, or_false] at hw
  rcases hw with rfl | ((⟨source, -, rfl⟩ | hw) | rfl) | rfl
  all_goals first | rfl | exact isWithdrawal_of_isSweep (sweepWork_isSweep hw)

theorem applyPresentationControl_touches {vetoId presentationId : String} {action : PresentationPrivacyAction}
    (h : applyPresentationControl r vetoId presentationId action s = .ok d) :
    ∃ writes answer, d = decided writes answer ∧ ∀ w ∈ writes, w.isPlain = true ∧ w.isWithdrawal = true := by
  obtain ⟨campaign, -, h⟩ := bind_eq_ok.mp h
  rcases receipted_eq_ok h with ⟨-, answer, rfl⟩ | ⟨-, h⟩
  · exact ⟨[], answer, rfl, fun _ hw => by cases hw⟩
  obtain ⟨loaded, -, h⟩ := bind_eq_ok.mp h
  split at h
  · obtain rfl := Except.ok.inj h
    exact ⟨[], _, rfl, fun _ hw => by cases hw⟩
  split at h
  · obtain ⟨-, h⟩ := seq_eq_ok.mp h
    obtain rfl := Except.ok.inj h
    refine ⟨_, _, rfl, fun w hw => ?_⟩
    simp only [cons_append, mem_cons, mem_append, not_mem_nil, or_false] at hw
    rcases hw with rfl | hw | rfl
    · exact ⟨rfl, rfl⟩
    · exact ⟨isPlain_of_isSweep (sweepWork_isSweep hw), isWithdrawal_of_isSweep (sweepWork_isSweep hw)⟩
    · exact ⟨rfl, rfl⟩
  split at h
  · obtain rfl := Except.ok.inj h
    refine ⟨_, _, rfl, fun w hw => ?_⟩
    simp only [cons_append, List.nil_append, mem_cons, not_mem_nil, or_false] at hw
    rcases hw with rfl | rfl | rfl <;> exact ⟨rfl, rfl⟩
  split at h
  · obtain rfl := Except.ok.inj h
    refine ⟨_, _, rfl, fun w hw => ?_⟩
    simp only [mem_cons, not_mem_nil, or_false] at hw
    rcases hw with rfl | rfl <;> exact ⟨rfl, rfl⟩
  · obtain rfl := Except.ok.inj h
    refine ⟨_, _, rfl, fun w hw => ?_⟩
    simp only [cons_append, List.nil_append, mem_cons, not_mem_nil, or_false] at hw
    rcases hw with rfl | rfl | rfl | rfl <;> exact ⟨rfl, rfl⟩

/-- A receipt withdraws nothing. -/
theorem forall_isWithdrawal_append {x : ReceiptDocument}
    (h : ∀ w ∈ writes, w.isWithdrawal = true) : ∀ w ∈ writes ++ [.insertReceipt x], w.isWithdrawal = true := by
  intro w hw
  rcases mem_append.mp hw with hw | hw
  · exact h w hw
  · rw [mem_singleton.mp hw]
    rfl

/-- The commands of a campaign. -/
theorem Decides.touches {job : InspirationJob} (h : Decides draw s job writes)
    (hjob : ∀ r participantId, job ≠ .verifyParticipant r participantId) : Touches s (.command job) writes := by
  cases h
  case nothing => exact .withdraws _ _ fun _ hw => by cases hw
  case setGlobalInspirationControl =>
    refine .withdraws _ _ (forall_mem_cons.mpr ⟨rfl, forall_isWithdrawal_append fun w hw => ?_⟩)
    split at hw
    · exact isWithdrawal_of_isSweep (quarantineAll_isSweep hw)
    · cases hw
  case configureCampaign =>
    refine .withdraws _ _ (forall_mem_cons.mpr ⟨rfl, forall_isWithdrawal_append fun w hw => ?_⟩)
    split at hw
    · cases hw
    · rcases mem_cons.mp hw with rfl | hw
      · rfl
      · exact isWithdrawal_of_isSweep (sweepWork_isSweep hw)
  case setCampaignPause => exact .withdraws _ _ (by simp [Write.isWithdrawal])
  case disableCampaign =>
    exact .withdraws _ _ (forall_mem_cons.mpr ⟨rfl, forall_mem_cons.mpr
      ⟨rfl, forall_isWithdrawal_append fun w hw => isWithdrawal_of_isSweep (sweepWork_isSweep hw)⟩⟩)
  case verifyParticipant r participantId _ _ _ => exact absurd rfl (hjob r participantId)
  case clearTombstones r participantId _ => exact absurd rfl (hjob r participantId)
  case registerSource => exact .withdraws _ _ (by simp [Write.isWithdrawal])
  case reviewSource => exact .withdraws _ _ (by simp [Write.isWithdrawal])
  case expire r grantId command stale hstale =>
    refine .expire r grantId command stale fun id hid => ?_
    obtain ⟨c, hc, hcid, -, hactive⟩ := hstale id hid
    exact ⟨c, hc, hcid, hactive⟩
  case grantConsent r grantId command stale campaign safety source consent receipt hfresh hmay hstale _ _ hconsent =>
    refine .grantConsent r grantId command stale campaign safety source consent receipt hfresh hmay (fun id hid => ?_) ?_
    · obtain ⟨c, hc, hcid, -, hactive⟩ := hstale id hid
      exact ⟨c, hc, hcid, hactive⟩
    · rw [hconsent]
  case revokeConsent =>
    exact .withdraws _ _ (forall_mem_cons.mpr
      ⟨rfl, forall_isWithdrawal_append fun w hw => isWithdrawal_of_isSweep (sweepWork_isSweep hw)⟩)
  case applyVeto =>
    exact .withdraws _ _ (forall_mem_cons.mpr
      ⟨rfl, forall_isWithdrawal_append fun w hw => isWithdrawal_of_isSweep (sweepWork_isSweep hw)⟩)
  case reserveSelection => exact .withdraws _ _ (by simp [Write.isWithdrawal])
  case registerDerivedWork => exact .withdraws _ _ (by simp [Write.isWithdrawal])
  case commitSessionEvent => exact .withdraws _ _ (by simp [Write.isWithdrawal])

theorem transactPrivate_touches {job : PrivateJob} (h : transactPrivate draw job s = .ok d) :
    ∃ writes answer, d = decided writes answer ∧ Touches s job writes := by
  cases job with
  | command job =>
    by_cases hverify : ∃ r participantId, job = .verifyParticipant r participantId
    · obtain ⟨r, participantId, rfl⟩ := hverify
      exact verifyParticipant_touches h
    · obtain ⟨writes, answer, rfl, hdecides⟩ := transact_decides h
      exact ⟨writes, answer, rfl, hdecides.touches fun r participantId heq => hverify ⟨r, participantId, heq⟩⟩
  | presentationControl r vetoId presentationId action =>
    obtain ⟨writes, answer, rfl, hwrites⟩ := applyPresentationControl_touches h
    exact ⟨writes, answer, rfl, .withdraws _ _ fun w hw => (hwrites w hw).2⟩
  | deleteParticipant r deletionId participantId =>
    obtain ⟨writes, answer, rfl, -, htouches⟩ := deleteParticipant_touches h
    exact ⟨writes, answer, rfl, htouches⟩

end Inversion

/-- **The transactions, for what is kept**, deletions among them. -/
theorem transactPrivate_isolated (draw : WeightedDraw) : Isolated (transactPrivate draw) InspirationStore.agree
    (fun _ => True) InspirationStore.Kept InspirationStore.Grown where
  agree_refl := InspirationStore.agree_refl
  agree_trans := InspirationStore.agree_trans
  framed := fun hbody k hk s' => by
    obtain ⟨writes, answer, rfl, -⟩ := transactPrivate_touches hbody
    exact applyAll_framed hk s'
  later_refl := InspirationStore.Grown.refl
  later_trans := InspirationStore.Grown.trans
  commit := fun {job s s' d} h h' hgrown _ hbody hagree => by
    cases job with
    | command job => exact (transact_isolated draw).commit h h' hgrown trivial hbody hagree
    | presentationControl r vetoId presentationId action =>
      obtain ⟨writes, answer, rfl, hwrites⟩ := applyPresentationControl_touches hbody
      exact h'.writes fun w hw => (hwrites w hw).1
    | deleteParticipant r deletionId participantId =>
      obtain ⟨writes, answer, rfl, hplain, -⟩ := deleteParticipant_touches hbody
      exact h'.writes hplain

/-! ## Commits -/

/-- The versions of a participant's consents to a source are numbered from one on, each of them once. -/
theorem versionsOf_perm (h : s.Kept) (campaignId sourceId participantId : String) :
    ∃ n, (s.versionsOf campaignId sourceId participantId).Perm (List.range' 1 n) := by
  obtain ⟨hearlier, hlatest⟩ := InspirationStore.nextVersion_spec h campaignId sourceId participantId
  have hmem : ∀ c, c ∈ s.consents.filter (fun c => c.campaignId = campaignId ∧ c.sourceId = sourceId ∧
      c.participantId = participantId) ↔ c ∈ s.consents ∧ c.IsVersion campaignId sourceId participantId c.version := by
    intro c
    rw [List.mem_filter, decide_eq_true_eq]
    unfold ConsentDocument.IsVersion
    simp only [and_true]
  have hnodup : (s.versionsOf campaignId sourceId participantId).Nodup := by
    refine List.Nodup.map_on (fun c hc c' hc' heq => ?_) (h.consentIds.of_map.filter _)
    obtain ⟨hc, h₁, h₂, h₃, -⟩ := (hmem c).mp hc
    obtain ⟨hc', h₁', h₂', h₃', -⟩ := (hmem c').mp hc'
    refine List.inj_on_of_nodup_map h.consentIds hc hc' (h.versions c hc c' hc' ?_)
    exact ⟨h₁'.trans h₁.symm, h₂'.trans h₂.symm, h₃'.trans h₃.symm, heq.symm⟩
  refine ⟨s.nextVersion campaignId sourceId participantId - 1,
    (List.perm_ext_iff_of_nodup hnodup List.nodup_range').mpr fun n => ?_⟩
  rw [List.mem_range'_1]
  unfold InspirationStore.versionsOf
  rw [mem_map]
  constructor
  · rintro ⟨c, hc, rfl⟩
    obtain ⟨hc, hversion⟩ := (hmem c).mp hc
    have hlt := hlatest c hc hversion
    have hpositive := h.positive c hc
    omega
  · rintro ⟨hpositive, hlt⟩
    obtain ⟨c, hc, h₁, h₂, h₃, rfl⟩ := hearlier n hpositive (by omega)
    exact ⟨c, (hmem c).mpr ⟨hc, h₁, h₂, h₃, rfl⟩, rfl⟩

theorem participantIsVerified_write (s : InspirationStore) (p : ParticipantDocument) (participantId : String) :
    ((Write.participant p).apply s).participantIsVerified participantId =
      if participantId = p.id then p.isVerified else s.participantIsVerified participantId := by
  unfold InspirationStore.participantIsVerified
  show (s.participants.filter (·.id ≠ p.id) ++ [p]).any _ = _
  rw [List.any_append, List.any_filter]
  by_cases hid : participantId = p.id
  · subst hid
    have hothers : (s.participants.any fun x => decide (x.id ≠ p.id) && decide (x.id = p.id ∧ x.isVerified = true)) =
        false := by
      rw [List.any_eq_false]
      intro x _
      by_cases hx : x.id = p.id <;> simp [hx]
    rw [hothers, if_pos rfl]
    simp
  · have hsame : (fun x : ParticipantDocument => decide (x.id ≠ p.id) &&
        decide (x.id = participantId ∧ x.isVerified = true)) =
        fun x => decide (x.id = participantId ∧ x.isVerified = true) := by
      funext x
      by_cases hx : x.id = participantId
      · simp [hx, hid]
      · simp [hx]
    rw [hsame, if_neg hid]
    simp [Ne.symm hid]

section Commits

variable {draw : WeightedDraw} {past : List (Committed PrivateJob InspirationStore)}
  {c : Committed PrivateJob InspirationStore} {s s' : InspirationStore} {job : PrivateJob} {writes : List Write}
  {answer : Except PrivateInspirationError InspirationResponse} {participantId : String}

/-- Who is deleted after one more commit was deleted by it, or before. -/
theorem isDeleted_snoc (h : IsDeleted draw (past ++ [c]) participantId) :
    Deletes draw c participantId ∨ (IsDeleted draw past participantId ∧ ¬ Verifies draw c participantId) := by
  obtain ⟨earlier, c', later, heq, hdeletes, hlater⟩ := h
  rcases List.eq_nil_or_concat later with rfl | ⟨later, last, rfl⟩
  · obtain ⟨-, hlast⟩ := append_inj' heq rfl
    rw [List.cons_eq_cons.mp hlast |>.1]
    exact .inl hdeletes
  · rw [List.concat_eq_append, ← cons_append, ← List.append_assoc] at heq
    obtain ⟨rfl, hlast⟩ := append_inj' heq rfl
    rw [(List.cons_eq_cons.mp hlast).1]
    rw [List.concat_eq_append] at hlater
    exact .inr ⟨⟨earlier, c', later, rfl, hdeletes, fun x hx => hlater x (List.mem_append_left _ hx)⟩,
      hlater last (List.mem_append_right _ List.mem_cons_self)⟩

/-- What a commit has written is what its transaction decided. -/
theorem hasWritten_iff (hbody : transactPrivate draw job s = .ok (decided writes answer)) {k : InspirationKey} :
    HasWritten draw ⟨job, s, s'⟩ k ↔ k ∈ writes.flatMap Write.keys := by
  constructor
  · rintro ⟨d, hd, hk⟩
    obtain rfl := Except.ok.inj (hbody.symm.trans hd)
    exact hk
  · exact fun hk => ⟨_, hbody, hk⟩

/-- **Who is deleted is not verified**, after one more commit. -/
theorem Touches.unverified (htouches : Touches s job writes)
    (hbody : transactPrivate draw job s = .ok (decided writes answer))
    (hpast : ∀ p, IsDeleted draw past p → s'.participantIsVerified p = false)
    (hdeleted : IsDeleted draw (past ++ [⟨job, s, s'⟩]) participantId) :
    (applyAll writes s').participantIsVerified participantId = false := by
  have hsame : ∀ {t u : InspirationStore}, t.participants = u.participants →
      t.participantIsVerified participantId = u.participantIsVerified participantId := fun h => by
    unfold InspirationStore.participantIsVerified
    rw [h]
  cases htouches
  case withdraws hwrites =>
    rw [hsame (applyAll_withdraws hwrites s').participants]
    rcases isDeleted_snoc hdeleted with ⟨-, hwritten⟩ | ⟨hbefore, -⟩
    · exact absurd ((hasWritten_iff hbody).mp hwritten) (participant_not_mem_keys hwrites participantId)
    · exact hpast participantId hbefore
  case verifyParticipant r verifiedId expired receipt =>
    show ((Write.participant ⟨verifiedId, true⟩).apply s').participantIsVerified participantId = false
    rw [participantIsVerified_write]
    rcases isDeleted_snoc hdeleted with ⟨⟨r', deletionId, heq⟩, -⟩ | ⟨hbefore, hnot⟩
    · cases heq
    · by_cases hid : participantId = verifiedId
      · subst hid
        refine absurd ⟨⟨r, rfl⟩, (hasWritten_iff hbody).mpr ?_⟩ hnot
        simp [Write.keys]
      · rw [if_neg hid]
        exact hpast participantId hbefore
  case deleteParticipant r deletionId deletedId writes hwrites =>
    rw [applyAll_cons, hsame (applyAll_withdraws hwrites _).participants, participantIsVerified_write]
    by_cases hid : participantId = deletedId
    · rw [if_pos hid]
    · rw [if_neg hid]
      rcases isDeleted_snoc hdeleted with ⟨⟨r', deletionId', heq⟩, -⟩ | ⟨hbefore, -⟩
      · cases heq
        exact absurd rfl hid
      · exact hpast participantId hbefore
  case expire =>
    rcases isDeleted_snoc hdeleted with ⟨⟨r', deletionId', heq⟩, -⟩ | ⟨hbefore, -⟩
    · cases heq
    · exact hpast participantId hbefore
  case grantConsent =>
    rcases isDeleted_snoc hdeleted with ⟨⟨r', deletionId', heq⟩, -⟩ | ⟨hbefore, -⟩
    · cases heq
    · exact hpast participantId hbefore

variable {x : ConsentDocument}

/-- **A consent becomes active where it is granted**, and nowhere else. -/
theorem Touches.granted (htouches : Touches s job writes)
    (hx : x ∈ (applyAll writes s').consents) (hactive : x.state = .active)
    (hnew : ∀ y ∈ s'.consents, y.id = x.id → y.state ≠ .active) :
    ∃ r grantId command campaign safety d, job = .command (.grantConsent r grantId command) ∧
      r.IsFresh (some r.campaignId) s ∧ s.MayGrant r command campaign safety d ∧
      x.participantId = command.participantId := by
  cases htouches
  case withdraws hwrites =>
    have hold := (applyAll_withdraws hwrites s').active x hx hactive
    exact absurd hactive (hnew x hold rfl)
  case verifyParticipant => exact absurd hactive (hnew x hx rfl)
  case deleteParticipant r deletionId deletedId writes hwrites =>
    rw [applyAll_cons] at hx
    have hold := (applyAll_withdraws hwrites _).active x hx hactive
    exact absurd hactive (hnew x hold rfl)
  case expire =>
    have hold := (active_of_consentState (by decide) hx hactive).1
    exact absurd hactive (hnew x hold rfl)
  case grantConsent r grantId command stale campaign safety source consent receipt hfresh hmay hstale hconsent =>
    rcases mem_append.mp hx with hx | hx
    · have hold := (active_of_consentState (by decide) hx hactive).1
      exact absurd hactive (hnew x hold rfl)
    · refine ⟨r, grantId, command, campaign, safety, source, rfl, hfresh, hmay, ?_⟩
      rw [mem_singleton.mp hx]
      exact hconsent

/-- A revoked consent is not among those that expire: it was active in the snapshot, and its key was not written since. -/
theorem revoked_of_expire (h' : s'.Kept) {stale : List String}
    (hstale : ∀ id ∈ stale, ∃ c ∈ s.consents, c.id = id ∧ c.state = .active)
    (hagree : ∀ id ∈ stale, InspirationStore.agree (.consent id) s s') (hx : x ∈ s'.consents)
    (hrevoked : x.state = .revoked) : x ∈ ((Write.consentState stale .expired).apply s').consents := by
  refine mem_updateWhere.mpr (.inr ⟨hx, ?_⟩)
  rw [List.contains_eq_mem, decide_eq_false_iff_not]
  intro hmem
  obtain ⟨c, hc, hid, hactive⟩ := hstale x.id hmem
  have hseen : c ∈ s'.consents := (hagree x.id hmem c hid).mp hc
  obtain rfl := List.inj_on_of_nodup_map h'.consentIds hseen hx hid
  rw [hactive] at hrevoked
  cases hrevoked

/-- **A revoked consent stays revoked.** -/
theorem Touches.revoked (htouches : Touches s job writes) (h' : s'.Kept)
    (hagree : ∀ k ∈ writes.flatMap Write.keys, InspirationStore.agree k s s')
    (hx : x ∈ s'.consents) (hrevoked : x.state = .revoked) : x ∈ (applyAll writes s').consents := by
  cases htouches
  case withdraws hwrites => exact (applyAll_withdraws hwrites s').revoked x hx hrevoked
  case verifyParticipant => exact hx
  case deleteParticipant r deletionId deletedId writes hwrites =>
    rw [applyAll_cons]
    exact (applyAll_withdraws hwrites _).revoked x hx hrevoked
  case expire r grantId command stale hstale =>
    refine revoked_of_expire h' hstale (fun id hid => hagree _ ?_) hx hrevoked
    exact List.mem_append_left _ (List.mem_map_of_mem hid)
  case grantConsent r grantId command stale campaign safety source consent receipt _ _ hstale _ =>
    refine List.mem_append_left _ (revoked_of_expire h' hstale (fun id hid => hagree _ ?_) hx hrevoked)
    exact List.mem_append_left _ (List.mem_map_of_mem hid)

/-- **A commit that has missed no deletion keeps the law.** -/
theorem ConsentLaw.commit (hlaw : ConsentLaw draw past s') (hpast : ∀ p, IsDeleted draw past p →
      s'.participantIsVerified p = false) (h' : s'.Kept) (hkept : (applyAll writes s').Kept)
    (htouches : Touches s job writes) (hbody : transactPrivate draw job s = .ok (decided writes answer))
    (hagree : ∀ k ∈ writes.flatMap Write.keys, InspirationStore.agree k s s')
    (hunmissed : Unmissed ⟨job, s, s'⟩) : ConsentLaw draw (past ++ [⟨job, s, s'⟩]) (applyAll writes s') where
  oneActive := fun c hc c' hc' hactive hactive' hscope =>
    List.inj_on_of_nodup_map hkept.consentIds hc hc' (hkept.oneActive c hc c' hc' hactive hactive' hscope)
  versions := versionsOf_perm hkept
  revoked := fun c hc x hx hrevoked => by
    have hold : x ∈ s'.consents := by
      rcases mem_append.mp hc with hc | hc
      · exact (hlaw.revoked c hc x hx hrevoked).1
      · rw [mem_singleton.mp hc] at hx
        exact hx
    have hstays := htouches.revoked h' hagree hold hrevoked
    refine ⟨hstays, fun y hy hid => ?_⟩
    rw [List.inj_on_of_nodup_map hkept.consentIds hy hstays hid]
    exact hrevoked
  deleted := fun earlier c later heq d hd x hx hactive hnew => by
    rcases List.eq_nil_or_concat later with rfl | ⟨later, last, rfl⟩
    · obtain ⟨rfl, hlast⟩ := append_inj' heq rfl
      obtain rfl := (List.cons_eq_cons.mp hlast).1
      obtain rfl := Except.ok.inj (hbody.symm.trans hd)
      obtain ⟨r, grantId, command, campaign, safety, source, hjob, hfresh, hmay, hparticipant⟩ :=
        htouches.granted hx hactive hnew
      intro hdeleted
      -- The grant has read that the participant is verified, and this is still so.
      have hunverified := hpast _ hdeleted
      rw [hparticipant] at hunverified
      have hverified := hmay.verified
      unfold InspirationStore.participantIsVerified at hverified hunverified
      obtain ⟨p, hp, hid⟩ := List.any_eq_true.mp hverified
      have hmem := (hunmissed r grantId command hjob hfresh ⟨campaign, safety, source, hmay⟩ p
        (of_decide_eq_true hid).1).mp hp
      exact List.any_eq_false.mp hunverified p hmem hid
    · rw [List.concat_eq_append, ← cons_append, ← List.append_assoc] at heq
      obtain ⟨rfl, -⟩ := append_inj' heq rfl
      exact hlaw.deleted earlier c later rfl d hd x hx hactive hnew

end Commits

theorem consentLaw_new (draw : WeightedDraw) (campaigns : List InspirationCampaignDocument)
    (party : List PartyCharacter) : ConsentLaw draw [] (.new campaigns party) where
  oneActive := fun c hc => by cases hc
  versions := versionsOf_perm (kept_new campaigns party)
  revoked := fun c hc => by cases hc
  deleted := fun earlier c later heq => by simp at heq

/-- **In every run in which no grant has missed a deletion, the law of consents holds.** -/
theorem consents_lawful (draw : WeightedDraw) (campaigns : List InspirationCampaignDocument)
    (party : List PartyCharacter) {events : List (Event PrivateJob InspirationStore)}
    {db : Database InspirationStore InspirationKey PrivateJob}
    (hrun : Run (Database.Step (transactPrivate draw)) (Database.quiet (.new campaigns party)) events db)
    (hunmissed : Admitted Unmissed events) : ConsentLaw draw (commitsOf events) db.store := by
  have iso := (transactPrivate_isolated draw).admitting fun (c : Committed PrivateJob InspirationStore)
    (_ : Unmissed c) => trivial
  have hnone : ∀ p, ¬ IsDeleted draw [] p := by
    rintro p ⟨earlier, c, later, heq, -⟩
    simp at heq
  have hlaw := @Isolated.history _ _ _ _ _ _ _ _ _ _ _ iso
    (fun past s => ConsentLaw draw past s ∧ ∀ p, IsDeleted draw past p → s.participantIsVerified p = false)
    ?_ _ _ _ hrun hunmissed (sound_quiet (kept_new campaigns party)) []
    ⟨consentLaw_new draw campaigns party, fun p hp => absurd hp (hnone p)⟩
  · exact hlaw.1
  · rintro past job s s' d h h' hgrown hadmits hbody hagree ⟨hlaw, hpast⟩
    obtain ⟨hkept, -⟩ := iso.commit h h' hgrown hadmits hbody hagree
    obtain ⟨writes, answer, rfl, htouches⟩ := transactPrivate_touches hbody
    exact ⟨hlaw.commit hpast h' hkept htouches hbody hagree hadmits, fun p hp => htouches.unverified hbody hpast hp⟩

/-! ## A participant of the walk -/

/-- **A grant on its own snapshot has missed nothing.** -/
theorem unmissed_of_serial {c : Committed PrivateJob InspirationStore} (h : c.snapshot = c.before) : Unmissed c := by
  intro r grantId command _ _ _
  rw [h]
  exact InspirationStore.agree_refl _ _

/-- The campaign is set up, the participant verified and the source approved. -/
def canalSetUp : List PrivateJob := (canalJobs.take 5).map .command

def canalGrant : PrivateJob :=
  .command (.grantConsent (canalRequest "key-6") "grant-1" ⟨"event-source-canal", 1, "sha256:canal", "participant:1",
    .privateCampaign, .text, .highFictionDistanceV1, .redactDerived, ["water"], 1000⟩)

def canalDeletion : PrivateJob := .deleteParticipant (canalRequest "key-7") "deletion-1" "participant:1"

/-- The consent is granted, and revoked when the participant is deleted. -/
theorem consents_lawful_canal : ∃ events, ∃ db : Database InspirationStore InspirationKey PrivateJob,
    Run (Database.Step (transactPrivate firstDraw)) (.quiet (.new [canalCampaign] canalParty)) events db ∧
    (∃ x ∈ db.store.consents, x.state = .revoked) ∧ ConsentLaw firstDraw (commitsOf events) db.store := by
  have hend : (inTurn (transactPrivate firstDraw) (canalSetUp ++ [canalGrant, canalDeletion])
      (.new [canalCampaign] canalParty)).any (fun t => t.consents.any (·.state = .revoked)) = true := by
    with_unfolding_all decide
  obtain ⟨t, ht, hrevoked⟩ := (Option.any_eq_true _ _).mp hend
  obtain ⟨events, db, -, hstore, hrun, hserial⟩ := (idle_quiet _).inTurn ht
  refine ⟨events, db, hrun, ?_, consents_lawful firstDraw [canalCampaign] canalParty hrun
    fun c hc => unmissed_of_serial (hserial c hc).1⟩
  rw [hstore]
  obtain ⟨x, hx, hstate⟩ := List.any_eq_true.mp hrevoked
  exact ⟨x, hx, of_decide_eq_true hstate⟩

/-- The deletion and the grant, decided over one store, write apart; and the consent is active after both. -/
def grantOutlives (t : InspirationStore) : Bool :=
  match transactPrivate firstDraw canalDeletion t, transactPrivate firstDraw canalGrant t with
  | .ok d, .ok d' => decide (∀ k ∈ d'.writes, k ∉ d.writes) && decide (.participant "participant:1" ∈ d.writes) &&
      (d.apply t).consents.isEmpty &&
      (d'.apply (d.apply t)).consents.any fun x => x.state = .active ∧ x.participantId = "participant:1"
  | _, _ => false

/-- **A consent can become active after its participant was deleted**: the grant began before. -/
theorem consent_after_deletion : ¬ ∀ draw campaigns party events,
    ∀ db : Database InspirationStore InspirationKey PrivateJob,
    Run (Database.Step (transactPrivate draw)) (.quiet (.new campaigns party)) events db →
      ConsentLaw draw (commitsOf events) db.store := by
  intro hclaim
  have hend : (inTurn (transactPrivate firstDraw) canalSetUp (.new [canalCampaign] canalParty)).any
      grantOutlives = true := by
    with_unfolding_all decide
  obtain ⟨t, ht, hboth⟩ := (Option.any_eq_true _ _).mp hend
  obtain ⟨events, db, hidle, rfl, hrun, -⟩ := (idle_quiet _).inTurn ht
  unfold grantOutlives at hboth
  cases hdeletion : transactPrivate firstDraw canalDeletion db.store with
  | error e =>
    rw [hdeletion] at hboth
    cases hboth
  | ok d =>
    cases hgrant : transactPrivate firstDraw canalGrant db.store with
    | error e =>
      rw [hdeletion, hgrant] at hboth
      cases hboth
    | ok d' =>
      rw [hdeletion, hgrant] at hboth
      simp only [Bool.and_eq_true, decide_eq_true_eq] at hboth
      obtain ⟨⟨⟨hdisjoint, hwritten⟩, hempty⟩, hactive⟩ := hboth
      obtain ⟨db', -, -, hskew⟩ := hidle.skew hdeletion hgrant hdisjoint
      have hlaw := hclaim _ _ _ _ db' (hrun.append hskew)
      obtain ⟨x, hx, hstate⟩ := List.any_eq_true.mp hactive
      rw [decide_eq_true_eq] at hstate
      have hcommits : commitsOf (events ++ [.begin canalDeletion, .begin canalGrant,
          .commit ⟨canalDeletion, db.store, db.store⟩, .commit ⟨canalGrant, db.store, d.apply db.store⟩]) =
          (commitsOf events ++ [⟨canalDeletion, db.store, db.store⟩]) ++
            ⟨canalGrant, db.store, d.apply db.store⟩ :: [] := by
        unfold commitsOf
        rw [List.filterMap_append, List.append_assoc]
        rfl
      refine hlaw.deleted _ _ _ hcommits d' hgrant x hx hstate.1 (fun y hy => ?_) ?_
      · rw [List.isEmpty_iff.mp hempty] at hy
        cases hy
      · rw [hstate.2]
        exact ⟨commitsOf events, _, [], rfl, ⟨⟨_, _, rfl⟩, d, hdeletion, hwritten⟩, fun c hc => by cases hc⟩

end ManchesterArcana.Inspiration
