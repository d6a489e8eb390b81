import Mathlib.Data.List.Perm.Subperm
import ManchesterArcana.Inspiration.Keeping
import ManchesterArcana.Store.Script

/-!
# `Inspiration.Consent` — derived work has the consent of all participants

Registering work looks at vetoes and consents, and a veto or a revocation looks at the work; each writes what the
other reads only. Two of them on one snapshot both commit, and the work is pending under a veto
(`work_under_veto`). `work_is_permitted` says which commits keep the work permitted.
-/

namespace ManchesterArcana.Inspiration

open Effect Store
open List (cons_append mem_cons mem_cons_self mem_filter mem_map)

/-! ## The law -/

/-- The consent allows a participant's part in work of a policy from this selection. -/
structure ConsentDocument.Allows (c : ConsentDocument) (w : WorkDocument) (x : SelectionDocument)
    (participantId : String) : Prop where
  campaign : c.campaignId = w.campaignId
  source : c.sourceId = w.sourceId ∧ c.sourceRevision = w.sourceRevision
  participant : c.participantId = participantId
  audience : c.audience = x.audience
  media : c.media = x.media
  policy : artifactPolicyRank c.artifactPolicy ≤ artifactPolicyRank w.artifactPolicy

/-- **The source of the work is not vetoed, and every participant of it consents**, unrevoked. -/
def InspirationStore.Permits (s : InspirationStore) (w : WorkDocument) : Prop :=
  ∃ d ∈ s.sources, w.IsOf d ∧ s.sourceIsVetoed w.campaignId d = false ∧
    ∃ x ∈ s.selections, x.id = w.sourceSelectionId ∧
      ∀ p ∈ d.participants, ∃ c ∈ s.consents, c.state ≠ .revoked ∧ c.Allows w x p

def InspirationStore.WorkIsPermitted (s : InspirationStore) : Prop :=
  ∀ w ∈ s.work, w.state = .pending → s.Permits w

/-! ## Commits that pass each other -/

/-- Work that a command is to sweep when it is carried out on a snapshot and committed on another store. -/
inductive Sweeps (s s' : InspirationStore) (w : WorkDocument) : InspirationJob → Prop where
  | setGlobalInspirationControl (r : Request) (expected : Nat) :
      r.IsFresh none s → (s.control.getD defaultGlobalControl).revision = expected →
      Sweeps s s' w (.setGlobalInspirationControl r expected true)
  | configureCampaign (r : Request) (deployment : Bool) (expected : Nat) (setup : Option SafetySetupEvidence)
      (campaign : InspirationCampaignDocument) :
      campaign ∈ s.campaigns → campaign.id = r.campaignId → r.IsFresh (some r.campaignId) s →
      (campaign.safety.map (·.revision)).getD 0 = expected → w.campaignId = r.campaignId →
      Sweeps s s' w (.configureCampaign r deployment expected false setup)
  | disableCampaign (r : Request) (expected : Nat) (campaign : InspirationCampaignDocument)
      (safety : CampaignSafetyDocument) :
      campaign ∈ s.campaigns → campaign.id = r.campaignId → r.IsFresh (some r.campaignId) s →
      campaign.safety = some safety → safety.revision = expected → w.campaignId = r.campaignId →
      Sweeps s s' w (.disableCampaign r expected)
  | revokeConsent (r : Request) (grantId requester : String) (c : ConsentDocument) :
      r.IsFresh (some r.campaignId) s → c ∈ s.consents → c.id = grantId → c.IsRevocableBy r.campaignId requester →
      w.campaignId = r.campaignId → w.sourceId = c.sourceId → w.sourceRevision = c.sourceRevision →
      Sweeps s s' w (.revokeConsent r grantId requester)
  | applyVeto (r : Request) (vetoId participantId : String) (scope : InspirationVetoScope) :
      r.IsFresh (some r.campaignId) s → s.VetoIsOpen participantId scope →
      s'.workInScope r.campaignId scope w = true → Sweeps s s' w (.applyVeto r vetoId participantId scope)

/-- A consent of this scope stands that allows work of the policy. -/
def InspirationStore.Stands (s : InspirationStore) (c : ConsentDocument) (policy : DerivedArtifactPolicy) : Prop :=
  ∃ c' ∈ s.consents, c.SameScope c' ∧ c'.state ≠ .revoked ∧
    artifactPolicyRank c'.artifactPolicy ≤ artifactPolicyRank policy

/-- **No command has missed the other**: a sweep has seen the pending work that it is to sweep, and since a
    registration's snapshot its source was not vetoed and the consents that it counted stand. -/
structure Undisturbed (c : Committed InspirationJob InspirationStore) : Prop where
  sweep : ∀ w ∈ c.before.work, w.state = .pending → Sweeps c.snapshot c.before w c.job → w ∈ c.snapshot.work
  registration : ∀ r command, c.job = .registerDerivedWork r command → r.IsFresh (some r.campaignId) c.snapshot →
    ∀ x binding d, c.snapshot.MayDerive r command x binding d → c.before.sourceIsVetoed r.campaignId d = false ∧
      ∀ consent ∈ c.snapshot.consents, consent.grants r.campaignId d x.media r.now = true →
        c.before.Stands consent command.artifactPolicy

/-! ## Permits -/

variable {d d' : SourceDocument} {scope : InspirationVetoScope} {w : WorkDocument} {β : Type} {draw : WeightedDraw}
  {db : Database InspirationStore InspirationKey InspirationJob}

theorem covers_review
    (h : d' = { d with reviewState := d'.reviewState, q11Screened := d'.q11Screened }) :
    scope.covers d' = scope.covers d := by
  rw [h]
  rfl

variable {s t : InspirationStore} {writes : List Write} {campaignId : String} {x : WorkDocument}

theorem sourceIsVetoed_review
    (h : d' = { d with reviewState := d'.reviewState, q11Screened := d'.q11Screened }) :
    s.sourceIsVetoed campaignId d' = s.sourceIsVetoed campaignId d := by
  unfold InspirationStore.sourceIsVetoed
  simp only [covers_review h]

/-- A store permits what an earlier one did, unless a veto came or a consent went. -/
theorem Permits.mono (h : s.Permits w) (hgrown : s.Grown t)
    (hvetoes : ∀ d ∈ s.sources, w.IsOf d → s.sourceIsVetoed w.campaignId d = false →
      t.sourceIsVetoed w.campaignId d = false)
    (hconsents : ∀ c ∈ s.consents, c.campaignId = w.campaignId → c.sourceId = w.sourceId →
      c.sourceRevision = w.sourceRevision → c.state ≠ .revoked →
      ∃ c' ∈ t.consents, c' = { c with state := c'.state } ∧ c'.state ≠ .revoked) : t.Permits w := by
  obtain ⟨d, hd, hof, hvetoed, x, hx, hid, hall⟩ := h
  obtain ⟨d', hd', heq⟩ := hgrown.sources d hd
  refine ⟨d', hd', ?_, ?_, x, hgrown.selections x hx, hid, fun p hp => ?_⟩
  · rw [heq]
    exact hof
  · rw [sourceIsVetoed_review heq]
    exact hvetoes d hd hof hvetoed
  · rw [heq] at hp
    obtain ⟨c, hc, hstate, hallows⟩ := hall p hp
    obtain ⟨c', hc', heq', hstate'⟩ :=
      hconsents c hc hallows.campaign hallows.source.1 hallows.source.2 hstate
    refine ⟨c', hc', hstate', ?_⟩
    rw [heq']
    exact ⟨hallows.campaign, hallows.source, hallows.participant, hallows.audience, hallows.media, hallows.policy⟩

/-- The same, where only consents are concerned and none is revoked. -/
theorem Permits.same (h : s.Permits w) (hgrown : s.Grown t)
    (hvetoes : t.vetoes = s.vetoes) (hconsents : t.consents = s.consents) : t.Permits w := by
  refine Permits.mono h hgrown (fun d _ _ hv => ?_) fun c hc _ _ _ hstate => ⟨c, hconsents ▸ hc, rfl, hstate⟩
  unfold InspirationStore.sourceIsVetoed at hv ⊢
  rw [hvetoes]
  exact hv

/-! ## Sweeps -/

theorem applyAll_keeps {f : InspirationStore → β}
    (h : ∀ w ∈ writes, ∀ s, f (w.apply s) = f s) : f (applyAll writes s) = f s := by
  induction writes generalizing s with
  | nil => rfl
  | cons w writes ih =>
    rw [applyAll_cons, ih fun w hw => h w (List.mem_cons_of_mem _ hw), h w mem_cons_self]

/-- What is left of the pending work after a sweep was pending before, and is not among what it cancels. -/
theorem pending_of_sweep (hsweep : ∀ w ∈ writes, w.isSweep = true) (hx : x ∈ (applyAll writes s).work)
    (hpending : x.state = .pending) :
    x ∈ s.work ∧ ∀ ids, .cancelWork ids ∈ writes → x.id ∉ ids := by
  induction writes generalizing s with
  | nil => exact ⟨hx, fun ids hids => nomatch hids⟩
  | cons w writes ih =>
    obtain ⟨hmem, hids⟩ := ih (fun w hw => hsweep w (List.mem_cons_of_mem _ hw)) hx
    have hhead := hsweep w mem_cons_self
    cases w
    case cancelWork ids' =>
      rcases mem_updateWhere.mp hmem with ⟨y, -, -, rfl⟩ | ⟨hmem, hnot⟩
      · cases hpending
      · refine ⟨hmem, fun ids h => ?_⟩
        rcases mem_cons.mp h with heq | h
        · cases heq
          simpa using hnot
        · exact hids ids h
    case workState id state =>
      rcases mem_updateById.mp hmem with ⟨y, -, -, rfl⟩ | ⟨hmem, -⟩
      · exact absurd hpending (of_decide_eq_true hhead)
      · exact ⟨hmem, fun ids h => hids ids ((mem_cons.mp h).resolve_left (fun heq => nomatch heq))⟩
    case redactPresentation id =>
      exact ⟨hmem, fun ids h => hids ids ((mem_cons.mp h).resolve_left (fun heq => nomatch heq))⟩
    case deletePresentation id =>
      exact ⟨hmem, fun ids h => hids ids ((mem_cons.mp h).resolve_left (fun heq => nomatch heq))⟩
    all_goals cases hhead

/-- A sweep changes work and presentations. -/
theorem sweep_keeps {f : InspirationStore → β}
    (hsweep : ∀ w ∈ writes, w.isSweep = true)
    (hf : ∀ s work presentations, f { s with work, presentations } = f s) : f (applyAll writes s) = f s := by
  refine applyAll_keeps fun w hw s => ?_
  have hw := hsweep w hw
  cases w <;> first | exact hf s _ _ | exact hf s _ s.presentations | exact hf s s.work _ | cases hw

/-- **After a sweep the work is permitted**, if what it left over was. -/
theorem permitted_of_sweep (hsweep : ∀ w ∈ writes, w.isSweep = true)
    (hkept : s.Kept) (hall : ∀ x ∈ s.work, x.state = .pending →
      (∀ ids, .cancelWork ids ∈ writes → x.id ∉ ids) → s.Permits x) : (applyAll writes s).WorkIsPermitted := by
  intro x hx hpending
  obtain ⟨hmem, hids⟩ := pending_of_sweep hsweep hx hpending
  exact Permits.same (hall x hmem hpending hids) (hkept.writes fun w hw => isPlain_of_isSweep (hsweep w hw)).2
    (sweep_keeps hsweep fun _ _ _ => rfl) (sweep_keeps hsweep fun _ _ _ => rfl)

theorem mem_pendingWork {inScope : WorkDocument → Bool} (hx : x ∈ s.work)
    (hpending : x.state = .pending) (hscope : inScope x = true) : x.id ∈ s.pendingWork inScope := by
  unfold InspirationStore.pendingWork
  rw [List.mem_insertionSort]
  exact List.mem_map_of_mem (mem_filter.mpr ⟨hx, decide_eq_true ⟨hscope, hpending⟩⟩)

/-- A receipt changes nothing for work. -/
theorem permitted_of_receipt {receipt : ReceiptDocument} (h : s.WorkIsPermitted) :
    ((Write.insertReceipt receipt).apply s).WorkIsPermitted :=
  fun w hw hpending => Permits.same (h w hw hpending) { InspirationStore.Grown.refl s with } rfl rfl

/-! ## Commits -/

/-- The work that a veto is to reach is the same in a later store, as far as it was seen. -/
theorem workInScope_of_seen {s' : InspirationStore} (h : s.Kept) (h' : s'.Kept) (hgrown : s.Grown s') (hx : x ∈ s.work)
    (hscope : s'.workInScope campaignId scope x = true) : s.workInScope campaignId scope x = true := by
  unfold InspirationStore.workInScope at hscope ⊢
  rw [Bool.and_eq_true] at hscope ⊢
  refine ⟨hscope.1, ?_⟩
  cases scope with
  | campaign => rfl
  | sourceVersion sourceId revision digest => exact hscope.2
  | category categoryId =>
    obtain ⟨d', hd', hmatch⟩ := List.any_eq_true.mp hscope.2
    rw [decide_eq_true_eq] at hmatch
    obtain ⟨d, hd, hof⟩ := h.workOf x hx
    obtain ⟨d'', hd'', heq⟩ := hgrown.sources d hd
    have hsame : d'' = d' := by
      refine List.inj_on_of_nodup_map h'.sourceKeys hd'' hd' ?_
      rw [heq]
      exact Prod.ext (hof.1.trans hmatch.2.1.symm) (hof.2.trans hmatch.2.2.symm)
    refine List.any_eq_true.mpr ⟨d, hd, decide_eq_true ⟨?_, hof.1, hof.2⟩⟩
    rw [hsame] at heq
    rw [heq] at hmatch
    exact hmatch.1

/-- The participants of a source are as many as its distinct consents: each has consented. -/
theorem consents_complete (h : s.Kept)
    {media : InspirationMedia} {now : Nat} (hd : d ∈ s.sources)
    (hcount : (s.consents.filter (·.grants campaignId d media now)).length = d.participants.length) {p : String}
    (hp : p ∈ d.participants) : ∃ c ∈ s.consents, c.grants campaignId d media now = true ∧ c.participantId = p := by
  have hgrants : ∀ c ∈ s.consents.filter (·.grants campaignId d media now), c ∈ s.consents ∧
      c.campaignId = campaignId ∧ c.sourceId = d.logicalId ∧ c.sourceRevision = d.revision ∧ c.media = media ∧
      c.state = .active := fun c hc => by
    obtain ⟨hc, hgrants⟩ := mem_filter.mp hc
    unfold ConsentDocument.grants at hgrants
    rw [decide_eq_true_eq] at hgrants
    exact ⟨hc, hgrants.1, hgrants.2.1, hgrants.2.2.1, hgrants.2.2.2.2.1, hgrants.2.2.2.2.2.1⟩
  have hdistinct : ((s.consents.filter (·.grants campaignId d media now)).map (·.participantId)).Nodup := by
    refine List.Nodup.map_on (fun c hc c' hc' heq => ?_) (h.consentIds.of_map.filter _)
    obtain ⟨hmem, h₁, h₂, h₃, h₄, h₅⟩ := hgrants c hc
    obtain ⟨hmem', h₁', h₂', h₃', h₄', h₅'⟩ := hgrants c' hc'
    refine List.inj_on_of_nodup_map h.consentIds hmem hmem' (h.oneActive c hmem c' hmem' h₅ h₅' ?_)
    exact decide_eq_true ⟨h₁'.trans h₁.symm, h₂'.trans h₂.symm, h₃'.trans h₃.symm, heq.symm, rfl, h₄'.trans h₄.symm, rfl⟩
  have hsub : (s.consents.filter (·.grants campaignId d media now)).map (·.participantId) ⊆ d.participants := by
    intro q hq
    obtain ⟨c, hc, rfl⟩ := mem_map.mp hq
    obtain ⟨hmem, -, h₂, h₃, -⟩ := hgrants c hc
    obtain ⟨d', hd', hl, hr, hpart⟩ := h.consentOf c hmem
    have hsame : d' = d := List.inj_on_of_nodup_map h.sourceKeys hd' hd
      (Prod.ext (hl.trans h₂) (hr.trans h₃))
    exact hsame ▸ hpart
  have hperm := (List.subperm_of_subset hdistinct hsub).perm_of_length_le (by rw [List.length_map, hcount])
  obtain ⟨c, hc, rfl⟩ := mem_map.mp (hperm.mem_iff.mpr hp)
  exact ⟨c, (mem_filter.mp hc).1, (mem_filter.mp hc).2, rfl⟩

section Commits

variable {draw : WeightedDraw} {s s' : InspirationStore} {job : InspirationJob} {writes : List Write}

/-- Writes that change neither vetoes nor work and revoke nothing. -/
theorem permitted_of_same {t : InspirationStore} (h : s'.WorkIsPermitted) (hgrown : s'.Grown t)
    (hvetoes : t.vetoes = s'.vetoes) (hconsents : ∀ c ∈ s'.consents, c.state ≠ .revoked →
      ∃ c' ∈ t.consents, c' = { c with state := c'.state } ∧ c'.state ≠ .revoked)
    (hwork : t.work = s'.work) : t.WorkIsPermitted := by
  intro w hw hpending
  rw [hwork] at hw
  refine Permits.mono (h w hw hpending) hgrown (fun d _ _ hv => ?_) fun c hc _ _ _ hstate => hconsents c hc hstate
  unfold InspirationStore.sourceIsVetoed at hv ⊢
  rw [hvetoes]
  exact hv

variable {c : ConsentDocument}

theorem expire_keeps (stale : List String) (hc : c ∈ s'.consents) (hstate : c.state ≠ .revoked) :
    ∃ c' ∈ ((Write.consentState stale .expired).apply s').consents,
      c' = { c with state := c'.state } ∧ c'.state ≠ .revoked := by
  by_cases hp : stale.contains c.id = true
  · exact ⟨{ c with state := .expired }, mem_updateWhere.mpr (.inl ⟨c, hc, hp, rfl⟩), rfl, fun heq => nomatch heq⟩
  · exact ⟨c, mem_updateWhere.mpr (.inr ⟨hc, Bool.not_eq_true _ ▸ hp⟩), rfl, hstate⟩

/-- The work that is registered is permitted where it is committed. -/
theorem permits_registered (h : s.Kept) (hgrown : s.Grown s') {r : Request} {command : RegisterDerivedWorkCommand}
    {x : SelectionDocument} {binding : SourceBinding} {d : SourceDocument} {work : WorkDocument}
    (hmay : s.MayDerive r command x binding d) (hcampaign : work.campaignId = r.campaignId)
    (hselection : work.sourceSelectionId = x.id) (hsource : work.sourceId = d.logicalId)
    (hrevision : work.sourceRevision = d.revision) (hpolicy : work.artifactPolicy = command.artifactPolicy)
    (hvetoed : s'.sourceIsVetoed r.campaignId d = false)
    (hstands : ∀ c ∈ s.consents, c.grants r.campaignId d x.media r.now = true →
      s'.Stands c command.artifactPolicy) : s'.Permits work := by
  obtain ⟨d', hd', heq⟩ := hgrown.sources d hmay.source.1
  refine ⟨d', hd', ?_, ?_, x, hgrown.selections x hmay.selection.1, hselection.symm, fun p hp => ?_⟩
  · rw [heq]
    exact ⟨hsource.symm, hrevision.symm⟩
  · rw [sourceIsVetoed_review heq, hcampaign]
    exact hvetoed
  · rw [heq] at hp
    obtain ⟨c, hc, hgrants, rfl⟩ := consents_complete h hmay.source.1 hmay.counted hp
    obtain ⟨c', hc', hscope, hstate, hrank⟩ := hstands c hc hgrants
    unfold ConsentDocument.SameScope ConsentDocument.hasScope at hscope
    rw [decide_eq_true_eq] at hscope
    unfold ConsentDocument.grants at hgrants
    rw [decide_eq_true_eq] at hgrants
    obtain ⟨h₁, h₂, h₃, h₄, -, h₆, -⟩ := hscope
    obtain ⟨g₁, g₂, g₃, -, g₅, -⟩ := hgrants
    exact ⟨c', hc', hstate, (h₁.trans g₁).trans hcampaign.symm,
      ⟨(h₂.trans g₂).trans hsource.symm, (h₃.trans g₃).trans hrevision.symm⟩, h₄, rfl, h₆.trans g₅,
      hpolicy ▸ hrank⟩

/-- Revoking the consents of a scope leaves those to other work alone. -/
theorem revoke_keeps {ids : List String} {w : WorkDocument} (h : s'.Permits w) (hkept : s'.Kept)
    (hids : ∀ c ∈ s'.consents, c.id ∈ ids → ¬ (c.campaignId = w.campaignId ∧ c.sourceId = w.sourceId ∧
      c.sourceRevision = w.sourceRevision)) : ((Write.consentState ids .revoked).apply s').Permits w := by
  refine Permits.mono h (hkept.consentState ids (by decide)).2 (fun _ _ _ hv => hv) fun c hc h₁ h₂ h₃ hstate =>
    ⟨c, ?_, rfl, hstate⟩
  refine mem_updateWhere.mpr (.inr ⟨hc, ?_⟩)
  rw [List.contains_eq_mem, decide_eq_false_iff_not]
  exact fun hmem => hids c hc hmem ⟨h₁, h₂, h₃⟩

/-- What is revoked for a campaign is of the campaign, wherever it is committed. -/
theorem revokedConsent_campaign (h' : s'.Kept) (hgrown : s.Grown s') {campaignId : String}
    (hc : c ∈ s'.consents) (hmem : c.id ∈ (s.consents.filter fun c => c.campaignId = campaignId ∧
      c.state = .active).map (·.id)) : c.campaignId = campaignId := by
  obtain ⟨c₀, hc₀, hid⟩ := mem_map.mp hmem
  rw [mem_filter, decide_eq_true_eq] at hc₀
  obtain ⟨c', hc', heq, -⟩ := hgrown.consents c₀ hc₀.1
  have hsame : c = c' := List.inj_on_of_nodup_map h'.consentIds hc hc' (by rw [heq]; exact hid.symm)
  rw [hsame, heq]
  exact hc₀.2.1

theorem sweep_permitted {inScope : WorkDocument → Bool} {u : InspirationStore} {receipt : ReceiptDocument}
    (hkept : u.Kept) (hall : ∀ x ∈ u.work, x.state = .pending → x.id ∉ s.pendingWork inScope → u.Permits x) :
    (applyAll (s.sweepWork inScope ++ [.insertReceipt receipt]) u).WorkIsPermitted := by
  rw [applyAll_append]
  exact permitted_of_receipt (permitted_of_sweep (fun w hw => sweepWork_isSweep hw) hkept
    fun x hx hpending hids => hall x hx hpending (hids _ mem_cons_self))

/-- **An undisturbed commit leaves the work permitted.** -/
theorem Decides.permitted (h : s.Kept) (h' : s'.Kept) (hgrown : s.Grown s') (hdecides : Decides draw s job writes)
    (hundisturbed : Undisturbed ⟨job, s, s'⟩) (hpermitted : s'.WorkIsPermitted)
    (hafter : s'.Grown (applyAll writes s')) : (applyAll writes s').WorkIsPermitted := by
  have hrest : ∀ x ∈ s'.work, x.state = .pending → ∀ {inScope : WorkDocument → Bool},
      x.id ∉ s.pendingWork inScope → inScope x = true → ¬ Sweeps s s' x job :=
    fun x hx hpending _ hnot hscope hsweeps =>
      hnot (mem_pendingWork (hundisturbed.sweep x hx hpending hsweeps) hpending hscope)
  cases hdecides
  case nothing => exact hpermitted
  case setGlobalInspirationControl r expected disabled control receipt hfresh hrevision hdisabled =>
    cases disabled with
    | false => exact permitted_of_same hpermitted hafter rfl (fun c hc hstate => ⟨c, hc, rfl, hstate⟩) rfl
    | true =>
      rw [cons_append, applyAll_cons, if_pos rfl, applyAll_append]
      refine permitted_of_receipt (permitted_of_sweep (fun w hw => quarantineAll_isSweep hw)
        (h'.write (show Write.isPlain (.control control) = true from rfl)).1 fun x hx hpending hids => ?_)
      exact absurd (Sweeps.setGlobalInspirationControl r expected hfresh hrevision)
        (hrest x hx hpending (hids _ mem_cons_self) rfl)
  case configureCampaign r deployment expected enabled setup campaign safety receipt hcampaign hid hfresh hrevision
      henabled _ =>
    cases enabled with
    | true => exact permitted_of_same hpermitted hafter rfl (fun c hc hstate => ⟨c, hc, rfl, hstate⟩) rfl
    | false =>
      rw [cons_append, applyAll_cons, if_neg Bool.false_ne_true, cons_append, applyAll_cons]
      obtain ⟨hkept₁, hg₁⟩ := h'.write (show Write.isPlain (.safety r.campaignId safety) = true from rfl)
      refine sweep_permitted (hkept₁.consentState _ (by decide)).1 fun x hx hpending hnot => ?_
      have hother : x.campaignId ≠ r.campaignId := fun heq => hrest x hx hpending hnot (decide_eq_true heq)
        (.configureCampaign r deployment expected setup campaign hcampaign hid hfresh hrevision heq)
      refine revoke_keeps (Permits.same (hpermitted x hx hpending) hg₁ rfl rfl) hkept₁ fun c hc hmem hsame => ?_
      exact hother (hsame.1 ▸ revokedConsent_campaign h' hgrown hc hmem)
  case setCampaignPause =>
    exact permitted_of_same hpermitted hafter rfl (fun c hc hstate => ⟨c, hc, rfl, hstate⟩) rfl
  case disableCampaign r expected campaign safety safety' receipt hcampaign hid hfresh hsafety hrevision _ _ =>
    rw [cons_append, cons_append, applyAll_cons, applyAll_cons]
    obtain ⟨hkept₁, hg₁⟩ := h'.write (show Write.isPlain (.safety r.campaignId safety') = true from rfl)
    refine sweep_permitted (hkept₁.consentState _ (by decide)).1 fun x hx hpending hnot => ?_
    have hother : x.campaignId ≠ r.campaignId := fun heq => hrest x hx hpending hnot (decide_eq_true heq)
      (.disableCampaign r expected campaign safety hcampaign hid hfresh hsafety hrevision heq)
    refine revoke_keeps (Permits.same (hpermitted x hx hpending) hg₁ rfl rfl) hkept₁ fun c hc hmem hsame => ?_
    exact hother (hsame.1 ▸ revokedConsent_campaign h' hgrown hc hmem)
  case verifyParticipant =>
    exact permitted_of_same hpermitted hafter rfl (fun c hc hstate => ⟨c, hc, rfl, hstate⟩) rfl
  case clearTombstones =>
    exact permitted_of_same hpermitted hafter rfl (fun c hc hstate => ⟨c, hc, rfl, hstate⟩) rfl
  case registerSource =>
    exact permitted_of_same hpermitted hafter rfl (fun c hc hstate => ⟨c, hc, rfl, hstate⟩) rfl
  case reviewSource =>
    exact permitted_of_same hpermitted hafter rfl (fun c hc hstate => ⟨c, hc, rfl, hstate⟩) rfl
  case expire r grantId command stale _ =>
    exact permitted_of_same hpermitted hafter rfl (fun c hc hstate => expire_keeps stale hc hstate) rfl
  case grantConsent r grantId command stale campaign safety source consent receipt _ _ _ _ _ _ =>
    refine permitted_of_same hpermitted hafter rfl (fun c hc hstate => ?_) rfl
    obtain ⟨c', hc', heq⟩ := expire_keeps stale hc hstate
    exact ⟨c', List.mem_append_left _ hc', heq⟩
  case revokeConsent r grantId requester consent receipt hfresh hmem hid hrevocable =>
    rw [cons_append, applyAll_cons]
    refine sweep_permitted (h'.consentState _ (by decide)).1 fun x hx hpending hnot => ?_
    have hother : ¬ (x.campaignId = r.campaignId ∧ x.sourceId = consent.sourceId ∧
        x.sourceRevision = consent.sourceRevision) := fun heq => hrest x hx hpending hnot (decide_eq_true heq)
      (.revokeConsent r grantId requester consent hfresh hmem hid hrevocable heq.1 heq.2.1 heq.2.2)
    refine revoke_keeps (hpermitted x hx hpending) h' fun c hc hcid hsame => hother ?_
    obtain ⟨c', hc', heq, -⟩ := hgrown.consents consent hmem
    have hc'' : c = c' := by
      refine List.inj_on_of_nodup_map h'.consentIds hc hc' ?_
      rw [heq]
      exact (List.mem_singleton.mp hcid).trans hid.symm
    rw [hc'', heq] at hsame
    exact ⟨hsame.1.symm.trans hrevocable.1, hsame.2.1.symm, hsame.2.2.symm⟩
  case applyVeto r vetoId participantId scope receipt hfresh hopen =>
    rw [cons_append, applyAll_cons]
    obtain ⟨hkept₁, hg₁⟩ :=
      h'.write (show Write.isPlain (.insertVeto ⟨vetoId, r.campaignId, participantId, scope⟩) = true from rfl)
    refine sweep_permitted hkept₁ fun x hx hpending hnot => ?_
    have hother : ¬ s'.workInScope r.campaignId scope x = true := fun hscope => by
      have hsweeps := Sweeps.applyVeto r vetoId participantId scope hfresh hopen hscope
      have hseen := hundisturbed.sweep x hx hpending hsweeps
      exact hnot (mem_pendingWork hseen hpending (workInScope_of_seen h h' hgrown hseen hscope))
    refine Permits.mono (hpermitted x hx hpending) hg₁ (fun d hd hof hv => ?_)
      fun c hc _ _ _ hstate => ⟨c, hc, rfl, hstate⟩
    unfold InspirationStore.sourceIsVetoed at hv ⊢
    show (s'.vetoes ++ [_]).any _ = false
    rw [List.any_append, hv, Bool.false_or, List.any_cons, List.any_nil, Bool.or_false, decide_eq_false_iff_not]
    rintro ⟨hcampaign, hcovers⟩
    refine hother ?_
    unfold InspirationStore.workInScope
    rw [Bool.and_eq_true]
    refine ⟨decide_eq_true hcampaign.symm, ?_⟩
    unfold InspirationVetoScope.covers at hcovers
    cases scope with
    | campaign => rfl
    | category categoryId =>
      exact List.any_eq_true.mpr ⟨d, hd, decide_eq_true ⟨(of_decide_eq_true hcovers).symm, hof.1, hof.2⟩⟩
    | sourceVersion sourceId revision digest =>
      obtain ⟨h₁, h₂, -⟩ := of_decide_eq_true hcovers
      exact decide_eq_true ⟨(h₁.trans hof.1).symm, (h₂.trans hof.2).symm⟩
  case reserveSelection =>
    exact permitted_of_same hpermitted hafter rfl (fun c hc hstate => ⟨c, hc, rfl, hstate⟩) rfl
  case registerDerivedWork r command x binding d work receipt hfresh hmay hcampaign hselection hsource hrevision
      hpolicy =>
    obtain ⟨hvetoed, hstands⟩ := hundisturbed.registration r command rfl hfresh x binding d hmay
    have hnew := permits_registered h hgrown hmay hcampaign hselection hsource hrevision hpolicy hvetoed hstands
    intro w hw hpending
    rcases List.mem_append.mp hw with hw | hw
    · exact Permits.same (hpermitted w hw hpending) hafter rfl rfl
    · rw [List.mem_singleton.mp hw]
      exact Permits.same hnew hafter rfl rfl
  case commitSessionEvent =>
    exact permitted_of_same hpermitted hafter rfl (fun c hc hstate => ⟨c, hc, rfl, hstate⟩) rfl

end Commits

/-- **In every run of undisturbed commits, all derived work is permitted.** -/
theorem work_is_permitted (draw : WeightedDraw) (campaigns : List InspirationCampaignDocument)
    (party : List PartyCharacter) {events : List (Event InspirationJob InspirationStore)}
    {db : Database InspirationStore InspirationKey InspirationJob}
    (hrun : Run (Database.Step (transact draw)) (Database.quiet (.new campaigns party)) events db)
    (hundisturbed : Admitted Undisturbed events) : db.store.WorkIsPermitted := by
  have iso := (transact_isolated draw).admitting fun (c : Committed InspirationJob InspirationStore)
    (_ : Undisturbed c) => trivial
  have hstart : (InspirationStore.new campaigns party).WorkIsPermitted := fun w hw => by cases hw
  have hlaw := @Isolated.history _ _ _ _ _ _ _ _ _ _ _ iso (fun _ s => s.WorkIsPermitted) ?_ _ _ _ hrun hundisturbed
    (sound_quiet (kept_new campaigns party)) [] hstart
  · exact hlaw
  · intro past job s s' d h h' hgrown hadmits hbody hagree hpermitted
    obtain ⟨writes, answer, rfl, hdecides⟩ := transact_decides hbody
    exact hdecides.permitted h h' hgrown hadmits hpermitted (hdecides.kept h h' hgrown hagree).2

/-! ## A campaign with one source -/

def canalPrompt : RuntimeEventPrompt where
  selectionWeightNanounits := 1000000000
  minimumLevel := 1
  maximumLevel := none
  cooldownTurns := 3
  enabled := true
  neutralFacts := ["A walk along a canal."]

def canalSource : SourceDocument where
  logicalId := "event-source-canal"
  revision := 1
  sourceDigest := "sha256:canal"
  categoryId := "category:walks"
  reviewState := .approved
  q11Screened := true
  participants := ["participant:1"]
  participants_ne_nil := List.cons_ne_nil _ _
  sensitivities := ["water"]
  media := [.text]
  themes := ["theme-1"]
  expiresAtEpoch := none
  runtimeProjection := canalPrompt

def canalCampaign : InspirationCampaignDocument := ⟨"campaign-1", "theme-1", true, 0, none⟩

def canalParty : List PartyCharacter := [⟨"campaign-1", true, 3⟩]

/-- The first of the eligible sources is drawn. -/
def firstDraw : WeightedDraw := fun _ _ => 0

def canalRequest (key : String) : Request := ⟨"campaign-1", key, key, 10⟩

/-- The commands that lead up to a selection. -/
def canalJobs : List InspirationJob :=
  [ .configureCampaign (canalRequest "key-1") true 0 false none,
    .configureCampaign (canalRequest "key-2") true 1 true (some ⟨["water"], [], [], [], []⟩),
    .verifyParticipant (canalRequest "key-3") "participant:1",
    .registerSource (canalRequest "key-4") canalSource,
    .reviewSource (canalRequest "key-5") "event-source-canal" 1 "sha256:canal" .approved true,
    .grantConsent (canalRequest "key-6") "grant-1" ⟨"event-source-canal", 1, "sha256:canal", "participant:1",
      .privateCampaign, .text, .highFictionDistanceV1, .redactDerived, ["water"], 1000⟩,
    .commitSessionEvent "campaign-1" 1 true .gmNarration,
    .reserveSelection (fun _ => 0) true "selection-1"
      ⟨"campaign-1", "key-8", "request-8", 2, 2, .privateCampaign, .text⟩ [canalSource.runtimePrompt] 10 ]

/-- One after the other. -/
def serially (draw : WeightedDraw) : List InspirationJob → InspirationStore → Option InspirationStore
  | [], s => some s
  | job :: jobs, s =>
    match transact draw job s with
    | .ok d => serially draw jobs (d.apply s)
    | .error _ => none

theorem serially_eq_inTurn (draw : WeightedDraw) (jobs : List InspirationJob) (s : InspirationStore) :
    serially draw jobs s = inTurn (transact draw) jobs s := by
  induction jobs generalizing s with
  | nil => rfl
  | cons job jobs ih =>
    unfold serially inTurn
    cases transact draw job s with
    | ok d => exact ih (d.apply s)
    | error e => rfl

/-- Commands that are carried out one after the other are a run, each on what the ones before it have left. -/
theorem serially_runs {jobs : List InspirationJob} (hidle : Idle db)
    (h : serially draw jobs db.store = some t) :
    ∃ events, ∃ db' : Database InspirationStore InspirationKey InspirationJob, Idle db' ∧ db'.store = t ∧
      Run (Database.Step (transact draw)) db events db' ∧
      ∀ c ∈ commitsOf events, c.snapshot = c.before ∧
        ∃ n, jobs[n]? = some c.job ∧ serially draw (jobs.take n) db.store = some c.before := by
  rw [serially_eq_inTurn] at h
  simp only [serially_eq_inTurn]
  exact hidle.inTurn h

/-- Two on one snapshot, one committed after the other, where they write different documents. -/
def passing (draw : WeightedDraw) (job job' : InspirationJob) (s : InspirationStore) : Option InspirationStore :=
  match transact draw job s, transact draw job' s with
  | .ok d, .ok d' => if ∀ k ∈ d'.writes, k ∉ d.writes then some (d'.apply (d.apply s)) else none
  | _, _ => none

theorem passing_runs {job job' : InspirationJob} (hidle : Idle db)
    (h : passing draw job job' db.store = some t) :
    ∃ events, ∃ db' : Database InspirationStore InspirationKey InspirationJob, Idle db' ∧ db'.store = t ∧
      Run (Database.Step (transact draw)) db events db' := by
  unfold passing at h
  split at h
  · next d d' hbody hbody' =>
    split at h
    · next hdisjoint =>
      obtain ⟨db', hidle', hstore, hrun⟩ := hidle.skew hbody hbody' hdisjoint
      exact ⟨_, db', hidle', hstore.trans (Option.some.inj h), hrun⟩
    · cases h
  · cases h

/-- **A commit on its own snapshot is undisturbed**: it takes two to miss each other. -/
theorem undisturbed_of_serial {c : Committed InspirationJob InspirationStore} (h : c.snapshot = c.before) :
    Undisturbed c := by
  constructor
  · intro w hw _ _
    rw [h]
    exact hw
  · intro r command _ _ x binding d hmay
    rw [← h]
    refine ⟨hmay.notVetoed, fun consent hconsent hgrants => ⟨consent, hconsent, ?_, ?_, ?_⟩⟩
    · exact decide_eq_true ⟨rfl, rfl, rfl, rfl, rfl, rfl, rfl⟩
    · unfold ConsentDocument.grants at hgrants
      rw [decide_eq_true_eq] at hgrants
      rw [hgrants.2.2.2.2.2.1]
      exact fun heq => nomatch heq
    · exact hmay.policies consent hconsent hgrants

def canalWork : InspirationJob :=
  .registerDerivedWork (canalRequest "key-9") ⟨"work-1", "selection-1", .text, .redactDerived⟩

theorem work_is_permitted_canal : ∃ events, ∃ db : Database InspirationStore InspirationKey InspirationJob,
    Run (Database.Step (transact firstDraw)) (.quiet (.new [canalCampaign] canalParty)) events db ∧
    (∃ w ∈ db.store.work, w.state = .pending) ∧ db.store.WorkIsPermitted := by
  obtain ⟨t, ht, hpending⟩ : ∃ t, serially firstDraw (canalJobs ++ [canalWork]) (.new [canalCampaign] canalParty) =
      some t ∧ (t.work.any (·.state = .pending)) = true := by
    have h : (serially firstDraw (canalJobs ++ [canalWork]) (.new [canalCampaign] canalParty)).any
        (fun t => t.work.any (·.state = .pending)) = true := by with_unfolding_all decide
    exact (Option.any_eq_true _ _).mp h
  obtain ⟨events, db, -, hstore, hrun, hserial⟩ := serially_runs (idle_quiet _) ht
  refine ⟨events, db, hrun, ?_, work_is_permitted firstDraw [canalCampaign] canalParty hrun
    fun c hc => undisturbed_of_serial (hserial c hc).1⟩
  rw [hstore]
  obtain ⟨w, hw, hstate⟩ := List.any_eq_true.mp hpending
  exact ⟨w, hw, of_decide_eq_true hstate⟩

/-- **Work can be pending under a veto**: it is registered while the veto looks for work to cancel. -/
theorem work_under_veto : ¬ ∀ draw campaigns party events,
    ∀ db : Database InspirationStore InspirationKey InspirationJob,
    Run (Database.Step (transact draw)) (.quiet (.new campaigns party)) events db → db.store.WorkIsPermitted := by
  intro hclaim
  have hend : ((serially firstDraw canalJobs (.new [canalCampaign] canalParty)).bind (passing firstDraw canalWork
      (.applyVeto (canalRequest "key-10") "veto-1" "participant:1" .campaign))).any (fun t =>
        t.work.any (fun w => w.state = .pending ∧ t.sources.all (t.sourceIsVetoed w.campaignId ·))) = true := by
    with_unfolding_all decide
  obtain ⟨u, hu, hget⟩ := (Option.any_eq_true _ _).mp hend
  obtain ⟨t, ht, hpassing⟩ := Option.bind_eq_some_iff.mp hu
  obtain ⟨events, db, hidle, hstore, hrun, -⟩ := serially_runs (idle_quiet _) ht
  rw [← hstore] at hpassing
  obtain ⟨events', db', -, hstore', hrun'⟩ := passing_runs hidle hpassing
  have hpermitted := hclaim _ _ _ _ db' (hrun.append hrun')
  rw [hstore'] at hpermitted
  obtain ⟨w, hw, hstate⟩ := List.any_eq_true.mp hget
  rw [decide_eq_true_eq] at hstate
  obtain ⟨d, hd, -, hvetoed, -⟩ := hpermitted w hw hstate.1
  rw [List.all_eq_true.mp hstate.2 d hd] at hvetoed
  cases hvetoed

end ManchesterArcana.Inspiration
