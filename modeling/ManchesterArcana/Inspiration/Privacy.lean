import ManchesterArcana.Inspiration.Consent

/-!
# `Inspiration.Privacy` — what the commands that withdraw reach

A participant's veto, the owner's veto of what a presentation was derived from, the revocation of a consent, the
deletion of a participant and the disabling of a campaign withdraw derived work: what is pending is cancelled and what
is completed is redacted or deleted as its policy says. `InspirationStore.Withdrawn` says which work that is, and that
everything else stays as it is (`sweepWork_withdraws`).

A command that refuses writes nothing, but for one: a report of a presentation redacts it before it looks for the
settings of the campaign that it pauses (`privacy_transition_iff`).
-/

namespace ManchesterArcana.Inspiration

open Effect Store
open List (append_nil flatMap_cons inj_on_of_nodup_map mem_append mem_cons mem_cons_self mem_filter mem_map
  mem_singleton)

/-! ## Presentations -/

/-- What a presentation was derived from, as far as the owner can control it. -/
structure PresentationOrigin where
  workId : String
  artifactId : String
  source : SourceDocument

/-- The completed work of a presentation, with its source. -/
def InspirationStore.loadPresentationOrigin (s : InspirationStore) (campaignId presentationId : String) :
    Except PersistenceError (Except PrivateInspirationError PresentationOrigin) :=
  match (s.presentations.find? fun p => p.id = presentationId ∧ p.campaignId = campaignId).bind
      (·.privateInspirationWorkId) with
  | none => .ok (.error .notFound)
  | some workId =>
  match s.work.find? fun w => w.id = workId ∧ w.campaignId = campaignId with
  | none => .ok (.error .notFound)
  | some w =>
  match w.state.completedArtifactId with
  | none => .ok (.error .scopeDenied)
  | some artifactId =>
  match s.loadSource w.sourceId w.sourceRevision with
  | none => .ok (.error .notFound)
  | some source => do
    source.stored
    rejectIf (source.sourceDigest ≠ w.sourceDigest)
      (.schema "presentation work source digest does not match registry")
    return .ok ⟨workId, artifactId, source⟩

/-- The veto of the owner. -/
def PresentationPrivacyAction.vetoScope (source : SourceDocument) : PresentationPrivacyAction → Option InspirationVetoScope
  | .veil | .report => none
  | .vetoSource => some (.sourceVersion source.logicalId source.revision source.sourceDigest)
  | .vetoCategory => some (.category source.categoryId)

def campaignOwner : String := "participant:campaign-owner"

/-- `apply_private_inspiration_presentation_control`. -/
def applyPresentationControl (r : Request) (vetoId presentationId : String) (action : PresentationPrivacyAction)
    (s : InspirationStore) : Except PersistenceError InspirationDecision := do
  let campaign ← s.loadCampaign r.campaignId
  receipted r (some r.campaignId) "presentation_control" s do
    let loaded ← s.loadPresentationOrigin r.campaignId presentationId
    match loaded with
    | .error e => return refused e
    | .ok origin =>
    match action.vetoScope origin.source with
    | some scope => do
      rejectIf (∃ v ∈ s.vetoes, v.id = vetoId) (.duplicateKey "insert campaign-owner inspiration veto")
      return carriedOut r (some r.campaignId) "presentation_control"
        (.insertVeto ⟨vetoId, r.campaignId, campaignOwner, scope⟩ :: s.sweepWork (s.workInScope r.campaignId scope))
        (.presentation presentationId action none)
    | none =>
    let redaction : List Write := [.redactPresentation presentationId, .workState origin.workId (.redacted origin.artifactId)]
    if action ≠ .report then
      return carriedOut r (some r.campaignId) "presentation_control" redaction (.presentation presentationId action none)
    match campaign.safety with
    -- The presentation and its work have been redacted when this refuses.
    | none => return decided redaction (.error .notFound)
    | some safety =>
      return carriedOut r (some r.campaignId) "presentation_control"
        (redaction ++ [.safety campaign.id { safety with revision := safety.revision + 1, generationPaused := true }])
        (.presentation presentationId action (some (safety.revision + 1)))

/-! ## Participants -/

def participantDeletionTombstoneSeconds : Nat := 35 * 24 * 60 * 60

/-- The versions that a participant takes part in, in order. -/
def InspirationStore.sourcesOf (s : InspirationStore) (participantId : String) : List SourceDocument :=
  (s.sources.filter (·.participants.contains participantId)).insertionSort SourceDocument.before

/-- `source_key_filter`. -/
def workOfSources (sources : List SourceDocument) (w : WorkDocument) : Bool :=
  sources.any fun d => w.sourceId = d.logicalId ∧ w.sourceRevision = d.revision

/-- `delete_private_inspiration_participant_data`: in all campaigns. -/
def deleteParticipant (r : Request) (deletionId participantId : String) (s : InspirationStore) :
    Except PersistenceError InspirationDecision := do
  let _ ← s.loadCampaign r.campaignId
  receipted r (some r.campaignId) "participant_delete" s <|
    if (s.participants.any (·.id = participantId)) = false then .ok (refused .notFound)
    else if (s.tombstones.any (·.participantId = participantId)) = true then .ok (refused .scopeDenied)
    else do
      let affected := s.sourcesOf participantId
      let revoked := (s.consents.filter fun c => c.participantId = participantId ∧ c.state ≠ .revoked).map (·.id)
      checkAll SourceDocument.stored affected
      rejectIf (∃ t ∈ s.tombstones, t.id = deletionId) (.duplicateKey "insert participant deletion tombstone")
      let outcome : ParticipantDeletionOutcome :=
        { participantId, revokedGrantCount := revoked.length, quarantinedSourceCount := affected.length
          pendingWorkCancellationIds := s.pendingWork (workOfSources affected)
          affectedCompletedArtifactCount :=
            (s.work.filter fun w => workOfSources affected w ∧ w.state.completedArtifactId.isSome = true).length
          effectiveAtEpoch := r.now
          tombstoneDeleteAfterEpoch := r.now + participantDeletionTombstoneSeconds }
      return carriedOut r (some r.campaignId) "participant_delete"
        (.participant ⟨participantId, false⟩ :: .consentState revoked .revoked ::
          affected.map (fun d => .review d.logicalId d.revision .quarantined false) ++
          s.sweepWork (workOfSources affected) ++
          [.insertTombstone ⟨deletionId, participantId, r.now + participantDeletionTombstoneSeconds⟩])
        (.deletion outcome)

/-! ## Commands that withdraw -/

inductive PrivacyCommand where
  | applyVeto (vetoId participantId : String) (scope : InspirationVetoScope)
  | presentationControl (vetoId presentationId : String) (action : PresentationPrivacyAction)
  | revokeConsent (grantId requesterParticipantId : String)
  | deleteParticipant (deletionId participantId : String)
  | disableCampaign (expectedRevision : Nat)

def PrivacyCommand.transact (r : Request) : PrivacyCommand → InspirationStore →
    Except PersistenceError InspirationDecision
  | .applyVeto vetoId participantId scope => Inspiration.applyVeto r vetoId participantId scope
  | .presentationControl vetoId presentationId action => applyPresentationControl r vetoId presentationId action
  | .revokeConsent grantId requester => Inspiration.revokeConsent r grantId requester
  | .deleteParticipant deletionId participantId => Inspiration.deleteParticipant r deletionId participantId
  | .disableCampaign expected => Inspiration.disableCampaign r expected

/-! ## Work that is withdrawn -/

/-- The presentation is what the work has come to. -/
def WorkDocument.HasArtifact (w : WorkDocument) (p : PresentationDocument) : Prop :=
  w.state.completedArtifactId = some p.id ∧ p.campaignId = w.campaignId ∧ p.privateInspirationWorkId = some w.id

instance (w : WorkDocument) (p : PresentationDocument) : Decidable (w.HasArtifact p) :=
  inferInstanceAs (Decidable (_ ∧ _ ∧ _))

def PresentationDocument.redacted (p : PresentationDocument) : PresentationDocument :=
  { p with body := privateInspirationRedactionBody, isRedacted := true }

/-- What becomes of a work: pending work is cancelled, and an artifact is kept where it is there to be redacted. -/
def InspirationStore.withdrawnState (s : InspirationStore) (w : WorkDocument) : WorkState :=
  match w.state.completedArtifactId with
  | some artifactId =>
    if w.artifactPolicy = .redactDerived ∧ s.hasPresentation w artifactId then .redacted artifactId else .deleted
  | none => if w.state = .pending then .cancellationRequested else w.state

/-- The unique indexes. -/
structure InspirationStore.Indexed (s : InspirationStore) : Prop where
  workIds : (s.work.map (·.id)).Nodup
  presentationIds : (s.presentations.map (·.id)).Nodup
  sourceKeys : (s.sources.map fun d => (d.logicalId, d.revision)).Nodup

/-- **The work in scope is withdrawn**, its presentations are redacted or removed, and nothing else is. -/
structure InspirationStore.Withdrawn (s t : InspirationStore) (inScope : WorkDocument → Bool) : Prop where
  work : t.work = s.work.map fun w => if inScope w then { w with state := s.withdrawnState w } else w
  settled : ∀ w ∈ t.work, inScope w = true →
    w.state = .cancellationRequested ∨ (∃ artifactId, w.state = .redacted artifactId) ∨ w.state = .deleted
  redacted : ∀ w ∈ s.work, inScope w = true → ∀ p ∈ s.presentations, w.HasArtifact p →
    w.artifactPolicy = .redactDerived → ∀ p', p'.id = p.id → (p' ∈ t.presentations ↔ p' = p.redacted)
  removed : ∀ w ∈ s.work, inScope w = true → ∀ p ∈ s.presentations, w.HasArtifact p →
    w.artifactPolicy ≠ .redactDerived → ∀ p' ∈ t.presentations, p'.id ≠ p.id
  others : ∀ p, (∀ w ∈ s.work, inScope w = true → ¬ w.HasArtifact p) → (p ∈ t.presentations ↔ p ∈ s.presentations)

/-! ## A sweep, document by document -/

/-- What a write of a sweep does to a work. -/
def Write.onWork : Write → WorkDocument → WorkDocument
  | .cancelWork ids, w => if ids.contains w.id then { w with state := .cancellationRequested } else w
  | .workState id state, w => if w.id = id then { w with state } else w
  | _, w => w

/-- What a write of a sweep does to a presentation, if it is left. -/
def Write.onPresentation : Write → PresentationDocument → Option PresentationDocument
  | .redactPresentation id, p => some (if p.id = id then p.redacted else p)
  | .deletePresentation id, p => if p.id = id then none else some p
  | _, p => some p

def onWork (writes : List Write) (w : WorkDocument) : WorkDocument := writes.foldl (fun w x => x.onWork w) w

def onPresentation (writes : List Write) (p : PresentationDocument) : Option PresentationDocument :=
  writes.foldl (fun p x => p.bind x.onPresentation) (some p)

theorem foldl_none (writes : List Write) :
    writes.foldl (fun (p : Option PresentationDocument) x => p.bind x.onPresentation) none = none := by
  induction writes with
  | nil => rfl
  | cons w writes ih => exact ih

theorem onPresentation_append (writes writes' : List Write) (p : PresentationDocument) :
    onPresentation (writes ++ writes') p = (onPresentation writes p).bind (onPresentation writes') := by
  unfold onPresentation
  rw [List.foldl_append]
  cases writes.foldl (fun (p : Option PresentationDocument) x => p.bind x.onPresentation) (some p) with
  | none => exact foldl_none writes'
  | some p => rfl

theorem onWork_append (writes writes' : List Write) (w : WorkDocument) :
    onWork (writes ++ writes') w = onWork writes' (onWork writes w) := List.foldl_append

/-- All but a registration of work. -/
def Write.addsWork : Write → Bool
  | .insertWork _ => true
  | _ => false

theorem applyAll_onWork {writes : List Write} (hadds : ∀ w ∈ writes, w.addsWork = false) (s : InspirationStore) :
    (applyAll writes s).work = s.work.map (onWork writes) := by
  induction writes generalizing s with
  | nil => exact (List.map_id' _).symm
  | cons x writes ih =>
    have hhead := hadds x mem_cons_self
    have hwork : (x.apply s).work = s.work.map x.onWork := by
      cases x <;> first | rfl | exact (List.map_id' _).symm | cases hhead
    rw [applyAll_cons, ih fun w hw => hadds w (List.mem_cons_of_mem _ hw), hwork, List.map_map]
    rfl

theorem applyAll_onPresentation (writes : List Write) (s : InspirationStore) :
    (applyAll writes s).presentations = s.presentations.filterMap (onPresentation writes) := by
  induction writes generalizing s with
  | nil => exact (List.filterMap_some).symm
  | cons x writes ih =>
    have hpresentations : (x.apply s).presentations = s.presentations.filterMap x.onPresentation := by
      cases x
      case redactPresentation id =>
        show updateById _ _ _ _ = s.presentations.filterMap fun p => some _
        rw [List.filterMap_eq_map']
        rfl
      case deletePresentation id =>
        show s.presentations.filter _ = _
        rw [← List.filterMap_eq_filter]
        refine List.filterMap_congr fun p _ => ?_
        by_cases hid : p.id = id <;> simp [Write.onPresentation, Option.guard, hid]
      all_goals exact (List.filterMap_some).symm
    rw [applyAll_cons, ih, hpresentations, List.filterMap_filterMap]
    exact List.filterMap_congr fun p _ => (onPresentation_append [x] writes p).symm

section Sweeps

variable {s : InspirationStore} {inScope : WorkDocument → Bool}

variable {p : PresentationDocument} {w x : WorkDocument}

/-- The presentation of an artifact is found where it is. -/
theorem hasPresentation_eq_true {artifactId : String} :
    s.hasPresentation w artifactId = true ↔ ∃ p ∈ s.presentations, p.id = artifactId ∧ p.campaignId = w.campaignId ∧
      p.privateInspirationWorkId = some w.id := by
  unfold InspirationStore.hasPresentation
  rw [List.any_eq_true]
  simp only [decide_eq_true_eq]

/-- The policy of a work is for this work. -/
theorem onWork_policy_of_ne (hne : w.id ≠ x.id) : onWork (s.completedWorkPolicy x) w = w := by
  have hstate : ∀ state, (Write.workState x.id state).onWork w = w := fun state => if_neg hne
  unfold InspirationStore.completedWorkPolicy
  split
  · rfl
  split
  · split
    · exact hstate _
    · exact hstate _
  all_goals
    rw [onWork_append]
    split <;> exact hstate _

theorem onWork_policy {x w : WorkDocument} (hid : w.id = x.id) :
    onWork (s.completedWorkPolicy x) w =
      if x.state.completedArtifactId.isSome = true then { w with state := s.withdrawnState x } else w := by
  have hstate : ∀ state, (Write.workState x.id state).onWork w = { w with state } := fun state => if_pos hid
  unfold InspirationStore.completedWorkPolicy InspirationStore.withdrawnState
  cases hartifact : x.state.completedArtifactId with
  | none => rfl
  | some artifactId =>
    rw [Option.isSome_some, if_pos rfl]
    cases hpolicy : x.artifactPolicy with
    | redactDerived =>
      simp only [true_and]
      split
      · exact hstate _
      · exact hstate _
    | deleteDerived =>
      rw [onWork_append]
      simp only [reduceCtorEq, false_and, if_false]
      split <;> exact hstate _
    | retainMinimalAudit =>
      rw [onWork_append]
      simp only [reduceCtorEq, false_and, if_false]
      split <;> exact hstate _

theorem onWork_policies_of_not {ys : List WorkDocument} (hne : ∀ y ∈ ys, w.id ≠ y.id) :
    onWork (ys.flatMap s.completedWorkPolicy) w = w := by
  induction ys with
  | nil => rfl
  | cons y ys ih =>
    rw [flatMap_cons, onWork_append, onWork_policy_of_ne (hne y mem_cons_self)]
    exact ih fun z hz => hne z (List.mem_cons_of_mem _ hz)

/-- The policies of several works reach each of them once. -/
theorem onWork_policies {xs : List WorkDocument} (hids : (xs.map (·.id)).Nodup) {x w : WorkDocument} (hid : w.id = x.id)
    (hx : x ∈ xs) : onWork (xs.flatMap s.completedWorkPolicy) w = onWork (s.completedWorkPolicy x) w := by
  induction xs with
  | nil => cases hx
  | cons y ys ih =>
    rw [List.map_cons, List.nodup_cons] at hids
    rw [flatMap_cons, onWork_append]
    rcases mem_cons.mp hx with rfl | hx
    · refine onWork_policies_of_not fun z hz heq => hids.1 ?_
      have hkept : (onWork (s.completedWorkPolicy x) w).id = w.id := by
        rw [onWork_policy hid]
        split <;> rfl
      rw [← hid, ← hkept, heq]
      exact List.mem_map_of_mem hz
    · have hne : w.id ≠ y.id := fun heq => hids.1 (by rw [← heq, hid]; exact List.mem_map_of_mem hx)
      rw [onWork_policy_of_ne hne]
      exact ih hids.2 hx

/-- A pending work in scope is among those that are cancelled, and no other one is. -/
theorem mem_pendingWork_iff (h : s.Indexed) (hw : w ∈ s.work) :
    w.id ∈ s.pendingWork inScope ↔ inScope w = true ∧ w.state = .pending := by
  unfold InspirationStore.pendingWork
  rw [List.mem_insertionSort, mem_map]
  constructor
  · rintro ⟨x, hx, hid⟩
    obtain ⟨hmem, hscope⟩ := mem_filter.mp hx
    obtain rfl := inj_on_of_nodup_map h.workIds hmem hw hid
    exact of_decide_eq_true hscope
  · exact fun hscope => ⟨w, mem_filter.mpr ⟨hw, decide_eq_true hscope⟩, rfl⟩

theorem onWork_sweep (h : s.Indexed) (hw : w ∈ s.work) :
    onWork (s.sweepWork inScope) w = if inScope w then { w with state := s.withdrawnState w } else w := by
  have hsorted := h.workIds.sublist ((List.filter_sublist (p := inScope) (l := s.work)).map (·.id))
  show onWork ((s.work.filter inScope).flatMap s.completedWorkPolicy) ((Write.cancelWork (s.pendingWork inScope)).onWork w) = _
  have hcancel : (Write.cancelWork (s.pendingWork inScope)).onWork w =
      if inScope w = true ∧ w.state = .pending then { w with state := .cancellationRequested } else w := by
    show (if (s.pendingWork inScope).contains w.id = true then _ else w) = _
    rw [List.contains_eq_mem]
    simp only [decide_eq_true_eq, mem_pendingWork_iff h hw]
  rw [hcancel]
  by_cases hscope : inScope w = true
  · have hmem : w ∈ s.work.filter inScope := mem_filter.mpr ⟨hw, hscope⟩
    by_cases hpending : w.state = .pending
    · rw [if_pos ⟨hscope, hpending⟩, if_pos hscope, @onWork_policies s _ hsorted w
        { w with state := .cancellationRequested } rfl hmem,
        @onWork_policy s w { w with state := .cancellationRequested } rfl]
      unfold InspirationStore.withdrawnState
      rw [hpending]
      rfl
    · rw [if_neg fun h => hpending h.2, if_pos hscope, onWork_policies hsorted rfl hmem, onWork_policy rfl]
      cases hartifact : w.state.completedArtifactId with
      | some artifactId => rfl
      | none =>
        unfold InspirationStore.withdrawnState
        rw [hartifact]
        simp only [hpending, if_false]
        rfl
  · rw [if_neg fun h => hscope h.1, if_neg hscope]
    refine onWork_policies_of_not fun y hy hid => hscope ?_
    obtain ⟨hmem, hscopey⟩ := mem_filter.mp hy
    rw [inj_on_of_nodup_map h.workIds hw hmem hid]
    exact hscopey

/-- The policy of a work is for its artifact. -/
theorem onPresentation_policy_of_not
    (hp : ∀ p' ∈ s.presentations, p'.id = p.id →
      p'.campaignId = p.campaignId ∧ p'.privateInspirationWorkId = p.privateInspirationWorkId)
    (h : ¬ x.HasArtifact p) : onPresentation (s.completedWorkPolicy x) p = some p := by
  have hne : ∀ artifactId, x.state.completedArtifactId = some artifactId → s.hasPresentation x artifactId = true →
      p.id ≠ artifactId := fun artifactId hartifact hhas hid => by
    obtain ⟨p', hp', hid', hcampaign, hwork⟩ := hasPresentation_eq_true.mp hhas
    obtain ⟨hsame, hsame'⟩ := hp p' hp' (hid'.trans hid.symm)
    exact h ⟨hartifact.trans (congrArg some hid.symm), hsame.symm.trans hcampaign, hsame'.symm.trans hwork⟩
  unfold InspirationStore.completedWorkPolicy
  cases hartifact : x.state.completedArtifactId with
  | none => rfl
  | some artifactId =>
    by_cases hhas : s.hasPresentation x artifactId = true
    · have hid := hne artifactId hartifact hhas
      cases x.artifactPolicy <;> simp [hhas, onPresentation, Write.onPresentation, hid]
    · cases x.artifactPolicy <;> simp [hhas, onPresentation, Write.onPresentation]

theorem onPresentation_policy (hp : p ∈ s.presentations)
    (h : x.HasArtifact p) : onPresentation (s.completedWorkPolicy x) p =
      if x.artifactPolicy = .redactDerived then some p.redacted else none := by
  have hhas : s.hasPresentation x p.id = true := hasPresentation_eq_true.mpr ⟨p, hp, rfl, h.2.1, h.2.2⟩
  unfold InspirationStore.completedWorkPolicy
  rw [h.1]
  cases x.artifactPolicy <;> simp [hhas, onPresentation, Write.onPresentation]

variable {xs : List WorkDocument} {p' : PresentationDocument}

theorem onPresentation_policies_of_not
    (hp : ∀ p' ∈ s.presentations, p'.id = p.id →
      p'.campaignId = p.campaignId ∧ p'.privateInspirationWorkId = p.privateInspirationWorkId)
    (h : ∀ x ∈ xs, ¬ x.HasArtifact p) : onPresentation (xs.flatMap s.completedWorkPolicy) p = some p := by
  induction xs with
  | nil => rfl
  | cons x xs ih =>
    rw [flatMap_cons, onPresentation_append, onPresentation_policy_of_not hp (h x mem_cons_self)]
    exact ih fun y hy => h y (List.mem_cons_of_mem _ hy)

/-- The policies of several works reach an artifact once. -/
theorem onPresentation_policies (h : s.Indexed) (hids : (xs.map (·.id)).Nodup)
    (hp : p ∈ s.presentations) (hx : x ∈ xs) (hartifact : x.HasArtifact p) :
    onPresentation (xs.flatMap s.completedWorkPolicy) p =
      if x.artifactPolicy = .redactDerived then some p.redacted else none := by
  have hsame : ∀ p' ∈ s.presentations, p'.id = p.id →
      p'.campaignId = p.campaignId ∧ p'.privateInspirationWorkId = p.privateInspirationWorkId := fun p' hp' hid => by
    rw [inj_on_of_nodup_map h.presentationIds hp' hp hid]
    exact ⟨rfl, rfl⟩
  induction xs with
  | nil => cases hx
  | cons y ys ih =>
    rw [List.map_cons, List.nodup_cons] at hids
    rw [flatMap_cons, onPresentation_append]
    rcases mem_cons.mp hx with rfl | hx
    · rw [onPresentation_policy hp hartifact]
      split
      · refine onPresentation_policies_of_not hsame fun z hz hz' => hids.1 ?_
        have hwork : some z.id = some x.id := hz'.2.2.symm.trans hartifact.2.2
        rw [← Option.some.inj hwork]
        exact List.mem_map_of_mem hz
      · rfl
    · have hnot : ¬ y.HasArtifact p := fun hy => hids.1 (by
        rw [Option.mem_unique hy.2.2 hartifact.2.2]
        exact List.mem_map_of_mem hx)
      rw [onPresentation_policy_of_not hsame hnot]
      exact ih hids.2 hx

/-- What becomes of an artifact of a work in scope. -/
theorem onPresentation_inScope (h : s.Indexed) (hp : p ∈ s.presentations)
    (hx : x ∈ s.work) (hin : inScope x = true) (hartifact : x.HasArtifact p) :
    onPresentation ((s.work.filter inScope).flatMap s.completedWorkPolicy) p =
      if x.artifactPolicy = .redactDerived then some p.redacted else none := by
  have hids : ((s.work.filter inScope).map (·.id)).Nodup :=
    h.workIds.sublist ((List.filter_sublist (p := inScope) (l := s.work)).map (·.id))
  exact onPresentation_policies h hids hp (mem_filter.mpr ⟨hx, hin⟩) hartifact

/-- A presentation is the artifact of one work in scope, or of none. -/
theorem onPresentation_scope (inScope : WorkDocument → Bool) (h : s.Indexed)
    (hp : p ∈ s.presentations) :
    (∃ x ∈ s.work, inScope x = true ∧ x.HasArtifact p ∧
      onPresentation ((s.work.filter inScope).flatMap s.completedWorkPolicy) p =
        if x.artifactPolicy = .redactDerived then some p.redacted else none) ∨
      onPresentation ((s.work.filter inScope).flatMap s.completedWorkPolicy) p = some p := by
  by_cases hartifact : ∃ x ∈ s.work, inScope x = true ∧ x.HasArtifact p
  · obtain ⟨x, hx, hin, hartifact⟩ := hartifact
    exact .inl ⟨x, hx, hin, hartifact, onPresentation_inScope h hp hx hin hartifact⟩
  · refine .inr (onPresentation_policies_of_not (fun p' hp' hid => ?_) fun x hx hhas => hartifact ?_)
    · rw [inj_on_of_nodup_map h.presentationIds hp' hp hid]
      exact ⟨rfl, rfl⟩
    · exact ⟨x, (mem_filter.mp hx).1, (mem_filter.mp hx).2, hhas⟩

/-- What is left of a presentation keeps its id. -/
theorem onPresentation_scope_id (h : s.Indexed) (hp : p ∈ s.presentations)
    (hsome : onPresentation ((s.work.filter inScope).flatMap s.completedWorkPolicy) p = some p') : p'.id = p.id := by
  rcases onPresentation_scope inScope h hp with ⟨x, -, -, -, heq⟩ | heq
  · rw [heq] at hsome
    split at hsome
    · rw [← Option.some.inj hsome]
      rfl
    · cases hsome
  · rw [heq] at hsome
    rw [Option.some.inj hsome]

/-- Of the presentations that are left, the one with the id of another is what became of that one. -/
theorem mem_onPresentation_scope (h : s.Indexed) (hp : p ∈ s.presentations)
    (hid : p'.id = p.id) :
    p' ∈ s.presentations.filterMap (onPresentation ((s.work.filter inScope).flatMap s.completedWorkPolicy)) ↔
      onPresentation ((s.work.filter inScope).flatMap s.completedWorkPolicy) p = some p' := by
  rw [List.mem_filterMap]
  constructor
  · rintro ⟨q, hq, hsome⟩
    have hqid := onPresentation_scope_id h hq hsome
    rw [← inj_on_of_nodup_map h.presentationIds hq hp (hqid.symm.trans hid)]
    exact hsome
  · exact fun hsome => ⟨p, hp, hsome⟩

/-- Writes to other documents than works and presentations. -/
theorem on_of_idle {writes : List Write}
    (hidle : ∀ w ∈ writes, (∀ x, w.onWork x = x) ∧ ∀ p, w.onPresentation p = some p) :
    (∀ x, onWork writes x = x) ∧ ∀ p, onPresentation writes p = some p := by
  induction writes with
  | nil => exact ⟨fun _ => rfl, fun _ => rfl⟩
  | cons w writes ih =>
    obtain ⟨hwork, hpresentation⟩ := ih fun x hx => hidle x (List.mem_cons_of_mem _ hx)
    obtain ⟨hw, hp⟩ := hidle w mem_cons_self
    refine ⟨fun x => ?_, fun p => ?_⟩
    · show onWork writes (w.onWork x) = x
      rw [hw, hwork]
    · rw [← List.singleton_append, onPresentation_append]
      show (w.onPresentation p).bind _ = _
      rw [hp]
      exact hpresentation p

end Sweeps

theorem withdrawnState_settled (s : InspirationStore) (w : WorkDocument) :
    s.withdrawnState w = .cancellationRequested ∨ (∃ artifactId, s.withdrawnState w = .redacted artifactId) ∨
      s.withdrawnState w = .deleted := by
  unfold InspirationStore.withdrawnState
  cases hstate : w.state with
  | pending => exact .inl rfl
  | cancellationRequested => exact .inl rfl
  | deleted => exact .inr (.inr rfl)
  | completed artifactId =>
    simp only [WorkState.completedArtifactId]
    split
    · exact .inr (.inl ⟨artifactId, rfl⟩)
    · exact .inr (.inr rfl)
  | redacted artifactId =>
    simp only [WorkState.completedArtifactId]
    split
    · exact .inr (.inl ⟨artifactId, rfl⟩)
    · exact .inr (.inr rfl)

/-- **A sweep withdraws the work in its scope**, whatever else the transaction writes before and after it. -/
theorem sweepWork_withdraws {s : InspirationStore} (h : s.Indexed) {inScope : WorkDocument → Bool}
    {before after : List Write}
    (hbefore : ∀ w ∈ before ++ after, w.addsWork = false ∧ (∀ x, w.onWork x = x) ∧ ∀ p, w.onPresentation p = some p) :
    s.Withdrawn (applyAll (before ++ s.sweepWork inScope ++ after) s) inScope := by
  -- of the whole transaction only the sweep reaches works and presentations
  obtain ⟨hworkb, hpresb⟩ := on_of_idle fun w hw => (hbefore w (List.mem_append_left _ hw)).2
  obtain ⟨hworka, hpresa⟩ := on_of_idle fun w hw => (hbefore w (List.mem_append_right _ hw)).2
  have hwork : (applyAll (before ++ s.sweepWork inScope ++ after) s).work =
      s.work.map fun w => if inScope w then { w with state := s.withdrawnState w } else w := by
    rw [applyAll_onWork]
    · refine List.map_congr_left fun w hw => ?_
      rw [onWork_append, onWork_append, hworkb, hworka, onWork_sweep h hw]
    · intro w hw
      rcases mem_append.mp hw with hw | hw
      · rcases mem_append.mp hw with hw | hw
        · exact (hbefore w (List.mem_append_left _ hw)).1
        · have hsweep := sweepWork_isSweep hw
          cases w <;> first | rfl | cases hsweep
      · exact (hbefore w (List.mem_append_right _ hw)).1
  have hpresentations : (applyAll (before ++ s.sweepWork inScope ++ after) s).presentations =
      s.presentations.filterMap (onPresentation ((s.work.filter inScope).flatMap s.completedWorkPolicy)) := by
    rw [applyAll_onPresentation]
    refine List.filterMap_congr fun p _ => ?_
    rw [onPresentation_append, onPresentation_append, hpresb, Option.bind_some]
    show (onPresentation ((s.work.filter inScope).flatMap s.completedWorkPolicy) p).bind _ = _
    rw [show onPresentation after = some from funext hpresa, Option.bind_fun_some]
  refine ⟨hwork, fun w hw hin => ?_, fun w hw hin p hp hartifact hpolicy p' hid => ?_,
    fun w hw hin p hp hartifact hpolicy p' hp' hid => ?_, fun p hnot => ?_⟩
  · rw [hwork] at hw
    obtain ⟨x, -, rfl⟩ := mem_map.mp hw
    by_cases hx : inScope x = true
    · rw [if_pos hx]
      exact withdrawnState_settled s x
    · rw [if_neg hx] at hin
      exact absurd hin hx
  · rw [hpresentations, mem_onPresentation_scope h hp hid, onPresentation_inScope h hp hw hin hartifact, if_pos hpolicy]
    exact ⟨fun hsome => (Option.some.inj hsome).symm, fun heq => by rw [heq]⟩
  · rw [hpresentations, mem_onPresentation_scope h hp hid, onPresentation_inScope h hp hw hin hartifact,
      if_neg hpolicy] at hp'
    cases hp'
  · rw [hpresentations, List.mem_filterMap]
    constructor
    · rintro ⟨q, hq, hsome⟩
      rcases onPresentation_scope inScope h hq with ⟨x, hx, hin, hartifact, heq⟩ | heq
      · rw [heq] at hsome
        split at hsome
        · rw [← Option.some.inj hsome] at hnot
          exact absurd hartifact (hnot x hx hin)
        · cases hsome
      · rw [heq] at hsome
        exact Option.some.inj hsome ▸ hq
    · intro hp
      rcases onPresentation_scope inScope h hp with ⟨x, hx, hin, hartifact, -⟩ | heq
      · exact absurd hartifact (hnot x hx hin)
      · exact ⟨p, hp, heq⟩

/-! ## The law -/

/-- The work that a command reaches, where it withdraws any. -/
def PrivacyCommand.scope (r : Request) (s : InspirationStore) : PrivacyCommand → Option (WorkDocument → Bool)
  | .applyVeto _ _ scope => some (s.workInScope r.campaignId scope)
  | .presentationControl _ presentationId action =>
    match s.loadPresentationOrigin r.campaignId presentationId with
    | .ok (.ok origin) => (action.vetoScope origin.source).map fun scope => s.workInScope r.campaignId scope
    | _ => none
  | .revokeConsent grantId _ => (s.consents.find? (·.id = grantId)).map fun consent w =>
      w.campaignId = r.campaignId ∧ w.sourceId = consent.sourceId ∧ w.sourceRevision = consent.sourceRevision
  | .deleteParticipant _ participantId => some (workOfSources (s.sourcesOf participantId))
  | .disableCampaign _ => some fun w => w.campaignId = r.campaignId

/-- What a command vetoes. -/
def PrivacyCommand.vetoScope (r : Request) (s : InspirationStore) : PrivacyCommand → Option InspirationVetoScope
  | .applyVeto _ _ scope => some scope
  | .presentationControl _ presentationId action =>
    match s.loadPresentationOrigin r.campaignId presentationId with
    | .ok (.ok origin) => action.vetoScope origin.source
    | _ => none
  | _ => none

/-- The cancellations that are returned, by the commands that return them. -/
def InspirationResponse.cancellationIds : InspirationResponse → Option (List String)
  | .transition _ ids => some ids
  | .deletion outcome => some outcome.pendingWorkCancellationIds
  | _ => none

/-- The ids are those of the pending work. -/
def InspirationStore.ListsPending (s : InspirationStore) (inScope : WorkDocument → Bool) (ids : List String) : Prop :=
  ids.Nodup ∧ ∀ id, id ∈ ids ↔ ∃ w ∈ s.work, w.id = id ∧ inScope w = true ∧ w.state = .pending

/-- The veto is kept, and the work in scope is that whose source it rejects. -/
def InspirationStore.VetoReaches (s t : InspirationStore) (campaignId : String) (scope : InspirationVetoScope)
    (inScope : WorkDocument → Bool) : Prop :=
  (∃ v ∈ t.vetoes, v ∉ s.vetoes ∧ v.campaignId = campaignId ∧ v.scope = scope) ∧
    ∀ w ∈ s.work, ∀ d ∈ s.sources, w.IsOf d →
      (inScope w = true ↔ w.campaignId = campaignId ∧ scope.covers d = true)

/-- **What a privacy command does.** Every update stamps its document, so that a document that is not to change is not
    written. -/
structure PrivacyCommand.Law (c : PrivacyCommand) (r : Request) (s : InspirationStore) (d : InspirationDecision) :
    Prop where
  withdrawn : r.IsFresh (some r.campaignId) s → ∀ response, d.answer = .ok response → ∀ inScope,
    c.scope r s = some inScope → s.Withdrawn (d.apply s) inScope ∧
      ∀ ids ∈ response.cancellationIds, s.ListsPending inScope ids
  vetoed : r.IsFresh (some r.campaignId) s → ∀ response, d.answer = .ok response → ∀ inScope scope,
    c.scope r s = some inScope → c.vetoScope r s = some scope →
      s.VetoReaches (d.apply s) r.campaignId scope inScope
  repeated : ¬ r.IsFresh (some r.campaignId) s → d.writes = [] ∧ d.apply s = s
  refused : ∀ e, d.answer = .error e → d.writes = [] ∧ d.apply s = s

/-- A report of a presentation that can be reported, in a campaign without settings. -/
structure PrivacyCommand.ReportsUnset (c : PrivacyCommand) (r : Request) (s : InspirationStore) : Prop where
  report : ∃ vetoId presentationId origin, c = .presentationControl vetoId presentationId .report ∧
    s.loadPresentationOrigin r.campaignId presentationId = .ok (.ok origin)
  unset : ∃ campaign, s.loadCampaign r.campaignId = .ok campaign ∧ campaign.safety = none
  fresh : r.IsFresh (some r.campaignId) s

/-! ## The commands -/

section Commands

variable {r : Request} {s : InspirationStore} {c : PrivacyCommand} {d : InspirationDecision}

theorem listsPending_pendingWork (h : s.Indexed) (inScope : WorkDocument → Bool) :
    s.ListsPending inScope (s.pendingWork inScope) := by
  constructor
  · unfold InspirationStore.pendingWork
    rw [(List.perm_insertionSort _ _).nodup_iff]
    exact h.workIds.sublist (List.filter_sublist.map _)
  · intro id
    constructor
    · intro hid
      unfold InspirationStore.pendingWork at hid
      rw [List.mem_insertionSort] at hid
      obtain ⟨w, hw, rfl⟩ := mem_map.mp hid
      obtain ⟨hmem, hscope⟩ := mem_filter.mp hw
      exact ⟨w, hmem, rfl, of_decide_eq_true hscope⟩
    · rintro ⟨w, hw, rfl, hscope⟩
      exact (mem_pendingWork_iff h hw).mpr hscope

/-- A command that writes nothing keeps the law, unless it should have withdrawn something. -/
theorem law_of_nothing {answer : Except PrivateInspirationError InspirationResponse}
    (h : r.IsFresh (some r.campaignId) s → ∃ e, answer = .error e) : c.Law r s (decided [] answer) where
  withdrawn := fun hfresh response hanswer => by
    obtain ⟨e, rfl⟩ := h hfresh
    cases hanswer
  vetoed := fun hfresh response hanswer => by
    obtain ⟨e, rfl⟩ := h hfresh
    cases hanswer
  repeated := fun _ => ⟨rfl, rfl⟩
  refused := fun _ _ => ⟨rfl, rfl⟩

theorem law_of_refused {e : PrivateInspirationError}
    (hd : (.ok (refused e) : Except PersistenceError InspirationDecision) = .ok d) : c.Law r s d := by
  obtain rfl := Except.ok.inj hd
  exact law_of_nothing fun _ => ⟨_, rfl⟩

/-- The writes around a sweep that leave work and presentations as they are. -/
def Write.isAside (w : Write) : Prop :=
  w.addsWork = false ∧ (∀ x, w.onWork x = x) ∧ ∀ p, w.onPresentation p = some p

variable {vetoId kind campaignId participantId presentationId : String} {response : InspirationResponse}

/-- **A command that sweeps its scope keeps the law.** -/
theorem law_of_sweep (h : s.Indexed) (hfresh : r.IsFresh (some r.campaignId) s) {writes : List Write}
    {inScope : WorkDocument → Bool} (before after : List Write)
    (hwrites : writes = before ++ s.sweepWork inScope ++ after) (hscope : c.scope r s = some inScope)
    (haside : ∀ w ∈ before ++ after, w.isAside) (hids : ∀ ids ∈ response.cancellationIds, ids = s.pendingWork inScope)
    (hveto : ∀ scope, c.vetoScope r s = some scope →
      s.VetoReaches ((carriedOut r (some r.campaignId) kind writes response).apply s) r.campaignId scope inScope) :
    c.Law r s (carriedOut r (some r.campaignId) kind writes response) where
  withdrawn := fun _ response' hanswer inScope' hscope' => by
    cases hanswer
    obtain rfl := Option.mem_unique hscope hscope'
    refine ⟨?_, fun ids hmem => by rw [hids ids hmem]; exact listsPending_pendingWork h inScope⟩
    show s.Withdrawn (applyAll (writes ++ _) s) inScope
    rw [hwrites, List.append_assoc]
    refine sweepWork_withdraws h fun w hw => ?_
    rw [← List.append_assoc] at hw
    rcases mem_append.mp hw with hw | hw
    · exact haside w hw
    · rw [mem_singleton.mp hw]
      exact ⟨rfl, fun _ => rfl, fun _ => rfl⟩
  vetoed := fun _ response' _ inScope' scope hscope' hvetoed => by
    obtain rfl := Option.mem_unique hscope hscope'
    exact hveto scope hvetoed
  repeated := fun hnot => absurd hfresh hnot
  refused := fun e he => by cases he

variable {scope : InspirationVetoScope}

/-- A source version has one digest, so that a scope by version is a scope by source. -/
theorem workInScope_iff (h : s.Indexed)
    (hversion : ∀ sourceId revision digest, scope = .sourceVersion sourceId revision digest →
      ∃ d ∈ s.sources, d.logicalId = sourceId ∧ d.revision = revision ∧ d.sourceDigest = digest)
    {w : WorkDocument} {d : SourceDocument} (hd : d ∈ s.sources) (hof : w.IsOf d) :
    s.workInScope campaignId scope w = true ↔ w.campaignId = campaignId ∧ scope.covers d = true := by
  have hsame : ∀ d' ∈ s.sources, d'.logicalId = w.sourceId → d'.revision = w.sourceRevision → d' = d :=
    fun d' hd' hid hrevision => inj_on_of_nodup_map h.sourceKeys hd' hd
      (Prod.ext (hid.trans hof.1.symm) (hrevision.trans hof.2.symm))
  unfold InspirationStore.workInScope InspirationVetoScope.covers
  rw [Bool.and_eq_true, decide_eq_true_eq]
  refine and_congr_right fun _ => ?_
  cases scope with
  | campaign => exact Iff.rfl
  | category categoryId =>
    simp only [List.any_eq_true, decide_eq_true_eq]
    constructor
    · rintro ⟨d', hd', hcategory, hid, hrevision⟩
      rw [← hsame d' hd' hid hrevision]
      exact hcategory.symm
    · exact fun hcategory => ⟨d, hd, hcategory.symm, hof.1, hof.2⟩
  | sourceVersion sourceId revision digest =>
    simp only [decide_eq_true_eq]
    obtain ⟨d', hd', rfl, rfl, rfl⟩ := hversion _ _ _ rfl
    constructor
    · rintro ⟨hid, hrevision⟩
      rw [hsame d' hd' hid.symm hrevision.symm]
      exact ⟨rfl, rfl, rfl⟩
    · rintro ⟨hid, hrevision, -⟩
      exact ⟨hof.1.symm.trans hid.symm, hof.2.symm.trans hrevision.symm⟩

/-- A veto that is inserted before the sweep is kept. -/
theorem vetoReaches (h : s.Indexed) {actor : String} (hfresh : ¬ ∃ v ∈ s.vetoes, v.id = vetoId)
    (hversion : ∀ sourceId revision digest, scope = .sourceVersion sourceId revision digest →
      ∃ d ∈ s.sources, d.logicalId = sourceId ∧ d.revision = revision ∧ d.sourceDigest = digest) :
    s.VetoReaches (carriedOut r (some r.campaignId) kind
      (.insertVeto ⟨vetoId, campaignId, actor, scope⟩ :: s.sweepWork (s.workInScope campaignId scope))
      response |>.apply s) campaignId scope (s.workInScope campaignId scope) := by
  refine ⟨⟨⟨vetoId, campaignId, actor, scope⟩, ?_, fun hmem => hfresh ⟨_, hmem, rfl⟩, rfl, rfl⟩,
    fun w _ d hd hof => workInScope_iff h hversion hd hof⟩
  show _ ∈ (applyAll (_ :: _ ++ [_]) s).vetoes
  rw [List.cons_append, applyAll_cons, applyAll_append]
  have hsweep : (applyAll (s.sweepWork (s.workInScope campaignId scope))
      ((Write.insertVeto ⟨vetoId, campaignId, actor, scope⟩).apply s)).vetoes =
      s.vetoes ++ [⟨vetoId, campaignId, actor, scope⟩] := by
    refine applyAll_keeps (f := InspirationStore.vetoes) fun w hw t => ?_
    have hsweep := sweepWork_isSweep hw
    cases w <;> first | rfl | cases hsweep
  show _ ∈ (applyAll (s.sweepWork (s.workInScope campaignId scope))
    ((Write.insertVeto ⟨vetoId, campaignId, actor, scope⟩).apply s)).vetoes
  rw [hsweep]
  exact List.mem_append_right _ mem_cons_self

theorem applyVeto_law (h : s.Indexed)
    (hd : applyVeto r vetoId participantId scope s = .ok d) :
    (PrivacyCommand.applyVeto vetoId participantId scope).Law r s d := by
  obtain ⟨campaign, -, hd⟩ := bind_eq_ok.mp hd
  rcases receipted_eq_ok hd with ⟨hnot, answer, rfl⟩ | ⟨hfresh, hd⟩
  · exact law_of_nothing fun hfresh => absurd hfresh hnot
  -- Either kind of scope comes to one decision.
  have hlaw : ¬ (∃ v ∈ s.vetoes, v.id = vetoId) →
      (∀ sourceId revision digest, scope = .sourceVersion sourceId revision digest →
        ∃ d ∈ s.sources, d.logicalId = sourceId ∧ d.revision = revision ∧ d.sourceDigest = digest) →
      (PrivacyCommand.applyVeto vetoId participantId scope).Law r s
        (carriedOut r (some r.campaignId) "veto_apply"
          (.insertVeto ⟨vetoId, r.campaignId, participantId, scope⟩ :: s.sweepWork (s.workInScope r.campaignId scope))
          (.transition vetoId (s.pendingWork (s.workInScope r.campaignId scope)))) := fun hid hversion => by
    refine law_of_sweep h hfresh [_] [] (append_nil _).symm rfl (fun w hw => ?_) (fun ids hids => ?_)
      fun scope' hscope' => ?_
    · rw [mem_singleton.mp hw]
      exact ⟨rfl, fun _ => rfl, fun _ => rfl⟩
    · exact (Option.some.inj hids).symm
    · obtain rfl := Option.some.inj hscope'
      exact vetoReaches h hid hversion
  split at hd
  · exact law_of_refused hd
  split at hd
  · next sourceId revision digest =>
    split at hd
    · exact law_of_refused hd
    next source hsource =>
    obtain ⟨hsmem, hlogical, hrevision⟩ := loadSource_eq_some hsource
    obtain ⟨-, -, hd⟩ := bind_eq_ok.mp hd
    split at hd
    · exact law_of_refused hd
    next hopen =>
    obtain ⟨hid, hd⟩ := seq_eq_ok.mp hd
    obtain rfl := Except.ok.inj hd
    refine hlaw (rejectIf_eq_ok.mp hid) fun sourceId' revision' digest' heq => ?_
    cases heq
    refine ⟨source, hsmem, hlogical, hrevision, ?_⟩
    by_contra hne
    exact hopen (.inl hne)
  · next hscope =>
    obtain ⟨hid, hd⟩ := seq_eq_ok.mp hd
    obtain rfl := Except.ok.inj hd
    exact hlaw (rejectIf_eq_ok.mp hid) fun sourceId revision digest heq => absurd heq (hscope sourceId revision digest)

theorem revokeConsent_law (h : s.Indexed) {grantId requester : String}
    (hd : revokeConsent r grantId requester s = .ok d) : (PrivacyCommand.revokeConsent grantId requester).Law r s d := by
  obtain ⟨campaign, -, hd⟩ := bind_eq_ok.mp hd
  rcases receipted_eq_ok hd with ⟨hnot, answer, rfl⟩ | ⟨hfresh, hd⟩
  · exact law_of_nothing fun hfresh => absurd hfresh hnot
  split at hd
  · exact law_of_refused hd
  next consent hfind =>
  split at hd
  · exact law_of_refused hd
  obtain rfl := Except.ok.inj hd
  refine law_of_sweep h hfresh [_] [] (append_nil _).symm ?_ (fun w hw => ?_)
    (fun ids hids => (Option.some.inj hids).symm) fun scope hscope => by cases hscope
  · show (s.consents.find? _).map _ = some _
    rw [hfind]
    rfl
  · rw [mem_singleton.mp hw]
    exact ⟨rfl, fun _ => rfl, fun _ => rfl⟩

theorem disableCampaign_law (h : s.Indexed) {expected : Nat} (hd : disableCampaign r expected s = .ok d) :
    (PrivacyCommand.disableCampaign expected).Law r s d := by
  obtain ⟨campaign, hload, hd⟩ := bind_eq_ok.mp hd
  rcases receipted_eq_ok hd with ⟨hnot, answer, rfl⟩ | ⟨hfresh, hd⟩
  · exact law_of_nothing fun hfresh => absurd hfresh hnot
  split at hd
  · exact law_of_refused hd
  next safety hsafety =>
  split at hd
  · exact law_of_refused hd
  obtain ⟨-, -, hd⟩ := bind_eq_ok.mp hd
  obtain rfl := Except.ok.inj hd
  obtain ⟨-, hid⟩ := loadCampaign_eq_ok hload
  refine law_of_sweep h hfresh [_, _] [] (append_nil _).symm (by rw [hid]; rfl) (fun w hw => ?_)
    (fun ids hids => by cases hids) fun scope hscope => by cases hscope
  rcases mem_cons.mp hw with rfl | hw
  · exact ⟨rfl, fun _ => rfl, fun _ => rfl⟩
  · rw [mem_singleton.mp hw]
    exact ⟨rfl, fun _ => rfl, fun _ => rfl⟩

theorem deleteParticipant_law (h : s.Indexed) {deletionId : String}
    (hd : deleteParticipant r deletionId participantId s = .ok d) :
    (PrivacyCommand.deleteParticipant deletionId participantId).Law r s d := by
  obtain ⟨campaign, -, hd⟩ := bind_eq_ok.mp hd
  rcases receipted_eq_ok hd with ⟨hnot, answer, rfl⟩ | ⟨hfresh, hd⟩
  · exact law_of_nothing fun hfresh => absurd hfresh hnot
  split at hd
  · exact law_of_refused hd
  split at hd
  · exact law_of_refused hd
  obtain ⟨-, -, hd⟩ := bind_eq_ok.mp hd
  obtain ⟨-, -, hd⟩ := bind_eq_ok.mp hd
  obtain rfl := Except.ok.inj hd
  refine law_of_sweep h hfresh _ _ rfl rfl (fun w hw => ?_) (fun ids hids => (Option.some.inj hids).symm)
    fun scope hscope => by cases hscope
  rcases mem_append.mp hw with hw | hw
  · rcases mem_cons.mp hw with rfl | hw
    · exact ⟨rfl, fun _ => rfl, fun _ => rfl⟩
    rcases mem_cons.mp hw with rfl | hw
    · exact ⟨rfl, fun _ => rfl, fun _ => rfl⟩
    obtain ⟨source, -, rfl⟩ := mem_map.mp hw
    exact ⟨rfl, fun _ => rfl, fun _ => rfl⟩
  · rw [mem_singleton.mp hw]
    exact ⟨rfl, fun _ => rfl, fun _ => rfl⟩

/-- The source of a presentation is a stored version. -/
theorem loadPresentationOrigin_source {origin : PresentationOrigin}
    (hload : s.loadPresentationOrigin r.campaignId presentationId = .ok (.ok origin)) : origin.source ∈ s.sources := by
  unfold InspirationStore.loadPresentationOrigin at hload
  split at hload
  · cases hload
  split at hload
  · cases hload
  split at hload
  · cases hload
  split at hload
  · cases hload
  next source hsource =>
  obtain ⟨-, -, hload⟩ := bind_eq_ok.mp hload
  obtain ⟨-, -, hload⟩ := bind_eq_ok.mp hload
  cases hload
  exact (loadSource_eq_some hsource).1

/-- **A presentation control keeps the law**, but for a report that finds no settings. -/
theorem applyPresentationControl_law (h : s.Indexed)
    {action : PresentationPrivacyAction} (hd : applyPresentationControl r vetoId presentationId action s = .ok d) :
    (PrivacyCommand.presentationControl vetoId presentationId action).Law r s d ↔
      ¬ (PrivacyCommand.presentationControl vetoId presentationId action).ReportsUnset r s := by
  obtain ⟨campaign, hload, hd⟩ := bind_eq_ok.mp hd
  rcases receipted_eq_ok hd with ⟨hnot, answer, rfl⟩ | ⟨hfresh, hd⟩
  · exact ⟨fun _ hreports => hnot hreports.fresh, fun _ => law_of_nothing fun hfresh => absurd hfresh hnot⟩
  obtain ⟨loaded, hloaded, hd⟩ := bind_eq_ok.mp hd
  split at hd
  · next e =>
    obtain rfl := Except.ok.inj hd
    refine ⟨fun _ hreports => ?_, fun _ => law_of_nothing fun _ => ⟨_, rfl⟩⟩
    obtain ⟨vetoId', presentationId', origin, heq, horigin⟩ := hreports.report
    cases heq
    rw [hloaded] at horigin
    cases horigin
  next origin =>
  have hscope : (PrivacyCommand.presentationControl vetoId presentationId action).scope r s =
      (action.vetoScope origin.source).map fun scope => s.workInScope r.campaignId scope := by
    unfold PrivacyCommand.scope
    simp only
    rw [hloaded]
  have hvetoed : (PrivacyCommand.presentationControl vetoId presentationId action).vetoScope r s =
      action.vetoScope origin.source := by
    unfold PrivacyCommand.vetoScope
    simp only
    rw [hloaded]
  split at hd
  · next scope haction =>
    obtain ⟨hid, hd⟩ := seq_eq_ok.mp hd
    obtain rfl := Except.ok.inj hd
    refine ⟨fun _ hreports => ?_, fun _ => ?_⟩
    · obtain ⟨vetoId', presentationId', origin', heq, -⟩ := hreports.report
      cases heq
      cases haction
    · refine law_of_sweep h hfresh [_] [] (append_nil _).symm (by rw [hscope, haction]; rfl) (fun w hw => ?_)
        (fun ids hids => by cases hids) fun scope' hscope' => ?_
      · rw [mem_singleton.mp hw]
        exact ⟨rfl, fun _ => rfl, fun _ => rfl⟩
      · rw [hvetoed, haction] at hscope'
        obtain rfl := Option.some.inj hscope'
        refine vetoReaches h (rejectIf_eq_ok.mp hid) fun sourceId revision digest heq => ?_
        have hsource := loadPresentationOrigin_source hloaded
        cases action with
        | veil => cases haction
        | report => cases haction
        | vetoCategory =>
          rw [heq] at haction
          cases haction
        | vetoSource =>
          rw [heq] at haction
          cases haction
          exact ⟨origin.source, hsource, rfl, rfl, rfl⟩
  · next haction =>
    -- Nothing is swept, so that the law is about refusals.
    have hlaw : ∀ {writes : List Write} {response : InspirationResponse},
        (PrivacyCommand.presentationControl vetoId presentationId action).Law r s
          (carriedOut r (some r.campaignId) "presentation_control" writes response) := fun {writes response} =>
      { withdrawn := fun _ _ _ inScope hin => by
          rw [hscope, haction] at hin
          cases hin
        vetoed := fun _ _ _ inScope scope hin _ => by
          rw [hscope, haction] at hin
          cases hin
        repeated := fun hnot => absurd hfresh hnot
        refused := fun e he => by cases he }
    split at hd
    · next hreport =>
      obtain rfl := Except.ok.inj hd
      refine ⟨fun _ hreports => ?_, fun _ => hlaw⟩
      obtain ⟨vetoId', presentationId', origin', heq, -⟩ := hreports.report
      cases heq
      exact hreport rfl
    next hreport =>
    split at hd
    · next hsafety =>
      obtain rfl := Except.ok.inj hd
      constructor
      · intro hlaw
        exact absurd (hlaw.refused _ rfl).1 (List.cons_ne_nil _ _)
      · intro hnot
        refine absurd ⟨⟨vetoId, presentationId, origin, ?_, hloaded⟩, ⟨campaign, hload, hsafety⟩, hfresh⟩ hnot
        rw [not_not.mp hreport]
    · next safety hsafety =>
      obtain rfl := Except.ok.inj hd
      refine ⟨fun _ hreports => ?_, fun _ => hlaw⟩
      obtain ⟨campaign', hload', hunset⟩ := hreports.unset
      rw [hload] at hload'
      cases hload'
      rw [hsafety] at hunset
      cases hunset

end Commands

/-- **What a privacy command withdraws is its scope, and a refusal writes nothing**, but for a report that finds no
    settings to pause. -/
theorem privacy_transition_iff {r : Request} {s : InspirationStore} {c : PrivacyCommand} {d : InspirationDecision}
    (h : s.Indexed) (hd : c.transact r s = .ok d) : c.Law r s d ↔ ¬ c.ReportsUnset r s := by
  have hother : c.Law r s d → (∀ vetoId presentationId action, c ≠ .presentationControl vetoId presentationId action) →
      (c.Law r s d ↔ ¬ c.ReportsUnset r s) := fun hlaw hne => by
    refine ⟨fun _ hreports => ?_, fun _ => hlaw⟩
    obtain ⟨vetoId, presentationId, origin, heq, -⟩ := hreports.report
    exact hne _ _ _ heq
  cases c with
  | applyVeto vetoId participantId scope =>
    exact hother (applyVeto_law h hd) fun _ _ _ heq => by cases heq
  | presentationControl vetoId presentationId action => exact applyPresentationControl_law h hd
  | revokeConsent grantId requester => exact hother (revokeConsent_law h hd) fun _ _ _ heq => by cases heq
  | deleteParticipant deletionId participantId =>
    exact hother (deleteParticipant_law h hd) fun _ _ _ heq => by cases heq
  | disableCampaign expected => exact hother (disableCampaign_law h hd) fun _ _ _ heq => by cases heq

/-! ## A presentation of the walk -/

def canalSettings : CampaignSafetyDocument where
  revision := 2
  enabled := true
  generationPaused := false
  safetySetupComplete := true
  rngCursor := 1
  allowedSensitivities := ["water"]
  lines := []
  veils := []
  excludedTopics := []
  excludedParticipantIds := []

def canalPresentation : PresentationDocument :=
  ⟨"presentation-1", "campaign-1", some "work-1", "A walk along a canal.", false⟩

def canalCompletedWork : WorkDocument where
  id := "work-1"
  campaignId := "campaign-1"
  selectionId := "selection-1"
  sourceSelectionId := "selection-1"
  sourceId := "event-source-canal"
  sourceRevision := 1
  sourceDigest := "sha256:canal"
  workKind := .text
  state := .completed "presentation-1"
  artifactPolicy := .redactDerived

/-- The campaign after the walk was presented. An export leaves its settings out, so that a campaign that is restored
    has none. -/
def canalPresented (safety : Option CampaignSafetyDocument) : InspirationStore :=
  { InspirationStore.new [{ canalCampaign with safety }] canalParty with
    participants := [⟨"participant:1", true⟩], sources := [canalSource], work := [canalCompletedWork]
    presentations := [canalPresentation] }

theorem indexed_canalPresented (safety : Option CampaignSafetyDocument) : (canalPresented safety).Indexed where
  workIds := List.nodup_singleton _
  presentationIds := List.nodup_singleton _
  sourceKeys := List.nodup_singleton _

/-- The owner vetoes the category of the presentation. -/
theorem privacy_transition_iff_canal : ∃ d, (PrivacyCommand.presentationControl "veto-1" "presentation-1" .vetoCategory).transact
      (canalRequest "key-1") (canalPresented (some canalSettings)) = .ok d ∧ d.writes ≠ [] ∧
    ((PrivacyCommand.presentationControl "veto-1" "presentation-1" .vetoCategory).Law (canalRequest "key-1")
        (canalPresented (some canalSettings)) d ↔
      ¬ (PrivacyCommand.presentationControl "veto-1" "presentation-1" .vetoCategory).ReportsUnset (canalRequest "key-1")
        (canalPresented (some canalSettings))) := by
  have hok : ((PrivacyCommand.presentationControl "veto-1" "presentation-1" .vetoCategory).transact
      (canalRequest "key-1") (canalPresented (some canalSettings))).toOption.any (fun d => !d.writes.isEmpty) = true := by
    decide
  obtain ⟨d, hd, hwrites⟩ := (Option.any_eq_true _ _).mp hok
  cases htransact : (PrivacyCommand.presentationControl "veto-1" "presentation-1" .vetoCategory).transact
      (canalRequest "key-1") (canalPresented (some canalSettings)) with
  | error e =>
    rw [htransact] at hd
    cases hd
  | ok d' =>
    rw [htransact] at hd
    cases hd
    refine ⟨d, rfl, ?_, privacy_transition_iff (indexed_canalPresented _) htransact⟩
    rw [Bool.not_eq_true', List.isEmpty_eq_false_iff] at hwrites
    exact hwrites

/-- **A report in a restored campaign is refused, and redacts the presentation.** -/
theorem report_redacts_unset : ¬ ∀ (r : Request) (s : InspirationStore) (c : PrivacyCommand) (d : InspirationDecision),
    s.Indexed → c.transact r s = .ok d → c.Law r s d := by
  intro hclaim
  have hok : ((PrivacyCommand.presentationControl "veto-1" "presentation-1" .report).transact
      (canalRequest "key-1") (canalPresented none)).toOption.any (fun d => match d.answer with
        | .error _ => !d.writes.isEmpty
        | .ok _ => false) = true := by decide
  obtain ⟨d, hd, hwrites⟩ := (Option.any_eq_true _ _).mp hok
  cases htransact : (PrivacyCommand.presentationControl "veto-1" "presentation-1" .report).transact
      (canalRequest "key-1") (canalPresented none) with
  | error e =>
    rw [htransact] at hd
    cases hd
  | ok d' =>
    rw [htransact] at hd
    cases hd
    have hlaw := hclaim _ _ _ _ (indexed_canalPresented none) htransact
    split at hwrites
    · next e he =>
      rw [(hlaw.refused e he).1] at hwrites
      cases hwrites
    · cases hwrites

end ManchesterArcana.Inspiration
