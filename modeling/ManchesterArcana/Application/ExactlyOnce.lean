import ManchesterArcana.Application.Commit

/-!
# `Application.ExactlyOnce` — an idempotency key commits at most once

The repository is taken as what its transaction promises: a compare-and-set of the session's revision, atomic
with the inserts of the event and of the receipt. Any number of attempts run against it at once, reads may
fail, a transaction may fail without effect or lose its reply, other commands of the campaign may commit, and
the hero document may be written by others.

The invariant of the store is that every encounter receipt stands for one encounter event and holds its
outcome; what an attempt returns is, at every later time, the outcome of the receipt under its key.
-/

namespace ManchesterArcana.Application

open Effect Encounter Repository

variable {H τ δ : Type}

/-! ## The repository -/

/-- The documents of one campaign that the encounter path reads and writes. -/
structure CampaignStore (H τ δ : Type) where
  session : StoredDocument SessionDto
  hero : Option (StoredDocument H)
  events : List StoredEvent
  receipts : List (CommandReceipt τ δ)

namespace CampaignStore

/-- `load_command_receipt` -/
def findReceipt (s : CampaignStore H τ δ) (actorAccountId campaignSessionId idempotencyKey : String) :
    Option (CommandReceipt τ δ) :=
  s.receipts.find? fun r => r.campaignSessionId == campaignSessionId && r.actorAccountId == actorAccountId &&
    r.idempotencyKey == idempotencyKey

/-- No receipt of the campaign has the key yet. -/
def rejectConflictingReceipt [DecidableEq δ] (s : CampaignStore H τ δ) (expected : CommandReceipt τ δ) :
    Except StoreError Unit :=
  match s.receipts.find? fun r => r.campaignSessionId == expected.campaignSessionId &&
    r.idempotencyKey == expected.idempotencyKey with
  | none => .ok ()
  | some existing =>
    if existing.actorAccountId ≠ expected.actorAccountId ∨ existing.commandKind ≠ expected.commandKind ∨
        existing.requestFingerprint ≠ expected.requestFingerprint
    then .error (.idempotencyConflict "campaign" expected.campaignSessionId expected.idempotencyKey)
    else .error (.repository (.alreadyExists "command receipt" expected.auditId))

/-- The compare-and-set of the hero document. -/
def heroSuccessor (heroes : HeroBinding H) (s : CampaignStore H τ δ) :
    Option (H × Nat) → Except StoreError (Option (StoredDocument H))
  | none => .ok s.hero
  | some (candidate, expected) =>
    match s.hero with
    | none => .error (.repository (.notFound "hero character" s.session.id))
    | some stored =>
      if heroes.revision stored.value ≠ expected then
        .error (.repository
          (.revisionConflict "hero character" stored.id expected (heroes.revision stored.value)))
      else .ok (some ⟨stored.id, heroes.revision candidate + 1, candidate⟩)

/-- The transaction of `commit_session_event_internal`. -/
def commitEncounterEvent [DecidableEq δ] (heroes : HeroBinding H) (s : CampaignStore H τ δ)
    (request : EncounterCommit H τ δ) : Except StoreError (CampaignStore H τ δ × CommitOutcome) := do
  rejectIf (request.session.id ≠ s.session.id)
    (.repository (.notFound "campaign session" request.session.id))
  s.rejectConflictingReceipt request.receipt
  rejectIf (s.session.revision ≠ request.expectedRevision)
    (.repository (.revisionConflict "campaign session" s.session.id request.expectedRevision s.session.revision))
  let hero ← s.heroSuccessor heroes request.hero
  return (
    { session := ⟨s.session.id, s.session.revision + 1, request.session⟩
      hero
      events := s.events ++ [⟨request.receipt.auditId, s.session.id, request.event.sequence, request.event⟩]
      receipts := s.receipts ++ [request.receipt] },
    ⟨s.session.revision + 1, request.hero.bind fun _ => hero.map (·.revision)⟩)

end CampaignStore

def isEncounterKind (kind : String) : Bool := kind == encounterCommandKind || kind == npcAdvanceCommandKind

@[simp] theorem isEncounterKind_commandKind (m : EncounterMutation) : isEncounterKind m.commandKind = true := by
  cases m <;> rfl

/-- What the repository and the clock may answer, and what that does to the store. Every call may fail, a
    transaction also after it has taken effect. -/
inductive Serves [DecidableEq δ] (heroes : HeroBinding H) :
    CampaignStore H τ δ → Query H τ δ → Answer H τ δ → CampaignStore H τ δ → Prop where
  | campaign (s : CampaignStore H τ δ) :
      Serves heroes s .loadOrCreateLocalCampaign (.campaign (.ok s.session)) s
  | campaignFailed (s : CampaignStore H τ δ) (e : ApplicationError) :
      Serves heroes s .loadOrCreateLocalCampaign (.campaign (.error e)) s
  | pins (s : CampaignStore H τ δ) (session : StoredDocument SessionDto) (r : Except ApplicationError Unit) :
      Serves heroes s (.requireSealedCampaignPins session) (.pins r) s
  | hero (s : CampaignStore H τ δ) : Serves heroes s .loadLocalAuthoritativeHero (.hero (.ok s.hero)) s
  | heroFailed (s : CampaignStore H τ δ) (e : ApplicationError) :
      Serves heroes s .loadLocalAuthoritativeHero (.hero (.error e)) s
  | receipt (s : CampaignStore H τ δ) (actor campaign key : String) :
      Serves heroes s (.loadCommandReceipt actor campaign key)
        (.receipt (.ok (s.findReceipt actor campaign key))) s
  | receiptFailed (s : CampaignStore H τ δ) (actor campaign key : String) (e : StoreError) :
      Serves heroes s (.loadCommandReceipt actor campaign key) (.receipt (.error e)) s
  | events (s : CampaignStore H τ δ) (actor campaign : String) :
      Serves heroes s (.listSessionEvents actor campaign) (.events (.ok s.events)) s
  | eventsFailed (s : CampaignStore H τ δ) (actor campaign : String) (e : StoreError) :
      Serves heroes s (.listSessionEvents actor campaign) (.events (.error e)) s
  | time (s : CampaignStore H τ δ) (now : Nat) : Serves heroes s .nowUnixMs (.time now) s
  | auditId (s : CampaignStore H τ δ) (id : String) : Serves heroes s .newAuditId (.auditId id) s
  | committed {s s' : CampaignStore H τ δ} {request : EncounterCommit H τ δ} {done : CommitOutcome} :
      s.commitEncounterEvent heroes request = .ok (s', done) →
      Serves heroes s (.commitEncounterEvent request) (.committed (.ok done)) s'
  | replyLost {s s' : CampaignStore H τ δ} {request : EncounterCommit H τ δ} {done : CommitOutcome}
      (e : StoreError) : s.commitEncounterEvent heroes request = .ok (s', done) →
      Serves heroes s (.commitEncounterEvent request) (.committed (.error e)) s'
  | rejected {s : CampaignStore H τ δ} {request : EncounterCommit H τ δ} {e : StoreError} :
      s.commitEncounterEvent heroes request = .error e →
      Serves heroes s (.commitEncounterEvent request) (.committed (.error e)) s
  | commitFailed (s : CampaignStore H τ δ) (request : EncounterCommit H τ δ) (e : StoreError) :
      Serves heroes s (.commitEncounterEvent request) (.committed (.error e)) s

/-- What others do to the campaign meanwhile: commands of other kinds commit, and the hero is written. -/
inductive Drifts [DecidableEq δ] (heroes : HeroBinding H) : CampaignStore H τ δ → CampaignStore H τ δ → Prop where
  | otherCommand {s s' : CampaignStore H τ δ} {request : EncounterCommit H τ δ} {done : CommitOutcome} :
      isEncounterKind request.receipt.commandKind = false →
      s.commitEncounterEvent heroes request = .ok (s', done) → Drifts heroes s s'
  | hero (s : CampaignStore H τ δ) (hero : Option (StoredDocument H)) : Drifts heroes s { s with hero }

def repository [DecidableEq δ] (heroes : HeroBinding H) : Service (CampaignStore H τ δ) (Query H τ δ) (Answer H τ δ) where
  serves := Serves heroes
  drifts := Drifts heroes

/-! ## Commits -/

/-- **`receipt` and `outcome` are those of one commit in `s`**: the event is stored, and the receipt holds its
    outcome. -/
structure Committed (encoding : Encoding τ δ) (s : CampaignStore H τ δ) (receipt : CommandReceipt τ δ)
    (outcome : CommittedEncounterOutcomeDto) : Prop where
  receipt_mem : receipt ∈ s.receipts
  event : ∃ audit ∈ s.events, audit.id = receipt.auditId ∧ audit.turnNumber = outcome.eventSequence ∧
    ∃ command origin, audit.payload.payload = .encounterResolved command outcome origin
  response : receipt.responseJson = encoding.outcomeToString outcome
  revision : outcome.resultCampaignRevision = receipt.resultRevision

/-- A receipt was written for a mutation. -/
structure CommandReceipt.IsOf (receipt : CommandReceipt τ δ) (encoding : Encoding τ δ)
    (mutation : EncounterMutation) : Prop where
  idempotencyKey : receipt.idempotencyKey = mutation.idempotencyKey
  commandKind : receipt.commandKind = mutation.commandKind
  requestFingerprint : receipt.requestFingerprint = mutation.fingerprint encoding
  campaignSessionId : receipt.campaignSessionId = mutation.campaignSessionId
  expectedRevision : receipt.expectedRevision = mutation.expectedCampaignRevision

/-- Two outcomes report the same resolution, rolls and revision. -/
structure SameCommit (a b : CommittedEncounterOutcomeDto) : Prop where
  resolution : a.resolution = b.resolution
  rollRecords : a.rollRecords = b.rollRecords
  resultCampaignRevision : a.resultCampaignRevision = b.resultCampaignRevision
  eventSequence : a.eventSequence = b.eventSequence
  resultHeroRevision : a.resultHeroRevision = b.resultHeroRevision

/-- **What was returned for a mutation is the outcome of the commit under its key.** -/
def Answered (encoding : Encoding τ δ) (mutation : EncounterMutation) (outcome : CommittedEncounterOutcomeDto)
    (s : CampaignStore H τ δ) : Prop :=
  ∃ receipt committed, Committed encoding s receipt committed ∧ receipt.IsOf encoding mutation ∧
    SameCommit outcome committed

/-- The encounter commits of a store, by their receipts. -/
def encounterReceipts (s : CampaignStore H τ δ) : List (CommandReceipt τ δ) :=
  s.receipts.filter fun r => isEncounterKind r.commandKind

/-- **The invariant of the store.** -/
structure StoreValid (encoding : Encoding τ δ) (s : CampaignStore H τ δ) : Prop where
  keys : (s.receipts.map fun r => (r.campaignSessionId, r.idempotencyKey)).Nodup
  scope : ∀ r ∈ encounterReceipts s, r.campaignSessionId = s.session.id
  committed : ∀ r ∈ encounterReceipts s, ∃ outcome, Committed encoding s r outcome
  past : ∀ r ∈ encounterReceipts s, r.expectedRevision < s.session.revision
  revisions : ((encounterReceipts s).map (·.expectedRevision)).Nodup

/-- The campaign only grows. -/
structure Later (s s' : CampaignStore H τ δ) : Prop where
  receipts : s.receipts ⊆ s'.receipts
  events : s.events ⊆ s'.events
  session : s'.session.id = s.session.id

/-- A transaction's request is one for this mutation: its receipt, and an event with the outcome that the
    receipt holds. -/
structure IsRequestFor (encoding : Encoding τ δ) (mutation : EncounterMutation) (s : CampaignStore H τ δ)
    (request : EncounterCommit H τ δ) : Prop where
  receipt : request.receipt.IsOf encoding mutation
  scope : request.receipt.campaignSessionId = s.session.id
  expectedRevision : request.expectedRevision = request.receipt.expectedRevision
  outcome : ∃ command outcome origin, request.event.payload = .encounterResolved command outcome origin ∧
    request.event.sequence = outcome.eventSequence ∧
    request.receipt.responseJson = encoding.outcomeToString outcome ∧
    outcome.resultCampaignRevision = request.receipt.resultRevision

/-- The one question that changes the store. -/
def Query.isCommit : Query H τ δ → Bool
  | .commitEncounterEvent _ => true
  | _ => false

/-- What an attempt may ask: everything, but only its own transaction. -/
def MayAsk (encoding : Encoding τ δ) (mutation : EncounterMutation) (s : CampaignStore H τ δ) :
    Query H τ δ → Prop
  | .commitEncounterEvent request => IsRequestFor encoding mutation s request
  | _ => True

theorem Later.refl (s : CampaignStore H τ δ) : Later s s := ⟨List.Subset.refl _, List.Subset.refl _, rfl⟩

variable {s s' : CampaignStore H τ δ} {encoding : Encoding τ δ} {session : StoredDocument SessionDto}
  {r : CommandReceipt τ δ} {hero : Option (StoredDocument H)} {derived : DerivedMutation}

theorem Later.trans {s'' : CampaignStore H τ δ} (h : Later s s') (h' : Later s' s'') : Later s s'' :=
  ⟨List.Subset.trans h.receipts h'.receipts, List.Subset.trans h.events h'.events,
    h'.session.trans h.session⟩

variable {o outcome : CommittedEncounterOutcomeDto} {now : Nat} {prepared : PreparedMutation H}

theorem Committed.later (h : Committed encoding s r o) (hs : Later s s') :
    Committed encoding s' r o := by
  obtain ⟨audit, ha, hrest⟩ := h.event
  exact { h with receipt_mem := hs.receipts h.receipt_mem, event := ⟨audit, hs.events ha, hrest⟩ }

theorem Answered.later {m : EncounterMutation} (h : Answered encoding m o s)
    (hs : Later s s') : Answered encoding m o s' := by
  obtain ⟨r, c, hc, hr, hsame⟩ := h
  exact ⟨r, c, hc.later hs, hr, hsame⟩

/-- What appends to the store comes later. -/
theorem later_of_append {e : StoredEvent}
    (hr : s'.receipts = s.receipts ++ [r]) (he : s'.events = s.events ++ [e])
    (hid : s'.session.id = s.session.id) : Later s s' := by
  refine ⟨?_, ?_, hid⟩
  · rw [hr]
    exact List.subset_append_left _ _
  · rw [he]
    exact List.subset_append_left _ _

theorem encounterReceipts_append
    (hr : s'.receipts = s.receipts ++ [r]) :
    encounterReceipts s' = encounterReceipts s ++ if isEncounterKind r.commandKind then [r] else [] := by
  unfold encounterReceipts
  rw [hr, List.filter_append]
  cases hk : isEncounterKind r.commandKind <;> simp [hk]

/-! ## What a transaction does -/

section Transaction
variable [DecidableEq δ]

variable {heroes : HeroBinding H} {s s' : CampaignStore H τ δ} {request : EncounterCommit H τ δ}
  {done : CommitOutcome}

/-- **A transaction that goes through** found no receipt under its key and the expected revision, and appended
    one event and one receipt. -/
theorem commitEncounterEvent_eq_ok
    (h : s.commitEncounterEvent heroes request = .ok (s', done)) :
    (∀ r ∈ s.receipts, r.campaignSessionId = request.receipt.campaignSessionId →
      r.idempotencyKey ≠ request.receipt.idempotencyKey) ∧
    s.session.revision = request.expectedRevision ∧
    s'.receipts = s.receipts ++ [request.receipt] ∧
    s'.events = s.events ++
      [⟨request.receipt.auditId, s.session.id, request.event.sequence, request.event⟩] ∧
    s'.session.id = s.session.id ∧ s'.session.revision = s.session.revision + 1 := by
  simp only [CampaignStore.commitEncounterEvent, bind_eq_ok, exists_unit, rejectIf_eq_ok, not_not, pure_eq,
    Except.ok.injEq, Prod.mk.injEq] at h
  obtain ⟨-, hkey, hrev, hero, -, rfl, -⟩ := h
  refine ⟨fun r hr hcampaign hidem => ?_, hrev, rfl, rfl, rfl, rfl⟩
  unfold CampaignStore.rejectConflictingReceipt at hkey
  split at hkey
  · next hnone =>
    have := List.find?_eq_none.mp hnone r hr
    rw [hcampaign, hidem, beq_self_eq_true, beq_self_eq_true] at this
    exact this rfl
  · split at hkey <;> cases hkey

/-- The keys stay apart when a transaction appends to them. -/
theorem keys_of_commit {encoding : Encoding τ δ} (hs : StoreValid encoding s)
    (h : s.commitEncounterEvent heroes request = .ok (s', done)) :
    (s'.receipts.map fun r => (r.campaignSessionId, r.idempotencyKey)).Nodup := by
  obtain ⟨hnew, -, hr, -⟩ := commitEncounterEvent_eq_ok h
  rw [hr, List.map_append, List.map_singleton]
  refine hs.keys.append (List.nodup_singleton _) ?_
  rw [List.disjoint_singleton]
  intro hmem
  obtain ⟨r, hr, heq⟩ := List.mem_map.mp hmem
  have hcampaign : r.campaignSessionId = request.receipt.campaignSessionId := congrArg Prod.fst heq
  exact hnew r hr hcampaign (congrArg Prod.snd heq)

/-- **A mutation's transaction keeps the store valid**: its receipt is the only one under its key, and the
    only one that expected the revision the session had. -/
theorem StoreValid.commit {heroes : HeroBinding H} {encoding : Encoding τ δ} {m : EncounterMutation}
    {s s' : CampaignStore H τ δ} {request : EncounterCommit H τ δ} {done : CommitOutcome}
    (hs : StoreValid encoding s) (hrequest : IsRequestFor encoding m s request)
    (h : s.commitEncounterEvent heroes request = .ok (s', done)) : StoreValid encoding s' := by
  obtain ⟨-, hrev, hr, he, hid, hnext⟩ := commitEncounterEvent_eq_ok h
  have hlater : Later s s' := later_of_append hr he hid
  have hkind : isEncounterKind request.receipt.commandKind = true := by
    rw [hrequest.receipt.commandKind]
    exact isEncounterKind_commandKind m
  have hmem : encounterReceipts s' = encounterReceipts s ++ [request.receipt] := by
    rw [encounterReceipts_append hr, if_pos hkind]
  have hexpected : request.receipt.expectedRevision = s.session.revision :=
    (hrev.trans hrequest.expectedRevision).symm
  refine ⟨keys_of_commit hs h, fun r hr' => ?_, fun r hr' => ?_, fun r hr' => ?_, ?_⟩
  · rw [hmem] at hr'
    rw [hid]
    rcases List.mem_append.mp hr' with hold | hnew
    · exact hs.scope r hold
    · rw [List.mem_singleton.mp hnew]
      exact hrequest.scope
  · rw [hmem] at hr'
    rcases List.mem_append.mp hr' with hold | hnew
    · obtain ⟨o, ho⟩ := hs.committed r hold
      exact ⟨o, ho.later hlater⟩
    · rw [List.mem_singleton.mp hnew]
      obtain ⟨command, outcome, origin, hpayload, hseq, hresponse, hrevision⟩ := hrequest.outcome
      refine ⟨outcome, ?_, ⟨⟨request.receipt.auditId, s.session.id, request.event.sequence, request.event⟩, ?_,
        rfl, hseq, command, origin, hpayload⟩, hresponse, hrevision⟩
      · rw [hr]
        exact List.mem_append_right _ (List.mem_singleton_self _)
      · rw [he]
        exact List.mem_append_right _ (List.mem_singleton_self _)
  · rw [hmem] at hr'
    rw [hnext]
    rcases List.mem_append.mp hr' with hold | hnew
    · exact Nat.lt_succ_of_lt (hs.past r hold)
    · rw [List.mem_singleton.mp hnew, hexpected]
      exact Nat.lt_succ_self _
  · rw [hmem, List.map_append, List.map_singleton, hexpected]
    refine hs.revisions.append (List.nodup_singleton _) ?_
    rw [List.disjoint_singleton]
    intro hold
    -- Every earlier receipt expected a revision that the session has left behind.
    obtain ⟨r, hr', heq⟩ := List.mem_map.mp hold
    have := hs.past r hr'
    omega

/-- Commands of other kinds keep the store valid. -/
theorem StoreValid.otherCommand {encoding : Encoding τ δ} (hs : StoreValid encoding s)
    (hkind : isEncounterKind request.receipt.commandKind = false)
    (h : s.commitEncounterEvent heroes request = .ok (s', done)) : StoreValid encoding s' := by
  obtain ⟨-, -, hr, he, hid, hnext⟩ := commitEncounterEvent_eq_ok h
  have hlater : Later s s' := later_of_append hr he hid
  have hmem : encounterReceipts s' = encounterReceipts s := by
    rw [encounterReceipts_append hr, hkind]
    exact List.append_nil _
  refine ⟨keys_of_commit hs h, fun r hr' => ?_, fun r hr' => ?_, fun r hr' => ?_, ?_⟩
  · rw [hmem] at hr'
    rw [hid]
    exact hs.scope r hr'
  · rw [hmem] at hr'
    obtain ⟨o, ho⟩ := hs.committed r hr'
    exact ⟨o, ho.later hlater⟩
  · rw [hmem] at hr'
    rw [hnext]
    exact Nat.lt_succ_of_lt (hs.past r hr')
  · rw [hmem]
    exact hs.revisions

/-- A step of the store is a transaction of the attempt that asked, or leaves the store as it is. -/
theorem serves_cases {q : Query H τ δ}
    {r : Answer H τ δ} (h : Serves heroes s q r s') :
    s' = s ∨ ∃ request done, q = .commitEncounterEvent request ∧
      s.commitEncounterEvent heroes request = .ok (s', done) := by
  cases h with
  | committed h => exact .inr ⟨_, _, rfl, h⟩
  | replyLost e h => exact .inr ⟨_, _, rfl, h⟩
  | _ => exact .inl rfl

/-- **The contract of the encounter path.** -/
def encounterRely (heroes : HeroBinding H) (encoding : Encoding τ δ) :
    Rely (repository heroes : Service (CampaignStore H τ δ) _ _) (EncounterMutation × String) where
  inv := StoreValid encoding
  later := Later
  may job := MayAsk encoding job.1
  refl := Later.refl
  trans := Later.trans
  serve := by
    intro job s q r s' hs hmay h
    rcases serves_cases h with rfl | ⟨request, done, rfl, hcommit⟩
    · exact ⟨hs, Later.refl _⟩
    · obtain ⟨-, -, hr, he, hid, -⟩ := commitEncounterEvent_eq_ok hcommit
      exact ⟨hs.commit hmay hcommit, later_of_append hr he hid⟩
  drift := by
    intro s s' hs h
    cases h with
    | otherCommand hkind hcommit =>
      obtain ⟨-, -, hr, he, hid, -⟩ := commitEncounterEvent_eq_ok hcommit
      exact ⟨hs.otherCommand hkind hcommit, later_of_append hr he hid⟩
    | hero hero =>
      refine ⟨⟨hs.keys, hs.scope, fun r hr => ?_, hs.past, hs.revisions⟩,
        ⟨List.Subset.refl _, List.Subset.refl _, rfl⟩⟩
      obtain ⟨o, ho⟩ := hs.committed r hr
      exact ⟨o, { ho with }⟩

end Transaction

/-! ## What an attempt computes -/

theorem publicOutcome_same {visible : CommittedEncounterOutcomeDto}
    (h : publicOutcome outcome = .ok visible) : SameCommit visible outcome := by
  simp only [publicOutcome, bind_eq_ok, exists_unit, mapError_eq_ok, pure_eq, Except.ok.injEq] at h
  obtain ⟨actions, -, -, rfl⟩ := h
  exact ⟨rfl, rfl, rfl, rfl, rfl⟩

/-- The revisions of a command that is accepted are those of the session it was read against. -/
theorem validateRevisions_eq_ok {campaign : String} {expected : Nat}
    (h : validateRevisions campaign expected session = .ok ()) :
    campaign = session.id ∧ expected = session.revision := by
  simp only [validateRevisions, seq_eq_ok, rejectIf_eq_ok, not_not] at h
  exact ⟨h.1, h.2.2⟩

theorem deriveCommand_eq_ok {m : EncounterMutation}
    {encounter : EncounterViewDto} {result : CommitEncounterCommand × EncounterCommandOrigin}
    (h : m.deriveCommand session encounter = .ok result) :
    m.campaignSessionId = session.id ∧ m.expectedCampaignRevision = session.revision := by
  cases m with
  | player command =>
    simp only [EncounterMutation.deriveCommand, seq_eq_ok, validateLocalEncounterCommand] at h
    exact validateRevisions_eq_ok h.1.1
  | deterministicNpc command =>
    simp only [EncounterMutation.deriveCommand, seq_eq_ok, validateLocalNpcAdvanceCommand] at h
    exact validateRevisions_eq_ok h.1.1

variable {app : ApplicationService H τ δ} {m : EncounterMutation}

theorem deriveMutation_eq_ok
    {profile : Option EncounterHeroProfile} {events : List StoredEvent}
    (h : deriveMutation app m session hero profile events = .ok derived) :
    m.campaignSessionId = session.id ∧ m.expectedCampaignRevision = session.revision := by
  simp only [deriveMutation, bind_eq_ok] at h
  obtain ⟨_, -, _, -, _, -, ⟨words, seedReference⟩, -, h⟩ := h
  obtain ⟨_, -, _, -, _, -, result, hderive, -⟩ := h
  exact deriveCommand_eq_ok hderive

/-- **What is prepared for the transaction carries its own outcome**, numbered after the session it was read
    against. -/
theorem prepareMutation_eq_ok
    (h : prepareMutation app session hero derived now = .ok prepared) :
    prepared.outcome.resultCampaignRevision = session.revision + 1 ∧
    prepared.event.sequence = prepared.outcome.eventSequence ∧
    prepared.event.payload = .encounterResolved derived.command prepared.outcome derived.origin := by
  simp only [prepareMutation, bind_eq_ok] at h
  obtain ⟨_, -, ⟨resolution, spans⟩, -, records, -, actions, -, h⟩ := h
  cases hero with
  | none =>
    simp only [ok_bind, bind_eq_ok, pure_eq, Except.ok.injEq] at h
    obtain ⟨_, -, _, -, rfl⟩ := h
    exact ⟨rfl, rfl, rfl⟩
  | some stored =>
    simp only [bind_eq_ok, pure_eq, Except.ok.injEq] at h
    obtain ⟨⟨candidate, revision⟩, -, _, -, _, -, rfl⟩ := h
    exact ⟨rfl, rfl, rfl⟩

/-- The transaction that an attempt asks for is one for its mutation. -/
theorem encounterCommit_isRequest {correlationId auditId : String}
    (hsession : session.id = s.session.id)
    (hm : m.campaignSessionId = session.id ∧ m.expectedCampaignRevision = session.revision)
    (h : prepareMutation app session hero derived now = .ok prepared) :
    IsRequestFor app.encoding m s (encounterCommit app m correlationId session hero prepared auditId) := by
  obtain ⟨hrevision, hsequence, hpayload⟩ := prepareMutation_eq_ok h
  refine ⟨⟨rfl, rfl, rfl, hm.1.symm, rfl⟩, hsession, rfl, ?_⟩
  exact ⟨_, prepared.outcome, _, hpayload, hsequence, rfl, hrevision⟩

/-- The receipts of a campaign's encounter are told apart by their keys alone. -/
theorem StoreValid.key_unique (hs : StoreValid encoding s)
    {a b : CommandReceipt τ δ} (ha : a ∈ encounterReceipts s) (hb : b ∈ encounterReceipts s)
    (hkey : a.idempotencyKey = b.idempotencyKey) : a = b := by
  have hscope : a.campaignSessionId = b.campaignSessionId := (hs.scope a ha).trans (hs.scope b hb).symm
  exact List.inj_on_of_nodup_map hs.keys (List.mem_of_mem_filter ha) (List.mem_of_mem_filter hb)
    (Prod.ext hscope hkey)

theorem StoreValid.keys_nodup
    (hs : StoreValid encoding s) : ((encounterReceipts s).map (·.idempotencyKey)).Nodup := by
  have hreceipts : (encounterReceipts s).Nodup := (List.Nodup.of_map _ hs.keys).filter _
  exact List.Nodup.map_on (fun a ha b hb hkey => hs.key_unique ha hb hkey) hreceipts

/-- A receipt under which a mutation was answered is the one under its key. -/
theorem Answered.receipt (hs : StoreValid encoding s) (h : Answered encoding m outcome s) {receipt : CommandReceipt τ δ}
    (hr : receipt ∈ encounterReceipts s) (hkey : m.idempotencyKey = receipt.idempotencyKey) :
    receipt.IsOf encoding m := by
  obtain ⟨found, committed, hcommitted, hfound, -⟩ := h
  have hmem : found ∈ encounterReceipts s := by
    refine List.mem_filter.mpr ⟨hcommitted.receipt_mem, ?_⟩
    rw [hfound.commandKind]
    exact isEncounterKind_commandKind m
  rw [hs.key_unique hr hmem (hkey.symm.trans hfound.idempotencyKey.symm)]
  exact hfound

section Attempt
variable [DecidableEq δ]

variable {outcome : CommittedEncounterOutcomeDto} {session : StoredDocument SessionDto}

/-- **A receipt that answers a mutation holds the outcome of the commit it stands for.** -/
theorem receipt_answered (hjson : app.encoding.RoundTrips) {s : CampaignStore H τ δ}
    (hs : StoreValid app.encoding s) {receipt : CommandReceipt τ δ} (hr : receipt ∈ s.receipts)
    (h : encounterOutcomeFromMutationReceipt app.encoding m (m.fingerprint app.encoding) receipt = .ok outcome) :
    Answered app.encoding m outcome s := by
  simp only [encounterOutcomeFromMutationReceipt, readOutcome, bind_eq_ok, exists_unit, rejectIf_eq_ok,
    not_or, not_not, okOr_eq_ok, pure_eq, Except.ok.injEq] at h
  obtain ⟨hfingerprint, ⟨hkind, hcampaign, hkey, hexpected, -⟩, read, ⟨_, hread, -, rfl⟩, -, hvisible⟩ := h
  have hmem : receipt ∈ encounterReceipts s := by
    refine List.mem_filter.mpr ⟨hr, ?_⟩
    rw [hkind]
    exact isEncounterKind_commandKind m
  obtain ⟨committed, hcommitted⟩ := hs.committed receipt hmem
  rw [hcommitted.response] at hread
  have hsame := publicOutcome_same hvisible
  rw [hjson committed _ hread] at hsame
  exact ⟨receipt, committed, hcommitted, ⟨hkey, hkind, hfingerprint, hcampaign, hexpected⟩, hsame⟩

/-! ## An attempt keeps its contract -/

/-- The contract of an attempt. -/
abbrev Keeps (app : ApplicationService H τ δ) {α : Type} (job : EncounterMutation × String)
    (p : Action H τ δ α) (s : CampaignStore H τ δ) (Q : α → CampaignStore H τ δ → Prop) : Prop :=
  Attends (encounterRely app.heroes app.encoding) job p s Q

variable {correlationId : String} {s : CampaignStore H τ δ} {α : Type}

variable {q : Query H τ δ} {request : EncounterCommit H τ δ} {command : CommitEncounterCommand}
  {origin : EncounterCommandOrigin}

/-- A question other than a transaction: the store is the same before and after. -/
theorem keeps_read {k : Answer H τ δ → Action H τ δ α}
    {Q : α → CampaignStore H τ δ → Prop} (hq : q.isCommit = false)
    (h : ∀ r s', Later s s' → StoreValid app.encoding s' → Serves app.heroes s' q r s' →
      Keeps app (m, correlationId) (k r) s' Q) :
    Keeps app (m, correlationId) (.ask q k) s Q := by
  refine attends_ask fun s' hl hi => ⟨?_, fun r s'' hr _ _ => ?_⟩
  · cases q with
    | commitEncounterEvent request => cases hq
    | _ => trivial
  · rcases serves_cases hr with rfl | ⟨request, -, rfl, -⟩
    · exact h r s'' hl hi hr
    · cases hq

theorem loadOrCreateLocalCampaign_keeps {Q : StoredDocument SessionDto → CampaignStore H τ δ → Prop}
    (h : ∀ session s', Later s s' → StoreValid app.encoding s' → session.id = s'.session.id → Q session s') :
    Keeps app (m, correlationId) Action.loadOrCreateLocalCampaign s Q := by
  refine keeps_read rfl fun r s' hl hi hr => ?_
  cases hr with
  | campaign => exact fun s'' hl' hi' => h _ s'' (hl.trans hl') hi' hl'.session.symm
  | campaignFailed e => trivial

theorem requireSealedCampaignPins_keeps
    {Q : Unit → CampaignStore H τ δ → Prop}
    (h : ∀ s', Later s s' → StoreValid app.encoding s' → Q () s') :
    Keeps app (m, correlationId) (Action.requireSealedCampaignPins session) s Q := by
  refine keeps_read rfl fun r s' hl hi hr => ?_
  cases hr with
  | pins session r => exact attends_lift fun _ _ s'' hl' hi' => h s'' (hl.trans hl') hi'

theorem loadLocalAuthoritativeHero_keeps {Q : Option (StoredDocument H) → CampaignStore H τ δ → Prop}
    (h : ∀ hero s', Later s s' → StoreValid app.encoding s' → Q hero s') :
    Keeps app (m, correlationId) Action.loadLocalAuthoritativeHero s Q := by
  refine keeps_read rfl fun r s' hl hi hr => ?_
  cases hr with
  | hero => exact fun s'' hl' hi' => h _ s'' (hl.trans hl') hi'
  | heroFailed e => trivial

theorem loadCommandReceipt_keeps {Q : Option (CommandReceipt τ δ) → CampaignStore H τ δ → Prop}
    (h : ∀ found s', Later s s' → StoreValid app.encoding s' → (∀ r, found = some r → r ∈ s'.receipts) →
      Q found s') :
    Keeps app (m, correlationId) (Action.loadCommandReceipt m) s Q := by
  refine keeps_read rfl fun r s' hl hi hr => ?_
  cases hr with
  | receipt =>
    refine fun s'' hl' hi' => h _ s'' (hl.trans hl') hi' fun r hr => ?_
    exact hl'.receipts (List.mem_of_find?_eq_some hr)
  | receiptFailed => trivial

theorem listSessionEvents_keeps
    {Q : List StoredEvent → CampaignStore H τ δ → Prop}
    (h : ∀ events s', Later s s' → StoreValid app.encoding s' → Q events s') :
    Keeps app (m, correlationId) (Action.listSessionEvents session) s Q := by
  refine keeps_read rfl fun r s' hl hi hr => ?_
  cases hr with
  | events => exact fun s'' hl' hi' => h _ s'' (hl.trans hl') hi'
  | eventsFailed => trivial

theorem nowUnixMs_keeps {Q : Nat → CampaignStore H τ δ → Prop}
    (h : ∀ now s', Later s s' → StoreValid app.encoding s' → Q now s') :
    Keeps app (m, correlationId) Action.nowUnixMs s Q := by
  refine keeps_read rfl fun r s' hl hi hr => ?_
  cases hr with
  | time now => exact fun s'' hl' hi' => h _ s'' (hl.trans hl') hi'

theorem newAuditId_keeps {Q : String → CampaignStore H τ δ → Prop}
    (h : ∀ id s', Later s s' → StoreValid app.encoding s' → Q id s') :
    Keeps app (m, correlationId) Action.newAuditId s Q := by
  refine keeps_read rfl fun r s' hl hi hr => ?_
  cases hr with
  | auditId id => exact fun s'' hl' hi' => h _ s'' (hl.trans hl') hi'

/-- A transaction that went through has put the mutation's commit into the store. -/
theorem commit_answered {s' : CampaignStore H τ δ} {done : CommitOutcome}
    (hrequest : IsRequestFor app.encoding m s request)
    (hpayload : request.event.payload = .encounterResolved command outcome origin)
    (h : s.commitEncounterEvent app.heroes request = .ok (s', done)) : Answered app.encoding m outcome s' := by
  obtain ⟨-, -, hr, he, -, -⟩ := commitEncounterEvent_eq_ok h
  obtain ⟨command', outcome', origin', hpayload', hseq, hresponse, hrevision⟩ := hrequest.outcome
  rw [hpayload] at hpayload'
  cases hpayload'
  refine ⟨request.receipt, outcome, ⟨?_, ⟨⟨request.receipt.auditId, s.session.id, request.event.sequence,
    request.event⟩, ?_, rfl, hseq, command, origin, hpayload⟩, hresponse, hrevision⟩, hrequest.receipt,
    ⟨rfl, rfl, rfl, rfl, rfl⟩⟩
  · rw [hr]
    exact List.mem_append_right _ (List.mem_singleton_self _)
  · rw [he]
    exact List.mem_append_right _ (List.mem_singleton_self _)

theorem commitEncounterEvent_keeps
    {Q : Except StoreError CommitOutcome → CampaignStore H τ δ → Prop}
    (hrequest : ∀ s', Later s s' → IsRequestFor app.encoding m s' request)
    (hpayload : request.event.payload = .encounterResolved command outcome origin)
    (h : ∀ r s', StoreValid app.encoding s' → (∀ done, r = .ok done → Answered app.encoding m outcome s') →
      Q r s') :
    Keeps app (m, correlationId) (Action.commitEncounterEvent request) s Q := by
  refine attends_ask fun s' hl hi => ⟨hrequest s' hl, fun r s'' hr hi' _ => ?_⟩
  cases hr with
  | committed hcommit =>
    refine fun s₃ hl₃ hi₃ => h _ s₃ hi₃ fun _ _ => ?_
    exact (commit_answered (hrequest s' hl) hpayload hcommit).later hl₃
  | replyLost e _ => exact fun s₃ _ hi₃ => h _ s₃ hi₃ nofun
  | rejected _ => exact fun s₃ _ hi₃ => h _ s₃ hi₃ nofun
  | commitFailed e => exact fun s₃ _ hi₃ => h _ s₃ hi₃ nofun

/-- Answering from a receipt that is in the store. -/
theorem receipt_keeps (hjson : app.encoding.RoundTrips) (hs : StoreValid app.encoding s)
    {receipt : CommandReceipt τ δ} (hr : receipt ∈ s.receipts) :
    Keeps app (m, correlationId)
      (Prog.lift (encounterOutcomeFromMutationReceipt app.encoding m (m.fingerprint app.encoding) receipt)) s
      (Answered app.encoding m) :=
  attends_lift fun _ h _ hl _ => (receipt_answered hjson hs hr h).later hl

/-- **Whatever the transaction answered**, what is returned is the outcome of the commit under the key. -/
theorem concludeCommit_keeps (hjson : app.encoding.RoundTrips) (hs : StoreValid app.encoding s)
    {prepared : PreparedMutation H} {r : Except StoreError CommitOutcome}
    (hr : ∀ done, r = .ok done → Answered app.encoding m prepared.outcome s) :
    Keeps app (m, correlationId) (concludeCommit app m session prepared r) s (Answered app.encoding m) := by
  -- A lost race looks for the receipt of whoever won under the same key.
  have hreplay {k : Option (CommandReceipt τ δ) → Action H τ δ CommittedEncounterOutcomeDto}
      (hnone : ∃ e, k none = .err e) (hsome : ∀ stored, k (some stored) =
        Prog.lift (encounterOutcomeFromMutationReceipt app.encoding m (m.fingerprint app.encoding) stored)) :
      Keeps app (m, correlationId) (Action.loadCommandReceipt m >>= k) s (Answered app.encoding m) := by
    refine attends_bind hs (loadCommandReceipt_keeps fun found s' _ hi hfound => ?_)
    cases found with
    | none =>
      obtain ⟨e, he⟩ := hnone
      rw [he]
      trivial
    | some stored =>
      rw [hsome]
      exact receipt_keeps hjson hi (hfound stored rfl)
  cases r with
  | ok committed =>
    simp only [concludeCommit]
    split
    · exact (attends_ok.mpr fun s' hl _ => (hr committed rfl).later hl :
        Keeps app (m, correlationId) (.ok prepared.outcome) s (Answered app.encoding m))
    · trivial
  | error e =>
    cases e with
    | idempotencyConflict scopeKind scopeId key => trivial
    | repository e =>
      cases e with
      | revisionConflict entity id expected actual => exact hreplay ⟨_, rfl⟩ fun _ => rfl
      | alreadyExists entity id =>
        simp only [concludeCommit]
        split
        · exact hreplay ⟨_, rfl⟩ fun _ => rfl
        · trivial
      | _ => trivial

/-- **An attempt keeps its contract**: it only asks for a transaction of its own mutation, and what it returns
    is the outcome of the one commit under its key. -/
theorem commitEncounterMutation_keeps (hjson : app.encoding.RoundTrips) (hs : StoreValid app.encoding s) :
    Keeps app (m, correlationId) (commitEncounterMutation app m correlationId) s (Answered app.encoding m) := by
  unfold commitEncounterMutation
  refine attends_reject_bind fun _ => attends_reject_bind fun _ => attends_lift_bind fun _ _ => ?_
  refine attends_bind hs (loadOrCreateLocalCampaign_keeps fun session s₁ _ h₁ hsession => ?_)
  refine attends_bind h₁ (requireSealedCampaignPins_keeps fun s₂ hl₂ h₂ => ?_)
  refine attends_bind h₂ (loadLocalAuthoritativeHero_keeps fun hero s₃ hl₃ h₃ => ?_)
  refine attends_lift_bind fun profile _ => ?_
  refine attends_bind h₃ (loadCommandReceipt_keeps fun found s₄ hl₄ h₄ hfound => ?_)
  cases found with
  | some receipt => exact receipt_keeps hjson h₄ (hfound receipt rfl)
  | none =>
    show Keeps app (m, correlationId) (commitFresh app m correlationId session hero profile) s₄ _
    unfold commitFresh
    refine attends_bind h₄ (listSessionEvents_keeps fun events s₅ hl₅ h₅ => ?_)
    refine attends_lift_bind fun derived hderived => ?_
    refine attends_bind h₅ (nowUnixMs_keeps fun now s₆ hl₆ h₆ => ?_)
    refine attends_lift_bind fun prepared hprepared => ?_
    refine attends_bind h₆ (newAuditId_keeps fun auditId s₇ hl₇ h₇ => ?_)
    -- The campaign document is still the one that was read, whatever its revision is by now.
    have hid : s₇.session.id = session.id := by
      rw [hl₇.session, hl₆.session, hl₅.session, hl₄.session, hl₃.session, hl₂.session, hsession]
    obtain ⟨-, -, hpayload⟩ := prepareMutation_eq_ok hprepared
    refine attends_bind h₇ (commitEncounterEvent_keeps (fun s₈ hl₈ => ?_) hpayload fun r s₈ h₈ hr => ?_)
    · exact encounterCommit_isRequest (hid.symm.trans hl₈.session.symm) (deriveMutation_eq_ok hderived)
        hprepared
    · exact concludeCommit_keeps hjson h₈ hr

/-! ## Any number of attempts at once -/

/-- The program that an attempt runs: one mutation, under a correlation id. -/
def attempt (app : ApplicationService H τ δ) (job : EncounterMutation × String) :
    Action H τ δ CommittedEncounterOutcomeDto :=
  commitEncounterMutation app job.1 job.2

/-- The campaign, and every attempt that was made at it. -/
abbrev EncounterPool (H τ δ : Type) : Type :=
  Pool (CampaignStore H τ δ) (EncounterMutation × String) (Query H τ δ) (Answer H τ δ) ApplicationError
    CommittedEncounterOutcomeDto

/-- One step of the campaign: an attempt arrives, a question of one is answered, or others write. -/
abbrev EncounterStep (app : ApplicationService H τ δ) :
    EncounterPool H τ δ → Move (EncounterMutation × String) (Query H τ δ) (Answer H τ δ) →
      EncounterPool H τ δ → Prop :=
  Pool.Step (repository app.heroes) (attempt app)

/-- Every attempt within its contract, on a valid store. -/
abbrev Orderly (app : ApplicationService H τ δ) (w : EncounterPool H τ δ) : Prop :=
  Pool.Attended (encounterRely app.heroes app.encoding)
    (fun job outcome s => Answered app.encoding job.1 outcome s) w

theorem orderly_fresh {s : CampaignStore H τ δ} (hs : s.receipts = []) : Orderly app ⟨s, []⟩ := by
  have hnone : encounterReceipts s = [] := by
    unfold encounterReceipts
    rw [hs, List.filter_nil]
  refine ⟨⟨?_, ?_, ?_, ?_, ?_⟩, nofun⟩
  · rw [hs]
    exact List.nodup_nil
  all_goals
    rw [hnone]
    simp

variable {w w' : EncounterPool H τ δ}

theorem orderly_of_run (hjson : app.encoding.RoundTrips)
    {moves : List (Move (EncounterMutation × String) (Query H τ δ) (Answer H τ δ))}
    (hrun : Run (EncounterStep app) w moves w') (h : Orderly app w) : Orderly app w' :=
  Pool.attended (fun _ _ hs => commitEncounterMutation_keeps hjson hs) hrun h

/-- **Only an attempt's own commit changes the store**: its receipt is there from then on. -/
theorem step_changes {job : EncounterMutation × String}
    {r : Answer H τ δ} (h : Orderly app w) (hstep : EncounterStep app w (.serve job q r) w') :
    w'.store = w.store ∨ ∃ receipt ∈ encounterReceipts w'.store, receipt.IsOf app.encoding job.1 ∧
      w'.store.receipts = w.store.receipts ++ [receipt] := by
  obtain ⟨hmay, hserves⟩ := h.may hstep
  rcases serves_cases hserves with hsame | ⟨request, done, rfl, hcommit⟩
  · exact .inl hsame
  · have hrequest : IsRequestFor app.encoding job.1 w.store request := hmay
    obtain ⟨-, -, hr, -⟩ := commitEncounterEvent_eq_ok hcommit
    refine .inr ⟨request.receipt, List.mem_filter.mpr ⟨?_, ?_⟩, hrequest.receipt, hr⟩
    · rw [hr]
      exact List.mem_append_right _ (List.mem_singleton_self _)
    · rw [hrequest.receipt.commandKind]
      exact isEncounterKind_commandKind job.1

end Attempt

/-- A campaign of the plain service, before its first event. -/
def plainCampaign : CampaignStore Empty CommittedEncounterOutcomeDto (List UInt8) where
  session := ⟨localCampaignSessionId, 1, {
    schemaVersion := sessionSchemaVersion, id := localCampaignSessionId, ruleset := encounterRulesetId
    title := "The Runes Beneath the Viaduct", status := .active, characterIds := [localCharacterId]
    createdAtUnixMs := 0, updatedAtUnixMs := 0, lastEventSequence := 0 }⟩
  hero := none
  events := []
  receipts := []

/-- The request to begin the encounter. -/
def beginEncounter : EncounterMutation :=
  .player ⟨encounterCommitSchemaVersion, localCampaignSessionId, 1,
    newEncounterCommand 1 "begin" .startEncounter⟩

/-- An attempt begins by asking for the campaign. -/
theorem beginEncounter_asks : ∃ next,
    attempt plainService (beginEncounter, "request:1") = .ask .loadOrCreateLocalCampaign next := by
  have hlocal : ¬ plainService.localMode = false := by decide
  have hid : ¬ isValidOpaqueId "request:1" = false := by decide
  have hvalid : beginEncounter.validate = .ok () := by decide
  unfold attempt commitEncounterMutation
  rw [Prog.reject_bind_of_not hlocal, Prog.reject_bind_of_not hid, Prog.lift_bind_of_ok hvalid]
  exact ⟨_, rfl⟩

end ManchesterArcana.Application
