import ManchesterArcana.Generation.Budget
import ManchesterArcana.Generation.Concurrency

/-!
# `Generation.Enqueue` — a key is enqueued once

What a repeated request is answered with is read off the job, its reservations and its receipt, and the three are kept
for different times: a receipt for good, a job until it is cleaned up, a reservation until the database removes it.

`enqueue_again_iff` says exactly when the answer is the right one: the budget of a stored job must not have been removed
from under it, and a request that differs after the job is gone must differ in its fingerprint.
-/

namespace ManchesterArcana.Generation

open Effect Store
open List (mem_append mem_map mem_singleton)

/-! ## What a request is -/

/-- The metadata of a request besides its budget. Its id and its correlation are the server's own. -/
structure NewGenerationJob.SameJob (a b : NewGenerationJob) : Prop where
  campaignSessionId : a.campaignSessionId = b.campaignSessionId
  originTurnId : a.originTurnId = b.originTurnId
  originCampaignRevision : a.originCampaignRevision = b.originCampaignRevision
  purpose : a.purpose = b.purpose
  idempotencyKey : a.idempotencyKey = b.idempotencyKey
  inputDigest : a.inputDigest = b.inputDigest
  promptDigest : a.promptDigest = b.promptDigest
  policyDigest : a.policyDigest = b.policyDigest
  configDigest : a.configDigest = b.configDigest
  maxAttempts : a.maxAttempts = b.maxAttempts
  successRetention : a.successRetention = b.successRetention

/-- Two budgets are the same; the fingerprint stands for the limits. -/
structure NewGenerationGovernanceReceipt.Same (a b : NewGenerationGovernanceReceipt) : Prop where
  turnScopeKey : a.turnScopeKey = b.turnScopeKey
  requestFingerprint : a.requestFingerprint = b.requestFingerprint
  policyFingerprint : a.policyFingerprint = b.policyFingerprint
  configFingerprint : a.configFingerprint = b.configFingerprint
  governanceFingerprint : a.governanceFingerprint = b.governanceFingerprint
  addition : a.addition = b.addition

/-- Both requests have a budget, and it is the same one, or neither has. -/
def NewGenerationJob.SameBudget (a b : NewGenerationJob) : Prop :=
  match a.governance, b.governance with
  | some g, some g' => g.Same g'
  | none, none => True
  | _, _ => False

/-- **The same metadata.** -/
def NewGenerationJob.SameMetadata (a b : NewGenerationJob) : Prop :=
  a.SameJob b ∧ a.SameBudget b

/-- The same campaign, purpose and key. -/
def NewGenerationJob.SameKey (a b : NewGenerationJob) : Prop :=
  a.campaignSessionId = b.campaignSessionId ∧ a.purpose = b.purpose ∧ a.idempotencyKey = b.idempotencyKey

def GenerationBudgetReservationDocument.isOf (d : GenerationBudgetReservationDocument) (requested : NewGenerationJob) :
    Bool :=
  d.campaignId = requested.campaignSessionId ∧ d.purpose = requested.purpose ∧
    d.idempotencyKey = requested.idempotencyKey

/-! ## Histories -/

inductive RetentionEvent where
  | queue (event : QueueEvent)
  | removeJob (id : String) (now : DateTime)
  | removeReservation (id : String) (now : DateTime)

/-- Besides the steps of the queue, jobs that have ended and reservations are removed once their time is over. -/
def QueueState.Retention (digests : Digests) (q : QueueState) (event : RetentionEvent) (q' : QueueState) : Prop :=
  match event with
  | .queue event => q.Step digests event q'
  | .removeJob id now => q.clock ≤ now ∧
      (∃ job ∈ q.store.jobs, job.id = id ∧ job.state.terminal = true ∧ ∃ purgeAt ∈ job.purgeAt, purgeAt ≤ now) ∧
      q' = ⟨now, { q.store with jobs := q.store.jobs.filter (·.id ≠ id) }⟩
  | .removeReservation id now => q.clock ≤ now ∧
      (∃ d ∈ q.store.reservations, d.id = id ∧ d.purgeAt ≤ now) ∧
      q' = ⟨now, { q.store with reservations := q.store.reservations.filter (·.id ≠ id) }⟩

/-! ## What is kept of an admission -/

/-- The job is that of the request. -/
structure GenerationJobDocument.StandsFor (job : GenerationJobDocument) (requested : NewGenerationJob) : Prop where
  id : job.id = requested.id
  campaignId : job.campaignId = requested.campaignSessionId
  originEventId : job.originEventId = requested.originTurnId
  originCampaignRevision : job.originCampaignRevision = requested.originCampaignRevision
  purpose : job.purpose = requested.purpose
  idempotencyKey : job.idempotencyKey = requested.idempotencyKey
  inputDigest : job.inputDigest = requested.inputDigest
  promptDigest : job.promptDigest = requested.promptDigest
  policyDigest : job.policyDigest = requested.policyDigest
  configDigest : job.configDigest = requested.configDigest
  maxAttempts : job.maxAttempts = requested.maxAttempts
  successRetention : job.successRetention = requested.successRetention

/-- The reservation is one of the budget of the request. -/
structure GenerationBudgetReservationDocument.StandsFor (d : GenerationBudgetReservationDocument)
    (requested : NewGenerationJob) (g : NewGenerationGovernanceReceipt) : Prop where
  id : d.id = "budget-reservation:" ++ requested.id ++ ":" ++ d.dimension.asStr
  jobId : d.jobId = requested.id
  campaignId : d.campaignId = requested.campaignSessionId
  purpose : d.purpose = requested.purpose
  idempotencyKey : d.idempotencyKey = requested.idempotencyKey
  turnScopeKey : d.turnScopeKey = g.turnScopeKey
  dimension : d.dimension ∈ budgetDimensions
  requestFingerprint : d.requestFingerprint = g.requestFingerprint
  policyFingerprint : d.policyFingerprint = g.policyFingerprint
  configFingerprint : d.configFingerprint = g.configFingerprint
  governanceFingerprint : d.governanceFingerprint = g.governanceFingerprint
  reservedValue : d.reservedValue = g.addition.value d.dimension

/-- The books of a queue: every job and every reservation has its receipt. -/
structure GenerationStore.IsBooked (s : GenerationStore) : Prop where
  sound : s.IsSound
  unique : (s.reservations.map (·.id)).Nodup
  jobs : ∀ job ∈ s.jobs, ∃ r ∈ s.receipts, r.purpose = job.purpose ∧ r.scopeId = job.campaignId ∧
    r.idempotencyKey = job.idempotencyKey
  reservations : ∀ d ∈ s.reservations, ∃ r ∈ s.receipts, r.purpose = d.purpose ∧ r.scopeId = d.campaignId ∧
    r.idempotencyKey = d.idempotencyKey

/-- **What is kept of an admitted request**: what is left of its documents, and its receipt. -/
structure GenerationStore.Remembers (s : GenerationStore) (digests : Digests) (first : NewGenerationJob) : Prop where
  booked : s.IsBooked
  jobs : ∀ job ∈ s.jobs, job.isOf first = true → job.StandsFor first
  reservations : ∀ d ∈ s.reservations, d.isOf first = true → ∃ g, first.governance = some g ∧ d.StandsFor first g
  receipt : ∃ r ∈ s.receipts, r.isOf first = true
  receipts : ∀ r ∈ s.receipts, r.isOf first = true → r.requestFingerprint = digests.enqueue first.fields

section Keeping

variable {now : DateTime} {digests : Digests} {s t : GenerationStore} {op : Operation} {first requested : NewGenerationJob}
  {job job' : GenerationJobDocument} {jobs : List GenerationJobDocument}

/-- A change keeps the metadata of a job. -/
theorem JobChange.standsFor (h : JobChange now digests s op job job') (hid : job'.id = job.id)
    (hfirst : job.StandsFor first) : job'.StandsFor first := by
  cases h with
  | terminalized => exact { hfirst with }
  | leased => exact { hfirst with }
  | extended => exact { hfirst with }
  | cancelled => exact { hfirst with }
  | completed lease e attempt =>
    unfold GenerationJobDocument.complete
    dsimp only
    split
    · split <;> exact { hfirst with }
    · split <;> exact { hfirst with }

theorem JobChange.idempotencyKey (h : JobChange now digests s op job job') : job'.idempotencyKey = job.idempotencyKey := by
  cases h with
  | terminalized => rfl
  | leased => rfl
  | extended => rfl
  | cancelled => rfl
  | completed lease e attempt =>
    unfold GenerationJobDocument.complete
    dsimp only
    split
    · split <;> rfl
    · split <;> rfl

theorem JobChange.isOf (h : JobChange now digests s op job job') : job'.isOf first = job.isOf first := by
  obtain ⟨hcampaign, hpurpose, -⟩ := h.same
  unfold GenerationJobDocument.isOf
  rw [hcampaign, hpurpose, h.idempotencyKey]

variable {d d' : GenerationBudgetReservationDocument}

theorem Charges.isOf (h : Charges d d') : d'.isOf first = d.isOf first := by
  unfold GenerationBudgetReservationDocument.isOf
  rw [h.campaignId, h.purpose, h.idempotencyKey]

theorem Charges.standsFor {g : NewGenerationGovernanceReceipt}
    (h : Charges d d') (hd : d.StandsFor first g) : d'.StandsFor first g where
  id := by
    rw [h.id, h.dimension]
    exact hd.id
  jobId := h.jobId.trans hd.jobId
  campaignId := h.campaignId.trans hd.campaignId
  purpose := h.purpose.trans hd.purpose
  idempotencyKey := h.idempotencyKey.trans hd.idempotencyKey
  turnScopeKey := h.turnScopeKey.trans hd.turnScopeKey
  dimension := by
    rw [h.dimension]
    exact hd.dimension
  requestFingerprint := h.requestFingerprint.trans hd.requestFingerprint
  policyFingerprint := h.policyFingerprint.trans hd.policyFingerprint
  configFingerprint := h.configFingerprint.trans hd.configFingerprint
  governanceFingerprint := h.governanceFingerprint.trans hd.governanceFingerprint
  reservedValue := by
    rw [h.reservedValue, h.dimension]
    exact hd.reservedValue

/-! ## Calls keep the books -/

/-- What every document of a store has, the documents of a changed store have. -/
theorem GenerationStore.IsChargedTo.forall {P : GenerationBudgetReservationDocument → Prop} (h : s.IsChargedTo t)
    (hP : ∀ d d', Charges d d' → P d → P d') (hs : ∀ d ∈ s.reservations, P d) : ∀ d ∈ t.reservations, P d := by
  obtain ⟨f, ht, hf⟩ := h
  rw [ht]
  intro d hd
  obtain ⟨x, hx, rfl⟩ := mem_map.mp hd
  exact hP x _ (hf x hx) (hs x hx)

theorem JobsAfter.forall {P : GenerationJobDocument → Prop} (h : JobsAfter now digests s op jobs)
    (hop : ∀ requested, op ≠ .enqueue requested)
    (hP : ∀ job job', job'.id = job.id → JobChange now digests s op job job' → P job → P job')
    (hs : ∀ job ∈ s.jobs, P job) : ∀ job ∈ jobs, P job := by
  cases h with
  | same => exact hs
  | added job hnew hfresh henqueue =>
    obtain ⟨requested, henqueue⟩ := henqueue
    exact absurd henqueue (hop requested)
  | changed job job' hmem hid hchange =>
    intro x hx
    rcases mem_updateById.mp hx with ⟨-, -, -, rfl⟩ | ⟨hx, -⟩
    · exact hP job _ hid hchange (hs job hmem)
    · exact hs x hx

/-- A call that is no enqueueing keeps the books, and what is remembered of a request. -/
theorem IsBooked.call (hs : s.IsBooked) (hop : ∀ requested, op ≠ .enqueue requested) :
    (op.run now digests s).2.IsBooked := by
  have hjobs := op.run_jobs now digests s
  have hbooks := @Operation.run_books now digests s op hs.unique hop
  refine ⟨⟨hjobs.unique hs.sound, hjobs.sound hs.sound⟩, hbooks.reservations.unique hs.unique, ?_, ?_⟩
  · rw [hbooks.receipts]
    refine hjobs.forall hop (fun job job' _ hchange hjob => ?_) hs.jobs
    obtain ⟨hcampaign, hpurpose, -⟩ := hchange.same
    rw [hcampaign, hpurpose, hchange.idempotencyKey]
    exact hjob
  · rw [hbooks.receipts]
    refine hbooks.reservations.forall (fun d d' hcharges hd => ?_) hs.reservations
    rw [hcharges.purpose, hcharges.campaignId, hcharges.idempotencyKey]
    exact hd

theorem Remembers.call (hs : s.Remembers digests first) (hop : ∀ requested, op ≠ .enqueue requested) :
    (op.run now digests s).2.Remembers digests first := by
  have hjobs := op.run_jobs now digests s
  have hbooks := @Operation.run_books now digests s op hs.booked.unique hop
  refine ⟨IsBooked.call hs.booked hop, ?_, ?_, ?_, ?_⟩
  · refine hjobs.forall hop (fun job job' hid hchange hjob hof => ?_) hs.jobs
    rw [hchange.isOf] at hof
    exact hchange.standsFor hid (hjob hof)
  · refine hbooks.reservations.forall (fun d d' hcharges hd hof => ?_) hs.reservations
    rw [hcharges.isOf] at hof
    obtain ⟨g, hg, hstands⟩ := hd hof
    exact ⟨g, hg, hcharges.standsFor hstands⟩
  · rw [hbooks.receipts]
    exact hs.receipt
  · rw [hbooks.receipts]
    exact hs.receipts

/-- An admission keeps the books. -/
theorem Admission.isBooked (h : Admission now digests requested s t) (hs : s.IsBooked) (ht : t.IsSound) : t.IsBooked := by
  have hmono : ∀ {purpose campaignId key}, (∃ r ∈ s.receipts, r.purpose = purpose ∧ r.scopeId = campaignId ∧
      r.idempotencyKey = key) → ∃ r ∈ t.receipts, r.purpose = purpose ∧ r.scopeId = campaignId ∧
      r.idempotencyKey = key := by
    rintro purpose campaignId key ⟨r, hr, hkey⟩
    exact ⟨r, h.receipts ▸ List.mem_append_left _ hr, hkey⟩
  have hnew : ∃ r ∈ t.receipts, r.purpose = requested.purpose ∧ r.scopeId = requested.campaignSessionId ∧
      r.idempotencyKey = requested.idempotencyKey :=
    ⟨_, h.receipts ▸ List.mem_append_right _ (List.mem_singleton_self _), rfl, rfl, rfl⟩
  refine ⟨ht, h.unique hs.unique, ?_, ?_⟩
  · rw [h.jobs]
    intro job hjob
    rcases mem_append.mp hjob with hjob | hjob
    · exact hmono (hs.jobs job hjob)
    · rw [mem_singleton.mp hjob]
      exact hnew
  · rw [h.reservations]
    intro d hd
    rcases mem_append.mp hd with hd | hd
    · exact hmono (hs.reservations d hd)
    · unfold NewGenerationJob.reservations at hd
      split at hd
      · obtain ⟨dimension, -, rfl⟩ := mem_map.mp hd
        exact hnew
      · cases hd

/-- **An admission is remembered.** -/
theorem Admission.remembers (h : Admission now digests first s t) (hs : s.IsBooked) (ht : t.IsSound) :
    t.Remembers digests first := by
  refine ⟨h.isBooked hs ht, ?_, ?_, ?_, ?_⟩
  · rw [h.jobs]
    intro job hjob hof
    rcases mem_append.mp hjob with hjob | hjob
    · rw [h.noJob job hjob] at hof
      cases hof
    · rw [mem_singleton.mp hjob]
      exact ⟨rfl, rfl, rfl, rfl, rfl, rfl, rfl, rfl, rfl, rfl, rfl, rfl⟩
  · rw [h.reservations]
    intro d hd hof
    rcases mem_append.mp hd with hd | hd
    · obtain ⟨r, hr, hpurpose, hcampaign, hkey⟩ := hs.reservations d hd
      have hnot := h.noReceipt r hr
      rw [GenerationBudgetReservationDocument.isOf, decide_eq_true_eq] at hof
      rw [EnqueueReceiptDocument.isOf, decide_eq_false_iff_not] at hnot
      exact absurd ⟨hpurpose.trans hof.2.1, hcampaign.trans hof.1, hkey.trans hof.2.2⟩ hnot
    · unfold NewGenerationJob.reservations at hd
      split at hd
      · next g hg =>
        obtain ⟨dimension, hdimension, rfl⟩ := mem_map.mp hd
        exact ⟨g, hg, rfl, rfl, rfl, rfl, rfl, rfl, hdimension, rfl, rfl, rfl, rfl, rfl⟩
      · cases hd
  · refine ⟨_, h.receipts ▸ List.mem_append_right _ (List.mem_singleton_self _), ?_⟩
    exact decide_eq_true ⟨rfl, rfl, rfl⟩
  · rw [h.receipts]
    intro r hr hof
    rcases mem_append.mp hr with hr | hr
    · rw [h.noReceipt r hr] at hof
      cases hof
    · rw [mem_singleton.mp hr]
      rfl

/-- What is remembered of a request stays, when another one is admitted. -/
theorem Remembers.admission (hs : s.Remembers digests first) (h : Admission now digests requested s t) (ht : t.IsSound) :
    t.Remembers digests first := by
  -- the other request has another key, for which there is no receipt
  have hother : ¬ first.SameKey requested := by
    rintro ⟨hcampaign, hpurpose, hkey⟩
    obtain ⟨r, hr, hof⟩ := hs.receipt
    have hnot := h.noReceipt r hr
    rw [EnqueueReceiptDocument.isOf, decide_eq_true_eq] at hof
    rw [EnqueueReceiptDocument.isOf, decide_eq_false_iff_not] at hnot
    exact hnot ⟨hof.1.trans hpurpose, hof.2.1.trans hcampaign, hof.2.2.trans hkey⟩
  refine ⟨h.isBooked hs.booked ht, ?_, ?_, ?_, ?_⟩
  · rw [h.jobs]
    intro job hjob hof
    rcases mem_append.mp hjob with hjob | hjob
    · exact hs.jobs job hjob hof
    · rw [mem_singleton.mp hjob, GenerationJobDocument.isOf, decide_eq_true_eq] at hof
      exact absurd ⟨hof.1.symm, hof.2.1.symm, hof.2.2.symm⟩ hother
  · rw [h.reservations]
    intro d hd hof
    rcases mem_append.mp hd with hd | hd
    · exact hs.reservations d hd hof
    · unfold NewGenerationJob.reservations at hd
      split at hd
      · obtain ⟨dimension, -, rfl⟩ := mem_map.mp hd
        rw [GenerationBudgetReservationDocument.isOf, decide_eq_true_eq] at hof
        exact absurd ⟨hof.1.symm, hof.2.1.symm, hof.2.2.symm⟩ hother
      · cases hd
  · obtain ⟨r, hr, hof⟩ := hs.receipt
    exact ⟨r, h.receipts ▸ List.mem_append_left _ hr, hof⟩
  · rw [h.receipts]
    intro r hr hof
    rcases mem_append.mp hr with hr | hr
    · exact hs.receipts r hr hof
    · rw [mem_singleton.mp hr, EnqueueReceiptDocument.isOf, decide_eq_true_eq] at hof
      exact absurd ⟨hof.2.1.symm, hof.1.symm, hof.2.2.symm⟩ hother

end Keeping

/-! ## Histories keep the books -/

section Histories

variable {digests : Digests} {q q' : QueueState} {event : RetentionEvent} {s t : GenerationStore} {first : NewGenerationJob}

/-- Documents may be removed, and jobs may wait for another artifact. -/
structure Shrinks (s t : GenerationStore) : Prop where
  sound : s.IsSound → t.IsSound
  jobs : ∀ job' ∈ t.jobs, ∃ job ∈ s.jobs, ∃ artifact, job' = { job with pendingArtifactId := artifact }
  unique : (s.reservations.map (·.id)).Nodup → (t.reservations.map (·.id)).Nodup
  reservations : ∀ d ∈ t.reservations, d ∈ s.reservations
  receipts : t.receipts = s.receipts

theorem Shrinks.isBooked (h : Shrinks s t) (hs : s.IsBooked) : t.IsBooked where
  sound := h.sound hs.sound
  unique := h.unique hs.unique
  jobs job' hjob' := by
    obtain ⟨job, hjob, artifact, rfl⟩ := h.jobs job' hjob'
    rw [h.receipts]
    exact hs.jobs job hjob
  reservations d hd := by
    rw [h.receipts]
    exact hs.reservations d (h.reservations d hd)

theorem Shrinks.remembers (h : Shrinks s t) (hs : s.Remembers digests first) : t.Remembers digests first where
  booked := h.isBooked hs.booked
  jobs job' hjob' hof := by
    obtain ⟨job, hjob, artifact, rfl⟩ := h.jobs job' hjob'
    exact { hs.jobs job hjob hof with }
  reservations d hd := hs.reservations d (h.reservations d hd)
  receipt := h.receipts ▸ hs.receipt
  receipts := h.receipts ▸ hs.receipts

/-- **A step of a history** is a call that is no enqueueing, an enqueueing, or a removal. -/
theorem QueueState.Retention.cases (h : q.Retention digests event q') :
    (∃ (op : Operation) (now : DateTime), (∀ requested, op ≠ .enqueue requested) ∧ q'.store = (op.run now digests q.store).2) ∨
      (∃ now requested, Admission now digests requested q.store q'.store ∧
        (q.store.IsSound → q'.store.IsSound)) ∨ Shrinks q.store q'.store := by
  have hsame : ∀ t : GenerationStore, t.jobs = q.store.jobs → t.HasBooksOf q.store → Shrinks q.store t := by
    intro t hjobs hbooks
    refine ⟨fun hs => ⟨hjobs ▸ hs.unique, hjobs ▸ hs.sound⟩, fun job hjob => ?_, fun hs => ?_, fun d hd => ?_, hbooks.2⟩
    · exact ⟨job, hjobs ▸ hjob, job.pendingArtifactId, rfl⟩
    · rw [hbooks.1]
      exact hs
    · rw [hbooks.1] at hd
      exact hd
  cases event with
  | queue event =>
    cases event with
    | elsewhere =>
      obtain ⟨-, helsewhere⟩ := h
      refine .inr (.inr ⟨Elsewhere.isSound helsewhere, ?_, ?_, ?_, helsewhere.2.1⟩)
      · obtain ⟨-, -, slot, hjobs⟩ := helsewhere
        rw [hjobs]
        intro job' hjob'
        obtain ⟨job, hjob, rfl⟩ := mem_map.mp hjob'
        exact ⟨job, hjob, slot job, rfl⟩
      · rw [helsewhere.1]
        exact id
      · rw [helsewhere.1]
        exact fun d hd => hd
    | call op now =>
      obtain ⟨-, rfl⟩ := h
      have hsound : q.store.IsSound → (op.run now digests q.store).2.IsSound := by
        intro hs
        have hjobs := op.run_jobs now digests q.store
        exact ⟨hjobs.unique hs, hjobs.sound hs⟩
      by_cases hop : ∃ requested, op = .enqueue requested
      · obtain ⟨requested, rfl⟩ := hop
        have hcases := enqueueGenerationJob_cases now digests requested q.store
        change q.store.IsSound → (enqueueGenerationJob now digests requested q.store).2.IsSound at hsound
        show _ ∨ (∃ now' requested', Admission now' digests requested' q.store
          (enqueueGenerationJob now digests requested q.store).2 ∧ (q.store.IsSound →
          (enqueueGenerationJob now digests requested q.store).2.IsSound)) ∨ Shrinks q.store
          (enqueueGenerationJob now digests requested q.store).2
        generalize enqueueGenerationJob now digests requested q.store = r at hcases hsound ⊢
        cases hcases with
        | admitted t hadmission => exact .inr (.inl ⟨now, requested, hadmission, hsound⟩)
        | refused a t hanswer hjobs hbooks => exact .inr (.inr (hsame t hjobs hbooks))
      · exact .inl ⟨op, now, fun requested heq => hop ⟨requested, heq⟩, rfl⟩
  | removeJob id now =>
    obtain ⟨-, -, rfl⟩ := h
    refine .inr (.inr ⟨fun hs => ⟨?_, ?_⟩, fun job hjob => ?_, fun hs => hs, fun d hd => hd, rfl⟩)
    · exact hs.unique.sublist (List.filter_sublist.map _)
    · exact fun job hjob => hs.sound job (List.mem_of_mem_filter hjob)
    · exact ⟨job, List.mem_of_mem_filter hjob, job.pendingArtifactId, rfl⟩
  | removeReservation id now =>
    obtain ⟨-, -, rfl⟩ := h
    refine .inr (.inr ⟨fun hs => ⟨hs.unique, hs.sound⟩, fun job hjob => ⟨job, hjob, job.pendingArtifactId, rfl⟩,
      fun hs => ?_, fun d hd => List.mem_of_mem_filter hd, rfl⟩)
    exact hs.sublist (List.filter_sublist.map _)

variable {events : List RetentionEvent}

theorem isBooked_of_history (hrun : Run (QueueState.Retention digests) q events q')
    (hq : q.store.IsBooked) : q'.store.IsBooked := by
  refine hrun.invariant (I := fun q => q.store.IsBooked) (fun q event q' hq h => ?_) hq
  rcases h.cases with ⟨op, now, hop, hstore⟩ | ⟨now, requested, hadmission, hsound⟩ | hshrinks
  · rw [hstore]
    exact IsBooked.call hq hop
  · exact hadmission.isBooked hq (hsound hq.sound)
  · exact hshrinks.isBooked hq

theorem remembers_of_history (hrun : Run (QueueState.Retention digests) q events q')
    (hq : q.store.Remembers digests first) : q'.store.Remembers digests first := by
  refine hrun.invariant (I := fun q => q.store.Remembers digests first) (fun q event q' hq h => ?_) hq
  rcases h.cases with ⟨op, now, hop, hstore⟩ | ⟨now, requested, hadmission, hsound⟩ | hshrinks
  · rw [hstore]
    exact Remembers.call hq hop
  · exact Remembers.admission hq hadmission (hsound hq.booked.sound)
  · exact hshrinks.remembers hq

end Histories

variable {s : GenerationStore}

/-- The books of an empty queue. -/
theorem isBooked_of_empty (hjobs : s.jobs = []) (hreservations : s.reservations = []) :
    s.IsBooked := by
  refine ⟨isSound_of_no_jobs hjobs, ?_, ?_, ?_⟩
  · rw [hreservations]
    exact List.nodup_nil
  · rw [hjobs]
    exact fun _ h => nomatch h
  · rw [hreservations]
    exact fun _ h => nomatch h

/-! ## What is left of a budget -/

/-- No reservation of the key is left. -/
def GenerationStore.BudgetIsGone (s : GenerationStore) (again : NewGenerationJob) : Prop :=
  ∀ d ∈ s.reservations, d.isOf again = false

/-- **The budget of the key is intact**: the reservations of all four dimensions are stored, in one state, and the count
of requests is one that the receipt can hold. -/
structure GenerationStore.BudgetIsIntact (s : GenerationStore) (again : NewGenerationJob) : Prop where
  all : ∀ dimension ∈ budgetDimensions, ∃ d ∈ s.reservations, d.isOf again = true ∧ d.dimension = dimension
  oneState : ∀ d ∈ s.reservations, ∀ d' ∈ s.reservations, d.isOf again = true → d'.isOf again = true → d.state = d'.state
  requests : ∀ d ∈ s.reservations, d.isOf again = true → d.dimension = .requests → d.spentValue ≤ 255

section Budget

variable {digests : Digests} {s : GenerationStore} {first again : NewGenerationJob} {g : NewGenerationGovernanceReceipt}
  {documents : List GenerationBudgetReservationDocument}

theorem isOf_congr_reservation (h : again.SameKey first) (d : GenerationBudgetReservationDocument) :
    d.isOf again = d.isOf first := by
  unfold GenerationBudgetReservationDocument.isOf
  rw [h.1, h.2.1, h.2.2]

/-- Documents that stand for one budget have a dimension each. -/
theorem dimensions_nodup (hstands : ∀ d ∈ documents, d.StandsFor first g) (hunique : (documents.map (·.id)).Nodup) :
    (documents.map (·.dimension)).Nodup := by
  refine List.Nodup.of_map (fun dimension => "budget-reservation:" ++ first.id ++ ":" ++ dimension.asStr) ?_
  rw [List.map_map]
  refine (congrArg List.Nodup (List.map_congr_left fun d hd => ?_)).mpr hunique
  exact (hstands d hd).id.symm

/-- Four documents are one of each dimension. -/
theorem length_eq_four_iff (hstands : ∀ d ∈ documents, d.StandsFor first g)
    (hunique : (documents.map (·.id)).Nodup) :
    documents.length = 4 ↔ ∀ dimension ∈ budgetDimensions, ∃ d ∈ documents, d.dimension = dimension := by
  have hnodup := dimensions_nodup hstands hunique
  have hsubset : documents.map (·.dimension) ⊆ budgetDimensions := by
    intro dimension hdimension
    obtain ⟨d, hd, rfl⟩ := mem_map.mp hdimension
    exact (hstands d hd).dimension
  have hsubperm := List.subperm_of_subset hnodup hsubset
  constructor
  · intro hlength dimension hdimension
    have hperm := hsubperm.perm_of_length_le (by rw [List.length_map, hlength]; rfl)
    exact mem_map.mp (hperm.mem_iff.mpr hdimension)
  · intro hall
    have hback : budgetDimensions ⊆ documents.map (·.dimension) := fun dimension hdimension =>
      mem_map.mpr (hall dimension hdimension)
    have hle := hsubperm.length_le
    have hge := (List.subperm_of_subset (by decide : budgetDimensions.Nodup) hback).length_le
    rw [List.length_map] at hle hge
    exact Nat.le_antisymm hle hge

variable {detail : String} {dimension : GenerationBudgetDimension} {value : Nat}

theorem dimensionDocument_eq_ok
    (h : ∃ d ∈ documents, d.dimension = dimension) :
    ∃ d ∈ documents, d.dimension = dimension ∧ dimensionDocument documents dimension = .ok d := by
  unfold dimensionDocument
  cases hfind : documents.reverse.find? (·.dimension = dimension) with
  | none =>
    obtain ⟨d, hd, hdimension⟩ := h
    exact absurd (decide_eq_true hdimension) (List.find?_eq_none.mp hfind d (List.mem_reverse.mpr hd))
  | some d =>
    exact ⟨d, List.mem_reverse.mp (List.mem_of_find?_eq_some hfind), by simpa using List.find?_some hfind, rfl⟩

/-- The receipt is that of the budget. -/
structure GenerationGovernanceReceipt.StandsFor (r : GenerationGovernanceReceipt) (first : NewGenerationJob)
    (g : NewGenerationGovernanceReceipt) : Prop where
  jobId : r.jobId = first.id
  turnScopeKey : r.turnScopeKey = g.turnScopeKey
  requestFingerprint : r.requestFingerprint = g.requestFingerprint
  policyFingerprint : r.policyFingerprint = g.policyFingerprint
  configFingerprint : r.configFingerprint = g.configFingerprint
  governanceFingerprint : r.governanceFingerprint = g.governanceFingerprint
  reservedRequests : r.reservedRequests = g.reservedRequests
  reservedTokens : r.reservedTokens = g.reservedTokens
  reservedLatencyMilliseconds : r.reservedLatencyMilliseconds = g.reservedLatencyMilliseconds
  reservedCostMicrousd : r.reservedCostMicrousd = g.reservedCostMicrousd

theorem toU8_of_le (h : value ≤ 255) : toU8 value detail = .ok value := by
  unfold toU8
  rw [rejectIf_of_not (Nat.not_lt.mpr h)]
  rfl

/-- **The documents of an intact budget make its receipt.** -/
theorem receiptFromReservations_eq_ok (hstands : ∀ d ∈ documents, d.StandsFor first g)
    (hunique : (documents.map (·.id)).Nodup) (hrequests : g.reservedRequests ≤ 255)
    (hall : ∀ dimension ∈ budgetDimensions, ∃ d ∈ documents, d.dimension = dimension)
    (hstate : ∀ d ∈ documents, ∀ d' ∈ documents, d.state = d'.state)
    (hspent : ∀ d ∈ documents, d.dimension = .requests → d.spentValue ≤ 255) :
    ∃ r, receiptFromReservations documents = .ok (some r) ∧ r.StandsFor first g := by
  have hlength := (length_eq_four_iff hstands hunique).mpr hall
  obtain ⟨dr, hdr, hdr', hrequest⟩ := dimensionDocument_eq_ok (hall .requests (by decide))
  obtain ⟨dt, hdt, hdt', htokens⟩ := dimensionDocument_eq_ok (hall .tokens (by decide))
  obtain ⟨dl, hdl, hdl', hlatency⟩ := dimensionDocument_eq_ok (hall .latency (by decide))
  obtain ⟨dc, hdc, hdc', hcost⟩ := dimensionDocument_eq_ok (hall .cost (by decide))
  have hreserved : dr.reservedValue = g.reservedRequests := by
    rw [(hstands dr hdr).reservedValue, hdr']
    rfl
  cases documents with
  | nil => cases hlength
  | cons d rest =>
    have hfirst := hstands d List.mem_cons_self
    have hwith : ¬ ((d :: rest).length ≠ 4 ∨ ∃ x ∈ d :: rest, x.isWith d = false) := by
      rintro (hne | ⟨x, hx, hnot⟩)
      · exact hne hlength
      · have hx' := hstands x hx
        rw [GenerationBudgetReservationDocument.isWith, decide_eq_false_iff_not] at hnot
        exact hnot ⟨hx'.jobId.trans hfirst.jobId.symm, hx'.campaignId.trans hfirst.campaignId.symm,
          hx'.purpose.trans hfirst.purpose.symm, hx'.idempotencyKey.trans hfirst.idempotencyKey.symm,
          hx'.turnScopeKey.trans hfirst.turnScopeKey.symm,
          hx'.requestFingerprint.trans hfirst.requestFingerprint.symm,
          hx'.policyFingerprint.trans hfirst.policyFingerprint.symm,
          hx'.configFingerprint.trans hfirst.configFingerprint.symm,
          hx'.governanceFingerprint.trans hfirst.governanceFingerprint.symm,
          hstate x hx d List.mem_cons_self⟩
    unfold receiptFromReservations
    dsimp only
    rw [rejectIf_of_not hwith, ok_bind, hrequest, ok_bind, toU8_of_le (hreserved ▸ hrequests), ok_bind, htokens, ok_bind,
      hlatency, ok_bind, hcost, ok_bind, toU8_of_le (hspent dr hdr hdr'), ok_bind]
    refine ⟨_, rfl, hfirst.jobId, hfirst.turnScopeKey, hfirst.requestFingerprint, hfirst.policyFingerprint,
      hfirst.configFingerprint, hfirst.governanceFingerprint, hreserved, ?_, ?_, ?_⟩
    · rw [(hstands dt hdt).reservedValue, hdt']
      rfl
    · rw [(hstands dl hdl).reservedValue, hdl']
      rfl
    · rw [(hstands dc hdc).reservedValue, hdc']
      rfl

/-- The computation fails only where what is stored has drifted. -/
def Drifts {α : Type} (x : Except PersistenceError α) : Prop :=
  ∀ e, x = .error e → ∃ detail, e = .schemaDrift detail

theorem Drifts.bind {α β : Type} {x : Except PersistenceError α} {f : α → Except PersistenceError β} (hx : Drifts x)
    (hf : ∀ a, Drifts (f a)) : Drifts (x >>= f) := by
  intro e h
  cases x with
  | error e' =>
    cases h
    exact hx e rfl
  | ok a => exact hf a e h

theorem drifts_rejectIf {p : Prop} [Decidable p] :
    Drifts (rejectIf p (PersistenceError.schemaDrift detail)) := by
  intro e h
  exact ⟨detail, (rejectIf_eq_error.mp h).2.symm⟩

theorem drifts_toU8 : Drifts (toU8 value detail) :=
  drifts_rejectIf.bind fun _ _ h => nomatch h

theorem drifts_dimensionDocument :
    Drifts (dimensionDocument documents dimension) := by
  intro e h
  unfold dimensionDocument okOr at h
  split at h
  · cases h
  · cases h
    exact ⟨_, rfl⟩

theorem drifts_receiptFromReservations : Drifts (receiptFromReservations documents) := by
  unfold receiptFromReservations
  split
  · exact fun _ h => nomatch h
  · exact drifts_rejectIf.bind fun _ => drifts_dimensionDocument.bind fun _ => drifts_toU8.bind fun _ =>
      drifts_dimensionDocument.bind fun _ => drifts_dimensionDocument.bind fun _ =>
        drifts_dimensionDocument.bind fun _ => drifts_toU8.bind fun _ _ h => nomatch h

/-- What is left of a budget makes no receipt, unless it is intact or gone. -/
theorem receiptFromReservations_eq_error (hstands : ∀ d ∈ documents, d.StandsFor first g)
    (hunique : (documents.map (·.id)).Nodup) (hne : documents ≠ [])
    (hbroken : ¬ ((∀ dimension ∈ budgetDimensions, ∃ d ∈ documents, d.dimension = dimension) ∧
      (∀ d ∈ documents, ∀ d' ∈ documents, d.state = d'.state) ∧
      ∀ d ∈ documents, d.dimension = .requests → d.spentValue ≤ 255)) :
    ∃ detail, receiptFromReservations documents = .error (.schemaDrift detail) := by
  cases hreceipt : receiptFromReservations documents with
  | error e =>
    obtain ⟨detail, rfl⟩ := drifts_receiptFromReservations e hreceipt
    exact ⟨detail, rfl⟩
  | ok r =>
    exfalso
    refine hbroken ?_
    cases documents with
    | nil => exact absurd rfl hne
    | cons d rest =>
      unfold receiptFromReservations at hreceipt
      obtain ⟨hwith, hreceipt⟩ := seq_eq_ok.mp hreceipt
      obtain ⟨requests, hrequests, hreceipt⟩ := bind_eq_ok.mp hreceipt
      obtain ⟨_, _, hreceipt⟩ := bind_eq_ok.mp hreceipt
      obtain ⟨_, _, hreceipt⟩ := bind_eq_ok.mp hreceipt
      obtain ⟨_, _, hreceipt⟩ := bind_eq_ok.mp hreceipt
      obtain ⟨_, _, hreceipt⟩ := bind_eq_ok.mp hreceipt
      obtain ⟨spent, hspent, -⟩ := bind_eq_ok.mp hreceipt
      have hwith := rejectIf_eq_ok.mp hwith
      rw [not_or, not_not] at hwith
      have hstate : ∀ x ∈ d :: rest, x.state = d.state := by
        intro x hx
        have hx' : x.isWith d = true := by
          by_contra hnot
          exact hwith.2 ⟨x, hx, Bool.not_eq_true _ ▸ hnot⟩
        rw [GenerationBudgetReservationDocument.isWith, decide_eq_true_eq] at hx'
        exact hx'.2.2.2.2.2.2.2.2.2
      have hall := (length_eq_four_iff hstands hunique).mp hwith.1
      refine ⟨hall, fun x hx y hy => (hstate x hx).trans (hstate y hy).symm, fun x hx hx' => ?_⟩
      obtain ⟨y, hy, hy', hfound⟩ := dimensionDocument_eq_ok (hall .requests (by decide))
      rw [hfound] at hrequests
      cases hrequests
      have hxy : x = requests := List.inj_on_of_nodup_map (dimensions_nodup hstands hunique) hx hy (hx'.trans hy'.symm)
      unfold toU8 at hspent
      obtain ⟨hle, -⟩ := seq_eq_ok.mp hspent
      rw [hxy]
      exact Nat.le_of_not_lt (rejectIf_eq_ok.mp hle)

end Budget

/-! ## The answer to a repeated request -/

/-- **The right answer** to a request for a key that has been admitted before: the stored job, that the receipt is
closed, or a conflict where the metadata differ; and nothing changes. -/
structure IsRightAnswer (first again : NewGenerationJob) (s : GenerationStore)
    (r : Except GenerationJobStoreError EnqueueGenerationJobOutcome × GenerationStore) : Prop where
  unchanged : r.2 = s
  existing : again.SameMetadata first → ∀ job, s.jobs.find? (·.isOf again) = some job → r.1 = .ok (.existing job)
  closed : again.SameMetadata first → s.jobs.find? (·.isOf again) = none → r.1 = .error .idempotencyReceiptClosed
  conflict : ¬ again.SameMetadata first → r.1 = .error .idempotencyConflict

/-- **When the answer is right.** While the job is stored, its budget must be intact, or gone under a request for another
budget, unless the job never had one or the request is for another job. After that, a request with other metadata
must have another fingerprint. -/
def AnswersRightly (digests : Digests) (first again : NewGenerationJob) (s : GenerationStore) : Prop :=
  if s.jobs.find? (·.isOf again) = none then
    again.SameMetadata first ∨ digests.enqueue again.fields ≠ digests.enqueue first.fields
  else ¬ again.SameJob first ∨ first.governance = none ∨ s.BudgetIsIntact again ∨
    (s.BudgetIsGone again ∧ again.governance ≠ none ∧ ¬ again.SameBudget first)

section Answer

variable {now : DateTime} {digests : Digests} {s : GenerationStore} {first again : NewGenerationJob}
  {g g' : NewGenerationGovernanceReceipt} {job : GenerationJobDocument}

theorem isOf_congr_receipt (h : again.SameKey first) (r : EnqueueReceiptDocument) : r.isOf again = r.isOf first := by
  unfold EnqueueReceiptDocument.isOf
  rw [h.1, h.2.1, h.2.2]

theorem isOf_congr_job (h : again.SameKey first) (job : GenerationJobDocument) : job.isOf again = job.isOf first := by
  unfold GenerationJobDocument.isOf
  rw [h.1, h.2.1, h.2.2]

theorem ensureMatchingReplay_eq_ok (h : job.StandsFor first) : ensureMatchingReplay job again = .ok () ↔ again.SameJob first := by
  unfold ensureMatchingReplay
  rw [rejectIf_eq_ok, h.campaignId, h.originEventId, h.originCampaignRevision, h.purpose, h.idempotencyKey, h.inputDigest,
    h.promptDigest, h.policyDigest, h.configDigest, h.maxAttempts, h.successRetention]
  simp only [ne_eq, not_or, not_not]
  constructor
  · rintro ⟨h1, h2, h3, h4, h5, h6, h7, h8, h9, h10, h11⟩
    exact ⟨h1.symm, h2.symm, h3.symm, h4.symm, h5.symm, h6.symm, h7.symm, h8.symm, h9.symm, h10.symm, h11.symm⟩
  · rintro ⟨h1, h2, h3, h4, h5, h6, h7, h8, h9, h10, h11⟩
    exact ⟨h1.symm, h2.symm, h3.symm, h4.symm, h5.symm, h6.symm, h7.symm, h8.symm, h9.symm, h10.symm, h11.symm⟩

theorem ensureMatchingReplay_eq_error {e : GenerationJobStoreError} (h : ensureMatchingReplay job again = .error e) :
    e = .idempotencyConflict :=
  (rejectIf_eq_error.mp h).2.symm

theorem ensureMatchingGovernanceReceipt_eq_ok {r : GenerationGovernanceReceipt} (h : r.StandsFor first g) :
    ensureMatchingGovernanceReceipt r g' = .ok () ↔ g'.Same g := by
  unfold ensureMatchingGovernanceReceipt
  rw [rejectIf_eq_ok, h.turnScopeKey, h.requestFingerprint, h.policyFingerprint, h.configFingerprint,
    h.governanceFingerprint, h.reservedRequests, h.reservedTokens, h.reservedLatencyMilliseconds, h.reservedCostMicrousd]
  simp only [ne_eq, not_or, not_not]
  constructor
  · rintro ⟨h1, h2, h3, h4, h5, h6, h7, h8, h9⟩
    refine ⟨h1.symm, h2.symm, h3.symm, h4.symm, h5.symm, ?_⟩
    unfold NewGenerationGovernanceReceipt.addition
    rw [h6, h7, h8, h9]
  · rintro ⟨h1, h2, h3, h4, h5, h6⟩
    unfold NewGenerationGovernanceReceipt.addition at h6
    injection h6 with h6 h7 h8 h9
    exact ⟨h1.symm, h2.symm, h3.symm, h4.symm, h5.symm, h6.symm, h7.symm, h8.symm, h9.symm⟩

/-- The answer of a check that can only fail with a conflict. -/
theorem conflict_of_ne_ok {x : Except GenerationJobStoreError Unit}
    (hx : ∀ e, x = .error e → e = .idempotencyConflict) (h : x ≠ .ok ()) : x = .error .idempotencyConflict := by
  cases x with
  | error e => rw [hx e rfl]
  | ok u => exact absurd rfl h

variable {r : Option GenerationGovernanceReceipt}

/-- **The budget check compares the budgets**, where the receipt is that of the first request, or neither is there. -/
theorem ensureMatchingGovernance_eq (hjob : job.id = first.id)
    (hr : match r, first.governance with
      | some r, some g => r.StandsFor first g
      | none, none => True
      | _, _ => False) :
    (again.SameBudget first → ensureMatchingGovernance job again r = .ok ()) ∧
      (¬ again.SameBudget first → ensureMatchingGovernance job again r = .error .idempotencyConflict) := by
  unfold NewGenerationJob.SameBudget
  cases r with
  | none =>
    cases hfirst : first.governance with
    | some g =>
      rw [hfirst] at hr
      exact hr.elim
    | none =>
      cases hagain : again.governance with
      | none => exact ⟨fun _ => rejectIf_of_not (not_not.mpr hagain), fun h => absurd trivial h⟩
      | some g' => exact ⟨fun h => h.elim, fun _ => rejectIf_eq_error.mpr ⟨by rw [hagain]; exact nofun, rfl⟩⟩
  | some r =>
    cases hfirst : first.governance with
    | none =>
      rw [hfirst] at hr
      exact hr.elim
    | some g =>
      rw [hfirst] at hr
      have hr : r.StandsFor first g := hr
      unfold ensureMatchingGovernance
      dsimp only
      cases hagain : again.governance with
      | none => exact ⟨fun h => h.elim, fun _ => rfl⟩
      | some g' =>
        dsimp only
        rw [if_pos (hr.jobId.trans hjob.symm)]
        refine ⟨fun h => (ensureMatchingGovernanceReceipt_eq_ok hr).mpr h, fun h => ?_⟩
        exact conflict_of_ne_ok (fun e he => (rejectIf_eq_error.mp he).2.symm)
          fun hok => h ((ensureMatchingGovernanceReceipt_eq_ok hr).mp hok)

/-! ## What is loaded for the key -/

theorem mem_loadByKey {d : GenerationBudgetReservationDocument} :
    d ∈ s.loadReservations (fun d => d.campaignId = again.campaignSessionId ∧ d.purpose = again.purpose ∧
      d.idempotencyKey = again.idempotencyKey) ↔ d ∈ s.reservations ∧ d.isOf again = true :=
  mem_loadReservations

theorem loadGovernanceReceipt_of_gone (h : s.BudgetIsGone again) :
    loadGovernanceReceiptByKey s again.campaignSessionId again.purpose again.idempotencyKey = .ok none := by
  have hnil : s.loadReservations (fun d => d.campaignId = again.campaignSessionId ∧ d.purpose = again.purpose ∧
      d.idempotencyKey = again.idempotencyKey) = [] := by
    refine List.eq_nil_iff_forall_not_mem.mpr fun d hd => ?_
    obtain ⟨hmem, hof⟩ := mem_loadReservations.mp hd
    have hnot := h d hmem
    unfold GenerationBudgetReservationDocument.isOf at hnot
    rw [hof] at hnot
    cases hnot
  unfold loadGovernanceReceiptByKey
  rw [hnil]
  rfl

/-- **What is loaded for the key of an admitted request**: its receipt where the budget is intact, nothing where it is
gone, and an error where a part of it is left. -/
theorem loadGovernanceReceipt_cases (hs : s.Remembers digests first) (hkey : again.SameKey first)
    (hg : first.governance = some g) (hrequests : g.reservedRequests ≤ 255) :
    (s.BudgetIsIntact again ∧ ∃ r, loadGovernanceReceiptByKey s again.campaignSessionId again.purpose
        again.idempotencyKey = .ok (some r) ∧ r.StandsFor first g) ∨
      (s.BudgetIsGone again ∧ ¬ s.BudgetIsIntact again) ∨
      (¬ s.BudgetIsIntact again ∧ ¬ s.BudgetIsGone again ∧ ∃ detail, loadGovernanceReceiptByKey s
        again.campaignSessionId again.purpose again.idempotencyKey = .error (.schemaDrift detail)) := by
  have hmem := fun d => @mem_loadByKey s again d
  have hunique := loadReservations_nodup (p := fun d => d.campaignId = again.campaignSessionId ∧
    d.purpose = again.purpose ∧ d.idempotencyKey = again.idempotencyKey) hs.booked.unique
  unfold loadGovernanceReceiptByKey
  generalize s.loadReservations (fun d => d.campaignId = again.campaignSessionId ∧ d.purpose = again.purpose ∧
    d.idempotencyKey = again.idempotencyKey) = documents at hmem hunique
  have hstands : ∀ d ∈ documents, d.StandsFor first g := by
    intro d hd
    obtain ⟨hd, hof⟩ := (hmem d).mp hd
    rw [isOf_congr_reservation hkey] at hof
    obtain ⟨g₁, hg₁, hstands⟩ := hs.reservations d hd hof
    rw [hg] at hg₁
    cases hg₁
    exact hstands
  have hintact : s.BudgetIsIntact again ↔ (∀ dimension ∈ budgetDimensions, ∃ d ∈ documents, d.dimension = dimension) ∧
      (∀ d ∈ documents, ∀ d' ∈ documents, d.state = d'.state) ∧
      ∀ d ∈ documents, d.dimension = .requests → d.spentValue ≤ 255 := by
    constructor
    · rintro ⟨hall, hstate, hspent⟩
      refine ⟨fun dimension hdimension => ?_, fun d hd d' hd' => ?_, fun d hd hrequest => ?_⟩
      · obtain ⟨d, hd, hof, hdim⟩ := hall dimension hdimension
        exact ⟨d, (hmem d).mpr ⟨hd, hof⟩, hdim⟩
      · obtain ⟨hd, hof⟩ := (hmem d).mp hd
        obtain ⟨hd', hof'⟩ := (hmem d').mp hd'
        exact hstate d hd d' hd' hof hof'
      · obtain ⟨hd, hof⟩ := (hmem d).mp hd
        exact hspent d hd hof hrequest
    · rintro ⟨hall, hstate, hspent⟩
      refine ⟨fun dimension hdimension => ?_, fun d hd d' hd' hof hof' => ?_, fun d hd hof hrequest => ?_⟩
      · obtain ⟨d, hd, hdim⟩ := hall dimension hdimension
        obtain ⟨hd, hof⟩ := (hmem d).mp hd
        exact ⟨d, hd, hof, hdim⟩
      · exact hstate d ((hmem d).mpr ⟨hd, hof⟩) d' ((hmem d').mpr ⟨hd', hof'⟩)
      · exact hspent d ((hmem d).mpr ⟨hd, hof⟩) hrequest
  by_cases h : s.BudgetIsIntact again
  · obtain ⟨hall, hstate, hspent⟩ := hintact.mp h
    exact .inl ⟨h, receiptFromReservations_eq_ok hstands hunique hrequests hall hstate hspent⟩
  · by_cases hnil : documents = []
    · refine .inr (.inl ⟨fun d hd => ?_, h⟩)
      rw [← Bool.not_eq_true]
      intro hof
      have hd := (hmem d).mpr ⟨hd, hof⟩
      rw [hnil] at hd
      cases hd
    · refine .inr (.inr ⟨h, fun hgone => ?_, ?_⟩)
      · obtain ⟨d, hd⟩ := List.exists_mem_of_ne_nil documents hnil
        obtain ⟨hd, hof⟩ := (hmem d).mp hd
        rw [hgone d hd] at hof
        cases hof
      · exact receiptFromReservations_eq_error hstands hunique hnil fun hall => h (hintact.mpr hall)

/-- A request without a budget has no reservation. -/
theorem Remembers.gone (hs : s.Remembers digests first) (hkey : again.SameKey first) (hg : first.governance = none) :
    s.BudgetIsGone again := by
  intro d hd
  rw [← Bool.not_eq_true, isOf_congr_reservation hkey]
  intro hof
  obtain ⟨g, hsome, -⟩ := hs.reservations d hd hof
  rw [hg] at hsome
  cases hsome

/-- The fingerprint is taken of the metadata. -/
theorem NewGenerationJob.SameMetadata.fields (h : again.SameMetadata first) : again.fields = first.fields := by
  obtain ⟨⟨h1, h2, h3, h4, h5, h6, h7, h8, h9, h10, h11⟩, hbudget⟩ := h
  unfold NewGenerationJob.fields
  rw [h1, h2, h3, h4, h5, h6, h7, h8, h9, h10, h11]
  unfold NewGenerationJob.SameBudget at hbudget
  cases hagain : again.governance with
  | none =>
    cases hfirst : first.governance with
    | none => rfl
    | some g =>
      rw [hagain, hfirst] at hbudget
      exact hbudget.elim
  | some g' =>
    cases hfirst : first.governance with
    | none =>
      rw [hagain, hfirst] at hbudget
      exact hbudget.elim
    | some g =>
      rw [hagain, hfirst] at hbudget
      have hbudget : g'.Same g := hbudget
      have haddition := hbudget.addition
      unfold NewGenerationGovernanceReceipt.addition at haddition
      injection haddition with hrequests htokens hlatency hcost
      dsimp only [Option.map_some, Option.getD_some]
      rw [hbudget.governanceFingerprint, hrequests, htokens, hlatency, hcost]

/-! ## The answer, document by document -/

/-- A request that passes the checks is answered by the transaction. -/
theorem enqueueGenerationJob_of_valid (hvalid : validateNewJob again = .ok ())
    (hgovernance : validateGovernance digests again.governance = .ok ()) :
    enqueueGenerationJob now digests again s = withTransaction (enqueueClosure now digests again) s := by
  unfold enqueueGenerationJob
  rw [hvalid, ok_bind, hgovernance]

/-- **The answer while the job is stored.** -/
theorem enqueueClosure_of_job (hs : s.Remembers digests first)
    (hjob : s.jobs.find? (·.isOf again) = some job) :
    enqueueClosure now digests again s =
      match ensureMatchingReplay job again with
      | .error e => .ok (.error e, s)
      | .ok () => match loadGovernanceReceiptByKey s again.campaignSessionId again.purpose again.idempotencyKey with
        | .error e => .error e
        | .ok r => .ok (do ensureMatchingGovernance job again r; return .existing job, s) := by
  have hloaded := (hs.booked.sound.sound job (List.mem_of_find?_eq_some hjob)).loaded
  unfold enqueueClosure
  rw [hjob]
  dsimp only
  unfold replayGenerationJob
  rw [hloaded, ok_bind]
  cases ensureMatchingReplay job again with
  | error e => rfl
  | ok u =>
    dsimp only
    cases loadGovernanceReceiptByKey s again.campaignSessionId again.purpose again.idempotencyKey <;> rfl

/-- The answer after the job was removed. -/
theorem enqueueClosure_of_receipt (hs : s.Remembers digests first) (hkey : again.SameKey first)
    (hjob : s.jobs.find? (·.isOf again) = none) :
    enqueueClosure now digests again s =
      if digests.enqueue first.fields = digests.enqueue again.fields then .ok (.error .idempotencyReceiptClosed, s)
      else .ok (.error .idempotencyConflict, s) := by
  unfold enqueueClosure
  rw [hjob]
  cases hreceipt : s.receipts.find? (·.isOf again) with
  | none =>
    obtain ⟨r, hr, hof⟩ := hs.receipt
    rw [← isOf_congr_receipt hkey] at hof
    exact absurd hof (List.find?_eq_none.mp hreceipt r hr)
  | some r =>
    have hof : r.isOf again = true := by simpa using List.find?_some hreceipt
    rw [isOf_congr_receipt hkey] at hof
    dsimp only
    rw [hs.receipts r (List.mem_of_find?_eq_some hreceipt) hof]

/-- A conflict is the right answer to other metadata only. -/
theorem isRightAnswer_conflict : IsRightAnswer first again s (.error .idempotencyConflict, s) ↔ ¬ again.SameMetadata first := by
  constructor
  · intro h hsame
    cases hfind : s.jobs.find? (·.isOf again) with
    | none => cases h.closed hsame hfind
    | some job => cases h.existing hsame job hfind
  · exact fun h => ⟨rfl, fun hsame => absurd hsame h, fun hsame => absurd hsame h, fun _ => rfl⟩

/-- The stored job is the right answer to the same metadata only. -/
theorem isRightAnswer_existing (hjob : s.jobs.find? (·.isOf again) = some job) :
    IsRightAnswer first again s (.ok (.existing job), s) ↔ again.SameMetadata first := by
  constructor
  · intro h
    by_contra hother
    cases h.conflict hother
  · intro hsame
    refine ⟨rfl, fun _ job' hjob' => ?_, fun _ hnone => ?_, fun h => absurd hsame h⟩
    · rw [hjob] at hjob'
      cases hjob'
      rfl
    · rw [hjob] at hnone
      cases hnone

/-- That the receipt is closed is the right answer to the same metadata only. -/
theorem isRightAnswer_closed (hjob : s.jobs.find? (·.isOf again) = none) :
    IsRightAnswer first again s (.error .idempotencyReceiptClosed, s) ↔ again.SameMetadata first := by
  constructor
  · intro h
    by_contra hother
    cases h.conflict hother
  · intro hsame
    refine ⟨rfl, fun _ job' hjob' => ?_, fun _ _ => rfl, fun h => absurd hsame h⟩
    rw [hjob] at hjob'
    cases hjob'

/-- A failure of the database is never the right answer. -/
theorem not_isRightAnswer_database {detail : String} :
    ¬ IsRightAnswer first again s (.error (.database detail), s) := by
  intro h
  by_cases hsame : again.SameMetadata first
  · cases hfind : s.jobs.find? (·.isOf again) with
    | none => cases h.closed hsame hfind
    | some job => cases h.existing hsame job hfind
  · cases h.conflict hsame

/-- The answer of a budget check that compares the budgets is right. -/
theorem isRightAnswer_matching (hjob : s.jobs.find? (·.isOf again) = some job)
    (hid : job.id = first.id) (hsame : again.SameJob first)
    (hr : match r, first.governance with
      | some r, some g => r.StandsFor first g
      | none, none => True
      | _, _ => False) :
    IsRightAnswer first again s (do ensureMatchingGovernance job again r; return .existing job, s) := by
  obtain ⟨hok, herror⟩ := ensureMatchingGovernance_eq hid hr
  by_cases hbudget : again.SameBudget first
  · rw [hok hbudget]
    exact (isRightAnswer_existing hjob).mpr ⟨hsame, hbudget⟩
  · rw [herror hbudget]
    exact isRightAnswer_conflict.mpr fun h => hbudget h.2

/-- **The answer for the metadata of the job, while it is stored.** -/
theorem isRightAnswer_of_sameJob (hs : s.Remembers digests first)
    (hlimit : ∀ g, first.governance = some g → g.reservedRequests ≤ 255) (hkey : again.SameKey first)
    (hjob : s.jobs.find? (·.isOf again) = some job) (hsame : again.SameJob first) :
    IsRightAnswer first again s (withTransaction (enqueueClosure now digests again) s) ↔
      first.governance = none ∨ s.BudgetIsIntact again ∨
        (s.BudgetIsGone again ∧ again.governance ≠ none ∧ ¬ again.SameBudget first) := by
  have hof : job.isOf first = true := by
    have hof : job.isOf again = true := by simpa using List.find?_some hjob
    rw [isOf_congr_job hkey] at hof
    exact hof
  have hstands := hs.jobs job (List.mem_of_find?_eq_some hjob) hof
  unfold withTransaction
  rw [enqueueClosure_of_job hs hjob, (ensureMatchingReplay_eq_ok hstands).mpr hsame]
  dsimp only
  cases hg : first.governance with
  | none =>
    rw [loadGovernanceReceipt_of_gone (Remembers.gone hs hkey hg)]
    refine iff_of_true (isRightAnswer_matching hjob hstands.id hsame ?_) (.inl rfl)
    rw [hg]
    trivial
  | some g =>
    have hnone : ¬ (some g = none) := nofun
    rcases loadGovernanceReceipt_cases hs hkey hg (hlimit g hg) with
      ⟨hintact, r, hload, hreceipt⟩ | ⟨hgone, hbroken⟩ | ⟨hbroken, hleft, detail, hload⟩
    · rw [hload]
      refine iff_of_true (isRightAnswer_matching hjob hstands.id hsame ?_) (.inr (.inl hintact))
      rw [hg]
      exact hreceipt
    · rw [loadGovernanceReceipt_of_gone hgone]
      dsimp only
      unfold ensureMatchingGovernance
      dsimp only
      by_cases hagain : again.governance = none
      · -- the job's budget is gone and none is asked for: the job is given, though it had a budget
        rw [rejectIf_of_not (not_not.mpr hagain)]
        have hbudget : ¬ again.SameBudget first := by
          unfold NewGenerationJob.SameBudget
          rw [hagain, hg]
          exact id
        refine iff_of_false (fun h => hbudget ((isRightAnswer_existing hjob).mp h).2) ?_
        rintro (h | h | ⟨-, h, -⟩)
        · exact hnone h
        · exact hbroken h
        · exact h hagain
      · rw [rejectIf_eq_error.mpr ⟨hagain, rfl⟩]
        show IsRightAnswer first again s (.error .idempotencyConflict, s) ↔ _
        rw [isRightAnswer_conflict]
        constructor
        · exact fun h => .inr (.inr ⟨hgone, hagain, fun hbudget => h ⟨hsame, hbudget⟩⟩)
        · rintro (h | h | ⟨-, -, h⟩)
          · exact absurd h hnone
          · exact absurd h hbroken
          · exact fun hmetadata => h hmetadata.2
    · rw [hload]
      refine iff_of_false not_isRightAnswer_database ?_
      rintro (h | h | ⟨h, -⟩)
      · exact hnone h
      · exact hbroken h
      · exact hleft h

/-- **The answer to a repeated request**, on any store that remembers the first one. -/
theorem isRightAnswer_iff (hs : s.Remembers digests first)
    (hlimit : ∀ g, first.governance = some g → g.reservedRequests ≤ 255) (hkey : again.SameKey first)
    (hvalid : validateNewJob again = .ok ()) (hgovernance : validateGovernance digests again.governance = .ok ()) :
    IsRightAnswer first again s (enqueueGenerationJob now digests again s) ↔ AnswersRightly digests first again s := by
  rw [enqueueGenerationJob_of_valid hvalid hgovernance]
  unfold AnswersRightly
  cases hjob : s.jobs.find? (·.isOf again) with
  | none =>
    rw [if_pos rfl]
    unfold withTransaction
    rw [enqueueClosure_of_receipt hs hkey hjob]
    by_cases hprint : digests.enqueue first.fields = digests.enqueue again.fields
    · rw [if_pos hprint]
      exact (isRightAnswer_closed hjob).trans ⟨.inl, fun h => h.resolve_right (fun hne => hne hprint.symm)⟩
    · rw [if_neg hprint]
      refine isRightAnswer_conflict.trans ⟨fun _ => .inr fun h => hprint h.symm, fun _ hsame => ?_⟩
      exact hprint (congrArg digests.enqueue hsame.fields.symm)
  | some job =>
    rw [if_neg nofun]
    by_cases hsame : again.SameJob first
    · refine (isRightAnswer_of_sameJob hs hlimit hkey hjob hsame).trans ⟨.inr, fun h => ?_⟩
      exact h.resolve_left fun hne => hne hsame
    · have hof : job.isOf first = true := by
        have hof : job.isOf again = true := by simpa using List.find?_some hjob
        rw [isOf_congr_job hkey] at hof
        exact hof
      have hstands := hs.jobs job (List.mem_of_find?_eq_some hjob) hof
      have hreplay := conflict_of_ne_ok (fun e he => ensureMatchingReplay_eq_error he)
        fun hok => hsame ((ensureMatchingReplay_eq_ok hstands).mp hok)
      unfold withTransaction
      rw [enqueueClosure_of_job hs hjob, hreplay]
      exact iff_of_true (isRightAnswer_conflict.mpr fun h => hsame h.1) (.inl hsame)

end Answer

/-! ## The whole life of a key -/

/-- A budget that has been accepted asks for a few requests at most. -/
theorem reservedRequests_le {digests : Digests} {g : NewGenerationGovernanceReceipt}
    (h : validateGovernance digests (some g) = .ok ()) : g.reservedRequests ≤ 255 := by
  have h : validateNewGovernance digests g = .ok () := h
  unfold validateNewGovernance at h
  obtain ⟨-, h⟩ := seq_eq_ok.mp h
  obtain ⟨-, h⟩ := seq_eq_ok.mp h
  have hle := rejectIf_eq_ok.mp h
  rw [not_or] at hle
  exact le_trans (Nat.not_lt.mp hle.1) (by decide)

/-- **A key is enqueued once, and later requests for it are answered rightly exactly when what the answer is read off is
still there.** The queue starts empty; between the first request and the second, anything may happen. -/
theorem enqueue_again_iff (digests : Digests) {q₀ q₁ q₂ : QueueState} {events later : List RetentionEvent}
    {first again : NewGenerationJob} {job : GenerationJobDocument} {s : GenerationStore} {now now' : DateTime}
    (hjobs : q₀.store.jobs = []) (hreservations : q₀.store.reservations = [])
    (hrun : Run (QueueState.Retention digests) q₀ events q₁)
    (hfirst : enqueueGenerationJob now digests first q₁.store = (.ok (.enqueued job), s))
    (hlater : Run (QueueState.Retention digests) ⟨now, s⟩ later q₂)
    (hkey : again.SameKey first) (hvalid : validateNewJob again = .ok ())
    (hgovernance : validateGovernance digests again.governance = .ok ()) :
    IsRightAnswer first again q₂.store (enqueueGenerationJob now' digests again q₂.store) ↔
      AnswersRightly digests first again q₂.store := by
  have hq₁ := isBooked_of_history hrun (isBooked_of_empty hjobs hreservations)
  have hcases := enqueueGenerationJob_cases now digests first q₁.store
  have hafter := (Operation.enqueue first).run_jobs now digests q₁.store
  have hstore : ((Operation.enqueue first).run now digests q₁.store).2 = s := by
    show (enqueueGenerationJob now digests first q₁.store).2 = s
    rw [hfirst]
  rw [hstore] at hafter
  rw [hfirst] at hcases
  cases hcases with
  | refused _ _ hanswer => exact absurd rfl (hanswer job)
  | admitted _ hadmission =>
    have hs := hadmission.remembers hq₁ ⟨hafter.unique hq₁.sound, hafter.sound hq₁.sound⟩
    refine isRightAnswer_iff (remembers_of_history hlater hs) (fun g hg => ?_) hkey hvalid hgovernance
    exact reservedRequests_le (hg ▸ hadmission.governance)

/-! ## A budget that is removed from under its job -/

/-- The queue after the request with a budget was admitted and its job cancelled. -/
def cancelledStore : GenerationStore :=
  ((Operation.cancel "campaign-1" "generation-job-1").run 1 plainDigests
    ((Operation.enqueue budgetedRequest).run 0 plainDigests emptyQueue.store).2).2

/-- A month later the database has removed the reservations. -/
def monthLater : DateTime := 31 * dayMilliseconds

def GenerationStore.withoutReservation (s : GenerationStore) (dimension : GenerationBudgetDimension) : GenerationStore :=
  { s with reservations := s.reservations.filter (·.id ≠ "budget-reservation:generation-job-1:" ++ dimension.asStr) }

def forgottenStore : GenerationStore := budgetDimensions.foldl GenerationStore.withoutReservation cancelledStore

/-- What happens between the two requests. -/
def forgettingEvents : List RetentionEvent :=
  .queue (.call (.cancel "campaign-1" "generation-job-1") 1) :: budgetDimensions.map fun dimension =>
    .removeReservation ("budget-reservation:generation-job-1:" ++ dimension.asStr) monthLater

/-- The store after the request with a budget. -/
def budgetedStore : GenerationStore := ((Operation.enqueue budgetedRequest).run 0 plainDigests emptyQueue.store).2

theorem enqueue_budgetedRequest : enqueueGenerationJob 0 plainDigests budgetedRequest emptyQueue.store =
    (.ok (.enqueued (budgetedRequest.document 0 plainDigests)), budgetedStore) := by
  refine Prod.ext ?_ rfl
  decide

/-- A reservation of the cancelled job is removed a month later. -/
theorem retention_removeReservation {now : DateTime} (dimension : GenerationBudgetDimension)
    (hnow : now ≤ monthLater) (h : ∃ d ∈ s.reservations, d.id = "budget-reservation:generation-job-1:" ++ dimension.asStr ∧
      d.purgeAt ≤ monthLater) :
    QueueState.Retention plainDigests ⟨now, s⟩
      (.removeReservation ("budget-reservation:generation-job-1:" ++ dimension.asStr) monthLater)
      ⟨monthLater, s.withoutReservation dimension⟩ :=
  ⟨hnow, h, rfl⟩

theorem run_forgottenStore :
    Run (QueueState.Retention plainDigests) ⟨0, budgetedStore⟩ forgettingEvents ⟨monthLater, forgottenStore⟩ := by
  have hcancel : QueueState.Retention plainDigests ⟨0, budgetedStore⟩
      (.queue (.call (.cancel "campaign-1" "generation-job-1") 1)) ⟨1, cancelledStore⟩ := ⟨by decide, rfl⟩
  refine .cons hcancel ?_
  refine .cons (retention_removeReservation .requests (by decide) (by decide)) ?_
  refine .cons (retention_removeReservation .tokens le_rfl (by decide)) ?_
  refine .cons (retention_removeReservation .latency le_rfl (by decide)) ?_
  refine .cons (retention_removeReservation .cost le_rfl (by decide)) ?_
  exact .nil _

theorem sameMetadata_refl (first : NewGenerationJob) : first.SameMetadata first := by
  refine ⟨⟨rfl, rfl, rfl, rfl, rfl, rfl, rfl, rfl, rfl, rfl, rfl⟩, ?_⟩
  unfold NewGenerationJob.SameBudget
  cases first.governance with
  | none => trivial
  | some g => exact ⟨rfl, rfl, rfl, rfl, rfl, rfl⟩

/-- **The stored job of a key, and a conflict for the same request**: the database has removed the budget. -/
theorem same_request_conflicts : Run (QueueState.Retention plainDigests) ⟨0, budgetedStore⟩ forgettingEvents
      ⟨monthLater, forgottenStore⟩ ∧
    enqueueGenerationJob 0 plainDigests budgetedRequest emptyQueue.store =
      (.ok (.enqueued (budgetedRequest.document 0 plainDigests)), budgetedStore) ∧
    budgetedRequest.SameMetadata budgetedRequest ∧
    (∃ job ∈ forgottenStore.jobs, job.isOf budgetedRequest = true) ∧
    (enqueueGenerationJob monthLater plainDigests budgetedRequest forgottenStore).1 = .error .idempotencyConflict := by
  refine ⟨run_forgottenStore, enqueue_budgetedRequest, sameMetadata_refl _, ?_, ?_⟩
  · decide
  · decide

/-- Straight after the first request the budget is intact. -/
theorem answersRightly_straight : AnswersRightly plainDigests budgetedRequest budgetedRequest budgetedStore := by
  unfold AnswersRightly
  rw [if_neg (by decide)]
  exact .inr (.inr (.inl ⟨by decide, by decide, by decide⟩))

/-- Straight after the first request the second is answered with the stored job. -/
theorem enqueue_again_straight :
    IsRightAnswer budgetedRequest budgetedRequest budgetedStore
      (enqueueGenerationJob 5 plainDigests budgetedRequest budgetedStore) :=
  (enqueue_again_iff plainDigests rfl rfl (.nil emptyQueue) enqueue_budgetedRequest (.nil _) ⟨rfl, rfl, rfl⟩
    (by decide) (by decide)).mpr answersRightly_straight

end ManchesterArcana.Generation
