import Mathlib.Algebra.BigOperators.Group.List.Basic
import ManchesterArcana.Generation.Calls

/-!
# `Generation.Reservations` — what a call can do to the budget

The reservations of a job are changed one after the other, each by its id. `updateAll_eq` says what comes of it, and
`Operation.run_reservations` all that a call can do: it changes reservations by `Charges`, or it admits a job and adds
the reservations of it.
-/

namespace ManchesterArcana.Generation

open Effect Store

/-! ## One update after the other -/

section Updates

variable {s : GenerationStore} {L : List GenerationBudgetReservationDocument}

/-- Update the open reservations of a list. -/
def updateAll (g : GenerationBudgetReservationDocument → GenerationBudgetReservationDocument →
    GenerationBudgetReservationDocument) (L : List GenerationBudgetReservationDocument) (s : GenerationStore) :
    GenerationStore :=
  L.foldl (fun s d => s.updateReserved d.id (g d)) s

/-- **What comes of the updates**: each open reservation of the list has been changed once. -/
theorem updateAll_eq {g : GenerationBudgetReservationDocument → GenerationBudgetReservationDocument →
    GenerationBudgetReservationDocument} (hid : ∀ d x, (g d x).id = x.id) (hnodup : (L.map (·.id)).Nodup)
    (hsame : ∀ d ∈ L, ∀ x ∈ s.reservations, x.id = d.id → x = d) :
    updateAll g L s = { s with reservations := s.reservations.map fun x =>
      if x ∈ L ∧ x.state = .reserved then g x x else x } := by
  induction L generalizing s with
  | nil =>
    have hmap : (s.reservations.map fun x => if x ∈ ([] : List GenerationBudgetReservationDocument) ∧ x.state = .reserved
        then g x x else x) = s.reservations := by
      refine (List.map_congr_left fun _ _ => ?_).trans (List.map_id _)
      exact if_neg fun h => List.not_mem_nil h.1
    rw [hmap]
    rfl
  | cons d L ih =>
    obtain ⟨hfresh, hnodup⟩ := List.nodup_cons.mp hnodup
    have hne : ∀ x ∈ L, x.id ≠ d.id := fun x hx heq => hfresh (List.mem_map.mpr ⟨x, hx, heq⟩)
    obtain ⟨hd, hL⟩ := List.forall_mem_cons.mp hsame
    show updateAll g L (s.updateReserved d.id (g d)) = _
    rw [ih hnodup ?_]
    · show ({ s with reservations := _ } : GenerationStore) = _
      congr 1
      show (updateWhere _ (g d) s.reservations).map _ = _
      unfold updateWhere
      rw [List.map_map]
      refine List.map_congr_left fun x hx => ?_
      rw [Function.comp_apply]
      by_cases hxd : x.id = d.id
      · obtain rfl := hd x hx hxd
        have hnot : ∀ y : GenerationBudgetReservationDocument, y.id = x.id → y ∉ L := fun y hy hmem => hne y hmem hy
        by_cases hopen : x.state = .reserved
        · simp only [hopen, and_self, decide_true, if_true]
          rw [if_neg fun h => hnot _ (hid x x) h.1, if_pos ⟨List.mem_cons_self, trivial⟩]
        · simp only [hopen, and_false, decide_false, Bool.false_eq_true, if_false]
      · have hmem : x ∈ d :: L ↔ x ∈ L := by
          rw [List.mem_cons]
          exact or_iff_right fun heq => hxd (congrArg _ heq)
        simp only [hxd, false_and, decide_false, Bool.false_eq_true, if_false, hmem]
    · intro e he y hy hye
      rcases mem_updateWhere.mp hy with ⟨x, hx, hp, rfl⟩ | ⟨hy, -⟩
      · -- an updated reservation has the id of the first one
        rw [decide_eq_true_eq] at hp
        exact absurd (hye.symm.trans ((hid d x).trans hp.1)) (hne e he)
      · exact hL e he y hy hye

variable {p : GenerationBudgetReservationDocument → Bool}

theorem loadReservations_nodup
    (h : (s.reservations.map (·.id)).Nodup) : ((s.loadReservations p).map (·.id)).Nodup := by
  refine (List.Perm.nodup_iff ((List.perm_insertionSort byDimension _).map _)).mpr ?_
  exact h.sublist (List.filter_sublist.map _)

theorem mem_loadReservations {d : GenerationBudgetReservationDocument} :
    d ∈ s.loadReservations p ↔ d ∈ s.reservations ∧ p d = true := by
  unfold GenerationStore.loadReservations
  rw [List.mem_insertionSort, List.mem_filter]

/-- Reservations that were read are those of their ids. -/
theorem eq_of_mem_load (h : (s.reservations.map (·.id)).Nodup)
    (hL : ∀ d ∈ L, d ∈ s.loadReservations p) :
    ∀ d ∈ L, ∀ x ∈ s.reservations, x.id = d.id → x = d := fun d hd _ hx heq =>
  List.inj_on_of_nodup_map h hx (mem_loadReservations.mp (hL d hd)).1 heq

end Updates

/-! ## What an attempt records -/

section Record

variable {now : DateTime} {terminal : Bool} {increment : GenerationBudgetDimension → Option Nat} {s : GenerationStore}
  {L : List GenerationBudgetReservationDocument}

/-- The amount can be recorded. -/
def GenerationBudgetReservationDocument.isChargeable (d : GenerationBudgetReservationDocument)
    (increment : GenerationBudgetDimension → Option Nat) : Bool :=
  (d.charge (increment d.dimension)).isOk

/-- The reservation with the amount of an attempt. -/
def recordOf (now : DateTime) (terminal : Bool) (increment : GenerationBudgetDimension → Option Nat)
    (d x : GenerationBudgetReservationDocument) : GenerationBudgetReservationDocument :=
  match d.charge (increment d.dimension) with
  | .ok spent => x.record now terminal (d.overage || d.reservedValue < spent) spent
  | .error _ => x

/-- **What is recorded**: the reservations up to the first that cannot be charged. -/
theorem recordDimensions_snd : (recordDimensions now terminal increment L s).2 =
    updateAll (recordOf now terminal increment) (L.takeWhile (·.isChargeable increment)) s := by
  induction L generalizing s with
  | nil => rfl
  | cons d L ih =>
    unfold recordDimensions
    split
    · next e he =>
      have hnot : d.isChargeable increment = false := by
        unfold GenerationBudgetReservationDocument.isChargeable
        rw [he]
        rfl
      rw [List.takeWhile_cons, hnot]
      rfl
    · next spent hspent =>
      have hchargeable : d.isChargeable increment = true := by
        unfold GenerationBudgetReservationDocument.isChargeable
        rw [hspent]
        rfl
      rw [ih, List.takeWhile_cons, if_pos hchargeable]
      show _ = updateAll _ _ (s.updateReserved d.id (recordOf now terminal increment d))
      unfold recordOf
      rw [hspent]

theorem recordDimensions_fst : (recordDimensions now terminal increment L s).1 = .ok () ↔
    ∀ d ∈ L, d.isChargeable increment = true := by
  induction L generalizing s with
  | nil =>
    refine ⟨fun _ d hd => ?_, fun _ => rfl⟩
    cases hd
  | cons d L ih =>
    rw [List.forall_mem_cons]
    unfold recordDimensions
    split
    · next e he =>
      constructor
      · intro h
        cases h
      · rintro ⟨h, -⟩
        unfold GenerationBudgetReservationDocument.isChargeable at h
        rw [he] at h
        cases h
    · next spent hspent =>
      rw [ih]
      refine (and_iff_right ?_).symm
      unfold GenerationBudgetReservationDocument.isChargeable
      rw [hspent]
      rfl

end Record

/-! ## What a call can do to a reservation -/

/-- What counts against an allowance: the committed amount, unless the reservation is overspent. -/
def GenerationBudgetReservationDocument.outstanding (d : GenerationBudgetReservationDocument) : Nat :=
  if d.overage then 0 else d.committed

/-- A reservation that is overspent says so. -/
def GenerationBudgetReservationDocument.IsSound (d : GenerationBudgetReservationDocument) : Prop :=
  d.overage = false → d.spentValue ≤ d.reservedValue

/-- **A change of a reservation**: it keeps what the reservation is for, and what counts does not grow. -/
structure Charges (d d' : GenerationBudgetReservationDocument) : Prop where
  id : d'.id = d.id
  jobId : d'.jobId = d.jobId
  campaignId : d'.campaignId = d.campaignId
  purpose : d'.purpose = d.purpose
  idempotencyKey : d'.idempotencyKey = d.idempotencyKey
  turnScopeKey : d'.turnScopeKey = d.turnScopeKey
  dimension : d'.dimension = d.dimension
  requestFingerprint : d'.requestFingerprint = d.requestFingerprint
  policyFingerprint : d'.policyFingerprint = d.policyFingerprint
  configFingerprint : d'.configFingerprint = d.configFingerprint
  governanceFingerprint : d'.governanceFingerprint = d.governanceFingerprint
  reservedValue : d'.reservedValue = d.reservedValue
  sound : d.IsSound → d'.IsSound
  outstanding : d.IsSound → d'.outstanding ≤ d.outstanding

section Charge

variable {d : GenerationBudgetReservationDocument} {now : DateTime}

theorem Charges.refl (d : GenerationBudgetReservationDocument) : Charges d d :=
  ⟨rfl, rfl, rfl, rfl, rfl, rfl, rfl, rfl, rfl, rfl, rfl, rfl, fun h => h, fun _ => le_rfl⟩

theorem charges_record {terminal : Bool} {spent : Nat} (hopen : d.state = .reserved) :
    Charges d (d.record now terminal (d.overage || d.reservedValue < spent) spent) := by
  have hfits : (d.overage || decide (d.reservedValue < spent)) = false → d.overage = false ∧ spent ≤ d.reservedValue := by
    intro h
    rw [Bool.or_eq_false_iff, decide_eq_false_iff_not] at h
    exact ⟨h.1, not_lt.mp h.2⟩
  -- what counts afterwards is at most what was reserved
  have hcounts : d.overage = false → d.reservedValue ≤ d.outstanding := by
    intro hover
    unfold GenerationBudgetReservationDocument.outstanding GenerationBudgetReservationDocument.committed
    rw [hover, hopen, if_neg Bool.false_ne_true]
    exact le_max_left _ _
  unfold GenerationBudgetReservationDocument.record GenerationBudgetReservationDocument.settle
  cases terminal with
  | false =>
    refine ⟨rfl, rfl, rfl, rfl, rfl, rfl, rfl, rfl, rfl, rfl, rfl, rfl, fun _ h => (hfits h).2, fun _ => ?_⟩
    show (if (d.overage || decide (d.reservedValue < spent)) = true then 0 else _) ≤ _
    split
    · exact Nat.zero_le _
    · next hover =>
      obtain ⟨hover, hspent⟩ := hfits (Bool.not_eq_true _ ▸ hover)
      refine le_trans (le_of_eq ?_) ((max_eq_left hspent).trans_le (hcounts hover))
      simp only [GenerationBudgetReservationDocument.committed, Bool.false_eq_true, if_false, hopen]
  | true =>
    refine ⟨rfl, rfl, rfl, rfl, rfl, rfl, rfl, rfl, rfl, rfl, rfl, rfl, fun _ h => (hfits h).2, fun _ => ?_⟩
    show (if (d.overage || decide (d.reservedValue < spent)) = true then 0 else spent) ≤ _
    split
    · exact Nat.zero_le _
    · next hover =>
      obtain ⟨hover, hspent⟩ := hfits (Bool.not_eq_true _ ▸ hover)
      exact hspent.trans (hcounts hover)

theorem charges_settleUnknown (hopen : d.state = .reserved) :
    Charges d (d.settleUnknown d now) := by
  refine ⟨rfl, rfl, rfl, rfl, rfl, rfl, rfl, rfl, rfl, rfl, rfl, rfl, fun h hover => ?_, fun h => ?_⟩
  · exact max_le (h hover) le_rfl
  · unfold GenerationBudgetReservationDocument.outstanding GenerationBudgetReservationDocument.committed
    show (if d.overage = true then 0 else max d.spentValue d.reservedValue) ≤ _
    rw [hopen, max_comm]

theorem charges_release : Charges d { d.settle now with state := .released, updatedAt := now } := by
  refine ⟨rfl, rfl, rfl, rfl, rfl, rfl, rfl, rfl, rfl, rfl, rfl, rfl, fun h hover => h hover, fun _ => ?_⟩
  show (if d.overage = true then 0 else 0) ≤ _
  rw [ite_self]
  exact Nat.zero_le _

theorem charges_recordOf {terminal : Bool} {increment : GenerationBudgetDimension → Option Nat}
    (hopen : d.state = .reserved) : Charges d (recordOf now terminal increment d d) := by
  unfold recordOf
  split
  · exact charges_record hopen
  · exact .refl d

end Charge

/-- The reservations of a store have been changed, each by itself. -/
def GenerationStore.IsChargedTo (s t : GenerationStore) : Prop :=
  ∃ f, t.reservations = s.reservations.map f ∧ ∀ d ∈ s.reservations, Charges d (f d)

section Charged

variable {now : DateTime} {s t u : GenerationStore} {job : GenerationJobDocument}

theorem GenerationStore.IsChargedTo.of_eq (h : t.reservations = s.reservations) : s.IsChargedTo t :=
  ⟨id, h.trans (List.map_id _).symm, fun d _ => .refl d⟩

theorem GenerationStore.IsChargedTo.congr (h : s.IsChargedTo t) (hu : u.reservations = t.reservations) : s.IsChargedTo u := by
  obtain ⟨f, ht, hf⟩ := h
  exact ⟨f, hu.trans ht, hf⟩

theorem isChargedTo_updateAll {g : GenerationBudgetReservationDocument → GenerationBudgetReservationDocument →
    GenerationBudgetReservationDocument} {L : List GenerationBudgetReservationDocument}
    {p : GenerationBudgetReservationDocument → Bool} (hid : ∀ d x, (g d x).id = x.id)
    (hg : ∀ d, d.state = .reserved → Charges d (g d d)) (h : (s.reservations.map (·.id)).Nodup)
    (hL : L.Sublist (s.loadReservations p)) : s.IsChargedTo (updateAll g L s) := by
  rw [updateAll_eq hid ((loadReservations_nodup h).sublist (hL.map _)) (eq_of_mem_load h fun d hd => hL.subset hd)]
  refine ⟨_, rfl, fun d _ => ?_⟩
  split
  · next hopen => exact hg d hopen.2
  · exact .refl d

theorem recordOf_id {terminal : Bool} {increment : GenerationBudgetDimension → Option Nat}
    (d x : GenerationBudgetReservationDocument) : (recordOf now terminal increment d x).id = x.id := by
  unfold recordOf
  split
  · cases terminal <;> rfl
  · rfl

theorem isChargedTo_record {jobId : String} {usage : GenerationUsage} {terminal : Bool}
    (h : (s.reservations.map (·.id)).Nodup) :
    s.IsChargedTo (recordGenerationAttemptUsage now jobId usage terminal s).2 := by
  unfold recordGenerationAttemptUsage
  split
  · exact .of_eq rfl
  · next first rest hload =>
    split
    · exact .of_eq rfl
    · rw [recordDimensions_snd]
      refine isChargedTo_updateAll (p := fun d => d.jobId = jobId) recordOf_id (fun d hopen => charges_recordOf hopen) h ?_
      rw [hload]
      exact List.takeWhile_sublist _

theorem isChargedTo_settleUnknown {jobId : String} (h : (s.reservations.map (·.id)).Nodup) :
    s.IsChargedTo (settleUnknownGenerationUsage now jobId s) :=
  isChargedTo_updateAll (g := fun d x => x.settleUnknown d now) (fun _ _ => rfl) (fun _ hopen => charges_settleUnknown hopen) h (List.Sublist.refl _)

theorem isChargedTo_release {jobId : String} : s.IsChargedTo (releaseGenerationBudget now jobId s) := by
  refine ⟨_, rfl, fun d _ => ?_⟩
  split
  · exact charges_release
  · exact .refl d

/-- The store has the reservations and the receipts of the other one. -/
def GenerationStore.HasBooksOf (t s : GenerationStore) : Prop :=
  t.reservations = s.reservations ∧ t.receipts = s.receipts

/-- **What a call does to the books**, unless it admits a job: reservations are charged, and receipts stay. -/
structure BooksAfter (s t : GenerationStore) : Prop where
  reservations : s.IsChargedTo t
  receipts : t.receipts = s.receipts

theorem BooksAfter.of_hasBooksOf (h : t.HasBooksOf s) : BooksAfter s t := ⟨.of_eq h.1, h.2⟩

theorem BooksAfter.congr (h : BooksAfter s t) (hu : u.HasBooksOf t) : BooksAfter s u :=
  ⟨h.reservations.congr hu.1, hu.2.trans h.receipts⟩

theorem booksAfter_record {jobId : String} {usage : GenerationUsage} {terminal : Bool}
    (h : (s.reservations.map (·.id)).Nodup) (ht : t.HasBooksOf s) :
    BooksAfter s (recordGenerationAttemptUsage now jobId usage terminal t).2 := by
  obtain ⟨f, hf, hcharges⟩ := @isChargedTo_record now _ jobId usage terminal
    (ht.1 ▸ h)
  refine ⟨⟨f, by rw [hf, ht.1], by rw [← ht.1]; exact hcharges⟩, ?_⟩
  obtain ⟨ds, h⟩ := @recordGenerationAttemptUsage_frame now t jobId usage terminal
  rw [h]
  exact ht.2

end Charged

/-! ## Calls on a job -/

section Calls

variable {now : DateTime} {digests : Digests} {s t u : GenerationStore} {job : GenerationJobDocument}

theorem withTransaction_books {α : Type} {body : GenerationStore → Closure α}
    (h : ∀ a u, body s = .ok (a, u) → BooksAfter s u) : BooksAfter s (withTransaction body s).2 := by
  unfold withTransaction
  split
  · exact .of_hasBooksOf ⟨rfl, rfl⟩
  · next committed hbody => exact h _ _ hbody

variable {a : Except GenerationJobStoreError (Option ClaimedGenerationJob)} {claim : GenerationClaim}
  {attemptId token : String}

theorem terminalizeClosure_books
    (hs : (s.reservations.map (·.id)).Nodup) (ht : t.HasBooksOf s) (h : terminalizeClosure now job t = .ok (a, u)) :
    BooksAfter s u := by
  unfold terminalizeClosure at h
  dsimp only at h
  split at h
  · cases h
  next retired hretired =>
  obtain ⟨assets, rfl⟩ := retirePendingArtifact_frame hretired
  have hbooks := @booksAfter_record now s (GenerationStore.replaceJob { t with assets } (job.terminalizeExpired now))
    job.id .default true hs ht
  split at h
  all_goals
    next hrecord =>
    cases h
    rw [hrecord] at hbooks
    exact hbooks

theorem leaseClosure_books (hs : (s.reservations.map (·.id)).Nodup) (ht : t.HasBooksOf s)
    (h : leaseClosure now digests claim attemptId token job t = .ok (a, u)) : BooksAfter s u := by
  unfold leaseClosure at h
  split at h
  · cases h
    exact .of_hasBooksOf ht
  dsimp only at h
  split at h
  · have hbooks := @booksAfter_record now s
      (t.replaceJob (job.lease claim now attemptId (digests.leaseToken token))) job.id .default false hs ht
    split at h
    all_goals
      next hrecord =>
      cases h
      rw [hrecord] at hbooks
      exact hbooks
  · cases h
    exact .of_hasBooksOf ht

theorem takeClosure_books (hs : (s.reservations.map (·.id)).Nodup) (ht : t.HasBooksOf s)
    (h : takeClosure now digests claim attemptId token job t = .ok (a, u)) : BooksAfter s u := by
  unfold takeClosure at h
  split at h
  · split at h
    · cases h
      exact .of_hasBooksOf ht
    · split at h
      · exact terminalizeClosure_books hs ht h
      · exact leaseClosure_books hs ht h
  · exact leaseClosure_books hs ht h

theorem scanCandidates_books {candidates : List GenerationJobDocument} (hs : (s.reservations.map (·.id)).Nodup)
    (ht : t.HasBooksOf s) (h : scanCandidates now digests claim attemptId token candidates t = .ok (a, u)) :
    BooksAfter s u := by
  induction candidates generalizing t with
  | nil =>
    cases h
    exact .of_hasBooksOf ht
  | cons job rest ih =>
    unfold scanCandidates at h
    split at h
    · have htouched : (t.touchClaim job.campaignId).HasBooksOf s := ht
      dsimp only at h
      split at h
      · cases h
        exact .of_hasBooksOf htouched
      · split at h
        · exact ih htouched h
        · exact takeClosure_books hs htouched h
    · cases h
      exact .of_hasBooksOf ht

theorem completeLeasedJobInTransaction_books {lease : GenerationLease} {e : AttemptEnd}
    {a : Except GenerationJobStoreError (GenerationJobDocument × GenerationAttemptFinishOutcome)}
    (hs : (s.reservations.map (·.id)).Nodup)
    (h : completeLeasedJobInTransaction now digests lease e s = .ok (a, u)) : BooksAfter s u := by
  unfold completeLeasedJobInTransaction at h
  split at h
  · cases h
    exact .of_hasBooksOf ⟨rfl, rfl⟩
  next job hfind =>
  split at h
  · cases h
    exact .of_hasBooksOf ⟨rfl, rfl⟩
  dsimp only at h
  split at h
  · cases h
  next retired hretired =>
  have hbooks : retired.HasBooksOf s := by
    split at hretired
    · obtain ⟨assets, rfl⟩ := retirePendingArtifact_frame hretired
      exact ⟨rfl, rfl⟩
    · cases hretired
      exact ⟨rfl, rfl⟩
  have hrecorded := @booksAfter_record now s retired job.id e.usage (job.complete now lease.attemptId e).2.1 hs hbooks
  split at h
  · next hrecord =>
    cases h
    rw [hrecord] at hrecorded
    exact hrecorded
  · next t hrecord =>
    rw [hrecord] at hrecorded
    split at h
    · cases h
    next published hpublished =>
    cases h
    obtain ⟨assets, rfl⟩ := publishArtifact_frame hpublished
    exact hrecorded.congr ⟨rfl, rfl⟩

theorem cancelOpen_books {a : Except GenerationJobStoreError GenerationJobDocument} (ht : BooksAfter s t)
    (h : cancelOpen now job t = .ok (a, u)) : BooksAfter s u := by
  unfold cancelOpen at h
  dsimp only at h
  split at h
  · cases h
  · next retired hretired =>
    cases h
    obtain ⟨assets, rfl⟩ := retirePendingArtifact_frame hretired
    exact ht.congr ⟨rfl, rfl⟩

theorem cancelClosure_books {campaignId jobId : String} {a : Except GenerationJobStoreError GenerationJobDocument}
    (hs : (s.reservations.map (·.id)).Nodup) (h : cancelClosure now campaignId jobId s = .ok (a, u)) :
    BooksAfter s u := by
  have hsame : BooksAfter s s := .of_hasBooksOf ⟨rfl, rfl⟩
  unfold cancelClosure at h
  split at h
  · cases h
    exact hsame
  next job hfind =>
  split at h
  · cases h
    exact hsame
  · cases h
    exact hsame
  · cases h
    exact hsame
  · exact cancelOpen_books ⟨isChargedTo_release, rfl⟩ h
  · split at h
    · cases h
      exact hsame
    · obtain ⟨ds, hsettled⟩ := @settleUnknownGenerationUsage_frame now s job.id
      exact cancelOpen_books ⟨isChargedTo_settleUnknown hs, by rw [hsettled]⟩ h

/-- **What a call does to the books**, where it is no enqueueing. -/
theorem Operation.run_books {op : Operation} (hs : (s.reservations.map (·.id)).Nodup)
    (hop : ∀ requested, op ≠ .enqueue requested) : BooksAfter s (op.run now digests s).2 := by
  have hsame : BooksAfter s s := .of_hasBooksOf ⟨rfl, rfl⟩
  cases op with
  | enqueue requested => exact absurd rfl (hop requested)
  | claim request filter attemptId token =>
    show BooksAfter s (claimGenerationJob now digests request filter attemptId token s).2
    unfold claimGenerationJob
    split
    · exact hsame
    · exact withTransaction_books fun a u h => scanCandidates_books hs ⟨rfl, rfl⟩ h
  | heartbeat lease duration =>
    show BooksAfter s (heartbeatGenerationJob now digests lease duration s).2
    unfold heartbeatGenerationJob
    split
    · exact hsame
    · split
      · exact hsame
      · exact .of_hasBooksOf ⟨rfl, rfl⟩
  | succeed lease success =>
    show BooksAfter s (succeedGenerationJob now digests lease success s).2
    unfold succeedGenerationJob
    split
    · exact hsame
    · exact withTransaction_books fun a u h => completeLeasedJobInTransaction_books hs h
  | fail lease failure =>
    show BooksAfter s (failGenerationAttempt now digests lease failure s).2
    unfold failGenerationAttempt
    split
    · exact hsame
    · exact withTransaction_books fun a u h => completeLeasedJobInTransaction_books hs h
  | cancel campaignId jobId =>
    show BooksAfter s (cancelGenerationJob now campaignId jobId s).2
    unfold cancelGenerationJob
    split
    · exact hsame
    · exact withTransaction_books fun a u h => cancelClosure_books hs h

end Calls

/-! ## Enqueueing -/

/-- The reservations of a new job. -/
def NewGenerationJob.reservations (requested : NewGenerationJob) (now : DateTime) :
    List GenerationBudgetReservationDocument :=
  match requested.governance with
  | some g => budgetDimensions.map (requested.reservation g now)
  | none => []

/-- **A job is admitted**: it was not there, its budget has room, and its documents are added. -/
structure Admission (now : DateTime) (digests : Digests) (requested : NewGenerationJob) (s t : GenerationStore) :
    Prop where
  valid : validateNewJob requested = .ok ()
  governance : validateGovernance digests requested.governance = .ok ()
  noJob : ∀ job ∈ s.jobs, job.isOf requested = false
  noReceipt : ∀ r ∈ s.receipts, r.isOf requested = false
  budget : checkBudget s requested = .ok ()
  jobs : t.jobs = s.jobs ++ [requested.document now digests]
  reservations : t.reservations = s.reservations ++ requested.reservations now
  fresh : ∀ d ∈ requested.reservations now, ∀ x ∈ s.reservations, x.id ≠ d.id ∧ ¬ (x.jobId = d.jobId ∧ x.dimension = d.dimension)
  receipts : t.receipts = s.receipts ++ [requested.receipt now digests]
  freshReceipt : ∀ r ∈ s.receipts, r.resultJobId ≠ requested.id

/-- **An enqueueing admits a job, or leaves the documents as they are.** -/
inductive EnqueueCases (now : DateTime) (digests : Digests) (requested : NewGenerationJob) (s : GenerationStore) :
    Except GenerationJobStoreError EnqueueGenerationJobOutcome × GenerationStore → Prop where
  | admitted (t : GenerationStore) : Admission now digests requested s t →
      EnqueueCases now digests requested s (.ok (.enqueued (requested.document now digests)), t)
  | refused (a : Except GenerationJobStoreError EnqueueGenerationJobOutcome) (t : GenerationStore) :
      (∀ job, a ≠ .ok (.enqueued job)) → t.jobs = s.jobs → t.HasBooksOf s → EnqueueCases now digests requested s (a, t)

section Enqueue

variable {now : DateTime} {digests : Digests} {requested : NewGenerationJob} {s t : GenerationStore}

theorem insertReservations_eq_ok (h : insertReservations now requested s = .ok t) :
    t = { s with reservations := s.reservations ++ requested.reservations now } ∧
      ∀ d ∈ requested.reservations now, ∀ x ∈ s.reservations,
        x.id ≠ d.id ∧ ¬ (x.jobId = d.jobId ∧ x.dimension = d.dimension) := by
  unfold insertReservations at h
  unfold NewGenerationJob.reservations
  cases hg : requested.governance with
  | some g =>
    rw [hg] at h
    dsimp only at h
    unfold insertGenerationGovernanceReceipt at h
    obtain ⟨-, h⟩ := seq_eq_ok.mp h
    obtain ⟨hfresh, h⟩ := seq_eq_ok.mp h
    cases h
    refine ⟨rfl, fun d hd x hx => ⟨fun hid => ?_, fun hsame => ?_⟩⟩
    · exact rejectIf_eq_ok.mp hfresh ⟨d, hd, x, hx, .inl hid⟩
    · exact rejectIf_eq_ok.mp hfresh ⟨d, hd, x, hx, .inr hsame⟩
  | none =>
    rw [hg] at h
    cases h
    refine ⟨?_, fun d hd => ?_⟩
    · show _ = { s with reservations := s.reservations ++ [] }
      rw [List.append_nil]
    · cases hd

theorem replayGenerationJob_ne {job : GenerationJobDocument}
    {a : Except GenerationJobStoreError EnqueueGenerationJobOutcome}
    (h : replayGenerationJob job requested s = .ok a) : ∀ job', a ≠ .ok (.enqueued job') := by
  rintro job' rfl
  unfold replayGenerationJob at h
  split at h
  · cases h
  · obtain ⟨governance, -, h⟩ := bind_eq_ok.mp h
    have hanswer := Except.ok.inj h
    obtain ⟨-, hanswer⟩ := seq_eq_ok.mp hanswer
    cases hanswer

theorem enqueueGenerationJob_cases (now : DateTime) (digests : Digests) (requested : NewGenerationJob)
    (s : GenerationStore) : EnqueueCases now digests requested s (enqueueGenerationJob now digests requested s) := by
  unfold enqueueGenerationJob
  split
  · exact .refused _ _ (fun _ h => by cases h) rfl ⟨rfl, rfl⟩
  next hvalid =>
  obtain ⟨hvalid, hgovernance⟩ := seq_eq_ok.mp hvalid
  unfold withTransaction
  split
  · exact .refused _ _ (fun _ h => by cases h) rfl ⟨rfl, rfl⟩
  next committed h =>
  unfold enqueueClosure at h
  split at h
  · split at h
    · cases h
    · next answer hreplay =>
      cases h
      exact .refused _ _ (replayGenerationJob_ne hreplay) rfl ⟨rfl, rfl⟩
  next hnoJob =>
  split at h
  · split at h
    all_goals
      cases h
      exact .refused _ _ (fun _ h => by cases h) rfl ⟨rfl, rfl⟩
  next hnoReceipt =>
  split at h
  · cases h
    exact .refused _ _ (fun _ h => by cases h) rfl ⟨rfl, rfl⟩
  next campaign hcampaign =>
  dsimp only at h
  split at h
  · cases h
    exact .refused _ _ (fun _ h => by cases h) rfl ⟨rfl, rfl⟩
  next hadmit =>
  split at h
  · cases h
  next t hinsert =>
  cases h
  have hloaded := (@document_isNew now digests requested hvalid).loaded
  rw [hloaded]
  refine .admitted t ?_
  unfold admitGenerationJob at hadmit
  obtain ⟨-, hadmit⟩ := seq_eq_ok.mp hadmit
  obtain ⟨-, hadmit⟩ := seq_eq_ok.mp hadmit
  obtain ⟨hbudget, -⟩ := seq_eq_ok.mp hadmit
  unfold insertGenerationJob at hinsert
  obtain ⟨-, hinsert⟩ := seq_eq_ok.mp hinsert
  obtain ⟨u, hreservations, hinsert⟩ := bind_eq_ok.mp hinsert
  obtain ⟨hfreshReceipt, hinsert⟩ := seq_eq_ok.mp hinsert
  obtain ⟨rfl, hfresh⟩ := insertReservations_eq_ok hreservations
  cases hinsert
  refine ⟨hvalid, hgovernance, ?_, ?_, hbudget, rfl, rfl, hfresh, rfl, ?_⟩
  · exact fun job hjob => Bool.not_eq_true _ ▸ List.find?_eq_none.mp hnoJob job hjob
  · exact fun r hr => Bool.not_eq_true _ ▸ List.find?_eq_none.mp hnoReceipt r hr
  · exact fun r hr heq => rejectIf_eq_ok.mp hfreshReceipt ⟨r, hr, heq⟩

theorem reservation_id_injective {g : NewGenerationGovernanceReceipt} {a b : GenerationBudgetDimension}
    (h : (requested.reservation g now a).id = (requested.reservation g now b).id) : a = b := by
  have hstr := (String.append_right_inj _).mp h
  cases a <;> cases b <;> first | rfl | (exact absurd hstr (by decide))

/-- The ids of the reservations stay unique. -/
theorem Admission.unique (h : Admission now digests requested s t) (hs : (s.reservations.map (·.id)).Nodup) :
    (t.reservations.map (·.id)).Nodup := by
  rw [h.reservations, List.map_append, List.nodup_append]
  refine ⟨hs, ?_, ?_⟩
  · unfold NewGenerationJob.reservations
    split
    · rw [List.map_map]
      exact (by decide : budgetDimensions.Nodup).map fun a b hab => reservation_id_injective hab
    · exact List.nodup_nil
  · rintro a ha b hb rfl
    obtain ⟨x, hx, hxa⟩ := List.mem_map.mp ha
    obtain ⟨d, hd, hda⟩ := List.mem_map.mp hb
    exact (h.fresh d hd x hx).1 (hxa.trans hda.symm)

theorem GenerationStore.IsChargedTo.unique (h : s.IsChargedTo t) (hs : (s.reservations.map (·.id)).Nodup) :
    (t.reservations.map (·.id)).Nodup := by
  obtain ⟨f, ht, hf⟩ := h
  rw [ht, List.map_map]
  refine (congrArg List.Nodup (List.map_congr_left fun d hd => ?_)).mpr hs
  exact (hf d hd).id

end Enqueue

end ManchesterArcana.Generation
