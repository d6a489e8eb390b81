import ManchesterArcana.Generation.Enqueue

/-!
# `Generation.Atomicity` — what a failed call leaves behind

An error that a transaction returns as a value commits what was written before it. Nearly every check of a call comes
before its first write; the one that does not is the recording of what an attempt has spent, which goes over the
reservations one by one, after the job and its artifact have been written.

`calls_are_whole_iff` says exactly when a failed call leaves the documents as they were.
-/

namespace ManchesterArcana.Generation

open Effect Store

/-! ## Documents -/

/-- The jobs, the assets and the reservations are as before. -/
structure GenerationStore.SameDocuments (t s : GenerationStore) : Prop where
  jobs : t.jobs = s.jobs
  assets : t.assets = s.assets
  reservations : t.reservations = s.reservations

theorem GenerationStore.SameDocuments.refl (s : GenerationStore) : s.SameDocuments s := ⟨rfl, rfl, rfl⟩

section Updates

variable {α : Type} {f : α → α} {p : α → Bool} {xs : List α}

theorem map_eq_self_iff {g : α → α} : xs.map g = xs ↔ ∀ x ∈ xs, g x = x := by
  constructor
  · intro h x hx
    have hmap : xs.map g = xs.map id := by rw [h, List.map_id]
    exact List.map_inj_left.mp hmap x hx
  · intro h
    exact (List.map_congr_left h).trans (List.map_id xs)

/-- An update changes nothing exactly when it leaves what it finds as it is. -/
theorem updateWhere_eq_self_iff : updateWhere p f xs = xs ↔ ∀ x ∈ xs, p x = true → f x = x := by
  unfold updateWhere
  rw [map_eq_self_iff]
  refine forall₂_congr fun x hx => ?_
  by_cases hp : p x = true
  · rw [if_pos hp]
    exact ⟨fun h _ => h, fun h => h hp⟩
  · rw [if_neg hp]
    exact ⟨fun _ h => absurd h hp, fun _ => rfl⟩

end Updates

/-! ## Recording -/

def GenerationStore.reservationsOf (s : GenerationStore) (jobId : String) : List GenerationBudgetReservationDocument :=
  s.loadReservations fun d => d.jobId = jobId

/-- **There is room for what the attempt has spent**: every reservation of the job is open, and what is spent then is a
number that a document holds. -/
def GenerationStore.HasRoom (s : GenerationStore) (jobId : String) (usage : GenerationUsage) : Prop :=
  match s.reservationsOf jobId with
  | [] => True
  | first :: rest => ∀ d ∈ first :: rest, d.state = .reserved ∧ d.isChargeable (attemptIncrement first usage) = true

/-- **What is written before there is no room is what stands there already**, or a reservation is settled, so that nothing
is written. -/
def GenerationStore.RecordsNothing (s : GenerationStore) (now : DateTime) (jobId : String) (usage : GenerationUsage)
    (terminal : Bool) : Prop :=
  match s.reservationsOf jobId with
  | [] => True
  | first :: rest => (∃ d ∈ first :: rest, d.state ≠ .reserved) ∨
      ∀ d ∈ (first :: rest).takeWhile (·.isChargeable (attemptIncrement first usage)),
        recordOf now terminal (attemptIncrement first usage) d d = d

section Recording

variable {now : DateTime} {s : GenerationStore} {jobId : String} {usage : GenerationUsage} {terminal : Bool}

theorem recordGenerationAttemptUsage_assets :
    (recordGenerationAttemptUsage now jobId usage terminal s).2.assets = s.assets := by
  obtain ⟨ds, h⟩ := @recordGenerationAttemptUsage_frame now s jobId usage terminal
  rw [h]

theorem recordGenerationAttemptUsage_eq_ok :
    (recordGenerationAttemptUsage now jobId usage terminal s).1 = .ok () ↔ s.HasRoom jobId usage := by
  unfold recordGenerationAttemptUsage GenerationStore.HasRoom GenerationStore.reservationsOf
  generalize (s.loadReservations fun d => d.jobId = jobId) = loaded
  cases loaded with
  | nil => exact iff_of_true rfl trivial
  | cons first rest =>
    dsimp only
    split
    · next hclosed =>
      obtain ⟨d, hd, hstate⟩ := hclosed
      exact iff_of_false nofun fun h => hstate (h d hd).1
    · next hopen =>
      rw [recordDimensions_fst]
      refine forall₂_congr fun d hd => (and_iff_right ?_).symm
      by_contra hstate
      exact hopen ⟨d, hd, hstate⟩

/-- **When the recording leaves the reservations as they are.** -/
theorem recordGenerationAttemptUsage_same (hunique : (s.reservations.map (·.id)).Nodup) :
    (recordGenerationAttemptUsage now jobId usage terminal s).2.reservations = s.reservations ↔
      s.RecordsNothing now jobId usage terminal := by
  unfold recordGenerationAttemptUsage GenerationStore.RecordsNothing GenerationStore.reservationsOf
  generalize hload : (s.loadReservations fun d => d.jobId = jobId) = loaded
  cases loaded with
  | nil => exact iff_of_true rfl trivial
  | cons first rest =>
    dsimp only
    split
    · next hclosed => exact iff_of_true rfl (.inl hclosed)
    · next hopen =>
      generalize attemptIncrement first usage = increment
      have hmem : ∀ d ∈ (first :: rest).takeWhile (·.isChargeable increment), d ∈ s.loadReservations fun d => d.jobId = jobId := by
        intro d hd
        rw [hload]
        exact (List.takeWhile_subset _) hd
      have hnodup : (((first :: rest).takeWhile (·.isChargeable increment)).map (·.id)).Nodup := by
        refine List.Nodup.sublist ((List.takeWhile_sublist _).map _) ?_
        rw [← hload]
        exact loadReservations_nodup hunique
      rw [recordDimensions_snd, updateAll_eq recordOf_id hnodup (eq_of_mem_load hunique hmem), or_iff_right hopen]
      show s.reservations.map _ = s.reservations ↔ _
      rw [map_eq_self_iff]
      constructor
      · intro h d hd
        have hstored := (mem_loadReservations.mp (hmem d hd)).1
        have hstate : d.state = .reserved := by
          by_contra hstate
          exact hopen ⟨d, List.takeWhile_subset _ hd, hstate⟩
        have hsame := h d hstored
        rw [if_pos ⟨hd, hstate⟩] at hsame
        exact hsame
      · intro h x hx
        by_cases hx' : x ∈ (first :: rest).takeWhile (·.isChargeable increment) ∧ x.state = .reserved
        · rw [if_pos hx']
          exact h x hx'.1
        · exact if_neg hx'

end Recording

/-! ## What a call checks, and what it cannot undo -/

/-- The artifact that the job waits for is no longer staged, so that a transaction that retires it is aborted. -/
def GenerationStore.LacksArtifact (s : GenerationStore) (job : GenerationJobDocument) : Prop :=
  ∃ artifactId ∈ job.pendingArtifactId, s.assets.any (·.isStagedFor artifactId job) = false

/-- The attempt is the last one of its job. -/
def GenerationJobDocument.isFinal (job : GenerationJobDocument) (e : AttemptEnd) : Bool :=
  e.failure.all fun failure => (job.retryAfter e failure.code).isNone

/-- The candidate can be claimed, or passed over: its campaign is there, and allows a job at a time. -/
def GenerationStore.isClaimable (s : GenerationStore) (job : GenerationJobDocument) : Bool :=
  s.campaigns.any (·.id = job.campaignId) && job.campaignConcurrencyLimit ≠ 0

/-- **The candidate that is not passed over.** -/
def GenerationStore.chosen (s : GenerationStore) (now : DateTime) (filter : ClaimFilter) : Option GenerationJobDocument :=
  (s.claimCandidates now filter).find? fun job => !(s.isClaimable job && s.isFullFor job now)

/-- The call's own values are valid. -/
def validClaim (claim : GenerationClaim) (filter : ClaimFilter) : Except GenerationJobStoreError Unit := do
  validateOptionalIdentifier (filter.exactJob.map Prod.fst) "campaign id is invalid"
  validateOptionalIdentifier (filter.exactJob.map Prod.snd) "job id is invalid"
  validateClaim claim

def validSuccess (lease : GenerationLease) (success : GenerationSuccess) : Except GenerationJobStoreError Unit := do
  validateLease lease
  validateOptionalIdentifier success.artifactId "artifact id is invalid"
  validateUsage success.usage

def validFailure (lease : GenerationLease) (failure : GenerationAttemptFailure) : Except GenerationJobStoreError Unit := do
  validateLease lease
  validateFailure failure

/-- A claim of an expired job must have room for what the lost attempt is charged, unless the job has no attempt left and
its artifact is missing. -/
def GenerationStore.ClaimIsWhole (s : GenerationStore) (now : DateTime) (claim : GenerationClaim) (filter : ClaimFilter) :
    Prop :=
  validClaim claim filter = .ok () → ∀ job ∈ s.chosen now filter, s.isClaimable job = true → job.state = .running →
    s.HasRoom job.id .default ∨ (job.maxAttempts ≤ job.attemptCount ∧ s.LacksArtifact job)

/-- **The end of an attempt must have room for what it has spent**; or its artifact is missing; or no artifact is retired,
and nothing that is recorded first changes anything. -/
def GenerationStore.CompletionIsWhole (s : GenerationStore) (now : DateTime) (digests : Digests) (lease : GenerationLease)
    (e : AttemptEnd) : Prop :=
  ∀ job ∈ s.jobs.find? (·.isLeasedTo digests lease now), checkCompletion digests lease e job s = .ok () →
    s.HasRoom job.id e.usage ∨ (e.failure ≠ none ∧ job.isFinal e = true ∧ s.LacksArtifact job) ∨
      (¬ (e.failure ≠ none ∧ job.isFinal e = true ∧ job.pendingArtifactId ≠ none) ∧
        s.RecordsNothing now job.id e.usage (job.isFinal e))

/-- **When a call is whole**, whatever it answers. -/
def Operation.IsWhole (now : DateTime) (digests : Digests) (s : GenerationStore) : Operation → Prop
  | .claim request filter _ _ => s.ClaimIsWhole now request filter
  | .succeed lease success => validSuccess lease success = .ok () →
      s.CompletionIsWhole now digests lease success.attemptEnd
  | .fail lease failure => validFailure lease failure = .ok () →
      s.CompletionIsWhole now digests lease failure.attemptEnd
  | _ => True

/-- A failed call leaves the documents as they were. -/
def IsAllOrNothing {α : Type} (s : GenerationStore) (r : Except GenerationJobStoreError α × GenerationStore) : Prop :=
  (∃ e, r.1 = .error e) → r.2.SameDocuments s

section Wholes

variable {α : Type} {now : DateTime} {digests : Digests} {s t : GenerationStore} {job : GenerationJobDocument}

variable {a : Except GenerationJobStoreError α}

/-- A call that is refused before it writes is whole. -/
theorem isWhole_refused : IsAllOrNothing s (a, s) := fun _ => .refl s

theorem isWhole_same (h : t.SameDocuments s) : IsAllOrNothing s (a, t) := fun _ => h

/-- A call that is answered is whole. -/
theorem isWhole_ok {a : α} : IsAllOrNothing s (.ok a, t) := fun ⟨_, h⟩ => nomatch h

theorem not_isWhole {e : GenerationJobStoreError} (h : ¬ t.SameDocuments s) :
    ¬ IsAllOrNothing s ((.error e, t) : Except GenerationJobStoreError α × GenerationStore) := fun hwhole => h (hwhole ⟨e, rfl⟩)

/-- What is answered on top of an answer is whole with it. -/
theorem isWhole_map {β : Type} {f : α → Except GenerationJobStoreError β}
    (hf : ∀ x, a = .ok x → ∃ y, f x = .ok y) : IsAllOrNothing s (a >>= f, t) ↔ IsAllOrNothing s (a, t) := by
  unfold IsAllOrNothing
  refine imp_congr_left ?_
  cases a with
  | error e => exact iff_of_true ⟨e, rfl⟩ ⟨e, rfl⟩
  | ok x =>
    obtain ⟨y, hy⟩ := hf x rfl
    refine iff_of_false ?_ nofun
    rintro ⟨e, he⟩
    have he : f x = .error e := he
    rw [hy] at he
    cases he

/-! ## Retiring an artifact -/

/-- **Retiring an artifact** does nothing where the job waits for none; it aborts where the artifact is missing, and
changes it otherwise. -/
theorem retirePendingArtifact_cases (job : GenerationJobDocument) (purgeAt : DateTime) (s : GenerationStore) :
    (job.pendingArtifactId = none ∧ retirePendingArtifact now job purgeAt s = .ok s) ∨
      (s.LacksArtifact job ∧ ∃ e, retirePendingArtifact now job purgeAt s = .error e) ∨
      (job.pendingArtifactId ≠ none ∧ ¬ s.LacksArtifact job ∧ ∃ t, retirePendingArtifact now job purgeAt s = .ok t ∧
        t.jobs = s.jobs ∧ t.reservations = s.reservations ∧ t.assets ≠ s.assets) := by
  unfold retirePendingArtifact GenerationStore.LacksArtifact
  cases hpending : job.pendingArtifactId with
  | none => exact .inl ⟨rfl, rfl⟩
  | some artifactId =>
    dsimp only
    cases hstaged : s.assets.any (·.isStagedFor artifactId job) with
    | false => exact .inr (.inl ⟨⟨artifactId, rfl, hstaged⟩, _, rfl⟩)
    | true =>
      refine .inr (.inr ⟨nofun, ?_, _, rfl, rfl, rfl, fun hsame => ?_⟩)
      · rintro ⟨x, hx, hnot⟩
        cases hx
        rw [hstaged] at hnot
        cases hnot
      · obtain ⟨a, ha, hfound⟩ := List.any_eq_true.mp hstaged
        have hleft := congrArg GeneratedAssetDocument.state (updateWhere_eq_self_iff.mp hsame a ha hfound)
        rw [GeneratedAssetDocument.isStagedFor, decide_eq_true_eq] at hfound
        rw [hfound.2.2.2.2] at hleft
        cases hleft

/-- A job that is replaced by another is not as before. -/
theorem replaceJob_ne (hunique : (s.jobs.map (·.id)).Nodup) (hmem : job ∈ s.jobs) {job' : GenerationJobDocument}
    (hid : job'.id = job.id) (hne : job' ≠ job) : (s.replaceJob job').jobs ≠ s.jobs := by
  intro hsame
  have hsame : updateById (·.id) job'.id (fun _ => job') s.jobs = s.jobs := hsame
  have hmem' : job' ∈ s.jobs := by
    rw [← hsame]
    exact mem_updateById.mpr (.inl ⟨job, hmem, hid.symm, rfl⟩)
  exact hne (List.inj_on_of_nodup_map hunique hmem' hmem hid)

end Wholes

/-! ## Claims -/

/-- What a transaction commits: the closure's answer and store, or what there was. -/
def commitOf {α : Type} (s : GenerationStore) (c : Closure α) : Except GenerationJobStoreError α × GenerationStore :=
  match c with
  | .error e => (.error (mapDatabase e), s)
  | .ok committed => committed

theorem withTransaction_eq {α : Type} {body : GenerationStore → Closure α} {s : GenerationStore} :
    withTransaction body s = commitOf s (body s) := rfl

section Claims

variable {now : DateTime} {digests : Digests} {s t s₀ : GenerationStore} {job : GenerationJobDocument}
  {claim : GenerationClaim} {attemptId token : String}

variable {jobId : String} {usage : GenerationUsage}

theorem hasRoom_congr (h : t.reservations = s.reservations) :
    t.HasRoom jobId usage ↔ s.HasRoom jobId usage := by
  unfold GenerationStore.HasRoom GenerationStore.reservationsOf GenerationStore.loadReservations
  rw [h]

theorem recordsNothing_congr {terminal : Bool}
    (h : t.reservations = s.reservations) :
    t.RecordsNothing now jobId usage terminal ↔ s.RecordsNothing now jobId usage terminal := by
  unfold GenerationStore.RecordsNothing GenerationStore.reservationsOf GenerationStore.loadReservations
  rw [h]

theorem lacksArtifact_congr (h : t.assets = s.assets) : t.LacksArtifact job ↔ s.LacksArtifact job := by
  unfold GenerationStore.LacksArtifact
  rw [h]

/-- The last attempt of a running job is checked with success. -/
theorem checkRunningAttempt_of_sound (h : job.IsSound) (hrunning : job.state = .running) {missing mismatch : String} :
    job.checkRunningAttempt missing mismatch = .ok () := by
  obtain ⟨ended, a, hattempts, -, hruns⟩ := h.running hrunning
  unfold GenerationJobDocument.checkRunningAttempt
  rw [hattempts, List.getLast?_concat]
  refine rejectIf_of_not ?_
  rintro (hstate | hdigest)
  · exact hstate hruns.state
  · exact hdigest hruns.leaseTokenDigest

/-- The recording after the job has been replaced: it succeeds, or the job is not as before. -/
theorem isWhole_recorded {α : Type} {u : GenerationStore} (now : DateTime) (job' : GenerationJobDocument)
    (terminal : Bool) (a : α) {c : Closure α} (hs : s₀.IsSound) (hmem : job ∈ s₀.jobs)
    (hu : u.jobs = s₀.jobs) (hreservations : u.reservations = s₀.reservations) (hid : job'.id = job.id) (hne : job' ≠ job)
    (hc : c = match recordGenerationAttemptUsage now job.id .default terminal (u.replaceJob job') with
      | (.error e, t) => .ok (.error e, t)
      | (.ok (), t) => .ok (.ok a, t)) :
    IsAllOrNothing s₀ (commitOf s₀ c) ↔ s₀.HasRoom job.id .default := by
  have hroom := @recordGenerationAttemptUsage_eq_ok now (u.replaceJob job') job.id .default terminal
  have hjobs := @recordGenerationAttemptUsage_jobs now (u.replaceJob job') job.id .default terminal
  rw [hasRoom_congr (show (u.replaceJob job').reservations = s₀.reservations from hreservations)] at hroom
  have hreplaced : (u.replaceJob job').jobs ≠ s₀.jobs := by
    have hreplace : (u.replaceJob job').jobs = (s₀.replaceJob job').jobs := by
      show updateById _ _ _ u.jobs = updateById _ _ _ s₀.jobs
      rw [hu]
    rw [hreplace]
    exact replaceJob_ne hs.unique hmem hid hne
  rw [hc]
  generalize recordGenerationAttemptUsage now job.id .default terminal (u.replaceJob job') = r at hroom hjobs
  obtain ⟨recorded, t⟩ := r
  cases recorded with
  | error e =>
    refine iff_of_false (not_isWhole fun hsame => hreplaced (hjobs.symm.trans hsame.jobs)) fun h => ?_
    cases hroom.mpr h
  | ok x => exact iff_of_true isWhole_ok (hroom.mp rfl)

theorem terminalizeClosure_whole (hs : s₀.IsSound) (hmem : job ∈ s₀.jobs) (hrunning : job.state = .running)
    (hsame : s.SameDocuments s₀) :
    IsAllOrNothing s₀ (commitOf s₀ (terminalizeClosure now job s)) ↔ s₀.HasRoom job.id .default ∨ s₀.LacksArtifact job := by
  have hne : job.terminalizeExpired now ≠ job := by
    intro h
    have h := congrArg GenerationJobDocument.state h
    rw [hrunning] at h
    cases h
  have hretired : ∀ u, retirePendingArtifact now (job.terminalizeExpired now) (addDuration now failedRetention) s = .ok u →
      u.jobs = s.jobs → u.reservations = s.reservations →
      (IsAllOrNothing s₀ (commitOf s₀ (terminalizeClosure now job s)) ↔ s₀.HasRoom job.id .default) := by
    intro u hu hjobs hreservations
    refine isWhole_recorded now (job.terminalizeExpired now) true none hs hmem (hjobs.trans hsame.jobs)
      (hreservations.trans hsame.reservations) rfl hne ?_
    unfold terminalizeClosure
    dsimp only
    rw [hu] <;> rfl
  rcases @retirePendingArtifact_cases now (job.terminalizeExpired now) (addDuration now failedRetention) s with
    ⟨hnone, hu⟩ | ⟨hlacks, e, hu⟩ | ⟨-, hlacks, u, hu, hjobs, hreservations, -⟩
  · refine (hretired s hu rfl rfl).trans (or_iff_left ?_).symm
    rintro ⟨artifactId, hpending, -⟩
    have hnone : job.pendingArtifactId = none := hnone
    rw [hnone] at hpending
    cases hpending
  · have haborted : terminalizeClosure now job s = .error e := by
      unfold terminalizeClosure
      dsimp only
      rw [hu]
    rw [haborted]
    exact iff_of_true isWhole_refused (.inr ((lacksArtifact_congr hsame.assets).mp hlacks))
  · exact (hretired u hu hjobs hreservations).trans
      (or_iff_left fun h => hlacks ((lacksArtifact_congr hsame.assets).mpr h)).symm

theorem leaseClosure_whole (hs : s₀.IsSound) (hmem : job ∈ s₀.jobs) (hready : job.state = .queued ∨ job.state = .running)
    (hcount : job.attemptCount < job.maxAttempts) (hsame : s.SameDocuments s₀) :
    IsAllOrNothing s₀ (commitOf s₀ (leaseClosure now digests claim attemptId token job s)) ↔
      (job.state = .running → s₀.HasRoom job.id .default) := by
  have hsound := @isSound_lease now job claim attemptId (digests.leaseToken token) (hs.sound job hmem) hready hcount
  have hne : job.lease claim now attemptId (digests.leaseToken token) ≠ job := by
    intro h
    have h := congrArg GenerationJobDocument.attemptCount h
    exact absurd h (Nat.succ_ne_self _)
  have hmax : ¬ job.maxAttempts < job.attemptCount + 1 := by omega
  by_cases hrunning : job.state = .running
  · rw [imp_iff_right hrunning]
    refine isWhole_recorded now (job.lease claim now attemptId (digests.leaseToken token)) false
      (some ⟨job.lease claim now attemptId (digests.leaseToken token), ⟨job.id, attemptId, claim.workerId, token⟩⟩)
      hs hmem hsame.jobs hsame.reservations rfl hne ?_
    unfold leaseClosure
    rw [if_neg hmax]
    dsimp only
    rw [if_pos hrunning, hsound.loaded]
    rfl
  · refine iff_of_true ?_ fun h => absurd h hrunning
    unfold leaseClosure
    rw [if_neg hmax]
    dsimp only
    rw [if_neg hrunning, hsound.loaded]
    exact isWhole_ok

/-- **A candidate that is taken.** -/
theorem takeClosure_whole (hs : s₀.IsSound) (hmem : job ∈ s₀.jobs) (hready : job.state = .queued ∨ job.state = .running)
    (hsame : s.SameDocuments s₀) :
    IsAllOrNothing s₀ (commitOf s₀ (takeClosure now digests claim attemptId token job s)) ↔
      (job.state = .running → s₀.HasRoom job.id .default ∨ (job.maxAttempts ≤ job.attemptCount ∧ s₀.LacksArtifact job)) := by
  have hsound := hs.sound job hmem
  by_cases hrunning : job.state = .running
  · rw [imp_iff_right hrunning]
    unfold takeClosure
    rw [if_pos hrunning, checkRunningAttempt_of_sound hsound hrunning]
    dsimp only
    by_cases hcount : job.maxAttempts ≤ job.attemptCount
    · rw [if_pos hcount, terminalizeClosure_whole hs hmem hrunning hsame, and_iff_right hcount]
    · rw [if_neg hcount, leaseClosure_whole hs hmem hready (Nat.lt_of_not_le hcount) hsame, imp_iff_right hrunning]
      exact (or_iff_left fun h => hcount h.1).symm
  · have hqueued := hready.resolve_right hrunning
    unfold takeClosure
    rw [if_neg hrunning, leaseClosure_whole hs hmem hready (hsound.queued hqueued) hsame]
    exact iff_of_true (fun h => absurd h hrunning) fun h => absurd h hrunning

/-- **The candidates one after the other.** By induction on them; those that are passed over only touch their campaigns. -/
theorem scanCandidates_whole {L : List GenerationJobDocument} (hs : s₀.IsSound)
    (hL : ∀ job ∈ L, job ∈ s₀.jobs ∧ (job.state = .queued ∨ job.state = .running)) (hsame : s.SameDocuments s₀)
    (hcampaigns : ∀ id, s.campaigns.any (·.id = id) = s₀.campaigns.any (·.id = id)) :
    IsAllOrNothing s₀ (commitOf s₀ (scanCandidates now digests claim attemptId token L s)) ↔
      ∀ job ∈ L.find? (fun job => !(s₀.isClaimable job && s₀.isFullFor job now)), s₀.isClaimable job = true →
        job.state = .running →
        s₀.HasRoom job.id .default ∨ (job.maxAttempts ≤ job.attemptCount ∧ s₀.LacksArtifact job) := by
  induction L generalizing s with
  | nil =>
    refine iff_of_true (isWhole_same hsame) fun job hjob => ?_
    rw [List.find?_nil] at hjob
    cases hjob
  | cons job L ih =>
    obtain ⟨⟨hmem, hready⟩, hL⟩ := List.forall_mem_cons.mp hL
    have htouched : (s.touchClaim job.campaignId).SameDocuments s₀ := ⟨hsame.jobs, hsame.assets, hsame.reservations⟩
    have htouchedCampaigns : ∀ id, (s.touchClaim job.campaignId).campaigns.any (·.id = id) =
        s₀.campaigns.any (·.id = id) := by
      intro id
      rw [← hcampaigns id]
      show (updateById _ _ _ s.campaigns).any _ = _
      unfold updateById
      rw [List.any_map]
      congr 1
      funext c
      rw [Function.comp_apply]
      split <;> rfl
    have hfull : (s.touchClaim job.campaignId).isFullFor job now = s₀.isFullFor job now := by
      unfold GenerationStore.isFullFor GenerationStore.activeBeside GenerationStore.activeIllustrationsBeside
      rw [htouched.jobs]
    unfold scanCandidates
    by_cases hcampaign : ∃ c ∈ s.campaigns, c.id = job.campaignId
    · have hany : s₀.campaigns.any (·.id = job.campaignId) = true := by
        rw [← hcampaigns]
        obtain ⟨c, hc, hid⟩ := hcampaign
        exact List.any_eq_true.mpr ⟨c, hc, decide_eq_true hid⟩
      rw [if_pos hcampaign]
      dsimp only
      by_cases hlimit : job.campaignConcurrencyLimit = 0
      · have hnot : s₀.isClaimable job = false := by
          unfold GenerationStore.isClaimable
          rw [hlimit, hany]
          rfl
        rw [if_pos hlimit, List.find?_cons_of_pos (by rw [hnot]; rfl)]
        refine iff_of_true (isWhole_same htouched) fun j hj hclaimable => ?_
        cases hj
        rw [hnot] at hclaimable
        cases hclaimable
      · have hclaimable : s₀.isClaimable job = true := by
          unfold GenerationStore.isClaimable
          rw [hany, Bool.true_and, decide_eq_true hlimit]
        rw [if_neg hlimit, hfull]
        cases hroom : s₀.isFullFor job now with
        | true =>
          rw [if_pos rfl, ih hL htouched htouchedCampaigns, List.find?_cons_of_neg (by rw [hclaimable, hroom]; exact Bool.false_ne_true)]
        | false =>
          rw [if_neg Bool.false_ne_true, takeClosure_whole hs hmem hready htouched,
            List.find?_cons_of_pos (by rw [hclaimable, hroom]; rfl)]
          constructor
          · intro h j hj _
            cases hj
            exact h
          · exact fun h => h job rfl hclaimable
    · have hnot : s₀.isClaimable job = false := by
        unfold GenerationStore.isClaimable
        rw [← hcampaigns]
        have hany : s.campaigns.any (·.id = job.campaignId) = false := by
          rw [List.any_eq_false]
          exact fun c hc hid => hcampaign ⟨c, hc, of_decide_eq_true hid⟩
        rw [hany, Bool.false_and]
      rw [if_neg hcampaign, List.find?_cons_of_pos (by rw [hnot]; rfl)]
      refine iff_of_true (isWhole_same hsame) fun j hj hclaimable => ?_
      cases hj
      rw [hnot] at hclaimable
      cases hclaimable

/-- **When a claim is whole.** -/
theorem claimGenerationJob_whole {filter : ClaimFilter} (hs : s.IsSound) :
    IsAllOrNothing s (claimGenerationJob now digests claim filter attemptId token s) ↔ s.ClaimIsWhole now claim filter := by
  have hcandidates : ∀ job ∈ s.claimCandidates now filter, job ∈ s.jobs ∧ (job.state = .queued ∨ job.state = .running) := by
    intro job hjob
    unfold GenerationStore.claimCandidates at hjob
    have hjob := (List.mem_insertionSort _).mp (List.mem_of_mem_take hjob)
    obtain ⟨hmem, hready⟩ := List.mem_filter.mp hjob
    rw [Bool.and_eq_true, Bool.or_eq_true] at hready
    exact ⟨hmem, hready.1.imp state_of_isAvailable state_of_isExpired⟩
  unfold claimGenerationJob GenerationStore.ClaimIsWhole
  rw [← validClaim]
  cases validClaim claim filter with
  | error e => exact iff_of_true isWhole_refused fun h => by cases h
  | ok u =>
    rw [imp_iff_right rfl]
    show IsAllOrNothing s (commitOf s (scanCandidates now digests claim attemptId token (s.claimCandidates now filter) s)) ↔ _
    rw [scanCandidates_whole hs hcandidates (.refl s) fun _ => rfl]
    rfl

end Claims

/-! ## The end of an attempt -/

section Completions

variable {now : DateTime} {digests : Digests} {s t u : GenerationStore} {job : GenerationJobDocument}
  {lease : GenerationLease} {e : AttemptEnd}

theorem complete_terminal {attemptId : String} : (job.complete now attemptId e).2.1 = job.isFinal e := by
  unfold GenerationJobDocument.complete GenerationJobDocument.isFinal
  cases e.failure with
  | none => rfl
  | some failure =>
    dsimp only
    rw [Option.all_some]
    cases job.retryAfter e failure.code with
    | none => rfl
    | some delay => rfl

/-- A job whose attempt has failed waits for the artifact that it waited for. -/
theorem lacksArtifact_complete {attemptId : String} (h : e.failure ≠ none) :
    s.LacksArtifact (job.complete now attemptId e).1 ↔ s.LacksArtifact job := by
  obtain ⟨failure, hfailure⟩ := Option.ne_none_iff_exists'.mp h
  unfold GenerationJobDocument.complete
  dsimp only
  rw [hfailure]
  dsimp only
  split <;> exact Iff.rfl

theorem pendingArtifactId_complete {attemptId : String} (h : e.failure ≠ none) :
    (job.complete now attemptId e).1.pendingArtifactId = job.pendingArtifactId := by
  obtain ⟨failure, hfailure⟩ := Option.ne_none_iff_exists'.mp h
  unfold GenerationJobDocument.complete
  dsimp only
  rw [hfailure]
  dsimp only
  split <;> rfl

variable {α : Type}

/-- **The recording before anything else is written**: it succeeds, or nothing has been retired and it writes nothing. -/
theorem recorded_whole {terminal : Bool} {rest : GenerationStore → Closure α}
    (hunique : (s.reservations.map (·.id)).Nodup) (hjobs : u.jobs = s.jobs) (hreservations : u.reservations = s.reservations)
    (hrest : ∀ t, IsAllOrNothing s (commitOf s (rest t))) :
    IsAllOrNothing s (commitOf s (match recordGenerationAttemptUsage now job.id e.usage terminal u with
      | (.error error, t) => .ok (.error error, t)
      | (.ok (), t) => rest t)) ↔
    s.HasRoom job.id e.usage ∨ (u.assets = s.assets ∧ s.RecordsNothing now job.id e.usage terminal) := by
  have hroom := @recordGenerationAttemptUsage_eq_ok now u job.id e.usage terminal
  have hsame := @recordGenerationAttemptUsage_same now u job.id e.usage terminal (hreservations ▸ hunique)
  have hrecordedJobs := @recordGenerationAttemptUsage_jobs now u job.id e.usage terminal
  have hrecordedAssets := @recordGenerationAttemptUsage_assets now u job.id e.usage terminal
  rw [hasRoom_congr hreservations] at hroom
  rw [recordsNothing_congr hreservations, hreservations] at hsame
  generalize recordGenerationAttemptUsage now job.id e.usage terminal u = r at hroom hsame hrecordedJobs hrecordedAssets
  obtain ⟨recorded, t⟩ := r
  cases recorded with
  | ok x => exact iff_of_true (hrest t) (.inl (hroom.mp rfl))
  | error error =>
    have hfull : ¬ s.HasRoom job.id e.usage := fun h => nomatch hroom.mpr h
    rw [or_iff_right hfull]
    constructor
    · intro h
      obtain ⟨-, hassets, hkept⟩ := h ⟨error, rfl⟩
      exact ⟨hrecordedAssets.symm.trans hassets, hsame.mp hkept⟩
    · rintro ⟨hassets, hnothing⟩
      exact isWhole_same ⟨hrecordedJobs.trans hjobs, hrecordedAssets.trans hassets, hsame.mpr hnothing⟩

/-- Once the budget is recorded, the artifact is published or the transaction is aborted. -/
theorem isWhole_published {a : α} {u : GenerationStore} :
    IsAllOrNothing s (commitOf s (match publishArtifact now e job u with
      | .error error => .error error
      | .ok t => .ok (.ok a, t))) := by
  cases publishArtifact now e job u with
  | error error => exact isWhole_refused
  | ok t => exact isWhole_ok

/-- **When the end of an attempt is whole.** -/
theorem completeLeasedJobInTransaction_whole (hunique : (s.reservations.map (·.id)).Nodup) :
    IsAllOrNothing s (withTransaction (completeLeasedJobInTransaction now digests lease e) s) ↔
      s.CompletionIsWhole now digests lease e := by
  rw [withTransaction_eq]
  unfold GenerationStore.CompletionIsWhole completeLeasedJobInTransaction
  cases hfind : s.jobs.find? (·.isLeasedTo digests lease now) with
  | none =>
    refine iff_of_true isWhole_refused fun job hjob => ?_
    cases hjob
  | some job =>
    dsimp only
    have hforall : ∀ {P : GenerationJobDocument → Prop}, (∀ j ∈ some job, P j) ↔ P job := by
      intro P
      exact ⟨fun h => h job rfl, fun h j hj => by cases hj; exact h⟩
    rw [hforall]
    cases hcheck : checkCompletion digests lease e job s with
    | error error => exact iff_of_true isWhole_refused fun h => by cases h
    | ok x =>
      rw [imp_iff_right rfl]
      have hterminal := @complete_terminal now job e lease.attemptId
      have hlacks := @lacksArtifact_complete now s job e lease.attemptId
      have hpending := @pendingArtifactId_complete now job e lease.attemptId
      generalize job.complete now lease.attemptId e = c at hterminal hlacks hpending
      obtain ⟨completed, terminal, outcome⟩ := c
      have hterminal : terminal = job.isFinal e := hterminal
      subst hterminal
      dsimp only
      by_cases hfails : e.failure ≠ none ∧ job.isFinal e = true
      · rw [if_pos hfails]
        have hlacks : s.LacksArtifact completed ↔ s.LacksArtifact job := hlacks hfails.1
        have hpending : completed.pendingArtifactId = job.pendingArtifactId := hpending hfails.1
        rcases @retirePendingArtifact_cases now completed (addDuration now failedRetention) s with
          ⟨hnone, hu⟩ | ⟨hmissing, error, hu⟩ | ⟨hwaits, hstaged, u, hu, hjobs, hreservations, hassets⟩
        · rw [hu]
          dsimp only
          rw [hpending] at hnone
          refine (recorded_whole hunique rfl rfl fun _ => isWhole_published).trans (or_congr_right ?_)
          constructor
          · exact fun h => .inr ⟨fun hretires => hretires.2.2 hnone, h.2⟩
          · rintro (⟨-, -, artifactId, hartifact, -⟩ | ⟨-, hnothing⟩)
            · rw [hnone] at hartifact
              cases hartifact
            · exact ⟨rfl, hnothing⟩
        · rw [hu]
          exact iff_of_true isWhole_refused (.inr (.inl ⟨hfails.1, hfails.2, hlacks.mp hmissing⟩))
        · rw [hu]
          dsimp only
          rw [hpending] at hwaits
          refine (recorded_whole hunique hjobs hreservations fun _ => isWhole_published).trans (or_congr_right ?_)
          constructor
          · exact fun h => absurd h.1 hassets
          · rintro (⟨-, -, h⟩ | ⟨h, -⟩)
            · exact absurd (hlacks.mpr h) hstaged
            · exact absurd ⟨hfails.1, hfails.2, hwaits⟩ h
      · rw [if_neg hfails]
        dsimp only
        refine (recorded_whole hunique rfl rfl fun _ => isWhole_published).trans (or_congr_right ?_)
        constructor
        · exact fun h => .inr ⟨fun hretires => hfails ⟨hretires.1, hretires.2.1⟩, h.2⟩
        · rintro (⟨hfailure, hfinal, -⟩ | ⟨-, hnothing⟩)
          · exact absurd ⟨hfailure, hfinal⟩ hfails
          · exact ⟨rfl, hnothing⟩

end Completions

/-! ## Every call -/

section Calls

variable {now : DateTime} {digests : Digests} {s t : GenerationStore} {job : GenerationJobDocument}

/-- Validating what was committed does not fail. -/
theorem isWhole_validated {a : Except GenerationJobStoreError GenerationJobDocument}
    (h : ∀ job, a = .ok job → validateLoadedJob job = .ok ()) :
    IsAllOrNothing s ((do let job ← a; validateLoadedJob job; return job), t) ↔ IsAllOrNothing s (a, t) := by
  refine isWhole_map fun job hjob => ⟨job, ?_⟩
  rw [h job hjob]
  rfl

/-- What a completed attempt leaves is a valid job. -/
theorem completed_loaded (hs : s.IsSound) {lease : GenerationLease} {e : AttemptEnd}
    {outcome : GenerationAttemptFinishOutcome}
    (h : (withTransaction (completeLeasedJobInTransaction now digests lease e) s).1 = .ok (job, outcome)) :
    validateLoadedJob job = .ok () := by
  rw [withTransaction_eq] at h
  unfold completeLeasedJobInTransaction at h
  split at h
  · cases h
  next found hfind =>
  split at h
  · cases h
  dsimp only at h
  split at h
  · cases h
  split at h
  · cases h
  split at h
  · cases h
  · cases h
    rw [(@complete_fields now found lease.attemptId e).1]
    exact (hs.sound found (List.mem_of_find?_eq_some hfind)).loaded

/-- A cancelled job is a valid one, and a cancellation that fails writes nothing. -/
theorem cancelClosure_whole (hs : s.IsSound) {campaignId jobId : String} :
    (∀ job, (withTransaction (cancelClosure now campaignId jobId) s).1 = .ok job → validateLoadedJob job = .ok ()) ∧
      IsAllOrNothing s (withTransaction (cancelClosure now campaignId jobId) s) := by
  rw [withTransaction_eq]
  unfold cancelClosure
  cases hfind : s.jobs.find? fun job => job.id = jobId ∧ job.campaignId = campaignId with
  | none =>
    refine ⟨fun j hj => ?_, isWhole_refused⟩
    cases hj
  | some job =>
    have hsound := hs.sound job (List.mem_of_find?_eq_some hfind)
    have hopen : ∀ t : GenerationStore, (∀ j, (commitOf s (cancelOpen now job t)).1 = .ok j → validateLoadedJob j = .ok ()) ∧
        IsAllOrNothing s (commitOf s (cancelOpen now job t)) := by
      intro t
      unfold cancelOpen
      dsimp only
      cases retirePendingArtifact now (job.cancel now) (addDuration now failedRetention) t with
      | error e =>
        refine ⟨fun j hj => ?_, isWhole_refused⟩
        cases hj
      | ok u =>
        refine ⟨fun j hj => ?_, isWhole_ok⟩
        cases hj
        exact hsound.loaded
    dsimp only
    cases hstate : job.state with
    | cancelled =>
      refine ⟨fun j hj => ?_, isWhole_ok⟩
      cases hj
      exact hsound.loaded
    | succeeded =>
      refine ⟨fun j hj => ?_, isWhole_refused⟩
      cases hj
    | failed =>
      refine ⟨fun j hj => ?_, isWhole_refused⟩
      cases hj
    | queued => exact hopen _
    | running =>
      rw [checkRunningAttempt_of_sound hsound hstate]
      exact hopen _

theorem isWhole_mapped {α β : Type} {f : α → β} {r : Except GenerationJobStoreError α × GenerationStore} :
    IsAllOrNothing s (r.map (·.map f) id) ↔ IsAllOrNothing s r := by
  obtain ⟨a, t⟩ := r
  unfold IsAllOrNothing
  refine imp_congr_left ?_
  cases a with
  | error e => exact iff_of_true ⟨e, rfl⟩ ⟨e, rfl⟩
  | ok x => exact iff_of_false nofun nofun

variable {lease : GenerationLease}

/-- A heartbeat writes once all is checked. -/
theorem heartbeat_whole {duration : Nat} (hs : s.IsSound) :
    IsAllOrNothing s (heartbeatGenerationJob now digests lease duration s) := by
  unfold heartbeatGenerationJob
  split
  · exact isWhole_refused
  split
  · exact isWhole_refused
  · next job hfind =>
    have hloaded : validateLoadedJob (job.extendLease digests lease now duration) = .ok () :=
      (hs.sound job (List.mem_of_find?_eq_some hfind)).loaded
    dsimp only
    rw [hloaded]
    exact isWhole_ok

theorem succeed_whole {success : GenerationSuccess} (hs : s.IsSound)
    (hunique : (s.reservations.map (·.id)).Nodup) :
    IsAllOrNothing s (succeedGenerationJob now digests lease success s) ↔
      (validSuccess lease success = .ok () → s.CompletionIsWhole now digests lease success.attemptEnd) := by
  unfold succeedGenerationJob
  rw [← validSuccess]
  cases validSuccess lease success with
  | error e => exact iff_of_true isWhole_refused fun h => by cases h
  | ok u =>
    rw [imp_iff_right rfl, ← completeLeasedJobInTransaction_whole hunique]
    have hloaded := fun job outcome => @completed_loaded now digests s job hs lease success.attemptEnd outcome
    generalize withTransaction (completeLeasedJobInTransaction now digests lease success.attemptEnd) s = r at hloaded
    obtain ⟨a, t⟩ := r
    refine isWhole_map fun x hx => ⟨x.1, ?_⟩
    obtain ⟨job, outcome⟩ := x
    dsimp only
    rw [hloaded job outcome hx]
    rfl

theorem fail_whole {failure : GenerationAttemptFailure}
    (hunique : (s.reservations.map (·.id)).Nodup) :
    IsAllOrNothing s (failGenerationAttempt now digests lease failure s) ↔
      (validFailure lease failure = .ok () → s.CompletionIsWhole now digests lease failure.attemptEnd) := by
  unfold failGenerationAttempt
  rw [← validFailure]
  cases validFailure lease failure with
  | error e => exact iff_of_true isWhole_refused fun h => by cases h
  | ok u => exact isWhole_mapped.trans ((completeLeasedJobInTransaction_whole hunique).trans (imp_iff_right rfl).symm)

theorem cancel_whole {campaignId jobId : String} (hs : s.IsSound) :
    IsAllOrNothing s (cancelGenerationJob now campaignId jobId s) := by
  obtain ⟨hloaded, hwhole⟩ := @cancelClosure_whole now s hs campaignId jobId
  unfold cancelGenerationJob
  split
  · exact isWhole_refused
  · exact (isWhole_validated hloaded).mpr hwhole

/-- **When a call is whole**, on a sound store. -/
theorem Operation.run_isWhole (op : Operation) (hs : s.IsSound) (hunique : (s.reservations.map (·.id)).Nodup)
    (hop : ∀ requested, op ≠ .enqueue requested) :
    IsAllOrNothing s (op.run now digests s) ↔ op.IsWhole now digests s := by
  cases op with
  | enqueue requested => exact absurd rfl (hop requested)
  | claim request filter attemptId token => exact isWhole_mapped.trans (claimGenerationJob_whole hs)
  | heartbeat lease duration => exact iff_of_true (isWhole_mapped.mpr (heartbeat_whole hs)) trivial
  | succeed lease success => exact isWhole_mapped.trans (succeed_whole hs hunique)
  | fail lease failure => exact isWhole_mapped.trans (fail_whole hunique)
  | cancel campaignId jobId => exact iff_of_true (isWhole_mapped.mpr (cancel_whole hs)) trivial

end Calls

/-- **When a failed call leaves the documents as they were**, whatever the queue has been through: the queue starts empty,
and any calls and removals may come before. -/
theorem calls_are_whole_iff (digests : Digests) {q₀ q : QueueState} {events : List RetentionEvent} (now : DateTime)
    (op : Operation) (hjobs : q₀.store.jobs = []) (hreservations : q₀.store.reservations = [])
    (hrun : Run (QueueState.Retention digests) q₀ events q) (hop : ∀ requested, op ≠ .enqueue requested) :
    ((∃ e, (op.run now digests q.store).1 = .error e) → (op.run now digests q.store).2.SameDocuments q.store) ↔
      op.IsWhole now digests q.store := by
  have hq := isBooked_of_history hrun (isBooked_of_empty hjobs hreservations)
  exact op.run_isWhole hq.sound hq.unique hop

/-! ## A provider that reports the largest number of tokens -/

def planningRequest : NewGenerationJob := { budgetedRequest with purpose := .gmPlanning, maxAttempts := 2 }

/-- The first attempt has used as many tokens as a document holds. -/
def greedyFailure : GenerationAttemptFailure :=
  ⟨.providerUnavailable, none, none, ⟨none, none, some maxI64, none, none⟩, none⟩

def firstLease : GenerationLease := ⟨"generation-job-1", "attempt-1", "worker-1", "token-1"⟩

def secondLease : GenerationLease := ⟨"generation-job-1", "attempt-2", "worker-1", "token-2"⟩

/-- The calls before the second attempt ends. -/
def greedyCalls : List (Operation × DateTime) :=
  [(.enqueue planningRequest, 0), (.claim workerClaim ⟨none, none⟩ "attempt-1" "token-1", 1000),
    (.fail firstLease greedyFailure, 2000), (.claim workerClaim ⟨none, none⟩ "attempt-2" "token-2", 60000)]

def greedyStore : GenerationStore :=
  greedyCalls.foldl (fun s call => (call.1.run call.2 plainDigests s).2) emptyQueue.store

/-- The second attempt has used one token, and succeeds. -/
def modestSuccess : GenerationSuccess := ⟨none, "output", ⟨none, none, some 1, some 7, some 40⟩⟩

theorem run_greedyStore : Run (QueueState.Retention plainDigests) emptyQueue
    (greedyCalls.map fun call => .queue (.call call.1 call.2)) ⟨60000, greedyStore⟩ :=
  .cons ⟨le_rfl, rfl⟩ (.cons ⟨by decide, rfl⟩ (.cons ⟨by decide, rfl⟩ (.cons ⟨by decide, rfl⟩ (.nil _))))

/-- **A success is refused, and its cost is recorded**: the tokens of the two attempts are more than a document holds. -/
theorem refused_success_is_charged : Run (QueueState.Retention plainDigests) emptyQueue
      (greedyCalls.map fun call => .queue (.call call.1 call.2)) ⟨60000, greedyStore⟩ ∧
    ((Operation.succeed secondLease modestSuccess).run 61000 plainDigests greedyStore).1 = .error .numericRange ∧
    ¬ ((Operation.succeed secondLease modestSuccess).run 61000 plainDigests greedyStore).2.SameDocuments greedyStore := by
  refine ⟨run_greedyStore, by decide, fun h => ?_⟩
  have hspent : (greedyStore.reservations.map (·.spentValue)) ≠
      ((Operation.succeed secondLease modestSuccess).run 61000 plainDigests greedyStore).2.reservations.map (·.spentValue) := by
    decide
  exact hspent (congrArg _ h.reservations.symm)

/-- A cancellation of the same job is whole. -/
theorem calls_are_whole_cancelled :
    (Operation.cancel "campaign-1" "generation-job-1").IsWhole 61000 plainDigests greedyStore ∧
    ((∃ e, ((Operation.cancel "campaign-1" "generation-job-1").run 61000 plainDigests greedyStore).1 = .error e) →
      ((Operation.cancel "campaign-1" "generation-job-1").run 61000 plainDigests greedyStore).2.SameDocuments greedyStore) :=
  ⟨trivial, (calls_are_whole_iff plainDigests 61000 (.cancel "campaign-1" "generation-job-1") rfl rfl run_greedyStore
    nofun).mpr trivial⟩

end ManchesterArcana.Generation
