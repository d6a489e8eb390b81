import ManchesterArcana.Generation.Calls

/-!
# `Generation.Lease` — jobs, leases and attempts agree

The state of a job, its lease fields, the list of its attempts and their count are written by every call. A job is
`IsSound` when they agree, and every `JobChange` keeps it so.

`lease_machine` says what holds of every job in every state that is reached; `cancelled_attempt_is_finished` that a
lease does not keep an attempt from being cancelled.
-/

namespace ManchesterArcana.Generation

open Effect Store
open List (length_append map_append mem_append mem_singleton)

/-! ## Sound jobs -/

def GenerationAttemptDocument.IsFinished (a : GenerationAttemptDocument) : Prop :=
  a.state ≠ .running ∧ a.finishedAt.isSome = true

/-- The attempt runs, under the lease of the job. -/
structure GenerationAttemptDocument.RunsUnder (a : GenerationAttemptDocument) (job : GenerationJobDocument) : Prop where
  state : a.state = .running
  finishedAt : a.finishedAt = none
  leaseOwner : job.leaseOwner = some a.leaseOwner
  leaseTokenDigest : job.leaseTokenDigest = some a.leaseTokenDigest
  leaseExpiresAt : job.leaseExpiresAt.isSome = true

/-- **The fields of a job agree.** -/
structure GenerationJobDocument.IsSound (job : GenerationJobDocument) : Prop where
  loaded : validateLoadedJob job = .ok ()
  count : job.attemptCount = job.attempts.length
  numbered : job.attempts.map (·.attemptNumber) = List.range' 1 job.attempts.length
  running : job.state = .running → ∃ ended a, job.attempts = ended ++ [a] ∧ (∀ x ∈ ended, x.IsFinished) ∧ a.RunsUnder job
  idle : job.state ≠ .running → (∀ x ∈ job.attempts, x.IsFinished) ∧ job.leaseOwner = none ∧
    job.leaseTokenDigest = none ∧ job.leaseExpiresAt = none
  queued : job.state = .queued → job.attemptCount < job.maxAttempts

/-- Finished attempts stay as they are, and a job that has ended stays as it is. -/
structure GenerationJobDocument.Evolves (job job' : GenerationJobDocument) : Prop where
  id : job'.id = job.id
  ended : job.state.terminal = true → job'.state = job.state ∧ job'.attempts = job.attempts
  finished : ∀ (i : Nat) (a : GenerationAttemptDocument), job.attempts[i]? = some a → a.IsFinished →
    job'.attempts[i]? = some a

theorem GenerationJobDocument.Evolves.refl (job : GenerationJobDocument) : job.Evolves job :=
  ⟨rfl, fun _ => ⟨rfl, rfl⟩, fun _ _ h _ => h⟩

theorem GenerationJobDocument.Evolves.trans {a b c : GenerationJobDocument} (hab : a.Evolves b) (hbc : b.Evolves c) :
    a.Evolves c where
  id := hbc.id.trans hab.id
  ended h := by
    obtain ⟨hstate, hattempts⟩ := hab.ended h
    obtain ⟨hstate', hattempts'⟩ := hbc.ended (hstate ▸ h)
    exact ⟨hstate'.trans hstate, hattempts'.trans hattempts⟩
  finished i x hx hfinished := hbc.finished i x (hab.finished i x hx hfinished) hfinished

/-! ## The list of attempts -/

section Attempts

variable {f : GenerationAttemptDocument → GenerationAttemptDocument} {ended : List GenerationAttemptDocument}
  {a b : GenerationAttemptDocument}

theorem changeLast_append : changeLast f (ended ++ [a]) = ended ++ [f a] := by
  induction ended with
  | nil => rfl
  | cons x rest ih =>
    cases rest with
    | nil => rfl
    | cons y rest =>
      show x :: changeLast f (y :: rest ++ [a]) = x :: (y :: rest ++ [f a])
      rw [ih]

variable {p : GenerationAttemptDocument → Bool}

theorem updateFirst_append (hended : ∀ x ∈ ended, p x = false)
    (ha : p a = true) : updateFirst p f (ended ++ [a]) = ended ++ [f a] := by
  induction ended with
  | nil =>
    show (if p a then [f a] else _) = _
    rw [if_pos ha]
    rfl
  | cons x rest ih =>
    obtain ⟨hx, hrest⟩ := List.forall_mem_cons.mp hended
    show (if p x then _ else x :: updateFirst p f (rest ++ [a])) = _
    rw [hx, if_neg Bool.false_ne_true, ih hrest]
    rfl

theorem updateWhere_append (hended : ∀ x ∈ ended, p x = false) :
    updateWhere p f (ended ++ [a]) = ended ++ [if p a then f a else a] := by
  unfold updateWhere
  rw [map_append]
  congr 1
  refine (List.map_congr_left fun x hx => ?_).trans (List.map_id ended)
  rw [hended x hx]
  rfl

theorem map_number_append (h : b.attemptNumber = a.attemptNumber) :
    (ended ++ [b]).map (·.attemptNumber) = (ended ++ [a]).map (·.attemptNumber) := by
  rw [map_append, map_append, List.map_singleton, List.map_singleton, h]

/-- Where the last attempt runs, the finished ones are before it. -/
theorem getElem?_of_isFinished {i : Nat} {x : GenerationAttemptDocument} (ha : a.state = .running)
    (hx : (ended ++ [a])[i]? = some x) (hfinished : x.IsFinished) (tail : List GenerationAttemptDocument) :
    (ended ++ tail)[i]? = some x := by
  by_cases hi : i < ended.length
  · rw [List.getElem?_append_left hi] at hx ⊢
    exact hx
  · rw [List.getElem?_append_right (Nat.le_of_not_lt hi)] at hx
    have hmem := List.mem_of_getElem? hx
    rw [mem_singleton] at hmem
    exact absurd (hmem ▸ ha) hfinished.1

end Attempts

/-! ## What a change does to the attempts -/

/-- How the attempts of a running job may change: the last one goes on, or ends, and another one may follow. -/
inductive AttemptsAfter (ended : List GenerationAttemptDocument) (a : GenerationAttemptDocument) :
    List GenerationAttemptDocument → Prop where
  | goesOn (b : GenerationAttemptDocument) : b.attemptNumber = a.attemptNumber → b.state = .running →
      b.finishedAt = a.finishedAt → AttemptsAfter ended a (ended ++ [b])
  | ends (b : GenerationAttemptDocument) : b.attemptNumber = a.attemptNumber → b.IsFinished →
      AttemptsAfter ended a (ended ++ [b])
  | isFollowed (b c : GenerationAttemptDocument) : b.attemptNumber = a.attemptNumber → b.IsFinished →
      AttemptsAfter ended a (ended ++ [b] ++ [c])

section Change

variable {now : DateTime} {digests : Digests} {s : GenerationStore} {op : Operation} {job job' : GenerationJobDocument}
  {ended : List GenerationAttemptDocument} {a : GenerationAttemptDocument}

theorem isFinished_expire : (a.expire now).IsFinished := ⟨by simp [GenerationAttemptDocument.expire], rfl⟩

theorem isFinished_cancel : (a.cancel now).IsFinished := ⟨by simp [GenerationAttemptDocument.cancel], rfl⟩

variable {e : AttemptEnd} {attemptId : String}

theorem isFinished_finish : (a.finish now e).IsFinished := by
  unfold GenerationAttemptDocument.finish
  dsimp only
  split
  · exact ⟨by simp, rfl⟩
  · exact ⟨by simp, rfl⟩

theorem attemptNumber_finish : (a.finish now e).attemptNumber = a.attemptNumber := by
  unfold GenerationAttemptDocument.finish
  dsimp only
  split <;> rfl

theorem attempts_complete : (job.complete now attemptId e).1.attempts =
    updateFirst (·.id = attemptId) (·.finish now e) job.attempts := by
  unfold GenerationJobDocument.complete
  dsimp only
  split
  · split <;> rfl
  · split <;> rfl

/-- The attempt that a lease completes is the last one, and no other has its id. -/
theorem attempt_of_find? {attempt : GenerationAttemptDocument}
    (hended : ∀ x ∈ ended, x.IsFinished) (hfind : (ended ++ [a]).find? (·.id = attemptId) = some attempt)
    (hrunning : attempt.state = .running) :
    attempt = a ∧ a.id = attemptId ∧ ∀ x ∈ ended, decide (x.id = attemptId) = false := by
  rw [List.find?_append] at hfind
  cases hfirst : ended.find? (·.id = attemptId) with
  | some x =>
    rw [hfirst] at hfind
    cases hfind
    exact absurd hrunning (hended _ (List.mem_of_find?_eq_some hfirst)).1
  | none =>
    rw [hfirst, Option.none_or] at hfind
    have hmem := List.mem_of_find?_eq_some hfind
    rw [mem_singleton] at hmem
    subst hmem
    refine ⟨rfl, by simpa using List.find?_some hfind, fun x hx => ?_⟩
    rw [← Bool.not_eq_true]
    exact List.find?_eq_none.mp hfirst x hx

theorem state_of_isLeasedTo {lease : GenerationLease} (h : job.isLeasedTo digests lease now = true) :
    job.state = .running := by
  rw [GenerationJobDocument.isLeasedTo, decide_eq_true_eq] at h
  have hactive := h.2.2.2
  rw [GenerationJobDocument.isActive, decide_eq_true_eq] at hactive
  exact hactive.1

theorem state_of_isExpired (h : job.isExpired now = true) : job.state = .running := by
  rw [GenerationJobDocument.isExpired, decide_eq_true_eq] at h
  exact h.1

theorem state_of_isAvailable (h : job.isAvailable now = true) : job.state = .queued := by
  rw [GenerationJobDocument.isAvailable, decide_eq_true_eq] at h
  exact h.1

/-- **What a change does to the attempts of a running job.** -/
theorem JobChange.attempts (hchange : JobChange now digests s op job job') (hattempts : job.attempts = ended ++ [a])
    (hended : ∀ x ∈ ended, x.IsFinished) (ha : a.state = .running) (hstate : job.state = .running) :
    AttemptsAfter ended a job'.attempts := by
  cases hchange with
  | terminalized previous hexpired hlast hprevious hcount =>
    show AttemptsAfter ended a (changeLast _ job.attempts)
    rw [hattempts, changeLast_append]
    exact .ends _ rfl isFinished_expire
  | leased claim attemptId digest hready hroom hlimit hcount =>
    show AttemptsAfter ended a ((if job.state = .running then changeLast _ job.attempts else job.attempts) ++ _)
    rw [if_pos hstate, hattempts, changeLast_append]
    exact .isFollowed _ _ rfl isFinished_expire
  | extended lease duration hleased =>
    show AttemptsAfter ended a (updateWhere _ _ job.attempts)
    rw [hattempts, updateWhere_append fun x hx => by simp [(hended x hx).1]]
    split
    · exact .goesOn _ rfl ha rfl
    · exact .goesOn _ rfl ha rfl
  | completed lease e attempt hop hleased hfind hattempt =>
    rw [attempts_complete, hattempts]
    rw [hattempts] at hfind
    rw [GenerationAttemptDocument.isLeasedTo, decide_eq_true_eq] at hattempt
    obtain ⟨-, hid, hothers⟩ := attempt_of_find? hended hfind hattempt.1
    rw [updateFirst_append hothers (decide_eq_true hid)]
    exact .ends _ attemptNumber_finish isFinished_finish
  | cancelled campaignId hop hopen =>
    show AttemptsAfter ended a (if job.state = .running then changeLast _ job.attempts else job.attempts)
    rw [if_pos hstate, hattempts, changeLast_append]
    exact .ends _ rfl isFinished_cancel

/-! ## Changes keep jobs sound -/

/-- A job that a change has left without a lease. -/
theorem isSound_of_ended {b : GenerationAttemptDocument} (h : job.IsSound) (hattempts : job.attempts = ended ++ [a])
    (hended : ∀ x ∈ ended, x.IsFinished) (hnumber : b.attemptNumber = a.attemptNumber) (hb : b.IsFinished)
    (hloaded : validateLoadedJob job' = validateLoadedJob job) (hcount : job'.attemptCount = job.attemptCount)
    (hattempts' : job'.attempts = ended ++ [b]) (hstate : job'.state ≠ .running)
    (hlease : job'.leaseOwner = none ∧ job'.leaseTokenDigest = none ∧ job'.leaseExpiresAt = none)
    (hqueued : job'.state = .queued → job'.attemptCount < job'.maxAttempts) : job'.IsSound where
  loaded := hloaded.trans h.loaded
  count := by
    rw [hcount, h.count, hattempts, hattempts', length_append, length_append]
    rfl
  numbered := by
    rw [hattempts', map_number_append hnumber, ← hattempts, h.numbered, hattempts, length_append,
      length_append]
    rfl
  running hrunning := absurd hrunning hstate
  idle _ := by
    refine ⟨?_, hlease⟩
    rw [hattempts']
    intro x hx
    rcases mem_append.mp hx with hx | hx
    · exact hended x hx
    · rw [mem_singleton.mp hx]
      exact hb
  queued := hqueued

theorem retryAfter_eq_some {code : GenerationFailureCode} {delay : Nat}
    (h : job.retryAfter e code = some delay) : job.attemptCount < job.maxAttempts := by
  unfold GenerationJobDocument.retryAfter at h
  split at h
  · next hretry => exact hretry.2
  · cases h

/-- What the end of an attempt leaves of the job. -/
theorem complete_fields {attemptId : String} {e : AttemptEnd} :
    validateLoadedJob (job.complete now attemptId e).1 = validateLoadedJob job ∧
      (job.complete now attemptId e).1.attemptCount = job.attemptCount ∧
      (job.complete now attemptId e).1.state ≠ .running ∧
      ((job.complete now attemptId e).1.leaseOwner = none ∧ (job.complete now attemptId e).1.leaseTokenDigest = none ∧
        (job.complete now attemptId e).1.leaseExpiresAt = none) ∧
      ((job.complete now attemptId e).1.state = .queued →
        (job.complete now attemptId e).1.attemptCount < (job.complete now attemptId e).1.maxAttempts) := by
  unfold GenerationJobDocument.complete
  dsimp only
  split
  · split
    · next delay hretry => exact ⟨rfl, rfl, by simp, ⟨rfl, rfl, rfl⟩, fun _ => retryAfter_eq_some hretry⟩
    · exact ⟨rfl, rfl, by simp, ⟨rfl, rfl, rfl⟩, fun h => by cases h⟩
  · split
    · exact ⟨rfl, rfl, by simp, ⟨rfl, rfl, rfl⟩, fun h => by cases h⟩
    · exact ⟨rfl, rfl, by simp, ⟨rfl, rfl, rfl⟩, fun h => by cases h⟩

theorem validateLoadedJob_of_le (h : validateLoadedJob job = .ok ())
    (hid : job'.id = job.id ∧ job'.campaignId = job.campaignId ∧ job'.idempotencyKey = job.idempotencyKey ∧
      job'.originCampaignRevision = job.originCampaignRevision ∧ job'.maxAttempts = job.maxAttempts ∧
      job'.purpose = job.purpose ∧ job'.originEventId = job.originEventId)
    (hcount : job'.attemptCount ≤ job.maxAttempts) : validateLoadedJob job' = .ok () := by
  obtain ⟨hid, hcampaign, hkey, hrevision, hmax, hpurpose, horigin⟩ := hid
  unfold validateLoadedJob at h ⊢
  rw [hid, hcampaign, hkey, hrevision, hmax, hpurpose, horigin]
  obtain ⟨h1, h⟩ := seq_eq_ok.mp h
  obtain ⟨h2, h⟩ := seq_eq_ok.mp h
  obtain ⟨h3, h⟩ := seq_eq_ok.mp h
  obtain ⟨h4, h5⟩ := seq_eq_ok.mp h
  have hbounds := rejectIf_eq_ok.mp h4
  exact seq_eq_ok.mpr ⟨h1, seq_eq_ok.mpr ⟨h2, seq_eq_ok.mpr ⟨h3, seq_eq_ok.mpr
    ⟨rejectIf_eq_ok.mpr (by omega), h5⟩⟩⟩⟩

/-- A job under a new lease. -/
theorem isSound_lease {claim : GenerationClaim} {attemptId digest : String} (h : job.IsSound)
    (hready : job.state = .queued ∨ job.state = .running) (hcount : job.attemptCount < job.maxAttempts) :
    (job.lease claim now attemptId digest).IsSound := by
  -- whatever the state was, every attempt before the new one is finished, and their numbers are as before
  have hpast : ∃ past, (job.lease claim now attemptId digest).attempts =
      past ++ [claim.attempt now attemptId digest (job.attemptCount + 1)] ∧ (∀ x ∈ past, x.IsFinished) ∧
      past.map (·.attemptNumber) = job.attempts.map (·.attemptNumber) ∧ past.length = job.attempts.length := by
    rcases hready with hqueued | hrunning
    · have hne : job.state ≠ .running := by
        rw [hqueued]
        decide
      refine ⟨job.attempts, ?_, (h.idle hne).1, rfl, rfl⟩
      show (if job.state = .running then _ else job.attempts) ++ _ = _
      rw [if_neg hne]
    · obtain ⟨ended, a, hattempts, hended, hruns⟩ := h.running hrunning
      refine ⟨ended ++ [a.expire now], ?_, ?_, ?_, ?_⟩
      · show (if job.state = .running then changeLast _ job.attempts else _) ++ _ = _
        rw [if_pos hrunning, hattempts, changeLast_append]
      · intro x hx
        rcases mem_append.mp hx with hx | hx
        · exact hended x hx
        · rw [mem_singleton.mp hx]
          exact isFinished_expire
      · rw [hattempts]
        exact map_number_append rfl
      · rw [hattempts, length_append, length_append]
        rfl
  obtain ⟨past, hattempts, hfinished, hnumbers, hlength⟩ := hpast
  constructor
  case loaded =>
    exact @validateLoadedJob_of_le job _ h.loaded ⟨rfl, rfl, rfl, rfl, rfl, rfl, rfl⟩ hcount
  case count =>
    rw [hattempts, length_append, hlength, ← h.count]
    rfl
  case numbered =>
    rw [hattempts, map_append, hnumbers, h.numbered, length_append, hlength, List.map_singleton,
      List.length_singleton, ← List.range'_append_1]
    show _ ++ [job.attemptCount + 1] = _
    rw [h.count, Nat.add_comm]
    rfl
  case running => exact fun _ => ⟨past, _, hattempts, hfinished, rfl, rfl, rfl, rfl, rfl⟩
  case idle => exact fun hne => absurd rfl hne
  case queued =>
    intro hqueued
    cases hqueued

/-- **Every change keeps a job sound.** -/
theorem JobChange.isSound (hchange : JobChange now digests s op job job') (h : job.IsSound) : job'.IsSound := by
  cases hchange with
  | terminalized previous hexpired hlast hprevious hcount =>
    obtain ⟨ended, a, hattempts, hended, -⟩ := h.running (state_of_isExpired hexpired)
    refine isSound_of_ended h hattempts hended (b := a.expire now) rfl isFinished_expire rfl rfl ?_ (by
      simp [GenerationJobDocument.terminalizeExpired]) ⟨rfl, rfl, rfl⟩ fun hqueued => by cases hqueued
    show changeLast _ job.attempts = _
    rw [hattempts, changeLast_append]
  | leased claim attemptId digest hready hroom hlimit hcount =>
    exact isSound_lease h (hready.imp state_of_isAvailable state_of_isExpired) hcount
  | extended lease duration hleased =>
    have hstate := state_of_isLeasedTo hleased
    obtain ⟨ended, a, hattempts, hended, hruns⟩ := h.running hstate
    have hextended : (job.extendLease digests lease now duration).attempts = ended ++
        [if a.id = lease.attemptId ∧ a.state = .running ∧ a.leaseTokenDigest = digests.leaseToken lease.leaseToken then
          { a with heartbeatAt := now } else a] := by
      show updateWhere _ _ job.attempts = _
      rw [hattempts, updateWhere_append fun x hx => by simp [(hended x hx).1]]
      simp only [decide_eq_true_eq]
    constructor
    case loaded => exact h.loaded
    case count =>
      rw [hextended, length_append]
      exact h.count.trans (by rw [hattempts, length_append]; rfl)
    case numbered =>
      rw [hextended, @map_number_append ended a _ (by split <;> rfl), ← hattempts, h.numbered, hattempts, length_append,
        length_append]
      rfl
    case running =>
      refine fun _ => ⟨ended, _, hextended, hended, ?_⟩
      split
      · exact ⟨hruns.state, hruns.finishedAt, hruns.leaseOwner, hruns.leaseTokenDigest, rfl⟩
      · exact ⟨hruns.state, hruns.finishedAt, hruns.leaseOwner, hruns.leaseTokenDigest, rfl⟩
    case idle => exact fun hne => absurd hstate hne
    case queued =>
      intro hqueued
      cases hstate.symm.trans hqueued
  | completed lease e attempt hop hleased hfind hattempt =>
    obtain ⟨ended, a, hattempts, hended, -⟩ := h.running (state_of_isLeasedTo hleased)
    rw [hattempts] at hfind
    rw [GenerationAttemptDocument.isLeasedTo, decide_eq_true_eq] at hattempt
    obtain ⟨-, hid, hothers⟩ := attempt_of_find? hended hfind hattempt.1
    obtain ⟨hloaded, hcount, hstate, hlease, hqueued⟩ := @complete_fields now job lease.attemptId e
    refine isSound_of_ended h hattempts hended (b := a.finish now e) attemptNumber_finish isFinished_finish hloaded
      hcount ?_ hstate hlease hqueued
    rw [attempts_complete, hattempts]
    exact updateFirst_append hothers (decide_eq_true hid)
  | cancelled campaignId hop hopen =>
    by_cases hstate : job.state = .running
    · obtain ⟨ended, a, hattempts, hended, -⟩ := h.running hstate
      refine isSound_of_ended h hattempts hended (b := a.cancel now) rfl isFinished_cancel rfl rfl ?_ (by
        simp [GenerationJobDocument.cancel]) ⟨rfl, rfl, rfl⟩ fun hqueued => by cases hqueued
      show (if job.state = .running then changeLast _ job.attempts else job.attempts) = _
      rw [if_pos hstate, hattempts, changeLast_append]
    · have hattempts : (job.cancel now).attempts = job.attempts := if_neg hstate
      constructor
      case loaded => exact h.loaded
      case count =>
        rw [hattempts]
        exact h.count
      case numbered =>
        rw [hattempts]
        exact h.numbered
      case running =>
        intro hrunning
        cases hrunning
      case idle =>
        rw [hattempts]
        exact fun _ => ⟨(h.idle hstate).1, rfl, rfl, rfl⟩
      case queued =>
        intro hqueued
        cases hqueued

/-- **Every change leaves finished attempts as they are**, and is made to a job that has not ended. -/
theorem JobChange.evolves (hchange : JobChange now digests s op job job') (h : job.IsSound) (hid : job'.id = job.id) :
    job.Evolves job' := by
  refine ⟨hid, fun hterminal => ?_, fun i x hx hfinished => ?_⟩
  · -- a change is made to a queued or to a running job
    exfalso
    cases hchange with
    | terminalized previous hexpired => rw [state_of_isExpired hexpired] at hterminal; cases hterminal
    | leased claim attemptId digest hready =>
      rcases hready with havailable | hexpired
      · rw [state_of_isAvailable havailable] at hterminal; cases hterminal
      · rw [state_of_isExpired hexpired] at hterminal; cases hterminal
    | extended lease duration hleased => rw [state_of_isLeasedTo hleased] at hterminal; cases hterminal
    | completed lease e attempt hop hleased => rw [state_of_isLeasedTo hleased] at hterminal; cases hterminal
    | cancelled campaignId hop hopen => rw [hopen] at hterminal; cases hterminal
  · by_cases hstate : job.state = .running
    · obtain ⟨ended, a, hattempts, hended, hruns⟩ := h.running hstate
      have hafter := hchange.attempts hattempts hended hruns.state hstate
      rw [hattempts] at hx
      generalize job'.attempts = after at hafter
      cases hafter with
      | goesOn b => exact getElem?_of_isFinished hruns.state hx hfinished _
      | ends b => exact getElem?_of_isFinished hruns.state hx hfinished _
      | isFollowed b c =>
        rw [List.append_assoc]
        exact getElem?_of_isFinished hruns.state hx hfinished _
    · -- a job that does not run is leased, or cancelled before its first or its next attempt
      cases hchange with
      | terminalized previous hexpired => exact absurd (state_of_isExpired hexpired) hstate
      | leased claim attemptId digest hready =>
        show ((if job.state = .running then _ else job.attempts) ++ _)[i]? = some x
        rw [if_neg hstate]
        obtain ⟨hlt, -⟩ := List.getElem?_eq_some_iff.mp hx
        rw [List.getElem?_append_left hlt]
        exact hx
      | extended lease duration hleased => exact absurd (state_of_isLeasedTo hleased) hstate
      | completed lease e attempt hop hleased => exact absurd (state_of_isLeasedTo hleased) hstate
      | cancelled campaignId hop hopen =>
        show (if job.state = .running then _ else job.attempts)[i]? = some x
        rw [if_neg hstate]
        exact hx

end Change

/-! ## Every call -/

/-- Ids are unique, and jobs are sound. -/
structure GenerationStore.IsSound (s : GenerationStore) : Prop where
  unique : (s.jobs.map (·.id)).Nodup
  sound : ∀ job ∈ s.jobs, job.IsSound

theorem isSound_of_no_jobs {s : GenerationStore} (h : s.jobs = []) : s.IsSound := by
  refine ⟨?_, ?_⟩
  · rw [h]
    exact List.nodup_nil
  · rw [h]
    intro job hjob
    cases hjob

variable {job : GenerationJobDocument}

theorem GenerationJobDocument.IsNew.isSound (h : job.IsNew) : job.IsSound where
  loaded := h.loaded
  count := by
    rw [h.attempts, h.attemptCount]
    rfl
  numbered := by
    rw [h.attempts]
    rfl
  running hrunning := by
    rw [h.state] at hrunning
    cases hrunning
  idle _ := by
    rw [h.attempts]
    refine ⟨fun x hx => ?_, h.leaseOwner, h.leaseTokenDigest, h.leaseExpiresAt⟩
    cases hx
  queued _ := by
    have hloaded := h.loaded
    unfold validateLoadedJob at hloaded
    obtain ⟨-, hloaded⟩ := seq_eq_ok.mp hloaded
    obtain ⟨-, hloaded⟩ := seq_eq_ok.mp hloaded
    obtain ⟨-, hloaded⟩ := seq_eq_ok.mp hloaded
    have hbounds := rejectIf_eq_ok.mp (seq_eq_ok.mp hloaded).1
    rw [h.attemptCount]
    omega

/-- The call may end an attempt: its lease has run out, or the call holds it, or cancels the job. -/
def Operation.MayFinish (digests : Digests) (now : DateTime) (op : Operation) (job : GenerationJobDocument)
    (a : GenerationAttemptDocument) : Prop :=
  job.isExpired now = true ∨ op.HoldsLease digests a ∨ ∃ campaignId, op = .cancel campaignId job.id

section Store

variable {now : DateTime} {digests : Digests} {s t : GenerationStore} {op : Operation}
  {jobs : List GenerationJobDocument}

theorem JobsAfter.unique (h : JobsAfter now digests s op jobs) (hs : s.IsSound) : (jobs.map (·.id)).Nodup := by
  cases h with
  | same => exact hs.unique
  | added job hnew hfresh => exact nodup_map_append hs.unique hfresh
  | changed job job' hmem hid hchange =>
    unfold updateById
    rw [List.map_map]
    refine (congrArg List.Nodup (List.map_congr_left fun x hx => ?_)).mpr hs.unique
    show (if x.id = job.id then job' else x).id = x.id
    split
    · next heq => exact hid.trans heq.symm
    · rfl

theorem JobsAfter.sound (h : JobsAfter now digests s op jobs) (hs : s.IsSound) : ∀ job ∈ jobs, job.IsSound := by
  cases h with
  | same => exact hs.sound
  | added job hnew hfresh =>
    intro x hx
    rcases mem_append.mp hx with hx | hx
    · exact hs.sound x hx
    · rw [mem_singleton.mp hx]
      exact hnew.isSound
  | changed job job' hmem hid hchange =>
    intro x hx
    rcases mem_updateById.mp hx with ⟨-, -, -, rfl⟩ | ⟨hx, -⟩
    · exact hchange.isSound (hs.sound job hmem)
    · exact hs.sound x hx

theorem JobsAfter.evolves (h : JobsAfter now digests s op jobs) (hs : s.IsSound) :
    ∀ job ∈ s.jobs, ∃ job' ∈ jobs, job.Evolves job' := by
  intro x hx
  cases h with
  | same => exact ⟨x, hx, .refl x⟩
  | added job hnew hfresh => exact ⟨x, List.mem_append_left _ hx, .refl x⟩
  | changed job job' hmem hid hchange =>
    by_cases heq : x.id = job.id
    · obtain rfl := List.inj_on_of_nodup_map hs.unique hx hmem heq
      exact ⟨job', mem_updateById.mpr (.inl ⟨x, hx, rfl, rfl⟩), hchange.evolves (hs.sound x hx) hid⟩
    · exact ⟨x, mem_updateById.mpr (.inr ⟨hx, heq⟩), .refl x⟩

variable {job job' : GenerationJobDocument} {i : Nat} {a a' : GenerationAttemptDocument}

/-- A change that ends an attempt is that of a call that may. -/
theorem JobChange.mayFinish
    (hchange : JobChange now digests s op job job') (hsound : job.IsSound) (ha : job.attempts[i]? = some a)
    (hopen : ¬ a.IsFinished) (ha' : job'.attempts[i]? = some a') (hfinished : a'.IsFinished) :
    op.MayFinish digests now job a := by
  have hstate : job.state = .running := by
    by_contra hne
    exact hopen ((hsound.idle hne).1 a (List.mem_of_getElem? ha))
  obtain ⟨ended, last, hattempts, hended, hruns⟩ := hsound.running hstate
  -- the attempt is the last one
  have hlast : a = last ∧ i = ended.length := by
    rw [hattempts] at ha
    by_cases hi : i < ended.length
    · rw [List.getElem?_append_left hi] at ha
      exact absurd (hended a (List.mem_of_getElem? ha)) hopen
    · rw [List.getElem?_append_right (Nat.le_of_not_lt hi), List.getElem?_singleton] at ha
      split at ha
      · next hzero =>
        cases ha
        exact ⟨rfl, by omega⟩
      · cases ha
  obtain ⟨rfl, rfl⟩ := hlast
  cases hchange with
  | terminalized previous hexpired => exact .inl hexpired
  | leased claim attemptId digest hready =>
    refine .inl (hready.resolve_left fun havailable => ?_)
    cases (state_of_isAvailable havailable).symm.trans hstate
  | extended lease duration hleased =>
    -- a heartbeat leaves the attempt running
    exfalso
    change (updateWhere _ _ job.attempts)[_]? = some a' at ha'
    rw [hattempts, updateWhere_append fun x hx => by simp [(hended x hx).1], List.getElem?_append_right le_rfl,
      Nat.sub_self] at ha'
    cases ha'
    refine hfinished.1 ?_
    split
    · exact hruns.state
    · exact hruns.state
  | completed lease e attempt hop hleased hfind hattempt =>
    rw [hattempts] at hfind
    rw [GenerationAttemptDocument.isLeasedTo, decide_eq_true_eq] at hattempt
    obtain ⟨rfl, -, -⟩ := attempt_of_find? hended hfind hattempt.1
    exact .inr (.inl ⟨lease, hattempt.2.1, hattempt.2.2, hop⟩)
  | cancelled campaignId hop hopen => exact .inr (.inr ⟨campaignId, hop⟩)

theorem JobsAfter.mayFinish (h : JobsAfter now digests s op jobs) (hs : s.IsSound)
    (hjob : job ∈ s.jobs) (hjob' : job' ∈ jobs) (hid : job'.id = job.id)
    (ha : job.attempts[i]? = some a) (hopen : ¬ a.IsFinished) (ha' : job'.attempts[i]? = some a')
    (hfinished : a'.IsFinished) : op.MayFinish digests now job a := by
  -- a job that is stored as before has the attempt as before
  have hsame : job' ∈ s.jobs → op.MayFinish digests now job a := by
    intro hmem
    obtain rfl := List.inj_on_of_nodup_map hs.unique hmem hjob hid
    rw [ha] at ha'
    cases ha'
    exact absurd hfinished hopen
  cases h with
  | same => exact hsame hjob'
  | added new hnew hfresh =>
    rcases mem_append.mp hjob' with hmem | hmem
    · exact hsame hmem
    · rw [mem_singleton.mp hmem] at hid
      exact absurd hid.symm (hfresh job hjob)
  | changed old new hmem hnew hchange =>
    rcases mem_updateById.mp hjob' with ⟨x, -, -, rfl⟩ | ⟨hmem', -⟩
    · obtain rfl := List.inj_on_of_nodup_map hs.unique hmem hjob (hnew.symm.trans hid)
      exact hchange.mayFinish (hs.sound old hmem) ha hopen ha' hfinished
    · exact hsame hmem'

end Store

/-! ## Every run -/

/-- **What holds of a stored job.** -/
structure GenerationJobDocument.LeaseLaw (job : GenerationJobDocument) : Prop where
  count : job.attemptCount = job.attempts.length ∧ job.attemptCount ≤ job.maxAttempts
  numbered : job.attempts.map (·.attemptNumber) = List.range' 1 job.attempts.length
  past : ∀ a ∈ job.attempts.dropLast, a.IsFinished
  running_iff : job.state = .running ↔ ∃ a, job.attempts.getLast? = some a ∧ a.RunsUnder job
  lease_iff : (∃ a, job.attempts.getLast? = some a ∧ ¬ a.IsFinished) ↔
    ∃ a, job.attempts.getLast? = some a ∧ a.RunsUnder job
  queued : job.state = .queued → job.attemptCount < job.maxAttempts

theorem GenerationJobDocument.IsSound.leaseLaw (h : job.IsSound) : job.LeaseLaw := by
  have hrunning : job.state = .running → ∃ a, job.attempts.getLast? = some a ∧ a.RunsUnder job := by
    intro hstate
    obtain ⟨ended, a, hattempts, -, hruns⟩ := h.running hstate
    exact ⟨a, by rw [hattempts, List.getLast?_concat], hruns⟩
  have hopen : (∃ a, job.attempts.getLast? = some a ∧ ¬ a.IsFinished) → job.state = .running := by
    rintro ⟨a, hlast, ha⟩
    by_contra hne
    exact ha ((h.idle hne).1 a (List.mem_of_getLast? hlast))
  have hruns : (∃ a, job.attempts.getLast? = some a ∧ a.RunsUnder job) →
      ∃ a, job.attempts.getLast? = some a ∧ ¬ a.IsFinished := by
    rintro ⟨a, hlast, ha⟩
    exact ⟨a, hlast, fun hfinished => hfinished.1 ha.state⟩
  constructor
  case count =>
    refine ⟨h.count, ?_⟩
    have hloaded := h.loaded
    unfold validateLoadedJob at hloaded
    obtain ⟨-, hloaded⟩ := seq_eq_ok.mp hloaded
    obtain ⟨-, hloaded⟩ := seq_eq_ok.mp hloaded
    obtain ⟨-, hloaded⟩ := seq_eq_ok.mp hloaded
    have hbounds := rejectIf_eq_ok.mp (seq_eq_ok.mp hloaded).1
    omega
  case numbered => exact h.numbered
  case past =>
    intro a ha
    by_cases hstate : job.state = .running
    · obtain ⟨ended, last, hattempts, hended, -⟩ := h.running hstate
      rw [hattempts, List.dropLast_concat] at ha
      exact hended a ha
    · exact (h.idle hstate).1 a (List.dropLast_subset _ ha)
  case running_iff => exact ⟨hrunning, fun hlast => hopen (hruns hlast)⟩
  case lease_iff => exact ⟨fun hlast => hrunning (hopen hlast), hruns⟩
  case queued => exact h.queued

section Runs

variable {digests : Digests} {q q' : QueueState} {event : QueueEvent}

theorem Elsewhere.isSound {s t : GenerationStore} (h : s.Elsewhere t) (hs : s.IsSound) : t.IsSound := by
  obtain ⟨-, -, slot, hjobs⟩ := h
  refine ⟨?_, ?_⟩
  · rw [hjobs, List.map_map]
    exact hs.unique
  · rw [hjobs]
    intro job hjob
    obtain ⟨x, hx, rfl⟩ := List.mem_map.mp hjob
    have hsound := hs.sound x hx
    refine ⟨hsound.loaded, hsound.count, hsound.numbered, fun hstate => ?_, hsound.idle, hsound.queued⟩
    obtain ⟨ended, a, hattempts, hended, hruns⟩ := hsound.running hstate
    exact ⟨ended, a, hattempts, hended, hruns.state, hruns.finishedAt, hruns.leaseOwner, hruns.leaseTokenDigest,
      hruns.leaseExpiresAt⟩

theorem QueueState.Step.isSound (h : q.Step digests event q') (hq : q.store.IsSound) : q'.store.IsSound := by
  cases event with
  | call op now =>
    obtain ⟨-, rfl⟩ := h
    have hjobs := op.run_jobs now digests q.store
    exact ⟨hjobs.unique hq, hjobs.sound hq⟩
  | elsewhere => exact Elsewhere.isSound h.2 hq

theorem QueueState.Step.evolves (h : q.Step digests event q') (hq : q.store.IsSound) :
    ∀ job ∈ q.store.jobs, ∃ job' ∈ q'.store.jobs, job.Evolves job' := by
  cases event with
  | call op now =>
    obtain ⟨-, rfl⟩ := h
    exact (op.run_jobs now digests q.store).evolves hq
  | elsewhere =>
    obtain ⟨-, -, -, slot, hjobs⟩ := h
    intro job hjob
    rw [hjobs]
    exact ⟨_, List.mem_map_of_mem hjob, rfl, fun _ => ⟨rfl, rfl⟩, fun _ _ ha _ => ha⟩

theorem evolves_of_run {events : List QueueEvent} (hrun : Run (QueueState.Step digests) q events q')
    (hq : q.store.IsSound) : ∀ job ∈ q.store.jobs, ∃ job' ∈ q'.store.jobs, job.Evolves job' := by
  induction hrun with
  | nil q => exact fun job hjob => ⟨job, hjob, .refl job⟩
  | cons hstep _ ih =>
    intro job hjob
    obtain ⟨job₁, hjob₁, hevolves₁⟩ := hstep.evolves hq job hjob
    obtain ⟨job₂, hjob₂, hevolves₂⟩ := ih (hstep.isSound hq) job₁ hjob₁
    exact ⟨job₂, hjob₂, hevolves₁.trans hevolves₂⟩

/-- **The lease machine.** In every state that a run reaches, the fields of every job agree; jobs that have ended and
attempts that are finished stay as they are; and a call ends an attempt only if it may. -/
theorem lease_machine (digests : Digests) {q q' : QueueState} {events : List QueueEvent} (hstart : q.store.IsSound)
    (hrun : Run (QueueState.Step digests) q events q') :
    q'.store.IsSound ∧ (∀ job ∈ q'.store.jobs, job.LeaseLaw) ∧
      (∀ job ∈ q.store.jobs, ∃ job' ∈ q'.store.jobs, job.Evolves job') ∧
      ∀ (op : Operation) (now : DateTime), ∀ job ∈ q'.store.jobs, ∀ job' ∈ (op.run now digests q'.store).2.jobs,
        job'.id = job.id → ∀ (i : Nat) (a a' : GenerationAttemptDocument), job.attempts[i]? = some a →
          ¬ a.IsFinished → job'.attempts[i]? = some a' → a'.IsFinished → op.MayFinish digests now job a := by
  have hsound : q'.store.IsSound := hrun.invariant (fun _ _ _ (hq : GenerationStore.IsSound _) h => h.isSound hq) hstart
  refine ⟨hsound, fun job hjob => (hsound.sound job hjob).leaseLaw, evolves_of_run hrun hstart, ?_⟩
  intro op now job hjob job' hjob' hid i a a' ha hopen ha' hfinished
  exact (op.run_jobs now digests q'.store).mayFinish hsound hjob hjob' hid ha hopen ha' hfinished

end Runs

/-! ## A story -/

/-- A request to parse the intent of a player, outside of any turn. -/
def intentRequest : NewGenerationJob where
  id := "generation-job-1"
  campaignSessionId := "campaign-1"
  originTurnId := none
  originCampaignRevision := 1
  purpose := .intentParsing
  idempotencyKey := "generation-key-1"
  inputDigest := "input"
  promptDigest := "prompt"
  policyDigest := "policy"
  configDigest := "config"
  correlationId := none
  maxAttempts := 1
  successRetention := .unselectedPresentation30Days
  governance := none

def plainDigests : Digests := ⟨fun token => "digest-of-" ++ token, fun fields => String.intercalate "," fields, fun _ => "governance"⟩

def emptyQueue : QueueState := ⟨0, ⟨[⟨"campaign-1", 1, 0, 0⟩], [], [], [], [], []⟩⟩

def workerClaim : GenerationClaim := ⟨"worker-1", "provider-1", "model-1", 60000⟩

/-- The job is enqueued, and claimed by a worker. -/
def claimedStore : GenerationStore :=
  ((Operation.claim workerClaim ⟨none, none⟩ "attempt-1" "token-1").run 1000 plainDigests
    ((Operation.enqueue intentRequest).run 0 plainDigests emptyQueue.store).2).2

theorem run_claimedStore : Run (QueueState.Step plainDigests) emptyQueue
    [.call (.enqueue intentRequest) 0, .call (.claim workerClaim ⟨none, none⟩ "attempt-1" "token-1") 1000]
    ⟨1000, claimedStore⟩ :=
  .cons ⟨le_rfl, rfl⟩ (.cons ⟨by decide, rfl⟩ (.nil _))

/-- A job that a worker has claimed is sound. -/
theorem lease_machine_claimed : claimedStore.IsSound ∧ claimedStore.jobs.length = 1 :=
  ⟨(lease_machine plainDigests (isSound_of_no_jobs rfl) run_claimedStore).1, by decide⟩

/-- **A cancellation ends an attempt whose lease runs**, without its token. -/
theorem cancelled_attempt_is_finished : Run (QueueState.Step plainDigests) emptyQueue
    [.call (.enqueue intentRequest) 0, .call (.claim workerClaim ⟨none, none⟩ "attempt-1" "token-1") 1000]
    ⟨1000, claimedStore⟩ ∧ ∃ job ∈ claimedStore.jobs, ∃ a, job.attempts[0]? = some a ∧ ¬ a.IsFinished ∧
      job.isActive 2000 = true ∧
      ∃ job' ∈ ((Operation.cancel "campaign-1" "generation-job-1").run 2000 plainDigests claimedStore).2.jobs,
        job'.id = job.id ∧ (∃ a', job'.attempts[0]? = some a' ∧ a'.IsFinished) ∧
        ¬ (Operation.cancel "campaign-1" "generation-job-1").HoldsLease plainDigests a := by
  refine ⟨run_claimedStore, ?_⟩
  have hclaimed : ∃ job ∈ claimedStore.jobs, ∃ a, job.attempts[0]? = some a ∧ ¬ a.IsFinished ∧
      job.isActive 2000 = true ∧
      ∃ job' ∈ ((Operation.cancel "campaign-1" "generation-job-1").run 2000 plainDigests claimedStore).2.jobs,
        job'.id = job.id ∧ ∃ a', job'.attempts[0]? = some a' ∧ a'.IsFinished := by
    refine ⟨claimedStore.jobs.head (by decide), List.head_mem _,
      (claimedStore.jobs.head (by decide)).attempts.head (by decide), ?_, ?_, ?_,
      ((Operation.cancel "campaign-1" "generation-job-1").run 2000 plainDigests claimedStore).2.jobs.head
        (by decide), List.head_mem _, by decide,
      (((Operation.cancel "campaign-1" "generation-job-1").run 2000 plainDigests claimedStore).2.jobs.head
        (by decide)).attempts.head (by decide), ?_, ?_, ?_⟩
    all_goals first | decide | exact fun h => h.1 (by decide)
  obtain ⟨job, hjob, a, ha, hopen, hactive, job', hjob', hid, hfinished⟩ := hclaimed
  refine ⟨job, hjob, a, ha, hopen, hactive, job', hjob', hid, hfinished, ?_⟩
  rintro ⟨lease, -, -, ⟨success, h⟩ | ⟨failure, h⟩⟩ <;> cases h

end ManchesterArcana.Generation
