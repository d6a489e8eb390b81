import Mathlib.Data.List.Perm.Subperm
import ManchesterArcana.Persistence.Signup

/-!
# `Persistence.LoginSessions` — the limit on active sessions

A login inserts a session and revokes the oldest of the account's other active ones that it sees beyond the
limit. It writes neither the account nor the sessions it keeps, so two logins on one snapshot make room for
one session each and leave one too many (`logins_exceed_limit`).

The limit holds in every run whose logins see the sessions that are active when they commit (`Undisturbed`) and
where no authentication brings back a session that a login took for expired (`NotRevived`).
-/

namespace ManchesterArcana.Persistence

open Effect Store
open List (map_cons mem_append mem_filter mem_map mem_map_of_mem mem_singleton mem_singleton_self)

/-- The number of the account's sessions that are neither revoked nor expired. -/
def AuthStore.activeSessions (s : AuthStore) (accountId : String) (t : Int) : Nat :=
  s.accountSessions.countP fun x => x.accountId = accountId ∧ x.activeAt t

/-! ## The order of age -/

namespace AccountSessionDocument

theorem newerOrSame_total (a b : AccountSessionDocument) : (a.newerOrSame b || b.newerOrSame a) = true := by
  simp only [newerOrSame, Bool.or_eq_true, decide_eq_true_eq]
  rcases Int.lt_trichotomy a.createdAt b.createdAt with hlt | heq | hgt
  · exact .inr (.inl hlt)
  · by_cases hid : a.id < b.id
    · exact .inr (.inr ⟨heq, String.lt_asymm hid⟩)
    · exact .inl (.inr ⟨heq.symm, hid⟩)
  · exact .inl (.inl hgt)

theorem newerOrSame_trans (a b c : AccountSessionDocument) (hab : a.newerOrSame b = true)
    (hbc : b.newerOrSame c = true) : a.newerOrSame c = true := by
  simp only [newerOrSame, decide_eq_true_eq] at hab hbc ⊢
  rcases hab with hab | ⟨hab, hid⟩
  · left
    omega
  · rcases hbc with hbc | ⟨hbc, hid'⟩
    · left
      omega
    · right
      refine ⟨by omega, ?_⟩
      rw [String.not_lt] at hid hid' ⊢
      exact String.le_trans hid' hid

/-- The age of a session is its creation time and its id. -/
theorem newerOrSame_congr {a a' b : AccountSessionDocument} (hid : a'.id = a.id) (hcreated : a'.createdAt = a.createdAt) :
    a'.newerOrSame b = a.newerOrSame b := by
  unfold newerOrSame
  rw [hid, hcreated]

theorem activeAt_mono {x : AccountSessionDocument} {t t' : Int} (hle : t ≤ t') (h : x.activeAt t' = true) :
    x.activeAt t = true := by
  simp only [activeAt, decide_eq_true_eq] at h ⊢
  exact ⟨h.1, by omega, by omega⟩

end AccountSessionDocument

/-- What `excessSessions` sorts. -/
def competingSessions (s : AuthStore) (accountId keepSessionId : String) (now : Int) : List AccountSessionDocument :=
  s.accountSessions.filter fun x => x.accountId = accountId ∧ x.id ≠ keepSessionId ∧ x.activeAt now

/-- The sessions that a login leaves room for. -/
def keptSessions (s : AuthStore) (accountId keepSessionId : String) (maximumActive : Nat) (now : Int) :
    List AccountSessionDocument :=
  ((competingSessions s accountId keepSessionId now).mergeSort AccountSessionDocument.newerOrSame).take (maximumActive - 1)

variable {now t : Int} {s s' : AuthStore} {m : Nat} {x : AccountSessionDocument} {d : AuthDecision} {a : String}
  {xs : List AccountSessionDocument} {ids : List String} {commits : List (Committed AuthJob AuthStore)}

variable {accountId keepSessionId keep : String} {newSession : NewMongoAccountSession} {job : AuthJob}
  {c : Committed AuthJob AuthStore}

/-- **An active session is kept or in excess.** -/
theorem mem_kept_or_excess : x ∈ competingSessions s accountId keepSessionId now ↔
      x ∈ keptSessions s accountId keepSessionId m now ∨ x ∈ excessSessions s accountId keepSessionId m now := by
  show _ ↔ x ∈ ((competingSessions s accountId keepSessionId now).mergeSort _).take (m - 1) ∨
    x ∈ ((competingSessions s accountId keepSessionId now).mergeSort _).drop (m - 1)
  rw [← mem_append, List.take_append_drop, List.mem_mergeSort]

/-- **What is in excess is older than all that is kept.** -/
theorem kept_newer_than_excess
    {y : AccountSessionDocument} (hy : y ∈ keptSessions s accountId keepSessionId m now)
    (hx : x ∈ excessSessions s accountId keepSessionId m now) : y.newerOrSame x = true := by
  have hsorted := List.pairwise_mergeSort AccountSessionDocument.newerOrSame_trans
    AccountSessionDocument.newerOrSame_total (competingSessions s accountId keepSessionId now)
  rw [← List.take_append_drop (m - 1) ((competingSessions s accountId keepSessionId now).mergeSort _),
    List.pairwise_append] at hsorted
  exact hsorted.2.2 y hy x hx

theorem length_keptSessions_le (s : AuthStore) (accountId keepSessionId : String) (m : Nat) (now : Int) :
    (keptSessions s accountId keepSessionId m now).length ≤ m - 1 := by
  unfold keptSessions
  exact List.length_take_le _ _

/-- A list without repeated ids that is all among others is no longer than they are. -/
theorem length_le_of_ids {ys : List AccountSessionDocument} (hnodup : (xs.map (·.id)).Nodup)
    (h : ∀ x ∈ xs, ∃ y ∈ ys, y.id = x.id) : xs.length ≤ ys.length := by
  have hsub : xs.map (·.id) ⊆ ys.map (·.id) := by
    intro id hid
    obtain ⟨x, hx, rfl⟩ := mem_map.mp hid
    obtain ⟨y, hy, hsame⟩ := h x hx
    exact mem_map.mpr ⟨y, hy, hsame⟩
  have hle := (List.subperm_of_subset hnodup hsub).length_le
  rwa [List.length_map, List.length_map] at hle

/-! ## What a transaction does to the sessions -/

/-- Everything that can happen to the sessions in one commit. -/
inductive SessionEffect (m : Nat) (s : AuthStore) (d : AuthDecision) : AuthJob → Prop where
  | unchanged {job : AuthJob} :
      (∀ s', (d.apply s').accountSessions = s'.accountSessions) → SessionEffect m s d job
  | revoked {job : AuthJob} (ids : List String) (now : Int) :
      (∀ s', (d.apply s').accountSessions = revokeAll ids now s'.accountSessions) → SessionEffect m s d job
  | deleted (id : String) (now : Int) :
      (∀ s', (d.apply s').accountSessions = s'.accountSessions.filter (·.id ≠ id)) →
      SessionEffect m s d (.cleanupExpiredAccountSession id now)
  | signedUp (write : CompleteSignupWrite) (now : Int) :
      (∀ s', (d.apply s').accountSessions = s'.accountSessions ++ [accountSessionDocument write.accountSession now]) →
      SessionEffect m s d (.completeSignup write now)
  | loggedIn (newSession : NewMongoAccountSession) (now : Int) :
      (∀ x ∈ s.accountSessions, x.id ≠ newSession.id ∧ x.bearerDigest ≠ newSession.bearerDigest) →
      d.writes = sessionKeys newSession ++
        ((excessSessions s newSession.accountId newSession.id m now).map (·.id)).map (.document .accountSessions) →
      (∀ s', (d.apply s').accountSessions =
        revokeAll ((excessSessions s newSession.accountId newSession.id m now).map (·.id)) now s'.accountSessions ++
          [accountSessionDocument newSession now]) → (∀ s', (d.apply s').accounts = s'.accounts) →
      SessionEffect m s d (.createLoginSession newSession now)
  | refreshed (digest : String) (lifetime now : Int) (stored : AccountSessionDocument) (idle : Int) :
      stored ∈ s.accountSessions → stored.bearerDigest = digest → stored.activeAt now = true →
      d.writes = [.document .accountSessions stored.id] →
      (∀ s', (d.apply s').accountSessions = updateById (·.id) stored.id
        (fun x => { x with lastSeenAt := now, idleExpiresAt := idle }) s'.accountSessions) →
      SessionEffect m s d (.authenticateSessionDigest digest lifetime now)

/-- What a login found, and what it decides. -/
theorem createLoginSession_eq_ok
    (h : createLoginSession m newSession now s = .ok d) :
    (∀ x ∈ s.accountSessions, x.id ≠ newSession.id ∧ x.bearerDigest ≠ newSession.bearerDigest) ∧
    d.writes = sessionKeys newSession ++
      ((excessSessions s newSession.accountId newSession.id m now).map (·.id)).map (.document .accountSessions) ∧
    ∀ s', (d.apply s').accounts = s'.accounts ∧ (d.apply s').accountSessions =
      revokeAll ((excessSessions s newSession.accountId newSession.id m now).map (·.id)) now s'.accountSessions ++
        [accountSessionDocument newSession now] := by
  simp only [createLoginSession, bind_eq_ok, exists_unit, okOr_eq_ok, rejectIf_eq_ok, pure_eq,
    Except.ok.injEq] at h
  obtain ⟨account, haccount, hroom, rfl⟩ := h
  have hid := List.find?_some haccount
  simp only [decide_eq_true_eq] at hid
  rw [hid.1]
  refine ⟨fun x hx => ⟨fun hsame => ?_, fun hsame => ?_⟩, rfl, fun _ => ⟨rfl, rfl⟩⟩
  · exact hroom ⟨x, hx, .inl hsame⟩
  · exact hroom ⟨x, hx, .inr (.inl hsame)⟩

theorem transact_sessions
    (h : transact m job s = .ok d) : SessionEffect m s d job := by
  cases job with
  | issueSignupAccessToken token =>
    simp only [transact, issueSignupAccessToken, bind_eq_ok, exists_unit, pure_eq, Except.ok.injEq] at h
    obtain ⟨-, rfl⟩ := h
    exact .unchanged fun _ => rfl
  | beginSignup signup now =>
    simp only [transact, beginSignup, bind_eq_ok, exists_unit, pure_eq, Except.ok.injEq] at h
    obtain ⟨access, -, -, rfl⟩ := h
    exact .unchanged fun _ => rfl
  | revokeSignupAccessToken tokenId =>
    simp only [transact, revokeSignupAccessToken] at h
    split at h <;> obtain rfl := Except.ok.inj h <;> exact .unchanged fun _ => rfl
  | completeSignup write now =>
    obtain ⟨signup, access, -, -, -, -, -, -, -, -, happly⟩ := completeSignup_eq_ok h
    exact .signedUp write now fun s' => by rw [happly]
  | createLoginSession newSession now =>
    obtain ⟨hroom, hwrites, happly⟩ := createLoginSession_eq_ok h
    exact .loggedIn newSession now hroom hwrites (fun s' => (happly s').2) fun s' => (happly s').1
  | authenticateSessionDigest digest lifetime now =>
    simp only [transact, authenticateSessionDigest] at h
    split at h
    · obtain rfl := Except.ok.inj h
      exact .unchanged fun _ => rfl
    · next stored hstored =>
      split at h
      · obtain rfl := Except.ok.inj h
        exact .unchanged fun _ => rfl
      · split at h
        · obtain rfl := Except.ok.inj h
          exact .unchanged fun _ => rfl
        · obtain rfl := Except.ok.inj h
          have hfound := List.find?_some hstored
          simp only [decide_eq_true_eq] at hfound
          exact .refreshed digest lifetime now stored _ (List.mem_of_find?_eq_some hstored) hfound.1 hfound.2 rfl
            fun _ => rfl
  | updatePasswordAndRevokeSessions accountId phc now =>
    simp only [transact, updatePasswordAndRevokeSessions, bind_eq_ok, pure_eq, Except.ok.injEq] at h
    obtain ⟨account, -, rfl⟩ := h
    exact .revoked _ now fun _ => rfl
  | revokeAccountSession accountId sessionId now =>
    simp only [transact, revokeAccountSession] at h
    split at h
    · obtain rfl := Except.ok.inj h
      exact .unchanged fun _ => rfl
    · obtain rfl := Except.ok.inj h
      exact .revoked [sessionId] now fun _ => rfl
  | cleanupExpiredAccountSession sessionId now =>
    simp only [transact, cleanupExpiredAccountSession] at h
    split at h
    · obtain rfl := Except.ok.inj h
      exact .deleted sessionId now fun _ => rfl
    · obtain rfl := Except.ok.inj h
      exact .unchanged fun _ => rfl

theorem accounts_kept
    (h : transact m job s = .ok d) {id : String} (hid : id ∈ s'.accounts.map (·.id)) :
    id ∈ (d.apply s').accounts.map (·.id) := by
  obtain ⟨a, ha, rfl⟩ := mem_map.mp hid
  obtain ⟨created, ⟨rewrite, hkeeps, haccounts⟩, -⟩ := transact_accounts h s'
  rw [haccounts]
  exact mem_map.mpr ⟨rewrite a, List.mem_append_left _ (mem_map_of_mem ha), (hkeeps a).1⟩

theorem map_id_revokeAll (ids : List String) (now : Int) (xs : List AccountSessionDocument) :
    (revokeAll ids now xs).map (·.id) = xs.map (·.id) := by
  unfold revokeAll
  rw [List.map_map]
  refine List.map_congr_left fun x _ => ?_
  show (if x.id ∈ ids then x.revoke now else x).id = x.id
  split <;> rfl

/-! ## Counting active sessions -/

/-- Of the sessions that a revocation is made on, those remain active that it leaves out. -/
theorem activeAt_revoke
    (h : (if x.id ∈ ids then x.revoke now else x).activeAt t = true) : x.id ∉ ids ∧ x.activeAt t = true := by
  split at h
  · simp [AccountSessionDocument.revoke, AccountSessionDocument.activeAt, AccountSessionDocument.unrevoked] at h
  · next hid => exact ⟨hid, h⟩

theorem accountId_revoke :
    (if x.id ∈ ids then x.revoke now else x).accountId = x.accountId := by split <;> rfl

/-- **Revoking only takes away.** -/
theorem countP_revokeAll_le :
    (revokeAll ids now xs).countP (fun x => x.accountId = a ∧ x.activeAt t) ≤
      xs.countP fun x => x.accountId = a ∧ x.activeAt t := by
  unfold revokeAll
  rw [List.countP_map]
  refine List.countP_mono_left fun x _ hx => ?_
  simp only [Function.comp_apply, decide_eq_true_eq, accountId_revoke] at hx ⊢
  exact ⟨hx.1, (activeAt_revoke hx.2).2⟩

/-- A login that sees the account's active sessions leaves room for its own. -/
theorem countP_login_le (ht : now ≤ t)
    (hnodup : (s'.accountSessions.map (·.id)).Nodup) (hkeep : ∀ x ∈ s.accountSessions, x.id ≠ keep)
    (hseen : ∀ x ∈ s'.accountSessions, x.accountId = a → x.activeAt now = true →
      ∃ y ∈ s.accountSessions, y.id = x.id ∧ y.accountId = x.accountId ∧ y.createdAt = x.createdAt ∧
        y.activeAt now = true) :
    (revokeAll ((excessSessions s a keep m now).map (·.id)) now s'.accountSessions).countP
      (fun x => x.accountId = a ∧ x.activeAt t) ≤ m - 1 := by
  refine Nat.le_trans ?_ (length_keptSessions_le s a keep m now)
  unfold revokeAll
  rw [List.countP_map, List.countP_eq_length_filter]
  refine length_le_of_ids (List.Sublist.nodup (List.filter_sublist.map _) hnodup) fun x hx => ?_
  rw [mem_filter] at hx
  simp only [Function.comp_apply, decide_eq_true_eq, accountId_revoke] at hx
  obtain ⟨hmem, haccount, hactive⟩ := hx
  obtain ⟨hid, hactive⟩ := activeAt_revoke hactive
  obtain ⟨y, hy, hsame, howner, -, hyactive⟩ := hseen x hmem haccount (AccountSessionDocument.activeAt_mono ht hactive)
  have hcompeting : y ∈ competingSessions s a keep now := by
    unfold competingSessions
    rw [mem_filter, decide_eq_true_eq]
    exact ⟨hy, howner.trans haccount, hkeep y hy, hyactive⟩
  rcases mem_kept_or_excess.mp hcompeting with hkept | hexcess
  · exact ⟨y, hkept, hsame⟩
  · rw [← hsame] at hid
    exact absurd (mem_map.mpr ⟨y, hexcess, rfl⟩) hid

/-- **A refreshed session counts when it was active before.** -/
theorem countP_refresh_le {stored : AccountSessionDocument}
    {idle t₀ : Int} (hnodup : (xs.map (·.id)).Nodup) (hstored : stored ∈ xs) (ht : t₀ ≤ t)
    (hactive : stored.accountId = a → stored.activeAt t₀ = true) :
    (updateById (·.id) stored.id (fun x => { x with lastSeenAt := now, idleExpiresAt := idle }) xs).countP
      (fun x => x.accountId = a ∧ x.activeAt t) ≤ xs.countP fun x => x.accountId = a ∧ x.activeAt t₀ := by
  unfold updateById
  rw [List.countP_map]
  refine List.countP_mono_left fun x hx h => ?_
  simp only [Function.comp_apply, decide_eq_true_eq] at h ⊢
  split at h
  · next hid =>
    obtain rfl : x = stored := List.inj_on_of_nodup_map hnodup hx hstored hid
    exact ⟨h.1, hactive h.1⟩
  · exact ⟨h.1, AccountSessionDocument.activeAt_mono ht h.2⟩

/-! ## Runs -/

/-- The clock readings of the account's logins. -/
def loginReadings (accountId : String) (commits : List (Committed AuthJob AuthStore)) : List Int :=
  commits.filterMap fun c =>
    match c.job with
    | .createLoginSession newSession now => if newSession.accountId = accountId then some now else none
    | _ => none

/-- **A login that commits undisturbed**: the account still has the version that was logged in to, every session
    that is active now was there to be seen, and the new session is not expired yet. -/
structure Undisturbed (c : Committed AuthJob AuthStore) : Prop where
  account : ∀ newSession now, c.job = .createLoginSession newSession now →
    ∃ a ∈ c.before.accounts, a.id = newSession.accountId ∧ a.passwordRoleVersion = newSession.passwordRoleVersion
  sessions : ∀ newSession now, c.job = .createLoginSession newSession now →
    ∀ x ∈ c.before.accountSessions, x.accountId = newSession.accountId → x.activeAt now = true →
      ∃ y ∈ c.snapshot.accountSessions, y.id = x.id ∧ y.accountId = x.accountId ∧ y.createdAt = x.createdAt ∧
        y.activeAt now = true
  unexpired : ∀ newSession now, c.job = .createLoginSession newSession now →
    now < newSession.idleExpiresAt ∧ now < newSession.absoluteExpiresAt

/-- **No authentication brings back** a session that was expired for an earlier login of its account. -/
def NotRevived (c c' : Committed AuthJob AuthStore) : Prop :=
  ∀ digest lifetime now, c'.job = .authenticateSessionDigest digest lifetime now →
    ∀ x ∈ c'.before.accountSessions, x.bearerDigest = digest → x.activeAt now = true →
      ∀ r ∈ loginReadings x.accountId [c], x.activeAt r = true

theorem loginReadings_append (a : String) (commits commits' : List (Committed AuthJob AuthStore)) :
    loginReadings a (commits ++ commits') = loginReadings a commits ++ loginReadings a commits' :=
  List.filterMap_append

theorem mem_loginReadings {r : Int} :
    r ∈ loginReadings a commits ↔ ∃ c ∈ commits, r ∈ loginReadings a [c] := by
  induction commits with
  | nil => simp [loginReadings]
  | cons c commits ih =>
    rw [← List.singleton_append, loginReadings_append, mem_append, ih]
    simp

/-- The latest of some times that have a property has it. -/
theorem exists_latest {P : Int → Prop} {t₁ : Int} (ht₁ : t₁ ≤ t) (h₁ : P t₁) {readings : List Int}
    (hle : ∀ r ∈ readings, r ≤ t) (hP : ∀ r ∈ readings, P r) : ∃ t₀ ≤ t, P t₀ ∧ ∀ r ∈ readings, r ≤ t₀ := by
  induction readings with
  | nil => exact ⟨t₁, ht₁, h₁, nofun⟩
  | cons r readings ih =>
    rw [List.forall_mem_cons] at hle hP
    obtain ⟨t₀, ht₀, h₀, hlatest⟩ := ih hle.2 hP.2
    rcases Int.le_total r t₀ with hr | hr
    · exact ⟨t₀, ht₀, h₀, List.forall_mem_cons.mpr ⟨hr, hlatest⟩⟩
    · refine ⟨r, hle.1, hP.1, List.forall_mem_cons.mpr ⟨Int.le_refl r, fun q hq => ?_⟩⟩
      exact Int.le_trans (hlatest q hq) hr

/-- What the commits of a run leave of the sessions. -/
structure LoginHistory (m : Nat) (commits : List (Committed AuthJob AuthStore)) (s : AuthStore) : Prop where
  ids : (s.accountSessions.map (·.id)).Nodup
  owned : ∀ x ∈ s.accountSessions, x.accountId ∈ s.accounts.map (·.id)
  limited : commits.Pairwise NotRevived → ∀ a t, (∀ r ∈ loginReadings a commits, r ≤ t) → s.activeSessions a t ≤ m

/-- A store with no other sessions than before counts no more. -/
theorem LoginHistory.fewer (h : LoginHistory m commits s')
    (hids : (s.accountSessions.map (·.id)).Sublist (s'.accountSessions.map (·.id)))
    (howned : ∀ x ∈ s.accountSessions, ∃ y ∈ s'.accountSessions, y.accountId = x.accountId)
    (haccounts : ∀ id ∈ s'.accounts.map (·.id), id ∈ s.accounts.map (·.id))
    (hfewer : ∀ a t, s.activeSessions a t ≤ s'.activeSessions a t) : LoginHistory m (commits ++ [c]) s where
  ids := hids.nodup h.ids
  owned x hx := by
    obtain ⟨y, hy, hsame⟩ := howned x hx
    rw [← hsame]
    exact haccounts _ (h.owned y hy)
  limited hordered a t hr := by
    rw [loginReadings_append] at hr
    refine Nat.le_trans (hfewer a t) (h.limited (List.pairwise_append.mp hordered).1 a t fun r hmem => ?_)
    exact hr r (List.mem_append_left _ hmem)

/-- **One more commit.** -/
theorem LoginHistory.commit {m : Nat} (hm : 0 < m) {commits : List (Committed AuthJob AuthStore)} {job : AuthJob}
    {s s' : AuthStore} {d : AuthDecision} (h : LoginHistory m commits s') (hbody : transact m job s = .ok d)
    (hagree : ∀ k ∈ d.writes, AuthStore.agree k s s') (hundisturbed : Undisturbed ⟨job, s, s'⟩) :
    LoginHistory m (commits ++ [⟨job, s, s'⟩]) (d.apply s') := by
  have haccounts : ∀ id ∈ s'.accounts.map (·.id), id ∈ (d.apply s').accounts.map (·.id) :=
    fun id hid => accounts_kept hbody hid
  cases transact_sessions hbody with
  | unchanged hsessions =>
    refine h.fewer ?_ (fun x hx => ?_) haccounts fun a t => ?_
    · rw [hsessions]
    · rw [hsessions] at hx
      exact ⟨x, hx, rfl⟩
    · unfold AuthStore.activeSessions
      refine Nat.le_of_eq ?_
      rw [hsessions]
  | revoked ids now hsessions =>
    refine h.fewer ?_ (fun x hx => ?_) haccounts fun a t => ?_
    · rw [hsessions, map_id_revokeAll]
    · rw [hsessions] at hx
      obtain ⟨y, hy, rfl⟩ := mem_map.mp hx
      exact ⟨y, hy, accountId_revoke.symm⟩
    · unfold AuthStore.activeSessions
      rw [hsessions]
      exact countP_revokeAll_le
  | deleted id now hsessions =>
    refine h.fewer ?_ (fun x hx => ?_) haccounts fun a t => ?_
    · rw [hsessions]
      exact List.filter_sublist.map _
    · rw [hsessions] at hx
      exact ⟨x, (mem_filter.mp hx).1, rfl⟩
    · unfold AuthStore.activeSessions
      rw [hsessions]
      exact List.filter_sublist.countP_le
  | signedUp write now hsessions =>
    obtain ⟨signup, access, -, -, -, -, -, hfresh, hroom, hwrites, happly⟩ := completeSignup_eq_ok hbody
    -- No session is there of an account that is not.
    have hnone : ∀ x ∈ s'.accountSessions, x.accountId ≠ write.account.id := by
      intro x hx hsame
      obtain ⟨account, hmem, hid⟩ := mem_map.mp (h.owned x hx)
      have hkey : AuthKey.document .accounts write.account.id ∈ d.writes := by
        rw [hwrites]
        exact List.mem_cons_self
      exact hfresh account ((hagree _ hkey account (hid.trans hsame)).mpr hmem) (hid.trans hsame)
    have hnew : ∀ x ∈ s'.accountSessions, x.id ≠ write.accountSession.id := by
      intro x hx hsame
      have hkey : AuthKey.document .accountSessions write.accountSession.id ∈ d.writes := by
        rw [hwrites]
        simp [sessionKeys]
      exact hroom x ((hagree _ hkey x hsame).mpr hx) hsame
    refine ⟨?_, fun x hx => ?_, fun hordered a t hr => ?_⟩
    · rw [hsessions]
      exact nodup_map_append h.ids hnew
    · rw [hsessions] at hx
      rcases mem_append.mp hx with hx | hx
      · exact haccounts _ (h.owned x hx)
      · rw [mem_singleton.mp hx, happly, List.map_append]
        refine List.mem_append_right _ ?_
        show write.accountSession.accountId ∈ [write.account.id]
        rw [write.ofAccount]
        exact mem_singleton_self _
    · rw [loginReadings_append] at hr
      have hbefore := h.limited (List.pairwise_append.mp hordered).1 a t
        fun r hmem => hr r (List.mem_append_left _ hmem)
      unfold AuthStore.activeSessions at hbefore ⊢
      rw [hsessions, List.countP_append]
      by_cases ha : write.account.id = a
      · have hzero : s'.accountSessions.countP (fun x => x.accountId = a ∧ x.activeAt t) = 0 := by
          rw [List.countP_eq_zero]
          intro x hx
          simp only [decide_eq_true_eq, not_and]
          exact fun hsame => absurd (hsame.trans ha.symm) (hnone x hx)
        have hone := List.countP_le_length
          (p := fun x : AccountSessionDocument => decide (x.accountId = a ∧ x.activeAt t))
          (l := [accountSessionDocument write.accountSession now])
        rw [List.length_singleton] at hone
        omega
      · have hzero : [accountSessionDocument write.accountSession now].countP
            (fun x => x.accountId = a ∧ x.activeAt t) = 0 := by
          rw [List.countP_eq_zero]
          intro x hx
          rw [mem_singleton.mp hx]
          simp only [decide_eq_true_eq, not_and]
          exact fun hsame => absurd (write.ofAccount.symm.trans hsame) ha
        omega
  | loggedIn newSession now hroom hwrites hsessions hsame =>
    have hnew : ∀ x ∈ s'.accountSessions, x.id ≠ newSession.id := by
      intro x hx hid
      have hkey : AuthKey.document .accountSessions newSession.id ∈ d.writes := by
        rw [hwrites]
        simp [sessionKeys]
      exact (hroom x ((hagree _ hkey x hid).mpr hx)).1 hid
    obtain ⟨account, haccount, hid, -⟩ := hundisturbed.account newSession now rfl
    refine ⟨?_, fun x hx => ?_, fun hordered a t hr => ?_⟩
    · rw [hsessions]
      refine nodup_map_append (by rw [map_id_revokeAll]; exact h.ids) fun x hx hid => ?_
      obtain ⟨y, hy, hyx⟩ := mem_map.mp hx
      refine hnew y hy ?_
      rw [← hyx] at hid
      split at hid <;> exact hid
    · rw [hsessions] at hx
      rw [hsame]
      rcases mem_append.mp hx with hx | hx
      · obtain ⟨y, hy, rfl⟩ := mem_map.mp hx
        rw [accountId_revoke]
        exact h.owned y hy
      · rw [mem_singleton.mp hx]
        exact mem_map.mpr ⟨account, haccount, hid⟩
    · rw [loginReadings_append] at hr
      have hbefore := h.limited (List.pairwise_append.mp hordered).1 a t
        fun r hmem => hr r (List.mem_append_left _ hmem)
      unfold AuthStore.activeSessions at hbefore ⊢
      rw [hsessions, List.countP_append]
      by_cases ha : newSession.accountId = a
      · subst ha
        have hnow : now ≤ t := hr now (List.mem_append_right _ (by simp [loginReadings]))
        have hkept := countP_login_le hnow h.ids (fun x hx => (hroom x hx).1) (m := m) (hundisturbed.sessions newSession now rfl)
        have hone := List.countP_le_length
          (p := fun x : AccountSessionDocument => decide (x.accountId = newSession.accountId ∧ x.activeAt t))
          (l := [accountSessionDocument newSession now])
        rw [List.length_singleton] at hone
        omega
      · have hzero : [accountSessionDocument newSession now].countP
            (fun x => x.accountId = a ∧ x.activeAt t) = 0 := by
          rw [List.countP_eq_zero]
          intro x hx
          rw [mem_singleton.mp hx]
          simp only [decide_eq_true_eq, not_and]
          exact fun hsame => absurd hsame ha
        rw [hzero]
        exact Nat.le_trans countP_revokeAll_le hbefore
  | refreshed digest lifetime now stored idle hstored hdigest hactive hwrites hsessions =>
    have hstored' : stored ∈ s'.accountSessions := by
      refine (hagree (.document .accountSessions stored.id) ?_ stored rfl).mp hstored
      rw [hwrites]
      exact mem_singleton_self _
    refine ⟨?_, fun x hx => ?_, fun hordered a t hr => ?_⟩
    · rw [hsessions, map_id_updateById fun _ => by rfl]
      exact h.ids
    · rw [hsessions] at hx
      rcases mem_updateById.mp hx with ⟨y, hy, -, rfl⟩ | ⟨hx, -⟩
      · exact haccounts _ (h.owned y hy)
      · exact haccounts _ (h.owned x hx)
    · rw [loginReadings_append] at hr
      have hpast : ∀ r ∈ loginReadings a commits, r ≤ t := fun r hmem => hr r (List.mem_append_left _ hmem)
      obtain ⟨hordered, -, hrevived⟩ := List.pairwise_append.mp hordered
      unfold AuthStore.activeSessions
      rw [hsessions]
      by_cases ha : stored.accountId = a
      · subst ha
        -- The session was active at every login so far, and when it was authenticated.
        have hseen : ∀ r ∈ loginReadings stored.accountId commits, stored.activeAt r = true := by
          intro r hmem
          obtain ⟨c, hc, hmem⟩ := mem_loginReadings.mp hmem
          exact hrevived c hc _ (mem_singleton_self _) digest lifetime now rfl stored hstored' hdigest hactive r hmem
        obtain ⟨t₀, ht₀, hactive₀, hlatest⟩ := exists_latest (Int.min_le_left t now)
          (AccountSessionDocument.activeAt_mono (Int.min_le_right t now) hactive) hpast hseen
        exact Nat.le_trans (countP_refresh_le h.ids hstored' ht₀ fun _ => hactive₀)
          (h.limited hordered _ t₀ hlatest)
      · exact Nat.le_trans (countP_refresh_le h.ids hstored' (Int.le_refl t) fun hsame => absurd hsame ha)
          (h.limited hordered a t hpast)

/-- What a login does to the sessions that are there when it commits. -/
theorem login_makes_room (hids : (s'.accountSessions.map (·.id)).Nodup)
    (hbody : transact m (.createLoginSession newSession now) s = .ok d)
    (hagree : ∀ k ∈ d.writes, AuthStore.agree k s s')
    (hundisturbed : Undisturbed ⟨.createLoginSession newSession now, s, s'⟩) :
    ∀ x ∈ s'.accountSessions, x ∉ (d.apply s').accountSessions →
      x.accountId = newSession.accountId ∧ x.activeAt now = true ∧
      ∀ y ∈ s'.accountSessions, y ∈ (d.apply s').accountSessions → y.accountId = newSession.accountId →
        y.activeAt now = true → y.newerOrSame x = true := by
  obtain ⟨hroom, hwrites, happly⟩ := createLoginSession_eq_ok hbody
  intro x hx hgone
  rw [(happly s').2, mem_append, not_or] at hgone
  -- Only what is in excess is changed, and it is as the snapshot had it.
  have hrevoked : x ∈ excessSessions s newSession.accountId newSession.id m now := by
    by_contra hkept
    refine hgone.1 ((mem_revokeAll_of_not_mem fun hid => hkept ?_).mpr hx)
    obtain ⟨x₀, hx₀, hid⟩ := mem_map.mp hid
    have hkey : AuthKey.document .accountSessions x₀.id ∈ d.writes := by
      rw [hwrites]
      exact List.mem_append_right _ (mem_map_of_mem (mem_map_of_mem hx₀))
    have hx₀' : x₀ ∈ s'.accountSessions :=
      (hagree _ hkey x₀ rfl).mp (mem_filter.mp (mem_kept_or_excess.mpr (.inr hx₀))).1
    rwa [← List.inj_on_of_nodup_map hids hx₀' hx hid]
  have hcompeting : x ∈ competingSessions s newSession.accountId newSession.id now :=
    mem_kept_or_excess.mpr (.inr hrevoked)
  simp only [competingSessions, mem_filter, decide_eq_true_eq] at hcompeting
  obtain ⟨-, haccount, -, hactive⟩ := hcompeting
  refine ⟨haccount, hactive, fun y hy hkept hyaccount hyactive => ?_⟩
  obtain ⟨y₀, hy₀, hyid, hyowner, hycreated, hyseen⟩ := hundisturbed.sessions newSession now rfl y hy hyaccount hyactive
  have hy₀competing : y₀ ∈ competingSessions s newSession.accountId newSession.id now := by
    unfold competingSessions
    rw [mem_filter, decide_eq_true_eq]
    exact ⟨hy₀, hyowner.trans hyaccount, (hroom y₀ hy₀).1, hyseen⟩
  rw [← AccountSessionDocument.newerOrSame_congr hyid hycreated]
  rcases mem_kept_or_excess.mp hy₀competing with hyk | hexcess
  · exact kept_newer_than_excess hyk hrevoked
  · -- A session that is in excess does not stay as it is.
    rw [(happly s').2, mem_append] at hkept
    rcases hkept with hkept | hkept
    · obtain ⟨z, hz, rfl⟩ := mem_map.mp hkept
      obtain ⟨hid, -⟩ := activeAt_revoke hyactive
      refine absurd (mem_map.mpr ⟨y₀, hexcess, ?_⟩) hid
      rw [hyid, if_neg hid]
    · have hnew : y₀.id = newSession.id := by
        rw [hyid, mem_singleton.mp hkept]
        rfl
      exact absurd hnew (hroom y₀ hy₀).1

/-- **The limit on active sessions.** In every run from an empty repository whose logins commit undisturbed and
    whose authentications bring back no session that was expired for a login,
    * once the clock is past the readings of its logins, an account has at most `m` active sessions;
    * a login that has just committed has its session active, and of the account's version;
    * what it revoked was active, and is older than every session of the account that it left active. -/
theorem session_limit (m : Nat) (hm : 0 < m) {events : List (Event AuthJob AuthStore)}
    {db : Database AuthStore AuthKey AuthJob} (hrun : Run (Database.Step (transact m)) (.quiet .empty) events db)
    (hundisturbed : Admitted Undisturbed events) (hrevived : (commitsOf events).Pairwise NotRevived) :
    (∀ a t, (∀ r ∈ loginReadings a (commitsOf events), r ≤ t) → db.store.activeSessions a t ≤ m) ∧
    ∀ earlier c newSession now, events = earlier ++ [.commit c] → c.job = .createLoginSession newSession now →
      (∃ x ∈ db.store.accountSessions, x = accountSessionDocument newSession now ∧ x.activeAt now = true ∧
        ∃ a ∈ db.store.accounts, a.id = x.accountId ∧ a.passwordRoleVersion = x.passwordRoleVersion) ∧
      ∀ x ∈ c.before.accountSessions, x ∉ db.store.accountSessions →
        x.accountId = newSession.accountId ∧ x.activeAt now = true ∧
        ∀ y ∈ c.before.accountSessions, y ∈ db.store.accountSessions → y.accountId = newSession.accountId →
          y.activeAt now = true → y.newerOrSame x = true := by
  have hstart : Sound AuthStore.agree AuthStore.DistinctAccounts AuthStore.Later
      (Database.quiet .empty : Database AuthStore AuthKey AuthJob) := sound_quiet List.nodup_nil
  have hempty : LoginHistory m [] .empty := ⟨List.nodup_nil, nofun, fun _ _ _ _ => Nat.zero_le m⟩
  have hiso : Isolated (transact m) AuthStore.agree Undisturbed AuthStore.DistinctAccounts AuthStore.Later :=
    (transact_isolated m).admitting fun _ _ => trivial
  have hhistory : ∀ {events db}, Run (Database.Step (transact m)) (.quiet .empty) events db →
      Admitted Undisturbed events → LoginHistory m (commitsOf events) db.store := fun hrun hadmits =>
    hiso.history (J := LoginHistory m)
      (fun _ _ _ hc hbody hagree hpast => hpast.commit hm hbody hagree hc) hrun hadmits hstart hempty
  refine ⟨(hhistory hrun hundisturbed).limited hrevived, fun earlier c newSession now hevents hjob => ?_⟩
  subst hevents
  obtain ⟨db₁, hearlier, hstep⟩ := hrun.of_snoc
  obtain ⟨hbefore, hc⟩ := hundisturbed.snoc
  have hids := (hhistory hearlier hbefore).ids
  have hsound := (hiso.sound hearlier hbefore hstart).1
  cases hstep with
  | @commit earlier' later t d hrunning hbody hwritten =>
    have hmem : t ∈ db₁.running := by
      rw [hrunning]
      exact List.mem_append_right _ List.mem_cons_self
    have hagree := fun k hk => (hsound.snapshot t hmem).2.2.2 k (hwritten k hk)
    have hundisturbed₁ := hc _ rfl
    obtain ⟨job, snapshot, started⟩ := t
    obtain rfl : job = .createLoginSession newSession now := hjob
    obtain ⟨-, -, happly⟩ := createLoginSession_eq_ok hbody
    obtain ⟨a, ha, hid, hversion⟩ := hundisturbed₁.account newSession now rfl
    obtain ⟨hidle, habsolute⟩ := hundisturbed₁.unexpired newSession now rfl
    refine ⟨⟨_, ?_, rfl, ?_, a, ?_, hid, hversion⟩, login_makes_room hids hbody hagree hundisturbed₁⟩
    · show _ ∈ (d.apply db₁.store).accountSessions
      rw [(happly _).2]
      exact List.mem_append_right _ (mem_singleton_self _)
    · simp only [AccountSessionDocument.activeAt, decide_eq_true_eq]
      exact ⟨rfl, hidle, habsolute⟩
    · show _ ∈ (d.apply db₁.store).accounts
      rw [(happly _).1]
      exact ha

/-! ## Two logins -/

/-- Another session of the account that was signed up. -/
def laterSession (id bearerDigest csrfDigest : String) : NewMongoAccountSession :=
  ⟨id, "account-1", bearerDigest, csrfDigest, 1, 200, 400, 500⟩

def secondSession : NewMongoAccountSession := laterSession "session-2" "digest:session-2" "csrf:session-2"

def thirdSession : NewMongoAccountSession := laterSession "session-3" "digest:session-3" "csrf:session-3"

theorem loginReadings_eq (a : String) (commits : List (Committed AuthJob AuthStore)) :
    loginReadings a commits = (commits.map (·.job)).filterMap fun job =>
      match job with
      | .createLoginSession newSession now => if newSession.accountId = a then some now else none
      | _ => none := by
  rw [List.filterMap_map]
  rfl

/-- Nothing is authenticated where these jobs are all. -/
theorem pairwise_notRevived
    (h : ∀ job ∈ commits.map (·.job), ∀ digest lifetime now, job ≠ .authenticateSessionDigest digest lifetime now) :
    commits.Pairwise NotRevived := by
  refine List.pairwise_of_forall_mem_list fun c _ c' hc' digest lifetime now hjob => ?_
  exact absurd hjob (h _ (mem_map_of_mem hc') digest lifetime now)

/-- A job that is no login commits undisturbed. -/
theorem undisturbed_of_ne
    (h : ∀ newSession now, c.job ≠ .createLoginSession newSession now) : Undisturbed c :=
  ⟨fun n t hjob => absurd hjob (h n t), fun n t hjob => absurd hjob (h n t), fun n t hjob => absurd hjob (h n t)⟩

theorem session_limit_login : ∃ events, ∃ db : Database AuthStore AuthKey AuthJob,
    Run (Database.Step (transact 1)) (.quiet .empty) events db ∧ db.store.accountSessions.length = 2 ∧
    db.store.activeSessions "account-1" 10 ≤ 1 := by
  obtain ⟨events, db₁, hidle, hstore, hrun, hjobs⟩ := signup_runs 1
  obtain ⟨db, -, hstore₂, hlogin⟩ :=
    hidle.serial (show transact 1 (.createLoginSession secondSession 10) _ = .ok _ by rw [hstore]; rfl)
  have hall := hrun.append hlogin
  have hcommits : commitsOf (events ++ [.begin (.createLoginSession secondSession 10),
      .commit ⟨.createLoginSession secondSession 10, db₁.store, db₁.store⟩]) =
      commitsOf events ++ [⟨.createLoginSession secondSession 10, db₁.store, db₁.store⟩] := List.filterMap_append
  have hundisturbed : ∀ c ∈ commitsOf (events ++ [.begin (.createLoginSession secondSession 10),
      .commit ⟨.createLoginSession secondSession 10, db₁.store, db₁.store⟩]), Undisturbed c := by
    intro c hc
    rw [hcommits] at hc
    rcases mem_append.mp hc with hc | hc
    · refine undisturbed_of_ne fun n t hjob => ?_
      have hmem : c.job ∈ (commitsOf events).map (·.job) := mem_map_of_mem hc
      rw [hjobs, hjob] at hmem
      simp at hmem
    · obtain rfl := mem_singleton.mp hc
      refine ⟨fun n t h => ?_, fun n t h x hx _ hactive => ⟨x, hx, rfl, rfl, rfl, hactive⟩, fun n t h => ?_⟩
      · obtain ⟨rfl, rfl⟩ := AuthJob.createLoginSession.inj h
        refine ⟨accountDocument firstAccount, ?_, rfl, rfl⟩
        show _ ∈ db₁.store.accounts
        rw [hstore]
        exact mem_singleton_self _
      · obtain ⟨rfl, rfl⟩ := AuthJob.createLoginSession.inj h
        decide
  have hrevived : (commitsOf (events ++ [.begin (.createLoginSession secondSession 10),
      .commit ⟨.createLoginSession secondSession 10, db₁.store, db₁.store⟩])).Pairwise NotRevived := by
    rw [hcommits]
    refine pairwise_notRevived fun job hjob => ?_
    rw [List.map_append, hjobs] at hjob
    simp only [map_cons, List.map_nil, List.cons_append, List.nil_append, List.mem_cons, List.not_mem_nil,
      or_false] at hjob
    rcases hjob with rfl | rfl | rfl | rfl <;> exact nofun
  refine ⟨_, db, hall, ?_, (session_limit 1 (by decide) hall hundisturbed hrevived).1 "account-1" 10 ?_⟩
  · rw [hstore₂, hstore]
    rfl
  · rw [hcommits, loginReadings_eq, List.map_append, hjobs]
    simp only [map_cons, List.map_nil]
    decide

/-- There is room for one session beside the first. -/
theorem excessSessions_signedUp (hkeep : "session-1" ≠ keep) :
    excessSessions signedUpStore "account-1" keep 2 10 = [] := by
  have hone : (signedUpStore.accountSessions.filter fun x =>
      x.accountId = "account-1" ∧ x.id ≠ keep ∧ x.activeAt 10) = [accountSessionDocument firstSession 2] := by
    refine List.filter_eq_self.mpr fun x hx => ?_
    rw [mem_singleton.mp hx, decide_eq_true_eq]
    exact ⟨rfl, hkeep, rfl⟩
  unfold excessSessions
  rw [hone, List.mergeSort_singleton]
  rfl

/-- A login at reading 10 that revokes these. -/
def loginDecision (newSession : NewMongoAccountSession) (revoked : List AccountSessionDocument) : AuthDecision where
  writes := sessionKeys newSession ++ (revoked.map (·.id)).map (.document .accountSessions)
  apply s := { s with
    accountSessions := revokeAll (revoked.map (·.id)) 10 s.accountSessions ++ [accountSessionDocument newSession 10] }
  answer := .loggedIn (accountSessionDocument newSession 10) (revoked.map (·.bearerDigest))

theorem login_signedUp (newSession : NewMongoAccountSession)
    (hexcess : excessSessions signedUpStore "account-1" newSession.id 2 10 = [])
    (hlogin : transact 2 (.createLoginSession newSession 10) signedUpStore =
      .ok (loginDecision newSession (excessSessions signedUpStore "account-1" newSession.id 2 10))) :
    transact 2 (.createLoginSession newSession 10) signedUpStore = .ok (loginDecision newSession []) := by
  rw [hlogin, hexcess]

/-- **Two logins at once exceed the limit**: each sees one session, and room for another. -/
theorem logins_exceed_limit : ¬ ∀ m, 0 < m → ∀ events, ∀ db : Database AuthStore AuthKey AuthJob,
    Run (Database.Step (transact m)) (.quiet .empty) events db → ∀ a ∈ db.store.accounts, ∀ t,
      (∀ r ∈ loginReadings a.id (commitsOf events), r ≤ t) →
      (db.store.accountSessions.countP fun x =>
        x.accountId = a.id ∧ x.passwordRoleVersion = a.passwordRoleVersion ∧ x.activeAt t) ≤ m := by
  intro hclaim
  obtain ⟨events, db₁, hidle, hstore, hrun, hjobs⟩ := signup_runs 2
  have hsecond := login_signedUp secondSession (excessSessions_signedUp (by decide)) rfl
  have hthird := login_signedUp thirdSession (excessSessions_signedUp (by decide)) rfl
  rw [← hstore] at hsecond hthird
  obtain ⟨db, -, hstore₂, hlogins⟩ := hidle.skew hsecond hthird (by decide)
  have hreadings : ∀ c₁ c₂ : Committed AuthJob AuthStore, c₁.job = .createLoginSession secondSession 10 →
      c₂.job = .createLoginSession thirdSession 10 → ∀ j₁ j₂,
      ∀ r ∈ loginReadings "account-1" (commitsOf (events ++ [.begin j₁, .begin j₂, .commit c₁, .commit c₂])), r ≤ 10 := by
    intro c₁ c₂ h₁ h₂ j₁ j₂
    have hcommits : commitsOf (events ++ [.begin j₁, .begin j₂, .commit c₁, .commit c₂]) =
        commitsOf events ++ [c₁, c₂] := List.filterMap_append
    rw [hcommits, loginReadings_eq, List.map_append, hjobs, map_cons, map_cons, h₁, h₂]
    decide
  have haccount : accountDocument firstAccount ∈ db.store.accounts := by
    rw [hstore₂, hstore]
    exact mem_singleton_self _
  have hthree := hclaim 2 (by decide) _ db (hrun.append hlogins) _ haccount 10 (hreadings _ _ rfl rfl _ _)
  rw [hstore₂, hstore] at hthree
  revert hthree
  decide

end ManchesterArcana.Persistence
