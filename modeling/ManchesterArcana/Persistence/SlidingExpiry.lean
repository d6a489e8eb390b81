import ManchesterArcana.Persistence.SessionCache

/-!
# `Persistence.SlidingExpiry` — the idle expiry of a session

A session answers until its absolute expiry, and until the idle expiry that its last authentication left. Every
authentication moves the idle expiry on, as far as the absolute one.

Whether an authentication went through is read off the number of documents that its update modified. That is
zero for an update that finds what it writes, so of two calls in one millisecond the second is turned away
(`second_call_is_refused`). `answers_while_live_iff` says that nothing else goes wrong.
-/

namespace ManchesterArcana.Persistence

open Effect Store
open List (mem_append mem_append_left mem_filter mem_map mem_pair mem_singleton mem_singleton_self)

/-! ## Creation -/

/-- `RETENTION_GRACE`, in milliseconds. -/
def retentionGrace : Int := 30 * 24 * 60 * 60 * 1000

/-- What `AuthService::new` asks of the two lifetimes. -/
structure AuthenticationConfig.ValidLifetimes (config : AuthenticationConfig) : Prop where
  idle_pos : 0 < config.sessionIdleLifetime
  absolute_pos : 0 < config.sessionAbsoluteLifetime
  idle_le : config.sessionIdleLifetime ≤ config.sessionAbsoluteLifetime

/-- `new_account_session`, with the id and the digests of the tokens that were drawn. -/
def newAccountSession (config : AuthenticationConfig) (id accountId bearerDigest csrfDigest : String)
    (passwordRoleVersion : Nat) (now : Int) : NewMongoAccountSession where
  id := id
  accountId := accountId
  bearerDigest := bearerDigest
  csrfDigest := csrfDigest
  passwordRoleVersion := passwordRoleVersion
  idleExpiresAt := now + config.sessionIdleLifetime
  absoluteExpiresAt := now + config.sessionAbsoluteLifetime
  purgeAt := now + config.sessionAbsoluteLifetime + retentionGrace

/-- The session that an operation creates. -/
def AuthJob.creates : AuthJob → Option NewMongoAccountSession
  | .createLoginSession newSession _ => some newSession
  | .completeSignup write _ => some write.accountSession
  | _ => none

/-- The clock that an operation reads. -/
def AuthJob.reading : AuthJob → Option Int
  | .issueSignupAccessToken _ => none
  | .beginSignup _ now => some now
  | .revokeSignupAccessToken _ => none
  | .completeSignup _ now => some now
  | .createLoginSession _ now => some now
  | .authenticateSessionDigest _ _ now => some now
  | .updatePasswordAndRevokeSessions _ _ now => some now
  | .revokeAccountSession _ _ now => some now
  | .cleanupExpiredAccountSession _ now => some now

/-! ## Operations one after the other -/

/-- An operation that was answered, with the store that it was made on. -/
structure Answered where
  job : AuthJob
  before : AuthStore
  answer : Except PersistenceError AuthAnswer

inductive Serial (m : Nat) : AuthStore → Answered → AuthStore → Prop where
  | commit {s : AuthStore} {job : AuthJob} {d : AuthDecision} :
      transact m job s = .ok d → Serial m s ⟨job, s, .ok d.answer⟩ (d.apply s)
  | refuse {s : AuthStore} {job : AuthJob} {e : PersistenceError} :
      transact m job s = .error e → Serial m s ⟨job, s, .error e⟩ s

/-- The clock readings of some operations, in order. -/
def readings (events : List Answered) : List Int := events.filterMap (·.job.reading)

/-- The record that an authentication under a digest was answered with. -/
def Answered.record (bearerDigest : String) (e : Answered) : Option AccountSessionDocument :=
  match e.job, e.answer with
  | .authenticateSessionDigest digest _ _, .ok (.authenticated record) => if digest = bearerDigest then record else none
  | _, _ => none

/-- **The idle expiry that the last successful call set**, and `created` before the first. -/
def idleExpiry (bearerDigest : String) (created : Int) (events : List Answered) : Int :=
  events.foldl (fun idle e => ((e.record bearerDigest).map (·.idleExpiresAt)).getD idle) created

/-- The session is not revoked, and its account has the version that it was opened for. -/
structure Steady (opened : NewMongoAccountSession) (s : AuthStore) : Prop where
  unrevoked : ∀ x ∈ s.accountSessions, x.id = opened.id → x.unrevoked = true
  version : ∀ a ∈ s.accounts, a.id = opened.accountId → a.passwordRoleVersion = opened.passwordRoleVersion

/-- **What happens while a session is never revoked**, from its creation on. The clock does not go back, and no
    other session gets the id or the digest, both of which are drawn at random. -/
structure Life (config : AuthenticationConfig) (opened : NewMongoAccountSession) (createdAt : Int)
    (s₀ : AuthStore) (events : List Answered) (s : AuthStore) : Prop where
  opening : ∃ job d s', job.creates = some opened ∧ job.reading = some createdAt ∧
    transact config.maxActiveSessions job s' = .ok d ∧ d.apply s' = s₀
  run : Run (Serial config.maxActiveSessions) s₀ events s
  clock : (createdAt :: readings events).Pairwise (· ≤ ·)
  lifetime : ∀ e ∈ events, ∀ digest lifetime now, e.job = .authenticateSessionDigest digest lifetime now →
    lifetime = config.sessionIdleLifetime
  drawn : ∀ e ∈ events, ∀ other, e.job.creates = some other →
    other.id ≠ opened.id ∧ other.bearerDigest ≠ opened.bearerDigest
  steady : ∀ e ∈ events, Steady opened e.before

/-! ## What is known of the session -/

/-- The session's document, seen last at some time up to `now`. -/
structure Present (config : AuthenticationConfig) (opened : NewMongoAccountSession) (s : AuthStore) (now idle : Int)
    (x : AccountSessionDocument) : Prop where
  mem : x ∈ s.accountSessions
  only : ∀ y ∈ s.accountSessions, y.id = opened.id ∨ y.bearerDigest = opened.bearerDigest → y = x
  id : x.id = opened.id
  account : x.accountId = opened.accountId
  digest : x.bearerDigest = opened.bearerDigest
  version : x.passwordRoleVersion = opened.passwordRoleVersion
  absolute : x.absoluteExpiresAt = opened.absoluteExpiresAt
  purge : x.absoluteExpiresAt ≤ x.purgeAt
  idle_eq : x.idleExpiresAt = idle
  idle_le : idle ≤ x.absoluteExpiresAt
  seen : x.lastSeenAt ≤ now
  slid : idle ≤ x.lastSeenAt + config.sessionIdleLifetime

/-- The session was cleaned up, which it was when it had expired. -/
structure Gone (opened : NewMongoAccountSession) (s : AuthStore) (now idle : Int) : Prop where
  none : ∀ y ∈ s.accountSessions, y.id ≠ opened.id ∧ y.bearerDigest ≠ opened.bearerDigest
  expired : idle ≤ now ∨ opened.absoluteExpiresAt ≤ now

structure Kept (config : AuthenticationConfig) (opened : NewMongoAccountSession) (s : AuthStore) (now idle : Int) :
    Prop where
  session : (∃ x, Present config opened s now idle x) ∨ Gone opened s now idle
  account : ∃ a ∈ s.accounts, a.id = opened.accountId ∧ a.loginEnabled = true

namespace Present

variable {config : AuthenticationConfig} {opened : NewMongoAccountSession} {s s' : AuthStore} {now t idle : Int}
  {x x' : AccountSessionDocument}

/-- A session that is left alone, or revoked, is still there. -/
theorem carry (h : Present config opened s now idle x) (hmem : x' ∈ s'.accountSessions)
    (honly : ∀ y ∈ s'.accountSessions, y.id = opened.id ∨ y.bearerDigest = opened.bearerDigest → y = x')
    (hsame : x' = x ∨ ∃ r, x' = x.revoke r) (hle : now ≤ t) : Present config opened s' t idle x' := by
  have hseen := Int.le_trans h.seen hle
  rcases hsame with rfl | ⟨r, rfl⟩
  · exact { h with mem := hmem, only := honly, seen := hseen }
  · exact ⟨hmem, honly, h.id, h.account, h.digest, h.version, h.absolute, h.purge, h.idle_eq, h.idle_le, hseen, h.slid⟩

/-- What a revocation makes of the sessions, whichever it is made on. -/
theorem revokeAll (h : Present config opened s now idle x) (ids : List String) (r : Int) (hle : now ≤ t)
    (hsessions : ∀ y, y ∈ s'.accountSessions → y.id = opened.id ∨ y.bearerDigest = opened.bearerDigest →
      y ∈ Persistence.revokeAll ids r s.accountSessions)
    (hkept : ∀ y ∈ Persistence.revokeAll ids r s.accountSessions, y ∈ s'.accountSessions) :
    ∃ x', Present config opened s' t idle x' := by
  refine ⟨if x.id ∈ ids then x.revoke r else x, h.carry (hkept _ (List.mem_map_of_mem h.mem)) (fun y hy hours => ?_)
    ?_ hle⟩
  · obtain ⟨y₀, hy₀, rfl⟩ := mem_map.mp (hsessions y hy hours)
    have hsame : y₀ = x := by
      refine h.only y₀ hy₀ ?_
      split at hours <;> exact hours
    rw [hsame]
  · split
    · exact .inr ⟨r, rfl⟩
    · exact .inl rfl

/-- The session can be authenticated as long as it has not expired. -/
theorem activeAt_iff (h : Present config opened s now idle x) (hsteady : Steady opened s) :
    x.activeAt t = true ↔ t < idle ∧ t < opened.absoluteExpiresAt := by
  simp only [AccountSessionDocument.activeAt, decide_eq_true_eq]
  rw [h.idle_eq, h.absolute]
  exact and_iff_right (hsteady.unrevoked x h.mem h.id)

end Present

/-- A search for what only one element satisfies. -/
theorem find?_eq_of_only {α : Type} {p : α → Bool} {xs : List α} {x : α} (hx : x ∈ xs) (hp : p x = true)
    (honly : ∀ y ∈ xs, p y = true → y = x) : xs.find? p = some x := by
  obtain ⟨y, hfound⟩ := Option.isSome_iff_exists.mp (List.find?_isSome.mpr ⟨x, hx, hp⟩)
  rw [hfound, honly y (List.mem_of_find?_eq_some hfound) (List.find?_some hfound)]

variable {s s' : AuthStore} {m : Nat} {now idle t : Int} {opened : NewMongoAccountSession} {d : AuthDecision}
  {config : AuthenticationConfig} {job : AuthJob}

variable {digest accountId : String} {events : List Answered} {createdAt : Int}

/-- What a call is answered with that finds no session. -/
theorem authenticateSessionDigest_of_inactive (lifetime : Int)
    (h : ∀ y ∈ s.accountSessions, y.bearerDigest = digest → y.activeAt now = false) :
    authenticateSessionDigest digest lifetime now s =
      .ok { writes := [], apply := id, answer := .authenticated none } := by
  have hnone : (s.accountSessions.find? fun x => x.bearerDigest = digest ∧ x.activeAt now) = none := by
    refine List.find?_eq_none.mpr fun y hy hfound => ?_
    obtain ⟨hdigest, hactive⟩ := of_decide_eq_true hfound
    rw [h y hy hdigest] at hactive
    cases hactive
  unfold authenticateSessionDigest
  rw [hnone]

/-- **The update of a call finds what it writes.** -/
def AccountSessionDocument.unmodifiedAt (lifetime now : Int) (x : AccountSessionDocument) : Prop :=
  x.lastSeenAt = now ∧ x.idleExpiresAt = min (now + lifetime) x.absoluteExpiresAt

instance (lifetime now : Int) (x : AccountSessionDocument) : Decidable (x.unmodifiedAt lifetime now) :=
  inferInstanceAs (Decidable (_ ∧ _))

/-- What a call is answered with that finds the session. -/
theorem Present.authenticate (lifetime : Int) {x : AccountSessionDocument} (h : Present config opened s now idle x)
    (hsteady : Steady opened s) (haccount : ∃ a ∈ s.accounts, a.id = opened.accountId ∧ a.loginEnabled = true)
    (hactive : x.activeAt t = true) :
    authenticateSessionDigest opened.bearerDigest lifetime t s =
      if x.unmodifiedAt lifetime t then .ok { writes := [], apply := fun s => s, answer := .authenticated none }
      else .ok {
        writes := [.document .accountSessions x.id]
        apply := fun s => { s with
          accountSessions := updateById (·.id) x.id
            (fun y => { y with lastSeenAt := t, idleExpiresAt := min (t + lifetime) x.absoluteExpiresAt })
            s.accountSessions }
        answer := .authenticated
          (some { x with lastSeenAt := t, idleExpiresAt := min (t + lifetime) x.absoluteExpiresAt }) } := by
  have hstored : (s.accountSessions.find? fun y => y.bearerDigest = opened.bearerDigest ∧ y.activeAt t) = some x := by
    refine find?_eq_of_only h.mem (decide_eq_true ⟨h.digest, hactive⟩) fun y hy hfound => ?_
    exact h.only y hy (.inr (of_decide_eq_true hfound).1)
  have hvalid : ∃ a, (s.accounts.find? fun a => a.id = x.accountId ∧ a.loginEnabled ∧
      a.passwordRoleVersion = x.passwordRoleVersion) = some a := by
    obtain ⟨a, ha, hid, henabled⟩ := haccount
    refine Option.isSome_iff_exists.mp (List.find?_isSome (p := fun a => a.id = x.accountId ∧ a.loginEnabled ∧
      a.passwordRoleVersion = x.passwordRoleVersion) |>.mpr ⟨a, ha, decide_eq_true ?_⟩)
    exact ⟨hid.trans h.account.symm, henabled, (hsteady.version a ha hid).trans h.version.symm⟩
  obtain ⟨a, hvalid⟩ := hvalid
  unfold authenticateSessionDigest
  rw [hstored]
  simp only
  rw [hvalid]
  rfl

/-! ## One operation -/

/-- No operation closes an account. -/
theorem transact_leaves_enabled
    (h : transact m job s = .ok d) (haccount : ∃ a ∈ s.accounts, a.id = accountId ∧ a.loginEnabled = true) :
    ∃ a ∈ (d.apply s).accounts, a.id = accountId ∧ a.loginEnabled = true := by
  obtain ⟨a, ha, hid, henabled⟩ := haccount
  obtain ⟨created, ⟨rewrite, hkeeps, haccounts⟩, -⟩ := transact_accounts h s
  rw [haccounts]
  exact ⟨rewrite a, mem_append_left _ (List.mem_map_of_mem ha), (hkeeps a).1.trans hid,
    (hkeeps a).2.1.trans henabled⟩

/-- **What an operation does to the session** that is no call under its digest. -/
theorem session_kept
    (h : (∃ x, Present config opened s now idle x) ∨ Gone opened s now idle) (hbody : transact m job s = .ok d)
    (hle : now ≤ t) (hreading : ∀ r, job.reading = some r → r ≤ t)
    (hother : ∀ lifetime r, job ≠ .authenticateSessionDigest opened.bearerDigest lifetime r)
    (hdrawn : ∀ other, job.creates = some other →
      other.id ≠ opened.id ∧ other.bearerDigest ≠ opened.bearerDigest) :
    (∃ x, Present config opened (d.apply s) t idle x) ∨ Gone opened (d.apply s) t idle := by
  cases transact_sessions hbody with
  | unchanged hsessions =>
    rcases h with ⟨x, hx⟩ | hgone
    · refine .inl ⟨x, hx.carry ?_ ?_ (.inl rfl) hle⟩ <;> rw [hsessions]
      · exact hx.mem
      · exact hx.only
    · refine .inr ⟨?_, by have := hgone.expired; omega⟩
      rw [hsessions]
      exact hgone.none
  | revoked ids r hsessions =>
    rcases h with ⟨x, hx⟩ | hgone
    · refine .inl (hx.revokeAll ids r hle (fun y hy _ => ?_) fun y hy => ?_)
      · rwa [hsessions] at hy
      · rwa [hsessions]
    · refine .inr ⟨fun y hy => ?_, by have := hgone.expired; omega⟩
      rw [hsessions] at hy
      obtain ⟨y₀, hy₀, rfl⟩ := mem_map.mp hy
      have := hgone.none y₀ hy₀
      split <;> exact this
  | deleted id r hsessions =>
    rcases h with ⟨x, hx⟩ | hgone
    · have hsub : ∀ y ∈ (d.apply s).accountSessions, y ∈ s.accountSessions := by
        intro y hy
        rw [hsessions] at hy
        exact (mem_filter.mp hy).1
      by_cases hid : x.id = id
      · have hnone : ∀ y ∈ (d.apply s).accountSessions, y.id ≠ opened.id ∧ y.bearerDigest ≠ opened.bearerDigest := by
          intro y hy
          refine not_or.mp fun hours => ?_
          obtain rfl := hx.only y (hsub y hy) hours
          rw [hsessions] at hy
          exact of_decide_eq_true (mem_filter.mp hy).2 hid
        refine .inr ⟨hnone, ?_⟩
        -- Only a session that has expired is cleaned up.
        have hr := hreading r rfl
        simp only [transact, cleanupExpiredAccountSession] at hbody
        split at hbody
        · next hexpired =>
          obtain ⟨y, hy, hexpired⟩ := List.any_eq_true.mp hexpired
          obtain ⟨hyid, hexpired⟩ := of_decide_eq_true hexpired
          obtain rfl := hx.only y hy (.inl (hyid.trans (hid.symm.trans hx.id)))
          have hpurge := hx.purge
          rw [hx.idle_eq] at hexpired
          rw [hx.absolute] at hexpired hpurge
          omega
        · obtain rfl := Except.ok.inj hbody
          exact absurd hx.id (hnone x hx.mem).1
      · refine .inl ⟨x, hx.carry ?_ (fun y hy => hx.only y (hsub y hy)) (.inl rfl) hle⟩
        rw [hsessions]
        exact mem_filter.mpr ⟨hx.mem, decide_eq_true hid⟩
    · refine .inr ⟨fun y hy => ?_, by have := hgone.expired; omega⟩
      rw [hsessions] at hy
      exact hgone.none y (mem_filter.mp hy).1
  | signedUp write r hsessions =>
    obtain ⟨hid, hdigest⟩ := hdrawn _ rfl
    rcases h with ⟨x, hx⟩ | hgone
    · refine .inl ⟨x, hx.carry ?_ (fun y hy hours => ?_) (.inl rfl) hle⟩
      · rw [hsessions]
        exact mem_append_left _ hx.mem
      · rw [hsessions] at hy
        rcases mem_append.mp hy with hy | hy
        · exact hx.only y hy hours
        · rw [mem_singleton.mp hy] at hours
          exact absurd hours (not_or.mpr ⟨hid, hdigest⟩)
    · refine .inr ⟨fun y hy => ?_, by have := hgone.expired; omega⟩
      rw [hsessions] at hy
      rcases mem_append.mp hy with hy | hy
      · exact hgone.none y hy
      · rw [mem_singleton.mp hy]
        exact ⟨hid, hdigest⟩
  | loggedIn newSession r hroom hwrites hsessions haccounts =>
    obtain ⟨hid, hdigest⟩ := hdrawn _ rfl
    rcases h with ⟨x, hx⟩ | hgone
    · refine .inl (hx.revokeAll ((excessSessions s newSession.accountId newSession.id m r).map (·.id)) r hle
        (fun y hy hours => ?_) fun y hy => ?_)
      · rw [hsessions] at hy
        rcases mem_append.mp hy with hy | hy
        · exact hy
        · rw [mem_singleton.mp hy] at hours
          exact absurd hours (not_or.mpr ⟨hid, hdigest⟩)
      · rw [hsessions]
        exact mem_append_left _ hy
    · refine .inr ⟨fun y hy => ?_, by have := hgone.expired; omega⟩
      rw [hsessions] at hy
      rcases mem_append.mp hy with hy | hy
      · obtain ⟨y₀, hy₀, rfl⟩ := mem_map.mp hy
        have := hgone.none y₀ hy₀
        split <;> exact this
      · rw [mem_singleton.mp hy]
        exact ⟨hid, hdigest⟩
  | refreshed digest lifetime r stored idle' hstored hdigest hactive hwrites hsessions =>
    have hdigest' : digest ≠ opened.bearerDigest := by
      rintro rfl
      exact hother lifetime r rfl
    rcases h with ⟨x, hx⟩ | hgone
    · have hid : stored.id ≠ opened.id := by
        intro hid
        obtain rfl := hx.only stored hstored (.inl hid)
        exact hdigest' (hdigest.symm.trans hx.digest)
      refine .inl ⟨x, hx.carry ?_ (fun y hy hours => ?_) (.inl rfl) hle⟩
      · rw [hsessions]
        exact mem_updateById.mpr (.inr ⟨hx.mem, fun hsame => hid (hsame.symm.trans hx.id)⟩)
      · rw [hsessions] at hy
        rcases mem_updateById.mp hy with ⟨y₀, hy₀, hsame, rfl⟩ | ⟨hy, -⟩
        · obtain rfl := hx.only y₀ hy₀ hours
          exact absurd (hsame.symm.trans hx.id) hid
        · exact hx.only y hy hours
    · refine .inr ⟨fun y hy => ?_, by have := hgone.expired; omega⟩
      rw [hsessions] at hy
      rcases mem_updateById.mp hy with ⟨y₀, hy₀, -, rfl⟩ | ⟨hy, -⟩
      · exact hgone.none y₀ hy₀
      · exact hgone.none y hy

/-- A call is answered with what it decides. -/
theorem Serial.authenticated {e : Answered} {lifetime : Int} (hstep : Serial m s e s')
    (hjob : e.job = .authenticateSessionDigest digest lifetime t)
    (hbody : authenticateSessionDigest digest lifetime t s = .ok d) :
    s' = d.apply s ∧ e = ⟨.authenticateSessionDigest digest lifetime t, s, .ok d.answer⟩ := by
  cases hstep with
  | commit h =>
    obtain rfl := hjob
    obtain rfl : d = _ := Except.ok.inj (hbody.symm.trans h)
    exact ⟨rfl, rfl⟩
  | refuse h =>
    obtain rfl := hjob
    cases hbody.symm.trans h

section Call

variable {config : AuthenticationConfig} {opened : NewMongoAccountSession} {s s' : AuthStore} {now t idle : Int}
  {m : Nat} {e : Answered} {x : AccountSessionDocument}

/-- A call that is turned away changes nothing. -/
theorem Kept.refused (h : Kept config opened s now idle) (hle : now ≤ t) (hstep : Serial m s e s')
    (hjob : e.job = .authenticateSessionDigest opened.bearerDigest config.sessionIdleLifetime t)
    (hbody : authenticateSessionDigest opened.bearerDigest config.sessionIdleLifetime t s =
      .ok { writes := [], apply := fun s => s, answer := .authenticated none }) :
    e.record opened.bearerDigest = none ∧ Kept config opened s' t idle := by
  obtain ⟨rfl, rfl⟩ := hstep.authenticated hjob hbody
  refine ⟨if_pos rfl, ?_, h.account⟩
  rcases h.session with ⟨x, hx⟩ | hgone
  · exact .inl ⟨x, hx.carry hx.mem hx.only (.inl rfl) hle⟩
  · exact .inr ⟨hgone.none, by have := hgone.expired; omega⟩

/-- A call that goes through moves the idle expiry on. -/
theorem Present.refreshed (hx : Present config opened s now idle x) (hle : now ≤ t) (hsteady : Steady opened s)
    (haccount : ∃ a ∈ s.accounts, a.id = opened.accountId ∧ a.loginEnabled = true) (hactive : x.activeAt t = true)
    (hmodified : ¬ x.unmodifiedAt config.sessionIdleLifetime t) (hstep : Serial m s e s')
    (hjob : e.job = .authenticateSessionDigest opened.bearerDigest config.sessionIdleLifetime t) :
    ∃ record, e.record opened.bearerDigest = some record ∧ idle ≤ record.idleExpiresAt ∧
      Kept config opened s' t record.idleExpiresAt := by
  have hbody := hx.authenticate config.sessionIdleLifetime hsteady haccount hactive
  rw [if_neg hmodified] at hbody
  obtain ⟨rfl, rfl⟩ := hstep.authenticated hjob hbody
  have hseen := hx.seen
  have hslid := hx.slid
  have hidle := hx.idle_le
  refine ⟨_, if_pos rfl, ?_, .inl ⟨_, mem_updateById.mpr (.inl ⟨x, hx.mem, rfl, rfl⟩), fun y hy hours => ?_, hx.id,
    hx.account, hx.digest, hx.version, hx.absolute, hx.purge, rfl, ?_, Int.le_refl t, ?_⟩, haccount⟩
  · show idle ≤ min (t + config.sessionIdleLifetime) x.absoluteExpiresAt
    omega
  · rcases mem_updateById.mp hy with ⟨y₀, hy₀, hsame, rfl⟩ | ⟨hy, hne⟩
    · rw [hx.only y₀ hy₀ hours]
    · rw [hx.only y hy hours] at hne
      exact absurd rfl hne
  · exact Int.min_le_right _ _
  · exact Int.min_le_left _ _

/-- **What a call does**: it moves the idle expiry on when the session has not expired and the update modifies it. -/
theorem Kept.call (h : Kept config opened s now idle) (hsteady : Steady opened s) (hle : now ≤ t)
    (hstep : Serial m s e s')
    (hjob : e.job = .authenticateSessionDigest opened.bearerDigest config.sessionIdleLifetime t) :
    ((e.record opened.bearerDigest).isSome = true ↔ (t < opened.absoluteExpiresAt ∧ t < idle) ∧
      ∀ x ∈ s.accountSessions, x.bearerDigest = opened.bearerDigest → ¬ x.unmodifiedAt config.sessionIdleLifetime t) ∧
    idle ≤ ((e.record opened.bearerDigest).map (·.idleExpiresAt)).getD idle ∧
    Kept config opened s' t (((e.record opened.bearerDigest).map (·.idleExpiresAt)).getD idle) := by
  rcases h.session with ⟨x, hx⟩ | hgone
  · by_cases hactive : x.activeAt t = true
    · by_cases hunmodified : x.unmodifiedAt config.sessionIdleLifetime t
      · have hbody := hx.authenticate config.sessionIdleLifetime hsteady h.account hactive
        rw [if_pos hunmodified] at hbody
        obtain ⟨hnone, hkept⟩ := h.refused hle hstep hjob hbody
        rw [hnone]
        refine ⟨iff_of_false Bool.false_ne_true fun hall => ?_, Int.le_refl _, hkept⟩
        exact hall.2 x hx.mem hx.digest hunmodified
      · obtain ⟨record, hrecord, hmoved, hkept⟩ := hx.refreshed hle hsteady h.account hactive hunmodified hstep hjob
        rw [hrecord]
        obtain ⟨hidle, habsolute⟩ := (hx.activeAt_iff hsteady).mp hactive
        refine ⟨iff_of_true rfl ⟨⟨habsolute, hidle⟩, fun y hy hdigest => ?_⟩, hmoved, hkept⟩
        rwa [hx.only y hy (.inr hdigest)]
    · have hbody := authenticateSessionDigest_of_inactive config.sessionIdleLifetime
        fun y hy hdigest => show y.activeAt t = false by
          rw [hx.only y hy (.inr hdigest)]
          exact Bool.not_eq_true _ ▸ hactive
      obtain ⟨hnone, hkept⟩ := h.refused hle hstep hjob hbody
      rw [hnone]
      refine ⟨iff_of_false Bool.false_ne_true fun hall => hactive ?_, Int.le_refl _, hkept⟩
      exact (hx.activeAt_iff hsteady).mpr ⟨hall.1.2, hall.1.1⟩
  · have hbody := authenticateSessionDigest_of_inactive config.sessionIdleLifetime
      fun y hy hdigest => show y.activeAt t = false from absurd hdigest (hgone.none y hy).2
    obtain ⟨hnone, hkept⟩ := h.refused hle hstep hjob hbody
    rw [hnone]
    have hexpired := hgone.expired
    refine ⟨iff_of_false Bool.false_ne_true fun hall => ?_, Int.le_refl _, hkept⟩
    omega

/-- **One operation.** -/
theorem Kept.step (h : Kept config opened s now idle) (hsteady : Steady opened s) (hstep : Serial m s e s')
    (hclock : ∀ r, e.job.reading = some r → now ≤ r)
    (hlifetime : ∀ digest lifetime r, e.job = .authenticateSessionDigest digest lifetime r →
      lifetime = config.sessionIdleLifetime)
    (hdrawn : ∀ other, e.job.creates = some other →
      other.id ≠ opened.id ∧ other.bearerDigest ≠ opened.bearerDigest) :
    idle ≤ ((e.record opened.bearerDigest).map (·.idleExpiresAt)).getD idle ∧
    Kept config opened s' (e.job.reading.getD now) (((e.record opened.bearerDigest).map (·.idleExpiresAt)).getD idle) := by
  by_cases hcall : ∃ lifetime r, e.job = .authenticateSessionDigest opened.bearerDigest lifetime r
  · obtain ⟨lifetime, r, hjob⟩ := hcall
    obtain rfl := hlifetime _ _ _ hjob
    have hreading : e.job.reading = some r := by rw [hjob]; rfl
    rw [hreading]
    exact (h.call hsteady (hclock r hreading) hstep hjob).2
  · have hnone : e.record opened.bearerDigest = none := by
      unfold Answered.record
      split
      · next digest lifetime r record hjob hanswer =>
        refine if_neg fun hdigest => hcall ⟨lifetime, r, ?_⟩
        rw [hjob, hdigest]
      · rfl
    rw [hnone]
    refine ⟨Int.le_refl idle, ?_⟩
    have hle : now ≤ e.job.reading.getD now := by
      cases hreading : e.job.reading with
      | none => exact Int.le_refl now
      | some r => exact hclock r hreading
    cases hstep with
    | commit hbody =>
      refine ⟨session_kept h.session hbody hle (fun r hreading => ?_) (fun lifetime r hjob => hcall ⟨lifetime, r, hjob⟩)
        hdrawn, transact_leaves_enabled hbody h.account⟩
      simp only at hreading ⊢
      rw [hreading]
      exact Int.le_refl r
    | refuse hbody =>
      refine ⟨?_, h.account⟩
      rcases h.session with ⟨x, hx⟩ | hgone
      · exact .inl ⟨x, hx.carry hx.mem hx.only (.inl rfl) hle⟩
      · have hexpired := hgone.expired
        exact .inr ⟨hgone.none, hexpired.imp (Int.le_trans · hle) (Int.le_trans · hle)⟩

end Call

/-! ## Runs -/

theorem readings_cons (e : Answered) (events : List Answered) :
    readings (e :: events) = e.job.reading.toList ++ readings events := by
  unfold readings
  rw [List.filterMap_cons]
  cases e.job.reading <;> rfl

theorem readings_append (earlier later : List Answered) :
    readings (earlier ++ later) = readings earlier ++ readings later := List.filterMap_append

/-- **A run of operations** keeps what is known of the session, and moves its idle expiry on. -/
theorem Kept.run (hrun : Run (Serial m) s events s')
    (hlifetime : ∀ e ∈ events, ∀ digest lifetime r, e.job = .authenticateSessionDigest digest lifetime r →
      lifetime = config.sessionIdleLifetime)
    (hdrawn : ∀ e ∈ events, ∀ other, e.job.creates = some other →
      other.id ≠ opened.id ∧ other.bearerDigest ≠ opened.bearerDigest)
    (hsteady : ∀ e ∈ events, Steady opened e.before)
    (hclock : (now :: readings events).Pairwise (· ≤ ·)) (h : Kept config opened s now idle) :
    idle ≤ idleExpiry opened.bearerDigest idle events ∧ ∃ t, (∀ u, (∀ r ∈ now :: readings events, r ≤ u) → t ≤ u) ∧
      Kept config opened s' t (idleExpiry opened.bearerDigest idle events) := by
  induction hrun generalizing now idle with
  | nil s => exact ⟨Int.le_refl idle, now, fun u hu => hu now List.mem_cons_self, h⟩
  | @cons s s₁ s' e events hstep _ ih =>
    rw [List.forall_mem_cons] at hlifetime hdrawn hsteady
    rw [readings_cons] at hclock ⊢
    have hbefore : e.before = s := by cases hstep <;> rfl
    have hfirst : ∀ r, e.job.reading = some r → now ≤ r := by
      intro r hr
      refine (List.pairwise_cons.mp hclock).1 r (mem_append_left _ ?_)
      exact Option.mem_toList.mpr hr
    obtain ⟨hmoved, hkept⟩ := h.step (hbefore ▸ hsteady.1) hstep hfirst hlifetime.1 hdrawn.1
    have hrest : (e.job.reading.getD now :: readings events).Pairwise (· ≤ ·) := by
      cases hreading : e.job.reading with
      | none =>
        rw [hreading] at hclock
        exact hclock
      | some r =>
        rw [hreading] at hclock
        exact (List.pairwise_cons.mp hclock).2
    obtain ⟨hmoved', t, hbound, hkept'⟩ := ih hlifetime.2 hdrawn.2 hsteady.2 hrest hkept
    refine ⟨Int.le_trans hmoved hmoved', t, fun u hu => hbound u fun r hr => ?_, hkept'⟩
    rcases List.mem_cons.mp hr with rfl | hr
    · cases hreading : e.job.reading with
      | none => exact hu now List.mem_cons_self
      | some r =>
        refine hu r (List.mem_cons_of_mem _ (mem_append_left _ ?_))
        rw [hreading]
        exact mem_singleton_self r
    · exact hu r (List.mem_cons_of_mem _ (List.mem_append_right _ hr))

/-- What the creation of a session needs and leaves. -/
theorem transact_creates (hbody : transact m job s = .ok d) (hcreates : job.creates = some opened)
    (hreading : job.reading = some createdAt) :
    (∀ x ∈ s.accountSessions, x.id ≠ opened.id ∧ x.bearerDigest ≠ opened.bearerDigest) ∧
    (∃ a ∈ (d.apply s).accounts, a.id = opened.accountId ∧ a.loginEnabled = true) ∧
    ∃ xs : List AccountSessionDocument, (d.apply s).accountSessions = xs ++ [accountSessionDocument opened createdAt] ∧
      ∀ y ∈ xs, ∃ x ∈ s.accountSessions, y.id = x.id ∧ y.bearerDigest = x.bearerDigest := by
  cases job with
  | createLoginSession newSession now =>
    obtain rfl := Option.some.inj hcreates
    obtain rfl := Option.some.inj hreading
    obtain ⟨hroom, -, happly⟩ := createLoginSession_eq_ok hbody
    simp only [transact, createLoginSession, bind_eq_ok, okOr_eq_ok] at hbody
    obtain ⟨account, haccount, -⟩ := hbody
    have hfound := List.find?_some haccount
    rw [decide_eq_true_eq] at hfound
    obtain ⟨hid, henabled, -⟩ := hfound
    refine ⟨hroom, ⟨account, ?_, hid, henabled⟩, _, (happly s).2, fun y hy => ?_⟩
    · rw [(happly s).1]
      exact List.mem_of_find?_eq_some haccount
    · obtain ⟨x, hx, rfl⟩ := mem_map.mp hy
      refine ⟨x, hx, ?_⟩
      split <;> exact ⟨rfl, rfl⟩
  | completeSignup write now =>
    obtain rfl := Option.some.inj hcreates
    obtain rfl := Option.some.inj hreading
    obtain ⟨signup, access, -, -, -, -, -, -, hid, -, happly⟩ := completeSignup_eq_ok hbody
    simp only [transact, completeSignup, bind_eq_ok, exists_unit, okOr_eq_ok, rejectIf_eq_ok] at hbody
    obtain ⟨-, -, -, -, -, hroom, -⟩ := hbody
    refine ⟨fun x hx => ⟨hid x hx, fun hdigest => hroom ⟨x, hx, .inr (.inl hdigest)⟩⟩, ?_, s.accountSessions, ?_,
      fun y hy => ⟨y, hy, rfl, rfl⟩⟩
    · rw [happly]
      exact ⟨accountDocument write.account, List.mem_append_right _ (mem_singleton_self _), write.ofAccount.symm, rfl⟩
    · rw [happly]
  | issueSignupAccessToken token => cases hcreates
  | beginSignup signup now => cases hcreates
  | revokeSignupAccessToken tokenId => cases hcreates
  | authenticateSessionDigest digest lifetime now => cases hcreates
  | updatePasswordAndRevokeSessions accountId phc now => cases hcreates
  | revokeAccountSession accountId sessionId now => cases hcreates
  | cleanupExpiredAccountSession sessionId now => cases hcreates

/-- A session that was just created is there, and its account is. -/
theorem kept_opened (hvalid : config.ValidLifetimes)
    {id bearerDigest csrfDigest : String} {version : Nat} {madeAt : Int} (hmade : madeAt ≤ createdAt)
    (hopened : opened = newAccountSession config id accountId bearerDigest csrfDigest version madeAt)
    {s₀ : AuthStore} (hlife : Life config opened createdAt s₀ events s) :
    Kept config opened s₀ createdAt opened.idleExpiresAt := by
  obtain ⟨job, d, s', hcreates, hreading, hbody, rfl⟩ := hlife.opening
  obtain ⟨hroom, haccount, xs, hsessions, hxs⟩ := transact_creates hbody hcreates hreading
  have hidle := hvalid.idle_le
  refine ⟨.inl ⟨accountSessionDocument opened createdAt, ?_, fun y hy hours => ?_, rfl, rfl, rfl, rfl, rfl, ?_, rfl, ?_,
    Int.le_refl createdAt, ?_⟩, haccount⟩
  · rw [hsessions]
    exact List.mem_append_right _ (mem_singleton_self _)
  · rw [hsessions] at hy
    rcases mem_append.mp hy with hy | hy
    · obtain ⟨x, hx, hid, hdigest⟩ := hxs y hy
      rw [hid, hdigest] at hours
      exact absurd hours (not_or.mpr (hroom x hx))
    · exact mem_singleton.mp hy
  all_goals subst hopened
  · show madeAt + config.sessionAbsoluteLifetime ≤ madeAt + config.sessionAbsoluteLifetime + retentionGrace
    unfold retentionGrace
    omega
  · show madeAt + config.sessionIdleLifetime ≤ madeAt + config.sessionAbsoluteLifetime
    omega
  · show madeAt + config.sessionIdleLifetime ≤ createdAt + config.sessionIdleLifetime
    omega

/-- **Every call on a live session is answered with a record, and no other.** -/
def AnswersWhileLive (opened : NewMongoAccountSession) (events : List Answered) : Prop :=
  ∀ earlier e later lifetime t, events = earlier ++ e :: later →
    e.job = .authenticateSessionDigest opened.bearerDigest lifetime t →
    ((e.record opened.bearerDigest).isSome = true ↔ t < opened.absoluteExpiresAt ∧
      t < idleExpiry opened.bearerDigest opened.idleExpiresAt earlier)

/-- The stored idle expiry never moves back, nor past the absolute expiry. -/
def IdleExpirySlides (m : Nat) (opened : NewMongoAccountSession) (s₀ : AuthStore) (events : List Answered)
    (s : AuthStore) : Prop :=
  ∀ earlier later s₁, events = earlier ++ later → Run (Serial m) s₀ earlier s₁ → Run (Serial m) s₁ later s →
    ∀ x ∈ s.accountSessions, x.id = opened.id → x.idleExpiresAt ≤ x.absoluteExpiresAt ∧
      ∀ x₁ ∈ s₁.accountSessions, x₁.id = opened.id → x₁.idleExpiresAt ≤ x.idleExpiresAt

/-- **Every call on a live session finds something to write.** -/
def ModifiesWhileLive (opened : NewMongoAccountSession) (events : List Answered) : Prop :=
  ∀ e ∈ events, ∀ lifetime t, e.job = .authenticateSessionDigest opened.bearerDigest lifetime t →
    ∀ x ∈ e.before.accountSessions, x.bearerDigest = opened.bearerDigest → x.activeAt t = true →
      ¬ x.unmodifiedAt lifetime t

section Life

variable {config : AuthenticationConfig} {opened : NewMongoAccountSession} {id accountId bearerDigest csrfDigest : String}
  {version : Nat} {madeAt createdAt : Int} {s₀ s : AuthStore} {events : List Answered}

theorem Present.of_kept {now idle : Int} {x : AccountSessionDocument} (h : Kept config opened s now idle)
    (hx : x ∈ s.accountSessions) (hid : x.id = opened.id) : Present config opened s now idle x := by
  rcases h.session with ⟨y, hy⟩ | hgone
  · rwa [hy.only x hx (.inl hid)]
  · exact absurd hid (hgone.none x hx).1

variable {earlier later : List Answered}

/-- What is known of the session at any time of its life. -/
theorem Life.kept (hlife : Life config opened createdAt s₀ events s)
    (hkept : Kept config opened s₀ createdAt opened.idleExpiresAt) {s₁ : AuthStore}
    (hevents : events = earlier ++ later) (hrun : Run (Serial config.maxActiveSessions) s₀ earlier s₁) :
    ∃ t, (∀ u, (∀ r ∈ createdAt :: readings earlier, r ≤ u) → t ≤ u) ∧
      Kept config opened s₁ t (idleExpiry opened.bearerDigest opened.idleExpiresAt earlier) := by
  subst hevents
  have hclock := hlife.clock
  rw [readings_append, ← List.cons_append] at hclock
  exact (hkept.run hrun (fun e he => hlife.lifetime e (mem_append_left _ he))
    (fun e he => hlife.drawn e (mem_append_left _ he))
    (fun e he => hlife.steady e (mem_append_left _ he)) (List.pairwise_append.mp hclock).1).2

/-- **The answer to a call** at any time of the session's life. -/
theorem Life.call (hlife : Life config opened createdAt s₀ events s)
    (hkept : Kept config opened s₀ createdAt opened.idleExpiresAt) {e : Answered}
    {lifetime t : Int} (hevents : events = earlier ++ e :: later)
    (hjob : e.job = .authenticateSessionDigest opened.bearerDigest lifetime t) :
    ((e.record opened.bearerDigest).isSome = true ↔ (t < opened.absoluteExpiresAt ∧
        t < idleExpiry opened.bearerDigest opened.idleExpiresAt earlier) ∧
      ∀ x ∈ e.before.accountSessions, x.bearerDigest = opened.bearerDigest → ¬ x.unmodifiedAt lifetime t) ∧
    ∀ x ∈ e.before.accountSessions, x.bearerDigest = opened.bearerDigest →
      (x.activeAt t = true ↔ t < opened.absoluteExpiresAt ∧
        t < idleExpiry opened.bearerDigest opened.idleExpiresAt earlier) := by
  have hmem : e ∈ events := by
    rw [hevents]
    exact List.mem_append_right _ List.mem_cons_self
  obtain rfl := hlife.lifetime e hmem _ _ _ hjob
  have hrun := hlife.run
  rw [hevents] at hrun
  obtain ⟨s₁, hearlier, hrest⟩ := hrun.of_append
  obtain ⟨now, hbound, hkept₁⟩ := hlife.kept hkept hevents hearlier
  cases hrest with
  | @cons _ s₂ _ _ _ hstep _ =>
    have hbefore : e.before = s₁ := by cases hstep <;> rfl
    have hsteady := hlife.steady e hmem
    rw [hbefore] at hsteady ⊢
    have hle : now ≤ t := by
      refine hbound t fun r hr => ?_
      have hclock := hlife.clock
      rw [hevents, readings_append, readings_cons, ← List.cons_append] at hclock
      refine (List.pairwise_append.mp hclock).2.2 r hr t (mem_append_left _ ?_)
      rw [hjob]
      exact mem_singleton_self t
    refine ⟨(hkept₁.call hsteady hle hstep hjob).1, fun x hx hdigest => ?_⟩
    rcases hkept₁.session with ⟨y, hy⟩ | hgone
    · rw [hy.only x hx (.inr hdigest), hy.activeAt_iff hsteady]
      exact and_comm
    · exact absurd hdigest (hgone.none x hx).2

/-- **A session answers while it is live exactly if every call on it while it is live finds something to write.** -/
theorem answers_while_live_iff (hvalid : config.ValidLifetimes) (hmade : madeAt ≤ createdAt)
    (hopened : opened = newAccountSession config id accountId bearerDigest csrfDigest version madeAt)
    (hlife : Life config opened createdAt s₀ events s) :
    (AnswersWhileLive opened events ∧ IdleExpirySlides config.maxActiveSessions opened s₀ events s) ↔
      ModifiesWhileLive opened events := by
  have hkept := kept_opened hvalid hmade hopened hlife
  constructor
  · rintro ⟨hanswers, -⟩ e he lifetime t hjob x hx hdigest hactive
    obtain ⟨earlier, later, hevents⟩ := List.append_of_mem he
    obtain ⟨hrecord, hlive⟩ := hlife.call hkept hevents hjob
    have hsome := (hanswers earlier e later lifetime t hevents hjob).mpr ((hlive x hx hdigest).mp hactive)
    exact (hrecord.mp hsome).2 x hx hdigest
  · intro hmodifies
    refine ⟨fun earlier e later lifetime t hevents hjob => ?_, fun earlier later s₁ hevents hrun₁ hrun => ?_⟩
    · have hmem : e ∈ events := by
        rw [hevents]
        exact List.mem_append_right _ List.mem_cons_self
      obtain ⟨hrecord, hlive⟩ := hlife.call hkept hevents hjob
      rw [hrecord]
      refine and_iff_left_of_imp fun h x hx hdigest => ?_
      exact hmodifies e hmem lifetime t hjob x hx hdigest ((hlive x hx hdigest).mpr h)
    · obtain ⟨t, hbound, hkept₁⟩ := hlife.kept hkept hevents hrun₁
      have hclock := hlife.clock
      rw [hevents, readings_append, ← List.cons_append] at hclock
      have hlater : (t :: readings later).Pairwise (· ≤ ·) := by
        refine List.pairwise_cons.mpr ⟨fun r hr => hbound r fun q hq => ?_, (List.pairwise_append.mp hclock).2.1⟩
        exact (List.pairwise_append.mp hclock).2.2 q hq r hr
      have hall : ∀ e ∈ later, e ∈ events := by
        intro e he
        rw [hevents]
        exact List.mem_append_right _ he
      obtain ⟨hmoved, _, -, hkept₂⟩ := hkept₁.run hrun (fun e he => hlife.lifetime e (hall e he))
        (fun e he => hlife.drawn e (hall e he)) (fun e he => hlife.steady e (hall e he)) hlater
      intro x hx hid
      have hpresent := Present.of_kept hkept₂ hx hid
      refine ⟨?_, fun x₁ hx₁ hid₁ => ?_⟩
      · rw [hpresent.idle_eq]
        exact hpresent.idle_le
      · rw [hpresent.idle_eq, (Present.of_kept hkept₁ hx₁ hid₁).idle_eq]
        exact hmoved

/-- A clock that advances from operation to operation leaves every call something to write. -/
theorem modifiesWhileLive_of_advancing (hvalid : config.ValidLifetimes) (hmade : madeAt ≤ createdAt)
    (hopened : opened = newAccountSession config id accountId bearerDigest csrfDigest version madeAt)
    (hlife : Life config opened createdAt s₀ events s) (hadvances : (createdAt :: readings events).Pairwise (· < ·)) :
    ModifiesWhileLive opened events := by
  intro e he lifetime t hjob x hx hdigest hactive hunmodified
  obtain ⟨earlier, later, hevents⟩ := List.append_of_mem he
  have hrun := hlife.run
  rw [hevents] at hrun
  obtain ⟨s₁, hearlier, hrest⟩ := hrun.of_append
  obtain ⟨now, hbound, hkept₁⟩ := hlife.kept (kept_opened hvalid hmade hopened hlife) hevents hearlier
  have hbefore : e.before = s₁ := by
    cases hrest with
    | cons hstep _ => cases hstep <;> rfl
  -- The session was last seen before this reading of the clock.
  have hlt : now ≤ t - 1 := by
    refine hbound (t - 1) fun r hr => ?_
    rw [hevents, readings_append, readings_cons, ← List.cons_append, hjob] at hadvances
    have := (List.pairwise_append.mp hadvances).2.2 r hr t (mem_append_left _ (mem_singleton_self t))
    omega
  rw [hbefore] at hx
  rcases hkept₁.session with ⟨y, hy⟩ | hgone
  · obtain rfl := hy.only x hx (.inr hdigest)
    have hseen := hy.seen
    have hsame := hunmodified.1
    omega
  · exact (hgone.none x hx).2 hdigest

end Life

/-! ## Two calls in one millisecond -/

def weekAndMonth : AuthenticationConfig := ⟨7 * 24 * 60 * 60 * 1000, 30 * 24 * 60 * 60 * 1000, 5⟩

/-- A session that is made and stored at reading 1000. -/
def guestSession : NewMongoAccountSession :=
  newAccountSession weekAndMonth "session:1" "account:1" "sha256:bearer" "sha256:csrf" 1 1000

def guestSignup : CompleteSignupWrite where
  signupBearerDigest := "sha256:signup"
  signupCsrfDigest := "sha256:signup-csrf"
  account := ⟨"account:1", "guest", "hmac-sha256:guest", "phc"⟩
  accountSession := guestSession
  ofAccount := rfl
  ofFirstVersion := rfl

/-- The store in which the signup is completed. -/
def beforeSignup : AuthStore where
  accessTokens := [⟨"token:1", "sha256:token", .active, .user, 9000, some "signup:1"⟩]
  signupSessions := [⟨"signup:1", "sha256:signup", "sha256:signup-csrf", "token:1", .active, 9000⟩]
  accounts := []
  accountSessions := []

def afterSignup : AuthStore where
  accessTokens := [⟨"token:1", "sha256:token", .consumed, .user, 9000, some "signup:1"⟩]
  signupSessions := [⟨"signup:1", "sha256:signup", "sha256:signup-csrf", "token:1", .completed, 9000⟩]
  accounts := [⟨"account:1", "guest", "hmac-sha256:guest", "phc", 1, true⟩]
  accountSessions := [accountSessionDocument guestSession 1000]

/-- The store with the session as a call at a reading leaves it. -/
def seenAt (now : Int) : AuthStore :=
  { afterSignup with accountSessions := [{ accountSessionDocument guestSession 1000 with
      lastSeenAt := now, idleExpiresAt := now + 7 * 24 * 60 * 60 * 1000 }] }

/-- A call on the session, with what it is answered. -/
def guestCall (before : AuthStore) (now : Int) (record : Option AccountSessionDocument) : Answered :=
  ⟨.authenticateSessionDigest "sha256:bearer" weekAndMonth.sessionIdleLifetime now, before, .ok (.authenticated record)⟩

theorem Serial.of_commit {answer : AuthAnswer}
    (h : transact m job s = .ok d) (hs : d.apply s = s') (hanswer : d.answer = answer) :
    Serial m s ⟨job, s, .ok answer⟩ s' := by
  subst hs hanswer
  exact .commit h

theorem guest_signs_up : ∃ d, transact 5 (.completeSignup guestSignup 1000) beforeSignup = .ok d ∧
    d.apply beforeSignup = afterSignup := ⟨_, rfl, rfl⟩

theorem guest_is_seen : Serial 5 afterSignup (guestCall afterSignup 2000 (seenAt 2000).accountSessions.head?)
    (seenAt 2000) := .of_commit rfl rfl rfl

theorem guest_is_seen_again : Serial 5 (seenAt 2000) (guestCall (seenAt 2000) 3000 (seenAt 3000).accountSessions.head?)
    (seenAt 3000) := .of_commit rfl rfl rfl

theorem guest_is_refused : Serial 5 (seenAt 2000) (guestCall (seenAt 2000) 2000 none) (seenAt 2000) :=
  .of_commit rfl rfl rfl

/-- The guest's life, of these two calls. -/
theorem guest_life {record : Option AccountSessionDocument} (hnow : 2000 ≤ now)
    (hstep : Serial 5 (seenAt 2000) (guestCall (seenAt 2000) now record) s) :
    Life weekAndMonth guestSession 1000 afterSignup
      [guestCall afterSignup 2000 (seenAt 2000).accountSessions.head?, guestCall (seenAt 2000) now record] s where
  opening := by
    obtain ⟨d, hbody, happly⟩ := guest_signs_up
    exact ⟨_, d, _, rfl, rfl, hbody, happly⟩
  run := .cons guest_is_seen (.cons hstep (.nil s))
  clock := by
    show [1000, 2000, now].Pairwise (· ≤ ·)
    simp [hnow]
    omega
  lifetime := by
    intro e he digest lifetime r hjob
    obtain ⟨t, before, answer, rfl⟩ : ∃ t before answer, e = guestCall before t answer := by
      rcases mem_pair.mp he with rfl | rfl <;> exact ⟨_, _, _, rfl⟩
    exact (AuthJob.authenticateSessionDigest.inj hjob).2.1.symm
  drawn := by
    intro e he other hcreates
    rcases mem_pair.mp he with rfl | rfl <;> cases hcreates
  steady := by
    intro e he
    rcases mem_pair.mp he with rfl | rfl <;> refine ⟨fun x hx _ => ?_, fun a ha _ => ?_⟩
    all_goals first | rw [mem_singleton.mp hx]; rfl | rw [mem_singleton.mp ha]; rfl

theorem weekAndMonth_valid : weekAndMonth.ValidLifetimes := ⟨by decide, by decide, by decide⟩

/-- **A second call in one millisecond is refused**, on a session that has a week to go. -/
theorem second_call_is_refused : ¬ ∀ (config : AuthenticationConfig), config.ValidLifetimes →
    ∀ opened id accountId bearerDigest csrfDigest version madeAt createdAt s₀ events s, madeAt ≤ createdAt →
      opened = newAccountSession config id accountId bearerDigest csrfDigest version madeAt →
      Life config opened createdAt s₀ events s →
      AnswersWhileLive opened events ∧ IdleExpirySlides config.maxActiveSessions opened s₀ events s := by
  intro hclaim
  have hanswers := (hclaim weekAndMonth weekAndMonth_valid guestSession _ _ _ _ _ _ _ _ _ _ (Int.le_refl 1000) rfl
    (guest_life (Int.le_refl 2000) guest_is_refused)).1
  have hsecond := hanswers [guestCall afterSignup 2000 (seenAt 2000).accountSessions.head?] _ [] _ 2000 rfl rfl
  exact absurd (hsecond.mpr (by decide)) (by decide)

theorem answers_while_live_iff_guest : AnswersWhileLive guestSession
      [guestCall afterSignup 2000 (seenAt 2000).accountSessions.head?,
        guestCall (seenAt 2000) 3000 (seenAt 3000).accountSessions.head?] ∧
    IdleExpirySlides 5 guestSession afterSignup
      [guestCall afterSignup 2000 (seenAt 2000).accountSessions.head?,
        guestCall (seenAt 2000) 3000 (seenAt 3000).accountSessions.head?] (seenAt 3000) := by
  have hlife := guest_life (show 2000 ≤ 3000 by decide) guest_is_seen_again
  refine (answers_while_live_iff weekAndMonth_valid (Int.le_refl 1000) rfl hlife).mpr ?_
  exact modifiesWhileLive_of_advancing weekAndMonth_valid (Int.le_refl 1000) rfl hlife (by decide)

end ManchesterArcana.Persistence
