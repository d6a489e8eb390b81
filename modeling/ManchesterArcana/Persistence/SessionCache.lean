import ManchesterArcana.Effect.Pool
import ManchesterArcana.Persistence.LoginSessions

/-!
# `Persistence.SessionCache` — login sessions behind a cache

The authentication service keeps accounts and sessions in the database and copies of sessions in a cache. Its
calls are programs over both (`Service`): a database operation is one transaction, a cache write is issued and
lands later or never, and a cache entry can be evicted at any time.

The database is meant to be authoritative. A session found in the cache is answered for after a look at its
account alone, though, so an entry that outlives its session's revocation lets the token in
(`revoked_session_lets_in`). `revocation_is_final` is what holds of the calls that meet no such entry.
-/

namespace ManchesterArcana.Persistence

open Effect Store

/-! ## The cache -/

structure SessionCacheEntry where
  accountId : String
  sessionId : String
  csrfDigest : String
  idleExpiresAtMillis : Int
  absoluteExpiresAtMillis : Int
  passwordRoleVersion : Nat
  lastPersistedAtMillis : Int
  deriving DecidableEq, Repr

def isLowerHexDigit (c : Char) : Bool := c.isDigit || ('a' ≤ c && c ≤ 'f')

def validSha256Digest (value : String) : Bool :=
  value.toList.length = 71 ∧ "sha256:".toList.isPrefixOf value.toList ∧ (value.toList.drop 7).all isLowerHexDigit

def validCachedSession (entry : SessionCacheEntry) (nowMillis : Int) : Bool :=
  "account:".toList.isPrefixOf entry.accountId.toList ∧ "session:".toList.isPrefixOf entry.sessionId.toList ∧
    validSha256Digest entry.csrfDigest ∧ 0 < entry.passwordRoleVersion ∧
    nowMillis < entry.idleExpiresAtMillis ∧ nowMillis < entry.absoluteExpiresAtMillis

/-- A write to the cache that has been issued and has not landed. -/
inductive CacheWrite where
  | setSession (bearerDigest : String) (entry : SessionCacheEntry)
  | delSession (bearerDigest : String)

abbrev SessionCache := String → Option SessionCacheEntry

def CacheWrite.land : CacheWrite → SessionCache → SessionCache
  | .setSession digest entry, cache => fun d => if d = digest then some entry else cache d
  | .delSession digest, cache => fun d => if d = digest then none else cache d

structure SessionState where
  store : AuthStore
  cache : SessionCache
  inFlight : List CacheWrite

/-! ## The service -/

structure AuthenticationConfig where
  sessionIdleLifetime : Int
  sessionAbsoluteLifetime : Int
  maxActiveSessions : Nat

/-- What a call asks of the clock, the throttle, the database and the cache. -/
inductive AuthCall where
  | now
  | recordAuthenticationAttempt (identifier : String)
  | loadLoginAccount (identifier : String)
  | updatePasswordAndRevokeSessions (accountId passwordPhc : String)
  | createLoginSession (newSession : NewMongoAccountSession)
  | authenticateSessionDigest (bearerDigest : String)
  | revokeAccountSession (accountId sessionId : String)
  | accountVersionIsCurrent (accountId : String) (passwordRoleVersion : Nat)
  /-- Of a call that read the clock as given. -/
  | getSession (bearerDigest : String) (now : Int)
  | setSession (bearerDigest : String) (entry : SessionCacheEntry)
  | delSession (bearerDigest : String)

inductive AuthReply where
  | time (now : Int)
  | throttled (blocked : Bool)
  | account (found : Option AccountDocument)
  | decided (outcome : Except PersistenceError AuthAnswer)
  | current (yes : Bool)
  | entry (found : Option SessionCacheEntry)
  | issued

def AuthStore.accountVersionIsCurrent (s : AuthStore) (accountId : String) (version : Nat) : Bool :=
  s.accounts.any fun a => a.id = accountId ∧ a.loginEnabled ∧ a.passwordRoleVersion = version

def AuthStore.loadLoginAccount (s : AuthStore) (identifier : String) : Option AccountDocument :=
  s.accounts.find? fun a => a.usernameNormalized = identifier ∨ a.emailLookupHmac = identifier

/-- The transaction that a question is, at a reading of the clock. -/
def AuthCall.job (config : AuthenticationConfig) (now : Int) : AuthCall → Option AuthJob
  | .updatePasswordAndRevokeSessions accountId phc => some (.updatePasswordAndRevokeSessions accountId phc now)
  | .createLoginSession newSession => some (.createLoginSession newSession now)
  | .authenticateSessionDigest digest => some (.authenticateSessionDigest digest config.sessionIdleLifetime now)
  | .revokeAccountSession accountId sessionId => some (.revokeAccountSession accountId sessionId now)
  | _ => none

/-- **How a question is answered.** A read of the cache misses, or finds an entry that `hits` admits. -/
inductive Serves (config : AuthenticationConfig) (hits : SessionState → String → Int → SessionCacheEntry → Prop) :
    SessionState → AuthCall → AuthReply → SessionState → Prop where
  | now (s : SessionState) (t : Int) : Serves config hits s .now (.time t) s
  | throttle (s : SessionState) (identifier : String) (blocked : Bool) :
      Serves config hits s (.recordAuthenticationAttempt identifier) (.throttled blocked) s
  | load (s : SessionState) (identifier : String) :
      Serves config hits s (.loadLoginAccount identifier) (.account (s.store.loadLoginAccount identifier)) s
  | commit {s : SessionState} {q : AuthCall} {job : AuthJob} {d : AuthDecision} (t : Int) :
      q.job config t = some job → transact config.maxActiveSessions job s.store = .ok d →
      Serves config hits s q (.decided (.ok d.answer)) { s with store := d.apply s.store }
  | refuse {s : SessionState} {q : AuthCall} {job : AuthJob} {e : PersistenceError} (t : Int) :
      q.job config t = some job → transact config.maxActiveSessions job s.store = .error e →
      Serves config hits s q (.decided (.error e)) s
  | version (s : SessionState) (accountId : String) (version : Nat) :
      Serves config hits s (.accountVersionIsCurrent accountId version)
        (.current (s.store.accountVersionIsCurrent accountId version)) s
  | miss (s : SessionState) (digest : String) (t : Int) : Serves config hits s (.getSession digest t) (.entry none) s
  | hit {s : SessionState} {digest : String} {entry : SessionCacheEntry} {t : Int} :
      s.cache digest = some entry → hits s digest t entry →
      Serves config hits s (.getSession digest t) (.entry (some entry)) s
  | set (s : SessionState) (digest : String) (entry : SessionCacheEntry) :
      Serves config hits s (.setSession digest entry) .issued
        { s with inFlight := s.inFlight ++ [.setSession digest entry] }
  | delete (s : SessionState) (digest : String) :
      Serves config hits s (.delSession digest) .issued { s with inFlight := s.inFlight ++ [.delSession digest] }

/-- What happens of itself: a write lands, in any order, or is lost, and entries are evicted. -/
inductive Drifts : SessionState → SessionState → Prop where
  | land {s : SessionState} {earlier later : List CacheWrite} {write : CacheWrite} :
      s.inFlight = earlier ++ write :: later →
      Drifts s { s with cache := write.land s.cache, inFlight := earlier ++ later }
  | lose {s : SessionState} {earlier later : List CacheWrite} {write : CacheWrite} :
      s.inFlight = earlier ++ write :: later → Drifts s { s with inFlight := earlier ++ later }
  | evict (s : SessionState) (digest : String) :
      Drifts s { s with cache := (CacheWrite.delSession digest).land s.cache }

def sessionService (config : AuthenticationConfig) (hits : SessionState → String → Int → SessionCacheEntry → Prop) :
    Service SessionState AuthCall AuthReply := ⟨Serves config hits, Drifts⟩

/-! ## The calls -/

inductive AuthenticationError where
  | throttled
  | invalidCredentials
  | invalidSession
  | persistence (error : PersistenceError)
  /-- An answer to another question. -/
  | unexpected

structure AuthenticatedSession where
  accountId : String
  sessionId : String
  csrfDigest : String
  idleExpiresAt : Int
  absoluteExpiresAt : Int

inductive AuthOutcome where
  | authenticated (session : AuthenticatedSession)
  | loggedIn (session : AuthenticatedSession)
  | revoked

abbrev AuthProg := Prog AuthCall AuthReply AuthenticationError

namespace AuthProg

def readClock : AuthProg Int :=
  .ask .now fun
    | .time t => .ok t
    | _ => .err .unexpected

def transaction (q : AuthCall) : AuthProg AuthAnswer :=
  .ask q fun
    | .decided (.ok answer) => .ok answer
    | .decided (.error e) => .err (.persistence e)
    | _ => .err .unexpected

def getSession (digest : String) (now : Int) : AuthProg (Option SessionCacheEntry) :=
  .ask (.getSession digest now) fun
    | .entry found => .ok found
    | _ => .err .unexpected

def accountVersionIsCurrent (accountId : String) (version : Nat) : AuthProg Bool :=
  .ask (.accountVersionIsCurrent accountId version) fun
    | .current yes => .ok yes
    | _ => .err .unexpected

/-- What becomes of a cache write is not looked at. -/
def delSession (digest : String) : AuthProg Unit := .ask (.delSession digest) fun _ => .ok ()

end AuthProg

/-- `session_record`, in the parts that are used. -/
def AccountSessionDocument.authenticated (x : AccountSessionDocument) : AuthenticatedSession where
  accountId := x.accountId
  sessionId := x.id
  csrfDigest := x.csrfDigest
  idleExpiresAt := x.idleExpiresAt
  absoluteExpiresAt := x.absoluteExpiresAt

def cachedAuthenticatedSession (entry : SessionCacheEntry) : AuthenticatedSession where
  accountId := entry.accountId
  sessionId := entry.sessionId
  csrfDigest := entry.csrfDigest
  idleExpiresAt := entry.idleExpiresAtMillis
  absoluteExpiresAt := entry.absoluteExpiresAtMillis

/-- `cache_session`. -/
def cacheSession (digest : String) (session : AccountSessionDocument) (persistedAtMillis : Int) : AuthProg Unit := do
  let now ← AuthProg.readClock
  if min session.idleExpiresAt session.absoluteExpiresAt - now ≤ 0 then return ()
  let entry : SessionCacheEntry :=
    { accountId := session.accountId, sessionId := session.id, csrfDigest := session.csrfDigest,
      idleExpiresAtMillis := session.idleExpiresAt, absoluteExpiresAtMillis := session.absoluteExpiresAt,
      passwordRoleVersion := session.passwordRoleVersion,
      lastPersistedAtMillis := max session.lastSeenAt persistedAtMillis }
  .ask (.setSession digest entry) fun _ => .ok ()

/-- How long an authentication may be answered for from the cache before it is persisted again. -/
def AuthenticationConfig.refreshInterval (config : AuthenticationConfig) : Int :=
  max (min (config.sessionIdleLifetime / 2) 60000) 1000

/-- The part of `authenticate` that goes to the database. -/
def authenticateStored (digest : String) (nowMillis : Int) : AuthProg AuthOutcome := do
  match ← AuthProg.transaction (.authenticateSessionDigest digest) with
  | .authenticated (some session) =>
    cacheSession digest session nowMillis
    return .authenticated session.authenticated
  | .authenticated none => .err .invalidSession
  | _ => .err .unexpected

/-- The part of `authenticate` that starts from a cache entry. -/
def authenticateCached (config : AuthenticationConfig) (digest : String) (nowMillis : Int)
    (entry : SessionCacheEntry) : AuthProg AuthOutcome := do
  if validCachedSession entry nowMillis then
    if ← AuthProg.accountVersionIsCurrent entry.accountId entry.passwordRoleVersion then
      if nowMillis - entry.lastPersistedAtMillis < config.refreshInterval then
        return .authenticated (cachedAuthenticatedSession entry)
      authenticateStored digest nowMillis
    else
      AuthProg.delSession digest
      authenticateStored digest nowMillis
  else
    AuthProg.delSession digest
    authenticateStored digest nowMillis

def authenticate (config : AuthenticationConfig) (digest : String) : AuthProg AuthOutcome := do
  let nowMillis ← AuthProg.readClock
  match ← AuthProg.getSession digest nowMillis with
  | none => authenticateStored digest nowMillis
  | some entry => authenticateCached config digest nowMillis entry

/-- What a login brings: an identifier, how its password fares against a stored hash, and the random ids. -/
structure LoginRequest where
  identifier : String
  verifies : String → Bool
  needsRehash : String → Bool
  replacementPhc : String
  sessionId : String
  bearerDigest : String
  csrfDigest : String
  purgeAfter : Int → Int

def delSessions : List String → AuthProg Unit
  | [] => return ()
  | digest :: rest => do
    AuthProg.delSession digest
    delSessions rest

/-- The rehash of a login, which leaves the version that the account then has. -/
def rehash (request : LoginRequest) (account : AccountDocument) : AuthProg Nat := do
  if request.needsRehash account.passwordPhc then
    match ← AuthProg.transaction (.updatePasswordAndRevokeSessions account.id request.replacementPhc) with
    | .passwordUpdated version digests =>
      delSessions digests
      return version
    | _ => .err .unexpected
  else return account.passwordRoleVersion

def login (config : AuthenticationConfig) (request : LoginRequest) : AuthProg AuthOutcome := do
  let throttled ← .ask (.recordAuthenticationAttempt request.identifier) fun
    | .throttled blocked => .ok blocked
    | _ => .err .unexpected
  if throttled then .err .throttled
  let found ← .ask (.loadLoginAccount request.identifier) fun
    | .account found => .ok found
    | _ => .err .unexpected
  match found.filter fun account => account.loginEnabled && request.verifies account.passwordPhc with
  | none => .err .invalidCredentials
  | some account =>
    let version ← rehash request account
    let now ← AuthProg.readClock
    let absoluteExpiresAt := now + config.sessionAbsoluteLifetime
    match ← AuthProg.transaction (.createLoginSession
      { id := request.sessionId, accountId := account.id, bearerDigest := request.bearerDigest,
        csrfDigest := request.csrfDigest, passwordRoleVersion := version,
        idleExpiresAt := now + config.sessionIdleLifetime, absoluteExpiresAt,
        purgeAt := request.purgeAfter absoluteExpiresAt }) with
    | .loggedIn session digests =>
      delSessions digests
      let persistedAt ← AuthProg.readClock
      cacheSession request.bearerDigest session persistedAt
      return .loggedIn session.authenticated
    | _ => .err .unexpected

def revokeSession (accountId sessionId : String) : AuthProg AuthOutcome := do
  match ← AuthProg.transaction (.revokeAccountSession accountId sessionId) with
  | .sessionRevoked (some digest) =>
    AuthProg.delSession digest
    return .revoked
  | .sessionRevoked none => .err .invalidSession
  | _ => .err .unexpected

/-- A call to the service. A logout is a `revokeSession` of the caller's own session. -/
inductive AuthRequest where
  | login (request : LoginRequest)
  | authenticate (bearerDigest : String)
  | revokeSession (accountId sessionId : String)

def AuthRequest.body (config : AuthenticationConfig) : AuthRequest → AuthProg AuthOutcome
  | .login request => Persistence.login config request
  | .authenticate digest => Persistence.authenticate config digest
  | .revokeSession accountId sessionId => Persistence.revokeSession accountId sessionId

/-! ## What the database does to a revoked session -/

/-- There is a session of this token, and it is revoked. -/
def AuthStore.Revoked (digest : String) (s : AuthStore) : Prop :=
  ∃ x ∈ s.accountSessions, x.bearerDigest = digest ∧ x.unrevoked = false

/-- The unique indexes hold: of accounts by id, of sessions by token. -/
structure AuthStore.Indexed (s : AuthStore) : Prop where
  accounts : (s.accounts.map (·.id)).Nodup
  tokens : (s.accountSessions.map (·.bearerDigest)).Nodup

/-- **Accounts stay, and their versions only grow.** -/
def AuthStore.VersionsGrow (s s' : AuthStore) : Prop :=
  ∀ a ∈ s.accounts, ∃ a' ∈ s'.accounts, a'.id = a.id ∧ a.passwordRoleVersion ≤ a'.passwordRoleVersion

theorem AuthStore.VersionsGrow.refl (s : AuthStore) : s.VersionsGrow s := fun a ha => ⟨a, ha, rfl, Nat.le_refl _⟩

variable {s : AuthStore} {m : Nat} {d : AuthDecision}

theorem AuthStore.VersionsGrow.trans {s' s'' : AuthStore} (h : s.VersionsGrow s') (h' : s'.VersionsGrow s'') :
    s.VersionsGrow s'' := by
  intro a ha
  obtain ⟨a', ha', hid', hle'⟩ := h a ha
  obtain ⟨a'', ha'', hid'', hle''⟩ := h' a' ha'
  exact ⟨a'', ha'', hid''.trans hid', Nat.le_trans hle' hle''⟩

variable {config : AuthenticationConfig} {q : AuthCall} {t : Int} {entry : SessionCacheEntry}

/-- The operations of the service leave the accounts as they are, or raise the version of one. -/
theorem accounts_of_job {job : AuthJob}
    (hjob : q.job config t = some job) (h : transact m job s = .ok d) :
    (d.apply s).accounts.map (·.id) = s.accounts.map (·.id) ∧ s.VersionsGrow (d.apply s) := by
  have hother : ∀ write now, job ≠ .completeSignup write now := by
    rintro write now rfl
    cases q <;> cases hjob
  obtain ⟨created, ⟨rewrite, hkeeps, haccounts⟩, -⟩ := transact_accounts h s
  refine ⟨accounts_of_not_completion h hother, fun a ha => ⟨rewrite a, ?_, (hkeeps a).1, (hkeeps a).2.2⟩⟩
  rw [haccounts]
  exact List.mem_append_left _ (List.mem_map_of_mem ha)

/-- **Revoked is for good**, and tokens stay distinct. -/
theorem sessions_of_job {job : AuthJob}
    (hjob : q.job config t = some job) (h : transact m job s = .ok d)
    (htokens : (s.accountSessions.map (·.bearerDigest)).Nodup) :
    ((d.apply s).accountSessions.map (·.bearerDigest)).Nodup ∧
      ∀ digest, s.Revoked digest → (d.apply s).Revoked digest := by
  have hrevoke : ∀ ids : List String, ∀ now : Int, (revokeAll ids now s.accountSessions).map (·.bearerDigest) =
      s.accountSessions.map (·.bearerDigest) := by
    intro ids now
    unfold revokeAll
    rw [List.map_map]
    refine List.map_congr_left fun x _ => ?_
    show (if x.id ∈ ids then x.revoke now else x).bearerDigest = x.bearerDigest
    split <;> rfl
  have hkept : ∀ ids : List String, ∀ now : Int, ∀ x ∈ s.accountSessions, x.unrevoked = false →
      ∃ y ∈ revokeAll ids now s.accountSessions, y.bearerDigest = x.bearerDigest ∧ y.unrevoked = false := by
    intro ids now x hx hrevoked
    refine ⟨_, List.mem_map_of_mem hx, ?_, ?_⟩
    · split <;> rfl
    · split
      · rfl
      · exact hrevoked
  cases transact_sessions h with
  | unchanged hsessions =>
    refine ⟨by rw [hsessions]; exact htokens, fun digest hr => ?_⟩
    rw [AuthStore.Revoked, hsessions]
    exact hr
  | revoked ids now hsessions =>
    refine ⟨by rw [hsessions, hrevoke]; exact htokens, fun digest hr => ?_⟩
    obtain ⟨x, hx, hdigest, hrevoked⟩ := hr
    obtain ⟨y, hy, hsame, hyrevoked⟩ := hkept ids now x hx hrevoked
    rw [AuthStore.Revoked, hsessions]
    exact ⟨y, hy, hsame.trans hdigest, hyrevoked⟩
  | deleted id now hsessions => cases q <;> cases hjob
  | signedUp write now hsessions => cases q <;> cases hjob
  | loggedIn newSession now hroom hwrites hsessions hsame =>
    refine ⟨?_, fun digest hr => ?_⟩
    · rw [hsessions]
      refine nodup_map_append (by rw [hrevoke]; exact htokens) fun x hx hsame => ?_
      obtain ⟨y, hy, rfl⟩ := List.mem_map.mp hx
      refine (hroom y hy).2 ?_
      split at hsame <;> exact hsame
    · obtain ⟨x, hx, hdigest, hrevoked⟩ := hr
      obtain ⟨y, hy, hsame, hyrevoked⟩ := hkept _ now x hx hrevoked
      rw [AuthStore.Revoked, hsessions]
      exact ⟨y, List.mem_append_left _ hy, hsame.trans hdigest, hyrevoked⟩
  | refreshed digest lifetime now stored idle hstored hdigest hactive hwrites hsessions =>
    refine ⟨?_, fun digest hr => ?_⟩
    · rw [hsessions]
      have hsame : (updateById (·.id) stored.id (fun x => { x with lastSeenAt := now, idleExpiresAt := idle })
          s.accountSessions).map (·.bearerDigest) = s.accountSessions.map (·.bearerDigest) := by
        unfold updateById
        rw [List.map_map]
        refine List.map_congr_left fun x _ => ?_
        simp only [Function.comp_apply]
        split <;> rfl
      rw [hsame]
      exact htokens
    · obtain ⟨x, hx, hdigest, hrevoked⟩ := hr
      rw [AuthStore.Revoked, hsessions]
      by_cases hid : x.id = stored.id
      · exact ⟨_, mem_updateById.mpr (.inl ⟨x, hx, hid, rfl⟩), hdigest, hrevoked⟩
      · exact ⟨x, mem_updateById.mpr (.inr ⟨hx, hid⟩), hdigest, hrevoked⟩

/-- **The database does not authenticate a revoked session.** -/
theorem authenticate_revoked {digest : String} {lifetime now : Int}
    (hindexed : s.Indexed) (hrevoked : s.Revoked digest)
    (h : transact m (.authenticateSessionDigest digest lifetime now) s = .ok d) : d.answer = .authenticated none := by
  have hnone : s.accountSessions.find? (fun x => x.bearerDigest = digest ∧ x.activeAt now) = none := by
    rw [List.find?_eq_none]
    intro y hy hfound
    obtain ⟨x, hx, hdigest, hx'⟩ := hrevoked
    simp only [decide_eq_true_eq, AccountSessionDocument.activeAt] at hfound
    obtain rfl := List.inj_on_of_nodup_map hindexed.tokens hy hx (hfound.1.trans hdigest.symm)
    rw [hx'] at hfound
    cases hfound.2.1
  simp only [transact, authenticateSessionDigest, hnone] at h
  obtain rfl := Except.ok.inj h
  rfl

/-! ## Revocation -/

/-- The account has moved on to a later version than the entry's. -/
def SessionCacheEntry.Outdated (entry : SessionCacheEntry) (s : AuthStore) : Prop :=
  ∃ a ∈ s.accounts, a.id = entry.accountId ∧ entry.passwordRoleVersion < a.passwordRoleVersion

/-- **An entry that can be answered for**: if its session is revoked, it is not valid any more, due to be
    persisted again, or of an earlier version of its account. -/
def UpToDate (config : AuthenticationConfig) (s : SessionState) (digest : String) (now : Int)
    (entry : SessionCacheEntry) : Prop :=
  s.store.Revoked digest → validCachedSession entry now = true →
    now - entry.lastPersistedAtMillis < config.refreshInterval → entry.Outdated s.store

theorem SessionCacheEntry.Outdated.later {s' : AuthStore} (h : entry.Outdated s)
    (hgrow : s.VersionsGrow s') : entry.Outdated s' := by
  obtain ⟨a, ha, hid, hlt⟩ := h
  obtain ⟨a', ha', hid', hle⟩ := hgrow a ha
  exact ⟨a', ha', hid'.trans hid, Nat.lt_of_lt_of_le hlt hle⟩

/-- The version of an outdated entry is not current. -/
theorem SessionCacheEntry.Outdated.not_current (h : entry.Outdated s)
    (hindexed : s.Indexed) : s.accountVersionIsCurrent entry.accountId entry.passwordRoleVersion = false := by
  unfold AuthStore.accountVersionIsCurrent
  rw [List.any_eq_false]
  intro b hb hcurrent
  simp only [decide_eq_true_eq] at hcurrent
  obtain ⟨a, ha, hid, hlt⟩ := h
  obtain rfl := List.inj_on_of_nodup_map hindexed.accounts ha hb (hid.trans hcurrent.1.symm)
  exact absurd hcurrent.2.2 (Nat.ne_of_gt hlt)

section Revocation

variable (config : AuthenticationConfig) (hits : SessionState → String → Int → SessionCacheEntry → Prop)

/-- What the calls can do to a store whose indexes hold. -/
theorem serves_keeps {s s' : SessionState} {q : AuthCall} {r : AuthReply} (h : Serves config hits s q r s')
    (hindexed : s.store.Indexed) : s'.store.Indexed ∧ s.store.VersionsGrow s'.store ∧
      ∀ digest, s.store.Revoked digest → s'.store.Revoked digest := by
  have hsame : s.store.Indexed ∧ s.store.VersionsGrow s.store ∧
      ∀ digest, s.store.Revoked digest → s.store.Revoked digest :=
    ⟨hindexed, .refl _, fun _ hr => hr⟩
  cases h with
  | commit t hjob hbody =>
    obtain ⟨haccounts, hgrow⟩ := accounts_of_job hjob hbody
    obtain ⟨htokens, hrevoked⟩ := sessions_of_job hjob hbody hindexed.tokens
    exact ⟨⟨by rw [haccounts]; exact hindexed.accounts, htokens⟩, hgrow, hrevoked⟩
  | now | throttle | load | refuse | version | miss | hit | set | delete => exact hsame

theorem drifts_keeps {s s' : SessionState} (h : Drifts s s') : s'.store = s.store := by
  cases h <;> rfl

/-- Every call may ask anything: the indexes hold all the same. -/
def indexedRely : Rely (sessionService config hits) AuthRequest where
  inv s := s.store.Indexed
  later s s' := s.store.VersionsGrow s'.store
  may _ _ _ := True
  refl s := .refl _
  trans h h' := h.trans h'
  serve hinv _ hserves :=
    let ⟨hindexed, hgrow, _⟩ := serves_keeps config hits hserves hinv
    ⟨hindexed, hgrow⟩
  drift hinv hdrifts := by
    rw [drifts_keeps hdrifts]
    exact ⟨hinv, .refl _⟩

/-- The same of a store in which the session is revoked. -/
def revokedRely (digest : String) : Rely (sessionService config hits) AuthRequest where
  inv s := s.store.Indexed ∧ s.store.Revoked digest
  later s s' := s.store.VersionsGrow s'.store
  may _ _ _ := True
  refl s := .refl _
  trans h h' := h.trans h'
  serve hinv _ hserves :=
    let ⟨hindexed, hgrow, hrevoked⟩ := serves_keeps config hits hserves hinv.1
    ⟨⟨hindexed, hrevoked digest hinv.2⟩, hgrow⟩
  drift hinv hdrifts := by
    rw [drifts_keeps hdrifts]
    exact ⟨hinv, .refl _⟩

end Revocation

section Refusal

variable {config : AuthenticationConfig} {hits : SessionState → String → Int → SessionCacheEntry → Prop}
  {digest : String} {job : AuthRequest}

/-- The database refuses. -/
theorem authenticateStored_refuses {s : SessionState} (nowMillis : Int) :
    Attends (revokedRely config hits digest) job (authenticateStored digest nowMillis) s fun _ _ => False := by
  refine attends_ask fun s' _ hinv => ⟨trivial, fun r s'' hserves _ _ => ?_⟩
  cases hserves with
  | commit t hjob hbody =>
    obtain rfl := Option.some.inj hjob
    rw [authenticate_revoked hinv.1 hinv.2 hbody]
    trivial
  | refuse t hjob hbody => trivial

/-- **An authentication of a revoked session fails** when it meets no entry that can be answered for. -/
theorem authenticate_refuses {s : SessionState} :
    Attends (revokedRely config (UpToDate config) digest) job (authenticate config digest) s fun _ _ => False := by
  refine attends_ask fun s₁ _ _ => ⟨trivial, fun r s₂ hserves _ _ => ?_⟩
  cases hserves with
  | commit t hjob => cases hjob
  | refuse t hjob => cases hjob
  | now t =>
    refine attends_ask fun s₃ _ hinv₃ => ⟨trivial, fun r s₄ hserves _ _ => ?_⟩
    cases hserves with
    | commit t hjob => cases hjob
    | refuse t hjob => cases hjob
    | miss => exact authenticateStored_refuses t
    | hit hcached hupToDate =>
      show Attends _ job (if validCachedSession _ t = true then _ else _) s₃ _
      split
      · next hvalid =>
        refine attends_ask fun s₅ hlater₅ hinv₅ => ⟨trivial, fun r s₆ hserves _ _ => ?_⟩
        cases hserves with
        | commit t hjob => cases hjob
        | refuse t hjob => cases hjob
        | version =>
          show Attends _ job (if s₅.store.accountVersionIsCurrent _ _ = true then _ else _) s₅ _
          split
          · next hcurrent =>
            split
            · next hfresh =>
              -- Had the session been revoked, the account would be past the entry's version.
              have houtdated := (hupToDate hinv₃.2 hvalid hfresh).later hlater₅
              rw [houtdated.not_current hinv₅.1] at hcurrent
              cases hcurrent
            · exact authenticateStored_refuses t
          · exact attends_ask fun _ _ _ => ⟨trivial, fun _ _ _ _ _ => authenticateStored_refuses t⟩
      · exact attends_ask fun _ _ _ => ⟨trivial, fun _ _ _ _ _ => authenticateStored_refuses t⟩

end Refusal

def tokenDigest : String := "sha256:0000000000000000000000000000000000000000000000000000000000000001"

def servedAccount : AccountDocument := ⟨"account:warden", "warden", "address", "phc", 1, true⟩

def servedSession : AccountSessionDocument where
  id := "session:1"
  accountId := "account:warden"
  bearerDigest := tokenDigest
  csrfDigest := "sha256:0000000000000000000000000000000000000000000000000000000000000002"
  passwordRoleVersion := 1
  createdAt := 0
  lastSeenAt := 0
  idleExpiresAt := 1000000
  absoluteExpiresAt := 2000000
  purgeAt := 3000000
  revokedAt := none

def servedConfig : AuthenticationConfig := ⟨1000000, 2000000, 5⟩

/-- One account with one session, and nothing cached. -/
def servedState : SessionState := ⟨⟨[], [], [servedAccount], [servedSession]⟩, fun _ => none, []⟩

theorem servedState_indexed : servedState.store.Indexed := ⟨by decide, by decide⟩

/-- The session as an authentication at reading 10 leaves it. -/
def seenSession : AccountSessionDocument := { servedSession with lastSeenAt := 10, idleExpiresAt := 1000010 }

def seenEntry : SessionCacheEntry :=
  ⟨"account:warden", "session:1", "sha256:0000000000000000000000000000000000000000000000000000000000000002",
    1000010, 2000000, 1, 10⟩

theorem seenEntry_valid : validCachedSession seenEntry 30 = true := by decide

/-- The entry of the authentication has landed. -/
def cachedState : SessionState where
  store := ⟨[], [], [servedAccount], [seenSession]⟩
  cache d := if d = tokenDigest then some seenEntry else none
  inFlight := []

/-- The session is revoked at reading 20, and its entry is still in the cache. -/
def outlivedState : SessionState where
  store := ⟨[], [], [servedAccount], [seenSession.revoke 20]⟩
  cache d := if d = tokenDigest then some seenEntry else none
  inFlight := [.delSession tokenDigest]

theorem authenticate_stored_returns : Prog.Returns (authenticate servedConfig tokenDigest)
    [(.now, .time 10), (.getSession tokenDigest 10, .entry none),
      (.authenticateSessionDigest tokenDigest, .decided (.ok (.authenticated (some seenSession)))), (.now, .time 10),
      (.setSession tokenDigest seenEntry, .issued)] (.authenticated seenSession.authenticated) :=
  .ask _ _ (.ask _ _ (.ask _ _ (.ask _ _ (.ask _ _ (.ok _)))))

theorem authenticate_cached_returns : Prog.Returns (authenticate servedConfig tokenDigest)
    [(.now, .time 30), (.getSession tokenDigest 30, .entry (some seenEntry)),
      (.accountVersionIsCurrent "account:warden" 1, .current true)]
    (.authenticated (cachedAuthenticatedSession seenEntry)) := by
  refine .ask _ _ (.ask _ _ ?_)
  show Prog.Returns (authenticateCached servedConfig tokenDigest 30 seenEntry) _ _
  unfold authenticateCached
  rw [if_pos seenEntry_valid]
  exact .ask _ _ (.ok _)

theorem revokeSession_returns : Prog.Returns (revokeSession "account:warden" "session:1")
    [(.revokeAccountSession "account:warden" "session:1", .decided (.ok (.sessionRevoked (some tokenDigest)))),
      (.delSession tokenDigest, .issued)] .revoked :=
  .ask _ _ (.ask _ _ (.ok _))

/-- The cached state is reached: an authentication reads the session, and its entry lands. -/
theorem cachedState_reached (hits : SessionState → String → Int → SessionCacheEntry → Prop) : ∃ moves,
    Run (Pool.Step (sessionService servedConfig hits) (AuthRequest.body servedConfig)) ⟨servedState, []⟩ moves
      ⟨cachedState, [(.authenticate tokenDigest, .ok (.authenticated seenSession.authenticated))]⟩ := by
  have hanswers : Pool.Answers (sessionService servedConfig hits) servedState
      [(.now, .time 10), (.getSession tokenDigest 10, .entry none),
        (.authenticateSessionDigest tokenDigest, .decided (.ok (.authenticated (some seenSession)))), (.now, .time 10),
        (.setSession tokenDigest seenEntry, .issued)]
      ⟨⟨[], [], [servedAccount], [seenSession]⟩, fun _ => none, [.setSession tokenDigest seenEntry]⟩ := by
    have hcommit := @Serves.commit servedConfig hits servedState (.authenticateSessionDigest tokenDigest) _ _ 10 rfl rfl
    exact .cons (.now _ _) (.cons (.miss _ _ _) (.cons hcommit (.cons (.now _ _) (.cons (.set _ _ _) (.nil _)))))
  obtain ⟨moves, hrun⟩ := @Pool.run_arrival _ _ _ _ _ _ (sessionService servedConfig hits)
    (.authenticate tokenDigest) (AuthRequest.body servedConfig) _ _ [] _ _
    (show Prog.Returns (AuthRequest.body servedConfig (.authenticate tokenDigest)) _ _ from authenticate_stored_returns)
    hanswers
  have hland := @Drifts.land
    ⟨⟨[], [], [servedAccount], [seenSession]⟩, fun _ => none, [.setSession tokenDigest seenEntry]⟩ [] [] _ rfl
  exact ⟨_, hrun.append (.cons (.drift hland) (.nil _))⟩

/-- The session is revoked, and its deletion from the cache is delayed. -/
theorem outlivedState_reached (hits : SessionState → String → Int → SessionCacheEntry → Prop)
    (attempts : List (AuthRequest × AuthProg AuthOutcome)) : ∃ moves,
    Run (Pool.Step (sessionService servedConfig hits) (AuthRequest.body servedConfig)) ⟨cachedState, attempts⟩ moves
      ⟨outlivedState, attempts ++ [(.revokeSession "account:warden" "session:1", .ok .revoked)]⟩ := by
  have hanswers : Pool.Answers (sessionService servedConfig hits) cachedState
      [(.revokeAccountSession "account:warden" "session:1", .decided (.ok (.sessionRevoked (some tokenDigest)))),
        (.delSession tokenDigest, .issued)] outlivedState := by
    have hcommit := @Serves.commit servedConfig hits cachedState
      (.revokeAccountSession "account:warden" "session:1") _ _ 20 rfl rfl
    exact .cons hcommit (.cons (.delete _ _) (.nil _))
  exact Pool.run_arrival
    (show Prog.Returns (AuthRequest.body servedConfig (.revokeSession "account:warden" "session:1")) _ _
      from revokeSession_returns) hanswers

end ManchesterArcana.Persistence
