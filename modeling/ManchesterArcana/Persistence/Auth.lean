import ManchesterArcana.Effect.Guard
import ManchesterArcana.Store.Snapshot
import ManchesterArcana.Store.Update

/-!
# `Persistence.Auth` — accounts, signup tokens and login sessions

The account repository keeps four collections: access tokens that an operator hands out, the signup sessions
that redeem them, accounts, and the sessions of accounts. Every operation is one transaction over them, given
here as what it decides on its snapshot (`transact`). A transaction reads the clock once, when it starts.

Only a digest of each secret is stored. Fields that no operation reads back are left out, except the times of
a session.
-/

namespace ManchesterArcana.Persistence

open Effect Store

/-! ## Documents -/

inductive TokenState where
  | active
  | revoked
  | consumed
  deriving DecidableEq, Repr

inductive AllowedRole where
  | user
  | admin
  deriving DecidableEq, Repr

structure SignupAccessTokenDocument where
  id : String
  tokenDigest : String
  state : TokenState
  allowedRole : AllowedRole
  expiresAt : Int
  reservedSignupSessionId : Option String
  deriving DecidableEq, Repr

inductive SignupState where
  | active
  | completed
  deriving DecidableEq, Repr

structure SignupSessionDocument where
  id : String
  tokenDigest : String
  csrfDigest : String
  accessTokenId : String
  state : SignupState
  expiresAt : Int
  deriving DecidableEq, Repr

structure AccountDocument where
  id : String
  usernameNormalized : String
  emailLookupHmac : String
  passwordPhc : String
  passwordRoleVersion : Nat
  loginEnabled : Bool
  deriving DecidableEq, Repr

structure AccountSessionDocument where
  id : String
  accountId : String
  bearerDigest : String
  csrfDigest : String
  passwordRoleVersion : Nat
  createdAt : Int
  lastSeenAt : Int
  idleExpiresAt : Int
  absoluteExpiresAt : Int
  purgeAt : Int
  revokedAt : Option Int
  deriving DecidableEq, Repr

structure AuthStore where
  accessTokens : List SignupAccessTokenDocument
  signupSessions : List SignupSessionDocument
  accounts : List AccountDocument
  accountSessions : List AccountSessionDocument
  deriving Repr

/-- A repository without documents. -/
def AuthStore.empty : AuthStore := ⟨[], [], [], []⟩

inductive AuthCollection where
  | accessTokens
  | signupSessions
  | accounts
  | accountSessions
  deriving DecidableEq, Repr

/-- The unique indexes. -/
inductive AuthIndex where
  | accessTokenDigest
  | signupTokenDigest
  | signupCsrfDigest
  | activeSignupOfAccessToken
  | usernameNormalized
  | emailLookupHmac
  | bearerDigest
  | sessionCsrfDigest
  deriving DecidableEq, Repr

/-- What a transaction can write: a document, or an entry of a unique index. -/
inductive AuthKey where
  | document (collection : AuthCollection) (id : String)
  | index (name : AuthIndex) (value : String)
  deriving DecidableEq, Repr

/-- The store has the same documents of an id. An index entry has no contents of its own. -/
def AuthStore.agree : AuthKey → AuthStore → AuthStore → Prop
  | .document .accessTokens id, s, s' => ∀ x, x.id = id → (x ∈ s.accessTokens ↔ x ∈ s'.accessTokens)
  | .document .signupSessions id, s, s' => ∀ x, x.id = id → (x ∈ s.signupSessions ↔ x ∈ s'.signupSessions)
  | .document .accounts id, s, s' => ∀ x, x.id = id → (x ∈ s.accounts ↔ x ∈ s'.accounts)
  | .document .accountSessions id, s, s' =>
    ∀ x, x.id = id → (x ∈ s.accountSessions ↔ x ∈ s'.accountSessions)
  | .index _ _, _, _ => True

/-! ## Requests -/

structure NewSignupAccessToken where
  id : String
  tokenDigest : String
  allowedRole : AllowedRole
  expiresAt : Int
  deriving DecidableEq

structure NewSignupSession where
  id : String
  bearerDigest : String
  csrfDigest : String
  accessTokenDigest : String
  expiresAt : Int
  deriving DecidableEq

structure NewMongoAccount where
  id : String
  usernameNormalized : String
  emailLookupHmac : String
  passwordPhc : String
  deriving DecidableEq

structure NewMongoAccountSession where
  id : String
  accountId : String
  bearerDigest : String
  csrfDigest : String
  passwordRoleVersion : Nat
  idleExpiresAt : Int
  absoluteExpiresAt : Int
  purgeAt : Int
  deriving DecidableEq

/-- The first session is one of the account that is created, in its first version. -/
structure CompleteSignupWrite where
  signupBearerDigest : String
  signupCsrfDigest : String
  account : NewMongoAccount
  accountSession : NewMongoAccountSession
  ofAccount : accountSession.accountId = account.id
  ofFirstVersion : accountSession.passwordRoleVersion = 1

/-- An operation of the repository, with the clock that it reads. -/
inductive AuthJob where
  | issueSignupAccessToken (token : NewSignupAccessToken)
  | beginSignup (signup : NewSignupSession) (now : Int)
  | revokeSignupAccessToken (tokenId : String)
  | completeSignup (write : CompleteSignupWrite) (now : Int)
  | createLoginSession (newSession : NewMongoAccountSession) (now : Int)
  | authenticateSessionDigest (bearerDigest : String) (idleLifetime : Int) (now : Int)
  | updatePasswordAndRevokeSessions (accountId passwordPhc : String) (now : Int)
  | revokeAccountSession (accountId sessionId : String) (now : Int)
  /-- The clean-up deletes document by document, outside a transaction. -/
  | cleanupExpiredAccountSession (sessionId : String) (now : Int)

inductive AuthAnswer where
  | done
  | revoked (found : Bool)
  | signedUp (account : AccountDocument) (session : AccountSessionDocument)
  | loggedIn (session : AccountSessionDocument) (revokedBearerDigests : List String)
  | authenticated (session : Option AccountSessionDocument)
  | passwordUpdated (passwordRoleVersion : Nat) (revokedBearerDigests : List String)
  | sessionRevoked (bearerDigest : Option String)

inductive PersistenceError where
  | notFound (entity id : String)
  | revisionConflict (entity id : String) (expected actual : Nat)
  | duplicateKey (operation : String)
  deriving DecidableEq, Repr

abbrev AuthDecision := Decision AuthStore AuthKey AuthAnswer

/-! ## Signup -/

namespace SignupAccessTokenDocument

/-- The filter of `begin_signup`. -/
def redeemable (digest : String) (now : Int) (t : SignupAccessTokenDocument) : Bool :=
  t.tokenDigest = digest ∧ t.state = .active ∧ t.allowedRole = .user ∧ now < t.expiresAt ∧
    t.reservedSignupSessionId = none

/-- The filter under which `complete_signup` loads the token of a signup session. -/
def reservedFor (signup : SignupSessionDocument) (now : Int) (t : SignupAccessTokenDocument) : Bool :=
  t.id = signup.accessTokenId ∧ t.state = .active ∧ t.allowedRole = .user ∧ now < t.expiresAt ∧
    t.reservedSignupSessionId = some signup.id

end SignupAccessTokenDocument

/-- The filter under which `complete_signup` loads the signup session. -/
def SignupSessionDocument.completable (digest : String) (now : Int) (s : SignupSessionDocument) : Bool :=
  s.tokenDigest = digest ∧ s.state = .active ∧ now < s.expiresAt

def issueSignupAccessToken (token : NewSignupAccessToken) (s : AuthStore) :
    Except PersistenceError AuthDecision := do
  rejectIf (∃ t ∈ s.accessTokens, t.id = token.id ∨ t.tokenDigest = token.tokenDigest)
    (.duplicateKey "issue signup access token")
  let document : SignupAccessTokenDocument :=
    { id := token.id, tokenDigest := token.tokenDigest, state := .active, allowedRole := token.allowedRole,
      expiresAt := token.expiresAt, reservedSignupSessionId := none }
  return {
    writes := [.document .accessTokens token.id, .index .accessTokenDigest token.tokenDigest]
    apply := fun s => { s with accessTokens := s.accessTokens ++ [document] }
    answer := .done }

def beginSignup (signup : NewSignupSession) (now : Int) (s : AuthStore) :
    Except PersistenceError AuthDecision := do
  let access ← okOr (s.accessTokens.find? (·.redeemable signup.accessTokenDigest now))
    (.notFound "signup access token" "presented-token")
  rejectIf (∃ x ∈ s.signupSessions, x.id = signup.id ∨ x.tokenDigest = signup.bearerDigest ∨
      x.csrfDigest = signup.csrfDigest ∨ (x.accessTokenId = access.id ∧ x.state = .active))
    (.duplicateKey "create signup session")
  let document : SignupSessionDocument :=
    { id := signup.id, tokenDigest := signup.bearerDigest, csrfDigest := signup.csrfDigest,
      accessTokenId := access.id, state := .active, expiresAt := signup.expiresAt }
  return {
    writes := [.document .accessTokens access.id, .document .signupSessions signup.id,
      .index .signupTokenDigest signup.bearerDigest, .index .signupCsrfDigest signup.csrfDigest,
      .index .activeSignupOfAccessToken access.id]
    apply := fun s => { s with
      accessTokens := updateById (·.id) access.id
        (fun t => { t with reservedSignupSessionId := some signup.id }) s.accessTokens
      signupSessions := s.signupSessions ++ [document] }
    answer := .done }

def revokeSignupAccessToken (tokenId : String) (s : AuthStore) : Except PersistenceError AuthDecision :=
  if s.accessTokens.any (fun t => t.id = tokenId ∧ t.state = .active) then
    .ok {
      writes := [.document .accessTokens tokenId]
      apply := fun s => { s with
        accessTokens := updateById (·.id) tokenId (fun t => { t with state := .revoked }) s.accessTokens }
      answer := .revoked true }
  else .ok { writes := [], apply := id, answer := .revoked false }

/-- `account_session_document`. -/
def accountSessionDocument (session : NewMongoAccountSession) (createdAt : Int) : AccountSessionDocument where
  id := session.id
  accountId := session.accountId
  bearerDigest := session.bearerDigest
  csrfDigest := session.csrfDigest
  passwordRoleVersion := session.passwordRoleVersion
  createdAt := createdAt
  lastSeenAt := createdAt
  idleExpiresAt := session.idleExpiresAt
  absoluteExpiresAt := session.absoluteExpiresAt
  purgeAt := session.purgeAt
  revokedAt := none

def accountDocument (account : NewMongoAccount) : AccountDocument where
  id := account.id
  usernameNormalized := account.usernameNormalized
  emailLookupHmac := account.emailLookupHmac
  passwordPhc := account.passwordPhc
  passwordRoleVersion := 1
  loginEnabled := true

/-- The unique keys of account sessions leave room for a new one. -/
def AuthStore.takesSession (s : AuthStore) (session : NewMongoAccountSession) : Prop :=
  ∃ x ∈ s.accountSessions, x.id = session.id ∨ x.bearerDigest = session.bearerDigest ∨
    x.csrfDigest = session.csrfDigest

instance (s : AuthStore) (session : NewMongoAccountSession) : Decidable (s.takesSession session) :=
  inferInstanceAs (Decidable (∃ x ∈ s.accountSessions, _))

def sessionKeys (session : NewMongoAccountSession) : List AuthKey :=
  [.document .accountSessions session.id, .index .bearerDigest session.bearerDigest,
    .index .sessionCsrfDigest session.csrfDigest]

def completeSignup (write : CompleteSignupWrite) (now : Int) (s : AuthStore) :
    Except PersistenceError AuthDecision := do
  let signup ← okOr ((s.signupSessions.find? (·.completable write.signupBearerDigest now)).filter
    fun stored => stored.csrfDigest = write.signupCsrfDigest) (.notFound "signup session" "presented-session")
  let access ← okOr (s.accessTokens.find? (·.reservedFor signup now))
    (.notFound "signup access token" signup.accessTokenId)
  rejectIf (∃ a ∈ s.accounts, a.id = write.account.id ∨
      a.usernameNormalized = write.account.usernameNormalized ∨
      a.emailLookupHmac = write.account.emailLookupHmac) (.duplicateKey "create account")
  rejectIf (s.takesSession write.accountSession) (.duplicateKey "create initial account session")
  -- The two updates repeat their filters, on the documents that were just read.
  rejectIf (signup.state ≠ .active ∨ signup.expiresAt ≤ now ∨ access.state ≠ .active ∨
      access.reservedSignupSessionId ≠ some signup.id ∨ access.expiresAt ≤ now)
    (.revisionConflict "signup" signup.id 1 0)
  let account := accountDocument write.account
  let session := accountSessionDocument write.accountSession now
  return {
    writes := [.document .accounts account.id, .index .usernameNormalized account.usernameNormalized,
      .index .emailLookupHmac account.emailLookupHmac, .document .signupSessions signup.id,
      .index .activeSignupOfAccessToken signup.accessTokenId, .document .accessTokens access.id] ++
      sessionKeys write.accountSession
    apply := fun s => {
      accessTokens := updateById (·.id) access.id (fun t => { t with state := .consumed }) s.accessTokens
      signupSessions := updateById (·.id) signup.id (fun x => { x with state := .completed }) s.signupSessions
      accounts := s.accounts ++ [account]
      accountSessions := s.accountSessions ++ [session] }
    answer := .signedUp account session }

/-! ## Login sessions -/

namespace AccountSessionDocument

def unrevoked (x : AccountSessionDocument) : Bool := x.revokedAt.isNone

/-- Neither revoked nor expired. -/
def activeAt (now : Int) (x : AccountSessionDocument) : Bool :=
  x.unrevoked ∧ now < x.idleExpiresAt ∧ now < x.absoluteExpiresAt

/-- Newest first; of two created at once, the greater id. -/
def newerOrSame (a b : AccountSessionDocument) : Bool :=
  b.createdAt < a.createdAt ∨ (b.createdAt = a.createdAt ∧ ¬ a.id < b.id)

def revoke (now : Int) (x : AccountSessionDocument) : AccountSessionDocument := { x with revokedAt := some now }

end AccountSessionDocument

/-- What `revoke_excess_sessions` finds: the account's other active sessions, beyond the newest. -/
def excessSessions (s : AuthStore) (accountId keepSessionId : String) (maximumActive : Nat) (now : Int) :
    List AccountSessionDocument :=
  ((s.accountSessions.filter fun x => x.accountId = accountId ∧ x.id ≠ keepSessionId ∧ x.activeAt now).mergeSort
    AccountSessionDocument.newerOrSame).drop (maximumActive - 1)

/-- Revoke the sessions of these ids. -/
def revokeAll (ids : List String) (now : Int) (xs : List AccountSessionDocument) : List AccountSessionDocument :=
  xs.map fun x => if x.id ∈ ids then x.revoke now else x

def createLoginSession (maximumActive : Nat) (newSession : NewMongoAccountSession) (now : Int) (s : AuthStore) :
    Except PersistenceError AuthDecision := do
  let account ← okOr (s.accounts.find? fun a => a.id = newSession.accountId ∧ a.loginEnabled ∧
    a.passwordRoleVersion = newSession.passwordRoleVersion) (.notFound "account" newSession.accountId)
  rejectIf (s.takesSession newSession) (.duplicateKey "create account session")
  let session := accountSessionDocument newSession now
  let revoked := excessSessions s account.id session.id maximumActive now
  let ids := revoked.map (·.id)
  return {
    writes := sessionKeys newSession ++ ids.map (.document .accountSessions)
    apply := fun s => { s with accountSessions := revokeAll ids now s.accountSessions ++ [session] }
    answer := .loggedIn session (revoked.map (·.bearerDigest)) }

def authenticateSessionDigest (bearerDigest : String) (idleLifetime now : Int) (s : AuthStore) :
    Except PersistenceError AuthDecision :=
  let refused : AuthDecision := { writes := [], apply := id, answer := .authenticated none }
  match s.accountSessions.find? fun x => x.bearerDigest = bearerDigest ∧ x.activeAt now with
  | none => .ok refused
  | some stored =>
    match s.accounts.find? fun a => a.id = stored.accountId ∧ a.loginEnabled ∧
      a.passwordRoleVersion = stored.passwordRoleVersion with
    | none => .ok refused
    | some _ =>
      let idleExpiresAt := min (now + idleLifetime) stored.absoluteExpiresAt
      -- An update that changes nothing modifies no document.
      if stored.lastSeenAt = now ∧ stored.idleExpiresAt = idleExpiresAt then .ok refused
      else .ok {
        writes := [.document .accountSessions stored.id]
        apply := fun s => { s with
          accountSessions := updateById (·.id) stored.id
            (fun x => { x with lastSeenAt := now, idleExpiresAt }) s.accountSessions }
        answer := .authenticated (some { stored with lastSeenAt := now, idleExpiresAt }) }

def updatePasswordAndRevokeSessions (accountId passwordPhc : String) (now : Int) (s : AuthStore) :
    Except PersistenceError AuthDecision := do
  let account ← okOr (s.accounts.find? fun a => a.id = accountId ∧ a.loginEnabled) (.notFound "account" accountId)
  let revoked := s.accountSessions.filter fun x => x.accountId = accountId ∧ x.unrevoked
  let ids := revoked.map (·.id)
  return {
    writes := .document .accounts accountId :: ids.map (.document .accountSessions)
    apply := fun s => { s with
      accounts := updateById (·.id) accountId
        (fun a => { a with passwordPhc, passwordRoleVersion := a.passwordRoleVersion + 1 }) s.accounts
      accountSessions := revokeAll ids now s.accountSessions }
    answer := .passwordUpdated (account.passwordRoleVersion + 1) (revoked.map (·.bearerDigest)) }

def revokeAccountSession (accountId sessionId : String) (now : Int) (s : AuthStore) :
    Except PersistenceError AuthDecision :=
  match s.accountSessions.find? fun x => x.id = sessionId ∧ x.accountId = accountId ∧ x.unrevoked with
  | none => .ok { writes := [], apply := id, answer := .sessionRevoked none }
  | some found => .ok {
      writes := [.document .accountSessions sessionId]
      apply := fun s => { s with accountSessions := revokeAll [sessionId] now s.accountSessions }
      answer := .sessionRevoked (some found.bearerDigest) }

def cleanupExpiredAccountSession (sessionId : String) (now : Int) (s : AuthStore) :
    Except PersistenceError AuthDecision :=
  if s.accountSessions.any fun x =>
      x.id = sessionId ∧ (x.idleExpiresAt ≤ now ∨ x.absoluteExpiresAt ≤ now ∨ x.purgeAt ≤ now) then
    .ok {
      writes := [.document .accountSessions sessionId]
      apply := fun s => { s with accountSessions := s.accountSessions.filter (·.id ≠ sessionId) }
      answer := .done }
  else .ok { writes := [], apply := id, answer := .done }

/-- What an operation decides on its snapshot. -/
def transact (maximumActive : Nat) : AuthJob → AuthStore → Except PersistenceError AuthDecision
  | .issueSignupAccessToken token => issueSignupAccessToken token
  | .beginSignup signup now => beginSignup signup now
  | .revokeSignupAccessToken tokenId => revokeSignupAccessToken tokenId
  | .completeSignup write now => completeSignup write now
  | .createLoginSession newSession now => createLoginSession maximumActive newSession now
  | .authenticateSessionDigest digest lifetime now => authenticateSessionDigest digest lifetime now
  | .updatePasswordAndRevokeSessions accountId phc now => updatePasswordAndRevokeSessions accountId phc now
  | .revokeAccountSession accountId sessionId now => revokeAccountSession accountId sessionId now
  | .cleanupExpiredAccountSession sessionId now => cleanupExpiredAccountSession sessionId now

end ManchesterArcana.Persistence
