import ManchesterArcana.Persistence.Auth

/-!
# `Persistence.Signup` — one account for each signup token

A signup token goes from active to revoked or consumed and never back, and so does a signup session from
active to completed. That is all that the interleaving of transactions can do to them (`AuthStore.Later`), and
it is enough: a completion needs both to be active when it commits, and leaves both spent.
-/

namespace ManchesterArcana.Persistence

open Effect Store
open List (append_nil mem_append mem_cons_self mem_map mem_singleton mem_singleton_self)

variable {s s' : AuthStore} {d : AuthDecision} {m : Nat} {now : Int} {job : AuthJob} {write : CompleteSignupWrite}

theorem mem_revokeAll_of_not_mem {ids : List String} {xs : List AccountSessionDocument}
    {y : AccountSessionDocument} (hy : y.id ∉ ids) : y ∈ revokeAll ids now xs ↔ y ∈ xs := by
  unfold revokeAll
  rw [mem_map]
  constructor
  · rintro ⟨x, hx, rfl⟩
    split
    · next hid =>
      rw [if_pos hid] at hy
      exact absurd hid hy
    · exact hx
  · exact fun h => ⟨y, h, if_neg hy⟩

/-! ## What each operation writes -/

/-- Stores agree on every document that is not written when their collections do. -/
theorem agree_of_collections {writes : List AuthKey}
    (htokens : ∀ x : SignupAccessTokenDocument, .document .accessTokens x.id ∉ writes →
      (x ∈ s.accessTokens ↔ x ∈ s'.accessTokens))
    (hsignups : ∀ x : SignupSessionDocument, .document .signupSessions x.id ∉ writes →
      (x ∈ s.signupSessions ↔ x ∈ s'.signupSessions))
    (haccounts : ∀ x : AccountDocument, .document .accounts x.id ∉ writes → (x ∈ s.accounts ↔ x ∈ s'.accounts))
    (hsessions : ∀ x : AccountSessionDocument, .document .accountSessions x.id ∉ writes →
      (x ∈ s.accountSessions ↔ x ∈ s'.accountSessions)) :
    ∀ k ∉ writes, AuthStore.agree k s s' := by
  intro k hk
  cases k with
  | index name value => trivial
  | document collection id =>
    cases collection with
    | accessTokens =>
      rintro x rfl
      exact htokens x hk
    | signupSessions =>
      rintro x rfl
      exact hsignups x hk
    | accounts =>
      rintro x rfl
      exact haccounts x hk
    | accountSessions =>
      rintro x rfl
      exact hsessions x hk

theorem AuthStore.agree_refl (k : AuthKey) (s : AuthStore) : AuthStore.agree k s s := by
  cases k with
  | index name value => trivial
  | document collection id => cases collection <;> exact fun _ _ => Iff.rfl

theorem AuthStore.agree_trans (k : AuthKey) {s'' : AuthStore} (h : AuthStore.agree k s s')
    (h' : AuthStore.agree k s' s'') : AuthStore.agree k s s'' := by
  cases k with
  | index name value => trivial
  | document collection id =>
    cases collection <;> exact fun x hx => (h x hx).trans (h' x hx)

/-- What a completion found, and what it decides. -/
theorem completeSignup_eq_ok
    (h : completeSignup write now s = .ok d) :
    ∃ signup access, signup ∈ s.signupSessions ∧ signup.completable write.signupBearerDigest now = true ∧
      signup.csrfDigest = write.signupCsrfDigest ∧ access ∈ s.accessTokens ∧
      access.reservedFor signup now = true ∧ (∀ a ∈ s.accounts, a.id ≠ write.account.id) ∧
      (∀ x ∈ s.accountSessions, x.id ≠ write.accountSession.id) ∧
      d.writes = [.document .accounts write.account.id, .index .usernameNormalized write.account.usernameNormalized,
        .index .emailLookupHmac write.account.emailLookupHmac, .document .signupSessions signup.id,
        .index .activeSignupOfAccessToken signup.accessTokenId, .document .accessTokens access.id] ++
        sessionKeys write.accountSession ∧
      d.apply = fun s => {
        accessTokens := updateById (·.id) access.id (fun t => { t with state := .consumed }) s.accessTokens
        signupSessions := updateById (·.id) signup.id (fun x => { x with state := .completed }) s.signupSessions
        accounts := s.accounts ++ [accountDocument write.account]
        accountSessions := s.accountSessions ++ [accountSessionDocument write.accountSession now] } := by
  simp only [completeSignup, bind_eq_ok, exists_unit, okOr_eq_ok, rejectIf_eq_ok, pure_eq, Except.ok.injEq,
    Option.filter_eq_some_iff, decide_eq_true_eq] at h
  obtain ⟨signup, ⟨hsignup, hcsrf⟩, access, haccess, hfresh, hroom, -, rfl⟩ := h
  refine ⟨signup, access, List.mem_of_find?_eq_some hsignup, List.find?_some hsignup, hcsrf,
    List.mem_of_find?_eq_some haccess, List.find?_some haccess, fun a ha hid => ?_, fun x hx hid => ?_, rfl, rfl⟩
  · exact hfresh ⟨a, ha, .inl hid⟩
  · exact hroom ⟨x, hx, .inl hid⟩

/-- **No operation touches a document that it does not write.** -/
theorem transact_framed
    (h : transact m job s = .ok d) : ∀ k ∉ d.writes, ∀ s', AuthStore.agree k s' (d.apply s') := by
  intro k hk s'
  revert k
  cases job with
  | issueSignupAccessToken token =>
    simp only [transact, issueSignupAccessToken, bind_eq_ok, exists_unit, pure_eq, Except.ok.injEq] at h
    obtain ⟨-, rfl⟩ := h
    refine agree_of_collections (fun x hx => ?_) (fun _ _ => Iff.rfl) (fun _ _ => Iff.rfl) (fun _ _ => Iff.rfl)
    refine (mem_append_of_ne ?_).symm
    rintro rfl
    exact hx mem_cons_self
  | beginSignup signup now =>
    simp only [transact, beginSignup, bind_eq_ok, exists_unit, pure_eq, Except.ok.injEq] at h
    obtain ⟨access, -, -, rfl⟩ := h
    refine agree_of_collections (fun x hx => ?_) (fun x hx => ?_) (fun _ _ => Iff.rfl) (fun _ _ => Iff.rfl)
    · exact mem_updateById_of_unwritten hx mem_cons_self fun _ => by rfl
    · refine (mem_append_of_ne ?_).symm
      rintro rfl
      exact hx (List.mem_cons_of_mem _ mem_cons_self)
  | revokeSignupAccessToken tokenId =>
    simp only [transact, revokeSignupAccessToken] at h
    split at h
    · obtain rfl := Except.ok.inj h
      refine agree_of_collections (fun x hx => ?_) (fun _ _ => Iff.rfl) (fun _ _ => Iff.rfl) (fun _ _ => Iff.rfl)
      exact mem_updateById_of_unwritten hx (mem_singleton_self _) fun _ => by rfl
    · obtain rfl := Except.ok.inj h
      exact fun k _ => AuthStore.agree_refl k s'
  | completeSignup write now =>
    obtain ⟨signup, access, -, -, -, -, -, -, -, hwrites, happly⟩ := completeSignup_eq_ok h
    rw [hwrites, happly]
    refine agree_of_collections (fun x hx => ?_) (fun x hx => ?_) (fun x hx => ?_) (fun x hx => ?_)
    · exact mem_updateById_of_unwritten hx (by simp) fun _ => by rfl
    · exact mem_updateById_of_unwritten hx (by simp) fun _ => by rfl
    · refine (mem_append_of_ne ?_).symm
      rintro rfl
      exact hx (by simp [accountDocument])
    · refine (mem_append_of_ne ?_).symm
      rintro rfl
      exact hx (by simp [accountSessionDocument, sessionKeys])
  | createLoginSession newSession now =>
    simp only [transact, createLoginSession, bind_eq_ok, exists_unit, pure_eq, Except.ok.injEq] at h
    obtain ⟨account, -, -, rfl⟩ := h
    refine agree_of_collections (fun _ _ => Iff.rfl) (fun _ _ => Iff.rfl) (fun _ _ => Iff.rfl) (fun x hx => ?_)
    simp only [mem_append, mem_map, not_or] at hx
    have hne : x ≠ accountSessionDocument newSession now := by
      rintro rfl
      exact hx.1 mem_cons_self
    show _ ↔ x ∈ revokeAll _ now s'.accountSessions ++ [accountSessionDocument newSession now]
    rw [mem_append_of_ne hne, mem_revokeAll_of_not_mem fun hid => hx.2 ⟨x.id, mem_map.mp hid, rfl⟩]
  | authenticateSessionDigest digest lifetime now =>
    simp only [transact, authenticateSessionDigest] at h
    split at h
    · obtain rfl := Except.ok.inj h
      exact fun k _ => AuthStore.agree_refl k s'
    · split at h
      · obtain rfl := Except.ok.inj h
        exact fun k _ => AuthStore.agree_refl k s'
      · split at h
        · obtain rfl := Except.ok.inj h
          exact fun k _ => AuthStore.agree_refl k s'
        · obtain rfl := Except.ok.inj h
          refine agree_of_collections (fun _ _ => Iff.rfl) (fun _ _ => Iff.rfl) (fun _ _ => Iff.rfl) (fun x hx => ?_)
          exact mem_updateById_of_unwritten hx (mem_singleton_self _) fun _ => by rfl
  | updatePasswordAndRevokeSessions accountId phc now =>
    simp only [transact, updatePasswordAndRevokeSessions, bind_eq_ok, pure_eq, Except.ok.injEq] at h
    obtain ⟨account, -, rfl⟩ := h
    refine agree_of_collections (fun _ _ => Iff.rfl) (fun _ _ => Iff.rfl) (fun x hx => ?_) (fun x hx => ?_)
    · exact mem_updateById_of_unwritten hx mem_cons_self fun _ => by rfl
    · refine (mem_revokeAll_of_not_mem fun hid => hx ?_).symm
      exact List.mem_cons_of_mem _ (mem_map.mpr ⟨x.id, hid, rfl⟩)
  | revokeAccountSession accountId sessionId now =>
    simp only [transact, revokeAccountSession] at h
    split at h
    · obtain rfl := Except.ok.inj h
      exact fun k _ => AuthStore.agree_refl k s'
    · obtain rfl := Except.ok.inj h
      refine agree_of_collections (fun _ _ => Iff.rfl) (fun _ _ => Iff.rfl) (fun _ _ => Iff.rfl) (fun x hx => ?_)
      refine (mem_revokeAll_of_not_mem fun hid => hx ?_).symm
      rw [mem_singleton.mp hid]
      exact mem_singleton_self _
  | cleanupExpiredAccountSession sessionId now =>
    simp only [transact, cleanupExpiredAccountSession] at h
    split at h
    · obtain rfl := Except.ok.inj h
      refine agree_of_collections (fun _ _ => Iff.rfl) (fun _ _ => Iff.rfl) (fun _ _ => Iff.rfl) (fun x hx => ?_)
      show _ ↔ x ∈ s'.accountSessions.filter _
      rw [List.mem_filter, decide_eq_true_eq]
      refine (and_iff_left fun hid => hx ?_).symm
      rw [hid]
      exact mem_singleton_self _
    · obtain rfl := Except.ok.inj h
      exact fun k _ => AuthStore.agree_refl k s'

/-! ## Spent documents -/

abbrev TokenSpent (id : String) (s : AuthStore) : Prop :=
  Spent SignupAccessTokenDocument.id (·.state = .active) id s.accessTokens

abbrev SignupSpent (id : String) (s : AuthStore) : Prop :=
  Spent SignupSessionDocument.id (·.state = .active) id s.signupSessions

/-- **What is spent stays spent.** -/
structure AuthStore.Later (s s' : AuthStore) : Prop where
  tokens : ∀ id, TokenSpent id s → TokenSpent id s'
  signups : ∀ id, SignupSpent id s → SignupSpent id s'

/-- Every account has an id of its own. -/
def AuthStore.DistinctAccounts (s : AuthStore) : Prop := (s.accounts.map (·.id)).Nodup

/-- The operations on accounts and their sessions leave signups alone. -/
theorem Later.of_eq (htokens : s'.accessTokens = s.accessTokens)
    (hsignups : s'.signupSessions = s.signupSessions) : s.Later s' := by
  constructor
  · intro id h
    rw [TokenSpent, htokens]
    exact h
  · intro id h
    rw [SignupSpent, hsignups]
    exact h

/-- **One commit**: account ids stay distinct, and what is spent stays spent. -/
theorem transact_later
    (h : transact m job s = .ok d) (hagree : ∀ k ∈ d.writes, AuthStore.agree k s s')
    (hdistinct : s'.DistinctAccounts) : (d.apply s').DistinctAccounts ∧ s'.Later (d.apply s') := by
  cases job with
  | issueSignupAccessToken token =>
    simp only [transact, issueSignupAccessToken, bind_eq_ok, exists_unit, rejectIf_eq_ok, pure_eq,
      Except.ok.injEq] at h
    obtain ⟨hfresh, rfl⟩ := h
    refine ⟨hdistinct, fun id hspent => hspent.append ?_, fun id hspent => hspent⟩
    -- An id that is in use cannot be issued again.
    rintro rfl
    obtain ⟨x, hx, hid⟩ := hspent.1
    exact hfresh ⟨x, (hagree _ mem_cons_self x hid).mpr hx, .inl hid⟩
  | beginSignup signup now =>
    simp only [transact, beginSignup, bind_eq_ok, exists_unit, rejectIf_eq_ok, pure_eq, Except.ok.injEq] at h
    obtain ⟨access, -, hfresh, rfl⟩ := h
    refine ⟨hdistinct, fun id hspent => hspent.update (fun _ => by rfl) fun _ hactive => hactive,
      fun id hspent => hspent.append ?_⟩
    rintro rfl
    obtain ⟨x, hx, hid⟩ := hspent.1
    exact hfresh ⟨x, (hagree _ (List.mem_cons_of_mem _ mem_cons_self) x hid).mpr hx, .inl hid⟩
  | revokeSignupAccessToken tokenId =>
    simp only [transact, revokeSignupAccessToken] at h
    split at h
    · obtain rfl := Except.ok.inj h
      exact ⟨hdistinct, fun id hspent => hspent.update (fun _ => by rfl) (fun _ hactive => by cases hactive),
        fun id hspent => hspent⟩
    · obtain rfl := Except.ok.inj h
      exact ⟨hdistinct, fun _ hspent => hspent, fun _ hspent => hspent⟩
  | completeSignup write now =>
    obtain ⟨signup, access, -, -, -, -, -, hfresh, -, hwrites, happly⟩ := completeSignup_eq_ok h
    rw [happly]
    refine ⟨?_, fun id hspent => hspent.update (fun _ => by rfl) (fun _ hactive => by cases hactive),
      fun id hspent => hspent.update (fun _ => by rfl) (fun _ hactive => by cases hactive)⟩
    unfold AuthStore.DistinctAccounts
    rw [List.map_append, List.nodup_append]
    refine ⟨hdistinct, by simp, fun id hid other hother => ?_⟩
    obtain rfl := mem_singleton.mp hother
    rintro rfl
    obtain ⟨a, ha, hid⟩ := mem_map.mp hid
    have hkey : .document .accounts write.account.id ∈ d.writes := by
      rw [hwrites]
      exact mem_cons_self
    exact hfresh a ((hagree _ hkey a hid).mpr ha) hid
  | createLoginSession newSession now =>
    simp only [transact, createLoginSession, bind_eq_ok, exists_unit, pure_eq, Except.ok.injEq] at h
    obtain ⟨account, -, -, rfl⟩ := h
    exact ⟨hdistinct, Later.of_eq rfl rfl⟩
  | authenticateSessionDigest digest lifetime now =>
    simp only [transact, authenticateSessionDigest] at h
    split at h
    · obtain rfl := Except.ok.inj h
      exact ⟨hdistinct, Later.of_eq rfl rfl⟩
    · split at h
      · obtain rfl := Except.ok.inj h
        exact ⟨hdistinct, Later.of_eq rfl rfl⟩
      · split at h
        · obtain rfl := Except.ok.inj h
          exact ⟨hdistinct, Later.of_eq rfl rfl⟩
        · obtain rfl := Except.ok.inj h
          exact ⟨hdistinct, Later.of_eq rfl rfl⟩
  | updatePasswordAndRevokeSessions accountId phc now =>
    simp only [transact, updatePasswordAndRevokeSessions, bind_eq_ok, pure_eq, Except.ok.injEq] at h
    obtain ⟨account, -, rfl⟩ := h
    refine ⟨?_, Later.of_eq rfl rfl⟩
    unfold AuthStore.DistinctAccounts
    rw [map_id_updateById fun _ => by rfl]
    exact hdistinct
  | revokeAccountSession accountId sessionId now =>
    simp only [transact, revokeAccountSession] at h
    split at h
    all_goals
      obtain rfl := Except.ok.inj h
      exact ⟨hdistinct, Later.of_eq rfl rfl⟩
  | cleanupExpiredAccountSession sessionId now =>
    simp only [transact, cleanupExpiredAccountSession] at h
    split at h
    all_goals
      obtain rfl := Except.ok.inj h
      exact ⟨hdistinct, Later.of_eq rfl rfl⟩

/-- The accounts repository, as a snapshot-isolated database. -/
theorem transact_isolated (m : Nat) :
    Isolated (transact m) AuthStore.agree (fun _ => True) AuthStore.DistinctAccounts AuthStore.Later where
  agree_refl := AuthStore.agree_refl
  agree_trans k _ _ _ h h' := AuthStore.agree_trans k h h'
  framed h := transact_framed h
  later_refl _ := ⟨fun _ h => h, fun _ h => h⟩
  later_trans h h' := ⟨fun id hs => h'.tokens id (h.tokens id hs), fun id hs => h'.signups id (h.signups id hs)⟩
  commit _ hdistinct _ _ hbody hagree := transact_later hbody hagree hdistinct

/-! ## Completions -/

/-- A completion that committed: the account it created, what it found of the signup, and the store that it
    was committed on. -/
structure Completion where
  accountId : String
  signupSessionId : String
  accessTokenId : String
  now : Int
  before : AuthStore

/-- The completion that a commit is. -/
def completionOf (c : Committed AuthJob AuthStore) : Option Completion :=
  match c.job with
  | .completeSignup write now => do
    let signup ← (c.snapshot.signupSessions.find? (·.completable write.signupBearerDigest now)).filter
      fun stored => stored.csrfDigest = write.signupCsrfDigest
    let access ← c.snapshot.accessTokens.find? (·.reservedFor signup now)
    return ⟨write.account.id, signup.id, access.id, now, c.before⟩
  | _ => none

def completionsOf (commits : List (Committed AuthJob AuthStore)) : List Completion :=
  commits.filterMap completionOf

/-- **At its completion** the token was active, unexpired, of the user role and reserved for the signup session,
    which was active and unexpired itself. -/
structure Completion.Entitled (c : Completion) : Prop where
  signup : ∃ x ∈ c.before.signupSessions, x.id = c.signupSessionId ∧ x.state = .active ∧ c.now < x.expiresAt ∧
    x.accessTokenId = c.accessTokenId
  token : ∃ t ∈ c.before.accessTokens, t.id = c.accessTokenId ∧ t.state = .active ∧ t.allowedRole = .user ∧
    c.now < t.expiresAt ∧ t.reservedSignupSessionId = some c.signupSessionId

/-- The commit revoked the token. -/
def RevokesToken (c : Committed AuthJob AuthStore) (id : String) : Prop :=
  c.job = .revokeSignupAccessToken id ∧ ∃ t ∈ c.snapshot.accessTokens, t.id = id ∧ t.state = .active

/-- What one completion does. -/
theorem completeSignup_completes (h : transact m (.completeSignup write now) s = .ok d)
    (hagree : ∀ k ∈ d.writes, AuthStore.agree k s s') :
    ∃ c, completionOf ⟨.completeSignup write now, s, s'⟩ = some c ∧ c.Entitled ∧ c.before = s' ∧
      (d.apply s').accounts.map (·.id) = s'.accounts.map (·.id) ++ [c.accountId] ∧
      TokenSpent c.accessTokenId (d.apply s') ∧ SignupSpent c.signupSessionId (d.apply s') := by
  have hdecided := h
  simp only [transact, completeSignup, bind_eq_ok, exists_unit, okOr_eq_ok, rejectIf_eq_ok, pure_eq,
    Except.ok.injEq] at h
  obtain ⟨signup, hsignup, access, haccess, -, -, -, rfl⟩ := h
  have hcompletion : completionOf ⟨.completeSignup write now, s, s'⟩ =
      some ⟨write.account.id, signup.id, access.id, now, s'⟩ := by
    simp only [completionOf, hsignup, haccess, Option.bind_eq_bind, Option.bind_some, Option.pure_def]
  have hfound := (Option.filter_eq_some_iff.mp hsignup).1
  have hsignup' : signup ∈ s'.signupSessions :=
    (hagree (.document .signupSessions signup.id) (by simp) signup rfl).mp (List.mem_of_find?_eq_some hfound)
  have haccess' : access ∈ s'.accessTokens :=
    (hagree (.document .accessTokens access.id) (by simp) access rfl).mp (List.mem_of_find?_eq_some haccess)
  have hopen := List.find?_some hfound
  have hreserved := List.find?_some haccess
  simp only [SignupSessionDocument.completable, SignupAccessTokenDocument.reservedFor, decide_eq_true_eq]
    at hopen hreserved
  obtain ⟨-, hactive, hunexpired⟩ := hopen
  obtain ⟨hid, htactive, hrole, htunexpired, hfor⟩ := hreserved
  refine ⟨_, hcompletion, ⟨⟨signup, hsignup', rfl, hactive, hunexpired, hid.symm⟩,
    ⟨access, haccess', rfl, htactive, hrole, htunexpired, hfor⟩⟩, rfl, List.map_append, ?_, ?_⟩
  · exact spent_of_update ⟨access, haccess', rfl⟩ (fun _ => by rfl) (fun _ hactive => by cases hactive)
  · exact spent_of_update ⟨signup, hsignup', rfl⟩ (fun _ => by rfl) (fun _ hactive => by cases hactive)

/-- Accounts are rewritten one by one, keep their ids and whether they may log in, and are joined by those created. -/
def AccountsFollow (accounts accounts' created : List AccountDocument) : Prop :=
  ∃ rewrite : AccountDocument → AccountDocument,
    (∀ a, (rewrite a).id = a.id ∧ (rewrite a).loginEnabled = a.loginEnabled ∧
      a.passwordRoleVersion ≤ (rewrite a).passwordRoleVersion) ∧
    accounts' = accounts.map rewrite ++ created

theorem AccountsFollow.refl (accounts : List AccountDocument) : AccountsFollow accounts accounts [] :=
  ⟨id, fun _ => ⟨rfl, rfl, Nat.le_refl _⟩, by rw [List.map_id, append_nil]⟩

/-- **What an operation does to the accounts**: only a completion creates one. -/
theorem transact_accounts
    (h : transact m job s = .ok d) (s' : AuthStore) :
    ∃ created, AccountsFollow s'.accounts (d.apply s').accounts created ∧
      ((∀ write now, job ≠ .completeSignup write now) → created = []) := by
  cases job with
  | completeSignup write now =>
    obtain ⟨signup, access, -, -, -, -, -, -, -, -, happly⟩ := completeSignup_eq_ok h
    rw [happly]
    refine ⟨[accountDocument write.account], ?_, fun hjob => absurd rfl (hjob write now)⟩
    exact ⟨id, fun _ => ⟨rfl, rfl, Nat.le_refl _⟩, by rw [List.map_id]⟩
  | issueSignupAccessToken token =>
    simp only [transact, issueSignupAccessToken, bind_eq_ok, exists_unit, pure_eq, Except.ok.injEq] at h
    obtain ⟨-, rfl⟩ := h
    exact ⟨[], .refl _, fun _ => rfl⟩
  | beginSignup signup now =>
    simp only [transact, beginSignup, bind_eq_ok, exists_unit, pure_eq, Except.ok.injEq] at h
    obtain ⟨access, -, -, rfl⟩ := h
    exact ⟨[], .refl _, fun _ => rfl⟩
  | revokeSignupAccessToken tokenId =>
    simp only [transact, revokeSignupAccessToken] at h
    split at h <;> obtain rfl := Except.ok.inj h <;> exact ⟨[], .refl _, fun _ => rfl⟩
  | createLoginSession newSession now =>
    simp only [transact, createLoginSession, bind_eq_ok, exists_unit, pure_eq, Except.ok.injEq] at h
    obtain ⟨account, -, -, rfl⟩ := h
    exact ⟨[], .refl _, fun _ => rfl⟩
  | authenticateSessionDigest digest lifetime now =>
    simp only [transact, authenticateSessionDigest] at h
    split at h
    · obtain rfl := Except.ok.inj h
      exact ⟨[], .refl _, fun _ => rfl⟩
    · split at h
      · obtain rfl := Except.ok.inj h
        exact ⟨[], .refl _, fun _ => rfl⟩
      · split at h <;> obtain rfl := Except.ok.inj h <;> exact ⟨[], .refl _, fun _ => rfl⟩
  | updatePasswordAndRevokeSessions accountId phc now =>
    simp only [transact, updatePasswordAndRevokeSessions, bind_eq_ok, pure_eq, Except.ok.injEq] at h
    obtain ⟨account, -, rfl⟩ := h
    refine ⟨[], ⟨_, fun a => ?_, (append_nil _).symm⟩, fun _ => rfl⟩
    dsimp only
    split
    · exact ⟨rfl, rfl, Nat.le_succ _⟩
    · exact ⟨rfl, rfl, Nat.le_refl _⟩
  | revokeAccountSession accountId sessionId now =>
    simp only [transact, revokeAccountSession] at h
    split at h <;> obtain rfl := Except.ok.inj h <;> exact ⟨[], .refl _, fun _ => rfl⟩
  | cleanupExpiredAccountSession sessionId now =>
    simp only [transact, cleanupExpiredAccountSession] at h
    split at h <;> obtain rfl := Except.ok.inj h <;> exact ⟨[], .refl _, fun _ => rfl⟩

/-- Every other operation creates no account. -/
theorem accounts_of_not_completion {m : Nat} {job : AuthJob} {s s' : AuthStore} {d : AuthDecision}
    (h : transact m job s = .ok d) (hjob : ∀ write now, job ≠ .completeSignup write now) :
    (d.apply s').accounts.map (·.id) = s'.accounts.map (·.id) := by
  obtain ⟨created, ⟨rewrite, hkeeps, haccounts⟩, hcreated⟩ := transact_accounts h s'
  rw [haccounts, hcreated hjob, append_nil, List.map_map]
  exact List.map_congr_left fun a _ => (hkeeps a).1

/-- A revocation spends its token. -/
theorem RevokesToken.spends {id : String}
    (h : transact m job s = .ok d) (hagree : ∀ k ∈ d.writes, AuthStore.agree k s s')
    (hrevokes : RevokesToken ⟨job, s, s'⟩ id) : TokenSpent id (d.apply s') := by
  obtain ⟨hjob, t, ht, hid, hactive⟩ := hrevokes
  obtain rfl : job = .revokeSignupAccessToken id := hjob
  have hany : s.accessTokens.any (fun t => t.id = id ∧ t.state = .active) = true := by
    rw [List.any_eq_true]
    exact ⟨t, ht, by simp [hid, hactive]⟩
  simp only [transact, revokeSignupAccessToken, hany, if_true] at h
  obtain rfl := Except.ok.inj h
  refine spent_of_update ⟨t, ?_, hid⟩ (fun _ => by rfl) (fun _ hactive => by cases hactive)
  exact (hagree _ (mem_singleton_self _) t hid).mp ht

/-- What the commits of a run leave behind. -/
structure SignupHistory (commits : List (Committed AuthJob AuthStore)) (s : AuthStore) : Prop where
  accounts : s.accounts.map (·.id) = (completionsOf commits).map (·.accountId)
  entitled : ∀ c ∈ completionsOf commits, c.Entitled
  tokens : ((completionsOf commits).map (·.accessTokenId)).Nodup
  signups : ((completionsOf commits).map (·.signupSessionId)).Nodup
  revoked : commits.Pairwise fun r c => ∀ id, RevokesToken r id → ∀ made ∈ completionOf c, made.accessTokenId ≠ id
  spent : ∀ c ∈ completionsOf commits, TokenSpent c.accessTokenId s ∧ SignupSpent c.signupSessionId s
  withdrawn : ∀ r ∈ commits, ∀ id, RevokesToken r id → TokenSpent id s

theorem completionsOf_append (commits : List (Committed AuthJob AuthStore)) (c : Committed AuthJob AuthStore) :
    completionsOf (commits ++ [c]) = completionsOf commits ++ (completionOf c).toList := by
  unfold completionsOf
  rw [List.filterMap_append]
  cases h : completionOf c with
  | none => rw [List.filterMap_cons_none h]; rfl
  | some made => rw [List.filterMap_cons_some h]; rfl

/-- **One more commit.** -/
theorem SignupHistory.commit {m : Nat} {commits : List (Committed AuthJob AuthStore)} {job : AuthJob}
    {s s' : AuthStore} {d : AuthDecision} (h : SignupHistory commits s') (hbody : transact m job s = .ok d)
    (hagree : ∀ k ∈ d.writes, AuthStore.agree k s s') (hdistinct : s'.DistinctAccounts) :
    SignupHistory (commits ++ [⟨job, s, s'⟩]) (d.apply s') := by
  obtain ⟨-, hlater⟩ := transact_later hbody hagree hdistinct
  have hspent : ∀ c ∈ completionsOf commits, TokenSpent c.accessTokenId (d.apply s') ∧
      SignupSpent c.signupSessionId (d.apply s') := fun c hc =>
    ⟨hlater.tokens _ (h.spent c hc).1, hlater.signups _ (h.spent c hc).2⟩
  have hwithdrawn : ∀ r ∈ commits ++ [(⟨job, s, s'⟩ : Committed AuthJob AuthStore)], ∀ id, RevokesToken r id →
      TokenSpent id (d.apply s') := by
    intro r hr id hrevokes
    rcases mem_append.mp hr with hr | hr
    · exact hlater.tokens id (h.withdrawn r hr id hrevokes)
    · obtain rfl := mem_singleton.mp hr
      exact hrevokes.spends hbody hagree
  by_cases hjob : ∃ write now, job = .completeSignup write now
  · obtain ⟨write, now, rfl⟩ := hjob
    obtain ⟨made, hmade, hentitled, hbefore, haccounts, htoken, hsignup⟩ := completeSignup_completes hbody hagree
    have hcompletions : completionsOf (commits ++ [⟨.completeSignup write now, s, s'⟩]) =
        completionsOf commits ++ [made] := by
      rw [completionsOf_append, hmade]
      rfl
    -- Both documents were active just now, so nothing before can have spent them.
    have htokenActive : ¬ TokenSpent made.accessTokenId s' := fun hspent => by
      obtain ⟨t, ht, hid, hactive, -⟩ := hentitled.token
      rw [hbefore] at ht
      exact hspent.2 t ht hid hactive
    have hsignupActive : ¬ SignupSpent made.signupSessionId s' := fun hspent => by
      obtain ⟨x, hx, hid, hactive, -⟩ := hentitled.signup
      rw [hbefore] at hx
      exact hspent.2 x hx hid hactive
    constructor
    · rw [haccounts, hcompletions, h.accounts, List.map_append]
      rfl
    · rw [hcompletions]
      intro c hc
      rcases mem_append.mp hc with hc | hc
      · exact h.entitled c hc
      · rw [mem_singleton.mp hc]
        exact hentitled
    · rw [hcompletions]
      refine nodup_map_append h.tokens fun c hc hsame => htokenActive ?_
      rw [← hsame]
      exact (h.spent c hc).1
    · rw [hcompletions]
      refine nodup_map_append h.signups fun c hc hsame => hsignupActive ?_
      rw [← hsame]
      exact (h.spent c hc).2
    · rw [List.pairwise_append]
      refine ⟨h.revoked, List.pairwise_singleton _ _, fun r hr c hc id hrevokes found hfound hid => ?_⟩
      rw [mem_singleton.mp hc, hmade] at hfound
      obtain rfl := Option.some.inj hfound
      rw [hid] at htokenActive
      exact htokenActive (h.withdrawn r hr id hrevokes)
    · rw [hcompletions]
      intro c hc
      rcases mem_append.mp hc with hc | hc
      · exact hspent c hc
      · rw [mem_singleton.mp hc]
        exact ⟨htoken, hsignup⟩
    · exact hwithdrawn
  · have hother : ∀ write now, job ≠ .completeSignup write now := fun write now heq => hjob ⟨write, now, heq⟩
    have haccounts := @accounts_of_not_completion m job s s' d hbody hother
    have hnone : completionOf ⟨job, s, s'⟩ = none := by
      cases job with
      | completeSignup write now => exact absurd rfl (hother write now)
      | _ => rfl
    have hcompletions : completionsOf (commits ++ [⟨job, s, s'⟩]) = completionsOf commits := by
      rw [completionsOf_append, hnone]
      exact append_nil _
    constructor
    · rw [haccounts, hcompletions]
      exact h.accounts
    · rw [hcompletions]
      exact h.entitled
    · rw [hcompletions]
      exact h.tokens
    · rw [hcompletions]
      exact h.signups
    · rw [List.pairwise_append]
      refine ⟨h.revoked, List.pairwise_singleton _ _, fun r _ c hc id _ found hfound => ?_⟩
      rw [mem_singleton.mp hc, hnone] at hfound
      cases hfound
    · rw [hcompletions]
      exact hspent
    · exact hwithdrawn

/-- A completion that fails for the account's data would not have failed with other data. -/
theorem completeSignup_retry {write' : CompleteSignupWrite}
    {operation : String} (hbearer : write'.signupBearerDigest = write.signupBearerDigest)
    (hcsrf : write'.signupCsrfDigest = write.signupCsrfDigest)
    (hfailed : transact m (.completeSignup write now) s = .error (.duplicateKey operation))
    (hfresh : ∀ a ∈ s.accounts, a.id ≠ write'.account.id ∧
      a.usernameNormalized ≠ write'.account.usernameNormalized ∧
      a.emailLookupHmac ≠ write'.account.emailLookupHmac) (hroom : ¬ s.takesSession write'.accountSession) :
    ∃ d, transact m (.completeSignup write' now) s = .ok d := by
  simp only [transact, completeSignup] at hfailed ⊢
  rw [hbearer, hcsrf]
  cases hsignup : (s.signupSessions.find? (·.completable write.signupBearerDigest now)).filter
      (fun stored => stored.csrfDigest = write.signupCsrfDigest) with
  | none =>
    rw [hsignup] at hfailed
    cases hfailed
  | some signup =>
    rw [hsignup] at hfailed
    simp only [okOr_some, ok_bind] at hfailed ⊢
    cases haccess : s.accessTokens.find? (·.reservedFor signup now) with
    | none =>
      rw [haccess] at hfailed
      cases hfailed
    | some access =>
      have hopen := List.find?_some (Option.filter_eq_some_iff.mp hsignup).1
      have hreserved := List.find?_some haccess
      simp only [SignupSessionDocument.completable, SignupAccessTokenDocument.reservedFor, decide_eq_true_eq]
        at hopen hreserved
      have hnew : ¬ ∃ a ∈ s.accounts, a.id = write'.account.id ∨
          a.usernameNormalized = write'.account.usernameNormalized ∨
          a.emailLookupHmac = write'.account.emailLookupHmac := by
        rintro ⟨a, ha, hdup⟩
        obtain ⟨hid, hname, haddress⟩ := hfresh a ha
        rcases hdup with hdup | hdup | hdup
        · exact hid hdup
        · exact hname hdup
        · exact haddress hdup
      have hmodified : ¬ (signup.state ≠ .active ∨ signup.expiresAt ≤ now ∨ access.state ≠ .active ∨
          access.reservedSignupSessionId ≠ some signup.id ∨ access.expiresAt ≤ now) := by
        obtain ⟨-, hactive, hunexpired⟩ := hopen
        obtain ⟨-, htactive, -, htunexpired, hfor⟩ := hreserved
        simp only [hactive, htactive, hfor, ne_eq, not_true_eq_false, false_or, not_or, Int.not_le]
        exact ⟨hunexpired, htunexpired⟩
      simp only [okOr_some, ok_bind]
      rw [rejectIf_of_not hnew, ok_bind, rejectIf_of_not hroom, ok_bind, rejectIf_of_not hmodified]
      exact ⟨_, rfl⟩

/-- **One account for each signup token.** In every run of the repository from an empty one,
    * the accounts are those of the completions, one for each, in order, and all different;
    * every completion found its token and its signup session active, unexpired and meant for each other;
    * no two completions are of one token, or of one signup session;
    * a token that was revoked before is not completed;
    * what does not commit changes nothing, only what succeeds on its snapshot commits, and a completion that
      fails for the account's data succeeds with other data. -/
theorem one_account_for_each_token (m : Nat) {events : List (Event AuthJob AuthStore)}
    {db : Database AuthStore AuthKey AuthJob}
    (hrun : Run (Database.Step (transact m)) (.quiet .empty) events db) :
    db.store.accounts.map (·.id) = (completionsOf (commitsOf events)).map (·.accountId) ∧
    (db.store.accounts.map (·.id)).Nodup ∧
    (∀ c ∈ completionsOf (commitsOf events), c.Entitled) ∧
    ((completionsOf (commitsOf events)).map (·.accessTokenId)).Nodup ∧
    ((completionsOf (commitsOf events)).map (·.signupSessionId)).Nodup ∧
    ((commitsOf events).Pairwise fun r c => ∀ id, RevokesToken r id →
      ∀ made ∈ completionOf c, made.accessTokenId ≠ id) ∧
    (∀ db₁ e db₂, Database.Step (transact m) db₁ e db₂ → e.committed = none → db₂.store = db₁.store) ∧
    (∀ db₁ c db₂, Database.Step (transact m) db₁ (.commit c) db₂ → ∃ d, transact m c.job c.snapshot = .ok d) ∧
    (∀ write write' now s operation, write'.signupBearerDigest = write.signupBearerDigest →
      write'.signupCsrfDigest = write.signupCsrfDigest →
      transact m (.completeSignup write now) s = .error (.duplicateKey operation) →
      (∀ a ∈ s.accounts, a.id ≠ write'.account.id ∧ a.usernameNormalized ≠ write'.account.usernameNormalized ∧
        a.emailLookupHmac ≠ write'.account.emailLookupHmac) → ¬ s.takesSession write'.accountSession →
      ∃ d, transact m (.completeSignup write' now) s = .ok d) := by
  have hstart : Sound AuthStore.agree AuthStore.DistinctAccounts AuthStore.Later
      (Database.quiet .empty : Database AuthStore AuthKey AuthJob) := sound_quiet List.nodup_nil
  have hadmits : Admitted (fun _ => True) events := fun _ _ => trivial
  have hempty : SignupHistory [] .empty :=
    ⟨rfl, nofun, List.nodup_nil, List.nodup_nil, List.Pairwise.nil, nofun, nofun⟩
  have hhistory : SignupHistory (commitsOf events) db.store :=
    (transact_isolated m).history (J := SignupHistory)
      (fun _ hdistinct _ _ hbody hagree hpast => hpast.commit hbody hagree hdistinct) hrun hadmits hstart hempty
  have hsound := ((transact_isolated m).sound hrun hadmits hstart).1
  refine ⟨hhistory.accounts, hsound.store, hhistory.entitled, hhistory.tokens, hhistory.signups, hhistory.revoked,
    ?_, ?_, ?_⟩
  · intro db₁ e db₂ hstep hnone
    cases hstep with
    | begin job => rfl
    | abort hrunning => rfl
    | commit hrunning hbody hwritten => cases hnone
  · intro db₁ c db₂ hstep
    cases hstep with
    | commit hrunning hbody hwritten => exact ⟨_, hbody⟩
  · intro write write' now s operation hbearer hcsrf hfailed hfresh hroom
    exact completeSignup_retry hbearer hcsrf hfailed hfresh hroom

/-! ## A signup -/

def firstAccessToken : NewSignupAccessToken := ⟨"token-1", "digest:token-1", .user, 100⟩

def firstSignup : NewSignupSession := ⟨"signup-1", "digest:signup-1", "csrf:signup-1", "digest:token-1", 50⟩

def firstAccount : NewMongoAccount := ⟨"account-1", "warden", "address-1", "phc-1"⟩

/-- The session that a signup ends in. -/
def firstSession : NewMongoAccountSession :=
  ⟨"session-1", "account-1", "digest:session-1", "csrf:session-1", 1, 200, 400, 500⟩

def firstCompletion : CompleteSignupWrite := ⟨"digest:signup-1", "csrf:signup-1", firstAccount, firstSession, rfl, rfl⟩

/-- The repository after one signup. -/
def signedUpStore : AuthStore where
  accessTokens := [⟨"token-1", "digest:token-1", .consumed, .user, 100, some "signup-1"⟩]
  signupSessions := [⟨"signup-1", "digest:signup-1", "csrf:signup-1", "token-1", .completed, 50⟩]
  accounts := [accountDocument firstAccount]
  accountSessions := [accountSessionDocument firstSession 2]

/-- **A signup, from the token to the account.** -/
theorem signup_runs (m : Nat) : ∃ events, ∃ db : Database AuthStore AuthKey AuthJob, Idle db ∧
    db.store = signedUpStore ∧ Run (Database.Step (transact m)) (.quiet .empty) events db ∧
    (commitsOf events).map (·.job) = [.issueSignupAccessToken firstAccessToken, .beginSignup firstSignup 1,
      .completeSignup firstCompletion 2] := by
  have hempty : Idle (Database.quiet AuthStore.empty : Database AuthStore AuthKey AuthJob) := idle_quiet _
  obtain ⟨db₁, hidle₁, hstore₁, hrun₁⟩ :=
    hempty.serial (show transact m (.issueSignupAccessToken firstAccessToken) _ = .ok _ from rfl)
  obtain ⟨db₂, hidle₂, hstore₂, hrun₂⟩ :=
    hidle₁.serial (show transact m (.beginSignup firstSignup 1) _ = .ok _ by rw [hstore₁]; rfl)
  obtain ⟨db₃, hidle₃, hstore₃, hrun₃⟩ :=
    hidle₂.serial (show transact m (.completeSignup firstCompletion 2) _ = .ok _ by rw [hstore₂, hstore₁]; rfl)
  refine ⟨_, db₃, hidle₃, ?_, (hrun₁.append hrun₂).append hrun₃, rfl⟩
  rw [hstore₃, hstore₂, hstore₁]
  rfl

theorem one_account_for_each_token_signup : ∃ events, ∃ db : Database AuthStore AuthKey AuthJob,
    Run (Database.Step (transact 5)) (.quiet .empty) events db ∧ db.store.accounts.map (·.id) = ["account-1"] ∧
    (completionsOf (commitsOf events)).map (·.accountId) = ["account-1"] ∧
    ((completionsOf (commitsOf events)).map (·.accessTokenId)).Nodup := by
  obtain ⟨events, db, -, hstore, hrun, -⟩ := signup_runs 5
  obtain ⟨haccounts, -, -, htokens, -⟩ := one_account_for_each_token 5 hrun
  have hone : db.store.accounts.map (·.id) = ["account-1"] := by
    rw [hstore]
    rfl
  refine ⟨events, db, hrun, hone, ?_, htokens⟩
  rw [← haccounts]
  exact hone

end ManchesterArcana.Persistence
