import Mathlib.Algebra.BigOperators.Group.List.Basic
import Mathlib.Algebra.Order.Ring.Int
import ManchesterArcana.Core.Identifier
import ManchesterArcana.Effect.Guard
import ManchesterArcana.Effect.Run
import ManchesterArcana.Store.Update

/-!
# `Repository.ActionPoints` — the custom-action points of a campaign character

A character instance keeps a balance with what was earned and spent over its lifetime, and `bde_ledger` keeps one entry
for every idempotency key. Each call is one transaction: it repeats the balance that the entry of its key recorded, or
finds the instance by a filter that leaves room for the change, and adds an entry.

`action_point_ledger` says what holds after every run of calls; `refused_grant` that not every amount the policy allows
is accepted.
-/

namespace ManchesterArcana.Repository

open Effect Store

/-! ## The policy -/

def initialActionPoints : Int := 3
def costPerCustomAction : Int := 1
def maxActionPointBalance : Int := 99

inductive ActionPointReason where
  | initialGrant
  | earned
  | customActionSpent
  | administrativeRefund
  deriving DecidableEq, Repr

/-- The signed change that an amount stands for. -/
def ActionPointReason.delta : ActionPointReason → Int → Int
  | .customActionSpent, amount => -amount
  | _, amount => amount

structure ActionPointPolicy where
  initialBalance : Int
  costPerCustomAction : Int
  maxBalance : Int
  earnRate : Int
  allowRefundAfterGmCancel : Bool
  deriving DecidableEq, Repr

def ActionPointPolicy.default : ActionPointPolicy where
  initialBalance := initialActionPoints
  costPerCustomAction := Repository.costPerCustomAction
  maxBalance := maxActionPointBalance
  earnRate := 0
  allowRefundAfterGmCancel := true

/-- The balance after a change, unless it is negative or over the maximum. -/
def ActionPointPolicy.apply (policy : ActionPointPolicy) (currentBalance : Int) (reason : ActionPointReason)
    (amount : Int) : Option Int :=
  let newBalance := currentBalance + reason.delta amount
  if newBalance < 0 then none else if policy.maxBalance < newBalance then none else some newBalance

/-! ## Documents -/

structure BdeRuntimeDocument where
  balance : Int
  lifetimeEarned : Int
  lifetimeSpent : Int
  deriving DecidableEq, Repr

structure CharacterInstanceDocument where
  id : String
  campaignId : String
  accountId : String
  isActive : Bool
  revision : Nat
  bde : BdeRuntimeDocument
  deriving DecidableEq, Repr

/-- What a call asks for; its fingerprint is a digest of this. -/
structure ActionPointRequest where
  accountId : String
  campaignId : String
  runtimeCharacterId : String
  playSessionId : String
  turnRevision : Nat
  amount : Int
  reason : ActionPointReason
  deriving DecidableEq, Repr

structure BdeLedgerDocument where
  campaignCharacterInstanceId : String
  accountId : String
  campaignId : String
  playSessionId : String
  turnRevision : Nat
  idempotencyKey : String
  requestFingerprint : String
  amount : Int
  delta : Int
  reason : ActionPointReason
  balanceAfter : Int
  deriving DecidableEq, Repr

structure BdeReceiptDocument where
  scopeId : String
  idempotencyKey : String
  commandKind : ActionPointReason
  requestFingerprint : String
  balance : Int
  deriving DecidableEq, Repr

structure ActionPointStore where
  instances : List CharacterInstanceDocument
  ledger : List BdeLedgerDocument
  receipts : List BdeReceiptDocument
  deriving DecidableEq, Repr

/-- A call with its key, and whether the campaign and the play session that it names are open to the account. -/
structure ActionPointCall where
  request : ActionPointRequest
  idempotencyKey : String
  campaignIsOpen : Bool
  playSessionIsActive : Bool
  deriving DecidableEq, Repr

inductive ActionPointError where
  | invalid (id reason : String)
  | numericRange (field : String)
  | notFound (entity id : String)
  | idempotencyConflict (scopeId idempotencyKey : String)
  | alreadyExists (entity id : String)
  deriving DecidableEq, Repr

/-! ## The transaction -/

def ActionPointCall.validateScope (c : ActionPointCall) : Except ActionPointError Unit := do
  rejectIf (isValidOpaqueId c.request.accountId = false)
    (.invalid c.request.accountId "identifier must be a valid opaque identifier")
  rejectIf (isValidOpaqueId c.request.campaignId = false)
    (.invalid c.request.campaignId "identifier must be a valid opaque identifier")
  rejectIf (isValidOpaqueId c.request.runtimeCharacterId = false)
    (.invalid c.request.runtimeCharacterId "identifier must be a valid opaque identifier")
  rejectIf (isValidOpaqueId c.request.playSessionId = false ∨ isValidOpaqueId c.idempotencyKey = false)
    (.invalid c.request.runtimeCharacterId "play-session and idempotency identifiers must be valid")

/-- The amounts that the server grants, charges and refunds. -/
def ActionPointRequest.validateAmount (r : ActionPointRequest) : Except ActionPointError Unit := do
  rejectIf (r.amount ≤ 0 ∨ r.turnRevision = 0)
    (.invalid r.runtimeCharacterId "amount and turn revision must be positive")
  rejectIf (r.reason = .initialGrant ∧ r.amount ≠ initialActionPoints)
    (.invalid r.runtimeCharacterId "initial BDE grant must use the server policy amount")
  rejectIf (r.reason = .customActionSpent ∧ r.amount ≠ costPerCustomAction)
    (.invalid r.runtimeCharacterId "custom actions must use the server policy cost")
  rejectIf (maxActionPointBalance < r.amount) (.invalid r.runtimeCharacterId "BDE amount exceeds the server policy")
  rejectIf (2 ^ 63 ≤ r.turnRevision) (.numericRange "turn revision")

/-- The entry is that of the call. -/
def BdeLedgerDocument.isOf (e : BdeLedgerDocument) (fingerprint : String) (r : ActionPointRequest) : Bool :=
  e.accountId = r.accountId ∧ e.campaignId = r.campaignId ∧ e.playSessionId = r.playSessionId ∧
    e.turnRevision = r.turnRevision ∧ e.amount = r.amount ∧ e.delta = r.reason.delta r.amount ∧ e.reason = r.reason ∧
    e.requestFingerprint = fingerprint

/-- The filter on the balance. -/
def BdeRuntimeDocument.leavesRoom (bde : BdeRuntimeDocument) (reason : ActionPointReason) (amount : Int) : Bool :=
  match reason with
  | .customActionSpent => amount ≤ bde.balance
  | .administrativeRefund => bde.balance ≤ maxActionPointBalance - amount ∧ amount ≤ bde.lifetimeSpent
  | .initialGrant | .earned => bde.balance ≤ maxActionPointBalance - amount

def BdeRuntimeDocument.increment (bde : BdeRuntimeDocument) (reason : ActionPointReason) (amount : Int) :
    BdeRuntimeDocument :=
  let balance := bde.balance + reason.delta amount
  match reason with
  | .customActionSpent => { bde with balance, lifetimeSpent := bde.lifetimeSpent + amount }
  | .administrativeRefund => { bde with balance, lifetimeSpent := bde.lifetimeSpent - amount }
  | .initialGrant | .earned => { bde with balance, lifetimeEarned := bde.lifetimeEarned + amount }

/-- The instance that a request is about. -/
def CharacterInstanceDocument.isOf (i : CharacterInstanceDocument) (r : ActionPointRequest) : Bool :=
  i.id = r.runtimeCharacterId ∧ i.campaignId = r.campaignId ∧ i.accountId = r.accountId ∧ i.isActive

/-- The entry that a call leaves. -/
def ActionPointCall.entry (c : ActionPointCall) (fingerprint : String) (balance : Int) : BdeLedgerDocument where
  campaignCharacterInstanceId := c.request.runtimeCharacterId
  accountId := c.request.accountId
  campaignId := c.request.campaignId
  playSessionId := c.request.playSessionId
  turnRevision := c.request.turnRevision
  idempotencyKey := c.idempotencyKey
  requestFingerprint := fingerprint
  amount := c.request.amount
  delta := c.request.reason.delta c.request.amount
  reason := c.request.reason
  balanceAfter := balance

/-- The writes of a call: the instance, its entry and its receipt. -/
def ActionPointStore.post (s : ActionPointStore) (c : ActionPointCall) (fingerprint : String) (balance : Int) :
    ActionPointStore where
  instances := updateById (·.id) c.request.runtimeCharacterId
    (fun i => { i with revision := i.revision + 1, bde := i.bde.increment c.request.reason c.request.amount }) s.instances
  ledger := s.ledger ++ [c.entry fingerprint balance]
  receipts := s.receipts ++
    [⟨c.request.runtimeCharacterId, c.idempotencyKey, c.request.reason, fingerprint, balance⟩]

/-- `ActionPointRepository::apply`. The receipt that a duplicate key is found for is that of another command. -/
def applyActionPoints (fingerprint : ActionPointRequest → String) (c : ActionPointCall) (s : ActionPointStore) :
    Except ActionPointError (Int × ActionPointStore) := do
  let r := c.request
  c.validateScope
  r.validateAmount
  rejectIf (c.campaignIsOpen = false) (.notFound "campaign" r.campaignId)
  rejectIf (c.playSessionIsActive = false) (.notFound "active play session" r.playSessionId)
  match s.ledger.find? fun e => e.campaignCharacterInstanceId = r.runtimeCharacterId ∧
      e.idempotencyKey = c.idempotencyKey with
  | some existing =>
    if existing.isOf (fingerprint r) r then return (existing.balanceAfter, s)
    else .error (.idempotencyConflict r.runtimeCharacterId c.idempotencyKey)
  | none =>
  match s.instances.find? fun i => i.isOf r && i.bde.leavesRoom r.reason r.amount with
  | none => .error (.notFound "action point balance" r.runtimeCharacterId)
  | some i => do
    rejectIf (∃ x ∈ s.receipts, x.scopeId = r.runtimeCharacterId ∧ x.idempotencyKey = c.idempotencyKey)
      (.alreadyExists "BDE command" c.idempotencyKey)
    let balance := (i.bde.increment r.reason r.amount).balance
    return (balance, s.post c (fingerprint r) balance)

/-- A call as a step: a transaction that fails leaves the store as it was. -/
def ActionPointStore.step (fingerprint : ActionPointRequest → String) (s : ActionPointStore) (c : ActionPointCall) :
    Except ActionPointError Int × ActionPointStore :=
  match applyActionPoints fingerprint c s with
  | .ok (balance, t) => (.ok balance, t)
  | .error e => (.error e, s)

/-- One call, with its answer. -/
def ActionPointStore.Step (fingerprint : ActionPointRequest → String) (s : ActionPointStore)
    (event : ActionPointCall × Except ActionPointError Int) (t : ActionPointStore) : Prop :=
  s.step fingerprint event.1 = (event.2, t)

/-! ## The law -/

def ActionPointStore.ledgerOf (s : ActionPointStore) (id : String) : List BdeLedgerDocument :=
  s.ledger.filter (·.campaignCharacterInstanceId = id)

/-- A participant that has joined, and has no points yet. -/
structure ActionPointStore.IsNew (s : ActionPointStore) (id : String) : Prop where
  unique : (s.instances.map (·.id)).Nodup
  zero : ∀ i ∈ s.instances, i.id = id → i.bde = ⟨0, 0, 0⟩
  ledger : s.ledgerOf id = []
  receipts : ∀ x ∈ s.receipts, x.scopeId ≠ id

/-- **The balance of a character, its lifetime totals and its ledger agree.** -/
structure ActionPointStore.Balanced (s : ActionPointStore) (id : String) : Prop where
  unique : (s.instances.map (·.id)).Nodup
  ledger : ∀ i ∈ s.instances, i.id = id → i.bde.balance = ((s.ledgerOf id).map (·.delta)).sum
  lifetime : ∀ i ∈ s.instances, i.id = id → i.bde.balance = i.bde.lifetimeEarned - i.bde.lifetimeSpent
  bounds : ∀ i ∈ s.instances, i.id = id →
    0 ≤ i.bde.balance ∧ i.bde.balance ≤ ActionPointPolicy.default.maxBalance ∧ 0 ≤ i.bde.lifetimeSpent
  keys : ((s.ledgerOf id).map (·.idempotencyKey)).Nodup
  receipts : ∀ x ∈ s.receipts, x.scopeId = id → ∃ e ∈ s.ledgerOf id, e.idempotencyKey = x.idempotencyKey

/-- The call may be made: its ids, amount and revision are those of the server policy, and the account may act. -/
structure ActionPointCall.IsAdmissible (c : ActionPointCall) : Prop where
  scope : c.validateScope = .ok ()
  amount : c.request.validateAmount = .ok ()
  campaign : c.campaignIsOpen = true
  playSession : c.playSessionIsActive = true

/-- **What a call does**, on a store where the books of its character balance. -/
structure ActionPointStore.Answers (fingerprint : ActionPointRequest → String) (s : ActionPointStore)
    (c : ActionPointCall) : Prop where
  retried : ∀ e ∈ s.ledgerOf c.request.runtimeCharacterId, e.idempotencyKey = c.idempotencyKey →
    e.isOf (fingerprint c.request) c.request = true → s.step fingerprint c = (.ok e.balanceAfter, s)
  conflicting : ∀ e ∈ s.ledgerOf c.request.runtimeCharacterId, e.idempotencyKey = c.idempotencyKey →
    e.isOf (fingerprint c.request) c.request = false →
    s.step fingerprint c = (.error (.idempotencyConflict c.request.runtimeCharacterId c.idempotencyKey), s)
  fresh : (∀ e ∈ s.ledgerOf c.request.runtimeCharacterId, e.idempotencyKey ≠ c.idempotencyKey) →
    ∀ i ∈ s.instances, i.isOf c.request = true → ∀ balance, (s.step fingerprint c).1 = .ok balance ↔
      ActionPointPolicy.default.apply i.bde.balance c.request.reason c.request.amount = some balance ∧
      (c.request.reason = .administrativeRefund → 0 ≤ i.bde.lifetimeSpent - c.request.amount)

/-! ## One call -/

section Call

variable {fingerprint : ActionPointRequest → String} {s t : ActionPointStore} {c : ActionPointCall} {balance : Int}
  {id : String}

/-- No entry has been made for the key of a call. -/
def ActionPointStore.IsFresh (s : ActionPointStore) (c : ActionPointCall) : Prop :=
  ∀ e ∈ s.ledgerOf c.request.runtimeCharacterId, e.idempotencyKey ≠ c.idempotencyKey

theorem mem_ledgerOf {e : BdeLedgerDocument} : e ∈ s.ledgerOf id ↔ e ∈ s.ledger ∧ e.campaignCharacterInstanceId = id := by
  unfold ActionPointStore.ledgerOf
  rw [List.mem_filter, decide_eq_true_eq]

/-- **What a call that succeeds has done**: it repeats an entry, or posts. -/
theorem applyActionPoints_cases (h : applyActionPoints fingerprint c s = .ok (balance, t)) :
    (∃ e ∈ s.ledgerOf c.request.runtimeCharacterId, e.idempotencyKey = c.idempotencyKey ∧
        e.isOf (fingerprint c.request) c.request = true ∧ balance = e.balanceAfter ∧ t = s) ∨
      (s.IsFresh c ∧ c.IsAdmissible ∧ ∃ i ∈ s.instances, i.isOf c.request = true ∧
        i.bde.leavesRoom c.request.reason c.request.amount = true ∧
        balance = (i.bde.increment c.request.reason c.request.amount).balance ∧
        t = s.post c (fingerprint c.request) balance) := by
  unfold applyActionPoints at h
  obtain ⟨hscope, h⟩ := seq_eq_ok.mp h
  obtain ⟨hamount, h⟩ := seq_eq_ok.mp h
  obtain ⟨hcampaign, h⟩ := seq_eq_ok.mp h
  obtain ⟨hplay, h⟩ := seq_eq_ok.mp h
  have hadmissible : c.IsAdmissible :=
    ⟨hscope, hamount, by simpa using rejectIf_eq_ok.mp hcampaign, by simpa using rejectIf_eq_ok.mp hplay⟩
  split at h
  · next existing hfind =>
    split at h
    · next hof =>
      cases h
      have hkey := List.find?_some hfind
      rw [decide_eq_true_eq] at hkey
      exact .inl ⟨existing, mem_ledgerOf.mpr ⟨List.mem_of_find?_eq_some hfind, hkey.1⟩, hkey.2, hof, rfl, rfl⟩
    · cases h
  · next hnone =>
    split at h
    · cases h
    next i hfind =>
    obtain ⟨-, h⟩ := seq_eq_ok.mp h
    cases h
    have hi := List.find?_some hfind
    rw [Bool.and_eq_true] at hi
    refine .inr ⟨fun e he hkey => ?_, hadmissible, i, List.mem_of_find?_eq_some hfind, hi.1, hi.2, rfl, rfl⟩
    obtain ⟨hmem, hid⟩ := mem_ledgerOf.mp he
    exact List.find?_eq_none.mp hnone e hmem (decide_eq_true ⟨hid, hkey⟩)

/-- An admissible call comes down to its entry and its instance. -/
theorem applyActionPoints_of_admissible (h : c.IsAdmissible) : applyActionPoints fingerprint c s =
    match s.ledger.find? fun e => e.campaignCharacterInstanceId = c.request.runtimeCharacterId ∧
        e.idempotencyKey = c.idempotencyKey with
    | some existing =>
      if existing.isOf (fingerprint c.request) c.request then .ok (existing.balanceAfter, s)
      else .error (.idempotencyConflict c.request.runtimeCharacterId c.idempotencyKey)
    | none =>
    match s.instances.find? fun i => i.isOf c.request && i.bde.leavesRoom c.request.reason c.request.amount with
    | none => .error (.notFound "action point balance" c.request.runtimeCharacterId)
    | some i =>
      if ∃ x ∈ s.receipts, x.scopeId = c.request.runtimeCharacterId ∧ x.idempotencyKey = c.idempotencyKey then
        .error (.alreadyExists "BDE command" c.idempotencyKey)
      else .ok ((i.bde.increment c.request.reason c.request.amount).balance,
        s.post c (fingerprint c.request) (i.bde.increment c.request.reason c.request.amount).balance) := by
  unfold applyActionPoints
  simp only [h.scope, h.amount, ok_bind, h.campaign, h.playSession, Bool.true_eq_false]
  rw [rejectIf_of_not not_false, ok_bind, rejectIf_of_not not_false, ok_bind]
  split
  · rfl
  · split
    · rfl
    · by_cases hx : ∃ x ∈ s.receipts, x.scopeId = c.request.runtimeCharacterId ∧ x.idempotencyKey = c.idempotencyKey
      · rw [if_pos hx]
        unfold rejectIf
        rw [if_pos hx]
        rfl
      · rw [if_neg hx, rejectIf_of_not hx]
        rfl

theorem step_eq_of_ok (h : applyActionPoints fingerprint c s = .ok (balance, t)) :
    s.step fingerprint c = (.ok balance, t) := by
  unfold ActionPointStore.step
  rw [h]

theorem step_eq_of_error {e : ActionPointError} (h : applyActionPoints fingerprint c s = .error e) :
    s.step fingerprint c = (.error e, s) := by
  unfold ActionPointStore.step
  rw [h]

/-- A step that answers with a balance is a call that succeeds; one that answers with an error changes nothing. -/
theorem ActionPointStore.Step.cases {a : Except ActionPointError Int} (h : s.Step fingerprint (c, a) t) :
    (∃ b, a = .ok b ∧ applyActionPoints fingerprint c s = .ok (b, t)) ∨ ((∃ e, a = .error e) ∧ t = s) := by
  unfold ActionPointStore.Step ActionPointStore.step at h
  split at h
  · next b u happly =>
    cases h
    exact .inl ⟨b, rfl, happly⟩
  · next e happly =>
    cases h
    exact .inr ⟨⟨e, rfl⟩, rfl⟩

end Call

/-! ## The instance of a call -/

section Instance

variable {bde : BdeRuntimeDocument} {reason : ActionPointReason} {amount : Int}

@[simp] theorem increment_balance : (bde.increment reason amount).balance = bde.balance + reason.delta amount := by
  cases reason <;> rfl

/-- What a change adds to the balance, it adds to what was earned or takes off what was spent. -/
theorem increment_lifetime : (bde.increment reason amount).lifetimeEarned - (bde.increment reason amount).lifetimeSpent =
    bde.lifetimeEarned - bde.lifetimeSpent + reason.delta amount := by
  cases reason <;> simp only [BdeRuntimeDocument.increment, ActionPointReason.delta] <;> omega

theorem default_apply_eq {balance new : Int} :
    ActionPointPolicy.default.apply balance reason amount = some new ↔
      new = balance + reason.delta amount ∧ 0 ≤ new ∧ new ≤ maxActionPointBalance := by
  unfold ActionPointPolicy.apply
  show (if balance + reason.delta amount < 0 then none
    else if maxActionPointBalance < balance + reason.delta amount then none
    else some (balance + reason.delta amount)) = some new ↔ _
  split
  · next hneg =>
    constructor
    · intro h
      cases h
    · rintro ⟨rfl, h, -⟩
      exact absurd hneg (not_lt.mpr h)
  · next hneg =>
    split
    · next hmax =>
      constructor
      · intro h
        cases h
      · rintro ⟨rfl, -, h⟩
        exact absurd hmax (not_lt.mpr h)
    · next hmax =>
      constructor
      · intro h
        cases h
        exact ⟨rfl, not_lt.mp hneg, not_lt.mp hmax⟩
      · rintro ⟨rfl, -, -⟩
        rfl

/-- **The filter leaves room exactly when the policy allows the change**, and a refund is for points that were spent. -/
theorem leavesRoom_iff (hamount : 0 < amount) (hlow : 0 ≤ bde.balance) (hhigh : bde.balance ≤ maxActionPointBalance) :
    bde.leavesRoom reason amount = true ↔
      (0 ≤ bde.balance + reason.delta amount ∧ bde.balance + reason.delta amount ≤ maxActionPointBalance) ∧
        (reason = .administrativeRefund → 0 ≤ bde.lifetimeSpent - amount) := by
  cases reason <;>
    simp only [BdeRuntimeDocument.leavesRoom, ActionPointReason.delta, decide_eq_true_eq, reduceCtorEq, false_imp_iff,
      true_imp_iff, and_true, Bool.decide_and, Bool.and_eq_true] <;>
    omega

theorem amount_pos_of_validateAmount {r : ActionPointRequest} (h : r.validateAmount = .ok ()) : 0 < r.amount := by
  unfold ActionPointRequest.validateAmount at h
  obtain ⟨hpos, -⟩ := seq_eq_ok.mp h
  have := rejectIf_eq_ok.mp hpos
  omega

end Instance

/-! ## The books stay balanced -/

section Balance

variable {fingerprint : ActionPointRequest → String} {s t : ActionPointStore} {c : ActionPointCall} {balance : Int}
  {id : String}

variable {f : String} {i : CharacterInstanceDocument} {event : ActionPointCall × Except ActionPointError Int}

theorem ledgerOf_post_self : (s.post c f balance).ledgerOf c.request.runtimeCharacterId =
    s.ledgerOf c.request.runtimeCharacterId ++ [c.entry f balance] := by
  unfold ActionPointStore.ledgerOf ActionPointStore.post
  rw [List.filter_append]
  congr 1
  exact List.filter_cons_of_pos (decide_eq_true rfl)

theorem ledgerOf_post_of_ne (h : c.request.runtimeCharacterId ≠ id) :
    (s.post c f balance).ledgerOf id = s.ledgerOf id := by
  unfold ActionPointStore.ledgerOf ActionPointStore.post
  rw [List.filter_append]
  have hentry : [c.entry f balance].filter (·.campaignCharacterInstanceId = id) = [] :=
    List.filter_eq_nil_iff.mpr fun e he => by
      rw [List.mem_singleton.mp he, decide_eq_true_eq]
      exact h
  rw [hentry, List.append_nil]

theorem map_id_post : (s.post c f balance).instances.map (·.id) = s.instances.map (·.id) :=
  map_id_updateById fun _ => by rfl

/-- An instance of the posted store is that of before, changed where the call is about it. -/
theorem mem_instances_post (hi : i ∈ (s.post c f balance).instances) :
    (∃ j ∈ s.instances, j.id = c.request.runtimeCharacterId ∧ i.id = j.id ∧
        i.bde = j.bde.increment c.request.reason c.request.amount) ∨
      (i ∈ s.instances ∧ i.id ≠ c.request.runtimeCharacterId) := by
  rcases mem_updateById.mp hi with ⟨j, hj, hid, rfl⟩ | ⟨hi, hne⟩
  · exact .inl ⟨j, hj, hid, rfl, rfl⟩
  · exact .inr ⟨hi, hne⟩

theorem ActionPointStore.IsNew.balanced (h : s.IsNew id) : s.Balanced id where
  unique := h.unique
  ledger i hi hid := by
    rw [h.zero i hi hid, h.ledger]
    rfl
  lifetime i hi hid := by
    rw [h.zero i hi hid]
    rfl
  bounds i hi hid := by
    rw [h.zero i hi hid]
    decide
  keys := by
    rw [h.ledger]
    exact List.nodup_nil
  receipts x hx hid := absurd hid (h.receipts x hx)

/-- The instance of a call is the only one with its id. -/
theorem eq_of_isOf {j : CharacterInstanceDocument} (hunique : (s.instances.map (·.id)).Nodup) (hi : i ∈ s.instances)
    (hof : i.isOf c.request = true) (hj : j ∈ s.instances) (hid : j.id = c.request.runtimeCharacterId) : j = i := by
  have hiid : i.id = c.request.runtimeCharacterId := by
    unfold CharacterInstanceDocument.isOf at hof
    exact (of_decide_eq_true hof).1
  exact List.inj_on_of_nodup_map hunique hj hi (hid.trans hiid.symm)

/-- **A posting keeps the books of every character balanced.** -/
theorem ActionPointStore.Balanced.post (h : s.Balanced id) (hfresh : s.IsFresh c)
    (hadmissible : c.IsAdmissible) (hi : i ∈ s.instances) (hof : i.isOf c.request = true)
    (hroom : i.bde.leavesRoom c.request.reason c.request.amount = true) (hpost : t = s.post c f balance) :
    t.Balanced id := by
  subst hpost
  by_cases hc : c.request.runtimeCharacterId = id
  · subst hc
    have hamount := amount_pos_of_validateAmount hadmissible.amount
    constructor
    case unique =>
      rw [map_id_post]
      exact h.unique
    case ledger =>
      intro k hk hid
      rcases mem_instances_post hk with ⟨j, hj, hjid, -, hbde⟩ | ⟨-, hne⟩
      · rw [hbde, increment_balance, h.ledger j hj hjid, ledgerOf_post_self, List.map_append, List.sum_append,
          List.map_singleton, List.sum_singleton]
        rfl
      · exact absurd hid hne
    case lifetime =>
      intro k hk hid
      rcases mem_instances_post hk with ⟨j, hj, hjid, -, hbde⟩ | ⟨-, hne⟩
      · rw [hbde, increment_lifetime, increment_balance, h.lifetime j hj hjid]
      · exact absurd hid hne
    case bounds =>
      intro k hk hid
      rcases mem_instances_post hk with ⟨j, hj, hjid, -, hbde⟩ | ⟨-, hne⟩
      · obtain rfl := eq_of_isOf h.unique hi hof hj hjid
        obtain ⟨hlow, hhigh, hspent⟩ := h.bounds j hj hjid
        obtain ⟨⟨hlow', hhigh'⟩, hrefund⟩ := (leavesRoom_iff hamount hlow hhigh).mp hroom
        rw [hbde, increment_balance]
        refine ⟨hlow', hhigh', ?_⟩
        cases hreason : c.request.reason with
        | administrativeRefund => exact hrefund hreason
        | customActionSpent => exact Int.add_nonneg hspent hamount.le
        | initialGrant => exact hspent
        | earned => exact hspent
      · exact absurd hid hne
    case keys =>
      rw [ledgerOf_post_self]
      exact nodup_map_append h.keys fun e he => hfresh e he
    case receipts =>
      intro x hx hid
      rw [ledgerOf_post_self]
      rcases List.mem_append.mp hx with hx | hx
      · obtain ⟨e, he, hkey⟩ := h.receipts x hx hid
        exact ⟨e, List.mem_append_left _ he, hkey⟩
      · rw [List.mem_singleton.mp hx]
        exact ⟨_, List.mem_append_right _ (List.mem_singleton_self _), rfl⟩
  · -- the call is about another character
    have hother : ∀ k ∈ (s.post c f balance).instances, k.id = id → k ∈ s.instances := by
      intro k hk hid
      rcases mem_instances_post hk with ⟨j, -, hjid, hkid, -⟩ | ⟨hk, -⟩
      · exact absurd ((hkid.trans hjid).symm.trans hid) hc
      · exact hk
    constructor
    case unique =>
      rw [map_id_post]
      exact h.unique
    case ledger =>
      rw [ledgerOf_post_of_ne hc]
      exact fun k hk hid => h.ledger k (hother k hk hid) hid
    case lifetime => exact fun k hk hid => h.lifetime k (hother k hk hid) hid
    case bounds => exact fun k hk hid => h.bounds k (hother k hk hid) hid
    case keys =>
      rw [ledgerOf_post_of_ne hc]
      exact h.keys
    case receipts =>
      rw [ledgerOf_post_of_ne hc]
      intro x hx hid
      rcases List.mem_append.mp hx with hx | hx
      · exact h.receipts x hx hid
      · rw [List.mem_singleton.mp hx] at hid
        exact absurd hid hc

/-- **A call keeps the books of every character balanced.** -/
theorem ActionPointStore.Balanced.step (h : s.Balanced id)
    (hstep : s.Step fingerprint event t) : t.Balanced id := by
  rcases hstep.cases with ⟨b, -, happly⟩ | ⟨-, rfl⟩
  · rcases applyActionPoints_cases happly with ⟨e, -, -, -, -, rfl⟩ | ⟨hfresh, hadmissible, i, hi, hof, hroom, -, hpost⟩
    · exact h
    · exact h.post hfresh hadmissible hi hof hroom hpost
  · exact h

/-- No entry is ever taken back. -/
theorem ledger_mono (hstep : s.Step fingerprint event t) :
    ∀ e ∈ s.ledgerOf id, e ∈ t.ledgerOf id := by
  rcases hstep.cases with ⟨b, -, happly⟩ | ⟨-, rfl⟩
  · rcases applyActionPoints_cases happly with ⟨e, -, -, -, -, rfl⟩ | ⟨-, -, i, -, -, -, -, rfl⟩
    · exact fun _ he => he
    · intro e he
      obtain ⟨hmem, hid⟩ := mem_ledgerOf.mp he
      exact mem_ledgerOf.mpr ⟨List.mem_append_left _ hmem, hid⟩
  · exact fun _ he => he

/-- The entry that a call has made, or has found, holds the balance that it answered with. -/
def ActionPointStore.Records (fingerprint : ActionPointRequest → String) (s : ActionPointStore) (c : ActionPointCall)
    (balance : Int) : Prop :=
  ∃ e ∈ s.ledgerOf c.request.runtimeCharacterId, e.idempotencyKey = c.idempotencyKey ∧
    e.isOf (fingerprint c.request) c.request = true ∧ e.balanceAfter = balance

theorem entry_isOf : (c.entry f balance).isOf f c.request = true := by
  unfold BdeLedgerDocument.isOf
  exact decide_eq_true ⟨rfl, rfl, rfl, rfl, rfl, rfl, rfl, rfl⟩

/-- **A balance that a call answers with is on record.** -/
theorem applyActionPoints_records (h : applyActionPoints fingerprint c s = .ok (balance, t)) :
    t.Records fingerprint c balance := by
  rcases applyActionPoints_cases h with ⟨e, he, hkey, hof, rfl, rfl⟩ | ⟨-, -, i, -, -, -, -, rfl⟩
  · exact ⟨e, he, hkey, hof, rfl⟩
  · refine ⟨c.entry (fingerprint c.request) balance, ?_, rfl, entry_isOf, rfl⟩
    rw [ledgerOf_post_self]
    exact List.mem_append_right _ (List.mem_singleton_self _)

theorem ActionPointStore.Records.step (h : s.Records fingerprint c balance)
    (hstep : s.Step fingerprint event t) : t.Records fingerprint c balance := by
  obtain ⟨e, he, hkey, hof, hbalance⟩ := h
  exact ⟨e, ledger_mono hstep e he, hkey, hof, hbalance⟩

/-- **Every balance that a run has answered with is on record at its end.** -/
theorem records_of_run {events : List (ActionPointCall × Except ActionPointError Int)}
    (hrun : Run (ActionPointStore.Step fingerprint) s events t) (hmem : (c, .ok balance) ∈ events) :
    t.Records fingerprint c balance := by
  induction hrun with
  | nil s => cases hmem
  | cons hstep hrest ih =>
    rcases List.mem_cons.mp hmem with rfl | hmem
    · rcases hstep.cases with ⟨b, hb, happly⟩ | ⟨⟨e, he⟩, -⟩
      · cases hb
        exact hrest.invariant (fun _ _ _ (h : ActionPointStore.Records _ _ _ _) hs => h.step hs)
          (applyActionPoints_records happly)
      · cases he
    · exact ih hmem

end Balance

/-! ## What an admissible call answers -/

section Answer

variable {fingerprint : ActionPointRequest → String} {s : ActionPointStore} {c : ActionPointCall}

theorem find?_entry {e : BdeLedgerDocument}
    (hkeys : ((s.ledgerOf c.request.runtimeCharacterId).map (·.idempotencyKey)).Nodup)
    (he : e ∈ s.ledgerOf c.request.runtimeCharacterId) (hkey : e.idempotencyKey = c.idempotencyKey) :
    (s.ledger.find? fun e => e.campaignCharacterInstanceId = c.request.runtimeCharacterId ∧
      e.idempotencyKey = c.idempotencyKey) = some e := by
  obtain ⟨hmem, hid⟩ := mem_ledgerOf.mp he
  cases hfind : s.ledger.find? fun e => e.campaignCharacterInstanceId = c.request.runtimeCharacterId ∧
      e.idempotencyKey = c.idempotencyKey with
  | none => exact absurd (decide_eq_true ⟨hid, hkey⟩) (List.find?_eq_none.mp hfind e hmem)
  | some e' =>
    have h' := List.find?_some hfind
    rw [decide_eq_true_eq] at h'
    have hmem' := mem_ledgerOf.mpr ⟨List.mem_of_find?_eq_some hfind, h'.1⟩
    rw [List.inj_on_of_nodup_map hkeys hmem' he (h'.2.trans hkey.symm)]

theorem find?_entry_eq_none (hfresh : s.IsFresh c) :
    (s.ledger.find? fun e => e.campaignCharacterInstanceId = c.request.runtimeCharacterId ∧
      e.idempotencyKey = c.idempotencyKey) = none := by
  refine List.find?_eq_none.mpr fun e hmem hfound => ?_
  obtain ⟨hid, hkey⟩ := of_decide_eq_true hfound
  exact hfresh e (mem_ledgerOf.mpr ⟨hmem, hid⟩) hkey

/-- **What an admissible call answers**, on books that balance. -/
theorem ActionPointStore.Balanced.answers (h : s.Balanced c.request.runtimeCharacterId) (hadmissible : c.IsAdmissible) :
    s.Answers fingerprint c := by
  constructor
  case retried =>
    intro e he hkey hof
    refine step_eq_of_ok ?_
    rw [applyActionPoints_of_admissible hadmissible, find?_entry h.keys he hkey]
    exact if_pos hof
  case conflicting =>
    intro e he hkey hof
    refine step_eq_of_error ?_
    rw [applyActionPoints_of_admissible hadmissible, find?_entry h.keys he hkey]
    exact if_neg (by rw [hof]; exact Bool.false_ne_true)
  case fresh =>
    intro hfresh i hi hof balance
    obtain ⟨hlow, hhigh, -⟩ := h.bounds i hi (of_decide_eq_true hof).1
    have hroom := @leavesRoom_iff i.bde c.request.reason c.request.amount
      (amount_pos_of_validateAmount hadmissible.amount) hlow hhigh
    have happly := @applyActionPoints_of_admissible fingerprint s c hadmissible
    rw [find?_entry_eq_none hfresh] at happly
    -- no receipt is in the way: every receipt of the character has its entry
    have hreceipts : ¬ ∃ x ∈ s.receipts, x.scopeId = c.request.runtimeCharacterId ∧
        x.idempotencyKey = c.idempotencyKey := by
      rintro ⟨x, hx, hid, hkey⟩
      obtain ⟨e, he, hekey⟩ := h.receipts x hx hid
      exact hfresh e he (hekey.trans hkey)
    rw [default_apply_eq]
    cases hfind : s.instances.find? fun i => i.isOf c.request && i.bde.leavesRoom c.request.reason c.request.amount with
    | none =>
      rw [hfind] at happly
      rw [step_eq_of_error happly]
      constructor
      · intro h
        cases h
      · rintro ⟨⟨rfl, hlow', hhigh'⟩, hrefund⟩
        refine absurd ?_ (List.find?_eq_none.mp hfind i hi)
        rw [hof, Bool.true_and]
        exact hroom.mpr ⟨⟨hlow', hhigh'⟩, hrefund⟩
    | some j =>
      have hj := List.find?_some hfind
      rw [Bool.and_eq_true] at hj
      obtain rfl := eq_of_isOf h.unique hi hof (List.mem_of_find?_eq_some hfind) (of_decide_eq_true hj.1).1
      obtain ⟨hnew, hrefund⟩ := hroom.mp hj.2
      rw [hfind] at happly
      rw [step_eq_of_ok (happly.trans (if_neg hreceipts)), increment_balance]
      constructor
      · intro h
        cases h
        exact ⟨⟨rfl, hnew.1, hnew.2⟩, hrefund⟩
      · rintro ⟨⟨rfl, -, -⟩, -⟩
        rfl

/-- **A call whose balance is on record answers with it again**, and changes nothing. -/
theorem ActionPointStore.Records.step_eq {balance : Int} (hrecords : s.Records fingerprint c balance)
    (h : s.Balanced c.request.runtimeCharacterId) (hadmissible : c.IsAdmissible) :
    s.step fingerprint c = (.ok balance, s) := by
  obtain ⟨e, he, hkey, hof, rfl⟩ := hrecords
  exact (h.answers hadmissible).retried e he hkey hof

end Answer

/-! ## Every run of calls -/

/-- **The action points of a character are what its ledger says, after every run of calls.** A call that has been
answered with a balance is answered with it again, whatever has happened since. -/
theorem action_point_ledger (fingerprint : ActionPointRequest → String) {s t : ActionPointStore} {id : String}
    {events : List (ActionPointCall × Except ActionPointError Int)} (hnew : s.IsNew id)
    (hrun : Run (ActionPointStore.Step fingerprint) s events t) :
    t.Balanced id ∧
      ∀ c : ActionPointCall, c.request.runtimeCharacterId = id → c.IsAdmissible →
        t.Answers fingerprint c ∧
        ∀ first ∈ events, first.1.request = c.request → first.1.idempotencyKey = c.idempotencyKey →
          ∀ balance, first.2 = .ok balance → t.step fingerprint c = (.ok balance, t) := by
  have hbalanced : t.Balanced id := hrun.invariant (fun _ _ _ (h : ActionPointStore.Balanced _ id) hs => h.step hs) hnew.balanced
  refine ⟨hbalanced, ?_⟩
  rintro c rfl hadmissible
  refine ⟨hbalanced.answers hadmissible, ?_⟩
  rintro ⟨first, answer⟩ hmem hrequest hkey balance hanswer
  dsimp only at hrequest hkey hanswer
  subst hanswer
  obtain ⟨e, he, hekey, hof, hbalance⟩ := records_of_run hrun hmem
  rw [hrequest] at he hof
  exact ActionPointStore.Records.step_eq ⟨e, he, hekey.trans hkey, hof, hbalance⟩ hbalanced hadmissible

/-! ## A story -/

/-- An active character that has just joined. -/
def joinedCharacter : CharacterInstanceDocument where
  id := "character-1"
  campaignId := "campaign-1"
  accountId := "account-1"
  isActive := true
  revision := 1
  bde := ⟨0, 0, 0⟩

def joinedStore : ActionPointStore := ⟨[joinedCharacter], [], []⟩

def grantCall (amount : Int) : ActionPointCall where
  request := {
    accountId := "account-1"
    campaignId := "campaign-1"
    runtimeCharacterId := "character-1"
    playSessionId := "session-1"
    turnRevision := 1
    amount := amount
    reason := .initialGrant }
  idempotencyKey := "key-1"
  campaignIsOpen := true
  playSessionIsActive := true

theorem isNew_joinedStore : joinedStore.IsNew "character-1" where
  unique := List.nodup_singleton _
  zero i hi _ := by
    rw [List.mem_singleton.mp hi]
    rfl
  ledger := rfl
  receipts x hx := by cases hx

theorem isAdmissible_grantCall : (grantCall initialActionPoints).IsAdmissible where
  scope := by decide
  amount := by decide
  campaign := rfl
  playSession := rfl

/-- The first grant of a character, asked for a second time. -/
theorem granted_once : ∃ t, Run (ActionPointStore.Step fun _ => "digest") joinedStore
    [(grantCall initialActionPoints, .ok 3)] t ∧ t.Balanced "character-1" ∧
      t.step (fun _ => "digest") (grantCall initialActionPoints) = (.ok 3, t) := by
  refine ⟨(joinedStore.step (fun _ => "digest") (grantCall initialActionPoints)).2, ?_⟩
  have hrun : Run (ActionPointStore.Step fun _ => "digest") joinedStore [(grantCall initialActionPoints, .ok 3)]
      (joinedStore.step (fun _ => "digest") (grantCall initialActionPoints)).2 :=
    .cons (Prod.ext (by decide) rfl) (.nil _)
  obtain ⟨hbalanced, hcalls⟩ := action_point_ledger _ isNew_joinedStore hrun
  exact ⟨hrun, hbalanced, (hcalls _ rfl isAdmissible_grantCall).2 _ List.mem_cons_self rfl rfl 3 rfl⟩

/-- **A grant that the policy allows is refused** where it is not the amount that the server grants. -/
theorem refused_grant : ActionPointPolicy.default.apply 0 .initialGrant 5 = some 5 ∧
    (grantCall 5).validateScope = .ok () ∧ joinedCharacter.isOf (grantCall 5).request = true ∧
    joinedStore.step (fun _ => "digest") (grantCall 5) =
      (.error (.invalid "character-1" "initial BDE grant must use the server policy amount"), joinedStore) := by
  refine ⟨by decide, by decide, by decide, Prod.ext ?_ ?_⟩ <;> decide

end ManchesterArcana.Repository
