import Mathlib.Algebra.Order.BigOperators.Group.List
import ManchesterArcana.Generation.Lease
import ManchesterArcana.Generation.Reservations

/-!
# `Generation.Budget` — budgets are not over-committed

What is outstanding in a scope is the sum over its reservations. A job is admitted when the sum with its request is within
the allowance; every other call only lowers the sum. So after every run it is within the allowance that the last
admission in the scope was made under.
-/

namespace ManchesterArcana.Generation

open Effect Store

/-! ## Sums over a scope -/

/-- The sum of an amount over the reservations of a scope, in one dimension. -/
def GenerationStore.sumOf (s : GenerationStore) (amount : GenerationBudgetReservationDocument → Nat)
    (campaignId : String) (turnScopeKey : Option String) (dimension : GenerationBudgetDimension) : Nat :=
  (s.reservations.map fun d =>
    if d.isInScope campaignId turnScopeKey = true ∧ d.dimension = dimension then amount d else 0).sum

/-- What is outstanding: the committed amounts of the reservations that are not overspent. -/
def GenerationStore.outstandingIn (s : GenerationStore) (campaignId : String) (turnScopeKey : Option String)
    (dimension : GenerationBudgetDimension) : Nat :=
  s.sumOf (·.outstanding) campaignId turnScopeKey dimension

/-- What the admission counts: all committed amounts. -/
def GenerationStore.committedIn (s : GenerationStore) (campaignId : String) (turnScopeKey : Option String)
    (dimension : GenerationBudgetDimension) : Nat :=
  s.sumOf (·.committed) campaignId turnScopeKey dimension

section Sums

variable {s t : GenerationStore} {campaignId : String} {turnScopeKey : Option String}
  {dimension : GenerationBudgetDimension}

theorem outstandingIn_le_committedIn :
    s.outstandingIn campaignId turnScopeKey dimension ≤ s.committedIn campaignId turnScopeKey dimension := by
  refine List.sum_le_sum fun d _ => ?_
  split
  · show (if d.overage = true then 0 else d.committed) ≤ d.committed
    split
    · exact Nat.zero_le _
    · exact le_rfl
  · exact le_rfl

theorem sumOf_congr {amount : GenerationBudgetReservationDocument → Nat} (h : t.reservations = s.reservations) :
    t.sumOf amount campaignId turnScopeKey dimension = s.sumOf amount campaignId turnScopeKey dimension := by
  unfold GenerationStore.sumOf
  rw [h]

/-- **A change of reservations does not raise what is outstanding.** -/
theorem GenerationStore.IsChargedTo.outstandingIn_le (h : s.IsChargedTo t) (hs : ∀ d ∈ s.reservations, d.IsSound) :
    t.outstandingIn campaignId turnScopeKey dimension ≤ s.outstandingIn campaignId turnScopeKey dimension := by
  obtain ⟨f, ht, hf⟩ := h
  unfold GenerationStore.outstandingIn GenerationStore.sumOf
  rw [ht, List.map_map]
  refine List.sum_le_sum fun d hd => ?_
  have hcharges := hf d hd
  rw [Function.comp_apply]
  unfold GenerationBudgetReservationDocument.isInScope
  rw [hcharges.campaignId, hcharges.turnScopeKey, hcharges.dimension]
  split
  · exact hcharges.outstanding (hs d hd)
  · exact le_rfl

theorem GenerationStore.IsChargedTo.sound (h : s.IsChargedTo t) (hs : ∀ d ∈ s.reservations, d.IsSound) :
    ∀ d ∈ t.reservations, d.IsSound := by
  obtain ⟨f, ht, hf⟩ := h
  rw [ht]
  intro d hd
  obtain ⟨x, hx, rfl⟩ := List.mem_map.mp hd
  exact (hf x hx).sound (hs x hx)

end Sums

/-! ## What the admission reads -/

section Totals

variable {s : GenerationStore} {campaignId : String} {turnScopeKey : Option String}
  {dimension : GenerationBudgetDimension} {documents : List GenerationBudgetReservationDocument}

theorem saturatingAdd_min (a b : Nat) :
    saturatingAdd (min a (2 ^ 64 - 1)) b = min (a + b) (2 ^ 64 - 1) := by
  unfold saturatingAdd
  omega

/-- The sum of the committed amounts of one dimension. -/
def dimensionSum (dimension : GenerationBudgetDimension) (documents : List GenerationBudgetReservationDocument) : Nat :=
  (documents.map fun d => if d.dimension = dimension then d.committed else 0).sum

variable {t current addition : GenerationBudgetTotals} {n : Nat} {limits : GenerationBudgetAllowance}
  {digests : Digests} {g : NewGenerationGovernanceReceipt}

theorem value_add {d : GenerationBudgetReservationDocument}
    (hdimension : dimension ∈ budgetDimensions) (ht : t.value dimension = min n (2 ^ 64 - 1)) :
    (t.add d).value dimension = min (n + if d.dimension = dimension then d.committed else 0) (2 ^ 64 - 1) := by
  by_cases hd : d.dimension = dimension
  · rw [if_pos hd, ← saturatingAdd_min, ← ht]
    subst hd
    unfold GenerationBudgetTotals.add
    split <;> next heq =>
      rw [heq] at hdimension ⊢
      first | rfl | exact absurd hdimension (by decide)
  · rw [if_neg hd, Nat.add_zero, ← ht]
    unfold GenerationBudgetTotals.add
    split <;> next heq =>
      have hne := heq ▸ hd
      cases dimension <;> first | rfl | exact absurd rfl hne

/-- **The totals are the sums**, as far as their numbers go. -/
theorem foldl_value (hdimension : dimension ∈ budgetDimensions)
    (ht : t.value dimension = min n (2 ^ 64 - 1)) :
    (documents.foldl GenerationBudgetTotals.add t).value dimension =
      min (n + dimensionSum dimension documents) (2 ^ 64 - 1) := by
  induction documents generalizing t n with
  | nil => exact ht
  | cons d rest ih =>
    rw [List.foldl_cons, ih (value_add hdimension ht)]
    unfold dimensionSum
    rw [List.map_cons, List.sum_cons, Nat.add_assoc]

theorem dimensionSum_filter {p : GenerationBudgetReservationDocument → Bool} :
    dimensionSum dimension (s.reservations.filter p) =
      (s.reservations.map fun d => if p d = true ∧ d.dimension = dimension then d.committed else 0).sum := by
  induction s.reservations with
  | nil => rfl
  | cons d rest ih =>
    rw [List.map_cons, List.sum_cons, ← ih]
    by_cases hp : p d = true
    · rw [List.filter_cons_of_pos hp]
      unfold dimensionSum
      rw [List.map_cons, List.sum_cons]
      simp only [hp, true_and]
    · rw [List.filter_cons_of_neg hp, if_neg fun h => hp h.1, Nat.zero_add]

/-- The totals that are loaded are the committed amounts of the scope. -/
theorem loadTotals_value (hdimension : dimension ∈ budgetDimensions) :
    (s.loadTotals campaignId turnScopeKey).value dimension =
      min (s.committedIn campaignId turnScopeKey dimension) (2 ^ 64 - 1) := by
  have hzero : GenerationBudgetTotals.zero.value dimension = min 0 (2 ^ 64 - 1) := by cases dimension <;> rfl
  unfold GenerationStore.loadTotals totalsFromDocuments
  rw [foldl_value hdimension hzero, Nat.zero_add]
  congr 1
  have hperm := List.perm_insertionSort byDimension (s.reservations.filter fun d =>
    (d.state = .reserved ∨ d.state = .settled) && d.isInScope campaignId turnScopeKey)
  refine ((hperm.map _).sum_eq).trans (dimensionSum_filter.trans ?_)
  unfold GenerationStore.committedIn GenerationStore.sumOf
  refine congrArg List.sum (List.map_congr_left fun d _ => ?_)
  -- a released reservation commits nothing
  cases hstate : d.state with
  | reserved => simp only [true_or, decide_true, Bool.true_and]
  | settled => simp only [or_true, decide_true, Bool.true_and]
  | released =>
    have hcommitted : d.committed = 0 := by
      unfold GenerationBudgetReservationDocument.committed
      rw [hstate]
    simp only [hcommitted, ite_self]

theorem exceedsIn_none
    {dimensions : List GenerationBudgetDimension} (h : exceedsIn current addition limits dimensions = .ok none) :
    ∀ d ∈ dimensions, current.value d + addition.value d ≤ limits.value d := by
  induction dimensions with
  | nil => exact fun d hd => nomatch hd
  | cons d rest ih =>
    unfold exceedsIn at h
    obtain ⟨total, htotal, h⟩ := bind_eq_ok.mp h
    unfold checkedAdd at htotal
    obtain ⟨-, htotal⟩ := seq_eq_ok.mp htotal
    cases htotal
    split at h
    · cases h
    · next hle => exact List.forall_mem_cons.mpr ⟨Nat.le_of_not_lt hle, ih h⟩

theorem checkScope_eq_ok {scope : GenerationBudgetScope} (h : checkScope scope current addition limits = .ok ()) :
    ∀ d ∈ budgetDimensions, current.value d + addition.value d ≤ limits.value d := by
  unfold checkScope at h
  obtain ⟨exceeded, hexceeded, h⟩ := bind_eq_ok.mp h
  split at h
  · cases h
  · exact exceedsIn_none hexceeded

/-- The allowance of a scope. -/
def GenerationGovernanceConfig.allowance (limits : GenerationGovernanceConfig) :
    Option String → GenerationBudgetAllowance
  | none => limits.campaign
  | some _ => limits.turn

theorem validateNewGovernance_limits
    (h : validateNewGovernance digests g = .ok ()) (turnScopeKey : Option String)
    (dimension : GenerationBudgetDimension) : (g.limits.allowance turnScopeKey).value dimension ≤ maxI64 := by
  unfold validateNewGovernance at h
  obtain ⟨-, h⟩ := seq_eq_ok.mp h
  obtain ⟨hrange, -⟩ := seq_eq_ok.mp h
  have hrange := rejectIf_eq_ok.mp hrange
  by_contra hlt
  rw [not_le] at hlt
  refine hrange ⟨_, ?_, hlt⟩
  cases turnScopeKey <;> cases dimension <;>
    first
    | exact absurd hlt (Nat.not_lt_zero _)
    | simp [GenerationGovernanceConfig.allowance, GenerationBudgetAllowance.value]

/-- **A request is admitted only if it fits in every dimension**, of the campaign and of its turn. -/
theorem preflight_fits
    (hvalid : validateNewGovernance digests g = .ok ())
    (h : preflightGenerationGovernance s campaignId g = .ok ()) (hscope : ∀ key ∈ turnScopeKey, key = g.turnScopeKey)
    (hdimension : dimension ∈ budgetDimensions) :
    s.committedIn campaignId turnScopeKey dimension + g.addition.value dimension ≤
      (g.limits.allowance turnScopeKey).value dimension := by
  unfold preflightGenerationGovernance at h
  obtain ⟨-, h⟩ := seq_eq_ok.mp h
  obtain ⟨hcampaign, hturn⟩ := seq_eq_ok.mp h
  have hlimit := validateNewGovernance_limits hvalid turnScopeKey dimension
  have hfits : (s.loadTotals campaignId turnScopeKey).value dimension + g.addition.value dimension ≤
      (g.limits.allowance turnScopeKey).value dimension := by
    cases turnScopeKey with
    | none => exact checkScope_eq_ok hcampaign dimension hdimension
    | some key =>
      obtain rfl := hscope key rfl
      exact checkScope_eq_ok hturn dimension hdimension
  rw [loadTotals_value hdimension] at hfits
  unfold maxI64 at hlimit
  omega

end Totals

/-! ## Admissions -/

section Admit

variable {now : DateTime} {digests : Digests} {requested : NewGenerationJob} {s t : GenerationStore}
  {g : NewGenerationGovernanceReceipt} {campaignId : String} {turnScopeKey : Option String}
  {dimension : GenerationBudgetDimension}

/-- The scope is one that the job is admitted in. -/
def NewGenerationJob.IsInScope (requested : NewGenerationJob) (g : NewGenerationGovernanceReceipt) (campaignId : String)
    (turnScopeKey : Option String) : Prop :=
  requested.campaignSessionId = campaignId ∧ ∀ key ∈ turnScopeKey, g.turnScopeKey = key

instance : Decidable (requested.IsInScope g campaignId turnScopeKey) := inferInstanceAs (Decidable (_ ∧ _))

theorem isInScope_reservation {d : GenerationBudgetDimension} :
    (requested.reservation g now d).isInScope campaignId turnScopeKey = true ↔
      requested.IsInScope g campaignId turnScopeKey :=
  decide_eq_true_iff

/-- What the new reservations add to a scope. -/
theorem sum_reservations (hdimension : dimension ∈ budgetDimensions) :
    ((budgetDimensions.map (requested.reservation g now)).map fun d =>
      if d.isInScope campaignId turnScopeKey = true ∧ d.dimension = dimension then d.outstanding else 0).sum =
      if requested.IsInScope g campaignId turnScopeKey then g.addition.value dimension else 0 := by
  have houtstanding : ∀ d, (requested.reservation g now d).outstanding = g.addition.value d := by
    intro d
    show max (g.addition.value d) 0 = _
    exact max_eq_left (Nat.zero_le _)
  have hof : ∀ d, (requested.reservation g now d).dimension = d := fun _ => rfl
  rw [List.map_map]
  simp only [budgetDimensions, List.map_cons, List.map_nil, Function.comp_apply, houtstanding, hof,
    isInScope_reservation, List.sum_cons, List.sum_nil]
  by_cases hscope : requested.IsInScope g campaignId turnScopeKey
  · simp only [hscope, true_and, if_true]
    cases dimension with
    | concurrency => exact absurd hdimension (by decide)
    | requests => simp only [if_true, reduceCtorEq, if_false, Nat.add_zero]
    | tokens => simp only [if_true, reduceCtorEq, if_false, Nat.add_zero, Nat.zero_add]
    | latency => simp only [if_true, reduceCtorEq, if_false, Nat.add_zero, Nat.zero_add]
    | cost => simp only [if_true, reduceCtorEq, if_false, Nat.add_zero, Nat.zero_add]
  · simp only [hscope, false_and, if_false, Nat.add_zero]

theorem Admission.outstandingIn (h : Admission now digests requested s t) (hg : requested.governance = some g)
    (hdimension : dimension ∈ budgetDimensions) : t.outstandingIn campaignId turnScopeKey dimension =
      s.outstandingIn campaignId turnScopeKey dimension +
        if requested.IsInScope g campaignId turnScopeKey then g.addition.value dimension else 0 := by
  unfold GenerationStore.outstandingIn GenerationStore.sumOf
  rw [h.reservations]
  unfold NewGenerationJob.reservations
  rw [hg, List.map_append, List.sum_append]
  exact congrArg _ (sum_reservations hdimension)

theorem Admission.outstandingIn_of_none (h : Admission now digests requested s t) (hg : requested.governance = none) :
    t.outstandingIn campaignId turnScopeKey dimension = s.outstandingIn campaignId turnScopeKey dimension := by
  refine sumOf_congr ?_
  rw [h.reservations]
  unfold NewGenerationJob.reservations
  rw [hg]
  exact List.append_nil _

/-- **An admitted job fits**, with all that is committed in its scopes. -/
theorem Admission.fits (h : Admission now digests requested s t) (hg : requested.governance = some g)
    (hscope : requested.IsInScope g campaignId turnScopeKey) (hdimension : dimension ∈ budgetDimensions) :
    s.committedIn campaignId turnScopeKey dimension + g.addition.value dimension ≤
      (g.limits.allowance turnScopeKey).value dimension := by
  have hvalid := h.governance
  have hbudget := h.budget
  unfold checkBudget at hbudget
  rw [hg] at hvalid hbudget
  obtain ⟨rfl, hkey⟩ := hscope
  exact preflight_fits hvalid hbudget (fun key hmem => (hkey key hmem).symm) hdimension

theorem Admission.sound (h : Admission now digests requested s t) (hs : ∀ d ∈ s.reservations, d.IsSound) :
    ∀ d ∈ t.reservations, d.IsSound := by
  rw [h.reservations]
  intro d hd
  rcases List.mem_append.mp hd with hd | hd
  · exact hs d hd
  · unfold NewGenerationJob.reservations at hd
    split at hd
    · obtain ⟨dimension, -, rfl⟩ := List.mem_map.mp hd
      exact fun _ => Nat.zero_le _
    · cases hd

end Admit

/-! ## Every run -/

/-- The queue, and for every scope the allowance that the last admission in it was made under. -/
structure GovernedState where
  queue : QueueState
  inForce : String → Option String → Option GenerationBudgetAllowance

/-- The budget of the job that a call admits. -/
def QueueEvent.admits (digests : Digests) (event : QueueEvent) (s : GenerationStore) :
    Option (NewGenerationJob × NewGenerationGovernanceReceipt) :=
  match event with
  | .call (.enqueue requested) now =>
    match (enqueueGenerationJob now digests requested s).1 with
    | .ok (.enqueued _) => requested.governance.map (requested, ·)
    | _ => none
  | _ => none

/-- A step of the queue, after which an admission sets what is in force in the scopes of its job. -/
def GovernedState.Step (digests : Digests) (q : GovernedState) (event : QueueEvent) (q' : GovernedState) : Prop :=
  q.queue.Step digests event q'.queue ∧
    q'.inForce = fun campaignId turnScopeKey =>
      match event.admits digests q.queue.store with
      | some (requested, g) =>
        if requested.IsInScope g campaignId turnScopeKey then some (g.limits.allowance turnScopeKey)
        else q.inForce campaignId turnScopeKey
      | none => q.inForce campaignId turnScopeKey

/-- **No scope is over-committed.** -/
structure GovernedState.IsWithinBudget (q : GovernedState) : Prop where
  unique : (q.queue.store.reservations.map (·.id)).Nodup
  sound : ∀ d ∈ q.queue.store.reservations, d.IsSound
  within : ∀ (campaignId : String) (turnScopeKey : Option String), ∀ dimension ∈ budgetDimensions,
    q.queue.store.outstandingIn campaignId turnScopeKey dimension ≤
      ((q.inForce campaignId turnScopeKey).map (·.value dimension)).getD 0

section Runs

variable {digests : Digests} {q q' : GovernedState} {event : QueueEvent}

/-- **What a call does to the outstanding sums**: it does not raise them, or it admits a job that fits. -/
theorem QueueState.Step.charges {p p' : QueueState} (h : p.Step digests event p')
    (hunique : (p.store.reservations.map (·.id)).Nodup) :
    (p.store.IsChargedTo p'.store ∧ event.admits digests p.store = none) ∨
      ∃ requested now, event = .call (.enqueue requested) now ∧ Admission now digests requested p.store p'.store ∧
        event.admits digests p.store = requested.governance.map (requested, ·) := by
  cases event with
  | elsewhere => exact .inl ⟨.of_eq h.2.1, rfl⟩
  | call op now =>
    obtain ⟨-, rfl⟩ := h
    cases op with
    | enqueue requested =>
      have hcases := enqueueGenerationJob_cases now digests requested p.store
      unfold QueueEvent.admits
      show (p.store.IsChargedTo (enqueueGenerationJob now digests requested p.store).2 ∧ _) ∨
        ∃ requested' now', _ ∧ Admission now' digests requested' p.store (enqueueGenerationJob now digests requested p.store).2 ∧ _
      dsimp only
      generalize enqueueGenerationJob now digests requested p.store = r at hcases
      cases hcases with
      | admitted t hadmission => exact .inr ⟨requested, now, rfl, hadmission, rfl⟩
      | refused a t hanswer hjobs hbooks =>
        refine .inl ⟨.of_eq hbooks.1, ?_⟩
        dsimp only
        split
        · next job => exact absurd rfl (hanswer job)
        · rfl
    | claim => exact .inl ⟨(Operation.run_books hunique (fun _ h => by cases h)).reservations, rfl⟩
    | heartbeat => exact .inl ⟨(Operation.run_books hunique (fun _ h => by cases h)).reservations, rfl⟩
    | succeed => exact .inl ⟨(Operation.run_books hunique (fun _ h => by cases h)).reservations, rfl⟩
    | fail => exact .inl ⟨(Operation.run_books hunique (fun _ h => by cases h)).reservations, rfl⟩
    | cancel => exact .inl ⟨(Operation.run_books hunique (fun _ h => by cases h)).reservations, rfl⟩

/-- **Every step keeps every scope within its budget.** -/
theorem GovernedState.IsWithinBudget.step (hq : q.IsWithinBudget) (h : q.Step digests event q') :
    q'.IsWithinBudget := by
  obtain ⟨hstep, hinForce⟩ := h
  rcases hstep.charges hq.unique with ⟨hcharged, hnone⟩ | ⟨requested, now, -, hadmission, hadmits⟩
  · refine ⟨hcharged.unique hq.unique, hcharged.sound hq.sound, fun campaignId turnScopeKey dimension hdimension => ?_⟩
    rw [hinForce]
    dsimp only
    rw [hnone]
    exact (hcharged.outstandingIn_le hq.sound).trans (hq.within campaignId turnScopeKey dimension hdimension)
  · refine ⟨hadmission.unique hq.unique, hadmission.sound hq.sound,
      fun campaignId turnScopeKey dimension hdimension => ?_⟩
    rw [hinForce]
    dsimp only
    rw [hadmits]
    cases hg : requested.governance with
    | none =>
      rw [hadmission.outstandingIn_of_none hg]
      exact hq.within campaignId turnScopeKey dimension hdimension
    | some g =>
      rw [hadmission.outstandingIn hg hdimension]
      show _ ≤ (((if requested.IsInScope g campaignId turnScopeKey then some (g.limits.allowance turnScopeKey)
        else q.inForce campaignId turnScopeKey)).map (·.value dimension)).getD 0
      by_cases hscope : requested.IsInScope g campaignId turnScopeKey
      · rw [if_pos hscope, if_pos hscope]
        exact (Nat.add_le_add_right outstandingIn_le_committedIn _).trans (hadmission.fits hg hscope hdimension)
      · rw [if_neg hscope, if_neg hscope, Nat.add_zero]
        exact hq.within campaignId turnScopeKey dimension hdimension

/-- **Budgets are not over-committed.** After every run, what is outstanding in a scope is within the allowance in force
there; a job is admitted only if its whole request fits in every dimension; and no other call raises the sum. -/
theorem budgets_not_overcommitted (digests : Digests) {q q' : GovernedState} {events : List QueueEvent}
    (hstart : q.queue.store.reservations = []) (hrun : Run (GovernedState.Step digests) q events q') :
    (∀ (campaignId : String) (turnScopeKey : Option String), ∀ dimension ∈ budgetDimensions,
        q'.queue.store.outstandingIn campaignId turnScopeKey dimension ≤
          ((q'.inForce campaignId turnScopeKey).map (·.value dimension)).getD 0) ∧
      ∀ (event : QueueEvent) (next : GovernedState), q'.Step digests event next →
        match event.admits digests q'.queue.store with
        | some (requested, g) => ∀ (campaignId : String) (turnScopeKey : Option String),
          requested.IsInScope g campaignId turnScopeKey → ∀ dimension ∈ budgetDimensions,
            q'.queue.store.committedIn campaignId turnScopeKey dimension + g.addition.value dimension ≤
              (g.limits.allowance turnScopeKey).value dimension
        | none => ∀ (campaignId : String) (turnScopeKey : Option String), ∀ dimension ∈ budgetDimensions,
          next.queue.store.outstandingIn campaignId turnScopeKey dimension ≤
            q'.queue.store.outstandingIn campaignId turnScopeKey dimension := by
  have hstart : q.IsWithinBudget := by
    refine ⟨?_, ?_, fun campaignId turnScopeKey dimension _ => ?_⟩
    · rw [hstart]
      exact List.nodup_nil
    · rw [hstart]
      intro d hd
      cases hd
    · unfold GenerationStore.outstandingIn GenerationStore.sumOf
      rw [hstart]
      exact Nat.zero_le _
  have hbudget : q'.IsWithinBudget := hrun.invariant (fun _ _ _ (hq : GovernedState.IsWithinBudget _) h => hq.step h) hstart
  refine ⟨hbudget.within, fun event next hstep => ?_⟩
  rcases hstep.1.charges hbudget.unique with ⟨hcharged, hnone⟩ | ⟨requested, now, -, hadmission, hadmits⟩
  · rw [hnone]
    exact fun campaignId turnScopeKey dimension _ => hcharged.outstandingIn_le hbudget.sound
  · rw [hadmits]
    cases hg : requested.governance with
    | none => exact fun campaignId turnScopeKey dimension _ => (hadmission.outstandingIn_of_none hg).le
    | some g => exact fun campaignId turnScopeKey hscope dimension hdimension => hadmission.fits hg hscope hdimension

end Runs

/-! ## A story -/

/-- A campaign allows ten requests and a thousand tokens, and a turn a part of them. -/
def smallLimits : GenerationGovernanceConfig := ⟨⟨10, 1000, 60000, 500⟩, ⟨2, 400, 30000, 100⟩, 2, 10⟩

def smallBudget : NewGenerationGovernanceReceipt where
  turnScopeKey := "turn-scope-1"
  requestFingerprint := "request"
  policyFingerprint := "policy"
  configFingerprint := "config"
  governanceFingerprint := "governance"
  reservedRequests := 1
  reservedTokens := 300
  reservedLatencyMilliseconds := 20000
  reservedCostMicrousd := 50
  limits := smallLimits

/-- The request of the story, with a budget. -/
def budgetedRequest : NewGenerationJob := { intentRequest with governance := some smallBudget }

/-- The queue after the request has been admitted. -/
def budgetedState : GovernedState where
  queue := ⟨0, ((Operation.enqueue budgetedRequest).run 0 plainDigests emptyQueue.store).2⟩
  inForce := fun campaignId turnScopeKey =>
    match (QueueEvent.call (.enqueue budgetedRequest) 0).admits plainDigests emptyQueue.store with
    | some (requested, g) =>
      if requested.IsInScope g campaignId turnScopeKey then some (g.limits.allowance turnScopeKey) else none
    | none => none

/-- Of the tokens that the turn allows, those that the request has reserved are outstanding. -/
theorem budgets_not_overcommitted_small :
    budgetedState.queue.store.outstandingIn "campaign-1" (some "turn-scope-1") .tokens = 300 ∧
      budgetedState.queue.store.outstandingIn "campaign-1" (some "turn-scope-1") .tokens ≤ 400 := by
  have hrun : Run (GovernedState.Step plainDigests) ⟨emptyQueue, fun _ _ => none⟩ [.call (.enqueue budgetedRequest) 0]
      budgetedState := .cons ⟨⟨le_rfl, rfl⟩, rfl⟩ (.nil _)
  have hinForce : ((budgetedState.inForce "campaign-1" (some "turn-scope-1")).map (·.value .tokens)).getD 0 = 400 := by
    decide
  refine ⟨by decide, ?_⟩
  rw [← hinForce]
  exact (budgets_not_overcommitted plainDigests rfl hrun).1 "campaign-1" (some "turn-scope-1") .tokens (by decide)

end ManchesterArcana.Generation
