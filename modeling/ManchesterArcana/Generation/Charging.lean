import Mathlib.Data.List.TakeWhile
import ManchesterArcana.Generation.Budget

/-!
# `Generation.Charging` — what attempts are charged

Every recorded attempt adds its usage to the reservations of its job, dimension by dimension; what it does not report
counts as all that was reserved. A request is counted by a look at the first reservation that was read, and they are
read in the order of their names: the first one is that of the cost. So the attempts of a job that reserves no cost are
not counted as requests (`free_attempts_uncounted`), and all else is charged (`every_attempt_charged_iff`).
-/

namespace ManchesterArcana.Generation

open Effect Store

/-! ## Charges -/

/-- One usage more: an amount that is not reported counts as all that was reserved. -/
def chargeOf (reserved spent : Nat) : Option Nat → Nat
  | some value => spent + value
  | none => max spent reserved

/-- What usages add up to. -/
def chargedFor (reserved : Nat) (usages : List (Option Nat)) : Nat := usages.foldl (chargeOf reserved) 0

/-- What is to be spent after attempts with these usages. -/
def NewGenerationGovernanceReceipt.expectedSpent (g : NewGenerationGovernanceReceipt) (usages : List GenerationUsage) :
    GenerationBudgetDimension → Nat
  | .requests => usages.length
  | .tokens => chargedFor g.reservedTokens (usages.map (·.totalTokens))
  | .latency => chargedFor g.reservedLatencyMilliseconds (usages.map (·.latencyMilliseconds))
  | .cost => chargedFor g.reservedCostMicrousd (usages.map (·.costMicrousd))
  | .concurrency => 0

/-- **Every attempt is charged**: each reservation of the job shows what is to be spent. -/
def EveryAttemptCharged (job : NewGenerationJob) (g : NewGenerationGovernanceReceipt) (usages : List GenerationUsage)
    (s : GenerationStore) : Prop :=
  ∀ d ∈ s.reservations, d.jobId = job.id → d.spentValue = g.expectedSpent usages d.dimension

/-- What is spent in fact: without a reserved cost, no request. -/
def NewGenerationGovernanceReceipt.actualSpent (g : NewGenerationGovernanceReceipt) (usages : List GenerationUsage) :
    GenerationBudgetDimension → Nat
  | .requests => if 0 < g.reservedCostMicrousd then usages.length else 0
  | dimension => g.expectedSpent usages dimension

theorem chargedFor_snoc (reserved : Nat) (usages : List (Option Nat)) (usage : Option Nat) :
    chargedFor reserved (usages ++ [usage]) = chargeOf reserved (chargedFor reserved usages) usage := by
  unfold chargedFor
  rw [List.foldl_append]
  rfl

variable {g : NewGenerationGovernanceReceipt} {usages : List GenerationUsage}

/-- The amount that an attempt is charged in a dimension. -/
theorem actualSpent_snoc {usage : GenerationUsage}
    {first : GenerationBudgetReservationDocument} (hfirst : first.reservedValue = g.reservedCostMicrousd)
    {dimension : GenerationBudgetDimension} (hdimension : dimension ∈ budgetDimensions) :
    g.actualSpent (usages ++ [usage]) dimension =
      chargeOf (g.addition.value dimension) (g.actualSpent usages dimension) (attemptIncrement first usage dimension) := by
  cases dimension with
  | requests =>
    unfold NewGenerationGovernanceReceipt.actualSpent attemptIncrement chargeOf
    simp only
    rw [hfirst, List.length_append, List.length_singleton]
    split <;> rfl
  | tokens => exact (congrArg _ List.map_append).trans (chargedFor_snoc _ _ _)
  | latency => exact (congrArg _ List.map_append).trans (chargedFor_snoc _ _ _)
  | cost => exact (congrArg _ List.map_append).trans (chargedFor_snoc _ _ _)
  | concurrency => exact absurd hdimension (by decide)

theorem charge_eq_ok {d : GenerationBudgetReservationDocument} {increment : Option Nat} {spent : Nat}
    (h : d.charge increment = .ok spent) : spent = chargeOf d.reservedValue d.spentValue increment := by
  unfold GenerationBudgetReservationDocument.charge at h
  cases increment with
  | none =>
    obtain ⟨-, h⟩ := seq_eq_ok.mp h
    exact (Except.ok.inj h).symm
  | some value =>
    obtain ⟨total, htotal, h⟩ := bind_eq_ok.mp h
    obtain ⟨-, htotal⟩ := seq_eq_ok.mp htotal
    obtain ⟨-, h⟩ := seq_eq_ok.mp h
    exact (Except.ok.inj h).symm.trans (Except.ok.inj htotal).symm

/-! ## The reservations of a job -/

/-- The dimensions in the order of their names. -/
def dimensionsByName : List GenerationBudgetDimension := [.cost, .latency, .requests, .tokens]

/-- **The books of a job**: its reservations in their order, and what they show. -/
structure Books (job : NewGenerationJob) (g : NewGenerationGovernanceReceipt) (usages : List GenerationUsage)
    (s : GenerationStore) : Prop where
  ids : (s.reservations.map (·.id)).Nodup
  dimensions : (s.loadReservations fun d => d.jobId = job.id).map (·.dimension) = dimensionsByName
  reserved : ∀ d ∈ s.reservations, d.jobId = job.id → d.reservedValue = g.addition.value d.dimension
  spent : ∀ d ∈ s.reservations, d.jobId = job.id → d.spentValue = g.actualSpent usages d.dimension

/-- An attempt that is recorded, and what happens in the store besides. -/
inductive Recording (jobId : String) : GenerationStore → Option GenerationUsage → GenerationStore → Prop where
  | recorded {s t : GenerationStore} {now : DateTime} {usage : GenerationUsage} {terminal : Bool} :
      recordGenerationAttemptUsage now jobId usage terminal s = (.ok (), t) → Recording jobId s (some usage) t
  /-- Other jobs are admitted, charged, settled and cleaned up. A reservation's id is its own at any time. -/
  | elsewhere {s t : GenerationStore} : (t.reservations.map (·.id)).Nodup →
      t.reservations.filter (·.jobId = jobId) = s.reservations.filter (·.jobId = jobId) → Recording jobId s none t

section Books

variable {job : NewGenerationJob} {g : NewGenerationGovernanceReceipt} {usages : List GenerationUsage}
  {usage : GenerationUsage} {s t : GenerationStore} {now : DateTime} {terminal : Bool}

variable {f : GenerationBudgetReservationDocument → GenerationBudgetReservationDocument}

/-- The order of reservations is that of what they are for. -/
theorem loadReservations_map {p : GenerationBudgetReservationDocument → Bool} (hp : ∀ x, p (f x) = p x)
    (hdimension : ∀ x, (f x).dimension = x.dimension) (ht : t.reservations = s.reservations.map f) :
    t.loadReservations p = (s.loadReservations p).map f := by
  have hfilter : (s.reservations.map f).filter p = (s.reservations.filter p).map f := by
    rw [List.filter_map]
    exact congrArg _ (List.filter_congr fun x _ => hp x)
  unfold GenerationStore.loadReservations
  rw [ht, hfilter]
  refine (List.map_insertionSort byDimension byDimension f _ fun a _ b _ => ?_).symm
  unfold byDimension
  rw [hdimension, hdimension]

/-- What is recorded of an amount that can be charged. -/
theorem recordOf_spentValue {increment : GenerationBudgetDimension → Option Nat} {d : GenerationBudgetReservationDocument}
    (h : d.isChargeable increment = true) : (recordOf now terminal increment d d).spentValue =
      chargeOf d.reservedValue d.spentValue (increment d.dimension) := by
  unfold GenerationBudgetReservationDocument.isChargeable at h
  unfold recordOf
  cases hcharge : d.charge (increment d.dimension) with
  | error e =>
    rw [hcharge] at h
    cases h
  | ok spent =>
    rw [← charge_eq_ok hcharge]
    unfold GenerationBudgetReservationDocument.record
    simp only
    split <;> rfl

/-- Charges that come to what is to be shown keep the books. -/
theorem Books.charged
    (h : Books job g usages s) (ht : t.reservations = s.reservations.map f) (hkeeps : ∀ x, Charges x (f x))
    (hspent : ∀ x ∈ s.reservations, x.jobId = job.id →
      (f x).spentValue = g.actualSpent (usages ++ [usage]) x.dimension) : Books job g (usages ++ [usage]) t := by
  refine ⟨?_, ?_, fun d hd hjob => ?_, fun d hd hjob => ?_⟩
  · have hids : t.reservations.map (·.id) = s.reservations.map (·.id) := by
      rw [ht, List.map_map]
      exact List.map_congr_left fun x _ => (hkeeps x).id
    rw [hids]
    exact h.ids
  · rw [loadReservations_map (fun x => by rw [(hkeeps x).jobId]) (fun x => (hkeeps x).dimension) ht, List.map_map]
    exact (List.map_congr_left fun x _ => (hkeeps x).dimension).trans h.dimensions
  · rw [ht] at hd
    obtain ⟨x, hx, rfl⟩ := List.mem_map.mp hd
    rw [(hkeeps x).jobId] at hjob
    rw [(hkeeps x).reservedValue, (hkeeps x).dimension]
    exact h.reserved x hx hjob
  · rw [ht] at hd
    obtain ⟨x, hx, rfl⟩ := List.mem_map.mp hd
    rw [(hkeeps x).jobId] at hjob
    rw [(hkeeps x).dimension]
    exact hspent x hx hjob

/-- **One attempt more.** -/
theorem Books.recorded (h : Books job g usages s)
    (hrecord : recordGenerationAttemptUsage now job.id usage terminal s = (.ok (), t)) :
    Books job g (usages ++ [usage]) t := by
  have hmem : ∀ {d}, d ∈ (s.loadReservations fun d => d.jobId = job.id) ↔ d ∈ s.reservations ∧ d.jobId = job.id := by
    intro d
    rw [mem_loadReservations, decide_eq_true_eq]
  have hdimensions := h.dimensions
  unfold recordGenerationAttemptUsage at hrecord
  split at hrecord
  · next hload =>
    rw [hload] at hdimensions
    cases hdimensions
  · next first rest hload =>
    split at hrecord
    · cases hrecord
    · next hopen =>
      simp only [not_exists, not_and, not_not] at hopen
      rw [← hload] at hopen hrecord
      -- The first reservation is that of the cost.
      have hfirst : first.reservedValue = g.reservedCostMicrousd := by
        have hfirst := hmem.mp (hload ▸ List.mem_cons_self : first ∈ _)
        rw [hload, List.map_cons] at hdimensions
        have hcost : first.dimension = .cost := (List.cons.inj hdimensions).1
        rw [h.reserved first hfirst.1 hfirst.2, hcost]
        rfl
      have hchargeable := recordDimensions_fst.mp (congrArg Prod.fst hrecord)
      have ht := recordDimensions_snd.symm.trans (congrArg Prod.snd hrecord)
      rw [List.takeWhile_eq_self_iff.mpr hchargeable, updateAll_eq (fun d x => recordOf_id d x)
        (loadReservations_nodup h.ids) (eq_of_mem_load h.ids fun d hd => hd)] at ht
      refine h.charged (congrArg GenerationStore.reservations ht).symm (fun x => ?_) fun x hx hjob => ?_
      · split
        · next hx => exact charges_recordOf hx.2
        · exact .refl x
      · have hloaded := hmem.mpr ⟨hx, hjob⟩
        have hdimension : x.dimension ∈ budgetDimensions := by
          have hname : x.dimension ∈ dimensionsByName := hdimensions ▸ List.mem_map_of_mem hloaded
          exact (by decide : ∀ dimension ∈ dimensionsByName, dimension ∈ budgetDimensions) _ hname
        rw [if_pos ⟨hloaded, hopen x hloaded⟩, recordOf_spentValue (hchargeable x hloaded),
          actualSpent_snoc hfirst hdimension, ← h.reserved x hx hjob, ← h.spent x hx hjob]

/-- What happens besides leaves the books alone. -/
theorem Books.elsewhere (h : Books job g usages s) (hids : (t.reservations.map (·.id)).Nodup)
    (hsame : t.reservations.filter (·.jobId = job.id) = s.reservations.filter (·.jobId = job.id)) :
    Books job g usages t := by
  have hmem : ∀ d ∈ t.reservations, d.jobId = job.id → d ∈ s.reservations := by
    intro d hd hjob
    have hfound : d ∈ t.reservations.filter (·.jobId = job.id) := List.mem_filter.mpr ⟨hd, decide_eq_true hjob⟩
    rw [hsame] at hfound
    exact (List.mem_filter.mp hfound).1
  refine ⟨hids, ?_, fun d hd hjob => h.reserved d (hmem d hd hjob) hjob,
    fun d hd hjob => h.spent d (hmem d hd hjob) hjob⟩
  have hdimensions := h.dimensions
  unfold GenerationStore.loadReservations at hdimensions ⊢
  rwa [hsame]

/-- **What is recorded over a run.** -/
theorem Books.run {events : List (Option GenerationUsage)} (h : Books job g usages s)
    (hrun : Run (Recording job.id) s events t) : Books job g (usages ++ events.filterMap id) t := by
  induction hrun generalizing usages with
  | nil s =>
    rw [List.filterMap_nil, List.append_nil]
    exact h
  | cons hstep _ ih =>
    cases hstep with
    | recorded hrecord =>
      have hnext := ih (h.recorded hrecord)
      rw [List.append_assoc] at hnext
      exact hnext
    | elsewhere hids hsame => exact ih (h.elsewhere hids hsame)

end Books

/-! ## Before the first attempt -/

/-- The reservations of a queue: an id is one reservation's, and a reservation is for one of the four dimensions. -/
structure GenerationStore.IsReserved (s : GenerationStore) : Prop where
  ids : (s.reservations.map (·.id)).Nodup
  dimensions : ∀ d ∈ s.reservations, d.dimension ∈ budgetDimensions

section Start

variable {now : DateTime} {digests : Digests} {requested : NewGenerationJob} {g : NewGenerationGovernanceReceipt}
  {s t : GenerationStore}

theorem mem_reservations (hg : requested.governance = some g) {d : GenerationBudgetReservationDocument} :
    d ∈ requested.reservations now ↔ ∃ dimension ∈ budgetDimensions, requested.reservation g now dimension = d := by
  unfold NewGenerationJob.reservations
  rw [hg]
  exact List.mem_map

theorem Admission.reserved (h : Admission now digests requested s t) (hs : s.IsReserved) : t.IsReserved := by
  refine ⟨h.unique hs.ids, fun d hd => ?_⟩
  rw [h.reservations] at hd
  rcases List.mem_append.mp hd with hd | hd
  · exact hs.dimensions d hd
  · cases hg : requested.governance with
    | none =>
      unfold NewGenerationJob.reservations at hd
      rw [hg] at hd
      cases hd
    | some g =>
      obtain ⟨dimension, hdimension, rfl⟩ := (mem_reservations hg).mp hd
      exact hdimension

theorem GenerationStore.IsChargedTo.reserved (h : s.IsChargedTo t) (hs : s.IsReserved) : t.IsReserved := by
  refine ⟨h.unique hs.ids, fun d hd => ?_⟩
  obtain ⟨f, ht, hf⟩ := h
  rw [ht] at hd
  obtain ⟨x, hx, rfl⟩ := List.mem_map.mp hd
  rw [(hf x hx).dimension]
  exact hs.dimensions x hx

/-- Every step of the queue keeps the reservations in order. -/
theorem QueueState.Step.reserved {q q' : QueueState} {event : QueueEvent} (h : q.Step digests event q')
    (hs : q.store.IsReserved) : q'.store.IsReserved := by
  rcases h.charges hs.ids with ⟨hcharged, -⟩ | ⟨_, _, -, hadmission, -⟩
  · exact hcharged.reserved hs
  · exact hadmission.reserved hs

/-- **An admitted job has its four reservations**, with nothing spent. -/
theorem Admission.books (h : Admission now digests requested s t) (hg : requested.governance = some g)
    (hs : s.IsReserved) : Books requested g [] t := by
  have hnew : ∀ d ∈ s.reservations, d.jobId ≠ requested.id := by
    intro d hd hjob
    have hadded : requested.reservation g now d.dimension ∈ requested.reservations now :=
      (mem_reservations hg).mpr ⟨d.dimension, hs.dimensions d hd, rfl⟩
    exact (h.fresh _ hadded d hd).2 ⟨hjob, rfl⟩
  have hown : ∀ d ∈ t.reservations, d.jobId = requested.id →
      ∃ dimension ∈ budgetDimensions, requested.reservation g now dimension = d := by
    intro d hd hjob
    rw [h.reservations] at hd
    rcases List.mem_append.mp hd with hd | hd
    · exact absurd hjob (hnew d hd)
    · exact (mem_reservations hg).mp hd
  refine ⟨h.unique hs.ids, ?_, fun d hd hjob => ?_, fun d hd hjob => ?_⟩
  · have hfilter : t.reservations.filter (fun d => d.jobId = requested.id) =
        budgetDimensions.map (requested.reservation g now) := by
      have hnone : s.reservations.filter (fun d => d.jobId = requested.id) = [] :=
        List.filter_eq_nil_iff.mpr fun d hd => by simpa using hnew d hd
      have hall : (requested.reservations now).filter (fun d => d.jobId = requested.id) =
          requested.reservations now := by
        refine List.filter_eq_self.mpr fun d hd => ?_
        obtain ⟨dimension, -, rfl⟩ := (mem_reservations hg).mp hd
        exact decide_eq_true rfl
      rw [h.reservations, List.filter_append, hnone, hall, List.nil_append]
      unfold NewGenerationJob.reservations
      rw [hg]
    unfold GenerationStore.loadReservations
    rw [hfilter, ← List.map_insertionSort (fun a b => a.asStr ≤ b.asStr) byDimension _ _ fun _ _ _ _ => Iff.rfl,
      List.map_map]
    exact (List.map_id _).trans (by decide)
  · obtain ⟨dimension, -, rfl⟩ := hown d hd hjob
    rfl
  · obtain ⟨dimension, -, rfl⟩ := hown d hd hjob
    unfold NewGenerationGovernanceReceipt.actualSpent NewGenerationGovernanceReceipt.expectedSpent
    cases dimension with
    | requests => exact (ite_self 0).symm
    | tokens => rfl
    | latency => rfl
    | cost => rfl
    | concurrency => rfl

end Start

variable {job : NewGenerationJob} {s : GenerationStore}

/-- The books of a job hold a reservation of its requests. -/
theorem Books.requests (h : Books job g usages s) :
    ∃ d ∈ s.reservations, d.jobId = job.id ∧ d.dimension = .requests := by
  have hname : GenerationBudgetDimension.requests ∈ dimensionsByName := by decide
  rw [← h.dimensions] at hname
  obtain ⟨d, hd, hdimension⟩ := List.mem_map.mp hname
  rw [mem_loadReservations, decide_eq_true_eq] at hd
  exact ⟨d, hd.1, hd.2, hdimension⟩

/-- Books show what is to be spent where the cost is reserved, or where nothing was recorded. -/
theorem Books.everyAttemptCharged_iff (h : Books job g usages s) :
    EveryAttemptCharged job g usages s ↔ 0 < g.reservedCostMicrousd ∨ usages = [] := by
  constructor
  · intro hcharged
    by_contra hfree
    obtain ⟨hfree, hsome⟩ := not_or.mp hfree
    obtain ⟨d, hd, hjob, hdimension⟩ := h.requests
    have hspent := h.spent d hd hjob
    rw [hcharged d hd hjob, hdimension] at hspent
    unfold NewGenerationGovernanceReceipt.actualSpent at hspent
    simp only at hspent
    rw [if_neg hfree] at hspent
    exact hsome (List.length_eq_zero_iff.mp hspent)
  · intro hcost d hd hjob
    rw [h.spent d hd hjob]
    unfold NewGenerationGovernanceReceipt.actualSpent
    split
    · next hdimension =>
      rw [hdimension]
      rcases hcost with hcost | rfl
      · exact if_pos hcost
      · exact ite_self 0
    · rfl

/-- **An attempt is counted as a request where the cost is reserved.** All attempts of an admitted job are charged in
every dimension if and only if its reserved cost is positive, or none was recorded. -/
theorem every_attempt_charged_iff (digests : Digests) {q q' : QueueState} {before : List QueueEvent}
    {requested : NewGenerationJob} {g : NewGenerationGovernanceReceipt} {now : DateTime} {job : GenerationJobDocument}
    {s t : GenerationStore} {events : List (Option GenerationUsage)} (hstart : q.store.reservations = [])
    (hbefore : Run (QueueState.Step digests) q before q') (hg : requested.governance = some g)
    (hadmitted : enqueueGenerationJob now digests requested q'.store = (.ok (.enqueued job), s))
    (hrun : Run (Recording requested.id) s events t) :
    EveryAttemptCharged requested g (events.filterMap id) t ↔
      0 < g.reservedCostMicrousd ∨ events.filterMap id = [] := by
  have hempty : q.store.IsReserved := by
    constructor
    · rw [hstart]
      exact List.nodup_nil
    · rw [hstart]
      intro d hd
      cases hd
  have hreserved : q'.store.IsReserved :=
    hbefore.invariant (fun _ _ _ (hs : GenerationStore.IsReserved _) h => QueueState.Step.reserved h hs) hempty
  have hcases := enqueueGenerationJob_cases now digests requested q'.store
  rw [hadmitted] at hcases
  cases hcases with
  | admitted _ hadmission => exact ((hadmission.books hg hreserved).run hrun).everyAttemptCharged_iff
  | refused _ _ hanswer => exact absurd rfl (hanswer job)

/-! ## A story -/

/-- One attempt, of a fifth of a second. -/
def shortUsage : GenerationUsage where
  promptTokens := some 40
  completionTokens := some 20
  totalTokens := some 60
  latencyMilliseconds := some 200
  costMicrousd := none

/-- The request with a budget of which one attempt is recorded. -/
theorem every_attempt_charged_iff_small :
    EveryAttemptCharged budgetedRequest smallBudget [shortUsage]
      (recordGenerationAttemptUsage 1 budgetedRequest.id shortUsage false budgetedState.queue.store).2 := by
  have hadmitted : enqueueGenerationJob 0 plainDigests budgetedRequest emptyQueue.store =
      (.ok (.enqueued (budgetedRequest.document 0 plainDigests)), budgetedState.queue.store) :=
    Prod.ext (by decide) rfl
  have hrecorded : (recordGenerationAttemptUsage 1 budgetedRequest.id shortUsage false budgetedState.queue.store).1 =
      .ok () := by decide
  exact (every_attempt_charged_iff plainDigests (q := emptyQueue) rfl (.nil _) rfl hadmitted
    (.cons (.recorded (Prod.ext hrecorded rfl)) (.nil _))).mpr (.inl (by decide))

/-- A budget for a model that is free of charge. -/
def freeBudget : NewGenerationGovernanceReceipt := { smallBudget with reservedCostMicrousd := 0 }

def freeRequest : NewGenerationJob := { intentRequest with governance := some freeBudget }

/-- **The attempts of a job that reserves no cost are not counted**: one was recorded, and no request is spent. -/
theorem free_attempts_uncounted :
    ∃ s t, enqueueGenerationJob 0 plainDigests freeRequest emptyQueue.store =
        (.ok (.enqueued (freeRequest.document 0 plainDigests)), s) ∧ 0 < freeBudget.reservedRequests ∧
      recordGenerationAttemptUsage 1 freeRequest.id shortUsage false s = (.ok (), t) ∧
      (∃ d ∈ t.reservations, d.jobId = freeRequest.id ∧ d.dimension = .requests ∧ d.spentValue = 0) ∧
      ¬ EveryAttemptCharged freeRequest freeBudget [shortUsage] t := by
  refine ⟨_, _, rfl, by decide, Prod.ext (by decide) rfl, by decide, fun hcharged => ?_⟩
  unfold EveryAttemptCharged at hcharged
  exact absurd hcharged (by decide)

end ManchesterArcana.Generation
