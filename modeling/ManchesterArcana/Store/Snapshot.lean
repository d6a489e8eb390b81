import ManchesterArcana.Effect.Run

/-!
# `Store.Snapshot` — snapshot-isolated transactions

A transaction reads one snapshot of the store and decides on it alone what it writes. Any number of them run
at once. A commit goes through unless a document that it writes was written since its snapshot; what it only
read may have changed meanwhile.

The store is any type `σ`, its documents are told apart by keys `κ`, and `agree k s s'` says that two stores
have the same document under `k`. A proof about the database is a proof about one transaction on two stores,
its snapshot and the store that it is committed on: `Isolated` lists what has to be shown of them, and
`Isolated.sound` and `Isolated.history` conclude about whole runs.
-/

namespace ManchesterArcana.Store

open Effect

variable {σ κ ι ε ρ : Type}

/-- What a transaction decides on its snapshot: the documents it writes, what becomes of the store, and its
    answer. -/
structure Decision (σ κ ρ : Type) where
  writes : List κ
  apply : σ → σ
  answer : ρ

/-- A transaction under way, with its snapshot and the number of commits there were by then. -/
structure Underway (ι σ : Type) where
  job : ι
  snapshot : σ
  started : Nat

/-- The store, the number of the commit that wrote each document last, and the transactions under way. -/
structure Database (σ κ ι : Type) where
  store : σ
  written : κ → Nat
  commits : Nat
  running : List (Underway ι σ)

/-- A store that no transaction is at work on. -/
def Database.quiet (s : σ) : Database σ κ ι := ⟨s, fun _ => 0, 0, []⟩

/-- A commit: the job, the snapshot that it was decided on and the store that it was made on. -/
structure Committed (ι σ : Type) where
  job : ι
  snapshot : σ
  before : σ

inductive Event (ι σ : Type) where
  | begin (job : ι)
  | commit (committed : Committed ι σ)
  | abort (job : ι)

/-- The commit that an event is. -/
def Event.committed : Event ι σ → Option (Committed ι σ)
  | .commit committed => some committed
  | _ => none

/-- The commits of a run, in order. -/
def commitsOf (events : List (Event ι σ)) : List (Committed ι σ) := events.filterMap Event.committed

/-- **One step of the database.** -/
inductive Database.Step [DecidableEq κ] (body : ι → σ → Except ε (Decision σ κ ρ)) :
    Database σ κ ι → Event ι σ → Database σ κ ι → Prop where
  | begin (db : Database σ κ ι) (job : ι) :
      Step body db (.begin job) { db with running := db.running ++ [⟨job, db.store, db.commits⟩] }
  | commit {db : Database σ κ ι} {earlier later : List (Underway ι σ)} {t : Underway ι σ} {d : Decision σ κ ρ} :
      db.running = earlier ++ t :: later → body t.job t.snapshot = .ok d →
      (∀ k ∈ d.writes, db.written k ≤ t.started) →
      Step body db (.commit ⟨t.job, t.snapshot, db.store⟩)
        { store := d.apply db.store
          written := fun k => if k ∈ d.writes then db.commits + 1 else db.written k
          commits := db.commits + 1
          running := earlier ++ later }
  | abort {db : Database σ κ ι} {earlier later : List (Underway ι σ)} {t : Underway ι σ} :
      db.running = earlier ++ t :: later →
      Step body db (.abort t.job) { db with running := earlier ++ later }

/-- **What is to be shown of a transaction**, for an invariant `inv` and an order `later` in which the store
    grows. `admits` says which commits are considered. -/
structure Isolated (body : ι → σ → Except ε (Decision σ κ ρ)) (agree : κ → σ → σ → Prop)
    (admits : Committed ι σ → Prop) (inv : σ → Prop) (later : σ → σ → Prop) : Prop where
  agree_refl : ∀ k s, agree k s s
  agree_trans : ∀ k {s s' s''}, agree k s s' → agree k s' s'' → agree k s s''
  framed : ∀ {job s d}, body job s = .ok d → ∀ k ∉ d.writes, ∀ s', agree k s' (d.apply s')
  later_refl : ∀ s, later s s
  later_trans : ∀ {s s' s''}, later s s' → later s' s'' → later s s''
  commit : ∀ {job s s' d}, inv s → inv s' → later s s' → admits ⟨job, s, s'⟩ → body job s = .ok d →
    (∀ k ∈ d.writes, agree k s s') → inv (d.apply s') ∧ later s' (d.apply s')

/-- What is shown for all commits is shown for some. -/
theorem Isolated.admitting {body : ι → σ → Except ε (Decision σ κ ρ)} {agree : κ → σ → σ → Prop}
    {admits admits' : Committed ι σ → Prop} {inv : σ → Prop} {later : σ → σ → Prop}
    (iso : Isolated body agree admits inv later) (h : ∀ c, admits' c → admits c) :
    Isolated body agree admits' inv later :=
  { iso with commit := fun hinv hinv' hlater hadmits => iso.commit hinv hinv' hlater (h _ hadmits) }

/-- Every event of a run that commits, commits as `admits` says. -/
def Admitted (admits : Committed ι σ → Prop) (events : List (Event ι σ)) : Prop :=
  ∀ c ∈ commitsOf events, admits c

section Runs

variable [DecidableEq κ] {body : ι → σ → Except ε (Decision σ κ ρ)} {agree : κ → σ → σ → Prop}
  {admits : Committed ι σ → Prop} {inv : σ → Prop} {later : σ → σ → Prop}

/-- What holds of the database at any time: every transaction under way has a snapshot that was sound, and
    the documents that were not written since are those of the store. -/
structure Sound (agree : κ → σ → σ → Prop) (inv : σ → Prop) (later : σ → σ → Prop) (db : Database σ κ ι) :
    Prop where
  store : inv db.store
  snapshot : ∀ t ∈ db.running, inv t.snapshot ∧ later t.snapshot db.store ∧ t.started ≤ db.commits ∧
    ∀ k, db.written k ≤ t.started → agree k t.snapshot db.store

omit [DecidableEq κ] in
theorem sound_quiet {s : σ} (h : inv s) :
    Sound agree inv later (Database.quiet s : Database σ κ ι) := ⟨h, fun _ ht => by cases ht⟩

/-- **One step keeps the database sound.** -/
theorem Sound.step (iso : Isolated body agree admits inv later) {db db' : Database σ κ ι} {e : Event ι σ}
    (h : Sound agree inv later db) (hstep : Database.Step body db e db')
    (hadmits : ∀ c ∈ e.committed, admits c) : Sound agree inv later db' := by
  cases hstep with
  | begin job =>
    refine ⟨h.store, fun t ht => ?_⟩
    rcases List.mem_append.mp ht with hold | hnew
    · exact h.snapshot t hold
    · obtain rfl := List.mem_singleton.mp hnew
      exact ⟨h.store, iso.later_refl _, Nat.le_refl _, fun k _ => iso.agree_refl k _⟩
  | @commit earlier later' t d hrunning hbody hwritten =>
    have ht : t ∈ db.running := by
      rw [hrunning]
      exact List.mem_append_right _ List.mem_cons_self
    obtain ⟨hsnap, hlater, -, hagree⟩ := h.snapshot t ht
    obtain ⟨hinv, hgrows⟩ := iso.commit hsnap h.store hlater (hadmits _ rfl) hbody
      fun k hk => hagree k (hwritten k hk)
    refine ⟨hinv, fun u hu => ?_⟩
    have hmem : u ∈ db.running := by
      rw [hrunning]
      rcases List.mem_append.mp hu with hu | hu
      · exact List.mem_append_left _ hu
      · exact List.mem_append_right _ (List.mem_cons_of_mem _ hu)
    obtain ⟨husnap, hulater, hstarted, huagree⟩ := h.snapshot u hmem
    refine ⟨husnap, iso.later_trans hulater hgrows, Nat.le_succ_of_le hstarted, fun k hk => ?_⟩
    simp only at hk
    split at hk
    · omega
    · next hnot => exact iso.agree_trans k (huagree k hk) (iso.framed hbody k hnot _)
  | @abort earlier later' t hrunning =>
    refine ⟨h.store, fun u hu => h.snapshot u ?_⟩
    rw [hrunning]
    rcases List.mem_append.mp hu with hu | hu
    · exact List.mem_append_left _ hu
    · exact List.mem_append_right _ (List.mem_cons_of_mem _ hu)

theorem commitsOf_cons (e : Event ι σ) (events : List (Event ι σ)) :
    commitsOf (e :: events) = e.committed.toList ++ commitsOf events := by
  unfold commitsOf
  cases h : e.committed with
  | none => rw [List.filterMap_cons_none h]; rfl
  | some c => rw [List.filterMap_cons_some h]; rfl

theorem Admitted.cons {e : Event ι σ} {events : List (Event ι σ)} (h : Admitted admits (e :: events)) :
    (∀ c ∈ e.committed, admits c) ∧ Admitted admits events := by
  unfold Admitted at h
  rw [commitsOf_cons] at h
  constructor
  · intro c hc
    exact h c (List.mem_append_left _ (Option.mem_toList.mpr hc))
  · exact fun c hc => h c (List.mem_append_right _ hc)

theorem Admitted.snoc {e : Event ι σ} {events : List (Event ι σ)} (h : Admitted admits (events ++ [e])) :
    Admitted admits events ∧ ∀ c ∈ e.committed, admits c := by
  unfold Admitted at h
  have hcommits : commitsOf (events ++ [e]) = commitsOf events ++ e.committed.toList := by
    unfold commitsOf
    rw [List.filterMap_append]
    cases e <;> rfl
  rw [hcommits] at h
  constructor
  · exact fun c hc => h c (List.mem_append_left _ hc)
  · intro c hc
    exact h c (List.mem_append_right _ (Option.mem_toList.mpr hc))

/-- **Every run keeps the invariant**, and every store on the way is earlier. -/
theorem Isolated.sound (iso : Isolated body agree admits inv later) {db db' : Database σ κ ι}
    {events : List (Event ι σ)} (hrun : Run (Database.Step body) db events db')
    (hadmits : Admitted admits events) (h : Sound agree inv later db) :
    Sound agree inv later db' ∧ later db.store db'.store := by
  induction hrun with
  | nil db => exact ⟨h, iso.later_refl _⟩
  | @cons db db₁ db₂ e events hstep _ ih =>
    obtain ⟨hfirst, hrest⟩ := hadmits.cons
    have h₁ := h.step iso hstep hfirst
    have hlater : later db.store db₁.store := by
      cases hstep with
      | begin job => exact iso.later_refl _
      | abort hrunning => exact iso.later_refl _
      | @commit earlier later' t d hrunning hbody hwritten =>
        have ht : t ∈ db.running := by
          rw [hrunning]
          exact List.mem_append_right _ List.mem_cons_self
        obtain ⟨hsnap, hl, -, hagree⟩ := h.snapshot t ht
        exact (iso.commit hsnap h.store hl (hfirst _ rfl) hbody fun k hk => hagree k (hwritten k hk)).2
    obtain ⟨h₂, hl₂⟩ := ih hrest h₁
    exact ⟨h₂, iso.later_trans hlater hl₂⟩

/-- **What every commit carries on, about the commits so far and the store, holds of the whole run.** -/
theorem Isolated.history (iso : Isolated body agree admits inv later)
    {J : List (Committed ι σ) → σ → Prop}
    (hcommit : ∀ {past job s s' d}, inv s → inv s' → later s s' → admits ⟨job, s, s'⟩ → body job s = .ok d →
      (∀ k ∈ d.writes, agree k s s') → J past s' → J (past ++ [⟨job, s, s'⟩]) (d.apply s'))
    {db db' : Database σ κ ι} {events : List (Event ι σ)} (hrun : Run (Database.Step body) db events db')
    (hadmits : Admitted admits events) (h : Sound agree inv later db) {past : List (Committed ι σ)}
    (hpast : J past db.store) : J (past ++ commitsOf events) db'.store := by
  induction hrun generalizing past with
  | nil db =>
    show J (past ++ []) db.store
    rw [List.append_nil]
    exact hpast
  | @cons db db₁ db₂ e events hstep _ ih =>
    obtain ⟨hfirst, hrest⟩ := hadmits.cons
    have h₁ := h.step iso hstep hfirst
    rw [commitsOf_cons, ← List.append_assoc]
    refine ih hrest h₁ ?_
    cases hstep with
    | begin job =>
      show J (past ++ []) db.store
      rw [List.append_nil]
      exact hpast
    | abort hrunning =>
      show J (past ++ []) db.store
      rw [List.append_nil]
      exact hpast
    | @commit earlier later' t d hrunning hbody hwritten =>
      have ht : t ∈ db.running := by
        rw [hrunning]
        exact List.mem_append_right _ List.mem_cons_self
      obtain ⟨hsnap, hl, -, hagree⟩ := h.snapshot t ht
      exact hcommit hsnap h.store hl (hfirst _ rfl) hbody (fun k hk => hagree k (hwritten k hk)) hpast

end Runs

/-! ## Runs that are always there -/

/-- No transaction is under way. -/
structure Idle (db : Database σ κ ι) : Prop where
  running : db.running = []
  written : ∀ k, db.written k ≤ db.commits

theorem idle_quiet (s : σ) : Idle (Database.quiet s : Database σ κ ι) := ⟨rfl, fun _ => Nat.le_refl _⟩

section Scripts

variable [DecidableEq κ] {body : ι → σ → Except ε (Decision σ κ ρ)}

/-- The first of the transactions under way commits. -/
theorem commit_first {s snapshot : σ} {written : κ → Nat} {commits started : Nat} {job : ι}
    {rest : List (Underway ι σ)} {d : Decision σ κ ρ} (hbody : body job snapshot = .ok d)
    (hwritten : ∀ k ∈ d.writes, written k ≤ started) :
    Database.Step body ⟨s, written, commits, ⟨job, snapshot, started⟩ :: rest⟩ (.commit ⟨job, snapshot, s⟩)
      ⟨d.apply s, fun k => if k ∈ d.writes then commits + 1 else written k, commits + 1, rest⟩ :=
  @Database.Step.commit _ _ _ _ _ _ body ⟨s, written, commits, ⟨job, snapshot, started⟩ :: rest⟩ [] rest
    ⟨job, snapshot, started⟩ d rfl hbody hwritten

/-- **A transaction on its own commits** as it decides. -/
theorem Idle.serial {db : Database σ κ ι} (h : Idle db) {job : ι} {d : Decision σ κ ρ}
    (hbody : body job db.store = .ok d) : ∃ db', Idle db' ∧ db'.store = d.apply db.store ∧
      Run (Database.Step body) db [.begin job, .commit ⟨job, db.store, db.store⟩] db' := by
  obtain ⟨s, written, commits, running⟩ := db
  obtain rfl : running = [] := h.running
  refine ⟨⟨d.apply s, fun k => if k ∈ d.writes then commits + 1 else written k, commits + 1, []⟩,
    ⟨rfl, fun k => ?_⟩, rfl, .cons (.begin _ job) (.cons (commit_first hbody fun k _ => h.written k) (.nil _))⟩
  have hle : written k ≤ commits := h.written k
  show (if k ∈ d.writes then commits + 1 else written k) ≤ commits + 1
  split <;> omega

/-- **Write skew**: two transactions on one snapshot that write different documents both commit. -/
theorem Idle.skew {db : Database σ κ ι} (h : Idle db) {job job' : ι} {d d' : Decision σ κ ρ}
    (hbody : body job db.store = .ok d) (hbody' : body job' db.store = .ok d')
    (hdisjoint : ∀ k ∈ d'.writes, k ∉ d.writes) :
    ∃ db', Idle db' ∧ db'.store = d'.apply (d.apply db.store) ∧
      Run (Database.Step body) db [.begin job, .begin job', .commit ⟨job, db.store, db.store⟩,
        .commit ⟨job', db.store, d.apply db.store⟩] db' := by
  obtain ⟨s, written, commits, running⟩ := db
  obtain rfl : running = [] := h.running
  have hlast : ∀ k ∈ d'.writes, (if k ∈ d.writes then commits + 1 else written k) ≤ commits := fun k hk => by
    rw [if_neg (hdisjoint k hk)]
    exact h.written k
  refine ⟨⟨d'.apply (d.apply s), fun k => if k ∈ d'.writes then commits + 1 + 1 else
      if k ∈ d.writes then commits + 1 else written k, commits + 1 + 1, []⟩,
    ⟨rfl, fun k => ?_⟩, rfl, .cons (.begin _ job) (.cons (.begin _ job') (.cons
      (commit_first hbody fun k _ => h.written k) (.cons (commit_first hbody' hlast) (.nil _))))⟩
  have hle : written k ≤ commits := h.written k
  show (if k ∈ d'.writes then commits + 1 + 1 else if k ∈ d.writes then commits + 1 else written k) ≤
    commits + 1 + 1
  split
  · omega
  · split <;> omega

end Scripts

end ManchesterArcana.Store
