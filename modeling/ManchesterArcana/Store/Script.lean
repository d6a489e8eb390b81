import ManchesterArcana.Store.Snapshot

/-!
# `Store.Script` — runs that are computed

Jobs that are carried out one after the other need no database: what they leave can be computed from the transactions
alone (`inTurn`), and is what a run of the database leaves.
-/

namespace ManchesterArcana.Store

open Effect

variable {σ κ ι ε ρ : Type} [DecidableEq κ]

/-- The store after these jobs, one after the other, unless one of them fails. -/
def inTurn (body : ι → σ → Except ε (Decision σ κ ρ)) : List ι → σ → Option σ
  | [], s => some s
  | job :: jobs, s =>
    match body job s with
    | .ok d => inTurn body jobs (d.apply s)
    | .error _ => none

variable {body : ι → σ → Except ε (Decision σ κ ρ)}

/-- **Jobs in turn are a run**, in which each commits on its own snapshot, after those before it. -/
theorem Idle.inTurn {db : Database σ κ ι} (h : Idle db) {jobs : List ι} {t : σ}
    (hscript : Store.inTurn body jobs db.store = some t) : ∃ events, ∃ db' : Database σ κ ι, Idle db' ∧ db'.store = t ∧
      Run (Database.Step body) db events db' ∧ ∀ c ∈ commitsOf events, c.snapshot = c.before ∧
        ∃ n, jobs[n]? = some c.job ∧ Store.inTurn body (jobs.take n) db.store = some c.before := by
  induction jobs generalizing db with
  | nil => exact ⟨[], db, h, Option.some.inj hscript, .nil db, fun c hc => by cases hc⟩
  | cons job jobs ih =>
    unfold Store.inTurn at hscript
    split at hscript
    · next d hbody =>
      obtain ⟨db₁, hidle₁, hstore₁, hrun₁⟩ := h.serial hbody
      rw [← hstore₁] at hscript
      obtain ⟨events, db', hidle', hstore', hrun', hserial⟩ := ih hidle₁ hscript
      refine ⟨_, db', hidle', hstore', hrun₁.append hrun', fun c hc => ?_⟩
      rcases List.mem_cons.mp (show c ∈ _ :: commitsOf events from hc) with rfl | hc
      · exact ⟨rfl, 0, rfl, rfl⟩
      · obtain ⟨hsame, n, hjob, hbefore⟩ := hserial c hc
        refine ⟨hsame, n + 1, hjob, ?_⟩
        rw [List.take_succ_cons]
        unfold Store.inTurn
        rw [hbody]
        show Store.inTurn body (jobs.take n) (d.apply db.store) = some c.before
        rw [← hstore₁]
        exact hbefore
    · cases hscript

end ManchesterArcana.Store
