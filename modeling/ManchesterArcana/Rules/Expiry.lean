import Mathlib.Data.List.Perm.Basic
import ManchesterArcana.Effect.Run
import ManchesterArcana.Rules.Durations

/-!
# `Rules.Expiry` — when a condition runs out

A duration counts down at the boundary it names: the start or the end of one creature's turns. Magical sleep
counts down at the end of the sleeper's turns, and ends at once when the sleeper is damaged or woken. Here this
is said without the processing loop: `CountsAt`, `RousedBy` and `ExpiresAt` describe one condition and one event,
and `processDurations` is shown to sort a valid set by them. Along a run of events a condition is found in the
set, counted down, as long as none of them has roused it and fewer boundaries than its count have come by; so a
count of `n` ends at the `n`-th of its boundaries, whatever comes between.
-/

namespace ManchesterArcana.Rules

open Effect

/-! ## One condition and one event -/

namespace EffectDuration

/-- The boundary at which a duration counts down. -/
def boundary : EffectDuration → Option (String × TurnBoundary)
  | .permanent => none
  | .rounds _ boundary actorId => some (actorId, boundary)
  | .untilDamagedOrAwakened _ actorId => some (actorId, .end)

/-- How often it still does. -/
def remaining : EffectDuration → Option Nat
  | .permanent => none
  | .rounds remaining _ _ => some remaining
  | .untilDamagedOrAwakened remainingRounds _ => some remainingRounds

/-- One less. -/
def countDown : EffectDuration → EffectDuration
  | .permanent => .permanent
  | .rounds remaining boundary actorId => .rounds (remaining - 1) boundary actorId
  | .untilDamagedOrAwakened remainingRounds actorId => .untilDamagedOrAwakened (remainingRounds - 1) actorId

@[simp] theorem countDown_boundary (d : EffectDuration) : d.countDown.boundary = d.boundary := by
  cases d <;> rfl

@[simp] theorem countDown_remaining (d : EffectDuration) : d.countDown.remaining = d.remaining.map (· - 1) := by
  cases d <;> rfl

end EffectDuration

/-- A boundary between turns, as opposed to something that happens to a creature. -/
def DurationEvent.IsBoundary : DurationEvent → Prop
  | .turnBoundary _ _ => True
  | _ => False

namespace ActiveCondition

/-- The event is the boundary that the condition counts. -/
def CountsAt (c : ActiveCondition) : DurationEvent → Prop
  | .turnBoundary actorId boundary => c.duration.boundary = some (actorId, boundary)
  | _ => False

instance (c : ActiveCondition) (event : DurationEvent) : Decidable (c.CountsAt event) := by
  unfold CountsAt
  cases event <;> infer_instance

/-- The event rouses the bearer out of magical sleep. -/
def RousedBy (c : ActiveCondition) : DurationEvent → Prop
  | .turnBoundary _ _ => False
  | .damaged actorId | .awakenedByAction actorId =>
    ∃ remainingRounds, c.duration = .untilDamagedOrAwakened remainingRounds actorId

/-- The condition after the event. -/
def aged (c : ActiveCondition) (event : DurationEvent) : ActiveCondition :=
  if c.CountsAt event then { c with duration := c.duration.countDown } else c

/-- The event brings the count to zero, or rouses the bearer. -/
def ExpiresAt (c : ActiveCondition) (event : DurationEvent) : Prop :=
  c.CountsAt event ∧ (c.aged event).duration.remaining = some 0 ∨ c.RousedBy event

variable {c : ActiveCondition} {event : DurationEvent}

theorem not_rousedBy_of_isBoundary (h : event.IsBoundary) : ¬ c.RousedBy event := by
  cases event with
  | turnBoundary actorId boundary => exact id
  | damaged actorId => exact h.elim
  | awakenedByAction actorId => exact h.elim

/-- Only what has a count counts. -/
theorem remaining_of_countsAt (h : c.CountsAt event) : ∃ n, c.duration.remaining = some n := by
  cases event with
  | turnBoundary actorId boundary =>
    unfold CountsAt at h
    cases hd : c.duration with
    | permanent =>
      rw [hd] at h
      cases h
    | rounds n b a => exact ⟨n, rfl⟩
    | untilDamagedOrAwakened n a => exact ⟨n, rfl⟩
  | damaged actorId => exact h.elim
  | awakenedByAction actorId => exact h.elim

variable {n : Nat}

/-- **A valid condition has something left to count.** -/
theorem remaining_pos (hc : c.validate = .ok ()) (hn : c.duration.remaining = some n) : 0 < n := by
  have hduration := (validate_eq_ok.mp hc).2
  unfold DurationValid at hduration
  cases hd : c.duration with
  | permanent =>
    rw [hd] at hn
    cases hn
  | rounds remaining boundary actorId =>
    rw [hd] at hn hduration
    obtain rfl := Option.some.inj hn
    exact Nat.pos_of_ne_zero hduration.1.1
  | untilDamagedOrAwakened remaining actorId =>
    rw [hd] at hn hduration
    obtain rfl := Option.some.inj hn
    exact Nat.pos_of_ne_zero hduration.1.1

/-- The loop's own account of an event is `aged` and `ExpiresAt`. -/
theorem tick_eq (c : ActiveCondition) (event : DurationEvent) :
    (c.tick event).1 = c.aged event ∧ ((c.tick event).2 = true ↔ c.ExpiresAt event) := by
  obtain ⟨condition, source, duration⟩ := c
  cases event with
  | turnBoundary actor boundary =>
    cases duration with
    | permanent => exact ⟨by simp [tick, aged, CountsAt, EffectDuration.boundary], by
        simp [tick, ExpiresAt, CountsAt, RousedBy, EffectDuration.boundary]⟩
    | rounds n b a =>
      by_cases h : a = actor ∧ b = boundary
      · simp [tick, aged, ExpiresAt, CountsAt, RousedBy, EffectDuration.boundary, EffectDuration.countDown,
          EffectDuration.remaining, h]
      · simp [tick, aged, ExpiresAt, CountsAt, RousedBy, EffectDuration.boundary, h]
    | untilDamagedOrAwakened n a =>
      by_cases h : boundary = .end ∧ a = actor
      · simp [tick, aged, ExpiresAt, CountsAt, RousedBy, EffectDuration.boundary, EffectDuration.countDown,
          EffectDuration.remaining, h]
      · have h' : ¬ (a = actor ∧ TurnBoundary.end = boundary) := fun x => h ⟨x.2.symm, x.1⟩
        simp [tick, aged, ExpiresAt, CountsAt, RousedBy, EffectDuration.boundary, h, h']
  | damaged actor =>
    cases duration <;> simp [tick, aged, ExpiresAt, CountsAt, RousedBy]
  | awakenedByAction actor =>
    cases duration <;> simp [tick, aged, ExpiresAt, CountsAt, RousedBy]

/-- A condition that counts has one less to count. -/
theorem aged_remaining (h : c.CountsAt event) (hn : c.duration.remaining = some n) :
    (c.aged event).duration.remaining = some (n - 1) := by
  unfold aged
  rw [if_pos h]
  show c.duration.countDown.remaining = _
  rw [EffectDuration.countDown_remaining, hn]
  rfl

theorem aged_of_not_countsAt (h : ¬ c.CountsAt event) : c.aged event = c := if_neg h

theorem aged_identity (c : ActiveCondition) (event : DurationEvent) :
    ConditionSet.identity (c.aged event) = ConditionSet.identity c := by
  rw [← (tick_eq c event).1]
  exact c.tick_identity event

/-- What a condition counts, and what rouses its bearer, stay the same. -/
theorem aged_countsAt (e : DurationEvent) : (c.aged event).CountsAt e ↔ c.CountsAt e := by
  unfold aged
  split
  · cases e with
    | turnBoundary a b =>
      show c.duration.countDown.boundary = _ ↔ _
      rw [EffectDuration.countDown_boundary]
      exact Iff.rfl
    | damaged a => exact Iff.rfl
    | awakenedByAction a => exact Iff.rfl
  · exact Iff.rfl

theorem countDown_eq_until {d : EffectDuration} {actorId : String} :
    (∃ n, d.countDown = .untilDamagedOrAwakened n actorId) ↔ ∃ n, d = .untilDamagedOrAwakened n actorId := by
  cases d <;> simp [EffectDuration.countDown]

theorem aged_rousedBy (e : DurationEvent) : (c.aged event).RousedBy e ↔ c.RousedBy e := by
  unfold aged
  split
  · cases e with
    | turnBoundary a b => exact Iff.rfl
    | damaged a => exact countDown_eq_until
    | awakenedByAction a => exact countDown_eq_until
  · exact Iff.rfl

end ActiveCondition

/-! ## One event and a set -/

/-- **An event sorts a set in two**: what it ends and what goes on, each in the order it was in, and each condition
    of the set exactly once in one of them. -/
structure Processes (s : ConditionSet) (event : DurationEvent) (expired : List ActiveCondition) (s' : ConditionSet) :
    Prop where
  all : (expired ++ s'.active).Perm (s.active.map (·.aged event))
  expired_iff : ∀ c, c ∈ expired ↔ ∃ c₀ ∈ s.active, c₀.ExpiresAt event ∧ c₀.aged event = c
  retained_iff : ∀ c, c ∈ s'.active ↔ ∃ c₀ ∈ s.active, ¬ c₀.ExpiresAt event ∧ c₀.aged event = c
  expired_order : expired.Sublist (s.active.map (·.aged event))
  retained_order : s'.active.Sublist (s.active.map (·.aged event))

section Loop

variable {s s' : ConditionSet} {event : DurationEvent} {resolution : DurationResolution}

/-- Filtering the ticks of a list keeps the order of what they make of it. -/
theorem ticks_sublist (cs : List ActiveCondition) (event : DurationEvent) (p : ActiveCondition × Bool → Bool) :
    (((cs.map (·.tick event)).filter p).map (·.1)).Sublist (cs.map (·.aged event)) := by
  have hticks : cs.map (·.aged event) = (cs.map (·.tick event)).map (·.1) := by
    rw [List.map_map]
    exact List.map_congr_left fun c _ => (c.tick_eq event).1.symm
  rw [hticks]
  exact List.filter_sublist.map _

theorem mem_ticks {cs : List ActiveCondition} {p : ActiveCondition × Bool → Bool} {c : ActiveCondition} :
    c ∈ ((cs.map (·.tick event)).filter p).map (·.1) ↔
      ∃ c₀ ∈ cs, p (c₀.tick event) = true ∧ c₀.aged event = c := by
  simp only [List.mem_map, List.mem_filter]
  constructor
  · rintro ⟨_, ⟨⟨c₀, hc₀, rfl⟩, hp⟩, rfl⟩
    exact ⟨c₀, hc₀, hp, ((c₀.tick_eq event).1).symm⟩
  · rintro ⟨c₀, hc₀, hp, rfl⟩
    exact ⟨_, ⟨⟨c₀, hc₀, rfl⟩, hp⟩, (c₀.tick_eq event).1⟩

/-- **What the loop does to a valid set.** -/
theorem processDurations_processes (hv : s.Valid) (hactor : isValidOpaqueId event.actorId = true) :
    ∃ expired s', processDurations s event = .ok (⟨expired⟩, s') ∧ s'.Valid ∧ Processes s event expired s' := by
  refine ⟨((s.active.map (·.tick event)).filter (·.2)).map (·.1), s.ticked event, ?ok, hv.ticked event, ?sorted⟩
  case ok =>
    have hid : requireId event.actorId "duration event actor ID is invalid" = .ok () := requireId_eq_ok.mpr hactor
    unfold processDurations
    rw [leaving_of_eq_ok (ConditionSet.validate_eq_ok.mpr hv), ok_bind, leaving_of_eq_ok hid, ok_bind]
    dsimp only
    rw [leaving_of_eq_ok (ConditionSet.validate_eq_ok.mpr (hv.ticked event)), ok_bind]
    rfl
  case sorted =>
    refine ⟨?_, fun c => ?_, fun c => ?_, ticks_sublist _ _ _, ticks_sublist _ _ _⟩
    · have hticks : s.active.map (·.aged event) = (s.active.map (·.tick event)).map (·.1) := by
        rw [List.map_map]
        exact List.map_congr_left fun c _ => (c.tick_eq event).1.symm
      rw [hticks]
      unfold ConditionSet.ticked
      rw [← List.map_append]
      exact (List.filter_append_perm (fun x : ActiveCondition × Bool => x.2) _).map _
    · rw [mem_ticks]
      exact exists_congr fun c₀ => and_congr_right fun _ => and_congr_left fun _ => (c₀.tick_eq event).2
    · unfold ConditionSet.ticked
      rw [mem_ticks]
      refine exists_congr fun c₀ => and_congr_right fun _ => and_congr_left fun _ => ?_
      rw [Bool.not_eq_true', ← Bool.not_eq_true]
      exact not_congr (c₀.tick_eq event).2

/-- Anything else is refused at the entry, with the set as it was. -/
theorem processDurations_refused (h : ¬ (s.Valid ∧ isValidOpaqueId event.actorId = true)) :
    ∃ e, processDurations s event = .error (e, s) := by
  unfold processDurations
  cases hs : s.validate with
  | error e => exact ⟨e, rfl⟩
  | ok u =>
    cases hid : requireId event.actorId "duration event actor ID is invalid" with
    | error e => exact ⟨e, rfl⟩
    | ok u' => exact absurd ⟨ConditionSet.validate_eq_ok.mp hs, requireId_eq_ok.mp hid⟩ h

end Loop

/-! ## Runs of events -/

/-- One event is processed. -/
def Elapses (s : ConditionSet) (event : DurationEvent) (s' : ConditionSet) : Prop :=
  ∃ resolution, processDurations s event = .ok (resolution, s')

variable {s s' : ConditionSet} {events : List DurationEvent} {event : DurationEvent}

variable {resolution : DurationResolution} {c : ActiveCondition}

/-- What one processed event does, from any set: only a valid one is processed. -/
theorem Elapses.processes
    (h : processDurations s event = .ok (resolution, s')) :
    s.Valid ∧ s'.Valid ∧ Processes s event resolution.expired s' := by
  by_cases hentry : s.Valid ∧ isValidOpaqueId event.actorId = true
  · obtain ⟨expired, s₁, hok, hvalid, hp⟩ := processDurations_processes hentry.1 hentry.2
    rw [hok] at h
    cases h
    exact ⟨hentry.1, hvalid, hp⟩
  · obtain ⟨e, he⟩ := processDurations_refused hentry
    rw [he] at h
    cases h

namespace ActiveCondition

/-- The condition after a run of events. -/
def agedBy (c : ActiveCondition) (events : List DurationEvent) : ActiveCondition := events.foldl aged c

/-- None of the events rouses the bearer, and there are fewer of its boundaries than it counts. -/
def Lasts (c : ActiveCondition) (events : List DurationEvent) : Prop :=
  (∀ event ∈ events, ¬ c.RousedBy event) ∧
    ∀ n, c.duration.remaining = some n → events.countP (fun e => decide (c.CountsAt e)) < n

variable {c : ActiveCondition}

theorem agedBy_identity (c : ActiveCondition) (events : List DurationEvent) :
    ConditionSet.identity (c.agedBy events) = ConditionSet.identity c := by
  induction events generalizing c with
  | nil => rfl
  | cons event events ih => exact (ih (c.aged event)).trans (c.aged_identity event)

/-- It counts the same boundaries after an event as before. -/
theorem countP_aged (c : ActiveCondition) (event : DurationEvent) (events : List DurationEvent) :
    events.countP (fun e => decide ((c.aged event).CountsAt e)) = events.countP fun e => decide (c.CountsAt e) :=
  List.countP_congr fun e _ => by
    rw [decide_eq_true_iff, decide_eq_true_iff]
    exact aged_countsAt e

theorem lasts_nil (hc : c.validate = .ok ()) : c.Lasts [] :=
  ⟨fun _ h => absurd h List.not_mem_nil, fun _ hn => remaining_pos hc hn⟩

variable {events : List DurationEvent}

/-- **Lasting through one event more**: past the first, and through the rest from there. -/
theorem lasts_cons {event : DurationEvent} (hc : c.validate = .ok ()) :
    c.Lasts (event :: events) ↔ ¬ c.ExpiresAt event ∧ (c.aged event).Lasts events := by
  have hroused : (∀ e ∈ event :: events, ¬ c.RousedBy e) ↔
      ¬ c.RousedBy event ∧ ∀ e ∈ events, ¬ (c.aged event).RousedBy e := by
    rw [List.forall_mem_cons]
    exact and_congr_right fun _ => forall₂_congr fun e _ => not_congr (aged_rousedBy e).symm
  unfold Lasts ExpiresAt
  rw [hroused, countP_aged, not_or, List.countP_cons]
  by_cases hat : c.CountsAt event
  · -- the event counts: one boundary less to come, and one less to count
    obtain ⟨n, hn⟩ := remaining_of_countsAt hat
    have hpos := remaining_pos hc hn
    rw [aged_remaining hat hn, hn]
    simp only [hat, decide_true, if_true, true_and, Option.some.injEq, forall_eq']
    constructor
    · rintro ⟨⟨hr, hrest⟩, hlt⟩
      exact ⟨⟨by omega, hr⟩, hrest, by omega⟩
    · rintro ⟨⟨hne, hr⟩, hrest, hlt⟩
      exact ⟨⟨hr, hrest⟩, by omega⟩
  · rw [aged_of_not_countsAt hat]
    simp only [hat, decide_false, Bool.false_eq_true, if_false, false_and, not_false_eq_true, true_and, Nat.add_zero,
      and_assoc]

/-- What a condition counts down to. -/
theorem agedBy_remaining {n : Nat} (hn : c.duration.remaining = some n) :
    (c.agedBy events).duration.remaining = some (n - events.countP fun e => decide (c.CountsAt e)) := by
  induction events generalizing c n with
  | nil => exact hn
  | cons event events ih =>
    rw [List.countP_cons]
    show ((c.aged event).agedBy events).duration.remaining = _
    by_cases hat : c.CountsAt event
    · rw [ih (aged_remaining hat hn), countP_aged]
      simp only [hat, decide_true, if_true]
      congr 1
      omega
    · have haged := aged_of_not_countsAt hat
      rw [haged, ih hn]
      simp only [hat, decide_false, Bool.false_eq_true, if_false, Nat.add_zero]

theorem agedBy_countsAt (e : DurationEvent) :
    (c.agedBy events).CountsAt e ↔ c.CountsAt e := by
  induction events generalizing c with
  | nil => exact Iff.rfl
  | cons event events ih => exact (ih (c := c.aged event)).trans (aged_countsAt e)

end ActiveCondition

/-- **After a run of events a set holds exactly the conditions that last through it**, counted down. -/
theorem run_elapses_mem (hv : s.Valid)
    (h : Run Elapses s events s') (c : ActiveCondition) :
    c ∈ s'.active ↔ ∃ c₀ ∈ s.active, c₀.Lasts events ∧ c₀.agedBy events = c := by
  induction h generalizing c with
  | nil s =>
    constructor
    · intro hc
      exact ⟨c, hc, ActiveCondition.lasts_nil (hv.conditions c hc), rfl⟩
    · rintro ⟨c₀, hc₀, -, rfl⟩
      exact hc₀
  | @cons s s₁ s₂ event events hstep _ ih =>
    obtain ⟨resolution, hok⟩ := hstep
    obtain ⟨-, hv₁, hp⟩ := Elapses.processes hok
    rw [ih hv₁]
    constructor
    · rintro ⟨c₁, hc₁, hlasts, rfl⟩
      obtain ⟨c₀, hc₀, hgoes, rfl⟩ := (hp.retained_iff c₁).mp hc₁
      exact ⟨c₀, hc₀, (ActiveCondition.lasts_cons (hv.conditions c₀ hc₀)).mpr ⟨hgoes, hlasts⟩, rfl⟩
    · rintro ⟨c₀, hc₀, hlasts, rfl⟩
      obtain ⟨hgoes, hrest⟩ := (ActiveCondition.lasts_cons (hv.conditions c₀ hc₀)).mp hlasts
      exact ⟨c₀.aged event, (hp.retained_iff _).mpr ⟨c₀, hc₀, hgoes, rfl⟩, hrest, rfl⟩

/-- A valid set goes through every run of events of valid actors. -/
theorem exists_run_elapses (hv : s.Valid)
    (hactors : ∀ event ∈ events, isValidOpaqueId event.actorId = true) :
    ∃ s', Run Elapses s events s' ∧ s'.Valid := by
  induction events generalizing s with
  | nil => exact ⟨s, .nil s, hv⟩
  | cons event events ih =>
    obtain ⟨hactor, hrest⟩ := List.forall_mem_cons.mp hactors
    obtain ⟨expired, s₁, hok, hv₁, -⟩ := processDurations_processes hv hactor
    obtain ⟨s', hrun, hv'⟩ := ih hv₁ hrest
    exact ⟨s', .cons ⟨_, hok⟩ hrun, hv'⟩

/-- **Which step ends a condition**: the first that rouses its bearer, or that is the last of its boundaries. -/
theorem run_elapses_expires {s'' : ConditionSet} (hv : s.Valid) (h : Run Elapses s events s')
    (hstep : processDurations s' event = .ok (resolution, s'')) (hc : c ∈ s.active) :
    (∃ c' ∈ resolution.expired, ConditionSet.identity c' = ConditionSet.identity c) ↔
      c.Lasts events ∧ (c.agedBy events).ExpiresAt event := by
  obtain ⟨-, -, hp⟩ := Elapses.processes hstep
  constructor
  · rintro ⟨c', hc', hid⟩
    obtain ⟨c₁, hc₁, hexpires, rfl⟩ := (hp.expired_iff c').mp hc'
    obtain ⟨c₀, hc₀, hlasts, rfl⟩ := (run_elapses_mem hv h c₁).mp hc₁
    -- the set holds one condition of an identity, so this one is `c`
    rw [ActiveCondition.aged_identity, ActiveCondition.agedBy_identity] at hid
    obtain rfl := List.inj_on_of_nodup_map hv.identities_nodup hc₀ hc hid
    exact ⟨hlasts, hexpires⟩
  · rintro ⟨hlasts, hexpires⟩
    have hmem := (run_elapses_mem hv h _).mpr ⟨c, hc, hlasts, rfl⟩
    refine ⟨_, (hp.expired_iff _).mpr ⟨_, hmem, hexpires, rfl⟩, ?_⟩
    rw [ActiveCondition.aged_identity, ActiveCondition.agedBy_identity]

/-- Along boundaries a count of `n` ends at the `n`-th of its own. -/
theorem ActiveCondition.expires_iff_nth {n : Nat} (hn : c.duration.remaining = some n)
    (hevents : ∀ e ∈ events, e.IsBoundary)
    (hevent : event.IsBoundary) :
    c.Lasts events ∧ (c.agedBy events).ExpiresAt event ↔
      c.CountsAt event ∧ events.countP (fun e => decide (c.CountsAt e)) + 1 = n := by
  have hroused : ∀ e ∈ events, ¬ c.RousedBy e := fun e he => not_rousedBy_of_isBoundary (hevents e he)
  have hremaining : (c.agedBy events).duration.remaining = some (n - events.countP fun e => decide (c.CountsAt e)) :=
    agedBy_remaining hn
  unfold Lasts ExpiresAt
  rw [or_iff_left (not_rousedBy_of_isBoundary hevent)]
  constructor
  · rintro ⟨⟨-, hlt⟩, hat, hzero⟩
    rw [aged_remaining hat hremaining, Option.some.injEq] at hzero
    have hlt' := hlt n hn
    exact ⟨(agedBy_countsAt event).mp hat, by omega⟩
  · rintro ⟨hat, hcount⟩
    have hat' : (c.agedBy events).CountsAt event := (agedBy_countsAt event).mpr hat
    refine ⟨⟨hroused, fun m hm => ?_⟩, hat', ?_⟩
    · rw [hn] at hm
      obtain rfl := Option.some.inj hm
      omega
    · rw [aged_remaining hat' hremaining, Option.some.injEq]
      omega

/-- **Durations are processed as they are written.** A valid set is sorted by the event into what ends and what goes
    on, and what counts has something left to count; anything else is refused, with the set as it was. And along
    any run of boundaries a condition that counts `n` ends at the `n`-th of its own, neither sooner nor later. -/
theorem processDurations_law (s : ConditionSet) (event : DurationEvent) :
    (¬ (s.Valid ∧ isValidOpaqueId event.actorId = true) → ∃ e, processDurations s event = .error (e, s)) ∧
    (s.Valid → isValidOpaqueId event.actorId = true →
      (∃ expired s', processDurations s event = .ok (⟨expired⟩, s') ∧ s'.Valid ∧ Processes s event expired s') ∧
      ∀ c ∈ s.active, c.CountsAt event →
        ∃ n, c.duration.remaining = some (n + 1) ∧ (c.aged event).duration.remaining = some n) ∧
    (s.Valid → ∀ c ∈ s.active, ∀ n, c.duration.remaining = some n →
      ∀ events : List DurationEvent, (∀ e ∈ events, e.IsBoundary ∧ isValidOpaqueId e.actorId = true) →
        (∃ s', Run Elapses s events s') ∧
        ∀ s', Run Elapses s events s' → ∀ boundary : DurationEvent, boundary.IsBoundary →
          isValidOpaqueId boundary.actorId = true →
          ∃ resolution s'', processDurations s' boundary = .ok (resolution, s'') ∧
            ((∃ c' ∈ resolution.expired, ConditionSet.identity c' = ConditionSet.identity c) ↔
              c.CountsAt boundary ∧ events.countP (fun e => decide (c.CountsAt e)) + 1 = n)) := by
  refine ⟨processDurations_refused, fun hv hactor => ⟨processDurations_processes hv hactor, ?counts⟩, ?run⟩
  case counts =>
    intro c hc hat
    obtain ⟨n, hn⟩ := ActiveCondition.remaining_of_countsAt hat
    have hpos := ActiveCondition.remaining_pos (hv.conditions c hc) hn
    obtain ⟨m, rfl⟩ := Nat.exists_eq_succ_of_ne_zero (Nat.ne_of_gt hpos)
    exact ⟨m, hn, ActiveCondition.aged_remaining hat hn⟩
  case run =>
    intro hv c hc n hn events hevents
    obtain ⟨s₁, hrun₁, -⟩ := exists_run_elapses hv fun e he => (hevents e he).2
    refine ⟨⟨s₁, hrun₁⟩, fun s' hrun boundary hboundary hactor => ?_⟩
    have hv' : s'.Valid :=
      hrun.invariant (I := ConditionSet.Valid) (fun a e b _ hstep => (Elapses.processes hstep.choose_spec).2.1) hv
    obtain ⟨expired, s'', hok, -, -⟩ := processDurations_processes hv' hactor
    refine ⟨_, s'', hok, ?_⟩
    rw [run_elapses_expires hv hrun hok hc]
    exact ActiveCondition.expires_iff_nth hn (fun e he => (hevents e he).1) hboundary

end ManchesterArcana.Rules
