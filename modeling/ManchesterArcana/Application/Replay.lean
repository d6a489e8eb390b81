import ManchesterArcana.Application.Commit
import ManchesterArcana.Application.Dice
import ManchesterArcana.Encounter.Advertised

/-!
# `Application.Replay` — the stored events replay to the live encounter

A live encounter keeps the engine's state and the cursor of its dice in memory and only writes its events; it
never reads them back. `LiveStep` is one commit of it. Projecting the stored events of a live encounter gives
the live encounter back (`projection_replays`): the simulation invariant is `Mirrored`, one event at a time.
-/

namespace ManchesterArcana.Application

open Effect Encounter Repository Rules
open List (mem_cons mem_cons_self not_mem_nil)

/-! ## A live encounter -/

structure LiveEncounter where
  session : StoredDocument SessionDto
  events : List StoredEvent
  state : EncounterState
  latestOutcome : Option CommittedEncounterOutcomeDto
  cursor : Nat

namespace LiveEncounter

/-- The actions that a player has in the live state. -/
def actions (live : LiveEncounter) : List LegalEncounterAction :=
  match playerLegalActions live.state with
  | .ok actions => actions
  | .error _ => []

/-- The live encounter in the form in which a projection is. -/
def projected (live : LiveEncounter) : ProjectedEncounter where
  view :=
    { schemaVersion := encounterCommitSchemaVersion
      campaignSessionId := live.session.id
      campaignRevision := live.session.revision
      lastEventSequence := live.session.value.lastEventSequence
      state := live.state
      legalActions := live.actions
      latestOutcome := live.latestOutcome }
  nextCursor := live.cursor

end LiveEncounter

/-- A mutation, with the hero document, the time and the audit id that it is committed with. -/
structure LiveAction (H : Type) where
  mutation : EncounterMutation
  hero : Option (StoredDocument H)
  now : Nat
  auditId : String

variable {H τ δ : Type}

/-- **One accepted commit**, from the live state and cursor. -/
def LiveStep (app : ApplicationService H τ δ) (words : WordStream) (seedReference : String)
    (live : LiveEncounter) (a : LiveAction H) (live' : LiveEncounter) : Prop :=
  ∃ command origin prepared source,
    checkHeroBinding app.heroes a.hero live.state = .ok () ∧
    a.mutation.deriveCommand live.session live.projected.view = .ok (command, origin) ∧
    prepareMutation app live.session a.hero ⟨live.projected, words, seedReference, command, origin⟩ a.now =
      .ok prepared ∧
    (resolveEncounter live.state command.command).run (EncounterRngAdapter.rollDie words) (.new live.cursor) =
      (.ok prepared.outcome.resolution, source) ∧
    live' =
      { session := ⟨live.session.id, live.session.revision + 1, prepared.session⟩
        events := live.events ++
          [⟨a.auditId, live.session.id, prepared.event.sequence, prepared.event⟩]
        state := prepared.outcome.resolution.state
        latestOutcome := some prepared.outcome
        cursor := source.cursor }

/-- What is prepared for a commit on the live encounter. -/
def commitLive (app : ApplicationService H τ δ) (words : WordStream) (seedReference : String)
    (live : LiveEncounter) (a : LiveAction H) : Except ApplicationError (PreparedMutation H) := do
  checkHeroBinding app.heroes a.hero live.state
  let (command, origin) ← a.mutation.deriveCommand live.session live.projected.view
  prepareMutation app live.session a.hero ⟨live.projected, words, seedReference, command, origin⟩ a.now

/-- What is prepared for a commit by the service, from what the stored events project to. -/
def commitProjected (app : ApplicationService H τ δ) (session : StoredDocument SessionDto)
    (events : List StoredEvent) (current : Option EncounterHeroProfile) (a : LiveAction H) :
    Except ApplicationError (PreparedMutation H) := do
  let derived ← deriveMutation app a.mutation session a.hero current events
  prepareMutation app session a.hero derived a.now

/-- A campaign in which the exploration check has been made and the encounter has not begun. -/
structure MadeCheck (session : StoredDocument SessionDto) (events : List StoredEvent)
    (check : ExplorationCheckOutcomeDto) : Prop where
  sessionId : isValidOpaqueId session.id = true
  revision : session.revision = session.value.lastEventSequence + 1
  fits : session.revision ≤ maxU64
  stream : validateEventStream session events = .ok ()
  checked : latestExplorationCheck events = .ok (some check)
  character : check.characterId = localCharacterId
  action : check.actionId = localExplorationActionId
  notBegun : firstEncounterProfile events = none

/-- The opening consequence that a check earns. -/
def openingConsequence (check : ExplorationCheckOutcomeDto) : OpeningConsequence :=
  if check.result.success then .runesUnderstood else .runesMisread

/-- A campaign whose encounter has not begun, with the state in which it opens for the current hero. -/
structure FreshCampaign (session : StoredDocument SessionDto) (events : List StoredEvent)
    (check : ExplorationCheckOutcomeDto) (profile : Option EncounterHeroProfile) (opening : EncounterState) :
    Prop extends MadeCheck session events check where
  opening : openingState (openingConsequence check) none profile = .ok opening

/-- The encounter as it opens, before its first commit. -/
def openLive (session : StoredDocument SessionDto) (events : List StoredEvent) (opening : EncounterState) :
    LiveEncounter :=
  { session, events, state := opening, latestOutcome := none, cursor := 0 }

/-! ## Event streams -/

variable {events : List StoredEvent} {s opening : EncounterState} {session : StoredDocument SessionDto}
  {seedReference : String} {c : EncounterCommand} {t : List (Nat × Nat)} {r : EncounterResolution}

theorem validateEventStream_eq_ok :
    validateEventStream session events = .ok () ↔ events.length = session.value.lastEventSequence ∧
      ∀ i audit, events[i]? = some audit → audit.campaignSessionId = session.id ∧ audit.turnNumber = i + 1 ∧
        audit.payload.sessionId = session.id ∧ audit.payload.sequence = i + 1 := by
  simp only [validateEventStream, seq_eq_ok, rejectIf_eq_ok, not_not, checkAll_eq_ok, Prod.forall,
    List.mk_mem_zipIdx_iff_getElem?, not_or]
  exact and_congr_right fun _ => ⟨fun h i audit ha => h audit i ha, fun h audit i ha => h i audit ha⟩

variable {audit : StoredEvent} {check : ExplorationCheckOutcomeDto} {version sequence : Nat} {campaign : String}
  {raw : RawRollFacts} {record : RollRecord}

/-- One more event of the session, numbered next. -/
theorem validateEventStream_snoc {revision : Nat} {value : SessionDto}
    (h : validateEventStream session events = .ok ())
    (hvalue : value.lastEventSequence = session.value.lastEventSequence + 1)
    (hcampaign : audit.campaignSessionId = session.id)
    (hturn : audit.turnNumber = session.value.lastEventSequence + 1)
    (hsession : audit.payload.sessionId = session.id)
    (hsequence : audit.payload.sequence = session.value.lastEventSequence + 1) :
    validateEventStream ⟨session.id, revision, value⟩ (events ++ [audit]) = .ok () := by
  rw [validateEventStream_eq_ok] at h ⊢
  obtain ⟨hlength, hall⟩ := h
  refine ⟨?_, fun i found hfound => ?_⟩
  · rw [List.length_append, List.length_singleton, hlength]
    exact hvalue.symm
  · rcases Nat.lt_or_ge i events.length with hlt | hge
    · rw [List.getElem?_append_left hlt] at hfound
      exact hall i found hfound
    · rw [List.getElem?_append_right hge, List.getElem?_singleton] at hfound
      split at hfound
      · next hi =>
        obtain rfl := Option.some.inj hfound
        have hi' : i = session.value.lastEventSequence := by omega
        subst hi'
        exact ⟨hcampaign, hturn, hsession, hsequence⟩
      · cases hfound

/-- The exploration check is one of the session's events. -/
theorem latestExplorationCheck_mem (hstream : validateEventStream session events = .ok ())
    (h : latestExplorationCheck events = .ok (some check)) :
    check.campaignSessionId = session.id ∧ check.eventSequence ≤ session.value.lastEventSequence := by
  rw [validateEventStream_eq_ok] at hstream
  obtain ⟨hlength, hall⟩ := hstream
  unfold latestExplorationCheck at h
  split at h
  · next outcome hfound =>
    simp only [bind_eq_ok, exists_unit, rejectIf_eq_ok, mapError_eq_ok, pure_eq, Except.ok.injEq,
      Option.some.injEq] at h
    obtain ⟨-, -, rfl⟩ := h
    obtain ⟨audit, hmem, hcheck⟩ := List.exists_of_findSome?_eq_some hfound
    obtain ⟨i, hi⟩ := List.getElem?_of_mem (List.mem_reverse.mp hmem)
    obtain ⟨hcampaign, hturn, -⟩ := hall i audit hi
    have hlt := (List.getElem?_eq_some_iff.mp hi).1
    unfold checkOutcome at hcheck
    split at hcheck
    · obtain rfl := Option.some.inj hcheck
      refine ⟨hcampaign, ?_⟩
      show audit.turnNumber ≤ _
      omega
    · cases hcheck
  · cases h

/-- An event of another kind leaves the exploration check the latest. -/
theorem latestExplorationCheck_snoc
    (h : checkOutcome audit = none) : latestExplorationCheck (events ++ [audit]) = latestExplorationCheck events := by
  unfold latestExplorationCheck
  rw [List.reverse_append, List.reverse_singleton, List.singleton_append, List.findSome?_cons, h]

theorem replayEvents_append {words : WordStream}
    {replay : Replay} {events' : List StoredEvent} :
    replayEvents words seedReference check replay (events ++ events') = (do
      let replay ← replayEvents words seedReference check replay events
      replayEvents words seedReference check replay events') := by
  induction events generalizing replay with
  | nil => rfl
  | cons audit events ih =>
    rw [List.cons_append, replayEvents, replayEvents]
    cases replayEvent words seedReference check replay audit with
    | error e => rfl
    | ok replay => exact ih

/-! ## The engine's part -/

/-- A valid state has a list of player actions. -/
theorem playerLegalActions_ok (hv : s.Valid) : ∃ actions, playerLegalActions s = .ok actions := by
  obtain ⟨actions, hlegal, -⟩ := legalActions_yields hv
  unfold playerLegalActions
  rw [EncounterState.validate_eq_ok.mpr hv, ok_bind]
  split
  · exact ⟨[], rfl⟩
  · split
    · exact ⟨actions, hlegal⟩
    · split
      · exact ⟨_, rfl⟩
      · split
        · exact ⟨actions, hlegal⟩
        · exact ⟨[], rfl⟩
      · exact ⟨actions, hlegal⟩
      · exact ⟨actions, hlegal⟩

/-- What every accepted resolution is. -/
theorem resolution_of_returns (h : Prog.Returns (resolveEncounter s c) t r) :
    Enveloped s c ∧ r.Valid ∧ r.previousRevision = s.revision ∧ r.state.schemaVersion = s.schemaVersion := by
  obtain ⟨henv, n, d, -, hseal⟩ := resolveEncounter_returns.mp h
  obtain ⟨-, -, hstate, -, -, hvalid⟩ := sealResolution_eq_ok hseal
  have hrevision : r.state.revision = s.revision + 1 := by
    rw [hstate]
    rfl
  have hschema : r.state.schemaVersion = s.schemaVersion := by
    rw [hstate]
    rfl
  have hprevious := hvalid.revision
  have hresult := hvalid.stateRevision
  exact ⟨henv, hvalid, by omega, hschema⟩

/-- Before the encounter begins, the only command that goes through begins it. -/
theorem begins_of_ready (hs : s.status = .ready) (h : Prog.Returns (resolveEncounter s c) t r) :
    c.intent = .startEncounter := by
  obtain ⟨henv, -⟩ := resolution_of_returns h
  have hslip : ¬ SlipsThrough s c := fun hslip => by
    have := hslip.active
    rw [hs] at this
    cases this
  obtain ⟨hlisted, -⟩ := listed_of_returns h hslip
  obtain ⟨a, hpermitted, hcovers⟩ := (listed_iff henv.state).mp hlisted
  have hundisturbed : s.pendingReaction = false := henv.state.undisturbed (by rw [hs]; decide)
  obtain ⟨actions, hactions, hmem⟩ := legalActions_yields henv.state
  have hready : actions = [.startEncounter] := by
    unfold legalActions at hactions
    rw [EncounterState.validate_eq_ok.mpr henv.state, ok_bind, if_neg (by rw [hundisturbed]; decide), hs] at hactions
    exact (Except.ok.inj hactions).symm
  have ha : a ∈ actions := (hmem a).mpr hpermitted
  rw [hready, List.mem_singleton] at ha
  subst ha
  cases hintent : c.intent with
  | startEncounter => rfl
  | _ =>
    rw [hintent] at hcovers
    exact hcovers.elim

/-- **Beginning the encounter leaves the hero as it came.** -/
theorem heroProfile_of_ready (hs : s.status = .ready) (h : Prog.Returns (resolveEncounter s c) t r) :
    r.state.heroProfile = s.heroProfile := by
  have hbegins := begins_of_ready hs h
  obtain ⟨-, n, d, hintent, hseal⟩ := resolveEncounter_returns.mp h
  obtain ⟨-, -, hstate, -⟩ := sealResolution_eq_ok hseal
  rw [hbegins] at hintent
  have hstart : Prog.Returns (resolveStart (.of s)) t (n, d) := hintent
  obtain ⟨-, hstart⟩ := hstart.reject
  obtain ⟨t₁, t₂, ⟨heroRoll, rolls⟩, rfl, -, hstart⟩ := hstart.bind
  obtain ⟨t₃, t₄, ⟨creatureRoll, rolls'⟩, rfl, -, hstart⟩ := hstart.bind
  obtain ⟨t₅, t₆, heroEntry, rfl, -, hstart⟩ := hstart.bind
  obtain ⟨t₇, t₈, creatureEntry, rfl, -, hstart⟩ := hstart.bind
  obtain ⟨t₉, t₁₀, state, rfl, hset, hstart⟩ := hstart.bind
  obtain ⟨currentActorId, -, hstart⟩ := hstart.expect
  obtain rfl : d = _ := hstart.snd_eq
  obtain ⟨-, hpassed⟩ := setCurrentTurn_returns hset
  have hstate' : r.state = sealedState s _ := hstate
  have hhero : r.state.hero = s.hero := by
    rw [hstate']
    exact hpassed.hero
  have hrules : r.state.heroRules = s.heroRules := by
    rw [hstate']
    show state.heroRules = _
    rw [hpassed]
  unfold EncounterState.heroProfile
  rw [hhero, hrules]

/-- Opened again from a stored event, whatever hero is current by then, the encounter opens the same. -/
def Reopens (consequence : OpeningConsequence) (opening : EncounterState) : Prop :=
  ∀ current, openingState consequence (some (opening.schemaVersion, opening.heroProfile)) current = .ok opening

/-- The encounter opens ready, in the live schema, for exactly the hero it was opened for. -/
theorem openingState_spec {consequence : OpeningConsequence} {profile : Option EncounterHeroProfile}
    (h : openingState consequence none profile = .ok opening) :
    opening.Valid ∧ opening.status = .ready ∧ opening.revision = 1 ∧
      opening.schemaVersion = encounterSchemaVersion ∧ Reopens consequence opening := by
  cases profile with
  | none =>
    obtain rfl : EncounterState.new .storyRecovery consequence = opening := Except.ok.inj h
    exact ⟨EncounterState.new_valid, rfl, rfl, rfl, fun _ => rfl⟩
  | some profile =>
    have hnew : EncounterState.newForHero .storyRecovery consequence profile = .ok opening := h
    obtain ⟨-, hv, -, hopening⟩ := EncounterState.newForHeroAtSchema_eq_ok hnew
    have hprofile : opening.heroProfile = some profile := by
      rw [hopening]
      rfl
    refine ⟨hv, ?_, ?_, ?_, fun _ => ?_⟩
    · rw [hopening]
      rfl
    · rw [hopening]
      rfl
    · rw [hopening]
    · have hversion : opening.schemaVersion = encounterSchemaVersion := by rw [hopening]
      rw [hprofile, hversion]
      simp only [openingState, if_true]
      exact hnew

/-! ## The simulation -/

section Simulation

variable {words : WordStream} {seedReference : String} {check : ExplorationCheckOutcomeDto}
  {opening : EncounterState} {live live' : LiveEncounter}

/-- What the last outcome of a live encounter has to do with it, once there is one. -/
def LatestFits (opening : EncounterState) (live : LiveEncounter) : Prop :=
  match live.latestOutcome with
  | none => firstEncounterProfile live.events = none ∧ live.state = opening
  | some outcome =>
    firstEncounterProfile live.events = some (opening.schemaVersion, opening.heroProfile) ∧
      outcome.validatePlayerActionBoundary = .ok () ∧ outcome.campaignSessionId = live.session.id ∧
      outcome.resultCampaignRevision = live.session.revision ∧
      outcome.eventSequence = live.session.value.lastEventSequence ∧ outcome.resolution.state = live.state ∧
      outcome.legalActions = live.actions

/-- **The stored events mirror the live encounter**: replayed from the opening, they lead to its state, its
    last outcome and its cursor. -/
structure Mirrored (words : WordStream) (seedReference : String) (check : ExplorationCheckOutcomeDto)
    (opening : EncounterState) (live : LiveEncounter) : Prop where
  sessionId : isValidOpaqueId live.session.id = true
  revision : live.session.revision = live.session.value.lastEventSequence + 1
  fits : live.session.revision ≤ maxU64
  stream : validateEventStream live.session live.events = .ok ()
  checked : latestExplorationCheck live.events = .ok (some check)
  character : check.characterId = localCharacterId
  action : check.actionId = localExplorationActionId
  replay : ∃ started, replayEvents words seedReference check ⟨opening, none, 0, false⟩ live.events =
    .ok ⟨live.state, live.latestOutcome, live.cursor, started⟩
  state : live.state.Valid
  schemaVersion : live.state.schemaVersion = opening.schemaVersion
  latest : LatestFits opening live

variable {session : StoredDocument SessionDto} {events : List StoredEvent} {app : ApplicationService H τ δ}
  {prepared : PreparedMutation H}

/-- Events without an encounter among them replay to the opening. -/
theorem replayEvents_notBegun (h : firstEncounterProfile events = none) :
    replayEvents words seedReference check ⟨opening, none, 0, false⟩ events =
      .ok ⟨opening, none, 0, false⟩ := by
  induction events with
  | nil => rfl
  | cons audit events ih =>
    unfold firstEncounterProfile at h
    rw [List.findSome?_cons] at h
    cases hpayload : audit.payload.payload with
    | encounterResolved command outcome origin =>
      rw [hpayload] at h
      cases h
    | abilityCheckResolved characterId actionId result =>
      rw [hpayload] at h
      have hstep : replayEvent words seedReference check ⟨opening, none, 0, false⟩ audit =
          .ok ⟨opening, none, 0, false⟩ := by
        unfold replayEvent
        rw [hpayload]
        rfl
      rw [replayEvents, hstep]
      exact ih h
    | other kind =>
      rw [hpayload] at h
      have hstep : replayEvent words seedReference check ⟨opening, none, 0, false⟩ audit =
          .ok ⟨opening, none, 0, false⟩ := by
        unfold replayEvent
        rw [hpayload]
      rw [replayEvents, hstep]
      exact ih h

/-- Before its first event, the encounter is mirrored as it opens. -/
theorem openLive_mirrored
    (h : MadeCheck session events check) (hv : opening.Valid) :
    Mirrored words seedReference check opening (openLive session events opening) :=
  ⟨h.sessionId, h.revision, h.fits, h.stream, h.checked, h.character, h.action,
    ⟨false, replayEvents_notBegun h.notBegun⟩, hv, rfl, h.notBegun, rfl⟩

/-- A fresh campaign mirrors the encounter as it opens. -/
theorem FreshCampaign.mirrored
    {profile : Option EncounterHeroProfile} (h : FreshCampaign session events check profile opening) :
    Mirrored words seedReference check opening (openLive session events opening) := by
  obtain ⟨hv, -⟩ := openingState_spec h.opening
  exact openLive_mirrored h.toMadeCheck hv

/-- **Projecting mirrored events yields the live encounter**, whatever hero is current by then. -/
theorem Mirrored.project (h : Mirrored words seedReference check opening live) (hready : opening.status = .ready)
    (hone : opening.revision = 1) (hreopens : Reopens (openingConsequence check) opening)
    (current : Option EncounterHeroProfile)
    (hopening : live.latestOutcome = none → openingState (openingConsequence check) none current = .ok opening) :
    projectEncounter live.session check live.events words seedReference current = .ok live.projected := by
  obtain ⟨hcampaign, hsequence⟩ := latestExplorationCheck_mem h.stream h.checked
  obtain ⟨started, hreplay⟩ := h.replay
  obtain ⟨actions, hactions⟩ := playerLegalActions_ok h.state
  have hlive : live.actions = actions := by
    unfold LiveEncounter.actions
    rw [hactions]
  have hopens : openingState (if check.result.success then .runesUnderstood else .runesMisread)
      (firstEncounterProfile live.events) current = .ok opening := by
    have hlatest := h.latest
    unfold LatestFits at hlatest
    cases hl : live.latestOutcome with
    | none =>
      rw [hl] at hlatest
      rw [hlatest.1]
      exact hopening hl
    | some outcome =>
      rw [hl] at hlatest
      rw [hlatest.1]
      exact hreopens current
  have hview : live.projected.view.validate = .ok () := by
    have hfits := h.fits
    have hrevision := h.revision
    have hlatest : live.projected.view.validateLatest = .ok () := by
      have hlatest := h.latest
      unfold LatestFits at hlatest
      unfold EncounterViewDto.validateLatest
      have hshown : live.projected.view.latestOutcome = live.latestOutcome := rfl
      rw [hshown]
      cases hl : live.latestOutcome with
      | none =>
        rw [hl] at hlatest
        refine rejectIf_of_not (not_not.mpr ?_)
        show live.state.status = .ready ∧ live.state.revision = 1
        rw [hlatest.2]
        exact ⟨hready, hone⟩
      | some outcome =>
        rw [hl] at hlatest
        obtain ⟨-, hboundary, hsession, hresult, hevent, hstate, hacts⟩ := hlatest
        have hvalid : outcome.validate = .ok () := (seq_eq_ok.mp hboundary).1
        show (outcome.validate >>= fun _ => rejectIf (outcome.campaignSessionId ≠ live.session.id ∨
          live.session.revision < outcome.resultCampaignRevision ∨
          live.session.value.lastEventSequence < outcome.eventSequence ∨
          outcome.resolution.state ≠ live.state ∨ outcome.legalActions ≠ live.actions) _) = _
        rw [hvalid, ok_bind]
        refine rejectIf_of_not ?_
        rw [hresult, hevent]
        simp [hsession, hstate, hacts]
    simp only [EncounterViewDto.validate, bind_eq_ok, exists_unit, rejectIf_eq_ok, mapError_eq_ok]
    refine ⟨?_, EncounterState.validate_eq_ok.mpr h.state, actions, hactions, ?_, hlatest⟩
    · show ¬ (encounterCommitSchemaVersion ≠ encounterCommitSchemaVersion ∨
        isValidOpaqueId live.session.id = false ∨ live.session.revision = 0 ∨
        live.session.value.lastEventSequence + 1 ≠ live.session.revision ∨
        maxU64 < live.session.value.lastEventSequence + 1)
      rw [h.sessionId, hrevision]
      simp only [ne_eq, not_true_eq_false, Bool.true_eq_false, false_or, not_or, not_lt]
      omega
    · exact not_not.mpr hlive
  have hbelongs : ¬ (check.campaignSessionId ≠ live.session.id ∨ check.characterId ≠ localCharacterId ∨
      check.actionId ≠ localExplorationActionId ∨
      live.session.value.lastEventSequence < check.eventSequence) := by
    rw [hcampaign, h.character, h.action]
    simpa using hsequence
  dsimp only [projectEncounter]
  rw [rejectIf_of_not hbelongs, ok_bind, hopens]
  simp only [Except.mapError, ok_bind, hreplay, hactions]
  rw [← hlive]
  have hview' : (EncounterViewDto.mk encounterCommitSchemaVersion live.session.id live.session.revision
      live.session.value.lastEventSequence live.state live.actions live.latestOutcome).validate = .ok () := hview
  rw [hview']
  rfl

/-! ## One commit -/

/-- What a live resolution is: the engine's, with the stream's dice, none of which failed. -/
theorem resolveLive_eq_ok {cursor : Nat} {s : EncounterState} {c : EncounterCommand} {r : EncounterResolution}
    {spans : List DieCursorSpan} (h : resolveLive words cursor s c = .ok (r, spans)) :
    ∃ next, (resolveEncounter s c).run (EncounterRngAdapter.rollDie words) (.new cursor) =
        (.ok r, ⟨next, spans, none⟩) ∧
      Prog.Returns (resolveEncounter s c) (spans.map fun span => asked span.die) r ∧
      Chained words cursor spans next := by
  unfold resolveLive at h
  split at h
  · next resolution source hrun =>
    split at h
    · next herror =>
      obtain ⟨hr, hspans⟩ := Prod.mk.inj (Except.ok.inj h)
      subst hr hspans
      obtain ⟨t, hreturns, hfed⟩ := Prog.run_eq_ok.mp hrun
      obtain ⟨-, drawn, hdrawn, hchained, ht⟩ := rollDie_feeds hfed herror
      have hsame : source.spans = drawn := hdrawn
      rw [hsame]
      have hsource : source = ⟨source.cursor, drawn, none⟩ := by
        rw [← herror, ← hsame]
      exact ⟨source.cursor, by rw [hrun, ← hsource], ht ▸ hreturns, hchained⟩
    · cases h
  · split at h <;> cases h
  · cases h

/-- What goes into the store when a mutation has been prepared. -/
structure Prepares {H : Type} (session : StoredDocument SessionDto) (derived : DerivedMutation)
    (prepared : PreparedMutation H) (spans : List DieCursorSpan) : Prop where
  fits : session.revision + 1 ≤ maxU64
  resolved : resolveLive derived.words derived.projected.nextCursor derived.projected.view.state
    derived.command.command = .ok (prepared.outcome.resolution, spans)
  records : canonicalRollRecords session.id (session.value.lastEventSequence + 1) derived.seedReference
    prepared.outcome.resolution.rolls spans = .ok prepared.outcome.rollRecords
  actions : playerLegalActions prepared.outcome.resolution.state = .ok prepared.outcome.legalActions
  campaign : prepared.outcome.campaignSessionId = session.id
  revision : prepared.outcome.resultCampaignRevision = session.revision + 1
  sequence : prepared.outcome.eventSequence = session.value.lastEventSequence + 1
  boundary : prepared.outcome.validatePlayerActionBoundary = .ok ()
  eventSession : prepared.event.sessionId = session.id
  eventSequence : prepared.event.sequence = session.value.lastEventSequence + 1
  payload : prepared.event.payload = .encounterResolved derived.command prepared.outcome derived.origin
  sound : validateSessionEventDto prepared.event = .ok ()
  lastEventSequence : prepared.session.lastEventSequence = session.value.lastEventSequence + 1

variable {hero : Option (StoredDocument H)} {derived : DerivedMutation} {now : Nat} {m : EncounterMutation}
  {a : LiveAction H}

theorem prepareMutation_prepares
    (h : prepareMutation app session hero derived now = .ok prepared) :
    ∃ spans, Prepares session derived prepared spans := by
  simp only [prepareMutation, bind_eq_ok, exists_unit, rejectIf_eq_ok, mapError_eq_ok, not_or, Nat.not_lt] at h
  obtain ⟨⟨hfits, -⟩, ⟨resolution, spans⟩, hresolved, records, hrecords, actions, hactions, h⟩ := h
  cases hero with
  | none =>
    simp only [ok_bind, bind_eq_ok, exists_unit, mapError_eq_ok, pure_eq, Except.ok.injEq] at h
    obtain ⟨hboundary, hsound, rfl⟩ := h
    exact ⟨spans, hfits, hresolved, hrecords, hactions, rfl, rfl, rfl, hboundary, rfl, rfl, rfl, hsound, rfl⟩
  | some stored =>
    simp only [bind_eq_ok, exists_unit, mapError_eq_ok, pure_eq, Except.ok.injEq] at h
    obtain ⟨⟨candidate, revision⟩, -, hboundary, hsound, rfl⟩ := h
    exact ⟨spans, hfits, hresolved, hrecords, hactions, rfl, rfl, rfl, hboundary, rfl, rfl, rfl, hsound, rfl⟩

/-- The command of a mutation names the current revision, and whoever issues it is entitled to it. -/
theorem deriveCommand_entitled
    {view : EncounterViewDto} {command : CommitEncounterCommand} {origin : EncounterCommandOrigin}
    (h : m.deriveCommand session view = .ok (command, origin)) :
    command.expectedCampaignRevision = session.revision ∧
      verifyOrigin view.state command.command.intent origin = .ok () := by
  cases m with
  | player issued =>
    simp only [EncounterMutation.deriveCommand, bind_eq_ok, exists_unit, mapError_eq_ok, pure_eq,
      validateLocalEncounterCommand, validateRevisions, rejectIf_eq_ok, not_not, Except.ok.injEq,
      Prod.mk.injEq] at h
    obtain ⟨⟨⟨-, -, hrevision⟩, -⟩, hcontrol, rfl, rfl⟩ := h
    refine ⟨hrevision, ?_⟩
    show (requirePlayerControl view.state).mapError _ = .ok ()
    rw [mapError_eq_ok]
    exact hcontrol
  | deterministicNpc issued =>
    simp only [EncounterMutation.deriveCommand, bind_eq_ok, exists_unit, mapError_eq_ok, pure_eq,
      validateLocalNpcAdvanceCommand, validateRevisions, rejectIf_eq_ok, not_not, Except.ok.injEq,
      Prod.mk.injEq] at h
    obtain ⟨⟨⟨-, -, hrevision⟩, -⟩, intent, hselected, rfl, rfl⟩ := h
    refine ⟨hrevision, ?_⟩
    simp only [verifyOrigin, bind_eq_ok, exists_unit, rejectIf_eq_ok, mapError_eq_ok, not_not]
    exact ⟨trivial, intent, hselected, rfl⟩

/-- An outcome that lists the player's actions is shown as it is. -/
theorem publicOutcome_of_boundary {outcome : CommittedEncounterOutcomeDto}
    (hactions : playerLegalActions outcome.resolution.state = .ok outcome.legalActions)
    (hboundary : outcome.validatePlayerActionBoundary = .ok ()) : publicOutcome outcome = .ok outcome := by
  unfold publicOutcome
  rw [hactions]
  simp only [Except.mapError, ok_bind]
  rw [hboundary]
  rfl

/-- **One commit, replayed**: its event leads from the state, the outcome and the cursor before it to those
    behind it. -/
theorem replayEvent_commit {replay : Replay} {source : EncounterRngAdapter} {auditId : String}
    (hderived : m.deriveCommand session derived.projected.view = .ok (derived.command, derived.origin))
    (hprepared : prepareMutation app session hero derived now = .ok prepared)
    (hrun : (resolveEncounter derived.projected.view.state derived.command.command).run
      (EncounterRngAdapter.rollDie derived.words) (.new derived.projected.nextCursor) =
        (.ok prepared.outcome.resolution, source))
    (hstate : replay.state = derived.projected.view.state)
    (hcursor : replay.cursor = derived.projected.nextCursor)
    (hrevision : session.revision = session.value.lastEventSequence + 1)
    (hcheck : check.eventSequence ≤ session.value.lastEventSequence) :
    replayEvent derived.words derived.seedReference check replay
        ⟨auditId, session.id, prepared.event.sequence, prepared.event⟩ =
      .ok ⟨prepared.outcome.resolution.state, some prepared.outcome, source.cursor, true⟩ := by
  obtain ⟨spans, hp⟩ := prepareMutation_prepares hprepared
  obtain ⟨hexpected, horigin⟩ := deriveCommand_entitled hderived
  obtain ⟨next, hlive, hreturns, hchained⟩ := resolveLive_eq_ok hp.resolved
  obtain rfl : source = ⟨next, spans, none⟩ := by
    rw [hrun] at hlive
    exact congrArg Prod.snd hlive
  obtain ⟨henv, -, hprevious, -⟩ := resolution_of_returns hreturns
  obtain ⟨hverified, hdice⟩ := canonicalRollRecords_verified hp.records hchained
  -- The recorded dice are those that the engine was given.
  have hreplayed : replayRecorded derived.projected.view.state derived.command.command
      prepared.outcome.resolution = .ok prepared.outcome.resolution := by
    rw [replayRecorded_eq_ok, hdice, List.map_map]
    exact ⟨rfl, hreturns⟩
  have henvelope : ¬ (prepared.event.sequence ≤ check.eventSequence ∨
      derived.command.expectedCampaignRevision ≠ prepared.event.sequence ∨
      derived.command.command.expectedRevision ≠ replay.state.revision ∨
      derived.command.command.encounterId ≠ replay.state.encounterId ∨
      prepared.outcome.resolution.previousRevision ≠ replay.state.revision) := by
    rw [hstate, hp.eventSequence, hexpected, hrevision, henv.revision, henv.encounterId, hprevious]
    simp only [ne_eq, not_true_eq_false, or_false, Nat.not_le]
    omega
  unfold replayEvent
  simp only [hp.payload]
  rw [rejectIf_of_not henvelope, ok_bind, hstate, hcursor, horigin, ok_bind, hverified, ok_bind, hreplayed, ok_bind,
    publicOutcome_of_boundary hp.actions hp.boundary]
  rfl

/-- The hero and the schema of the first encounter event, once it is there. -/
theorem firstEncounterProfile_append {events' : List StoredEvent} :
    firstEncounterProfile (events ++ events') =
      (firstEncounterProfile events).or (firstEncounterProfile events') := by
  unfold firstEncounterProfile
  exact List.findSome?_append

/-- **A commit on a mirrored encounter is mirrored.** -/
theorem Mirrored.step
    (h : Mirrored words seedReference check opening live) (hready : opening.status = .ready)
    (hstep : LiveStep app words seedReference live a live') :
    Mirrored words seedReference check opening live' := by
  obtain ⟨command, origin, prepared, source, -, hderived, hprepared, hrun, rfl⟩ := hstep
  obtain ⟨spans, hp⟩ := prepareMutation_prepares hprepared
  obtain ⟨next, -, hreturns, -⟩ := resolveLive_eq_ok hp.resolved
  obtain ⟨-, hvalid, -, hschema⟩ := resolution_of_returns hreturns
  obtain ⟨-, hcheck⟩ := latestExplorationCheck_mem h.stream h.checked
  obtain ⟨started, hreplay⟩ := h.replay
  let audit : StoredEvent := ⟨a.auditId, live.session.id, prepared.event.sequence, prepared.event⟩
  have hfirst : firstEncounterProfile [audit] =
      some (prepared.outcome.resolution.state.schemaVersion, prepared.outcome.resolution.state.heroProfile) := by
    unfold firstEncounterProfile
    rw [List.findSome?_cons]
    simp only [audit, hp.payload]
  have hevent : replayEvent words seedReference check ⟨live.state, live.latestOutcome, live.cursor, started⟩ audit =
      .ok ⟨prepared.outcome.resolution.state, some prepared.outcome, source.cursor, true⟩ :=
    replayEvent_commit hderived hprepared hrun rfl rfl h.revision hcheck
  have hnext : prepared.outcome.resolution.state.schemaVersion = opening.schemaVersion :=
    hschema.trans h.schemaVersion
  refine
    { sessionId := h.sessionId
      revision := ?_
      fits := hp.fits
      stream := ?_
      checked := ?_
      character := h.character
      action := h.action
      replay := ⟨true, ?_⟩
      state := hvalid.state
      schemaVersion := hnext
      latest := ?_ }
  · show live.session.revision + 1 = prepared.session.lastEventSequence + 1
    rw [hp.lastEventSequence, h.revision]
  · exact validateEventStream_snoc h.stream hp.lastEventSequence rfl hp.eventSequence hp.eventSession
      hp.eventSequence
  · show latestExplorationCheck (live.events ++ [audit]) = _
    rw [latestExplorationCheck_snoc, h.checked]
    unfold checkOutcome
    simp only [audit, hp.payload]
  · show replayEvents words seedReference check ⟨opening, none, 0, false⟩ (live.events ++ [audit]) = _
    rw [replayEvents_append, hreplay, ok_bind, replayEvents, hevent]
    rfl
  · show firstEncounterProfile (live.events ++ [audit]) = some (opening.schemaVersion, opening.heroProfile) ∧ _
    refine ⟨?_, hp.boundary, hp.campaign, hp.revision, ?_, rfl, ?_⟩
    · rw [firstEncounterProfile_append, hfirst, hnext]
      have hlatest := h.latest
      unfold LatestFits at hlatest
      cases hl : live.latestOutcome with
      | none =>
        -- The first commit begins the encounter, and leaves the hero as it came.
        rw [hl] at hlatest
        obtain ⟨hnone, hopening⟩ := hlatest
        have hstate : live.state.status = .ready := by
          rw [hopening]
          exact hready
        have hhero : prepared.outcome.resolution.state.heroProfile = live.state.heroProfile :=
          heroProfile_of_ready hstate hreturns
        rw [hnone, hhero, hopening]
        rfl
      | some outcome =>
        rw [hl] at hlatest
        rw [hlatest.1]
        rfl
    · show prepared.outcome.eventSequence = prepared.session.lastEventSequence
      rw [hp.sequence, hp.lastEventSequence]
    · unfold LiveEncounter.actions
      simp only [hp.actions]

/-- What can be prepared is a step. -/
theorem liveStep_of_commit
    (h : commitLive app words seedReference live a = .ok prepared) :
    ∃ live', LiveStep app words seedReference live a live' := by
  simp only [commitLive, bind_eq_ok, exists_unit] at h
  obtain ⟨hbound, ⟨command, origin⟩, hderived, hprepared⟩ := h
  obtain ⟨spans, hp⟩ := prepareMutation_prepares hprepared
  obtain ⟨next, hrun, -⟩ := resolveLive_eq_ok hp.resolved
  exact ⟨_, command, origin, prepared, _, hbound, hderived, hprepared, hrun, rfl⟩

/-- A commit from mirrored events is the commit on the live encounter. -/
theorem Mirrored.commit {app : ApplicationService H τ δ} {current : Option EncounterHeroProfile}
    (h : Mirrored words seedReference check opening live)
    (hlive : opening.schemaVersion = encounterSchemaVersion)
    (hseed : app.deriveCampaignSeed live.session.id = .ok (words, seedReference))
    (hproject : projectEncounter live.session check live.events words seedReference current =
      .ok live.projected) (a : LiveAction H) :
    commitProjected app live.session live.events current a = commitLive app words seedReference live a := by
  have hversion : ¬ live.projected.view.state.schemaVersion ≠ encounterSchemaVersion :=
    not_not.mpr (h.schemaVersion.trans hlive)
  unfold commitProjected deriveMutation
  rw [h.stream, ok_bind, h.checked, ok_bind, okOr_some, ok_bind, hseed, ok_bind]
  simp only [hproject, ok_bind]
  rw [rejectIf_of_not hversion, ok_bind]
  show (checkHeroBinding app.heroes a.hero live.state >>= _) >>= _ = _
  unfold commitLive
  cases checkHeroBinding app.heroes a.hero live.state with
  | error e => rfl
  | ok u =>
    rw [ok_bind, ok_bind]
    cases a.mutation.deriveCommand live.session live.projected.view with
    | error e => rfl
    | ok result => rfl

/-- **The stored events replay to the live encounter.** After any run of accepted commits from a fresh
    campaign, whoever issued them and whatever the dice, the projection of the stored events succeeds with the
    state, the last outcome and the cursor that the last commit left; and every further commit, made from the
    projection, is prepared exactly as it would be on the live encounter. -/
theorem projection_replays (app : ApplicationService H τ δ) (words : WordStream) (seedReference : String)
    {session : StoredDocument SessionDto} {events : List StoredEvent} {check : ExplorationCheckOutcomeDto}
    {profile : Option EncounterHeroProfile} {opening : EncounterState} {actions : List (LiveAction H)}
    {live : LiveEncounter} (hseed : app.deriveCampaignSeed session.id = .ok (words, seedReference))
    (hfresh : FreshCampaign session events check profile opening)
    (hrun : Run (LiveStep app words seedReference) (openLive session events opening) actions live)
    (current : Option EncounterHeroProfile) (hcurrent : live.latestOutcome = none → current = profile) :
    projectEncounter live.session check live.events words seedReference current = .ok live.projected ∧
      ∀ a, commitProjected app live.session live.events current a = commitLive app words seedReference live a := by
  obtain ⟨-, hready, hone, hlive, hreopens⟩ := openingState_spec hfresh.opening
  have hmirrored : Mirrored words seedReference check opening live ∧ live.session.id = session.id := by
    refine Run.invariant (I := fun l => Mirrored words seedReference check opening l ∧ l.session.id = session.id)
      (fun l a l' hl hstep => ⟨hl.1.step hready hstep, ?_⟩) hrun ⟨hfresh.mirrored, rfl⟩
    obtain ⟨_, _, _, _, -, -, -, -, rfl⟩ := hstep
    exact hl.2
  obtain ⟨hm, hid⟩ := hmirrored
  have hproject := hm.project hready hone hreopens current fun hnone => hcurrent hnone ▸ hfresh.opening
  exact ⟨hproject, hm.commit hlive (hid ▸ hseed) hproject⟩

end Simulation

/-! The plain service, after an exploration check that was made. -/

def madeCheck : AbilityCheckResult where
  roll := ⟨.normal, 15, none, 15⟩
  ability := .intelligence
  abilityModifier := 0
  proficiencyModifier := 2
  situationalModifier := 0
  total := 17
  difficultyClass := 12
  success := true

def checkedSession : StoredDocument SessionDto :=
  ⟨localCampaignSessionId, 2, {
    schemaVersion := sessionSchemaVersion, id := localCampaignSessionId, ruleset := encounterRulesetId
    title := "The Runes Beneath the Viaduct", status := .active, characterIds := [localCharacterId]
    createdAtUnixMs := 0, updatedAtUnixMs := 0, lastEventSequence := 1 }⟩

def checkedEvents : List StoredEvent :=
  [⟨"audit:1", localCampaignSessionId, 1, {
    schemaVersion := sessionSchemaVersion, sessionId := localCampaignSessionId, sequence := 1
    occurredAtUnixMs := 0, actor := .system
    payload := .abilityCheckResolved localCharacterId localExplorationActionId madeCheck }⟩]

def checkedOutcome : ExplorationCheckOutcomeDto :=
  ⟨explorationCheckSchemaVersion, localCampaignSessionId, localCharacterId, localExplorationActionId, 2, 1,
    madeCheck⟩

/-- The request to begin the encounter in a schema version, and its commit. -/
def beginAction (version : Nat) : LiveAction Empty where
  mutation := .player ⟨encounterCommitSchemaVersion, localCampaignSessionId, 2,
    { newEncounterCommand 1 "begin" .startEncounter with schemaVersion := version }⟩
  hero := none
  now := 1
  auditId := "audit:2"

theorem checkedSession_made : MadeCheck checkedSession checkedEvents checkedOutcome where
  sessionId := by decide
  revision := rfl
  fits := by decide
  stream := by decide
  checked := by decide
  character := rfl
  action := rfl
  notBegun := rfl

/-- The encounter begins, for a given state in which it opens. -/
theorem plainService_begins
    (h : (commitLive plainService (fun _ => 0) "seed:local" (openLive checkedSession checkedEvents opening)
      (beginAction version)).toOption.isSome = true) :
    ∃ live, Run (LiveStep plainService (fun _ => 0) "seed:local") (openLive checkedSession checkedEvents opening)
      [beginAction version] live := by
  obtain ⟨prepared, hprepared⟩ := Option.isSome_iff_exists.mp h
  cases hcommit : commitLive plainService (fun _ => 0) "seed:local"
      (openLive checkedSession checkedEvents opening) (beginAction version) with
  | error e =>
    rw [hcommit] at hprepared
    cases hprepared
  | ok prepared =>
    obtain ⟨live, hstep⟩ := liveStep_of_commit hcommit
    exact ⟨live, .cons hstep (.nil live)⟩

/-- The initiative roll of a participant whose die shows one. -/
def initiativeOfOne (sequence : Nat) (actorId sourceId : String) (modifier : Int16) (expression : String)
    (total : Int) : RawRollFacts where
  sequence := sequence
  purpose := .initiative
  actorId := actorId
  targetId := none
  actionId := none
  expression := expression
  mode := .normal
  individualDice := [⟨20, 1⟩]
  keptDieIndices := [0]
  modifiers := [⟨sourceId, modifier⟩]
  naturalD20 := some 1
  total := total
  comparison := none
  outcome := .total

/-- The Canal Warden's encounter just begun, both dice showing one. -/
def begunDraft (opening : EncounterState) : Draft where
  state :=
    { opening with
      initiative := some (initiativeOf [⟨canalWardenId, 1, 2, 3, 0⟩, ⟨sootWightId, 1, 1, 2, 0⟩])
      status := .active
      round := 1
      currentActorIndex := some 0
      currentActorId := some canalWardenId
      turnResources := some ⟨true, 30, false, true, true⟩ }
  rolls :=
    [initiativeOfOne 1 canalWardenId "srd-5.1-cc:modifier:dexterity-initiative" 2 "1d20+2" 3,
      initiativeOfOne 2 sootWightId "manchester-arcana-content:v1:modifier:soot-wight-initiative" 1 "1d20+1" 2]
  facts := [.encounterStarted 1 [canalWardenId, sootWightId] canalWardenId]

def begunNarration : DeterministicNarration :=
  narration "encounter:start:canal-warden-first"
    "The Canal Warden reads the soot's motion and acts before the Soot Wight can close."
    "The encounter begins. The Canal Warden acts first."

def begunSpans : List DieCursorSpan := [⟨20, 1, 0, 1⟩, ⟨20, 1, 1, 2⟩]

def begunResolution (opening : EncounterState) : EncounterResolution where
  schemaVersion := opening.schemaVersion
  encounterId := opening.encounterId
  previousRevision := opening.revision
  resultRevision := opening.revision + 1
  state := sealedState opening (begunDraft opening)
  rolls := (begunDraft opening).rolls
  facts := (begunDraft opening).facts
  narration := begunNarration

/-- On dice that all show one, beginning the encounter comes to `begunDraft`. -/
def beginsAsDrafted (opening : EncounterState) : Bool :=
  match (resolveIntent (.of opening) .startEncounter).run (EncounterRngAdapter.rollDie fun _ => 0) (.new 0) with
  | (.ok (n, d), ⟨cursor, spans, none⟩) => n = begunNarration ∧ d.state = (begunDraft opening).state ∧
      d.rolls = (begunDraft opening).rolls ∧ d.facts = (begunDraft opening).facts ∧ cursor = 2 ∧
      spans = begunSpans
  | _ => false

theorem resolveLive_begun {command : EncounterCommand}
    (hintent : command.intent = .startEncounter) (hbegins : beginsAsDrafted opening = true)
    (henveloped : checkEnvelope opening command = .ok ()) (hrevision : opening.revision + 1 ≤ maxU64)
    (hrolls : checkAll RawRollFacts.validate (begunDraft opening).rolls = .ok ())
    (hstate : (sealedState opening (begunDraft opening)).validate = .ok ())
    (hresolution : (begunResolution opening).validate = .ok ()) :
    resolveLive (fun _ => 0) 0 opening command = .ok (begunResolution opening, begunSpans) := by
  unfold beginsAsDrafted at hbegins
  split at hbegins
  · next n d cursor spans hrun =>
    rw [decide_eq_true_iff] at hbegins
    obtain ⟨rfl, hd, hr, hf, rfl, rfl⟩ := hbegins
    have hdraft : d = begunDraft opening := by
      cases d
      simp only at hd hr hf
      rw [hd, hr, hf]
    rw [hdraft] at hrun
    obtain ⟨t, hreturns, hfed⟩ := Prog.run_eq_ok.mp hrun
    have hseal : sealResolution opening begunNarration (begunDraft opening) = .ok (begunResolution opening) := by
      unfold sealResolution
      rw [rejectIf_of_not (Nat.not_lt.mpr hrevision), ok_bind, hrolls, ok_bind]
      show ((sealedState opening (begunDraft opening)).validate >>= fun _ =>
        (begunResolution opening).validate >>= fun _ => _) = _
      rw [hstate, ok_bind, hresolution]
      rfl
    have hresolved : Prog.Returns (resolveEncounter opening command) t (begunResolution opening) := by
      rw [resolveEncounter_returns]
      exact ⟨checkEnvelope_eq_ok.mp henveloped, begunNarration, _, hintent ▸ hreturns, hseal⟩
    unfold resolveLive
    rw [Prog.run_eq_ok.mpr ⟨t, hresolved, hfed⟩]
  · cases hbegins

/-- What is left of a commit once its command is resolved. -/
theorem commitLive_of_resolved {live : LiveEncounter} {version : Nat} {r : EncounterResolution}
    {spans : List DieCursorSpan} (hhero : live.state.hero.sourceCharacterId = none)
    (hcontrol : requirePlayerControl live.state = .ok ()) (hsession : live.session = checkedSession)
    (hrevision : live.state.revision = 1)
    (hresolve : resolveLive (fun _ => 0) live.cursor live.state
      { newEncounterCommand 1 "begin" .startEncounter with schemaVersion := version } = .ok (r, spans)) :
    commitLive plainService (fun _ => 0) "seed:local" live (beginAction version) = (do
      let records ← canonicalRollRecords localCampaignSessionId 2 "seed:local" r.rolls spans
      let legalActions ← (playerLegalActions r.state).mapError mapEncounterError
      let outcome : CommittedEncounterOutcomeDto :=
        ⟨encounterCommitSchemaVersion, localCampaignSessionId, 3, 2, none, r, records, legalActions⟩
      outcome.validatePlayerActionBoundary.mapError .invalidOutcome
      let event : SessionEventDto SessionEventPayload :=
        ⟨sessionSchemaVersion, localCampaignSessionId, 2, 1, .system, .encounterResolved
          ⟨encounterCommitSchemaVersion, localCampaignSessionId, 2,
            { newEncounterCommand 1 "begin" .startEncounter with schemaVersion := version }⟩ outcome .player⟩
      (validateSessionEventDto event).mapError .invalidOutcome
      return ⟨outcome, { checkedSession.value with updatedAtUnixMs := 1, lastEventSequence := 2 }, event, none⟩) := by
  have hbound : checkHeroBinding plainService.heroes (beginAction version).hero live.state = .ok () :=
    rejectIf_of_not (by rw [hhero]; decide)
  have hderived : (beginAction version).mutation.deriveCommand live.session live.projected.view =
      .ok (⟨encounterCommitSchemaVersion, localCampaignSessionId, 2,
        { newEncounterCommand 1 "begin" .startEncounter with schemaVersion := version }⟩, .player) := by
    rw [hsession]
    show (validateLocalEncounterCommand _ checkedSession live.projected.view >>= fun _ => _) = _
    have hvalid : validateLocalEncounterCommand ⟨encounterCommitSchemaVersion, localCampaignSessionId, 2,
        { newEncounterCommand 1 "begin" .startEncounter with schemaVersion := version }⟩ checkedSession
        live.projected.view = .ok () := by
      simp only [validateLocalEncounterCommand, validateRevisions, bind_eq_ok, exists_unit, rejectIf_eq_ok]
      refine ⟨by decide, by decide, not_not.mpr ?_⟩
      exact hrevision.symm
    rw [hvalid, ok_bind]
    show ((requirePlayerControl live.state).mapError _ >>= fun _ => _) = _
    rw [hcontrol]
    rfl
  unfold commitLive
  rw [hbound, ok_bind, hderived]
  show prepareMutation plainService live.session none _ 1 = _
  rw [hsession]
  unfold prepareMutation
  rw [rejectIf_of_not (by decide), ok_bind]
  show (resolveLive _ live.cursor live.state _ >>= fun _ => _) = _
  rw [hresolve]
  rfl

/-- An outcome that lists the player's actions is valid when its parts are. -/
theorem boundary_of_parts {o : CommittedEncounterOutcomeDto}
    (henvelope : ¬ (o.schemaVersion ≠ encounterCommitSchemaVersion ∨ isValidOpaqueId o.campaignSessionId = false ∨
      o.resultCampaignRevision = 0 ∨ o.eventSequence = 0 ∨ o.eventSequence + 1 ≠ o.resultCampaignRevision ∨
      maxU64 < o.eventSequence + 1 ∨ o.resolution.encounterId ≠ sootWightEncounterId))
    (hresolution : o.resolution.validate = .ok ()) (hhero : o.heroRevisionFits = true)
    (hlength : o.rollRecords.length = o.resolution.rolls.length)
    (hpairs : validateRollPairs o.campaignSessionId o.eventSequence none (o.resolution.rolls.zip o.rollRecords) =
      .ok ())
    (hactions : playerLegalActions o.resolution.state = .ok o.legalActions) :
    o.validatePlayerActionBoundary = .ok () := by
  have hv : o.resolution.state.Valid := (EncounterResolution.validate_eq_ok.mp hresolution).state
  obtain ⟨legacy, hlegacy, -⟩ := legalActions_yields hv
  simp only [CommittedEncounterOutcomeDto.validatePlayerActionBoundary, CommittedEncounterOutcomeDto.validate,
    bind_eq_ok, exists_unit, rejectIf_eq_ok, mapError_eq_ok, hhero, hlength, hpairs, hactions, hlegacy, hresolution,
    Except.ok.injEq]
  refine ⟨⟨henvelope, trivial, by decide, by simp, trivial, _, rfl, _, rfl, ?_⟩, _, rfl, by simp⟩
  exact fun h => h.1 rfl

/-- The canonical records of the two initiative rolls. -/
def begunRecords : List RollRecord :=
  [{ rollId := "roll:local-campaign:2:1", expression := ⟨1, 20, 2⟩, rolledDice := [1], keptDice := [1]
     modifierComponents := [⟨"srd-5.1-cc:modifier:dexterity-initiative", 2⟩], total := 3
     purpose := "encounter:initiative", actorId := canalWardenId, targetId := none, rollMode := .normal
     ruleset := .srd51, algorithmId := .chaCha20V1, seedReference := "seed:local", cursorBefore := 0
     cursorAfter := 1 },
   { rollId := "roll:local-campaign:2:2", expression := ⟨1, 20, 1⟩, rolledDice := [1], keptDice := [1]
     modifierComponents := [⟨"manchester-arcana-content:v1:modifier:soot-wight-initiative", 1⟩], total := 2
     purpose := "encounter:initiative", actorId := sootWightId, targetId := none, rollMode := .normal
     ruleset := .srd51, algorithmId := .chaCha20V1, seedReference := "seed:local", cursorBefore := 1
     cursorAfter := 2 }]

/-- The identifiers of the two initiative records. -/
theorem begunIds_valid : ∀ id ∈ ["roll:local-campaign:2:1", "roll:local-campaign:2:2", "encounter:initiative",
    canalWardenId, sootWightId, "seed:local", "srd-5.1-cc:modifier:dexterity-initiative",
    "manchester-arcana-content:v1:modifier:soot-wight-initiative"], isValidOpaqueId id = true := by
  simp only [List.forall_mem_cons, not_mem_nil, false_imp_iff, forall_true_iff, and_true]
  refine ⟨?_, ?_, ?_, ?_, ?_, ?_, ?_, ?_⟩
  all_goals decide

theorem begunRecords_valid : ∀ record ∈ begunRecords, record.validate = .ok () := by
  have hids := begunIds_valid
  simp only [List.forall_mem_cons, not_mem_nil, false_imp_iff, forall_true_iff, and_true] at hids
  obtain ⟨hfirst, hsecond, hpurpose, hwarden, hwight, hseed, hdexterity, hsoot⟩ := hids
  unfold begunRecords
  refine List.forall_mem_cons.mpr ⟨?_, List.forall_mem_singleton.mpr ?_⟩
  · simp only [RollRecord.validate, RollRecord.minimumWords, RollRecord.checkComponents, hfirst, hpurpose, hwarden, hseed, hdexterity]
    decide
  · simp only [RollRecord.validate, RollRecord.minimumWords, RollRecord.checkComponents, hsecond, hpurpose, hwight, hseed, hsoot]
    decide

theorem parse_begun : DiceExpression.parse "1d20+2" = .ok ⟨1, 20, 2⟩ ∧
    DiceExpression.parse "1d20+1" = .ok ⟨1, 20, 1⟩ := by decide

theorem rollId_begun : rollId localCampaignSessionId 2 1 = "roll:local-campaign:2:1" ∧
    rollId localCampaignSessionId 2 2 = "roll:local-campaign:2:2" := by decide

theorem rollPurposeId_begun : rollPurposeId .initiative = "encounter:initiative" := by decide

/-- A valid record of a roll of one die, as `canonicalRecord` makes it. -/
theorem canonicalRecord_of_one
    {span : DieCursorSpan} (hdice : raw.individualDice = [⟨span.sides, span.value⟩])
    (hparse : DiceExpression.parse raw.expression = .ok record.expression) (hvalid : record.validate = .ok ())
    (hrecord : record = ⟨rollId campaign sequence raw.sequence, record.expression, rolledFaces raw, keptFaces raw,
      (modifierComponents raw).mergeSort fun a b => !decide (b.name < a.name), raw.total,
      rollPurposeId raw.purpose, raw.actorId, raw.targetId, canonicalRollMode raw.mode, ruleset, .chaCha20V1,
      seedReference, span.cursorBefore, span.cursorAfter⟩) :
    canonicalRecord campaign sequence seedReference raw [span] = .ok record := by
  unfold canonicalRecord
  rw [hparse]
  rw [hrecord] at hvalid
  have hspans : rejectIf (raw.individualDice ≠ [span].map fun span => ⟨span.sides, span.value⟩)
      ApplicationError.invalidStoredState = .ok () := rejectIf_of_not (not_not.mpr hdice)
  show (rejectIf (raw.individualDice ≠ _) _ >>= fun _ => (RollRecord.fromRoll _ _ _).mapError _) = _
  rw [hspans, ok_bind]
  simp only [RollRecord.fromRoll, List.getLast_singleton]
  rw [hvalid, ok_bind, pure_eq]
  conv_rhs => rw [hrecord]
  rfl

theorem validateRollRecordPair_of_canonical {spans : List DieCursorSpan}
    (h : canonicalRecord campaign sequence seedReference raw spans = .ok record) :
    validateRollRecordPair campaign sequence raw record = .ok () := by
  simp only [canonicalRecord, bind_eq_ok, exists_unit, okOr_eq_ok, rejectIf_eq_ok, not_not, mapError_eq_ok,
    RollRecord.fromRoll, pure_eq, Except.ok.injEq] at h
  obtain ⟨first, -, last, -, -, expression, hparse, -, rfl⟩ := h
  unfold validateRollRecordPair
  rw [hparse]
  show rejectIf _ _ = _
  exact rejectIf_of_not (by simp)

theorem canonicalRecord_begun (opening : EncounterState) : ∀ p ∈ (begunDraft opening).rolls.zip
    (begunSpans.zip begunRecords),
    canonicalRecord localCampaignSessionId 2 "seed:local" p.1 [p.2.1] = .ok p.2.2 := by
  rintro p hp
  simp only [begunDraft, begunSpans, begunRecords, List.zip_cons_cons, List.zip_nil_right, mem_cons,
    not_mem_nil, or_false] at hp
  rcases hp with rfl | rfl
  · refine canonicalRecord_of_one ?_ parse_begun.1 (begunRecords_valid _ mem_cons_self) ?_
    · rfl
    show _ = RollRecord.mk (rollId localCampaignSessionId 2 1) _ _ _ _ _ (rollPurposeId .initiative) _ _ _ _ _ _ _ _
    rw [rollId_begun.1, rollPurposeId_begun]
    simp only [modifierComponents, initiativeOfOne, List.map_cons, List.map_nil, List.mergeSort_singleton]
    rfl
  · refine canonicalRecord_of_one ?_ parse_begun.2
      (begunRecords_valid _ (List.mem_cons_of_mem _ mem_cons_self)) ?_
    · rfl
    show _ = RollRecord.mk (rollId localCampaignSessionId 2 2) _ _ _ _ _ (rollPurposeId .initiative) _ _ _ _ _ _ _ _
    rw [rollId_begun.2, rollPurposeId_begun]
    simp only [modifierComponents, initiativeOfOne, List.map_cons, List.map_nil, List.mergeSort_singleton]
    rfl

theorem canonicalRollRecords_begun (opening : EncounterState) :
    canonicalRollRecords localCampaignSessionId 2 "seed:local" (begunDraft opening).rolls begunSpans =
      .ok begunRecords := by
  have hfirst := canonicalRecord_begun opening _ mem_cons_self
  have hsecond := canonicalRecord_begun opening _ (List.mem_cons_of_mem _ mem_cons_self)
  simp only [begunDraft, begunSpans, begunRecords] at hfirst hsecond ⊢
  simp only [canonicalRollRecords, initiativeOfOne, List.length_cons, List.length_nil,
    List.take_succ_cons, List.take_zero, List.drop_succ_cons, List.drop_zero] at hfirst hsecond ⊢
  rw [rejectIf_of_not (by decide), ok_bind, hfirst, ok_bind, rejectIf_of_not (by decide), ok_bind, hsecond]
  rfl

theorem validateRollPairs_begun (opening : EncounterState) :
    validateRollPairs localCampaignSessionId 2 none ((begunDraft opening).rolls.zip begunRecords) = .ok () := by
  have hfirst := validateRollRecordPair_of_canonical (canonicalRecord_begun opening _ mem_cons_self)
  have hsecond := validateRollRecordPair_of_canonical
    (canonicalRecord_begun opening _ (List.mem_cons_of_mem _ mem_cons_self))
  have hvalid := begunRecords_valid
  simp only [begunDraft, begunRecords, List.zip_cons_cons, List.zip_nil_right, List.forall_mem_cons] at hfirst hsecond hvalid ⊢
  simp only [validateRollPairs, hvalid.1, hvalid.2.1, hfirst, hsecond]
  rw [show (Except.ok () : Except RollError Unit).mapError _ = .ok () from rfl]
  rfl

/-- **The encounter begins** for a hero of no document, in any schema version whose opening comes to the draft. -/
theorem plainService_begun
    (hhero : opening.hero.sourceCharacterId = none) (hrevision : opening.revision = 1)
    (hencounter : opening.encounterId = sootWightEncounterId) (hversion : version ∈ [1, 2, 3])
    (hcontrol : requirePlayerControl opening = .ok ()) (hbegins : beginsAsDrafted opening = true)
    (henveloped : checkEnvelope opening
      { newEncounterCommand 1 "begin" .startEncounter with schemaVersion := version } = .ok ())
    (hrolls : checkAll RawRollFacts.validate (begunDraft opening).rolls = .ok ())
    (hstate : (sealedState opening (begunDraft opening)).validate = .ok ())
    (hresolution : (begunResolution opening).validate = .ok ()) :
    (commitLive plainService (fun _ => 0) "seed:local" (openLive checkedSession checkedEvents opening)
      (beginAction version)).toOption.isSome = true := by
  have hresolve := resolveLive_begun rfl hbegins henveloped (by rw [hrevision]; decide) hrolls hstate hresolution
  obtain ⟨actions, hactions⟩ := playerLegalActions_ok (EncounterState.validate_eq_ok.mp hstate)
  have hcommit := @commitLive_of_resolved (openLive checkedSession checkedEvents opening) version
    (begunResolution opening) begunSpans hhero hcontrol rfl hrevision hresolve
  have hrecords : canonicalRollRecords localCampaignSessionId 2 "seed:local" (begunResolution opening).rolls
      begunSpans = .ok begunRecords := canonicalRollRecords_begun opening
  have hplayer : playerLegalActions (begunResolution opening).state = .ok actions := hactions
  have hboundary : (CommittedEncounterOutcomeDto.mk encounterCommitSchemaVersion localCampaignSessionId 3 2 none
      (begunResolution opening) begunRecords actions).validatePlayerActionBoundary = .ok () := by
    refine boundary_of_parts ?_ hresolution ?_ rfl (validateRollPairs_begun opening) hactions
    · show ¬ (encounterCommitSchemaVersion ≠ encounterCommitSchemaVersion ∨
        isValidOpaqueId localCampaignSessionId = false ∨ 3 = 0 ∨ 2 = 0 ∨ 2 + 1 ≠ 3 ∨ maxU64 < 2 + 1 ∨
        opening.encounterId ≠ sootWightEncounterId)
      rw [hencounter]
      decide
    · show (if opening.schemaVersion = encounterSchemaVersion then opening.hero.sourceCharacterId.isSome == false
        else (opening.schemaVersion == legacyEncounterSchemaVersion ||
          opening.schemaVersion == liveV2EncounterSchemaVersion) && true) = true
      have hschema : version = opening.schemaVersion := (checkEnvelope_eq_ok.mp henveloped).schemaVersion
      rw [hhero, ← hschema]
      simp only [mem_cons, not_mem_nil, or_false] at hversion
      rcases hversion with rfl | rfl | rfl <;> rfl
  have hcommand : (CommitEncounterCommand.mk encounterCommitSchemaVersion localCampaignSessionId 2
      { newEncounterCommand 1 "begin" .startEncounter with schemaVersion := version }).validate = .ok () := by
    simp only [mem_cons, not_mem_nil, or_false] at hversion
    rcases hversion with rfl | rfl | rfl <;> decide
  have hevent : validateSessionEventDto ⟨sessionSchemaVersion, localCampaignSessionId, 2, 1, .system,
      .encounterResolved (CommitEncounterCommand.mk encounterCommitSchemaVersion localCampaignSessionId 2
        { newEncounterCommand 1 "begin" .startEncounter with schemaVersion := version })
        (CommittedEncounterOutcomeDto.mk encounterCommitSchemaVersion localCampaignSessionId 3 2 none
          (begunResolution opening) begunRecords actions) .player⟩ = .ok () := by
    simp only [validateSessionEventDto, bind_eq_ok, exists_unit, rejectIf_eq_ok]
    refine ⟨by decide, by decide, ?_⟩
    have hvalid := (seq_eq_ok.mp hboundary).1
    simp only [SessionEventPayload.validate, bind_eq_ok, exists_unit, hcommand, hvalid]
    rw [if_pos (by decide), hboundary, ok_bind]
    refine ⟨trivial, trivial, trivial, rfl, rejectIf_of_not ?_⟩
    show ¬ (EventActor.system ≠ .system ∨ localCampaignSessionId ≠ localCampaignSessionId ∨
      localCampaignSessionId ≠ localCampaignSessionId ∨ 2 ≠ 2 ∨ 2 + 1 ≠ 3 ∨ maxU64 < 2 + 1 ∨
      sootWightEncounterId ≠ opening.encounterId ∨ 1 ≠ opening.revision)
    rw [hencounter, hrevision]
    decide
  rw [hcommit, hrecords, ok_bind, hplayer]
  simp only [Except.mapError, ok_bind]
  rw [hboundary]
  simp only [ok_bind]
  rw [hevent]
  rfl

theorem plainService_prepares : (commitLive plainService (fun _ => 0) "seed:local"
    (openLive checkedSession checkedEvents (EncounterState.new .storyRecovery .runesUnderstood))
    (beginAction encounterSchemaVersion)).toOption.isSome = true :=
  plainService_begun rfl rfl rfl (by decide) (by decide) (by decide) (by decide)
    (by decide) (by decide) (by decide)

theorem projection_replays_begun : ∃ live,
    Run (LiveStep plainService (fun _ => 0) "seed:local")
      (openLive checkedSession checkedEvents (EncounterState.new .storyRecovery .runesUnderstood))
      [beginAction encounterSchemaVersion] live ∧
    projectEncounter live.session checkedOutcome live.events (fun _ => 0) "seed:local" none =
      .ok live.projected := by
  obtain ⟨live, hrun⟩ := plainService_begins plainService_prepares
  exact ⟨live, hrun, (projection_replays plainService (fun _ => 0) "seed:local" rfl
    ⟨checkedSession_made, rfl⟩ hrun none fun _ => rfl).1⟩

end ManchesterArcana.Application
