import ManchesterArcana.Application.Replay

/-!
# `Application.Evidence` — what an accepted event stream proves

A projection trusts nothing that was stored about an encounter but the commands: the dice are drawn again from
the campaign's stream and the engine is run again on them. So the encounter events of an accepted stream are
the record of one run of the engine (`Recorded`), and such a record is determined by its opening and its
intents (`Recorded.unique`). The opening is the one stored datum that is not recomputed: the hero and the
schema version of the first event.
-/

namespace ManchesterArcana.Application

open Effect Encounter Repository Rules

/-! ## Records -/

/-- What an encounter event keeps. -/
structure EncounterRecord where
  command : CommitEncounterCommand
  outcome : CommittedEncounterOutcomeDto
  commandOrigin : EncounterCommandOrigin

def encounterRecord (audit : StoredEvent) : Option EncounterRecord :=
  match audit.payload.payload with
  | .encounterResolved command outcome commandOrigin => some ⟨command, outcome, commandOrigin⟩
  | _ => none

/-- The encounter events of a stream, in order. -/
def encounterRecords (events : List StoredEvent) : List EncounterRecord := events.filterMap encounterRecord

def recordedIntents (events : List StoredEvent) : List EncounterIntent :=
  (encounterRecords events).map (·.command.command.intent)

def recordedResolutions (events : List StoredEvent) : List EncounterResolution :=
  (encounterRecords events).map (·.outcome.resolution)

/-- The dice of a resolution, roll by roll. -/
def recordedDice (resolution : EncounterResolution) : List RawDieFact :=
  resolution.rolls.flatMap (·.individualDice)

/-- Who issued a recorded command was entitled to it: a player when the player had control, the policy when it
    picks just this intent. Events from before origins were recorded say nothing. -/
def Entitled (s : EncounterState) (intent : EncounterIntent) : EncounterCommandOrigin → Prop
  | .legacySystem => True
  | .player => requirePlayerControl s = .ok ()
  | .deterministicPolicy policyId =>
    policyId = sootWightPolicyId ∧ selectSootWightPolicyIntent s = .ok intent

/-- **`records` are the record of one run of the engine** from a state and a cursor: every resolution is the one
    that the engine computes, with dice that are the stream's from where the last one stopped. -/
inductive Recorded (words : WordStream) : EncounterState → Nat → List EncounterRecord → EncounterState → Nat → Prop
  | nil (s : EncounterState) (cursor : Nat) : Recorded words s cursor [] s cursor
  | cons {s s' : EncounterState} {cursor middle next : Nat} {record : EncounterRecord}
      {records : List EncounterRecord} :
      Entitled s record.command.command.intent record.commandOrigin →
      Prog.Returns (resolveEncounter s record.command.command) ((recordedDice record.outcome.resolution).map asked)
        record.outcome.resolution →
      Drawn words cursor (recordedDice record.outcome.resolution) middle →
      Recorded words record.outcome.resolution.state middle records s' next →
      Recorded words s cursor (record :: records) s' next

/-! ## A record is determined by its intents -/

section Unique

variable {words : WordStream} {cursor next next' : Nat}

/-- **A program that is answered from the stream has one result only.** -/
theorem returns_drawn_unique {ε α : Type} {p : Rolling ε α} {dice dice' : List RawDieFact} {a a' : α}
    (h : Prog.Returns p (dice.map asked) a) (hd : Drawn words cursor dice next)
    (h' : Prog.Returns p (dice'.map asked) a') (hd' : Drawn words cursor dice' next') :
    a = a' ∧ next = next' := by
  induction p generalizing dice dice' cursor with
  | ok b =>
    obtain ⟨hnil, rfl⟩ := h.of_ok
    obtain ⟨hnil', rfl⟩ := h'.of_ok
    obtain rfl := List.map_eq_nil_iff.mp hnil
    obtain rfl := List.map_eq_nil_iff.mp hnil'
    exact ⟨rfl, hd.trans hd'.symm⟩
  | err e => exact absurd h Prog.returns_err
  | panic w => exact absurd h Prog.returns_panic
  | ask q k ih =>
    obtain ⟨r, t, ht, hrest⟩ := Prog.returns_ask.mp h
    obtain ⟨r', t', ht', hrest'⟩ := Prog.returns_ask.mp h'
    obtain ⟨die, rest, rfl, hdie, rfl⟩ := List.map_eq_cons_iff.mp ht
    obtain ⟨die', rest', rfl, hdie', rfl⟩ := List.map_eq_cons_iff.mp ht'
    obtain ⟨hsides, hvalue⟩ := Prod.mk.inj hdie
    obtain ⟨hsides', hvalue'⟩ := Prod.mk.inj hdie'
    obtain ⟨behind, hdraw, hdrawn⟩ := hd
    obtain ⟨behind', hdraw', hdrawn'⟩ := hd'
    -- The same question at the same cursor.
    rw [hsides, hvalue] at hdraw
    rw [hsides', hvalue', hdraw] at hdraw'
    obtain ⟨hr, hbehind⟩ := Prod.mk.inj (Except.ok.inj hdraw')
    subst hr hbehind
    exact ih r hrest hdrawn hrest' hdrawn'

/-- **A record is determined by its opening, its cursor and its intents.** -/
theorem Recorded.unique {s s₁ s₂ : EncounterState} {records records' : List EncounterRecord}
    (h : Recorded words s cursor records s₁ next) (h' : Recorded words s cursor records' s₂ next')
    (hintents : records.map (·.command.command.intent) = records'.map (·.command.command.intent)) :
    records.map (·.outcome.resolution) = records'.map (·.outcome.resolution) ∧ s₁ = s₂ ∧ next = next' := by
  induction h generalizing records' with
  | nil s cursor =>
    obtain rfl : records' = [] := List.map_eq_nil_iff.mp hintents.symm
    cases h'
    exact ⟨rfl, rfl, rfl⟩
  | @cons s s₁ cursor middle next record records _ hreturns hdrawn _ ih =>
    cases h' with
    | nil => cases hintents
    | @cons _ _ _ middle' _ record' records' _ hreturns' hdrawn' hrest' =>
      rw [List.map_cons, List.map_cons, List.cons.injEq] at hintents
      -- Beyond its envelope, a command matters by its intent only.
      obtain ⟨-, n, d, hintent, hseal⟩ := resolveEncounter_returns.mp hreturns
      obtain ⟨-, n', d', hintent', hseal'⟩ := resolveEncounter_returns.mp hreturns'
      rw [← hintents.1] at hintent'
      obtain ⟨hdraft, rfl⟩ := returns_drawn_unique hintent hdrawn hintent' hdrawn'
      obtain ⟨rfl, rfl⟩ := Prod.mk.inj hdraft
      rw [hseal] at hseal'
      have hsame : record.outcome.resolution = record'.outcome.resolution := Except.ok.inj hseal'
      rw [← hsame] at hrest'
      obtain ⟨hresolutions, hstate, hnext⟩ := ih hrest' hintents.2
      rw [List.map_cons, List.map_cons, hsame, hresolutions]
      exact ⟨rfl, hstate, hnext⟩

end Unique

/-! ## What a projection accepts -/

section Accepted

variable {words : WordStream} {seedReference : String} {check : ExplorationCheckOutcomeDto}

variable {origin : EncounterCommandOrigin} {audit : StoredEvent} {events : List StoredEvent}

theorem verifyOrigin_eq_ok {s : EncounterState} {intent : EncounterIntent} :
    verifyOrigin s intent origin = .ok () ↔ Entitled s intent origin := by
  cases origin with
  | legacySystem => exact iff_of_true rfl trivial
  | player => exact mapError_eq_ok
  | deterministicPolicy policyId =>
    simp only [verifyOrigin, Entitled, bind_eq_ok, exists_unit, rejectIf_eq_ok, mapError_eq_ok, not_not]
    constructor
    · rintro ⟨hpolicy, selected, hselected, rfl⟩
      exact ⟨hpolicy, hselected⟩
    · rintro ⟨hpolicy, hselected⟩
      exact ⟨hpolicy, intent, hselected, rfl⟩

/-- A valid encounter event has a record for every roll. -/
theorem rollRecords_length {event : SessionEventDto SessionEventPayload} {command : CommitEncounterCommand}
    {outcome : CommittedEncounterOutcomeDto}
    (h : validateSessionEventDto event = .ok ())
    (hpayload : event.payload = .encounterResolved command outcome origin) :
    outcome.rollRecords.length = outcome.resolution.rolls.length := by
  have houtcome : outcome.validate = .ok () := by
    simp only [validateSessionEventDto, bind_eq_ok, exists_unit] at h
    obtain ⟨-, -, h⟩ := h
    split at h
    all_goals
      simp only [bind_eq_ok, exists_unit, SessionEventPayload.validate, hpayload] at h
      tauto
  simp only [CommittedEncounterOutcomeDto.validate, bind_eq_ok, exists_unit, rejectIf_eq_ok, not_not] at houtcome
  exact houtcome.2.2.2.1

variable {replay replay' : Replay}

/-- What an accepted encounter event shows. -/
theorem replayEvent_encounter {record : EncounterRecord}
    (hrecord : encounterRecord audit = some record) (hvalid : validateSessionEventDto audit.payload = .ok ())
    (h : replayEvent words seedReference check replay audit = .ok replay') :
    Entitled replay.state record.command.command.intent record.commandOrigin ∧
      Prog.Returns (resolveEncounter replay.state record.command.command)
        ((recordedDice record.outcome.resolution).map asked) record.outcome.resolution ∧
      Drawn words replay.cursor (recordedDice record.outcome.resolution) replay'.cursor ∧
      replay'.state = record.outcome.resolution.state := by
  unfold encounterRecord at hrecord
  split at hrecord
  · next command outcome origin hpayload =>
    obtain rfl := Option.some.inj hrecord
    have hlength := rollRecords_length hvalid hpayload
    unfold replayEvent at h
    simp only [hpayload, bind_eq_ok, exists_unit, pure_eq, Except.ok.injEq, replayRecorded_eq_ok] at h
    obtain ⟨-, horigin, cursor, hrolls, replayed, ⟨rfl, hreturns⟩, visible, -, rfl⟩ := h
    have hdice : (outcome.resolution.rolls.zip outcome.rollRecords).flatMap (·.1.individualDice) =
        recordedDice outcome.resolution := by
      rw [← List.flatMap_map Prod.fst, List.map_fst_zip hlength.ge]
      rfl
    exact ⟨verifyOrigin_eq_ok.mp horigin, hreturns, hdice ▸ verifyRolls_drawn hrolls, rfl⟩
  · cases hrecord

/-- Every other event leaves state and cursor alone. -/
theorem replayEvent_other (hrecord : encounterRecord audit = none)
    (h : replayEvent words seedReference check replay audit = .ok replay') :
    replay'.state = replay.state ∧ replay'.cursor = replay.cursor := by
  unfold encounterRecord at hrecord
  unfold replayEvent at h
  cases hpayload : audit.payload.payload with
  | encounterResolved command outcome origin =>
    rw [hpayload] at hrecord
    cases hrecord
  | abilityCheckResolved characterId actionId result =>
    simp only [hpayload, bind_eq_ok, exists_unit, pure_eq, Except.ok.injEq] at h
    rw [← h.2]
    exact ⟨rfl, rfl⟩
  | other kind =>
    simp only [hpayload, Except.ok.injEq] at h
    rw [← h]
    exact ⟨rfl, rfl⟩

/-- **The events that are replayed are a record**, from where the replay stands. -/
theorem replayEvents_recorded
    (hvalid : ∀ audit ∈ events, validateSessionEventDto audit.payload = .ok ())
    (h : replayEvents words seedReference check replay events = .ok replay') :
    Recorded words replay.state replay.cursor (encounterRecords events) replay'.state replay'.cursor := by
  induction events generalizing replay with
  | nil =>
    obtain rfl := Except.ok.inj h
    exact .nil _ _
  | cons audit events ih =>
    simp only [replayEvents, bind_eq_ok] at h
    obtain ⟨middle, haudit, hrest⟩ := h
    obtain ⟨hmine, htheirs⟩ := List.forall_mem_cons.mp hvalid
    have hrecorded := ih htheirs hrest
    unfold encounterRecords
    cases hrecord : encounterRecord audit with
    | none =>
      obtain ⟨hstate, hcursor⟩ := replayEvent_other hrecord haudit
      rw [List.filterMap_cons_none hrecord, ← hstate, ← hcursor]
      exact hrecorded
    | some record =>
      obtain ⟨hentitled, hreturns, hdrawn, hstate⟩ := replayEvent_encounter hrecord hmine haudit
      rw [List.filterMap_cons_some hrecord]
      exact .cons hentitled hreturns hdrawn (hstate ▸ hrecorded)

/-- **A stream of events, each valid on its own, that the service accepts.** -/
structure Accepted (words : WordStream) (seedReference : String) (check : ExplorationCheckOutcomeDto)
    (session : StoredDocument SessionDto) (events : List StoredEvent) (current : Option EncounterHeroProfile)
    (projected : ProjectedEncounter) : Prop where
  sound : ∀ audit ∈ events, validateSessionEventDto audit.payload = .ok ()
  stream : validateEventStream session events = .ok ()
  projected : projectEncounter session check events words seedReference current = .ok projected

/-- The schema version and the hero that the encounter of a stream opens for. -/
def openedFor (events : List StoredEvent) (current : Option EncounterHeroProfile) :
    Nat × Option EncounterHeroProfile :=
  (firstEncounterProfile events).getD (encounterSchemaVersion, current)

/-- The opening of a stream depends on nothing else in it. -/
theorem openingState_openedFor (consequence : OpeningConsequence) (events : List StoredEvent)
    (current : Option EncounterHeroProfile) :
    openingState consequence (firstEncounterProfile events) current =
      openingState consequence (some (openedFor events current)) none := by
  unfold openedFor
  cases firstEncounterProfile events with
  | some first =>
    obtain ⟨version, profile⟩ := first
    cases profile with
    | none => rfl
    | some profile => rfl
  | none =>
    cases current with
    | none => rfl
    | some profile => rfl

theorem Accepted.recorded {session : StoredDocument SessionDto}
    {current : Option EncounterHeroProfile} {projected : ProjectedEncounter}
    (h : Accepted words seedReference check session events current projected) :
    ∃ opening, openingState (openingConsequence check) (some (openedFor events current)) none = .ok opening ∧
      Recorded words opening 0 (encounterRecords events) projected.view.state projected.nextCursor := by
  have hproject := h.projected
  simp only [projectEncounter, bind_eq_ok, exists_unit, mapError_eq_ok, pure_eq, Except.ok.injEq] at hproject
  obtain ⟨-, opening, hopening, replay, hreplay, actions, -, -, rfl⟩ := hproject
  rw [openingState_openedFor] at hopening
  exact ⟨opening, hopening, replayEvents_recorded h.sound hreplay⟩

/-- **An accepted stream is evidence.** Its encounter events are the record of one run of the engine, from the
    opening and the first word of the campaign's dice. And whatever else was done to the store: another accepted
    stream with the same dice, check and opening and with the same intents has the same resolutions, and ends in
    the same state and at the same cursor. -/
theorem accepted_stream_is_evidence {session : StoredDocument SessionDto} {events : List StoredEvent}
    {current : Option EncounterHeroProfile} {projected : ProjectedEncounter}
    (h : Accepted words seedReference check session events current projected) :
    (∃ opening, openingState (openingConsequence check) (some (openedFor events current)) none = .ok opening ∧
      Recorded words opening 0 (encounterRecords events) projected.view.state projected.nextCursor) ∧
    ∀ session' events' current' projected',
      Accepted words seedReference check session' events' current' projected' →
      openedFor events current = openedFor events' current' →
      recordedIntents events = recordedIntents events' →
      recordedResolutions events = recordedResolutions events' ∧
        projected.view.state = projected'.view.state ∧ projected.nextCursor = projected'.nextCursor := by
  refine ⟨h.recorded, fun session' events' current' projected' h' hopened hintents => ?_⟩
  obtain ⟨opening, hopening, hrecorded⟩ := h.recorded
  obtain ⟨opening', hopening', hrecorded'⟩ := h'.recorded
  rw [hopened, hopening'] at hopening
  obtain rfl := Except.ok.inj hopening
  exact hrecorded.unique hrecorded' hintents

end Accepted

/-! ## Two schema versions -/

variable {opening : EncounterState}

variable {version : Nat}

/-- A historical encounter of the Canal Warden opens and reopens alike. -/
theorem newAtSchema_reopens {consequence : OpeningConsequence}
    (h : EncounterState.newAtSchema .storyRecovery consequence version = .ok opening)
    (hversion : version ≠ encounterSchemaVersion) :
    opening.Valid ∧ opening.status = .ready ∧ opening.revision = 1 ∧ opening.schemaVersion = version ∧
      opening.heroProfile = none ∧ Reopens consequence opening := by
  have hopen := h
  unfold EncounterState.newAtSchema at hopen
  rw [if_pos hversion] at hopen
  simp only [EncounterState.pinHistoricalSchemaForReplay, bind_eq_ok, exists_unit, pure_eq, Except.ok.injEq,
    EncounterState.validate_eq_ok] at hopen
  obtain ⟨-, hv, hopening⟩ := hopen
  rw [hopening] at hv
  have hschema : opening.schemaVersion = version := by rw [← hopening]
  have hprofile : opening.heroProfile = none := by
    rw [← hopening]
    rfl
  refine ⟨hv, ?_, ?_, hschema, hprofile, fun current => ?_⟩
  · rw [← hopening]
    rfl
  · rw [← hopening]
    rfl
  · rw [hprofile, hschema]
    exact h

/-- What one commit on the encounter as it opens leaves is accepted. -/
theorem begun_accepted {app : ApplicationService Empty CommittedEncounterOutcomeDto (List UInt8)}
    {words : WordStream} {seedReference : String} {session : StoredDocument SessionDto}
    {events : List StoredEvent} {check : ExplorationCheckOutcomeDto}
    {a : LiveAction Empty} {live : LiveEncounter} (hmade : MadeCheck session events check)
    (hsound : ∀ audit ∈ events, validateSessionEventDto audit.payload = .ok ()) (hv : opening.Valid)
    (hready : opening.status = .ready) (hone : opening.revision = 1)
    (hreopens : Reopens (openingConsequence check) opening)
    (hstep : LiveStep app words seedReference (openLive session events opening) a live) :
    Accepted words seedReference check live.session live.events none live.projected ∧
      live.state.schemaVersion = opening.schemaVersion ∧
      openedFor live.events none = (opening.schemaVersion, opening.heroProfile) := by
  have hm : Mirrored words seedReference check opening live := (openLive_mirrored hmade hv).step hready hstep
  have hlatest : live.latestOutcome ≠ none := by
    obtain ⟨_, _, _, _, -, -, -, -, rfl⟩ := hstep
    exact Option.some_ne_none _
  have hproject := hm.project hready hone hreopens none fun hnone => absurd hnone hlatest
  refine ⟨⟨?_, hm.stream, hproject⟩, hm.schemaVersion, ?_⟩
  · obtain ⟨command, origin, prepared, source, -, -, hprepared, -, rfl⟩ := hstep
    obtain ⟨spans, hp⟩ := prepareMutation_prepares hprepared
    intro audit haudit
    rcases List.mem_append.mp haudit with hold | hnew
    · exact hsound audit hold
    · obtain rfl := List.mem_singleton.mp hnew
      exact hp.sound
  · have hfits := hm.latest
    unfold LatestFits at hfits
    cases hl : live.latestOutcome with
    | none => exact absurd hl hlatest
    | some outcome =>
      rw [hl] at hfits
      unfold openedFor
      rw [hfits.1]
      rfl

/-- The plain service begins an encounter whose stream is accepted, in each schema version. -/
theorem plainService_accepted (hv : opening.Valid)
    (hready : opening.status = .ready) (hone : opening.revision = 1)
    (hreopens : Reopens .runesUnderstood opening)
    (h : (commitLive plainService (fun _ => 0) "seed:local" (openLive checkedSession checkedEvents opening)
      (beginAction version)).toOption.isSome = true) :
    ∃ live : LiveEncounter, Accepted (fun _ => 0) "seed:local" checkedOutcome live.session live.events none live.projected ∧
      live.state.schemaVersion = opening.schemaVersion ∧
      openedFor live.events none = (opening.schemaVersion, opening.heroProfile) ∧
      recordedIntents live.events = [.startEncounter] := by
  obtain ⟨live, hrun⟩ := plainService_begins h
  obtain ⟨start, hempty, hstep⟩ := @Run.of_snoc _ _ _ _ _ _ [] hrun
  cases hempty
  have hsound : ∀ audit ∈ checkedEvents, validateSessionEventDto audit.payload = .ok () := by decide
  obtain ⟨haccepted, hschema, hopened⟩ := begun_accepted checkedSession_made hsound hv hready hone hreopens hstep
  refine ⟨live, haccepted, hschema, hopened, ?_⟩
  obtain ⟨command, origin, prepared, source, -, hderived, hprepared, -, rfl⟩ := hstep
  obtain ⟨spans, hp⟩ := prepareMutation_prepares hprepared
  simp only [beginAction, EncounterMutation.deriveCommand, bind_eq_ok, exists_unit, pure_eq, Except.ok.injEq,
    Prod.mk.injEq] at hderived
  obtain ⟨-, -, rfl, rfl⟩ := hderived
  unfold recordedIntents encounterRecords
  rw [List.filterMap_append]
  simp only [openLive, checkedEvents, encounterRecord, hp.payload, List.filterMap_cons, List.filterMap_nil,
    List.nil_append, List.map_cons, List.map_nil]
  rfl

/-- The encounter that the plain service begins in the live schema. -/
theorem live_accepted : ∃ live : LiveEncounter,
    Accepted (fun _ => 0) "seed:local" checkedOutcome live.session live.events none live.projected ∧
      live.state.schemaVersion = encounterSchemaVersion ∧
      openedFor live.events none = (encounterSchemaVersion, none) ∧
      recordedIntents live.events = [.startEncounter] :=
  plainService_accepted EncounterState.new_valid rfl rfl (fun _ => rfl) plainService_prepares

theorem accepted_stream_is_evidence_begun : ∃ live : LiveEncounter,
    Accepted (fun _ => 0) "seed:local" checkedOutcome live.session live.events none live.projected ∧
    recordedIntents live.events = [.startEncounter] ∧
    ∃ opening, Recorded (fun _ => 0) opening 0 (encounterRecords live.events) live.state live.cursor := by
  obtain ⟨live, haccepted, -, -, hintents⟩ := live_accepted
  obtain ⟨opening, -, hrecorded⟩ := (accepted_stream_is_evidence haccepted).1
  exact ⟨live, haccepted, hintents, opening, hrecorded⟩

/-- The same encounter, in the schema version before. -/
def historicalOpening : EncounterState :=
  { EncounterState.new .storyRecovery .runesUnderstood with
    schemaVersion := liveV2EncounterSchemaVersion
    contentPackId := legacyEncounterContentPackId
    liveQ04 := none }

theorem newAtSchema_historical : EncounterState.newAtSchema .storyRecovery .runesUnderstood
    liveV2EncounterSchemaVersion = .ok historicalOpening := by
  have hv : historicalOpening.validate = .ok () := by decide
  unfold EncounterState.newAtSchema EncounterState.pinHistoricalSchemaForReplay
  rw [if_pos (by decide), rejectIf_of_not (by decide), ok_bind]
  show (historicalOpening.validate >>= fun _ => pure historicalOpening) = _
  rw [hv]
  rfl

theorem plainService_prepares_historical : (commitLive plainService (fun _ => 0) "seed:local"
    (openLive checkedSession checkedEvents historicalOpening)
    (beginAction liveV2EncounterSchemaVersion)).toOption.isSome = true :=
  plainService_begun rfl rfl rfl (by decide) (by decide) (by decide) (by decide)
    (by decide) (by decide) (by decide)

/-- **The opening's schema version is not determined by the rest**: the same dice, the same check, the same (absent)
    hero and the same intents, but the one encounter was begun in the version before, and the states differ. -/
theorem accepted_streams_of_two_schemas : ¬ ∀ words seedReference check session events current projected
      session' events' current' projected',
    Accepted words seedReference check session events current projected →
    Accepted words seedReference check session' events' current' projected' →
    (openedFor events current).2 = (openedFor events' current').2 →
    recordedIntents events = recordedIntents events' →
    recordedResolutions events = recordedResolutions events' ∧
      projected.view.state = projected'.view.state ∧ projected.nextCursor = projected'.nextCursor := by
  intro h
  obtain ⟨hv, hready, hone, hschema, hprofile, hreopens⟩ := newAtSchema_reopens newAtSchema_historical (by decide)
  obtain ⟨old, hold, hversion, hopened, hintents⟩ :=
    plainService_accepted hv hready hone hreopens plainService_prepares_historical
  obtain ⟨live, hlive, hversion', hopened', hintents'⟩ := live_accepted
  have hhero : (openedFor old.events none).2 = (openedFor live.events none).2 := by
    rw [hopened, hopened', hprofile]
  have hsame := (h _ _ _ _ _ _ _ _ _ _ _ hold hlive hhero (hintents.trans hintents'.symm)).2.1
  have hstate : old.state = live.state := hsame
  rw [hstate, hversion', hschema] at hversion
  cases hversion

end ManchesterArcana.Application
