import ManchesterArcana.Repository.TurnHistory

/-!
# `Repository.Readback` — which committed turns can be read back

What fails is decoding. Every document a commit inserts has a `mode` and a `phase`, which the reader does not
declare, so a campaign's history is readable exactly as long as no turn of it has been committed.
-/

namespace ManchesterArcana.Repository

open Effect Store

variable {π : Type} {payloads : SessionPayload π} {codec : EventCodec π}

/-! ## Following the history of decodable turns -/

section Following

variable {s : TurnStore} {item : Document → CampaignTurnHistoryItem π} {limit : Nat}

/-- Behind the guards, a fetch decodes what the cursor finds and cuts it to the limit. -/
theorem fetchHistory_eq_gather (howner : isValidOpaqueId s.campaign.ownerAccountId = true)
    (hid : isValidOpaqueId s.campaign.id = true)
    (hmaster : s.campaign.activeGameMaster s.campaign.ownerAccountId = true)
    (hpositive : 1 ≤ limit) (hlimit : limit ≤ campaignHistoryMaxLimit)
    {after : Nat} (hafter : after ≤ i64Max) :
    fetchHistory payloads codec s s.campaign.ownerAccountId s.campaign.id limit after =
      (gather (historyItem payloads codec)
        (((findDocs (.both (.field "campaign_id" (.equals (.string s.campaign.id)))
          (.field "sequence" (.greaterThan after))) s.turnEvents).mergeSort historyOrder).take
            (limit + 1))).map fun items =>
        if limit < items.length then (items.take limit, (items.take limit).getLast?.map (·.turnNumber))
        else (items, none) := by
  have hcursor : toI64 ((some after).getD 0) "turn history cursor" = .ok (after : Int) := by
    unfold toI64
    rw [Option.getD_some, rejectIf_of_not (Nat.not_lt.mpr hafter)]
    rfl
  unfold fetchHistory listCampaignTurnHistory
  rw [rejectIf_of_not (by rw [howner]; exact Bool.noConfusion), ok_bind,
    rejectIf_of_not (by rw [hid]; exact Bool.noConfusion), ok_bind, rejectIf_of_not (by omega), ok_bind,
    rejectIf_of_not (fun h => h ⟨rfl, rfl, hmaster⟩), ok_bind, hcursor, ok_bind]
  dsimp only
  cases gather (historyItem payloads codec)
      (((findDocs (.both (.field "campaign_id" (.equals (.string s.campaign.id)))
        (.field "sequence" (.greaterThan after))) s.turnEvents).mergeSort historyOrder).take
          (limit + 1)) with
  | error e => rfl
  | ok items =>
    rw [ok_bind]
    by_cases hmore : limit < items.length
    · rw [if_pos hmore]
      show Except.ok _ = Except.ok (if limit < items.length then _ else _)
      rw [if_pos hmore]
    · rw [if_neg hmore]
      show Except.ok _ = Except.ok (if limit < items.length then _ else _)
      rw [if_neg hmore]

/-- A campaign without turns has one empty page. -/
theorem fetchHistory_empty (howner : isValidOpaqueId s.campaign.ownerAccountId = true)
    (hid : isValidOpaqueId s.campaign.id = true)
    (hmaster : s.campaign.activeGameMaster s.campaign.ownerAccountId = true)
    (hpositive : 1 ≤ limit) (hlimit : limit ≤ campaignHistoryMaxLimit)
    (hturns : s.turnsOf s.campaign.id = []) :
    fetchHistory payloads codec s s.campaign.ownerAccountId s.campaign.id limit 0 = .ok ([], none) := by
  have hfound : findDocs (.both (.field "campaign_id" (.equals (.string s.campaign.id)))
      (.field "sequence" (.greaterThan (0 : Nat)))) s.turnEvents = [] := by
    rw [List.eq_nil_iff_forall_not_mem]
    intro d hd
    obtain ⟨hmem, hmatch⟩ := mem_findDocs.mp hd
    rw [Filter.matchesDoc_both, Bool.and_eq_true] at hmatch
    have hturn : d ∈ s.turnsOf s.campaign.id := mem_findDocs.mpr ⟨hmem, hmatch.1⟩
    rw [hturns] at hturn
    exact List.not_mem_nil hturn
  rw [fetchHistory_eq_gather howner hid hmaster hpositive hlimit (Nat.zero_le _), hfound,
    List.mergeSort_nil, List.take_nil]
  rfl

end Following

/-! ## Runs of commits -/

variable {s s' : TurnStore} {request : CommitRequest π}

/-- What a successful commit leaves behind. -/
theorem commitSessionEventInternal_spec
    (h : commitSessionEventInternal payloads codec s request = .ok s') :
    request.session.id = s.campaign.id ∧ s'.campaign.id = s.campaign.id ∧
      ∃ playSession, s'.turnEvents =
        s.turnEvents ++ [(preparedTurn payloads request playSession).document codec] := by
  unfold commitSessionEventInternal at h
  simp only [bind_eq_ok, exists_unit, rejectIf_eq_ok, Bool.not_eq_false, okOr_eq_ok] at h
  obtain ⟨-, -, -, -, -, -, -, haccess, -, -, -, -, -, -, -, -, playSession, -, -, -, -, hmk⟩ := h
  cases hmk
  unfold Campaign.accessible at haccess
  simp only [Bool.and_eq_true, beq_iff_eq] at haccess
  exact ⟨haccess.1.1.symm, rfl, playSession, rfl⟩

/-- **No committed turn can be decoded**: the reader denies the field `mode`. -/
theorem decode_committedTurn (turn : CommittedTurn π) :
    TurnEventDocument.decode codec (turn.document codec) = none := by
  have hmode : (("mode", Bson.string turn.mode) : String × Bson) ∈ turn.document codec := by
    unfold CommittedTurn.document
    simp
  have hunknown : "mode" ∉ turnEventFields := by decide
  have hdenied : Document.onlyKeys (turn.document codec) turnEventFields = none :=
    Document.onlyKeys_eq_none hmode hunknown
  unfold TurnEventDocument.decode
  rw [hdenied]
  rfl

theorem preparedTurn_campaign (request : CommitRequest π) (playSession : String) :
    ((preparedTurn payloads request playSession).document codec).get "campaign_id" =
      some (.string request.session.id) := rfl

/-- A run keeps the campaign, and every turn of it stays in the collection. -/
theorem commitAll_turns {requests : List (CommitRequest π)}
    (h : commitAll payloads codec s requests = .ok s') :
    s'.campaign.id = s.campaign.id ∧ ∀ d ∈ s.turnEvents, d ∈ s'.turnEvents := by
  induction requests generalizing s with
  | nil =>
    cases h
    exact ⟨rfl, fun d hd => hd⟩
  | cons request rest ih =>
    obtain ⟨mid, hstep, hrest⟩ := bind_eq_ok.mp h
    obtain ⟨-, hid, playSession, hturns⟩ := commitSessionEventInternal_spec hstep
    obtain ⟨hcampaign, hkept⟩ := ih hrest
    refine ⟨hcampaign.trans hid, fun d hd => hkept d ?_⟩
    rw [hturns]
    exact List.mem_append_left _ hd

/-- After a run with at least one commit, a turn of the campaign is stored that cannot be decoded. -/
theorem commitAll_undecodable {rest : List (CommitRequest π)}
    (h : commitAll payloads codec s (request :: rest) = .ok s') :
    ∃ d ∈ s'.turnsOf s'.campaign.id, TurnEventDocument.decode codec d = none := by
  obtain ⟨mid, hstep, hrest⟩ := bind_eq_ok.mp h
  obtain ⟨hsession, hid, playSession, hturns⟩ := commitSessionEventInternal_spec hstep
  obtain ⟨hcampaign, hkept⟩ := commitAll_turns hrest
  refine ⟨(preparedTurn payloads request playSession).document codec, ?_, decode_committedTurn _⟩
  refine mem_findDocs.mpr ⟨hkept _ ?_, ?_⟩
  · rw [hturns]
    exact List.mem_append_right _ List.mem_cons_self
  · rw [Filter.matchesDoc_field, preparedTurn_campaign, hsession, hcampaign, hid]
    show (Scalar.string s.campaign.id == Scalar.string s.campaign.id) = true
    rw [beq_self_eq_true]

/-! ## The law of the history -/

/-- A campaign as it is created: opaque identifiers, its owner an active game master, and no turn yet. -/
structure NewCampaign (s : TurnStore) : Prop where
  id : isValidOpaqueId s.campaign.id = true
  owner : isValidOpaqueId s.campaign.ownerAccountId = true
  master : s.campaign.activeGameMaster s.campaign.ownerAccountId = true
  turns : s.turnsOf s.campaign.id = []

/-- Every stored turn of the campaign is decoded and accepted, and its owner, following the pages of the
    history with any supported limit, reads exactly `events`, in order, and stops. -/
structure HistoryReadable (payloads : SessionPayload π) (codec : EventCodec π) (s : TurnStore)
    (events : List (SessionEventDto π)) : Prop where
  decodable : ∀ d ∈ s.turnsOf s.campaign.id, ∃ turn item,
    TurnEventDocument.decode codec d = some turn ∧ turnHistoryFromDocument payloads turn = .ok item
  complete : ∀ limit, 1 ≤ limit → limit ≤ campaignHistoryMaxLimit → ∃ items,
    Followed (fetchHistory payloads codec s s.campaign.ownerAccountId s.campaign.id limit) 0 items ∧
      items.map (·.event) = events

/-- **The history of a campaign can be read back exactly when nothing was committed to it.** -/
theorem historyReadable_iff {s s' : TurnStore} {requests : List (CommitRequest π)} (hnew : NewCampaign s)
    (h : commitAll payloads codec s requests = .ok s') :
    HistoryReadable payloads codec s' (requests.map (·.event)) ↔ requests = [] := by
  constructor
  · intro hreadable
    cases requests with
    | nil => rfl
    | cons request rest =>
      obtain ⟨d, hd, hnone⟩ := commitAll_undecodable h
      obtain ⟨turn, item, hsome, -⟩ := hreadable.decodable d hd
      rw [hnone] at hsome
      cases hsome
  · rintro rfl
    cases h
    refine ⟨?_, fun limit hpositive hlimit => ⟨[], ?_, rfl⟩⟩
    · rw [hnew.turns]
      exact fun d hd => absurd hd List.not_mem_nil
    · exact .last (fetchHistory_empty hnew.owner hnew.id hnew.master hpositive hlimit hnew.turns)

/-! ## A session that was started -/

/-- The two payloads of a session's own lifecycle. -/
inductive SessionLifecycle where
  | sessionStarted
  | sessionEnded
  deriving DecidableEq, Repr

/-- Lifecycle events are the system's. -/
def sessionLifecyclePayload : SessionPayload SessionLifecycle where
  validate event :=
    rejectIf (event.actor ≠ .system) "session lifecycle events must be committed by the system"
  characterId _ := none
  endsSession payload := payload == .sessionEnded
  resolvesEncounter _ := false

/-- The stored form of a lifecycle event. -/
def sessionLifecycleCodec : EventCodec SessionLifecycle where
  encode event := .document [("schema_version", .integer event.schemaVersion),
    ("session_id", .string event.sessionId), ("sequence", .integer event.sequence),
    ("occurred_at_unix_ms", .integer event.occurredAtUnixMs),
    ("actor", .document [("type", .string "system")]),
    ("payload", .document [("type", .string
      (match event.payload with
        | .sessionStarted => "session_started"
        | .sessionEnded => "session_ended"))])]
  decode
    | .document fields => do
      let schemaVersion ← Document.getInt fields "schema_version"
      let sessionId ← Document.getStr fields "session_id"
      let sequence ← Document.getInt fields "sequence"
      let occurredAt ← Document.getInt fields "occurred_at_unix_ms"
      let payload ← Document.getDocument fields "payload"
      let kind ← Document.getStr payload "type"
      let payload ← if kind = "session_started" then some SessionLifecycle.sessionStarted
        else if kind = "session_ended" then some .sessionEnded else none
      return ⟨schemaVersion.toNat, sessionId, sequence.toNat, occurredAt.toNat, .system, payload⟩
    | _ => none

/-- An open campaign with an empty turn collection. -/
def openCampaign : TurnStore where
  campaign := {
    id := "campaign-1", ownerAccountId := "owner-1"
    members := [⟨"owner-1", "game_master", "active"⟩], lifecycleState := "open", gameplayRevision := 1
    session := ⟨1, "campaign-1", "srd-5.1", "Canal", .active, [], 1, 1, 0⟩ }
  turnEvents := []

/-- The first event of its session. -/
def sessionStart : CommitRequest SessionLifecycle where
  actorAccountId := "owner-1"
  auditId := "turn-1"
  session := ⟨1, "campaign-1", "srd-5.1", "Canal", .active, [], 1, 2, 1⟩
  expectedRevision := 1
  event := ⟨1, "campaign-1", 1, 2, .system, .sessionStarted⟩
  correlationId := none
  now := 0
  activePlaySession := some "play-1"
  otherWrites := .ok ()

theorem openCampaign_new : NewCampaign openCampaign :=
  ⟨by decide, by decide, by decide, rfl⟩

/-- The start of the session is committed. -/
theorem sessionStart_commits : ∃ s, commitAll sessionLifecyclePayload sessionLifecycleCodec openCampaign
    [sessionStart] = .ok s := by
  have hok : (commitAll sessionLifecyclePayload sessionLifecycleCodec openCampaign
      [sessionStart]).isOk = true := by decide
  cases hcommit : commitAll sessionLifecyclePayload sessionLifecycleCodec openCampaign [sessionStart] with
  | error e =>
    rw [hcommit] at hok
    cases hok
  | ok s => exact ⟨s, rfl⟩

/-- The iff at a run of one commit. -/
theorem historyReadable_iff_sessionStart :
    ∃ s, commitAll sessionLifecyclePayload sessionLifecycleCodec openCampaign [sessionStart] = .ok s ∧
      (HistoryReadable sessionLifecyclePayload sessionLifecycleCodec s [sessionStart.event] ↔
        [sessionStart] = []) := by
  obtain ⟨s, hs⟩ := sessionStart_commits
  exact ⟨s, hs, historyReadable_iff openCampaign_new hs⟩

/-- **The start of a session cannot be read back.** -/
theorem sessionStart_unreadable :
    NewCampaign openCampaign ∧
    ∃ s, commitAll sessionLifecyclePayload sessionLifecycleCodec openCampaign [sessionStart] = .ok s ∧
      ¬ HistoryReadable sessionLifecyclePayload sessionLifecycleCodec s [sessionStart.event] := by
  obtain ⟨s, hs⟩ := sessionStart_commits
  refine ⟨openCampaign_new, s, hs, fun hreadable => ?_⟩
  obtain ⟨d, hd, hnone⟩ := commitAll_undecodable hs
  obtain ⟨turn, item, hsome, -⟩ := hreadable.decodable d hd
  rw [hnone] at hsome
  cases hsome

end ManchesterArcana.Repository
