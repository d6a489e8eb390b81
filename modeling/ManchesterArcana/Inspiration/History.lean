import ManchesterArcana.Inspiration.Drawing

/-!
# `Inspiration.History` — the selections of a campaign, over whole runs

A selection writes the cursor into the campaign document, so that two selections of a campaign never pass each other.
Cooldowns are kept and the cursor intervals chain in every run.

Source versions are told apart by their revision, prompts and recorded versions by id and digest. Two open versions of
one source are both counted, under the prompt of the first and with the revision of the last (`versions_count_twice`).
`selection_history` says what every selection keeps otherwise.
-/

namespace ManchesterArcana.Inspiration

open Effect Store
open List (cons_append map_map mem_append mem_cons_self mem_map mem_singleton not_mem_nil)

/-! ## The law -/

/-- The first selection leaves the second one's cooldown, where both are of one source. -/
def SelectionDocument.LeavesCooldown (x y : SelectionDocument) : Prop :=
  x.campaignId = y.campaignId → ∀ b ∈ x.selected, ∀ b' ∈ y.selected, b.sourceId = b'.sourceId →
    x.turnNumber + (b'.nextEligibleTurn - y.turnNumber) ≤ y.turnNumber

/-- The cursor intervals follow one another from one cursor to another. -/
def ChainFrom : Nat → List SelectionDocument → Nat → Prop
  | start, [], stop => start = stop
  | start, x :: xs, stop => x.cursorBefore = start ∧ start ≤ x.cursorAfter ∧ ChainFrom x.cursorAfter xs stop

/-- The version as it is registered, whatever its review. -/
def InspirationStore.Registered (s : InspirationStore) (d : SourceDocument) : Prop :=
  ∃ d' ∈ s.sources, d' = { d with reviewState := d'.reviewState, q11Screened := d'.q11Screened }

def InspirationCampaignDocument.rngCursor (c : InspirationCampaignDocument) : Nat :=
  (c.safety.map (·.rngCursor)).getD 0

/-- The selections of a campaign, in order. -/
def InspirationStore.selectionsOf (s : InspirationStore) (campaignId : String) : List SelectionDocument :=
  s.selections.filter (·.campaignId = campaignId)

/-- What holds of the selections in every run. -/
structure InspirationStore.History (s : InspirationStore) : Prop where
  campaignIds : (s.campaigns.map (·.id)).Nodup
  campaignOf : ∀ x ∈ s.selections, ∃ c ∈ s.campaigns, c.id = x.campaignId
  keys : (s.selections.map fun x => (x.campaignId, x.idempotencyKey)).Nodup
  chained : ∀ c ∈ s.campaigns, ∃ start, ChainFrom start (s.selectionsOf c.id) c.rngCursor
  spaced : s.selections.Pairwise SelectionDocument.LeavesCooldown

/-- Every selection that is drawn finds one version of each source. -/
def Versioned (c : Committed InspirationJob InspirationStore) : Prop :=
  ∀ words deployment selectionId command prompts now,
    c.job = .reserveSelection words deployment selectionId command prompts now →
    ∀ campaign safety turnNumber partyLevel, campaign ∈ c.snapshot.campaigns →
      campaign.id = command.campaignSessionId → campaign.safety = some safety →
      (∀ x ∈ c.snapshot.selections, ¬ (x.campaignId = command.campaignSessionId ∧
        x.idempotencyKey = command.idempotencyKey)) →
      campaign.revision = command.expectedCampaignRevision → safety.revision = command.expectedSettingsRevision →
      c.snapshot.trustedTriggerWindow campaign = .ok (some turnNumber) →
      earlyReason deployment (c.snapshot.control.getD defaultGlobalControl) safety = none →
      c.snapshot.trustedPartyLevel command.campaignSessionId = .ok partyLevel →
      SingleVersion (c.snapshot.openSources command campaign.themeId safety prompts now)
        (c.snapshot.eligibility command.campaignSessionId safety
          (c.snapshot.openSources command campaign.themeId safety prompts now) partyLevel turnNumber)

/-- **What the selections keep**: they are spaced, chained and counted, and each is the answer to a retry. -/
structure InspirationStore.SelectionLaw (draw : WeightedDraw) (s : InspirationStore) : Prop where
  history : s.History
  counted : ∀ x ∈ s.selections, ∃ docs : List SourceDocument, (∀ d ∈ docs, s.Registered d) ∧ x.Counted draw docs
  retried : ∀ x ∈ s.selections, ∀ words deployment selectionId command prompts now,
    command.campaignSessionId = x.campaignId → command.idempotencyKey = x.idempotencyKey →
    command.requestFingerprint = x.requestFingerprint →
    transact draw (.reserveSelection words deployment selectionId command prompts now) s =
      .ok (decided [] (.ok (.selection x)))

/-! ## Chains -/

variable {x : SelectionDocument} {campaignId : String}

theorem ChainFrom.append {start stop : Nat} {xs : List SelectionDocument} (h : ChainFrom start xs stop)
    (hbefore : x.cursorBefore = stop) (hle : stop ≤ x.cursorAfter) :
    ChainFrom start (xs ++ [x]) x.cursorAfter := by
  induction xs generalizing start with
  | nil =>
    have hstart : start = stop := h
    exact ⟨hbefore.trans hstart.symm, hstart ▸ hle, rfl⟩
  | cons y xs ih =>
    obtain ⟨hy, hyle, hrest⟩ := h
    exact ⟨hy, hyle, ih hrest⟩

/-- The campaigns with their cursors. -/
def InspirationStore.cursors (s : InspirationStore) : List (String × Nat) := s.campaigns.map fun c => (c.id, c.rngCursor)

/-- **How the selections grow**: a source is only selected with a die of the campaign's stream. -/
structure InspirationStore.SelectedSince (s s' : InspirationStore) : Prop where
  ids : s'.campaigns.map (·.id) = s.campaigns.map (·.id)
  cursors : ∀ c ∈ s.campaigns, ∀ c' ∈ s'.campaigns, c.id = c'.id → c.rngCursor ≤ c'.rngCursor
  selections : ∃ more, s'.selections = s.selections ++ more ∧ ∀ x ∈ more, x.selected.isSome = true →
    ∀ c ∈ s.campaigns, ∀ c' ∈ s'.campaigns, c.id = x.campaignId → c'.id = x.campaignId → c.rngCursor < c'.rngCursor

namespace InspirationStore

section Cursors

variable {s s' s'' t : InspirationStore}

theorem ids_eq_of_cursors (h : t.cursors = s.cursors) : t.campaigns.map (·.id) = s.campaigns.map (·.id) := by
  have hids := congrArg (List.map Prod.fst) h
  unfold cursors at hids
  rw [map_map, map_map] at hids
  exact hids

theorem exists_of_cursors (h : t.cursors = s.cursors) {c : InspirationCampaignDocument} (hc : c ∈ t.campaigns) :
    ∃ c' ∈ s.campaigns, c'.id = c.id ∧ c'.rngCursor = c.rngCursor := by
  have hmem : (c.id, c.rngCursor) ∈ s.cursors := h ▸ List.mem_map_of_mem (f := fun c => (c.id, c.rngCursor)) hc
  obtain ⟨c', hc', heq⟩ := mem_map.mp hmem
  exact ⟨c', hc', congrArg Prod.fst heq, congrArg Prod.snd heq⟩

/-- A campaign is found by its id. -/
theorem eq_of_ids (h : (s.campaigns.map (·.id)).Nodup) {c c' : InspirationCampaignDocument} (hc : c ∈ s.campaigns)
    (hc' : c' ∈ s.campaigns) (hid : c.id = c'.id) : c = c' := List.inj_on_of_nodup_map h hc hc' hid

theorem SelectedSince.same (h : (s.campaigns.map (·.id)).Nodup) (hcursors : t.cursors = s.cursors)
    (hselections : t.selections = s.selections) : s.SelectedSince t where
  ids := ids_eq_of_cursors hcursors
  cursors := fun c hc c' hc' hid => by
    obtain ⟨c'', hc'', hid', hcursor⟩ := exists_of_cursors hcursors hc'
    rw [eq_of_ids h hc hc'' (hid.trans hid'.symm)]
    exact Nat.le_of_eq hcursor
  selections := ⟨[], by rw [hselections, List.append_nil], fun x hx => absurd hx not_mem_nil⟩

theorem SelectedSince.trans (h : s.SelectedSince s') (h' : s'.SelectedSince s'') : s.SelectedSince s'' where
  ids := h'.ids.trans h.ids
  cursors := fun c hc c'' hc'' hid => by
    have hmem : c.id ∈ s'.campaigns.map (·.id) := h.ids ▸ List.mem_map_of_mem hc
    obtain ⟨c', hc', hid'⟩ := mem_map.mp hmem
    exact (h.cursors c hc c' hc' hid'.symm).trans (h'.cursors c' hc' c'' hc'' (hid'.trans hid))
  selections := by
    obtain ⟨more, heq, hmore⟩ := h.selections
    obtain ⟨more', heq', hmore'⟩ := h'.selections
    refine ⟨more ++ more', by rw [heq', heq, List.append_assoc], fun x hx hsome c hc c'' hc'' hid hid'' => ?_⟩
    have hmem : c.id ∈ s'.campaigns.map (·.id) := h.ids ▸ List.mem_map_of_mem hc
    obtain ⟨c', hc', hid'⟩ := mem_map.mp hmem
    rcases mem_append.mp hx with hx | hx
    · exact Nat.lt_of_lt_of_le (hmore x hx hsome c hc c' hc' hid (hid'.trans hid))
        (h'.cursors c' hc' c'' hc'' (hid'.trans (hid.trans hid''.symm)))
    · exact Nat.lt_of_le_of_lt (h.cursors c hc c' hc' hid'.symm)
        (hmore' x hx hsome c' hc' c'' hc'' (hid'.trans hid) hid'')

theorem History.same (h : s.History) (hcursors : t.cursors = s.cursors) (hselections : t.selections = s.selections) :
    t.History where
  campaignIds := by rw [ids_eq_of_cursors hcursors]; exact h.campaignIds
  campaignOf := fun x hx => by
    obtain ⟨c, hc, hid⟩ := h.campaignOf x (hselections ▸ hx)
    obtain ⟨c', hc', hid', -⟩ := exists_of_cursors hcursors.symm hc
    exact ⟨c', hc', hid'.trans hid⟩
  keys := hselections ▸ h.keys
  chained := fun c hc => by
    obtain ⟨c', hc', hid, hcursor⟩ := exists_of_cursors hcursors hc
    unfold selectionsOf
    rw [hselections, ← hid, ← hcursor]
    exact h.chained c' hc'
  spaced := hselections ▸ h.spaced

end Cursors

end InspirationStore

/-! ## Commits -/

variable {s : InspirationStore}

/-- Settings are replaced with the cursor that is there. -/
theorem cursors_safety {settings : CampaignSafetyDocument}
    (h : ∀ c ∈ s.campaigns, c.id = campaignId → c.rngCursor = settings.rngCursor) :
    ((Write.safety campaignId settings).apply s).cursors = s.cursors := by
  show (updateById (·.id) campaignId (fun c => { c with safety := some settings }) s.campaigns).map _ = s.campaigns.map _
  unfold updateById
  rw [map_map]
  refine List.map_congr_left fun c hc => ?_
  show (fun c : InspirationCampaignDocument => (c.id, c.rngCursor)) (if c.id = campaignId then _ else c) = _
  split
  · next hid => exact Prod.ext rfl (h c hc hid).symm
  · rfl

theorem cursors_turn {active : Bool} {event : TurnEventDocument} :
    ((Write.turn campaignId active event).apply s).cursors = s.cursors := by
  show (updateById (·.id) campaignId
    (fun c => { c with sessionActive := active, lastEventSequence := event.sequence }) s.campaigns).map _ = s.campaigns.map _
  unfold updateById
  rw [map_map]
  refine List.map_congr_left fun c _ => ?_
  show (fun c : InspirationCampaignDocument => (c.id, c.rngCursor)) (if c.id = campaignId then _ else c) = _
  split <;> rfl

/-- A sweep with its receipt changes work, presentations and receipts. -/
theorem sweep_receipt_keeps {β : Type} {f : InspirationStore → β} {writes : List Write} {receipt : ReceiptDocument}
    (hsweep : ∀ w ∈ writes, w.isSweep = true)
    (hf : ∀ s work presentations receipts, f { s with work, presentations, receipts } = f s) :
    f (applyAll (writes ++ [.insertReceipt receipt]) s) = f s := by
  rw [applyAll_append]
  refine Eq.trans ?_ (sweep_keeps hsweep fun s work presentations => hf s work presentations s.receipts)
  exact hf _ _ _ _

section Commits

variable {draw : WeightedDraw} {s s' : InspirationStore} {job : InspirationJob} {writes : List Write}

variable {x : SelectionDocument}

/-- **A new selection** takes up the cursor where it is, and keeps the cooldowns of all that are there. -/
theorem InspirationStore.History.insertSelection (h' : s'.History) {campaign : InspirationCampaignDocument}
    {safety : CampaignSafetyDocument} (hcampaign : campaign ∈ s'.campaigns)
    (hid : campaign.id = x.campaignId) (hsafety : campaign.safety = some safety)
    (hbefore : x.cursorBefore = safety.rngCursor) (hle : safety.rngCursor ≤ x.cursorAfter)
    (hsome : x.selected.isSome = true → safety.rngCursor < x.cursorAfter)
    (hkey : ∀ y ∈ s'.selections, ¬ (x.campaignId = y.campaignId ∧ x.idempotencyKey = y.idempotencyKey))
    (hspaced : ∀ y ∈ s'.selections, y.LeavesCooldown x) :
    (applyAll [.insertSelection x, .rngCursor x.campaignId x.cursorAfter] s').History ∧
      s'.SelectedSince (applyAll [.insertSelection x, .rngCursor x.campaignId x.cursorAfter] s') := by
  let f (c : InspirationCampaignDocument) : InspirationCampaignDocument :=
    { c with safety := c.safety.map fun settings => { settings with rngCursor := x.cursorAfter } }
  have hids : (updateById (·.id) x.campaignId f s'.campaigns).map (·.id) = s'.campaigns.map (·.id) :=
    map_id_updateById fun _ => by rfl
  have hcursor : campaign.rngCursor = safety.rngCursor := by
    unfold InspirationCampaignDocument.rngCursor
    rw [hsafety]
    rfl
  have hafter : ∀ c ∈ updateById (·.id) x.campaignId f s'.campaigns,
      (c = f campaign ∧ c.rngCursor = x.cursorAfter) ∨ (c ∈ s'.campaigns ∧ c.id ≠ x.campaignId) := fun c hc => by
    rcases mem_updateById.mp hc with ⟨c', hc', hid', rfl⟩ | ⟨hc, hne⟩
    · obtain rfl := InspirationStore.eq_of_ids h'.campaignIds hc' hcampaign (hid'.trans hid.symm)
      refine .inl ⟨rfl, ?_⟩
      show ((c'.safety.map _).map _).getD 0 = x.cursorAfter
      rw [hsafety]
      rfl
    · exact .inr ⟨hc, hne⟩
  refine ⟨⟨hids ▸ h'.campaignIds, fun y hy => ?_, ?_, fun c hc => ?_, ?_⟩, ⟨hids, fun c hc c' hc' heq => ?_, [x], rfl, ?_⟩⟩
  · have hmem : ∃ c ∈ s'.campaigns, c.id = y.campaignId := by
      rcases mem_append.mp hy with hy | hy
      · exact h'.campaignOf y hy
      · rw [mem_singleton.mp hy]
        exact ⟨campaign, hcampaign, hid⟩
    obtain ⟨c, hc, hcid⟩ := hmem
    have : c.id ∈ (updateById (·.id) x.campaignId f s'.campaigns).map (·.id) := hids ▸ List.mem_map_of_mem hc
    obtain ⟨c', hc', hcid'⟩ := mem_map.mp this
    exact ⟨c', hc', hcid'.trans hcid⟩
  · refine nodup_map_append h'.keys fun y hy heq => hkey y hy ?_
    exact ⟨(congrArg Prod.fst heq).symm, (congrArg Prod.snd heq).symm⟩
  · show ∃ start, ChainFrom start ((s'.selections ++ [x]).filter (·.campaignId = c.id)) c.rngCursor
    rw [List.filter_append]
    rcases hafter c hc with ⟨rfl, hcursor'⟩ | ⟨hmem, hne⟩
    · obtain ⟨start, hchain⟩ := h'.chained campaign hcampaign
      have hown : [x].filter (·.campaignId = (f campaign).id) = [x] :=
        List.filter_eq_self.mpr fun y hy => decide_eq_true (mem_singleton.mp hy ▸ hid.symm)
      refine ⟨start, ?_⟩
      rw [hcursor', hown]
      exact hchain.append (hbefore.trans hcursor.symm) (hcursor ▸ hle)
    · obtain ⟨start, hchain⟩ := h'.chained c hmem
      refine ⟨start, ?_⟩
      rw [List.filter_cons_of_neg (by simpa using fun heq => hne heq.symm), List.filter_nil, List.append_nil]
      exact hchain
  · exact List.pairwise_append.mpr ⟨h'.spaced, List.pairwise_singleton _ _,
      fun y hy z hz => mem_singleton.mp hz ▸ hspaced y hy⟩
  · rcases hafter c' hc' with ⟨rfl, hcursor'⟩ | ⟨hmem, -⟩
    · rw [hcursor', InspirationStore.eq_of_ids h'.campaignIds hc hcampaign heq, hcursor]
      exact hle
    · rw [InspirationStore.eq_of_ids h'.campaignIds hc hmem heq]
  · intro y hy hysome c hc c' hc' hcid hcid'
    obtain rfl := mem_singleton.mp hy
    rcases hafter c' hc' with ⟨-, hcursor'⟩ | ⟨-, hne⟩
    · rw [hcursor', InspirationStore.eq_of_ids h'.campaignIds hc hcampaign (hcid.trans hid.symm), hcursor]
      exact hsome hysome
    · exact absurd hcid' hne

/-- A selection is added by a request for one. -/
theorem Decides.selected (hdecides : Decides draw s job writes)
    (hx : x ∈ (applyAll writes s').selections) (hnew : x ∉ s'.selections) :
    ∃ words deployment selectionId command prompts now campaign safety turnNumber drawn,
      job = .reserveSelection words deployment selectionId command prompts now ∧ campaign ∈ s.campaigns ∧
      campaign.id = command.campaignSessionId ∧ campaign.safety = some safety ∧
      (∀ x ∈ s.selections, ¬ (x.campaignId = command.campaignSessionId ∧ x.idempotencyKey = command.idempotencyKey)) ∧
      campaign.revision = command.expectedCampaignRevision ∧ safety.revision = command.expectedSettingsRevision ∧
      s.trustedTriggerWindow campaign = .ok (some turnNumber) ∧
      s.drawUnlessOff draw words deployment command campaign.themeId safety prompts turnNumber now = .ok drawn ∧
      x = { id := selectionId, campaignId := command.campaignSessionId, idempotencyKey := command.idempotencyKey
            requestFingerprint := command.requestFingerprint, campaignRevision := command.expectedCampaignRevision
            settingsRevision := command.expectedSettingsRevision, turnNumber, audience := command.audience
            media := command.media, eligibleSources := drawn.eligibleSources, selected := drawn.selected
            noSelectionReason := drawn.noSelectionReason, sampleNumerator := drawn.sampleNumerator
            cursorBefore := safety.rngCursor, cursorAfter := drawn.cursorAfter } := by
  have hsweep : ∀ {writes : List Write} {receipt : ReceiptDocument} {t : InspirationStore},
      (∀ w ∈ writes, w.isSweep = true) → t.selections = s'.selections →
      x ∉ (applyAll (writes ++ [.insertReceipt receipt]) t).selections := fun hsweep hselections hmem => by
    rw [sweep_receipt_keeps (f := InspirationStore.selections) hsweep fun _ _ _ _ => rfl, hselections] at hmem
    exact hnew hmem
  cases hdecides
  case reserveSelection words deployment selectionId command prompts now campaign safety turnNumber drawn selection
      hcampaign hid hsafety hfresh hrevision hsettings hwindow hdrawn _ hselection =>
    refine ⟨words, deployment, selectionId, command, prompts, now, campaign, safety, turnNumber, drawn, rfl, hcampaign, hid,
      hsafety, hfresh, hrevision, hsettings, hwindow, hdrawn, ?_⟩
    rw [← hselection]
    exact mem_singleton.mp ((mem_append.mp hx).resolve_left hnew)
  case setGlobalInspirationControl =>
    rw [cons_append, applyAll_cons] at hx
    refine absurd hx (hsweep (fun w hw => ?_) rfl)
    split at hw
    · exact quarantineAll_isSweep hw
    · cases hw
  case configureCampaign r deployment expected enabled setup campaign safety receipt _ _ _ _ _ _ =>
    rw [cons_append, applyAll_cons] at hx
    cases enabled with
    | true => exact absurd hx (hsweep (fun w hw => absurd hw not_mem_nil) rfl)
    | false =>
      rw [if_neg Bool.false_ne_true, cons_append, applyAll_cons] at hx
      exact absurd hx (hsweep (fun w hw => sweepWork_isSweep hw) rfl)
  case disableCampaign =>
    rw [cons_append, cons_append, applyAll_cons, applyAll_cons] at hx
    exact absurd hx (hsweep (fun w hw => sweepWork_isSweep hw) rfl)
  case revokeConsent =>
    rw [cons_append, applyAll_cons] at hx
    exact absurd hx (hsweep (fun w hw => sweepWork_isSweep hw) rfl)
  case applyVeto =>
    rw [cons_append, applyAll_cons] at hx
    exact absurd hx (hsweep (fun w hw => sweepWork_isSweep hw) rfl)
  all_goals exact absurd hx hnew

/-- **Every commit keeps the history.** -/
theorem Decides.history (h' : s'.History) (hsince : s.SelectedSince s') (hdecides : Decides draw s job writes)
    (hagree : ∀ k ∈ writes.flatMap Write.keys, InspirationStore.agree k s s') :
    (applyAll writes s').History ∧ s'.SelectedSince (applyAll writes s') := by
  have hsame : ∀ {t : InspirationStore}, t.cursors = s'.cursors → t.selections = s'.selections →
      t.History ∧ s'.SelectedSince t := fun hcursors hselections =>
    ⟨h'.same hcursors hselections, .same h'.campaignIds hcursors hselections⟩
  -- The settings of a campaign are replaced as they are in the snapshot.
  have hsettings : ∀ {campaign : InspirationCampaignDocument} {settings : CampaignSafetyDocument} {campaignId : String},
      campaign ∈ s.campaigns → campaign.id = campaignId → settings.rngCursor = campaign.rngCursor →
      InspirationStore.agree (.campaign campaignId) s s' →
      ((Write.safety campaignId settings).apply s').cursors = s'.cursors :=
    fun hcampaign hid hcursor hseen => cursors_safety fun c hc hcid => by
      rw [InspirationStore.eq_of_ids h'.campaignIds hc ((hseen _ hid).mp hcampaign) (hcid.trans hid.symm), hcursor]
  have hsweep : ∀ {writes : List Write} {receipt : ReceiptDocument} {t : InspirationStore},
      (∀ w ∈ writes, w.isSweep = true) → t.cursors = s'.cursors → t.selections = s'.selections →
      (applyAll (writes ++ [.insertReceipt receipt]) t).History ∧
        s'.SelectedSince (applyAll (writes ++ [.insertReceipt receipt]) t) := fun hsweep hcursors hselections =>
    hsame ((sweep_receipt_keeps hsweep fun _ _ _ _ => rfl).trans hcursors)
      ((sweep_receipt_keeps hsweep fun _ _ _ _ => rfl).trans hselections)
  cases hdecides
  case nothing => exact hsame rfl rfl
  case setGlobalInspirationControl r expected disabled control receipt _ _ _ =>
    rw [cons_append, applyAll_cons]
    refine hsweep (fun w hw => ?_) rfl rfl
    split at hw
    · exact quarantineAll_isSweep hw
    · cases hw
  case configureCampaign r deployment expected enabled setup campaign safety receipt hcampaign hid _ _ _ hcursor =>
    have hkept := hsettings hcampaign hid hcursor (hagree (.campaign r.campaignId) mem_cons_self)
    rw [cons_append, applyAll_cons]
    cases enabled with
    | true => exact hsweep (fun w hw => absurd hw not_mem_nil) hkept rfl
    | false =>
      rw [if_neg Bool.false_ne_true, cons_append, applyAll_cons]
      exact hsweep (fun w hw => sweepWork_isSweep hw) hkept rfl
  case setCampaignPause r expected paused campaign safety safety' receipt hcampaign hid hsafety _ hcursor =>
    refine hsame (hsettings hcampaign hid ?_ (hagree (.campaign r.campaignId) mem_cons_self)) rfl
    unfold InspirationCampaignDocument.rngCursor
    rw [hsafety]
    exact hcursor
  case disableCampaign r expected campaign safety safety' receipt hcampaign hid _ hsafety _ _ hcursor =>
    rw [cons_append, cons_append, applyAll_cons, applyAll_cons]
    refine hsweep (fun w hw => sweepWork_isSweep hw)
      (hsettings hcampaign hid ?_ (hagree (.campaign r.campaignId) mem_cons_self)) rfl
    unfold InspirationCampaignDocument.rngCursor
    rw [hsafety]
    exact hcursor
  case verifyParticipant => exact hsame rfl rfl
  case clearTombstones => exact hsame rfl rfl
  case registerSource => exact hsame rfl rfl
  case reviewSource => exact hsame rfl rfl
  case expire => exact hsame rfl rfl
  case grantConsent => exact hsame rfl rfl
  case revokeConsent =>
    rw [cons_append, applyAll_cons]
    exact hsweep (fun w hw => sweepWork_isSweep hw) rfl rfl
  case applyVeto =>
    rw [cons_append, applyAll_cons]
    exact hsweep (fun w hw => sweepWork_isSweep hw) rfl rfl
  case registerDerivedWork => exact hsame rfl rfl
  case commitSessionEvent => exact hsame cursors_turn rfl
  case reserveSelection words deployment selectionId command prompts now campaign safety turnNumber drawn selection
      hcampaign hid hsafety hfresh _ _ _ hdrawn _ hselection =>
    obtain ⟨hle, hsome⟩ := drawUnlessOff_spec hdrawn
    have hkeys : ∀ k ∈ (Write.insertSelection selection).keys, InspirationStore.agree k s s' :=
      fun k hk => hagree k (List.mem_append_left _ hk)
    have hseen : InspirationStore.agree (.campaign command.campaignSessionId) s s' :=
      hagree _ (List.mem_append_right _ mem_cons_self)
    have hkey : InspirationStore.agree (.selectionKey command.campaignSessionId command.idempotencyKey) s s' := by
      refine hkeys _ ?_
      rw [hselection]
      exact List.mem_cons_of_mem _ mem_cons_self
    have hmem : campaign ∈ s'.campaigns := (hseen campaign hid).mp hcampaign
    subst hselection
    refine h'.insertSelection hmem hid hsafety rfl hle (fun hselected => ?_) (fun y hy hsamekey => ?_) fun y hy => ?_
    · obtain ⟨b, hb⟩ := Option.isSome_iff_exists.mp hselected
      exact (hsome b hb).1
    · obtain ⟨x, hx, hxkey⟩ := (show _ ↔ _ from hkey).mpr ⟨y, hy, hsamekey.1.symm, hsamekey.2.symm⟩
      exact hfresh x hx hxkey
    · intro hsamecampaign b hb b' hb' hsource
      obtain ⟨more, hmore, hpassed⟩ := hsince.selections
      rw [hmore] at hy
      rcases mem_append.mp hy with hy | hy
      · exact (hsome b' hb').2 y hy hsamecampaign b hb hsource
      · -- A selection that has passed this one would have moved the cursor.
        refine absurd (hpassed y hy (Option.isSome_iff_exists.mpr ⟨b, hb⟩) campaign hcampaign campaign hmem ?_ ?_)
          (Nat.lt_irrefl _)
        · exact hid.trans hsamecampaign.symm
        · exact hid.trans hsamecampaign.symm

/-- **A drawn selection is counted** where the sources have single versions. -/
theorem Decides.counted (h : s.Kept) (hdecides : Decides draw s job writes) (hversioned : Versioned ⟨job, s, s'⟩)
    (hgrown : s.Grown s') (hgrown' : s'.Grown (applyAll writes s'))
    (hcounted : ∀ x ∈ s'.selections, ∃ docs : List SourceDocument, (∀ d ∈ docs, s'.Registered d) ∧ x.Counted draw docs) :
    ∀ x ∈ (applyAll writes s').selections, ∃ docs : List SourceDocument,
      (∀ d ∈ docs, (applyAll writes s').Registered d) ∧ x.Counted draw docs := by
  have hregistered : ∀ {u : InspirationStore} {d : SourceDocument}, u.Grown (applyAll writes s') → u.Registered d →
      (applyAll writes s').Registered d := fun hu hd => by
    obtain ⟨d₁, hd₁, heq₁⟩ := hd
    obtain ⟨d₂, hd₂, heq₂⟩ := hu.sources d₁ hd₁
    exact ⟨d₂, hd₂, by rw [heq₂, heq₁]⟩
  have hold : ∀ x ∈ s'.selections, ∃ docs : List SourceDocument,
      (∀ d ∈ docs, (applyAll writes s').Registered d) ∧ x.Counted draw docs := fun x hx => by
    obtain ⟨docs, hdocs, hx⟩ := hcounted x hx
    exact ⟨docs, fun d hd => hregistered hgrown' (hdocs d hd), hx⟩
  intro x hx
  by_cases hmem : x ∈ s'.selections
  · exact hold x hmem
  obtain ⟨words, deployment, selectionId, command, prompts, now, campaign, safety, turnNumber, drawn, rfl, hc, hid, hsafety,
    hfresh, hrevision, hsettings, hwindow, hdrawn, rfl⟩ := hdecides.selected hx hmem
  obtain ⟨docs, hdocs, hcounts⟩ := drawUnlessOff_counted h hdrawn fun hreason partyLevel hlevel =>
    hversioned words deployment selectionId command prompts now rfl campaign safety turnNumber partyLevel hc hid hsafety
      hfresh hrevision hsettings hwindow hreason hlevel
  exact ⟨docs, fun d hd => hregistered (hgrown.trans hgrown') ⟨d, hdocs d hd, rfl⟩, hcounts _ rfl rfl rfl rfl⟩

end Commits

/-! ## Runs -/

/-- A later store, with what was selected since. -/
def InspirationStore.LaterSelections (s s' : InspirationStore) : Prop :=
  s.Grown s' ∧ ((s.campaigns.map (·.id)).Nodup → s.SelectedSince s')

theorem history_new {campaigns : List InspirationCampaignDocument} (party : List PartyCharacter)
    (hids : (campaigns.map (·.id)).Nodup) : (InspirationStore.new campaigns party).History where
  campaignIds := hids
  campaignOf := fun _ hx => absurd hx not_mem_nil
  keys := List.nodup_nil
  chained := fun c _ => ⟨c.rngCursor, rfl⟩
  spaced := List.Pairwise.nil

/-- **The transactions, for the selections.** -/
theorem transact_selections (draw : WeightedDraw) : Isolated (transact draw) InspirationStore.agree (fun _ => True)
    (fun s => s.Kept ∧ s.History) InspirationStore.LaterSelections where
  agree_refl := InspirationStore.agree_refl
  agree_trans := InspirationStore.agree_trans
  framed := (transact_isolated draw).framed
  later_refl := fun s => ⟨.refl s, fun hids => .same hids rfl rfl⟩
  later_trans := fun h h' => ⟨h.1.trans h'.1, fun hids => (h.2 hids).trans (h'.2 ((h.2 hids).ids ▸ hids))⟩
  commit := fun h h' hlater _ hbody hagree => by
    obtain ⟨writes, answer, rfl, hdecides⟩ := transact_decides hbody
    obtain ⟨hkept, hgrown⟩ := hdecides.kept h.1 h'.1 hlater.1 hagree
    obtain ⟨hhistory, hsince⟩ := hdecides.history h'.2 (hlater.2 h.2.campaignIds) hagree
    exact ⟨⟨hkept, hhistory⟩, hgrown, fun _ => hsince⟩

/-- A selection is found by its key, and answers the retry of its command. -/
theorem InspirationStore.History.retried {draw : WeightedDraw} (h : s.History) (hx : x ∈ s.selections)
    {words : WordStream} {deployment : Bool} {selectionId : String}
    {command : RequestInspirationSelectionCommand} {prompts : List EventPrompt} {now : Nat}
    (hcampaign : command.campaignSessionId = x.campaignId) (hkey : command.idempotencyKey = x.idempotencyKey)
    (hfingerprint : command.requestFingerprint = x.requestFingerprint) :
    transact draw (.reserveSelection words deployment selectionId command prompts now) s =
      .ok (decided [] (.ok (.selection x))) := by
  obtain ⟨c, hc, hid⟩ := h.campaignOf x hx
  have hload : ∃ campaign, s.loadCampaign command.campaignSessionId = .ok campaign := by
    unfold InspirationStore.loadCampaign
    cases hfind : s.campaigns.find? (·.id = command.campaignSessionId) with
    | some campaign => exact ⟨campaign, rfl⟩
    | none => exact absurd (decide_eq_true (hid.trans hcampaign.symm)) (List.find?_eq_none.mp hfind c hc)
  obtain ⟨campaign, hload⟩ := hload
  have hfound : s.selections.find? (fun x => x.campaignId = command.campaignSessionId ∧
      x.idempotencyKey = command.idempotencyKey) = some x := by
    cases hfind : s.selections.find? (fun x => x.campaignId = command.campaignSessionId ∧
        x.idempotencyKey = command.idempotencyKey) with
    | none => exact absurd (decide_eq_true ⟨hcampaign.symm, hkey.symm⟩) (List.find?_eq_none.mp hfind x hx)
    | some y =>
      have hy := List.find?_some hfind
      rw [decide_eq_true_eq] at hy
      refine congrArg some (List.inj_on_of_nodup_map h.keys (List.mem_of_find?_eq_some hfind) hx ?_)
      rw [hy.1, hy.2, hcampaign, hkey]
  show reserveSelection draw words deployment selectionId command prompts now s = _
  unfold reserveSelection
  rw [hload, ok_bind, hfound]
  exact if_pos hfingerprint.symm

/-- Where a selection is committed on its own snapshot, one version at most is open. -/
def findsOneVersion (job : InspirationJob) (s : InspirationStore) : Bool :=
  match job with
  | .reserveSelection _ _ _ command prompts now =>
    s.campaigns.all fun campaign => campaign.safety.all fun safety =>
      let sources := s.openSources command campaign.themeId safety prompts now
      sources.length ≤ 1 ∧ (sources.all fun x => x.2.runtime = x.1.runtimeProjection) = true
  | _ => true

theorem versioned_of_serial {c : Committed InspirationJob InspirationStore} (h : c.snapshot = c.before)
    (hone : findsOneVersion c.job c.before = true) : Versioned c := by
  intro words deployment selectionId command prompts now hjob campaign safety turnNumber partyLevel hcampaign _ hsafety _ _ _
    _ _ _
  rw [hjob, ← h] at hone
  have hsources := List.all_eq_true.mp hone campaign hcampaign
  rw [hsafety, Option.all_some, decide_eq_true_eq] at hsources
  obtain ⟨hlength, hown⟩ := hsources
  have hsame : ∀ x ∈ c.snapshot.openSources command campaign.themeId safety prompts now,
      ∀ y ∈ c.snapshot.openSources command campaign.themeId safety prompts now, x = y := by
    generalize c.snapshot.openSources command campaign.themeId safety prompts now = sources at hlength
    match sources, hlength with
    | [], _ => exact fun x hx => absurd hx not_mem_nil
    | [z], _ => exact fun x hx y hy => (mem_singleton.mp hx).trans (mem_singleton.mp hy).symm
  refine ⟨fun d p d' p' hd hd' _ _ _ => ?_, fun d p d' p' hd hd' _ _ _ => ?_, fun d p hd _ => ?_⟩
  · exact congrArg Prod.fst (hsame _ hd _ hd')
  · rw [congrArg (fun x : SourceDocument × EventPrompt => x.1.revision) (hsame _ hd' _ hd)]
  · exact of_decide_eq_true (List.all_eq_true.mp hown (d, p) hd)

/-- The walk as it is told later. -/
def towpathSource : SourceDocument := { canalSource with revision := 2, sourceDigest := "sha256:towpath" }

/-- Both versions are approved and consented to when the selection is made. -/
def towpathJobs : List InspirationJob :=
  canalJobs.take 6 ++
  [ .registerSource (canalRequest "key-7") towpathSource,
    .reviewSource (canalRequest "key-8") "event-source-canal" 2 "sha256:towpath" .approved true,
    .grantConsent (canalRequest "key-9") "grant-2" ⟨"event-source-canal", 2, "sha256:towpath", "participant:1",
      .privateCampaign, .text, .highFictionDistanceV1, .redactDerived, ["water"], 1000⟩,
    .commitSessionEvent "campaign-1" 1 true .gmNarration,
    .reserveSelection (fun _ => 0) true "selection-1" ⟨"campaign-1", "key-10", "request-10", 2, 2, .privateCampaign, .text⟩
      [canalSource.runtimePrompt, towpathSource.runtimePrompt] 10 ]

end ManchesterArcana.Inspiration
