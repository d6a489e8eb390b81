import ManchesterArcana.Inspiration.Consent

/-!
# `Inspiration.Switches` — what is switched off stays off

Generation is switched off for all campaigns by the global control, and for one by its settings. Switching off sweeps
the work there is. Registering work does not look at either switch, and granting consent only reads the settings that
it goes by: work can be registered under the global switch (`work_under_kill_switch`). `switches_hold` says which
commits keep the switches.
-/

namespace ManchesterArcana.Inspiration

open Effect Store

/-! ## The law -/

def InspirationStore.generationDisabled (s : InspirationStore) : Bool :=
  (s.control.getD defaultGlobalControl).generationDisabled

/-- **What is off has no pending work**, and a campaign that is off no active consent. -/
structure InspirationStore.SwitchesHold (s : InspirationStore) : Prop where
  global : s.generationDisabled = true → ∀ w ∈ s.work, w.state ≠ .pending
  work : ∀ c ∈ s.campaigns, c.isEnabled = false → ∀ w ∈ s.work, w.campaignId = c.id → w.state ≠ .pending
  consents : ∀ c ∈ s.campaigns, c.isEnabled = false → ∀ x ∈ s.consents, x.campaignId = c.id → x.state ≠ .active

/-! ## Commits that pass a switch -/

/-- The command is to switch off, one campaign or all. -/
inductive SwitchesOff (s : InspirationStore) : Option String → InspirationJob → Prop where
  | setGlobalInspirationControl (r : Request) (expected : Nat) :
      r.IsFresh none s → (s.control.getD defaultGlobalControl).revision = expected →
      SwitchesOff s none (.setGlobalInspirationControl r expected true)
  | configureCampaign (r : Request) (deployment : Bool) (expected : Nat) (setup : Option SafetySetupEvidence)
      (campaign : InspirationCampaignDocument) :
      campaign ∈ s.campaigns → campaign.id = r.campaignId → r.IsFresh (some r.campaignId) s →
      (campaign.safety.map (·.revision)).getD 0 = expected →
      SwitchesOff s (some r.campaignId) (.configureCampaign r deployment expected false setup)
  | disableCampaign (r : Request) (expected : Nat) (campaign : InspirationCampaignDocument)
      (safety : CampaignSafetyDocument) :
      campaign ∈ s.campaigns → campaign.id = r.campaignId → r.IsFresh (some r.campaignId) s →
      campaign.safety = some safety → safety.revision = expected →
      SwitchesOff s (some r.campaignId) (.disableCampaign r expected)

/-- Inspiration is enabled in this campaign. -/
def InspirationStore.isEnabledIn (s : InspirationStore) (campaignId : String) : Bool :=
  s.campaigns.all fun c => c.id ≠ campaignId || c.isEnabled

/-- **No command has missed a switch**: switching off has seen what it is to sweep, and where work is registered or
    consent is granted the switches are on. -/
structure Switched (c : Committed InspirationJob InspirationStore) : Prop where
  work : ∀ w ∈ c.before.work, w.state = .pending →
    SwitchesOff c.snapshot none c.job ∨ SwitchesOff c.snapshot (some w.campaignId) c.job → w ∈ c.snapshot.work
  consents : ∀ x ∈ c.before.consents, x.state = .active → SwitchesOff c.snapshot (some x.campaignId) c.job →
    x ∈ c.snapshot.consents
  grant : ∀ r grantId command, c.job = .grantConsent r grantId command → r.IsFresh (some r.campaignId) c.snapshot →
    (∃ campaign safety d, c.snapshot.MayGrant r command campaign safety d) → c.before.isEnabledIn r.campaignId = true
  registration : ∀ r command, c.job = .registerDerivedWork r command → r.IsFresh (some r.campaignId) c.snapshot →
    (∃ x binding d, c.snapshot.MayDerive r command x binding d) →
    c.before.generationDisabled = false ∧ c.before.isEnabledIn r.campaignId = true

/-! ## Commits -/

variable {s : InspirationStore} {c : InspirationCampaignDocument} {campaignId : String}

/-- Nothing is added to pending work and active consents, and nothing is switched off. -/
theorem SwitchesHold.mono {t : InspirationStore} (h : s.SwitchesHold)
    (hcontrol : t.generationDisabled = true → s.generationDisabled = true)
    (hcampaigns : ∀ c ∈ t.campaigns, c.isEnabled = false → ∃ c' ∈ s.campaigns, c'.id = c.id ∧ c'.isEnabled = false)
    (hwork : ∀ w ∈ t.work, w.state = .pending → w ∈ s.work)
    (hconsents : ∀ x ∈ t.consents, x.state = .active → x ∈ s.consents) : t.SwitchesHold where
  global := fun hdisabled w hw hpending => h.global (hcontrol hdisabled) w (hwork w hw hpending) hpending
  work := fun c hc hoff w hw hid hpending => by
    obtain ⟨c', hc', hsame, hoff'⟩ := hcampaigns c hc hoff
    exact h.work c' hc' hoff' w (hwork w hw hpending) (hid.trans hsame.symm) hpending
  consents := fun c hc hoff x hx hid hactive => by
    obtain ⟨c', hc', hsame, hoff'⟩ := hcampaigns c hc hoff
    exact h.consents c' hc' hoff' x (hconsents x hx hactive) (hid.trans hsame.symm) hactive

theorem not_enabled_of_mem (hc : c ∈ s.campaigns) (hon : s.isEnabledIn campaignId = true) (hoff : c.isEnabled = false) :
    c.id ≠ campaignId := by
  have := List.all_eq_true.mp hon c hc
  rw [hoff, Bool.or_false, decide_eq_true_eq] at this
  exact this

/-- What stays active when consents change their state was active before. -/
theorem active_of_consentState {ids : List String} {state : ConsentGrantState} (hstate : state ≠ .active)
    {x : ConsentDocument} (hx : x ∈ ((Write.consentState ids state).apply s).consents)
    (hactive : x.state = .active) : x ∈ s.consents ∧ x.id ∉ ids := by
  rcases mem_updateWhere.mp hx with ⟨y, -, -, rfl⟩ | ⟨hx, hnot⟩
  · exact absurd hactive hstate
  · exact ⟨hx, by simpa using hnot⟩

/-- A campaign with new settings, or one that was there. -/
theorem mem_campaigns_safety {settings : CampaignSafetyDocument}
    (hc : c ∈ ((Write.safety campaignId settings).apply s).campaigns) :
    (c.id = campaignId ∧ c.isEnabled = settings.enabled) ∨ c ∈ s.campaigns := by
  rcases mem_updateById.mp hc with ⟨c', -, hid, rfl⟩ | ⟨hc, -⟩
  · exact .inl ⟨hid, rfl⟩
  · exact .inr hc

section Commits

variable {draw : WeightedDraw} {s s' : InspirationStore} {job : InspirationJob} {writes : List Write}

variable {receipt : ReceiptDocument}

/-- Switching a campaign off. -/
theorem switchesHold_off {campaignId : String} {settings : CampaignSafetyDocument}
    (hholds : s'.SwitchesHold)
    (hwork : ∀ w ∈ s'.work, w.state = .pending → w.campaignId = campaignId → w ∈ s.work)
    (hconsents : ∀ x ∈ s'.consents, x.state = .active → x.campaignId = campaignId → x ∈ s.consents) :
    (applyAll (.safety campaignId settings :: s.revokeCampaignConsents campaignId ::
      (s.sweepWork fun w => w.campaignId = campaignId) ++ [.insertReceipt receipt]) s').SwitchesHold := by
  rw [List.cons_append, List.cons_append, applyAll_cons, applyAll_cons, applyAll_append]
  have hsweep : ∀ w ∈ s.sweepWork fun w => w.campaignId = campaignId, w.isSweep = true :=
    fun w hw => sweepWork_isSweep hw
  generalize hu : (s.revokeCampaignConsents campaignId).apply ((Write.safety campaignId settings).apply s') = u
  have hucampaigns : u.campaigns = ((Write.safety campaignId settings).apply s').campaigns := by rw [← hu]; rfl
  have hucontrol : u.control = s'.control := by rw [← hu]; rfl
  have huwork : u.work = s'.work := by rw [← hu]; rfl
  have huconsents : u.consents = ((s.revokeCampaignConsents campaignId).apply s').consents := by rw [← hu]; rfl
  have hpending : ∀ w ∈ (applyAll (s.sweepWork fun w => w.campaignId = campaignId) u).work, w.state = .pending →
      w ∈ s'.work ∧ w.campaignId ≠ campaignId := fun w hw hp => by
    obtain ⟨hmem, hids⟩ := pending_of_sweep hsweep hw hp
    rw [huwork] at hmem
    exact ⟨hmem, fun hid => hids _ List.mem_cons_self
      (mem_pendingWork (hwork w hmem hp hid) hp (decide_eq_true hid))⟩
  have hactive : ∀ x ∈ (applyAll (s.sweepWork fun w => w.campaignId = campaignId) u).consents, x.state = .active →
      x ∈ s'.consents ∧ x.campaignId ≠ campaignId := fun x hx ha => by
    rw [show (applyAll _ u).consents = u.consents from sweep_keeps hsweep fun _ _ _ => rfl, huconsents] at hx
    obtain ⟨hmem, hids⟩ := active_of_consentState (by decide) hx ha
    refine ⟨hmem, fun hid => hids ?_⟩
    exact List.mem_map_of_mem (List.mem_filter.mpr ⟨hconsents x hmem ha hid, decide_eq_true ⟨hid, ha⟩⟩)
  have hcampaigns : (applyAll (s.sweepWork fun w => w.campaignId = campaignId) u).campaigns =
      ((Write.safety campaignId settings).apply s').campaigns :=
    (sweep_keeps hsweep fun _ _ _ => rfl).trans hucampaigns
  have hcontrol : (applyAll (s.sweepWork fun w => w.campaignId = campaignId) u).control = s'.control :=
    (sweep_keeps hsweep fun _ _ _ => rfl).trans hucontrol
  refine ⟨fun hdisabled w hw hp => ?_, fun c hc hcoff w hw hid hp => ?_, fun c hc hcoff x hx hid ha => ?_⟩
  · refine hholds.global ?_ w (hpending w hw hp).1 hp
    unfold InspirationStore.generationDisabled at hdisabled ⊢
    rw [← hcontrol]
    exact hdisabled
  · obtain ⟨hmem, hother⟩ := hpending w hw hp
    rcases mem_campaigns_safety (hcampaigns ▸ hc) with ⟨hcid, -⟩ | hc
    · exact hother (hid.trans hcid)
    · exact hholds.work c hc hcoff w hmem hid hp
  · obtain ⟨hmem, hother⟩ := hactive x hx ha
    rcases mem_campaigns_safety (hcampaigns ▸ hc) with ⟨hcid, -⟩ | hc
    · exact hother (hid.trans hcid)
    · exact hholds.consents c hc hcoff x hmem hid ha

theorem switchesHold_sweep {inScope : WorkDocument → Bool} {u : InspirationStore}
    (h : u.SwitchesHold) : (applyAll (s.sweepWork inScope ++ [.insertReceipt receipt]) u).SwitchesHold := by
  have hsweep : ∀ w ∈ s.sweepWork inScope, w.isSweep = true := fun w hw => sweepWork_isSweep hw
  rw [applyAll_append]
  refine SwitchesHold.mono h (fun hd => ?_) (fun c hc hoff => ⟨c, ?_, rfl, hoff⟩)
    (fun w hw hp => (pending_of_sweep hsweep hw hp).1) fun x hx _ => ?_
  · have hc : (applyAll (s.sweepWork inScope) u).control = u.control := sweep_keeps hsweep fun _ _ _ => rfl
    unfold InspirationStore.generationDisabled at hd ⊢
    rw [← hc]
    exact hd
  · have hcampaigns : (applyAll (s.sweepWork inScope) u).campaigns = u.campaigns := sweep_keeps hsweep fun _ _ _ => rfl
    exact hcampaigns ▸ hc
  · have hconsents : (applyAll (s.sweepWork inScope) u).consents = u.consents := sweep_keeps hsweep fun _ _ _ => rfl
    exact hconsents ▸ hx

/-- **A commit that has missed no switch leaves them holding.** -/
theorem Decides.switchesHold (hdecides : Decides draw s job writes) (hswitched : Switched ⟨job, s, s'⟩)
    (hagree : ∀ k ∈ writes.flatMap Write.keys, InspirationStore.agree k s s') (hholds : s'.SwitchesHold) :
    (applyAll writes s').SwitchesHold := by
  have hsame : ∀ {t : InspirationStore}, t.control = s'.control → t.campaigns = s'.campaigns → t.work = s'.work →
      t.consents = s'.consents → t.SwitchesHold := fun h₁ h₂ h₃ h₄ => by
    refine SwitchesHold.mono hholds ?_ (fun c hc hoff => ⟨c, h₂ ▸ hc, rfl, hoff⟩) (fun w hw _ => h₃ ▸ hw)
      fun x hx _ => h₄ ▸ hx
    unfold InspirationStore.generationDisabled
    rw [h₁]
    exact id
  cases hdecides
  case nothing => exact hholds
  case setGlobalInspirationControl r expected disabled control receipt hfresh hrevision hdisabled =>
    cases disabled with
    | false =>
      refine SwitchesHold.mono hholds (fun hd => ?_) (fun c hc hoff => ⟨c, hc, rfl, hoff⟩) (fun w hw _ => hw)
        fun x hx _ => hx
      exact absurd (hdisabled.symm.trans hd) Bool.false_ne_true
    | true =>
      have hsweep : ∀ w ∈ s.quarantineAll, w.isSweep = true := fun w hw => quarantineAll_isSweep hw
      rw [List.cons_append, applyAll_cons, if_pos rfl, applyAll_append]
      have hnone : ∀ w ∈ (applyAll s.quarantineAll ((Write.control control).apply s')).work, w.state ≠ .pending :=
        fun w hw hp => by
          obtain ⟨hmem, hids⟩ := pending_of_sweep hsweep hw hp
          have hseen := hswitched.work w hmem hp
            (.inl (.setGlobalInspirationControl r expected hfresh hrevision))
          exact hids _ List.mem_cons_self (mem_pendingWork hseen hp rfl)
      have hcampaigns : (applyAll s.quarantineAll ((Write.control control).apply s')).campaigns = s'.campaigns :=
        sweep_keeps hsweep fun _ _ _ => rfl
      have hconsents : (applyAll s.quarantineAll ((Write.control control).apply s')).consents = s'.consents :=
        sweep_keeps hsweep fun _ _ _ => rfl
      refine ⟨fun _ => hnone, fun c _ _ w hw _ => hnone w hw, fun c hc hoff x hx => ?_⟩
      exact hholds.consents c (hcampaigns ▸ hc) hoff x (hconsents ▸ hx)
  case configureCampaign r deployment expected enabled setup campaign safety receipt hcampaign hid hfresh hrevision
      henabled _ =>
    cases enabled with
    | true =>
      refine SwitchesHold.mono hholds id (fun c hc hoff => ?_) (fun w hw _ => hw) fun x hx _ => hx
      rcases mem_campaigns_safety hc with ⟨-, hon⟩ | hc
      · rw [henabled, hoff] at hon
        cases hon
      · exact ⟨c, hc, rfl, hoff⟩
    | false =>
      have hoff := SwitchesOff.configureCampaign r deployment expected setup campaign hcampaign hid hfresh hrevision
      rw [if_neg Bool.false_ne_true]
      exact switchesHold_off hholds (fun w hw hp heq => hswitched.work w hw hp (.inr (heq ▸ hoff)))
        fun x hx ha heq => hswitched.consents x hx ha (heq ▸ hoff)
  case setCampaignPause r expected paused campaign safety safety' receipt hcampaign hid hsafety henabled _ =>
    have hseen : campaign ∈ s'.campaigns := (hagree (.campaign r.campaignId) List.mem_cons_self campaign hid).mp hcampaign
    refine SwitchesHold.mono hholds id (fun c hc hoff => ?_) (fun w hw _ => hw) fun x hx _ => hx
    rcases mem_campaigns_safety hc with ⟨hcid, hon⟩ | hc
    · refine ⟨campaign, hseen, hid.trans hcid.symm, ?_⟩
      unfold InspirationCampaignDocument.isEnabled
      rw [hsafety, Option.any_some, ← henabled, ← hon]
      exact hoff
    · exact ⟨c, hc, rfl, hoff⟩
  case disableCampaign r expected campaign safety safety' receipt hcampaign hid hfresh hsafety hrevision _ _ =>
    have hoff := SwitchesOff.disableCampaign r expected campaign safety hcampaign hid hfresh hsafety hrevision
    exact switchesHold_off hholds (fun w hw hp heq => hswitched.work w hw hp (.inr (heq ▸ hoff)))
      fun x hx ha heq => hswitched.consents x hx ha (heq ▸ hoff)
  case verifyParticipant => exact hsame rfl rfl rfl rfl
  case clearTombstones => exact hsame rfl rfl rfl rfl
  case registerSource => exact hsame rfl rfl rfl rfl
  case reviewSource => exact hsame rfl rfl rfl rfl
  case expire r grantId command stale _ =>
    exact SwitchesHold.mono hholds id (fun c hc hoff => ⟨c, hc, rfl, hoff⟩) (fun w hw _ => hw)
      fun x hx ha => (active_of_consentState (by decide) hx ha).1
  case grantConsent r grantId command stale campaign safety source consent receipt hfresh hmay _ _ _ hconsent =>
    have hon := hswitched.grant r grantId command rfl hfresh ⟨campaign, safety, source, hmay⟩
    refine ⟨hholds.global, hholds.work, fun c hc hoff x hx hid ha => ?_⟩
    rcases List.mem_append.mp hx with hx | hx
    · exact hholds.consents c hc hoff x (active_of_consentState (by decide) hx ha).1 hid ha
    · rw [List.mem_singleton.mp hx, hconsent] at hid
      exact not_enabled_of_mem hc hon hoff hid.symm
  case revokeConsent r grantId requester consent receipt _ _ _ _ =>
    rw [List.cons_append, applyAll_cons]
    refine switchesHold_sweep (SwitchesHold.mono hholds id (fun c hc hoff => ⟨c, hc, rfl, hoff⟩) (fun w hw _ => hw) ?_)
    exact fun x hx ha => (active_of_consentState (by decide) hx ha).1
  case applyVeto r vetoId participantId scope receipt _ _ =>
    rw [List.cons_append, applyAll_cons]
    exact switchesHold_sweep (hsame rfl rfl rfl rfl)
  case reserveSelection =>
    refine SwitchesHold.mono hholds id (fun c hc hoff => ?_) (fun w hw _ => hw) fun x hx _ => hx
    rcases mem_updateById.mp hc with ⟨c', hc', -, rfl⟩ | ⟨hc, -⟩
    · refine ⟨c', hc', rfl, ?_⟩
      unfold InspirationCampaignDocument.isEnabled at hoff ⊢
      rw [Option.any_map] at hoff
      exact hoff
    · exact ⟨c, hc, rfl, hoff⟩
  case registerDerivedWork r command x binding d work receipt hfresh hmay hcampaign _ _ _ _ =>
    obtain ⟨hglobal, hon⟩ := hswitched.registration r command rfl hfresh ⟨x, binding, d, hmay⟩
    refine ⟨fun hdisabled => ?_, fun c hc hoff w hw hid hp => ?_, hholds.consents⟩
    · exact absurd (hglobal.symm.trans hdisabled) Bool.false_ne_true
    · rcases List.mem_append.mp hw with hw | hw
      · exact hholds.work c hc hoff w hw hid hp
      · rw [List.mem_singleton.mp hw, hcampaign] at hid
        exact not_enabled_of_mem hc hon hoff hid.symm
  case commitSessionEvent campaignId expected active payload event =>
    refine SwitchesHold.mono hholds id (fun c hc hoff => ?_) (fun w hw _ => hw) fun x hx _ => hx
    rcases mem_updateById.mp hc with ⟨c', hc', -, rfl⟩ | ⟨hc, -⟩
    · exact ⟨c', hc', rfl, hoff⟩
    · exact ⟨c, hc, rfl, hoff⟩

end Commits

/-- **In every run that misses no switch, what is off stays off.** -/
theorem switches_hold (draw : WeightedDraw) (campaigns : List InspirationCampaignDocument)
    (party : List PartyCharacter) {events : List (Event InspirationJob InspirationStore)}
    {db : Database InspirationStore InspirationKey InspirationJob}
    (hrun : Run (Database.Step (transact draw)) (Database.quiet (.new campaigns party)) events db)
    (hswitched : Admitted Switched events) : db.store.SwitchesHold := by
  have iso := (transact_isolated draw).admitting fun (c : Committed InspirationJob InspirationStore)
    (_ : Switched c) => trivial
  have hstart : (InspirationStore.new campaigns party).SwitchesHold :=
    ⟨fun _ _ hw => absurd hw List.not_mem_nil, fun _ _ _ _ hw => absurd hw List.not_mem_nil,
      fun _ _ _ _ hx => absurd hx List.not_mem_nil⟩
  have hlaw := @Isolated.history _ _ _ _ _ _ _ _ _ _ _ iso (fun _ s => s.SwitchesHold) ?_ _ _ _ hrun hswitched
    (sound_quiet (kept_new campaigns party)) [] hstart
  · exact hlaw
  · intro past job s s' d _ _ _ hadmits hbody hagree hholds
    obtain ⟨writes, answer, rfl, hdecides⟩ := transact_decides hbody
    exact hdecides.switchesHold hadmits hagree hholds

/-! ## The campaign with one source, switched off -/

def canalSwitch : InspirationJob := .setGlobalInspirationControl ⟨"", "key-11", "key-11", 11⟩ 1 true

/-- Where a command that adds is committed on its own snapshot, the switches are on. -/
def findsSwitchesOn (job : InspirationJob) (s : InspirationStore) : Bool :=
  match job with
  | .grantConsent r _ _ => s.isEnabledIn r.campaignId
  | .registerDerivedWork r _ => !s.generationDisabled && s.isEnabledIn r.campaignId
  | _ => true

theorem switched_of_serial {c : Committed InspirationJob InspirationStore} (h : c.snapshot = c.before)
    (hon : findsSwitchesOn c.job c.before = true) : Switched c where
  work := fun w hw _ _ => h ▸ hw
  consents := fun x hx _ _ => h ▸ hx
  grant := fun r grantId command hjob _ _ => by
    rw [hjob] at hon
    exact hon
  registration := fun r command hjob _ _ => by
    rw [hjob] at hon
    unfold findsSwitchesOn at hon
    rw [Bool.and_eq_true, Bool.not_eq_true'] at hon
    exact hon

theorem switches_hold_canal : ∃ events, ∃ db : Database InspirationStore InspirationKey InspirationJob,
    Run (Database.Step (transact firstDraw)) (.quiet (.new [canalCampaign] canalParty)) events db ∧
    db.store.generationDisabled = true ∧ db.store.work ≠ [] ∧ db.store.SwitchesHold := by
  obtain ⟨t, ht, hoff⟩ : ∃ t, serially firstDraw (canalJobs ++ [canalWork, canalSwitch])
      (.new [canalCampaign] canalParty) = some t ∧ (t.generationDisabled && !t.work.isEmpty) = true := by
    have h : (serially firstDraw (canalJobs ++ [canalWork, canalSwitch]) (.new [canalCampaign] canalParty)).any
        (fun t => t.generationDisabled && !t.work.isEmpty) = true := by with_unfolding_all decide
    exact (Option.any_eq_true _ _).mp h
  have hon : (List.range 10).all (fun n => ((canalJobs ++ [canalWork, canalSwitch])[n]?).all fun job =>
      (serially firstDraw ((canalJobs ++ [canalWork, canalSwitch]).take n) (.new [canalCampaign] canalParty)).all
        (findsSwitchesOn job)) = true := by with_unfolding_all decide
  obtain ⟨events, db, -, hstore, hrun, hserial⟩ := serially_runs (idle_quiet _) ht
  rw [Bool.and_eq_true, Bool.not_eq_true', List.isEmpty_eq_false_iff] at hoff
  refine ⟨events, db, hrun, by rw [hstore]; exact hoff.1, by rw [hstore]; exact hoff.2,
    switches_hold firstDraw [canalCampaign] canalParty hrun fun c hc => ?_⟩
  obtain ⟨hsame, n, hjob, hbefore⟩ := hserial c hc
  refine switched_of_serial hsame ?_
  have hn : n < 10 := (List.getElem?_eq_some_iff.mp hjob).1
  have hat := List.all_eq_true.mp hon n (List.mem_range.mpr hn)
  rw [hjob, Option.all_some] at hat
  have hstate : serially firstDraw ((canalJobs ++ [canalWork, canalSwitch]).take n)
      (.new [canalCampaign] canalParty) = some c.before := hbefore
  rw [hstate, Option.all_some] at hat
  exact hat

/-- **Work can be registered under the global switch**: one command after the other. -/
theorem work_under_kill_switch : ¬ ∀ draw campaigns party events,
    ∀ db : Database InspirationStore InspirationKey InspirationJob,
    Run (Database.Step (transact draw)) (.quiet (.new campaigns party)) events db → db.store.SwitchesHold := by
  intro hclaim
  have hend : (serially firstDraw (canalJobs ++ [canalSwitch, canalWork]) (.new [canalCampaign] canalParty)).any
      (fun t => t.generationDisabled && t.work.any (·.state = .pending)) = true := by with_unfolding_all decide
  obtain ⟨t, ht, hget⟩ := (Option.any_eq_true _ _).mp hend
  obtain ⟨events, db, -, hstore, hrun, -⟩ := serially_runs (idle_quiet _) ht
  have hholds := hclaim _ _ _ _ db hrun
  rw [hstore] at hholds
  rw [Bool.and_eq_true] at hget
  obtain ⟨w, hw, hstate⟩ := List.any_eq_true.mp hget.2
  exact hholds.global hget.1 w hw (of_decide_eq_true hstate)

end ManchesterArcana.Inspiration
