import ManchesterArcana.Repository.Deletion

/-!
# `Repository.Erasure` — what a deletion leaves behind

A document belongs to a campaign when it carries its id, is scoped to it, or names one of its generation
jobs. The sweep never touches a document that does not belong to the campaign (`cascade_frame`); what it
misses of those that do is exactly a receipt scoped elsewhere and a reservation or quarantine record that
its filter by job does not reach (`deleteArchivedCampaign_complete_iff`).
-/

namespace ManchesterArcana.Repository

open Effect Store
open Bool (and_eq_true eq_false_iff false_ne_true)

/-! ## Belonging to a campaign -/

/-- The document carries the campaign's id. -/
def CarriesCampaign (campaignId : String) (d : Document) : Prop :=
  (campaignFilter campaignId).matchesDoc d = true

/-- The document is scoped to the campaign. -/
def ScopedToCampaign (campaignId : String) (d : Document) : Prop :=
  (campaignScopeFilter campaignId).matchesDoc d = true

/-- The document names a generation job of the campaign as its job. -/
def NamesJob (db : Database) (campaignId : String) (d : Document) : Prop :=
  ∃ job ∈ db.docs .generationJobs, CarriesCampaign campaignId job ∧
    ∃ id, job.get "_id" = some id ∧ Mentions (d.get "job_id") id

/-- The document is a record of the campaign. -/
def Belongs (db : Database) (campaignId : String) (d : Document) : Prop :=
  CarriesCampaign campaignId d ∨ ScopedToCampaign campaignId d ∨ NamesJob db campaignId d

/-- A receipt that the deletion keeps for replay: the one of its own key, and those marked for it. -/
def RetainedReceipt (key : String) (d : Document) : Prop :=
  Mentions (d.get "idempotency_key") (.string key) ∨
    Mentions (d.get "retain_after_delete") (.boolean true)

/-! ## What the sweep reaches -/

section Sweep

variable {db : Database} {campaignId key : String} {d : Document}

/-- The `job_id` of the document is the string id of a job of the campaign. -/
def ReachedByJob (db : Database) (campaignId : String) (d : Document) : Prop :=
  ∃ id ∈ generationJobIds db campaignId, Mentions (d.get "job_id") (.string id)

theorem jobFilter_iff : (Filter.field "job_id"
      (.oneOf ((generationJobIds db campaignId).map .string))).matchesDoc d = true ↔
    ReachedByJob db campaignId d := by
  rw [Filter.matchesDoc_field, oneOf_holds_iff]
  unfold ReachedByJob
  simp only [List.mem_map, exists_exists_and_eq_and]
  rfl

theorem ReachedByJob.namesJob (h : ReachedByJob db campaignId d) : NamesJob db campaignId d := by
  obtain ⟨id, hid, hmention⟩ := h
  unfold generationJobIds at hid
  obtain ⟨job, hjob, hget⟩ := List.mem_filterMap.mp hid
  obtain ⟨hmem, hcarries⟩ := mem_findDocs.mp hjob
  refine ⟨job, hmem, hcarries, .string id, ?_, hmention⟩
  unfold Document.getStr at hget
  split at hget
  · next s hs =>
    cases hget
    exact hs
  · cases hget

/-- The receipts that the sweep leaves: those scoped elsewhere, and the retained ones. -/
theorem receiptFilter_eq_false : (Filter.both (campaignScopeFilter campaignId)
      (.both (.field "idempotency_key" (.notEquals (.string key)))
        (.field "retain_after_delete" (.notEquals (.boolean true))))).matchesDoc d = false ↔
    (ScopedToCampaign campaignId d → RetainedReceipt key d) := by
  have hkey : Mentions (d.get "idempotency_key") (.string key) ↔
      Bson.meets (· == .string key) (d.get "idempotency_key") = true := equals_holds_iff.symm
  have hretain : Mentions (d.get "retain_after_delete") (.boolean true) ↔
      Bson.meets (· == .boolean true) (d.get "retain_after_delete") = true := equals_holds_iff.symm
  unfold ScopedToCampaign RetainedReceipt
  rw [hkey, hretain]
  simp only [Filter.matchesDoc_both, Filter.matchesDoc_field, Condition.holds]
  cases (campaignScopeFilter campaignId).matchesDoc d <;>
    cases Bson.meets (· == .string key) (d.get "idempotency_key") <;>
      cases Bson.meets (· == .boolean true) (d.get "retain_after_delete") <;> decide

variable {c : CollectionName}

/-- What survives the sweep of a collection. -/
theorem mem_cascade :
    d ∈ (cascadeCampaignDocuments db campaignId key).docs c ↔ d ∈ db.docs c ∧
      (c ∈ cascadedCollections → ¬ CarriesCampaign campaignId d) ∧
      (c = .quarantinedAssets → ¬ ReachedByJob db campaignId d) ∧
      (c = .generationBudgetReservations →
        ¬ ScopedToCampaign campaignId d ∧ ¬ ReachedByJob db campaignId d) ∧
      (c = .deletionPreparations → ¬ ScopedToCampaign campaignId d) ∧
      (c = .auditEvents → ¬ CarriesCampaign campaignId d ∧ ¬ ScopedToCampaign campaignId d) ∧
      (c = .commandReceipts → ScopedToCampaign campaignId d → RetainedReceipt key d) := by
  unfold cascadeCampaignDocuments
  dsimp only
  rw [mem_sweep]
  refine and_congr_right fun _ => ?_
  unfold cascadeSpecs
  simp only [List.mem_append, List.mem_map, List.mem_cons, List.not_mem_nil, or_false, Prod.mk.injEq]
  constructor
  · intro h
    refine ⟨fun hc hcarries => ?_, ?_, ?_, ?_, ?_, ?_⟩
    · have hkept := h _ (.inl (.inr ⟨c, hc, rfl, rfl⟩))
      exact false_ne_true (hkept.symm.trans hcarries)
    · rintro rfl hreached
      have hjobs : generationJobIds db campaignId ≠ [] := by
        obtain ⟨id, hid, -⟩ := hreached
        exact List.ne_nil_of_mem hid
      have hkept := h (.field "job_id" (.oneOf ((generationJobIds db campaignId).map .string)))
        (.inl (.inl (by rw [if_neg hjobs]; exact List.mem_cons_self)))
      exact false_ne_true (hkept.symm.trans (jobFilter_iff.mpr hreached))
    · rintro rfl
      have hkept := h _ (.inr (.inl ⟨rfl, rfl⟩))
      rw [Filter.matchesDoc_either, Bool.or_eq_false_iff] at hkept
      exact ⟨fun hs => false_ne_true (hkept.1.symm.trans hs),
        fun hr => false_ne_true (hkept.2.symm.trans (jobFilter_iff.mpr hr))⟩
    · rintro rfl hs
      have hkept := h _ (.inr (.inr (.inl ⟨rfl, rfl⟩)))
      exact false_ne_true (hkept.symm.trans hs)
    · rintro rfl
      have hkept := h _ (.inr (.inr (.inr (.inl ⟨rfl, rfl⟩))))
      rw [Filter.matchesDoc_either, Bool.or_eq_false_iff] at hkept
      exact ⟨fun hs => false_ne_true (hkept.1.symm.trans hs),
        fun hs => false_ne_true (hkept.2.symm.trans hs)⟩
    · rintro rfl
      exact receiptFilter_eq_false.mp (h _ (.inr (.inr (.inr (.inr ⟨rfl, rfl⟩)))))
  · rintro ⟨hcampaign, hquarantine, hreservation, hpreparation, haudit, hreceipt⟩ f hf
    rcases hf with (hf | ⟨c', hc', rfl, rfl⟩) | ⟨rfl, rfl⟩ | ⟨rfl, rfl⟩ | ⟨rfl, rfl⟩ | ⟨rfl, rfl⟩
    · by_cases hjobs : generationJobIds db campaignId = []
      · rw [if_pos hjobs] at hf
        exact absurd hf List.not_mem_nil
      · rw [if_neg hjobs, List.mem_singleton, Prod.mk.injEq] at hf
        obtain ⟨rfl, rfl⟩ := hf
        exact eq_false_iff.mpr fun hm => hquarantine rfl (jobFilter_iff.mp hm)
    · exact eq_false_iff.mpr (hcampaign hc')
    · rw [Filter.matchesDoc_either, Bool.or_eq_false_iff]
      exact ⟨eq_false_iff.mpr (hreservation rfl).1,
        eq_false_iff.mpr fun hm => (hreservation rfl).2 (jobFilter_iff.mp hm)⟩
    · exact eq_false_iff.mpr (hpreparation rfl)
    · rw [Filter.matchesDoc_either, Bool.or_eq_false_iff]
      exact ⟨eq_false_iff.mpr (haudit rfl).1, eq_false_iff.mpr (haudit rfl).2⟩
    · exact receiptFilter_eq_false.mpr (hreceipt rfl)

/-- **The sweep keeps every document that does not belong to the campaign.** -/
theorem cascade_frame (hd : d ∈ db.docs c) (hother : ¬ Belongs db campaignId d) :
    d ∈ (cascadeCampaignDocuments db campaignId key).docs c := by
  have hcarries : ¬ CarriesCampaign campaignId d := fun h => hother (.inl h)
  have hscoped : ¬ ScopedToCampaign campaignId d := fun h => hother (.inr (.inl h))
  have hreached : ¬ ReachedByJob db campaignId d := fun h => hother (.inr (.inr h.namesJob))
  exact mem_cascade.mpr ⟨hd, fun _ => hcarries, fun _ => hreached, fun _ => ⟨hscoped, hreached⟩,
    fun _ => hscoped, fun _ => ⟨hcarries, hscoped⟩, fun _ hs => absurd hs hscoped⟩

end Sweep

/-! ## The law of deletion -/

/-- After the deletion nothing the export selects is left but retained receipts, no job, invitation,
    reservation or quarantine record of the campaign is left, and whatever does not belong to the campaign
    is still there. Which records name a job of the campaign is asked of the state before. -/
structure DeletionComplete (db db' : Database) (campaignId key : String) : Prop where
  exports : ∀ spec ∈ exportCollectionSpecs campaignId, ∀ d ∈ db'.docs spec.collection,
    spec.filter.matchesDoc d = true → spec.collection = .commandReceipts ∧ RetainedReceipt key d
  jobs : ∀ d ∈ db'.docs .generationJobs, ¬ CarriesCampaign campaignId d
  invitations : ∀ d ∈ db'.docs .campaignInvitations, ¬ CarriesCampaign campaignId d
  reservations : ∀ d ∈ db'.docs .generationBudgetReservations, ¬ Belongs db campaignId d
  quarantine : ∀ d ∈ db'.docs .quarantinedAssets, ¬ Belongs db campaignId d
  others : ∀ c, ∀ d ∈ db.docs c, ¬ Belongs db campaignId d → d ∈ db'.docs c
  otherCampaigns : ∀ root ∈ db.campaigns, root.id ≠ campaignId → root ∈ db'.campaigns

/-- The sweep reaches every record of the campaign: a committed receipt with the campaign's id is scoped to
    the campaign or retained, and every reservation and quarantine record of the campaign is scoped to it (a
    reservation) or names a stored job of it by a string id. -/
structure CascadeReaches (db : Database) (campaignId key : String) : Prop where
  receipts : ∀ d ∈ db.docs .commandReceipts, Mentions (d.get "state") (.string "committed") →
    CarriesCampaign campaignId d → ScopedToCampaign campaignId d ∨ RetainedReceipt key d
  reservations : ∀ d ∈ db.docs .generationBudgetReservations, Belongs db campaignId d →
    ScopedToCampaign campaignId d ∨ ReachedByJob db campaignId d
  quarantine : ∀ d ∈ db.docs .quarantinedAssets, Belongs db campaignId d → ReachedByJob db campaignId d

/-- Every export filter selects documents of the campaign. -/
theorem exportSpec_selects {campaignId : String} {spec : ExportSpec}
    (hspec : spec ∈ exportCollectionSpecs campaignId) {d : Document} (h : spec.filter.matchesDoc d = true) :
    (spec.collection ∈ cascadedCollections ∧ CarriesCampaign campaignId d) ∨
    (spec.collection = .auditEvents ∧ (CarriesCampaign campaignId d ∨ ScopedToCampaign campaignId d)) ∨
    (spec.collection = .commandReceipts ∧ Mentions (d.get "state") (.string "committed") ∧
      (CarriesCampaign campaignId d ∨ ScopedToCampaign campaignId d)) := by
  unfold exportCollectionSpecs at hspec
  simp only [List.mem_cons, List.not_mem_nil, or_false] at hspec
  have hboth : ∀ {f : Filter}, (Filter.both (campaignFilter campaignId) f).matchesDoc d = true →
      CarriesCampaign campaignId d := by
    intro f hf
    rw [Filter.matchesDoc_both, and_eq_true] at hf
    exact hf.1
  have heither : (Filter.either (campaignFilter campaignId) (campaignScopeFilter campaignId)).matchesDoc d =
      true → CarriesCampaign campaignId d ∨ ScopedToCampaign campaignId d := by
    intro hf
    rw [Filter.matchesDoc_either, Bool.or_eq_true] at hf
    exact hf
  rcases hspec with rfl | rfl | rfl | rfl | rfl | rfl | rfl | rfl | rfl | rfl | rfl | rfl | rfl | rfl | rfl |
    rfl | rfl
  -- The receipts and the audits are the two collections exported by scope as well.
  case inr.inr.inr.inl =>
    rw [Filter.matchesDoc_both, and_eq_true] at h
    exact .inr (.inr ⟨rfl, equals_holds_iff.mp h.1, heither h.2⟩)
  case inr.inr.inr.inr.inl => exact .inr (.inl ⟨rfl, heither h⟩)
  all_goals dsimp only at h ⊢
  all_goals first
    | exact .inl ⟨by decide, h⟩
    | exact .inl ⟨by decide, hboth h⟩

theorem receiptSpec_mem (campaignId : String) : (⟨"command_receipts", .commandReceipts,
    .both (.field "state" (.equals (.string "committed")))
      (.either (campaignFilter campaignId) (campaignScopeFilter campaignId)), ["created_at", "_id"]⟩ :
    ExportSpec) ∈ exportCollectionSpecs campaignId :=
  List.mem_cons_of_mem _ (List.mem_cons_of_mem _ (List.mem_cons_of_mem _ List.mem_cons_self))

/-! ## The deletion -/

section Deletion

variable {host : DeletionHost} {db db' : Database} {ownerKey : String} {command : DeleteCampaignCommand}
  {outcome : CampaignLifecycleOutcome}

/-- The store with the deletion's own receipt and tombstone. -/
def staged (db : Database) (receipt tombstone : Document) : Database :=
  (db.insert .commandReceipts receipt).insert .deletionTombstones tombstone

variable {receipt tombstone d : Document}

variable {c : CollectionName} {campaignId : String}

theorem staged_docs (hreceipt : c ≠ .commandReceipts)
    (htombstone : c ≠ .deletionTombstones) : (staged db receipt tombstone).docs c = db.docs c := by
  unfold staged Database.insert
  dsimp only
  rw [Function.update_of_ne htombstone, Function.update_of_ne hreceipt]

theorem staged_receipts :
    (staged db receipt tombstone).docs .commandReceipts = db.docs .commandReceipts ++ [receipt] := by
  unfold staged Database.insert
  dsimp only
  rw [Function.update_of_ne (by decide), Function.update_self]

theorem mem_staged (hd : d ∈ db.docs c) :
    d ∈ (staged db receipt tombstone).docs c := by
  by_cases hreceipt : c = .commandReceipts
  · subst hreceipt
    rw [staged_receipts]
    exact List.mem_append_left _ hd
  · by_cases htombstone : c = .deletionTombstones
    · subst htombstone
      unfold staged Database.insert
      dsimp only
      rw [Function.update_self, Function.update_of_ne (by decide)]
      exact List.mem_append_left _ hd
    · rwa [staged_docs hreceipt htombstone]

theorem reachedByJob_staged :
    ReachedByJob (staged db receipt tombstone) campaignId d ↔ ReachedByJob db campaignId d := by
  unfold ReachedByJob generationJobIds
  rw [staged_docs (by decide) (by decide)]

theorem belongs_staged :
    Belongs (staged db receipt tombstone) campaignId d ↔ Belongs db campaignId d := by
  unfold Belongs NamesJob
  rw [staged_docs (by decide) (by decide)]

/-- What a deletion that is not a replay does to the store. -/
theorem deleteCampaignTransaction_spec
    (h : deleteCampaignTransaction host db ownerKey command = .ok (outcome, db')) :
    ∃ receipt tombstone, Mentions (Document.get receipt "idempotency_key")
        (.string command.lifecycle.idempotencyKey) ∧
      db'.docs = (cascadeCampaignDocuments (staged db receipt tombstone)
        command.lifecycle.campaignSessionId command.lifecycle.idempotencyKey).docs ∧
      db'.campaigns = db.campaigns.filter fun root => root.id != command.lifecycle.campaignSessionId := by
  unfold deleteCampaignTransaction at h
  simp only [bind_eq_ok, exists_unit, rejectIf_eq_ok, okOr_eq_ok] at h
  obtain ⟨campaign, hload, -, -, -, found, -, preparation, -, -, -, exportedAt, -, digest, -, -, -, -, hmk⟩ := h
  have hid : campaign.id = command.lifecycle.campaignSessionId := by
    unfold loadOwnedGmCampaign at hload
    have hfound := List.find?_some (okOr_eq_ok.mp hload)
    simp only [and_eq_true, beq_iff_eq] at hfound
    exact hfound.1.1
  rw [hid] at hmk
  cases hmk
  exact ⟨_, _, .inl rfl, rfl, rfl⟩

/-- **A deletion that is not a replay is complete exactly when the sweep reaches every record.** -/
theorem deleteCampaignTransaction_complete_iff
    (h : deleteCampaignTransaction host db ownerKey command = .ok (outcome, db')) :
    DeletionComplete db db' command.lifecycle.campaignSessionId command.lifecycle.idempotencyKey ↔
      CascadeReaches db command.lifecycle.campaignSessionId command.lifecycle.idempotencyKey := by
  obtain ⟨receipt, tombstone, hreceipt, hdocs, hroots⟩ := deleteCampaignTransaction_spec h
  have hmem : ∀ {c : CollectionName} {d : Document}, d ∈ db'.docs c ↔
      d ∈ (cascadeCampaignDocuments (staged db receipt tombstone) command.lifecycle.campaignSessionId
        command.lifecycle.idempotencyKey).docs c := by
    intro c d
    rw [hdocs]
  have hold : ∀ {c : CollectionName} {d : Document}, c ≠ .commandReceipts → c ≠ .deletionTombstones →
      d ∈ db'.docs c → d ∈ db.docs c := by
    intro c d hr ht hd
    have := (mem_cascade.mp (hmem.mp hd)).1
    rwa [staged_docs hr ht] at this
  constructor
  · intro hcomplete
    refine ⟨fun d hd hstate hcarries => ?_, fun d hd hbelongs => ?_, fun d hd hbelongs => ?_⟩
    · by_cases hscoped : ScopedToCampaign command.lifecycle.campaignSessionId d
      · exact .inl hscoped
      · -- A receipt with another scope survives, and the export selects it.
        have hkept : d ∈ db'.docs .commandReceipts := hmem.mpr (mem_cascade.mpr
          ⟨mem_staged hd, fun hc => absurd hc (by decide), fun hc => (nomatch hc), fun hc => (nomatch hc),
            fun hc => (nomatch hc), fun hc => (nomatch hc), fun _ hs => absurd hs hscoped⟩)
        refine .inr (hcomplete.exports _ (receiptSpec_mem _) d hkept ?_).2
        rw [Filter.matchesDoc_both, Filter.matchesDoc_either, and_eq_true, Bool.or_eq_true]
        exact ⟨equals_holds_iff.mpr hstate, .inl hcarries⟩
    · by_contra hmissed
      rw [not_or] at hmissed
      refine hcomplete.reservations d (hmem.mpr (mem_cascade.mpr ⟨mem_staged hd,
        fun hc => absurd hc (by decide), fun hc => (nomatch hc), fun _ => ⟨hmissed.1, fun hr =>
          hmissed.2 (reachedByJob_staged.mp hr)⟩, fun hc => (nomatch hc), fun hc => (nomatch hc),
          fun hc => (nomatch hc)⟩)) hbelongs
    · by_contra hmissed
      refine hcomplete.quarantine d (hmem.mpr (mem_cascade.mpr ⟨mem_staged hd,
        fun hc => absurd hc (by decide), fun _ hr => hmissed (reachedByJob_staged.mp hr),
          fun hc => (nomatch hc), fun hc => (nomatch hc), fun hc => (nomatch hc),
          fun hc => (nomatch hc)⟩)) hbelongs
  · intro hreach
    refine ⟨?exports, ?jobs, ?invitations, ?reservations, ?quarantine, ?others, ?otherCampaigns⟩
    case exports =>
      intro spec hspec d hd hselected
      obtain ⟨hstaged, hcampaign, -, -, -, haudit, hkept⟩ := mem_cascade.mp (hmem.mp hd)
      rcases exportSpec_selects hspec hselected with ⟨hc, hcarries⟩ | ⟨hc, hbelongs⟩ |
          ⟨hc, hstate, hbelongs⟩
      · exact absurd hcarries (hcampaign hc)
      · rcases hbelongs with hcarries | hscoped
        · exact absurd hcarries (haudit hc).1
        · exact absurd hscoped (haudit hc).2
      · refine ⟨hc, ?_⟩
        rcases hbelongs with hcarries | hscoped
        · rw [hc, staged_receipts, List.mem_append] at hstaged
          rcases hstaged with hprior | hown
          · rcases hreach.receipts d hprior hstate hcarries with hscoped | hretained
            · exact hkept hc hscoped
            · exact hretained
          · rw [List.mem_singleton.mp hown]
            exact .inl hreceipt
        · exact hkept hc hscoped
    case jobs =>
      intro d hd
      exact (mem_cascade.mp (hmem.mp hd)).2.1 (by decide)
    case invitations =>
      intro d hd
      exact (mem_cascade.mp (hmem.mp hd)).2.1 (by decide)
    case reservations =>
      intro d hd hbelongs
      obtain ⟨-, -, -, hreservation, -⟩ := mem_cascade.mp (hmem.mp hd)
      rcases hreach.reservations d (hold (by decide) (by decide) hd) hbelongs with hscoped | hreached
      · exact (hreservation rfl).1 hscoped
      · exact (hreservation rfl).2 (reachedByJob_staged.mpr hreached)
    case quarantine =>
      intro d hd hbelongs
      obtain ⟨-, -, hquarantine, -⟩ := mem_cascade.mp (hmem.mp hd)
      exact hquarantine rfl (reachedByJob_staged.mpr
        (hreach.quarantine d (hold (by decide) (by decide) hd) hbelongs))
    case others =>
      intro c d hd hother
      exact hmem.mpr (cascade_frame (mem_staged hd) fun hb => hother (belongs_staged.mp hb))
    case otherCampaigns =>
      intro root hroot hne
      rw [hroots]
      exact List.mem_filter.mpr ⟨hroot, bne_iff_ne.mpr hne⟩

/-- A committed lifecycle receipt of the command's key is stored: the call is a retry. -/
def Replayed (db : Database) (ownerKey : String) (command : DeleteCampaignCommand) : Prop :=
  ∃ d ∈ db.docs .commandReceipts, (lifecycleReceiptFilter ownerKey command.lifecycle.campaignSessionId
    command.lifecycle.idempotencyKey).matchesDoc d = true

/-- The store holds nothing of the campaign but retained receipts. -/
structure Vacant (db : Database) (campaignId key : String) : Prop where
  exports : ∀ spec ∈ exportCollectionSpecs campaignId, ∀ d ∈ db.docs spec.collection,
    spec.filter.matchesDoc d = true → spec.collection = .commandReceipts ∧ RetainedReceipt key d
  jobs : ∀ d ∈ db.docs .generationJobs, ¬ CarriesCampaign campaignId d
  invitations : ∀ d ∈ db.docs .campaignInvitations, ¬ CarriesCampaign campaignId d
  reservations : ∀ d ∈ db.docs .generationBudgetReservations, ¬ Belongs db campaignId d
  quarantine : ∀ d ∈ db.docs .quarantinedAssets, ¬ Belongs db campaignId d

/-- A retry changes nothing. -/
theorem deleteArchivedCampaign_cases
    (h : deleteArchivedCampaign host db ownerKey command = .ok (outcome, db')) :
    (Replayed db ownerKey command ∧ db' = db) ∨
    (¬ Replayed db ownerKey command ∧
      deleteCampaignTransaction host db ownerKey command = .ok (outcome, db')) := by
  unfold deleteArchivedCampaign at h
  simp only [bind_eq_ok, exists_unit, rejectIf_eq_ok] at h
  obtain ⟨-, -, -, replay, hreplay, hrest⟩ := h
  unfold loadLifecycleReplay at hreplay
  split at hreplay
  · next hnone =>
    cases hreplay
    refine .inr ⟨?_, hrest⟩
    rintro ⟨d, hd, hmatch⟩
    have := findOne_eq_none.mp hnone d hd
    rw [hmatch] at this
    cases this
  · next d hfound =>
    simp only [bind_eq_ok] at hreplay
    obtain ⟨receipt, -, replayed, -, hsome⟩ := hreplay
    cases hsome
    cases hrest
    obtain ⟨hd, hmatch⟩ := findOne_eq_some hfound
    exact .inl ⟨⟨d, hd, hmatch⟩, rfl⟩

/-- **When a successful deletion is complete.** A retry is complete exactly on a store that already holds
    nothing of the campaign; a deletion that runs is complete exactly when its sweep reaches every record. -/
theorem deleteArchivedCampaign_complete_iff
    (h : deleteArchivedCampaign host db ownerKey command = .ok (outcome, db')) :
    DeletionComplete db db' command.lifecycle.campaignSessionId command.lifecycle.idempotencyKey ↔
      (Replayed db ownerKey command →
        Vacant db command.lifecycle.campaignSessionId command.lifecycle.idempotencyKey) ∧
      (¬ Replayed db ownerKey command →
        CascadeReaches db command.lifecycle.campaignSessionId command.lifecycle.idempotencyKey) := by
  rcases deleteArchivedCampaign_cases h with ⟨hreplayed, rfl⟩ | ⟨hfresh, htransaction⟩
  · constructor
    · intro hc
      exact ⟨fun _ => ⟨hc.exports, hc.jobs, hc.invitations, hc.reservations, hc.quarantine⟩,
        fun hfresh => absurd hreplayed hfresh⟩
    · rintro ⟨hvacant, -⟩
      have hv := hvacant hreplayed
      exact ⟨hv.exports, hv.jobs, hv.invitations, hv.reservations, hv.quarantine, fun c d hd _ => hd,
        fun root hroot _ => hroot⟩
  · rw [deleteCampaignTransaction_complete_iff htransaction]
    constructor
    · intro hreach
      exact ⟨fun hreplayed => absurd hreplayed hfresh, fun _ => hreach⟩
    · rintro ⟨-, hreach⟩
      exact hreach hfresh

end Deletion

/-! ## Receipts of the hero -/

inductive HeroReceiptScope where
  | draft
  | character
  deriving DecidableEq, Repr

def HeroReceiptScope.asStr : HeroReceiptScope → String
  | .draft => "hero_draft"
  | .character => "campaign_character_instance"

structure NewHeroCommandReceipt where
  actorAccountId : String
  scope : HeroReceiptScope
  scopeId : String
  campaignSessionId : String
  idempotencyKey : String
  commandKind : String
  requestFingerprint : String
  expectedRevision : Nat
  resultRevision : Nat
  auditId : String
  responseJson : String
  deriving DecidableEq, Repr

/-- `hero_receipt_document`: scoped to a draft or a character, with the campaign's id beside it. -/
def heroReceiptDocument (receipt : NewHeroCommandReceipt) (freshId : String) (createdAt : Int) : Document :=
  [("_id", .string ("receipt:" ++ freshId)), ("schema_version", .integer storageSchemaVersion),
    ("scope_kind", .string receipt.scope.asStr), ("scope_id", .string receipt.scopeId),
    ("campaign_id", .string receipt.campaignSessionId),
    ("actor_account_id", .string receipt.actorAccountId), ("command_kind", .string receipt.commandKind),
    ("idempotency_key", .string receipt.idempotencyKey),
    ("request_fingerprint", .string receipt.requestFingerprint), ("state", .string "committed"),
    ("expected_revision", .integer receipt.expectedRevision),
    ("result_revision", .integer receipt.resultRevision), ("audit_id", .string receipt.auditId),
    ("response_json", .string receipt.responseJson), ("created_at", .dateTime createdAt)]

/-- **A hero receipt of the campaign outlives the sweep.** Only one that happens to carry the key of the
    deletion counts as retained. -/
theorem heroReceipt_unreached {db : Database} {receipt : NewHeroCommandReceipt} {freshId key : String}
    {createdAt : Int} (hd : heroReceiptDocument receipt freshId createdAt ∈ db.docs .commandReceipts)
    (hkey : receipt.idempotencyKey ≠ key) : ¬ CascadeReaches db receipt.campaignSessionId key := by
  intro hreach
  have hscalar : ∀ {x y : Scalar}, Mentions (some (.scalar x)) (.scalar y) → x = y := by
    rintro x y (h | ⟨values, h, -⟩)
    · exact Bson.scalar.inj (Option.some.inj h)
    · cases h
  have hcarries : CarriesCampaign receipt.campaignSessionId
      (heroReceiptDocument receipt freshId createdAt) := equals_holds_iff.mpr (.inl rfl)
  rcases hreach.receipts _ hd (.inl rfl) hcarries with hscoped | hkept | hkept
  · unfold ScopedToCampaign campaignScopeFilter at hscoped
    rw [Filter.matchesDoc_both, and_eq_true] at hscoped
    have hkind := hscalar (equals_holds_iff.mp hscoped.1)
    cases hscope : receipt.scope with
    | draft =>
      rw [hscope] at hkind
      exact absurd hkind (by decide)
    | character =>
      rw [hscope] at hkind
      exact absurd hkind (by decide)
  · exact hkey (Scalar.string.inj (hscalar hkept))
  · rcases hkept with h | ⟨values, h, -⟩
    · cases h
    · cases h

/-- A host whose digests and exports are those of one stored export. -/
def plainHost : DeletionHost where
  fingerprint _ := "sha256:0000000000000000000000000000000000000000000000000000000000000001"
  digest _ := "sha256:0000000000000000000000000000000000000000000000000000000000000002"
  exportedAt _ := some "2026-01-01T00:00:00Z"
  exportDigest _ _ _ _ := .ok "sha256:0000000000000000000000000000000000000000000000000000000000000002"
  now := 1000
  receiptId := "1"
  tombstoneId := "1"

/-- The receipt of a level-up in the campaign. -/
def levelUpReceipt : NewHeroCommandReceipt where
  actorAccountId := "owner-1"
  scope := .character
  scopeId := "hero-1"
  campaignSessionId := "campaign-1"
  idempotencyKey := "level-up-1"
  commandKind := "hero_level_up"
  requestFingerprint := "sha256:0000000000000000000000000000000000000000000000000000000000000003"
  expectedRevision := 1
  resultRevision := 2
  auditId := "audit-1"
  responseJson := "null"

/-- An archived campaign, prepared for deletion, in which a hero once leveled up. -/
def archivedCampaign : Database where
  campaigns := [⟨"campaign-1", 5, 3, "owner-1", "archived", [⟨"owner-1", "game_master", "active"⟩], none, []⟩]
  docs
    | .commandReceipts => [heroReceiptDocument levelUpReceipt "1" 0]
    | .deletionPreparations =>
      [[("_id", .string "deletion-preparation:1"), ("schema_version", .integer 1),
        ("deletion_id", .string "deletion-1"), ("owner_account_id", .string "owner-1"),
        ("scope_kind", .string "campaign"), ("scope_id", .string "campaign-1"),
        ("campaign_revision", .integer 5), ("lifecycle_revision", .integer 3),
        ("digest", .string "sha256:0000000000000000000000000000000000000000000000000000000000000002"),
        ("canonical_export_json", .string "null"), ("expires_at", .dateTime 2000),
        ("purge_at", .dateTime 2000), ("created_at", .dateTime 0)]]
    | _ => []

def deleteCommand : DeleteCampaignCommand where
  lifecycle := ⟨1, "campaign-1", 3, "delete-1"⟩
  deletionId := "deletion-1"
  confirmPermanentDelete := true

theorem archivedCampaign_deletes : ∃ outcome db',
    deleteArchivedCampaign plainHost archivedCampaign "owner-1" deleteCommand = .ok (outcome, db') := by
  have hok : (deleteArchivedCampaign plainHost archivedCampaign "owner-1" deleteCommand).isOk = true := by
    with_unfolding_all decide
  cases hdelete : deleteArchivedCampaign plainHost archivedCampaign "owner-1" deleteCommand with
  | error e =>
    rw [hdelete] at hok
    cases hok
  | ok result => exact ⟨result.1, result.2, rfl⟩

theorem archivedCampaign_fresh : ¬ Replayed archivedCampaign "owner-1" deleteCommand := by
  rintro ⟨d, hd, hmatch⟩
  rw [List.mem_singleton.mp hd] at hmatch
  exact false_ne_true (hmatch.symm.trans (by decide)).symm

/-- The iff at the deletion of this campaign. -/
theorem archivedCampaign_complete_iff : ∃ outcome db',
    deleteArchivedCampaign plainHost archivedCampaign "owner-1" deleteCommand = .ok (outcome, db') ∧
    (DeletionComplete archivedCampaign db' "campaign-1" "delete-1" ↔
      (Replayed archivedCampaign "owner-1" deleteCommand → Vacant archivedCampaign "campaign-1" "delete-1") ∧
      (¬ Replayed archivedCampaign "owner-1" deleteCommand →
        CascadeReaches archivedCampaign "campaign-1" "delete-1")) := by
  obtain ⟨outcome, db', h⟩ := archivedCampaign_deletes
  exact ⟨outcome, db', h, deleteArchivedCampaign_complete_iff h⟩

/-- **The receipt of a level-up survives the deletion of its campaign.** -/
theorem archivedCampaign_incomplete : ∃ outcome db',
    deleteArchivedCampaign plainHost archivedCampaign "owner-1" deleteCommand = .ok (outcome, db') ∧
    ¬ DeletionComplete archivedCampaign db' "campaign-1" "delete-1" := by
  obtain ⟨outcome, db', h⟩ := archivedCampaign_deletes
  refine ⟨outcome, db', h, fun hcomplete => ?_⟩
  rcases deleteArchivedCampaign_cases h with ⟨hreplayed, -⟩ | ⟨-, htransaction⟩
  · exact archivedCampaign_fresh hreplayed
  · have hreach := (deleteCampaignTransaction_complete_iff htransaction).mp hcomplete
    have hunreached : ¬ CascadeReaches archivedCampaign levelUpReceipt.campaignSessionId "delete-1" :=
      @heroReceipt_unreached archivedCampaign levelUpReceipt "1" "delete-1" 0 List.mem_cons_self (by decide)
    exact hunreached hreach

end ManchesterArcana.Repository
