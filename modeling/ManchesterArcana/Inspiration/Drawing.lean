import Mathlib.Data.List.GetD
import Mathlib.Data.String.Basic
import ManchesterArcana.Inspiration.Switches

/-!
# `Inspiration.Drawing` — what a selection draws from

The open versions are read in order, each with the prompt that is found for it by source id and digest. What is drawn
is a prompt; the version that is recorded with it is looked up again. Where every source has a single version that is
open, each source is counted once and the recorded version is the one that was drawn (`drawUnlessOff_counted`).
-/

namespace ManchesterArcana.Inspiration

open Effect Store
open List (map_map mem_filter)

/-! ## Versions and counts -/

/-- **The selection counted these versions**, each source once, and drew one of them by their own weights. -/
structure SelectionDocument.Counted (draw : WeightedDraw) (x : SelectionDocument) (docs : List SourceDocument) :
    Prop where
  once : (docs.map (·.logicalId)).Nodup
  counted : x.eligibleSources = docs.map (·.logicalId)
  selected : ∀ b ∈ x.selected, ∃ sample ∈ x.sampleNumerator, ∃ last ∈ docs.getLast?, ∃ d ∈ docs,
    d = docs.getD (draw (docs.map (·.runtimeProjection.selectionWeightNanounits)) sample) last ∧
    b = ⟨d.logicalId, d.revision, d.sourceDigest, x.turnNumber + d.runtimeProjection.cooldownTurns⟩

/-- **Of the versions that a selection finds open** with a prompt: of each source one is eligible, it is the latest
    that is open, and its prompt is its own. -/
structure SingleVersion (sources : List (SourceDocument × EventPrompt)) (context : EventEligibility) : Prop where
  once : ∀ d p d' p', (d, p) ∈ sources → (d', p') ∈ sources → p.isEligible context = true →
    p'.isEligible context = true → d.logicalId = d'.logicalId → d = d'
  latest : ∀ d p d' p', (d, p) ∈ sources → (d', p') ∈ sources → p.isEligible context = true →
    d'.logicalId = d.logicalId → d'.sourceDigest = d.sourceDigest → d'.revision ≤ d.revision
  own : ∀ d p, (d, p) ∈ sources → p.isEligible context = true → p.runtime = d.runtimeProjection

/-! ## What is drawn -/

variable {prompts : List EventPrompt}

theorem findPrompt_eq_some {d : SourceDocument} {p : EventPrompt}
    (h : d.findPrompt prompts = some p) : p.privacySourceId = d.logicalId ∧ p.sourceDigest = d.sourceDigest := by
  unfold SourceDocument.findPrompt at h
  have hfound := List.find?_some h
  rw [decide_eq_true_eq] at hfound
  exact ⟨hfound.1, hfound.2.1⟩

section Sources

variable {s : InspirationStore} {command : RequestInspirationSelectionCommand} {themeId : String}
  {safety : CampaignSafetyDocument} {prompts : List EventPrompt} {now : Nat}

variable {d : SourceDocument} {p : EventPrompt}

theorem openSources_prompt
    (h : (d, p) ∈ s.openSources command themeId safety prompts now) :
    d ∈ s.sources ∧ p.privacySourceId = d.logicalId ∧ p.sourceDigest = d.sourceDigest := by
  obtain ⟨d', hd', hmap⟩ := List.mem_filterMap.mp h
  obtain ⟨p', hp', heq⟩ := Option.map_eq_some_iff.mp hmap
  cases heq
  refine ⟨?_, findPrompt_eq_some hp'⟩
  have happroved := (mem_filter.mp hd').1
  unfold InspirationStore.approvedSources at happroved
  rw [List.mem_insertionSort] at happroved
  exact (mem_filter.mp happroved).1

/-- The open versions are read in the order of the approved ones. -/
theorem openSources_sublist : ((s.openSources command themeId safety prompts now).map (·.1)).Sublist
    (s.approvedSources command.media now) := by
  refine List.Sublist.trans ?_ (@List.filter_sublist _ (s.isOpenSource command themeId safety now) _)
  unfold InspirationStore.openSources
  generalize (s.approvedSources command.media now).filter (s.isOpenSource command themeId safety now) = docs
  induction docs with
  | nil => exact List.Sublist.slnil
  | cons d docs ih =>
    rw [List.filterMap_cons]
    cases hfind : d.findPrompt prompts with
    | none => exact ih.cons d
    | some p => exact ih.cons_cons d

theorem before_trans {d' d'' : SourceDocument} (h : d.before d') (h' : d'.before d'') : d.before d'' := by
  rcases h with hlt | ⟨heq, hle⟩
  · rcases h' with hlt' | ⟨heq', -⟩
    · exact .inl (lt_trans hlt hlt')
    · exact .inl (heq' ▸ hlt)
  · rcases h' with hlt' | ⟨heq', hle'⟩
    · exact .inl (heq ▸ hlt')
    · exact .inr ⟨heq.trans heq', hle.trans hle'⟩

theorem before_total (d d' : SourceDocument) : d.before d' ∨ d'.before d := by
  rcases lt_trichotomy d.logicalId d'.logicalId with hlt | heq | hgt
  · exact .inl (.inl hlt)
  · rcases Nat.le_total d.revision d'.revision with hle | hle
    · exact .inl (.inr ⟨heq, hle⟩)
    · exact .inr (.inr ⟨heq.symm, hle⟩)
  · exact .inr (.inl hgt)

instance : IsTrans SourceDocument SourceDocument.before := ⟨fun _ _ _ => before_trans⟩

instance : Std.Total SourceDocument.before := ⟨before_total⟩

theorem openSources_sorted :
    ((s.openSources command themeId safety prompts now).map (·.1)).Pairwise SourceDocument.before :=
  (List.pairwise_insertionSort _ _).sublist openSources_sublist

theorem openSources_nodup (h : s.Kept) : ((s.openSources command themeId safety prompts now).map (·.1)).Nodup := by
  refine List.Nodup.sublist openSources_sublist ?_
  exact ((List.perm_insertionSort _ _).nodup_iff).mpr (h.sourceKeys.of_map.filter _)

theorem getLast_before {docs : List SourceDocument} (h : docs.Pairwise SourceDocument.before) {last : SourceDocument}
    (hd : d ∈ docs) (hlast : docs.getLast? = some last) : d = last ∨ d.before last := by
  induction docs with
  | nil => cases hd
  | cons x docs ih =>
    obtain ⟨hx, hdocs⟩ := List.pairwise_cons.mp h
    cases docs with
    | nil =>
      cases hlast
      exact .inl (List.mem_singleton.mp hd)
    | cons y docs =>
      rw [List.getLast?_cons_cons] at hlast
      rcases List.mem_cons.mp hd with rfl | hd
      · exact .inr (hx last (List.mem_of_getLast? hlast))
      · exact ih hdocs hd hlast

/-- The recorded version is the one that was drawn, if it is the latest. -/
theorem versionOf_latest {version : Nat}
    (hd : (d, p) ∈ s.openSources command themeId safety prompts now)
    (hlatest : ∀ d' p', (d', p') ∈ s.openSources command themeId safety prompts now → d'.logicalId = d.logicalId →
      d'.sourceDigest = d.sourceDigest → d'.revision ≤ d.revision)
    (hversion : versionOf (s.openSources command themeId safety prompts now) d.logicalId d.sourceDigest = some version) :
    version = d.revision := by
  unfold versionOf at hversion
  obtain ⟨last, hlast, rfl⟩ := Option.map_eq_some_iff.mp hversion
  have hmem := mem_filter.mp (List.mem_of_getLast? hlast)
  rw [decide_eq_true_eq] at hmem
  obtain ⟨⟨d', p'⟩, hopen, rfl⟩ := List.mem_map.mp hmem.1
  have hle := hlatest d' p' hopen hmem.2.1 hmem.2.2
  have hdmem : d ∈ ((s.openSources command themeId safety prompts now).map (·.1)).filter
      fun x => x.logicalId = d.logicalId ∧ x.sourceDigest = d.sourceDigest :=
    mem_filter.mpr ⟨List.mem_map_of_mem (f := Prod.fst) hd, decide_eq_true ⟨rfl, rfl⟩⟩
  rcases getLast_before (openSources_sorted.filter _) hdmem hlast with heq | hlt | ⟨-, hge⟩
  · rw [← heq]
  · exact absurd (hmem.2.1 ▸ hlt) (lt_irrefl _)
  · exact Nat.le_antisymm hle hge

end Sources

/-- What is drawn, the last one if the draw goes beyond it, is one of the list. -/
theorem getD_getLast_mem {α : Type} {xs : List α} {last : α} (hlast : xs.getLast? = some last) (i : Nat) :
    xs.getD i last ∈ xs := by
  rw [List.getD_eq_getElem?_getD]
  cases hget : xs[i]? with
  | none => exact List.mem_of_getLast? hlast
  | some x => exact List.mem_of_getElem? hget

/-! ## The order of the draw -/

/-- The versions with an eligible prompt, in the order of the draw. -/
def drawOrder (sources : List (SourceDocument × EventPrompt)) (context : EventEligibility) :
    List (SourceDocument × EventPrompt) :=
  (sources.filter fun x => x.2.isEligible context).insertionSort fun x y => x.2.privacySourceId ≤ y.2.privacySourceId

section Order

variable {sources : List (SourceDocument × EventPrompt)} {context : EventEligibility}

theorem mem_drawOrder {x : SourceDocument × EventPrompt} :
    x ∈ drawOrder sources context ↔ x ∈ sources ∧ x.2.isEligible context = true := by
  unfold drawOrder
  rw [List.mem_insertionSort, mem_filter]

/-- The prompts are drawn from in the order of their versions. -/
theorem drawOrder_prompts : (drawOrder sources context).map (·.2) =
    ((sources.map (·.2)).filter (·.isEligible context)).insertionSort
      fun p p' => p.privacySourceId ≤ p'.privacySourceId := by
  unfold drawOrder
  rw [List.map_insertionSort _ (fun p p' : EventPrompt => p.privacySourceId ≤ p'.privacySourceId) _ _
    (fun _ _ _ _ => Iff.rfl), List.filter_map]
  rfl

/-- Where every source has a single version, each is in the order once. -/
theorem SingleVersion.drawOrder_once (hversions : SingleVersion sources context) (hnodup : (sources.map (·.1)).Nodup) :
    ((drawOrder sources context).map (·.1.logicalId)).Nodup := by
  have hpairs : (drawOrder sources context).Nodup := by
    unfold drawOrder
    exact ((List.perm_insertionSort _ _).nodup_iff).mpr (hnodup.of_map.filter _)
  refine List.Nodup.map_on (fun x hx y hy heq => ?_) hpairs
  obtain ⟨hxs, hxe⟩ := mem_drawOrder.mp hx
  obtain ⟨hys, hye⟩ := mem_drawOrder.mp hy
  exact List.inj_on_of_nodup_map hnodup hxs hys (hversions.once x.1 x.2 y.1 y.2 hxs hys hxe hye heq)

/-- And its weight is its own. -/
theorem SingleVersion.drawOrder_weights (hversions : SingleVersion sources context) :
    ((drawOrder sources context).map (·.2)).map (·.runtime.selectionWeightNanounits) =
      ((drawOrder sources context).map (·.1)).map (·.runtimeProjection.selectionWeightNanounits) := by
  rw [map_map, map_map]
  refine List.map_congr_left fun x hx => ?_
  obtain ⟨hxs, hxe⟩ := mem_drawOrder.mp hx
  show x.2.runtime.selectionWeightNanounits = _
  rw [hversions.own x.1 x.2 hxs hxe]
  rfl

end Order

/-- What a draw of the eligible prompts comes to. -/
theorem selectWithAudit_eq_ok {draw : WeightedDraw} {words : WordStream}
    {context : EventEligibility} {cursor : Nat} {audit : EventSelectionAudit}
    (h : selectWithAudit draw words prompts context cursor = .ok audit) :
    audit.eligible = (prompts.filter (·.isEligible context)).insertionSort
        (fun p p' => p.privacySourceId ≤ p'.privacySourceId) ∧
      ((audit.selected = none ∧ audit.cursorAfter = cursor) ∨
        ∃ last sample, audit.eligible.getLast? = some last ∧ audit.sampleNumerator = some sample ∧
          cursor < audit.cursorAfter ∧ audit.selected = some (audit.eligible.getD
            (draw (audit.eligible.map (·.runtime.selectionWeightNanounits)) sample) last)) := by
  unfold selectWithAudit at h
  simp only at h
  split at h
  · next hnone =>
    cases h
    rw [List.getLast?_eq_none_iff] at hnone
    exact ⟨hnone.symm, .inl ⟨rfl, rfl⟩⟩
  · next last hlast =>
    obtain ⟨-, -, h⟩ := bind_eq_ok.mp h
    obtain ⟨-, -, h⟩ := bind_eq_ok.mp h
    obtain ⟨⟨value, next⟩, hdie, h⟩ := bind_eq_ok.mp h
    cases h
    exact ⟨rfl, .inr ⟨last, value - 1, hlast, rfl, (drawDie_eq_ok (mapError_eq_ok.mp hdie)).2.2, rfl⟩⟩

section Draws

variable {draw : WeightedDraw} {words : WordStream} {s : InspirationStore}
  {command : RequestInspirationSelectionCommand} {themeId : String} {safety : CampaignSafetyDocument}
  {prompts : List EventPrompt} {turnNumber now : Nat} {drawn : Drawn}

/-- What a draw is recorded as. -/
theorem drawSource_eq_ok (h : s.drawSource draw words command themeId safety prompts turnNumber now = .ok drawn) :
    ∃ partyLevel audit, s.trustedPartyLevel command.campaignSessionId = .ok partyLevel ∧
      selectWithAudit draw words ((s.openSources command themeId safety prompts now).map (·.2))
        (s.eligibility command.campaignSessionId safety (s.openSources command themeId safety prompts now) partyLevel
          turnNumber) safety.rngCursor = .ok audit ∧
      drawn.eligibleSources = audit.eligible.map (·.privacySourceId) ∧ drawn.sampleNumerator = audit.sampleNumerator ∧
      drawn.cursorAfter = audit.cursorAfter ∧
      ((audit.selected = none ∧ drawn.selected = none) ∨ ∃ prompt version, audit.selected = some prompt ∧
        versionOf (s.openSources command themeId safety prompts now) prompt.privacySourceId prompt.sourceDigest =
          some version ∧
        drawn.selected = some ⟨prompt.privacySourceId, version, prompt.sourceDigest,
          turnNumber + prompt.runtime.cooldownTurns⟩) := by
  obtain ⟨partyLevel, hlevel, h⟩ := bind_eq_ok.mp h
  obtain ⟨-, -, h⟩ := bind_eq_ok.mp h
  obtain ⟨audit, haudit, h⟩ := bind_eq_ok.mp h
  refine ⟨partyLevel, audit, hlevel, haudit, ?_⟩
  split at h
  · next hnone =>
    cases h
    exact ⟨rfl, rfl, rfl, .inl ⟨hnone, rfl⟩⟩
  · next prompt hselected =>
    obtain ⟨version, hversion, h⟩ := bind_eq_ok.mp h
    obtain ⟨-, -, h⟩ := bind_eq_ok.mp h
    cases h
    exact ⟨rfl, rfl, rfl, .inr ⟨prompt, version, hselected, okOr_eq_ok.mp hversion, rfl⟩⟩

/-- The prompt that is selected is one of the eligible. -/
theorem selected_mem {context : EventEligibility} {cursor : Nat} {ps : List EventPrompt} {audit : EventSelectionAudit}
    (h : selectWithAudit draw words ps context cursor = .ok audit) {prompt : EventPrompt}
    (hselected : audit.selected = some prompt) :
    prompt ∈ ps ∧ prompt.isEligible context = true ∧ cursor < audit.cursorAfter := by
  obtain ⟨heligible, ⟨hnone, -⟩ | ⟨last, sample, hlast, -, hcursor, hsome⟩⟩ := selectWithAudit_eq_ok h
  · rw [hselected] at hnone
    cases hnone
  · rw [hselected] at hsome
    have hmem : prompt ∈ audit.eligible := by
      rw [Option.some.inj hsome]
      exact getD_getLast_mem hlast _
    rw [heligible, List.mem_insertionSort, mem_filter] at hmem
    exact ⟨hmem.1, hmem.2, hcursor⟩

/-- A prompt is eligible after the cooldown only. -/
theorem cooldown_of_eligible {campaignId : String} {sources : List (SourceDocument × EventPrompt)}
    {partyLevel : Nat} {p : EventPrompt}
    (h : p.isEligible (s.eligibility campaignId safety sources partyLevel turnNumber) = true) {x : SelectionDocument}
    (hx : x ∈ s.selections) (hcampaign : x.campaignId = campaignId) {b : SourceBinding} (hb : b ∈ x.selected)
    (hsource : b.sourceId = p.privacySourceId) : x.turnNumber + p.runtime.cooldownTurns ≤ turnNumber := by
  have hmem : x.turnNumber ∈ (s.selections.filter fun x => x.campaignId = campaignId ∧
      (x.selected.any (·.sourceId = p.privacySourceId)) = true).map (·.turnNumber) := by
    refine List.mem_map_of_mem (mem_filter.mpr ⟨hx, decide_eq_true ⟨hcampaign, ?_⟩⟩)
    exact (Option.any_eq_true _ _).mpr ⟨b, hb, decide_eq_true hsource⟩
  unfold EventPrompt.isEligible at h
  rw [Bool.and_eq_true] at h
  have hlast := h.2
  show x.turnNumber + p.runtime.cooldownTurns ≤ turnNumber
  unfold InspirationStore.eligibility InspirationStore.lastTriggeredTurn at hlast
  simp only at hlast
  cases hmax : ((s.selections.filter fun x => x.campaignId = campaignId ∧
      (x.selected.any (·.sourceId = p.privacySourceId)) = true).map (·.turnNumber)).max? with
  | none =>
    rw [List.max?_eq_none_iff] at hmax
    rw [hmax] at hmem
    cases hmem
  | some turn =>
    rw [hmax, Option.all_some, Bool.and_eq_true, decide_eq_true_eq, decide_eq_true_eq] at hlast
    have hle := (List.max?_eq_some_iff.mp hmax).2 _ hmem
    omega

variable {deployment : Bool}

/-- What is drawn keeps the cooldowns, and spends a die if it selects. -/
theorem drawUnlessOff_spec
    (h : s.drawUnlessOff draw words deployment command themeId safety prompts turnNumber now = .ok drawn) :
    safety.rngCursor ≤ drawn.cursorAfter ∧ ∀ b ∈ drawn.selected, safety.rngCursor < drawn.cursorAfter ∧
      ∀ x ∈ s.selections, x.campaignId = command.campaignSessionId → ∀ b' ∈ x.selected, b'.sourceId = b.sourceId →
        x.turnNumber + (b.nextEligibleTurn - turnNumber) ≤ turnNumber := by
  unfold InspirationStore.drawUnlessOff at h
  split at h
  · cases h
    exact ⟨Nat.le_refl _, fun b hb => absurd hb (Option.not_mem_none b)⟩
  obtain ⟨partyLevel, audit, -, haudit, -, -, hcursor, hcases⟩ := drawSource_eq_ok h
  rw [hcursor]
  rcases hcases with ⟨-, hnone⟩ | ⟨prompt, version, hselected, -, hsome⟩
  · refine ⟨?_, fun b hb => by rw [hnone] at hb; cases hb⟩
    obtain ⟨-, ⟨-, heq⟩ | ⟨-, -, -, -, hlt, -⟩⟩ := selectWithAudit_eq_ok haudit
    · exact Nat.le_of_eq heq.symm
    · exact Nat.le_of_lt hlt
  · obtain ⟨-, heligible, hlt⟩ := selected_mem haudit hselected
    refine ⟨Nat.le_of_lt hlt, fun b hb => ⟨hlt, fun x hx hcampaign b' hb' hsource => ?_⟩⟩
    rw [hsome] at hb
    cases hb
    have hcooldown := cooldown_of_eligible heligible hx hcampaign hb' hsource
    show x.turnNumber + (turnNumber + prompt.runtime.cooldownTurns - turnNumber) ≤ turnNumber
    omega

/-- **Where every source has a single version, each is counted once**, by its own prompt. -/
theorem drawUnlessOff_counted (hkept : s.Kept)
    (h : s.drawUnlessOff draw words deployment command themeId safety prompts turnNumber now = .ok drawn)
    (hsingle : earlyReason deployment (s.control.getD defaultGlobalControl) safety = none → ∀ partyLevel,
      s.trustedPartyLevel command.campaignSessionId = .ok partyLevel →
      SingleVersion (s.openSources command themeId safety prompts now)
        (s.eligibility command.campaignSessionId safety (s.openSources command themeId safety prompts now) partyLevel
          turnNumber)) :
    ∃ docs : List SourceDocument, (∀ d ∈ docs, d ∈ s.sources) ∧ ∀ x : SelectionDocument,
      x.eligibleSources = drawn.eligibleSources → x.selected = drawn.selected →
      x.sampleNumerator = drawn.sampleNumerator → x.turnNumber = turnNumber → x.Counted draw docs := by
  unfold InspirationStore.drawUnlessOff at h
  split at h
  · cases h
    refine ⟨[], fun d hd => absurd hd List.not_mem_nil, fun x heligible hselected _ _ => ⟨List.nodup_nil, heligible, fun b hb => ?_⟩⟩
    rw [hselected] at hb
    cases hb
  next hreason =>
  obtain ⟨partyLevel, audit, hlevel, haudit, heligible, hsample, -, hcases⟩ := drawSource_eq_ok h
  have hversions := hsingle hreason partyLevel hlevel
  generalize hcontext : s.eligibility command.campaignSessionId safety
    (s.openSources command themeId safety prompts now) partyLevel turnNumber = context at haudit hversions
  obtain ⟨haudited, hdraw⟩ := selectWithAudit_eq_ok haudit
  have hprompts : audit.eligible = (drawOrder _ context).map (·.2) := haudited.trans drawOrder_prompts.symm
  have hweights := hversions.drawOrder_weights
  have honce := hversions.drawOrder_once (openSources_nodup hkept)
  have hmem (x : SourceDocument × EventPrompt)
      (hx : x ∈ drawOrder (s.openSources command themeId safety prompts now) context) := mem_drawOrder.mp hx
  generalize drawOrder (s.openSources command themeId safety prompts now) context = pairs at hprompts hweights honce hmem
  refine ⟨pairs.map (·.1), fun d hd => ?_, fun x hxeligible hxselected hxsample hxturn => ⟨?_, ?_, ?_⟩⟩
  · obtain ⟨x, hx, rfl⟩ := List.mem_map.mp hd
    exact (openSources_prompt (hmem x hx).1).1
  · rw [map_map]
    exact honce
  · rw [hxeligible, heligible, hprompts, map_map, map_map]
    exact List.map_congr_left fun x hx => (openSources_prompt (hmem x hx).1).2.1
  · intro b hb
    rw [hxselected] at hb
    rcases hcases with ⟨-, hnone⟩ | ⟨prompt, version, hselected, hversion, hsome⟩
    · rw [hnone] at hb
      cases hb
    rcases hdraw with ⟨hnone, -⟩ | ⟨last, sample, hlast, hsampled, -, hdrawn⟩
    · rw [hselected] at hnone
      cases hnone
    rw [hprompts, List.getLast?_map, Option.map_eq_some_iff] at hlast
    obtain ⟨lastPair, hlastPair, rfl⟩ := hlast
    rw [hselected, hprompts, hweights, List.getD_map] at hdrawn
    have hprompt := Option.some.inj hdrawn
    -- drawing a prompt is drawing its version, for the weights are the same
    generalize hpair : pairs.getD (draw ((pairs.map (·.1)).map (·.runtimeProjection.selectionWeightNanounits)) sample)
      lastPair = pair at hprompt
    have hpairmem : pair ∈ pairs := by
      rw [← hpair]
      exact getD_getLast_mem hlastPair _
    obtain ⟨hopen, helig⟩ := hmem pair hpairmem
    obtain ⟨-, hid, hdigest⟩ := openSources_prompt hopen
    rw [hprompt, hid, hdigest] at hversion
    -- the version is looked up again by source and digest, which finds the latest
    have hlatest : version = pair.1.revision := versionOf_latest hopen
      (fun d' p' hopen' hid' hdigest' => hversions.latest pair.1 pair.2 d' p' hopen hopen' helig hid' hdigest') hversion
    rw [hsome] at hb
    refine ⟨sample, by rw [hxsample, hsample, hsampled]; rfl, lastPair.1, by rw [List.getLast?_map, hlastPair]; rfl,
      pair.1, List.mem_map_of_mem hpairmem, ?_, ?_⟩
    · rw [List.getD_map, hpair]
    · cases hb
      rw [hprompt, hid, hdigest, hlatest, hxturn, hversions.own pair.1 pair.2 hopen helig]

end Draws

end ManchesterArcana.Inspiration
