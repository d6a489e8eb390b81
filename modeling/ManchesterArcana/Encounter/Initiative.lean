import ManchesterArcana.Encounter.Combatant

/-!
# `Encounter.Initiative` — the turn order and its validation

Initiative is rolled once per participant; the order is by total, then by modifier, then by identifier. The
validator recomputes the order, the tie-break ranks and the recorded ties from the entries alone.
-/

namespace ManchesterArcana.Encounter

open Effect

namespace InitiativeEntry

/-- `left` acts no later than `right`: higher total first, then higher modifier, then smaller identifier. -/
def before (left right : InitiativeEntry) : Prop :=
  right.total < left.total ∨ (right.total = left.total ∧
    (right.modifier.toInt < left.modifier.toInt ∨ (right.modifier.toInt = left.modifier.toInt ∧
      left.participantId ≤ right.participantId)))

instance : DecidableRel before := fun left right => by unfold before; infer_instance

end InitiativeEntry

def sortInitiativeEntries (entries : List InitiativeEntry) : List InitiativeEntry :=
  entries.insertionSort InitiativeEntry.before

/-- Number the entries in their order. -/
def rankEntries (entries : List InitiativeEntry) : List InitiativeEntry :=
  entries.mapIdx fun rank entry => { entry with tieBreakRank := rank }

def initiativeTies (entries : List InitiativeEntry) : List InitiativeTie :=
  match entries with
  | [first, second] =>
    if first.total = second.total then
      [{ total := first.total
         participantIds := [first.participantId, second.participantId]
         resolvedBy := if first.modifier = second.modifier then .stableId
           else .higherModifierThenStableId }]
    else []
  | _ => []

/-- The initiative that a list of rolled entries determines. -/
def initiativeOf (entries : List InitiativeEntry) : InitiativeState :=
  let ordered := rankEntries (sortInitiativeEntries entries)
  { entries := ordered
    order := ordered.map (·.participantId)
    ties := initiativeTies ordered }

namespace InitiativeState

/-- One entry against the modifiers of the two combatants. -/
def validateEntry (heroModifier creatureModifier : Int8) (entry : InitiativeEntry) :
    EncounterResult Unit := do
  rejectIf (entry.participantId ≠ canalWardenId ∧ entry.participantId ≠ sootWightId)
    (.invalidState "initiative contains an unknown participant")
  let expectedModifier := if entry.participantId = canalWardenId then heroModifier else creatureModifier
  rejectIf (¬ InRange 20 entry.naturalRoll ∨ entry.modifier ≠ expectedModifier ∨
      entry.total ≠ entry.naturalRoll + entry.modifier.toInt)
    (.invalidState "initiative entry roll or total is invalid")

def validate (i : InitiativeState) (heroModifier creatureModifier : Int8) : EncounterResult Unit := do
  rejectIf (i.entries.length ≠ 2 ∨ i.order.length ≠ 2)
    (.invalidState "initiative must contain exactly the hero and creature")
  checkAll (validateEntry heroModifier creatureModifier) i.entries
  let expected := rankEntries (sortInitiativeEntries i.entries)
  let expectedOrder := expected.map (·.participantId)
  rejectIf (expectedOrder.dedup.length ≠ 2 ∨ canalWardenId ∉ expectedOrder ∨ sootWightId ∉ expectedOrder ∨
      i.entries ≠ expected ∨ i.order ≠ expectedOrder ∨ i.ties ≠ initiativeTies i.entries)
    (.invalidState "initiative order or deterministic tie resolution is invalid")

/-- What one participant rolled. -/
structure EntryFor (entry : InitiativeEntry) (id : String) (m : Int8) : Prop where
  participantId : entry.participantId = id
  roll : InRange 20 entry.naturalRoll
  modifier : entry.modifier = m
  total : entry.total = entry.naturalRoll + m.toInt

/-- Two ranked entries, hero and creature in either order, sorted, with the order and ties they determine. -/
structure Valid (i : InitiativeState) (heroModifier creatureModifier : Int8) : Prop where
  entries : ∃ first second, i.entries = [first, second] ∧ first.before second ∧
    first.tieBreakRank = 0 ∧ second.tieBreakRank = 1 ∧
    ((EntryFor first canalWardenId heroModifier ∧ EntryFor second sootWightId creatureModifier) ∨
      (EntryFor first sootWightId creatureModifier ∧ EntryFor second canalWardenId heroModifier))
  order : i.order = i.entries.map (·.participantId)
  ties : i.ties = initiativeTies i.entries

end InitiativeState

theorem canalWardenId_ne_sootWightId : canalWardenId ≠ sootWightId := by decide

theorem sootWightId_ne_canalWardenId : sootWightId ≠ canalWardenId := by decide

variable {a b : InitiativeEntry}

theorem rankEntries_pair :
    rankEntries [a, b] = [{ a with tieBreakRank := 0 }, { b with tieBreakRank := 1 }] := rfl

theorem sortInitiativeEntries_pair :
    sortInitiativeEntries [a, b] = if a.before b then [a, b] else [b, a] := by
  simp [sortInitiativeEntries, List.insertionSort, List.orderedInsert]

/-- **Any two entries are comparable.** -/
theorem InitiativeEntry.before_total (a b : InitiativeEntry) : a.before b ∨ b.before a := by
  unfold before
  rcases lt_trichotomy a.total b.total with h | h | h
  · exact .inr (.inl h)
  · rcases lt_trichotomy a.modifier.toInt b.modifier.toInt with hm | hm | hm
    · exact .inr (.inr ⟨h, .inl hm⟩)
    · rcases String.le_total a.participantId b.participantId with hid | hid
      · exact .inl (.inr ⟨h.symm, .inr ⟨hm.symm, hid⟩⟩)
      · exact .inr (.inr ⟨h, .inr ⟨hm, hid⟩⟩)
    · exact .inl (.inr ⟨h.symm, .inl hm⟩)
  · exact .inl (.inl h)

namespace InitiativeState

variable {hm cm : Int8} {i : InitiativeState}

theorem validateEntry_eq_ok {entry : InitiativeEntry} :
    validateEntry hm cm entry = .ok () ↔
      EntryFor entry canalWardenId hm ∨ EntryFor entry sootWightId cm := by
  simp only [validateEntry, seq_eq_ok, rejectIf_eq_ok, not_or, not_not]
  constructor
  · rintro ⟨hid, hroll, hmod, htot⟩
    by_cases hhero : entry.participantId = canalWardenId
    · rw [if_pos hhero] at hmod
      exact .inl ⟨hhero, hroll, hmod, by rw [htot, hmod]⟩
    · rw [if_neg hhero] at hmod
      have hwight : entry.participantId = sootWightId := by
        by_contra hne
        exact hid ⟨hhero, hne⟩
      exact .inr ⟨hwight, hroll, hmod, by rw [htot, hmod]⟩
  · rintro (h | h)
    · rw [if_pos h.participantId]
      exact ⟨fun hn => hn.1 h.participantId, h.roll, h.modifier, by rw [h.total, h.modifier]⟩
    · have hne : entry.participantId ≠ canalWardenId := h.participantId ▸ sootWightId_ne_canalWardenId
      rw [if_neg hne]
      exact ⟨fun hn => hn.2 h.participantId, h.roll, h.modifier, by rw [h.total, h.modifier]⟩

/-- Two entries that are already sorted and ranked are what the validator expects of them. -/
theorem expected_eq_self {a b : InitiativeEntry} :
    [a, b] = rankEntries (sortInitiativeEntries [a, b]) ↔
      a.before b ∧ a.tieBreakRank = 0 ∧ b.tieBreakRank = 1 := by
  rw [sortInitiativeEntries_pair]
  constructor
  · intro h
    by_cases hab : a.before b
    · rw [if_pos hab, rankEntries_pair, List.cons.injEq, List.cons.injEq] at h
      exact ⟨hab, by rw [h.1], by rw [h.2.1]⟩
    · rw [if_neg hab, rankEntries_pair, List.cons.injEq, List.cons.injEq] at h
      have hba : b.before a := (InitiativeEntry.before_total a b).resolve_left hab
      -- the swapped list can only equal the original when the two entries compare equal
      have : a.before b := by rw [h.1, h.2.1] at *; exact hba
      exact absurd this hab
  · rintro ⟨hab, ha, hb⟩
    rw [if_pos hab, rankEntries_pair, ← ha, ← hb]

theorem validate_eq_ok :
    i.validate hm cm = .ok () ↔ i.Valid hm cm := by
  simp only [validate, seq_eq_ok, rejectIf_eq_ok, checkAll_eq_ok, validateEntry_eq_ok, not_or, not_not]
  constructor
  · rintro ⟨⟨hlen, -⟩, hentries, -, hhero, hwight, hexp, hord, hties⟩
    obtain ⟨a, b, hab⟩ := List.length_eq_two.mp hlen
    rw [hab] at hentries hexp hhero hwight hord
    rw [← hexp] at hhero hwight hord
    obtain ⟨hbefore, ha0, hb1⟩ := expected_eq_self.mp hexp
    have ha := hentries a (by simp)
    have hb := hentries b (by simp)
    refine ⟨⟨a, b, hab, hbefore, ha0, hb1, ?_⟩, by rw [hord, hab], hties⟩
    simp only [List.map_cons, List.map_nil, List.mem_cons, List.not_mem_nil, or_false] at hhero hwight
    have hne := canalWardenId_ne_sootWightId
    rcases ha with ha | ha
    · refine .inl ⟨ha, hb.resolve_left fun hb => ?_⟩
      rw [ha.participantId, hb.participantId] at hwight
      rcases hwight with h | h <;> exact hne h.symm
    · refine .inr ⟨ha, hb.resolve_right fun hb => ?_⟩
      rw [ha.participantId, hb.participantId] at hhero
      rcases hhero with h | h <;> exact hne h
  · rintro ⟨⟨a, b, hab, hbefore, ha0, hb1, hids⟩, hord, hties⟩
    have hexp := expected_eq_self.mpr ⟨hbefore, ha0, hb1⟩
    rw [hab] at hord ⊢
    rw [← hexp]
    refine ⟨⟨rfl, by rw [hord]; rfl⟩, ?_, ?_, ?_, ?_, rfl, hord, by rw [hties, hab]⟩
    all_goals
      rcases hids with ⟨ha, hb⟩ | ⟨ha, hb⟩ <;>
        simp [ha.participantId, hb.participantId, ha, hb, canalWardenId_ne_sootWightId,
          sootWightId_ne_canalWardenId]

/-- **The order of a valid initiative is the two participants, in one of the two orders.** -/
theorem Valid.order_cases (hv : i.Valid hm cm) :
    i.order = [canalWardenId, sootWightId] ∨ i.order = [sootWightId, canalWardenId] := by
  obtain ⟨a, b, hab, -, -, -, hids⟩ := hv.entries
  rw [hv.order, hab]
  rcases hids with ⟨ha, hb⟩ | ⟨ha, hb⟩
  · exact .inl (by simp [ha.participantId, hb.participantId])
  · exact .inr (by simp [ha.participantId, hb.participantId])

end InitiativeState

end ManchesterArcana.Encounter
