import ManchesterArcana.Application.Projection

/-!
# `Application.Dice` — the campaign's dice, live and recorded

Live, the engine's questions are answered by drawing from the campaign's stream, and each die is noted as a
span of the cursor. Stored, the same dice stand in the rolls of a resolution. `Drawn` says that dice are those
of the stream between two cursors; the adapter's spans are drawn (`rollDie_feeds`), the records made of them
are verified (`canonicalRollRecords_verified`), and recorded dice that were drawn answer a replay as the
stream did (`recorded_feeds`).
-/

namespace ManchesterArcana.Application

open Effect Encounter

/-- **`dice` are the stream's from `cursor` on**, up to the cursor `next`. -/
def Drawn (words : WordStream) : Nat → List RawDieFact → Nat → Prop
  | cursor, [], next => next = cursor
  | cursor, die :: dice, next => ∃ behind, drawDie words die.sides cursor = .ok (die.value, behind) ∧
      Drawn words behind dice next

/-- Spans that lie end to end, each over the die the stream gives there. -/
def Chained (words : WordStream) : Nat → List DieCursorSpan → Nat → Prop
  | cursor, [], next => next = cursor
  | cursor, span :: spans, next => span.cursorBefore = cursor ∧
      drawDie words span.sides cursor = .ok (span.value, span.cursorAfter) ∧
      Chained words span.cursorAfter spans next

/-- The die of a span. -/
def DieCursorSpan.die (span : DieCursorSpan) : RawDieFact := ⟨span.sides, span.value⟩

/-- A die as a question and its answer. -/
def asked (die : RawDieFact) : Nat × Nat := (die.sides, die.value)

variable {words : WordStream} {cursor next : Nat}

theorem drawn_append {dice dice' : List RawDieFact} :
    Drawn words cursor (dice ++ dice') next ↔
      ∃ middle, Drawn words cursor dice middle ∧ Drawn words middle dice' next := by
  induction dice generalizing cursor with
  | nil => simp [Drawn]
  | cons die dice ih =>
    simp only [List.cons_append, Drawn, ih]
    constructor
    · rintro ⟨behind, hdie, middle, hd, hd'⟩
      exact ⟨middle, ⟨behind, hdie, hd⟩, hd'⟩
    · rintro ⟨middle, ⟨behind, hdie, hd⟩, hd'⟩
      exact ⟨behind, hdie, middle, hd, hd'⟩

variable {spans : List DieCursorSpan} {seedReference : String}

theorem chained_append {spans' : List DieCursorSpan} :
    Chained words cursor (spans ++ spans') next ↔
      ∃ middle, Chained words cursor spans middle ∧ Chained words middle spans' next := by
  induction spans generalizing cursor with
  | nil => simp [Chained]
  | cons span spans ih =>
    simp only [List.cons_append, Chained, ih]
    constructor
    · rintro ⟨hbefore, hdie, middle, hs, hs'⟩
      exact ⟨middle, ⟨hbefore, hdie, hs⟩, hs'⟩
    · rintro ⟨middle, ⟨hbefore, hdie, hs⟩, hs'⟩
      exact ⟨hbefore, hdie, middle, hs, hs'⟩

theorem Chained.drawn (h : Chained words cursor spans next) :
    Drawn words cursor (spans.map (·.die)) next := by
  induction spans generalizing cursor with
  | nil => exact h
  | cons span spans ih => exact ⟨span.cursorAfter, h.2.1, ih h.2.2⟩

/-- A chain begins where its first span does, and ends where its last one does. -/
theorem Chained.ends (h : Chained words cursor spans next)
    {first last : DieCursorSpan} (hfirst : spans.head? = some first) (hlast : spans.getLast? = some last) :
    first.cursorBefore = cursor ∧ last.cursorAfter = next := by
  constructor
  · cases spans with
    | nil => cases hfirst
    | cons span spans =>
      obtain rfl : span = first := Option.some.inj hfirst
      exact h.1
  · obtain ⟨before, rfl⟩ := List.getLast?_eq_some_iff.mp hlast
    obtain ⟨middle, -, hspan⟩ := chained_append.mp h
    exact hspan.2.2.symm

/-! ## Live dice -/

variable {t : List (Nat × Nat)} {campaign : String} {sequence : Nat}

/-- **A run of the adapter that meets no error** has drawn the dice it answered with, and noted them. -/
theorem rollDie_feeds {a a' : EncounterRngAdapter}
    (h : Prog.Feeds (EncounterRngAdapter.rollDie words) a t a') (herror : a'.error = none) :
    a.error = none ∧ ∃ spans, a'.spans = a.spans ++ spans ∧ Chained words a.cursor spans a'.cursor ∧
      t = spans.map fun span => asked span.die := by
  induction h with
  | nil a => exact ⟨herror, [], (List.append_nil _).symm, rfl, rfl⟩
  | @cons a sides t a' hrest ih =>
    obtain ⟨hnone, spans, hspans, hchained, ht⟩ := ih herror
    -- An adapter that had failed would have stayed so.
    have hok : a.error = none := by
      by_contra hfailed
      have hsome : a.error.isSome = true := Option.isSome_iff_ne_none.mpr hfailed
      unfold EncounterRngAdapter.rollDie at hnone
      rw [if_pos hsome] at hnone
      exact hfailed hnone
    refine ⟨hok, ?_⟩
    have hsome : ¬ a.error.isSome = true := by
      rw [hok]
      decide
    cases hdraw : drawDie words sides a.cursor with
    | error e =>
      unfold EncounterRngAdapter.rollDie at hnone
      rw [if_neg hsome, hdraw] at hnone
      cases hnone
    | ok drawn =>
      obtain ⟨value, behind⟩ := drawn
      have hstep : EncounterRngAdapter.rollDie words a sides = (value,
          { a with cursor := behind, spans := a.spans ++ [⟨sides, value, a.cursor, behind⟩] }) := by
        unfold EncounterRngAdapter.rollDie at hnone ⊢
        rw [if_neg hsome, hdraw] at hnone ⊢
        by_cases hfits : Rules.maxU16 < value
        · simp only [if_pos hfits] at hnone
          cases hnone
        · exact if_neg hfits
      rw [hstep] at hspans hchained ⊢
      refine ⟨⟨sides, value, a.cursor, behind⟩ :: spans, ?_, ⟨rfl, hdraw, hchained⟩, ?_⟩
      · rw [hspans, List.append_assoc, List.singleton_append]
      · rw [List.map_cons, ht]
        rfl

/-! ## Verification -/

/-- **Dice are verified exactly when they are the stream's.** -/
theorem verifyDice_eq_ok {dice : List RawDieFact} :
    verifyDice words dice cursor = .ok next ↔ Drawn words cursor dice next := by
  induction dice generalizing cursor with
  | nil =>
    unfold verifyDice Drawn
    rw [Except.ok.injEq]
    exact eq_comm
  | cons die dice ih =>
    simp only [verifyDice, Drawn, bind_eq_ok, mapError_eq_ok, exists_unit]
    constructor
    · rintro ⟨⟨value, behind⟩, hdie, h⟩
      simp only [rejectIf_eq_ok, not_not] at h
      exact ⟨behind, h.1 ▸ hdie, ih.mp h.2⟩
    · rintro ⟨behind, hdie, hrest⟩
      refine ⟨(die.value, behind), hdie, ?_⟩
      simp only [rejectIf_eq_ok, not_not]
      exact ⟨trivial, ih.mpr hrest⟩

/-- What verified rolls amount to: their dice, in order, are the stream's. -/
theorem verifyRolls_drawn {pairs : List (RawRollFacts × RollRecord)}
    (h : verifyRolls words seedReference pairs cursor = .ok next) :
    Drawn words cursor (pairs.flatMap (·.1.individualDice)) next := by
  induction pairs generalizing cursor with
  | nil =>
    unfold verifyRolls at h
    exact (Except.ok.inj h).symm
  | cons pair pairs ih =>
    simp only [verifyRolls, bind_eq_ok, exists_unit, rejectIf_eq_ok] at h
    obtain ⟨-, behind, hdice, -, hrest⟩ := h
    rw [List.flatMap_cons, drawn_append]
    exact ⟨behind, verifyDice_eq_ok.mp hdice, ih hrest⟩

/-- A canonical record spans the cursors of its dice. -/
theorem canonicalRecord_eq_ok {raw : RawRollFacts} {record : RollRecord}
    (h : canonicalRecord campaign sequence seedReference raw spans = .ok record) :
    raw.individualDice = spans.map (·.die) ∧ record.seedReference = seedReference ∧
      ∃ first last, spans.head? = some first ∧ spans.getLast? = some last ∧
        record.cursorBefore = first.cursorBefore ∧ record.cursorAfter = last.cursorAfter := by
  simp only [canonicalRecord, bind_eq_ok, exists_unit, okOr_eq_ok, rejectIf_eq_ok, not_not, mapError_eq_ok,
    RollRecord.fromRoll, pure_eq, Except.ok.injEq] at h
  obtain ⟨first, hfirst, last, hlast, hdice, expression, -, -, rfl⟩ := h
  exact ⟨hdice, rfl, first, last, hfirst, hlast, rfl, rfl⟩

/-- **The records made of a chain of spans verify**, roll by roll, and cover all of it. -/
theorem canonicalRollRecords_verified
    {rolls : List RawRollFacts} {records : List RollRecord}
    (h : canonicalRollRecords campaign sequence seedReference rolls spans = .ok records)
    (hchained : Chained words cursor spans next) :
    verifyRolls words seedReference (rolls.zip records) cursor = .ok next ∧
      rolls.flatMap (·.individualDice) = spans.map (·.die) := by
  induction rolls generalizing spans cursor records with
  | nil =>
    simp only [canonicalRollRecords, bind_eq_ok, exists_unit, rejectIf_eq_ok, not_not, pure_eq] at h
    obtain ⟨rfl, -⟩ := h
    unfold Chained at hchained
    rw [hchained]
    exact ⟨rfl, rfl⟩
  | cons raw rolls ih =>
    simp only [canonicalRollRecords, bind_eq_ok, exists_unit, rejectIf_eq_ok, pure_eq, Except.ok.injEq] at h
    obtain ⟨-, record, hrecord, rest, hrest, rfl⟩ := h
    obtain ⟨hdice, hseed, first, last, hfirst, hlast, hbefore, hafter⟩ := canonicalRecord_eq_ok hrecord
    rw [← List.take_append_drop raw.individualDice.length spans, chained_append] at hchained
    obtain ⟨middle, hmine, htheirs⟩ := hchained
    obtain ⟨hstart, hend⟩ := hmine.ends hfirst hlast
    obtain ⟨hverified, hflat⟩ := ih hrest htheirs
    constructor
    · rw [List.zip_cons_cons, verifyRolls]
      have hdrawn : verifyDice words raw.individualDice cursor = .ok middle := by
        rw [verifyDice_eq_ok, hdice]
        exact hmine.drawn
      rw [rejectIf_of_not (by rw [hseed, hbefore, hstart]; simp), ok_bind, hdrawn, ok_bind,
        rejectIf_of_not (by rw [hafter, hend]; simp), ok_bind]
      exact hverified
    · rw [List.flatMap_cons, hflat]
      conv_rhs => rw [← List.take_append_drop raw.individualDice.length spans]
      rw [List.map_append, ← hdice]

/-! ## Recorded dice -/

/-- **Recorded dice answer the questions they were recorded of**, and are used up by them. -/
theorem recorded_feeds (before dice : List RawDieFact) :
    Prog.Feeds RecordedEncounterRolls.rollDie ⟨before ++ dice, before.length, false⟩ (dice.map asked)
      ⟨before ++ dice, (before ++ dice).length, false⟩ := by
  induction dice generalizing before with
  | nil =>
    rw [List.append_nil]
    exact .nil _
  | cons die dice ih =>
    have hget : (before ++ die :: dice)[before.length]? = some die := by
      rw [List.getElem?_append_right (Nat.le_refl _), Nat.sub_self]
      rfl
    have hstep : RecordedEncounterRolls.rollDie ⟨before ++ die :: dice, before.length, false⟩ die.sides =
        (die.value, ⟨before ++ die :: dice, before.length + 1, false⟩) := by
      unfold RecordedEncounterRolls.rollDie
      simp only [hget]
      exact if_neg fun hne => hne rfl
    have hrest := ih (before ++ [die])
    rw [List.append_assoc, List.singleton_append, List.length_append, List.length_singleton] at hrest
    rw [List.map_cons, asked, Prog.feeds_cons, hstep]
    exact ⟨rfl, hrest⟩

/-- What a recorded source that was not spoiled has answered: its dice, in order, to matching questions. -/
theorem recorded_answers {source source' : RecordedEncounterRolls}
    (h : Prog.Feeds RecordedEncounterRolls.rollDie source t source') (hvalid : source'.invalid = false) :
    source'.dice = source.dice ∧ source.index ≤ source'.index ∧ source.invalid = false ∧
      t = ((source.dice.drop source.index).take (source'.index - source.index)).map asked := by
  induction h with
  | nil source => exact ⟨rfl, Nat.le_refl _, hvalid, by rw [Nat.sub_self]; rfl⟩
  | @cons source sides t source' hrest ih =>
    obtain ⟨hdice, hindex, hspoiled, ht⟩ := ih hvalid
    cases hget : source.dice[source.index]? with
    | none =>
      unfold RecordedEncounterRolls.rollDie at hspoiled
      simp only [hget] at hspoiled
      cases hspoiled
    | some die =>
      have hsides : die.sides = sides := by
        by_contra hne
        unfold RecordedEncounterRolls.rollDie at hspoiled
        simp only [hget] at hspoiled
        rw [if_pos hne] at hspoiled
        cases hspoiled
      have hstep : RecordedEncounterRolls.rollDie source sides =
          (die.value, { source with index := source.index + 1 }) := by
        unfold RecordedEncounterRolls.rollDie
        simp only [hget]
        exact if_neg fun hne => hne hsides
      rw [hstep] at hdice hindex hspoiled ht ⊢
      simp only at hdice hindex hspoiled ht
      refine ⟨hdice, by omega, hspoiled, ?_⟩
      have hlt := (List.getElem?_eq_some_iff.mp hget).1
      have hdrop : source.dice.drop source.index = die :: source.dice.drop (source.index + 1) := by
        rw [List.drop_eq_getElem_cons hlt, (List.getElem?_eq_some_iff.mp hget).2]
      have hcount : source'.index - source.index = source'.index - (source.index + 1) + 1 := by omega
      rw [hdrop, hcount, List.take_succ_cons, List.map_cons, ← ht, asked, hsides]

/-- **A replay accepts exactly what the engine computes from the recorded dice.** -/
theorem replayRecorded_eq_ok {state : EncounterState} {command : EncounterCommand}
    {recorded replayed : EncounterResolution} :
    replayRecorded state command recorded = .ok replayed ↔ replayed = recorded ∧
      Prog.Returns (resolveEncounter state command) ((recorded.rolls.flatMap (·.individualDice)).map asked)
        recorded := by
  let dice := recorded.rolls.flatMap (·.individualDice)
  have hfeeds : Prog.Feeds RecordedEncounterRolls.rollDie (.fromResolution recorded) (dice.map asked)
      ⟨dice, dice.length, false⟩ := recorded_feeds [] dice
  constructor
  · intro h
    unfold replayRecorded at h
    split at h
    · next result source hrun =>
      simp only [bind_eq_ok, exists_unit, rejectIf_eq_ok, not_or, not_not, Bool.not_eq_true, pure_eq,
        Except.ok.injEq] at h
      obtain ⟨⟨hvalid, hindex, hsame⟩, rfl⟩ := h
      obtain ⟨t, hreturns, hfed⟩ := Prog.run_eq_ok.mp hrun
      obtain ⟨hdice, -, -, ht⟩ := recorded_answers hfed hvalid
      have hall : t = dice.map asked := by
        rw [ht, hindex, hdice]
        show ((dice.drop 0).take (dice.length - 0)).map asked = dice.map asked
        rw [List.drop_zero, Nat.sub_zero, List.take_length]
      rw [hsame, hall] at hreturns
      exact ⟨hsame, hreturns⟩
    · cases h
    · cases h
  · rintro ⟨rfl, hreturns⟩
    have hrun := hfeeds.run hreturns
    unfold replayRecorded
    rw [hrun]
    simp only [bind_eq_ok, exists_unit, rejectIf_eq_ok, not_or, not_not, Bool.not_eq_true, pure_eq]
    exact ⟨⟨trivial, trivial, trivial⟩, trivial⟩

end ManchesterArcana.Application
