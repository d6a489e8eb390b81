import ManchesterArcana.Core.Roll
import ManchesterArcana.Effect.Attempt
import Mathlib.SetTheory.Cardinal.Finite

/-!
# `Core.DieStream` — the generator behind the dice

`DeterministicRng` is the source's generator with its cursor; the two cannot part, for the generator carries the
proof (`DeterministicRng.aligned`). It is the cipher's word stream, a function of seed and position, that is
abstract here. A die is drawn by rejection (`rollDieInner_eq` is the loop of the source), and every face is as
likely as any other (`dieFace_unbiased`). What is drawn depends on seed and cursor only, and the cursor is given back
on failure; so a campaign's rolls can be taken up from any cursor that was recorded (`dice_replay`).
-/

namespace ManchesterArcana

open Effect

/-- Thirty-two bytes. -/
abbrev RollSeed := Vector UInt8 32

/-- The stream of 32-bit words behind each seed. -/
abbrev WordStreams := RollSeed → WordStream

/-- The cipher: which stream, and where in it. -/
structure ChaCha20Rng where
  seed : RollSeed
  wordPos : Nat
  deriving DecidableEq

namespace ChaCha20Rng

def fromSeed (seed : RollSeed) : ChaCha20Rng := ⟨seed, 0⟩

def setWordPos (rng : ChaCha20Rng) (wordPos : Nat) : ChaCha20Rng := { rng with wordPos }

def nextU32 (streams : WordStreams) (rng : ChaCha20Rng) : UInt32 × ChaCha20Rng :=
  (streams rng.seed rng.wordPos, { rng with wordPos := rng.wordPos + 1 })

end ChaCha20Rng

/-- The generator, and its cursor, which counts the words taken. -/
structure DeterministicRng where
  inner : ChaCha20Rng
  cursor : Nat
  aligned : inner.wordPos = cursor
  deriving DecidableEq

/-- A roll in progress. -/
abbrev Drawing (α : Type) := Attempt DeterministicRng RollError α

/-- The face that a word stands for; a word past the last full round of faces stands for none. -/
def dieFace (sides : Nat) (word : UInt32) : Option Nat :=
  if word.toNat < acceptanceLimit sides then some (word.toNat % sides + 1) else none

namespace DeterministicRng

def atCursor (seed : RollSeed) (cursor : Nat) : DeterministicRng where
  inner := (ChaCha20Rng.fromSeed seed).setWordPos cursor
  cursor := cursor
  aligned := rfl

def new (seed : RollSeed) : DeterministicRng := atCursor seed 0

variable (streams : WordStreams)

def nextWord : Drawing UInt32 where
  run rng :=
    if maxCursor < rng.cursor + 1 then (.error .cursorExhausted, rng)
    else
      (.ok (rng.inner.nextU32 streams).1,
        { inner := (rng.inner.nextU32 streams).2
          cursor := rng.cursor + 1
          aligned := congrArg (· + 1) rng.aligned })

/-- Draw words until one stands for a face, `left` times at most. -/
def rollDieLoop (sides : Nat) : Nat → Drawing Nat
  | 0 => Attempt.lift (.error .cursorExhausted)
  | left + 1 => do
    let word ← nextWord streams
    match dieFace sides word with
    | some face => return face
    | none => rollDieLoop sides left

/-- The loop ends with the words, if not before. -/
def rollDieInner (sides : Nat) : Drawing Nat where
  run rng := (rollDieLoop streams sides (maxCursor - rng.cursor + 1)).run rng

def rollDie (sides : Nat) : Drawing Nat :=
  if ¬ InRange maxDieSides sides then Attempt.lift (.error (.dieSidesOutOfRange sides maxDieSides))
  else Attempt.atomically (rollDieInner streams sides)

/-- As many dice as there are to roll. -/
def rollDice (sides : Nat) : Nat → Drawing (List Nat)
  | 0 => return []
  | count + 1 => do
    let die ← rollDieInner streams sides
    let dice ← rollDice sides count
    return die :: dice

/-- The dice rolled, and of these the ones kept. -/
def rollAndKeep (expression : DiceExpression) (mode : RollMode) : Drawing (List Nat × List Nat) :=
  match mode with
  | .normal => do
    let rolled ← rollDice streams expression.sides expression.count
    return (rolled, rolled)
  | .advantage | .disadvantage => do
    let first ← rollDieInner streams 20
    let second ← rollDieInner streams 20
    return ([first, second], [if mode = .advantage then max first second else min first second])

/-- The constant and the dice, summed in an `i64` that is to fit into an `i32`. -/
def rollTotal (constant : Int) (kept : List Nat) : Except RollError Int := do
  let total ← okOr (checkedSum (-2 ^ 63) maxI64 constant (kept.map (Int.ofNat ·))) .expressionArithmeticOverflow
  rejectIf (total < minI32 ∨ maxI32 < total) (.rollTotalOutOfRange maxRollAbsoluteTotal)
  return total

def rollInner (expression : DiceExpression) (mode : RollMode) : Drawing DiceRoll := do
  let cursorBefore ← Attempt.reading cursor
  let (rolledDice, keptDice) ← rollAndKeep streams expression mode
  let total ← Attempt.lift (rollTotal expression.constant keptDice)
  let cursorAfter ← Attempt.reading cursor
  return { expression, rolledDice, keptDice, total, rollMode := mode, cursorBefore, cursorAfter }

def roll (expression : DiceExpression) (context : RollContext) : Drawing DiceRoll :=
  let mode := context.effectiveMode
  if mode ≠ .normal ∧ (expression.count ≠ 1 ∨ expression.sides ≠ 20) then
    Attempt.lift (.error .unsupportedRollMode)
  else Attempt.atomically (rollInner streams expression mode)

def rollRecord (expression : DiceExpression) (context : RollContext) (metadata : RollMetadata)
    (modifiers : List ModifierComponent) : Drawing RollRecord :=
  Attempt.atomically do
    let roll ← roll streams expression context
    Attempt.lift (RollRecord.fromRoll roll metadata modifiers)

end DeterministicRng

/-! ## Faces -/

variable {sides face : Nat}

variable {word : UInt32}

theorem dieFace_inRange (hsides : 0 < sides) (h : dieFace sides word = some face) :
    InRange sides face := by
  unfold dieFace at h
  split at h
  · obtain rfl := Option.some.inj h
    exact ⟨Nat.le_add_left 1 _, Nat.mod_lt _ hsides⟩
  · cases h

/-- The words that stand for a face: its offset in each full round of faces. -/
theorem dieFace_eq_some (hface : InRange sides face) :
    dieFace sides word = some face ↔ ∃ round < 2 ^ 32 / sides, word.toNat = sides * round + (face - 1) := by
  obtain ⟨hpos, hle⟩ := hface
  have hsides : 0 < sides := Nat.lt_of_lt_of_le hpos hle
  have hrounds : acceptanceLimit sides = sides * (2 ^ 32 / sides) := by
    have hdiv := Nat.div_add_mod (2 ^ 32) sides
    unfold acceptanceLimit
    omega
  unfold dieFace
  rw [Option.ite_none_right_eq_some, hrounds, Option.some.injEq]
  constructor
  · rintro ⟨hlt, hmod⟩
    refine ⟨word.toNat / sides, (Nat.div_lt_iff_lt_mul hsides).mpr (by rwa [Nat.mul_comm]), ?_⟩
    have hdiv := Nat.div_add_mod word.toNat sides
    omega
  · rintro ⟨round, hround, hword⟩
    have hnext : sides * (round + 1) ≤ sides * (2 ^ 32 / sides) := Nat.mul_le_mul_left sides hround
    rw [Nat.mul_succ] at hnext
    rw [hword, Nat.mul_add_mod, Nat.mod_eq_of_lt (by omega)]
    omega

/-- **No face is favoured**: each has one word in every full round. -/
theorem dieFace_unbiased (hface : InRange sides face) :
    Nat.card { word : UInt32 // dieFace sides word = some face } = 2 ^ 32 / sides := by
  have hsides : 0 < sides := Nat.lt_of_lt_of_le hface.1 hface.2
  have hfits (round : Fin (2 ^ 32 / sides)) : sides * round.val + (face - 1) < 2 ^ 32 := by
    have hnext : sides * (round.val + 1) ≤ sides * (2 ^ 32 / sides) := Nat.mul_le_mul_left sides round.isLt
    have hall : sides * (2 ^ 32 / sides) ≤ 2 ^ 32 := Nat.mul_div_le _ _
    have hlast := hface.2
    have hfirst := hface.1
    rw [Nat.mul_succ] at hnext
    omega
  let word (round : Fin (2 ^ 32 / sides)) : { word : UInt32 // dieFace sides word = some face } :=
    ⟨UInt32.ofNatLT _ (hfits round), (dieFace_eq_some hface).mpr ⟨round, round.isLt, UInt32.toNat_ofNatLT⟩⟩
  have hbijective : Function.Bijective word := by
    constructor
    · intro round round' heq
      have hnat := congrArg (fun w => w.val.toNat) heq
      simp only [word, UInt32.toNat_ofNatLT] at hnat
      exact Fin.ext (Nat.eq_of_mul_eq_mul_left hsides (Nat.add_right_cancel hnat))
    · rintro ⟨w, hw⟩
      obtain ⟨round, hround, hnat⟩ := (dieFace_eq_some hface).mp hw
      refine ⟨⟨round, hround⟩, Subtype.ext (UInt32.toNat_inj.mp ?_)⟩
      rw [hnat]
      exact UInt32.toNat_ofNatLT
  rw [← Nat.card_eq_of_bijective word hbijective, Nat.card_eq_fintype_card, Fintype.card_fin]

/-! ## Words -/

namespace DeterministicRng

variable {streams : WordStreams} {seed : RollSeed} {cursor sides : Nat}

/-- A generator is its seed and its cursor. -/
theorem eq_atCursor (rng : DeterministicRng) : rng = atCursor rng.inner.seed rng.cursor := by
  obtain ⟨⟨seed, wordPos⟩, cursor, haligned⟩ := rng
  obtain rfl : wordPos = cursor := haligned
  rfl

@[simp] theorem atCursor_cursor : (atCursor seed cursor).cursor = cursor := rfl

@[simp] theorem atCursor_seed : (atCursor seed cursor).inner.seed = seed := rfl

theorem nextWord_atCursor (h : cursor < maxCursor) :
    (nextWord streams).run (atCursor seed cursor) = (.ok (streams seed cursor), atCursor seed (cursor + 1)) :=
  if_neg (not_lt.mpr h)

/-- The last word is not taken: the cursor behind it would not fit. -/
theorem nextWord_exhausted (h : maxCursor ≤ cursor) :
    (nextWord streams).run (atCursor seed cursor) = (.error .cursorExhausted, atCursor seed cursor) :=
  if_pos (Nat.lt_succ_of_le h)

theorem rollDieLoop_succ (left : Nat) (h : cursor < maxCursor) :
    (rollDieLoop streams sides (left + 1)).run (atCursor seed cursor) =
      match dieFace sides (streams seed cursor) with
      | some face => (.ok face, atCursor seed (cursor + 1))
      | none => (rollDieLoop streams sides left).run (atCursor seed (cursor + 1)) := by
  unfold rollDieLoop
  rw [Attempt.bind_of_returns (nextWord_atCursor h)]
  cases dieFace sides (streams seed cursor) with
  | none => cases left <;> rfl
  | some face => rfl

theorem rollDieLoop_exhausted (left : Nat) (h : maxCursor ≤ cursor) :
    (rollDieLoop streams sides (left + 1)).run (atCursor seed cursor) =
      (.error .cursorExhausted, atCursor seed cursor) := by
  unfold rollDieLoop
  exact Attempt.bind_of_fails (nextWord_exhausted h)

/-- More rounds than there are words are as good as just enough. -/
theorem rollDieLoop_enough {left : Nat} (h : maxCursor - cursor < left) :
    (rollDieLoop streams sides left).run (atCursor seed cursor) =
      (rollDieInner streams sides).run (atCursor seed cursor) := by
  induction left generalizing cursor with
  | zero => exact absurd h (Nat.not_lt_zero _)
  | succ left ih =>
    show _ = (rollDieLoop streams sides (maxCursor - cursor + 1)).run (atCursor seed cursor)
    rcases Nat.lt_or_ge cursor maxCursor with hlt | hge
    · rw [rollDieLoop_succ left hlt, rollDieLoop_succ _ hlt]
      cases dieFace sides (streams seed cursor) with
      | some face => rfl
      | none =>
        have hrest : maxCursor - cursor = maxCursor - (cursor + 1) + 1 := by omega
        rw [hrest]
        exact ih (by omega)
    · rw [rollDieLoop_exhausted left hge, rollDieLoop_exhausted _ hge]

/-- **The loop of `roll_die_inner`**: take a word; return its face, or go on if it has none. -/
theorem rollDieInner_eq (rng : DeterministicRng) :
    (rollDieInner streams sides).run rng =
      match (nextWord streams).run rng with
      | (.error e, next) => (.error e, next)
      | (.ok word, next) =>
        match dieFace sides word with
        | some face => (.ok face, next)
        | none => (rollDieInner streams sides).run next := by
  rw [eq_atCursor rng]
  generalize rng.inner.seed = seed
  generalize rng.cursor = cursor
  show (rollDieLoop streams sides (maxCursor - cursor + 1)).run (atCursor seed cursor) = _
  rcases Nat.lt_or_ge cursor maxCursor with hlt | hge
  · rw [rollDieLoop_succ _ hlt, nextWord_atCursor hlt]
    dsimp only
    cases dieFace sides (streams seed cursor) with
    | some face => rfl
    | none => exact rollDieLoop_enough (by omega)
  · rw [rollDieLoop_exhausted _ hge, nextWord_exhausted hge]

variable {next : DeterministicRng} {face : Nat} {expression : DiceExpression}

/-- The loop draws the die that the words have from the cursor on. -/
theorem rollDieInner_returns :
    Attempt.Returns (rollDieInner streams sides) (atCursor seed cursor) face next ↔
      ∃ behind, drawWords (streams seed) sides (maxCursor - cursor) cursor = .ok (face, behind) ∧
        next = atCursor seed behind := by
  show (rollDieLoop streams sides (maxCursor - cursor + 1)).run (atCursor seed cursor) = _ ↔ _
  generalize hleft : maxCursor - cursor = left
  induction left generalizing cursor with
  | zero =>
    rw [rollDieLoop_exhausted 0 (Nat.le_of_sub_eq_zero hleft)]
    simp [drawWords]
  | succ left ih =>
    have hface : dieFace sides (streams seed cursor) =
        if (streams seed cursor).toNat < acceptanceLimit sides then some ((streams seed cursor).toNat % sides + 1)
        else none := rfl
    rw [rollDieLoop_succ _ (by omega), drawWords, hface]
    by_cases hlimit : (streams seed cursor).toNat < acceptanceLimit sides
    · simp only [if_pos hlimit, Prod.mk.injEq, Except.ok.injEq]
      constructor
      · rintro ⟨rfl, rfl⟩
        exact ⟨_, ⟨rfl, rfl⟩, rfl⟩
      · rintro ⟨_, ⟨rfl, rfl⟩, rfl⟩
        exact ⟨rfl, rfl⟩
    · simp only [if_neg hlimit]
      exact ih (by omega)

/-! ## Rolls -/

/-- What is drawn moves the cursor forward, and nothing else. -/
def Advances {α : Type} (p : Drawing α) : Prop :=
  ∀ seed cursor a next, p.Returns (atCursor seed cursor) a next →
    ∃ behind, cursor ≤ behind ∧ next = atCursor seed behind

namespace Advances

variable {α β : Type}

theorem of_lift {x : Except RollError α} : Advances (Attempt.lift x) := by
  intro seed cursor a next h
  obtain ⟨-, rfl⟩ := Attempt.returns_lift.mp h
  exact ⟨cursor, Nat.le_refl _, rfl⟩

theorem of_pure {a : α} : Advances (pure a) := of_lift

variable {p : Drawing α}

theorem bind {f : α → Drawing β} (hp : Advances p) (hf : ∀ a, Advances (f a)) :
    Advances (p >>= f) := by
  intro seed cursor b next h
  obtain ⟨a, middle, ha, hb⟩ := Attempt.returns_bind.mp h
  obtain ⟨behind, hle, rfl⟩ := hp _ _ _ _ ha
  obtain ⟨behind', hle', rfl⟩ := hf a _ _ _ _ hb
  exact ⟨behind', hle.trans hle', rfl⟩

theorem atomically (hp : Advances p) : Advances (Attempt.atomically p) :=
  fun _ _ _ _ h => hp _ _ _ _ (Attempt.returns_atomically.mp h)

end Advances

theorem drawWords_lt {words : WordStream} {left cursor behind : Nat}
    (h : drawWords words sides left cursor = .ok (face, behind)) : cursor < behind := by
  induction left generalizing cursor with
  | zero => cases h
  | succ left ih =>
    rw [drawWords] at h
    split at h
    · cases h
      exact Nat.lt_succ_self _
    · exact Nat.lt_of_succ_lt (ih h)

theorem rollDieInner_advances : Advances (rollDieInner streams sides) := by
  intro seed cursor face next h
  obtain ⟨behind, hdraw, rfl⟩ := rollDieInner_returns.mp h
  exact ⟨behind, (drawWords_lt hdraw).le, rfl⟩

/-- `roll_die` draws the die of the stream, and leaves the cursor behind it. -/
theorem rollDie_returns :
    (rollDie streams sides).Returns (atCursor seed cursor) face next ↔
      ∃ behind, drawDie (streams seed) sides cursor = .ok (face, behind) ∧ next = atCursor seed behind := by
  unfold rollDie drawDie
  by_cases hsides : InRange maxDieSides sides
  · rw [if_neg (not_not.mpr hsides), Attempt.returns_atomically, rejectIf_of_not (not_not.mpr hsides)]
    exact rollDieInner_returns
  · rw [if_pos hsides, Attempt.returns_lift]
    simp only [seq_eq_ok, rejectIf_eq_ok, not_not, hsides, false_and, exists_false, reduceCtorEq]

theorem rollDie_advances : Advances (rollDie streams sides) := by
  unfold rollDie
  split
  · exact .of_lift
  · exact rollDieInner_advances.atomically

theorem rollDice_advances (count : Nat) : Advances (rollDice streams sides count) := by
  induction count with
  | zero => exact .of_pure
  | succ count ih => exact rollDieInner_advances.bind fun _ => ih.bind fun _ => .of_pure

theorem rollAndKeep_advances (expression : DiceExpression) (mode : RollMode) :
    Advances (rollAndKeep streams expression mode) := by
  cases mode with
  | normal => exact (rollDice_advances _).bind fun _ => .of_pure
  | advantage => exact rollDieInner_advances.bind fun _ => rollDieInner_advances.bind fun _ => .of_pure
  | disadvantage => exact rollDieInner_advances.bind fun _ => rollDieInner_advances.bind fun _ => .of_pure

/-- What a roll is made of: the dice drawn between its cursors, and their total. -/
structure Rolls (streams : WordStreams) (seed : RollSeed) (e : DiceExpression) (m : RollMode) (r : DiceRoll) :
    Prop where
  expression : r.expression = e
  mode : r.rollMode = m
  dice : (rollAndKeep streams e m).Returns (atCursor seed r.cursorBefore) (r.rolledDice, r.keptDice)
    (atCursor seed r.cursorAfter)
  total : rollTotal e.constant r.keptDice = .ok r.total

variable {r : DiceRoll} {context : RollContext}

theorem rollInner_returns {mode : RollMode}
    (h : (rollInner streams expression mode).Returns (atCursor seed cursor) r next) :
    Rolls streams seed expression mode r ∧ r.cursorBefore = cursor ∧ next = atCursor seed r.cursorAfter := by
  simp only [rollInner, Attempt.returns_bind, Attempt.returns_reading, Attempt.returns_lift, Attempt.returns_pure] at h
  obtain ⟨_, _, ⟨rfl, rfl⟩, ⟨rolled, kept⟩, _, hdice, total, _, ⟨htotal, rfl⟩, _, _, ⟨rfl, rfl⟩, rfl, rfl⟩ := h
  obtain ⟨behind, -, rfl⟩ := rollAndKeep_advances expression mode _ _ _ _ hdice
  exact ⟨⟨rfl, rfl, hdice, htotal⟩, rfl, rfl⟩

theorem roll_returns
    (h : (roll streams expression context).Returns (atCursor seed cursor) r next) :
    (context.effectiveMode = .normal ∨ expression.count = 1 ∧ expression.sides = 20) ∧
      Rolls streams seed expression context.effectiveMode r ∧ r.cursorBefore = cursor ∧
      next = atCursor seed r.cursorAfter := by
  unfold roll at h
  dsimp only at h
  split at h
  · obtain ⟨hlift, -⟩ := Attempt.returns_lift.mp h
    cases hlift
  · rename_i hsupported
    refine ⟨?_, rollInner_returns (Attempt.returns_atomically.mp h)⟩
    tauto

/-- A record is a valid one, of a roll that was made. -/
theorem rollRecord_returns {metadata : RollMetadata}
    {modifiers : List ModifierComponent} {record : RollRecord}
    (h : (rollRecord streams expression context metadata modifiers).Returns (atCursor seed cursor) record next) :
    ∃ r, (roll streams expression context).Returns (atCursor seed cursor) r next ∧
      RollRecord.fromRoll r metadata modifiers = .ok record := by
  obtain ⟨r, _, hroll, hrest⟩ := Attempt.returns_bind.mp (Attempt.returns_atomically.mp h)
  obtain ⟨hfrom, rfl⟩ := Attempt.returns_lift.mp hrest
  exact ⟨r, hroll, hfrom⟩

end DeterministicRng

theorem RollRecord.fromRoll_cursors {roll : DiceRoll} {metadata : RollMetadata} {modifiers : List ModifierComponent}
    {record : RollRecord} (h : RollRecord.fromRoll roll metadata modifiers = .ok record) :
    record.cursorBefore = roll.cursorBefore ∧ record.cursorAfter = roll.cursorAfter := by
  simp only [RollRecord.fromRoll, seq_eq_ok, pure_eq, Except.ok.injEq] at h
  obtain ⟨-, rfl⟩ := h
  exact ⟨rfl, rfl⟩

/-- What is asked of the generator. -/
inductive RollRequest where
  | die (sides : Nat)
  | dice (expression : DiceExpression) (context : RollContext)
  | record (expression : DiceExpression) (context : RollContext) (metadata : RollMetadata)
    (modifiers : List ModifierComponent)

/-- What it answers. -/
inductive Rolled where
  | die (face : Nat)
  | dice (roll : DiceRoll)
  | record (record : RollRecord)

/-- The cursors that an answer records. -/
def Rolled.cursors : Rolled → Option (Nat × Nat)
  | .die _ => none
  | .dice roll => some (roll.cursorBefore, roll.cursorAfter)
  | .record r => some (r.cursorBefore, r.cursorAfter)

open DeterministicRng

namespace RollRequest

variable (streams : WordStreams)

def perform : RollRequest → Drawing Rolled
  | .die sides => do return .die (← rollDie streams sides)
  | .dice expression context => do return .dice (← roll streams expression context)
  | .record expression context metadata modifiers =>
    do return .record (← rollRecord streams expression context metadata modifiers)

variable {request : RollRequest} {next : DeterministicRng}

/-- A request that fails leaves the generator as it was. -/
theorem perform_fails {rng : DeterministicRng} {e : RollError}
    (h : (request.perform streams).Fails rng e next) : next = rng := by
  have hbind {α : Type} {p : Drawing α} {f : α → Rolled} (hp : ∀ e next, p.Fails rng e next → next = rng)
      (h : Attempt.Fails (p >>= fun a => pure (f a)) rng e next) : next = rng := by
    rcases hrun : p.run rng with ⟨e' | a, t⟩
    · rw [Attempt.Fails, Attempt.bind_of_fails hrun] at h
      obtain ⟨-, rfl⟩ := Prod.mk.inj h
      exact hp e' t hrun
    · rw [Attempt.Fails, Attempt.bind_of_returns hrun] at h
      cases (Prod.mk.inj h).1
  have hatomically {α : Type} {p : Drawing α} (e : RollError) (next : DeterministicRng)
      (h : (Attempt.atomically p).Fails rng e next) : next = rng := (Attempt.fails_atomically.mp h).1
  have hlift {α : Type} {x : Except RollError α} (e : RollError) (next : DeterministicRng)
      (h : (Attempt.lift x : Drawing α).Fails rng e next) : next = rng := (Prod.mk.inj h).2.symm
  cases request with
  | die sides =>
    refine hbind (fun e next h => ?_) h
    unfold rollDie at h
    split at h
    · exact hlift e next h
    · exact hatomically e next h
  | dice expression context =>
    refine hbind (fun e next h => ?_) h
    unfold roll at h
    dsimp only at h
    split at h
    · exact hlift e next h
    · exact hatomically e next h
  | record expression context metadata modifiers => exact hbind hatomically h

/-- **What a request answers with, it has drawn**: the generator stands behind it, and the cursors it records are
    those between which it was drawn. -/
theorem perform_returns {streams : WordStreams} {seed : RollSeed} {cursor : Nat} {x : Rolled}
    (h : (request.perform streams).Returns (atCursor seed cursor) x next) :
    next = atCursor seed next.cursor ∧
      ∀ before behind, x.cursors = some (before, behind) → before = cursor ∧ behind = next.cursor := by
  cases request with
  | die sides =>
    obtain ⟨face, _, hdie, hpure⟩ := Attempt.returns_bind.mp h
    obtain ⟨rfl, rfl⟩ := Attempt.returns_pure.mp hpure
    obtain ⟨behind, -, rfl⟩ := rollDie_advances _ _ _ _ hdie
    exact ⟨rfl, fun _ _ hnone => absurd hnone (by simp [Rolled.cursors])⟩
  | dice expression context =>
    obtain ⟨r, _, hroll, hpure⟩ := Attempt.returns_bind.mp h
    obtain ⟨rfl, rfl⟩ := Attempt.returns_pure.mp hpure
    obtain ⟨-, -, hbefore, rfl⟩ := roll_returns hroll
    refine ⟨rfl, fun before behind hsome => ?_⟩
    obtain ⟨rfl, rfl⟩ := Prod.mk.inj (Option.some.inj hsome)
    exact ⟨hbefore, rfl⟩
  | record expression context metadata modifiers =>
    obtain ⟨record, _, hrecord, hpure⟩ := Attempt.returns_bind.mp h
    obtain ⟨rfl, rfl⟩ := Attempt.returns_pure.mp hpure
    obtain ⟨r, hroll, hfrom⟩ := rollRecord_returns hrecord
    obtain ⟨-, -, hbefore, rfl⟩ := roll_returns hroll
    obtain ⟨hb, ha⟩ := RollRecord.fromRoll_cursors hfrom
    refine ⟨rfl, fun before behind hsome => ?_⟩
    obtain ⟨rfl, rfl⟩ := Prod.mk.inj (Option.some.inj hsome)
    exact ⟨hb.trans hbefore, ha⟩

/-- Requests one after the other; one that fails is passed over. -/
def performAll (rng : DeterministicRng) : List RollRequest → List (Except RollError Rolled) × DeterministicRng
  | [] => ([], rng)
  | request :: requests =>
    match (request.perform streams).run rng with
    | (x, next) => (x :: (performAll next requests).1, (performAll next requests).2)

theorem performAll_append (rng : DeterministicRng) (earlier later : List RollRequest) :
    performAll streams rng (earlier ++ later) =
      ((performAll streams rng earlier).1 ++ (performAll streams (performAll streams rng earlier).2 later).1,
        (performAll streams (performAll streams rng earlier).2 later).2) := by
  induction earlier generalizing rng with
  | nil => rfl
  | cons request earlier ih =>
    simp only [List.cons_append, performAll, ih]

/-- A run only moves the cursor. -/
theorem performAll_atCursor (seed : RollSeed) (cursor : Nat) (requests : List RollRequest) :
    ∃ behind, (performAll streams (atCursor seed cursor) requests).2 = atCursor seed behind := by
  induction requests generalizing cursor with
  | nil => exact ⟨cursor, rfl⟩
  | cons request requests ih =>
    unfold performAll
    rcases hrun : (request.perform streams).run (atCursor seed cursor) with ⟨e | x, next⟩ <;> dsimp only
    · rw [perform_fails streams hrun]
      exact ih cursor
    · rw [(perform_returns hrun).1]
      exact ih _

end RollRequest

open RollRequest

/-- **Dice, fair and replayable.** A die of any size that is accepted draws words until one stands for a face, and each
    face has as many words as any other. A run of requests depends on the seed and the cursor it is taken up from: at
    any point of it, a request that fails has left the cursor alone; one that answers does so again, to the same
    cursor, from the cursor it has recorded; and the rest of the run is the run of the rest from that point's cursor. -/
theorem dice_replay (streams : WordStreams) :
    (∀ sides, InRange maxDieSides sides →
      (∀ rng, (DeterministicRng.rollDieInner streams sides).run rng =
        match (nextWord streams).run rng with
        | (.error e, next) => (.error e, next)
        | (.ok word, next) =>
          match dieFace sides word with
          | some face => (.ok face, next)
          | none => (DeterministicRng.rollDieInner streams sides).run next) ∧
        (∀ word face, dieFace sides word = some face → InRange sides face) ∧
        ∀ face, InRange sides face →
          Nat.card { word : UInt32 // dieFace sides word = some face } = 2 ^ 32 / sides) ∧
      ∀ (seed : RollSeed) (cursor : Nat) (earlier : List RollRequest),
        ∃ middle, (performAll streams (atCursor seed cursor) earlier).2 = atCursor seed middle ∧
          (∀ (request : RollRequest) e next,
            (request.perform streams).run (atCursor seed middle) = (.error e, next) → next = atCursor seed middle) ∧
          (∀ (request : RollRequest) x next,
            (request.perform streams).run (atCursor seed middle) = (.ok x, next) →
              next = atCursor seed next.cursor ∧
                ∀ before behind, x.cursors = some (before, behind) → behind = next.cursor ∧
                  (request.perform streams).run (atCursor seed before) = (.ok x, atCursor seed behind)) ∧
          ∀ later, performAll streams (atCursor seed cursor) (earlier ++ later) =
            ((performAll streams (atCursor seed cursor) earlier).1 ++
                (performAll streams (atCursor seed middle) later).1,
              (performAll streams (atCursor seed middle) later).2) := by
  refine ⟨fun sides hsides => ⟨rollDieInner_eq, fun word face => dieFace_inRange hsides.1,
    fun face => dieFace_unbiased⟩, fun seed cursor earlier => ?_⟩
  obtain ⟨middle, hmiddle⟩ := performAll_atCursor streams seed cursor earlier
  refine ⟨middle, hmiddle, fun request e next => perform_fails streams,
    fun request x next h => ?_, fun later => ?_⟩
  · obtain ⟨hnext, hcursors⟩ := perform_returns h
    refine ⟨hnext, fun before behind hx => ?_⟩
    obtain ⟨rfl, rfl⟩ := hcursors before behind hx
    rw [← hnext]
    exact ⟨rfl, h⟩
  · rw [performAll_append, hmiddle]

end ManchesterArcana
