import Mathlib.Algebra.BigOperators.Group.List.Basic
import ManchesterArcana.Encounter.Economy

/-!
# `Encounter.Ledger` — the hero's pools along a history

Five pools, and for each intent what it takes out of each of them and what it puts back. The ledger balances
at every step, so it balances over every history: between two long rests no more slots are spent than the hero
had, and one more that Arcane Recovery gave back.
-/

namespace ManchesterArcana.Encounter

open Effect Rules

/-- The pools of a hero. -/
inductive Account where
  | spellSlots
  | secondWind
  | actionSurge
  | hitDice
  | arcaneRecovery
  deriving DecidableEq

namespace Account

/-- The counter of a pool; a hero without the pool has none. -/
def counter (r : RuntimeResources) : Account → Option ResourceCounter
  | spellSlots => r.levelOneSpellSlots
  | secondWind => r.secondWind
  | actionSurge => r.actionSurge
  | hitDice => some r.hitDice
  | arcaneRecovery => r.arcaneRecovery

/-- What the pool holds. -/
def held (k : Account) (r : RuntimeResources) : Nat := heldIn (k.counter r)

/-- What the pool can hold. -/
def capacity (k : Account) (r : RuntimeResources) : Nat := ((k.counter r).map (·.maximum)).getD 0

end Account

/-- What an intent takes out of a pool. -/
def EncounterIntent.spends : EncounterIntent → Account → Nat
  | .castSpell spell _, .spellSlots => if spell.level = 1 then 1 else 0
  | .castSleep, .spellSlots => 1
  | .castShield, .spellSlots => 1
  | .secondWind, .secondWind => 1
  | .actionSurge, .actionSurge => 1
  | .spendHitDie, .hitDice => 1
  | .useArcaneRecovery, .arcaneRecovery => 1
  | _, _ => 0

/-- What an intent puts into a pool: a slot for Arcane Recovery, the fighter's features after a short rest, and
    after a long rest everything but half of the hit dice. -/
def EncounterIntent.grants (r : RuntimeResources) : EncounterIntent → Account → Nat
  | .useArcaneRecovery, .spellSlots => 1
  | .finishShortRest, .secondWind => Account.secondWind.capacity r - Account.secondWind.held r
  | .finishShortRest, .actionSurge => Account.actionSurge.capacity r - Account.actionSurge.held r
  | .takeLongRest, .hitDice => min (r.hitDice.maximum - r.hitDice.current) (max (r.hitDice.maximum / 2) 1)
  | .takeLongRest, k => k.capacity r - k.held r
  | _, _ => 0

/-- Class and level of a hero do not change. -/
def SameHero (r r' : RuntimeResources) : Prop :=
  r'.heroClass = r.heroClass ∧ r'.level = r.level ∧ ∀ k : Account, k.capacity r' = k.capacity r

/-- **The ledger balances**: what the intent spends was there, and nothing else changes. -/
structure Balanced (intent : EncounterIntent) (r r' : RuntimeResources) : Prop where
  hero : SameHero r r'
  afforded : ∀ k, intent.spends k ≤ k.held r
  balance : ∀ k, k.held r' + intent.spends k = k.held r + intent.grants r k

/-! ## The intents of the ledger -/

section Intents

variable {r : RuntimeResources} {intent : EncounterIntent}

/-- An intent that touches no pool. -/
theorem Balanced.same (hspends : ∀ k, intent.spends k = 0) (hgrants : ∀ k, intent.grants r k = 0) :
    Balanced intent r r where
  hero := ⟨rfl, rfl, fun _ => rfl⟩
  afforded k := by rw [hspends k]; exact Nat.zero_le _
  balance k := by rw [hspends k, hgrants k]

variable {pool : Option ResourceCounter}

theorem capacity_draw :
    ((pool.map ResourceCounter.draw).map (·.maximum)).getD 0 = (pool.map (·.maximum)).getD 0 := by
  cases pool <;> rfl

theorem capacity_refill :
    ((pool.map ResourceCounter.refill).map (·.maximum)).getD 0 = (pool.map (·.maximum)).getD 0 := by
  cases pool <;> rfl

theorem capacity_restoreAll :
    ((pool.map ResourceCounter.restoreAll).map (·.maximum)).getD 0 = (pool.map (·.maximum)).getD 0 := by
  cases pool <;> rfl

theorem heldIn_restoreAll :
    heldIn (pool.map .restoreAll) = (pool.map (·.maximum)).getD 0 := by
  cases pool <;> rfl

/-- A slot, for the intents that take nothing else. -/
theorem Balanced.drawSlot (hslots : intent.spends .spellSlots = 1)
    (hrest : ∀ k, k ≠ .spellSlots → intent.spends k = 0) (hgrants : ∀ k, intent.grants r k = 0)
    (hpos : 0 < heldIn r.levelOneSpellSlots) : Balanced intent r r.drawSlot where
  hero := by
    refine ⟨rfl, rfl, fun k => ?_⟩
    cases k <;> first | rfl | exact capacity_draw
  afforded k := by
    by_cases hk : k = .spellSlots
    · rw [hk, hslots]
      exact hpos
    · rw [hrest k hk]
      exact Nat.zero_le _
  balance k := by
    by_cases hk : k = .spellSlots
    · subst hk
      rw [hslots, hgrants]
      show heldIn (r.levelOneSpellSlots.map .draw) + 1 = heldIn r.levelOneSpellSlots + 0
      rw [heldIn_draw]
      omega
    · rw [hrest k hk, hgrants k]
      cases k <;> first | rfl | exact absurd rfl hk

theorem Balanced.payFor {spell : SpellId} {targetId : String} (h : r.Affords spell) :
    Balanced (.castSpell spell targetId) r (r.payFor spell) := by
  unfold RuntimeResources.payFor
  by_cases h1 : spell.level = 1
  · rw [if_pos h1]
    exact .drawSlot (if_pos h1) (fun k hk => by cases k <;> first | rfl | exact absurd rfl hk)
      (fun k => by cases k <;> rfl) (h h1)
  · rw [if_neg h1]
    exact .same (fun k => by cases k <;> first | rfl | exact if_neg h1) (fun k => by cases k <;> rfl)

theorem Balanced.secondWind (hpos : 0 < heldIn r.secondWind) :
    Balanced .secondWind r { r with secondWind := r.secondWind.map .draw } where
  hero := by
    refine ⟨rfl, rfl, fun k => ?_⟩
    cases k <;> first | rfl | exact capacity_draw
  afforded k := by cases k <;> first | exact Nat.zero_le _ | exact hpos
  balance k := by
    cases k <;> first | rfl | skip
    show heldIn (r.secondWind.map .draw) + 1 = heldIn r.secondWind + 0
    rw [heldIn_draw]
    omega

theorem Balanced.actionSurge (hpos : 0 < heldIn r.actionSurge) :
    Balanced .actionSurge r { r with actionSurge := r.actionSurge.map .draw } where
  hero := by
    refine ⟨rfl, rfl, fun k => ?_⟩
    cases k <;> first | rfl | exact capacity_draw
  afforded k := by cases k <;> first | exact Nat.zero_le _ | exact hpos
  balance k := by
    cases k <;> first | rfl | skip
    show heldIn (r.actionSurge.map .draw) + 1 = heldIn r.actionSurge + 0
    rw [heldIn_draw]
    omega

theorem Balanced.spendHitDie (hpos : 0 < r.hitDice.current) :
    Balanced .spendHitDie r { r with hitDice := r.hitDice.draw } where
  hero := by
    refine ⟨rfl, rfl, fun k => ?_⟩
    cases k <;> rfl
  afforded k := by cases k <;> first | exact Nat.zero_le _ | exact hpos
  balance k := by
    cases k <;> first | rfl | skip
    show r.hitDice.current - 1 + 1 = r.hitDice.current + 0
    omega

theorem Balanced.useArcaneRecovery (hpos : 0 < heldIn r.arcaneRecovery) (hslots : r.levelOneSpellSlots ≠ none) :
    Balanced .useArcaneRecovery r r.recoverSlot where
  hero := by
    refine ⟨rfl, rfl, fun k => ?_⟩
    cases k <;> first | rfl | exact capacity_draw | exact capacity_refill
  afforded k := by cases k <;> first | exact Nat.zero_le _ | exact hpos
  balance k := by
    cases k
    case spellSlots =>
      show heldIn (r.levelOneSpellSlots.map .refill) + 0 = heldIn r.levelOneSpellSlots + 1
      rw [heldIn_refill hslots]
    case arcaneRecovery =>
      show heldIn (r.arcaneRecovery.map .draw) + 1 = heldIn r.arcaneRecovery + 0
      rw [heldIn_draw]
      omega
    all_goals rfl

/-- A valid pool holds no more than it can. -/
theorem heldIn_le_of_within {actual expected : Option ResourceCounter}
    (h : RuntimeResources.OptionWithin actual expected) : heldIn actual ≤ (actual.map (·.maximum)).getD 0 := by
  cases actual with
  | none => exact Nat.le_refl _
  | some c =>
    cases expected with
    | none => exact h.elim
    | some e => exact h.2.2

/-- **A valid hero's pools are never overfull.** -/
theorem held_le_capacity (hv : r.Valid) (k : Account) : k.held r ≤ k.capacity r := by
  cases k
  case spellSlots => exact heldIn_le_of_within hv.levelOneSpellSlots
  case secondWind => exact heldIn_le_of_within hv.secondWind
  case actionSurge => exact heldIn_le_of_within hv.actionSurge
  case hitDice => exact hv.hitDice.2.2
  case arcaneRecovery => exact heldIn_le_of_within hv.arcaneRecovery

theorem Balanced.finishShortRest (hv : r.Valid) : Balanced .finishShortRest r r.afterShortRest where
  hero := by
    refine ⟨rfl, rfl, fun k => ?_⟩
    cases k <;> first | rfl | exact capacity_restoreAll
  afforded k := by cases k <;> exact Nat.zero_le _
  balance k := by
    cases k
    case secondWind =>
      have hle := held_le_capacity hv .secondWind
      show heldIn (r.secondWind.map .restoreAll) + 0 = _ + (_ - _)
      rw [heldIn_restoreAll]
      exact (Nat.add_sub_of_le hle).symm
    case actionSurge =>
      have hle := held_le_capacity hv .actionSurge
      show heldIn (r.actionSurge.map .restoreAll) + 0 = _ + (_ - _)
      rw [heldIn_restoreAll]
      exact (Nat.add_sub_of_le hle).symm
    all_goals rfl

theorem Balanced.takeLongRest (hv : r.Valid) : Balanced .takeLongRest r r.afterLongRest where
  hero := by
    refine ⟨rfl, rfl, fun k => ?_⟩
    cases k <;> first | rfl | exact capacity_restoreAll
  afforded k := by cases k <;> exact Nat.zero_le _
  balance k := by
    cases k
    case hitDice => rfl
    case spellSlots =>
      show heldIn (r.levelOneSpellSlots.map .restoreAll) + 0 = _ + (_ - _)
      rw [heldIn_restoreAll]
      exact (Nat.add_sub_of_le (held_le_capacity hv .spellSlots)).symm
    case secondWind =>
      show heldIn (r.secondWind.map .restoreAll) + 0 = _ + (_ - _)
      rw [heldIn_restoreAll]
      exact (Nat.add_sub_of_le (held_le_capacity hv .secondWind)).symm
    case actionSurge =>
      show heldIn (r.actionSurge.map .restoreAll) + 0 = _ + (_ - _)
      rw [heldIn_restoreAll]
      exact (Nat.add_sub_of_le (held_le_capacity hv .actionSurge)).symm
    case arcaneRecovery =>
      show heldIn (r.arcaneRecovery.map .restoreAll) + 0 = _ + (_ - _)
      rw [heldIn_restoreAll]
      exact (Nat.add_sub_of_le (held_le_capacity hv .arcaneRecovery)).symm

end Intents

/-! ## One step -/

namespace Books

variable {b b' : Books} {intent : EncounterIntent}

/-- The pools before and after a step, in the ledger of its intent. -/
def Settles (b b' : Books) (intent : EncounterIntent) : Prop :=
  (b.pools = none ∧ b'.pools = none ∧ ∀ k, intent.spends k = 0) ∨
    ∃ r r', b.pools = some r ∧ b'.pools = some r' ∧ Balanced intent r r'

/-- An intent without pools. -/
theorem Settles.same (hp : b'.pools = b.pools) (hspends : ∀ k, intent.spends k = 0)
    (hgrants : ∀ r k, intent.grants r k = 0) : b.Settles b' intent := by
  cases hb : b.pools with
  | none => exact .inl ⟨hb, hp.trans hb, hspends⟩
  | some r => exact .inr ⟨r, r, hb, hp.trans hb, .same hspends (hgrants r)⟩

/-- **Every intent settles its ledger.** -/
theorem Posts.settles (h : b.Posts intent b') (hv : ∀ r ∈ b.pools, r.Valid) : b.Settles b' intent := by
  cases intent with
  | startEncounter =>
    obtain ⟨-, actorId, resources, rfl⟩ := h
    exact .same rfl (fun k => by cases k <;> rfl) (fun r k => by cases k <;> rfl)
  | move destination =>
    obtain ⟨-, r, feet, position, -, -, ⟨-, -, rfl⟩ | ⟨-, -, rfl⟩⟩ := h <;>
      exact .same rfl (fun k => by cases k <;> rfl) (fun r k => by cases k <;> rfl)
  | attack attackId targetId =>
    have hsame {c : Books} (hp : c.pools = b.pools) : b.Settles c (.attack attackId targetId) :=
      .same hp (fun k => by cases k <;> rfl) (fun r k => by cases k <;> rfl)
    obtain ⟨-, spent, ⟨r, -, -, rfl⟩, rfl | ⟨live, p, -, -, -, rfl⟩ | hchange | hchange⟩ := h
    · exact hsame rfl
    · exact hsame rfl
    · exact hsame hchange.kept.pools
    · exact hsame hchange.kept.pools
  | contextAction actionId =>
    obtain ⟨-, r, -, rfl⟩ := h
    exact .same rfl (fun k => by cases k <;> rfl) (fun r k => by cases k <;> rfl)
  | castSpell spell targetId =>
    obtain ⟨-, paid, ⟨-, r, pools, -, -, hpools, hafford, rfl⟩, rfl | hchange⟩ := h
    · exact .inr ⟨pools, _, hpools, rfl, .payFor hafford⟩
    · exact .inr ⟨pools, _, hpools, hchange.kept.pools, .payFor hafford⟩
  | castLight objectId =>
    obtain ⟨-, -, r, pools, -, -, hpools, -, rfl⟩ := h
    exact .inr ⟨pools, _, hpools, rfl, .same (fun k => by cases k <;> rfl) (fun k => by cases k <;> rfl)⟩
  | castMageHand anchor =>
    obtain ⟨-, -, r, pools, -, -, hpools, -, rfl⟩ := h
    exact .inr ⟨pools, _, hpools, rfl, .same (fun k => by cases k <;> rfl) (fun k => by cases k <;> rfl)⟩
  | controlMageHand objectId =>
    obtain ⟨-, -, r, -, -, rfl⟩ := h
    exact .same rfl (fun k => by cases k <;> rfl) (fun r k => by cases k <;> rfl)
  | dismissMageHand =>
    obtain ⟨-, -, r, -, -, rfl⟩ := h
    exact .same rfl (fun k => by cases k <;> rfl) (fun r k => by cases k <;> rfl)
  | castSleep =>
    obtain ⟨-, -, r, pools, -, -, hpools, hafford, rfl⟩ := h
    exact .inr ⟨pools, _, hpools, rfl, .drawSlot rfl
      (fun k hk => by cases k <;> first | rfl | exact absurd rfl hk) (fun k => by cases k <;> rfl) (hafford rfl)⟩
  | castShield =>
    obtain ⟨-, warded, ⟨live, pools, p, w, -, -, -, hpools, hpos, rfl⟩, hresult⟩ := h
    have hbalanced : Balanced .castShield pools pools.drawSlot :=
      .drawSlot rfl (fun k hk => by cases k <;> first | rfl | exact absurd rfl hk) (fun k => by cases k <;> rfl) hpos
    rcases hresult with rfl | ⟨struck, hchange, rfl | rfl⟩
    · exact .inr ⟨pools, _, hpools, rfl, hbalanced⟩
    · exact .inr ⟨pools, _, hpools, hchange.kept.pools, hbalanced⟩
    · exact .inr ⟨pools, _, hpools, hchange.kept.pools, hbalanced⟩
  | declineReaction =>
    obtain ⟨-, live, p, -, -, hchange⟩ := h
    exact .same hchange.kept.pools (fun k => by cases k <;> rfl) (fun r k => by cases k <;> rfl)
  | secondWind =>
    obtain ⟨-, -, r, pools, hitPoints, -, hpools, hpos, rfl⟩ := h
    exact .inr ⟨pools, _, hpools, rfl, .secondWind hpos⟩
  | actionSurge =>
    obtain ⟨-, -, r, pools, -, -, hpools, hpos, rfl⟩ := h
    exact .inr ⟨pools, _, hpools, rfl, .actionSurge hpos⟩
  | beginShortRest =>
    obtain ⟨live, pools, hitPoints, life, rest, -, -, hpools, rfl⟩ := h
    exact .inr ⟨pools, _, hpools, rfl, .same (fun k => by cases k <;> rfl) (fun k => by cases k <;> rfl)⟩
  | spendHitDie =>
    obtain ⟨live, pools, hitPoints, life, transition, rest, rest', -, -, hpools, hpos, -, rfl⟩ := h
    exact .inr ⟨pools, _, hpools, rfl, .spendHitDie hpos⟩
  | useArcaneRecovery =>
    obtain ⟨live, pools, rest, rest', -, -, hpools, hpos, hslots, rfl⟩ := h
    exact .inr ⟨pools, _, hpools, rfl, .useArcaneRecovery hpos hslots⟩
  | finishShortRest =>
    obtain ⟨live, pools, hitPoints, life, transition, rest, -, -, hpools, -, rfl⟩ := h
    exact .inr ⟨pools, _, hpools, rfl, .finishShortRest (hv pools hpools)⟩
  | takeLongRest =>
    obtain ⟨live, pools, hitPoints, life, transition, -, -, -, hpools, -, rfl⟩ := h
    exact .inr ⟨pools, _, hpools, rfl, .takeLongRest (hv pools hpools)⟩
  | endTurn =>
    obtain ⟨-, actorId, resources, -, -, rfl⟩ := h
    exact .same rfl (fun k => by cases k <;> rfl) (fun r k => by cases k <;> rfl)
  | rollDeathSave =>
    have hsame {c : Books} (hp : c.pools = b.pools) : b.Settles c .rollDeathSave :=
      .same hp (fun k => by cases k <;> rfl) (fun r k => by cases k <;> rfl)
    obtain ⟨-, -, hchange | ⟨hitPoints, life, actorId, resources, -, -, rfl⟩⟩ := h
    · exact hsame hchange.kept.pools
    · exact hsame rfl

/-- What a pool of these books holds. -/
def holds (b : Books) (k : Account) : Nat := (b.pools.map k.held).getD 0

/-- What it can hold. -/
def limit (b : Books) (k : Account) : Nat := (b.pools.map k.capacity).getD 0

end Books

/-- The rests that fill a pool up. -/
def EncounterIntent.restores : EncounterIntent → Account → Bool
  | .takeLongRest, _ => true
  | .finishShortRest, .secondWind => true
  | .finishShortRest, .actionSurge => true
  | _, _ => false

/-- The slot that Arcane Recovery gives back. -/
def EncounterIntent.recovers : EncounterIntent → Account → Nat
  | .useArcaneRecovery, .spellSlots => 1
  | _, _ => 0

namespace Books

variable {b b' : Books} {intent : EncounterIntent}

/-- **Until a rest fills it up, a pool changes by what is spent and what Arcane Recovery gives back.** -/
theorem Settles.balance (h : b.Settles b' intent) {k : Account} (hrest : intent.restores k = false) :
    b'.holds k + intent.spends k = b.holds k + intent.recovers k := by
  have hgrants (r : RuntimeResources) : intent.grants r k = intent.recovers k := by
    cases k <;> cases intent <;> first | rfl | exact absurd hrest nofun
  rcases h with ⟨hb, hb', hspends⟩ | ⟨r, r', hb, hb', hbalanced⟩
  · -- a hero without pools has no Arcane Recovery to use
    have hnone : intent.recovers k = 0 := by
      cases intent with
      | useArcaneRecovery => exact absurd (hspends .arcaneRecovery) nofun
      | _ => rfl
    unfold holds
    rw [hb, hb', hspends, hnone]
  · unfold holds
    rw [hb, hb', ← hgrants r]
    exact hbalanced.balance k

end Books

/-! ## Every history -/

/-- What the commands of a history spend from a pool. -/
def spent (k : Account) (as : List Turned) : Nat := (as.map fun a => a.1.intent.spends k).sum

/-- What Arcane Recovery gives back along a history. -/
def recovered (k : Account) (as : List Turned) : Nat := (as.map fun a => a.1.intent.recovers k).sum

variable {s s' : EncounterState}

theorem EncounterState.Valid.pools (hv : s.Valid) :
    ∀ r ∈ s.books.pools, r.Valid := by
  intro r hr
  obtain ⟨rules, hrules, rfl⟩ := Option.map_eq_some_iff.mp hr
  exact (hv.rules rules hrules).rules.resources

theorem EncounterStep.settles {a : Turned} (h : EncounterStep s a s') :
    s.books.Settles s'.books a.1.intent :=
  h.posts.settles h.valid.pools

/-- **The ledger of a run.** -/
theorem EncounterStep.run_balance {as : List Turned} (h : Run EncounterStep s as s')
    {k : Account} (hrest : ∀ a ∈ as, a.1.intent.restores k = false) :
    s'.books.holds k + spent k as = s.books.holds k + recovered k as := by
  refine Run.balance (Φ := fun s => s.books.holds k) ?_ (h.restrict hrest)
  intro s a s' ⟨hstep, hkeeps⟩
  exact hstep.settles.balance hkeeps

/-- What Arcane Recovery gives back, it was used for. -/
theorem recovered_eq_spent (as : List Turned) : recovered .spellSlots as = spent .arcaneRecovery as := by
  unfold recovered spent
  congr 1
  refine List.map_congr_left fun a _ => ?_
  cases a.1.intent <;> rfl

/-- A hero has at most one use of Arcane Recovery. -/
theorem capacity_arcaneRecovery_le {r : RuntimeResources} (hv : r.Valid) :
    Account.arcaneRecovery.capacity r ≤ 1 := by
  have hwithin := hv.arcaneRecovery
  show (r.arcaneRecovery.map (·.maximum)).getD 0 ≤ 1
  cases hclass : r.heroClass <;> rw [hclass] at hwithin <;> cases hr : r.arcaneRecovery <;>
    rw [hr] at hwithin
  case fighter.none => exact Nat.zero_le 1
  case fighter.some => exact hwithin.elim
  case wizard.none => exact Nat.zero_le 1
  case wizard.some c => exact hwithin.2.1.le

theorem EncounterState.Valid.holds_le (hv : s.Valid) (k : Account) :
    s.books.holds k ≤ s.books.limit k := by
  have hpools := hv.pools
  unfold Books.holds Books.limit
  cases hr : s.books.pools with
  | none => exact Nat.le_refl 0
  | some r => exact held_le_capacity (hpools r hr) k

theorem EncounterState.Valid.limit_arcaneRecovery_le (hv : s.Valid) :
    s.books.limit .arcaneRecovery ≤ 1 := by
  have hpools := hv.pools
  unfold Books.limit
  cases hr : s.books.pools with
  | none => exact Nat.zero_le 1
  | some r => exact capacity_arcaneRecovery_le (hpools r hr)

/-- Arcane Recovery is used at most once between two long rests. -/
theorem EncounterStep.run_recovered_le {as : List Turned}
    (h : Run EncounterStep s as s') (hv : s.Valid) (hlong : ∀ a ∈ as, a.1.intent ≠ .takeLongRest) :
    recovered .spellSlots as ≤ 1 := by
  have hbalance := run_balance h (k := .arcaneRecovery) fun a ha => by
    have := hlong a ha
    cases hintent : a.1.intent <;> first | rfl | exact absurd hintent this
  have hnone : recovered .arcaneRecovery as = 0 := by
    refine List.sum_eq_zero ?_
    intro n hn
    obtain ⟨a, -, rfl⟩ := List.mem_map.mp hn
    cases a.1.intent <;> rfl
  have hheld := hv.holds_le .arcaneRecovery
  have hone := hv.limit_arcaneRecovery_le
  rw [recovered_eq_spent]
  omega

/-- **The ledger of a history.** No pool is overfull; every step spends what its intent uses, and only if it
    was there, and grants what its intent grants, and leaves the rest of the pools alone; until a rest fills
    it up, a pool holds what it held, less what was spent, and more by what Arcane Recovery gave back; and
    between two long rests no more slots are spent than the maximum and one recovered slot. -/
theorem encounter_ledger {s : EncounterState} (hs : Reachable s) :
    (∀ r ∈ s.books.pools, ∀ k : Account, k.held r ≤ k.capacity r) ∧
    (∀ a s', EncounterStep s a s' → s.books.Settles s'.books a.1.intent) ∧
    (∀ k as s', Run EncounterStep s as s' → (∀ a ∈ as, a.1.intent.restores k = false) →
      s'.books.holds k + spent k as = s.books.holds k + recovered k as) ∧
    (∀ as s', Run EncounterStep s as s' → (∀ a ∈ as, a.1.intent ≠ .takeLongRest) →
      spent .spellSlots as ≤ s.books.limit .spellSlots + recovered .spellSlots as ∧
        recovered .spellSlots as ≤ 1) := by
  refine ⟨?within, ?step, ?run, ?slots⟩
  case within =>
    intro r hr k
    exact held_le_capacity (hs.valid.pools r hr) k
  case step =>
    intro a s' hstep
    exact hstep.settles
  case run =>
    intro k as s' hrun hrest
    exact EncounterStep.run_balance hrun hrest
  case slots =>
    intro as s' hrun hlong
    have hbalance := EncounterStep.run_balance hrun (k := .spellSlots) fun a ha => by
      have := hlong a ha
      cases hintent : a.1.intent <;> first | rfl | exact absurd hintent this
    have hheld := hs.valid.holds_le .spellSlots
    exact ⟨by omega, EncounterStep.run_recovered_le hrun hs.valid hlong⟩

/-- The ledger at the fight of the wounded victor. -/
theorem encounter_ledger_woundedVictory : ∃ s, Run EncounterStep fighterEncounter woundedVictory s ∧
    (∀ r ∈ s.books.pools, ∀ k : Account, k.held r ≤ k.capacity r) ∧
    ∀ a s', EncounterStep s a s' → s.books.Settles s'.books a.1.intent := by
  obtain ⟨s, hs⟩ := Option.isSome_iff_exists.mp woundedVictory_replays
  have hrun := run_of_replay hs
  have hledger := encounter_ledger ⟨_, _, fighterEncounter_new, hrun⟩
  exact ⟨s, hrun, hledger.1, hledger.2.1⟩

end ManchesterArcana.Encounter
