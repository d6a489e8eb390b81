import ManchesterArcana.Rules.Contracts

/-!
# `Rules.Currency` — a bounded purse of three coins

A wallet holds copper, silver and gold pieces, each up to a cap. It is paid into and out of by its total value:
the total is brought up to date and the wallet *re-coined* into the fewest pieces, which is where the cap is
checked once more. A wallet may hold up to the cap of all three coins, but its fewest pieces put everything above
99 copper into gold, so what a wallet may hold is more than what can be re-coined. `Currency.Law` is what paying
ought to do, and `Currency.law_iff` says where the re-coining lets it.
-/

namespace ManchesterArcana.Rules

open Effect

/-- `MAX_CURRENCY_PIECES`: the most pieces of one coin. -/
def maxCurrencyPieces : Nat := 1000000

/-- `u32::MAX` and `u64::MAX`, the ends of a number of pieces and of a total. -/
def maxPieces : Nat := 2 ^ 32 - 1
def maxTotal : Nat := 2 ^ 64 - 1

structure Currency where
  copper : Nat
  silver : Nat
  gold : Nat
  deriving DecidableEq

namespace Currency

/-- The value in copper pieces. -/
def value (c : Currency) : Nat := c.gold * 100 + c.silver * 10 + c.copper

def totalCopper (c : Currency) : RulesMatrixResult Nat := do
  rejectIf (maxTotal < c.value) .arithmeticOverflow
  return c.value

def validate (c : Currency) : RulesMatrixResult Unit := do
  rejectIf (maxCurrencyPieces < c.copper ∨ maxCurrencyPieces < c.silver ∨ maxCurrencyPieces < c.gold)
    (.invalidState "currency exceeds the bounded MVP wallet")
  let _ ← c.totalCopper
  return ()

/-- The fewest pieces of a value. -/
def coins (total : Nat) : Currency where
  copper := total % 10
  silver := total % 100 / 10
  gold := total / 100

def fromTotalCopper (total : Nat) : RulesMatrixResult Currency := do
  rejectIf (maxPieces < total / 100) .arithmeticOverflow
  (coins total).validate
  return coins total

def credit (c amount : Currency) : Mutating Currency (Unit × Currency) := do
  leaving c c.validate
  leaving c amount.validate
  let held ← leaving c c.totalCopper
  let paid ← leaving c amount.totalCopper
  leaving c (rejectIf (maxTotal < held + paid) .arithmeticOverflow)
  let next ← leaving c (fromTotalCopper (held + paid))
  return ((), next)

def debit (c amount : Currency) : Mutating Currency (Unit × Currency) := do
  leaving c c.validate
  leaving c amount.validate
  let held ← leaving c c.totalCopper
  let paid ← leaving c amount.totalCopper
  leaving c (rejectIf (held < paid) (.invalidIntent "wallet cannot cover the requested currency amount"))
  let next ← leaving c (fromTotalCopper (held - paid))
  return ((), next)

/-! ## What a wallet may hold, and what can be re-coined -/

/-- No coin is there more often than the cap allows. -/
structure Valid (c : Currency) : Prop where
  copper : c.copper ≤ maxCurrencyPieces
  silver : c.silver ≤ maxCurrencyPieces
  gold : c.gold ≤ maxCurrencyPieces

/-- The most that a wallet is worth. -/
def mostHeld : Nat := 111 * maxCurrencyPieces

/-- The most that can be re-coined. -/
def mostCoined : Nat := 100 * maxCurrencyPieces + 99

variable {c : Currency} {total : Nat}

theorem Valid.value_le (hv : c.Valid) : c.value ≤ mostHeld := by
  have h := hv.copper
  have h' := hv.silver
  have h'' := hv.gold
  unfold value mostHeld
  omega

theorem mostHeld_lt : 2 * mostHeld < maxTotal := by decide

theorem Valid.totalCopper (hv : c.Valid) : c.totalCopper = .ok c.value := by
  have hle := hv.value_le
  have hlt := mostHeld_lt
  unfold Currency.totalCopper
  rw [rejectIf_of_not (by omega), ok_bind]
  rfl

theorem validate_eq_ok : c.validate = .ok () ↔ c.Valid := by
  constructor
  · intro h
    obtain ⟨hpieces, -⟩ := seq_eq_ok.mp h
    rw [rejectIf_eq_ok, not_or, not_or, Nat.not_lt, Nat.not_lt, Nat.not_lt] at hpieces
    exact ⟨hpieces.1, hpieces.2.1, hpieces.2.2⟩
  · intro hv
    have hpieces : ¬ (maxCurrencyPieces < c.copper ∨ maxCurrencyPieces < c.silver ∨ maxCurrencyPieces < c.gold) := by
      have h := hv.copper
      have h' := hv.silver
      have h'' := hv.gold
      omega
    unfold validate
    rw [rejectIf_of_not hpieces, ok_bind, hv.totalCopper]
    rfl

/-- **Every value up to the most that is held is that of some wallet**: gold first, then silver. -/
theorem exists_value_iff : (∃ c : Currency, c.Valid ∧ c.value = total) ↔ total ≤ mostHeld := by
  constructor
  · rintro ⟨c, hv, rfl⟩
    exact hv.value_le
  · intro hle
    unfold mostHeld maxCurrencyPieces at hle
    by_cases hgold : total / 100 ≤ 1000000
    · refine ⟨coins total, ⟨?_, ?_, hgold⟩, ?_⟩
      · show total % 10 ≤ 1000000
        omega
      · show total % 100 / 10 ≤ 1000000
        omega
      · show total / 100 * 100 + total % 100 / 10 * 10 + total % 10 = total
        omega
    · -- all the gold there may be, and as much silver as fits
      by_cases hsilver : (total - 100000000) / 10 ≤ 1000000
      · refine ⟨⟨(total - 100000000) % 10, (total - 100000000) / 10, 1000000⟩, ⟨?_, hsilver, Nat.le_refl _⟩, ?_⟩
        · show (total - 100000000) % 10 ≤ 1000000
          omega
        · show 1000000 * 100 + (total - 100000000) / 10 * 10 + (total - 100000000) % 10 = total
          omega
      · refine ⟨⟨total - 110000000, 1000000, 1000000⟩, ⟨?_, Nat.le_refl _, Nat.le_refl _⟩, ?_⟩
        · show total - 110000000 ≤ 1000000
          omega
        · show 1000000 * 100 + 1000000 * 10 + (total - 110000000) = total
          omega

theorem coins_value (total : Nat) : (coins total).value = total := by
  show total / 100 * 100 + total % 100 / 10 * 10 + total % 10 = total
  omega

theorem coins_valid : (coins total).Valid ↔ total ≤ mostCoined := by
  unfold mostCoined
  constructor
  · intro hv
    have hgold : total / 100 ≤ maxCurrencyPieces := hv.gold
    omega
  · intro hle
    unfold maxCurrencyPieces at hle
    refine ⟨?_, ?_, ?_⟩
    · show total % 10 ≤ 1000000
      omega
    · show total % 100 / 10 ≤ 1000000
      omega
    · show total / 100 ≤ 1000000
      omega

/-- **A value is re-coined up to the cap on gold**, and keeps its worth. -/
theorem fromTotalCopper_eq_ok :
    fromTotalCopper total = .ok c ↔ total ≤ mostCoined ∧ c = coins total := by
  unfold fromTotalCopper
  simp only [seq_eq_ok, rejectIf_eq_ok, validate_eq_ok, coins_valid, pure_eq, Except.ok.injEq, Nat.not_lt]
  constructor
  · rintro ⟨-, hle, rfl⟩
    exact ⟨hle, rfl⟩
  · rintro ⟨hle, rfl⟩
    refine ⟨?_, hle, rfl⟩
    unfold mostCoined maxCurrencyPieces at hle
    unfold maxPieces
    omega

/-! ## Paying in and out -/

section Paying

variable {w a w' : Currency}

theorem credit_eq_ok (hw : w.Valid) (ha : a.Valid) :
    w.credit a = .ok ((), w') ↔ w.value + a.value ≤ mostCoined ∧ w' = coins (w.value + a.value) := by
  have hheld := hw.value_le
  have hpaid := ha.value_le
  have hlt := mostHeld_lt
  have hfits : rejectIf (maxTotal < w.value + a.value) RulesMatrixError.arithmeticOverflow = .ok () :=
    rejectIf_of_not (by omega)
  unfold credit
  rw [leaving_of_eq_ok (validate_eq_ok.mpr hw), ok_bind, leaving_of_eq_ok (validate_eq_ok.mpr ha), ok_bind,
    leaving_of_eq_ok hw.totalCopper, ok_bind, leaving_of_eq_ok ha.totalCopper, ok_bind, leaving_of_eq_ok hfits, ok_bind]
  simp only [bind_eq_ok, leaving_eq_ok, fromTotalCopper_eq_ok, pure_eq, Except.ok.injEq, Prod.mk.injEq, true_and]
  constructor
  · rintro ⟨next, ⟨hle, rfl⟩, rfl⟩
    exact ⟨hle, rfl⟩
  · rintro ⟨hle, rfl⟩
    exact ⟨_, ⟨hle, rfl⟩, rfl⟩

theorem debit_eq_ok (hw : w.Valid) (ha : a.Valid) :
    w.debit a = .ok ((), w') ↔
      a.value ≤ w.value ∧ w.value - a.value ≤ mostCoined ∧ w' = coins (w.value - a.value) := by
  unfold debit
  rw [leaving_of_eq_ok (validate_eq_ok.mpr hw), ok_bind, leaving_of_eq_ok (validate_eq_ok.mpr ha), ok_bind,
    leaving_of_eq_ok hw.totalCopper, ok_bind, leaving_of_eq_ok ha.totalCopper, ok_bind]
  simp only [bind_eq_ok, leaving_eq_ok, exists_unit, rejectIf_eq_ok, fromTotalCopper_eq_ok, pure_eq, Except.ok.injEq,
    Prod.mk.injEq, true_and, Nat.not_lt]
  constructor
  · rintro ⟨hcovers, next, ⟨hle, rfl⟩, rfl⟩
    exact ⟨hcovers, hle, rfl⟩
  · rintro ⟨hcovers, hle, rfl⟩
    exact ⟨hcovers, _, ⟨hle, rfl⟩, rfl⟩

/-- A refused payment leaves the wallet as it was. -/
theorem credit_error {e : RulesMatrixError} (h : w.credit a = .error (e, w')) : w' = w := by
  have hleaves : LeavesOnError w (w.credit a) := by
    refine leavesOnError_bind fun _ => ?_
    refine leavesOnError_bind fun _ => ?_
    refine leavesOnError_bind fun held => ?_
    refine leavesOnError_bind fun paid => ?_
    refine leavesOnError_bind fun _ => ?_
    refine leavesOnError_bind fun next => ?_
    exact leavesOnError_ok
  exact hleaves _ h

theorem debit_error {e : RulesMatrixError} (h : w.debit a = .error (e, w')) : w' = w := by
  have hleaves : LeavesOnError w (w.debit a) := by
    refine leavesOnError_bind fun _ => ?_
    refine leavesOnError_bind fun _ => ?_
    refine leavesOnError_bind fun held => ?_
    refine leavesOnError_bind fun paid => ?_
    refine leavesOnError_bind fun _ => ?_
    refine leavesOnError_bind fun next => ?_
    exact leavesOnError_ok
  exact hleaves _ h

/-- An amount that is over the cap itself is neither paid in nor out. -/
theorem refused_of_not_valid (ha : ¬ a.Valid) :
    (∃ e, w.credit a = .error (e, w)) ∧ ∃ e, w.debit a = .error (e, w) := by
  have hamount : ∃ e, a.validate = .error e := by
    cases h : a.validate with
    | ok u => exact absurd (validate_eq_ok.mp h) ha
    | error e => exact ⟨e, rfl⟩
  obtain ⟨e, he⟩ := hamount
  unfold credit debit
  cases hw : w.validate with
  | error e' => exact ⟨⟨e', rfl⟩, ⟨e', rfl⟩⟩
  | ok u =>
    rw [he]
    exact ⟨⟨e, rfl⟩, ⟨e, rfl⟩⟩

end Paying

/-! ## The law of paying -/

/-- **What paying ought to do.** A wallet pays what it covers and takes what a wallet can hold, by exactly the
    amount; what it refuses leaves it alone, and an amount paid in can be paid out again. -/
structure Law (w a : Currency) : Prop where
  debits : (∃ w', w.debit a = .ok ((), w')) ↔ a.value ≤ w.value
  debited : ∀ w', w.debit a = .ok ((), w') → w'.value = w.value - a.value
  credits : (∃ w', w.credit a = .ok ((), w')) ↔ ∃ c : Currency, c.Valid ∧ c.value = w.value + a.value
  credited : ∀ w', w.credit a = .ok ((), w') → w'.value = w.value + a.value
  debit_refused : ∀ e w', w.debit a = .error (e, w') → w' = w
  credit_refused : ∀ e w', w.credit a = .error (e, w') → w' = w
  restores : ∀ w', w.credit a = .ok ((), w') → ∃ w'', w'.debit a = .ok ((), w'') ∧ w''.value = w.value

/-- What either payment would leave can be re-coined, wherever the payment is one that ought to be made. -/
structure Coinable (w a : Currency) : Prop where
  debit : a.value ≤ w.value → w.value - a.value ≤ mostCoined
  credit : w.value + a.value ≤ mostHeld → w.value + a.value ≤ mostCoined

/-- **A valid wallet keeps the law of paying exactly where what is left can be re-coined**, for every amount that is
    within the cap; and refuses every amount that is not, as it was. -/
theorem law_iff (w a : Currency) (hw : w.Valid) :
    (a.Valid → (w.Law a ↔ w.Coinable a)) ∧
      (¬ a.Valid → (∃ e, w.credit a = .error (e, w)) ∧ ∃ e, w.debit a = .error (e, w)) := by
  refine ⟨fun ha => ⟨fun law => ⟨fun hcovers => ?_, fun hheld => ?_⟩, fun hc => ?_⟩, refused_of_not_valid⟩
  · obtain ⟨w', h⟩ := law.debits.mpr hcovers
    exact ((debit_eq_ok hw ha).mp h).2.1
  · obtain ⟨w', h⟩ := law.credits.mpr (exists_value_iff.mpr hheld)
    exact ((credit_eq_ok hw ha).mp h).1
  · refine ⟨?debits, ?debited, ?credits, ?credited, fun e w' => debit_error, fun e w' => credit_error, ?restores⟩
    case debits =>
      constructor
      · rintro ⟨w', h⟩
        exact ((debit_eq_ok hw ha).mp h).1
      · intro hcovers
        exact ⟨_, (debit_eq_ok hw ha).mpr ⟨hcovers, hc.debit hcovers, rfl⟩⟩
    case debited =>
      intro w' h
      obtain ⟨-, -, rfl⟩ := (debit_eq_ok hw ha).mp h
      exact coins_value _
    case credits =>
      rw [exists_value_iff]
      constructor
      · rintro ⟨w', h⟩
        obtain ⟨hcoined, rfl⟩ := (credit_eq_ok hw ha).mp h
        have hvalid := (coins_valid.mpr hcoined).value_le
        rwa [coins_value] at hvalid
      · intro hheld
        exact ⟨_, (credit_eq_ok hw ha).mpr ⟨hc.credit hheld, rfl⟩⟩
    case credited =>
      intro w' h
      obtain ⟨-, rfl⟩ := (credit_eq_ok hw ha).mp h
      exact coins_value _
    case restores =>
      intro w' h
      obtain ⟨hcoined, rfl⟩ := (credit_eq_ok hw ha).mp h
      -- what was held before is less than what could be re-coined after
      refine ⟨coins w.value, (debit_eq_ok (coins_valid.mpr hcoined) ha).mpr ⟨?_, ?_, ?_⟩, coins_value _⟩
      · rw [coins_value]
        exact Nat.le_add_left _ _
      · rw [coins_value, Nat.add_sub_cancel]
        exact Nat.le_trans (Nat.le_add_right _ _) hcoined
      · rw [coins_value, Nat.add_sub_cancel]

/-- A purse of twelve gold pieces pays three. -/
theorem law_iff_purse :
    Currency.Law ⟨0, 0, 12⟩ ⟨0, 0, 3⟩ := by
  have hw : Valid ⟨0, 0, 12⟩ := ⟨by decide, by decide, by decide⟩
  have ha : Valid ⟨0, 0, 3⟩ := ⟨by decide, by decide, by decide⟩
  exact ((law_iff ⟨0, 0, 12⟩ ⟨0, 0, 3⟩ hw).1 ha).mpr ⟨fun _ => by decide, fun _ => by decide⟩

/-- **A wallet that is full of every coin is valid, and cannot pay out one copper piece.** -/
theorem full_wallet_stuck :
    let full : Currency := ⟨1000000, 1000000, 1000000⟩
    let copper : Currency := ⟨1, 0, 0⟩
    full.validate = .ok () ∧ copper.validate = .ok () ∧ copper.value ≤ full.value ∧
      full.debit copper = .error (.invalidState "currency exceeds the bounded MVP wallet", full) ∧
      ¬ full.Law copper := by
  intro full copper
  have hdebit : full.debit copper = .error (.invalidState "currency exceeds the bounded MVP wallet", full) := by
    decide +kernel
  refine ⟨by decide, by decide, by decide, hdebit, fun law => ?_⟩
  obtain ⟨w', h⟩ := law.debits.mpr (by decide)
  rw [hdebit] at h
  cases h

end Currency

end ManchesterArcana.Rules
