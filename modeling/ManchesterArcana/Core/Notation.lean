import ManchesterArcana.Core.Roll
import ManchesterArcana.Core.Text
import Mathlib.Algebra.Order.Group.Nat
import Mathlib.Data.List.TakeWhile

/-!
# `Core.Notation` — dice notation, written and read

An expression is written as `NdS`, with its constant behind it when there is one (`DiceExpression.display`), and
read back by `DiceExpression.parse`. `DiceNotation` is the grammar: digits, a `d`, digits, and perhaps a sign with
digits. The parser accepts exactly its texts of at most 64 characters whose numbers are in bounds
(`DiceExpression.parse_eq_ok`); what is displayed is one of them.
-/

namespace ManchesterArcana

open Effect

/-- `Display`. A constant of zero is not written. -/
def DiceExpression.display (e : DiceExpression) : String :=
  toString e.count ++ "d" ++ toString e.sides ++
    if 0 < e.constant then "+" ++ toString e.constant.natAbs
    else if e.constant < 0 then "-" ++ toString e.constant.natAbs
    else ""

/-- What `DiceExpression::new` and the parser let through. -/
def DiceExpression.Valid (e : DiceExpression) : Prop :=
  validateExpressionParts e.count e.sides e.constant = .ok ()

/-! ## Grammar -/

/-- A number as it may be written, leading zeros allowed. -/
structure Digits (digits : List Char) (value : Nat) : Prop where
  nonempty : digits ≠ []
  digit : ∀ c ∈ digits, c.isDigit = true
  value : Nat.ofDigitChars 10 digits 0 = value

/-- `digits 'd' digits`, perhaps with a sign and digits behind; and the numbers these are. -/
inductive DiceNotation : List Char → Nat → Nat → Int → Prop where
  | plain {count sides : List Char} {n s : Nat} (hcount : Digits count n) (hsides : Digits sides s) :
    DiceNotation (count ++ 'd' :: sides) n s 0
  | plus {count sides modifier : List Char} {n s m : Nat} (hcount : Digits count n) (hsides : Digits sides s)
    (hmodifier : Digits modifier m) : DiceNotation (count ++ 'd' :: (sides ++ '+' :: modifier)) n s m
  | minus {count sides modifier : List Char} {n s m : Nat} (hcount : Digits count n) (hsides : Digits sides s)
    (hmodifier : Digits modifier m) : DiceNotation (count ++ 'd' :: (sides ++ '-' :: modifier)) n s (-m)

/-- The bounds on the numbers of an expression. The least total is never too low. -/
structure DiceBounds (n s : Nat) (c : Int) : Prop where
  count : InRange maxDiceCount n
  sides : InRange maxDieSides s
  constant : c.natAbs ≤ maxDiceConstantAbs
  total : n * s + c ≤ maxRollAbsoluteTotal

theorem validateExpressionParts_eq_ok {count sides : Nat} {constant : Int} :
    validateExpressionParts count sides constant = .ok () ↔ DiceBounds count sides constant := by
  simp only [validateExpressionParts, seq_eq_ok, rejectIf_eq_ok, not_not, not_lt, not_or]
  constructor
  · rintro ⟨hcount, hsides, hconstant, -, htotal⟩
    exact ⟨hcount, hsides, hconstant, htotal⟩
  · intro h
    refine ⟨h.count, h.sides, h.constant, ?_, h.total⟩
    have hc := h.constant
    unfold maxDiceConstantAbs at hc
    unfold maxRollAbsoluteTotal
    omega

/-! ## Numbers -/

theorem le_ofDigitChars (digits : List Char) (value : Nat) : value ≤ Nat.ofDigitChars 10 digits value := by
  rw [Nat.ofDigitChars_eq_ofDigitChars_zero]
  have hpos : 1 ≤ 10 ^ digits.length := Nat.one_le_pow _ _ (by decide)
  calc value = 1 * value := (Nat.one_mul _).symm
    _ ≤ 10 ^ digits.length * value := Nat.mul_le_mul_right _ hpos
    _ ≤ _ := Nat.le_add_right _ _

variable {n : Nat} {digits : List Char} {m : Int} {e : DiceExpression}

/-- A number that is read digit by digit overflows along the way only if it does in the end. -/
theorem parseAsciiU64_eq_ok :
    parseAsciiU64 digits = .ok n ↔ Digits digits n ∧ n ≤ maxCursor := by
  have hfold : ∀ (digits : List Char) (value : Nat), value ≤ maxCursor →
      ((digits.foldlM (m := Except RollError) (fun value c => do
          rejectIf (maxCursor < value * 10 + (c.toNat - 48)) .expressionArithmeticOverflow
          return value * 10 + (c.toNat - 48)) value) = .ok n ↔
        Nat.ofDigitChars 10 digits value = n ∧ n ≤ maxCursor) := by
    intro digits
    induction digits with
    | nil =>
      intro value hvalue
      rw [List.foldlM_nil, Nat.ofDigitChars_nil, pure_eq, Except.ok.injEq]
      exact ⟨fun h => ⟨h, h ▸ hvalue⟩, fun h => h.1⟩
    | cons c digits ih =>
      intro value _
      rw [List.foldlM_cons, Nat.ofDigitChars_cons, Nat.mul_comm 10 value]
      show _ ↔ Nat.ofDigitChars 10 digits (value * 10 + (c.toNat - 48)) = n ∧ _
      simp only [bind_eq_ok, exists_unit, rejectIf_eq_ok, pure_eq, Except.ok.injEq, not_lt, exists_eq_left', and_assoc,
        exists_and_left]
      constructor
      · rintro ⟨hle, hrest⟩
        exact (ih _ hle).mp hrest
      · rintro ⟨hvalue, hn⟩
        have hle : value * 10 + (c.toNat - 48) ≤ maxCursor := (le_ofDigitChars digits _).trans (hvalue.trans_le hn)
        exact ⟨hle, (ih _ hle).mpr ⟨hvalue, hn⟩⟩
  unfold parseAsciiU64
  rw [seq_eq_ok, rejectIf_eq_ok, hfold digits 0 (Nat.zero_le _)]
  simp only [not_or, Bool.not_eq_true, List.any_eq_false, Bool.not_eq_eq_eq_not, Bool.not_true, Bool.not_eq_false]
  constructor
  · rintro ⟨⟨hne, hdigit⟩, hvalue, hn⟩
    exact ⟨⟨hne, hdigit, hvalue⟩, hn⟩
  · rintro ⟨⟨hne, hdigit, hvalue⟩, hn⟩
    exact ⟨⟨hne, hdigit⟩, hvalue, hn⟩

/-- How a number is displayed. -/
theorem digits_repr (n : Nat) : Digits n.repr.toList n := by
  rw [Nat.toList_repr]
  exact ⟨Nat.toDigits_ne_nil, fun c => Nat.isDigit_of_mem_toDigits (by decide) (by decide),
    Nat.ofDigitChars_ten_toDigits⟩

/-! ## Splitting -/

variable {α : Type} {s : Nat} {value : String}

theorem takeWhile_append_of_stop {p : α → Bool} {as bs : List α} {x : α} (has : ∀ a ∈ as, p a = true)
    (hx : p x = false) : (as ++ x :: bs).takeWhile p = as ∧ (as ++ x :: bs).dropWhile p = x :: bs := by
  rw [List.takeWhile_append_of_pos has, List.dropWhile_append_of_pos has]
  simp [hx]

/-- A list is of one kind throughout, or there is a first place where it is not. -/
theorem takeWhile_cases (p : α → Bool) (l : List α) :
    (l.takeWhile p = l ∧ l.dropWhile p = [] ∧ ∀ a ∈ l, p a = true) ∨
      ∃ x bs, l.dropWhile p = x :: bs ∧ l = l.takeWhile p ++ x :: bs ∧ p x = false := by
  induction l with
  | nil => exact .inl ⟨rfl, rfl, fun _ h => absurd h List.not_mem_nil⟩
  | cons a l ih =>
    by_cases ha : p a = true
    · rcases ih with ⟨htake, hdrop, hall⟩ | ⟨x, bs, hdrop, hl, hx⟩
      · refine .inl ⟨?_, ?_, List.forall_mem_cons.mpr ⟨ha, hall⟩⟩
        · rw [List.takeWhile_cons_of_pos ha, htake]
        · rw [List.dropWhile_cons_of_pos ha, hdrop]
      · refine .inr ⟨x, bs, ?_, ?_, hx⟩
        · rw [List.dropWhile_cons_of_pos ha, hdrop]
        · rw [List.takeWhile_cons_of_pos ha, List.cons_append, ← hl]
    · refine .inr ⟨a, l, List.dropWhile_cons_of_neg ha, ?_, Bool.eq_false_iff.mpr ha⟩
      rw [List.takeWhile_cons_of_neg ha]
      rfl

theorem Digits.not_d (h : Digits digits n) : ∀ c ∈ digits, (c != 'd') = true := by
  intro c hc
  have hdigit := h.digit c hc
  rw [bne_iff_ne]
  rintro rfl
  cases hdigit

theorem Digits.not_sign (h : Digits digits n) : ∀ c ∈ digits, (!isSign c) = true := by
  intro c hc
  have hdigit := h.digit c hc
  rw [Bool.not_eq_true', Bool.eq_false_iff]
  intro hsign
  rcases Bool.or_eq_true_iff.mp hsign with hsign | hsign <;> rw [beq_iff_eq.mp hsign] at hdigit <;> cases hdigit

theorem Digits.ascii (h : Digits digits n) : ∀ c ∈ digits, c.toNat < 128 := by
  intro c hc
  exact (Char.isDigit_iff_toNat.mp (h.digit c hc)).2.trans_lt (by decide)

/-! ## The parser and the grammar -/

/-- The constant behind the sides. -/
theorem parseConstant_eq_ok {sides signed : List Char} :
    parseConstant sides signed = .ok m ↔
      (signed = [] ∧ m = 0) ∨ ∃ sign digits, signed = sign :: digits ∧ sides ≠ [] ∧
        ∃ n : Nat, Digits digits n ∧ n ≤ maxI64 ∧ m = if sign = '-' then -(n : Int) else n := by
  cases signed with
  | nil => simp [parseConstant, eq_comm]
  | cons sign digits =>
    simp only [parseConstant, bind_eq_ok, exists_unit, rejectIf_eq_ok, parseAsciiU64_eq_ok, pure_eq, Except.ok.injEq,
      not_or, not_lt, List.cons_ne_nil, false_and, false_or, List.cons.injEq]
    constructor
    · rintro ⟨⟨hsides, -⟩, n, ⟨hdigits, -⟩, hn, rfl⟩
      exact ⟨sign, digits, ⟨rfl, rfl⟩, hsides, n, hdigits, hn, rfl⟩
    · rintro ⟨_, _, ⟨rfl, rfl⟩, hsides, n, hdigits, hn, rfl⟩
      exact ⟨⟨hsides, hdigits.nonempty⟩, n, ⟨hdigits, hn.trans (by decide)⟩, hn, rfl⟩

theorem DiceNotation.ascii {cs : List Char} (h : DiceNotation cs n s m) :
    ∀ c ∈ cs, c.toNat < 128 := by
  have hd : 'd'.toNat < 128 := by decide
  cases h with
  | plain hcount hsides =>
    exact List.forall_mem_append.mpr ⟨hcount.ascii, List.forall_mem_cons.mpr ⟨hd, hsides.ascii⟩⟩
  | plus hcount hsides hmodifier =>
    exact List.forall_mem_append.mpr ⟨hcount.ascii, List.forall_mem_cons.mpr ⟨hd, List.forall_mem_append.mpr
      ⟨hsides.ascii, List.forall_mem_cons.mpr ⟨by decide, hmodifier.ascii⟩⟩⟩⟩
  | minus hcount hsides hmodifier =>
    exact List.forall_mem_append.mpr ⟨hcount.ascii, List.forall_mem_cons.mpr ⟨hd, List.forall_mem_append.mpr
      ⟨hsides.ascii, List.forall_mem_cons.mpr ⟨by decide, hmodifier.ascii⟩⟩⟩⟩

/-- The parser, once the text is split at its `d`. -/
theorem DiceExpression.parse_of_split {count tail : List Char}
    (hvalue : value.toList = count ++ 'd' :: tail) (hascii : ∀ c ∈ value.toList, c.toNat < 128)
    (hlength : value.length ≤ maxDiceExpressionLen) (hcount : Digits count n) (htail : tail ≠ [])
    (hsides : Digits (tail.takeWhile (!isSign ·)) s)
    (hconstant : parseConstant (tail.takeWhile (!isSign ·)) (tail.dropWhile (!isSign ·)) = .ok m)
    (hbounds : DiceBounds n s m) : DiceExpression.parse value = .ok ⟨n, s, m⟩ := by
  obtain ⟨htake, hdrop⟩ := takeWhile_append_of_stop hcount.not_d (show ('d' != 'd') = false from rfl)
  have hn : n ≤ maxCursor := hbounds.count.2.trans (by decide)
  have hs : s ≤ maxCursor := hbounds.sides.2.trans (by decide)
  unfold DiceExpression.parse
  simp only [bind_eq_ok, exists_unit, rejectIf_eq_ok, pure_eq, parseAsciiU64_eq_ok, validateExpressionParts_eq_ok]
  rw [hvalue] at hascii ⊢
  rw [htake, hdrop]
  refine ⟨?_, ?_, ?_, m, hconstant, n, ⟨hcount, hn⟩, s, ⟨hsides, hs⟩, hbounds, rfl⟩
  · intro hany
    obtain ⟨c, hc, hge⟩ := List.any_eq_true.mp hany
    exact absurd (hascii c hc) (not_lt.mpr (of_decide_eq_true hge))
  · rw [← hvalue, String.length_toList]
    exact not_lt.mpr hlength
  · have hnot : (count ++ 'd' :: tail).all (· != 'd') ≠ true := by simp
    simp [hnot, hcount.nonempty, htail]

/-- **The parser accepts the texts of the grammar** that are short enough and whose numbers are in bounds. -/
theorem DiceExpression.parse_eq_ok :
    DiceExpression.parse value = .ok e ↔ value.length ≤ maxDiceExpressionLen ∧
      DiceNotation value.toList e.count e.sides e.constant ∧ DiceBounds e.count e.sides e.constant := by
  constructor
  · intro h
    unfold DiceExpression.parse at h
    simp only [bind_eq_ok, exists_unit, rejectIf_eq_ok, pure_eq, parseAsciiU64_eq_ok, validateExpressionParts_eq_ok,
      Except.ok.injEq, not_or, not_lt] at h
    obtain ⟨-, hlength, ⟨hd, -, -⟩, m, hconstant, n, ⟨hcount, -⟩, s, ⟨hsides, -⟩, hbounds, rfl⟩ := h
    refine ⟨hlength, ?_, hbounds⟩
    rcases takeWhile_cases (· != 'd') value.toList with ⟨-, -, hall⟩ | ⟨x, tail, hdrop, hsplit, hx⟩
    · exact absurd (List.all_eq_true.mpr hall) hd
    obtain rfl : x = 'd' := by simpa using hx
    rw [hdrop, List.drop_one, List.tail_cons] at hconstant hsides
    rw [hsplit]
    rcases takeWhile_cases (!isSign ·) tail with ⟨htake, hnil, -⟩ | ⟨sign, digits, hdrop', hsplit', hsign⟩
    · rw [hnil, parseConstant_eq_ok] at hconstant
      rw [htake] at hsides
      rcases hconstant with ⟨-, rfl⟩ | ⟨_, _, hcons, _⟩
      · exact .plain hcount hsides
      · cases hcons
    · rw [hdrop', parseConstant_eq_ok] at hconstant
      rcases hconstant with ⟨hcons, -⟩ | ⟨_, _, hcons, -, k, hk, -, rfl⟩
      · cases hcons
      obtain ⟨rfl, rfl⟩ := List.cons.inj hcons
      rw [hsplit']
      rw [Bool.not_eq_false'] at hsign
      rcases Bool.or_eq_true_iff.mp hsign with hsign | hsign
      · obtain rfl := beq_iff_eq.mp hsign
        exact .plus hcount hsides hk
      · obtain rfl := beq_iff_eq.mp hsign
        exact .minus hcount hsides hk
  · rintro ⟨hlength, hnotation, hbounds⟩
    obtain ⟨n, s, m⟩ := e
    have hascii := hnotation.ascii
    have hconstant : m.natAbs ≤ maxI64 := hbounds.constant.trans (by decide)
    generalize hvalue : value.toList = cs at hnotation hascii
    cases hnotation with
    | plain hcount hsides =>
      have htake := List.takeWhile_eq_self_iff.mpr hsides.not_sign
      have hdrop := List.dropWhile_eq_nil_iff.mpr hsides.not_sign
      refine parse_of_split hvalue (hvalue ▸ hascii) hlength hcount hsides.nonempty ?_ ?_ hbounds
      · rw [htake]
        exact hsides
      · rw [hdrop]
        rfl
    | plus hcount hsides hmodifier =>
      obtain ⟨htake, hdrop⟩ := takeWhile_append_of_stop hsides.not_sign (show (!isSign '+') = false from rfl)
      refine parse_of_split hvalue (hvalue ▸ hascii) hlength hcount (by simp) ?_ ?_ hbounds
      · rw [htake]
        exact hsides
      · rw [htake, hdrop, parseConstant_eq_ok]
        exact .inr ⟨_, _, rfl, hsides.nonempty, _, hmodifier, hconstant, rfl⟩
    | @minus _ _ _ _ _ k hcount hsides hmodifier =>
      have hk : k ≤ maxI64 := by
        rw [← Int.natAbs_natCast k, ← Int.natAbs_neg]
        exact hconstant
      obtain ⟨htake, hdrop⟩ := takeWhile_append_of_stop hsides.not_sign (show (!isSign '-') = false from rfl)
      refine parse_of_split hvalue (hvalue ▸ hascii) hlength hcount (by simp) ?_ ?_ hbounds
      · rw [htake]
        exact hsides
      · rw [htake, hdrop, parseConstant_eq_ok]
        exact .inr ⟨_, _, rfl, hsides.nonempty, _, hmodifier, hk, rfl⟩

/-! ## Display -/

/-- What is displayed is a text of the grammar. -/
theorem DiceExpression.display_notation (e : DiceExpression) :
    DiceNotation e.display.toList e.count e.sides e.constant := by
  unfold DiceExpression.display
  simp only [String.toList_append, Nat.toString_eq_repr, List.append_assoc]
  split
  · have hc : e.constant = (e.constant.natAbs : Int) := by omega
    have h := DiceNotation.plus (digits_repr e.count) (digits_repr e.sides) (digits_repr e.constant.natAbs)
    rw [← hc] at h
    simpa using h
  · split
    · have hc : e.constant = -(e.constant.natAbs : Int) := by omega
      have h := DiceNotation.minus (digits_repr e.count) (digits_repr e.sides) (digits_repr e.constant.natAbs)
      rw [← hc] at h
      simpa using h
    · have hc : e.constant = 0 := by omega
      rw [hc]
      simpa using DiceNotation.plain (digits_repr e.count) (digits_repr e.sides)

theorem DiceExpression.length_display_le (h : DiceBounds e.count e.sides e.constant) :
    e.display.length ≤ maxDiceExpressionLen := by
  have hcount : (toString e.count).length ≤ 3 :=
    length_toString_le (by decide) (h.count.2.trans_lt (by decide))
  have hsides : (toString e.sides).length ≤ 5 :=
    length_toString_le (by decide) (h.sides.2.trans_lt (by decide))
  have hconstant : (toString e.constant.natAbs).length ≤ 6 :=
    length_toString_le (by decide) (h.constant.trans_lt (by decide))
  have hplus : "+".length = 1 := rfl
  have hminus : "-".length = 1 := rfl
  have hd : "d".length = 1 := rfl
  have hempty : "".length = 0 := rfl
  unfold DiceExpression.display maxDiceExpressionLen
  split
  · simp only [String.length_append]
    omega
  · split
    · simp only [String.length_append]
      omega
    · simp only [String.length_append]
      omega

/-- **Notation round-trips.** -/
theorem DiceExpression.parse_display (h : DiceBounds e.count e.sides e.constant) :
    DiceExpression.parse e.display = .ok e :=
  DiceExpression.parse_eq_ok.mpr ⟨DiceExpression.length_display_le h, e.display_notation, h⟩

/-- **Dice notation.** A valid expression is read back from its display. A text is accepted exactly if it has at most
    64 characters, is of the grammar, and names numbers within the bounds, that on the highest total included. What a
    text is read as, it is read as again from its display. -/
theorem dice_notation :
    (∀ e : DiceExpression, e.Valid → DiceExpression.parse e.display = .ok e) ∧
      (∀ value : String, (∃ e, DiceExpression.parse value = .ok e) ↔
        value.length ≤ maxDiceExpressionLen ∧
          ∃ count sides constant, DiceNotation value.toList count sides constant ∧
            InRange maxDiceCount count ∧ InRange maxDieSides sides ∧ constant.natAbs ≤ maxDiceConstantAbs ∧
            count * sides + constant ≤ maxRollAbsoluteTotal) ∧
      ∀ value e, DiceExpression.parse value = .ok e → DiceExpression.parse e.display = .ok e := by
  refine ⟨fun e he => ?_, fun value => ⟨?_, ?_⟩, fun value e h => ?_⟩
  · exact DiceExpression.parse_display (validateExpressionParts_eq_ok.mp he)
  · rintro ⟨e, h⟩
    obtain ⟨hlength, hnotation, hbounds⟩ := DiceExpression.parse_eq_ok.mp h
    exact ⟨hlength, _, _, _, hnotation, hbounds.count, hbounds.sides, hbounds.constant, hbounds.total⟩
  · rintro ⟨hlength, count, sides, constant, hnotation, hcount, hsides, hconstant, htotal⟩
    exact ⟨⟨count, sides, constant⟩,
      DiceExpression.parse_eq_ok.mpr ⟨hlength, hnotation, hcount, hsides, hconstant, htotal⟩⟩
  · exact DiceExpression.parse_display (DiceExpression.parse_eq_ok.mp h).2.2

theorem Digits.of_all (hne : digits ≠ []) (hall : digits.all Char.isDigit = true)
    (hvalue : Nat.ofDigitChars 10 digits 0 = n) : Digits digits n :=
  ⟨hne, List.all_eq_true.mp hall, hvalue⟩

/-- Leading zeros do not matter. -/
theorem Digits.padded (h : Digits digits n) (zeros : Nat) :
    Digits (List.replicate zeros '0' ++ digits) n where
  nonempty := List.append_ne_nil_of_right_ne_nil _ h.nonempty
  digit := by
    refine List.forall_mem_append.mpr ⟨fun c hc => ?_, h.digit⟩
    rw [List.eq_of_mem_replicate hc]
    rfl
  value := by
    rw [Nat.ofDigitChars_append, Nat.ofDigitChars_replicate_zero, Nat.mul_zero]
    exact h.value

/-- `1d6`, with 62 zeros in front. -/
def paddedNotation : String := String.ofList (List.replicate 62 '0' ++ ['1', 'd', '6'])

/-- Two texts of the grammar that are turned down, though each of their numbers is in bounds: one is too long, the
    other may total 1,000,001. -/
theorem notation_refused :
    (DiceNotation paddedNotation.toList 1 6 0 ∧ ¬ ∃ e, DiceExpression.parse paddedNotation = .ok e) ∧
      DiceNotation "100d10000+1".toList 100 10000 1 ∧ ¬ ∃ e, DiceExpression.parse "100d10000+1" = .ok e := by
  refine ⟨⟨?_, ?_⟩, ?_, ?_⟩
  · have hcount : Digits ['1'] 1 := .of_all (by decide) (by decide) (by decide)
    have hsides : Digits ['6'] 6 := .of_all (by decide) (by decide) (by decide)
    have h := DiceNotation.plain (hcount.padded 62) hsides
    rw [List.append_assoc, List.singleton_append] at h
    unfold paddedNotation
    exact String.toList_ofList ▸ h
  · rintro ⟨e, h⟩
    have hlength := (DiceExpression.parse_eq_ok.mp h).1
    unfold paddedNotation at hlength
    rw [String.length_ofList, List.length_append, List.length_replicate] at hlength
    exact absurd hlength (by decide)
  · have hcount : Digits ['1', '0', '0'] 100 := .of_all (by decide) (by decide) (by decide)
    have hsides : Digits ['1', '0', '0', '0', '0'] 10000 := .of_all (by decide) (by decide) (by decide)
    have hmodifier : Digits ['1'] 1 := .of_all (by decide) (by decide) (by decide)
    exact .plus hcount hsides hmodifier
  · have hrefused : DiceExpression.parse "100d10000+1" = .error (.rollTotalOutOfRange maxRollAbsoluteTotal) := by
      decide
    rintro ⟨e, h⟩
    rw [hrefused] at h
    cases h

end ManchesterArcana
