import ManchesterArcana.Core.Identifier
import Mathlib.Data.Nat.Digits.Defs
import Mathlib.Data.String.Basic

/-!
# `Core.Text` — bounded display text, put together from parts

Narrations are concatenations of literals, names and numbers. `IsText n` says that a text is not blank and
has at most `n` characters; it is kept by appending anything of bounded length on either side. A text of the plain
characters of identifiers is as long in bytes as in characters.
-/

namespace ManchesterArcana

theorem isBlank_append {a b : String} : isBlank (a ++ b) = (isBlank a && isBlank b) := by
  simp [isBlank]

/-- Displayable text of at most `n` characters. -/
structure IsText (n : Nat) (value : String) : Prop where
  visible : isBlank value = false
  length_le : value.length ≤ n

namespace IsText

variable {m n : Nat} {a b : String}

theorem mono (h : IsText m a) (hmn : m ≤ n) : IsText n a := ⟨h.visible, h.length_le.trans hmn⟩

theorem append (ha : IsText m a) (hb : b.length ≤ n) : IsText (m + n) (a ++ b) := by
  refine ⟨?_, ?_⟩
  · rw [isBlank_append, ha.visible, Bool.false_and]
  · rw [String.length_append]
    exact Nat.add_le_add ha.length_le hb

theorem prepend (hb : IsText n b) (ha : a.length ≤ m) : IsText (m + n) (a ++ b) := by
  refine ⟨?_, ?_⟩
  · rw [isBlank_append, hb.visible, Bool.and_false]
  · rw [String.length_append]
    exact Nat.add_le_add ha hb.length_le

end IsText

/-- A number below `10 ^ e` is written with at most `e` digits. -/
theorem length_toString_le {k e : Nat} (he : 0 < e) (hk : k < 10 ^ e) : (toString k).length ≤ e := by
  show (Nat.repr k).length ≤ e
  unfold Nat.repr
  rw [String.length_ofList]
  exact Nat.toDigits_length 10 k e he hk

theorem toString_nat_injective {m n : Nat} (h : toString m = toString n) : m = n := by
  rw [Nat.toString_eq_repr, Nat.toString_eq_repr] at h
  have hdigits := congrArg String.toList h
  rw [Nat.toList_repr, Nat.toList_repr] at hdigits
  rw [← @Nat.ofDigitChars_ten_toDigits m, hdigits, Nat.ofDigitChars_ten_toDigits]

/-! ## Plain characters -/

variable {value : String} {c : Char}

theorem utf8Size_of_isOpaqueIdChar (h : isOpaqueIdChar c = true) : c.utf8Size = 1 := by
  have hval : c.val ≤ 0x7f := by
    unfold isOpaqueIdChar Char.isAlphanum Char.isAlpha Char.isUpper Char.isLower Char.isDigit at h
    simp only [Bool.or_eq_true, Bool.and_eq_true, decide_eq_true_eq, beq_iff_eq] at h
    rcases h with (((((⟨-, h⟩ | ⟨-, h⟩) | ⟨-, h⟩) | rfl) | rfl) | rfl) | rfl
    · exact UInt32.le_trans h (by decide)
    · exact UInt32.le_trans h (by decide)
    · exact UInt32.le_trans h (by decide)
    all_goals decide
  exact if_pos hval

/-- A text of plain characters is as long in bytes as in characters. -/
theorem utf8ByteSize_eq_length (h : ∀ c ∈ value.toList, c.utf8Size = 1) :
    value.utf8ByteSize = value.length := by
  have hlength : ∀ cs : List Char, (∀ c ∈ cs, c.utf8Size = 1) → String.utf8Len cs = cs.length := by
    intro cs hcs
    induction cs with
    | nil => rfl
    | cons c cs ih =>
      rw [String.utf8Len_cons, hcs c List.mem_cons_self, ih fun c hc => hcs c (List.mem_cons_of_mem _ hc)]
      rfl
  rw [← String.ofList_toList (s := value), String.utf8ByteSize_ofList, hlength _ h, String.length_ofList]

theorem isValidOpaqueId_of_chars (hne : value ≠ "") (hlength : value.length ≤ maxOpaqueIdLen)
    (hchars : ∀ c ∈ value.toList, isOpaqueIdChar c = true) : isValidOpaqueId value = true := by
  refine isValidOpaqueId_iff.mpr ⟨hne, ?_, hchars⟩
  rw [utf8ByteSize_eq_length fun c hc => utf8Size_of_isOpaqueIdChar (hchars c hc)]
  exact hlength

theorem not_isWhiteSpace_of_isOpaqueIdChar (h : isOpaqueIdChar c = true) : isWhiteSpace c = false := by
  have hval : 45 ≤ c.toNat ∧ c.toNat ≤ 122 := by
    unfold isOpaqueIdChar Char.isAlphanum Char.isAlpha Char.isUpper Char.isLower Char.isDigit at h
    simp only [Bool.or_eq_true, Bool.and_eq_true, decide_eq_true_eq, beq_iff_eq, ge_iff_le, UInt32.le_iff_toNat_le] at h
    unfold Char.toNat
    rcases h with (((((⟨hge, hle⟩ | ⟨hge, hle⟩) | ⟨hge, hle⟩) | rfl) | rfl) | rfl) | rfl
    · exact ⟨(by decide : 45 ≤ _).trans hge, hle.trans (by decide)⟩
    · exact ⟨(by decide : 45 ≤ _).trans hge, hle.trans (by decide)⟩
    · exact ⟨(by decide : 45 ≤ _).trans hge, hle.trans (by decide)⟩
    all_goals decide
  unfold isWhiteSpace
  simp only [Bool.or_eq_false_iff, Bool.and_eq_false_iff, decide_eq_false_iff_not, beq_eq_false_iff_ne]
  omega

/-- An identifier can be seen. -/
theorem not_isBlank_of_isValidOpaqueId (h : isValidOpaqueId value = true) : isBlank value = false := by
  obtain ⟨hne, -, hchars⟩ := isValidOpaqueId_iff.mp h
  unfold isBlank
  cases hcs : value.toList with
  | nil => exact absurd (String.toList_eq_nil_iff.mp hcs) hne
  | cons c cs =>
    have hc : c ∈ value.toList := hcs ▸ List.mem_cons_self
    rw [List.all_cons, not_isWhiteSpace_of_isOpaqueIdChar (hchars c hc), Bool.false_and]

end ManchesterArcana
