import ManchesterArcana.Core.Text
import Mathlib.Data.List.Basic

/-!
# `Core.Netstring` — texts one after the other, each behind its length

A netstring is the length of a text in digits, a mark, and the text. Where the digits end is seen from the mark, and
where the text ends from the digits; so netstrings can follow each other with nothing between them.
-/

namespace ManchesterArcana

section Netstring

variable {α : Type} {digits : Nat → List α} {mark : α}

def netstring (digits : Nat → List α) (mark : α) (text : List α) : List α := digits text.length ++ mark :: text

/-- What stands before the first mark is seen from the whole. -/
theorem append_mark_inj {before before' after after' : List α} (h : mark ∉ before) (h' : mark ∉ before')
    (heq : before ++ mark :: after = before' ++ mark :: after') : before = before' ∧ after = after' := by
  induction before generalizing before' with
  | nil =>
    cases before' with
    | nil => exact ⟨rfl, (List.cons.inj heq).2⟩
    | cons first _ =>
      obtain rfl : mark = first := (List.cons.inj heq).1
      exact absurd List.mem_cons_self h'
  | cons first before ih =>
    cases before' with
    | nil =>
      obtain rfl : first = mark := (List.cons.inj heq).1
      exact absurd List.mem_cons_self h
    | cons first' before' =>
      obtain ⟨rfl, hrest⟩ := List.cons.inj heq
      obtain ⟨rfl, rfl⟩ := ih (List.not_mem_of_not_mem_cons h) (List.not_mem_of_not_mem_cons h') hrest
      exact ⟨rfl, rfl⟩

/-- **A netstring ends where its length says**, whatever comes after it. -/
theorem netstring_append_inj (hdigits : Function.Injective digits) (hmark : ∀ n, mark ∉ digits n)
    {text text' rest rest' : List α} (h : netstring digits mark text ++ rest = netstring digits mark text' ++ rest') :
    text = text' ∧ rest = rest' := by
  unfold netstring at h
  rw [List.append_assoc, List.append_assoc, List.cons_append, List.cons_append] at h
  obtain ⟨hlength, h⟩ := append_mark_inj (hmark _) (hmark _) h
  exact List.append_inj h (hdigits hlength)

end Netstring

/-! ## The bytes of a text -/

def utf8 (s : String) : List UInt8 := s.toByteArray.data.toList

/-- `String::from_utf8`. -/
def fromUtf8 (bytes : List UInt8) : Option String := String.fromUTF8? ⟨bytes.toArray⟩

theorem fromUtf8_utf8 (s : String) : fromUtf8 (utf8 s) = some s := by
  unfold fromUtf8 utf8
  exact dif_pos s.isValidUTF8

theorem utf8_injective : Function.Injective utf8 := by
  intro s s' h
  have hdecoded := congrArg fromUtf8 h
  rw [fromUtf8_utf8, fromUtf8_utf8] at hdecoded
  exact Option.some.inj hdecoded

theorem utf8_append (s s' : String) : utf8 (s ++ s') = utf8 s ++ utf8 s' := by
  simp [utf8]

theorem mem_utf8 {s : String} {b : UInt8} : b ∈ utf8 s ↔ ∃ c ∈ s.toList, b ∈ String.utf8EncodeChar c := by
  unfold utf8
  rw [← String.utf8Encode_toList]
  simp [List.utf8Encode]

/-- A number is written in digits, which are no colon. -/
theorem colon_not_mem_utf8 (n : Nat) : (58 : UInt8) ∉ utf8 (toString n) := by
  rw [mem_utf8, Nat.toString_eq_repr, Nat.toList_repr]
  rintro ⟨c, hc, h⟩
  have hdigit := Nat.isDigit_of_mem_toDigits (by decide) (by decide) hc
  simp only [Char.isDigit, Bool.and_eq_true, decide_eq_true_eq, UInt32.le_iff_toNat_le] at hdigit
  have hle : c.val.toNat ≤ 57 := hdigit.2
  rw [String.utf8EncodeChar, if_pos (hle.trans (by decide)), List.mem_singleton] at h
  have hnat := congrArg UInt8.toNat h
  rw [UInt8.toNat_ofNat'] at hnat
  change 58 = c.val.toNat % 256 at hnat
  omega

end ManchesterArcana
