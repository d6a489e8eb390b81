import Mathlib.Tactic.Common

/-!
# `Core.Identifier` — opaque identifiers and display text

Identifiers are short ASCII strings over letters, digits and `- _ : .`; display text is free but must not be
blank. Both predicates are decided on the characters of the string, so the fixed identifiers of the authored
content are checked by computation.
-/

namespace ManchesterArcana

/-- Maximum length in bytes shared by all opaque identifiers. -/
def maxOpaqueIdLen : Nat := 128

/-- The bytes an identifier may contain. A non-ASCII character is encoded with bytes of 128 and above, none
    of which qualifies, so the byte test of the source is a test on characters. -/
def isOpaqueIdChar (c : Char) : Bool :=
  c.isAlphanum || c == '-' || c == '_' || c == ':' || c == '.'

def isValidOpaqueId (value : String) : Bool :=
  value != "" && decide (value.utf8ByteSize ≤ maxOpaqueIdLen) && value.toList.all isOpaqueIdChar

/-- The Unicode `White_Space` characters, which `trim` removes. -/
def isWhiteSpace (c : Char) : Bool :=
  let n := c.toNat
  (9 ≤ n && n ≤ 13) || n == 0x20 || n == 0x85 || n == 0xA0 || n == 0x1680 ||
    (0x2000 ≤ n && n ≤ 0x200A) || n == 0x2028 || n == 0x2029 || n == 0x202F || n == 0x205F || n == 0x3000

/-- `value.trim().is_empty()`: nothing is left once both ends are trimmed. -/
def isBlank (value : String) : Bool :=
  value.toList.all isWhiteSpace

theorem isValidOpaqueId_iff {value : String} :
    isValidOpaqueId value = true ↔
      value ≠ "" ∧ value.utf8ByteSize ≤ maxOpaqueIdLen ∧ ∀ c ∈ value.toList, isOpaqueIdChar c = true := by
  simp [isValidOpaqueId, and_assoc]

end ManchesterArcana
