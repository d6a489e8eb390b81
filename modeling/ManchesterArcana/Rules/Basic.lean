import ManchesterArcana.Core.Dice
import ManchesterArcana.Hero.Vocabulary

/-!
# `Rules.Basic` — errors of the rules matrix and the shape of its mutating functions

A rules function takes some of its arguments by mutable reference. It is embedded as a function that returns
its result together with the new values of those arguments; on failure the error comes with the values the
arguments had *at the point of failure*. A function that fails before it writes leaves its arguments, one
that fails after a write does not, and both are visible in the model.
-/

namespace ManchesterArcana.Rules

open Effect

def rulesMatrixSchemaVersion : Nat := 1

inductive RulesMatrixError where
  | invalidState (reason : String)
  | invalidIntent (reason : String)
  | arithmeticOverflow
  | unsupported (mechanic : UnsupportedMechanic)
  | core (e : GameCoreError)
  deriving DecidableEq

abbrev RulesMatrixResult (α : Type) := Except RulesMatrixError α

/-- Failures of a function with a mutable argument `σ`: the error, and the argument at the point of failure.
    Such a function returns `Mutating σ (α × σ)`, its result with the argument's new value. -/
abbrev Mutating (σ : Type) := Except (RulesMatrixError × σ)

/-- A check made while the mutable argument holds `s`. -/
def leaving {σ α : Type} (s : σ) (x : RulesMatrixResult α) : Mutating σ α :=
  x.mapError (·, s)

variable {σ α : Type}

@[simp] theorem leaving_eq_ok {s : σ} {x : RulesMatrixResult α} {a : α} :
    leaving s x = .ok a ↔ x = .ok a :=
  mapError_eq_ok

@[simp] theorem leaving_ok {s : σ} {a : α} :
    leaving s (.ok a : RulesMatrixResult α) = .ok a := rfl

theorem leaving_of_eq_ok {s : σ} {x : RulesMatrixResult α} {a : α} (h : x = .ok a) :
    leaving s x = .ok a := by
  rw [h]; rfl

/-- The structured failure for a mechanic outside the matrix; unknown mechanics never fall through. -/
def unsupportedMechanic (requestedId : String) : RulesMatrixError :=
  .unsupported
    { schemaVersion := heroUnsupportedSchemaVersion
      code := .outsideMvpMatrix
      requestedId := if isValidOpaqueId requestedId then requestedId else "invalid-requested-id"
      alternatives :=
        [ ⟨.attack, "Make a supported weapon attack"⟩
        , ⟨.search, "Search the current scene"⟩
        , ⟨.useObject, "Use a supported carried object"⟩ ] }

def requireId (value reason : String) : RulesMatrixResult Unit :=
  rejectIf (isValidOpaqueId value = false) (.invalidIntent reason)

end ManchesterArcana.Rules
