import Mathlib.Tactic.Common

/-!
# `Store.Paging` — following pages behind an exclusive cursor

A fetch answers with one page and, while more is stored, the cursor behind which the next one begins.
`Followed` is what a reader gets who follows the cursors until none is left.
-/

namespace ManchesterArcana.Store

variable {ε α : Type}

/-- Fetching from `after` on, page by page until no cursor is left, yields `items`. -/
inductive Followed (fetch : Nat → Except ε (List α × Option Nat)) : Nat → List α → Prop where
  | last {after : Nat} {items : List α} : fetch after = .ok (items, none) → Followed fetch after items
  | next {after cursor : Nat} {items rest : List α} :
      fetch after = .ok (items, some cursor) → Followed fetch cursor rest →
      Followed fetch after (items ++ rest)

end ManchesterArcana.Store
