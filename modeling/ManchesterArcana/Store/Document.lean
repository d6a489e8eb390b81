import Mathlib.Tactic.Common

/-!
# `Store.Document` — schemaless documents and the structs read from them

A document is a list of keyed values. A struct is read from it field by field: a missing or ill-typed field
refuses the document, an optional field may be missing or null, and a struct that denies unknown fields also
refuses a document with any key it does not declare (`onlyKeys`).
-/

namespace ManchesterArcana.Store

/-- The values a filter can compare against. Dates are milliseconds since the epoch. -/
inductive Scalar where
  | string (s : String)
  | integer (n : Int)
  | boolean (b : Bool)
  | dateTime (ms : Int)
  | null
  deriving DecidableEq, Repr

inductive Bson where
  | scalar (x : Scalar)
  | document (fields : List (String × Bson))
  | array (values : List Bson)

abbrev Document := List (String × Bson)

namespace Bson

def string (s : String) : Bson := .scalar (.string s)

def integer (n : Int) : Bson := .scalar (.integer n)

def boolean (b : Bool) : Bson := .scalar (.boolean b)

def dateTime (ms : Int) : Bson := .scalar (.dateTime ms)

def isScalar (p : Scalar → Bool) : Bson → Bool
  | .scalar x => p x
  | _ => false

end Bson

namespace Document

variable (d : Document)

def get (key : String) : Option Bson := d.lookup key

def getStr (key : String) : Option String :=
  match get d key with
  | some (.scalar (.string s)) => some s
  | _ => none

def getInt (key : String) : Option Int :=
  match get d key with
  | some (.scalar (.integer n)) => some n
  | _ => none

def getBool (key : String) : Option Bool :=
  match get d key with
  | some (.scalar (.boolean b)) => some b
  | _ => none

def getDateTime (key : String) : Option Int :=
  match get d key with
  | some (.scalar (.dateTime ms)) => some ms
  | _ => none

def getDocument (key : String) : Option Document :=
  match get d key with
  | some (.document fields) => some fields
  | _ => none

/-- An optional string field: missing and null are both absent. -/
def getOptionalStr (key : String) : Option (Option String) :=
  match get d key with
  | none => some none
  | some (.scalar .null) => some none
  | some (.scalar (.string s)) => some (some s)
  | some _ => none

/-- An optional date field. -/
def getOptionalDateTime (key : String) : Option (Option Int) :=
  match get d key with
  | none => some none
  | some (.scalar .null) => some none
  | some (.scalar (.dateTime ms)) => some (some ms)
  | some _ => none

/-- `deny_unknown_fields`: refuse a document with a key outside `keys`. -/
def onlyKeys (keys : List String) : Option Unit :=
  if d.all (fun field => keys.contains field.1) then some () else none

variable {d}

theorem onlyKeys_eq_some {keys : List String} {u : Unit} :
    onlyKeys d keys = some u ↔ ∀ field ∈ d, field.1 ∈ keys := by
  unfold onlyKeys
  simp

/-- **One unknown key is enough to be refused.** -/
theorem onlyKeys_eq_none {keys : List String} {field : String × Bson} (hmem : field ∈ d)
    (hkey : field.1 ∉ keys) : onlyKeys d keys = none := by
  rw [Option.eq_none_iff_forall_not_mem]
  intro u hu
  exact hkey (onlyKeys_eq_some.mp hu field hmem)

end Document

end ManchesterArcana.Store
