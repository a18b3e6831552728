namespace CommitPolicy

/-- Floats and dates are recognized, but only their kind is kept. -/
inductive Toml.Value where
  | bool (b : Bool)
  | integer (n : Int)
  | float
  | string (s : String)
  /-- A date, a time of day, or both. -/
  | moment
  | array (items : List Toml.Value)
  | table (fields : List (String × Toml.Value))
deriving Repr, Inhabited

namespace Toml.Value

def text? : Value → Option String
  | .string s => some s
  | _ => none

def bool? : Value → Option Bool
  | .bool b => some b
  | _ => none

def natUpTo? (most : Nat) : Value → Option Nat
  | .integer n => if 0 ≤ n ∧ n ≤ most then some n.toNat else none
  | _ => none

def texts? : Value → Option (List String)
  | .array items => items.mapM text?
  | _ => none

end Toml.Value

end CommitPolicy
