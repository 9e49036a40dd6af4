import Reckon.Token
import Reckon.Value

namespace Reckon

inductive Expr where
  | literal (value : Value)
  | group (inner : Expr)
  | unary (operator : Token) (operand : Expr)
  | binary (left : Expr) (operator : Token) (right : Expr)
deriving DecidableEq

def Token.literal? (t : Token) : Option Value :=
  match t.symbol with
  | .keyword .false => some (.boolean false)
  | .keyword .true => some (.boolean true)
  | .keyword .nil => some .nil
  | .number x => some (.number x)
  | .string s => some (.string s)
  | _ => none

namespace Expr

def size : Expr → Nat
  | literal _ => 1
  | group inner => inner.size + 1
  | unary _ operand => operand.size + 1
  | binary left _ right => left.size + right.size + 1

def isLiteral : Expr → Bool
  | literal _ => true
  | _ => false

def pairedSize : List (Expr × Expr) → Nat
  | [] => 0
  | (a, _) :: rest => a.size + pairedSize rest

/-- Whether the trees of each pair are equal as expressions see it, with numbers and operators compared as
such. -/
def equalPairs : List (Expr × Expr) → Bool
  | [] => true
  | (literal v, literal w) :: rest => v.equals w && equalPairs rest
  | (group a, group b) :: rest => equalPairs ((a, b) :: rest)
  | (unary s a, unary t b) :: rest => s.equals t && equalPairs ((a, b) :: rest)
  | (binary a s c, binary b t d) :: rest => s.equals t && equalPairs ((a, b) :: (c, d) :: rest)
  | _ => false
termination_by pairs => pairedSize pairs
decreasing_by all_goals simp [pairedSize, size] <;> omega

def equals (a b : Expr) : Bool := equalPairs [(a, b)]

end Expr

end Reckon
