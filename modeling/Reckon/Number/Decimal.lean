import Reckon.Number.Rounding

namespace Reckon

/-- The number `coefficient / 10 ^ places`. One number has many such forms, and all are written alike. -/
structure Decimal where
  coefficient : Nat
  places : Nat
deriving DecidableEq

namespace Decimal

def ofDigits (whole fraction : List Char) : Decimal :=
  ⟨Nat.ofDigitChars 10 (whole ++ fraction) 0, fraction.length⟩

def padded (places n : Nat) : List Char :=
  let digits := n.repr.toList
  List.replicate (places - digits.length) '0' ++ digits

def fractionDigits (d : Decimal) : List Char :=
  ((padded d.places (d.coefficient % 10 ^ d.places)).reverse.dropWhile (· == '0')).reverse

/-- Plain digits: no exponent, no zero that could be dropped, and no point where no digit follows. -/
def text (d : Decimal) : String :=
  let whole := (d.coefficient / 10 ^ d.places).repr
  match d.fractionDigits with
  | [] => whole
  | digits => whole ++ "." ++ String.ofList digits

def rounded (d : Decimal) (digits : Nat) : Decimal :=
  let unit := 10 ^ (d.coefficient.repr.length - digits)
  ⟨roundedQuotient d.coefficient unit * unit, d.places⟩

end Decimal

end Reckon
