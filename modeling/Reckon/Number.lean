import Reckon.Number.Shortest

namespace Reckon

inductive Number where
  | nan
  | signed (negative : Bool) (magnitude : Magnitude)
deriving DecidableEq

namespace Number

def ofDecimal (d : Decimal) : Number := signed false (.ofDecimal d)

def neg : Number → Number
  | nan => nan
  | signed s a => signed (!s) a

def directedUnits (negative : Bool) (m : Magnitude) : Int :=
  if negative then -(m.units : Int) else m.units

/-- A sum of zero is positive unless both terms are negative. -/
def add : Number → Number → Number
  | signed s a, signed t b =>
    if a.isInfinite then
      if b.isInfinite && s != t then nan else signed s a
    else if b.isInfinite then signed t b
    else
      let sum := directedUnits s a + directedUnits t b
      if sum = 0 then signed (s && t) .zero
      else signed (sum < 0) (.nearest sum.natAbs 1)
  | _, _ => nan

def sub (x y : Number) : Number := x.add y.neg

def mul : Number → Number → Number
  | signed s a, signed t b =>
    if a.isInfinite || b.isInfinite then
      if a = .zero ∨ b = .zero then nan else signed (s != t) .infinity
    else signed (s != t) (.nearest (a.units * b.units) (2 ^ Magnitude.binaryPlaces))
  | _, _ => nan

def div : Number → Number → Number
  | signed s a, signed t b =>
    if a.isInfinite then
      if b.isInfinite then nan else signed (s != t) .infinity
    else if b.isInfinite then signed (s != t) .zero
    else if b = .zero then
      if a = .zero then nan else signed (s != t) .infinity
    else signed (s != t) (.nearest (a.units * 2 ^ Magnitude.binaryPlaces) b.units)
  | _, _ => nan

def position? : Number → Option Int
  | nan => none
  | signed s a => some (if s then -(a.rank : Int) else a.rank)

def compares (related : Int → Int → Bool) (x y : Number) : Bool :=
  match x.position?, y.position? with
  | some i, some j => related i j
  | _, _ => false

def equals : Number → Number → Bool := compares (· == ·)

def less : Number → Number → Bool := compares (· < ·)

def lessEqual : Number → Number → Bool := compares (· ≤ ·)

def isZero : Number → Bool
  | nan => false
  | signed _ a => a == .zero

def text : Number → String
  | nan => "NaN"
  | signed s a => (if s then "-" else "") ++ if a.isInfinite then "inf" else a.shortest.text

/-- The number nearest to its own decimal form with `digits` significant digits. It can exceed all finite
numbers. -/
def rounded (digits : Nat) : Number → Number
  | nan => nan
  | signed s a => signed s (if a.isInfinite then a else .ofDecimal (a.toDecimal.rounded digits))

def ofBits (bits : Nat) : Number :=
  if h : bits % 2 ^ 63 ≤ 2047 * 2 ^ 52 then signed (2 ^ 63 ≤ bits) ⟨bits % 2 ^ 63, h⟩ else nan

def toBits? : Number → Option Nat
  | nan => none
  | signed s a => some (a.rank + if s then 2 ^ 63 else 0)

end Number

end Reckon
