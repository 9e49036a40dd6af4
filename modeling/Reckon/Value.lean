import Reckon.Number

namespace Reckon

inductive Value where
  | number (value : Number)
  | string (text : String)
  | boolean (value : Bool)
  | nil
deriving DecidableEq

namespace Value

/-- All values but `nil` and `false` count as true. -/
def isTruthy : Value → Bool
  | nil => false
  | boolean b => b
  | _ => true

def equals : Value → Value → Bool
  | number x, number y => x.equals y
  | a, b => a == b

/-- A value as a literal of an expression, its number exact. Strings stand without quotes. -/
def literalText : Value → String
  | number x => x.text
  | string s => s
  | boolean b => if b then "true" else "false"
  | nil => "nil"

def shownDigits : Nat := 15

def resultText : Value → String
  | number x => (x.rounded shownDigits).text
  | v => v.literalText

end Value

end Reckon
