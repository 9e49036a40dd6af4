namespace Reckon

inductive Stage where
  | lexical
  | syntactic
  | evaluation
deriving DecidableEq

inductive Location where
  | line
  | atEnd
  | lexeme (text : String)
deriving DecidableEq

def Location.text : Location → String
  | line => ""
  | atEnd => " at end"
  | lexeme text => " at '" ++ text ++ "'"

structure Diagnostic where
  stage : Stage
  line : Nat
  location : Location
  message : String
deriving DecidableEq

def Diagnostic.text (d : Diagnostic) : String :=
  "[line " ++ toString d.line ++ "] Error" ++ d.location.text ++ ": " ++ d.message

abbrev Diagnostics := List Diagnostic

namespace Diagnostics

def report (ds : Diagnostics) (d : Diagnostic) : Diagnostics := ds ++ [d]

def hasAny (ds : Diagnostics) : Bool := !ds.isEmpty

def hasAnyOf (ds : Diagnostics) (stage : Stage) : Bool := ds.any (·.stage == stage)

def text (ds : Diagnostics) : String := "\n".intercalate (ds.map Diagnostic.text)

end Diagnostics

end Reckon
