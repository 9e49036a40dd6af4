import Reckon.Number
import Reckon.Diagnostic

namespace Reckon

inductive Mark where
  | leftParen
  | rightParen
  | leftBrace
  | rightBrace
  | comma
  | dot
  | minus
  | plus
  | semicolon
  | slash
  | star
  | bang
  | bangEqual
  | equal
  | equalEqual
  | greater
  | greaterEqual
  | less
  | lessEqual
deriving DecidableEq

def Mark.text : Mark → String
  | leftParen => "("
  | rightParen => ")"
  | leftBrace => "\x7b"
  | rightBrace => "\x7d"
  | comma => ","
  | dot => "."
  | minus => "-"
  | plus => "+"
  | semicolon => ";"
  | slash => "/"
  | star => "*"
  | bang => "!"
  | bangEqual => "!="
  | equal => "="
  | equalEqual => "=="
  | greater => ">"
  | greaterEqual => ">="
  | less => "<"
  | lessEqual => "<="

inductive Keyword where
  | and
  | «class»
  | «else»
  | false
  | «fun»
  | «for»
  | «if»
  | nil
  | or
  | print
  | «return»
  | super
  | this
  | true
  | var
  | while
deriving DecidableEq

namespace Keyword

def text : Keyword → String
  | and => "and"
  | «class» => "class"
  | «else» => "else"
  | false => "false"
  | «fun» => "fun"
  | «for» => "for"
  | «if» => "if"
  | nil => "nil"
  | or => "or"
  | print => "print"
  | «return» => "return"
  | super => "super"
  | this => "this"
  | true => "true"
  | var => "var"
  | «while» => "while"

def ofText? : String → Option Keyword
  | "and" => some and
  | "class" => some «class»
  | "else" => some «else»
  | "false" => some false
  | "fun" => some «fun»
  | "for" => some «for»
  | "if" => some «if»
  | "nil" => some nil
  | "or" => some or
  | "print" => some print
  | "return" => some «return»
  | "super" => some super
  | "this" => some this
  | "true" => some true
  | "var" => some var
  | "while" => some «while»
  | _ => none

theorem ofText?_text (k : Keyword) : ofText? k.text = some k := by
  cases k <;> decide

theorem text_eq_of_ofText? {word : String} {k : Keyword} (found : ofText? word = some k) : k.text = word := by
  unfold ofText? at found
  split at found <;> cases found <;> rfl

end Keyword

/-- What a token stands for: literals carry their value, and `finish` ends every list of tokens. -/
inductive Symbol where
  | mark (mark : Mark)
  | keyword (word : Keyword)
  | identifier
  | string (text : String)
  | number (value : Number)
  | finish
deriving DecidableEq

/-- Equality as expressions see it, with numbers compared as such. -/
def Symbol.equals : Symbol → Symbol → Bool
  | number x, number y => x.equals y
  | a, b => a == b

structure Token where
  symbol : Symbol
  lexeme : String
  line : Nat
deriving DecidableEq

namespace Token

def finish (line : Nat) : Token := ⟨.finish, "", line⟩

def isFinish (t : Token) : Bool := t.symbol == .finish

def location (t : Token) : Location := if t.isFinish then .atEnd else .lexeme t.lexeme

def equals (a b : Token) : Bool := a.symbol.equals b.symbol && a.lexeme == b.lexeme && a.line == b.line

end Token

end Reckon
