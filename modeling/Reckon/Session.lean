import Reckon.Expr.Rendering
import Reckon.Run
import Reckon.Text.Blank

namespace Reckon

inductive Status where
  | success
  | unreadableFile
  | usage
  | unreadableInput
  | failure
deriving DecidableEq

def Status.code : Status → Nat
  | success => 0
  | unreadableFile => 1
  | usage => 2
  | unreadableInput => 10
  | failure => 20

structure Output where
  out : String := ""
  err : String := ""
deriving DecidableEq

def Output.append (a b : Output) : Output := ⟨a.out ++ b.out, a.err ++ b.err⟩

instance : Append Output := ⟨Output.append⟩

/-- What is written for one text, and whether its run succeeded: the rendering asked for, if the text
parses, then the result or the diagnostics, a line each. -/
def report (rendering : Option Rendering) (source : String) : Output × Bool :=
  let run := Run.ofText (fun e => rendering.map (·.layout.render e)) source
  let rendered := match run.seen with
    | some (some text) => text ++ "\n"
    | _ => ""
  match run.result with
  | .ok v => (⟨rendered ++ "Result> " ++ v.resultText ++ "\n", ""⟩, true)
  | .error ds => (⟨rendered, String.join (ds.map fun d => d.text ++ "\n")⟩, false)

def invalidText : String := "stream did not contain valid UTF-8"

structure Session where
  failed : Bool := false

namespace Session

def promptText : String := "> "

/-- The answer to a line, given in bytes with its line end, and the session after it. Blank lines are not
run. There is no answer to bytes that are not UTF-8. -/
def answer? (rendering : Option Rendering) (session : Session) (line : ByteArray) :
    Option (Output × Session) :=
  (String.fromUTF8? line).map fun text =>
    if isBlank text then ({}, session)
    else
      let (output, succeeded) := report rendering text
      (output, ⟨session.failed || !succeeded⟩)

def farewell (session : Session) : Output × Status :=
  (⟨"\nBye bye!\n", ""⟩, if session.failed then .failure else .success)

def refusal : Output × Status := (⟨"", invalidText ++ "\n"⟩, .unreadableInput)

def continued (rendering : Option Rendering) (session : Session) (written : Output) :
    List ByteArray → Output × Status
  | [] => (written ++ ⟨promptText, ""⟩ ++ session.farewell.1, session.farewell.2)
  | line :: lines =>
    match session.answer? rendering line with
    | none => (written ++ ⟨promptText, ""⟩ ++ refusal.1, refusal.2)
    | some (output, next) => next.continued rendering (written ++ ⟨promptText, ""⟩ ++ output) lines

def transcript (rendering : Option Rendering) (lines : List ByteArray) : Output × Status :=
  continued rendering {} {} lines

end Session

/-- The bytes of some lines with their line ends, after the lines found and the part of a line before. What
follows the last line end is a line unless it is empty. -/
def splitLines (found : Array ByteArray) (part : ByteArray) : List UInt8 → List ByteArray
  | [] => (if part.isEmpty then found else found.push part).toList
  | byte :: bytes =>
    if byte = 10 then splitLines (found.push (part.push byte)) .empty bytes
    else splitLines found (part.push byte) bytes

def inputLines (input : ByteArray) : List ByteArray := splitLines #[] .empty input.toList

end Reckon
