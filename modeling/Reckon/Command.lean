import Reckon.Session

namespace Reckon

structure Command where
  file : Option String := none
  rendering : Option Rendering := none
deriving DecidableEq

namespace Command

def renderingNamed? : String → Option Rendering
  | "tree" => some .outline
  | "rpn" => some .reversePolish
  | "infix" => some .source
  | _ => none

def withFile (command : Command) (path : String) : Except Status Command :=
  if command.file.isNone && path != "" then .ok { command with file := some path } else .error .usage

def withRendering (command : Command) (name : String) : Except Status Command :=
  match command.rendering, renderingNamed? name with
  | none, some rendering => .ok { command with rendering := some rendering }
  | _, _ => .error .usage

def joinedValue? (argument : String) : Option String :=
  let name := "--print=".toList
  if name.isPrefixOf argument.toList then some (String.ofList (argument.toList.drop name.length)) else none

def asksHelp (argument : String) : Bool := argument == "--help" || "-h".toList.isPrefixOf argument.toList

/-- A command with some arguments added, in any order, or the status with which the program ends at once: that of a
success where help is asked for. After `--`, and where it starts with no dash, an argument is a file; a dash alone is
one as well. -/
def withArguments (command : Command) : List String → Except Status Command
  | [] => .ok command
  | "--" :: paths => paths.foldlM withFile command
  | "--print" :: name :: arguments => (command.withRendering name).bind (·.withArguments arguments)
  | argument :: arguments =>
    match joinedValue? argument with
    | some name => (command.withRendering name).bind (·.withArguments arguments)
    | none =>
      if asksHelp argument then .error .success
      else if argument != "-" && argument.toList.head? == some '-' then .error .usage
      else (command.withFile argument).bind (·.withArguments arguments)

def ofArguments (arguments : List String) : Except Status Command := ({} : Command).withArguments arguments

def unreadable (path reason : String) : Output × Status :=
  (⟨"", "Could not read " ++ path ++ ": " ++ reason ++ "\n"⟩, .unreadableFile)

def fileReport (rendering : Option Rendering) (path : String) (contents : ByteArray) : Output × Status :=
  match String.fromUTF8? contents with
  | none => unreadable path invalidText
  | some source =>
    let (output, succeeded) := report rendering source
    (output, if succeeded then .success else .failure)

/-- What a command comes to, given what reading a file comes to, contents or a reason why not, and the input. -/
def perform (command : Command) (contentsAt : String → Except String ByteArray) (input : ByteArray) :
    Output × Status :=
  match command.file with
  | none => Session.transcript command.rendering (inputLines input)
  | some path =>
    match contentsAt path with
    | .error reason => unreadable path reason
    | .ok contents => fileReport command.rendering path contents

def run (contentsAt : String → Except String ByteArray) (input : ByteArray) (arguments : List String) :
    Output × Status :=
  match ofArguments arguments with
  | .error status => ({}, status)
  | .ok command => command.perform contentsAt input

end Command

end Reckon
