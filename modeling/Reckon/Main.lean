import Reckon.Command

open Reckon

namespace Reckon.Program

def put (output : Output) : IO Unit := do
  let out ← IO.getStdout
  out.putStr output.out
  out.flush
  (← IO.getStderr).putStr output.err

/-- An error of the system in words, with its number, which may be given negated. -/
def systemFault (code : UInt32) (details : String) : String :=
  details.capitalize ++ " (os error " ++ toString (if code < 0x80000000 then code else 0 - code) ++ ")"

def readFault : IO.Error → String
  | .noFileOrDirectory _ code details | .inappropriateType _ code details | .permissionDenied _ code details
  | .invalidArgument _ code details | .otherError code details => systemFault code details
  | e => toString e

partial def prompt (rendering : Option Rendering) (session : Session) : IO Status := do
  put ⟨Session.promptText, ""⟩
  let line ← readLine (← IO.getStdin) .empty
  if line.isEmpty then
    put session.farewell.1
    return session.farewell.2
  match session.answer? rendering line with
  | none =>
    put Session.refusal.1
    return Session.refusal.2
  | some (output, next) =>
    put output
    prompt rendering next
where
  readLine (input : IO.FS.Stream) (line : ByteArray) : IO ByteArray := do
    let byte ← input.read 1
    if byte.isEmpty then return line
    let line := line ++ byte
    if byte.toList == [10] then return line
    readLine input line

def runFile (rendering : Option Rendering) (path : String) : IO Status := do
  let (output, status) ←
    try pure (Command.fileReport rendering path (← IO.FS.readBinFile path))
    catch e => pure (Command.unreadable path (readFault e))
  put output
  return status

end Reckon.Program

def main (arguments : List String) : IO UInt32 := do
  let usage := "usage: reckon [--print tree|rpn|infix] [FILE]"
  let status ← match Command.ofArguments arguments with
    | .error .success => do
      (← IO.getStdout).putStrLn usage
      pure Status.success
    | .error status => do
      (← IO.getStderr).putStrLn usage
      pure status
    | .ok ⟨none, rendering⟩ => Reckon.Program.prompt rendering {}
    | .ok ⟨some path, rendering⟩ => Reckon.Program.runFile rendering path
  return status.code.toUInt32
