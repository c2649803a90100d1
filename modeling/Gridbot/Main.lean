import Gridbot.Program

/-!
# The command line

Reads the arguments, the command file and standard input, and shows what a run says as it says it:
every report as soon as its line is carried out, every log line as soon as it is noted.
-/

namespace Gridbot.CommandLine

/-- An error of the system. -/
def systemError : IO.Error → SystemError
  | .noFileOrDirectory _ code details => ⟨.notFound, refusal code details⟩
  | .permissionDenied _ code details => ⟨.permissionDenied, refusal code details⟩
  | .alreadyExists _ code details | .interrupted _ code details | .invalidArgument _ code details
  | .resourceExhausted _ code details | .inappropriateType _ code details
  | .noSuchThing _ code details | .otherError code details | .resourceBusy code details
  | .resourceVanished code details | .unsupportedOperation code details
  | .hardwareFault code details | .unsatisfiedConstraints code details
  | .illegalOperation code details | .protocolError code details
  | .timeExpired code details => ⟨.other, refusal code details⟩
  | .unexpectedEof => ⟨.other, "unexpected end of file"⟩
  | .userError message => ⟨.other, message⟩
where
  refusal (code : UInt32) (details : String) : String :=
    details ++ " (os error " ++ toString code ++ ")"

/-- What the system answers about one path. It is asked by opening the file and reading it, so a
file is as large as what is read of it. -/
def ask (path : String) : IO FileSystem := do
  match ← (IO.FS.Handle.mk path .read).toBaseIO with
  | .error e => pure ⟨fun _ => .error (systemError e), fun _ => .error (systemError e)⟩
  | .ok file =>
    match ← file.readBinToEnd.toBaseIO with
    | .ok bytes => pure ⟨fun _ => .ok (.regular bytes.size), fun _ => .ok (.ok bytes)⟩
    | .error (.inappropriateType ..) => pure ⟨fun _ => .ok .other, fun _ => .ok (.ok .empty)⟩
    | .error e => pure ⟨fun _ => .ok (.regular 0), fun _ => .ok (.error (systemError e))⟩

/-- The files that a run with these arguments looks at. -/
def findFile (arguments : List String) : IO FileSystem := do
  match Invocation.ofArguments arguments with
  | .ok (.run { commandFile := some path, .. }) => ask path
  | _ => ask ""

/-- Shows what a session has reported and noted so far, and leaves it without that. -/
def showNews (v : Verbosity) (s : Session) : IO Session := do
  let stdout ← IO.getStdout
  stdout.write s.sink.bytes
  stdout.flush
  (← IO.getStderr).putStr (v.render s.log.toList)
  pure { s with log := #[], sink := { s.sink with bytes := .empty } }

/-- Shows how a session ended and gives the exit status. -/
def conclude : Except SessionError Unit → IO UInt32
  | .ok () => pure 0
  | .error e => do
    (← IO.getStderr).putStr (Failure.ofSession e).text
    pure 1

/-- Reads up to and including the next line feed, or up to the end of the input. -/
partial def readLine (input : IO.FS.Stream) (bytes : ByteArray) : IO ByteArray := do
  let next ← input.read 1
  let bytes := bytes ++ next
  if next.isEmpty || next.toList = [0x0A] then pure bytes else readLine input bytes

/-- Holds a dialogue on standard input and output. -/
partial def converse (v : Verbosity) (s : Session) : IO UInt32 := do
  let line ← readLine (← IO.getStdin) .empty
  let arrival := (arrivals line).head?.getD .endOfInput
  let (s, turn) := s.react arrival
  let s ← showNews v s
  match turn with
  | .goesOn => converse v s
  | .ends result => conclude result

end Gridbot.CommandLine

open Gridbot CommandLine in
/-- Runs the program on its arguments. -/
def main (arguments : List String) : IO UInt32 := do
  match Program.prepare (CommandFile.load (← findFile arguments)) arguments with
  | .error exit =>
    (← IO.getStdout).write exit.stdout
    (← IO.getStderr).putStr exit.stderr
    pure exit.status.toUInt32
  | .ok ready =>
    (← IO.getStderr).putStr (ready.verbosity.render [.started])
    let s ← showNews ready.verbosity ready.session
    match ready.lines? with
    | none => converse ready.verbosity s
    | some lines =>
      let (s, result) := s.runLines lines
      let _ ← showNews ready.verbosity s
      conclude result
