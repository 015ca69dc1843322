import Switchboard.Message.Identifier
import Switchboard.Program

/-!
The command line. Once the service is up, requests are taken from standard input, one to a line, and
responses go to standard output.
-/

namespace Switchboard.Main

def readFile (path : String) : IO FileContent := do
  try
    return .bytes (← IO.FS.readBinFile path).toList
  catch
    | .noFileOrDirectory .. => return .missing
    | _ => return .directory

def settingsFile (arguments : List String) : IO FileContent :=
  match CommandLine.parse arguments with
  | .ok (.run ⟨some path, _⟩) => readFile path
  | _ => return .missing

def environment (names : List String) : IO (List (String × String)) :=
  names.filterMapM fun name => do return (← IO.getEnv name).map (name, ·)

def generatedId : IO HeaderValue := do
  let random ← IO.rand 0 (Nat.pow 2 122 - 1)
  return (HeaderValue.ofText? (Identifier.ofRandom random)).getD plainText

partial def serve (session : Session Id) : IO Unit := do
  let line ← (← IO.getStdin).getLine
  if line.isEmpty then return
  match Program.inbound? (Text.trim line) with
  | none =>
    IO.println (Program.shown (.bare 400))
    serve session
  | some inbound =>
    let (response, session) := (session.answer (← generatedId) inbound).run
    IO.println (Program.shown response)
    serve session

end Switchboard.Main

open Switchboard in
def main (arguments : List String) : IO UInt32 := do
  let file ← Main.settingsFile arguments
  let environment ← Main.environment (Program.environmentNames file)
  let run : Program.Run Id := Program.run environment (fun _ => file) arguments
  IO.print run.stdout
  IO.eprint run.stderr
  if let .serving session := run then Main.serve session
  return run.exitCode.toUInt32
