import Switchboard.CommandLine
import Switchboard.Demo
import Switchboard.Service.Session

/-!
From arguments to a service that is up: the options, the settings, the demo host, the start. The
first thing that fails is reported.
-/

namespace Switchboard.Program

inductive Run (m : Type → Type) where
  | help
  | misused (error : CommandLine.UsageError)
  | failed (report : String)
  | serving (session : Session m)

variable {m : Type → Type}

/-- The configured settings with the options on top. The address given there is not checked yet. -/
def settings (options : CommandLine.Options) (file : Option FileContent) :
    Except SettingsError Settings := do
  let settings ← match file with
    | some file => Settings.load file
    | none => .ok .default
  return match options.bind with
    | some address => { settings with bindAddress := address }
    | none => settings

def serve [Monad m] (environment : List (String × String)) (settings : Settings)
    (file : Option FileContent) : Run m :=
  match Host.build (Demo.blueprint environment) with
  | .error error => .failed error.inspected
  | .ok host =>
    let started := host.start settings file
    match started.result with
    | .error error => .failed error.inspected
    | .ok launch => .serving ⟨started.host, launch⟩

def environmentNames (file : FileContent) : List String :=
  match Settings.load file with
  | .error _ => []
  | .ok settings => settings.aliases.entries.filterMap fun (_, specifier) =>
    match Specifier.parse specifier with
    | .ok (.prefixed head suffix) => if head = "env" then some suffix else none
    | _ => none

def run [Monad m] (environment : List (String × String)) (read : String → FileContent)
    (arguments : List String) : Run m :=
  match CommandLine.parse arguments with
  | .error error => .misused error
  | .ok .help => .help
  | .ok (.run options) =>
    let file := options.config.map read
    match settings options file with
    | .error error => .failed error.inspected
    | .ok settings => serve environment settings file

namespace Run

def exitCode : Run m → UInt8
  | .help => 0
  | .misused _ => 2
  | .failed _ => 1
  | .serving _ => 0

def stdout : Run m → String
  | .help => CommandLine.help
  | _ => ""

def stderr : Run m → String
  | .misused error => error.report
  | .failed report => "Error: " ++ report ++ "\n"
  | _ => ""

end Run

/-- A request on one line: the method, the target and, after a further space, the body. -/
def inbound? (line : String) : Option Inbound := do
  let name := line.toList.takeWhile (· ≠ ' ')
  let rest := (line.toList.dropWhile (· ≠ ' ')).drop 1
  let method ← Method.ofName? (String.ofList name)
  let uri ← Uri.parse? (String.ofList (rest.takeWhile (· ≠ ' ')))
  let body := (rest.dropWhile (· ≠ ' ')).drop 1
  return ⟨method, uri, .empty, [Text.utf8 body], false⟩

def shown (response : Response) : String :=
  let fields := response.headers.fields.map fun (name, value) =>
    name.text ++ ": " ++ Text.ofBytesLossy value.bytes ++ "\n"
  toString response.status.toNat ++ "\n" ++ String.join fields ++ "\n" ++
    Text.ofBytesLossy response.body ++ "\n"

end Switchboard.Program
