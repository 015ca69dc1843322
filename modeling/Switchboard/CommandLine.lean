import Switchboard.Text.Likeness

/-!
The options of the command line. Arguments are read from left to right; help asked for before the
first mistake wins over it. What is wrong with an option and the argument after it shows when the
next option is read, so that an argument without meaning is reported before it.
-/

namespace Switchboard.CommandLine

structure Options where
  config : Option String
  bind : Option String
  deriving DecidableEq, Repr

inductive Key where
  | config
  | bind
  | help
  deriving DecidableEq, Repr

namespace Key

def name : Key → String
  | .config => "config"
  | .bind => "bind"
  | .help => "help"

def ofName? (name : List Char) : Option Key :=
  [config, bind, help].find? fun key => key.name.toList = name

def text : Key → String
  | .config => "--config <CONFIG>"
  | .bind => "--bind <BIND>"
  | .help => "--help"

/-- The option that a name was probably meant to be: the one most like it, from seven tenths on. -/
def meantBy? (name : List Char) : Option Key :=
  let candidates := [config, bind, help].map fun key =>
    (key, Text.Likeness.ofWords name key.name.toList)
  let candidates := candidates.filter fun (_, likeness) => Text.Likeness.atMost (7, 10) likeness
  let best := candidates.foldl (fun best candidate =>
    match best with
    | some (_, likeness) =>
      if Text.Likeness.atMost likeness candidate.2 then some candidate else best
    | none => some candidate) none
  best.map Prod.fst

end Key

inductive UsageError where
  | unexpected (argument : String) (meant : Option Key) (given : List Key)
  | needlessValue (value : String) (given : List Key)
  | missingValue (key : Key)
  | repeated (key : Key)
  deriving DecidableEq, Repr

namespace UsageError

def message : UsageError → String
  | .unexpected argument _ _ => "unexpected argument '" ++ argument ++ "' found"
  | .needlessValue value _ =>
    "unexpected value '" ++ value ++ "' for '" ++ Key.help.text ++ "' found; no more were expected"
  | .missingValue key => "a value is required for '" ++ key.text ++ "' but none was supplied"
  | .repeated key => "the argument '" ++ key.text ++ "' cannot be used multiple times"

/-- The options that the usage names instead of all. A missing value says all itself. -/
def usage? : UsageError → Option (List Key)
  | .unexpected _ meant given => some (given ++ meant.toList.filter (!given.contains ·))
  | .needlessValue _ given => some (given ++ [.help])
  | .missingValue _ => none
  | .repeated _ => some []

def tip? : UsageError → Option String
  | .unexpected _ (some meant) _ => some ("a similar argument exists: '--" ++ meant.name ++ "'")
  | _ => none

end UsageError

inductive Argument where
  | option (key : Key) (value : Option String)
  | endOfOptions
  | unknown (shown : String) (name : Option (List Char))

namespace Argument

def ofLong (text : List Char) : Argument :=
  let name := text.takeWhile (· ≠ '=')
  let value := match text.dropWhile (· ≠ '=') with
    | [] => none
    | _ :: value => some (String.ofList value)
  match Key.ofName? name with
  | some key => .option key value
  | none => .unknown (String.ofList ('-' :: '-' :: name)) (some name)

/-- What stands right behind a short option is its value, a leading equals sign aside. -/
def ofShort (key : Key) : List Char → Argument
  | [] => .option key none
  | '=' :: value => .option key (some (String.ofList value))
  | value => .option key (some (String.ofList value))

def ofText (text : String) : Argument :=
  match text.toList with
  | ['-', '-'] => .endOfOptions
  | '-' :: '-' :: rest => ofLong rest
  | '-' :: 'h' :: _ => .option .help none
  | '-' :: 'c' :: rest => ofShort .config rest
  | '-' :: 'b' :: rest => ofShort .bind rest
  | '-' :: c :: _ => .unknown (String.ofList ['-', c]) none
  | _ => .unknown text none

end Argument

def isValue (argument : String) : Bool :=
  argument = "-" || argument.toList.head? ≠ some '-'

abbrev Assignments := List (Key × String)

def assign (given : Assignments) (key : Key) (value : String) : Except UsageError Assignments :=
  if given.any (·.1 = key) then .error (.repeated key)
  else if key = .config && value.isEmpty then .error (.missingValue key)
  else .ok (given ++ [(key, value)])

inductive Invocation where
  | help
  | run (options : Options)
  deriving DecidableEq, Repr

def Invocation.ofAssignments (given : Assignments) : Invocation :=
  .run ⟨given.lookup .config, given.lookup .bind⟩

/-- Read what is left. An error so far is that of the option before. -/
def parseAfter (given : Assignments) (soFar : Option UsageError) :
    List String → Except UsageError Invocation
  | [] =>
    match soFar with
    | some error => .error error
    | none => .ok (.ofAssignments given)
  | argument :: rest =>
    match Argument.ofText argument, soFar with
    | .unknown shown name, _ =>
      let keys := if name.isSome then given.map Prod.fst else []
      .error (.unexpected shown (name.bind Key.meantBy?) keys)
    | .endOfOptions, _ =>
      match rest, soFar with
      | argument :: _, _ => .error (.unexpected argument none [])
      | [], some error => .error error
      | [], none => .ok (.ofAssignments given)
    | .option .help (some value), _ => .error (.needlessValue value (given.map Prod.fst))
    | .option _ _, some error => .error error
    | .option .help none, none => .ok .help
    | .option key (some value), none =>
      match assign given key value with
      | .ok given => parseAfter given none rest
      | .error error => .error error
    | .option key none, none =>
      match rest with
      | [] => .error (.missingValue key)
      | value :: later =>
        if isValue value then
          match assign given key value with
          | .ok given => parseAfter given none later
          | .error error => parseAfter given (some error) later
        else parseAfter given (some (.missingValue key)) (value :: later)

def parse (arguments : List String) : Except UsageError Invocation :=
  parseAfter [] none arguments

def program : String := "exchange-adapter"

def usage (keys : List Key) : String :=
  let options := if keys.isEmpty then ["[OPTIONS]"] else keys.map Key.text
  "Usage: " ++ " ".intercalate (program :: options)

def help : String :=
  "Serve closure-based route handlers over HTTP\n\n" ++
  usage [] ++ "\n\n" ++
  "Options:\n" ++
  "  -c, --config <CONFIG>  TOML configuration file\n" ++
  "  -b, --bind <BIND>      Override \x60listener.bind_address\x60\n" ++
  "  -h, --help             Print help\n"

def UsageError.report (error : UsageError) : String :=
  let tip := match error.tip? with
    | some tip => "\n\n  tip: " ++ tip
    | none => ""
  let form := match error.usage? with
    | some keys => "\n\n" ++ usage keys
    | none => ""
  "error: " ++ error.message ++ tip ++ form ++ "\n\nFor more information, try '--help'.\n"

end Switchboard.CommandLine
