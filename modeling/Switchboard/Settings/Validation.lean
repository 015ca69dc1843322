import Switchboard.Injection.Specifier
import Switchboard.Settings
import Switchboard.Settings.Address

/-! What is wrong with settings. Every problem is reported, in a fixed order. -/

namespace Switchboard

inductive AddressField where
  | listener
  | metrics
  deriving DecidableEq, Repr

def AddressField.text : AddressField → String
  | .listener => "listener.bind_address"
  | .metrics => "observability.metrics_address"

inductive AliasFault where
  | name
  | specifier (error : SpecifierError)
  deriving DecidableEq, Repr

def AliasFault.reason : AliasFault → String
  | .name => "alias names must be non-empty and contain no ':'"
  | .specifier error => error.message

inductive ValidationError where
  | invalidAddress (field : AddressField) (value : String)
  | zeroTimeout
  | zeroBodyLimit
  | invalidLogLevel (level : String)
  | invalidAlias (name : String) (fault : AliasFault)
  deriving DecidableEq, Repr

namespace ValidationError

def message : ValidationError → String
  | .invalidAddress field value =>
    field.text ++ ": " ++ Text.quoted value ++ " is not a socket address"
  | .zeroTimeout => "timeouts.request_secs must be greater than zero"
  | .zeroBodyLimit => "limits.max_body_size must be greater than zero"
  | .invalidLogLevel level => "observability.log_level: unknown level " ++ Text.quoted level
  | .invalidAlias name fault => "aliases." ++ name ++ ": " ++ fault.reason

def inspected : ValidationError → String
  | .invalidAddress field value =>
    "InvalidAddress \x7b field: " ++ Text.quoted field.text ++ ", value: " ++ Text.quoted value ++
      " \x7d"
  | .zeroTimeout => "ZeroTimeout"
  | .zeroBodyLimit => "ZeroBodyLimit"
  | .invalidLogLevel level => "InvalidLogLevel(" ++ Text.quoted level ++ ")"
  | .invalidAlias name fault =>
    "InvalidAlias \x7b name: " ++ Text.quoted name ++ ", reason: " ++ Text.quoted fault.reason ++
      " \x7d"

end ValidationError

namespace Settings

def logLevels : List String := ["trace", "debug", "info", "warn", "error"]

def isAddress (text : String) : Bool := (SocketAddress.parse? text).isSome

def isAliasName (name : String) : Bool :=
  Text.trim name ≠ "" && !name.toList.contains ':'

def aliasProblems (name specifier : String) : List ValidationError :=
  (if isAliasName name then [] else [.invalidAlias name .name]) ++
    match Specifier.parse specifier with
    | .ok _ => []
    | .error error => [.invalidAlias name (.specifier error)]

def problems (settings : Settings) : List ValidationError :=
  (if isAddress settings.bindAddress then []
    else [.invalidAddress .listener settings.bindAddress]) ++
  (if settings.requestSeconds = 0 then [.zeroTimeout] else []) ++
  (if settings.maxBodySize = 0 then [.zeroBodyLimit] else []) ++
  (if settings.logLevel.toLower ∈ logLevels then []
    else [.invalidLogLevel settings.logLevel]) ++
  (if settings.metricsEnabled && !isAddress settings.metricsAddress then
    [.invalidAddress .metrics settings.metricsAddress] else []) ++
  settings.aliases.entries.flatMap fun (name, specifier) => aliasProblems name specifier

end Settings

end Switchboard
