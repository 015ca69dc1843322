import Switchboard.Settings
import Switchboard.Toml.Parser

/-!
Settings from a TOML document. A section is a table of its fields, or an array of them in a fixed
order; what is missing keeps its default and what is unknown is ignored.
-/

namespace Switchboard.Settings

open Toml (Value)

/-- The name that a date goes by where a table is expected. -/
def dateName : String := "$__toml_private_datetime"

def fields? (names : List String) : Value → Option (List (String × Value))
  | .table entries => some entries
  | .array items => some (names.zip items)
  | .datetime text => some [(dateName, .string text)]
  | _ => none

def text? : Value → Option String
  | .string text => some text
  | _ => none

def flag? : Value → Option Bool
  | .boolean value => some value
  | _ => none

def count? : Value → Option Nat
  | .integer value => if 0 ≤ value then some value.toNat else none
  | _ => none

/-- A field of its type, or its default when it is missing. -/
def field? {α : Type} (decode? : Value → Option α) (fields : List (String × Value))
    (name : String) (default : α) : Option α :=
  match fields.lookup name with
  | none => some default
  | some value => decode? value

def section? (document : List (String × Value)) (name : String) (names : List String) :
    Option (List (String × Value)) :=
  match document.lookup name with
  | none => some []
  | some value => fields? names value

def aliases? (document : List (String × Value)) : Option (Dictionary String) :=
  match document.lookup "aliases" with
  | none => some .empty
  | some (.array _) => none
  | some value => do
    let entries ← (← fields? [] value).mapM fun (name, value) =>
      (text? value).map fun text => (name, text)
    return .ofList entries

def ofDocument? (document : List (String × Value)) : Option Settings := do
  let listener ← section? document "listener" ["bind_address"]
  let timeouts ← section? document "timeouts" ["request_secs"]
  let limits ← section? document "limits" ["max_body_size"]
  let observability ← section? document "observability"
    ["log_level", "metrics_enabled", "metrics_address"]
  let deployment ← section? document "deployment" ["hot_reload"]
  return {
    bindAddress := ← field? text? listener "bind_address" default.bindAddress
    requestSeconds := ← field? count? timeouts "request_secs" default.requestSeconds
    maxBodySize := ← field? count? limits "max_body_size" default.maxBodySize
    logLevel := ← field? text? observability "log_level" default.logLevel
    metricsEnabled := ← field? flag? observability "metrics_enabled" default.metricsEnabled
    metricsAddress := ← field? text? observability "metrics_address" default.metricsAddress
    hotReload := ← field? flag? deployment "hot_reload" default.hotReload
    aliases := ← aliases? document }

def ofToml? (text : String) : Option Settings :=
  match Toml.parse? text with
  | some (.table document) => ofDocument? document
  | _ => none

end Switchboard.Settings
