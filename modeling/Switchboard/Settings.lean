import Switchboard.Dictionary
import Switchboard.Json.Value

/-! What can be configured, and the values used where nothing is said. -/

namespace Switchboard

structure Settings where
  bindAddress : String
  requestSeconds : Nat
  maxBodySize : Nat
  logLevel : String
  metricsEnabled : Bool
  metricsAddress : String
  hotReload : Bool
  aliases : Dictionary String
  deriving DecidableEq

namespace Settings

def default : Settings where
  bindAddress := "0.0.0.0:8080"
  requestSeconds := 30
  maxBodySize := 1048576
  logLevel := "info"
  metricsEnabled := false
  metricsAddress := "0.0.0.0:9090"
  hotReload := false
  aliases := .empty

def json (settings : Settings) : Json :=
  .ofMembers
    [("listener", .ofMembers [("bind_address", .string settings.bindAddress)]),
      ("timeouts", .ofMembers [("request_secs", .integer settings.requestSeconds)]),
      ("limits", .ofMembers [("max_body_size", .integer settings.maxBodySize)]),
      ("observability", .ofMembers
        [("log_level", .string settings.logLevel),
          ("metrics_enabled", .boolean settings.metricsEnabled),
          ("metrics_address", .string settings.metricsAddress)]),
      ("deployment", .ofMembers [("hot_reload", .boolean settings.hotReload)]),
      ("aliases", .ofMembers
        (settings.aliases.entries.map fun (name, specifier) => (name, .string specifier)))]

def logFilter (level : String) : String :=
  "exchange_adapter=" ++ level.toLower ++ ",tower_http=" ++ level.toLower

end Settings

end Switchboard
