import TrafficPolicy.Install
import TrafficPolicy.Settings
import TrafficPolicy.Yaml.Decode

/-!
# Settings files

A `Config` is a settings file: a version, the settings of the kill switch, and what to call the
session. `Config.parse` reads one from YAML and checks it. Unknown fields are refused.
-/

namespace TrafficPolicy

/-- What a settings file says of the session. -/
structure SessionNames where
  name : String := "hfence"
  description : String := "hfence dynamic session"
  deriving DecidableEq, Repr

namespace SessionNames

/-- Checks that a session has a name. -/
def validate (session : SessionNames) : Except PolicyError Unit :=
  if (Text.trim session.name).isEmpty then .error (.config .emptySessionName) else .ok ()

/-- How the session and what it registers are called. -/
def installOptions (session : SessionNames) : InstallOptions :=
  { sessionName := session.name, sessionDescription := session.description }

end SessionNames

/-- The contents of a settings file. -/
structure Config where
  version : Nat
  settings : Settings := {}
  session : SessionNames := {}
  deriving DecidableEq, Repr

namespace Config

open Yaml

/-- The settings in a node. -/
def settings? (root node : Node) : Option Settings := do
  let names := ["enable_kill_switch", "allow_lan", "primary_dns", "secondary_dns",
    "tunnel_interface", "allow_ikev2", "trusted_apps"]
  let fields ← Node.fields? names root node
  let interface (root node : Node) := (Node.nat? UInt64.size root node).map Nat.toUInt64
  let path (root node : Node) := (Node.text? root node).map Path.ofString
  return {
    enableKillSwitch := ← Node.field? fields "enable_kill_switch" false (Node.bool? root)
    allowLan := ← Node.field? fields "allow_lan" true (Node.bool? root)
    primaryDns := ← Node.field? fields "primary_dns" "" (Node.text? root)
    secondaryDns := ← Node.field? fields "secondary_dns" "" (Node.text? root)
    tunnelInterface := ← Node.field? fields "tunnel_interface" none (Node.option? interface root)
    allowIkev2 := ← Node.field? fields "allow_ikev2" true (Node.bool? root)
    trustedApps := ← Node.field? fields "trusted_apps" [] (Node.list? path root) }

/-- The names of the session in a node. -/
def session? (root node : Node) : Option SessionNames := do
  let fields ← Node.fields? ["name", "description"] root node
  return {
    name := ← Node.field? fields "name" ({} : SessionNames).name (Node.text? root)
    description :=
      ← Node.field? fields "description" ({} : SessionNames).description (Node.text? root) }

/-- The settings file that a document is. -/
def ofNode? (root : Node) : Option Config := do
  let fields ← Node.fields? ["version", "firewall", "session"] root root
  return {
    version := ← Node.nat? UInt32.size root (← fields.lookup "version")
    settings := ← Node.field? fields "firewall" {} (settings? root)
    session := ← Node.field? fields "session" {} (session? root) }

/-- Checks what the types of the fields leave open. -/
def validate (config : Config) : Except PolicyError Unit := do
  if config.version ≠ 1 then throw .unsupportedVersion
  config.settings.validate
  config.session.validate

/-- Reads and checks a settings file. -/
def parse (text : String) : Except PolicyError Config := do
  match Yaml.document? text >>= ofNode? with
  | none => throw (.config .notYaml)
  | some config =>
    config.validate
    return config

end Config

end TrafficPolicy
