import TrafficPolicy.Address.Parser
import TrafficPolicy.Builder
import TrafficPolicy.Text.Blank

/-!
# Settings

`Settings` is what the user of a kill switch can choose: everything is blocked but what the
settings let through. `Settings.builder` is the policy that stands for them.
-/

namespace TrafficPolicy

/-- What a kill switch lets through. -/
structure Settings where
  enableKillSwitch : Bool := false
  allowLan : Bool := true
  primaryDns : String := ""
  secondaryDns : String := ""
  /-- The interface of the tunnel. -/
  tunnelInterface : Option UInt64 := none
  allowIkev2 : Bool := true
  /-- The programs that are always let through. -/
  trustedApps : List Path := []
  deriving DecidableEq, Repr

namespace Settings

/-- Whether two settings ask for the same: paths are compared by their components. -/
def same (settings other : Settings) : Bool :=
  settings.enableKillSwitch = other.enableKillSwitch && settings.allowLan = other.allowLan &&
    settings.primaryDns = other.primaryDns && settings.secondaryDns = other.secondaryDns &&
    settings.tunnelInterface = other.tunnelInterface && settings.allowIkev2 = other.allowIkev2 &&
    settings.trustedApps.map (·.components) = other.trustedApps.map (·.components)

/-- Checks that the entry for a name server is blank or an address. -/
def checkResolver (field entry : String) : Except PolicyError Unit :=
  let entry := Text.trim entry
  if entry.isEmpty || (Address.parse? entry).isSome then .ok ()
  else .error (.config (.notAnAddress field entry))

/-- Checks what the types of the fields leave open. -/
def validate (settings : Settings) : Except PolicyError Unit := do
  checkResolver "firewall.primary_dns" settings.primaryDns
  checkResolver "firewall.secondary_dns" settings.secondaryDns
  if settings.trustedApps.any (·.isEmpty) then .error (.config .emptyTrustedApp) else .ok ()

/-- The name servers of the settings, the primary one first. Entries that are no address are
skipped. -/
def nameServers (settings : Settings) : List Address :=
  [settings.primaryDns, settings.secondaryDns].filterMap fun entry =>
    Address.parse? (Text.trim entry)

/-- The policy of the settings: all is blocked, and what the settings let through is allowed. -/
def builder (settings : Settings) : Builder :=
  let start := Builder.empty.block.all.allow.localhost
  let tunnel := match settings.tunnelInterface with
    | some index => start.interface [index]
    | none => start
  let ikev2 := if settings.allowIkev2 then tunnel.ikev2 else tunnel
  let names := match settings.nameServers with
    | [] => ikev2.nameResolution
    | servers => ikev2.nameResolutionVia servers
  let lan := if settings.allowLan then names.localAreaNetwork else names
  if settings.trustedApps.isEmpty then lan else lan.application settings.trustedApps

end Settings

end TrafficPolicy
