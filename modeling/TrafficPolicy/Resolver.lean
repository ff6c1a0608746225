import TrafficPolicy.AppId
import TrafficPolicy.Error

/-!
# Lookups

A policy names programs by path and hosts by name. A `Resolver` turns them into what filters can
match. `Looked` is the result of work that may look things up: every lookup is listed in the order
in which it was made, failed ones too. `LookupTable` is a resolver that knows a fixed list of
programs and hosts.
-/

namespace TrafficPolicy

/-- Answers to lookups. -/
structure Resolver where
  appId : Path → Except PolicyError AppId
  hostAddresses : String → Except PolicyError (List Address)

/-- One question to a resolver. -/
inductive Lookup where
  | app (path : Path)
  | host (name : String)
  deriving DecidableEq, Repr

/-- An outcome, with the lookups that were made for it. -/
structure Looked (α : Type) where
  lookups : List Lookup
  result : Except PolicyError α

namespace Looked

/-- An outcome that needs no lookup. -/
def ofExcept {α : Type} (result : Except PolicyError α) : Looked α :=
  ⟨[], result⟩

/-- Goes on with a value, if there is one. -/
def bind {α β : Type} (looked : Looked α) (next : α → Looked β) : Looked β :=
  match looked.result with
  | .error error => ⟨looked.lookups, .error error⟩
  | .ok value => ⟨looked.lookups ++ (next value).lookups, (next value).result⟩

instance : Monad Looked where
  pure value := ofExcept (.ok value)
  bind := bind

/-- Asks for the identity of an application. -/
def appId (resolver : Resolver) (path : Path) : Looked AppId :=
  ⟨[.app path], resolver.appId path⟩

/-- Asks for the addresses of a host. -/
def hostAddresses (resolver : Resolver) (name : String) : Looked (List Address) :=
  ⟨[.host name], resolver.hostAddresses name⟩

end Looked

/-- Known programs and hosts, the latest entry first. -/
structure LookupTable where
  apps : List (Path × AppId) := []
  hosts : List (String × List Address) := []

namespace LookupTable

/-- The table with one more program. -/
def addApp (table : LookupTable) (path : Path) : LookupTable :=
  { table with apps := (path, AppId.ofPath path) :: table.apps }

/-- The table with one more host; names of hosts are compared without regard to case. -/
def addHost (table : LookupTable) (name : String) (addresses : List Address) : LookupTable :=
  { table with hosts := (Text.asciiLowercase name, addresses) :: table.hosts }

/-- The identity that the table has for a path. -/
def appId (table : LookupTable) (path : Path) : Except PolicyError AppId :=
  match table.apps.find? (·.1.same path) with
  | some (_, id) => .ok id
  | none => .error (.resolutionFailed path.display .missingFile)

/-- The addresses that the table has for a host. A host without addresses is unknown. -/
def hostAddresses (table : LookupTable) (name : String) : Except PolicyError (List Address) :=
  match table.hosts.find? (·.1 = Text.asciiLowercase name) with
  | some (_, address :: addresses) => .ok (address :: addresses)
  | _ => .error (.resolutionFailed name .unknownHost)

/-- The table as a resolver. -/
def resolver (table : LookupTable) : Resolver where
  appId := table.appId
  hostAddresses := table.hostAddresses

end LookupTable

end TrafficPolicy
