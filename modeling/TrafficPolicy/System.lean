import TrafficPolicy.Resolver

/-!
# The system around a policy

A `System` answers what a policy needs to know of the machine it is compiled on: the bytes of a
file, and the path without links that a path leads to. `System.resolver` looks programs up there.
A host is looked up only if it is written as an address; no name service belongs to the system.
-/

namespace TrafficPolicy

/-- A file that a path leads to: its path without links, and whether it is a regular file. -/
structure FoundFile where
  path : Path
  isRegular : Bool
  deriving DecidableEq, Repr

/-- Answers about files. -/
structure System where
  read : Path → Except SystemError (List UInt8)
  find : Path → Except SystemError FoundFile

namespace System

/-- The text of a file. -/
def readText (system : System) (path : Path) : Except SystemError String := do
  match Utf8.decode? (← system.read path) with
  | some text => return text
  | none => throw .notUtf8

/-- The identity of the program at a path. -/
def appId (system : System) (path : Path) : Except PolicyError AppId :=
  match system.find path with
  | .error error => .error (.resolutionFailed path.display (.system error))
  | .ok found =>
    if found.isRegular then .ok (AppId.ofPath found.path)
    else .error (.resolutionFailed path.display .notAFile)

/-- The reason that a name service gives for a name it does not know. -/
def unknownName : LookupFault :=
  .other "failed to lookup address information: Name or service not known"

/-- The addresses of a host that is written as an address. -/
def hostAddresses (name : String) : Except PolicyError (List Address) :=
  match Address.parse? name with
  | some address => .ok [address]
  | none =>
    if name.toList.contains (Char.ofNat 0) then .error (.resolutionFailed name (.system .nulByte))
    else .error (.resolutionFailed name unknownName)

/-- The system as a resolver. -/
def resolver (system : System) : Resolver where
  appId := system.appId
  hostAddresses := hostAddresses

end System

end TrafficPolicy
