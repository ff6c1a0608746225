import TrafficPolicy.Plan

/-!
# The command line

`main` shows the plan of the settings file it is given. It asks the machine for the bytes of that
file and for the programs that the settings trust, makes a `System` of the answers, and leaves the
rest to `Plan.run`.
-/

namespace TrafficPolicy

/-- The number of a refusal. Some calls give it negated. -/
def refusalNumber (code : UInt32) : Nat :=
  min code.toNat (UInt32.size - code.toNat)

/-- The cause of a call that the machine refused. -/
def SystemError.ofFailure : IO.Error → SystemError
  | .noFileOrDirectory .. => .notFound
  | .permissionDenied .. => .permissionDenied
  | .inappropriateType _ code _ =>
    if refusalNumber code = 21 then .isADirectory else .notADirectory
  | .invalidArgument _ code details =>
    match refusalNumber code with
    | 36 => .nameTooLong
    | 40 => .tooManyLinks
    | _ => .other details
  | failure => .other (toString failure)

/-- The bytes of a file of the machine. -/
def readMachine (path : Path) : IO (Except SystemError (List UInt8)) := do
  if path.bytes.contains 0 then return .error .nulByte
  try return .ok (← IO.FS.readBinFile path.display).toList
  catch failure => return .error (SystemError.ofFailure failure)

/-- The file of the machine that a path leads to. -/
def findMachine (path : Path) : IO (Except SystemError FoundFile) := do
  if path.bytes.contains 0 then return .error .nulByte
  try
    let isRegular := (← (System.mkFilePath [path.display]).metadata).type == .file
    return .ok ⟨Path.ofString (← IO.FS.realPath path.display).toString, isRegular⟩
  catch failure => return .error (SystemError.ofFailure failure)

/-- What the machine answers about a settings file and the programs that it trusts. -/
def askMachine (path : Path) : IO System := do
  let bytes ← readMachine path
  let system : System := { read := fun _ => bytes, find := fun _ => .error .notFound }
  match Plan.load system path with
  | .error _ => return system
  | .ok config =>
    let found ← config.settings.trustedApps.mapM fun app => return (app, ← findMachine app)
    return { system with find := fun app => (found.lookup app).getD (.error .notFound) }

end TrafficPolicy

/-- Shows the plan of the settings file given first, or complains. -/
def main (arguments : List String) : IO UInt32 := do
  let system ← TrafficPolicy.askMachine (TrafficPolicy.Path.ofString (arguments.headD ""))
  let outcome := TrafficPolicy.Plan.run system arguments
  if let some output := outcome.output then IO.println output.pretty
  if let some complaint := outcome.complaint then IO.eprintln complaint
  return outcome.status.toUInt32
