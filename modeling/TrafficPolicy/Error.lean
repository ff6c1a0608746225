import TrafficPolicy.Network
import TrafficPolicy.Path
import TrafficPolicy.Scope
import TrafficPolicy.Text.Numeral
import TrafficPolicy.Text.Quoted

/-!
# Errors

Every way in which making, compiling or installing a policy can fail is a value of `PolicyError`:
which of seven codes it has, and the cause. `PolicyError.message` is the wording. A constructor
`other` stands for a cause that is not the library's own, in the words of whoever reported it.
-/

namespace TrafficPolicy

/-- Why the arguments of a call are refused. -/
inductive ArgumentFault where
  | noValues
  | emptyAddressSet
  | addressOutside (address : Address) (scope : Scope)
  | resolverOutside (address : Address) (scope : Scope)
  | subnetOutside (network : Network) (scope : Scope)
  | portZero
  | emptyPath
  | emptyHostName
  | longHostName
  | badHostName (name : String)
  | other (text : String)
  deriving DecidableEq, Repr

/-- The wording of an argument's fault. -/
def ArgumentFault.text : ArgumentFault → String
  | noValues => "no values given"
  | emptyAddressSet => "empty address set"
  | addressOutside address scope => s!"address {address} is outside the {scope.label} scope"
  | resolverOutside address scope => s!"resolver {address} is outside the {scope.label} scope"
  | subnetOutside network scope => s!"subnet {network} is outside the {scope.label} scope"
  | portZero => "port 0"
  | emptyPath => "empty path"
  | emptyHostName => "empty host name"
  | longHostName => "host name longer than 253 bytes"
  | badHostName name => s!"invalid host name: {name}"
  | other text => text

/-- Why directives that are well-formed do not make a policy. -/
inductive PolicyFault where
  | weightsNotOrdered (deny allow : UInt8)
  | zeroNameWeight (index : Nat)
  | pairMisplaced (index : Nat) (kind : String)
  | weightsExhausted (index : Nat)
  | noResolver
  | noDenyWeight
  | other (text : String)
  deriving DecidableEq, Repr

/-- The wording of a policy's fault. -/
def PolicyFault.text : PolicyFault → String
  | weightsNotOrdered deny allow =>
    s!"dns allow weight ({allow}) must be greater than deny weight ({deny})"
  | zeroNameWeight index => s!"directive #{index}: dns weight 0 leaves no room for the deny filters"
  | pairMisplaced index kind => s!"directive #{index}: weight pair only applies to dns, got {kind}"
  | weightsExhausted index => s!"directive #{index}: weight space exhausted (max 255)"
  | noResolver => "dns under an ipv6-only scope needs an explicit ipv6 resolver"
  | noDenyWeight => "dns directive without a deny weight"
  | other text => text

/-- Why the system refuses to use a path or a name. -/
inductive SystemError where
  | notFound
  | notADirectory
  | isADirectory
  | nameTooLong
  | tooManyLinks
  | permissionDenied
  | nulByte
  | notUtf8
  | other (text : String)
  deriving DecidableEq, Repr

/-- The wording of a system error. -/
def SystemError.text : SystemError → String
  | notFound => "No such file or directory (os error 2)"
  | notADirectory => "Not a directory (os error 20)"
  | isADirectory => "Is a directory (os error 21)"
  | nameTooLong => "File name too long (os error 36)"
  | tooManyLinks => "Too many levels of symbolic links (os error 40)"
  | permissionDenied => "Permission denied (os error 13)"
  | nulByte => "file name contained an unexpected NUL byte"
  | notUtf8 => "stream did not contain valid UTF-8"
  | other text => text

/-- Why an application or a host cannot be looked up. -/
inductive LookupFault where
  | missingFile
  | notAFile
  | unknownHost
  | nothingInScope (scope : Scope)
  | system (error : SystemError)
  | other (text : String)
  deriving DecidableEq, Repr

/-- The wording of a lookup's fault. -/
def LookupFault.text : LookupFault → String
  | missingFile => "file does not exist"
  | notAFile => "not a regular file"
  | unknownHost => "unknown host"
  | nothingInScope scope => s!"no addresses within the {scope.label} scope"
  | system error => error.text
  | other text => text

/-- Why a directive has no filters that could stand for it. -/
inductive UnsupportedFault where
  | noMapping
  | ipv4Only
  | other (text : String)
  deriving DecidableEq, Repr

/-- The wording of a missing mapping. -/
def UnsupportedFault.text : UnsupportedFault → String
  | noMapping => "no compiler mapping for this action"
  | ipv4Only => "ipv4-only directive under an ipv6-only scope"
  | other text => text

/-- What is wrong with a settings file. -/
inductive ConfigFault where
  | unreadable (path : Path) (error : SystemError)
  | notYaml
  | notAnAddress (field text : String)
  | emptyTrustedApp
  | emptySessionName
  | other (text : String)
  deriving DecidableEq, Repr

/-- The wording of a settings file's fault. -/
def ConfigFault.text : ConfigFault → String
  | unreadable path error => s!"read {path.display} failed: {error.text}"
  | notYaml => "invalid yaml"
  | notAnAddress field text => s!"{field} must be an IP address, got {Text.quote text}"
  | emptyTrustedApp => "firewall.trusted_apps entries must not be empty"
  | emptySessionName => "session.name must not be empty"
  | other text => text

/-- What a classification engine answers when it refuses a call. -/
structure EngineError where
  code : UInt32
  text : String
  deriving DecidableEq, Repr

/-- An engine's code as it is written in messages and answers. -/
def EngineError.codeText (error : EngineError) : String :=
  s!"0x{Text.hexPadded 8 error.code.toNat}"

/-- The wording of an engine's refusal. -/
def EngineError.message (error : EngineError) : String :=
  s!"{error.text} (code {error.codeText})"

/-- Why there is no policy, or why it is not in force. -/
inductive PolicyError where
  | invalidArgument (call : String) (fault : ArgumentFault)
  | invalidPolicy (fault : PolicyFault)
  | resolutionFailed (target : String) (fault : LookupFault)
  | unsupportedDirective (kind action : String) (fault : UnsupportedFault)
  | install (call : String) (error : EngineError)
  | config (fault : ConfigFault)
  | unsupportedVersion
  deriving DecidableEq, Repr

namespace PolicyError

/-- The stable name of an error's kind. -/
def code : PolicyError → String
  | invalidArgument .. => "INVALID_ARGUMENT"
  | invalidPolicy .. => "INVALID_POLICY"
  | resolutionFailed .. => "RESOLUTION_FAILED"
  | unsupportedDirective .. => "UNSUPPORTED_DIRECTIVE"
  | install .. => "INSTALL_FAILED"
  | config .. => "BAD_CONFIG"
  | unsupportedVersion => "UNSUPPORTED_VERSION"

/-- The wording of an error. -/
def message : PolicyError → String
  | invalidArgument call fault => s!"invalid argument to {call}: {fault.text}"
  | invalidPolicy fault => s!"invalid policy: {fault.text}"
  | resolutionFailed target fault => s!"failed to resolve {target}: {fault.text}"
  | unsupportedDirective kind action fault =>
    s!"unsupported directive {action} {kind}: {fault.text}"
  | install call error =>
    s!"install failed during {call} (code {error.codeText}): {error.text}"
  | config fault => s!"config: {fault.text}"
  | unsupportedVersion => "unsupported settings version"

end PolicyError

end TrafficPolicy
