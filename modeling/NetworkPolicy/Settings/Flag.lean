import NetworkPolicy.Settings.Duration
import NetworkPolicy.Settings.LogFilter
import NetworkPolicy.Settings.SocketAddress
import NetworkPolicy.Store

/-!
# Flags

The settings that can be given on the command line, each with its name, with what its value means,
with the environment variable that can give it too, and with its default.

* `Flag` — the flags.
* `Flag.Value`, `Flag.read` — the values of a flag and how they are written.
* `Flag.environmentName?`, `Flag.default?` — where the value comes from when the flag is not given.
-/

namespace NetworkPolicy

/-- How the log is written. -/
inductive LogFormat where
  | plain
  | json
  deriving DecidableEq, Repr

/-- A setting of the command line. -/
inductive Flag where
  | logFilter
  | logFormat
  | externalAddress
  | internalAddress
  | adminAddress
  | identityUrl
  | clientName
  | clientSecret
  | directoryUrl
  | tagWidth
  | caFile
  | timeout
  | bodyLimit
  deriving DecidableEq, Repr

namespace Flag

def all : List Flag := [
  logFilter, logFormat, externalAddress, internalAddress, adminAddress, identityUrl, clientName,
  clientSecret, directoryUrl, tagWidth, caFile, timeout, bodyLimit]

/-- The name of a flag on the command line, without the dashes in front of it. -/
def name : Flag → String
  | .logFilter => "log-level"
  | .logFormat => "log-format"
  | .externalAddress => "listen-addr"
  | .internalAddress => "internal-listen-addr"
  | .adminAddress => "admin-addr"
  | .identityUrl => "uaa-url"
  | .clientName => "uaa-client"
  | .clientSecret => "uaa-client-secret"
  | .directoryUrl => "cc-url"
  | .tagWidth => "tag-length"
  | .caFile => "upstream-ca-file"
  | .timeout => "request-timeout"
  | .bodyLimit => "max-body-bytes"

def ofName? (name : String) : Option Flag := all.find? (·.name = name)

/-! ## Values -/

def Value : Flag → Type
  | .logFilter => String
  | .logFormat => LogFormat
  | .externalAddress | .internalAddress | .adminAddress => SocketAddress
  | .identityUrl | .clientName | .clientSecret | .directoryUrl => String
  | .tagWidth => TagWidth
  | .caFile => String
  | .timeout => Nat
  | .bodyLimit => Nat

/-- The way in which the log is written that a name stands for. -/
def logFormat? : String → Option LogFormat
  | "plain" => some .plain
  | "json" => some .json
  | _ => none

/-- What a text says as the value of a flag. -/
def read : (flag : Flag) → String → Option flag.Value
  | .logFilter, text => if LogFilter.isValid text then some text else none
  | .logFormat, text => logFormat? text
  | .externalAddress, text | .internalAddress, text | .adminAddress, text =>
    SocketAddress.parse? text
  | .identityUrl, text | .clientName, text | .clientSecret, text | .directoryUrl, text => some text
  | .tagWidth, text => (Text.readBounded 4 text.toList).toOption.bind TagWidth.ofNat?
  | .caFile, text => some text
  | .timeout, text => (Duration.parse text).toOption
  | .bodyLimit, text => (Text.readBounded Text.maxWord text.toList).toOption

/-- Whether a flag cannot have the empty text as its value. -/
def needsText (flag : Flag) : Bool := flag = .caFile

/-! ## Values of flags that are not given -/

/-- The environment variable that gives the value of a flag. -/
def environmentName? : Flag → Option String
  | .logFilter => some "NETMAN_POLICY_SERVER_LOG"
  | .clientSecret => some "UAA_CLIENT_SECRET"
  | _ => none

/-- The address of this machine on all its interfaces, with a port. -/
def everywhere (port : UInt16) : SocketAddress := .v4 #v[0, 0, 0, 0] port

/-- The value of a flag that nothing gives. -/
def default? : (flag : Flag) → Option flag.Value
  | .logFilter => some "netman=info,warn"
  | .logFormat => some LogFormat.plain
  | .externalAddress => some (everywhere 4002)
  | .internalAddress => some (everywhere 4003)
  | .adminAddress => some (everywhere 9990)
  | .clientName => some "network-policy"
  | .tagWidth => some (⟨2, by omega, by omega⟩ : TagWidth)
  | .timeout => some (5000 : Nat)
  | .bodyLimit => some (1048576 : Nat)
  | .identityUrl | .clientSecret | .directoryUrl | .caFile => none

end Flag

end NetworkPolicy
