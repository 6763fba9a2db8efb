import NetworkPolicy.Server
import NetworkPolicy.Settings.Arguments
import NetworkPolicy.Trust.Bundle

/-!
# Starting a server

From arguments to a server that can be asked, or the first thing that is in the way: the arguments,
the file of certificates, the certificates, and then the addresses of the admin, the external and
the internal service.

* `Host` — what starting needs of the machine, in any monad.
* `StartFault` — what is in the way.
* `Startup.run` — the start.
-/

namespace NetworkPolicy

/-- What starting needs of the machine. -/
structure Host (m : Type → Type) where
  /-- The content of a file, if it can be read. -/
  contentOf : String → m (Option (List UInt8))
  /-- Begins to listen for one of the services; whether that worked. -/
  listen : Api → SocketAddress → m Bool

/-- Why a server does not start. -/
inductive StartFault where
  | arguments (cause : ArgumentFault)
  | unreadable (path : String)
  | bundle (cause : Trust.BundleFault)
  | unbindable (address : SocketAddress)
  deriving DecidableEq, Repr

/-- The wording of a fault, without what caused it. -/
def StartFault.message : StartFault → String
  | .arguments cause => cause.message
  | .unreadable path => s!"failed to read {path}"
  | .bundle _ => "failed to build upstream HTTP client"
  | .unbindable address => s!"failed to bind {address.render}"

namespace Startup

variable {m : Type → Type} [Monad m]

def trust (host : Host m) (s : Settings) : ExceptT StartFault m (List (List UInt8)) := do
  match s.caFile with
  | none => return []
  | some path =>
    match ← host.contentOf path with
    | none => throw (.unreadable path)
    | some bytes => ExceptT.mk (pure ((Trust.certificates bytes).mapError .bundle))

def listen (host : Host m) (api : Api) (address : SocketAddress) : ExceptT StartFault m Unit := do
  if ← host.listen api address then return ()
  else throw (.unbindable address)

/-- The server that settings ask for, once all of its services are listened for. -/
def ofSettings (host : Host m) (s : Settings) : ExceptT StartFault m Server := do
  let _ ← trust host s
  listen host .admin s.adminAddress
  listen host .external s.externalAddress
  listen host .internal s.internalAddress
  return .new s.tagWidth s.bodyLimit true

def run (host : Host m) (arguments : List String) (environment : List (String × String)) :
    ExceptT StartFault m (Settings × Server) := do
  let settings ← ExceptT.mk (pure ((Settings.read arguments environment).mapError .arguments))
  return (settings, ← ofSettings host settings)

end Startup

end NetworkPolicy
