import NetworkPolicy.Http.Exchange
import NetworkPolicy.Startup
import Std.Http.Server

/-!
# The program

Starts a server from the command line and lets it answer over the network until it is told to end.
Nothing is decided here: bytes are received, handed to the library, and what it answers is sent.
Collaborators are called over connections that are not encrypted; others cannot be called.
-/

namespace NetworkPolicy.Main

open Std.Async

/-! ## Calling collaborators -/

partial def receiveAll (client : TCP.Socket.Client) (received : List UInt8) :
    Async (List UInt8) := do
  match ← client.recv? 65536 with
  | some bytes => receiveAll client (received ++ bytes.toList)
  | none => return received

/-- The reply to a call of a host with a known address. -/
def exchangeWith (address : Std.Net.SocketAddress) (c : Call) : Async (Option Reply) := do
  let client ← TCP.Socket.Client.mk
  client.connect address
  client.send c.message.toByteArray
  return Reply.ofMessage? (← receiveAll client [])

/-- The address of a host with a port. -/
def socketAddress (port : UInt16) : Std.Net.IPAddr → Std.Net.SocketAddress
  | .v4 addr => .v4 ⟨addr, port⟩
  | .v6 addr => .v6 ⟨addr, port⟩

/-- The reply to a call, unless it fails or takes more than `timeout` milliseconds. -/
def exchange (timeout : Nat) (c : Call) : Async (Option Reply) := do
  if c.url.secure then return none
  try
    let (host, port) := c.url.hostAndPort
    match (← DNS.getAddrInfo host (toString port))[0]? with
    | none => return none
    | some address =>
      let late : Async (Option Reply) := do
        sleep (.ofNat timeout)
        return none
      Async.race (exchangeWith (socketAddress port address) c) late
  catch _ => return none

/-! ## Answering requests -/

/-- Carries out a step.  The state is held by one step at a time, and not while a collaborator is
asked. -/
def perform (state : Std.Mutex Server) (remote : Remote) (timeout : Nat) :
    (step : Step) → Async step.Answer
  | .lookup q => remote.answer (exchange timeout) q
  | step => state.atomically do
    let (answer, server) :=
      ((Server.perform (m := Id) (fun q => (Except.error .unsent : q.Answer)) step).run (← get)).run
    set server
    return answer

/-- The chunks of a body, up to the first that goes beyond `allowance` bytes. -/
partial def receiveBody (body : Std.Http.Body.Stream) (allowance : Nat) :
    Async (List (List UInt8)) := do
  match ← body.recv with
  | none => return []
  | some chunk =>
    if allowance < chunk.data.size then return [chunk.data.toList]
    else return chunk.data.toList :: (← receiveBody body (allowance - chunk.data.size))

def receive (limit : Nat) (r : Std.Http.Request Std.Http.Body.Stream) : Async Http.Request := do
  let (path, query) := Http.Request.splitTarget (toString r.line.uri)
  let body : Http.Body ←
    try
      pure ⟨← receiveBody r.body limit, none⟩
    catch e => pure ⟨[], some (toString e)⟩
  let headers := r.line.headers.toList.map fun (name, value) => (name.value, value.value)
  return { method := toString r.line.method, path, query, headers, body }

def send (r : Http.Response) : Async (Std.Http.Response Std.Http.Body.Any) := do
  let status := (Std.Http.Status.ofCode none (.ofNat r.status.code)).getD .internalServerError
  let builder := (Std.Http.Response.new).status status
  let builder := match r.payload.contentType? with
    | some type => builder.header! "content-type" type
    | none => builder
  let response ← builder.fromBytes r.payload.body.toUTF8
  return response

def respond (state : Std.Mutex Server) (settings : Settings) (api : Api)
    (r : Std.Http.Request Std.Http.Body.Stream) :
    Async (Std.Http.Response Std.Http.Body.Any) := do
  let request ← receive settings.bodyLimit r
  if api = .admin then send ((← state.atomically get).administer request)
  else
    let program := api.answer settings.bodyLimit request
    send (← program.runM (perform state settings.remote settings.timeout))

/-! ## Starting and ending -/

/-- An address to listen on.  A scope cannot be given to a socket. -/
def listenAddress : SocketAddress → Std.Net.SocketAddress
  | .v4 octets port => .v4 ⟨⟨octets⟩, port⟩
  | .v6 groups _ port => .v6 ⟨⟨groups⟩, port⟩

/-- A socket that listens for one of the services. -/
abbrev Listener := Api × TCP.Socket.Server

/-- This machine.  Sockets that listen are added to `listeners`. -/
def host (listeners : IO.Ref (List Listener)) : Host IO where
  contentOf path := do
    try
      return some (← IO.FS.readBinFile path).toList
    catch _ => return none
  listen api address := do
    try
      let socket ← TCP.Socket.Server.mk
      socket.bind (listenAddress address)
      socket.listen 1024
      listeners.modify ((api, socket) :: ·)
      return true
    catch _ => return false

/-- Serves the connections that come in at a socket. -/
partial def accept (state : Std.Mutex Server) (settings : Settings) (listener : Listener) :
    ContextAsync Unit := do
  let client ← listener.2.accept
  let handler := Std.Http.Server.Handler.ofFn fun r => respond state settings listener.1 r
  ContextAsync.background (Std.Http.Server.serveConnection client handler {})
  accept state settings listener

/-- Waits until the program is told to end. -/
def awaitEnd : Async Unit := do
  let interrupt ← Signal.Waiter.mk .sigint false
  let terminate ← Signal.Waiter.mk .sigterm false
  Selectable.one #[
    .case interrupt.selector fun _ => return (),
    .case terminate.selector fun _ => return ()]

/-- Serves all services until the program is told to end. -/
def serve (server : Server) (settings : Settings) (listeners : List Listener) : Async Unit := do
  let state ← Std.Mutex.new server
  ContextAsync.run do
    for listener in listeners do
      ContextAsync.background (accept state settings listener)
    awaitEnd
    ContextAsync.cancel .shutdown

/-- The values of the environment variables that can give a flag its value. -/
def environment : IO (List (String × String)) :=
  (Flag.all.filterMap Flag.environmentName?).filterMapM fun name => do
    return (← IO.getEnv name).map (name, ·)

/-- The code with which the program ends when it does not start. -/
def exitCode : StartFault → UInt32
  | .arguments _ => 2
  | _ => 1

end NetworkPolicy.Main

open NetworkPolicy in
def main (arguments : List String) : IO UInt32 := do
  let listeners ← IO.mkRef []
  match ← (Startup.run (Main.host listeners) arguments (← Main.environment)).run with
  | .error fault =>
    IO.eprintln s!"error: {fault.message}"
    return Main.exitCode fault
  | .ok (settings, server) =>
    (Main.serve server settings (← listeners.get)).block
    return 0
