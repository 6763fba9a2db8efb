import NetworkPolicy.Access.Remote

/-!
# Calls and replies as bytes

How a call is written to a connection that is closed after the reply, and how that reply is read.

* `Url.hostAndPort` — what to connect to.
* `Call.message` — the bytes of a call.
* `Reply.ofMessage?` — the reply that bytes spell.
-/

namespace NetworkPolicy

/-- The host and the port of an address. -/
def Url.hostAndPort (url : Url) : String × UInt16 :=
  let host := url.authority.host.toList.filter fun c => c ≠ '[' && c ≠ ']'
  (String.ofList host, url.authority.port.getD (Authority.defaultPort url.secure))

/-- The values of the headers that say who sends a call.  What its address says comes first. -/
def Call.authorizations (c : Call) : List String :=
  (c.url.authority.credentials.map fun (name, password) =>
    Remote.basicCredentials name password).toList ++ [c.authorization]

def Call.message (c : Call) : List UInt8 :=
  let body := Utf8.bytes c.body.toList
  let content := match c.contentType with
    | some type => ["content-type: " ++ type, "content-length: " ++ toString body.length]
    | none => []
  let head := [c.method ++ " " ++ c.url.target ++ " HTTP/1.0", "host: " ++ c.url.authority.text,
    "accept: " ++ Call.accept] ++ c.authorizations.map ("authorization: " ++ ·) ++ content
  Utf8.bytes (String.join (head.map (· ++ "\r\n") ++ ["\r\n"])).toList ++ body

/-- The bytes before the first empty line, and those behind it. -/
def Reply.splitHead? (head : List UInt8) : List UInt8 → Option (List UInt8 × List UInt8)
  | 13 :: 10 :: 13 :: 10 :: body => some (head.reverse, body)
  | b :: rest => splitHead? (b :: head) rest
  | [] => none

/-- The reply that bytes spell: the status is the second word of the first line. -/
def Reply.ofMessage? (bytes : List UInt8) : Option Reply := do
  let (head, body) ← splitHead? [] bytes
  let status := ((head.dropWhile (· ≠ 32)).drop 1).takeWhile (· ≠ 32)
  let code ← (Text.readBounded 999 (status.map fun b => Char.ofNat b.toNat)).toOption
  return ⟨code, body⟩

end NetworkPolicy
