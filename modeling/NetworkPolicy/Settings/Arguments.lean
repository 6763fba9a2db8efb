import NetworkPolicy.Access.Remote
import NetworkPolicy.Settings.Flag

/-!
# Settings from the command line

The arguments are read from the left.  A flag has its value behind `=` or as the next argument; in
the latter case it counts once the next flag or the end is reached, so an unknown argument in
between is reported first.  Flags that are not given take their values from the environment and then
from their defaults, and only then is it known whether one is missing.

* `ArgumentFault` — why the arguments are refused.
* `Settings` — the settings of a server.
* `Settings.read` — the settings that arguments and environment give.
-/

namespace NetworkPolicy

/-- Why arguments are refused. -/
inductive ArgumentFault where
  /-- An argument that is no flag, or that stands where none can stand. -/
  | unknown (argument : String)
  /-- A flag is given twice. -/
  | repeated (flag : Flag)
  /-- A flag has no value, or an empty one that says nothing. -/
  | noValue (flag : Flag)
  /-- A value does not say what its flag needs. -/
  | invalid (flag : Flag) (text : String)
  /-- A flag that has no default is not given. -/
  | required (flag : Flag)
  deriving DecidableEq, Repr

def ArgumentFault.message : ArgumentFault → String
  | .unknown argument => s!"unexpected argument '{argument}'"
  | .repeated flag => s!"the argument '--{flag.name}' cannot be used multiple times"
  | .noValue flag => s!"a value is required for '--{flag.name}'"
  | .invalid flag text => s!"invalid value '{text}' for '--{flag.name}'"
  | .required flag => s!"the argument '--{flag.name}' was not provided"

/-! ## Choices -/

/-- The values of the flags that have one. -/
abbrev Choices := (flag : Flag) → Option flag.Value

namespace Choices

def none : Choices := fun _ => Option.none

def set (c : Choices) (flag : Flag) (value : flag.Value) : Choices := fun other =>
  if h : flag = other then some (h ▸ value) else c other

/-- Gives a flag the value that a text spells. -/
def choose (c : Choices) (flag : Flag) (text : String) : Except ArgumentFault Choices :=
  if text.isEmpty && flag.needsText then .error (.noValue flag)
  else
    match flag.read text with
    | some value => .ok (c.set flag value)
    | Option.none => .error (.invalid flag text)

/-- The value of a flag, or its default. -/
def require (c : Choices) (flag : Flag) : Except ArgumentFault flag.Value :=
  match (c flag).or flag.default? with
  | some value => .ok value
  | Option.none => .error (.required flag)

end Choices

/-! ## Arguments -/

/-- How far the arguments have been read. -/
structure ArgumentReader where
  choices : Choices
  /-- A flag whose value is or would be an argument of its own, and that value. -/
  pending : Option (Flag × Option String)
  /-- Whether flags may still come. -/
  takesFlags : Bool

namespace ArgumentReader

/-- Before the first argument. -/
def start : ArgumentReader := ⟨.none, none, true⟩

/-- Gives a flag of the command line its value. -/
def accept (r : ArgumentReader) (flag : Flag) (text : String) :
    Except ArgumentFault ArgumentReader :=
  if (r.choices flag).isSome then .error (.repeated flag)
  else (r.choices.choose flag text).map fun choices => { r with choices }

/-- Lets the flag count that is pending. -/
def settle (r : ArgumentReader) : Except ArgumentFault ArgumentReader :=
  match r.pending with
  | none => .ok r
  | some (flag, none) => .error (.noValue flag)
  | some (flag, some text) => { r with pending := none }.accept flag text

/-- An argument that begins with two dashes, without them. -/
def takeFlag (r : ArgumentReader) (argument : String) (s : List Char) :
    Except ArgumentFault ArgumentReader :=
  match Flag.ofName? (String.ofList (s.takeWhile (· ≠ '='))) with
  | none => .error (.unknown argument)
  | some flag => do
    let r ← r.settle
    match s.dropWhile (· ≠ '=') with
    | [] => return { r with pending := some (flag, none) }
    | _ :: value => r.accept flag (String.ofList value)

/-- An argument that is no flag. -/
def takeValue (r : ArgumentReader) (argument : String) : Except ArgumentFault ArgumentReader :=
  match r.pending with
  | some (flag, none) => .ok { r with pending := some (flag, some argument) }
  | _ => .error (.unknown argument)

def take (r : ArgumentReader) (argument : String) : Except ArgumentFault ArgumentReader :=
  if r.takesFlags then
    match argument.toList with
    | ['-', '-'] => .ok { r with takesFlags := false }
    | '-' :: '-' :: s => r.takeFlag argument s
    | '-' :: _ :: _ => .error (.unknown argument)
    | _ => r.takeValue argument
  else .error (.unknown argument)

def read (arguments : List String) : Except ArgumentFault Choices := do
  let r ← arguments.foldlM take start
  return (← r.settle).choices

end ArgumentReader

/-! ## Settings -/

/-- The settings of a server. -/
structure Settings where
  logFilter : String
  logFormat : LogFormat
  externalAddress : SocketAddress
  internalAddress : SocketAddress
  adminAddress : SocketAddress
  identityUrl : String
  clientName : String
  clientSecret : String
  directoryUrl : String
  tagWidth : TagWidth
  /-- The file with the certificates that are trusted in addition. -/
  caFile : Option String
  /-- How many milliseconds a call to a collaborator may take. -/
  timeout : Nat
  /-- How many bytes the body of a request may have. -/
  bodyLimit : Nat
  deriving DecidableEq, Repr

namespace Settings

/-- Gives a flag the value of its environment variable, unless it has one. -/
def fromEnvironment (environment : List (String × String)) (c : Choices) (flag : Flag) :
    Except ArgumentFault Choices :=
  match flag.environmentName?.bind (List.lookup · environment) with
  | some text => if (c flag).isSome then .ok c else c.choose flag text
  | none => .ok c

/-- The settings that choices make, with defaults for the others. -/
def ofChoices (c : Choices) : Except ArgumentFault Settings := do
  return {
    logFilter := ← c.require .logFilter
    logFormat := ← c.require .logFormat
    externalAddress := ← c.require .externalAddress
    internalAddress := ← c.require .internalAddress
    adminAddress := ← c.require .adminAddress
    identityUrl := ← c.require .identityUrl
    clientName := ← c.require .clientName
    clientSecret := ← c.require .clientSecret
    directoryUrl := ← c.require .directoryUrl
    tagWidth := ← c.require .tagWidth
    caFile := c .caFile
    timeout := ← c.require .timeout
    bodyLimit := ← c.require .bodyLimit }

def read (arguments : List String) (environment : List (String × String)) :
    Except ArgumentFault Settings := do
  let choices ← ArgumentReader.read arguments
  ofChoices (← Flag.all.foldlM (fromEnvironment environment) choices)

def remote (s : Settings) : Remote :=
  ⟨s.identityUrl, s.clientName, s.clientSecret, s.directoryUrl⟩

end Settings

end NetworkPolicy
