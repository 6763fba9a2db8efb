import NetworkPolicy.Http.Authority

/-!
# Addresses of requests

* `Url.join` — a base address and a path with one slash between them.
* `Url.parse?` — the parts of an absolute address: steps of the path that lead nowhere or back are
  resolved, a backslash is a slash, a fragment is left out, and characters that a path or a query
  must not show are written as bytes.
* `Url.target` — the path and the query as a request names them.
-/

namespace NetworkPolicy

/-- An absolute address that requests can be sent to. -/
structure Url where
  /-- Whether the connection is encrypted. -/
  secure : Bool
  authority : Authority
  /-- The path, as the texts between its slashes. -/
  segments : List (List Char)
  query : Option (List Char)
  deriving DecidableEq, Repr

namespace Url

open Authority (isHidden)

/-! ## Joining -/

/-- A text without the slashes at its front. -/
def dropSlashes (s : List Char) : List Char := s.dropWhile (· = '/')

/-- A text without the slashes at its end. -/
def dropSlashesEnd (s : List Char) : List Char := (dropSlashes s.reverse).reverse

/-- A base and a path with one slash between them. -/
def join (base path : String) : String :=
  String.ofList (dropSlashesEnd base.toList ++ '/' :: dropSlashes path.toList)

/-! ## Characters -/

/-- Whether a character of a path is written as bytes. -/
def hiddenInPath (c : Char) : Bool :=
  isHidden c || [' ', '"', '<', '>', '\x60', '{', '}'].contains c

/-- Whether a character of a query is written as bytes. -/
def hiddenInQuery (c : Char) : Bool :=
  isHidden c || [' ', '"', '<', '>', '\''].contains c

/-- A text in which the hidden characters are written as bytes. -/
def encode (hidden : Char → Bool) (s : List Char) : List Char :=
  s.flatMap fun c => if hidden c then (Utf8.bytes [c]).flatMap Form.percent else [c]

/-! ## Paths -/

/-- Whether a segment stands for the place where it is. -/
def isHere (segment : List Char) : Bool :=
  let s := segment.map Char.toLower
  s = ['.'] || s = ['%', '2', 'e']

/-- Whether a segment stands for one step back. -/
def isBack (segment : List Char) : Bool :=
  let s := segment.map Char.toLower
  let dot := ['%', '2', 'e']
  s = ['.', '.'] || s = '.' :: dot || s = dot ++ ['.'] || s = dot ++ dot

/-- The segments of a path after those in `kept`, newest first.  A path that ends with a step that
leads nowhere or back ends with a slash. -/
def resolve (kept : List (List Char)) : List (List Char) → List (List Char)
  | [] => kept.reverse
  | segment :: rest =>
    let onward (kept : List (List Char)) :=
      if rest.isEmpty then ([] :: kept).reverse else resolve kept rest
    if isBack segment then onward kept.tail
    else if isHere segment then onward kept
    else resolve (encode hiddenInPath segment :: kept) rest

/-- The segments of a path, which begins with a slash unless it is empty. -/
def segmentsOf (path : List Char) : List (List Char) :=
  resolve [] (Form.splitAt '/' (path.drop 1))

/-! ## Reading -/

/-- An address without what surrounds it and without the line breaks and tabs in it. -/
def clean (s : List Char) : List Char :=
  let isEdge (c : Char) : Bool := c.toNat ≤ 0x20
  (((s.dropWhile isEdge).reverse.dropWhile isEdge).reverse).filter fun c =>
    c ≠ '\t' && c ≠ '\n' && c ≠ '\r'

/-- Whether the scheme of an address, without its colon, asks for an encrypted connection. -/
def secureScheme? (scheme : List Char) : Option Bool :=
  match String.ofList (scheme.map Char.toLower) with
  | "http" => some false
  | "https" => some true
  | _ => none

/-- The address that a text spells, if it can be connected to. -/
def parse? (text : String) : Option Url := do
  let s := (clean text.toList).takeWhile (· ≠ '#')
  let secure ← secureScheme? (s.takeWhile (· ≠ ':'))
  let s := (s.takeWhile (· ≠ '?')).map (fun c => if c = '\\' then '/' else c) ++
    s.dropWhile (· ≠ '?')
  let s := dropSlashes ((s.dropWhile (· ≠ ':')).drop 1)
  let authority := s.takeWhile fun c => c ≠ '/' && c ≠ '?'
  let s := s.drop authority.length
  return {
    secure
    authority := ← Authority.parse? secure authority
    segments := segmentsOf (s.takeWhile (· ≠ '?'))
    query :=
      if s.contains '?' then some (encode hiddenInQuery ((s.dropWhile (· ≠ '?')).drop 1))
      else none }

/-- The path and the query of a request to an address. -/
def target (url : Url) : String :=
  let path := url.segments.flatMap fun segment => '/' :: segment
  let query := match url.query with
    | some query => '?' :: query
    | none => []
  String.ofList (path ++ query)

end Url

end NetworkPolicy
