import FollowGraph.Application

/-!
A client, and how it talks to the service. Nothing of the service depends on it.

A client writes a request as a draft, whose target may have a scheme and a host, which are passed
over, and a fragment, which is not sent. Of the path `.` and `..` are taken out; its percent signs
are resolved twice before the service receives it, by the client when it takes the target apart and
by what stands in for a connection between the two. This client refuses drafts that others might
send: targets that are too long or have control characters in them, headers beyond ASCII, and values
that JSON text cannot hold. It gives up at the first request that fails.
-/

set_option autoImplicit false

namespace FollowGraph.Client

open Http

/-- The segments of a path without `.`, each `..` taking the segment before it away. -/
def resolveDots : List (List Char) → List (List Char) → List (List Char)
  | kept, [] => kept.reverse
  | kept, segment :: rest =>
    if segment == ['.'] then resolveDots kept rest
    else if segment == ['.', '.'] then
      resolveDots (if kept == [[]] then kept else kept.drop 1) rest
    else resolveDots (segment :: kept) rest

/-! ## Scheme and host -/

/-- A target as it is written: what stands before a colon and after two slashes, and the rest. -/
structure Address where
  scheme : List Char
  authority : List Char
  rest : List Char

namespace Address

def isLetter (c : Char) : Bool := ('a' ≤ c && c ≤ 'z') || ('A' ≤ c && c ≤ 'Z')

def isSchemeChar (c : Char) : Bool :=
  isLetter c || Json.isDigit c || c == '+' || c == '-' || c == '.'

/-- What stands before a colon, which may be nothing, and what after it. A text that does not begin
like a scheme has none. -/
def splitScheme (cs : List Char) : List Char × List Char :=
  let scheme := if cs.head?.any isLetter then cs.takeWhile isSchemeChar else []
  match cs.drop scheme.length with
  | ':' :: rest => (scheme, rest)
  | _ => ([], cs)

/-- Whether a character ends the part of an address that names a host. -/
def endsAuthority (c : Char) : Bool := c == '/' || c == '?' || c == '#'

def ofChars (cs : List Char) : Address :=
  let (scheme, afterScheme) := splitScheme cs
  match afterScheme with
  | '/' :: '/' :: rest =>
    { scheme
      authority := rest.takeWhile (!endsAuthority ·)
      rest := rest.dropWhile (!endsAuthority ·) }
  | rest => { scheme, authority := [], rest }

/-- The host: what stands after an at sign and before a colon, where there are any. -/
def host (a : Address) : List Char :=
  ((a.authority.reverse.takeWhile (· != '@')).reverse).takeWhile (· != ':')

/-- Whether the address stands by itself. All others continue the service's own. -/
def isWhole (a : Address) : Bool := !a.scheme.isEmpty && !a.host.isEmpty

/-- The path after its leading slash; all of them are passed over in a path that is continued. -/
def path (a : Address) : List Char :=
  let path := a.rest.takeWhile fun c => c != '?' && c != '#'
  if a.isWhole then path.drop 1 else path.dropWhile (· == '/')

def query (a : Address) : List Char :=
  ((a.rest.takeWhile (· != '#')).dropWhile (· != '?')).drop 1

/-- What a path without scheme and host begins with, if nothing may begin so. -/
def misplacedStart? (a : Address) : Option String :=
  if !a.scheme.isEmpty || a.authority.any (fun c => c != ':' && c != '@') then none
  else
    match a.rest with
    | '/' :: '/' :: _ => some "//"
    | ':' :: _ => some ":"
    | _ => none

end Address

/-! ## Drafts -/

/-- A request as a client writes it. -/
structure Draft where
  method : String
  target : String
  /-- The acting user, for the header. -/
  user : Option String
  body : Option Body

def maxTargetLength : Nat := 65536

def isControl (c : Char) : Bool := c.toNat < 0x20 || c.toNat == 0x7F

def requireTarget (target : String) : Except Failure Unit :=
  let cs := target.toList
  if maxTargetLength < cs.length then .error .targetTooLong
  else
    match cs.find? isControl with
    | some c => .error (.controlInTarget c (cs.takeWhile (!isControl ·)).length)
    | none =>
      match (Address.ofChars cs).misplacedStart? with
      | some start => .error (.misplacedStart start)
      | none => .ok ()

/-- Requires the text of a header to be sendable. -/
def requireHeader (text : String) : Except Failure Unit :=
  match firstRun? (0x7F < ·) (text.toList.map Char.toNat) with
  | none => .ok ()
  | some (first, position, count) => .error (.notAscii first position count)

namespace Draft

/-- The value that the client writes into the body itself, if there is one. -/
def content (d : Draft) : Json :=
  match d.body with
  | some (.value value) => value
  | _ => .null

/-- Requires a draft to be sendable: its target first, then its header, then its body. -/
def require (d : Draft) : Except Failure Unit := do
  requireTarget d.target
  requireHeader (d.user.getD "")
  requireContent d.content

/-- What the service receives of a draft. -/
def received (d : Draft) : Request :=
  let address := Address.ofChars d.target.toList
  let path := ['/'].intercalate (resolveDots [] ([] :: splitAt '/' address.path))
  { method := Text.upper d.method
    path := String.ofList (percentDecode (percentDecode path))
    query := String.ofList address.query
    user := d.user
    body := d.body }

end Draft

/-! ## Exchanges -/

/-- The reply as it arrives: a request for the head alone gets no body. -/
def delivered (method : String) : Http.Reply → Http.Reply
  | .content status body => .content status (if method == "HEAD" then .null else body)
  | reply => reply

/-- Sends a draft, if it can be sent, and waits for the reply. -/
def exchange (attached : Bool) (d : Draft) : Attempt Http.Reply := do
  Attempt.ofExcept d.require
  let reply ← answer attached d.received
  pure (delivered d.received.method reply)

/-- Sends drafts in order, up to the first that fails. -/
def converse : List Draft → Application → List Application.Served × Application
  | [], a => ([], a)
  | d :: rest, a =>
    match a.during (exchange a.attached d) with
    | (⟨.error failure, queries⟩, next) => ([⟨.error failure, queries⟩], next)
    | (served, next) =>
      let (others, final) := converse rest next
      (served :: others, final)

end FollowGraph.Client
