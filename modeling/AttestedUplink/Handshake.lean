import AttestedUplink.Bytes
import AttestedUplink.Endpoint

namespace AttestedUplink

/-!
# The opening request

The first thing on a connection is the head of an HTTP request. It switches the host proxy into
frame mode, and everything after its blank line is frames. The target of the request is made of the
path of the endpoint, and its only other variable part is the host header.
-/

namespace Handshake

inductive Defect
  | targetTooLong
  | emptyTarget
  | badTargetCharacter
  | schemeTooLong
  | badAuthority
  | badFormat
  | badHostCharacter
  deriving Repr, DecidableEq

def Defect.reason : Defect → String
  | .targetTooLong => "uri too long"
  | .emptyTarget => "empty string"
  | .badTargetCharacter => "invalid uri character"
  | .schemeTooLong => "scheme too long"
  | .badAuthority => "invalid authority"
  | .badFormat => "invalid format"
  | .badHostCharacter => "failed to parse header value"

def Defect.toFault (defect : Defect) : Fault :=
  ⟨.transport, s!"Failed to build handshake request: {defect.reason}"⟩

def maxTargetLen : Nat := 65534

def maxSchemeLen : Nat := 64

/-- The most colons that stand in a row of authority characters: those of an IPv6 address and its
port. -/
def maxColons : Nat := 8

/-- The characters that both parts of a target share: visible ASCII but for the ones that delimit
or quote, and everything beyond ASCII. -/
def isTargetChar (c : Char) : Bool :=
  '!' ≤ c && c ≠ '\x7F' && c ≠ '"' && c ≠ '#' && c ≠ '<' && c ≠ '>' && c ≠ '?' && c ≠ '\x60'

def isPathChar (c : Char) : Bool := isTargetChar c || c = '"'

def isQueryChar (c : Char) : Bool := isTargetChar c || c = '?' || c = '\x60'

def isSchemeChar (c : Char) : Bool := c.isAlphanum || "+-.~".toList.contains c

/-- The characters of an authority that have no meaning of their own there. -/
def isAuthorityChar (c : Char) : Bool :=
  c.isAlphanum || "!$&()*+,-.;=_~".toList.contains c || c = '\x27'

def endsAuthority (c : Char) : Bool := c = '/' || c = '?' || c = '#'

/-- The path and the query that some characters start with. They go up to the first `#`, and what
follows it is not looked at. -/
def pathAndQuery (cs : List Char) : Except Defect (List Char) :=
  let kept := cs.takeWhile (· ≠ '#')
  if (kept.takeWhile (· ≠ '?')).all isPathChar && (kept.dropWhile (· ≠ '?')).all isQueryChar then
    .ok kept
  else .error .badTargetCharacter

/-- A scheme as it is sent: the two schemes of web pages in lower case, any other as it is. -/
def schemeName (name : List Char) : List Char :=
  let lower := name.map Char.toLower
  if lower = "http".toList ∨ lower = "https".toList then lower else name

/-- The scheme, if there is one, and what follows it. -/
def splitScheme (cs : List Char) : Except Defect (Option (List Char) × List Char) :=
  let name := cs.takeWhile isSchemeChar
  match cs.dropWhile isSchemeChar with
  | ':' :: '/' :: '/' :: rest =>
    if maxSchemeLen < name.length then .error .schemeTooLong else .ok (some (schemeName name), rest)
  | _ => .ok (none, cs)

/-- What is known of an authority while its characters are gone through. Colons and percent signs
before an `@` or in brackets do not count. -/
structure AuthorityScan where
  colons : Nat := 0
  percent : Bool := false
  opened : Bool := false
  closed : Bool := false
  deriving Repr, DecidableEq

def AuthorityScan.step (scan : AuthorityScan) : Char → Except Defect AuthorityScan
  | ':' =>
    if maxColons ≤ scan.colons then .error .badAuthority
    else .ok { scan with colons := scan.colons + 1 }
  | '[' =>
    if scan.percent || scan.opened then .error .badAuthority else .ok { scan with opened := true }
  | ']' =>
    if !scan.opened || scan.closed then .error .badAuthority
    else .ok { scan with colons := 0, percent := false, closed := true }
  | '@' => .ok { scan with colons := 0, percent := false }
  | '%' => .ok { scan with percent := true }
  | c => if isAuthorityChar c then .ok scan else .error .badTargetCharacter

def checkAuthority (cs : List Char) : Except Defect Unit := do
  let scan ← cs.foldlM AuthorityScan.step {}
  if scan.opened ≠ scan.closed ∨ 1 < scan.colons ∨ cs.getLast? = some '@' ∨ scan.percent then
    throw .badAuthority

/-- A path that is not empty; a query alone is one of the root. -/
def rooted : List Char → List Char
  | '/' :: rest => '/' :: rest
  | rest => '/' :: rest

/-- The target of characters that do not start with a slash: an authority alone, or a scheme, an
authority and what follows them. -/
def fullTarget (cs : List Char) : Except Defect (List Char) := do
  let (scheme, rest) ← splitScheme cs
  let authority := rest.takeWhile (!endsAuthority ·)
  checkAuthority authority
  let rest := rest.dropWhile (!endsAuthority ·)
  match scheme with
  | none => if rest.isEmpty then return authority else throw .badFormat
  | some scheme =>
    if authority.isEmpty then throw .badFormat
    else return scheme ++ "://".toList ++ authority ++ rooted (← pathAndQuery rest)

/-- The target that is sent for a path: a path with its query, an asterisk, an authority, or a whole
address. -/
def target (path : String) : Except Defect String :=
  if path.utf8ByteSize > maxTargetLen then .error .targetTooLong
  else
    match path.toList with
    | [] => .error .emptyTarget
    | ['*'] => .ok "*"
    | ['?'] | ['#'] => .error .badTargetCharacter
    | '/' :: rest => (pathAndQuery ('/' :: rest)).map String.ofList
    | cs => (fullTarget cs).map String.ofList

/-- Whether a character may stand in a header: no control character but the tab. -/
def isHeaderChar (c : Char) : Bool := c = '\t' || (' ' ≤ c && c ≠ '\x7F')

def headText (target authority : String) : String :=
  s!"POST {target} HTTP/1.1\r\nhost: {authority}\r\ncontent-length: 0\r\n\r\n"

/-- The octets that open a connection to an endpoint. The target is checked before the host. -/
def head (endpoint : Endpoint) : Except Defect Bytes := do
  let target ← target endpoint.path
  if endpoint.authority.toList.all isHeaderChar then
    return Bytes.ofText (headText target endpoint.authority)
  else throw .badHostCharacter

end Handshake

end AttestedUplink
