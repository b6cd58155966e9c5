import Entitlement.Url.Host

-- Addresses of resources: reading them, writing them, and adding to their query.
-- Reading brings an address into its one spelling: a scheme and a host in lower case, a path without `.` and `..`,
-- no port that the scheme has anyway, and percent signs for what may not stand for itself.
namespace Entitlement

structure Url where
  scheme : String
  username : String
  password : String
  host : Option Url.Host
  port : Option Nat
  path : String
  query : Option String
  fragment : Option String
deriving DecidableEq

namespace Url

def knownPort? : String → Option (Option Nat)
  | "http" | "ws" => some (some 80)
  | "https" | "wss" => some (some 443)
  | "ftp" => some (some 21)
  | "file" => some none
  | _ => none

def isKnown (scheme : String) : Bool := (knownPort? scheme).isSome

def defaultPort? (scheme : String) : Option Nat := (knownPort? scheme).join

def isSchemeChar (c : Char) : Bool := c.isAlphanum || c = '+' || c = '-' || c = '.'

def scheme? (cs : List Char) : Option (String × List Char) :=
  match Text.splitFirst ':' cs with
  | some (c :: name, rest) =>
    if c.isAlpha && name.all isSchemeChar then some (String.ofList ((c :: name).map Char.toLower), rest) else none
  | _ => none

-- What must be encoded in the parts of an address.
def fragmentEscapes : List Char := [' ', '"', '<', '>', '`']

def pathEscapes : List Char := fragmentEscapes ++ ['#', '?', '\x7b', '\x7d']

def userEscapes : List Char := pathEscapes ++ ['/', ':', ';', '=', '@', '[', '\\', ']', '^', '|']

def queryEscapes (known : Bool) : List Char :=
  [' ', '"', '#', '<', '>'] ++ if known then [Char.ofNat 39] else []

def isSlash (known : Bool) (c : Char) : Bool := c = '/' || (known && c = '\\')

def endsAuthority (known : Bool) (c : Char) : Bool := isSlash known c || c = '?' || c = '#'

def splitHost (inBrackets : Bool) : List Char → List Char × List Char
  | [] => ([], [])
  | c :: rest =>
    if c = ':' && !inBrackets then ([], c :: rest)
    else
      let (host, rest) := splitHost (if c = '[' then true else if c = ']' then false else inBrackets) rest
      (c :: host, rest)

-- The number after a colon; nothing at all is no port.
def portOfText (scheme : String) (cs : List Char) : Except Fault (Option Nat) :=
  match cs with
  | [] => .ok none
  | _ => match (Text.digits? cs).filter (· < limit16) with
    | some n => .ok (if defaultPort? scheme = some n then none else some n)
    | none => .error .port

def userInfo (cs : List Char) : String × String :=
  let written (part : List Char) : String := String.ofList (Text.percentEncode userEscapes part)
  match Text.splitFirst ':' cs with
  | some (user, password) => (written user, written password)
  | none => (written cs, "")

def ofAuthority (scheme : String) (cs : List Char) : Except Fault Url := do
  let (user, rest) := match Text.splitLast '@' cs with
    | some (user, rest) => (some user, rest)
    | none => (none, cs)
  if user.isSome && rest.isEmpty then throw .emptyHost
  let (username, password) := (user.map userInfo).getD ("", "")
  let (hostText, portText) := splitHost false rest
  let host ← if isKnown scheme then Host.ofText hostText else Host.ofVerbatim hostText
  if hostText.isEmpty && !portText.isEmpty then throw .emptyHost
  let port ← portOfText scheme (portText.drop 1)
  pure { scheme := scheme, username := username, password := password, host := some host, port := port
         path := "", query := none, fragment := none }

def isSelf (segment : List Char) : Bool :=
  segment = ['.'] || segment.map Char.toLower = ['%', '2', 'e']

def isAbove (segment : List Char) : Bool :=
  match segment with
  | '.' :: rest => isSelf rest
  | '%' :: '2' :: e :: rest => e.toLower = 'e' && isSelf rest
  | _ => false

def walk : List (List Char) → List (List Char) → List (List Char)
  | kept, [] => kept.reverse
  | kept, segment :: rest =>
    let kept := if isAbove segment then kept.drop 1 else if isSelf segment then kept
      else Text.percentEncode pathEscapes segment :: kept
    if rest.isEmpty && (isAbove segment || isSelf segment) then ([] :: kept).reverse else walk kept rest

def cleanPath (known : Bool) (cs : List Char) : String :=
  let cs := if known then cs.map fun c => if c = '\\' then '/' else c else cs
  match cs with
  | [] => if known then "/" else ""
  | '/' :: rest => String.ofList ((walk [] (Text.split '/' rest)).flatMap ('/' :: ·))
  | _ => String.ofList ((walk [] (Text.split '/' cs)).flatMap ('/' :: ·))

def splitEnd (cs : List Char) : List Char × Option (List Char) × Option (List Char) :=
  let (front, fragment) := match Text.splitFirst '#' cs with
    | some (front, fragment) => (front, some fragment)
    | none => (cs, none)
  match Text.splitFirst '?' front with
  | some (path, query) => (path, some query, fragment)
  | none => (front, none, fragment)

def isEdge (c : Char) : Bool := c.toNat ≤ 0x20

-- The text that is read: without blanks and controls around it, and without line breaks and tabs in it.
def readable (cs : List Char) : List Char :=
  (((cs.dropWhile isEdge).reverse.dropWhile isEdge).reverse).filter fun c => !(c = '\t' || c = '\n' || c = '\r')

def ofHierarchy (scheme : String) (cs : List Char) : Except Fault Url := do
  let known := isKnown scheme
  let authority := cs.takeWhile fun c => !endsAuthority known c
  let rest := cs.dropWhile fun c => !endsAuthority known c
  let url ← if scheme = "file" && authority.isEmpty
    then pure ⟨scheme, "", "", none, none, "", none, none⟩ else ofAuthority scheme authority
  let (path, query, fragment) := splitEnd rest
  pure { url with
    path := cleanPath known path
    query := query.map fun q => String.ofList (Text.percentEncode (queryEscapes known) q)
    fragment := fragment.map fun f => String.ofList (Text.percentEncode fragmentEscapes f) }

def parse (text : String) : Except Fault Url := do
  let some (scheme, rest) := scheme? (readable text.toList) | throw .noScheme
  if scheme = "file" then
    match rest with
    | a :: b :: rest =>
      if isSlash true a && isSlash true b then ofHierarchy scheme rest else ofHierarchy scheme ('/' :: a :: b :: rest)
    | _ => ofHierarchy scheme ('/' :: rest)
  else if isKnown scheme then ofHierarchy scheme (rest.dropWhile (isSlash true))
  else match rest with
    | '/' :: '/' :: rest => ofHierarchy scheme rest
    | _ =>
      let (path, query, fragment) := splitEnd rest
      pure {
        scheme := scheme, username := "", password := "", host := none, port := none
        path := if path.head? = some '/' then cleanPath false path
          else String.ofList (Text.percentEncode [] path)
        query := query.map fun q => String.ofList (Text.percentEncode (queryEscapes false) q)
        fragment := fragment.map fun f => String.ofList (Text.percentEncode fragmentEscapes f) }

def renderUser (u : Url) : String :=
  if u.username.isEmpty && u.password.isEmpty then ""
  else u.username ++ (if u.password.isEmpty then "" else ":" ++ u.password) ++ "@"

def authority (u : Url) : String :=
  ((u.host.map Host.render).getD "") ++ (match u.port with
    | some n => ":" ++ toString n
    | none => "")

def target (u : Url) : String :=
  u.path ++ (match u.query with
    | some q => "?" ++ q
    | none => "")

def render (u : Url) : String :=
  u.scheme ++ ":"
    ++ (if u.host.isSome then "//" ++ u.renderUser ++ u.authority
      else if u.scheme = "file" then "//" else "")
    ++ u.target
    ++ (match u.fragment with
      | some f => "#" ++ f
      | none => "")

def addPairs (u : Url) (pairs : List (String × String)) : Url :=
  let added := String.ofList (Text.formPairs pairs)
  { u with query := some (match u.query with
    | none | some "" => added
    | some q => q ++ "&" ++ added) }

def effectivePort (u : Url) : Option Nat := u.port <|> defaultPort? u.scheme

end Url
end Entitlement
