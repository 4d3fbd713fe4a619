import KubeletCollector.Text.Quoted
import KubeletCollector.Url.Address
import KubeletCollector.Url.Compatible

/-!
The parts of a URL. Leading controls and spaces are dropped, and tabs and line ends are dropped
everywhere. A scheme is what stands before the first colon if it starts with a letter; after two slashes
comes the authority, up to the next `/`, `?` or `#`.
-/

namespace KubeletCollector.Url

open Text

structure Parts where
  scheme : List Char
  authority : List Char
  path : List Char
  query : List Char
  fragment : List Char
deriving DecidableEq, Repr

inductive PartsError where
  | unbalancedBrackets
  | malformedFutureAddress
  | bracketedIPv4
  | notAnAddress (host : List Char)
  | hiddenDelimiter (authority : List Char)
deriving DecidableEq, Repr

def PartsError.message : PartsError → String
  | .unbalancedBrackets => "Invalid IPv6 URL"
  | .malformedFutureAddress => "IPvFuture address is invalid"
  | .bracketedIPv4 => "An IPv4 address cannot be in brackets"
  | .notAnAddress host =>
    quoted (String.ofList host) ++ " does not appear to be an IPv4 or IPv6 address"
  | .hiddenDelimiter authority =>
    "netloc '" ++ String.ofList authority
      ++ "' contains invalid characters under NFKC normalization"

def isLineOrTab (c : Char) : Bool :=
  c == '\t' || c == '\r' || c == '\n'

/-- The text without leading controls and spaces and without tabs and line ends. -/
def clean (cs : List Char) : List Char :=
  (cs.dropWhile (·.toNat ≤ 32)).filter (!isLineOrTab ·)

def cut? (sep : Char) (cs : List Char) : Option (List Char × List Char) :=
  match cs.dropWhile (· != sep) with
  | [] => none
  | _ :: after => some (cs.takeWhile (· != sep), after)

/-- What stands before the first `sep`, and what after it; all and nothing if there is none. -/
def cut (sep : Char) (cs : List Char) : List Char × List Char :=
  (cut? sep cs).getD (cs, [])

def isSchemeChar (c : Char) : Bool :=
  c.isAlphanum || c == '+' || c == '-' || c == '.'

def takeScheme (cs : List Char) : List Char × List Char :=
  match cut? ':' cs with
  | some (s :: ss, rest) =>
    if s.isAlpha && ss.all isSchemeChar then ((s :: ss).map Char.toLower, rest) else ([], cs)
  | _ => ([], cs)

def endsAuthority (c : Char) : Bool :=
  c == '/' || c == '?' || c == '#'

def takeAuthority : List Char → List Char × List Char
  | '/' :: '/' :: cs => (cs.takeWhile (!endsAuthority ·), cs.dropWhile (!endsAuthority ·))
  | cs => ([], cs)

/-- A host in brackets is an address of version six or later. -/
def checkBracketed (host : List Char) : Except PartsError Unit :=
  if host.head? = some 'v' then
    if isFutureAddress host then .ok () else .error .malformedFutureAddress
  else if isIPv4 host then .error .bracketedIPv4
  else if isIPv6 host then .ok ()
  else .error (.notAnAddress host)

/-- What follows the last `sep`; all if there is none. -/
def afterLast (sep : Char) (cs : List Char) : List Char :=
  (cs.reverse.takeWhile (· != sep)).reverse

/-- Where an authority holds brackets, they enclose the whole host: nothing stands before them, and
after them nothing but a port. If they belong to the user in front of the host, the host is judged as
if it stood in them. -/
def checkHost (host : List Char) : Except PartsError Unit :=
  match cut? '[' host with
  | none => checkBracketed (cut ':' host).1
  | some (before, inside) =>
    let (address, port) := cut ']' inside
    if before.isEmpty && (port.isEmpty || port.head? == some ':') then checkBracketed address
    else .error .unbalancedBrackets

/-- Brackets come in pairs, hold an address, and no character hides a delimiter. -/
def checkAuthority (authority : List Char) : Except PartsError Unit := do
  if authority.contains '[' != authority.contains ']' then throw .unbalancedBrackets
  if authority.contains '[' then checkHost (afterLast '@' authority)
  if authority.any hidesDelimiter then throw (.hiddenDelimiter authority)

def split (text : List Char) : Except PartsError Parts := do
  let (scheme, rest) := takeScheme (clean text)
  let (authority, rest) := takeAuthority rest
  checkAuthority authority
  let (rest, fragment) := cut '#' rest
  let (path, query) := cut '?' rest
  return ⟨scheme, authority, path, query, fragment⟩

end KubeletCollector.Url
