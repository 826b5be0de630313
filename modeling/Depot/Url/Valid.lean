import Depot.Url.Host
/-!
# Valid addresses

Which texts are absolute addresses: a scheme, and behind it what the scheme asks
for. Web schemes need a host, whatever slashes stand before it; for the others a
host is read only after two slashes.
-/
namespace Depot.Url

/-- The schemes whose addresses name a host. -/
def webSchemes : List String := ["http", "https", "ws", "wss", "ftp"]

/-- An address without the control characters and blanks around it and the line ends in it. -/
def stripped (s : String) : List Char :=
  let outer (c : Char) : Bool := c.toNat ≤ 0x20
  let inner := ((s.toList.dropWhile outer).reverse.dropWhile outer).reverse
  inner.filter fun c => c ≠ '\t' ∧ c ≠ '\n' ∧ c ≠ '\r'

/-- The scheme in lower case and what follows its colon. -/
def scheme? (cs : List Char) : Option (String × List Char) :=
  let inScheme (c : Char) : Bool := c.isAlphanum || c = '+' || c = '-' || c = '.'
  match cs.takeWhile inScheme, cs.dropWhile inScheme with
  | c :: name, ':' :: rest =>
    if c.isAlpha then some (String.ofList ((c :: name).map Char.toLower), rest) else none
  | _, _ => none

/-- Splits a host from the port behind it; colons in brackets belong to the host. -/
private def splitPort : Bool → List Char → List Char × Option (List Char)
  | _, [] => ([], none)
  | bracketed, c :: rest =>
    if c = ':' ∧ !bracketed then ([], some rest)
    else
      let inside := if c = '[' then true else if c = ']' then false else bracketed
      let (host, port) := splitPort inside rest
      (c :: host, port)

/-- A port is a number of 16 bits, or empty. -/
private def isPort (cs : List Char) : Bool :=
  cs.all Char.isDigit && Text.digitsValue cs ≤ 65535

/-- What follows the last `@`, if there is one. -/
private def afterCredentials (cs : List Char) : Bool × List Char :=
  let tail := (cs.reverse.takeWhile (· ≠ '@')).reverse
  (cs.contains '@', tail)

/-- The authority of a web address: credentials, a host and a port. -/
private def isWebAuthority (cs : List Char) : Bool :=
  let (host, port) := splitPort false (afterCredentials cs).2
  !host.isEmpty && isHost host && port.all isPort

/-- The authority of any other address, where the host may be empty if it stands alone. -/
private def isOpaqueAuthority (cs : List Char) : Bool :=
  let (credentials, rest) := afterCredentials cs
  let (host, port) := splitPort false rest
  if host.isEmpty then !credentials && port.isNone
  else isOpaqueHost host && port.all isPort

/-- What stands before the path, the query and the fragment. -/
private def authority (backslash : Bool) (cs : List Char) : List Char :=
  cs.takeWhile fun c => !(c = '/' || c = '?' || c = '#' || (backslash && c = '\\'))

private def isSlash (c : Char) : Bool := c = '/' || c = '\\'

/-- A file address has a host only after two slashes, and it may be empty. -/
private def isFileRest : List Char → Bool
  | a :: b :: rest =>
    if isSlash a && isSlash b then
      let host := authority true rest
      match host with
      | [] => true
      | [drive, mark] => (drive.isAlpha && (mark = ':' || mark = '|')) || isHost host
      | _ => isHost host
    else true
  | _ => true

/-- Whether a text is an absolute address. -/
def isValid (s : String) : Bool :=
  match scheme? (stripped s) with
  | none => false
  | some (name, rest) =>
    if webSchemes.contains name then isWebAuthority (authority true (rest.dropWhile isSlash))
    else if name = "file" then isFileRest rest
    else
      match rest with
      | '/' :: '/' :: rest => isOpaqueAuthority (authority false rest)
      | _ => true

/-- Whether a text begins with the mark of a web address, in lower case. -/
def hasWebScheme (s : String) : Bool :=
  s.startsWith "https://" || s.startsWith "http://"

end Depot.Url
