import TxGateway.SocketAddress
import TxGateway.Hex
/-!
# Endpoints

Whether a text is the URL of a node: it needs a scheme, and with a scheme of the web also a host;
the host and the port must be sound. The rest of a URL is accepted as it is. White space and
controls at both ends do not count, nor do tabs and line breaks anywhere.
-/

namespace TxGateway.Endpoint

/-- Why a text is no URL. -/
inductive EndpointError where
  | missingScheme
  | emptyHost
  | invalidPort
  | invalidIPv4
  | invalidIPv6
  /-- A character that no domain may hold. -/
  | invalidDomain
  /-- A character that no host of a scheme outside the web may hold. -/
  | invalidHostCharacter
deriving DecidableEq, Repr

namespace EndpointError

/-- The cause in words. -/
def message : EndpointError → String
  | missingScheme => "relative URL without a base"
  | emptyHost => "empty host"
  | invalidPort => "invalid port number"
  | invalidIPv4 => "invalid IPv4 address"
  | invalidIPv6 => "invalid IPv6 address"
  | invalidDomain => "invalid international domain name"
  | invalidHostCharacter => "invalid domain character"

end EndpointError

/-- How the rest of a URL is read depends on its scheme. -/
inductive Kind where
  /-- A scheme whose URLs need a host. -/
  | web
  | file
  | other
deriving DecidableEq, Repr

namespace Kind

/-- The kind of a scheme given in lower case. -/
def ofScheme (scheme : String) : Kind :=
  if ["http", "https", "ws", "wss", "ftp"].contains scheme then web
  else if scheme = "file" then file
  else other

/-- Whether a backslash counts as a slash. -/
def hasBackslash (kind : Kind) : Bool := kind != other

end Kind

/-! ## Taking a text apart -/

/-- Whether a character at an end of the text does not count. -/
def isPadding (c : Char) : Bool := c.toNat ≤ 0x20

/-- Whether a character counts nowhere. -/
def isIgnored (c : Char) : Bool := c = '\t' || c = '\n' || c = '\r'

/-- The characters of a text that count. -/
def relevant (text : List Char) : List Char :=
  let front := text.dropWhile isPadding
  ((front.reverse.dropWhile isPadding).reverse).filter fun c => !isIgnored c

/-- Whether a character may stand in a scheme. -/
def isSchemeCharacter (c : Char) : Bool :=
  c.isAlphanum || c = '+' || c = '-' || c = '.'

/-- The scheme, in lower case, and what follows its colon. -/
def scheme? (text : List Char) : Option (String × List Char) :=
  match text with
  | c :: _ =>
    if c.isAlpha then
      match text.dropWhile isSchemeCharacter with
      | ':' :: rest =>
        some (String.ofList ((text.takeWhile isSchemeCharacter).map Char.toLower), rest)
      | _ => none
    else none
  | [] => none

/-- Whether a character ends the authority of a URL. -/
def endsAuthority (kind : Kind) (c : Char) : Bool :=
  c = '/' || c = '?' || c = '#' || (c = '\\' && kind.hasBackslash)

/-- Where a host ends, outside brackets at a colon; `inside` says whether a bracket is open. -/
def splitHost (inside : Bool) : List Char → List Char × List Char
  | [] => ([], [])
  | c :: rest =>
    if c = ':' && !inside then ([], c :: rest)
    else
      let (host, port) :=
        splitHost (if c = '[' then true else if c = ']' then false else inside) rest
      (c :: host, port)

/-! ## Hosts -/

/-- Whether a character is refused in every host. -/
def isForbiddenInHost (c : Char) : Bool :=
  c.toNat = 0 || "\t\n\r #/:<>?@[\\]^|".toList.contains c

/-- Whether a character is refused in a domain. -/
def isForbiddenInDomain (c : Char) : Bool :=
  isForbiddenInHost c || c.toNat ≤ 0x20 || c.toNat = 0x7f || "%\"`\x7b\x7d".toList.contains c

/-- Replaces each escape of a byte by the character with its number. -/
def unescape : List Char → List Char
  | '%' :: high :: low :: rest =>
    match Digits.value? high, Digits.value? low with
    | some high, some low => Char.ofNat (16 * high + low) :: unescape rest
    | _, _ => '%' :: unescape (high :: low :: rest)
  | c :: rest => c :: unescape rest
  | [] => []

/-- A text cut at its dots. -/
def labels (text : List Char) : List (List Char) :=
  text.foldr
    (fun c parts =>
      if c = '.' then [] :: parts
      else match parts with
        | part :: others => (c :: part) :: others
        | [] => [[c]])
    [[]]

/-- The labels of a domain, without the empty one behind a dot at the end. -/
def properLabels (domain : List Char) : List (List Char) :=
  let parts := labels domain
  match parts.reverse with
  | [] :: others => if others.isEmpty then parts else others.reverse
  | _ => parts

/-- The number that a label of an IPv4 address denotes, in decimal, octal or hex. -/
def labelNumber? (label : List Char) : Option Nat :=
  let read (base : Nat) (digits : List Char) : Option Nat :=
    if digits.all (Digits.isDigit base) then some (Digits.ofDigits base digits) else none
  match label with
  | [] => none
  | '0' :: 'x' :: digits => read 16 digits
  | '0' :: 'X' :: digits => read 16 digits
  | ['0'] => some 0
  | '0' :: digits => read 8 digits
  | digits => read 10 digits

/-- Whether the last label of a domain makes it an IPv4 address. -/
def endsInNumber (domain : List Char) : Bool :=
  match (properLabels domain).getLast? with
  | some label =>
    (!label.isEmpty && label.all (Digits.isDigit 10)) ||
      (match label with
        | '0' :: 'x' :: digits => digits.all (Digits.isDigit 16)
        | '0' :: 'X' :: digits => digits.all (Digits.isDigit 16)
        | _ => false)
  | none => false

/-- Whether numbers make an IPv4 address: all but the last are bytes, and the last fills the rest.
-/
def isIPv4 (numbers : List Nat) : Bool :=
  match numbers.reverse with
  | last :: others =>
    others.length ≤ 3 && others.all (· < 256) && last < Digits.capacity 256 (4 - others.length)
  | [] => false

/-- Judges the host of a scheme of the web. -/
def checkDomain (host : List Char) : Except EndpointError Unit :=
  match host with
  | '[' :: rest =>
    match rest.reverse with
    | ']' :: inner =>
      match SocketAddress.ipv6 inner.reverse with
      | some (_, []) => .ok ()
      | _ => .error .invalidIPv6
    | _ => .error .invalidIPv6
  | _ =>
    let domain := unescape host
    if domain.isEmpty then .error .emptyHost
    else if domain.any isForbiddenInDomain then .error .invalidDomain
    else if endsInNumber domain then
      match (properLabels domain).mapM labelNumber? with
      | some numbers => if isIPv4 numbers then .ok () else .error .invalidIPv4
      | none => .error .invalidIPv4
    else .ok ()

/-- Judges the host of another scheme. -/
def checkOpaque (host : List Char) : Except EndpointError Unit :=
  match host with
  | '[' :: _ => checkDomain host
  | _ => if host.any isForbiddenInHost then .error .invalidHostCharacter else .ok ()

/-- Judges what follows the host: nothing, or a colon and a port of 16 bits, perhaps empty. -/
def checkPort (port : List Char) : Except EndpointError Unit :=
  match port with
  | ':' :: digits =>
    if !digits.all (Digits.isDigit 10) then .error .invalidPort
    else if Digits.ofDigits 10 digits < 65536 then .ok () else .error .invalidPort
  | _ => .ok ()

/-- Judges an authority: perhaps a user with an at sign, a host, and perhaps a port. -/
def checkAuthority (kind : Kind) (text : List Char) : Except EndpointError Unit := do
  let authority := text.takeWhile fun c => !endsAuthority kind c
  let hostAndPort := (authority.reverse.takeWhile (· != '@')).reverse
  let hasUser := hostAndPort.length < authority.length
  let (host, port) := splitHost false hostAndPort
  if host.isEmpty && (kind == .web || hasUser || !port.isEmpty) then throw .emptyHost
  match kind with
  | .web | .file => checkDomain host
  | .other => checkOpaque host
  checkPort port

/-- Whether the place of a host holds a drive letter instead. -/
def isDriveLetter (host : List Char) : Bool :=
  match host with
  | [letter, mark] => letter.isAlpha && (mark = ':' || mark = '|')
  | _ => false

/-- Judges a whole text. -/
def check (text : String) : Except EndpointError Unit :=
  match scheme? (relevant text.toList) with
  | none => .error .missingScheme
  | some (scheme, rest) =>
    match Kind.ofScheme scheme with
    | .web => checkAuthority .web (rest.dropWhile fun c => c = '/' || c = '\\')
    | .file =>
      match rest with
      | a :: b :: rest =>
        let isSlash (c : Char) : Bool := c = '/' || c = '\\'
        if isSlash a && isSlash b then
          let host := rest.takeWhile fun c => !endsAuthority .file c
          if host.isEmpty || isDriveLetter host then .ok () else checkDomain host
        else .ok ()
      | _ => .ok ()
    | .other =>
      match rest with
      | '/' :: '/' :: rest => checkAuthority .other rest
      | _ => .ok ()

end TxGateway.Endpoint
