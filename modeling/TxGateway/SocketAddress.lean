import TxGateway.Digits
/-!
# Socket addresses

Addresses on which the gateway listens: an IPv4 address with a port, or an IPv6 address in brackets
with a port and perhaps a scope. Reading accepts every spelling of an IPv6 address, writing uses the
canonical one: lower case, no leading zeros, the first longest run of zero groups left out, and an
embedded IPv4 address in its own form.
-/

namespace TxGateway

/-- An address of four bytes. -/
structure IPv4 where
  first : UInt8
  second : UInt8
  third : UInt8
  fourth : UInt8
deriving DecidableEq, Repr

/-- An address of eight groups of sixteen bits. -/
structure IPv6 where
  groups : List UInt16
  length_eq : groups.length = 8
deriving DecidableEq

/-- An address with a port. -/
inductive SocketAddress where
  | v4 (ip : IPv4) (port : UInt16)
  | v6 (ip : IPv6) (scope : UInt32) (port : UInt16)
deriving DecidableEq

namespace SocketAddress

/-! ## Reading -/

/-- Takes something off the front of a text. -/
abbrev Parse (α : Type) := List Char → Option (α × List Char)

/-- Takes a character. -/
def expect (c : Char) : Parse Unit
  | d :: rest => if c = d then some ((), rest) else none
  | [] => none

/-- Takes all digits, which must denote a number below a bound. -/
def number (base bound : Nat) : Parse Nat := fun text =>
  let digits := text.takeWhile (Digits.isDigit base)
  if digits.isEmpty then none
  else
    let value := Digits.ofDigits base digits
    if value < bound then some (value, text.dropWhile (Digits.isDigit base)) else none

/-- Takes a part of an IPv4 address: up to three digits, without leading zeros. -/
def octet : Parse UInt8 := fun text =>
  let digits := text.takeWhile (Digits.isDigit 10)
  if 3 < digits.length ∨ (1 < digits.length ∧ digits.head? = some '0') then none
  else (number 10 256 text).map fun (value, rest) => (UInt8.ofNat value, rest)

/-- Takes an IPv4 address. -/
def ipv4 : Parse IPv4 := fun text => do
  let (first, text) ← octet text
  let ((), text) ← expect '.' text
  let (second, text) ← octet text
  let ((), text) ← expect '.' text
  let (third, text) ← octet text
  let ((), text) ← expect '.' text
  let (fourth, text) ← octet text
  return (⟨first, second, third, fourth⟩, text)

/-- Takes a group of an IPv6 address: up to four hex digits. -/
def group : Parse UInt16 := fun text =>
  if 4 < (text.takeWhile (Digits.isDigit 16)).length then none
  else (number 16 65536 text).map fun (value, rest) => (UInt16.ofNat value, rest)

/-- Takes the colon before every element but the first. -/
def separator (isFirst : Bool) : Parse Unit := fun text =>
  if isFirst then some ((), text) else expect ':' text

/-- The two groups that an embedded IPv4 address fills. -/
def IPv4.groups (ip : IPv4) : List UInt16 :=
  [ip.first.toUInt16 * 256 + ip.second.toUInt16, ip.third.toUInt16 * 256 + ip.fourth.toUInt16]

/-- Takes as many groups as there are, up to a number, with colons between them. An IPv4 address may
stand for the last two, and ends the run; the second result says that it did. -/
def groupRun : (most : Nat) → (isFirst : Bool) → List Char → List UInt16 × Bool × List Char
  | 0, _, text => ([], false, text)
  | most + 1, isFirst, text =>
    let embedded := if most = 0 then none else do
      let ((), text) ← separator isFirst text
      ipv4 text
    match embedded with
    | some (ip, text) => (IPv4.groups ip, true, text)
    | none =>
      let single := do
        let ((), text) ← separator isFirst text
        group text
      match single with
      | some (value, text) =>
        let (others, embedded, text) := groupRun most false text
        (value :: others, embedded, text)
      | none => ([], false, text)

/-- Takes an IPv6 address. A double colon stands for one or more groups of zeros. -/
def ipv6 : Parse IPv6 := fun text =>
  let (head, embedded, text) := groupRun 8 true text
  if full : head.length = 8 then some (⟨head, full⟩, text)
  else if embedded then none
  else do
    let ((), text) ← expect ':' text
    let ((), text) ← expect ':' text
    let (tail, _, text) := groupRun (7 - head.length) true text
    let groups := head ++ List.replicate (8 - head.length - tail.length) 0 ++ tail
    if whole : groups.length = 8 then some (⟨groups, whole⟩, text) else none

/-- Takes a colon and a port. -/
def port : Parse UInt16 := fun text => do
  let ((), text) ← expect ':' text
  let (value, text) ← number 10 65536 text
  return (UInt16.ofNat value, text)

/-- Takes a scope, if one is given. -/
def scope (text : List Char) : UInt32 × List Char :=
  let given := do
    let ((), text) ← expect '%' text
    number 10 (Digits.capacity 2 32) text
  match given with
  | some (value, text) => (UInt32.ofNat value, text)
  | none => (0, text)

/-- Takes an IPv4 address with a port. -/
def socketV4 : Parse SocketAddress := fun text => do
  let (ip, text) ← ipv4 text
  let (port, text) ← port text
  return (v4 ip port, text)

/-- Takes an IPv6 address with a port. -/
def socketV6 : Parse SocketAddress := fun text => do
  let ((), text) ← expect '[' text
  let (ip, text) ← ipv6 text
  let (scope, text) := scope text
  let ((), text) ← expect ']' text
  let (port, text) ← port text
  return (v6 ip scope port, text)

/-- The socket address that a text denotes. -/
def ofText? (text : String) : Option SocketAddress :=
  match (socketV4 text.toList).orElse fun _ => socketV6 text.toList with
  | some (address, []) => some address
  | _ => none

/-! ## Writing -/

/-- An IPv4 address as a text. -/
def textV4 (ip : IPv4) : List Char :=
  Digits.decimal ip.first.toNat ++ '.' :: Digits.decimal ip.second.toNat ++ '.' ::
    Digits.decimal ip.third.toNat ++ '.' :: Digits.decimal ip.fourth.toNat

/-- Groups in hex with colons between them. -/
def joinGroups : List UInt16 → List Char
  | [] => []
  | [value] => Digits.hex value.toNat
  | value :: others => Digits.hex value.toNat ++ ':' :: joinGroups others

/-- The number of zero groups at the front. -/
def zerosInFront (groups : List UInt16) : Nat := (groups.takeWhile (· == 0)).length

/-- The first longest run of zero groups: where it starts, and how long it is. -/
def longestZeros (groups : List UInt16) : Nat × Nat :=
  (List.range groups.length).foldl
    (fun best start =>
      let length := zerosInFront (groups.drop start)
      if best.2 < length then (start, length) else best)
    (0, 0)

/-- An IPv6 address as a text. -/
def textV6 (ip : IPv6) : List Char :=
  match ip.groups with
  | [0, 0, 0, 0, 0, 0xffff, high, low] =>
    [':', ':', 'f', 'f', 'f', 'f', ':'] ++
      textV4 ⟨(high >>> 8).toUInt8, high.toUInt8, (low >>> 8).toUInt8, low.toUInt8⟩
  | groups =>
    let (start, length) := longestZeros groups
    if 1 < length then
      joinGroups (groups.take start) ++ [':', ':'] ++ joinGroups (groups.drop (start + length))
    else joinGroups groups

/-- A socket address as a text. -/
def text : SocketAddress → String
  | v4 ip port => String.ofList (textV4 ip ++ ':' :: Digits.decimal port.toNat)
  | v6 ip scope port =>
    let zone := if scope = 0 then [] else '%' :: Digits.decimal scope.toNat
    String.ofList ('[' :: textV6 ip ++ zone ++ ']' :: ':' :: Digits.decimal port.toNat)

end SocketAddress

end TxGateway
