import Depot.Text.Digits
import Depot.Text.Utf8
import Depot.Url.Name
/-!
# Hosts

The host of a web address is a name, four numbers, or an IPv6 address in
brackets. A name is percent-decoded and put into its plain form first; a name
whose last label is a number has to be an IPv4 address.
-/
namespace Depot.Url

/-- The bytes of a text, with `%` and two hexadecimal digits read as one byte. -/
def percentDecoded : List Char → List UInt8
  | [] => []
  | '%' :: a :: b :: rest =>
    match Text.hexValue? a, Text.hexValue? b with
    | some x, some y => (16 * x + y).toUInt8 :: percentDecoded rest
    | _, _ => '%'.toUInt8 :: percentDecoded (a :: b :: rest)
  | c :: rest => String.utf8EncodeChar c ++ percentDecoded rest

/-- Characters that no host may hold. -/
def isForbiddenInHost (c : Char) : Bool :=
  c.toNat = 0 || ['\t', '\n', '\r', ' ', '#', '/', ':', '<', '>', '?', '@', '[', '\\', ']', '^',
    '|'].contains c

/-- Characters that no name may hold once it is decoded. -/
def isForbiddenInName (c : Char) : Bool :=
  isForbiddenInHost c || c.toNat < 0x20 || c = '%' || c.toNat = 0x7F

/-- The number that an IPv4 part is written as: decimal, octal after `0`, hexadecimal after `0x`. -/
def ipv4Number? (cs : List Char) : Option Nat :=
  let inBase (base : Nat) (digits : List Char) : Option Nat :=
    digits.foldl (fun n c => do
      let n ← n
      let d ← Text.hexValue? c
      if d < base then some (n * base + d) else none) (some 0)
  match cs with
  | [] => none
  | '0' :: 'x' :: rest => inBase 16 rest
  | '0' :: 'X' :: rest => inBase 16 rest
  | '0' :: c :: rest => inBase 8 (c :: rest)
  | cs => inBase 10 cs

/-- The labels of a name, without an empty one at the end. -/
private def labels (name : List Char) : List (List Char) :=
  let parts := name.splitOn '.'
  if parts.length > 1 ∧ parts.getLast? = some [] then parts.dropLast else parts

/-- Whether a name ends in a number, so that it can only be an address. -/
def endsInNumber (name : List Char) : Bool :=
  match (labels name).getLast? with
  | none => false
  | some last => !last.isEmpty && (last.all Char.isDigit || (ipv4Number? last).isSome)

/-- Whether a name is an IPv4 address; the last of at most four numbers fills the bytes left. -/
def isIpv4 (name : List Char) : Bool :=
  let parts := labels name
  match parts.mapM ipv4Number? with
  | none => false
  | some numbers =>
    numbers.length ≤ 4 && numbers.dropLast.all (· ≤ 255) &&
      numbers.getLast?.all (· < Nat.pow 256 (5 - numbers.length))

/-- A piece of an IPv6 address. -/
private def isHexPiece (cs : List Char) : Bool :=
  1 ≤ cs.length && cs.length ≤ 4 && cs.all (Text.hexValue? · |>.isSome)

/-- An IPv4 address in its strict form: four decimal bytes without leading zeros. -/
private def isStrictIpv4 (cs : List Char) : Bool :=
  let parts := cs.splitOn '.'
  parts.length = 4 && parts.all fun p =>
    !p.isEmpty && p.length ≤ 3 && p.all Char.isDigit && (p.length = 1 || p.head? ≠ some '0') &&
      Text.digitsValue p ≤ 255

/-- How many of the eight pieces a run of pieces fills, if all of them are well formed. -/
private def piecesFilled? (last : Bool) : List (List Char) → Option Nat
  | [] => some 0
  | [p] =>
    if isHexPiece p then some 1 else if last && isStrictIpv4 p then some 2 else none
  | p :: rest => if isHexPiece p then (piecesFilled? last rest).map (· + 1) else none

/-- Splits at the first double colon. -/
private def splitDouble : List Char → List Char × Option (List Char)
  | [] => ([], none)
  | ':' :: ':' :: rest => ([], some rest)
  | c :: rest =>
    let (front, back) := splitDouble rest
    (c :: front, back)

private def pieces (cs : List Char) : List (List Char) :=
  if cs.isEmpty then [] else cs.splitOn ':'

/-- Whether a text is an IPv6 address; a double colon stands for one or more zero pieces. -/
def isIpv6 (cs : List Char) : Bool :=
  match splitDouble cs with
  | (front, none) => piecesFilled? true (pieces front) = some 8
  | (front, some back) =>
    match piecesFilled? false (pieces front), piecesFilled? true (pieces back) with
    | some a, some b => a + b ≤ 7
    | _, _ => false

/-- Whether a text is the host of a web address. -/
def isHost (cs : List Char) : Bool :=
  match cs with
  | '[' :: rest => rest.getLast? = some ']' && isIpv6 rest.dropLast
  | cs =>
    match Name.ofText? (Text.Utf8.decodeList (percentDecoded cs)) with
    | none => false
    | some name => !name.any isForbiddenInName && (!endsInNumber name || isIpv4 name)

/-- Whether a text may stand as the host of an address that is not a web address. -/
def isOpaqueHost (cs : List Char) : Bool :=
  match cs with
  | '[' :: rest => rest.getLast? = some ']' && isIpv6 rest.dropLast
  | cs => !cs.any isForbiddenInHost

end Depot.Url
