import ChatRelay.Text.Utf8
import ChatRelay.Url.Domain

/-!
# Validity of URLs

Whether a text is an absolute URL by the rules of the living URL standard: a scheme, and for the
schemes of the web a host that can be one: an IPv6 address in brackets, an IPv4 address if it ends
in a number, else a name with valid labels and without forbidden characters; and a port that fits.
What comes behind the host, and everything behind other schemes that name no host, may be anything.
-/

namespace ChatRelay.Url

open Text (unit)

/-! ## Characters -/

/-- An ASCII letter. -/
def isLetter (u : CodeUnit) : Bool := (65 ≤ u && u ≤ 90) || (97 ≤ u && u ≤ 122)

/-- An ASCII digit. -/
def isDigit (u : CodeUnit) : Bool := 48 ≤ u && u ≤ 57

/-- A unit that may stand in a scheme behind the first letter. -/
def isSchemeUnit (u : CodeUnit) : Bool :=
  isLetter u || isDigit u || u == unit '+' || u == unit '-' || u == unit '.'

/-- A unit that no host may hold. -/
def isForbiddenInHost (u : CodeUnit) : Bool :=
  u == 0 || u == 9 || u == 10 || u == 13 || u == 32 ||
    (" #/:<>?@[\\]^|" : Text).contains u

/-- A unit that no host name may hold in its ASCII form. -/
def isForbiddenInName (u : CodeUnit) : Bool :=
  isForbiddenInHost u || u ≤ 32 || u == unit '%' || u == 127

/-- A slash of either kind. -/
def isSlash (u : CodeUnit) : Bool := u == unit '/' || u == unit '\\'

/-- A unit that ends the authority. -/
def endsAuthority (special : Bool) (u : CodeUnit) : Bool :=
  u == unit '/' || u == unit '?' || u == unit '#' || (special && u == unit '\\')

/-! ## Addresses -/

/-- The value of a digit that is below a base. -/
def digitBelow? (base : Nat) (u : CodeUnit) : Option Nat :=
  match Text.hexDigit? u with
  | some d => if d < base then some d else none
  | none => none

/-- The number that a part of an IPv4 address spells, in one of three bases. -/
def addressNumber? (part : Text) : Option Nat :=
  let read (base : Nat) (digits : Text) : Option Nat :=
    (digits.mapM (digitBelow? base)).map (Text.digitsValue base)
  match part with
  | [] => none
  | [u] => read 10 [u]
  | u :: v :: r =>
    if u = unit '0' then
      if v = unit 'x' || v = unit 'X' then read 16 r else read 8 (v :: r)
    else read 10 (u :: v :: r)

/-- The parts of a name between its dots, without an empty last one. -/
def nameParts (name : Text) : List Text :=
  let parts := Text.splitOn (unit '.') name
  if 1 < parts.length && parts.getLast? = some [] then parts.dropLast else parts

/-- Whether a name has to be an IPv4 address. -/
def endsInNumber (name : Text) : Bool :=
  match (nameParts name).getLast? with
  | some part => (!part.isEmpty && part.all isDigit) || (addressNumber? part).isSome
  | none => false

/-- Whether a name is an IPv4 address. -/
def isAddress4 (name : Text) : Bool :=
  match (nameParts name).mapM addressNumber? with
  | none => false
  | some numbers =>
    numbers.length ≤ 4 && numbers.dropLast.all (· ≤ 255) &&
      (numbers.getLast?.getD 0) < Nat.pow 256 (5 - numbers.length)

/-- Whether a part is a number up to 255 in plain decimal. -/
def isOctet (part : Text) : Bool :=
  match part.mapM Text.digit? with
  | none => false
  | some digits =>
    !part.isEmpty && Text.digitsValue 10 digits ≤ 255 && (part.length == 1 || digits.head? != some 0)

/-- The number of 16-bit pieces that groups of an IPv6 address stand for. -/
def pieceCount? (last : Bool) : List Text → Option Nat
  | [] => some 0
  | [g] =>
    let octets := Text.splitOn (unit '.') g
    if last && octets.length == 4 && octets.all isOctet then some 2
    else if 1 ≤ g.length && g.length ≤ 4 && g.all (fun u => (Text.hexDigit? u).isSome) then some 1
    else none
  | g :: h :: gs =>
    if 1 ≤ g.length && g.length ≤ 4 && g.all (fun u => (Text.hexDigit? u).isSome) then
      (pieceCount? last (h :: gs)).map (· + 1)
    else none

/-- The groups of a part of an IPv6 address; an empty part has none. -/
def groups (part : Text) : List Text :=
  if part.isEmpty then [] else Text.splitOn (unit ':') part

/-- What stands before and behind the first two colons in a row. -/
def splitAtGap : Text → Option (Text × Text)
  | [] => none
  | [_] => none
  | u :: v :: r =>
    if u = unit ':' ∧ v = unit ':' then some ([], r)
    else (splitAtGap (v :: r)).map fun (before, behind) => (u :: before, behind)

/-- Whether a text is an IPv6 address. -/
def isAddress6 (t : Text) : Bool :=
  match splitAtGap t with
  | none => pieceCount? true (groups t) == some 8
  | some (before, behind) =>
    match pieceCount? false (groups before), pieceCount? true (groups behind) with
    | some m, some n => m + n ≤ 7
    | _, _ => false

/-! ## Hosts -/

/-- The bytes of a text in which `%` and two hexadecimal digits stand for a byte. -/
def percentDecoded : List UInt8 → List UInt8
  | [] => []
  | b :: r =>
    match b == 37, r with
    | true, x :: y :: r' =>
      match Text.hexDigit? x.toUInt16, Text.hexDigit? y.toUInt16 with
      | some m, some n => (m * 16 + n).toUInt8 :: percentDecoded r'
      | _, _ => b :: percentDecoded (x :: y :: r')
    | _, r => b :: percentDecoded r

/-- Whether a text can be the host of a URL of the web. -/
def isHost (t : Text) : Bool :=
  match t with
  | [] => false
  | u :: r =>
    if u = unit '[' then r.getLast? = some (unit ']') && isAddress6 r.dropLast
    else
      match Domain.asciiForm? (Utf8.decode (percentDecoded (Utf8.encode (u :: r)))) with
      | none => false
      | some name =>
        !name.isEmpty && !name.any isForbiddenInName && (!endsInNumber name || isAddress4 name)

/-- Whether a text can be the host of another URL. -/
def isOpaqueHost (t : Text) : Bool :=
  match t with
  | u :: r =>
    if u = unit '[' then r.getLast? = some (unit ']') && isAddress6 r.dropLast
    else !(u :: r).any isForbiddenInHost
  | [] => true

/-- Whether a text can be a port. -/
def isPort (t : Text) : Bool :=
  match t.mapM Text.digit? with
  | some digits => Text.digitsValue 10 digits ≤ 65535
  | none => false

/-- The host and what follows the colon behind it; colons in brackets do not count. -/
def splitPort (inBrackets : Bool) : Text → Text × Option Text
  | [] => ([], none)
  | u :: r =>
    if u = unit ':' ∧ ¬inBrackets then ([], some r)
    else
      let inBrackets := u = unit '[' || (inBrackets && u != unit ']')
      let (host, port) := splitPort inBrackets r
      (u :: host, port)

/-- What stands behind the last `@`, and whether there is one. -/
def behindCredentials (t : Text) : Text × Bool :=
  let behind := (t.reverse.takeWhile (· ≠ unit '@')).reverse
  (behind, behind.length < t.length)

/-- Whether what follows the slashes names a host. -/
def isAuthority (special : Bool) (t : Text) : Bool :=
  let (address, credentials) := behindCredentials (t.takeWhile fun u => !endsAuthority special u)
  let (host, port) := splitPort false address
  if credentials && address.isEmpty then false
  else if host.isEmpty && port.isSome then false
  else (if special then isHost host else isOpaqueHost host) && (port.map isPort).getD true

/-- A drive letter and its colon or bar. -/
def isDrive : Text → Bool
  | [u, v] => isLetter u && (v == unit ':' || v == unit '|')
  | _ => false

/-- Whether what follows `file:` is valid. -/
def isFile (t : Text) : Bool :=
  match t with
  | u :: v :: r =>
    if isSlash u && isSlash v then
      let host := r.takeWhile fun u => !endsAuthority true u
      host.isEmpty || isDrive host || isHost host
    else true
  | _ => true

/-! ## URLs -/

/-- The schemes of the web, apart from `file`. -/
def webSchemes : List Text := ["http", "https", "ws", "wss", "ftp"]

/-- The scheme in lower case and what follows its colon. -/
def scheme? (t : Text) : Option (Text × Text) :=
  let scheme := t.takeWhile isSchemeUnit
  match scheme, t.drop scheme.length with
  | first :: _, colon :: rest =>
    if isLetter first && colon == unit ':' then some (Text.toLowerAscii scheme, rest) else none
  | _, _ => none

/-- The text that is read: without white space at the ends and without any tab or line break. -/
def cleaned (t : Text) : Text :=
  let blank (u : CodeUnit) : Bool := u ≤ 32
  (((t.dropWhile blank).reverse.dropWhile blank).reverse).filter
    fun u => u != 9 && u != 10 && u != 13

/-- Whether a text is an absolute URL. -/
def isValid (t : Text) : Bool :=
  match scheme? (cleaned t) with
  | none => false
  | some (scheme, rest) =>
    if scheme = ("file" : Text) then isFile rest
    else if webSchemes.contains scheme then isAuthority true (rest.dropWhile isSlash)
    else
      match Text.after? "//" rest with
      | some authority => isAuthority false authority
      | none => true

end ChatRelay.Url
