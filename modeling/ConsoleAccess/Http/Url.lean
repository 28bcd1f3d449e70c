import ConsoleAccess.Http.Ipv6
import ConsoleAccess.Text.Case
import ConsoleAccess.Text.HostForm
import ConsoleAccess.Text.Utf8

/-!
Addresses of HTTP servers and of resources on them, read from text as browsers read them: blanks
around the text and line breaks in it are skipped, backslashes count as slashes, a host is taken in
its plain form, one in numbers is an IPv4 address and one in brackets an IPv6 address, dot segments
are resolved but do not lead out of a drive, and what may not stand in a path or query is
percent-encoded.

A host that keeps letters outside ASCII in its plain form stands as it is, and is never the same as
one without such letters. Addresses may be of any length.
-/

namespace ConsoleAccess.Http

inductive Host
  | ipv4 (address : Nat)
  | ipv6 (pieces : List Nat)
  | name (text : Text)
deriving DecidableEq, Repr

structure Origin where
  secure : Bool
  host : Host
  port : Nat
deriving DecidableEq, Repr

def Host.isLoopback : Host → Bool
  | .ipv4 address => address >>> 24 == 127
  | .ipv6 pieces => pieces == [0, 0, 0, 0, 0, 0, 0, 1]
  | .name text => text == "localhost".toList

def Host.text : Host → Text
  | .ipv4 n =>
    ['.'].intercalate ([n >>> 24, n >>> 16 % 256, n >>> 8 % 256, n % 256].map decimalText)
  | .ipv6 pieces => '[' :: Ipv6.text pieces ++ [']']
  | .name text => text

/-- Whether nobody on the way to a server can listen. -/
def Origin.isTrusted (o : Origin) : Bool := o.secure || o.host.isLoopback

structure Url where
  origin : Origin
  path : Text
  query : Option Text
deriving DecidableEq, Repr

namespace Url

/-! ## Percent encoding -/

def percentByte (b : UInt8) : Text := '%' :: (hexText 2 b.toNat).map Char.toUpper

def percentEncode (reserved : List Char) (t : Text) : Text :=
  t.flatMap fun c =>
    if c.toNat ≤ 0x1F || 0x7E < c.toNat || reserved.contains c then
      (String.utf8EncodeChar c).flatMap percentByte
    else [c]

def pathReserved : List Char := [' ', '"', '#', '<', '>', '?', Char.ofNat 0x60, '\x7b', '\x7d']

def queryReserved : List Char := [' ', '"', '#', '<', '>', Char.ofNat 39]

def percentDecode : Text → List UInt8
  | [] => []
  | '%' :: h :: l :: rest =>
    match hexValue? h, hexValue? l with
    | some h, some l => UInt8.ofNat (16 * h + l) :: percentDecode rest
    | _, _ => 0x25 :: percentDecode (h :: l :: rest)
  | c :: rest => String.utf8EncodeChar c ++ percentDecode rest

/-! ## Hosts -/

/-- A part of an IPv4 address: `0x` starts hexadecimal digits and `0` octal ones. -/
def ipv4Part? (t : Text) : Option Nat :=
  match t with
  | [] => none
  | '0' :: 'x' :: rest => numberIn? 16 rest
  | '0' :: 'X' :: rest => numberIn? 16 rest
  | '0' :: rest => numberIn? 8 rest
  | _ => numberIn? 10 t

/-- The address of up to four parts, of which the last fills the bytes that are left. -/
def ipv4Value? : List Nat → Option Nat
  | [a] => if a < 1 <<< 32 then some a else none
  | [a, b] => if a < 256 && b < 1 <<< 24 then some (a <<< 24 + b) else none
  | [a, b, c] =>
    if a < 256 && b < 256 && c < 1 <<< 16 then some (a <<< 24 + b <<< 16 + c) else none
  | [a, b, c, d] =>
    if a < 256 && b < 256 && c < 256 && d < 256 then
      some (a <<< 24 + b <<< 16 + c <<< 8 + d)
    else none
  | _ => none

def forbiddenInHost (c : Char) : Bool :=
  c.toNat ≤ 0x20 || c.toNat == 0x7F ||
    ['#', '%', '/', ':', '<', '>', '?', '@', '[', '\\', ']', '^', '|'].contains c

def labels (host : Text) : List Text :=
  let parts := host.splitOn '.'
  if parts.length > 1 && parts.getLast? == some [] then parts.dropLast else parts

def endsInNumber (host : Text) : Bool :=
  match (labels host).getLast? with
  | some last => (!last.isEmpty && last.all isDigit) || (ipv4Part? last).isSome
  | none => false

def host? (raw : Text) : Option Host :=
  if raw.isEmpty then none
  else if raw.head? == some '[' then
    if raw.getLast? == some ']' then (Ipv6.parse? raw.tail.dropLast).map Host.ipv6 else none
  else
    let host := Text.hostForm (Utf8.decodeLenient (percentDecode raw))
    if host.isEmpty || host.any forbiddenInHost then none
    else if endsInNumber host then
      (((labels host).mapM ipv4Part?).bind ipv4Value?).map Host.ipv4
    else some (.name host)

/-! ## Reading -/

def isSlash (c : Char) : Bool := c == '/' || c == '\\'

def endsAuthority (c : Char) : Bool := isSlash c || c == '?' || c == '#'

def afterLast (c : Char) (t : Text) : Text := (t.reverse.takeWhile (· != c)).reverse

/-- The host and the port of an authority; user and password are passed over. -/
def authority? (secure : Bool) (t : Text) : Option Origin :=
  let t := afterLast '@' t
  let (host, port) :=
    match t.head? with
    | some '[' =>
      let (inner, rest) := t.span (· != ']')
      (inner ++ rest.take 1, rest.drop 1)
    | _ => t.span (· != ':')
  match host? host with
  | none => none
  | some host =>
    let standard := if secure then 443 else 80
    match port with
    | [] => some { secure, host, port := standard }
    | ':' :: [] => some { secure, host, port := standard }
    | ':' :: digits =>
      if digits.all isDigit && digitsValue digits < 65536 then
        some { secure, host, port := digitsValue digits }
      else none
    | _ => none

def isDrive : Text → Bool
  | [letter, mark] => letter.isAlpha && (mark == ':' || mark == '|')
  | _ => false

/-- The segments that `..` leaves of those before it, last one first. A drive stays. -/
def parent (done : List Text) : List Text :=
  match done with
  | [] => []
  | segment :: outer => if isDrive segment then done else outer

/-- Resolves the segment `..` against the ones before it and drops `.`; segments stand last first.
-/
def resolve (done : List Text) : List Text → List Text
  | [] => done.reverse
  | segment :: rest =>
    let plain := segment.lower
    let dot : Text := ['.']
    let coded : Text := ['%', '2', 'e']
    let isDouble := [dot ++ dot, dot ++ coded, coded ++ dot, coded ++ coded].contains plain
    if isDouble then resolve (if rest.isEmpty then [] :: parent done else parent done) rest
    else if plain == dot || plain == coded then
      resolve (if rest.isEmpty then [] :: done else done) rest
    else resolve (segment :: done) rest

def resolvePath (t : Text) : Text :=
  let t := match t with
    | c :: rest => if isSlash c then rest else t
    | [] => []
  let segments := (t.splitOnP isSlash).map (percentEncode pathReserved)
  '/' :: ['/'].intercalate (resolve [] segments)

def scheme? (t : Text) : Option (Text × Text) :=
  match t.span (· != ':') with
  | (scheme, ':' :: rest) => some (Text.lower scheme, rest)
  | _ => none

/-- Reads an absolute address of an HTTP server's resource. A fragment is dropped. -/
def parse? (raw : Text) : Option Url :=
  let isControl := fun c : Char => c.toNat ≤ 0x20
  let trimmed := ((raw.dropWhile isControl).reverse.dropWhile isControl).reverse
  let t := trimmed.filter fun c => c != '\t' && c != '\n' && c != '\r'
  match scheme? t with
  | none => none
  | some (scheme, rest) =>
    if scheme != "http".toList && scheme != "https".toList then none
    else
      let (authority, rest) := (rest.dropWhile isSlash).span (!endsAuthority ·)
      match authority? (scheme == "https".toList) authority with
      | none => none
      | some origin =>
        let (path, rest) := (rest.takeWhile (· != '#')).span (· != '?')
        some
          { origin
            path := resolvePath path
            query :=
              match rest with
              | [] => none
              | _ :: query => some (percentEncode queryReserved query) }

def target (u : Url) : Text :=
  u.path ++ match u.query with
    | some query => '?' :: query
    | none => []

end Url
end ConsoleAccess.Http
