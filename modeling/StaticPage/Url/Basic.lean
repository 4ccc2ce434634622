import StaticPage.Url.Address
import StaticPage.Url.Name

/-!
# URLs

In percent-encoding a byte is written as a percent sign and two hexadecimal digits. Characters beyond
ASCII and controls are always written so, byte by byte; which others are depends on the part of the URL.

The host of a URL is a name or a numeric address. A name is brought into one form: without case, and
in ASCII, whatever characters it was written with.

A URL that can be fetched has one of the web's two schemes, a host, a port where it is not the scheme's
own, a path, and maybe a query and a fragment. Every part is kept in its one written form. A name and
password before the host are no part of it.
-/

namespace StaticPage

namespace Url

/-! ### Percent-encoding -/

def encodeByte (b : UInt8) : List Char :=
  ['%', Text.upperHexDigit (b.toNat / 16), Text.upperHexDigit (b.toNat % 16)]

/-- A character that a part of a URL with the given reserved characters may hold as it is. -/
def isPlain (reserved : List Char) (c : Char) : Bool :=
  ' ' ≤ c && c ≤ '~' && !reserved.contains c

def encode (reserved : List Char) (s : List Char) : List Char :=
  s.flatMap fun c =>
    if isPlain reserved c then [c] else (String.utf8EncodeChar c).flatMap encodeByte

/-- Reads percent-encoding. A percent sign without two digits stands for itself. -/
def decode : List Char → List UInt8
  | [] => []
  | '%' :: a :: b :: s =>
    match Text.hexNumber? [a, b] with
    | some n => n.toUInt8 :: decode s
    | none => '%'.toNat.toUInt8 :: decode (a :: b :: s)
  | c :: s => String.utf8EncodeChar c ++ decode s

def fragmentReserved : List Char := [' ', '"', '<', '>', '\x60']

def pathReserved : List Char := fragmentReserved ++ ['#', '?', '\x7b', '\x7d']

def queryReserved : List Char := [' ', '"', '#', '<', '>', '\'']

/-! ### Hosts -/

/-- Why a text is no URL that can be fetched. -/
inductive Fault where
  | noScheme
  | emptyHost
  | badPort
  | badIpv4
  | badIpv6
  | badName
  | badHostCharacter
  | unsupportedScheme (scheme : String)
  deriving DecidableEq, Repr, Inhabited

def Fault.message : Fault → String
  | noScheme => "relative URL without a base"
  | emptyHost => "empty host"
  | badPort => "invalid port number"
  | badIpv4 => "invalid IPv4 address"
  | badIpv6 => "invalid IPv6 address"
  | badName => "invalid international domain name"
  | badHostCharacter => "invalid domain character"
  | unsupportedScheme scheme => "unsupported scheme '" ++ scheme ++ "'"

inductive Host where
  | name (n : List Char)
  | ipv4 (address : Nat)
  | ipv6 (pieces : List Nat)
  deriving DecidableEq, Repr, Inhabited

def Host.text : Host → List Char
  | name n => n
  | ipv4 address => ipv4Text address
  | ipv6 pieces => ['['] ++ ipv6Text pieces ++ [']']

/-! ### Reading hosts -/

/-- Reads an address in square brackets. -/
def bracketed (s : List Char) : Except Fault Host :=
  match s.getLast?, ipv6? ((s.drop 1).dropLast) with
  | some ']', some pieces => .ok (.ipv6 pieces)
  | _, _ => .error .badIpv6

/-- Reads a host. A name whose last part is a number has to be an address. -/
def Host.parse (s : List Char) : Except Fault Host :=
  if s.head? = some '[' then bracketed s
  else
    match (String.fromUTF8? ⟨(decode s).toArray⟩).bind fun t => asciiName? t.toList with
    | none => .error .badName
    | some [] => .error .emptyHost
    | some n =>
      if endsInNumber n then
        match ipv4? n with
        | some address => .ok (.ipv4 address)
        | none => .error .badIpv4
      else .ok (.name n)

/-- A character that the host of an unknown scheme may not hold. -/
def isForbiddenInHost (c : Char) : Bool :=
  c == '\x00' || "\t\n\r #/:<>?@[\\]^|".contains c

/-- Reads the host of an unknown scheme, in which only the characters are checked. -/
def Host.parseOpaque (s : List Char) : Except Fault Host :=
  if s.head? = some '[' then bracketed s
  else if s.any isForbiddenInHost then .error .badHostCharacter
  else .ok (.name (encode [] s))

end Url

/-! ### URLs that can be fetched -/

inductive Scheme where
  | http | https
  deriving DecidableEq, Repr, Inhabited

namespace Scheme

def ofName? (name : List Char) : Option Scheme :=
  if name = "http".toList then some http
  else if name = "https".toList then some https
  else none

def name : Scheme → List Char
  | http => "http".toList
  | https => "https".toList

def defaultPort : Scheme → Nat
  | http => 80
  | https => 443

end Scheme

/-- A URL that can be fetched. -/
structure Url where
  scheme : Scheme
  host : Url.Host
  port : Option Nat
  /-- The segments of the path, at least one. -/
  path : List (List Char)
  query : Option (List Char)
  fragment : Option (List Char)
  deriving DecidableEq, Repr, Inhabited

namespace Url

def text (u : Url) : String :=
  String.ofList (u.scheme.name ++ "://".toList ++ u.host.text ++
    u.port.elim [] (fun p => ':' :: Nat.toDigits 10 p) ++
    u.path.flatMap ('/' :: ·) ++
    u.query.elim [] ('?' :: ·) ++ u.fragment.elim [] ('#' :: ·))

/-- Whether the host can be addressed by a request. Some characters that a name may hold cannot stand
there. -/
def isAddressable (u : Url) : Bool :=
  u.host.text.all fun c => !("\"\x60\x7b\x7d".toList.contains c)

end Url

end StaticPage
