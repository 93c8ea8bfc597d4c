import Dataflow.Url.Ipv6
import Dataflow.Url.Domain
import Dataflow.Text.Percent

/-!
# Hosts

The host of a URL is an IP address, a domain name, or, in schemes that are not special, any text.
-/

namespace Dataflow.Url

/-- Why a text is no URL. -/
inductive Fault where
  | relative
  | emptyHost
  | badDomain
  | badHostChar
  | badIpv4
  | badIpv6
  | badPort
deriving DecidableEq, Repr

/-- The text of a fault. -/
def Fault.message : Fault → String
  | .relative => "relative URL without a base"
  | .emptyHost => "empty host"
  | .badDomain => "invalid international domain name"
  | .badHostChar => "invalid domain character"
  | .badIpv4 => "invalid IPv4 address"
  | .badIpv6 => "invalid IPv6 address"
  | .badPort => "invalid port number"

/-- The host of a URL. -/
inductive Host where
  /-- A domain name in ASCII form, or an opaque host, already encoded. -/
  | name (text : List Char)
  | ipv4 (address : Ipv4)
  | ipv6 (address : Ipv6)

namespace Host

/-- The text of a host; IPv6 addresses stand in brackets. -/
def text : Host → List Char
  | .name s => s
  | .ipv4 a => a.text
  | .ipv6 a => '[' :: (a.text ++ [']'])

/-- An address in brackets, the first of which has been read. -/
def parseBracketed (s : List Char) : Except Fault Host :=
  if s.getLast? != some ']' then .error .badIpv6
  else match Ipv6.parse? s.dropLast with
    | some a => .ok (.ipv6 a)
    | none => .error .badIpv6

/-- The host of a special URL. -/
def parse (s : List Char) : Except Fault Host :=
  match s with
  | '[' :: rest => parseBracketed rest
  | s =>
    match (Text.decodeUtf8? (Text.percentDecode s)).bind domainToAscii? with
    | none => .error .badDomain
    | some domain =>
      if domain.isEmpty then .error .emptyHost
      else if Ipv4.endsInNumber domain then
        match Ipv4.parse? domain with
        | some a => .ok (.ipv4 a)
        | none => .error .badIpv4
      else .ok (.name domain)

/-- The characters that no opaque host holds. -/
def isForbiddenHostChar (c : Char) : Bool :=
  c.toNat == 0 || c == '\t' || c == '\n' || c == '\r' || " #/:<>?@[\\]^|".toList.contains c

/-- Whether a character is no control and within ASCII. -/
def isPlain (c : Char) : Bool := 0x20 ≤ c.toNat && c.toNat < 0x7F

/-- The host of a URL that is not special. -/
def parseOpaque (s : List Char) : Except Fault Host :=
  match s with
  | '[' :: rest => parseBracketed rest
  | s =>
    if s.any isForbiddenHostChar then .error .badHostChar
    else .ok (.name (Text.percentEncode isPlain s))

end Host

end Dataflow.Url
