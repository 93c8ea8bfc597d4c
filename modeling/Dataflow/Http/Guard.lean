import Dataflow.Url.Read
import Dataflow.Error
import Dataflow.Text.Blank

/-!
# Which URLs may be asked

A workflow may ask only for resources of the web, and, unless it is allowed to, not for those of
the machine it runs on or of the network behind it.
-/

namespace Dataflow.Http

/-- Why a URL may not be asked. -/
inductive Refusal where
  | badUrl (text : String) (fault : Url.Fault)
  | badScheme (scheme : String)
  | localHost
  | privateAddress
  | internalName
deriving DecidableEq, Repr

/-- The text of a refusal. -/
def Refusal.message : Refusal → String
  | .badUrl text fault => "Invalid URL '" ++ text ++ "': " ++ fault.message
  | .badScheme scheme =>
    "Unsupported URL scheme '" ++ scheme ++ "'. Only http and https are allowed."
  | .localHost => "Access to localhost is not allowed for security reasons."
  | .privateAddress =>
    "Access to private or internal IP addresses is not allowed for security reasons."
  | .internalName => "Access to internal hostnames is not allowed for security reasons."

/-- The refusal as an error of a node. -/
def Refusal.toError (r : Refusal) : Error := .node r.message

/-- Whether an address belongs to the machine itself or to a private network. -/
def isPrivateIpv4 (a : Url.Ipv4) : Bool :=
  match a.octets with
  | [b0, b1, _, _] =>
    b0 == 127 || b0 == 10 || (b0 == 172 && 16 ≤ b1 && b1 < 32) || (b0 == 192 && b1 == 168) ||
      (b0 == 169 && b1 == 254) || (b0 == 100 && 64 ≤ b1 && b1 < 128) ||
      a.toNat == 0 || a.toNat == 0xFFFFFFFF
  | _ => false

/-- The pieces of the address of the machine itself. -/
def loopbackPieces : List Nat := [0, 0, 0, 0, 0, 0, 0, 1]

/-- The pieces of the address that is none. -/
def unspecifiedPieces : List Nat := List.replicate 8 0

/-- Whether an address is the machine's own, none at all, or maps a private one. -/
def isPrivateIpv6 (a : Url.Ipv6) : Bool :=
  let ns := a.pieces.map BitVec.toNat
  ns == loopbackPieces || ns == unspecifiedPieces || a.mapped?.any isPrivateIpv4

/-- Whether the host is an address of a private network. -/
def isPrivateHost : Url.Host → Bool
  | .name _ => false
  | .ipv4 a => isPrivateIpv4 a
  | .ipv6 a => isPrivateIpv6 a

/-- The usual names of the machine itself. -/
def localHostTexts : List (List Char) :=
  ["localhost".toList, "127.0.0.1".toList, "::1".toList, "[::1]".toList, "0.0.0.0".toList]

/-- The address that a text writes. -/
def addressOf? (text : List Char) : Option Url.Host :=
  ((Url.Ipv4.ofDotted? text).map .ipv4).or ((Url.Ipv6.parse? text).map .ipv6)

/-- The text without brackets around it. -/
def withoutBrackets (text : List Char) : List Char :=
  Text.dropEndWhile (· == ']') (text.dropWhile (· == '['))

/-- The endings of names that are valid in a private network only. -/
def internalEndings : List (List Char) :=
  [".local".toList, ".internal".toList, ".localhost".toList]

/-- Whether the host with a text may be asked. -/
def checkHostText (text : List Char) : Except Refusal Unit :=
  let lower := text.map Char.toLower
  if localHostTexts.contains lower then .error .localHost
  else if (addressOf? (withoutBrackets lower)).any isPrivateHost then .error .privateAddress
  else if internalEndings.any fun ending => ending.isSuffixOf lower then .error .internalName
  else .ok ()

/-- Whether the scheme is one of the web. -/
def isWebScheme (scheme : List Char) : Bool :=
  scheme == "http".toList || scheme == "https".toList

/-- The URL that a text writes, if it may be asked. -/
def checkUrl (text : String) (allowInternal : Bool) : Except Refusal Url :=
  match Url.parse text with
  | .error fault => .error (.badUrl text fault)
  | .ok url =>
    if !isWebScheme url.scheme then .error (.badScheme (String.ofList url.scheme))
    else if allowInternal then .ok url
    else match url.host with
      | none => .ok url
      | some host => (checkHostText host.text).map fun _ => url

end Dataflow.Http
