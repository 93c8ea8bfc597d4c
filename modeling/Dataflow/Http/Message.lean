import Dataflow.Http.Guard
import Dataflow.Service
import Dataflow.Error
import Dataflow.Json.Reader
import Dataflow.Json.Printer

/-!
# HTTP messages

Requests and responses as far as they matter here, and the service that carries them. A request is
put together first and can fail in that; what is sent is always well-formed.
-/

namespace Dataflow.Http

/-- A user and a password. -/
structure Credentials where
  user : String
  password : Option String

/-- A request, ready to be sent. -/
structure Request where
  method : String
  url : Url
  credentials : Option Credentials
  /-- Names in small letters, with values. -/
  headers : List (String × String)
  body : Option String

/-- A response; the body is a list of bytes. -/
structure Response where
  status : Nat
  headers : List (String × String)
  body : List Nat

/-- Why there is no response. -/
inductive Failure where
  /-- The request could not be sent. -/
  | unsent
  /-- The body of the response ended too early. -/
  | cutShort

/-- The service that carries requests. A request is carried once here: whatever is done for it
before there is an answer, following redirects included, belongs to the service. -/
abbrev Transport (σ : Type) := Service σ Request (Except Failure Response)

/-- The transport of a place that no request leaves. -/
def Transport.closed {σ : Type} : Transport σ := fun _ state => .pure (.error .unsent) state

/-- A failure as an error. -/
def Failure.toError (url : Url) : Failure → Error
  | .unsent => .transport ("error sending request for url (" ++ url.toText ++ ")")
  | .cutShort => .transport "error decoding response body"

/-- The error of a request that cannot be put together. -/
def malformed : Error := .transport "builder error"

/-- The error of a request that goes to a URL to which none can go. -/
def unreachable (url : Url) : Error :=
  .transport ("builder error for url (" ++ url.toText ++ ")")

/-- Whether a character can be in the name of a header. -/
def isTokenChar (c : Char) : Bool := c.isAlphanum || "!#$%&'*+-.^_`|~".toList.contains c

/-- Whether a text can be the name of a header. -/
def isHeaderName (s : String) : Bool := !s.isEmpty && s.toList.all isTokenChar

/-- Whether a text can be the value of a header. -/
def isHeaderValue (s : String) : Bool :=
  s.toList.all fun c => (0x20 ≤ c.toNat && c.toNat != 0x7F) || c == '\t'

/-- Whether a header can be sent. -/
def isHeader (header : String × String) : Bool :=
  isHeaderName header.1 && isHeaderValue header.2

/-- A name in small letters. -/
def lowerName (name : String) : String := String.ofList (name.toList.map Char.toLower)

/-- Adds the header by which any kind of answer is asked for, unless there is one already. -/
def withAccept (headers : List (String × String)) : List (String × String) :=
  if headers.any fun header => header.1 == "accept" then headers else headers ++ [("accept", "*/*")]

/-- The text of a part of a URL, with encoded bytes read. -/
def decodePart? (s : List Char) : Option String :=
  (Text.decodeUtf8? (Text.percentDecode s)).map String.ofList

/-- Takes the credentials out of a URL. -/
def takeCredentials (url : Url) : Option Credentials × Url :=
  match decodePart? url.username with
  | none => (none, url)
  | some user =>
    let password := if url.password.isEmpty then none else decodePart? url.password
    if user.isEmpty && password.isNone then (none, url)
    else (some ⟨user, password⟩, { url with username := [], password := [] })

/-- Whether requests can go to the host. -/
def isSendableHost (url : Url) : Bool :=
  match url.host with
  | some host => !host.text.any fun c => "\"`\x7b\x7d".toList.contains c
  | none => false

/-- The most bytes that a URL can have to which requests go. -/
def maxUrlSize : Nat := 65534

/-- Whether requests can go to the URL, which is written without credentials by then. -/
def isSendable (url : Url) : Bool :=
  isWebScheme url.scheme && isSendableHost url && decide (url.toText.utf8ByteSize ≤ maxUrlSize)

/-- Puts a request together. Names and values of headers must be such; the URL must be one to
which requests can go. -/
def prepare (method : String) (url : Url) (headers : List (String × String))
    (body : Option String) : Except Error Request :=
  if !headers.all isHeader then .error malformed
  else
    let (credentials, url) := takeCredentials url
    if !isSendable url then .error (unreachable url)
    else .ok {
      method, url, credentials, body
      headers := withAccept (headers.map fun header => (lowerName header.1, header.2)) }

/-- Sends a request. -/
def send {σ : Type} (transport : Transport σ) (request : Request) (state : σ) :
    Effect σ (Except Error Response) :=
  (transport request state).map fun answer => answer.mapError (Failure.toError request.url)

/-- The body of a response as a value: JSON if it is, any other text as a string, and `null` if
there is none. -/
def Response.value (r : Response) : Json :=
  let text := String.ofList (Text.decodeUtf8Lossy r.body)
  if text.isEmpty then .null else (Json.parse? text).getD (.string text)

end Dataflow.Http
