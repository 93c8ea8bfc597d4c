import Dataflow.Kinds.Handler
import Dataflow.Http.Message
import Dataflow.Template
import Dataflow.Text.Upper

/-!
# Nodes that make HTTP requests

The URL, the headers and the body of a request are templates over the inputs. A response of any
status is an output; only a request that gets no response makes the node fail.
-/

namespace Dataflow.Kinds

/-- The configuration of a node that makes a request. -/
structure HttpConfig where
  url : String
  method : String
  headers : Option Fields
  body : Option Json
  timeoutSeconds : Option Nat

namespace HttpConfig

def urlField : Field Json String := .required "url" Json.readString
def methodField : Field Json String := .withDefault "method" Json.readString "GET"
def headersField : Field Json (Option Fields) :=
  .withDefault "headers" (Json.readOption Json.readFields) none
def bodyField : Field Json (Option Json) :=
  .withDefault "body" (Json.readOption Json.readAny) none
def timeoutField : Field Json (Option Nat) :=
  (Field.withDefault "timeoutSeconds" (Json.readOption Json.readWord) none).orNamed
    "timeout_seconds"

/-- Reads the configuration of a node that makes a request. -/
def ofJson : Json → Decoded HttpConfig :=
  Record.read "HttpRequestConfig"
    [urlField.toCheck, methodField.toCheck, headersField.toCheck, bodyField.toCheck,
      timeoutField.toCheck]
    fun r => do
      return {
        url := ← r.get urlField
        method := ← r.get methodField
        headers := ← r.get headersField
        body := ← r.get bodyField
        timeoutSeconds := ← r.get timeoutField }

end HttpConfig

/-- The methods of requests. -/
def httpMethods : List String := ["GET", "POST", "PUT", "DELETE", "PATCH", "HEAD"]

/-- The methods of requests that have a body. -/
def methodsWithBody : List String := ["POST", "PUT", "PATCH", "DELETE"]

/-- The value of a header: a template, or the text of any other value. -/
def headerText (inputs : Fields) : Json → String
  | .string s => Template.render s inputs .plain
  | v => v.compact

/-- The body of a request: the input `body`, or else the configured one. -/
def requestBody (config : HttpConfig) (method : String) (inputs : Fields) : Option String :=
  if methodsWithBody.contains method then
    ((Fields.present? inputs "body").or (config.body.map (Template.renderValue inputs))).map
      Json.plainText
  else none

/-- The headers of a request; a body is JSON unless they say otherwise. -/
def requestHeaders (config : HttpConfig) (inputs : Fields) (hasBody : Bool) :
    List (String × String) :=
  let given := (config.headers.getD []).map fun (name, v) => (name, headerText inputs v)
  let typed := given.any fun header => Http.lowerName header.1 == "content-type"
  if hasBody && !typed then given ++ [("Content-Type", "application/json")] else given

/-- The request that a node makes, if it can make one. -/
def requestOf (allowInternal : Bool) (config : Json) (inputs : Fields) :
    Except Error Http.Request := do
  let config ← readConfig "Invalid HTTP config" HttpConfig.ofJson config
  let url ← (Http.checkUrl (Template.render config.url inputs .url) allowInternal).mapError
    Http.Refusal.toError
  let method := Text.upper config.method
  if !httpMethods.contains method then
    .error (.node ("Unknown HTTP method: " ++ config.method))
  else
    let body := requestBody config method inputs
    Http.prepare method url (requestHeaders config inputs body.isSome) body

/-- The value of a header of a response, if it is plain text. -/
def shownHeader (value : String) : String :=
  if value.toList.all fun c => (0x20 ≤ c.toNat && c.toNat < 0x7F) || c == '\t' then value else ""

/-- What a node yields for a response that took the given time. -/
def responseOutput (ticks : Nat) (r : Http.Response) : Output :=
  ⟨.ofEntries [("output", r.value), ("status", .ofNat r.status),
      ("headers", .ofEntries (r.headers.map fun (name, v) => (name, .string (shownHeader v))))],
    .ofEntries [("duration_ms", .ofNat ticks)]⟩

/-- Makes a request and yields the response. -/
def runHttp {σ : Type} (allowInternal : Bool) (transport : Http.Transport σ) : Handler σ :=
  fun config inputs state =>
    match requestOf allowInternal config inputs with
    | .error e => .pure (.error e) state
    | .ok request =>
      let effect := Http.send transport request state
      effect.map fun answer => answer.map (responseOutput effect.ticks)

end Dataflow.Kinds
