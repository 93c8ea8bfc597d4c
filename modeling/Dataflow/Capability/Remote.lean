import Dataflow.Capability.Call
import Dataflow.Capability.Route
import Dataflow.Http.Message
import Dataflow.Text.Upper

/-!
# Calls over HTTP

A call becomes a request to the namespace and the route below a base URL. Parameters that do not
fill the route are sent in the query or, in JSON, in the body, as the method demands.
-/

namespace Dataflow.Remote

/-- Whether a character is a slash. -/
def isSlash (c : Char) : Bool := c == '/'

/-- The base, the namespace and the route with one slash between them; empty ones do not count. -/
def address (base namespacePath route : String) : String :=
  let base := Text.dropEndWhile isSlash base.toList
  let parts := [Text.stripWhile isSlash namespacePath.toList, route.toList.dropWhile isSlash]
  String.ofList (base ++ (parts.filter fun p => !p.isEmpty).flatMap fun p => '/' :: p)

/-- The methods that send parameters in the query. -/
def queryMethods : List String := ["GET", "DELETE"]

/-- The methods that send parameters in the body. -/
def bodyMethods : List String := ["POST", "PUT", "PATCH"]

/-- The parameters as the pairs of a query. -/
def queryPairs (params : Fields) : List (String × String) :=
  params.map fun (key, v) => (key, v.plainText)

/-- The request for a call. -/
def requestOf (base : String) (call : Call) : Except Error Http.Request :=
  let (route, params) := Route.fill call.route call.params
  let method := Text.upper call.method
  let target := Url.parse (address base call.namespacePath route)
  if queryMethods.contains method then
    match target with
    | .error _ => .error Http.malformed
    | .ok url =>
      Http.prepare method { url with query := Url.extendQuery url.query (queryPairs params) } []
        none
  else if bodyMethods.contains method then
    match target with
    | .error _ => .error Http.malformed
    | .ok url =>
      Http.prepare method url [("content-type", "application/json")]
        (some (Json.object params).compact)
  else
    .error (.node
      ("Unsupported capability method '" ++ method ++ "' for '" ++ call.capability ++ "'"))

/-- Carries calls over HTTP. -/
def carrier {σ : Type} (base : String) (transport : Http.Transport σ) : Carrier σ :=
  fun call state =>
    match requestOf base call with
    | .error e => .pure (.error e) state
    | .ok request =>
      (Http.send transport request state).map fun answer =>
        answer.map fun r => ⟨r.status, r.value⟩

end Dataflow.Remote
