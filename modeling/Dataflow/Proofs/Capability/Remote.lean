import Dataflow.Capability.Remote
import Dataflow.Proofs.Capability.Route
import Dataflow.Proofs.Http.Requests
import Dataflow.Proofs.Service.Recording
import Dataflow.Proofs.Url.Form

/-!
# Where the parameters of a call go

A call has one place for each of its parameters. Those that its route names fill the route and are
used up by that; those that are left go into the query or the body of the request
(`Remote.exists_requestOf`). As the query is read back as the pairs that were added to it, and the
text of the route is known part by part, no parameter is lost and none is sent twice
(`Remote.delivers_params`). The requests are noted by a transport that records them
(`Remote.requests`).
-/

namespace Dataflow

/-! ## Putting a request together -/

namespace Http

variable {url : Url}

/-- Taking the credentials out of a URL changes nothing else in it, and does not look at its
query. -/
lemma takeCredentials_eq (url : Url) : ∃ credentials username password, ∀ query,
    takeCredentials { url with query } =
      (credentials, { url with username, password, query }) := by
  cases huser : decodePart? url.username with
  | none =>
    refine ⟨none, url.username, url.password, fun query => ?_⟩
    simp only [takeCredentials, huser]
  | some user =>
    by_cases hempty : (user.isEmpty &&
        (if url.password.isEmpty then none else decodePart? url.password).isNone) = true
    · refine ⟨none, url.username, url.password, fun query => ?_⟩
      simp only [takeCredentials, huser, hempty, if_true]
    · refine ⟨some ⟨user, if url.password.isEmpty then none else decodePart? url.password⟩, [], [],
        fun query => ?_⟩
      simp only [takeCredentials, huser, hempty, if_false, Bool.false_eq_true]

/-- A request can be put together for a URL of the web to whose host requests can go, unless the URL
is too long. Its URL is that one without credentials. -/
lemma exists_of_prepare (hweb : isWebScheme url.scheme = true) (hhost : isSendableHost url = true)
    (method : String) (query : Option (List Char)) {headers : List (String × String)}
    (hheaders : headers.all isHeader = true) (body : Option String) :
    ∃ request, prepare method { url with query } headers body =
        (if request.url.toText.utf8ByteSize ≤ maxUrlSize then .ok request
          else .error (unreachable request.url)) ∧
      request.method = method ∧ request.body = body ∧ request.url.query = query ∧
      (request.credentials, { request.url with query := url.query }) = takeCredentials url := by
  obtain ⟨credentials, username, password, htake⟩ := takeCredentials_eq url
  have hsendable : isSendable { url with username, password, query } =
      decide (({ url with username, password, query } : Url).toText.utf8ByteSize ≤ maxUrlSize) := by
    rw [isSendable, show isSendableHost { url with username, password, query } = true from hhost,
      hweb, Bool.true_and, Bool.true_and]
  refine ⟨⟨method, { url with username, password, query }, credentials,
    withAccept (headers.map fun header => (lowerName header.1, header.2)), body⟩, ?_, rfl, rfl, rfl,
    (htake url.query).symm⟩
  rw [prepare, if_neg (by simp [hheaders])]
  simp only [htake, hsendable, Bool.not_eq_true', decide_eq_false_iff_not, ite_not]

end Http

namespace Remote

variable {σ : Type} {base : String} {call : Call} {url : Url}

/-! ## The request of a call -/

/-- The requests that are sent to carry a call. -/
def requests (base : String) (transport : Http.Transport σ) (call : Call) (state : σ) :
    List Http.Request :=
  (carrier base (Service.recorded transport) call (state, [])).state.2

/-- To carry a call, the request that is put together for it is sent, if one is. -/
lemma requests_eq (base : String) (transport : Http.Transport σ) (call : Call) (state : σ) :
    requests base transport call state = (requestOf base call).toOption.toList := by
  unfold requests carrier
  cases requestOf base call with
  | error error => rfl
  | ok request => rfl

/-- The request of a call goes to the URL of the filled route, and is put together if the URL is not
too long. The parameters that are left are added to its query, or make its body. -/
lemma exists_requestOf (hmethod : Text.upper call.method ∈ queryMethods ++ bodyMethods)
    (hurl : Url.parse
      (address base call.namespacePath (Route.fill call.route call.params).1) = .ok url)
    (hweb : Http.isWebScheme url.scheme = true) (hhost : Http.isSendableHost url = true) :
    let method := Text.upper call.method
    let left := (Route.fill call.route call.params).2
    ∃ request, requestOf base call =
        (if request.url.toText.utf8ByteSize ≤ Http.maxUrlSize then .ok request
          else .error (Http.unreachable request.url)) ∧
      request.method = method ∧
      (request.credentials, { request.url with query := url.query }) = Http.takeCredentials url ∧
      (method ∈ queryMethods → request.body = none ∧
        request.url.query = Url.extendQuery url.query (queryPairs left)) ∧
      (method ∈ bodyMethods → request.url.query = url.query ∧
        request.body = some (Json.object left).compact) := by
  intro method left
  have hdisjoint : ∀ m ∈ bodyMethods, m ∉ queryMethods := by decide
  by_cases hquery : method ∈ queryMethods
  · have hheaders : ([] : List (String × String)).all Http.isHeader = true := rfl
    obtain ⟨request, hprepare, hm, hbody, hadded, hrest⟩ := Http.exists_of_prepare hweb hhost
      method (Url.extendQuery url.query (queryPairs left)) hheaders none
    refine ⟨request, ?_, hm, hrest, fun _ => ⟨hbody, hadded⟩,
      fun hbody => absurd hquery (hdisjoint method hbody)⟩
    rw [requestOf]
    simp only [hurl]
    rw [if_pos (List.contains_iff_mem.mpr hquery)]
    exact hprepare
  · have hbodies : method ∈ bodyMethods := (List.mem_append.mp hmethod).resolve_left hquery
    have hheaders : [("content-type", "application/json")].all Http.isHeader = true := by decide
    obtain ⟨request, hprepare, hm, hbody, hkept, hrest⟩ := Http.exists_of_prepare hweb hhost
      method url.query hheaders (some (Json.object left).compact)
    refine ⟨request, ?_, hm, hrest, fun h => absurd h hquery, fun _ => ⟨hkept, hbody⟩⟩
    rw [requestOf]
    simp only [hurl]
    rw [if_neg (mt List.contains_iff_mem.mp hquery), if_pos (List.contains_iff_mem.mpr hbodies)]
    exact hprepare

/-- One request is sent for a call if its URL is not too long, and none if it is. -/
lemma requests_of_requestOf {request : Http.Request}
    (hrequest : requestOf base call =
      if request.url.toText.utf8ByteSize ≤ Http.maxUrlSize then .ok request
        else .error (Http.unreachable request.url))
    (transport : Http.Transport σ) (state : σ) :
    requests base transport call state =
      if request.url.toText.utf8ByteSize ≤ Http.maxUrlSize then [request] else [] := by
  rw [requests_eq, hrequest]
  split
  · rfl
  · rfl

/-- Nothing is sent for a call whose query would hold a value that is longer than a URL can be. -/
lemma requests_of_long {key : String} {v : Json}
    (hmethod : Text.upper call.method ∈ queryMethods)
    (hurl : Url.parse
      (address base call.namespacePath (Route.fill call.route call.params).1) = .ok url)
    (hweb : Http.isWebScheme url.scheme = true) (hhost : Http.isSendableHost url = true)
    (hleft : (key, v) ∈ (Route.fill call.route call.params).2)
    (hlong : Http.maxUrlSize < v.plainText.length) (transport : Http.Transport σ) (state : σ) :
    requests base transport call state = [] := by
  obtain ⟨request, hrequest, -, -, hquery, -⟩ :=
    exists_requestOf (List.mem_append_left _ hmethod) hurl hweb hhost
  have hpair : (key, v.plainText) ∈ queryPairs (Route.fill call.route call.params).2 :=
    List.mem_map_of_mem hleft
  obtain ⟨q, hq, hvalue⟩ := Url.exists_extendQuery hpair url.query
  have hsize := Url.length_query_le ((hquery hmethod).2.trans hq)
  rw [requests_of_requestOf hrequest, if_neg (by omega)]

/-! ## The main result -/

/-- No parameter of a call is lost or sent twice. If the method is supported and the address of the
filled route is a URL of the web to whose host requests can go, one request is put together, to this
URL. It is sent unless its own URL, with all that is added to the query, is longer than the URL of a
request can be, and then nothing is sent. A parameter that the route names is left neither for the
query nor for the body; the first place where the route names it holds the encoded text of its
value, and behind that place the route is filled without it. Any other parameter is left, and makes
no difference to the route. What is left is read back from the query, behind the pairs that the URL
has, or is the body. -/
theorem delivers_params (transport : Http.Transport σ) (state : σ)
    (hmethod : Text.upper call.method ∈ queryMethods ++ bodyMethods)
    (hurl : Url.parse
      (address base call.namespacePath (Route.fill call.route call.params).1) = .ok url)
    (hweb : Http.isWebScheme url.scheme = true) (hhost : Http.isSendableHost url = true) :
    let method := Text.upper call.method
    let filled := (Route.fill call.route call.params).1
    let left := (Route.fill call.route call.params).2
    ∃ request, requests base transport call state =
        (if request.url.toText.utf8ByteSize ≤ Http.maxUrlSize then [request] else []) ∧
      request.method = method ∧
      (request.credentials, { request.url with query := url.query }) = Http.takeCredentials url ∧
      (method ∈ queryMethods → request.body = none ∧
        Url.formPairs request.url.query = Url.formPairs url.query ++ queryPairs left) ∧
      (method ∈ bodyMethods → request.url.query = url.query ∧
        request.body = some (Json.object left).compact) ∧
      left.Sublist call.params ∧
      ∀ key v, Keyed.value? call.params key = some v →
        (Route.Names call.route key → Keyed.value? left key = none ∧
          ∃ before after, call.route = before ++ ("\x7b" ++ key ++ "\x7d") ++ after ∧
            ¬ Route.Names before key ∧
            filled = (Route.fill before call.params).1 ++
              Text.percentEncodeComponent v.plainText ++
                (Route.fill after (Keyed.remove (Route.fill before call.params).2 key)).1) ∧
        (¬ Route.Names call.route key → Keyed.value? left key = some v ∧
          (Route.fill call.route (Keyed.remove call.params key)).1 = filled) := by
  intro method filled left
  obtain ⟨request, hrequest, hm, hrest, hquery, hbody⟩ := exists_requestOf hmethod hurl hweb hhost
  have hpairs : method ∈ queryMethods → request.body = none ∧
      Url.formPairs request.url.query = Url.formPairs url.query ++ queryPairs left := by
    intro h
    obtain ⟨hnone, hadded⟩ := hquery h
    rw [hadded, Url.formPairs_extendQuery]
    exact ⟨hnone, rfl⟩
  refine ⟨request, requests_of_requestOf hrequest transport state, hm, hrest, hpairs, hbody,
    Route.sublist_fill _ _, fun key v hv => ⟨?_, ?_⟩⟩
  · intro hnames
    exact ⟨(Route.value?_fill _ _ _).1 hnames, Route.fill_of_names hnames hv⟩
  · intro hnames
    exact ⟨((Route.value?_fill _ _ _).2 hnames).trans hv, Route.fill_of_not_names hnames _⟩

/-- A route that names one parameter twice and starts to name another one, and a value that holds a
name in braces itself. -/
theorem delivers_params_once :
    let call : Call := ⟨"language", "/n/", "items/\x7bid\x7d/\x7bid\x7d/\x7ba\x7bb\x7d?x=1", "get",
      [("a", .string "&="), ("b", .bool true), ("id", .string "1/\x7bb\x7d")]⟩
    (Route.fill call.route call.params).1 = "items/1%2F%7Bb%7D/\x7bid\x7d/\x7batrue?x=1" ∧
      ∃ request, requests "http://caps.example.com/" Http.Transport.closed call () = [request] ∧
        request.method = "GET" ∧ request.body = none ∧
        Url.formPairs request.url.query = [("x", "1"), ("a", "&=")] := by
  intro call
  have hmethod : Text.upper call.method = "GET" := by decide +kernel
  have hfilled : Route.fill call.route call.params =
      ("items/1%2F%7Bb%7D/\x7bid\x7d/\x7batrue?x=1", [("a", .string "&=")]) := by
    simp only [call]
    with_unfolding_all rfl
  have hparse : ((Url.parse (address "http://caps.example.com/" call.namespacePath
      (Route.fill call.route call.params).1)).toOption.any fun url =>
        Http.isWebScheme url.scheme && Http.isSendableHost url &&
          url.query == some "x=1".toList) = true := by
    decide +kernel
  have hone : (requests "http://caps.example.com/" Http.Transport.closed call ()).length = 1 := by
    decide +kernel
  cases hurl : Url.parse (address "http://caps.example.com/" call.namespacePath
      (Route.fill call.route call.params).1) with
  | error fault =>
    rw [hurl] at hparse
    cases hparse
  | ok url =>
    rw [hurl] at hparse
    obtain ⟨⟨hweb, hhost⟩, hquery⟩ : (Http.isWebScheme url.scheme = true ∧
        Http.isSendableHost url = true) ∧ url.query = some "x=1".toList := by
      simpa [Except.toOption] using hparse
    obtain ⟨request, hrequest, hm, -, hpairs, -⟩ :=
      delivers_params Http.Transport.closed () (by rw [hmethod]; decide) hurl hweb hhost
    obtain ⟨hbody, hpairs⟩ := hpairs (by rw [hmethod]; decide)
    have hfits : request.url.toText.utf8ByteSize ≤ Http.maxUrlSize := by
      by_contra hlong
      rw [hrequest, if_neg hlong] at hone
      cases hone
    rw [if_pos hfits] at hrequest
    refine ⟨by rw [hfilled], request, hrequest, hm.trans hmethod, hbody, ?_⟩
    rw [hpairs, hquery, hfilled]
    with_unfolding_all rfl

/-- Where no request can go to the URL none is sent, nor where the parameters make the URL too long;
and braces without a name are no place for a parameter whose key is empty. -/
theorem delivers_params_not_sent :
    let call : Call := ⟨"language", "n", "r", "GET", [("q", .string "v")]⟩
    let long (s : String) : Call := ⟨"language", "n", "r", "GET", [("q", .string s)]⟩
    let unnamed : Call := ⟨"language", "n", "a/\x7b\x7d", "GET", [("", .string "v")]⟩
    (Text.upper call.method ∈ queryMethods ∧
      (Url.parse (address "ftp://caps.example.com" call.namespacePath
        (Route.fill call.route call.params).1)).map Url.toText = .ok "ftp://caps.example.com/n/r" ∧
      ∀ transport : Http.Transport Unit,
        requests "ftp://caps.example.com" transport call () = []) ∧
    (∀ s : String, 65534 < s.length →
      (Url.parse (address "http://caps.example.com" (long s).namespacePath
        (Route.fill (long s).route (long s).params).1)).map Url.toText =
          .ok "http://caps.example.com/n/r" ∧
      ∀ transport : Http.Transport Unit,
        requests "http://caps.example.com" transport (long s) () = []) ∧
    (requests "http://caps.example.com" Http.Transport.closed unnamed ()).map
      (fun request => request.url.toText) = ["http://caps.example.com/n/a/%7B%7D?=v"] := by
  intro call long unnamed
  refine ⟨⟨by decide +kernel, ?_, fun transport => ?_⟩, fun s hs => ?_, by decide +kernel⟩
  · simp only [call]
    with_unfolding_all rfl
  · simp only [call, requests_eq]
    with_unfolding_all rfl
  · -- the value is not looked at before the URL is put together
    let url : Url := ⟨"http".toList, [], [], some (.name "caps.example.com".toList), none,
      .segments ["n".toList, "r".toList], none, none⟩
    have hfilled : Route.fill (long s).route (long s).params = ("r", [("q", .string s)]) := by
      simp only [long]
      with_unfolding_all rfl
    have hparse : Url.parse (address "http://caps.example.com" "n" "r") = .ok url := by
      with_unfolding_all rfl
    have hurl : Url.parse (address "http://caps.example.com" (long s).namespacePath
        (Route.fill (long s).route (long s).params).1) = .ok url := by
      rw [hfilled]
      exact hparse
    have hmethod : Text.upper (long s).method ∈ queryMethods := by
      have hget : Text.upper "GET" ∈ queryMethods := by decide +kernel
      exact hget
    have hleft : ("q", .string s) ∈ (Route.fill (long s).route (long s).params).2 := by
      rw [hfilled]
      exact List.mem_singleton.mpr rfl
    refine ⟨?_, fun transport => ?_⟩
    · rw [hurl]
      with_unfolding_all rfl
    · exact requests_of_long hmethod hurl (by decide) (by decide) hleft hs transport ()

end Remote

end Dataflow
