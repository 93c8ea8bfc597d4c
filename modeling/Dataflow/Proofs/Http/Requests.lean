import Dataflow.Kinds.Http
import Dataflow.Proofs.Results
import Dataflow.Proofs.Http.Guard
import Dataflow.Proofs.Service.Recording

/-!
# The requests of a node

The requests that a node makes are noted by a transport that records them (`Kinds.requests`). A node
makes at most one, and it goes to the host of a URL that has passed the guard
(`Kinds.exists_url_of_requestOf`); so what the guard says about hosts is true of all requests.
-/

namespace Dataflow

/-! ## Putting a request together -/

namespace Http

variable {url : Url} {request : Request}

/-- A URL keeps its host when its credentials are taken out. -/
lemma host_takeCredentials (url : Url) : (takeCredentials url).2.host = url.host := by
  unfold takeCredentials
  split
  · rfl
  · extract_lets password
    split
    · rfl
    · rfl

/-- A request goes to the host of the URL that it is made for. -/
lemma host_of_prepare {method : String} {headers : List (String × String)} {body : Option String}
    (h : prepare method url headers body = .ok request) : request.url.host = url.host := by
  unfold prepare at h
  split at h
  · cases h
  · simp only at h
    split at h
    · cases h
    · obtain rfl := Except.ok.inj h
      exact host_takeCredentials url

end Http

namespace Kinds

variable {σ : Type} {allowInternal : Bool} {config : Json} {inputs : Fields}
  {request : Http.Request}

/-- A request goes to the host of a URL that the guard has let through. -/
lemma exists_url_of_requestOf (h : requestOf allowInternal config inputs = .ok request) :
    ∃ text url, Http.checkUrl text allowInternal = .ok url ∧ request.url.host = url.host := by
  unfold requestOf at h
  obtain ⟨c, -, h⟩ := ok_of_bind h
  obtain ⟨url, hurl, h⟩ := ok_of_bind h
  refine ⟨Template.render c.url inputs .url, url, mapError_eq_ok_iff.mp hurl, ?_⟩
  simp only at h
  split at h
  · cases h
  · exact Http.host_of_prepare h

/-- The requests that a node makes. -/
def requests (allowInternal : Bool) (transport : Http.Transport σ) (config : Json)
    (inputs : Fields) (state : σ) : List Http.Request :=
  (runHttp allowInternal (Service.recorded transport) config inputs (state, [])).state.2

/-- A node makes a request if it can put one together, and works as it does without the record. -/
lemma runHttp_recorded (allowInternal : Bool) (transport : Http.Transport σ) (config : Json)
    (inputs : Fields) (state : σ) (noted : List Http.Request) :
    runHttp allowInternal (Service.recorded transport) config inputs (state, noted) =
      (runHttp allowInternal transport config inputs state).beside
        (noted ++ (requestOf allowInternal config inputs).toOption.toList) := by
  unfold runHttp
  cases requestOf allowInternal config inputs with
  | error error =>
    simp only [Except.toOption, Option.toList_none, List.append_nil]
    rfl
  | ok request => rfl

/-- A request of a node is the one that the node puts together. -/
lemma mem_requests {transport : Http.Transport σ} {state : σ} :
    request ∈ requests allowInternal transport config inputs state ↔
      requestOf allowInternal config inputs = .ok request := by
  rw [requests, runHttp_recorded]
  simp only [Effect.beside, List.nil_append, Option.mem_toList]
  cases requestOf allowInternal config inputs with
  | error error => simp [Except.toOption]
  | ok request' => simp [Except.toOption]

open Url (Ipv6)

/-- Of the internal IPv6 addresses, the guard lets through those of a single link and those of
private networks. So a node that may not reach internal addresses makes no request to any other
internal IPv6 address, in whatever way its URL is written and put together. -/
theorem requests_to_ipv6 (transport : Http.Transport σ) (config : Json) (inputs : Fields)
    (state : σ) :
    runHttp false (Service.recorded transport) config inputs (state, []) =
      (runHttp false transport config inputs state).beside
        (requests false transport config inputs state) ∧
    (∀ request ∈ requests false transport config inputs state, ∀ a,
      request.url.host = some (.ipv6 a) → a.IsInternal →
        Ipv6.linkLocal.Contains a.value ∨ Ipv6.uniqueLocal.Contains a.value) ∧
    ∀ text url a, Url.parse text = .ok url → Http.isWebScheme url.scheme = true →
      url.host = some (.ipv6 a) →
        (Http.checkUrl text false = .ok url ↔ (a.IsInternal →
          Ipv6.linkLocal.Contains a.value ∨ Ipv6.uniqueLocal.Contains a.value)) := by
  have hpasses : ∀ a, Http.checkHost (.ipv6 a) = .ok () ↔
      (a.IsInternal → Ipv6.linkLocal.Contains a.value ∨ Ipv6.uniqueLocal.Contains a.value) := by
    intro a
    rw [Http.checkHost_ipv6, ← Bool.not_eq_true, Http.isPrivateIpv6_iff_internal]
    constructor
    · intro hpublic hinternal
      by_contra hother
      exact hpublic ⟨hinternal, not_or.mp hother⟩
    · rintro hlocal ⟨hinternal, hother⟩
      exact not_or.mpr hother (hlocal hinternal)
  refine ⟨?_, fun request hrequest a ha => ?_, fun text url a hparse hweb ha => ?_⟩
  · simp only [requests, runHttp_recorded, Effect.beside]
  · obtain ⟨text, url, hcheck, hhost⟩ := exists_url_of_requestOf (mem_requests.mp hrequest)
    obtain ⟨-, -, host, hhost', hpassed⟩ := Http.checkUrl_eq_ok_iff.mp hcheck
    obtain rfl : host = .ipv6 a := Option.some.inj (hhost'.symm.trans (hhost.symm.trans ha))
    exact (hpasses a).mp hpassed
  · rw [Http.checkUrl_eq_ok_iff_host hparse hweb ha, hpasses]

/-- A request to an address of a single link. -/
theorem requests_to_link_local :
    ∃ request a, requests false Http.Transport.closed
        (.object [("url", .string "http://[fe80::1]/")]) [] () = [request] ∧
      request.url.host = some (.ipv6 a) ∧ a.IsInternal := by
  let a : Ipv6 := ⟨[0xFE80, 0, 0, 0, 0, 0, 0, 1], rfl⟩
  have hlink : Ipv6.linkLocal.Contains a.value := by decide
  let url : Url := ⟨"http".toList, [], [], some (.ipv6 a), none, .segments [[]], none, none⟩
  have hrequest : requestOf false (.object [("url", .string "http://[fe80::1]/")]) [] =
      .ok ⟨"GET", url, none, [("accept", "*/*")], none⟩ := by
    with_unfolding_all rfl
  refine ⟨⟨"GET", url, none, [("accept", "*/*")], none⟩, a, ?_, rfl, .ofLink hlink⟩
  rw [requests, runHttp_recorded, hrequest]
  rfl

end Kinds

end Dataflow
