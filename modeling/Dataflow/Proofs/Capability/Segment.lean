import Dataflow.Proofs.Capability.Remote
import Dataflow.Proofs.Capability.Substitution
import Dataflow.Proofs.Url.Segments

/-!
# Parameters as segments of a path

A parameter that fills a whole segment of a route is to stay inside that segment: it must neither
add segments to the path of the request nor change others. What is filled in is percent-encoded, and
so holds no slash, but the URL is read once more after that, and a value of one or two full stops is
a dot segment there. Also, slashes at the start of a filled route do not count, so that an empty
value at the start of the route is no segment. Any other value is one segment, from which it can be
decoded (`Remote.sends_segment`).

The path is compared with that of the URL that the base, the namespace and the route make when the
name is left in its braces (`Remote.joined`).
-/

namespace Dataflow

namespace Route

variable {front back key : String} {c : Char}

/-- What stands between the two texts is a whole segment of a route. -/
def IsSegment (front back : String) : Prop :=
  (∀ c ∈ front.toList.getLast?, Url.isSlash true c = true) ∧
    ∀ c ∈ back.toList.head?, Url.isSlash true c = true

/-- A character at the end of a route that closes no name stands for itself. -/
lemma exists_pieces_concat (hc : c ≠ '\x7d') (s : List Char) :
    ∃ ps, pieces (s ++ [c]) = ps ++ [.char c] := by
  have htext := (flatMap_text_pieces (s ++ [c])).1
  obtain hnil | ⟨ps, piece, hpieces⟩ := List.eq_nil_or_concat (pieces (s ++ [c]))
  · rw [hnil] at htext
    simp at htext
  · rw [List.concat_eq_append] at hpieces
    rw [hpieces, List.flatMap_append, List.flatMap_singleton] at htext
    cases piece with
    | char d =>
      obtain ⟨-, hd⟩ := List.append_inj' htext rfl
      obtain rfl : d = c := by simpa [Piece.text] using hd
      exact ⟨ps, hpieces⟩
    | slot name =>
      have hclosed : (ps.flatMap Piece.text ++ '\x7b' :: name) ++ ['\x7d'] = s ++ [c] := by
        simpa [Piece.text] using htext
      obtain ⟨-, hclose⟩ := List.append_inj' hclosed rfl
      exact absurd (List.cons.inj hclose).1.symm hc

/-- A slash at the end of a route is at the end of the text that it is filled to. -/
lemma getLast?_fill (hfront : ∀ c ∈ front.toList.getLast?, Url.isSlash true c = true)
    (params : Fields) :
    ∀ c ∈ (fill front params).1.toList.getLast?, Url.isSlash true c = true := by
  obtain hnil | ⟨s, c, hs⟩ := List.eq_nil_or_concat front.toList
  · have hempty : pieces [] = [] := by rw [pieces]
    simp [fill, hnil, hempty, fillPieces]
  · rw [List.concat_eq_append] at hs
    have hslash : Url.isSlash true c = true := hfront c (by simp [hs])
    have hc : c ≠ '\x7d' := by
      rintro rfl
      cases hslash
    obtain ⟨ps, hps⟩ := exists_pieces_concat hc s
    simp [fill, hs, hps, fillPieces_append, fillPieces, hslash]

/-- A slash at the start of a route is at the start of the text that it is filled to. -/
lemma head?_fill (hback : ∀ c ∈ back.toList.head?, Url.isSlash true c = true) (params : Fields) :
    ∀ c ∈ (fill back params).1.toList.head?, Url.isSlash true c = true := by
  cases hs : back.toList with
  | nil =>
    have hempty : pieces [] = [] := by rw [pieces]
    simp [fill, hs, hempty, fillPieces]
  | cons c s =>
    have hslash : Url.isSlash true c = true := hback c (by simp [hs])
    have hc : (c == '\x7b') = false := by
      rw [beq_eq_false_iff_ne]
      rintro rfl
      cases hslash
    simp [fill, hs, pieces_cons (c := c) (s := s) (by simp [hc]), fillPieces, hslash]

/-- Taking a parameter out before or after a route is filled leaves the same parameters. -/
lemma remove_fill (route : String) (params : Fields) (key : String) :
    Keyed.remove (fill route (Keyed.remove params key)).2 key =
      Keyed.remove (fill route params).2 key := by
  simp only [fill, left_fillPieces, Keyed.remove, List.filter_filter]
  refine List.filter_congr fun entry _ => ?_
  cases entry.1 != key <;> simp

/-- Where a route names a parameter for the first time, it is filled with the parameter, or keeps
the name if the parameter is taken out. All else is filled in the same way. -/
lemma exists_fill (hkey : IsName key.toList) (hfirst : ¬ Names front key)
    (hback : ∀ c ∈ back.toList.head?, Url.isSlash true c = true) (params : Fields) :
    ∃ rest, (∀ c ∈ rest.toList.head?, Url.isSlash true c = true) ∧
      (fill (front ++ inBraces key ++ back) (Keyed.remove params key)).1 =
        (fill front params).1 ++ inBraces key ++ rest ∧
      ∀ v, Keyed.value? params key = some v →
        (fill (front ++ inBraces key ++ back) params).1 =
          (fill front params).1 ++ Text.percentEncodeComponent v.plainText ++ rest := by
  have hremoved : Keyed.value? (Keyed.remove params key) key = none := by
    rw [Keyed.remove, Keyed.value?_filter _ (· != key), if_neg (by simp)]
  refine ⟨(fill back (Keyed.remove (fill front params).2 key)).1, head?_fill hback _, ?_,
    fun v hv => ?_⟩
  · rw [fill_append hkey, fill_of_not_names hfirst, remove_fill, replacement,
      (value?_fill front _ key).2 hfirst, hremoved]
  · rw [fill_append hkey, replacement, (value?_fill front params key).2 hfirst, hv]

end Route

namespace Http

/-- Taking the credentials out of a URL changes neither the place that it leads to nor its path. -/
lemma of_takeCredentials {url sent : Url} {credentials : Option Credentials}
    {query : Option (List Char)}
    (h : (credentials, { sent with query }) = takeCredentials url) :
    sent.scheme = url.scheme ∧ sent.host = url.host ∧ sent.port = url.port ∧
      sent.path = url.path := by
  obtain ⟨credentials', username, password, htake⟩ := takeCredentials_eq url
  obtain ⟨-, hurl⟩ := Prod.mk.inj (h.trans (htake url.query))
  obtain ⟨hscheme, -, -, hhost, hport, hpath, -⟩ := Url.mk.inj hurl
  exact ⟨hscheme, hhost, hport, hpath⟩

end Http

namespace Remote

variable {σ : Type} {base : String} {call : Call} {url : Url} {front back key v : String}

/-- The address is the base and the namespace, a slash, and the route, if that is not all slashes.
-/
lemma exists_address (base namespacePath : String) :
    ∃ start, ∀ route, route.toList.dropWhile isSlash ≠ [] →
      (address base namespacePath route).toList =
        start ++ '/' :: route.toList.dropWhile isSlash := by
  refine ⟨Text.dropEndWhile isSlash base.toList ++
    ([Text.stripWhile isSlash namespacePath.toList].filter fun p => !p.isEmpty).flatMap
      fun p => '/' :: p, fun route hroute => ?_⟩
  have hkept : (!(route.toList.dropWhile isSlash).isEmpty) = true := by simpa using hroute
  rw [address, String.toList_ofList]
  simp only [List.filter_cons, List.filter_nil, hkept, if_true]
  split <;> simp

/-- The address of a route with a segment that is put in behind a slash. -/
lemma exists_address_segment {front : List Char}
    (hfront : ∀ c ∈ front.getLast?, Url.isSlash true c = true) (base namespacePath : String) :
    ∃ start slash, Url.isSlash true slash = true ∧
      ∀ s back, (∀ c ∈ s, c ≠ '/') → (s = [] → ∃ c ∈ front, c ≠ '/') →
        (address base namespacePath (String.ofList (front ++ s ++ back))).toList =
          start ++ slash :: (s ++ back) := by
  obtain ⟨start, hstart⟩ := exists_address base namespacePath
  obtain hnil | ⟨tail, slash, htail⟩ := List.eq_nil_or_concat (front.dropWhile isSlash)
  · -- the slashes of the route do not count
    have hslashes : ∀ c ∈ front, isSlash c = true := List.dropWhile_eq_nil_iff.mp hnil
    refine ⟨start, '/', rfl, fun s back hs hempty => ?_⟩
    have hne : s ≠ [] := by
      intro hnil
      obtain ⟨c, hc, hother⟩ := hempty hnil
      exact hother (by simpa [isSlash] using hslashes c hc)
    have hdrop : (String.ofList (front ++ s ++ back)).toList.dropWhile isSlash = s ++ back := by
      obtain ⟨c, s', rfl⟩ := List.exists_cons_of_ne_nil hne
      have hc : c ≠ '/' := hs c List.mem_cons_self
      rw [String.toList_ofList, List.append_assoc, List.dropWhile_append_of_pos hslashes]
      exact List.dropWhile_cons_of_neg (by simp [isSlash, hc])
    rw [hstart _ (by rw [hdrop]; simp [hne]), hdrop]
  · rw [List.concat_eq_append] at htail
    have hlast : slash ∈ front.getLast? := by
      rw [← List.takeWhile_append_dropWhile (p := isSlash) (l := front), htail]
      simp
    refine ⟨start ++ '/' :: tail, slash, hfront slash hlast, fun s back _ _ => ?_⟩
    have hdrop : (String.ofList (front ++ s ++ back)).toList.dropWhile isSlash =
        tail ++ slash :: (s ++ back) := by
      rw [String.toList_ofList, List.append_assoc, List.dropWhile_append, htail]
      simp
    rw [hstart _ (by rw [hdrop]; simp), hdrop]
    simp

/-- A name is made of unreserved characters. -/
lemma isUnreserved_of_isName (hkey : Route.IsName key.toList) {c : Char} (hc : c ∈ key.toList) :
    Text.isUnreserved c = true := by
  have hname := hkey.2 c hc
  rw [Route.isNameChar, Bool.or_eq_true, beq_iff_eq] at hname
  rcases hname with h | rfl
  · simp [Text.isUnreserved, h]
  · rfl

/-- A name in braces can be a segment. -/
lemma of_mem_inBraces (hkey : Route.IsName key.toList) {c : Char}
    (hc : c ∈ (Route.inBraces key).toList) :
    Url.IsSegmentChar c ∧ (c.toNat < 0x80 ∧ c ≠ '%') ∧ c ≠ '/' ∧ c ≠ '@' ∧ c ≠ ':' := by
  simp only [Route.toList_inBraces, Route.Piece.text, List.mem_cons, List.mem_append,
    List.not_mem_nil, or_false] at hc
  rcases hc with rfl | hc | rfl
  · decide +kernel
  · have hunreserved := isUnreserved_of_isName hkey hc
    obtain ⟨hsegment, -, hslash⟩ := Url.isSegmentChar_of_isUnreserved hunreserved
    refine ⟨hsegment, Text.of_isUnreserved hunreserved, hslash, ?_, ?_⟩
    · rintro rfl
      cases hunreserved
    · rintro rfl
      cases hunreserved
  · decide +kernel

/-- No request can go to a host with an opening brace. -/
lemma not_isSendableHost_of_mem {host : Url.Host} (hurl : url.host = some host)
    (hbrace : '\x7b' ∈ host.text) : Http.isSendableHost url = false := by
  rw [Http.isSendableHost, hurl]
  simp only [Bool.not_eq_false', List.any_eq_true]
  exact ⟨'\x7b', hbrace, by decide⟩

/-- A name in braces in a path. -/
lemma percentEncode_inBraces (hkey : Route.IsName key.toList) :
    Text.percentEncode Url.safeInPath (Route.inBraces key).toList =
      "%7B".toList ++ key.toList ++ "%7D".toList := by
  have hname : Text.percentEncode Url.safeInPath key.toList = key.toList :=
    Text.percentEncode_eq_self fun c hc =>
      (Url.isSegmentChar_of_isUnreserved (isUnreserved_of_isName hkey hc)).2.1
  have hopen : Text.percentChar Url.safeInPath '\x7b' = "%7B".toList := by decide +kernel
  have hclose : Text.percentChar Url.safeInPath '\x7d' = "%7D".toList := by decide +kernel
  rw [Text.percentEncode] at hname ⊢
  simp only [Route.toList_inBraces, Route.Piece.text, List.flatMap_cons, List.flatMap_append,
    List.flatMap_nil, List.append_nil, hname, hopen, hclose, List.append_assoc]

/-- A component of a URL is decoded to the text that it encodes. -/
lemma decodePart?_percentEncode (v : String) :
    Http.decodePart? (Text.percentEncode Text.isUnreserved v.toList) = some v := by
  have hbytes := Text.percentDecode_percentEncode v.toList []
  rw [List.append_nil, Text.percentDecode, List.append_nil] at hbytes
  rw [Http.decodePart?, hbytes, Text.decodeUtf8?_flatMap, Option.map_some, String.ofList_toList]

/-- The characters of an encoded value can be in a segment, and are not encoded again. -/
lemma of_mem_encoded {s : List Char} {c : Char} (hc : c ∈ Text.percentEncode Text.isUnreserved s) :
    Url.IsSegmentChar c ∧ Url.safeInPath c = true ∧ c ≠ '/' := by
  rcases Text.of_mem_percentEncode hc with h | rfl
  · exact Url.isSegmentChar_of_isUnreserved h
  · decide +kernel

/-! ## The main result -/

/-- The address of a call in which one name is left: the base, the namespace and the route, which is
filled without the parameter. -/
def joined (base : String) (call : Call) (key : String) : String :=
  address base call.namespacePath (Route.fill call.route (Keyed.remove call.params key)).1

/-- The address of a call is the one in which a name is left, with the encoded value in the place of
the name. -/
lemma exists_joined (hroute : call.route = front ++ Route.inBraces key ++ back)
    (hkey : Route.IsName key.toList) (hfirst : ¬ Route.Names front key)
    (hsegment : Route.IsSegment front back) (base : String) :
    ∃ start slash rest, Url.isSlash true slash = true ∧
      (∀ c ∈ List.head? rest, Url.isSlash true c = true) ∧
      (joined base call key).toList = start ++ slash :: ((Route.inBraces key).toList ++ rest) ∧
      ∀ v : String, Keyed.value? call.params key = some (.string v) →
        (v = "" → ∃ c ∈ (Route.fill front call.params).1.toList, c ≠ '/') →
        (address base call.namespacePath (Route.fill call.route call.params).1).toList =
          start ++ slash :: (Text.percentEncode Text.isUnreserved v.toList ++ rest) := by
  obtain ⟨rest, hrest, hleft, hfilled⟩ := Route.exists_fill hkey hfirst hsegment.2 call.params
  obtain ⟨start, slash, hslash, haddress⟩ := exists_address_segment
    (Route.getLast?_fill hsegment.1 call.params) base call.namespacePath
  have htext : ∀ a b c : String, a ++ b ++ c = String.ofList (a.toList ++ b.toList ++ c.toList) := by
    simp [String.append_assoc]
  rw [← hroute] at hleft hfilled
  refine ⟨start, slash, rest.toList, hslash, hrest, ?_, fun v hv hempty => ?_⟩
  · have hne : (Route.inBraces key).toList ≠ [] := by
      rw [Route.toList_inBraces]
      exact List.cons_ne_nil _ _
    rw [joined, hleft, htext]
    exact haddress _ _ (fun c hc => (of_mem_inBraces hkey hc).2.2.1) fun hnil => absurd hnil hne
  · have hnil : Text.percentEncode Text.isUnreserved v.toList = [] → v = "" := by
      -- nothing but the empty text has an empty encoded form
      intro hnil
      have hdecoded : Http.decodePart? [] = some v := hnil ▸ decodePart?_percentEncode v
      have hempty : Http.decodePart? [] = some "" := by decide +kernel
      exact Option.some.inj (hdecoded.symm.trans hempty)
    rw [hfilled _ hv, htext, Text.percentEncodeComponent, String.toList_ofList]
    exact haddress _ _ (fun c hc => (of_mem_encoded hc).2.2) fun h => hempty (hnil h)

/-- The address with the name left is read as a URL with the name as a segment of its path, and the
address of the call as the same URL with the path resolved for the value. -/
lemma exists_parse_joined (hroute : call.route = front ++ Route.inBraces key ++ back)
    (hkey : Route.IsName key.toList) (hfirst : ¬ Route.Names front key)
    (hsegment : Route.IsSegment front back) (hurl : Url.parse (joined base call key) = .ok url)
    (hweb : Http.isWebScheme url.scheme = true) (hhost : Http.isSendableHost url = true)
    (hmarks : '?' ∉ (joined base call key).toList ∧ '#' ∉ (joined base call key).toList)
    (hdots : Url.Undotted (joined base call key)) :
    ∃ before after, (∀ segment ∈ before, Url.Kept segment) ∧
      (∀ segment ∈ after, Url.Kept segment) ∧
      url.path = .segments (Url.resolve false []
        (before ++ (Route.inBraces key).toList :: after)) ∧
      ∀ v : String, Keyed.value? call.params key = some (.string v) →
        (v = "" → ∃ c ∈ (Route.fill front call.params).1.toList, c ≠ '/') →
        Url.parse (address base call.namespacePath (Route.fill call.route call.params).1) =
          .ok { url with path := .segments (Url.resolve false []
            (before ++ Text.percentEncode Text.isUnreserved v.toList :: after)) } := by
  obtain ⟨hspecial, hfile⟩ := Http.isSpecial_of_isWebScheme hweb
  obtain ⟨start, slash, rest, hslash, hrest, hjoined, haddress⟩ :=
    exists_joined hroute hkey hfirst hsegment base
  have hbraces : (Route.inBraces key).toList = '\x7b' :: (key.toList ++ ['\x7d']) := by
    rw [Route.toList_inBraces, Route.Piece.text]
  have hne : (Route.inBraces key).toList ≠ [] := by simp [hbraces]
  have hparse := hurl
  rw [Url.Undotted, hjoined] at hdots
  rw [hjoined] at hmarks
  rw [Url.parse, hjoined] at hparse
  rcases Url.exists_parseChars hslash hrest (fun c hc => (of_mem_inBraces hkey hc).1) hne hparse
    hspecial hfile hmarks hdots with hauthority | ⟨before, after, hbefore, hafter, hread⟩
  · -- the name would be the host
    exfalso
    obtain ⟨host, hhostText, hhost'⟩ := Url.parse_hostText hurl hspecial hfile
    rw [hjoined, hauthority, Url.authorityHostText_eq
      (fun h => (of_mem_inBraces hkey h).2.2.2.1 rfl)
      (fun h => (of_mem_inBraces hkey h).2.2.2.2 rfl), hbraces] at hhostText
    have hascii : ∀ c ∈ key.toList ++ ['\x7d'], c.toNat < 0x80 ∧ c ≠ '%' := fun c hc =>
      (of_mem_inBraces hkey (hbraces ▸ List.mem_cons_of_mem _ hc)).2.1
    rw [not_isSendableHost_of_mem hhost' (Url.Host.brace_mem_text_of_parse hascii hhostText)] at hhost
    cases hhost
  · refine ⟨before, after, hbefore, hafter, ?_, fun v hv hempty => ?_⟩
    · rw [hread _ fun c hc => (of_mem_inBraces hkey hc).1] at hparse
      exact (congrArg Url.path (Except.ok.inj hparse)).symm
    · rw [Url.parse, haddress v hv hempty]
      exact hread _ fun c hc => (of_mem_encoded hc).1

/-- A value that is filled into a route as a whole segment stays inside the segment, unless it is
one or two full stops. Where the base, the namespace and the route with the name left make a URL
without dot segments, to which requests can go, one request is put together, to the same place, and
sent unless the value makes its URL too long. Its path has the same segments, and in the place of
the name one that is decoded to the value. A value of one or two full stops is lost, in the second
case with the segment in front of it; at the end of a path, an empty segment is left for it. An
empty value must not be first in the route, for slashes at the start of a route do not count. -/
theorem sends_segment (transport : Http.Transport σ) (state : σ)
    (hmethod : Text.upper call.method ∈ queryMethods ++ bodyMethods)
    (hroute : call.route = front ++ Route.inBraces key ++ back) (hkey : Route.IsName key.toList)
    (hfirst : ¬ Route.Names front key) (hsegment : Route.IsSegment front back)
    (hurl : Url.parse (joined base call key) = .ok url)
    (hweb : Http.isWebScheme url.scheme = true) (hhost : Http.isSendableHost url = true)
    (hmarks : '?' ∉ (joined base call key).toList ∧ '#' ∉ (joined base call key).toList)
    (hdots : Url.Undotted (joined base call key))
    (hv : Keyed.value? call.params key = some (.string v))
    (hempty : v = "" → ∃ c ∈ (Route.fill front call.params).1.toList, c ≠ '/') :
    ∃ request before after, requests base transport call state =
        (if request.url.toText.utf8ByteSize ≤ Http.maxUrlSize then [request] else []) ∧
      request.url.scheme = url.scheme ∧ request.url.host = url.host ∧
      request.url.port = url.port ∧
      url.path = .segments (before ++ ("%7B".toList ++ key.toList ++ "%7D".toList) :: after) ∧
      (v ≠ "." → v ≠ ".." → ∃ segment, request.url.path = .segments (before ++ segment :: after) ∧
        Http.decodePart? segment = some v) ∧
      (v = "." → request.url.path = .segments (before ++ Url.closing after)) ∧
      (v = ".." → request.url.path = .segments (before.dropLast ++ Url.closing after)) := by
  obtain ⟨before, after, hbefore, hafter, hpath, hfilled⟩ :=
    exists_parse_joined hroute hkey hfirst hsegment hurl hweb hhost hmarks hdots
  obtain ⟨request, hrequest, -, hrest, -⟩ :=
    exists_requestOf hmethod (hfilled v hv hempty) hweb hhost
  obtain ⟨hscheme, hsent_host, hport, hsent_path⟩ := Http.of_takeCredentials hrest
  obtain ⟨hname, -⟩ := Url.resolve_segment hbefore hafter (Route.inBraces key).toList
  obtain ⟨hkept, hsingle, hdouble⟩ :=
    Url.resolve_segment hbefore hafter (Text.percentEncode Text.isUnreserved v.toList)
  refine ⟨request, before.map (Text.percentEncode Url.safeInPath),
    after.map (Text.percentEncode Url.safeInPath), requests_of_requestOf hrequest transport state,
    hscheme, hsent_host, hport, ?_, fun hone htwo => ?_, ?_, ?_⟩
  · have hbrace : Url.Kept (Route.inBraces key).toList := by
      rw [Route.toList_inBraces]
      exact Url.kept_cons (by decide) (by decide) _
    rw [hpath, hname hbrace, percentEncode_inBraces hkey]
  · have hself : Text.percentEncode Url.safeInPath
        (Text.percentEncode Text.isUnreserved v.toList) =
          Text.percentEncode Text.isUnreserved v.toList :=
      Text.percentEncode_eq_self fun c hc => (of_mem_encoded hc).2.1
    have hne : v.toList ≠ ['.'] ∧ v.toList ≠ ['.', '.'] :=
      ⟨fun h => hone (String.toList_inj.mp h), fun h => htwo (String.toList_inj.mp h)⟩
    refine ⟨_, ?_, decodePart?_percentEncode v⟩
    rw [hsent_path, hkept ((Url.kept_percentEncode_iff _).mpr hne), hself]
  · rintro rfl
    rw [hsent_path, hsingle (by decide +kernel)]
  · rintro rfl
    rw [hsent_path, hdouble (by decide +kernel)]

/-- A value with slashes and a dot segment at its start is one segment all the same. -/
theorem sends_segment_slashes :
    let call : Call := ⟨"language", "/n/", "jobs/\x7bid\x7d/log", "post",
      [("id", .string "../a b"), ("q", .null)]⟩
    ∃ request before segment after,
      requests "http://caps.example.com/api/" Http.Transport.closed call () = [request] ∧
      request.url.path = .segments (before ++ segment :: after) ∧
      Http.decodePart? segment = some "../a b" ∧
      request.url.toText = "http://caps.example.com/api/n/jobs/..%2Fa%20b/log" := by
  intro call
  have hmethod : Text.upper call.method ∈ queryMethods ++ bodyMethods := by decide +kernel
  have hkey : Route.IsName "id".toList := ⟨by decide, by simp [Route.isNameChar]⟩
  have hfirst : ¬ Route.Names "jobs/" "id" := by
    rw [Route.names_iff]
    decide +kernel
  have hsegment : Route.IsSegment "jobs/" "/log" := ⟨by simp [Url.isSlash], by simp [Url.isSlash]⟩
  have hparse : ((Url.parse (joined "http://caps.example.com/api/" call "id")).toOption.any
      fun url => Http.isWebScheme url.scheme && Http.isSendableHost url) = true := by
    decide +kernel
  have htexts : (requests "http://caps.example.com/api/" Http.Transport.closed call ()).map
      (fun request => request.url.toText) =
        ["http://caps.example.com/api/n/jobs/..%2Fa%20b/log"] := by
    decide +kernel
  cases hurl : Url.parse (joined "http://caps.example.com/api/" call "id") with
  | error fault =>
    rw [hurl] at hparse
    cases hparse
  | ok url =>
    rw [hurl] at hparse
    obtain ⟨hweb, hhost⟩ : Http.isWebScheme url.scheme = true ∧
        Http.isSendableHost url = true := by
      simpa [Except.toOption] using hparse
    obtain ⟨request, before, after, hrequest, -, -, -, -, hkept, -⟩ :=
      sends_segment Http.Transport.closed () hmethod rfl hkey hfirst hsegment hurl hweb hhost
        (by decide +kernel) (by unfold Url.Undotted; decide +kernel) rfl (by decide)
    obtain ⟨segment, hpath, hdecoded⟩ := hkept (by decide) (by decide)
    have hfits : request.url.toText.utf8ByteSize ≤ Http.maxUrlSize := by
      by_contra hlong
      rw [hrequest, if_neg hlong] at htexts
      cases htexts
    rw [if_pos hfits] at hrequest
    rw [hrequest] at htexts
    exact ⟨request, before, segment, after, hrequest, hpath, hdecoded,
      (List.cons.inj htexts).1⟩

/-- Values that leave their segments: two full stops take back the segment in front of the name, and
an empty value at the start of a route is no segment. -/
theorem sends_segment_lost :
    let call (route v : String) : Call := ⟨"language", "n", route, "GET", [("k", .string v)]⟩
    let texts (route v : String) :=
      (requests "http://caps.example.com" Http.Transport.closed (call route v) ()).map
        fun request => request.url.toText
    texts "a/\x7bk\x7d/b" "v" = ["http://caps.example.com/n/a/v/b"] ∧
      texts "a/\x7bk\x7d/b" ".." = ["http://caps.example.com/n/b"] ∧
      texts "\x7bk\x7d/b" "v" = ["http://caps.example.com/n/v/b"] ∧
      texts "\x7bk\x7d/b" "" = ["http://caps.example.com/n/b"] := by
  decide +kernel

end Remote

end Dataflow
