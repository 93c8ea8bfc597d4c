import Dataflow.Url.Read
import Dataflow.Proofs.Results
import Dataflow.Proofs.Text.Characters
import Dataflow.Proofs.Text.Pieces

/-!
# Domain names as hosts

The name that the host of a special URL is read as is made of few characters, whatever the URL was
written with (`isDomain_of_parse`): it holds neither capital letters of ASCII nor any of the marks
that no domain name holds. A label stands for a proper one, which holds none of them
(`validLabel_of_plainLabel?`), and Punycode brings in hyphens and digits only
(`Punycode.of_mem_encode`).
-/

namespace Dataflow.Url

/-- The text holds no capital letter of ASCII. -/
def NoCapitals (s : List Char) : Prop := ∀ c ∈ s, c.isUpper = false

variable {s label : List Char} {c : Char}

/-- A text without capitals is in small letters already. -/
lemma NoCapitals.map_toLower (hs : NoCapitals s) : s.map Char.toLower = s := by
  have hmap : s.map Char.toLower = s.map id := List.map_congr_left fun c hc =>
    Char.toLower_eq_of_not_isUpper (by simp [hs c hc])
  rw [hmap, List.map_id]

/-- Folding leaves no capital. -/
lemma noCapitals_foldChar (c : Char) : NoCapitals (foldChar c) := by
  intro d hd
  rw [foldChar] at hd
  obtain ⟨e, -, rfl⟩ := List.mem_map.mp hd
  exact Char.isUpper_toLower_eq_false e

/-! ## Punycode -/

namespace Punycode

/-- The text is made of digits of Punycode. -/
def AllDigits (s : List Char) : Prop := ∀ c ∈ s, ∃ d < 36, c = digitChar d

/-- A number is written with digits. -/
lemma allDigits_encodeNumber (bias i n : ℕ) : AllDigits (encodeNumber bias i n) := by
  fun_induction encodeNumber bias i n with
  | case1 i n t hlt =>
    have ht : t ≤ 26 := by simp only [t, threshold]; omega
    intro c hc
    exact ⟨n, by omega, List.mem_singleton.mp hc⟩
  | case2 i n t hle ih =>
    have ht : t ≤ 26 := by simp only [t, threshold]; omega
    have hdigit := Nat.mod_lt (n - t) (show 0 < 36 - t by omega)
    exact List.forall_mem_cons.mpr ⟨⟨_, by omega, rfl⟩, ih⟩

/-- Placing a character adds at most a number to the output. -/
lemma allDigits_place (n : ℕ) {s : State} (hs : ∀ part ∈ s.output, AllDigits part) (c : Char) :
    ∀ part ∈ (place n s c).output, AllDigits part := by
  unfold place
  split
  · exact hs
  · split
    · exact List.forall_mem_cons.mpr ⟨allDigits_encodeNumber _ _ _, hs⟩
    · exact hs

/-- Placing all characters adds numbers to the output. -/
lemma allDigits_placeAll (label : List Char) (low : ℕ) {s : State}
    (hs : ∀ part ∈ s.output, AllDigits part) (points : List ℕ) :
    ∀ part ∈ (placeAll label low s points).output, AllDigits part := by
  have hfold : ∀ (n : ℕ) (chars : List Char) (s : State), (∀ part ∈ s.output, AllDigits part) →
      ∀ part ∈ (chars.foldl (place n) s).output, AllDigits part := by
    intro n chars
    induction chars with
    | nil => exact fun s hs => hs
    | cons c chars ih => exact fun s hs => ih (place n s c) (allDigits_place n hs c)
  induction points generalizing low s with
  | nil => exact hs
  | cons n points ih =>
    rw [placeAll]
    exact ih _ (hfold n label _ hs)

/-- A label is written with its characters within ASCII, hyphens and digits. -/
lemma of_mem_encode (hc : c ∈ encode label) :
    (c ∈ label ∧ c.toNat < 0x80) ∨ c = '-' ∨ ∃ d < 36, c = digitChar d := by
  unfold encode at hc
  extract_lets basic others placed at hc
  rw [List.mem_append, List.mem_append] at hc
  rcases hc with (hbasic | hhyphen) | houtput
  · obtain ⟨hmem, hascii⟩ := List.mem_filter.mp hbasic
    exact Or.inl ⟨hmem, by simpa using hascii⟩
  · split at hhyphen
    · cases hhyphen
    · exact Or.inr (Or.inl (List.mem_singleton.mp hhyphen))
  · obtain ⟨part, hpart, hc⟩ := List.mem_flatten.mp houtput
    have hplaced := allDigits_placeAll label 128 (s := ⟨[], 0, 72, basic.length, true⟩)
      (List.forall_mem_nil _) others.eraseDups
    exact Or.inr (Or.inr (hplaced part (List.mem_reverse.mp hpart) c hc))

end Punycode

/-! ## Domain names -/

/-- The character is of the kind that the ASCII form of a domain name is made of. -/
def IsNameChar (c : Char) : Prop := c.isUpper = false ∧ isForbidden c = false

instance : DecidablePred IsNameChar := fun _ => inferInstanceAs (Decidable (_ ∧ _))

/-- The ASCII form of a name is put together from the forms of the labels for which its own stand,
if these can stand beside each other. -/
lemma domainToAscii?_eq_some_iff {name : List Char} : domainToAscii? name = some s ↔
    ∃ labels forms, (Text.splitOn '.' (Text.composed (name.flatMap foldChar))).mapM plainLabel? =
        some labels ∧ directionsFit labels = true ∧ labels.mapM labelToAscii? = some forms ∧
      s = List.intercalate ['.'] forms := by
  unfold domainToAscii?
  simp only [Option.bind_eq_bind, Option.bind_eq_some_iff]
  constructor
  · rintro ⟨labels, hlabels, h⟩
    split at h
    · cases h
    · rename_i hfit
      obtain ⟨forms, hforms, h⟩ := Option.bind_eq_some_iff.mp h
      exact ⟨labels, forms, hlabels, by simpa using hfit, hforms, (Option.some.inj h).symm⟩
  · rintro ⟨labels, forms, hlabels, hfit, hforms, rfl⟩
    refine ⟨labels, hlabels, ?_⟩
    simp [hfit, hforms]

/-- A label stands for a proper one only. -/
lemma validLabel_of_plainLabel? {plain : List Char} (h : plainLabel? label = some plain) :
    validLabel plain = true := by
  unfold plainLabel? at h
  split at h
  · unfold decodeLabel? at h
    split at h
    · cases h
    · have hproper := (Option.filter_eq_some_iff.mp h).2
      simp only [Bool.and_eq_true] at hproper
      exact hproper.1.1.2
  · split at h
    · rename_i hvalid
      exact Option.some.inj h ▸ hvalid
    · cases h

/-- The ASCII form of a proper label is made of characters for names. -/
lemma isNameChar_of_labelToAscii? (hlabel : validLabel label = true)
    (h : labelToAscii? label = some s) (hc : c ∈ s) : IsNameChar c := by
  have hvalid : c ∈ label → c.toNat < 0x80 → IsNameChar c := by
    intro hc hascii
    rw [validLabel, Bool.and_eq_true, Bool.and_eq_true, List.all_eq_true] at hlabel
    have hdomain := hlabel.1.1 c hc
    rw [isDomainChar, if_pos hascii, Bool.and_eq_true, Bool.not_eq_true', Bool.not_eq_true']
      at hdomain
    exact ⟨hdomain.2, hdomain.1⟩
  have hdigit : ∀ d < 36, IsNameChar (Punycode.digitChar d) := by decide +kernel
  have hmark : ∀ c ∈ punycodeMark, IsNameChar c := by
    intro c hc
    simp only [punycodeMark, List.mem_cons, List.not_mem_nil, or_false] at hc
    rcases hc with rfl | rfl | rfl | rfl
    all_goals exact ⟨rfl, by decide⟩
  unfold labelToAscii? at h
  split at h
  · rename_i hascii
    obtain rfl := Option.some.inj h
    rw [Text.isAscii, List.all_eq_true] at hascii
    exact hvalid hc (by simpa using hascii c hc)
  · split at h
    · cases h
    · obtain rfl := Option.some.inj h
      rcases List.mem_append.mp hc with hc | hc
      · exact hmark c hc
      · rcases Punycode.of_mem_encode hc with ⟨hc, hascii⟩ | rfl | ⟨d, hd, rfl⟩
        · exact hvalid hc hascii
        · exact hmark '-' (by decide)
        · exact hdigit d hd

/-- The ASCII form of a domain name is made of characters for names. -/
lemma isNameChar_of_domainToAscii? {name : List Char} (h : domainToAscii? name = some s)
    (hc : c ∈ s) : IsNameChar c := by
  obtain ⟨labels, forms, hlabels, -, hforms, rfl⟩ := domainToAscii?_eq_some_iff.mp h
  rcases Text.mem_of_mem_intercalate hc with hc | ⟨form, hform, hc⟩
  · obtain rfl := List.mem_singleton.mp hc
    exact ⟨rfl, by decide⟩
  · obtain ⟨plain, hplain, hascii⟩ := exists_of_mem_mapM hforms hform
    obtain ⟨label, -, hlabel⟩ := exists_of_mem_mapM hlabels hplain
    exact isNameChar_of_labelToAscii? (validLabel_of_plainLabel? hlabel) hascii hc

/-! ## Hosts -/

/-- What a name is that the host of a special URL is read as: it is made of characters for names, is
not empty, and does not end in a number. -/
structure IsDomain (name : List Char) : Prop where
  chars : ∀ c ∈ name, IsNameChar c
  ne_nil : name ≠ []
  not_number : Ipv4.endsInNumber name = false

/-- A domain name holds no capital. -/
lemma IsDomain.noCapitals {name : List Char} (hname : IsDomain name) : NoCapitals name :=
  fun c hc => (hname.chars c hc).1

/-- A host that is a name is a domain name. -/
lemma isDomain_of_parseHost {name : List Char} (h : Host.parse s = .ok (.name name)) :
    IsDomain name := by
  unfold Host.parse at h
  split at h
  · unfold Host.parseBracketed at h
    split at h
    · cases h
    · split at h
      · cases h
      · cases h
  · split at h
    · cases h
    · rename_i domain hdomain
      split at h
      · cases h
      · rename_i hne
        split at h
        · split at h
          · cases h
          · cases h
        · rename_i hnumber
          obtain ⟨name', -, hname⟩ := Option.bind_eq_some_iff.mp hdomain
          obtain rfl := Host.name.inj (Except.ok.inj h)
          exact ⟨fun c hc => isNameChar_of_domainToAscii? hname hc, by simpa using hne,
            by simpa using hnumber⟩

/-- The part of an authority that its host is read from. -/
def authorityHostText (authority : List Char) : List Char :=
  (cutPort false (cutUserinfo authority).2).1

/-- The part of a text that the host of a special URL is read from: the slashes after the scheme are
followed by the authority, which holds the host between the user and the port. -/
def hostText (s : List Char) : List Char :=
  match takeScheme (significant s) with
  | none => []
  | some (_, rest) =>
    let rest := (cutOff '?' (cutOff '#' rest).1).1
    authorityHostText ((rest.dropWhile (isSlash true)).takeWhile fun c => !isSlash true c)

/-- The host of an authority is read from its part of the authority, if the scheme is special. -/
lemma parse_authorityHostText {scheme : List Char} {more : Bool} {authority : Authority}
    (h : readAuthority scheme more s = .ok authority) (hspecial : isSpecial scheme = true) :
    Host.parse (authorityHostText s) = .ok authority.host := by
  unfold readAuthority at h
  simp only [hspecial, if_true] at h
  split at h
  · cases h
  · obtain ⟨host, hhost, h⟩ := ok_of_bind h
    obtain ⟨port, -, h⟩ := ok_of_bind h
    obtain rfl := Except.ok.inj h
    exact hhost

/-- The host of a special URL that is no file's is read from its part of the text. -/
lemma parse_hostText {text : String} {url : Url} (h : parse text = .ok url)
    (hspecial : isSpecial url.scheme = true) (hfile : isFile url.scheme = false) :
    ∃ host, Host.parse (hostText text.toList) = .ok host ∧ url.host = some host := by
  unfold parse parseChars at h
  unfold hostText
  cases htake : takeScheme (significant text.toList) with
  | none =>
    rw [htake] at h
    cases h
  | some found =>
    obtain ⟨scheme, rest⟩ := found
    rw [htake] at h
    simp only at h ⊢
    split at h
    · rename_i hscheme
      obtain ⟨parts, -, h⟩ := ok_of_bind h
      obtain rfl := Except.ok.inj h
      simp [hscheme] at hfile
    · split at h
      · rename_i hscheme
        obtain ⟨parts, hparts, h⟩ := ok_of_bind h
        obtain rfl := Except.ok.inj h
        unfold readSpecial at hparts
        obtain ⟨authority, hauthority, hparts⟩ := ok_of_bind hparts
        obtain rfl := Except.ok.inj hparts
        exact ⟨authority.host, parse_authorityHostText hauthority hscheme, rfl⟩
      · rename_i hscheme
        obtain ⟨parts, -, h⟩ := ok_of_bind h
        obtain rfl := Except.ok.inj h
        exact absurd hspecial hscheme

/-- The name that is the host of a special URL is a domain name, unless the URL is a file's. -/
lemma isDomain_of_parse {text : String} {url : Url} {name : List Char}
    (h : parse text = .ok url) (hspecial : isSpecial url.scheme = true)
    (hfile : isFile url.scheme = false) (hname : url.host = some (.name name)) : IsDomain name := by
  obtain ⟨host, hhost, hurl⟩ := parse_hostText h hspecial hfile
  obtain rfl := Option.some.inj (hurl.symm.trans hname)
  exact isDomain_of_parseHost hhost

end Dataflow.Url
