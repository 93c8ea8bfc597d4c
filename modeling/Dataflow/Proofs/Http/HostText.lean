import Dataflow.Http.Guard
import Dataflow.Proofs.Url.AddressText
import Dataflow.Proofs.Url.Domain

/-!
# The guard on hosts

The guard looks at the text of a host: it compares it with the usual names of the machine, reads it
as an address without its brackets, and looks at how it ends. For the hosts of URLs of the web, this
is a verdict on the host itself (`checkHostText_text`, `checkUrl_eq_checkHost`). This rests on
addresses being read back from their texts (`Url.Ipv4.ofDotted?_text`, `Url.Ipv6.parse?_text`), and
on no domain name being the text of an address.
-/

namespace Dataflow.Http

open Url (Ipv4 Ipv6 Host)

/-! ## Verdicts -/

/-- Whether the host is one of the usual names of the machine itself. -/
def isLocalHost : Host → Bool
  | .name s => s == "localhost".toList
  | .ipv4 a => a.octets == [127, 0, 0, 1] || a.octets == [0, 0, 0, 0]
  | .ipv6 a => a.pieces.map BitVec.toNat == loopbackPieces

/-- Whether the host has a name that is valid in a private network only. -/
def isInternalName : Host → Bool
  | .name s => internalEndings.any fun ending => ending.isSuffixOf s
  | _ => false

/-- Whether a host may be asked. -/
def checkHost (host : Host) : Except Refusal Unit :=
  if isLocalHost host then .error .localHost
  else if isPrivateHost host then .error .privateAddress
  else if isInternalName host then .error .internalName
  else .ok ()

variable {s name : List Char}

/-! ## Brackets -/

/-- Nothing is taken off a text without the mark. -/
lemma dropWhile_of_not_mem {mark : Char} (hs : mark ∉ s) : s.dropWhile (· == mark) = s := by
  cases s with
  | nil => rfl
  | cons c s =>
    have hc : c ≠ mark := fun h => hs (h ▸ List.mem_cons_self)
    rw [List.dropWhile_cons_of_neg (by simpa using hc)]

/-- A text without brackets stays as it is. -/
lemma withoutBrackets_of_not_mem (hopen : '[' ∉ s) (hclose : ']' ∉ s) : withoutBrackets s = s := by
  have hrev : ']' ∉ s.reverse := by rwa [List.mem_reverse]
  rw [withoutBrackets, dropWhile_of_not_mem hopen, Text.dropEndWhile, dropWhile_of_not_mem hrev,
    List.reverse_reverse]

/-- The brackets around a text without brackets are taken off. -/
lemma withoutBrackets_bracketed (hopen : '[' ∉ s) (hclose : ']' ∉ s) :
    withoutBrackets ('[' :: (s ++ [']'])) = s := by
  have hinner : '[' ∉ s ++ [']'] := by simpa using hopen
  have hrev : ']' ∉ s.reverse := by rwa [List.mem_reverse]
  rw [withoutBrackets, List.dropWhile_cons_of_pos (by rfl), dropWhile_of_not_mem hinner,
    Text.dropEndWhile, List.reverse_append, List.reverse_singleton, List.singleton_append,
    List.dropWhile_cons_of_pos (by rfl), dropWhile_of_not_mem hrev, List.reverse_reverse]

/-! ## Texts of addresses -/

/-- The text of an address has no capitals, no brackets, and no letter of the names of the machine
and of private networks. -/
lemma of_mem_addressText {c : Char} (hc : c = ':' ∨ c = '.' ∨ ∃ d < 16, c = Nat.digitChar d) :
    c.isUpper = false ∧ c ≠ '[' ∧ c ≠ ']' ∧ c ≠ 'l' := by
  have hall : ∀ d < 16, (Nat.digitChar d).isUpper = false ∧ Nat.digitChar d ≠ '[' ∧
      Nat.digitChar d ≠ ']' ∧ Nat.digitChar d ≠ 'l' := by decide
  rcases hc with rfl | rfl | ⟨d, hd, rfl⟩
  · decide
  · decide
  · exact hall d hd

/-- No text without an l ends as the names in a private network do. -/
lemma not_ending_of_not_mem (hs : 'l' ∉ s) :
    (internalEndings.any fun ending => ending.isSuffixOf s) = false := by
  rw [List.any_eq_false]
  intro ending hending hsuffix
  have hl : ∀ ending ∈ internalEndings, 'l' ∈ ending := by decide
  exact hs ((List.isSuffixOf_iff_suffix.mp hsuffix).subset (hl ending hending))

/-- The verdict on a text, if the three checks find in it what they find in a host. -/
lemma checkHostText_eq {host : Host} (hlocal : localHostTexts.contains (s.map Char.toLower) =
      isLocalHost host)
    (hprivate : (addressOf? (withoutBrackets (s.map Char.toLower))).any isPrivateHost =
      isPrivateHost host)
    (hinternal : (internalEndings.any fun ending => ending.isSuffixOf (s.map Char.toLower)) =
      isInternalName host) :
    checkHostText s = checkHost host := by
  rw [checkHostText, checkHost]
  simp only [hlocal, hprivate, hinternal]

/-- Two of the usual names of the machine are texts of IPv4 addresses. -/
lemma contains_text_ipv4 (a : Ipv4) : localHostTexts.contains a.text = isLocalHost (.ipv4 a) := by
  have hread := Ipv4.ofDotted?_text a
  rw [Bool.eq_iff_iff, List.contains_iff_mem, isLocalHost, Bool.or_eq_true, beq_iff_eq, beq_iff_eq]
  constructor
  · intro hmem
    have hothers : ∀ text ∈ ["localhost".toList, "::1".toList, "[::1]".toList],
        Ipv4.ofDotted? text = none := by decide
    have hloopback : Ipv4.ofDotted? "127.0.0.1".toList = some (.ofOctets 127 0 0 1) := by rfl
    have hnone : Ipv4.ofDotted? "0.0.0.0".toList = some (.ofOctets 0 0 0 0) := by rfl
    simp only [localHostTexts, List.mem_cons, List.not_mem_nil, or_false] at hmem
    rcases hmem with h | h | h | h | h
    · rw [h, hothers _ (by simp)] at hread
      cases hread
    · rw [h, hloopback] at hread
      obtain rfl := Option.some.inj hread
      exact Or.inl (by decide)
    · rw [h, hothers _ (by simp)] at hread
      cases hread
    · rw [h, hothers _ (by simp)] at hread
      cases hread
    · rw [h, hnone] at hread
      obtain rfl := Option.some.inj hread
      exact Or.inr (by decide)
  · rintro (hoctets | hoctets)
    · rw [Ipv4.text, hoctets]
      decide
    · rw [Ipv4.text, hoctets]
      decide

/-- The guard finds in the text of an IPv4 address what it finds in the address. -/
lemma checkHostText_ipv4 (a : Ipv4) : checkHostText a.text = checkHost (.ipv4 a) := by
  have hchars : ∀ c ∈ a.text, c.isUpper = false ∧ c ≠ '[' ∧ c ≠ ']' ∧ c ≠ 'l' := by
    intro c hc
    refine of_mem_addressText ?_
    rcases Ipv4.of_mem_text hc with hdot | ⟨d, hd, hdigit⟩
    · exact Or.inr (Or.inl hdot)
    · exact Or.inr (Or.inr ⟨d, by omega, hdigit⟩)
  have hlower : a.text.map Char.toLower = a.text :=
    Url.NoCapitals.map_toLower fun c hc => (hchars c hc).1
  refine checkHostText_eq ?_ ?_ ?_
  · rw [hlower, contains_text_ipv4]
  · rw [hlower, withoutBrackets_of_not_mem (fun h => (hchars _ h).2.1 rfl)
      (fun h => (hchars _ h).2.2.1 rfl), addressOf?, Ipv4.ofDotted?_text a]
    rfl
  · rw [hlower, not_ending_of_not_mem fun h => (hchars _ h).2.2.2 rfl]
    rfl

/-- One of the usual names of the machine is the text of an IPv6 address in brackets. -/
lemma contains_text_ipv6 (a : Ipv6) :
    localHostTexts.contains ('[' :: (a.text ++ [']'])) = isLocalHost (.ipv6 a) := by
  rw [Bool.eq_iff_iff, List.contains_iff_mem, isLocalHost, beq_iff_eq]
  constructor
  · intro hmem
    simp only [localHostTexts, List.mem_cons, List.not_mem_nil, or_false] at hmem
    rcases hmem with h | h | h | h | h
    · simp at h
    · simp at h
    · simp at h
    · have hbrackets : "[::1]".toList = '[' :: ("::1".toList ++ [']']) := by rfl
      rw [hbrackets] at h
      have htext : a.text = "::1".toList := List.append_cancel_right (List.cons.inj h).2
      have hloopback : (Ipv6.parse? "::1".toList).map (·.pieces.map BitVec.toNat) =
          some loopbackPieces := by decide
      rw [← htext, Ipv6.parse?_text a] at hloopback
      exact Option.some.inj hloopback
    · simp at h
  · intro hpieces
    rw [Ipv6.text, hpieces]
    decide

/-- The guard finds in the text of an IPv6 address what it finds in the address. -/
lemma checkHostText_ipv6 (a : Ipv6) :
    checkHostText ('[' :: (a.text ++ [']'])) = checkHost (.ipv6 a) := by
  have hchars : ∀ c ∈ a.text, c.isUpper = false ∧ c ≠ '[' ∧ c ≠ ']' ∧ c ≠ 'l' := by
    intro c hc
    refine of_mem_addressText ?_
    rcases Ipv6.of_mem_text hc with hcolon | hdigit
    · exact Or.inl hcolon
    · exact Or.inr (Or.inr hdigit)
  have hlower : ('[' :: (a.text ++ [']'])).map Char.toLower = '[' :: (a.text ++ [']']) := by
    have htext : a.text.map Char.toLower = a.text :=
      Url.NoCapitals.map_toLower fun c hc => (hchars c hc).1
    rw [List.map_cons, List.map_append, htext]
    rfl
  refine checkHostText_eq ?_ ?_ ?_
  · rw [hlower, contains_text_ipv6]
  · rw [hlower, withoutBrackets_bracketed (fun h => (hchars _ h).2.1 rfl)
      (fun h => (hchars _ h).2.2.1 rfl), addressOf?, Ipv6.parse?_text a, Ipv6.ofDotted?_text]
    rfl
  · have hl : 'l' ∉ '[' :: (a.text ++ [']']) := by
      simpa using fun h => (hchars _ h).2.2.2 rfl
    rw [hlower, not_ending_of_not_mem hl]
    rfl

/-- No domain name is the text of an address. -/
lemma addressOf?_name (hname : Url.IsDomain name) (hcolon : ':' ∉ name) :
    addressOf? name = none := by
  rw [addressOf?, Ipv6.parse?_of_not_mem hcolon]
  cases hread : Ipv4.ofDotted? name with
  | none => rfl
  | some a =>
    have hnumber := Ipv4.endsInNumber_of_ofDotted? hread
    rw [hname.not_number] at hnumber
    cases hnumber

/-- The guard finds in a domain name as a text what it finds in the name. -/
lemma checkHostText_name (hname : Url.IsDomain name) :
    checkHostText name = checkHost (.name name) := by
  have hmark : ∀ mark, Url.isForbidden mark = true → mark ∉ name := by
    intro mark hforbidden hmem
    rw [(hname.chars mark hmem).2] at hforbidden
    cases hforbidden
  have hcolon : ':' ∉ name := hmark ':' (by decide)
  refine checkHostText_eq ?_ ?_ ?_
  · rw [hname.noCapitals.map_toLower, Bool.eq_iff_iff, List.contains_iff_mem, isLocalHost,
      beq_iff_eq]
    constructor
    · intro hmem
      have hnumber := hname.not_number
      simp only [localHostTexts, List.mem_cons, List.not_mem_nil, or_false] at hmem
      rcases hmem with rfl | rfl | rfl | rfl | rfl
      · rfl
      · exact absurd hnumber (by decide)
      · exact absurd (by decide) hcolon
      · exact absurd (by decide) hcolon
      · exact absurd hnumber (by decide)
    · rintro rfl
      decide
  · rw [hname.noCapitals.map_toLower, withoutBrackets_of_not_mem (hmark '[' (by decide))
      (hmark ']' (by decide)), addressOf?_name hname hcolon]
    rfl
  · rw [hname.noCapitals.map_toLower]
    rfl

/-- The verdict on the text of a host is that on the host. -/
theorem checkHostText_text {hostText : List Char} {host : Host}
    (hhost : Host.parse hostText = .ok host) : checkHostText host.text = checkHost host := by
  cases host with
  | name name => exact checkHostText_name (Url.isDomain_of_parseHost hhost)
  | ipv4 a => exact checkHostText_ipv4 a
  | ipv6 a => exact checkHostText_ipv6 a

/-- The schemes of the web are special, and not that of files. -/
lemma isSpecial_of_isWebScheme {scheme : List Char} (hweb : isWebScheme scheme = true) :
    Url.isSpecial scheme = true ∧ Url.isFile scheme = false := by
  rw [isWebScheme, Bool.or_eq_true, beq_iff_eq, beq_iff_eq] at hweb
  rcases hweb with rfl | rfl
  · exact ⟨by decide, by decide⟩
  · exact ⟨by decide, by decide⟩

/-- A URL of the web has a host, and the verdict on the URL is that on the host. -/
theorem checkUrl_eq_checkHost {text : String} {url : Url} (hparse : Url.parse text = .ok url)
    (hweb : isWebScheme url.scheme = true) : ∃ host, url.host = some host ∧
      checkUrl text false = (checkHost host).map fun _ => url := by
  obtain ⟨hspecial, hfile⟩ := isSpecial_of_isWebScheme hweb
  obtain ⟨host, hread, hurl⟩ := Url.parse_hostText hparse hspecial hfile
  refine ⟨host, hurl, ?_⟩
  rw [checkUrl, hparse]
  simp only [hweb, hurl, checkHostText_text hread, Bool.not_true, Bool.false_eq_true, if_false]

end Dataflow.Http
