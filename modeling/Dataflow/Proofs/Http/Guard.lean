import Dataflow.Proofs.Http.HostText
import Dataflow.Proofs.Url.Block

/-!
# The guard

What the guard lets through is said in terms of the hosts that URLs name: `checkUrl_eq_ok_iff` takes
the check apart, and the lemmas after it say which hosts pass. An IPv4 address passes if it is not
internal. Of the internal IPv6 addresses, those of a single link and of private networks pass, as
the guard knows only the machine's own address, none, and the mapped ones (`isPrivateIpv6_iff`).
-/

namespace Dataflow.Http

open Url (Ipv4 Ipv6)

/-! ## Addresses -/

/-- The guard knows the internal IPv4 addresses. -/
lemma isPrivateIpv4_iff {a : Ipv4} : isPrivateIpv4 a = true ↔ a.IsInternal := by
  have hlt := a.isLt
  simp only [Ipv4.IsInternal, Ipv4.internalBlocks, List.mem_cons, List.not_mem_nil, or_false,
    exists_eq_or_imp, exists_eq_left, Url.Block.contains_iff, Ipv4.ofOctets, BitVec.toNat_ofNat]
  simp only [isPrivateIpv4, Ipv4.octets, Bool.or_eq_true, Bool.and_eq_true, beq_iff_eq,
    decide_eq_true_eq]
  omega

/-- Of the IPv6 addresses the guard knows that of the machine itself, the one that is none, and
those that map an internal one. -/
lemma isPrivateIpv6_iff {a : Ipv6} :
    isPrivateIpv6 a = true ↔ a.value = 1 ∨ a.value = 0 ∨
      ∃ v4, a = .ofIpv4 v4 ∧ v4.IsInternal := by
  obtain ⟨p0, p1, p2, p3, p4, p5, p6, p7, ha⟩ := a.exists_pieces
  have hvalue := Ipv6.toNat_value ha
  have hloopback : a.pieces.map BitVec.toNat = loopbackPieces ↔ a.value = 1 := by
    rw [ha, loopbackPieces, ← BitVec.toNat_inj, hvalue]
    simp only [List.map_cons, List.map_nil, List.cons.injEq, and_true, BitVec.ofNat_eq_ofNat,
      BitVec.toNat_ofNat]
    omega
  have hunspecified : a.pieces.map BitVec.toNat = unspecifiedPieces ↔ a.value = 0 := by
    rw [ha, unspecifiedPieces, ← BitVec.toNat_inj, hvalue]
    simp only [List.map_cons, List.map_nil, List.replicate_succ, List.replicate_zero,
      List.cons.injEq, and_true, BitVec.ofNat_eq_ofNat, BitVec.toNat_ofNat]
    omega
  simp only [isPrivateIpv6, Bool.or_eq_true, beq_iff_eq, hloopback, hunspecified,
    Option.any_eq_true, Ipv6.mapped?_eq_some_iff, isPrivateIpv4_iff, or_assoc]

/-- Of the internal IPv6 addresses the guard knows those that are neither addresses of a single link
nor of a private network. -/
lemma isPrivateIpv6_iff_internal {a : Ipv6} :
    isPrivateIpv6 a = true ↔ a.IsInternal ∧ ¬ Ipv6.linkLocal.Contains a.value ∧
      ¬ Ipv6.uniqueLocal.Contains a.value := by
  constructor
  · intro hprivate
    have hinternal : a.IsInternal ∧ a.value.toNat < 2 ^ 127 := by
      rcases isPrivateIpv6_iff.mp hprivate with h | h | ⟨v4, rfl, hv4⟩
      · exact ⟨.loopback h, by rw [h]; decide⟩
      · exact ⟨.unspecified h, by rw [h]; decide⟩
      · have hlt := v4.isLt
        exact ⟨.mapped v4 rfl hv4, by rw [Ipv6.toNat_value_ofIpv4]; omega⟩
    exact ⟨hinternal.1,
      fun hlink => absurd (Ipv6.le_value_of_contains (Or.inl hlink)) (not_le.mpr hinternal.2),
      fun hnetwork =>
        absurd (Ipv6.le_value_of_contains (Or.inr hnetwork)) (not_le.mpr hinternal.2)⟩
  · rintro ⟨hinternal, hlink, hnetwork⟩
    rw [isPrivateIpv6_iff]
    cases hinternal with
    | loopback h => exact Or.inl h
    | unspecified h => exact Or.inr (Or.inl h)
    | ofLink h => exact absurd h hlink
    | ofNetwork h => exact absurd h hnetwork
    | mapped v4 h hinternal => exact Or.inr (Or.inr ⟨v4, h, hinternal⟩)

/-! ## Hosts -/

/-- A host passes if it passes each of the three checks. -/
lemma checkHost_eq_ok_iff {host : Url.Host} :
    checkHost host = .ok () ↔
      isLocalHost host = false ∧ isPrivateHost host = false ∧ isInternalName host = false := by
  unfold checkHost
  cases isLocalHost host with
  | true => simp
  | false =>
    cases isPrivateHost host with
    | true => simp
    | false =>
      cases isInternalName host with
      | true => simp
      | false => simp

/-- An IPv6 address passes if it is none that the guard knows; the machine's own address is one. -/
lemma checkHost_ipv6 {a : Ipv6} : checkHost (.ipv6 a) = .ok () ↔ isPrivateIpv6 a = false := by
  rw [checkHost_eq_ok_iff]
  constructor
  · rintro ⟨-, hprivate, -⟩
    exact hprivate
  · intro hprivate
    refine ⟨?_, hprivate, rfl⟩
    simp only [isPrivateIpv6, Bool.or_eq_false_iff] at hprivate
    exact hprivate.1.1

/-- A name passes if it is not the usual one of the machine itself and has none of the endings of
names in a private network. -/
lemma checkHost_name {name : List Char} :
    checkHost (.name name) = .ok () ↔
      name ≠ "localhost".toList ∧ ∀ ending ∈ internalEndings, ¬ ending <:+ name := by
  rw [checkHost_eq_ok_iff]
  simp only [isLocalHost, isPrivateHost, isInternalName, beq_eq_false_iff_ne, true_and,
    List.any_eq_false, List.isSuffixOf_iff_suffix]

/-- A text passes if it is a URL of the web and its host passes. -/
lemma checkUrl_eq_ok_iff {text : String} {url : Url} :
    checkUrl text false = .ok url ↔ Url.parse text = .ok url ∧ isWebScheme url.scheme = true ∧
      ∃ host, url.host = some host ∧ checkHost host = .ok () := by
  have hself : ∀ host, ((checkHost host).map fun _ => url) = .ok url ↔ checkHost host = .ok () := by
    intro host
    cases checkHost host with
    | error refusal => simp [Except.map]
    | ok passed => simp [Except.map]
  constructor
  · intro h
    obtain ⟨hparse, hweb⟩ : Url.parse text = .ok url ∧ isWebScheme url.scheme = true := by
      unfold checkUrl at h
      split at h
      · cases h
      · rename_i url' hparse
        split at h
        · cases h
        · rename_i hscheme
          have hweb : isWebScheme url'.scheme = true := by simpa using hscheme
          simp only [Bool.false_eq_true, if_false] at h
          split at h
          · exact Except.ok.inj h ▸ ⟨hparse, hweb⟩
          · rename_i host _
            cases hcheck : checkHostText host.text with
            | error refusal =>
              rw [hcheck] at h
              cases h
            | ok passed =>
              rw [hcheck] at h
              exact Except.ok.inj h ▸ ⟨hparse, hweb⟩
    obtain ⟨host, hhost, hcheck⟩ := checkUrl_eq_checkHost hparse hweb
    exact ⟨hparse, hweb, host, hhost, (hself host).mp (hcheck.symm.trans h)⟩
  · rintro ⟨hparse, hweb, host, hhost, hpassed⟩
    obtain ⟨host', hhost', hcheck⟩ := checkUrl_eq_checkHost hparse hweb
    obtain rfl := Option.some.inj (hhost.symm.trans hhost')
    rw [hcheck, hself, hpassed]

/-- A URL of the web with a host passes if its host does. -/
lemma checkUrl_eq_ok_iff_host {text : String} {url : Url} {host : Url.Host}
    (hparse : Url.parse text = .ok url) (hweb : isWebScheme url.scheme = true)
    (hhost : url.host = some host) :
    checkUrl text false = .ok url ↔ checkHost host = .ok () := by
  rw [checkUrl_eq_ok_iff]
  constructor
  · rintro ⟨-, -, host', hhost', hpassed⟩
    obtain rfl := Option.some.inj (hhost.symm.trans hhost')
    exact hpassed
  · intro hpassed
    exact ⟨hparse, hweb, host, hhost, hpassed⟩

/-! ## Names -/

/-- Whatever its case, the name is the usual one of the machine itself, or it is under a name that
is valid on the machine or in a private network only. -/
def IsInternalDomain (name : List Char) : Prop :=
  name.map Char.toLower = "localhost".toList ∨
    ∃ ending ∈ [".local".toList, ".internal".toList, ".localhost".toList],
      ending <:+ name.map Char.toLower

/-- The name without the full stop of the root at its end. -/
def rootless (name : List Char) : List Char :=
  if name.getLast? = some '.' then name.dropLast else name

/-- A name in small letters passes if it is not internal. -/
lemma checkHost_name_iff {name : List Char} (hname : Url.NoCapitals name) :
    checkHost (.name name) = .ok () ↔ ¬ IsInternalDomain name := by
  rw [checkHost_name, IsInternalDomain, hname.map_toLower, not_or]
  refine and_congr_right fun _ => ?_
  rw [internalEndings]
  push Not
  rfl

/-- A name that ends in a full stop is not internal as it stands, as no internal name does. -/
lemma not_isInternalDomain_of_root {name : List Char} (hroot : name.getLast? = some '.') :
    ¬ IsInternalDomain name := by
  have hlower : (name.map Char.toLower).getLast? = some '.' := by
    rw [List.getLast?_map, hroot]
    rfl
  rintro (hname | ⟨ending, hending, start, hname⟩)
  · rw [hname] at hlower
    cases hlower
  · have hlast : ∀ ending ∈ [".local".toList, ".internal".toList, ".localhost".toList],
        ending ≠ [] ∧ ending.getLast? ≠ some '.' := by
      decide
    obtain ⟨hne, hother⟩ := hlast ending hending
    rw [← hname, List.getLast?_append_of_ne_nil _ hne] at hlower
    exact hother hlower

/-- A URL of the web with a domain name passes if the name is not internal, or if it ends in the
full stop of the root: the full stop is not taken off before the name is looked at. -/
theorem checkUrl_domain {text : String} {url : Url} {name : List Char}
    (hparse : Url.parse text = .ok url) (hweb : isWebScheme url.scheme = true)
    (hname : url.host = some (.name name)) :
    checkUrl text false = .ok url ↔
      (IsInternalDomain (rootless name) → name.getLast? = some '.') := by
  obtain ⟨hspecial, hfile⟩ := isSpecial_of_isWebScheme hweb
  rw [checkUrl_eq_ok_iff_host hparse hweb hname,
    checkHost_name_iff (Url.isDomain_of_parse hparse hspecial hfile hname).noCapitals]
  by_cases hroot : name.getLast? = some '.'
  · simp only [hroot, implies_true, iff_true]
    exact not_isInternalDomain_of_root hroot
  · rw [rootless, if_neg hroot]
    simp only [hroot, imp_false]

/-- A name in capitals, under the ending of a private network. -/
theorem checkUrl_domain_capitals : ∃ url, Url.parse "http://PRINTER.Local/" = .ok url ∧
    checkUrl "http://PRINTER.Local/" false ≠ .ok url := by
  let url : Url :=
    ⟨"http".toList, [], [], some (.name "printer.local".toList), none, .segments [[]], none, none⟩
  have hparse : Url.parse "http://PRINTER.Local/" = .ok url := by with_unfolding_all rfl
  have hinternal : IsInternalDomain (rootless "printer.local".toList) := by
    refine Or.inr ⟨".local".toList, by decide, ?_⟩
    decide
  refine ⟨url, hparse, fun hpassed => ?_⟩
  have hroot := (checkUrl_domain hparse (by decide) rfl).mp hpassed hinternal
  exact absurd hroot (by decide)

/-- The usual name of the machine itself passes with the full stop of the root behind it. -/
theorem checkUrl_localhost_root : ∃ url, checkUrl "http://localhost./" false = .ok url ∧
    url.host = some (.name "localhost.".toList) ∧
    IsInternalDomain (rootless "localhost.".toList) := by
  let url : Url :=
    ⟨"http".toList, [], [], some (.name "localhost.".toList), none, .segments [[]], none, none⟩
  have hcheck : checkUrl "http://localhost./" false = .ok url := by with_unfolding_all rfl
  exact ⟨url, hcheck, rfl, Or.inl (by decide)⟩

end Dataflow.Http
