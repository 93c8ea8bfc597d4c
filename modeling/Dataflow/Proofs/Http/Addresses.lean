import Dataflow.Proofs.Http.Guard
import Dataflow.Proofs.Url.HostAddress

/-!
# The guard on IPv4 addresses

Whatever the spelling of an IPv4 address is in a URL, the guard lets the URL through if the address
is not internal, and only then; and it lets through no URL of another scheme than those of the web
(`checkUrl_ipv4`). An address that is mapped to IPv6 counts as the address itself.
-/

namespace Dataflow.Http

open Url (Ipv4 Ipv6 Host)

variable {a : Ipv4}

/-- An IPv4 address passes if it is not internal; the machine's own address is. -/
lemma checkHost_ipv4 : checkHost (.ipv4 a) = .ok () ↔ ¬ a.IsInternal := by
  rw [checkHost_eq_ok_iff, ← isPrivateIpv4_iff, Bool.not_eq_true]
  constructor
  · rintro ⟨-, hprivate, -⟩
    exact hprivate
  · intro hprivate
    refine ⟨Bool.eq_false_iff.mpr fun hlocal => ?_, hprivate, rfl⟩
    rw [isLocalHost, Bool.or_eq_true, beq_iff_eq, beq_iff_eq] at hlocal
    rcases hlocal with hoctets | hoctets
    · simp [isPrivateIpv4, hoctets] at hprivate
    · have hzero : a.toNat = 0 := by
        simp only [Ipv4.octets, List.cons.injEq, and_true] at hoctets
        omega
      simp [isPrivateIpv4, hoctets, hzero] at hprivate

/-- The address that maps an IPv4 address passes if the latter is not internal. -/
lemma checkHost_mapped : checkHost (.ipv6 (.ofIpv4 a)) = .ok () ↔ ¬ a.IsInternal := by
  have hvalue := Ipv6.toNat_value_ofIpv4 a
  rw [checkHost_ipv6, ← Bool.not_eq_true, isPrivateIpv6_iff]
  refine not_congr ⟨?_, fun h => .inr (.inr ⟨a, rfl, h⟩)⟩
  rintro (h | h | ⟨v4, h, hinternal⟩)
  · have hone : (1 : BitVec 128).toNat = 1 := rfl
    rw [h] at hvalue
    omega
  · have hzero : (0 : BitVec 128).toNat = 0 := rfl
    rw [h] at hvalue
    omega
  · have hmapped := (Ipv6.mapped?_eq_some_iff.mpr rfl).symm.trans (Ipv6.mapped?_eq_some_iff.mpr h)
    exact Option.some.inj hmapped ▸ hinternal

/-- A URL of the web whose host denotes an IPv4 address, in whatever spelling or mapped to IPv6,
passes if the address is not internal, and only then. A URL of another scheme does not pass, even if
internal addresses are allowed. -/
theorem checkUrl_ipv4 {text : String} {url : Url} (hparse : Url.parse text = .ok url) :
    (isWebScheme url.scheme = true → ∀ a, Host.Denotes (Url.hostText text.toList) a →
      (checkUrl text false = .ok url ↔ ¬ a.IsInternal)) ∧
    (isWebScheme url.scheme = false → ∀ allowInternal,
      checkUrl text allowInternal = .error (.badScheme (String.ofList url.scheme))) := by
  refine ⟨fun hweb a ha => ?_, fun hother allowInternal => ?_⟩
  · obtain ⟨hspecial, hfile⟩ := isSpecial_of_isWebScheme hweb
    obtain ⟨host, hread, hhost⟩ := Url.parse_hostText hparse hspecial hfile
    rw [checkUrl_eq_ok_iff_host hparse hweb hhost]
    rcases Host.denotes_iff.mp ha with h | h
    · obtain rfl := Except.ok.inj (hread.symm.trans h)
      exact checkHost_ipv4
    · obtain rfl := Except.ok.inj (hread.symm.trans h)
      exact checkHost_mapped
  · rw [checkUrl, hparse]
    simp [hother]

/-- The address of the machine itself, with a hexadecimal number for its first byte and an octal one
for the others, and behind a name that looks like another host. -/
theorem checkUrl_ipv4_hidden : ∃ url, Url.parse "http://8.8.8.8@0x7F.01:80/" = .ok url ∧
    Host.Denotes (Url.hostText "http://8.8.8.8@0x7F.01:80/".toList) (.ofOctets 127 0 0 1) ∧
    checkUrl "http://8.8.8.8@0x7F.01:80/" false ≠ .ok url := by
  let url : Url := ⟨"http".toList, "8.8.8.8".toList, [], some (.ipv4 (.ofOctets 127 0 0 1)), none,
    .segments [[]], none, none⟩
  have hparse : Url.parse "http://8.8.8.8@0x7F.01:80/" = .ok url := by with_unfolding_all rfl
  have hspells : Ipv4.Spells "0x7F.01".toList (.ofOctets 127 0 0 1) :=
    Ipv4.parse?_eq_some_iff.mp (by with_unfolding_all rfl)
  have hhost : Url.hostText "http://8.8.8.8@0x7F.01:80/".toList = "0x7F.01".toList := by
    with_unfolding_all rfl
  have hdenotes := hhost ▸ Host.Denotes.spelled hspells
  have hinternal : (Ipv4.ofOctets 127 0 0 1).IsInternal := ⟨_, List.mem_cons_self, by decide⟩
  refine ⟨url, hparse, hdenotes, fun hpassed => ?_⟩
  exact ((checkUrl_ipv4 hparse).1 (by decide) _ hdenotes).mp hpassed hinternal

end Dataflow.Http
