import Dataflow.Url.Ipv6
import Mathlib

/-!
# Blocks of addresses

An address is a number of 32 or of 128 bits, and a block holds the addresses that start with given
bits (`Block.Contains`). The internal addresses are those of the machine itself and of networks that
are not public; of the IPv4 addresses they are given by a list of blocks (`Ipv4.internalBlocks`),
and an IPv6 address that maps one of these is internal, too (`Ipv6.IsInternal`).
-/

namespace Dataflow.Url

/-- A block of addresses: those that start with the first `length` bits of `base`. -/
structure Block (width : ℕ) where
  base : BitVec width
  length : ℕ

namespace Block

variable {width : ℕ}

/-- The address starts with the bits of the block. -/
def Contains (b : Block width) (a : BitVec width) : Prop :=
  a >>> (width - b.length) = b.base >>> (width - b.length)

instance (b : Block width) : DecidablePred b.Contains :=
  fun _ => inferInstanceAs (Decidable (_ = _))

/-- The addresses of a block have the same quotient by the size of the block. -/
lemma contains_iff {b : Block width} {a : BitVec width} :
    b.Contains a ↔ a.toNat / 2 ^ (width - b.length) = b.base.toNat / 2 ^ (width - b.length) := by
  rw [Contains, ← BitVec.toNat_inj, BitVec.toNat_ushiftRight, BitVec.toNat_ushiftRight,
    Nat.shiftRight_eq_div_pow, Nat.shiftRight_eq_div_pow]

end Block

/-! ## IPv4 -/

namespace Ipv4

/-- The blocks of the addresses that are not public: the machine itself, private networks, a single
link, and the networks behind a carrier; none and all. -/
def internalBlocks : List (Block 32) := [
  ⟨ofOctets 127 0 0 0, 8⟩,
  ⟨ofOctets 10 0 0 0, 8⟩,
  ⟨ofOctets 172 16 0 0, 12⟩,
  ⟨ofOctets 192 168 0 0, 16⟩,
  ⟨ofOctets 169 254 0 0, 16⟩,
  ⟨ofOctets 100 64 0 0, 10⟩,
  ⟨ofOctets 0 0 0 0, 32⟩,
  ⟨ofOctets 255 255 255 255, 32⟩]

/-- The address is not public. -/
def IsInternal (a : Ipv4) : Prop := ∃ b ∈ internalBlocks, b.Contains a

end Ipv4

/-! ## IPv6 -/

namespace Ipv6

/-- The address as one number. -/
def value (a : Ipv6) : BitVec 128 :=
  BitVec.ofNat 128 (a.pieces.foldl (fun n piece => n * 0x10000 + piece.toNat) 0)

/-- The address that maps an IPv4 address. -/
def ofIpv4 (v4 : Ipv4) : Ipv6 :=
  ⟨[0, 0, 0, 0, 0, 0xFFFF, .ofNat 16 (v4.toNat / 0x10000), .ofNat 16 v4.toNat], rfl⟩

/-- The addresses of a single link, fe80::/10. -/
def linkLocal : Block 128 := ⟨BitVec.ofNat 128 (0xFE80 * 2 ^ 112), 10⟩

/-- The addresses of private networks, fc00::/7. -/
def uniqueLocal : Block 128 := ⟨BitVec.ofNat 128 (0xFC00 * 2 ^ 112), 7⟩

/-- The address is not public. -/
inductive IsInternal (a : Ipv6) : Prop
  | loopback (h : a.value = 1)
  | unspecified (h : a.value = 0)
  | ofLink (h : linkLocal.Contains a.value)
  | ofNetwork (h : uniqueLocal.Contains a.value)
  | mapped (v4 : Ipv4) (h : a = ofIpv4 v4) (hinternal : v4.IsInternal)

/-- An address as its eight pieces. -/
lemma exists_pieces (a : Ipv6) : ∃ p0 p1 p2 p3 p4 p5 p6 p7 : BitVec 16,
    a.pieces = [p0, p1, p2, p3, p4, p5, p6, p7] := by
  obtain ⟨pieces, hlength⟩ := a
  match pieces, hlength with
  | [p0, p1, p2, p3, p4, p5, p6, p7], _ => exact ⟨p0, p1, p2, p3, p4, p5, p6, p7, rfl⟩

/-- The number of an address is written by its pieces. -/
lemma toNat_value {a : Ipv6} {p0 p1 p2 p3 p4 p5 p6 p7 : BitVec 16}
    (ha : a.pieces = [p0, p1, p2, p3, p4, p5, p6, p7]) :
    a.value.toNat = p0.toNat * 2 ^ 112 + p1.toNat * 2 ^ 96 + p2.toNat * 2 ^ 80 +
      p3.toNat * 2 ^ 64 + p4.toNat * 2 ^ 48 + p5.toNat * 2 ^ 32 + p6.toNat * 2 ^ 16 +
      p7.toNat := by
  rw [value, ha, BitVec.toNat_ofNat]
  simp only [List.foldl_cons, List.foldl_nil]
  omega

/-- An address is known by its pieces. -/
lemma eq_of_pieces {a a' : Ipv6} (h : a.pieces = a'.pieces) : a = a' := by
  cases a
  cases a'
  congr

/-- An address that maps an IPv4 address is the one that the latter stands for. -/
lemma mapped?_eq_some_iff {a : Ipv6} {v4 : Ipv4} : a.mapped? = some v4 ↔ a = ofIpv4 v4 := by
  constructor
  · intro hmapped
    unfold mapped? at hmapped
    split at hmapped
    · rename_i high low hpieces
      obtain rfl := Option.some.inj hmapped
      obtain ⟨p0, p1, p2, p3, p4, p5, p6, p7, ha⟩ := a.exists_pieces
      have h6 := p6.isLt
      have h7 := p7.isLt
      rw [ha] at hpieces
      simp only [List.map_cons, List.map_nil, List.cons.injEq, and_true] at hpieces
      obtain ⟨hp0, hp1, hp2, hp3, hp4, hp5, rfl, rfl⟩ := hpieces
      refine eq_of_pieces ?_
      rw [ha, ofIpv4]
      simp only [List.cons.injEq, and_true, ← BitVec.toNat_inj, BitVec.toNat_ofNat,
        BitVec.ofNat_eq_ofNat]
      omega
    · cases hmapped
  · rintro rfl
    have hpieces : (ofIpv4 v4).pieces.map BitVec.toNat =
        [0, 0, 0, 0, 0, 0xFFFF, v4.toNat / 0x10000, v4.toNat % 0x10000] := by
      have hlt := v4.isLt
      simp only [ofIpv4, List.map_cons, List.map_nil, BitVec.toNat_ofNat, BitVec.ofNat_eq_ofNat,
        List.cons.injEq, and_true, true_and]
      omega
    unfold mapped?
    rw [hpieces]
    simp only
    rw [Nat.div_add_mod', BitVec.ofNat_toNat, BitVec.setWidth_eq]

/-- The addresses that map others are the last of those with 48 bits. -/
lemma toNat_value_ofIpv4 (v4 : Ipv4) : (ofIpv4 v4).value.toNat = 0xFFFF * 2 ^ 32 + v4.toNat := by
  have hlt := v4.isLt
  have hpieces : (ofIpv4 v4).pieces =
      [0, 0, 0, 0, 0, 0xFFFF, .ofNat 16 (v4.toNat / 0x10000), .ofNat 16 v4.toNat] := rfl
  rw [toNat_value hpieces]
  simp only [BitVec.toNat_ofNat, BitVec.ofNat_eq_ofNat]
  omega

/-- The addresses of a single link and those of private networks have their first bit set. -/
lemma le_value_of_contains {a : Ipv6}
    (h : linkLocal.Contains a.value ∨ uniqueLocal.Contains a.value) :
    2 ^ 127 ≤ a.value.toNat := by
  rcases h with h | h
  · rw [Block.contains_iff] at h
    simp only [linkLocal, BitVec.toNat_ofNat] at h
    omega
  · rw [Block.contains_iff] at h
    simp only [uniqueLocal, BitVec.toNat_ofNat] at h
    omega

end Ipv6

end Dataflow.Url
