import Dataflow.Proofs.Decimal.Rounding

/-!
# Arithmetic with doubles

A finite double that is not negative holds its value, and infinity holds every number that is too
large for a double (`Holds`). Doubles are in the order of the numbers they hold (`Holds.le`). A
natural number becomes the double nearest to it (`holds_ofNat`), and a sum or a quotient of doubles
is the double nearest to the exact one (`holds_add`, `holds_div`).
-/

namespace Dataflow.Decimal

open Float.Model (Format UnpackedFloat)
open Float.Model.UnpackedFloat (Sign Accuracy ExtendedMantissa)

variable {x y : Float} {a b : UnpackedFloat} {v w : ℚ} {m n : ℕ} {e f : ℤ} {hm : 0 < m} {hn : 0 < n}

/-! ### The numbers that doubles hold -/

namespace Stores

/-- What is stored needs no rounding. -/
lemma nearest_eq (h : Stores a v) : nearest v = v := by
  cases h with
  | zero => exact nearest_zero
  | finite hm h => exact h.nearest_eq

/-- A double that stores a number is finite and has this value. -/
lemma isFinite_and_value (h : Stores x.toModel.unpack v) : x.isFinite = true ∧ value x = v := by
  change x.toModel.unpack.isFinite = true ∧ unpackedValue x.toModel.unpack = v
  generalize x.toModel.unpack = a at h
  cases h with
  | zero => exact ⟨rfl, rfl⟩
  | finite hm h => exact ⟨rfl, rfl⟩

end Stores

/-- The least number of 53 binary digits that is too large for a double. -/
def overflow : ℚ := (2 ^ 52 : ℕ) * 2 ^ (972 : ℤ)

lemma overflow_pos : 0 < overflow := by
  unfold overflow
  positivity

/-- The double holds the number: it is its value, or both are beyond the largest double. -/
inductive Holds (x : Float) (v : ℚ) : Prop
  | finite (stores : Stores x.toModel.unpack v) (fits : v < overflow)
  | infinite (unpack : x.toModel.unpack = .infinity .positive) (exceeds : overflow ≤ v)

/-- A small natural number is not too large for a double. -/
lemma natCast_lt_overflow (hlt : n < 2 ^ 53) : (n : ℚ) < overflow := by
  calc (n : ℚ) < (2 ^ 52 : ℕ) * 2 ^ (1 : ℤ) := by
        norm_num
        exact_mod_cast hlt
    _ ≤ overflow := by
        unfold overflow
        gcongr
        · norm_num
        · norm_num

/-- A double stores the number it holds if that is not too large. -/
lemma Holds.stores (h : Holds x v) (hlt : v < overflow) : Stores x.toModel.unpack v := by
  cases h with
  | finite stores _ => exact stores
  | infinite _ exceeds => exact absurd hlt (not_lt.mpr exceeds)

/-- Doubles are in the order of the numbers they hold. -/
lemma Holds.le (hx : Holds x v) (hy : Holds y w) (hle : v ≤ w) : x ≤ y := by
  cases hx with
  | finite hx _ =>
    obtain ⟨hfinite, hvalue⟩ := hx.isFinite_and_value
    cases hy with
    | finite hy _ =>
      obtain ⟨hfinite', hvalue'⟩ := hy.isFinite_and_value
      rw [le_iff_value hfinite hfinite', hvalue, hvalue']
      exact hle
    | infinite hy _ =>
      have hnumber : y.isNaN = false := by
        change y.toModel.unpack.isNaN = false
        rw [hy]
        rfl
      rw [le_iff_order (isNaN_of_isFinite hfinite) hnumber]
      change (x.toModel.unpack.compare y.toModel.unpack).getD .eq ≠ .gt
      rw [hy]
      generalize x.toModel.unpack = a at hx
      cases hx with
      | zero => nofun
      | finite hm h => nofun
  | infinite hx hexceeds =>
    cases hy with
    | finite _ hfits => exact absurd (hexceeds.trans hle) (not_le.mpr hfits)
    | infinite hy _ =>
      have hnumber : x.isNaN = false ∧ y.isNaN = false := by
        change x.toModel.unpack.isNaN = false ∧ y.toModel.unpack.isNaN = false
        rw [hx, hy]
        exact ⟨rfl, rfl⟩
      rw [le_iff_order hnumber.1 hnumber.2]
      change (x.toModel.unpack.compare y.toModel.unpack).getD .eq ≠ .gt
      rw [hx, hy]
      decide

/-! ### Packing -/

/-- The sign is unpacked as it was packed. -/
lemma unpackSign_packComponents {spec : Format} (s : Sign) (exponent : BitVec spec.exponentBits)
    (mantissa : BitVec spec.mantissaBitsWithoutImplicit) :
    Sign.ofBitVec (UnpackedFloat.unpackSign
      (UnpackedFloat.packComponents spec s exponent mantissa)) = s := by
  have hsign : UnpackedFloat.unpackSign
      (UnpackedFloat.packComponents spec s exponent mantissa) = s.toBitVec := by
    apply BitVec.eq_of_getLsbD_eq
    intro i hi
    obtain rfl : i = 0 := by omega
    simp [UnpackedFloat.unpackSign, UnpackedFloat.packComponents, BitVec.getLsbD_append,
      BitVec.getElem_append]
  rw [hsign]
  cases s <;> rfl

/-- A mantissa of full length is unpacked as it was packed: its leading bit is left out and put
back. -/
lemma unpack_pack_normal (h : Canonical m e) (hnormal : 2 ^ 52 ≤ m) (hle : e ≤ 971) :
    (Float.Model.pack (.finite .positive m e hm)).unpack = .finite .positive m e hm := by
  have hleast := h.least
  have hfits := h.fits
  have hbias : Format.binary64.exponentBias = 1023 := rfl
  have hbits : Format.binary64.mantissaBits = 53 := rfl
  obtain ⟨k, hk⟩ := Int.eq_ofNat_of_zero_le (show 0 ≤ e + 1075 by omega)
  have hbiased : (e + (1023 : ℕ) + (52 : ℕ)).toNat = k := by omega
  have hexponent : (BitVec.ofNat 11 k).toNat = k := by
    rw [BitVec.toNat_ofNat, Nat.mod_eq_of_lt (by omega)]
  have hlog : m.log2 = 52 := (Nat.log2_eq_iff hm.ne').mpr ⟨hnormal, h.fits⟩
  have hones : BitVec.ofNat 11 k ≠ -1#11 := by
    intro heq
    have hall : (-1#11).toNat = 2047 := rfl
    rw [← heq, hexponent] at hall
    omega
  have hzeros : BitVec.ofNat 11 k ≠ 0#11 := by
    intro heq
    have hnone : (0#11).toNat = 0 := rfl
    rw [← heq, hexponent] at hnone
    omega
  have hleading : (1#1 ++ BitVec.ofNat 52 m).toNat = m := by
    rw [BitVec.toNat_append, ← Nat.shiftLeft_add_eq_or_of_lt (BitVec.isLt _), BitVec.toNat_ofNat]
    change 1 <<< 52 + m % 2 ^ 52 = m
    omega
  change UnpackedFloat.unpack .binary64
    (UnpackedFloat.pack .binary64 (.finite .positive m e hm)) = _
  simp only [UnpackedFloat.pack, hbias, hbits, hbiased]
  rw [if_neg (by omega), if_pos (by omega)]
  unfold UnpackedFloat.unpack
  simp only [UnpackedFloat.unpackMantissa_packComponents,
    UnpackedFloat.unpackExponent_packComponents, unpackSign_packComponents, hones, hzeros,
    if_false, hleading, hexponent, hbias]
  congr 1
  omega

/-- A shorter mantissa, at the least exponent, is unpacked as it was packed. -/
lemma unpack_pack_subnormal (hlt : m < 2 ^ 52) :
    (Float.Model.pack (.finite .positive m (-1074) hm)).unpack =
      .finite .positive m (-1074) hm := by
  have hbits : Format.binary64.mantissaBits = 53 := rfl
  have hlog : m.log2 < 52 := (Nat.log2_lt hm.ne').mpr hlt
  have hsmall : (BitVec.ofNat 52 m).toNat = m := by
    rw [BitVec.toNat_ofNat, Nat.mod_eq_of_lt hlt]
  have hones : (0#11) ≠ -1#11 := by decide
  have hzeros : BitVec.ofNat 52 m ≠ 0#52 := by
    intro heq
    have hnone : (0#52).toNat = 0 := rfl
    rw [← heq, hsmall] at hnone
    omega
  have hexponent : ¬ 2 ^ Format.binary64.exponentBits ≤
      ((-1074 : ℤ) + Format.binary64.exponentBias +
        Format.binary64.mantissaBitsWithoutImplicit).toNat + 1 := by decide
  change UnpackedFloat.unpack .binary64
    (UnpackedFloat.pack .binary64 (.finite .positive m (-1074) hm)) = _
  simp only [UnpackedFloat.pack, hbits]
  rw [if_neg hexponent, if_neg (by omega)]
  unfold UnpackedFloat.unpack
  simp only [UnpackedFloat.unpackMantissa_packComponents,
    UnpackedFloat.unpackExponent_packComponents, unpackSign_packComponents, hones, hzeros,
    if_false, if_true, dif_neg, not_false_eq_true, hsmall]
  rfl

/-- A number in normal form that fits the exponents of doubles is unpacked as it was packed. -/
lemma unpack_pack (h : Canonical m e) (hle : e ≤ 971) :
    (Float.Model.pack (.finite .positive m e hm)).unpack = .finite .positive m e hm := by
  by_cases hnormal : 2 ^ 52 ≤ m
  · exact unpack_pack_normal h hnormal hle
  · obtain rfl : e = -1074 := h.normal.resolve_left hnormal
    exact unpack_pack_subnormal (not_le.mp hnormal)

/-- What has left the range of doubles is packed as infinity. -/
lemma unpack_pack_infinity :
    (Float.Model.pack (.infinity .positive)).unpack = .infinity .positive := rfl

/-- What is stored is held when it is packed. -/
lemma holds_pack (h : Stores a v) : Holds (Float.ofModel (Float.Model.pack a)) v := by
  cases h with
  | zero s =>
    have hunpack : (Float.Model.pack (.zero s)).unpack = .zero s := by
      cases s <;> rfl
    refine .finite ?_ overflow_pos
    change Stores (Float.Model.pack (.zero s)).unpack 0
    rw [hunpack]
    exact .zero s
  | @finite m e hm h =>
    rcases le_or_gt e 971 with hle | hgt
    · refine .finite ?_ ?_
      · change Stores (Float.Model.pack (.finite .positive m e hm)).unpack _
        rw [unpack_pack h hle]
        exact .finite hm h
      · calc (m : ℚ) * 2 ^ e < 2 ^ 53 * 2 ^ e := by
              gcongr
              exact_mod_cast h.fits
          _ = 2 ^ 52 * 2 ^ (e + 1) := carry_eq e
          _ ≤ 2 ^ 52 * 2 ^ (972 : ℤ) := by
              gcongr
              · norm_num
              · omega
          _ = overflow := by rw [overflow, Nat.cast_pow, Nat.cast_ofNat]
    · have hnormal : 2 ^ 52 ≤ m := h.normal.resolve_right (by omega)
      refine .infinite ?_ ?_
      · have hbias : Format.binary64.exponentBias = 1023 := rfl
        have hlarge : 2 ^ 11 ≤ (e + (1023 : ℕ) + (52 : ℕ)).toNat + 1 := by omega
        change UnpackedFloat.unpack .binary64
          (UnpackedFloat.pack .binary64 (.finite .positive m e hm)) = _
        simp only [UnpackedFloat.pack, hbias]
        rw [if_pos hlarge]
        exact unpack_pack_infinity
      · unfold overflow
        gcongr
        · norm_num
        · omega

/-! ### Rounded results -/

/-- An exact number with a mantissa of any length. -/
lemma locates_exact (m : ℕ) (e : ℤ) :
    Locates (.ofMantissaAndAccuracy m .exact) ((m : ℚ) * 2 ^ e / 2 ^ e) := by
  rw [mul_div_cancel_right₀ _ (by positivity)]
  rfl

/-- Binary places that are added to a mantissa are taken off the exponent. -/
lemma shiftLeft_mul (m k : ℕ) (e : ℤ) : ((m <<< k : ℕ) : ℚ) * 2 ^ e = m * 2 ^ (e + k) := by
  rw [Nat.shiftLeft_eq, zpow_add₀ two_ne_zero, zpow_natCast]
  push_cast
  ring

/-- They make it as long as they are meant to. -/
lemma le_shiftLeft {j k : ℕ} (hm : 0 < m) (hle : j ≤ m.log2 + k) : 2 ^ j ≤ m <<< k := by
  rw [Nat.shiftLeft_eq]
  calc 2 ^ j ≤ 2 ^ (m.log2 + k) := Nat.pow_le_pow_right two_pos hle
    _ = 2 ^ m.log2 * 2 ^ k := pow_add _ _ _
    _ ≤ m * 2 ^ k := Nat.mul_le_mul_right _ (Nat.log2_self_le hm.ne')

/-- Rounding an exact number, which may get more binary places before. -/
lemma stores_round (hm : 0 < m) (e : ℤ) :
    Stores (UnpackedFloat.round .binary64 .positive m e) (nearest (m * 2 ^ e)) := by
  simp only [UnpackedFloat.round, UnpackedFloat.decreaseExponent, targetExponent_eq]
  generalize hk : (e - max ((m.log2 : ℤ) + e - 52) (-1074)).toNat = k
  have hvalue : (m : ℚ) * 2 ^ e = (m <<< k : ℕ) * 2 ^ (e - k) := by
    rw [shiftLeft_mul, sub_add_cancel]
  have hlocates := locates_exact (m <<< k) (e - k)
  rw [← hvalue] at hlocates
  refine stores_roundWithAccuracy (by positivity) hlocates ?_
  rcases le_or_gt (e - k) (-1074) with hle | hgt
  · exact .inr hle
  · exact .inl (le_shiftLeft hm (by omega))

/-- A product of positive numbers whose mantissas have enough digits together. -/
lemma stores_mul (hdigits : 2 ^ 52 ≤ m * n ∨ e + f ≤ -1074) :
    Stores (UnpackedFloat.mul .binary64 (.finite .positive m e hm) (.finite .positive n f hn))
      (nearest (m * 2 ^ e * (n * 2 ^ f))) := by
  have hvalue : (m : ℚ) * 2 ^ e * (n * 2 ^ f) = (m * n : ℕ) * 2 ^ (e + f) := by
    rw [zpow_add₀ two_ne_zero, Nat.cast_mul]
    ring
  have hlocates := locates_exact (m * n) (e + f)
  rw [← hvalue] at hlocates
  exact stores_roundWithAccuracy (by positivity) hlocates hdigits

/-- A product with one. -/
lemma stores_mul_one (ha : Stores a v) :
    Stores (UnpackedFloat.mul .binary64 a (.finite .positive (2 ^ 52) (-52) (by decide))) v := by
  cases ha with
  | zero s => exact .zero _
  | @finite m e hm h =>
    have hone : ((2 ^ 52 : ℕ) : ℚ) * 2 ^ (-52 : ℤ) = 1 := by
      rw [zpow_neg]
      norm_num
    have hmul : Stores (UnpackedFloat.mul .binary64 (.finite .positive m e hm)
        (.finite .positive (2 ^ 52) (-52) (by decide)))
          (nearest (m * 2 ^ e * ((2 ^ 52 : ℕ) * 2 ^ (-52 : ℤ)))) :=
      stores_mul (.inl (Nat.le_mul_of_pos_left _ hm))
    rwa [hone, mul_one, h.nearest_eq] at hmul

/-- A sum of numbers. -/
lemma stores_add (ha : Stores a v) (hb : Stores b w) :
    Stores (UnpackedFloat.add .binary64 a b) (nearest (v + w)) := by
  cases ha with
  | zero s =>
    rw [zero_add, hb.nearest_eq]
    cases hb with
    | zero t => cases s <;> cases t <;> exact .zero _
    | finite hn hf => exact .finite hn hf
  | @finite m e hm h =>
    cases hb with
    | zero t =>
      rw [add_zero, h.nearest_eq]
      exact .finite hm h
    | @finite n f hn hf =>
      simp only [UnpackedFloat.add, UnpackedFloat.decreaseExponent, Sign.apply]
      generalize hk : (e - min e f).toNat = k
      generalize hl : (f - min e f).toNat = l
      have hsum : 0 < m <<< k + n <<< l := by
        rw [Nat.shiftLeft_eq]
        positivity
      have hvalue : (m : ℚ) * 2 ^ e + n * 2 ^ f = (m <<< k + n <<< l : ℕ) * 2 ^ min e f := by
        have hleft : min e f + k = e := by omega
        have hright : min e f + l = f := by omega
        rw [Nat.cast_add, add_mul, shiftLeft_mul, shiftLeft_mul, hleft, hright]
      have hpositive : compare (((m <<< k : ℕ) : ℤ) + (n <<< l : ℕ)) 0 = .gt := by
        rw [compare_gt_iff_gt]
        exact_mod_cast hsum
      have hnat : (((m <<< k : ℕ) : ℤ) + (n <<< l : ℕ)).toNat = m <<< k + n <<< l := by omega
      rw [UnpackedFloat.normalize, hpositive, hvalue]
      simp only [hnat]
      exact stores_round hsum _

/-- A quotient is located by its whole part and by the remainder. -/
lemma locates_div (hn : 0 < n) :
    Locates (.ofMantissaAndAccuracy (m / n) (UnpackedFloat.accuracyOfFraction (m % n) n))
      ((m : ℚ) / n) := by
  have hpos : (0 : ℚ) < n := Nat.cast_pos.mpr hn
  have hsplit : (m : ℚ) / n = (m / n : ℕ) + (m % n : ℕ) / n := by
    rw [div_eq_iff hpos.ne', add_mul, div_mul_cancel₀ _ hpos.ne']
    exact_mod_cast (Nat.div_add_mod' m n).symm
  have hlt : m % n < n := Nat.mod_lt m hn
  rw [hsplit, UnpackedFloat.accuracyOfFraction]
  split_ifs with hzero
  · rw [hzero, Nat.cast_zero, zero_div, add_zero]
    rfl
  · have hrest : (0 : ℚ) < (m % n : ℕ) / n :=
      div_pos (Nat.cast_pos.mpr (Nat.pos_of_ne_zero hzero)) hpos
    have hone : ((m % n : ℕ) : ℚ) / n < 1 := (div_lt_one hpos).mpr (Nat.cast_lt.mpr hlt)
    cases hcompare : compare (2 * (m % n)) n with
    | lt =>
      have hhalf : ((m % n : ℕ) : ℚ) / n < 1 / 2 := by
        rw [div_lt_div_iff₀ hpos two_pos]
        have h : 2 * (m % n) < n := compare_lt_iff_lt.mp hcompare
        exact_mod_cast (by omega : m % n * 2 < 1 * n)
      exact ⟨lt_add_of_pos_right _ hrest, (add_lt_add_iff_left _).mpr hhalf⟩
    | eq =>
      have hhalf : ((m % n : ℕ) : ℚ) / n = 1 / 2 := by
        rw [div_eq_div_iff hpos.ne' two_ne_zero]
        have h : 2 * (m % n) = n := compare_eq_iff_eq.mp hcompare
        exact_mod_cast (by omega : m % n * 2 = 1 * n)
      rw [hhalf]
      rfl
    | gt =>
      have hhalf : 1 / 2 < ((m % n : ℕ) : ℚ) / n := by
        rw [div_lt_div_iff₀ two_pos hpos]
        have h : n < 2 * (m % n) := compare_gt_iff_gt.mp hcompare
        exact_mod_cast (by omega : 1 * n < m % n * 2)
      exact ⟨(add_lt_add_iff_left _).mpr hhalf, (add_lt_add_iff_left _).mpr hone⟩

/-- A quotient of positive numbers in normal form. -/
lemma stores_div (ha : Stores a v) (hb : Stores b w) (hw : 0 < w) :
    Stores (UnpackedFloat.div .binary64 a b) (nearest (v / w)) := by
  cases hb with
  | zero => exact absurd hw (lt_irrefl 0)
  | @finite n f hn hf =>
    cases ha with
    | zero s =>
      rw [zero_div, nearest_zero]
      exact .zero _
    | @finite m e hm h =>
      simp only [UnpackedFloat.div, UnpackedFloat.divCore]
      generalize ht : min (e - f) (Format.binary64.targetExponent
        (Float.Model.totalExponent m e - Float.Model.totalExponent n f)) = t
      have htarget : t ≤ e - f ∧
          (t ≤ -1074 ∨ t ≤ (m.log2 : ℤ) + e - ((n.log2 : ℤ) + f) - 53) := by
        simp only [Format.targetExponent, Float.Model.totalExponent, Format.mantissaBits,
          Format.minExponent] at ht
        norm_num at ht
        omega
      generalize hk : (e - f - t).toNat = k
      have hvalue : (m : ℚ) * 2 ^ e / (n * 2 ^ f) / 2 ^ t = (m <<< k : ℕ) / n := by
        have hexponent : e = f + t + k := by omega
        rw [hexponent, Nat.shiftLeft_eq, zpow_add₀ two_ne_zero, zpow_add₀ two_ne_zero, zpow_natCast]
        push_cast
        field_simp
      have hlocates := locates_div (m := m <<< k) hn
      rw [← hvalue] at hlocates
      refine stores_roundWithAccuracy (by positivity) hlocates ?_
      rcases htarget.2 with hleast | hdigits
      · exact .inr hleast
      · refine .inl ((Nat.le_div_iff_mul_le hn).mpr ?_)
        calc 2 ^ 52 * n ≤ 2 ^ 52 * 2 ^ (n.log2 + 1) :=
              Nat.mul_le_mul_left _ Nat.lt_log2_self.le
          _ = 2 ^ (52 + (n.log2 + 1)) := (pow_add _ _ _).symm
          _ ≤ m <<< k := le_shiftLeft hm (by omega)

/-! ### Operations -/

lemma nearest_overflow : nearest overflow = overflow := by
  have hcanonical : Canonical (2 ^ 52) 972 := ⟨by norm_num, by norm_num, .inl le_rfl⟩
  exact hcanonical.nearest_eq

/-- A sum of doubles is the double nearest to the sum. -/
lemma holds_add (hx : Holds x v) (hy : Holds y w) (hv : 0 ≤ v) (hw : 0 ≤ w) :
    Holds (x + y) (nearest (v + w)) := by
  have hunpack : x + y = Float.ofModel (Float.Model.pack
      (UnpackedFloat.add .binary64 x.toModel.unpack y.toModel.unpack)) := rfl
  have hinfinite (hsum : UnpackedFloat.add .binary64 x.toModel.unpack y.toModel.unpack =
      .infinity .positive) (hle : overflow ≤ v + w) : Holds (x + y) (nearest (v + w)) := by
    refine .infinite ?_ ?_
    · rw [hunpack, hsum]
      exact unpack_pack_infinity
    · rw [← nearest_overflow]
      exact nearest_mono overflow_pos.le hle
  cases hx with
  | finite hx hfits =>
    cases hy with
    | finite hy hfits' =>
      rw [hunpack]
      exact holds_pack (stores_add hx hy)
    | infinite hy hexceeds =>
      refine hinfinite ?_ (hexceeds.trans (le_add_of_nonneg_left hv))
      rw [hy]
      generalize x.toModel.unpack = a at hx
      cases hx with
      | zero => rfl
      | finite => rfl
  | infinite hx hexceeds =>
    refine hinfinite ?_ (hexceeds.trans (le_add_of_nonneg_right hw))
    rw [hx]
    cases hy with
    | finite hy _ =>
      generalize y.toModel.unpack = b at hy
      cases hy with
      | zero => rfl
      | finite => rfl
    | infinite hy _ =>
      rw [hy]
      rfl

/-- A quotient of finite doubles is the double nearest to the quotient. -/
lemma holds_div (hx : Stores x.toModel.unpack v) (hy : Stores y.toModel.unpack w) (hw : 0 < w) :
    Holds (x / y) (nearest (v / w)) := by
  have hunpack : x / y = Float.ofModel (Float.Model.pack
      (UnpackedFloat.div .binary64 x.toModel.unpack y.toModel.unpack)) := rfl
  rw [hunpack]
  exact holds_pack (stores_div hx hy hw)

/-- A word becomes the double nearest to it. -/
lemma stores_ofUInt64 (n : UInt64) :
    Stores (UnpackedFloat.ofUInt64 .binary64 n) (nearest n.toNat) := by
  unfold UnpackedFloat.ofUInt64 UnpackedFloat.ofNat UnpackedFloat.ofInt UnpackedFloat.normalize
  rcases Nat.eq_zero_or_pos n.toNat with hzero | hpos
  · have hnearest : nearest (n.toNat : ℚ) = 0 := by rw [hzero, Nat.cast_zero, nearest_zero]
    rw [hnearest, hzero]
    exact .zero _
  · have hcompare : compare (n.toNat : ℤ) 0 = .gt := by
      rw [compare_gt_iff_gt]
      exact_mod_cast hpos
    rw [hcompare]
    have hround := stores_round hpos 0
    rw [zpow_zero, mul_one] at hround
    exact hround

/-- A natural number of at most 53 binary digits needs no rounding. -/
lemma nearest_natCast (hlt : n < 2 ^ 53) : nearest n = n := by
  have hplace : place n ≤ 0 := by
    have hlog : Nat.log 2 n < 53 := by
      rcases Nat.eq_zero_or_pos n with rfl | hn
      · norm_num
      · exact Nat.log_lt_of_lt_pow hn.ne' hlt
    rw [place, Int.log_natCast]
    omega
  obtain ⟨k, hk⟩ := Int.eq_ofNat_of_zero_le (neg_nonneg.mpr hplace)
  have hscaled : (n : ℚ) / 2 ^ place n = (n * 2 ^ k : ℕ) := by
    rw [div_eq_mul_inv, ← zpow_neg, hk]
    push_cast
    rw [zpow_natCast]
  rw [nearest, hscaled, roundEven_natCast, ← hscaled, div_mul_cancel₀ _ (by positivity)]

/-- A natural number becomes the double nearest to it. -/
lemma holds_ofNat (n : ℕ) : Holds (Float.ofNat n) (nearest n) := by
  change Holds (Float.ofScientific n false 0) _
  unfold Float.ofScientific
  split
  · rename_i hsmall
    -- a small integer is multiplied by one
    have hone : (Float.Model.ofBits 0x3FF0000000000000).unpack =
        .finite .positive (2 ^ 52) (-52) (by decide) := rfl
    have hnat : n.toUInt64.toNat = n := UInt64.toNat_ofNat_of_lt' (by
      have hsize : UInt64.size = 2 ^ 64 := rfl
      omega)
    have hword := stores_ofUInt64 n.toUInt64
    rw [hnat, nearest_natCast hsmall.1] at hword
    have hstores := (holds_pack hword).stores (natCast_lt_overflow hsmall.1)
    rw [nearest_natCast hsmall.1]
    change Holds (Float.ofModel (Float.Model.pack (UnpackedFloat.mul .binary64
      n.toUInt64.toFloat.toModel.unpack (Float.Model.ofBits 0x3FF0000000000000).unpack))) _
    rw [hone]
    exact holds_pack (stores_mul_one hstores)
  · rename_i hlarge
    have hn : 2 ^ 53 ≤ n := by omega
    have hshift : 0 < n <<< 53 := by
      rw [Nat.shiftLeft_eq]
      positivity
    have hmul : Stores (UnpackedFloat.mul .binary64 (.finite .positive (n <<< 53) (-53) hshift)
        (.finite .positive 1 0 one_pos)) (nearest n) := by
      have hvalue : (n : ℚ) = (n <<< 53 : ℕ) * 2 ^ (-53 : ℤ) * ((1 : ℕ) * 2 ^ (0 : ℤ)) := by
        rw [shiftLeft_mul]
        norm_num
      rw [hvalue]
      refine stores_mul (.inl ?_)
      rw [Nat.shiftLeft_eq]
      omega
    refine holds_pack ?_
    unfold UnpackedFloat.ofScientific
    rw [dif_neg (by omega), if_neg (by norm_num), if_neg (by norm_num), if_pos (by norm_num)]
    exact hmul

end Dataflow.Decimal
