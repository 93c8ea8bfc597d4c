import Dataflow.Decimal.Fixed
import Dataflow.Proofs.Decimal.Order

/-!
# The numbers that doubles stand for

A finite double stands for its mantissa times a power of two (`value`). Mantissa and exponent are
those that its bits hold, and they are in a normal form (`Dyadic.ofFloat_of_finite`), so the order
of finite doubles is that of the numbers (`lt_iff_value`, `le_iff_value`). An infinite double stands
on one side of all of them (`infinite_cases`). Truncating a double to a word leaves the whole part
of the number (`toNat_toUInt64`), and rounding it to decimal places does not pass a whole bound
(`Dyadic.scaledRound_le`).
-/

namespace Dataflow.Decimal

open Float.Model (Format UnpackedFloat)
open Float.Model.UnpackedFloat (Sign)

variable {x y : Float} {s : Sign} {m n : ℕ} {e f : ℤ} {hm : 0 < m}

/-! ### The value of a double -/

/-- The number that an unpacked double stands for, if it is finite. -/
def unpackedValue : UnpackedFloat → ℚ
  | .finite sign mantissa exponent _ => sign.apply mantissa * 2 ^ exponent
  | _ => 0

/-- The number that a double stands for, if it is finite. -/
def value (x : Float) : ℚ := unpackedValue x.toModel.unpack

lemma unpackedValue_positive : unpackedValue (.finite .positive m e hm) = m * 2 ^ e := rfl

lemma unpackedValue_negative : unpackedValue (.finite .negative m e hm) = -(m * 2 ^ e) := by
  rw [unpackedValue, Sign.apply, Int.cast_neg, neg_mul]
  rfl

/-- A finite double is a zero, or it has a mantissa and an exponent. -/
lemma finite_cases (hx : x.isFinite = true) :
    (∃ s, x.toModel.unpack = .zero s) ∨ ∃ s m e hm, x.toModel.unpack = .finite s m e hm := by
  change x.toModel.unpack.isFinite = true at hx
  cases h : x.toModel.unpack with
  | zero s => exact .inl ⟨s, rfl⟩
  | finite s m e hm => exact .inr ⟨s, m, e, hm, rfl⟩
  | infinity s =>
    rw [h] at hx
    cases hx
  | notANumber =>
    rw [h] at hx
    cases hx

/-! ### The bits of a double -/

/-- The mantissa and the exponent are in normal form: the mantissa fits 53 bits, and it needs all of
them unless the exponent is the least there is. -/
structure Canonical (m : ℕ) (e : ℤ) : Prop where
  fits : m < 2 ^ 53
  least : -1074 ≤ e
  normal : 2 ^ 52 ≤ m ∨ e = -1074

/-- What is read off the bits of a double are its exponent field and its mantissa field. -/
lemma Dyadic.ofFloat_fields (x : Float) :
    let biased := (@UnpackedFloat.unpackExponent .binary64 x.toBits.toBitVec).toNat
    let fraction := (@UnpackedFloat.unpackMantissa .binary64 x.toBits.toBitVec).toNat
    (Dyadic.ofFloat x).mantissa = (if biased = 0 then fraction else fraction + 2 ^ 52) ∧
      (Dyadic.ofFloat x).exponent = if biased = 0 then -1074 else (biased : ℤ) - 1075 := by
  intro biased fraction
  have hbiased : biased = x.toBits.toNat / 0x10000000000000 % 0x800 := by
    simp only [biased, UnpackedFloat.unpackExponent, BitVec.toNat_cast, BitVec.extractLsb_toNat,
      Nat.shiftRight_eq_div_pow]
    rfl
  have hfraction : fraction = x.toBits.toNat % 0x10000000000000 := by
    simp only [fraction, UnpackedFloat.unpackMantissa, BitVec.toNat_cast, BitVec.extractLsb_toNat,
      Nat.shiftRight_eq_div_pow, Nat.pow_zero, Nat.div_one]
    rfl
  rw [hbiased, hfraction]
  simp only [Dyadic.ofFloat, beq_iff_eq]
  exact ⟨rfl, rfl⟩

/-- The bits of a zero hold the mantissa zero. -/
lemma Dyadic.ofFloat_of_zero (hx : x.toModel.unpack = .zero s) :
    (Dyadic.ofFloat x).mantissa = 0 := by
  obtain ⟨hmantissa, -⟩ := Dyadic.ofFloat_fields x
  change UnpackedFloat.unpack .binary64 x.toBits.toBitVec = _ at hx
  unfold UnpackedFloat.unpack at hx
  simp only at hx
  split at hx
  · split at hx <;> cases hx
  · split at hx
    · rename_i hexponent
      split at hx
      · rename_i hfraction
        rw [hmantissa, hexponent, hfraction]
        rfl
      · cases hx
    · cases hx

/-- The bits of any other finite double hold its mantissa and its exponent, in normal form. -/
lemma Dyadic.ofFloat_of_finite (hx : x.toModel.unpack = .finite s m e hm) :
    (Dyadic.ofFloat x).mantissa = m ∧ (Dyadic.ofFloat x).exponent = e ∧ Canonical m e := by
  obtain ⟨hmantissa, hexponent⟩ := Dyadic.ofFloat_fields x
  have hfraction : (@UnpackedFloat.unpackMantissa .binary64 x.toBits.toBitVec).toNat <
      2 ^ 52 := BitVec.isLt _
  change UnpackedFloat.unpack .binary64 x.toBits.toBitVec = _ at hx
  unfold UnpackedFloat.unpack at hx
  simp only at hx
  split at hx
  · split at hx <;> cases hx
  · split at hx
    · rename_i hzero
      split at hx
      · cases hx
      · obtain ⟨-, rfl, rfl⟩ := UnpackedFloat.finite.inj hx
        rw [hzero] at hmantissa hexponent
        rw [hmantissa, hexponent, hzero]
        exact ⟨rfl, rfl, hfraction.trans (by decide), by decide, .inr rfl⟩
    · rename_i hnonzero
      obtain ⟨-, rfl, rfl⟩ := UnpackedFloat.finite.inj hx
      have hbiased : (@UnpackedFloat.unpackExponent .binary64 x.toBits.toBitVec).toNat ≠
          0 := fun h => hnonzero (BitVec.eq_of_toNat_eq h)
      rw [if_neg hbiased] at hmantissa hexponent
      -- the leading bit of the mantissa is not among the bits of the double
      have hleading : (1#1 ++ @UnpackedFloat.unpackMantissa .binary64
          x.toBits.toBitVec).toNat = (@UnpackedFloat.unpackMantissa .binary64
            x.toBits.toBitVec).toNat + 2 ^ 52 := by
        rw [BitVec.toNat_append, ← Nat.shiftLeft_add_eq_or_of_lt (BitVec.isLt _), Nat.add_comm]
        rfl
      rw [hmantissa, hexponent]
      refine ⟨hleading.symm, rfl, ?_, ?_, .inl ?_⟩
      · rw [hleading]
        omega
      · change (-1074 : ℤ) ≤ _ - (1023 + 52)
        omega
      · rw [hleading]
        exact Nat.le_add_left _ _

/-- What is read off the bits of a finite double is the magnitude of its value. -/
lemma Dyadic.ofFloat_eq_abs_value (hx : x.isFinite = true) :
    ((Dyadic.ofFloat x).mantissa : ℚ) * 2 ^ (Dyadic.ofFloat x).exponent = |value x| := by
  rcases finite_cases hx with ⟨s, hzero⟩ | ⟨s, m, e, hm, hfinite⟩
  · rw [Dyadic.ofFloat_of_zero hzero, value, hzero, Nat.cast_zero, zero_mul]
    rfl
  · obtain ⟨hmantissa, hexponent, -⟩ := Dyadic.ofFloat_of_finite hfinite
    have hpos : (0 : ℚ) < m * 2 ^ e := by positivity
    rw [hmantissa, hexponent, value, hfinite]
    cases s with
    | positive => rw [unpackedValue_positive, abs_of_pos hpos]
    | negative => rw [unpackedValue_negative, abs_neg, abs_of_pos hpos]

/-! ### The order of values -/

namespace Canonical

/-- In normal form the greater exponent belongs to the greater number. -/
lemma lt_of_exponent_lt (hm : Canonical m e) (hn : Canonical n f) (hlt : e < f) :
    (m : ℚ) * 2 ^ e < n * 2 ^ f := by
  have hleast := hm.least
  have hnormal : 2 ^ 52 ≤ n := hn.normal.resolve_right (by omega)
  calc (m : ℚ) * 2 ^ e < 2 ^ 53 * 2 ^ e := by
        gcongr
        exact_mod_cast hm.fits
    _ = 2 ^ 52 * 2 ^ (e + 1) := by
        rw [zpow_add_one₀ two_ne_zero]
        ring
    _ ≤ 2 ^ 52 * 2 ^ f := by
        gcongr
        · norm_num
        · omega
    _ ≤ n * 2 ^ f := by
        gcongr
        exact_mod_cast hnormal

/-- Numbers in normal form compare by their exponents first and by their mantissas then. -/
lemma compare_eq (hm : Canonical m e) (hn : Canonical n f) :
    (compare e f).then (compare m n) = compare ((m : ℚ) * 2 ^ e) (n * 2 ^ f) := by
  rcases lt_trichotomy e f with hlt | rfl | hgt
  · rw [compare_lt_iff_lt.mpr hlt, compare_lt_iff_lt.mpr (hm.lt_of_exponent_lt hn hlt)]
    rfl
  · have hscale : (0 : ℚ) < 2 ^ e := by positivity
    rw [compare_eq_iff_eq.mpr rfl, Ordering.then]
    rcases lt_trichotomy m n with hlt | rfl | hgt
    · rw [compare_lt_iff_lt.mpr hlt, compare_lt_iff_lt.mpr]
      exact mul_lt_mul_of_pos_right (Nat.cast_lt.mpr hlt) hscale
    · rw [compare_eq_iff_eq.mpr rfl, compare_eq_iff_eq.mpr rfl]
    · rw [compare_gt_iff_gt.mpr hgt, compare_gt_iff_gt.mpr]
      exact mul_lt_mul_of_pos_right (Nat.cast_lt.mpr hgt) hscale
  · rw [compare_gt_iff_gt.mpr hgt, compare_gt_iff_gt.mpr (hn.lt_of_exponent_lt hm hgt)]
    rfl

end Canonical

/-- Negated, two numbers compare the other way. -/
lemma compare_neg_neg (a b : ℚ) : compare (-a) (-b) = (compare a b).swap := by
  rcases lt_trichotomy a b with hlt | rfl | hgt
  · rw [compare_lt_iff_lt.mpr hlt, compare_gt_iff_gt.mpr (neg_lt_neg hlt)]
    rfl
  · rw [compare_eq_iff_eq.mpr rfl, compare_eq_iff_eq.mpr rfl]
    rfl
  · rw [compare_gt_iff_gt.mpr hgt, compare_lt_iff_lt.mpr (neg_lt_neg hgt)]
    rfl

/-- Finite doubles compare as their values do. -/
lemma order_eq_compare_value (hx : x.isFinite = true) (hy : y.isFinite = true) :
    order x y = compare (value x) (value y) := by
  have horder : order x y = (x.toModel.unpack.compare y.toModel.unpack).getD .eq := rfl
  rw [horder, value, value]
  rcases finite_cases hx with ⟨s, hxs⟩ | ⟨s, m, e, hm, hxs⟩ <;>
    rcases finite_cases hy with ⟨t, hyt⟩ | ⟨t, n, f, hn, hyt⟩
  · rw [hxs, hyt]
    exact (compare_eq_iff_eq.mpr rfl).symm
  · have hpos : (0 : ℚ) < n * 2 ^ f := by positivity
    rw [hxs, hyt]
    cases t with
    | positive => exact (compare_lt_iff_lt.mpr hpos).symm
    | negative =>
      rw [unpackedValue_negative]
      exact (compare_gt_iff_gt.mpr (neg_neg_of_pos hpos)).symm
  · have hpos : (0 : ℚ) < m * 2 ^ e := by positivity
    rw [hxs, hyt]
    cases s with
    | positive => exact (compare_gt_iff_gt.mpr hpos).symm
    | negative =>
      rw [unpackedValue_negative]
      exact (compare_lt_iff_lt.mpr (neg_neg_of_pos hpos)).symm
  · have hposx : (0 : ℚ) < m * 2 ^ e := by positivity
    have hposy : (0 : ℚ) < n * 2 ^ f := by positivity
    obtain ⟨-, -, hcanonical⟩ := Dyadic.ofFloat_of_finite hxs
    obtain ⟨-, -, hcanonical'⟩ := Dyadic.ofFloat_of_finite hyt
    have hcompare := hcanonical.compare_eq hcanonical'
    rw [hxs, hyt]
    cases s with
    | positive =>
      cases t with
      | positive => exact hcompare
      | negative =>
        rw [unpackedValue_negative]
        exact (compare_gt_iff_gt.mpr ((neg_neg_of_pos hposy).trans hposx)).symm
    | negative =>
      cases t with
      | positive =>
        rw [unpackedValue_negative]
        exact (compare_lt_iff_lt.mpr ((neg_neg_of_pos hposx).trans hposy)).symm
      | negative =>
        rw [unpackedValue_negative, unpackedValue_negative, compare_neg_neg, ← hcompare]
        rfl

lemma lt_iff_value (hx : x.isFinite = true) (hy : y.isFinite = true) :
    x < y ↔ value x < value y := by
  rw [lt_iff_order (isNaN_of_isFinite hx) (isNaN_of_isFinite hy), order_eq_compare_value hx hy,
    compare_lt_iff_lt]

lemma le_iff_value (hx : x.isFinite = true) (hy : y.isFinite = true) :
    x ≤ y ↔ value x ≤ value y := by
  rw [le_iff_order (isNaN_of_isFinite hx) (isNaN_of_isFinite hy), order_eq_compare_value hx hy,
    Ne, compare_gt_iff_gt, not_lt]

/-- An infinite double is above all finite ones, or below them. -/
lemma infinite_cases (hnumber : x.isNaN = false) (hx : x.isFinite = false) :
    (∀ y, y.isFinite = true → order x y = .gt) ∨ ∀ y, y.isFinite = true → order x y = .lt := by
  have horder (y : Float) :
      order x y = (x.toModel.unpack.compare y.toModel.unpack).getD .eq := rfl
  change x.toModel.unpack.isNaN = false at hnumber
  change x.toModel.unpack.isFinite = false at hx
  cases hxs : x.toModel.unpack with
  | infinity s =>
    cases s with
    | positive =>
      refine .inl fun y hy => ?_
      rw [horder, hxs]
      rcases finite_cases hy with ⟨t, hyt⟩ | ⟨t, n, f, hn, hyt⟩ <;> rw [hyt] <;> rfl
    | negative =>
      refine .inr fun y hy => ?_
      rw [horder, hxs]
      rcases finite_cases hy with ⟨t, hyt⟩ | ⟨t, n, f, hn, hyt⟩ <;> rw [hyt] <;> rfl
  | notANumber =>
    rw [hxs] at hnumber
    cases hnumber
  | zero s =>
    rw [hxs] at hx
    cases hx
  | finite s m e hm =>
    rw [hxs] at hx
    cases hx

/-! ### Whole parts -/

/-- Shifting a mantissa divides it by a power of two. -/
lemma mantissa_shiftRight (a : UnpackedFloat.ExtendedMantissa) (k : ℕ) :
    (a >>> k).mantissa = a.mantissa / 2 ^ k := by
  induction k generalizing a with
  | zero => exact (Nat.div_one _).symm
  | succ k ih =>
    change (a >>> k).mantissa / 2 = _
    rw [ih, Nat.div_div_eq_div_mul, pow_succ]

/-- Dropping the binary places of a number leaves its whole part. -/
lemma roundToInt_positive (m : ℕ) (e : ℤ) :
    UnpackedFloat.roundToInt .positive m e = ⌊(m : ℚ) * 2 ^ e⌋₊ := by
  have hround : UnpackedFloat.roundToInt .positive m e =
      ((m <<< (e - 0).toNat / 2 ^ (0 - (e - (e - 0).toNat)).toNat : ℕ) : ℤ) :=
    congrArg Nat.cast (mantissa_shiftRight _ _)
  rw [hround]
  obtain ⟨k, rfl | rfl⟩ := e.eq_nat_or_neg
  · have hshift : ((k : ℤ) - 0).toNat = k := by omega
    have hrest : (0 - ((k : ℤ) - k)).toNat = 0 := by omega
    rw [hshift, hrest, Nat.shiftLeft_eq, pow_zero, Nat.div_one, zpow_natCast]
    norm_cast
  · have hshift : (-(k : ℤ) - 0).toNat = 0 := by omega
    have hrest : (0 - (-(k : ℤ) - (0 : ℕ))).toNat = k := by omega
    rw [hshift, hrest, Nat.shiftLeft_zero, zpow_neg, zpow_natCast, ← div_eq_mul_inv]
    exact_mod_cast (Nat.floor_div_eq_div (K := ℚ) m (2 ^ k)).symm

/-- A double that is not negative is truncated to the whole part of its value, if that fits a
word. -/
lemma toNat_toUInt64 (hx : x.isFinite = true) (hnonneg : 0 ≤ value x) (hlt : value x < 2 ^ 64) :
    x.toUInt64.toNat = ⌊value x⌋₊ := by
  have hfloor : (x.toModel.unpack.toInt 0 (UInt64.size - 1)).toNat = ⌊value x⌋₊ := by
    rcases finite_cases hx with ⟨s, hxs⟩ | ⟨s, m, e, hm, hxs⟩
    · rw [value, hxs]
      exact Nat.floor_zero.symm
    · have hpos : (0 : ℚ) < m * 2 ^ e := by positivity
      rw [value, hxs] at hnonneg ⊢
      cases s with
      | positive => exact (congrArg Int.toNat (roundToInt_positive m e)).trans (Int.toNat_natCast _)
      | negative =>
        rw [unpackedValue_negative] at hnonneg
        exact absurd hnonneg (not_le.mpr (neg_neg_of_pos hpos))
  have hword : x.toUInt64 =
      UInt64.ofNatClamp (x.toModel.unpack.toInt 0 (UInt64.size - 1)).toNat := rfl
  have hsize : ⌊value x⌋₊ < UInt64.size := (Nat.floor_lt hnonneg).mpr (by exact_mod_cast hlt)
  rw [hword, hfloor, UInt64.ofNatClamp, dif_pos hsize, UInt64.toNat_ofNatLT]

/-- The whole part of the value of a double, held between zero and a ceiling; what is not a number
counts as zero. -/
def wholePart (ceiling : ℕ) (x : Float) : ℕ :=
  if x.isNaN then 0
  else if x.isFinite then min ⌊value x⌋₊ ceiling
  else if x < 0 then 0
  else ceiling

lemma wholePart_le (ceiling : ℕ) (x : Float) : wholePart ceiling x ≤ ceiling := by
  unfold wholePart
  split
  · exact Nat.zero_le ceiling
  · split
    · exact min_le_right _ _
    · split
      · exact Nat.zero_le ceiling
      · exact le_rfl

/-! ### Rounding to decimal places -/

/-- A quotient that is at most a whole number is not rounded above it. -/
lemma roundHalfEven_le {num den bound : ℕ} (hle : num ≤ bound * den) :
    roundHalfEven num den ≤ bound := by
  rcases Nat.eq_zero_or_pos den with rfl | hden
  · obtain rfl : num = 0 := by simpa using hle
    exact Nat.zero_le bound
  have hquotient : num / den ≤ bound := Nat.div_le_of_le_mul (by rwa [Nat.mul_comm])
  unfold roundHalfEven
  rcases hquotient.lt_or_eq with hlt | heq
  · dsimp only
    split
    · exact hquotient
    · split
      · exact hlt
      · split
        · exact hquotient
        · exact hlt
  · -- the quotient is the whole number itself, so nothing is left to round
    have hdiv : den * (num / den) + num % den = num := Nat.div_add_mod num den
    have hrest : num % den = 0 := by
      rw [heq, Nat.mul_comm] at hdiv
      omega
    rw [hrest, if_pos (by simpa using hden)]
    exact hquotient

/-- The quotient for a number times a power of the base. -/
lemma Quotient.num_scaled (n : ℕ) {base : ℕ} (hbase : 0 < base) (e : ℤ) :
    ((Quotient.scaled n base e).num : ℚ) =
      n * base ^ e * ((Quotient.scaled n base e).den : ℕ) := by
  have hne : (base : ℚ) ≠ 0 := by positivity
  unfold Quotient.scaled
  split
  · rename_i hnonneg
    obtain ⟨k, rfl⟩ := Int.eq_ofNat_of_zero_le hnonneg
    simp
  · rename_i hneg
    obtain ⟨k, hk⟩ := Int.eq_ofNat_of_zero_le (a := -e) (by omega)
    obtain rfl : e = -k := by omega
    simp [hne]

/-- A number that is at most a whole number is not rounded above it, to whatever decimal place. -/
lemma Dyadic.scaledRound_le {d : Dyadic} {bound : ℕ}
    (hle : (d.mantissa : ℚ) * 2 ^ d.exponent ≤ bound) (places : ℕ) :
    d.scaledRound places ≤ bound * 10 ^ places := by
  refine roundHalfEven_le ?_
  have hnum := Quotient.num_scaled (d.mantissa * Nat.pow 10 places) two_pos d.exponent
  generalize Quotient.scaled (d.mantissa * Nat.pow 10 places) 2 d.exponent = q at hnum ⊢
  have hquotient : (q.num : ℚ) ≤ (bound * 10 ^ places * q.den : ℕ) := by
    have hpow : Nat.pow 10 places = 10 ^ places := rfl
    rw [hnum]
    push_cast [hpow]
    calc d.mantissa * 10 ^ places * 2 ^ d.exponent * (q.den : ℚ)
        = d.mantissa * 2 ^ d.exponent * 10 ^ places * q.den := by ring
      _ ≤ bound * 10 ^ places * q.den := by gcongr
  exact_mod_cast hquotient

end Dataflow.Decimal
