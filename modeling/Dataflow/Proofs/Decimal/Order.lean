import Mathlib

/-!
# The order of doubles

Doubles compare as their logical model says: by sign, exponent and mantissa, with both zeros at one
place and what is not a number at none. So the doubles that are numbers are in order (`order`): two
of them are less, equal or greater as it says (`lt_iff_order`, `beq_iff_order`, `le_iff_order`),
and turned round it says the opposite (`order_swap`). Integers become numbers (`isNaN_ofInt`).
-/

namespace Dataflow.Decimal

open Float.Model (Format UnpackedFloat)
open Float.Model.UnpackedFloat (Sign Accuracy)

/-! ### Comparison by sign, exponent and mantissa -/

section Unpacked

variable {a b : UnpackedFloat}

/-- Numbers compare in one of the three ways. -/
lemma exists_compare (ha : a.isNaN = false) (hb : b.isNaN = false) :
    ∃ o, a.compare b = some o := by
  rcases a with (_ | _) | _ | _ | ⟨_ | _, m, e, hm⟩ <;>
    rcases b with (_ | _) | _ | _ | ⟨_ | _, n, f, hn⟩ <;>
      simp_all [UnpackedFloat.compare, UnpackedFloat.isNaN]

/-- Turned round, two doubles compare the other way. -/
lemma compare_swap (a b : UnpackedFloat) : b.compare a = (a.compare b).map Ordering.swap := by
  have hfinite (m n : ℕ) (e f : ℤ) : (compare f e).then (compare n m) =
      ((compare e f).then (compare m n)).swap := by
    rw [Ordering.swap_then, Int.compare_swap, Nat.compare_swap]
  rcases a with (_ | _) | _ | _ | ⟨_ | _, m, e, hm⟩ <;>
    rcases b with (_ | _) | _ | _ | ⟨_ | _, n, f, hn⟩ <;>
      first
        | rfl
        | exact congrArg some (hfinite _ _ _ _)
        | exact congrArg (fun o => some o.swap) (hfinite _ _ _ _)

/-- Only zeros and identical doubles compare as equal. -/
lemma compare_eq_iff : a.compare b = some .eq ↔
    (∃ s t, a = .zero s ∧ b = .zero t) ∨ (a = b ∧ a.isNaN = false) := by
  have hsame (s : Sign) : compare s s = .eq := by cases s <;> rfl
  have hdistinct : compare Sign.negative .positive = .lt ∧ compare Sign.positive .negative = .gt :=
    ⟨rfl, rfl⟩
  rcases a with (_ | _) | _ | _ | ⟨_ | _, m, e, hm⟩ <;>
    rcases b with (_ | _) | _ | _ | ⟨_ | _, n, f, hn⟩ <;>
      simp_all [UnpackedFloat.compare, UnpackedFloat.isNaN, and_comm]

end Unpacked

/-! ### The order of numbers -/

section Order

variable {x y z : Float}

/-- How two doubles that are numbers compare. -/
def order (x y : Float) : Ordering := (x.toModel.compare y.toModel).getD .eq

lemma compare_eq_order (hx : x.isNaN = false) (hy : y.isNaN = false) :
    x.toModel.compare y.toModel = some (order x y) := by
  obtain ⟨o, ho⟩ := exists_compare hx hy
  change x.toModel.compare y.toModel = some o at ho
  rw [order, ho, Option.getD_some]

lemma order_swap (x y : Float) : order y x = (order x y).swap := by
  have h : y.toModel.compare x.toModel = (x.toModel.compare y.toModel).map Ordering.swap :=
    compare_swap _ _
  unfold order
  rw [h]
  cases x.toModel.compare y.toModel <;> rfl

lemma lt_iff_order (hx : x.isNaN = false) (hy : y.isNaN = false) : x < y ↔ order x y = .lt := by
  have hlt : x < y ↔ (x.toModel.compare y.toModel == some .lt) = true := by
    change decide ((x.toModel.compare y.toModel == some .lt) = true) = true ↔ _
    exact decide_eq_true_iff
  rw [hlt, compare_eq_order hx hy, beq_iff_eq, Option.some.injEq]

lemma beq_iff_compare : (x == y) = true ↔ x.toModel.compare y.toModel = some .eq := by
  change (x.toModel.compare y.toModel == some .eq) = true ↔ _
  exact beq_iff_eq

lemma beq_iff_order (hx : x.isNaN = false) (hy : y.isNaN = false) :
    (x == y) = true ↔ order x y = .eq := by
  rw [beq_iff_compare, compare_eq_order hx hy, Option.some.injEq]

lemma le_iff_order (hx : x.isNaN = false) (hy : y.isNaN = false) : x ≤ y ↔ order x y ≠ .gt := by
  have hle : x ≤ y ↔ (x.toModel.compare y.toModel).any (·.isLE) = true := by
    change decide ((x.toModel.compare y.toModel).any (·.isLE) = true) = true ↔ _
    exact decide_eq_true_iff
  rw [hle, compare_eq_order hx hy]
  cases order x y <;> decide

/-- A number equals itself. -/
lemma beq_self (hx : x.isNaN = false) : (x == x) = true :=
  beq_iff_compare.mpr (compare_eq_iff.mpr (Or.inr ⟨rfl, hx⟩))

lemma beq_symm (h : (x == y) = true) : (y == x) = true := by
  rw [beq_iff_compare] at h ⊢
  have hswap : y.toModel.compare x.toModel = (x.toModel.compare y.toModel).map Ordering.swap :=
    compare_swap _ _
  rw [hswap, h]
  rfl

lemma beq_trans (hxy : (x == y) = true) (hyz : (y == z) = true) : (x == z) = true := by
  rw [beq_iff_compare] at hxy hyz ⊢
  have hxy' := compare_eq_iff.mp hxy
  have hyz' := compare_eq_iff.mp hyz
  apply compare_eq_iff.mpr
  rcases hxy' with ⟨s, t, hx, hy⟩ | ⟨hxy', -⟩
  · rcases hyz' with ⟨-, u, -, hz⟩ | ⟨hyz', -⟩
    · exact Or.inl ⟨s, u, hx, hz⟩
    · exact Or.inl ⟨s, t, hx, hyz' ▸ hy⟩
  · rw [hxy']
    exact hyz'

end Order

/-! ### Integers are numbers -/

lemma isNaN_of_isFinite {x : Float} (hx : x.isFinite = true) : x.isNaN = false := by
  change x.toModel.unpack.isFinite = true at hx
  change x.toModel.unpack.isNaN = false
  cases h : x.toModel.unpack with
  | notANumber =>
    rw [h] at hx
    cases hx
  | _ => rfl

lemma isNaN_unpack_packComponents {s : Sign} {e : BitVec 11} {m : BitVec 52}
    (h : e = -1#_ → m = 0#_) :
    (UnpackedFloat.unpack .binary64
      (UnpackedFloat.packComponents .binary64 s e m)).isNaN = false := by
  unfold UnpackedFloat.unpack
  simp only [UnpackedFloat.unpackExponent_packComponents,
    UnpackedFloat.unpackMantissa_packComponents]
  split
  · rename_i hones
    rw [if_pos (h hones)]
    rfl
  · split
    · split <;> rfl
    · rfl

/-- Storing a number gives a number: the exponents of finite doubles are not all ones. -/
lemma isNaN_pack {a : UnpackedFloat} (ha : a.isNaN = false) :
    (Float.Model.pack a).isNaN = false := by
  change (UnpackedFloat.unpack .binary64 (UnpackedFloat.pack .binary64 a)).isNaN = false
  fun_cases UnpackedFloat.pack with
  | case1 => cases ha
  | case2 s => exact isNaN_unpack_packComponents fun _ => rfl
  | case3 s => exact isNaN_unpack_packComponents fun _ => rfl
  | case4 s m e hm biasedExponent hoverflow => exact isNaN_unpack_packComponents fun _ => rfl
  | case5 s m e hm actualMantissaBits biasedExponent hfits hnormal =>
    refine isNaN_unpack_packComponents fun hones => absurd (congrArg BitVec.toNat hones) ?_
    change ¬ 2 ^ 11 ≤ biasedExponent + 1 at hfits
    change biasedExponent % 2 ^ 11 ≠ 2 ^ 11 - 1
    omega
  | case6 s m e hm actualMantissaBits biasedExponent hfits hsubnormal =>
    exact isNaN_unpack_packComponents fun hones => absurd hones (by decide)

/-- Rounding gives a number. -/
lemma isNaN_roundWithAccuracy {spec : Format} {s : Sign} {m : ℕ} {e : ℤ} {accuracy : Accuracy} :
    (UnpackedFloat.roundWithAccuracy spec s m e accuracy).isNaN = false := by
  unfold UnpackedFloat.roundWithAccuracy
  dsimp only
  split <;> rfl

/-- A number times a finite double other than zero is a number. -/
lemma isNaN_mul_finite {spec : Format} {a : UnpackedFloat} (ha : a.isNaN = false) {s : Sign}
    {m : ℕ} {e : ℤ} {hm : 0 < m} : (a.mul spec (.finite s m e hm)).isNaN = false := by
  cases a with
  | notANumber => cases ha
  | infinity => rfl
  | zero => rfl
  | finite => exact isNaN_roundWithAccuracy

lemma isNaN_toFloat (n : UInt64) : n.toFloat.isNaN = false := by
  apply isNaN_pack
  unfold UnpackedFloat.ofUInt64 UnpackedFloat.ofNat UnpackedFloat.ofInt UnpackedFloat.normalize
  split
  · exact isNaN_roundWithAccuracy
  · rfl
  · exact isNaN_roundWithAccuracy

lemma isNaN_ofNat (n : ℕ) : (Float.ofNat n).isNaN = false := by
  change (Float.ofScientific n false 0).isNaN = false
  unfold Float.ofScientific
  split
  · -- a small integer is multiplied by one
    have hone : (Float.Model.ofBits 0x3FF0000000000000).unpack =
        .finite .positive (2 ^ 52) (-52) (by decide) := rfl
    apply isNaN_pack
    change (UnpackedFloat.mul _ _ (Float.Model.ofBits 0x3FF0000000000000).unpack).isNaN = false
    rw [hone]
    exact isNaN_mul_finite (isNaN_toFloat _)
  · apply isNaN_pack
    unfold UnpackedFloat.ofScientific
    split
    · rfl
    · rw [if_neg (by decide), if_neg (by norm_num), if_pos (by decide)]
      exact isNaN_mul_finite rfl

/-- An integer becomes a number, if only an infinite one. -/
lemma isNaN_ofInt (n : ℤ) : (Float.ofInt n).isNaN = false := by
  cases n with
  | ofNat n => exact isNaN_ofNat n
  | negSucc n =>
    have hn : (Float.ofNat n.succ).toModel.unpack.isNaN = false := isNaN_ofNat n.succ
    apply isNaN_pack
    cases h : (Float.ofNat n.succ).toModel.unpack with
    | notANumber =>
      rw [h] at hn
      cases hn
    | _ => rfl

end Dataflow.Decimal
