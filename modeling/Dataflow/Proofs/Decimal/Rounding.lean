import Dataflow.Proofs.Decimal.Value

/-!
# Rounding to doubles

Arithmetic with doubles rounds the exact result to the nearest number that a double can hold, of two
nearest to the one with the even mantissa. This number is a function of the exact one (`nearest`),
where exponents are thought of as not bounded above. The function keeps the order (`nearest_mono`)
and leaves the numbers of doubles as they are (`Canonical.nearest_eq`). The bits behind a mantissa
tell where the exact number lies (`Locates`), and rounding by them finds the number
(`stores_roundWithAccuracy`).
-/

namespace Dataflow.Decimal

open Float.Model (Format UnpackedFloat)
open Float.Model.UnpackedFloat (Sign Accuracy ExtendedMantissa)

variable {x y v w : ℚ} {m : ℕ} {e : ℤ}

/-! ### Rounding to natural numbers -/

/-- The natural number nearest to a number that is not negative, the even one of two nearest. -/
def roundEven (x : ℚ) : ℕ :=
  if x < ⌊x⌋₊ + 1 / 2 then ⌊x⌋₊
  else if ⌊x⌋₊ + 1 / 2 < x then ⌊x⌋₊ + 1
  else ⌊x⌋₊ + ⌊x⌋₊ % 2

lemma floor_le_roundEven (x : ℚ) : ⌊x⌋₊ ≤ roundEven x := by
  unfold roundEven
  split_ifs <;> omega

lemma roundEven_le_floor (x : ℚ) : roundEven x ≤ ⌊x⌋₊ + 1 := by
  unfold roundEven
  split_ifs <;> omega

/-- What is less than a half above a natural number is rounded down. -/
lemma roundEven_of_lt_half (hle : (m : ℚ) ≤ x) (hlt : x < m + 1 / 2) : roundEven x = m := by
  have hnonneg : 0 ≤ x := (Nat.cast_nonneg m).trans hle
  have hfloor : ⌊x⌋₊ = m := (Nat.floor_eq_iff hnonneg).mpr ⟨hle, by linarith⟩
  rw [roundEven, hfloor, if_pos hlt]

/-- Rounding to natural numbers keeps the order. -/
lemma roundEven_mono (hle : x ≤ y) : roundEven x ≤ roundEven y := by
  rcases (Nat.floor_mono hle).lt_or_eq with hlt | heq
  · calc roundEven x ≤ ⌊x⌋₊ + 1 := roundEven_le_floor x
      _ ≤ ⌊y⌋₊ := hlt
      _ ≤ roundEven y := floor_le_roundEven y
  · unfold roundEven
    rw [heq]
    by_cases hdown : x < ⌊y⌋₊ + 1 / 2
    · rw [if_pos hdown]
      split_ifs <;> omega
    · rw [if_neg hdown, if_neg (by linarith : ¬ y < ⌊y⌋₊ + 1 / 2)]
      by_cases hup : ⌊y⌋₊ + 1 / 2 < x
      · rw [if_pos hup, if_pos (hup.trans_le hle)]
      · rw [if_neg hup]
        split_ifs <;> omega

lemma roundEven_natCast (m : ℕ) : roundEven m = m :=
  roundEven_of_lt_half le_rfl (by linarith)

/-- A number is not rounded past a natural one. -/
lemma roundEven_le (hle : x ≤ m) : roundEven x ≤ m :=
  (roundEven_mono hle).trans_eq (roundEven_natCast m)

lemma le_roundEven (hle : (m : ℚ) ≤ x) : m ≤ roundEven x :=
  (Nat.le_floor hle).trans (floor_le_roundEven x)

/-! ### Rounding to the numbers of doubles -/

/-- The exponent with which a double holds a positive number. -/
def place (v : ℚ) : ℤ := max (Int.log 2 v - 52) (-1074)

/-- The number of a double that is nearest to a number that is not negative. -/
def nearest (v : ℚ) : ℚ := roundEven (v / 2 ^ place v) * 2 ^ place v

lemma nearest_zero : nearest 0 = 0 := by
  have hround : roundEven (0 / 2 ^ place 0) = 0 := by
    rw [zero_div]
    exact roundEven_of_lt_half (by simp) (by norm_num)
  rw [nearest, hround, Nat.cast_zero, zero_mul]

/-- A positive number has at most 53 binary digits in front of its place. -/
lemma div_place_lt (v : ℚ) : v / 2 ^ place v < 2 ^ 53 := by
  have hlog : v < 2 ^ (Int.log 2 v + 1) := Int.lt_zpow_succ_log_self one_lt_two v
  rw [div_lt_iff₀ (by positivity), ← zpow_natCast, ← zpow_add₀ two_ne_zero]
  refine hlog.trans_le (zpow_le_zpow_right₀ one_le_two ?_)
  have hplace : Int.log 2 v - 52 ≤ place v := le_max_left _ _
  push_cast
  omega

/-- It has all of them, unless its place is the least there is. -/
lemma le_div_place (hv : 0 < v) (hplace : place v ≠ -1074) : 2 ^ 52 ≤ v / 2 ^ place v := by
  have hlog : (2 : ℚ) ^ Int.log 2 v ≤ v := Int.zpow_log_le_self one_lt_two hv
  have heq : place v = Int.log 2 v - 52 := by
    unfold place at hplace ⊢
    omega
  rw [le_div_iff₀ (by positivity), ← zpow_natCast, ← zpow_add₀ two_ne_zero]
  refine le_trans (zpow_le_zpow_right₀ one_le_two ?_) hlog
  push_cast
  omega

/-- A digit that is carried over the first one moves the place by one. -/
lemma carry_eq (e : ℤ) : (2 : ℚ) ^ 53 * 2 ^ e = 2 ^ 52 * 2 ^ (e + 1) := by
  rw [zpow_add_one₀ two_ne_zero]
  ring

/-- The digits at the place of a number round to a mantissa, unless that has become too long. -/
lemma canonical_or_carry (hv : 0 < v) :
    Canonical (roundEven (v / 2 ^ place v)) (place v) ∨ roundEven (v / 2 ^ place v) = 2 ^ 53 := by
  have hle : roundEven (v / 2 ^ place v) ≤ 2 ^ 53 :=
    roundEven_le (by exact_mod_cast (div_place_lt v).le)
  rcases hle.lt_or_eq with hlt | heq
  · refine .inl ⟨hlt, le_max_right _ _, ?_⟩
    by_cases hplace : place v = -1074
    · exact .inr hplace
    · exact .inl (le_roundEven (by exact_mod_cast le_div_place hv hplace))
  · exact .inr heq

/-- The place of a number is known from the number of its digits. -/
lemma place_eq (hv : 0 < v) (hleast : -1074 ≤ e) (hlt : v / 2 ^ e < 2 ^ 53)
    (hle : 2 ^ 52 ≤ v / 2 ^ e ∨ e = -1074) : place v = e := by
  rw [div_lt_iff₀ (by positivity), ← zpow_natCast, ← zpow_add₀ two_ne_zero] at hlt
  have hupper : Int.log 2 v < 53 + e := by
    have h := (Int.lt_zpow_iff_log_lt one_lt_two hv).mp hlt
    exact_mod_cast h
  unfold place
  rcases hle with hle | rfl
  · rw [le_div_iff₀ (by positivity), ← zpow_natCast, ← zpow_add₀ two_ne_zero] at hle
    have hlower : 52 + e ≤ Int.log 2 v := by
      have h := (Int.zpow_le_iff_le_log one_lt_two hv).mp hle
      exact_mod_cast h
    omega
  · omega

lemma nearest_nonneg (v : ℚ) : 0 ≤ nearest v := by
  unfold nearest
  positivity

/-- Rounding to the numbers of doubles keeps the order. -/
lemma nearest_mono (hv : 0 ≤ v) (hle : v ≤ w) : nearest v ≤ nearest w := by
  rcases hv.eq_or_lt with rfl | hv
  · rw [nearest_zero]
    exact nearest_nonneg w
  have hplace : place v ≤ place w := by
    have hlog := Int.log_mono_right (b := 2) hv hle
    unfold place
    omega
  unfold nearest
  rcases hplace.eq_or_lt with heq | hlt
  · rw [heq]
    gcongr
    exact roundEven_mono (by gcongr)
  · have hdown : roundEven (v / 2 ^ place v) ≤ 2 ^ 53 :=
      roundEven_le (by exact_mod_cast (div_place_lt v).le)
    have hup : 2 ^ 52 ≤ roundEven (w / 2 ^ place w) := by
      have hleast : -1074 ≤ place v := le_max_right _ _
      have hdigits := le_div_place (hv.trans_le hle) (by omega)
      exact le_roundEven (by exact_mod_cast hdigits)
    calc (roundEven (v / 2 ^ place v) : ℚ) * 2 ^ place v ≤ 2 ^ 53 * 2 ^ place v := by
          gcongr
          exact_mod_cast hdown
      _ = 2 ^ 52 * 2 ^ (place v + 1) := carry_eq _
      _ ≤ 2 ^ 52 * 2 ^ place w := by
          gcongr
          · norm_num
          · omega
      _ ≤ roundEven (w / 2 ^ place w) * 2 ^ place w := by
          gcongr
          exact_mod_cast hup

/-- The numbers of doubles are left as they are. -/
lemma Canonical.nearest_eq (h : Canonical m e) : nearest (m * 2 ^ e) = m * 2 ^ e := by
  rcases Nat.eq_zero_or_pos m with rfl | hm
  · rw [Nat.cast_zero, zero_mul, nearest_zero]
  have hscale : (m : ℚ) * 2 ^ e / 2 ^ e = m := mul_div_cancel_right₀ _ (by positivity)
  have hplace : place (m * 2 ^ e) = e := by
    refine place_eq (by positivity) h.least ?_ ?_
    · rw [hscale]
      exact_mod_cast h.fits
    · rw [hscale]
      exact h.normal.imp_left fun hle => by exact_mod_cast hle
  rw [nearest, hplace, hscale, roundEven_natCast]

/-- A number is rounded to the number of a double. -/
lemma exists_canonical_nearest (hv : 0 ≤ v) : ∃ m e, Canonical m e ∧ nearest v = m * 2 ^ e := by
  rcases hv.eq_or_lt with rfl | hv
  · refine ⟨0, -1074, ⟨by norm_num, le_rfl, .inr rfl⟩, ?_⟩
    rw [nearest_zero, Nat.cast_zero, zero_mul]
  rcases canonical_or_carry hv with hcanonical | heq
  · exact ⟨_, _, hcanonical, rfl⟩
  · have hleast : -1074 ≤ place v := le_max_right _ _
    refine ⟨2 ^ 52, place v + 1, ⟨by norm_num, by omega, .inl le_rfl⟩, ?_⟩
    rw [nearest, heq]
    push_cast
    exact carry_eq _

/-- What is rounded needs no more rounding. -/
lemma nearest_nearest (hv : 0 ≤ v) : nearest (nearest v) = nearest v := by
  obtain ⟨m, e, hcanonical, hnearest⟩ := exists_canonical_nearest hv
  rw [hnearest, hcanonical.nearest_eq]

/-! ### Rounding by bits -/

/-- The mantissa and the two bits behind it tell where a number lies: the mantissa is its whole
part, and the bits tell how what is left of it compares with zero and with a half. -/
def Locates (a : ExtendedMantissa) (x : ℚ) : Prop :=
  match a.roundBit, a.stickyBit with
  | false, false => x = a.mantissa
  | false, true => a.mantissa < x ∧ x < a.mantissa + 1 / 2
  | true, false => x = a.mantissa + 1 / 2
  | true, true => a.mantissa + 1 / 2 < x ∧ x < a.mantissa + 1

namespace Locates

variable {a : ExtendedMantissa}

/-- The mantissa is the whole part of the number. -/
lemma floor_eq (h : Locates a x) : ⌊x⌋₊ = a.mantissa := by
  obtain ⟨m, r, s⟩ := a
  have hbounds : (m : ℚ) ≤ x ∧ x < m + 1 := by
    cases r <;> cases s <;> simp only [Locates] at h <;> constructor <;> linarith
  exact (Nat.floor_eq_iff ((Nat.cast_nonneg m).trans hbounds.1)).mpr hbounds

/-- The number is rounded by the bits. -/
lemma roundedMantissa_eq (h : Locates a x) : a.roundedMantissa = roundEven x := by
  have hfloor := h.floor_eq
  unfold roundEven
  rw [hfloor]
  obtain ⟨m, r, s⟩ := a
  cases r <;> cases s <;> simp only [Locates] at h
  · rw [if_pos (by linarith)]
    rfl
  · rw [if_pos h.2]
    rfl
  · rw [if_neg (by linarith), if_neg (by linarith)]
    rfl
  · rw [if_neg (by linarith), if_pos h.1]
    rfl

/-- Shifting the bits by one place halves the number. -/
lemma shiftRightOne (h : Locates a x) : Locates a.shiftRightOne (x / 2) := by
  obtain ⟨m, r, s⟩ := a
  obtain ⟨k, rfl | rfl⟩ := m.even_or_odd'
  · have hhalf : 2 * k / 2 = k := by omega
    have hbit : (2 * k % 2 != 0) = false := by simp
    cases r <;> cases s <;>
      simp only [Locates, ExtendedMantissa.shiftRightOne, hhalf, hbit, Bool.or_self, Bool.or_true,
        Bool.or_false] at h ⊢ <;> push_cast at h <;> first | linarith | constructor <;> linarith
  · have hhalf : (2 * k + 1) / 2 = k := by omega
    have hbit : ((2 * k + 1) % 2 != 0) = true := by simp [Nat.add_mod]
    cases r <;> cases s <;>
      simp only [Locates, ExtendedMantissa.shiftRightOne, hhalf, hbit, Bool.or_self, Bool.or_true,
        Bool.or_false] at h ⊢ <;> push_cast at h <;> first | linarith | constructor <;> linarith

/-- Shifting the bits divides the number by a power of two. -/
lemma shiftRight (h : Locates a x) (k : ℕ) : Locates (a >>> k) (x / 2 ^ k) := by
  induction k with
  | zero => rwa [pow_zero, div_one]
  | succ k ih =>
    rw [pow_succ, ← div_div]
    exact ih.shiftRightOne

end Locates

/-- The unpacked double holds the number, which is not negative. -/
inductive Stores : UnpackedFloat → ℚ → Prop
  | zero (s : Sign) : Stores (.zero s) 0
  | finite {m : ℕ} {e : ℤ} (hm : 0 < m) (h : Canonical m e) :
      Stores (.finite .positive m e hm) (m * 2 ^ e)

/-- The exponent to which a mantissa is shifted. -/
lemma targetExponent_eq (m : ℕ) (e : ℤ) :
    Format.binary64.targetExponent (Float.Model.totalExponent m e) =
      max ((m.log2 : ℤ) + e - 52) (-1074) := by
  simp only [Format.targetExponent, Float.Model.totalExponent, Format.mantissaBits,
    Format.minExponent]
  norm_num
  omega

/-- A mantissa of at most 53 digits is not shifted. -/
lemma shiftToTargetExponent_of_fits (hleast : -1074 ≤ e) (hlt : m < 2 ^ 53) :
    UnpackedFloat.shiftToTargetExponent .binary64 m e .exact = (⟨m, false, false⟩, e) := by
  have hlog : m.log2 ≤ 52 := by
    rcases Nat.eq_zero_or_pos m with rfl | hm
    · decide
    · exact Nat.lt_succ_iff.mp ((Nat.log2_lt hm.ne').mpr hlt)
  have hshift : (max ((m.log2 : ℤ) + e - 52) (-1074) - e).toNat = 0 := by omega
  simp only [UnpackedFloat.shiftToTargetExponent, UnpackedFloat.shiftToExponent, targetExponent_eq,
    hshift]
  simp [HShiftRight.hShiftRight, Nat.repeat, ExtendedMantissa.ofMantissaAndAccuracy]

/-- The least mantissa that is too long is shifted by one place. -/
lemma shiftToTargetExponent_of_carry (hleast : -1074 ≤ e) :
    UnpackedFloat.shiftToTargetExponent .binary64 (2 ^ 53) e .exact =
      (⟨2 ^ 52, false, false⟩, e + 1) := by
  have hshift : (max (((2 ^ 53 : ℕ).log2 : ℤ) + e - 52) (-1074) - e).toNat = 1 := by
    rw [Nat.log2_two_pow]
    omega
  simp only [UnpackedFloat.shiftToTargetExponent, UnpackedFloat.shiftToExponent, targetExponent_eq,
    hshift]
  rfl

/-- With enough digits in front of it, the mantissa tells the place of the number. -/
lemma place_eq_of_floor (hv : 0 < v) (hfloor : ⌊v / 2 ^ e⌋₊ = m)
    (hdigits : 2 ^ 52 ≤ m ∨ e ≤ -1074) : place v = max ((m.log2 : ℤ) + e - 52) (-1074) := by
  obtain ⟨hlower, hupper⟩ := (Nat.floor_eq_iff (by positivity)).mp hfloor
  rw [le_div_iff₀ (by positivity)] at hlower
  rw [div_lt_iff₀ (by positivity)] at hupper
  have hlog : 2 ^ 52 ≤ m → 52 ≤ m.log2 := fun h => (Nat.le_log2 (by omega)).mpr h
  refine place_eq hv (le_max_right _ _) ?_ ?_
  · have hlt : m + 1 ≤ 2 ^ (m.log2 + 1) := Nat.lt_log2_self
    rw [div_lt_iff₀ (by positivity)]
    calc v < (m + 1) * 2 ^ e := hupper
      _ ≤ 2 ^ (m.log2 + 1) * 2 ^ e := by
          gcongr
          exact_mod_cast hlt
      _ = 2 ^ ((m.log2 + 1 : ℕ) + e) := by rw [zpow_add₀ two_ne_zero, zpow_natCast]
      _ ≤ 2 ^ (53 + max ((m.log2 : ℤ) + e - 52) (-1074)) := by
          refine zpow_le_zpow_right₀ one_le_two ?_
          omega
      _ = 2 ^ 53 * 2 ^ max ((m.log2 : ℤ) + e - 52) (-1074) := by
          rw [zpow_add₀ two_ne_zero]
          rfl
  · refine or_iff_not_imp_right.mpr fun hnormal => ?_
    have heq : max ((m.log2 : ℤ) + e - 52) (-1074) = m.log2 + e - 52 := by omega
    have hm : m ≠ 0 := by
      rintro rfl
      have hzero : Nat.log2 0 = 0 := rfl
      omega
    rw [heq, le_div_iff₀ (by positivity)]
    calc (2 : ℚ) ^ 52 * 2 ^ ((m.log2 : ℤ) + e - 52) = 2 ^ m.log2 * 2 ^ e := by
          rw [← zpow_natCast, ← zpow_natCast, ← zpow_add₀ two_ne_zero, ← zpow_add₀ two_ne_zero]
          congr 1
          push_cast
          ring
      _ ≤ m * 2 ^ e := by
          gcongr
          exact_mod_cast Nat.log2_self_le hm
      _ ≤ v := hlower

/-- A mantissa with enough digits is shifted to the place of the number, and is rounded there. -/
lemma exists_shiftToTargetExponent {accuracy : Accuracy} (hv : 0 < v)
    (hlocates : Locates (.ofMantissaAndAccuracy m accuracy) (v / 2 ^ e))
    (hdigits : 2 ^ 52 ≤ m ∨ e ≤ -1074) :
    ∃ a, UnpackedFloat.shiftToTargetExponent .binary64 m e accuracy = (a, place v) ∧
      a.roundedMantissa = roundEven (v / 2 ^ place v) := by
  have hmantissa : (ExtendedMantissa.ofMantissaAndAccuracy m accuracy).mantissa = m := by
    rcases accuracy with _ | (_ | _ | _) <;> rfl
  have hfloor : ⌊v / 2 ^ e⌋₊ = m := hlocates.floor_eq.trans hmantissa
  have hplace := place_eq_of_floor hv hfloor hdigits
  have hle : e ≤ place v := by
    have hlog : 2 ^ 52 ≤ m → 52 ≤ m.log2 := fun h => (Nat.le_log2 (by omega)).mpr h
    omega
  refine ⟨ExtendedMantissa.ofMantissaAndAccuracy m accuracy >>> (place v - e).toNat, ?_, ?_⟩
  · simp only [UnpackedFloat.shiftToTargetExponent, UnpackedFloat.shiftToExponent,
      targetExponent_eq, ← hplace]
    congr 1
    omega
  · have hshifted := hlocates.shiftRight (place v - e).toNat
    rw [div_div, ← zpow_natCast, ← zpow_add₀ two_ne_zero] at hshifted
    have hexponent : e + ((place v - e).toNat : ℤ) = place v := by omega
    rw [hexponent] at hshifted
    exact hshifted.roundedMantissa_eq

/-- Rounding by bits finds the nearest number of a double. -/
lemma stores_roundWithAccuracy {accuracy : Accuracy} (hv : 0 < v)
    (hlocates : Locates (.ofMantissaAndAccuracy m accuracy) (v / 2 ^ e))
    (hdigits : 2 ^ 52 ≤ m ∨ e ≤ -1074) :
    Stores (UnpackedFloat.roundWithAccuracy .binary64 .positive m e accuracy) (nearest v) := by
  obtain ⟨a, hshift, hrounded⟩ := exists_shiftToTargetExponent hv hlocates hdigits
  have hleast : -1074 ≤ place v := le_max_right _ _
  simp only [UnpackedFloat.roundWithAccuracy, hshift, hrounded]
  rw [nearest]
  rcases canonical_or_carry hv with hcanonical | heq
  · simp only [shiftToTargetExponent_of_fits hleast hcanonical.fits]
    split_ifs with hzero
    · rw [hzero, Nat.cast_zero, zero_mul]
      exact .zero _
    · exact .finite _ hcanonical
  · have hcarry : ((2 ^ 53 : ℕ) : ℚ) * 2 ^ place v = (2 ^ 52 : ℕ) * 2 ^ (place v + 1) := by
      push_cast
      exact carry_eq _
    simp only [heq, shiftToTargetExponent_of_carry hleast, hcarry]
    exact .finite _ ⟨by norm_num, by omega, .inl le_rfl⟩

end Dataflow.Decimal
