import Dataflow.Clock
import Dataflow.Proofs.Decimal.Operations

/-!
# The order of times in seconds

Times are told in seconds, as doubles. Whole seconds and the fraction are rounded for themselves and
added, and the sum is rounded once more. A later time is never told as an earlier one all the same
(`seconds_mono`): within a second the fraction grows, and no fraction brings a time beyond the next
second, however coarse the doubles have become there (`nearest_add_le`).
-/

namespace Dataflow

namespace Decimal

open Float.Model (UnpackedFloat)

variable {m n : ℕ} {e : ℤ} {r : ℚ}

/-- Beyond 53 binary digits the numbers of doubles are two or more apart. -/
lemma Canonical.one_le (h : Canonical m e) (hle : 2 ^ 53 ≤ (m : ℚ) * 2 ^ e) : 1 ≤ e := by
  by_contra hsmall
  refine absurd hle (not_le.mpr ?_)
  calc (m : ℚ) * 2 ^ e < 2 ^ 53 * 2 ^ e := by
        gcongr
        exact_mod_cast h.fits
    _ ≤ 2 ^ 53 * 2 ^ (0 : ℤ) := by
        gcongr
        · norm_num
        · omega
    _ = 2 ^ 53 := by rw [zpow_zero, mul_one]

/-- There, less than one that is added is rounded away. -/
lemma Canonical.nearest_add (h : Canonical m e) (he : 1 ≤ e) (hr : 0 ≤ r) (hlt : r < 1) :
    nearest (m * 2 ^ e + r) = m * 2 ^ e := by
  have hnormal : 2 ^ 52 ≤ m := h.normal.resolve_right (by omega)
  have hscaled : ((m : ℚ) * 2 ^ e + r) / 2 ^ e = m + r / 2 ^ e := by
    rw [add_div, mul_div_cancel_right₀ _ (by positivity)]
  have hhalf : r / 2 ^ e < 1 / 2 := by
    rw [div_lt_div_iff₀ (by positivity) two_pos]
    calc r * 2 < 1 * 2 ^ (1 : ℤ) := by linarith
      _ ≤ 1 * 2 ^ e := by
          gcongr
          norm_num
  have hplace : place (m * 2 ^ e + r) = e := by
    refine place_eq (by positivity) h.least ?_ (.inl ?_)
    · rw [hscaled]
      have hfits : (m : ℚ) + 1 ≤ 2 ^ 53 := by exact_mod_cast h.fits
      linarith
    · rw [hscaled]
      have hleading : (2 : ℚ) ^ 52 ≤ m := by exact_mod_cast hnormal
      exact hleading.trans (le_add_of_nonneg_right (by positivity))
  rw [nearest, hplace, hscaled, roundEven_of_lt_half (le_add_of_nonneg_right (by positivity))
    ((add_lt_add_iff_left _).mpr hhalf)]

/-- Less than one, added to a rounded natural number, does not bring it beyond the next one. -/
lemma nearest_add_le (hr : 0 ≤ r) (hlt : r < 1) : nearest (nearest n + r) ≤ nearest (n + 1) := by
  rcases lt_or_ge n (2 ^ 53) with hn | hn
  · rw [nearest_natCast hn]
    exact nearest_mono (by positivity) (by linarith)
  · obtain ⟨m, e, hcanonical, hnearest⟩ := exists_canonical_nearest (Nat.cast_nonneg (α := ℚ) n)
    have hlarge : 2 ^ 53 ≤ (m : ℚ) * 2 ^ e := by
      have hpower : Canonical (2 ^ 52) 1 := ⟨by norm_num, by norm_num, .inl le_rfl⟩
      calc (2 : ℚ) ^ 53 = (2 ^ 52 : ℕ) * 2 ^ (1 : ℤ) := by norm_num
        _ = nearest ((2 ^ 52 : ℕ) * 2 ^ (1 : ℤ)) := hpower.nearest_eq.symm
        _ ≤ nearest n := by
            refine nearest_mono (by positivity) ?_
            norm_num
            exact_mod_cast hn
        _ = m * 2 ^ e := hnearest
    rw [hnearest, hcanonical.nearest_add (hcanonical.one_le hlarge) hr hlt, ← hnearest]
    exact nearest_mono (Nat.cast_nonneg n) (by linarith)

end Decimal

namespace Clock

open Decimal

variable {a b t : ℕ}

/-- The fraction of a second in a time, as it is rounded. -/
def fraction (ticks : ℕ) : ℚ := nearest ((ticks % 1000 * 1000000 : ℕ) / 10 ^ 9)

lemma fraction_nonneg (t : ℕ) : 0 ≤ fraction t := by
  have hzero := nearest_mono le_rfl
    (show (0 : ℚ) ≤ (t % 1000 * 1000000 : ℕ) / 10 ^ 9 by positivity)
  rwa [nearest_zero] at hzero

/-- The fraction grows within a second. -/
lemma fraction_mono (hle : a % 1000 ≤ b % 1000) : fraction a ≤ fraction b := by
  refine nearest_mono (by positivity) ?_
  gcongr

/-- The fraction is not rounded up to a second. -/
lemma fraction_lt_one (t : ℕ) : fraction t < 1 := by
  have hcanonical : Canonical (2 ^ 53 - 1) (-53) := ⟨by norm_num, by norm_num, .inl (by norm_num)⟩
  have hle : ((t % 1000 * 1000000 : ℕ) : ℚ) / 10 ^ 9 ≤ (2 ^ 53 - 1 : ℕ) * 2 ^ (-53 : ℤ) := by
    have hmod : t % 1000 * 1000000 ≤ 999000000 := by omega
    calc ((t % 1000 * 1000000 : ℕ) : ℚ) / 10 ^ 9 ≤ ((999000000 : ℕ) : ℚ) / 10 ^ 9 := by gcongr
      _ ≤ ((2 ^ 53 - 1 : ℕ) : ℚ) * 2 ^ (-53 : ℤ) := by norm_num
  calc fraction t ≤ nearest ((2 ^ 53 - 1 : ℕ) * 2 ^ (-53 : ℤ)) := nearest_mono (by positivity) hle
    _ = (2 ^ 53 - 1 : ℕ) * 2 ^ (-53 : ℤ) := hcanonical.nearest_eq
    _ < 1 := by norm_num

/-- A time in seconds is the rounded sum of its parts. -/
lemma holds_seconds (t : ℕ) :
    Holds (seconds t) (nearest (nearest (t / 1000 : ℕ) + fraction t)) := by
  have hnanoseconds : t % 1000 * 1000000 < 2 ^ 53 := by omega
  have hnumerator := holds_ofNat (t % 1000 * 1000000)
  rw [nearest_natCast hnanoseconds] at hnumerator
  have hdenominator : Stores (1e9 : Float).toModel.unpack (10 ^ 9) := by
    have hunpack : (1e9 : Float).toModel.unpack =
        .finite .positive (1000000000 * 0x800000) (-23) (by decide) := rfl
    have hvalue : (10 : ℚ) ^ 9 = (1000000000 * 0x800000 : ℕ) * 2 ^ (-23 : ℤ) := by norm_num
    rw [hunpack, hvalue]
    exact .finite _ ⟨by norm_num, by norm_num, .inl (by norm_num)⟩
  have hfraction := holds_div (hnumerator.stores (natCast_lt_overflow hnanoseconds)) hdenominator
    (by positivity)
  exact holds_add (holds_ofNat _) hfraction (nearest_nonneg _) (fraction_nonneg t)

/-- A later time is not told as an earlier one. -/
lemma seconds_mono (hle : a ≤ b) : seconds a ≤ seconds b := by
  refine (holds_seconds a).le (holds_seconds b) ?_
  have ha := fraction_nonneg a
  have hb := fraction_nonneg b
  rcases (Nat.div_le_div_right (c := 1000) hle).lt_or_eq with hlt | heq
  · calc nearest (nearest (a / 1000 : ℕ) + fraction a) ≤ nearest ((a / 1000 : ℕ) + 1) :=
          nearest_add_le ha (fraction_lt_one a)
      _ ≤ nearest (b / 1000 : ℕ) := nearest_mono (by positivity) (by exact_mod_cast hlt)
      _ = nearest (nearest (b / 1000 : ℕ)) := (nearest_nearest (by positivity)).symm
      _ ≤ nearest (nearest (b / 1000 : ℕ) + fraction b) :=
          nearest_mono (nearest_nonneg _) (le_add_of_nonneg_right hb)
  · have hrest : a % 1000 ≤ b % 1000 := by omega
    rw [heq]
    refine nearest_mono (add_nonneg (nearest_nonneg _) ha) ?_
    gcongr
    exact fraction_mono hrest

end Clock

end Dataflow
