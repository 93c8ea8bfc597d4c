import Dataflow.Decimal.Numeral
import Dataflow.Decimal.Shortest
import Dataflow.Proofs.Text.Characters

/-!
# Digits of numbers

A number is read back from its digits (`natOfDigits_digitsOf`), and digits are those of the number
that they write unless there is a zero in front (`digitsOf_natOfDigits`).
-/

namespace Dataflow.Decimal

variable {n : ℕ} {ds : List Char}

/-- The number that digits write is read back from them. -/
lemma natOfDigits_digitsOf (n : ℕ) : natOfDigits (digitsOf n) = n := by
  have heq : ∀ ds, natOfDigits ds = Nat.ofDigitChars 10 ds 0 := fun ds => by
    rw [natOfDigits, Nat.ofDigitChars]
    simp only [mul_comm 10]
    rfl
  rw [heq, digitsOf, Nat.ofDigitChars_toDigits (by decide) (by decide)]

/-- A natural number is written with digits. -/
lemma isDigit_of_mem_digitsOf {c : Char} (hc : c ∈ digitsOf n) : c.isDigit = true :=
  Nat.isDigit_of_mem_toDigits (by decide) (by decide) hc

/-- A natural number is written with at least one character, and the first is a digit. -/
lemma exists_digitsOf_eq_cons (n : ℕ) : ∃ c ds, digitsOf n = c :: ds ∧ c.isDigit = true := by
  have hne : digitsOf n ≠ [] := Nat.toDigits_ne_nil
  obtain ⟨c, ds, hds⟩ := List.exists_cons_of_ne_nil hne
  exact ⟨c, ds, hds, isDigit_of_mem_digitsOf (hds ▸ List.mem_cons_self)⟩

/-- Only zero is written with a zero in front. -/
lemma eq_zero_of_digitsOf (h : digitsOf n = '0' :: ds) : n = 0 := by
  induction n using Nat.strong_induction_on generalizing ds with
  | _ n ih =>
    rw [digitsOf] at h
    by_cases hlt : n < 10
    · rw [Nat.toDigits_of_lt_base hlt] at h
      have hall : ∀ d < 10, Nat.digitChar d = '0' → d = 0 := by decide
      exact hall n hlt (List.head_eq_of_cons_eq h)
    · rw [Nat.toDigits_of_base_le (by decide) (not_lt.mp hlt)] at h
      obtain ⟨c, front, hfront, -⟩ := exists_digitsOf_eq_cons (n / 10)
      rw [digitsOf] at hfront
      rw [hfront, List.cons_append, List.cons.injEq] at h
      have hzero := ih (n / 10) (by omega) (by rw [digitsOf, hfront, h.1])
      omega

/-- A digit more makes a number ten times as large and adds its value. -/
lemma natOfDigits_concat (ds : List Char) (d : Char) :
    natOfDigits (ds ++ [d]) = natOfDigits ds * 10 + digitValue d := by
  rw [natOfDigits, List.foldl_append]
  rfl

/-- A digit is written for its value. -/
lemma digitChar_digitValue {d : Char} (hd : d.isDigit = true) :
    digitValue d < 10 ∧ Nat.digitChar (digitValue d) = d := by
  have hrange := Text.isDigit_iff.mp hd
  have hall : ∀ n < 10, Nat.digitChar n = Char.ofNat (48 + n) := by decide
  have hvalue : digitValue d = d.toNat - 48 := rfl
  refine ⟨by omega, ?_⟩
  rw [hall _ (by omega), hvalue, Nat.add_sub_cancel' hrange.1, Char.ofNat_toNat]

/-- Digits without a zero in front are the digits of the number that they write. -/
lemma digitsOf_natOfDigits (hds : ∀ c ∈ ds, c.isDigit = true) (hne : ds ≠ [])
    (hzero : ds.head? ≠ some '0') : digitsOf (natOfDigits ds) = ds := by
  induction ds using List.reverseRecOn with
  | nil => exact absurd rfl hne
  | append_singleton ds d ih =>
    obtain ⟨hd, hchar⟩ := digitChar_digitValue (hds d (by simp))
    rw [natOfDigits_concat]
    cases ds with
    | nil =>
      have hvalue : natOfDigits [] * 10 + digitValue d = digitValue d := Nat.zero_add _
      rw [hvalue, digitsOf, Nat.toDigits_of_lt_base hd, hchar]
      rfl
    | cons c ds =>
      have hfront := ih (fun c' hc' => hds c' (List.mem_append_left _ hc')) (List.cons_ne_nil c ds)
        (by simpa using hzero)
      have hpos : natOfDigits (c :: ds) ≠ 0 := by
        intro h
        rw [h] at hfront
        exact hzero (by rw [← hfront]; rfl)
      have hquotient :
          (natOfDigits (c :: ds) * 10 + digitValue d) / 10 = natOfDigits (c :: ds) := by
        omega
      have hrest : (natOfDigits (c :: ds) * 10 + digitValue d) % 10 = digitValue d := by omega
      rw [digitsOf, Nat.toDigits_of_base_le (by decide) (by omega), hquotient, hrest, hchar]
      exact congrArg (· ++ [d]) hfront

end Dataflow.Decimal
