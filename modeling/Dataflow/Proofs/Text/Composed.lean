import Dataflow.Text.Composed
import Dataflow.Proofs.Text.Characters

/-!
# Composed texts

Composing a text leaves ASCII texts alone and makes no others into ASCII texts: a character beyond
ASCII has a part beyond it (`goesBeyond_partsOf`), putting marks in order loses none of them
(`orderMarks_perm`), and no two characters make up an ASCII one (`beyond_of_composite?`). So a text
whose composed form is ASCII is that form already (`eq_of_isAscii_composed`).
-/

namespace Dataflow.Text

variable {a b c : Char} {s : List Char}

/-- The text holds a character beyond ASCII. -/
def GoesBeyond (s : List Char) : Prop := ∃ c ∈ s, 0x80 ≤ c.toNat

/-- A text is ASCII or goes beyond it. -/
lemma goesBeyond_iff : GoesBeyond s ↔ isAscii s = false := by
  rw [← Bool.not_eq_true, isAscii, List.all_eq_true]
  unfold GoesBeyond
  push Not
  simp

/-- A text goes beyond ASCII if a part of it does. -/
lemma GoesBeyond.mono {t : List Char} (h : GoesBeyond s) (hst : s ⊆ t) : GoesBeyond t := by
  obtain ⟨c, hc, hbeyond⟩ := h
  exact ⟨c, hst hc, hbeyond⟩

/-! ## Taking apart -/

/-- The marks of compositions and the characters that they make up are beyond ASCII. -/
lemma beyond_of_mem_compositions : ∀ composition ∈ compositions,
    0x80 ≤ composition.mark.toNat ∧ 0x80 ≤ composition.whole.toNat := by
  decide +kernel

/-- The second part of a syllable is beyond ASCII. -/
lemma beyond_of_syllableParts? (h : syllableParts? c = some (a, b)) : 0x80 ≤ b.toNat := by
  unfold syllableParts? at h
  extract_lets n i at h
  split at h
  · cases h
  · split at h
    · obtain rfl := (Prod.mk.inj (Option.some.inj h)).2
      have hvowel : i % 588 / 28 < 21 := by omega
      rw [toNat_ofNat (by omega)]
      omega
    · obtain rfl := (Prod.mk.inj (Option.some.inj h)).2
      have htrailing : i % 28 < 28 := Nat.mod_lt _ (by decide)
      rw [toNat_ofNat (by omega)]
      omega

/-- A character beyond ASCII has a part beyond it. -/
lemma goesBeyond_partsOf (hc : 0x80 ≤ c.toNat) : GoesBeyond (partsOf c) := by
  unfold partsOf
  split
  · rename_i a b hparts
    exact ⟨b, by simp, beyond_of_syllableParts? hparts⟩
  · split
    · rename_i composition hfind
      have hmem := List.mem_of_find?_eq_some hfind
      exact ⟨composition.mark, by simp, (beyond_of_mem_compositions composition hmem).1⟩
    · exact ⟨c, by simp, hc⟩

/-- Taking characters apart leaves some beyond ASCII. -/
lemma GoesBeyond.flatMap_partsOf (h : GoesBeyond s) : GoesBeyond (s.flatMap partsOf) := by
  obtain ⟨c, hc, hbeyond⟩ := h
  exact (goesBeyond_partsOf hbeyond).mono fun d hd => List.mem_flatMap_of_mem hc hd

/-! ## Putting in order -/

/-- Putting a character in front loses none. -/
lemma putMark_perm (c : Char) (s : List Char) : (putMark c s).Perm (c :: s) := by
  induction s with
  | nil => exact .refl _
  | cons d rest ih =>
    rw [putMark]
    split
    · exact (ih.cons d).trans (.swap c d rest)
    · exact .refl _

/-- Putting marks in order loses none. -/
lemma orderMarks_perm (s : List Char) : (orderMarks s).Perm s := by
  induction s with
  | nil => exact .refl _
  | cons c s ih => exact (putMark_perm c (orderMarks s)).trans (ih.cons c)

/-! ## Putting together -/

/-- A syllable is beyond ASCII. -/
lemma beyond_of_syllable? (h : syllable? a b = some c) : 0x80 ≤ c.toNat := by
  unfold syllable? at h
  extract_lets m n at h
  split at h
  · rename_i hletters
    simp only [Bool.and_eq_true, decide_eq_true_eq] at hletters
    obtain rfl := Option.some.inj h
    rw [toNat_ofNat (by omega)]
    omega
  · split at h
    · rename_i hletters
      simp only [Bool.and_eq_true, decide_eq_true_eq] at hletters
      obtain rfl := Option.some.inj h
      rw [toNat_ofNat (by omega)]
      omega
    · cases h

/-- No two characters make up an ASCII one. -/
lemma beyond_of_composite? (h : composite? a b = some c) : 0x80 ≤ c.toNat := by
  unfold composite? at h
  split at h
  · rename_i whole hsyllable
    obtain rfl := Option.some.inj h
    exact beyond_of_syllable? hsyllable
  · obtain ⟨composition, hfind, rfl⟩ := Option.map_eq_some_iff.mp h
    exact (beyond_of_mem_compositions composition (List.mem_of_find?_eq_some hfind)).2

/-- Putting a letter together with what follows leaves characters beyond ASCII, if there are any. -/
lemma goesBeyond_composeFrom (letter : Char) (passed s : List Char)
    (h : GoesBeyond (letter :: passed ++ s)) : GoesBeyond (composeFrom letter passed s) := by
  induction s generalizing letter passed with
  | nil => rwa [List.append_nil] at h
  | cons c rest ih =>
    rw [composeFrom]
    split
    · rename_i whole hwhole
      -- the character that the two make up is beyond ASCII in any case
      have hbeyond : 0x80 ≤ whole.toNat := by
        split at hwhole
        · exact beyond_of_composite? hwhole
        · cases hwhole
      exact ih whole passed ⟨whole, by simp, hbeyond⟩
    · split
      · obtain ⟨d, hd, hbeyond⟩ := h
        rcases List.mem_append.mp hd with hd | hd
        · exact ⟨d, List.mem_append_left _ hd, hbeyond⟩
        · have hrest : GoesBeyond (composeFrom c [] rest) := ih c [] ⟨d, by simpa using hd, hbeyond⟩
          exact hrest.mono (List.subset_append_right _ _)
      · exact ih letter (passed ++ [c]) (h.mono fun d => by simp)

/-- Composing leaves characters beyond ASCII, if there are any. -/
lemma GoesBeyond.compose (h : GoesBeyond s) : GoesBeyond (compose s) := by
  induction s with
  | nil => exact h
  | cons c rest ih =>
    rw [Text.compose]
    split
    · exact goesBeyond_composeFrom c [] rest h
    · obtain ⟨d, hd, hbeyond⟩ := h
      rcases List.mem_cons.mp hd with rfl | hd
      · exact ⟨d, List.mem_cons_self, hbeyond⟩
      · exact (ih ⟨d, hd, hbeyond⟩).mono (List.subset_cons_self _ _)

/-! ## Composed texts -/

/-- An ASCII text is composed already. -/
lemma composed_eq (h : isAscii s = true) : composed s = s := if_pos h

/-- A text whose composed form is ASCII is that form already. -/
lemma eq_of_isAscii_composed (h : isAscii (composed s) = true) : composed s = s := by
  by_cases hs : isAscii s = true
  · exact composed_eq hs
  · have hbeyond : GoesBeyond s := goesBeyond_iff.mpr (by simpa using hs)
    have hparts : GoesBeyond (takeApart s) := hbeyond.flatMap_partsOf.flatMap_partsOf
    have hmarks : GoesBeyond (orderMarks (takeApart s)) :=
      hparts.mono (orderMarks_perm _).symm.subset
    rw [composed, if_neg hs, goesBeyond_iff.mp hmarks.compose] at h
    cases h

end Dataflow.Text
