import Dataflow.Decode.Mismatch
import Dataflow.Proofs.Json.Scan
import Dataflow.Proofs.Text.Characters
import Dataflow.Proofs.Text.Pieces

/-!
# Messages that announce no missing field

A message quotes texts that it found, so it may hold any words that these hold, the words that
announce a missing field among them. It holds them for no other reason: a message that is put
together from silent texts is silent (`Silent`), because what stands between these texts tears the
words apart, and quoting leaves letters as they are (`silent_shown`).
-/

namespace Dataflow

variable {s t : List Char} {c : Char}

/-- The words that announce a missing field do not stand in the text. -/
def Silent (s : List Char) : Prop := ¬ "missing field `".toList <:+: s

instance : DecidablePred Silent := fun s =>
  inferInstanceAs (Decidable (¬ "missing field `".toList <:+: s))

namespace Silent

/-- The words start with a letter that stands nowhere else. -/
lemma of_not_mem (hs : 'm' ∉ s) : Silent s := fun h => hs (h.subset (by decide))

/-- Parts of silent texts are silent. -/
lemma mono (ht : Silent t) (h : s <:+: t) : Silent s := fun hs => ht (hs.trans h)

/-- A character that the words do not start with may be put before a silent text. -/
lemma cons (hc : c ≠ 'm') (hs : Silent s) : Silent (c :: s) := by
  intro h
  rcases List.infix_cons_iff.mp h with h | h
  · exact hc (List.cons_prefix_cons.mp h).1.symm
  · exact hs h

/-- A text without that letter may be put before a silent one. -/
lemma append_left (hs : 'm' ∉ s) (ht : Silent t) : Silent (s ++ t) := by
  induction s with
  | nil => exact ht
  | cons c s ih =>
    obtain ⟨hc, hs⟩ := not_or.mp (List.mem_cons.not.mp hs)
    exact (ih hs).cons (Ne.symm hc)

/-- Two silent texts may be put together with a character between them that is not in the words. -/
lemma append_cons (hs : Silent s) (hc : c ∉ "missing field `".toList) (ht : Silent t) :
    Silent (s ++ c :: t) := by
  induction s with
  | nil => exact ht.cons fun h => hc (h ▸ by decide)
  | cons a s ih =>
    intro h
    rcases List.infix_cons_iff.mp h with h | h
    · -- words that start here end before the character
      have hlonger : a :: s ++ [c] <+: a :: (s ++ c :: t) := ⟨t, by simp⟩
      rcases List.prefix_or_prefix_of_prefix h hlonger with h | h
      · rcases List.prefix_concat_iff.mp h with h | h
        · exact hc (h ▸ by simp)
        · exact hs h.isInfix
      · exact hc (h.subset (by simp))
    · exact ih (hs.mono (List.suffix_cons a s).isInfix) h

end Silent

/-! ### Quoted texts -/

/-- A character is shown as it is, or as an escape without the letter that the words start with. -/
lemma shownChar_cases (c : Char) :
    Text.shownChar c = [c] ∨ ∃ rest, Text.shownChar c = '\\' :: rest ∧ 'm' ∉ rest := by
  have hescape {rest : List Char} (hrest : 'm' ∉ rest) :
      '\\' :: rest = [c] ∨ ∃ rest', '\\' :: rest = '\\' :: rest' ∧ 'm' ∉ rest' :=
    .inr ⟨rest, rfl, hrest⟩
  unfold Text.shownChar
  split_ifs
  · exact hescape (by decide)
  · exact hescape (by decide)
  · exact hescape (by decide)
  · exact hescape (by decide)
  · exact hescape (by decide)
  · exact hescape (by decide)
  · exact .inl rfl
  · refine hescape fun hm => ?_
    have hdigits : 'm' ∉ Nat.toDigits 16 c.toNat := by
      intro hm
      obtain ⟨d, hd, hdigit⟩ := Text.exists_digit_of_mem_toDigits (by decide) hm
      have hall : ∀ d < 16, 'm' ≠ d.digitChar := by decide
      exact hall d hd hdigit
    simp [Text.bracedCodePoint, hdigits] at hm

/-- What a quoted text starts with, if it holds no escape, the text starts with, too. -/
lemma prefix_of_prefix_shown (hs : '\\' ∉ s) (h : s <+: t.flatMap Text.shownChar) : s <+: t := by
  induction t generalizing s with
  | nil => exact h
  | cons c t ih =>
    cases s with
    | nil => exact List.nil_prefix
    | cons a s =>
      obtain ⟨ha, hs⟩ := not_or.mp (List.mem_cons.not.mp hs)
      rw [List.flatMap_cons] at h
      rcases shownChar_cases c with hc | ⟨rest, hc, -⟩
      · rw [hc, List.singleton_append, List.cons_prefix_cons] at h
        exact List.cons_prefix_cons.mpr ⟨h.1, ih hs h.2⟩
      · rw [hc, List.cons_append, List.cons_prefix_cons] at h
        exact absurd h.1.symm ha

/-- A silent text is silent when it is quoted, too. -/
lemma silent_shown {text : String} (htext : Silent text.toList) :
    Silent (Text.shown text).toList := by
  have hbody : ∀ {s : List Char}, Silent s → Silent (s.flatMap Text.shownChar) := by
    intro s hs
    induction s with
    | nil => exact hs
    | cons c s ih =>
      have hrest := ih (hs.mono (List.suffix_cons c s).isInfix)
      rcases shownChar_cases c with hc | ⟨rest, hc, hm⟩
      · intro h
        rw [List.flatMap_cons, hc, List.singleton_append] at h
        rcases List.infix_cons_iff.mp h with h | h
        · refine hs (prefix_of_prefix_shown (by decide) ?_).isInfix
          rwa [List.flatMap_cons, hc, List.singleton_append]
        · exact hrest h
      · rw [List.flatMap_cons, hc]
        exact hrest.append_left (by simpa using hm)
  rw [Text.shown, String.toList_ofList]
  exact .cons (by decide) ((hbody htext).append_cons (by decide) (.of_not_mem (by decide)))

/-! ### Numbers in messages -/

/-- A natural number is written without letters. -/
lemma not_mem_digitsOf (n : ℕ) : 'm' ∉ Decimal.digitsOf n := fun h =>
  absurd (Decimal.isDigit_of_mem_digitsOf h) (by decide)

lemma not_mem_wholeText (n : ℤ) : 'm' ∉ Number.wholeText n := by
  unfold Number.wholeText
  split <;> simp [not_mem_digitsOf]

lemma not_mem_positional (d : Decimal.Scientific) : 'm' ∉ d.positional := by
  have hdigits := not_mem_digitsOf d.digits
  unfold Decimal.Scientific.positional
  dsimp only
  split
  · simp [hdigits]
  · split
    · rw [List.mem_append, List.mem_cons]
      rintro (h | h | h)
      · exact hdigits (List.mem_of_mem_take h)
      · exact absurd h (by decide)
      · exact hdigits (List.mem_of_mem_drop h)
    · simp [hdigits]

lemma not_mem_positionalText (x : Float) : 'm' ∉ (positionalText x).toList := by
  have hpositional := not_mem_positional (Decimal.Dyadic.ofFloat x).shortest
  unfold positionalText
  dsimp only
  rw [String.toList_ofList]
  split <;> split <;> simp [hpositional]

/-! ### Mismatches -/

namespace Mismatch

/-- The message of the mismatch announces no missing field. -/
def Silent (m : Mismatch) : Prop := Dataflow.Silent m.message.toList

instance : DecidablePred Silent := fun m =>
  inferInstanceAs (Decidable (Dataflow.Silent m.message.toList))

variable {found expected : String}

/-- A message that says what was found and what was expected is silent if the former is. -/
lemma silent_found (start : String) (hstart : 'm' ∉ start.toList)
    (hfound : Dataflow.Silent found.toList) (hexpected : 'm' ∉ expected.toList) :
    Dataflow.Silent (start ++ found ++ ", expected " ++ expected).toList := by
  have hmiddle : ", expected ".toList = ',' :: " expected ".toList := by decide
  rw [String.toList_append, String.toList_append, String.toList_append, hmiddle, List.append_assoc,
    List.append_assoc, List.cons_append]
  refine .append_left hstart (hfound.append_cons (by decide) ?_)
  exact .append_left (by decide) (.of_not_mem hexpected)

lemma silent_invalidType (hfound : Dataflow.Silent found.toList)
    (hexpected : 'm' ∉ expected.toList) : (invalidType found expected).Silent :=
  silent_found "invalid type: " (by decide) hfound hexpected

lemma silent_invalidValue (hfound : Dataflow.Silent found.toList)
    (hexpected : 'm' ∉ expected.toList) : (invalidValue found expected).Silent :=
  silent_found "invalid value: " (by decide) hfound hexpected

/-- A silent mismatch at a silent path is silent. -/
lemma Silent.located {path : String} {m : Mismatch} (hpath : Dataflow.Silent path.toList)
    (hm : m.Silent) : (Mismatch.located path m).Silent := by
  have hmessage : (Mismatch.located path m).message = path ++ ": " ++ m.message := rfl
  have hmiddle : ": ".toList = [':', ' '] := by decide
  rw [Silent, hmessage, String.toList_append, String.toList_append, hmiddle, List.append_assoc]
  exact hpath.append_cons (by decide) (Dataflow.Silent.cons (by decide) hm)

end Mismatch

end Dataflow
