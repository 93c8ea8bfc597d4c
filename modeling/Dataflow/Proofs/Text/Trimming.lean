import Dataflow.Text.Blank
import Mathlib.Data.List.TakeWhile
import Mathlib.Tactic

/-!
# Trimmed texts

Trimming takes away the blanks in front of a text and behind it (`Tight.trim_between`), and nothing
of a text that has a character other than a blank at both ends (`Tight.trim_eq`). Such texts can be
put one after the other with anything between them (`Tight.append`).
-/

namespace Dataflow.Text

variable {p : Char → Bool} {s t front back : List Char}

/-- A text that is not empty and has no blank at either end. -/
structure Tight (s : List Char) : Prop where
  first : ∃ c t, s = c :: t ∧ isBlank c = false
  last : ∃ t d, s = t ++ [d] ∧ isBlank d = false

/-- The ASCII blanks are blanks. -/
lemma not_isAsciiBlank_of_not_isBlank {c : Char} (hc : isBlank c = false) :
    isAsciiBlank c = false := by
  by_contra h
  simp only [isAsciiBlank, Bool.not_eq_false, Bool.or_eq_true, beq_iff_eq] at h
  rcases h with (((rfl | rfl) | rfl) | rfl) | rfl <;> cases hc

/-- Nothing is stripped from a text without characters of the kind that is stripped. -/
lemma stripWhile_eq_self (hs : ∀ c ∈ s, p c = false) : stripWhile p s = s := by
  have hnone : ∀ t : List Char, (∀ c ∈ t, p c = false) → t.dropWhile p = t := by
    intro t ht
    cases t with
    | nil => rfl
    | cons c t => exact List.dropWhile_cons_of_neg (by simp [ht c List.mem_cons_self])
  rw [stripWhile, hnone s hs, dropEndWhile, hnone s.reverse fun c hc => hs c (by simpa using hc),
    List.reverse_reverse]

/-- What is left when characters are stripped is a piece of the text. -/
lemma infix_stripWhile (p : Char → Bool) (s : List Char) : stripWhile p s <:+: s := by
  have hend : dropEndWhile p (s.dropWhile p) <+: s.dropWhile p := by
    unfold dropEndWhile
    rw [← List.reverse_suffix, List.reverse_reverse]
    exact List.dropWhile_suffix p
  exact hend.isInfix.trans (List.dropWhile_suffix p).isInfix

/-- A trimmed text is a piece of the text. -/
lemma infix_trim (s : List Char) : trim s <:+: s :=
  infix_stripWhile isBlank s

/-- A text without blanks is not trimmed. -/
lemma tight_of_forall (hne : s ≠ []) (hs : ∀ c ∈ s, isBlank c = false) : Tight s where
  first := by
    obtain ⟨c, t, rfl⟩ := List.exists_cons_of_ne_nil hne
    exact ⟨c, t, rfl, hs c List.mem_cons_self⟩
  last := by
    obtain ⟨t, d, rfl⟩ := (List.eq_nil_or_concat s).resolve_left hne
    exact ⟨t, d, List.concat_eq_append, hs d (by simp)⟩

/-- Characters are dropped from the start up to one that is kept. -/
lemma dropWhile_append_cons {c : Char} (hc : p c = false) (s t : List Char) :
    (s ++ c :: t).dropWhile p = s.dropWhile p ++ c :: t := by
  rw [List.dropWhile_append]
  split
  · rename_i hnil
    rw [List.isEmpty_iff.mp hnil, List.dropWhile_cons_of_neg (by simp [hc])]
    rfl
  · rfl

/-- Characters are taken from the start up to one that is not. -/
lemma takeWhile_append_cons {c : Char} (hc : p c = false) (s t : List Char) :
    (s ++ c :: t).takeWhile p = s.takeWhile p := by
  rw [List.takeWhile_append, List.takeWhile_cons_of_neg (by simp [hc]), List.append_nil]
  split
  · rename_i hall
    exact (List.takeWhile_prefix p).eq_of_length hall |>.symm
  · rfl

/-- Characters are dropped from the end up to one that is kept. -/
lemma dropEndWhile_append_cons {c : Char} (hc : p c = false) (s t : List Char) :
    dropEndWhile p (s ++ c :: t) = s ++ c :: dropEndWhile p t := by
  have hrev : (s ++ c :: t).reverse = t.reverse ++ c :: s.reverse := by simp
  rw [dropEndWhile, hrev, dropWhile_append_cons hc, dropEndWhile]
  simp

/-- Characters that are kept are not dropped from the end, even if those behind them are. -/
lemma dropEndWhile_append (hs : ∀ c ∈ s, p c = false) (t : List Char) :
    dropEndWhile p (s ++ t) = s ++ dropEndWhile p t := by
  induction s with
  | nil => rfl
  | cons c s ih =>
    obtain ⟨hc, hs⟩ := List.forall_mem_cons.mp hs
    rw [List.cons_append, ← List.nil_append (c :: (s ++ t)), dropEndWhile_append_cons hc, ih hs]
    rfl

namespace Tight

lemma ne_nil (hs : Tight s) : s ≠ [] := by
  obtain ⟨c, t, rfl, -⟩ := hs.first
  exact List.cons_ne_nil c t

/-- A text between two tight ones is kept by them. -/
lemma append (hs : Tight s) (ht : Tight t) (between : List Char) : Tight (s ++ between ++ t) where
  first := by
    obtain ⟨c, u, rfl, hc⟩ := hs.first
    exact ⟨c, u ++ between ++ t, by simp, hc⟩
  last := by
    obtain ⟨u, d, rfl, hd⟩ := ht.last
    exact ⟨s ++ between ++ u, d, by simp, hd⟩

/-- Trimming takes the blanks around a tight text away. -/
lemma trim_between (hs : Tight s) (hfront : ∀ c ∈ front, isBlank c = true)
    (hback : ∀ c ∈ back, isBlank c = true) : trim (front ++ s ++ back) = s := by
  have hdrop : (front ++ s ++ back).dropWhile isBlank = s ++ back := by
    obtain ⟨c, t, rfl, hc⟩ := hs.first
    rw [List.append_assoc, List.dropWhile_append_of_pos hfront, List.cons_append,
      List.dropWhile_cons_of_neg (by simp [hc])]
  have hdropEnd : dropEndWhile isBlank (s ++ back) = s := by
    obtain ⟨t, d, rfl, hd⟩ := hs.last
    rw [dropEndWhile, List.reverse_append,
      List.dropWhile_append_of_pos fun c hc => hback c (List.mem_reverse.mp hc),
      List.reverse_append, List.reverse_singleton, List.singleton_append,
      List.dropWhile_cons_of_neg (by simp [hd])]
    simp
  rw [trim, stripWhile, hdrop, hdropEnd]

/-- A tight text is trimmed already. -/
lemma trim_eq (hs : Tight s) : trim s = s := by
  have hnone : ∀ c ∈ ([] : List Char), isBlank c = true := by simp
  simpa using hs.trim_between hnone hnone

end Tight

/-- A text that is not blank has a first character that is not. -/
lemma exists_first_not_blank (hs : ∃ c ∈ s, isBlank c = false) :
    ∃ front c t, s = front ++ c :: t ∧ isBlank c = false ∧ ∀ d ∈ front, isBlank d = true := by
  induction s with
  | nil =>
    obtain ⟨c, hc, -⟩ := hs
    cases hc
  | cons d s ih =>
    by_cases hd : isBlank d = true
    · obtain ⟨c, hc, hblank⟩ := hs
      have hmem : c ∈ s := by
        rcases List.mem_cons.mp hc with rfl | hc
        · rw [hd] at hblank
          cases hblank
        · exact hc
      obtain ⟨front, c, t, rfl, hc, hfront⟩ := ih ⟨c, hmem, hblank⟩
      exact ⟨d :: front, c, t, rfl, hc, List.forall_mem_cons.mpr ⟨hd, hfront⟩⟩
    · exact ⟨[], d, s, rfl, by simpa using hd, by simp⟩

/-- A text that starts with a character that is not blank is tight up to blanks at its end. -/
lemma exists_tight_append {c : Char} (hc : isBlank c = false) (s : List Char) :
    ∃ t back, c :: s = t ++ back ∧ Tight t ∧ ∀ d ∈ back, isBlank d = true := by
  obtain ⟨back, d, u, hlast, hd, hback⟩ :=
    exists_first_not_blank (s := (c :: s).reverse) ⟨c, by simp, hc⟩
  have htext : c :: s = (u.reverse ++ [d]) ++ back.reverse := by
    rw [← List.reverse_reverse (c :: s), hlast]
    simp
  refine ⟨u.reverse ++ [d], back.reverse, htext, ⟨?_, u.reverse, d, rfl, hd⟩,
    fun e he => hback e (List.mem_reverse.mp he)⟩
  cases hu : u.reverse with
  | nil => exact ⟨d, [], rfl, hd⟩
  | cons e v =>
    rw [hu] at htext
    obtain ⟨rfl, -⟩ := List.cons.inj htext
    exact ⟨c, v ++ [d], rfl, hc⟩

/-- A text that ends with a character that is not blank is tight up to blanks at its start. -/
lemma exists_append_tight {d : Char} (hd : isBlank d = false) (s : List Char) :
    ∃ front t, s ++ [d] = front ++ t ∧ Tight t ∧ ∀ c ∈ front, isBlank c = true := by
  obtain ⟨front, c, t, htext, hc, hfront⟩ := exists_first_not_blank (s := s ++ [d]) ⟨d, by simp, hd⟩
  refine ⟨front, c :: t, htext, ⟨⟨c, t, rfl, hc⟩, ?_⟩, hfront⟩
  obtain ⟨u, e, hu⟩ := (List.eq_nil_or_concat (c :: t)).resolve_left (List.cons_ne_nil c t)
  rw [List.concat_eq_append] at hu
  refine ⟨u, e, hu, ?_⟩
  rw [hu, ← List.append_assoc] at htext
  exact (List.append_singleton_inj.mp htext).2 ▸ hd

/-- A text that is not blank is tight between blanks. -/
lemma exists_tight (hs : ∃ c ∈ s, isBlank c = false) : ∃ front t back, s = front ++ t ++ back ∧
    Tight t ∧ (∀ c ∈ front, isBlank c = true) ∧ ∀ c ∈ back, isBlank c = true := by
  obtain ⟨front, c, t, rfl, hc, hfront⟩ := exists_first_not_blank hs
  obtain ⟨u, back, htext, hu, hback⟩ := exists_tight_append hc t
  exact ⟨front, u, back, by rw [htext, List.append_assoc], hu, hfront, hback⟩

/-- What is trimmed has the characters that are not blank. -/
lemma trim_ne_nil (hs : ∃ c ∈ s, isBlank c = false) : trim s ≠ [] := by
  obtain ⟨front, t, back, rfl, ht, hfront, hback⟩ := exists_tight hs
  rw [ht.trim_between hfront hback]
  exact ht.ne_nil

/-- Nothing is left of blanks. -/
lemma trim_eq_nil (hs : ¬ ∃ c ∈ s, isBlank c = false) : trim s = [] := by
  have hdrop : s.dropWhile isBlank = [] := by
    rw [List.dropWhile_eq_nil_iff]
    exact fun c hc => by simpa using fun hblank => hs ⟨c, hc, hblank⟩
  rw [trim, stripWhile, hdrop]
  rfl

/-- What is left when a text is trimmed is tight, if anything is left. -/
lemma tight_trim (hs : trim s ≠ []) : Tight (trim s) := by
  by_cases hblank : ∃ c ∈ s, isBlank c = false
  · obtain ⟨front, t, back, rfl, ht, hfront, hback⟩ := exists_tight hblank
    rwa [ht.trim_between hfront hback]
  · exact absurd (trim_eq_nil hblank) hs

/-- Trimming a second time changes nothing. -/
lemma trim_trim (s : List Char) : trim (trim s) = trim s := by
  by_cases hs : trim s = []
  · rw [hs]
    rfl
  · exact (tight_trim hs).trim_eq

end Dataflow.Text
