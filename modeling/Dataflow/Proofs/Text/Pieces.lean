import Dataflow.Text.Pieces
import Mathlib

/-!
# Pieces of a text

A text is cut at a separator as any list is (`splitOn_eq`). It is not cut at a mark of two
separators where only one stands between pieces (`cutAtText_intercalate`).
-/

namespace Dataflow.Text

variable {sep c : Char} {s piece : List Char} {pieces : List (List Char)}

/-- A text is cut at each occurrence of the separator. -/
lemma splitOn_eq (sep : Char) (s : List Char) : splitOn sep s = s.splitOn sep := by
  induction s with
  | nil => rfl
  | cons c s ih =>
    obtain ⟨first, more, hsplit⟩ := List.exists_cons_of_ne_nil (List.splitOn_ne_nil sep s)
    rw [splitOn, ih, List.splitOn_cons_eq_if_modifyHead, hsplit]
    rfl

/-- Pieces stand in the text that is put together from them. -/
lemma infix_intercalate (between : List Char) (hpiece : piece ∈ pieces) :
    piece <:+: List.intercalate between pieces := by
  induction pieces with
  | nil => cases hpiece
  | cons first more ih =>
    cases more with
    | nil =>
      obtain rfl := List.mem_singleton.mp hpiece
      rw [List.intercalate_singleton]
    | cons next more =>
      rw [List.intercalate_cons_cons, List.append_assoc]
      rcases List.mem_cons.mp hpiece with rfl | hpiece
      · exact (List.prefix_append _ _).isInfix
      · exact (ih hpiece).trans (List.suffix_append_of_suffix (List.suffix_append _ _)).isInfix

/-- The pieces of a text stand in it. -/
lemma infix_of_mem_splitOn (hpiece : piece ∈ splitOn sep s) : piece <:+: s := by
  rw [splitOn_eq] at hpiece
  have hstands := infix_intercalate [sep] hpiece
  rwa [List.intercalate_splitOn] at hstands

/-- The pieces of a text are made of its characters. -/
lemma mem_of_mem_splitOn (hpiece : piece ∈ splitOn sep s) (hc : c ∈ piece) : c ∈ s :=
  (infix_of_mem_splitOn hpiece).subset hc

/-- Two texts with a separator between them are cut as each of them is. -/
lemma splitOn_append_cons (sep : Char) (s t : List Char) :
    splitOn sep (s ++ sep :: t) = splitOn sep s ++ splitOn sep t := by
  rw [splitOn_eq, splitOn_eq, splitOn_eq, List.splitOn_append_cons_self]

/-- A text without separators in front belongs to the first piece. -/
lemma splitOn_append (hs : sep ∉ s) {t : List Char} (ht : splitOn sep t = piece :: pieces) :
    splitOn sep (s ++ t) = (s ++ piece) :: pieces := by
  induction s with
  | nil => exact ht
  | cons c s ih =>
    obtain ⟨hc, hs⟩ := not_or.mp (List.mem_cons.not.mp hs)
    rw [List.cons_append, splitOn, ih hs]
    exact if_neg (by simpa using Ne.symm hc)

/-- Pieces with a text between them are made of the characters of the pieces and of that text. -/
lemma mem_of_mem_intercalate {between : List Char} (hc : c ∈ List.intercalate between pieces) :
    c ∈ between ∨ ∃ piece ∈ pieces, c ∈ piece := by
  induction pieces with
  | nil => cases hc
  | cons piece pieces ih =>
    cases pieces with
    | nil =>
      rw [List.intercalate_singleton] at hc
      exact Or.inr ⟨piece, List.mem_cons_self, hc⟩
    | cons next more =>
      rw [List.intercalate_cons_cons, List.mem_append, List.mem_append] at hc
      rcases hc with (hc | hc) | hc
      · exact Or.inr ⟨piece, List.mem_cons_self, hc⟩
      · exact Or.inl hc
      · refine (ih hc).imp_right ?_
        rintro ⟨piece', hpiece', hc⟩
        exact ⟨piece', List.mem_cons_of_mem piece hpiece', hc⟩

/-- What is done to every character may as well be done to the pieces and what is between them. -/
lemma map_intercalate (f : Char → Char) (between : List Char) (pieces : List (List Char)) :
    (List.intercalate between pieces).map f =
      List.intercalate (between.map f) (pieces.map (List.map f)) := by
  induction pieces with
  | nil => rfl
  | cons piece pieces ih =>
    cases pieces with
    | nil => simp
    | cons next more =>
      rw [List.map_cons] at ih
      rw [List.intercalate_cons_cons, List.map_append, List.map_append, ih, List.map_cons,
        List.map_cons, List.intercalate_cons_cons]

/-- An empty piece at the end adds a separator. -/
lemma intercalate_concat_nil (hne : pieces ≠ []) :
    List.intercalate [sep] (pieces ++ [[]]) = List.intercalate [sep] pieces ++ [sep] := by
  induction pieces with
  | nil => exact absurd rfl hne
  | cons piece pieces ih =>
    cases pieces with
    | nil => simp [List.intercalate_cons_cons]
    | cons next more =>
      have hmore := ih (List.cons_ne_nil next more)
      rw [List.cons_append] at hmore
      rw [List.cons_append, List.cons_append, List.intercalate_cons_cons, hmore,
        List.intercalate_cons_cons, List.append_assoc, List.append_assoc, List.append_assoc]

/-- Where a mark stands in a text there is a first place where it does. -/
lemma exists_first {mark : List Char} (hne : mark ≠ []) (hmark : mark <:+: s) :
    ∃ before after, s = before ++ mark ++ after ∧ ¬ mark <:+: before := by
  classical
  have hplace : ∃ n, ∃ before after, s = before ++ mark ++ after ∧ before.length = n := by
    obtain ⟨before, after, hs⟩ := hmark
    exact ⟨before.length, before, after, hs.symm, rfl⟩
  obtain ⟨before, after, hs, hlength⟩ := Nat.find_spec hplace
  refine ⟨before, after, hs, ?_⟩
  rintro ⟨front, back, rfl⟩
  have hshorter : front.length < Nat.find hplace := by
    have := List.length_pos_iff.mpr hne
    simp only [List.length_append] at hlength
    omega
  exact Nat.find_min hplace hshorter ⟨front, back ++ mark ++ after, by simpa using hs, rfl⟩

/-- A text is cut at its first separator. -/
lemma cutAt_append (hpiece : sep ∉ piece) (s : List Char) :
    cutAt sep (piece ++ sep :: s) = some (piece, s) := by
  induction piece with
  | nil => simp [cutAt]
  | cons c piece ih =>
    obtain ⟨hc, hpiece⟩ := not_or.mp (List.mem_cons.not.mp hpiece)
    rw [List.cons_append, cutAt, if_neg (by simpa using Ne.symm hc), ih hpiece]
    rfl

/-- A text is not cut if it has no separator. -/
lemma cutAt_eq_none_iff : cutAt sep s = none ↔ sep ∉ s := by
  induction s with
  | nil => simp [cutAt]
  | cons c s ih =>
    rw [cutAt, List.mem_cons, not_or]
    by_cases hc : c = sep
    · rw [if_pos (by simpa using hc)]
      simp [hc]
    · rw [if_neg (by simpa using hc), Option.map_eq_none_iff, ih]
      simp [Ne.symm hc]

/-- What a text is cut into stands before and after its first separator. -/
lemma of_cutAt {before after : List Char} (h : cutAt sep s = some (before, after)) :
    s = before ++ sep :: after ∧ sep ∉ before := by
  have hsep : sep ∈ s := by
    by_contra hsep
    rw [cutAt_eq_none_iff.mpr hsep] at h
    cases h
  obtain ⟨front, back, rfl, hfront⟩ := List.eq_append_cons_of_mem hsep
  rw [cutAt_append hfront] at h
  obtain ⟨rfl, rfl⟩ := Prod.mk.inj (Option.some.inj h)
  exact ⟨rfl, hfront⟩

/-- Where a character stands in a text there is a last place where it does. -/
lemma exists_last (hc : c ∈ s) : ∃ front back, s = front ++ c :: back ∧ c ∉ back := by
  obtain ⟨back, front, hs, hback⟩ := List.eq_append_cons_of_mem (List.mem_reverse.mpr hc)
  refine ⟨front.reverse, back.reverse, ?_, by simpa using hback⟩
  rw [← List.reverse_reverse s, hs]
  simp

/-- A text ends with its last piece, to which what follows is added up to the next separator. -/
lemma exists_splitOn_append (sep : Char) (s : List Char) : ∃ pieces last,
    (∃ front, s = front ++ last ∧ (front = [] ∨ ∃ t, front = t ++ [sep])) ∧
      ∀ t, sep ∉ t → splitOn sep (s ++ t) = pieces ++ [last ++ t] := by
  by_cases hsep : sep ∈ s
  · obtain ⟨front, last, rfl, hlast⟩ := exists_last hsep
    refine ⟨splitOn sep front, last, ⟨front ++ [sep], by simp, .inr ⟨front, rfl⟩⟩, fun t ht => ?_⟩
    have hnone : sep ∉ last ++ t := by simp [hlast, ht]
    rw [List.append_assoc, List.cons_append, splitOn_append_cons, splitOn_eq sep (_ ++ _),
      List.splitOn_eq_singleton hnone]
  · refine ⟨[], s, ⟨[], rfl, .inl rfl⟩, fun t ht => ?_⟩
    rw [splitOn_eq, List.splitOn_eq_singleton (by simp [hsep, ht])]
    rfl

/-- What is left of a text follows its start. -/
lemma dropStart?_eq_some_iff {start after : List Char} :
    dropStart? start s = some after ↔ s = start ++ after := by
  induction start generalizing s with
  | nil => simp [dropStart?]
  | cons a start ih =>
    cases s with
    | nil => simp [dropStart?]
    | cons b s =>
      rw [dropStart?, List.cons_append, List.cons.injEq, ← ih]
      by_cases hab : a = b
      · simp [hab]
      · simp [hab, Ne.symm hab]

/-- A text is not cut at a mark that does not stand in it. -/
lemma cutAtText_eq_none {mark : List Char} (hmark : ¬ mark <:+: s) : cutAtText mark s = none := by
  have hne : mark ≠ [] := by
    rintro rfl
    exact hmark List.nil_infix
  induction s with
  | nil => simp [cutAtText, hne]
  | cons c s ih =>
    have hnone : dropStart? mark (c :: s) = none := by
      rw [Option.eq_none_iff_forall_ne_some]
      intro after hafter
      exact hmark ⟨[], after, (dropStart?_eq_some_iff.mp hafter).symm⟩
    rw [cutAtText, hnone]
    simp only [ih fun hstands => hmark (hstands.trans (List.suffix_cons c s).isInfix),
      Option.map_none]

/-- A text is what it is cut into, with the mark between. -/
lemma eq_of_cutAtText {mark before after : List Char}
    (h : cutAtText mark s = some (before, after)) : s = before ++ mark ++ after := by
  induction s generalizing before with
  | nil =>
    rw [cutAtText] at h
    split at h
    · rename_i hmark
      obtain ⟨rfl, rfl⟩ := Prod.mk.inj (Option.some.inj h)
      rw [List.isEmpty_iff.mp hmark]
      rfl
    · cases h
  | cons c s ih =>
    rw [cutAtText] at h
    split at h
    · rename_i rest hrest
      obtain ⟨rfl, rfl⟩ := Prod.mk.inj (Option.some.inj h)
      exact dropStart?_eq_some_iff.mp hrest
    · obtain ⟨⟨front, rest⟩, hcut, hself⟩ := Option.map_eq_some_iff.mp h
      obtain ⟨rfl, rfl⟩ := Prod.mk.inj hself
      rw [ih hcut]
      rfl

/-- A text that starts with the mark is cut there. -/
lemma cutAtText_start {mark : List Char} (hne : mark ≠ []) (s : List Char) :
    cutAtText mark (mark ++ s) = some ([], s) := by
  obtain ⟨c, rest, rfl⟩ := List.exists_cons_of_ne_nil hne
  have hstart : dropStart? (c :: rest) (c :: (rest ++ s)) = some s :=
    dropStart?_eq_some_iff.mpr rfl
  rw [List.cons_append, cutAtText, hstart]

/-- A text is cut behind a part without the separator. -/
lemma cutAtText_append (hpiece : sep ∉ piece) (s : List Char) :
    cutAtText [sep, sep] (piece ++ s) =
      (cutAtText [sep, sep] s).map fun cut => (piece ++ cut.1, cut.2) := by
  induction piece with
  | nil => simp
  | cons c piece ih =>
    obtain ⟨hc, hpiece⟩ := not_or.mp (List.mem_cons.not.mp hpiece)
    have hnone : dropStart? [sep, sep] (c :: (piece ++ s)) = none := by
      simp [dropStart?, hc]
    rw [List.cons_append, cutAtText, hnone]
    simp only [ih hpiece, Option.map_map]
    rfl

/-- A text is cut behind pieces with single separators between them. -/
lemma cutAtText_intercalate (hpieces : ∀ piece ∈ pieces, piece ≠ [] ∧ sep ∉ piece)
    (s : List Char) :
    cutAtText [sep, sep] (List.intercalate [sep] pieces ++ s) =
      (cutAtText [sep, sep] s).map fun cut => (List.intercalate [sep] pieces ++ cut.1, cut.2) := by
  induction pieces with
  | nil => simp [List.intercalate_nil]
  | cons piece pieces ih =>
    obtain ⟨⟨-, hpiece⟩, hpieces⟩ := List.forall_mem_cons.mp hpieces
    cases pieces with
    | nil => rw [List.intercalate_singleton, cutAtText_append hpiece]
    | cons next more =>
      -- the separator before the next piece is followed by a character of that piece
      obtain ⟨⟨hne, hnext⟩, -⟩ := List.forall_mem_cons.mp hpieces
      obtain ⟨d, tail, htail, hd⟩ : ∃ d tail,
          List.intercalate [sep] (next :: more) = d :: tail ∧ sep ≠ d := by
        obtain ⟨d, next', rfl⟩ := List.exists_cons_of_ne_nil hne
        have hd : sep ≠ d := (not_or.mp (List.mem_cons.not.mp hnext)).1
        cases more with
        | nil => exact ⟨d, next', List.intercalate_singleton, hd⟩
        | cons third more =>
          rw [List.intercalate_cons_cons]
          exact ⟨d, _, rfl, hd⟩
      have hnone : dropStart? [sep, sep] (sep :: (List.intercalate [sep] (next :: more) ++ s)) =
          none := by
        rw [htail]
        simp [dropStart?, hd]
      rw [List.intercalate_cons_cons, List.append_assoc, List.append_assoc,
        cutAtText_append hpiece, List.singleton_append, cutAtText, hnone]
      simp only [ih hpieces, Option.map_map]
      congr 1
      funext cut
      simp

end Dataflow.Text
