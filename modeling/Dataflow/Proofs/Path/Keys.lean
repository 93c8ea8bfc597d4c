import Dataflow.Path
import Dataflow.Proofs.Results
import Dataflow.Proofs.Text.Pieces
import Dataflow.Proofs.Text.Trimming

/-!
# The keys of a path

The keys of a path are read off its text by cutting and trimming, so each of them stands in the text
(`Path.infix_of_parse`). What a path leads to among named values is thus known from the values of
the names in its text (`Fields.at?_congr`).
-/

namespace Dataflow

namespace Path

variable {s inner part : List Char} {path : Path} {name : String}

/-- A key in brackets stands between them. -/
lemma infix_of_bracketSegment (h : bracketSegment inner = some (.key name)) :
    name.toList <:+: inner := by
  unfold bracketSegment at h
  simp only at h
  split at h
  · cases h
  · split at h
    · cases h
    · obtain rfl := Segment.key.inj (Option.some.inj h)
      rw [String.toList_ofList]
      exact (Text.infix_stripWhile isQuote _).trans (Text.infix_trim inner)

/-- The keys in bracket groups stand in them. -/
lemma infix_of_bracketSegments (h : bracketSegments s = some path) (hname : .key name ∈ path) :
    name.toList <:+: s := by
  fun_induction bracketSegments s generalizing path with
  | case1 =>
    obtain rfl := Option.some.inj h
    cases hname
  | case2 rest hcut => cases h
  | case3 rest inner after hcut hlt ih =>
    obtain ⟨segment, hsegment, h⟩ := Option.bind_eq_some_iff.mp h
    obtain ⟨more, hmore, h⟩ := Option.bind_eq_some_iff.mp h
    obtain rfl := Option.some.inj h
    obtain ⟨rfl, -⟩ := Text.of_cutAt hcut
    rcases List.mem_cons.mp hname with rfl | hname
    · have hinner := infix_of_bracketSegment hsegment
      exact hinner.trans ⟨['['], ']' :: after, by simp⟩
    · exact (ih hmore hname).trans ⟨'[' :: (inner ++ [']']), [], by simp⟩
  | case4 rest inner after hcut hlt => cases h
  | case5 c rest hc => cases h

/-- The keys of the text between two dots stand in it. -/
lemma infix_of_partSegments (h : partSegments part = some path) (hname : .key name ∈ path) :
    name.toList <:+: part := by
  have hbrackets : part.dropWhile (· != '[') <:+: part := (List.dropWhile_suffix _).isInfix
  unfold partSegments at h
  simp only at h
  split at h
  · split at h
    · cases h
    · exact (infix_of_bracketSegments h hname).trans hbrackets
  · obtain ⟨more, hmore, rfl⟩ := Option.map_eq_some_iff.mp h
    rcases List.mem_cons.mp hname with hkey | hname
    · obtain rfl := Segment.key.inj hkey
      rw [String.toList_ofList]
      exact (List.takeWhile_prefix _).isInfix
    · exact (infix_of_bracketSegments hmore hname).trans hbrackets

/-- The keys of a path stand in its text. -/
lemma infix_of_parse (h : parse s = some path) (hname : .key name ∈ path) :
    name.toList <:+: s := by
  unfold parse at h
  simp only at h
  split at h
  · obtain rfl := Option.some.inj h
    cases hname
  · obtain ⟨segments, hsegments, rfl⟩ := Option.map_eq_some_iff.mp h
    obtain ⟨segment, hsegment, hmem⟩ := List.mem_flatten.mp hname
    obtain ⟨part, hpart, hread⟩ := exists_of_mem_mapM hsegments hsegment
    have hstands := infix_of_partSegments hread hmem
    exact (hstands.trans (Text.infix_of_mem_splitOn hpart)).trans (Text.infix_trim s)

end Path

/-- No path leads anywhere among no values. -/
lemma Fields.at?_nil (path : List Char) : Fields.at? [] path = none := by
  unfold Fields.at?
  split
  · rfl
  · rfl

/-- A path leads to the same among two collections of named values that agree on the names in its
text. -/
lemma Fields.at?_congr {context context' : Fields} {s : List Char}
    (h : ∀ name : String, name.toList <:+: s →
      Keyed.value? context name = Keyed.value? context' name) :
    Fields.at? context s = Fields.at? context' s := by
  unfold Fields.at?
  cases hparse : Path.parse s with
  | none => rfl
  | some path =>
    cases path with
    | nil => rfl
    | cons segment rest =>
      cases segment with
      | index n => rfl
      | key name =>
        have hname := h name (Path.infix_of_parse hparse List.mem_cons_self)
        simp only [hname]

end Dataflow
