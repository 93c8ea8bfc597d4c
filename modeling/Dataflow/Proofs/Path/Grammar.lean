import Dataflow.Proofs.Path.Spelling

/-!
# The grammar of paths

A path that can be read is blank, or there is something between its dots each time: a key, with or
without bracket groups behind it, or bracket groups alone (`Path.Part`). A bracket group holds a
text of which something is left when blanks and then quotation marks are taken away at its ends
(`Path.Group`). What is read is the keys and the texts of the groups, in their order
(`Path.parse_eq_some_iff_parts`).
-/

namespace Dataflow.Path

variable {s part : List Char} {path : Path}

/-! ## Bracket groups -/

/-- The text in a bracket group, without the blanks and then the quotation marks around it. -/
def label (inner : List Char) : List Char := Text.stripWhile isQuote (Text.trim inner)

/-- A bracket group: it ends at its first closing bracket, and its label is not empty. -/
structure Group where
  inner : List Char
  closed : ']' ∉ inner
  label_ne_nil : label inner ≠ []

namespace Group

/-- The group as it is written. -/
def text (g : Group) : List Char := '[' :: (g.inner ++ [']'])

/-- The segment that the group stands for. -/
def segment (g : Group) : Segment := inBrackets (label g.inner)

/-- A group stands for an index if its label denotes one. -/
lemma segment_eq_index_iff (g : Group) (n : ℕ) :
    g.segment = .index n ↔ DenotesIndex (label g.inner) n := by
  rw [← readIndex_eq_some_iff, segment, inBrackets]
  cases readIndex (label g.inner) with
  | none => simp
  | some m => simp

/-- Any other group stands for its label as a key. -/
lemma toList_of_segment_eq_key (g : Group) {name : String} (h : g.segment = .key name) :
    name.toList = label g.inner := by
  rw [segment, inBrackets] at h
  cases hread : readIndex (label g.inner) with
  | none =>
    rw [hread] at h
    rw [← Segment.key.inj h, String.toList_ofList]
  | some n =>
    rw [hread] at h
    cases h

/-- A group is read as its segment. -/
lemma bracketSegment_inner (g : Group) : bracketSegment g.inner = some g.segment := by
  have hne : (label g.inner).isEmpty = false := List.isEmpty_eq_false_iff.mpr g.label_ne_nil
  rw [segment, inBrackets]
  unfold bracketSegment
  simp only
  rw [← label]
  cases readIndex (label g.inner) with
  | none => simp [hne]
  | some n => rfl

end Group

/-- What is read from brackets has a label. -/
lemma label_ne_nil_of_bracketSegment {inner : List Char} (h : bracketSegment inner ≠ none) :
    label inner ≠ [] := by
  intro hlabel
  refine h ?_
  unfold bracketSegment
  simp only
  rw [← label, hlabel]
  rfl

/-- Bracket groups are read as the segments that they stand for, and nothing else is read as bracket
groups. -/
lemma bracketSegments_eq_some_iff : bracketSegments s = some path ↔
    ∃ groups : List Group, s = groups.flatMap Group.text ∧ path = groups.map Group.segment := by
  constructor
  · intro h
    fun_induction bracketSegments s generalizing path with
    | case1 =>
      obtain rfl := Option.some.inj h
      exact ⟨[], rfl, rfl⟩
    | case2 rest hcut => cases h
    | case3 rest inner after hcut hlt ih =>
      obtain ⟨segment, hsegment, h⟩ := Option.bind_eq_some_iff.mp h
      obtain ⟨more, hmore, h⟩ := Option.bind_eq_some_iff.mp h
      obtain rfl := Option.some.inj h
      obtain ⟨rfl, hinner⟩ := Text.of_cutAt hcut
      obtain ⟨groups, rfl, rfl⟩ := ih hmore
      have hlabel : label inner ≠ [] := label_ne_nil_of_bracketSegment (by simp [hsegment])
      let g : Group := ⟨inner, hinner, hlabel⟩
      refine ⟨g :: groups, by simp [g, Group.text], ?_⟩
      have hg := g.bracketSegment_inner
      rw [hsegment] at hg
      rw [List.map_cons, Option.some.inj hg]
    | case4 rest inner after hcut hlt => cases h
    | case5 c rest hc => cases h
  · rintro ⟨groups, rfl, rfl⟩
    induction groups with
    | nil => exact bracketSegments_nil
    | cons g groups ih =>
      have htext : (g :: groups).flatMap Group.text =
          '[' :: (g.inner ++ ']' :: groups.flatMap Group.text) := by simp [Group.text]
      rw [htext, bracketSegments_group g.closed, g.bracketSegment_inner, ih]
      rfl

/-! ## Parts -/

/-- What can stand between two dots: a key, perhaps with bracket groups behind it, or bracket groups
alone. -/
structure Part where
  key : List Char
  groups : List Group
  key_ends : '[' ∉ key
  ne_nil : key ≠ [] ∨ groups ≠ []

namespace Part

/-- The part as it is written. -/
def text (p : Part) : List Char := p.key ++ p.groups.flatMap Group.text

/-- The segments of the part: its key, if it has one, and those of its groups. -/
def segments (p : Part) : Path :=
  (if p.key = [] then [] else [.key (String.ofList p.key)]) ++ p.groups.map Group.segment

end Part

/-- Groups start with a bracket, if there are any. -/
lemma opens_flatMap_text (groups : List Group) : Opens (groups.flatMap Group.text) := by
  cases groups with
  | nil => exact .inl rfl
  | cons g groups => exact .inr ⟨_, rfl⟩

/-- A part is read as its segments, and nothing else is read between two dots. -/
lemma partSegments_eq_some_iff : partSegments part = some path ↔
    ∃ p : Part, part = p.text ∧ path = p.segments := by
  constructor
  · intro h
    obtain ⟨key, rest, rfl, hkey, hrest⟩ := exists_key_groups part
    by_cases hne : key = []
    · subst hne
      rcases hrest with rfl | ⟨t, rfl⟩
      · cases h
      · rw [List.nil_append, partSegments_brackets] at h
        obtain ⟨groups, htext, rfl⟩ := bracketSegments_eq_some_iff.mp h
        have hgroups : groups ≠ [] := by
          rintro rfl
          cases htext
        exact ⟨⟨[], groups, hkey, .inr hgroups⟩, htext, rfl⟩
    · rw [partSegments_key hne hkey hrest] at h
      obtain ⟨more, hmore, rfl⟩ := Option.map_eq_some_iff.mp h
      obtain ⟨groups, rfl, rfl⟩ := bracketSegments_eq_some_iff.mp hmore
      exact ⟨⟨key, groups, hkey, .inl hne⟩, rfl, by simp [Part.segments, hne]⟩
  · rintro ⟨p, rfl, rfl⟩
    have hgroups := bracketSegments_eq_some_iff.mpr ⟨p.groups, rfl, rfl⟩
    by_cases hne : p.key = []
    · obtain ⟨g, groups, hcons⟩ :=
        List.exists_cons_of_ne_nil (p.ne_nil.resolve_left (not_not_intro hne))
      rw [Part.text, Part.segments, hne, if_pos rfl, List.nil_append, List.nil_append, ← hgroups,
        hcons]
      exact partSegments_brackets _
    · rw [Part.text, partSegments_key hne p.key_ends (opens_flatMap_text p.groups), hgroups,
        Part.segments, if_neg hne]
      rfl

/-- The texts between the dots are read if each of them is the text of a part. -/
lemma mapM_partSegments_eq_some_iff {texts : List (List Char)} {paths : List Path} :
    texts.mapM partSegments = some paths ↔
      ∃ parts : List Part, texts = parts.map Part.text ∧ paths = parts.map Part.segments := by
  rw [mapM_eq_some_iff]
  constructor
  · intro h
    induction h with
    | nil => exact ⟨[], rfl, rfl⟩
    | cons hpart _ ih =>
      obtain ⟨p, rfl, rfl⟩ := partSegments_eq_some_iff.mp hpart
      obtain ⟨parts, rfl, rfl⟩ := ih
      exact ⟨p :: parts, rfl, rfl⟩
  · rintro ⟨parts, rfl, rfl⟩
    rw [List.forall₂_map_left_iff, List.forall₂_map_right_iff, List.forall₂_same]
    exact fun p _ => partSegments_eq_some_iff.mpr ⟨p, rfl, rfl⟩

/-! ## Paths -/

/-- A part is not empty. -/
lemma Part.text_ne_nil (p : Part) : p.text ≠ [] := by
  rcases p.ne_nil with hkey | hgroups
  · exact List.append_ne_nil_of_left_ne_nil hkey _
  · obtain ⟨g, groups, hcons⟩ := List.exists_cons_of_ne_nil hgroups
    rw [Part.text, hcons]
    exact List.append_ne_nil_of_right_ne_nil _ (List.cons_ne_nil _ _)

/-- A text is read as a path if it is blank, or if there is a part between its dots each time, once
it is trimmed. The segments are the keys and the groups of the parts, in their order; a group is an
index if its label denotes one, and otherwise the key that its label is. -/
theorem parse_eq_some_iff_parts (text : List Char) :
    (∀ path, parse text = some path ↔ Text.trim text = [] ∧ path = [] ∨
      ∃ parts : List Part, (Text.trim text).splitOn '.' = parts.map Part.text ∧
        path = parts.flatMap Part.segments) ∧
    ∀ g : Group, (∀ n, g.segment = .index n ↔ DenotesIndex (label g.inner) n) ∧
      ∀ name, g.segment = .key name → name.toList = label g.inner := by
  refine ⟨fun path => ?_, fun g => ⟨g.segment_eq_index_iff, fun _ => g.toList_of_segment_eq_key⟩⟩
  unfold parse
  simp only [List.isEmpty_iff, Text.splitOn_eq]
  split
  · rename_i hblank
    have hparts : ∀ parts : List Part, [[]] ≠ parts.map Part.text := by
      intro parts htexts
      obtain ⟨p, -, hp⟩ := List.mem_map.mp (htexts ▸ List.mem_singleton_self [])
      exact p.text_ne_nil hp
    simp [hblank, hparts, eq_comm]
  · rename_i hblank
    simp only [hblank, false_and, false_or, Option.map_eq_some_iff, mapM_partSegments_eq_some_iff]
    constructor
    · rintro ⟨paths, ⟨parts, htexts, rfl⟩, rfl⟩
      exact ⟨parts, htexts, (List.flatMap_def).symm⟩
    · rintro ⟨parts, htexts, rfl⟩
      exact ⟨_, ⟨parts, htexts, rfl⟩, (List.flatMap_def).symm⟩

/-- Blanks within the quotation marks stay, and so an index there is a key. -/
example : parse " a[ ' 0' ][+1].b ".toList =
    some [.key "a", .key " 0", .index 1, .key "b"] := by cbv

end Dataflow.Path
