import Dataflow.Template
import Mathlib

/-!
# Layouts of templates

A template is laid out as chunks of text with placeholders between them, where no placeholder is
written in a chunk by itself (`Layout`); every template has such a layout (`exists_layout`).
Rendering leaves the chunks as they are and replaces each placeholder of the layout by the text of
its value, which is not read again (`render_layout`).

The reason is that a placeholder starts with two opening braces and has none after them. So a
placeholder that starts in a chunk cannot reach into the one behind the chunk, whatever braces the
chunk ends with (`placeholderAt_append`), and the pieces of a template are those of its layout
(`Layout.pieces_text`).
-/

namespace Dataflow.Template

/-! ## Placeholders -/

/-- The blanks of ASCII. -/
def blanks : List Char := [' ', '\t', '\n', '\x0b', '\x0c', '\r']

/-- A placeholder as it is written: a path between blanks between braces. -/
structure Slot where
  before : List Char
  path : List Char
  after : List Char
  before_blank : ∀ c ∈ before, c ∈ blanks
  path_ne_nil : path ≠ []
  path_plain : ∀ c ∈ path, c ≠ '{' ∧ c ≠ '}' ∧ c ∉ blanks
  after_blank : ∀ c ∈ after, c ∈ blanks

namespace Slot

/-- The characters between the braces of a placeholder, its closing braces, and what follows. -/
def body (slot : Slot) (rest : List Char) : List Char :=
  slot.before ++ (slot.path ++ (slot.after ++ '}' :: '}' :: rest))

/-- The text of a placeholder. -/
def text (slot : Slot) : List Char := '{' :: '{' :: slot.body []

/-- What stands for a placeholder in a rendered template: the text of the value that its path leads
to, percent-encoded in a URL, or the placeholder itself if the path leads nowhere. -/
def value (inputs : Fields) (encoding : Encoding) (slot : Slot) : List Char :=
  match Fields.at? inputs slot.path with
  | none => slot.text
  | some v => match encoding with
    | .plain => v.plainText.toList
    | .url => Text.percentEncode Text.isUnreserved v.plainText.toList

end Slot

variable {s chunk rest path : List Char} {c : Char} {slot : Slot}

/-- The blanks next to the braces of a placeholder are those of ASCII. -/
lemma isSpace_iff : isSpace c = true ↔ c ∈ blanks := by
  have hcode : ∀ d : Char, c = d ↔ c.toNat = d.toNat := fun d => Char.toNat_inj.symm
  simp only [isSpace, blanks, Bool.or_eq_true, beq_iff_eq, Bool.and_eq_true, decide_eq_true_eq,
    List.mem_cons, List.not_mem_nil, or_false, hcode]
  have h9 : '\t'.toNat = 9 := rfl
  have h10 : '\n'.toNat = 10 := rfl
  have h11 : '\x0b'.toNat = 11 := rfl
  have h12 : '\x0c'.toNat = 12 := rfl
  have h13 : '\r'.toNat = 13 := rfl
  omega

/-- A path is made of the characters that are neither braces nor blanks. -/
lemma isPathChar_iff : isPathChar c = true ↔ c ≠ '{' ∧ c ≠ '}' ∧ c ∉ blanks := by
  simp only [isPathChar, Bool.and_eq_true, bne_iff_ne, Bool.not_eq_true', ← isSpace_iff,
    Bool.not_eq_true, and_assoc]

/-- A first part that has a property all over ends where the property does. -/
lemma takeWhile_dropWhile_append {p : Char → Bool} {front : List Char} (back : List Char)
    (hfront : ∀ d ∈ front, p d = true) (hback : ∀ d, back.head? = some d → p d = false) :
    (front ++ back).takeWhile p = front ∧ (front ++ back).dropWhile p = back := by
  rw [List.takeWhile_append_of_pos hfront, List.dropWhile_append_of_pos hfront]
  cases back with
  | nil => simp
  | cons d back => simp [hback d rfl]

/-- The body of a placeholder is read as its path, whatever follows it. -/
lemma placeholderBody_body (slot : Slot) (rest : List Char) :
    placeholderBody (slot.body rest) = some (slot.path, rest) := by
  have hpath : ∀ d ∈ slot.path, isPathChar d = true := fun d hd =>
    isPathChar_iff.mpr (slot.path_plain d hd)
  have hbefore := takeWhile_dropWhile_append (slot.path ++ (slot.after ++ '}' :: '}' :: rest))
    (fun d hd => isSpace_iff.mpr (slot.before_blank d hd)) (by
      intro d hd
      rw [List.head?_append_of_ne_nil _ slot.path_ne_nil] at hd
      have hplain := slot.path_plain d (List.mem_of_mem_head? hd)
      exact Bool.eq_false_iff.mpr fun h => hplain.2.2 (isSpace_iff.mp h))
  have hinner := takeWhile_dropWhile_append (slot.after ++ '}' :: '}' :: rest) hpath (by
      intro d hd
      refine Bool.eq_false_iff.mpr fun h => ?_
      obtain ⟨-, hclose, hblank⟩ := isPathChar_iff.mp h
      by_cases hafter : slot.after = []
      · rw [hafter] at hd
        exact hclose (Option.some.inj hd).symm
      · rw [List.head?_append_of_ne_nil _ hafter] at hd
        exact hblank (slot.after_blank d (List.mem_of_mem_head? hd)))
  have hafter := takeWhile_dropWhile_append ('}' :: '}' :: rest)
    (fun d hd => isSpace_iff.mpr (slot.after_blank d hd)) (by
      intro d hd
      rw [← Option.some.inj hd]
      rfl)
  simp only [placeholderBody, Slot.body, hbefore.2, hinner.1, hinner.2, hafter.2]
  rw [if_neg (by simp [slot.path_ne_nil])]

/-- What is read as the body of a placeholder is one. -/
lemma exists_body_of_placeholderBody (h : placeholderBody s = some (path, rest)) :
    ∃ slot : Slot, slot.path = path ∧ s = slot.body rest := by
  unfold placeholderBody at h
  simp only at h
  split at h
  · rename_i rest' hclosing
    split at h
    · cases h
    · rename_i hne
      obtain ⟨rfl, rfl⟩ := Prod.mk.inj (Option.some.inj h)
      refine ⟨⟨s.takeWhile isSpace, _,
        ((s.dropWhile isSpace).dropWhile isPathChar).takeWhile isSpace,
        fun d hd => isSpace_iff.mp (List.mem_takeWhile_imp hd), by simpa using hne,
        fun d hd => isPathChar_iff.mp (List.mem_takeWhile_imp hd),
        fun d hd => isSpace_iff.mp (List.mem_takeWhile_imp hd)⟩, rfl, ?_⟩
      simp only [Slot.body, ← hclosing, List.takeWhile_append_dropWhile]
  · cases h

/-- A placeholder stands at the start of a text exactly if one is written there. -/
lemma placeholderAt_eq_some_iff :
    placeholderAt s = some (path, rest) ↔
      ∃ slot : Slot, slot.path = path ∧ s = '{' :: '{' :: slot.body rest := by
  constructor
  · intro h
    unfold placeholderAt at h
    split at h
    · obtain ⟨slot, hpath, hbody⟩ := exists_body_of_placeholderBody h
      exact ⟨slot, hpath, by rw [hbody]⟩
    · cases h
  · rintro ⟨slot, rfl, rfl⟩
    exact placeholderBody_body slot rest

namespace Slot

/-- The text of a placeholder with what follows it. -/
lemma text_append (slot : Slot) (rest : List Char) :
    slot.text ++ rest = '{' :: '{' :: slot.body rest := by
  simp [text, body]

/-- A placeholder has no opening brace behind the two at its start. -/
lemma not_mem_body (slot : Slot) : '{' ∉ slot.body [] := by
  have hblank : '{' ∉ blanks := by decide
  intro hmem
  simp only [body, List.mem_append, List.mem_cons, List.not_mem_nil] at hmem
  rcases hmem with hbefore | hpath | hafter | hclosing
  · exact hblank (slot.before_blank _ hbefore)
  · exact (slot.path_plain _ hpath).1 rfl
  · exact hblank (slot.after_blank _ hafter)
  · simp at hclosing

/-- A placeholder does not end with its opening braces. -/
lemma body_ne_nil (slot : Slot) : slot.body [] ≠ [] := by
  simp [body]

end Slot

/-! ## Chunks -/

/-- A text in which no placeholder is written. -/
def Plain (s : List Char) : Prop := ∀ slot : Slot, ¬ slot.text <:+: s

/-- The end of a plain text is plain. -/
lemma Plain.tail (hs : Plain (c :: s)) : Plain s :=
  fun slot h => hs slot (h.trans (List.suffix_cons c s).isInfix)

/-- A plain text stays plain behind a character, unless a placeholder starts with it. -/
lemma Plain.cons (hs : Plain s) (hnone : placeholderAt (c :: (s ++ rest)) = none) :
    Plain (c :: s) := by
  intro slot hslot
  rcases List.infix_cons_iff.mp hslot with ⟨more, hmore⟩ | hinfix
  · have htext : c :: (s ++ rest) = '{' :: '{' :: slot.body (more ++ rest) := by
      rw [← slot.text_append, ← List.append_assoc, hmore, List.cons_append]
    rw [htext, placeholderAt_eq_some_iff.mpr ⟨slot, rfl, rfl⟩] at hnone
    cases hnone
  · exact hs slot hinfix

/-- No placeholder starts in a plain text and reaches into a placeholder behind it. Its opening
braces would have to be the last character of the text and the first brace of that placeholder, but
then it would go on with the second brace. -/
lemma Plain.placeholderAt_append (hplain : Plain (c :: chunk)) (slot : Slot) (rest : List Char) :
    placeholderAt (c :: (chunk ++ (slot.text ++ rest))) = none := by
  rw [Option.eq_none_iff_forall_ne_some]
  rintro ⟨path, after⟩ hsome
  obtain ⟨early, -, hearly⟩ := placeholderAt_eq_some_iff.mp hsome
  rw [← early.text_append, ← List.cons_append, eq_comm] at hearly
  rcases List.append_eq_append_iff.mp hearly with ⟨between, hchunk, -⟩ | ⟨beyond, htext, hslot⟩
  · exact hplain early ⟨[], between, by rw [hchunk]; rfl⟩
  · cases beyond with
    | nil => exact hplain early ⟨[], [], by simp [htext]⟩
    | cons brace beyond =>
      rw [slot.text_append] at hslot
      obtain ⟨rfl, hbeyond⟩ := List.cons.inj hslot
      obtain ⟨-, hbrace⟩ := List.cons.inj htext
      cases chunk with
      | nil =>
        obtain ⟨-, rfl⟩ := List.cons.inj hbrace
        obtain ⟨first, body, hbody⟩ := List.exists_cons_of_ne_nil early.body_ne_nil
        rw [hbody] at hbeyond
        have hfirst : '{' = first := (List.cons.inj hbeyond).1
        exact early.not_mem_body (by rw [hbody, hfirst]; exact List.mem_cons_self)
      | cons second chunk =>
        obtain ⟨-, hbody⟩ := List.cons.inj hbrace
        exact early.not_mem_body (by rw [hbody]; simp)

/-! ## Pieces -/

/-- A character with which no placeholder starts stands for itself. -/
lemma pieces_cons (hnone : placeholderAt (c :: s) = none) :
    pieces (c :: s) = .char c :: pieces s := by
  rw [pieces, hnone]

/-- A placeholder at the start of a text is a piece. -/
lemma pieces_slot (slot : Slot) (rest : List Char) :
    pieces (slot.text ++ rest) = .placeholder slot.text slot.path :: pieces rest := by
  have hsome : placeholderAt ('{' :: '{' :: slot.body rest) = some (slot.path, rest) :=
    placeholderAt_eq_some_iff.mpr ⟨slot, rfl, rfl⟩
  have htext : ('{' :: '{' :: slot.body rest).take
      (('{' :: '{' :: slot.body rest).length - rest.length) = slot.text := by
    rw [← slot.text_append]
    simp
  rw [slot.text_append, pieces, hsome]
  simp only
  rw [if_pos (by simp [Slot.body]; omega), htext]

/-- A plain text before a placeholder stands for itself. -/
lemma pieces_plain_slot (hchunk : Plain chunk) (slot : Slot) (rest : List Char) :
    pieces (chunk ++ (slot.text ++ rest)) =
      chunk.map .char ++ .placeholder slot.text slot.path :: pieces rest := by
  induction chunk with
  | nil => exact pieces_slot slot rest
  | cons c chunk ih =>
    rw [List.cons_append, pieces_cons (hchunk.placeholderAt_append slot rest), ih hchunk.tail]
    rfl

/-- A plain text stands for itself. -/
lemma pieces_plain (hs : Plain s) : pieces s = s.map .char := by
  induction s with
  | nil => rw [pieces]; rfl
  | cons c s ih =>
    have hnone : placeholderAt (c :: s) = none := by
      rw [Option.eq_none_iff_forall_ne_some]
      rintro ⟨path, rest⟩ hsome
      obtain ⟨slot, -, hslot⟩ := placeholderAt_eq_some_iff.mp hsome
      exact hs slot ⟨[], rest, by rw [hslot, List.nil_append, slot.text_append]⟩
    rw [pieces_cons hnone, ih hs.tail]
    rfl

/-! ## Layouts -/

/-- A template as a plain chunk, and placeholders with a plain chunk behind each. -/
structure Layout where
  head : List Char
  parts : List (Slot × List Char)
  plain_head : Plain head
  plain_parts : ∀ part ∈ parts, Plain part.2

namespace Layout

/-- The chunks of a layout as they are, with a text in place of each placeholder. -/
def fill (l : Layout) (f : Slot → List Char) : List Char :=
  l.head ++ l.parts.flatMap fun part => f part.1 ++ part.2

/-- The template of a layout. -/
def text (l : Layout) : List Char := l.fill Slot.text

/-- The pieces of a template are those of its layout. -/
lemma pieces_text (l : Layout) :
    pieces l.text = l.head.map .char ++ l.parts.flatMap fun part =>
      .placeholder part.1.text part.1.path :: part.2.map .char := by
  obtain ⟨head, parts, hhead, hparts⟩ := l
  simp only [text, fill]
  induction parts generalizing head with
  | nil => simp [pieces_plain hhead]
  | cons part parts ih =>
    obtain ⟨hpart, hparts⟩ := List.forall_mem_cons.mp hparts
    rw [List.flatMap_cons, List.flatMap_cons, List.append_assoc, pieces_plain_slot hhead,
      ih part.2 hpart hparts]
    rfl

end Layout

/-- What stands for a placeholder of a template. -/
lemma renderPiece_slot (inputs : Fields) (encoding : Encoding) (slot : Slot) :
    renderPiece inputs encoding (.placeholder slot.text slot.path) =
      slot.value inputs encoding := by
  rw [renderPiece, Slot.value]
  cases hv : Fields.at? inputs slot.path with
  | none => rfl
  | some v =>
    cases encoding with
    | plain => rfl
    | url => rfl

/-- Every template has a layout. -/
lemma exists_layout (s : List Char) : ∃ l : Layout, l.text = s := by
  fun_induction pieces s with
  | case1 => exact ⟨⟨[], [], by simp [Plain, Slot.text], by simp⟩, rfl⟩
  | case2 c rest path after hsome hle ih =>
    obtain ⟨slot, -, hslot⟩ := placeholderAt_eq_some_iff.mp hsome
    obtain ⟨l, hl⟩ := ih
    refine ⟨⟨[], (slot, l.head) :: l.parts, by simp [Plain, Slot.text],
      List.forall_mem_cons.mpr ⟨l.plain_head, l.plain_parts⟩⟩, ?_⟩
    rw [hslot, ← slot.text_append, ← hl]
    simp [Layout.text, Layout.fill]
  | case3 c rest path after hsome hle ih =>
    obtain ⟨slot, -, hslot⟩ := placeholderAt_eq_some_iff.mp hsome
    have hlength := congrArg List.length hslot
    simp only [Slot.body, List.length_cons, List.length_append] at hlength
    omega
  | case4 c rest hnone ih =>
    obtain ⟨l, rfl⟩ := ih
    exact ⟨⟨c :: l.head, l.parts, l.plain_head.cons hnone, l.plain_parts⟩, rfl⟩

/-- Every template is laid out as plain chunks with placeholders between them, and rendering it
leaves the chunks and puts in place of each placeholder the text of its value, or the placeholder
itself if it has none. -/
theorem render_layout (inputs : Fields) (encoding : Encoding) :
    (∀ template : String, ∃ l : Layout, String.ofList l.text = template) ∧
    ∀ l : Layout, render (String.ofList l.text) inputs encoding =
      String.ofList (l.fill (Slot.value inputs encoding)) := by
  constructor
  · intro template
    obtain ⟨l, hl⟩ := exists_layout template.toList
    exact ⟨l, by rw [hl, String.ofList_toList]⟩
  · intro l
    have hchars : ∀ chunk : List Char,
        (chunk.map Piece.char).flatMap (renderPiece inputs encoding) = chunk := by
      intro chunk
      rw [List.flatMap_map]
      exact List.flatMap_singleton' chunk
    rw [render, String.toList_ofList, renderChars, l.pieces_text, List.flatMap_append, hchars,
      List.flatMap_assoc, Layout.fill]
    congr 2
    refine List.flatMap_congr fun part _ => ?_
    rw [List.flatMap_cons, hchars, renderPiece_slot]

/-- A placeholder between stray braces, and a value that is another placeholder. -/
example : renderChars [("a", .string "\x7b\x7bb\x7d\x7d"), ("b", .null)] .plain
    ['{', '{', '{', 'a', '}', '}', '}'] = ['{', '{', '{', 'b', '}', '}', '}'] := by
  cbv

end Dataflow.Template
