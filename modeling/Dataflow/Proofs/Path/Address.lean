import Dataflow.Proofs.Json.Scan
import Dataflow.Proofs.Keyed
import Dataflow.Proofs.Path.Joining
import Dataflow.Proofs.Text.Characters

/-!
# Addresses of values

Every value within a value has an address: the steps that lead to it, written one after the other
(`Path.written`), and read back (`Path.parse_written`). A path is cut at its dots before the
brackets are looked at, while a step may be written in either way behind any other; so reading is
followed from the last step to the first (`Path.goesOn_links`): what stands behind a step is bracket
groups, which are read together with it, and whole parts between the dots. A name that is an index
is told from the index of an item only by the value that the step is taken into
(`Path.Hop.Leads.step`).

In turn, a path never leads out of the value that it starts from (`Path.isPart_of_walk`).
-/

namespace Dataflow

/-! ## Values within values -/

/-- A value is an item of an array, or the value of a field of an object. -/
inductive Json.Child : Json → Json → Prop
  | item {items : List Json} {v : Json} (h : v ∈ items) : Child v (.array items)
  | field {fields : Fields} {name : String} {v : Json} (h : (name, v) ∈ fields) :
      Child v (.object fields)

/-- A value is another one, or within it at some depth. -/
def Json.IsPart (v w : Json) : Prop := Relation.ReflTransGen Json.Child v w

namespace Path

variable {v w : Json} {path : Path} {part s : List Char}

/-- A step leads from a value to one of its children. -/
lemma child_of_step {segment : Segment} (h : step v segment = some w) : w.Child v := by
  cases v with
  | object fields =>
    cases segment with
    | key name => exact .field (Keyed.mem_of_value? h)
    | index n => exact .field (Keyed.mem_of_value? h)
  | array items =>
    cases segment with
    | key name =>
      obtain ⟨n, -, hitem⟩ := Option.bind_eq_some_iff.mp h
      exact .item (List.mem_of_getElem? hitem)
    | index n => exact .item (List.mem_of_getElem? h)
  | _ => cases segment <;> cases h

/-- Steps lead from a value to parts of it. -/
lemma isPart_of_walk (h : walk v path = some w) : w.IsPart v := by
  induction path generalizing v with
  | nil =>
    obtain rfl := Option.some.inj h
    exact .refl
  | cons segment path ih =>
    rw [walk, List.foldlM_cons] at h
    obtain ⟨u, hstep, hrest⟩ := Option.bind_eq_some_iff.mp h
    exact (ih hrest).tail (child_of_step hstep)

/-! ## Written steps -/

/-- A step into a value as it is written: to the field of an object, or to the item of an array,
with its index after a dot or in brackets. Arrays are indexed by machine words. -/
inductive Hop where
  | field (name : String)
  | item (index : UInt64) (bracketed : Bool)

namespace Hop

/-- The step leads from a value to another one. -/
inductive Leads : Hop → Json → Json → Prop
  | field {fields : Fields} {name : String} {v : Json} (h : Keyed.value? fields name = some v) :
      Leads (.field name) (.object fields) v
  | item {items : List Json} {index : UInt64} {bracketed : Bool} {v : Json}
      (h : items[index.toNat]? = some v) : Leads (.item index bracketed) (.array items) v

/-- The step can be written: a name must neither be cut at a dot or a bracket nor trimmed. -/
def Writable : Hop → Prop
  | .field name => Text.Tight name.toList ∧ '.' ∉ name.toList ∧ '[' ∉ name.toList
  | .item _ _ => True

/-- The step as it is written at the start of a path. -/
def text : Hop → List Char
  | .field name => name.toList
  | .item index false => Decimal.digitsOf index.toNat
  | .item index true => '[' :: (Decimal.digitsOf index.toNat ++ [']'])

/-- The step as it is written behind other steps. -/
def link (hop : Hop) : List Char :=
  match hop with
  | .item _ true => hop.text
  | _ => '.' :: hop.text

/-- The segment that is read from the step. -/
def segment : Hop → Segment
  | .field name => .key name
  | .item index false => .key (String.ofList (Decimal.digitsOf index.toNat))
  | .item index true => .index index.toNat

end Hop

/-- The path that consists of the given steps. -/
def written : List Hop → List Char
  | [] => []
  | hop :: hops => hop.text ++ hops.flatMap Hop.link

/-- The steps lead from a value to another one. -/
inductive Leads : List Hop → Json → Json → Prop
  | nil (v : Json) : Leads [] v v
  | cons {hop : Hop} {hops : List Hop} {v w u : Json} (hfirst : hop.Leads v w)
      (hrest : Leads hops w u) : Leads (hop :: hops) v u

/-! ### Indices -/

/-- Digits are neither blanks nor marks of a path. -/
lemma of_isDigit {c : Char} (hc : c.isDigit = true) :
    Text.isBlank c = false ∧ isQuote c = false ∧ c ∉ ['.', '[', ']', '+'] := by
  have hrange := Text.isDigit_iff.mp hc
  refine ⟨?_, ?_, ?_⟩
  · simp only [Text.isBlank, Bool.or_eq_false_iff, Bool.and_eq_false_iff,
      decide_eq_false_iff_not, beq_eq_false_iff_ne]
    omega
  · have hdouble : c ≠ '"' := by rintro rfl; simp at hrange
    have hsingle : c ≠ '\'' := by rintro rfl; simp at hrange
    simp [isQuote, hdouble, hsingle]
  · intro hmark
    fin_cases hmark <;> simp at hrange

/-- An index is read back from its digits. -/
lemma readIndex_digitsOf (n : UInt64) : readIndex (Decimal.digitsOf n.toNat) = some n.toNat := by
  obtain ⟨c, ds, hdigits, hc⟩ := Decimal.exists_digitsOf_eq_cons n.toNat
  have hall : (Decimal.digitsOf n.toNat).all Char.isDigit = true :=
    List.all_eq_true.mpr fun _ => Decimal.isDigit_of_mem_digitsOf
  have hnat := Decimal.natOfDigits_digitsOf n.toNat
  have hplus : c ≠ '+' := by rintro rfl; cases hc
  rw [hdigits] at hall hnat ⊢
  simp only [readIndex, Decimal.readNatBelow]
  split
  · rename_i heq
    exact absurd (List.head_eq_of_cons_eq heq) hplus
  · rw [if_neg (by simp [hall]), hnat, if_pos n.toNat_lt]

/-- An index in brackets is read back from its digits. -/
lemma bracketSegment_digitsOf (n : UInt64) :
    bracketSegment (Decimal.digitsOf n.toNat) = some (.index n.toNat) := by
  have hblank : ∀ c ∈ Decimal.digitsOf n.toNat, Text.isBlank c = false := fun c hc =>
    (of_isDigit (Decimal.isDigit_of_mem_digitsOf hc)).1
  have hquote : ∀ c ∈ Decimal.digitsOf n.toNat, isQuote c = false := fun c hc =>
    (of_isDigit (Decimal.isDigit_of_mem_digitsOf hc)).2.1
  simp only [bracketSegment]
  rw [Text.trim, Text.stripWhile_eq_self hblank, Text.stripWhile_eq_self hquote,
    readIndex_digitsOf]

/-! ### Parts of a path -/

lemma bracketSegments_nil : bracketSegments [] = some [] := by
  rw [bracketSegments]

/-- A bracket group and those behind it. -/
lemma bracketSegments_group {inner : List Char} (hinner : ']' ∉ inner) (rest : List Char) :
    bracketSegments ('[' :: (inner ++ ']' :: rest)) = (bracketSegment inner).bind fun segment =>
      (bracketSegments rest).map fun more => segment :: more := by
  have hshorter : rest.length < (inner ++ ']' :: rest).length + 1 := by
    rw [List.length_append, List.length_cons]
    omega
  rw [bracketSegments, Text.cutAt_append hinner]
  simp only [if_pos hshorter]
  cases bracketSegment inner with
  | none => rfl
  | some segment => cases bracketSegments rest <;> rfl

/-- The text is empty or starts with a bracket group. -/
def Opens (s : List Char) : Prop := s = [] ∨ ∃ t, s = '[' :: t

/-- A key and the bracket groups behind it. -/
lemma partSegments_key (hs : s ≠ []) (hkey : '[' ∉ s) (hpart : Opens part) :
    partSegments (s ++ part) =
      (bracketSegments part).map fun more => .key (String.ofList s) :: more := by
  have hall : ∀ c ∈ s, (c != '[') = true := fun c hc => by
    simpa using ne_of_mem_of_not_mem hc hkey
  have hcut : part.takeWhile (· != '[') = [] ∧ part.dropWhile (· != '[') = part := by
    rcases hpart with rfl | ⟨t, rfl⟩
    · exact ⟨rfl, rfl⟩
    · simp
  rw [partSegments, List.takeWhile_append_of_pos hall, List.dropWhile_append_of_pos hall,
    hcut.1, hcut.2, List.append_nil]
  exact if_neg (by simpa using hs)

/-- Bracket groups without a key. -/
lemma partSegments_brackets (s : List Char) :
    partSegments ('[' :: s) = bracketSegments ('[' :: s) := by
  simp [partSegments]

namespace Hop

variable {hop : Hop}

/-- An index is written without blanks and dots, in brackets or not. -/
lemma of_mem_text_item {index : UInt64} {bracketed : Bool} {c : Char}
    (hc : c ∈ (Hop.item index bracketed).text) : Text.isBlank c = false ∧ c ≠ '.' := by
  have hdigits : ∀ c ∈ Decimal.digitsOf index.toNat, Text.isBlank c = false ∧ c ≠ '.' := by
    intro c hc
    obtain ⟨hblank, -, hmark⟩ := of_isDigit (Decimal.isDigit_of_mem_digitsOf hc)
    exact ⟨hblank, fun heq => hmark (by simp [heq])⟩
  cases bracketed with
  | false => exact hdigits c hc
  | true =>
    rcases List.mem_cons.mp hc with rfl | hc
    · exact ⟨rfl, by decide⟩
    · rcases List.mem_append.mp hc with hc | hc
      · exact hdigits c hc
      · obtain rfl := List.mem_singleton.mp hc
        exact ⟨rfl, by decide⟩

/-- A step that can be written is neither trimmed nor cut at a dot. -/
lemma Writable.text (hop_ok : hop.Writable) : Text.Tight hop.text ∧ '.' ∉ hop.text := by
  cases hop with
  | field name => exact ⟨hop_ok.1, hop_ok.2.1⟩
  | item index bracketed =>
    have hne : (Hop.item index bracketed).text ≠ [] := by
      obtain ⟨c, ds, hdigits, -⟩ := Decimal.exists_digitsOf_eq_cons index.toNat
      cases bracketed <;> simp [Hop.text, hdigits]
    exact ⟨Text.tight_of_forall hne fun c hc => (of_mem_text_item hc).1,
      fun hdot => (of_mem_text_item hdot).2 rfl⟩

/-- A step and the bracket groups behind it. -/
lemma Writable.partSegments_text (hop_ok : hop.Writable) (hpart : Opens part) :
    partSegments (hop.text ++ part) =
      (bracketSegments part).map fun more => hop.segment :: more := by
  match hop with
  | .field name =>
    obtain ⟨htight, -, hbracket⟩ := hop_ok
    rw [Hop.text, partSegments_key htight.ne_nil hbracket hpart, String.ofList_toList]
    rfl
  | .item index false =>
    have hbracket : '[' ∉ Decimal.digitsOf index.toNat := fun hmem =>
      (of_isDigit (Decimal.isDigit_of_mem_digitsOf hmem)).2.2 (by simp)
    exact partSegments_key hop_ok.text.1.ne_nil hbracket hpart
  | .item index true =>
    have hbracket : ']' ∉ Decimal.digitsOf index.toNat := fun hmem =>
      (of_isDigit (Decimal.isDigit_of_mem_digitsOf hmem)).2.2 (by simp)
    rw [Hop.text, List.cons_append, List.append_assoc, List.singleton_append,
      partSegments_brackets, bracketSegments_group hbracket, bracketSegment_digitsOf]
    rfl

end Hop

/-! ### Reading steps -/

/-- Behind a step the text goes on with the given segments: bracket groups up to the first dot, and
whole parts between the dots. -/
def GoesOn (s : List Char) (path : Path) : Prop :=
  ∃ part parts segments more, Text.splitOn '.' s = part :: parts ∧ Opens part ∧
    bracketSegments part = some segments ∧ parts.mapM partSegments = some more ∧
    path = segments ++ more.flatten

/-- The segments of a step and of what is behind it. -/
lemma GoesOn.mapM_partSegments {hop : Hop} (hs : GoesOn s path) (hop_ok : hop.Writable) :
    ∃ more, (Text.splitOn '.' (hop.text ++ s)).mapM partSegments = some more ∧
      more.flatten = hop.segment :: path := by
  obtain ⟨part, parts, segments, more, hsplit, hopens, hpart, hparts, rfl⟩ := hs
  refine ⟨(hop.segment :: segments) :: more, ?_, rfl⟩
  rw [Text.splitOn_append hop_ok.text.2 hsplit, List.mapM_cons,
    hop_ok.partSegments_text hopens, hpart, hparts]
  rfl

/-- A further step is put in front. -/
lemma GoesOn.link {hop : Hop} (hs : GoesOn s path) (hop_ok : hop.Writable) :
    GoesOn (hop.link ++ s) (hop.segment :: path) := by
  have hdotted : GoesOn ('.' :: (hop.text ++ s)) (hop.segment :: path) := by
    obtain ⟨more, hmore, hflatten⟩ := hs.mapM_partSegments hop_ok
    refine ⟨[], Text.splitOn '.' (hop.text ++ s), [], more, ?_, .inl rfl, bracketSegments_nil,
      hmore, hflatten.symm⟩
    exact Text.splitOn_append_cons '.' [] (hop.text ++ s)
  match hop with
  | .field name => exact hdotted
  | .item index false => exact hdotted
  | .item index true =>
    -- the bracket group joins those that stand in front of the first dot
    obtain ⟨part, parts, segments, more, hsplit, hopens, hpart, hparts, rfl⟩ := hs
    have hgroup := hop_ok.partSegments_text hopens
    rw [Hop.text, List.cons_append, partSegments_brackets, hpart] at hgroup
    exact ⟨_, parts, _, more, Text.splitOn_append hop_ok.text.2 hsplit, .inr ⟨_, rfl⟩, hgroup,
      hparts, rfl⟩

variable {hops : List Hop}

/-- Steps go on with their segments. -/
lemma goesOn_links (hops_ok : ∀ hop ∈ hops, hop.Writable) :
    GoesOn (hops.flatMap Hop.link) (hops.map Hop.segment) := by
  induction hops with
  | nil => exact ⟨[], [], [], [], rfl, .inl rfl, bracketSegments_nil, rfl, rfl⟩
  | cons hop hops ih =>
    obtain ⟨hop_ok, hops_ok⟩ := List.forall_mem_cons.mp hops_ok
    exact (ih hops_ok).link hop_ok

/-- Behind a tight text, steps keep it tight. -/
lemma tight_append_links (hs : Text.Tight s) (hops_ok : ∀ hop ∈ hops, hop.Writable) :
    Text.Tight (s ++ hops.flatMap Hop.link) := by
  induction hops generalizing s with
  | nil => simpa using hs
  | cons hop hops ih =>
    obtain ⟨hop_ok, hops_ok⟩ := List.forall_mem_cons.mp hops_ok
    have hnext : Text.Tight (s ++ hop.link) := by
      match hop with
      | .field name => simpa [Hop.link] using hs.append hop_ok.text.1 ['.']
      | .item index false => simpa [Hop.link] using hs.append hop_ok.text.1 ['.']
      | .item index true => simpa [Hop.link] using hs.append hop_ok.text.1 []
    simpa using ih hnext hops_ok

/-- The segments of written steps. -/
lemma parse_written (hops_ok : ∀ hop ∈ hops, hop.Writable) :
    parse (written hops) = some (hops.map Hop.segment) := by
  cases hops with
  | nil => rfl
  | cons hop hops =>
    obtain ⟨hop_ok, hops_ok⟩ := List.forall_mem_cons.mp hops_ok
    obtain ⟨more, hmore, hflatten⟩ := (goesOn_links hops_ok).mapM_partSegments hop_ok
    rw [written, parse_of_tight (tight_append_links hop_ok.text.1 hops_ok), hmore, Option.map_some,
      hflatten]
    rfl

/-! ### Following steps -/

/-- The segment of a step leads where the step leads. -/
lemma Hop.Leads.step {hop : Hop} (h : hop.Leads v w) : step v hop.segment = some w := by
  cases h with
  | field hfield => exact hfield
  | @item items index bracketed w hitem =>
    cases bracketed with
    | true => exact hitem
    | false =>
      simp only [Path.step, Hop.segment, String.toList_ofList, readIndex_digitsOf, Option.bind_some]
      exact hitem

/-- The segments of steps lead where the steps lead. -/
lemma Leads.walk (h : Leads hops v w) : walk v (hops.map Hop.segment) = some w := by
  induction h with
  | nil v => rfl
  | cons hfirst hrest ih =>
    rw [List.map_cons, Path.walk, List.foldlM_cons, hfirst.step]
    exact ih

/-- Steps that can be written lead where the path of them leads, and a path leads only to parts of
the value. -/
theorem at?_written (v : Json) :
    (∀ hops w, (∀ hop ∈ hops, hop.Writable) → Leads hops v w → v.at? (written hops) = some w) ∧
      ∀ path w, v.at? path = some w → w.IsPart v := by
  refine ⟨fun hops w hops_ok hleads => ?_, fun path w hpath => ?_⟩
  · rw [Json.at?, parse_written hops_ok]
    exact hleads.walk
  · obtain ⟨segments, -, hwalk⟩ := Option.bind_eq_some_iff.mp hpath
    exact isPart_of_walk hwalk

/-- An item is written after a dot and in brackets; a field has an index as its name. -/
theorem at?_written_both_spellings :
    let v : Json := .array [.null, .object [("0", .array [.bool true])]]
    let hops : List Hop := [.item 1 false, .field "0", .item 0 true]
    (∀ hop ∈ hops, hop.Writable) ∧ Leads hops v (.bool true) ∧
      written hops = ['1', '.', '0', '[', '0', ']'] ∧ v.at? (written hops) = some (.bool true) ∧
      v.at? ['[', '1', ']'] = some (.object [("0", .array [.bool true])]) ∧
      Json.IsPart (.object [("0", .array [.bool true])]) v := by
  intro v hops
  have hops_ok : ∀ hop ∈ hops, hop.Writable := by
    have htight : Text.Tight ['0'] := Text.tight_of_forall (by simp) (by simp [Text.isBlank])
    simpa [hops, Hop.Writable] using htight
  have hleads : Leads hops v (.bool true) :=
    .cons (.item rfl) (.cons (.field rfl) (.cons (.item rfl) (.nil _)))
  have hpath : v.at? ['[', '1', ']'] = some (.object [("0", .array [.bool true])]) := by cbv
  exact ⟨hops_ok, hleads, rfl, (at?_written v).1 hops _ hops_ok hleads, hpath,
    (at?_written v).2 _ _ hpath⟩

end Path

end Dataflow
