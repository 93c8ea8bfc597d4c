import Dataflow.Proofs.Json.Parts
import Dataflow.Proofs.Keyed
import Dataflow.Proofs.Path.Keys
import Dataflow.Proofs.Template.Layout

/-!
# Rendering values

A value is rendered string by string: its arrays keep their lengths, its objects their keys, and
what is no string stays as it is (`outline_renderValue`). So a step into the rendered value leads to
the rendered value of what the step leads to (`step_renderValue`), and so does every path
(`at?_renderValue`), whatever it looks like. Where nothing is there to be filled in, every
placeholder stands for itself and rendering changes nothing (`renderValue_nil`).
-/

namespace Dataflow

namespace Json

mutual

/-- The value with every string in it emptied; what is left are its keys, its lengths and the values
in it that are no strings. -/
def outline : Json → Json
  | .string _ => .string ""
  | .array items => .array (outlineItems items)
  | .object fields => .object (outlineFields fields)
  | .null => .null
  | .bool b => .bool b
  | .number n => .number n

/-- The items of an array with every string in them emptied. -/
def outlineItems : List Json → List Json
  | [] => []
  | v :: rest => outline v :: outlineItems rest

/-- The fields of an object with every string in their values emptied. -/
def outlineFields : List (String × Json) → List (String × Json)
  | [] => []
  | (k, v) :: rest => (k, outline v) :: outlineFields rest

end

end Json

namespace Template

open Dataflow.Path

/-! ## Templates without values -/

/-- The text of a piece. -/
def Piece.text : Piece → List Char
  | .char c => [c]
  | .placeholder text _ => text

/-- A template is what its pieces say, one after the other. -/
lemma flatMap_text_pieces (s : List Char) : (pieces s).flatMap Piece.text = s := by
  fun_induction pieces s with
  | case1 => rfl
  | case2 c rest path after hsome hle ih =>
    obtain ⟨slot, -, hslot⟩ := placeholderAt_eq_some_iff.mp hsome
    rw [List.flatMap_cons, ih, hslot, ← slot.text_append]
    simp [Piece.text]
  | case3 c rest path after hsome hle ih =>
    rw [List.flatMap_cons, ih, Piece.text, List.singleton_append]
  | case4 c rest hnone ih => rw [List.flatMap_cons, ih, Piece.text, List.singleton_append]

/-- Where there are no values a template is rendered as itself. -/
lemma render_nil (template : String) : render template [] .plain = template := by
  have hpiece : ∀ piece : Piece, renderPiece [] .plain piece = piece.text := by
    intro piece
    cases piece with
    | char c => rfl
    | placeholder text path => rw [renderPiece, Fields.at?_nil, Piece.text]
  rw [render, renderChars, funext hpiece, flatMap_text_pieces, String.ofList_toList]

/-! ## Items and fields -/

/-- Items are rendered one by one. -/
lemma renderItems_eq_map (inputs : Fields) (items : List Json) :
    renderItems inputs items = items.map (renderValue inputs) := by
  induction items with
  | nil => rfl
  | cons v items ih => rw [renderItems, ih, List.map_cons]

/-- Fields keep their keys, and their values are rendered one by one. -/
lemma renderFields_eq_map (inputs : Fields) (fields : List (String × Json)) :
    renderFields inputs fields = fields.map fun entry => (entry.1, renderValue inputs entry.2) := by
  induction fields with
  | nil => rfl
  | cons entry fields ih => rw [renderFields, ih, List.map_cons]

/-- The items are emptied one by one. -/
lemma outlineItems_eq_map (items : List Json) :
    Json.outlineItems items = items.map Json.outline := by
  induction items with
  | nil => rfl
  | cons v items ih => rw [Json.outlineItems, ih, List.map_cons]

/-- The values of the fields are emptied one by one. -/
lemma outlineFields_eq_map (fields : List (String × Json)) :
    Json.outlineFields fields = fields.map fun entry => (entry.1, entry.2.outline) := by
  induction fields with
  | nil => rfl
  | cons entry fields ih => rw [Json.outlineFields, ih, List.map_cons]

/-- Rendering a value changes nothing but strings. -/
lemma outline_renderValue (inputs : Fields) (v : Json) :
    (renderValue inputs v).outline = v.outline := by
  induction v using Json.byParts with
  | null | bool | number | string => rfl
  | array items ih =>
    rw [renderValue, Json.outline, Json.outline, outlineItems_eq_map, outlineItems_eq_map,
      renderItems_eq_map, List.map_map]
    exact congrArg Json.array (List.map_congr_left ih)
  | object fields ih =>
    rw [renderValue, Json.outline, Json.outline, outlineFields_eq_map, outlineFields_eq_map,
      renderFields_eq_map, List.map_map]
    exact congrArg Json.object
      (List.map_congr_left fun entry hentry => congrArg (Prod.mk entry.1) (ih entry hentry))

/-- Where there are no values to fill in, rendering changes nothing. -/
lemma renderValue_nil (v : Json) : renderValue [] v = v := by
  induction v using Json.byParts with
  | null | bool | number => rfl
  | string s => rw [renderValue, render_nil]
  | array items ih =>
    rw [renderValue, renderItems_eq_map, List.map_congr_left ih, List.map_id']
  | object fields ih =>
    have hentry : ∀ entry ∈ fields, (entry.1, renderValue [] entry.2) = entry :=
      fun entry hentry => congrArg (Prod.mk entry.1) (ih entry hentry)
    rw [renderValue, renderFields_eq_map, List.map_congr_left hentry, List.map_id']

/-! ## Paths -/

/-- A step into a rendered value leads to the rendered value of what the step leads to, and nowhere
if the step leads nowhere. -/
lemma step_renderValue (inputs : Fields) (v : Json) (segment : Segment) :
    step (renderValue inputs v) segment = (step v segment).map (renderValue inputs) := by
  cases v with
  | null | bool | number | string => cases segment <;> rfl
  | array items =>
    cases segment with
    | index n => simp only [renderValue, step, renderItems_eq_map, List.getElem?_map]
    | key name =>
      simp only [renderValue, step, renderItems_eq_map, List.getElem?_map, Option.map_bind]
      rfl
  | object fields =>
    cases segment with
    | index n => simp only [renderValue, step, renderFields_eq_map, Keyed.value?_map]
    | key name => simp only [renderValue, step, renderFields_eq_map, Keyed.value?_map]

/-- So do the steps of a path. -/
lemma walk_renderValue (inputs : Fields) (v : Json) (path : Path) :
    walk (renderValue inputs v) path = (walk v path).map (renderValue inputs) := by
  induction path generalizing v with
  | nil => rfl
  | cons segment path ih =>
    have hcons : ∀ w, walk w (segment :: path) = (step w segment).bind fun u => walk u path :=
      fun w => List.foldlM_cons
    rw [hcons, hcons, step_renderValue]
    cases step v segment with
    | none => rfl
    | some u => exact ih u

/-- A path into the rendered value leads to the rendered value of what it leads to in the value
itself, and nowhere if it leads nowhere there. Rendering keeps the keys, the lengths and all values
that are no strings, and it changes nothing if there is nothing to fill in. -/
theorem at?_renderValue (inputs : Fields) (v : Json) :
    (∀ path, (renderValue inputs v).at? path = (v.at? path).map (renderValue inputs)) ∧
      (renderValue inputs v).outline = v.outline ∧ renderValue [] v = v := by
  refine ⟨fun path => ?_, outline_renderValue inputs v, renderValue_nil v⟩
  unfold Json.at?
  cases parse path with
  | none => rfl
  | some segments => exact walk_renderValue inputs v segments

end Template

end Dataflow
