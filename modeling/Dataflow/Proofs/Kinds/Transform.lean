import Dataflow.Kinds.Transform
import Dataflow.Run.Gather
import Dataflow.Proofs.Json.RoundTrip
import Dataflow.Proofs.Results

/-!
# Transform nodes that write and read texts

A node that writes its input as a text and one that reads the text again leave a value without
doubles as it was, if its containers nest at most 127 levels deep. The text of a value that nests
deeper is no valid text for the second node, which passes it on as a string
(`Kinds.parse_undoes_stringify`).
-/

namespace Dataflow

/-- The primary input is the value at the handle `input`, if one is there that is not `null`. -/
lemma Fields.primary_of_value? {inputs : Fields} {v : Json}
    (hv : Keyed.value? inputs "input" = some v) (hnull : v.isNull = false) :
    Fields.primary inputs = v := by
  simp [primary, present?, hv, Option.filter, hnull]

/-- An edge from the handle `output` takes the value that a node yields as its only one. -/
lemma Edge.pick_single {edge : Edge} (h : edge.sourceHandle = "output") (v : Json) :
    edge.pick (Output.single v).data = v := by
  rw [Output.single, Output.ofData, Json.ofEntries, Edge.pick, h]
  rfl

namespace Kinds

variable {config : Json} {c : TransformConfig}

/-- A transform node with a valid configuration yields what the transformation gives. -/
lemma runTransform_eq (h : TransformConfig.ofJson config = .ok c) (inputs : Fields) :
    runTransform config inputs = (transform c inputs).map Output.single := by
  rw [runTransform, readConfig, h]
  rfl

/-- Writing and reading a text again gives the value back, unless it nests too deeply. -/
lemma parseText_compact {v : Json} (hv : v.Integral) (hwf : v.WellFormed) :
    parseText (.string v.compact) = if v.depth ≤ 127 then v else .string v.compact := by
  rw [parseText, hv.parse?_compact hwf, Json.maxDepth]
  split <;> rfl

/-- A node of type `json_stringify` followed by one of type `json_parse` gives a value without
doubles back if it nests at most 127 levels deep, and its text if it nests deeper. -/
theorem parse_undoes_stringify {writer reader : Json} {w r : TransformConfig}
    (hwriter : TransformConfig.ofJson writer = .ok w) (hwrites : w.type = "json_stringify")
    (hreader : TransformConfig.ofJson reader = .ok r) (hreads : r.type = "json_parse") {v : Json}
    (hnull : v.isNull = false) (hv : v.Integral) (hwf : v.WellFormed) {inputs : Fields}
    (hinput : Keyed.value? inputs "input" = some v) :
    ∃ output, runTransform writer inputs = .ok output ∧
      ∀ edge : Edge, edge.sourceHandle = "output" →
        edge.pick output.data = .string v.compact ∧
        ∀ inputs' : Fields, Keyed.value? inputs' "input" = some (edge.pick output.data) →
          runTransform reader inputs' =
            .ok (.single (if v.depth ≤ 127 then v else .string v.compact)) := by
  refine ⟨.single (.string v.compact), ?_, fun edge hedge => ?_⟩
  · rw [runTransform_eq hwriter, transform, hwrites, Fields.primary_of_value? hinput hnull]
    rfl
  · have hpick := Edge.pick_single hedge (.string v.compact)
    refine ⟨hpick, fun inputs' hinput' => ?_⟩
    rw [hpick] at hinput'
    rw [runTransform_eq hreader, transform, hreads, Fields.primary_of_value? hinput' rfl,
      ← parseText_compact hv hwf]
    rfl

/-- An object with the largest and the least integer, an empty object and a key that is escaped. -/
theorem parse_undoes_stringify_limits :
    let writer : Json := .object [("type", .string "json_stringify")]
    let reader : Json := .object [("type", .string "json_parse")]
    let v : Json := .object [("\n\x01\"", .array [.number (.whole 18446744073709551615 (by decide)),
      .number (.whole (-9223372036854775808) (by decide)), .object []])]
    v.depth = 3 ∧ ∃ output, runTransform writer [("input", v)] = .ok output ∧
      runTransform reader [("input", (Edge.between "a" "b").pick output.data)] =
        .ok (.single v) := by
  intro writer reader v
  have hwriter : TransformConfig.ofJson writer = .ok _ := rfl
  have hreader : TransformConfig.ofJson reader = .ok _ := rfl
  have hv : v.Integral := by
    refine .object (List.forall_mem_singleton.mpr (.array fun u hu => ?_))
    fin_cases hu
    exacts [.whole _, .whole _, .object nofun]
  have hwf : v.WellFormed := by
    refine .object (List.pairwise_singleton _ _)
      (List.forall_mem_singleton.mpr (.array fun u hu => ?_))
    fin_cases hu
    exacts [.number _, .number _, .object .nil nofun]
  have hinput : Keyed.value? [("input", v)] "input" = some v := rfl
  obtain ⟨output, hwritten, hread⟩ :=
    parse_undoes_stringify hwriter rfl hreader rfl rfl hv hwf hinput
  refine ⟨rfl, output, hwritten, ?_⟩
  exact (hread (.between "a" "b") rfl).2 _ rfl

end Kinds

end Dataflow
