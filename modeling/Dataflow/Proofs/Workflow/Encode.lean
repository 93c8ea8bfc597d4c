import Dataflow.Workflow.Encode
import Dataflow.Proofs.Decode.Record

/-!
# Workflows are read back

A workflow is read back from the value that it is written as (`Workflow.read_toJson`): whatever is
written is an entry of its own, so that nothing is left to the defaults but a name or a description
that is not there. So a workflow that was read in any form, with members in any order or as a list,
with defaults left out or with `null` for what is not there, is written in one form, and that form
does not change any more.
-/

namespace Dataflow

open Record

/-- An edge is read back. -/
lemma Edge.read_toJson (e : Edge) : Edge.read e.toJson = .ok e := by
  let entries : List (String × Json) := [
    ("source", .string e.source), ("target", .string e.target),
    ("sourceHandle", .string e.sourceHandle), ("targetHandle", .string e.targetHandle)]
  have hvalue : ∀ key, Keyed.value? (Keyed.ofEntries entries) key = Keyed.value? entries key :=
    Keyed.value?_ofEntries (by simp [entries])
  have hsource : Gives (Keyed.ofEntries entries) sourceField e.source :=
    .entry (.string e.source) (hvalue _) rfl
  have htarget : Gives (Keyed.ofEntries entries) targetField e.target :=
    .entry (.string e.target) (hvalue _) rfl
  have hsourceHandle : Gives (Keyed.ofEntries entries) sourceHandleField e.sourceHandle :=
    .entry (.string e.sourceHandle) (hvalue _) rfl
  have htargetHandle : Gives (Keyed.ofEntries entries) targetHandleField e.targetHandle :=
    .entry (.string e.targetHandle) (hvalue _) rfl
  have hread : Edge.read e.toJson = _ := read_object (Keyed.sorted_ofEntries entries) (by
    simp only [List.forall_mem_cons]
    exact ⟨hsource.passes rfl, htarget.passes rfl, hsourceHandle.passes rfl,
      htargetHandle.passes rfl, List.forall_mem_nil _⟩)
  rw [hread, hsource.get_eq rfl, htarget.get_eq rfl, hsourceHandle.get_eq rfl,
    htargetHandle.get_eq rfl]
  rfl

/-- A node is read back, whatever its configuration is. -/
lemma Node.read_toJson (n : Node) : Node.read n.toJson = .ok n := by
  let entries : List (String × Json) :=
    [("id", .string n.id), ("type", .string n.type), ("config", n.config)]
  have hvalue : ∀ key, Keyed.value? (Keyed.ofEntries entries) key = Keyed.value? entries key :=
    Keyed.value?_ofEntries (by simp [entries])
  have hid : Gives (Keyed.ofEntries entries) idField n.id := .entry (.string n.id) (hvalue _) rfl
  have htype : Gives (Keyed.ofEntries entries) typeField n.type :=
    .entry (.string n.type) (hvalue _) rfl
  have hconfig : Gives (Keyed.ofEntries entries) configField n.config :=
    .entry n.config (hvalue _) rfl
  have hread : Node.read n.toJson = _ := read_object (Keyed.sorted_ofEntries entries) (by
    simp only [List.forall_mem_cons]
    exact ⟨hid.passes rfl, htype.passes rfl, hconfig.passes rfl, List.forall_mem_nil _⟩)
  rw [hread, hid.get_eq rfl, htype.get_eq rfl, hconfig.get_eq rfl]
  rfl

namespace Workflow

variable {key : String} {text : Option String} {entries : Fields}

/-- An optional text is written as at most one entry. -/
lemma sublist_textEntry (key : String) (text : Option String) :
    ((textEntry key text).map Prod.fst).Sublist [key] := by
  cases text with
  | none => exact List.nil_sublist _
  | some text => exact List.Sublist.refl _

/-- The value of the entry of an optional text. -/
lemma value?_textEntry (key : String) (text : Option String) (k : String) :
    Keyed.value? (textEntry key text) k = if k = key then text.map .string else none := by
  cases text with
  | none => simp [textEntry]
  | some text =>
    by_cases hkey : k = key
    · simp [textEntry, Keyed.value?, hkey]
    · rw [if_neg hkey, textEntry, Keyed.value?, List.lookup_cons, beq_false_of_ne hkey]
      rfl

/-- A text that is not there is given by the default. -/
lemma gives_optional (hvalue : Keyed.value? entries key = text.map .string) :
    Gives entries (.withDefault key (Readable.readOption Readable.readString) none) text := by
  cases text with
  | none => exact .default hvalue rfl
  | some text => exact .entry (.string text) hvalue rfl

/-- A workflow is read back. -/
lemma read_toJson (w : Workflow) : Workflow.read w.toJson = .ok w := by
  let entries : List (String × Json) := textEntry "name" w.name ++
    textEntry "description" w.description ++ [("nodes", .array (w.nodes.map Node.toJson)),
      ("edges", .array (w.edges.map Edge.toJson))]
  have hdistinct : (entries.map Prod.fst).Nodup := by
    have hsublist := ((sublist_textEntry "name" w.name).append
      (sublist_textEntry "description" w.description)).append (List.Sublist.refl ["nodes", "edges"])
    simpa [entries] using hsublist.nodup (by decide)
  have hvalue : ∀ key, Keyed.value? (Keyed.ofEntries entries) key =
      ((Keyed.value? (textEntry "name" w.name) key).or
        (Keyed.value? (textEntry "description" w.description) key)).or
          (Keyed.value? [("nodes", .array (w.nodes.map Node.toJson)),
            ("edges", .array (w.edges.map Edge.toJson))] key) := by
    intro key
    rw [Keyed.value?_ofEntries hdistinct]
    simp only [entries, Keyed.value?, List.lookup_append]
  simp only [value?_textEntry] at hvalue
  have hname : Gives (Keyed.ofEntries entries) nameField w.name :=
    gives_optional ((hvalue _).trans (by simp [Keyed.value?, List.lookup]))
  have hdescription : Gives (Keyed.ofEntries entries) descriptionField w.description :=
    gives_optional ((hvalue _).trans (by simp [Keyed.value?, List.lookup]))
  have hnodes : Gives (Keyed.ofEntries entries) nodesField w.nodes :=
    .entry _ (hvalue _) (Json.readList_map Node.read_toJson w.nodes)
  have hedges : Gives (Keyed.ofEntries entries) edgesField w.edges :=
    .entry _ (hvalue _) (Json.readList_map Edge.read_toJson w.edges)
  have hread : Workflow.read w.toJson = _ := read_object (Keyed.sorted_ofEntries entries) (by
    simp only [List.forall_mem_cons]
    exact ⟨hname.passes rfl, hdescription.passes rfl, hnodes.passes rfl, hedges.passes rfl,
      List.forall_mem_nil _⟩)
  rw [hread, hname.get_eq rfl, hdescription.get_eq rfl, hnodes.get_eq rfl, hedges.get_eq rfl]
  rfl

/-- Every workflow is read back from the value that it is written as. So whatever value a workflow
was read from, it is written as a value that is read as the same workflow and written as itself. -/
theorem written_form_stable :
    (∀ w : Workflow, Workflow.read w.toJson = .ok w) ∧
      ∀ (j : Json) (w : Workflow), Workflow.read j = .ok w →
        Workflow.read w.toJson = Workflow.read j ∧
          (Workflow.read w.toJson).map toJson = .ok w.toJson := by
  refine ⟨read_toJson, fun j w hread => ?_⟩
  rw [read_toJson w, hread]
  exact ⟨rfl, rfl⟩

/-- A workflow in a form that it is not written in: a list in place of an object, without a name,
with a configuration that is `null` and with one that is left out. -/
theorem written_form_stable_listed :
    let j : Json := .array [.null, .string "listed",
      .array [.array [.string "a", .string "merge", .null],
        .object [("id", .string "b"), ("note", .null), ("type", .string "split")]],
      .array [.array [.string "a", .string "b", .string "x"]]]
    let w : Workflow := ⟨none, some "listed", [⟨"a", "merge", .null⟩, ⟨"b", "split", .object []⟩],
      [⟨"a", "b", "x", "input"⟩]⟩
    Workflow.read j = .ok w ∧ Workflow.read w.toJson = Workflow.read j ∧
      (Workflow.read w.toJson).map toJson = .ok w.toJson := by
  intro j w
  have hread : Workflow.read j = .ok w := rfl
  exact ⟨hread, written_form_stable.2 j w hread⟩

end Workflow

end Dataflow
